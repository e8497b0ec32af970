import AnchorOutline.Outline.Registry
import AnchorOutline.Proofs.Outline.Sections

/-!
# What a table of providers answers

A request goes to the registrations whose selector has the document's scheme, in order. The lenient
request leaves out every provider with a pattern that is refused; the strict one fails with the
first refused pattern of the first such provider. Both depend on what compiles, and that on the
patterns alone, so the strict request has symbols for all texts or for none.

* `Document.hasScheme_iff` : the scheme, told by what stands before the first colon;
* `mapM_eq_error_iff` : a list is gone through up to the first element that fails;
* `Provider.compiles`, `Provider.found` : whether a provider has symbols at all, and which;
* `Registry.provide_and_tryProvide` : both requests, for every engine, table and document.
-/

namespace AnchorOutline

/-! ## Schemes -/

namespace Document

/-- Whether a text is what stands before the first colon of an address; without a colon, it has to
be the word for what was never saved. -/
def HasScheme (uri scheme : String) : Prop :=
  (∃ rest, uri.toList = scheme.toList ++ ':' :: rest ∧ ':' ∉ scheme.toList) ∨
    (':' ∉ uri.toList ∧ scheme = "untitled")

theorem scheme_of_colon {d : Document} {before rest : List Char}
    (huri : d.uri.toList = before ++ ':' :: rest) (hbefore : ':' ∉ before) :
    d.scheme = String.ofList before := by
  have hpos : ∀ c ∈ before, (c != ':') = true := by
    intro c hc
    simpa using fun h : c = ':' => hbefore (h ▸ hc)
  have htake : (before ++ ':' :: rest).takeWhile (· != ':') = before := by
    rw [List.takeWhile_append_of_pos hpos, List.takeWhile_cons_of_neg (by simp), List.append_nil]
  simp [scheme, huri, htake]

theorem scheme_of_no_colon {d : Document} (h : ':' ∉ d.uri.toList) : d.scheme = "untitled" := by
  simp [scheme, h]

theorem hasScheme_iff (d : Document) (scheme : String) :
    HasScheme d.uri scheme ↔ d.scheme = scheme := by
  constructor
  · rintro (⟨rest, huri, hnot⟩ | ⟨hnot, rfl⟩)
    · rw [scheme_of_colon huri hnot, String.ofList_toList]
    · exact scheme_of_no_colon hnot
  · rintro rfl
    by_cases hcolon : ':' ∈ d.uri.toList
    · obtain ⟨before, rest, huri, hbefore⟩ := List.eq_append_cons_of_mem hcolon
      rw [scheme_of_colon huri hbefore]
      exact .inl ⟨rest, by simpa using huri, by simpa using hbefore⟩
    · exact .inr ⟨hcolon, scheme_of_no_colon hcolon⟩

end Document

/-! ## The first that fails -/

theorem map_eq_error_iff {ε α β : Type} {f : α → β} {x : Except ε α} {e : ε} :
    f <$> x = .error e ↔ x = .error e := by
  cases x <;> simp [Functor.map, Except.map]

theorem isOk_map {ε α β : Type} (f : α → β) (x : Except ε α) : (f <$> x).isOk = x.isOk := by
  cases x <;> rfl

theorem isOk_mapM {ε α β : Type} (f : α → Except ε β) (xs : List α) :
    (xs.mapM f).isOk = xs.all fun x => (f x).isOk := by
  induction xs with
  | nil => rfl
  | cons x xs ih =>
    rw [List.mapM_cons, List.all_cons, ← ih]
    cases f x with
    | error e => rfl
    | ok b => cases xs.mapM f <;> rfl

theorem exists_split_cons_iff {α : Type} {P Q : α → Prop} {x : α} {xs : List α} :
    (∃ before y after, x :: xs = before ++ y :: after ∧ (∀ z ∈ before, P z) ∧ Q y) ↔
      Q x ∨ P x ∧ ∃ before y after, xs = before ++ y :: after ∧ (∀ z ∈ before, P z) ∧ Q y := by
  constructor
  · rintro ⟨before, y, after, hsplit, hbefore, hy⟩
    cases before with
    | nil =>
      obtain ⟨rfl, -⟩ := List.cons.inj hsplit
      exact .inl hy
    | cons z before =>
      obtain ⟨rfl, rfl⟩ := List.cons.inj hsplit
      obtain ⟨hx, hbefore⟩ := List.forall_mem_cons.mp hbefore
      exact .inr ⟨hx, before, y, after, rfl, hbefore, hy⟩
  · rintro (hx | ⟨hx, before, y, after, rfl, hbefore, hy⟩)
    · exact ⟨[], x, xs, rfl, by simp, hx⟩
    · exact ⟨x :: before, y, after, rfl, List.forall_mem_cons.mpr ⟨hx, hbefore⟩, hy⟩

theorem mapM_eq_error_iff {ε α β : Type} (f : α → Except ε β) (e : ε) (xs : List α) :
    xs.mapM f = .error e ↔
      ∃ before x after, xs = before ++ x :: after ∧ (∀ y ∈ before, (f y).isOk = true) ∧
        f x = .error e := by
  induction xs with
  | nil => simp [pure, Except.pure]
  | cons x xs ih =>
    rw [List.mapM_cons, exists_split_cons_iff, ← ih]
    cases hx : f x with
    | error reason => simp [Bind.bind, Except.bind, Except.isOk, Except.toBool]
    | ok b =>
      have hrest : (do let b ← Except.ok b; let bs ← xs.mapM f; pure (b :: bs)) = .error e ↔
          xs.mapM f = .error e := map_eq_error_iff (f := (b :: ·))
      rw [hrest]
      simp [Except.isOk, Except.toBool]

/-! ## Providers -/

namespace Provider

variable (engine : Regex.Engine) (p : Provider) (d : Document)

def compiles : Bool := p.patterns.all fun pattern => (engine pattern).isOk

/-- The symbols of the sections that the patterns give to a document, each with the document's
address. A pattern that does not compile is taken for one that finds nothing. -/
def found : List SymbolInformation :=
  let m : Matcher := ⟨p.patterns.map fun pattern => (engine pattern).toOption.getD fun _ => none⟩
  ((m.anchorLines d.lines).flatMap (m.sectionAt d.lines)).map fun s =>
    ⟨s.name, s.name, d.uri, s.range⟩

/-- Whether a refusal is that of the first pattern that does not compile. -/
def FirstRefused (e : InvalidPattern) : Prop :=
  ∃ earlier later, p.patterns = earlier ++ e.pattern :: later ∧
    (∀ pattern ∈ earlier, (engine pattern).isOk = true) ∧ engine e.pattern = .error e.source

variable {engine p}

theorem isOk_finder (pattern : String) :
    (Matcher.finder engine pattern).isOk = (engine pattern).isOk := by
  unfold Matcher.finder
  cases engine pattern <;> rfl

theorem finder_eq_error_iff {pattern : String} {e : InvalidPattern} :
    Matcher.finder engine pattern = .error e ↔
      pattern = e.pattern ∧ engine pattern = .error e.source := by
  unfold Matcher.finder
  cases h : engine pattern with
  | error source =>
    cases e
    simp [Except.mapError]
  | ok find => simp [Except.mapError]

theorem symbols_of_compiles (h : p.compiles engine = true) :
    p.symbols engine d = .ok (p.found engine d) := by
  have hcompile : ∀ pattern ∈ p.patterns,
      engine pattern = .ok ((engine pattern).toOption.getD fun _ => none) :=
    fun pattern hp => eq_ok_of_isOk _ (List.all_eq_true.mp h pattern hp)
  have hextract := (extract_eq_sections engine
    (fun pattern => (engine pattern).toOption.getD fun _ => none) p.patterns d.lines hcompile).1
  rw [symbols, hextract]
  rfl

theorem symbols_eq_error_iff (e : InvalidPattern) :
    p.symbols engine d = .error e ↔ p.FirstRefused engine e := by
  have hcompiling : p.symbols engine d = .error e ↔
      p.patterns.mapM (Matcher.finder engine) = .error e :=
    map_eq_error_iff.trans (map_eq_error_iff.trans map_eq_error_iff)
  rw [hcompiling, mapM_eq_error_iff]
  simp only [isOk_finder, finder_eq_error_iff]
  constructor
  · rintro ⟨earlier, pattern, later, hpatterns, hearlier, rfl, hrefused⟩
    exact ⟨earlier, later, hpatterns, hearlier, hrefused⟩
  · rintro ⟨earlier, later, hpatterns, hearlier, hrefused⟩
    exact ⟨earlier, e.pattern, later, hpatterns, hearlier, rfl, hrefused⟩

theorem isOk_symbols : (p.symbols engine d).isOk = p.compiles engine := by
  have hcompiling : (p.symbols engine d).isOk = (p.patterns.mapM (Matcher.finder engine)).isOk :=
    (isOk_map _ _).trans ((isOk_map _ _).trans (isOk_map _ _))
  simp only [hcompiling, isOk_mapM, isOk_finder, compiles]

theorem symbolsOrNone_eq :
    p.symbolsOrNone engine d = if p.compiles engine then p.found engine d else [] := by
  unfold symbolsOrNone
  split
  next h =>
    rw [symbols_of_compiles d h]
    rfl
  next h =>
    cases hs : p.symbols engine d with
    | error e => rfl
    | ok found =>
      rw [← isOk_symbols d, hs] at h
      exact absurd rfl h

theorem mapM_symbols_eq_error_iff (ps : List Provider) (e : InvalidPattern) :
    ps.mapM (·.symbols engine d) = .error e ↔
      ∃ before p after, ps = before ++ p :: after ∧
        (∀ q ∈ before, q.compiles engine = true) ∧ p.FirstRefused engine e := by
  simp only [mapM_eq_error_iff, isOk_symbols, symbols_eq_error_iff]

end Provider

/-! ## Requests -/

namespace Registry

variable (engine : Regex.Engine) (r : Registry)

/-- The providers registered for a scheme, in the order of registration. -/
def answering (scheme : String) : List Provider :=
  (r.entries.filter fun e => e.selector.schemes.contains scheme).map Registration.provider

theorem provide_eq (d : Document) :
    r.provide engine d =
      ((r.matching d).filter (·.compiles engine)).flatMap (·.found engine d) := by
  unfold provide
  induction r.matching d with
  | nil => rfl
  | cons p ps ih =>
    rw [List.flatMap_cons, Provider.symbolsOrNone_eq, List.filter_cons, ih]
    split <;> simp

theorem isOk_tryProvide (d : Document) :
    (r.tryProvide engine d).isOk = (r.matching d).all (·.compiles engine) := by
  have hall := isOk_mapM (fun p : Provider => p.symbols engine d) (r.matching d)
  simp only [Provider.isOk_symbols] at hall
  exact (isOk_map _ _).trans hall

/-- Nothing is left out when everything compiles. -/
theorem tryProvide_of_compiles {d : Document}
    (h : ∀ p ∈ r.matching d, p.compiles engine = true) :
    r.tryProvide engine d = .ok (r.provide engine d) := by
  have hfilter : (r.matching d).filter (·.compiles engine) = r.matching d :=
    List.filter_eq_self.mpr h
  have hmapM : (r.matching d).mapM (·.symbols engine d) =
      .ok ((r.matching d).map (·.found engine d)) :=
    mapM_eq_ok fun p hp => Provider.symbols_of_compiles d (h p hp)
  rw [provide_eq, hfilter, tryProvide, hmapM]
  rfl

theorem tryProvide_eq_ok_iff (d : Document) (symbols : List SymbolInformation) :
    r.tryProvide engine d = .ok symbols ↔
      (∀ p ∈ r.matching d, p.compiles engine = true) ∧ symbols = r.provide engine d := by
  constructor
  · intro h
    have hok := r.isOk_tryProvide engine d
    rw [h] at hok
    have hall := List.all_eq_true.mp hok.symm
    rw [r.tryProvide_of_compiles engine hall] at h
    exact ⟨hall, (Except.ok.inj h).symm⟩
  · rintro ⟨hall, rfl⟩
    exact r.tryProvide_of_compiles engine hall

theorem tryProvide_eq_error_iff (d : Document) (e : InvalidPattern) :
    r.tryProvide engine d = .error e ↔
      ∃ before p after, r.matching d = before ++ p :: after ∧
        (∀ q ∈ before, q.compiles engine = true) ∧ p.FirstRefused engine e := by
  unfold tryProvide
  rw [← Provider.mapM_symbols_eq_error_iff]
  exact map_eq_error_iff

/-- Both requests, at any address. Which providers have symbols, and what the strict request fails
with, is the same for all texts that may stand there. -/
theorem provide_and_tryProvide (uri : String) :
    ∃ scheme, Document.HasScheme uri scheme ∧
      (∀ text, r.provide engine ⟨uri, text⟩ =
        ((r.answering scheme).filter (·.compiles engine)).flatMap (·.found engine ⟨uri, text⟩)) ∧
      (∀ text symbols, r.tryProvide engine ⟨uri, text⟩ = .ok symbols ↔
        (∀ p ∈ r.answering scheme, p.compiles engine = true) ∧
          symbols = r.provide engine ⟨uri, text⟩) ∧
      (∀ text e, r.tryProvide engine ⟨uri, text⟩ = .error e ↔
        ∃ before p after, r.answering scheme = before ++ p :: after ∧
          (∀ q ∈ before, q.compiles engine = true) ∧ p.FirstRefused engine e) ∧
      (∀ r' : Registry, r'.answering scheme = r.answering scheme → ∀ text,
        r'.provide engine ⟨uri, text⟩ = r.provide engine ⟨uri, text⟩ ∧
          r'.tryProvide engine ⟨uri, text⟩ = r.tryProvide engine ⟨uri, text⟩) := by
  refine ⟨(Document.mk uri "").scheme, (Document.hasScheme_iff ⟨uri, ""⟩ _).mpr rfl, ?_, ?_, ?_, ?_⟩
  · intro text
    exact r.provide_eq engine ⟨uri, text⟩
  · intro text symbols
    exact r.tryProvide_eq_ok_iff engine ⟨uri, text⟩ symbols
  · intro text e
    exact r.tryProvide_eq_error_iff engine ⟨uri, text⟩ e
  · intro r' h text
    have hmatching : r'.matching ⟨uri, text⟩ = r.matching ⟨uri, text⟩ := h
    unfold provide tryProvide
    rw [hmatching]
    exact ⟨rfl, rfl⟩

end Registry

end AnchorOutline
