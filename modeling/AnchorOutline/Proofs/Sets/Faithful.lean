import AnchorOutline.Proofs.Sets.Extent

/-!
# Stores that make nothing up

A store may fail whenever it is used. But what it gives is what it has, and it has nothing but what it
had before and what it was told to take. A list in memory is such a store, and so is a config file,
whatever else is in the file and whatever fails while the file is read or replaced.

* `SetStore.Faithful` : the law, for every way in which a use of the store may go;
* `SetStore.faithful_memory`, `SetStore.Faithful.refusing` : lists, and stores that refuse;
* `ConfigFile.ToFile.given_of_prepared`, `ConfigFile.ToFile.sets_of_replaced` : what a file gives
  after a failure, and after it was replaced;
* `SetStore.faithful_configFile` : config files.
-/

namespace AnchorOutline

open AnchorOutline.Action

variable {σ : Type}

/-- What a store has, if that can be read at all, is what it gives, and is only changed by what it is
told to take. This is said of all states and files that are valid, and they stay so. -/
structure SetStore.Faithful (store : SetStore σ) (valid : σ → Tree → Prop)
    (held : σ → Tree → Option (List PatternSet)) : Prop where
  get : ∀ {s t result s' t'}, valid s t → MayRun (store.get s) t (some (result, s')) t' →
    valid s' t' ∧ (∀ sets, result = .ok sets → held s t = some sets) ∧
      ∀ sets, held s' t' = some sets → held s t = some sets
  put : ∀ {new s t result s' t'}, valid s t → MayRun (store.put new s) t (some (result, s')) t' →
    valid s' t' ∧ ∀ sets, held s' t' = some sets →
      held s t = some sets ∨ result = .ok () ∧ sets = new

namespace SetStore

/-! ## Lists -/

theorem faithful_memory : memory.Faithful (fun _ _ => True) fun sets _ => some sets where
  get _ hrun := by
    obtain ⟨hresult, rfl⟩ := Interaction.MayRun.of_pure hrun
    cases hresult
    exact ⟨trivial, fun sets h => congrArg some (Except.ok.inj h), fun sets h => h⟩
  put _ hrun := by
    obtain ⟨hresult, rfl⟩ := Interaction.MayRun.of_pure hrun
    cases hresult
    exact ⟨trivial, fun sets h => .inr ⟨rfl, (Option.some.inj h).symm⟩⟩

variable {store : SetStore σ} {valid : σ → Tree → Prop} {held : σ → Tree → Option (List PatternSet)}

theorem Faithful.refusing (h : store.Faithful valid held) (onGet onPut : Option String) :
    (store.refusing onGet onPut).Faithful valid held where
  get hvalid hrun := by
    cases onGet with
    | none => exact h.get hvalid hrun
    | some message =>
      obtain ⟨hresult, rfl⟩ := Interaction.MayRun.of_pure hrun
      cases hresult
      exact ⟨hvalid, nofun, fun sets hsets => hsets⟩
  put hvalid hrun := by
    cases onPut with
    | none => exact h.put hvalid hrun
    | some message =>
      obtain ⟨hresult, rfl⟩ := Interaction.MayRun.of_pure hrun
      cases hresult
      exact ⟨hvalid, fun sets hsets => .inl hsets⟩

end SetStore

/-! ## Config files -/

namespace ConfigFile

variable {path text : String} {p : Path} {t t' : Tree} {c c' : Config}

/-- Names come to a file that is there if the directories above it are, unless one of them is too long
or more is behind the file. -/
theorem walk_of_directories_above {here names : List String} {bytes : ByteArray}
    (rest : List String) (hback : ".." ∉ names) (hdot : "." ∉ names) (hnames : names ≠ [])
    (habove : ∀ q ∈ Tree.placesFrom here names, q ≠ here ++ names → t.entry? q = some .directory)
    (hfile : t.entry? (here ++ names) = some (.file bytes)) :
    t.walk here (names ++ rest) = .ok (here ++ names, some (.file bytes)) ∨
      ∃ e, e ≠ .notFound ∧ t.walk here (names ++ rest) = .error e := by
  fun_induction Tree.placesFrom here names with
  | case1 => exact absurd rfl hnames
  | case2 here names ih => simp at hdot
  | case3 here names ih => simp at hback
  | case4 here name names hdot' hdots ih =>
    rw [List.cons_append, Tree.walk_cons hdot' hdots]
    split
    next => exact .inr ⟨.nameTooLong, by simp, rfl⟩
    next =>
      cases names with
      | nil =>
        rw [hfile, List.nil_append]
        cases rest with
        | nil => exact .inl rfl
        | cons name' rest => exact .inr ⟨.notDirectory, by simp, rfl⟩
      | cons name' names =>
        have hhere : t.entry? (here ++ [name]) = some .directory :=
          habove _ List.mem_cons_self (by simp)
        have hrest := ih (by simp_all) (by simp_all) (by simp)
          (fun q hq hne => habove q (List.mem_cons_of_mem _ hq) (by simpa using hne))
          (by simpa using hfile)
        rw [hhere]
        simpa using hrest

/-- A file that is there, with its directories, is read or there is some other reason to fail than that
it is not there. -/
theorem ToFile.read_of_attached (h : ToFile p) (hattached : Attached p t) {bytes : ByteArray}
    (hfile : t.entry? p.names = some (.file bytes)) :
    t.read p = .ok bytes ∨ ∃ e, e ≠ .notFound ∧ t.read p = .error e := by
  have habove := hattached (by simp [hfile])
  have hlocate : t.locate p = .ok (p.names, some (.file bytes)) ∨
      ∃ e, e ≠ .notFound ∧ t.locate p = .error e := by
    unfold Tree.locate
    have hempty : p.isEmpty = false := by
      have := h.names
      simp [Path.isEmpty, this]
    rw [hempty, if_neg (by simp)]
    split
    next => exact .inr ⟨.nullInName, by simp, rfl⟩
    next =>
      exact walk_of_directories_above _ h.straight.back h.straight.dot h.names habove hfile
  rcases hlocate with hlocate | ⟨e, he, hlocate⟩
  · rw [Tree.read, hlocate]
    by_cases hslash : p.ending = .slash
    · exact .inr ⟨.notDirectory, by simp, if_pos hslash⟩
    · exact .inl (if_neg hslash)
  · exact .inr ⟨e, he, by rw [Tree.read, hlocate]; rfl⟩

theorem ToFile.given_of_none (h : ToFile (Path.ofString path))
    (hnone : t.entry? (Path.ofString path).names = none) (hgiven : given path t = .ok c) :
    c = {} := by
  rw [given] at hgiven
  cases hread : t.read (Path.ofString path) with
  | ok bytes =>
    obtain ⟨names, hlocate, -⟩ := Tree.read_eq_ok.mp hread
    obtain rfl := h.straight.names_of_locate hlocate
    obtain ⟨-, -, hentry⟩ := Tree.mem_places_of_locate hlocate (by simp)
    rw [hnone] at hentry
    cases hentry
  | error e =>
    rw [hread] at hgiven
    cases e <;> cases hgiven
    rfl

/-- After a failure the file gives what it gave, if it gives anything. -/
theorem ToFile.given_of_prepared (h : ToFile (Path.ofString path))
    (hattached : Attached (Path.ofString path) t) (hprepared : Prepared (Path.ofString path) t t')
    (hgiven : given path t = .ok c) (hgiven' : given path t' = .ok c') : c' = c := by
  cases hentry : t.entry? (Path.ofString path).names with
  | none =>
    have hentry' : t'.entry? (Path.ofString path).names = none :=
      (h.entry?_of_prepared hprepared).trans hentry
    rw [h.given_of_none hentry hgiven, h.given_of_none hentry' hgiven']
  | some e =>
    have habove := hattached (by simp [hentry])
    have hagree : t.Agrees (· ∈ (Path.ofString path).places) t' := by
      intro q hq
      by_cases hne : q = (Path.ofString path).names
      · rw [hne, h.entry?_of_prepared hprepared]
      · have hdirectory := habove q hq hne
        rw [hdirectory, h.directory_of_prepared hprepared hq hdirectory]
    rw [given_congr hagree, hgiven'] at hgiven
    exact Except.ok.inj hgiven

/-- A file that was replaced gives the new sets, if it gives anything. -/
theorem ToFile.sets_of_replaced (h : ToFile (Path.ofString path))
    (hattached : Attached (Path.ofString path) t')
    (hreplaced : Replaced (Path.ofString path) c.text t t') (hgiven : given path t' = .ok c') :
    c'.sets = c.sets := by
  rw [given] at hgiven
  rcases h.read_of_attached hattached hreplaced.file with hread | ⟨e, he, hread⟩
  · rw [hread, fileText_toUTF8, configOf, parse, Json.mapError_eq_ok] at hgiven
    exact Config.sets_of_parse_text hgiven
  · rw [hread] at hgiven
    cases e <;> first | exact absurd rfl he | cases hgiven

theorem eq_of_mayRun_putSets {e : StoreError} (hgiven : given path t = .error e)
    {sets : List PatternSet} {r : Option (Except StoreError Unit)}
    (hrun : MayRun (putSets path sets) t r t') : t' = t := by
  rw [putSets] at hrun
  rcases hrun.of_bind.symm with ⟨rfl, hread⟩ | ⟨result, t₁, hread, hrest⟩
  · exact (mayRun_read hread).1
  obtain ⟨rfl, hread⟩ := mayRun_read hread
  cases result with
  | error e' => exact hrest.of_pure.2
  | ok config =>
    rw [hread config rfl] at hgiven
    cases hgiven

end ConfigFile

/-! ## Stores in config files -/

namespace SetStore

open ConfigFile

def filed (path : String) (t : Tree) : Option (List PatternSet) :=
  (given path t).toOption.map Config.sets

theorem filed_eq_some {path : String} {t : Tree} {sets : List PatternSet} :
    filed path t = some sets ↔ ∃ c, given path t = .ok c ∧ c.sets = sets := by
  unfold filed
  cases given path t <;> simp [Except.toOption]

/-- Whatever a config file holds, its store makes nothing up. -/
theorem faithful_configFile {path : String} (h : ToFile (Path.ofString path)) :
    (configFile path).Faithful (fun _ t => Attached (Path.ofString path) t)
      fun _ t => filed path t where
  get hattached hrun := by
    obtain ⟨r, hsets, hr⟩ := Interaction.MayRun.of_map hrun
    obtain ⟨r', hread, hr'⟩ := Interaction.MayRun.of_map hsets
    obtain ⟨rfl, hgiven⟩ := mayRun_read hread
    refine ⟨hattached, fun sets hresult => ?_, fun sets hsets => hsets⟩
    subst hresult
    rcases r with _ | e | sets'
    · cases hr
    · cases hr
    · cases hr
      rcases r' with _ | e | c
      · cases hr'
      · cases hr'
      · cases hr'
        exact filed_eq_some.mpr ⟨c, hgiven c rfl, rfl⟩
  put hattached hrun := by
    obtain ⟨r, hput, hr⟩ := Interaction.MayRun.of_map hrun
    have hattached' := h.attached_of_mayRun hput hattached
    refine ⟨hattached', fun sets hsets => ?_⟩
    obtain ⟨c', hgiven', rfl⟩ := filed_eq_some.mp hsets
    cases hgiven : given path _ with
    | error e =>
      obtain rfl := eq_of_mayRun_putSets hgiven hput
      exact .inl hsets
    | ok c =>
      rcases h.mayRun_putSets hput with ⟨hprepared, -⟩ | ⟨config, hgiven₁, hreplaced, hnever⟩
      · obtain rfl := h.given_of_prepared hattached hprepared hgiven hgiven'
        exact .inl (filed_eq_some.mpr ⟨c', hgiven, rfl⟩)
      · refine .inr ⟨?_, h.sets_of_replaced hattached' hreplaced hgiven'⟩
        rcases r with _ | e | _
        · cases hr
        · exact absurd rfl (hnever e)
        · cases hr
          rfl

end SetStore

end AnchorOutline
