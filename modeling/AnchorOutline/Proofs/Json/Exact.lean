import AnchorOutline.Proofs.Json.Values

/-!
# What reading gives

A value that was read is plain, unless there is a double in it: its integers have 64 bits, its objects
are in order, and its brackets are nested no deeper than the reader allowed.

* `Json.Exact` : no number in a value is a double;
* `Json.preserves_readMembers`, `Json.forall_readItems` : what holds of all that is read in brackets;
* `Json.plain_of_readValue` : what was read is plain.
-/

namespace AnchorOutline

/-- No number in a value is a double. -/
inductive Json.Exact : Json → Prop
  | null : Json.Exact .null
  | bool (b : Bool) : Json.Exact (.bool b)
  | integer (n : Int) : Json.Exact (.integer n)
  | string (s : String) : Json.Exact (.string s)
  | array {items : List Json} (h : ∀ x ∈ items, Json.Exact x) : Json.Exact (.array items)
  | object {members : List (String × Json)} (h : ∀ m ∈ members, Json.Exact m.2) :
    Json.Exact (.object members)

theorem of_bind_eq_ok {ε α β : Type} {x : Except ε α} {f : α → Except ε β} {b : β}
    (h : (x >>= f) = .ok b) : ∃ a, x = .ok a ∧ f a = .ok b := by
  cases x with
  | error e => cases h
  | ok a => exact ⟨a, rfl, h⟩

theorem of_map_eq_ok {ε α β : Type} {f : α → β} {x : Except ε α} {b : β} (h : x.map f = .ok b) :
    ∃ a, x = .ok a ∧ f a = b := by
  cases x with
  | error e => cases h
  | ok a => exact ⟨a, rfl, Except.ok.inj h⟩

namespace Json

variable {α σ : Type}

/-! ## Brackets -/

theorem inArray_eq_ok {inside : Except Failure (α × List Char)} {x : α} {rest : List Char} :
    inArray inside = .ok (x, rest) ↔ ∃ cs, inside = .ok (x, cs) ∧ closeArray cs = .ok rest := by
  constructor
  · intro h
    unfold inArray at h
    split at h
    next a cs =>
      obtain ⟨cs', hclose, h⟩ := of_bind_eq_ok h
      cases h
      exact ⟨cs, rfl, hclose⟩
    next => cases h
    next => cases h
  · rintro ⟨cs, rfl, hclose⟩
    rw [inArray, hclose]
    rfl

theorem inObject_eq_ok {inside : Except Failure (α × List Char)} {x : α} {rest : List Char} :
    inObject inside = .ok (x, rest) ↔ ∃ cs, inside = .ok (x, cs) ∧ closeObject cs = .ok rest := by
  constructor
  · intro h
    unfold inObject at h
    split at h
    next a cs =>
      obtain ⟨cs', hclose, h⟩ := of_bind_eq_ok h
      cases h
      exact ⟨cs, rfl, hclose⟩
    next => cases h
    next => cases h
  · rintro ⟨cs, rfl, hclose⟩
    rw [inObject, hclose]
    rfl

theorem forall_readItems {item : Reader α} {P : α → Prop}
    (hitem : ∀ cs x rest, item cs = .ok (x, rest) → P x) {n : Nat} {first : Bool}
    {cs rest : List Char} {xs : List α} (h : readItems item n first cs = .ok (xs, rest)) :
    ∀ x ∈ xs, P x := by
  induction n generalizing first cs rest xs with
  | zero =>
    cases h
    exact nofun
  | succ n ih =>
    rw [readItems] at h
    obtain ⟨⟨more, cs₁⟩, -, h⟩ := of_bind_eq_ok h
    cases more with
    | false =>
      cases h
      exact nofun
    | true =>
      obtain ⟨⟨x, cs₂⟩, hx, h⟩ := of_bind_eq_ok h
      obtain ⟨⟨ys, cs₃⟩, hys, h⟩ := of_bind_eq_ok h
      cases h
      exact List.forall_mem_cons.mpr ⟨hitem _ _ _ hx, ih hys⟩

theorem preserves_readMembers {member : String → σ → Reader σ} {P : σ → Prop}
    (hmember : ∀ key s cs s' rest, P s → member key s cs = .ok (s', rest) → P s') {n : Nat}
    {first : Bool} {s s' : σ} {cs rest : List Char}
    (h : readMembers member n first s cs = .ok (s', rest)) (hs : P s) : P s' := by
  induction n generalizing first s cs with
  | zero =>
    cases h
    exact hs
  | succ n ih =>
    rw [readMembers] at h
    obtain ⟨⟨key?, cs₁⟩, -, h⟩ := of_bind_eq_ok h
    cases key? with
    | none =>
      cases h
      exact hs
    | some key =>
      obtain ⟨⟨s₁, cs₂⟩, hs₁, h⟩ := of_bind_eq_ok h
      exact ih h (hmember key s cs₁ s₁ cs₂ hs hs₁)

/-! ## Members in order -/

theorem mem_insertMember {key : String} {value : Json} {ms : List (String × Json)}
    {m : String × Json} (h : m ∈ insertMember key value ms) : m = (key, value) ∨ m ∈ ms := by
  induction ms with
  | nil => exact .inl (List.mem_singleton.mp h)
  | cons m' ms ih =>
    obtain ⟨k, v⟩ := m'
    rw [insertMember] at h
    split_ifs at h with hlt heq
    · exact List.mem_cons.mp h
    · subst heq
      exact (List.mem_cons.mp h).imp_right (List.mem_cons_of_mem _)
    · rcases List.mem_cons.mp h with rfl | h
      · exact .inr List.mem_cons_self
      · exact (ih h).imp_right (List.mem_cons_of_mem _)

theorem pairwise_insertMember {ms : List (String × Json)} (h : ms.Pairwise (·.1 < ·.1))
    (key : String) (value : Json) : (insertMember key value ms).Pairwise (·.1 < ·.1) := by
  induction ms with
  | nil => exact List.pairwise_singleton _ _
  | cons m ms ih =>
    obtain ⟨k, v⟩ := m
    obtain ⟨hfirst, hrest⟩ := List.pairwise_cons.mp h
    rw [insertMember]
    split_ifs with hlt heq
    · refine List.pairwise_cons.mpr ⟨fun m hm => ?_, h⟩
      rcases List.mem_cons.mp hm with rfl | hm
      · exact hlt
      · exact lt_trans hlt (hfirst m hm)
    · exact List.pairwise_cons.mpr ⟨hfirst, hrest⟩
    · refine List.pairwise_cons.mpr ⟨fun m hm => ?_, ih hrest⟩
      rcases mem_insertMember hm with rfl | hm
      · exact lt_of_le_of_ne (not_lt.mp hlt) (Ne.symm heq)
      · exact hfirst m hm

/-! ## Numbers -/

theorem takeDigits_le {value count : Nat} {cs : List Char} (h : value ≤ largestInteger) :
    (takeDigits value count cs).1 ≤ largestInteger := by
  induction cs generalizing value count with
  | nil => exact h
  | cons c cs ih =>
    rw [takeDigits]
    split_ifs with hc
    · simp only [Bool.and_eq_true, decide_eq_true_eq] at hc
      exact ih hc.2
    · exact h

theorem double_of_doubleOf {negative : Bool} {value : Nat} {exponent : Int} {cs rest : List Char}
    {n : Number} (h : doubleOf negative value exponent cs = .ok (n, rest)) : ∃ bits, n = .double bits := by
  unfold doubleOf at h
  dsimp only at h
  split_ifs at h <;>
  · obtain ⟨scaled, -, h⟩ := of_bind_eq_ok h
    cases h
    exact ⟨_, rfl⟩

theorem double_of_readExponent {negative : Bool} {value : Nat} {exponent : Int}
    {cs rest : List Char} {n : Number} (h : readExponent negative value exponent cs = .ok (n, rest)) :
    ∃ bits, n = .double bits := by
  unfold readExponent at h
  split at h
  split at h
  next => cases h
  next =>
    split at h
    next => cases h
    next =>
      split at h
      next => exact double_of_doubleOf h
      next =>
        split at h
        next => cases h
        next => exact double_of_doubleOf h

theorem double_of_readScale {negative : Bool} {value : Nat} {exponent : Int} {cs rest : List Char}
    {n : Number} (h : readScale negative value exponent cs = .ok (n, rest)) : ∃ bits, n = .double bits := by
  unfold readScale at h
  split at h
  next => exact double_of_readExponent h
  next => exact double_of_readExponent h
  next => exact double_of_doubleOf h

theorem double_of_readFraction {negative : Bool} {value : Nat} {exponent : Int}
    {cs rest : List Char} {n : Number} (h : readFraction negative value exponent cs = .ok (n, rest)) :
    ∃ bits, n = .double bits := by
  unfold readFraction at h
  split at h
  dsimp only at h
  split at h
  next =>
    split at h
    next => exact double_of_readScale h
    next =>
      split at h
      next => cases h
      next => exact double_of_readScale h
  next =>
    split at h
    next => cases h
    next => exact double_of_readScale h

theorem bounds_of_integerOf {negative : Bool} {value : Nat} {cs rest : List Char} {i : Int}
    (hvalue : value ≤ largestInteger) (h : integerOf negative value cs = .ok (.integer i, rest)) :
    -2 ^ 63 ≤ i ∧ i < 2 ^ 64 := by
  have hlargest : value ≤ 2 ^ 64 - 1 := hvalue
  unfold integerOf at h
  split_ifs at h with hsign hzero
  · cases h
    omega
  · cases h
  · cases h
    have hsmall : ¬ (value = 0 ∨ 2 ^ 63 < value) := hzero
    omega

theorem bounds_of_readNumber {negative : Bool} {cs rest : List Char} {i : Int}
    (h : readNumber negative cs = .ok (.integer i, rest)) : -2 ^ 63 ≤ i ∧ i < 2 ^ 64 := by
  have hinteger : ¬ ∃ bits, Number.integer i = .double bits := nofun
  cases cs with
  | nil => cases h
  | cons c cs =>
    have hvalue : (takeDigits 0 0 (c :: cs)).1 ≤ largestInteger := takeDigits_le (Nat.zero_le _)
    rw [readNumber] at h
    split_ifs at h with hdigit hzero
    · cases h
    · cases h
    · split at h
      next value _ rest₁ htake =>
      rw [htake] at hvalue
      split at h
      split at h
      next => exact absurd (double_of_readFraction h) hinteger
      next => exact absurd (double_of_readExponent h) hinteger
      next => exact absurd (double_of_readExponent h) hinteger
      next =>
        split_ifs at h with hdropped
        · exact bounds_of_integerOf hvalue h
        · exact absurd (double_of_doubleOf h) hinteger

/-! ## Values -/

/-- What is known of the members of an object while it is read. -/
def PlainMembers (depth : Nat) (ms : List (String × Json)) : Prop :=
  ms.Pairwise (·.1 < ·.1) ∧ ∀ m ∈ ms, m.2.Exact → Plain depth m.2

theorem PlainMembers.insert {depth : Nat} {ms : List (String × Json)} (h : PlainMembers depth ms)
    (key : String) {value : Json} (hvalue : value.Exact → Plain depth value) :
    PlainMembers depth (insertMember key value ms) := by
  refine ⟨pairwise_insertMember h.1 key value, fun m hm => ?_⟩
  rcases mem_insertMember hm with rfl | hm
  · exact hvalue
  · exact h.2 m hm

/-- The members of an object that was read are in order, and plain if the values behind their keys are. -/
theorem plainMembers_of_readMembers {depth n : Nat} {first : Bool} {cs rest : List Char}
    {ms : List (String × Json)}
    (hvalue : ∀ {cs rest j}, readValue depth cs = .ok (j, rest) → j.Exact → Plain depth j)
    (h : readMembers (readAnyMember depth) n first [] cs = .ok (ms, rest)) : PlainMembers depth ms := by
  refine preserves_readMembers (fun key ms cs ms' rest hms hmember => ?_) h ⟨List.Pairwise.nil, nofun⟩
  obtain ⟨cs₁, -, hmember⟩ := of_bind_eq_ok hmember
  obtain ⟨⟨v, cs₂⟩, hv, hmember⟩ := of_bind_eq_ok hmember
  cases hmember
  exact hms.insert key (hvalue hv)

/-- A value that was read is plain if no number in it is a double. -/
theorem plain_of_readValue {depth : Nat} {cs rest : List Char} {j : Json}
    (h : readValue depth cs = .ok (j, rest)) (hexact : j.Exact) : Plain depth j := by
  induction depth using Nat.strongRecOn generalizing j cs rest with
  | ind depth ih =>
    rw [readValue] at h
    split at h
    next => cases h
    next =>
      obtain ⟨_, -, h⟩ := of_bind_eq_ok h
      cases h
      simp only [Plain]
    next =>
      obtain ⟨_, -, h⟩ := of_bind_eq_ok h
      cases h
      simp only [Plain]
    next =>
      obtain ⟨_, -, h⟩ := of_bind_eq_ok h
      cases h
      simp only [Plain]
    next =>
      obtain ⟨_, -, h⟩ := of_bind_eq_ok h
      cases h
      simp only [Plain]
    next =>
      split at h
      next => cases h
      next => cases h
      next depth hdepth =>
        obtain ⟨⟨xs, cs₁⟩, hxs, h⟩ := of_bind_eq_ok h
        cases h
        obtain ⟨cs₂, hxs, -⟩ := inArray_eq_ok.mp hxs
        have hitems := forall_readItems (P := fun x => x.Exact → Plain depth x)
          (fun cs x rest hx hexact => ih depth (Nat.lt_succ_self _) hx hexact) hxs
        cases hexact with
        | array hexact =>
          exact ⟨Nat.pos_of_ne_zero hdepth, fun x hx => hitems x hx (hexact x hx)⟩
    next =>
      split at h
      next => cases h
      next => cases h
      next depth hdepth =>
        obtain ⟨⟨ms, cs₁⟩, hms, h⟩ := of_bind_eq_ok h
        cases h
        obtain ⟨cs₂, hms, -⟩ := inObject_eq_ok.mp hms
        have hmembers := plainMembers_of_readMembers (ih depth (Nat.lt_succ_self depth)) hms
        cases hexact with
        | object hexact =>
          exact ⟨Nat.pos_of_ne_zero hdepth, hmembers.1, fun m hm => hmembers.2 m hm (hexact m hm)⟩
    next =>
      split at h
      next =>
        obtain ⟨⟨n, cs₁⟩, hn, h⟩ := of_bind_eq_ok h
        cases n with
        | integer i =>
          cases h
          simpa only [Plain] using bounds_of_readNumber hn
        | double bits =>
          cases h
          cases hexact
      next => cases h

end Json

end AnchorOutline
