import AnchorOutline.Terminal.Basic
import Mathlib

/-!
# Printing what fits

Output may have room for a number of bytes only. A text that fits is printed as a whole, and this is the
only way to print without a failure.

* `Terminal.Output.Fits` : whether there is room for a text;
* `Terminal.after` : the terminal when a text has been printed;
* `Terminal.print_of_fits`, `Terminal.fits_of_print` : a text is printed just if it fits;
* `Terminal.print_append` : a text is printed as its parts are.
-/

namespace AnchorOutline.Terminal

variable {t : Terminal} {o : Output} {a b text : String}

/-- Whether there is room for a text. -/
def Output.Fits (o : Output) (text : String) : Prop :=
  ∀ room, o.room = some room → text.utf8ByteSize ≤ room

/-- The output when a text has been written as a whole. -/
def Output.append (o : Output) (text : String) : Output :=
  ⟨o.text ++ text, o.room.map (· - text.utf8ByteSize)⟩

/-- The terminal when a text has been printed as a whole. -/
def after (t : Terminal) (text : String) : Terminal := { t with output := t.output.append text }

theorem Output.fits_of_room (h : o.room = none) (text : String) : o.Fits text := by
  intro room hroom
  rw [h] at hroom
  cases hroom

theorem Output.append_append (o : Output) (a b : String) :
    (o.append a).append b = o.append (a ++ b) := by
  simp [append, String.append_assoc, Nat.sub_sub, Function.comp_def]

theorem Output.fits_append : o.Fits (a ++ b) ↔ o.Fits a ∧ (o.append a).Fits b := by
  unfold Fits append
  rcases o.room with _ | room
  · simp
  · simp only [Option.some.injEq, forall_eq', Option.map_some, String.utf8ByteSize_append]
    omega

theorem print_of_fits (h : t.output.Fits text) : t.print text = (.ok (), t.after text) := by
  rw [print, after, Output.append]
  unfold Output.write
  cases hroom : t.output.room with
  | none => rfl
  | some room =>
    dsimp only
    rw [if_pos (h room hroom)]
    rfl

theorem fits_of_print (h : (t.print text).1 = .ok ()) : t.output.Fits text := by
  intro room hroom
  by_contra hfits
  rw [print, Output.write, hroom] at h
  dsimp only at h
  rw [if_neg hfits] at h
  cases h

theorem text_of_print (h : (t.print text).1 = .ok ()) :
    (t.print text).2.output.text = t.output.text ++ text := by
  rw [print_of_fits (fits_of_print h)]
  rfl

/-! ## Texts in parts -/

variable {first : List Char} {room : Nat}

theorem fit_append (h : (String.ofList first).utf8ByteSize ≤ room) (cs : List Char) :
    fit room (first ++ cs) = first ++ fit (room - (String.ofList first).utf8ByteSize) cs := by
  induction first generalizing room with
  | nil => simp
  | cons c first ih =>
    rw [String.ofList_cons, String.utf8ByteSize_append, String.utf8ByteSize_singleton] at h ⊢
    rw [List.cons_append, fit, if_pos (by omega), ih (by omega), List.cons_append, Nat.sub_sub]

theorem fit_append_of_lt (h : room < (String.ofList first).utf8ByteSize) (cs : List Char) :
    fit room (first ++ cs) = fit room first := by
  induction first generalizing room with
  | nil => simp at h
  | cons c first ih =>
    rw [String.ofList_cons, String.utf8ByteSize_append, String.utf8ByteSize_singleton] at h
    rw [List.cons_append, fit, fit]
    split_ifs with hfits hfull
    · rw [ih (by omega)]
    · rfl
    · rfl

theorem print_empty (t : Terminal) : t.print "" = (.ok (), t) := by
  have hfits : t.output.Fits "" := fun room _ => Nat.zero_le room
  rw [print_of_fits hfits]
  simp [after, Output.append]

/-- A text that does not fit is printed in part, and no room is left. -/
theorem print_of_room_lt (hroom : t.output.room = some room)
    (hfull : room < text.utf8ByteSize) :
    t.print text = (.error outputClosed,
      { t with output := ⟨t.output.text ++ String.ofList (fit room text.toList), some 0⟩ }) := by
  have hnot : ¬text.utf8ByteSize ≤ room := Nat.not_le_of_lt hfull
  simp only [print, Output.write, hroom, if_neg hnot]
  rfl

/-- A text is printed as its parts are, one after the other. -/
theorem print_append (a b : String) (t : Terminal) :
    t.print (a ++ b) = match t.print a with
      | (.error e, t) => (.error e, t)
      | (.ok (), t) => t.print b := by
  by_cases hboth : t.output.Fits (a ++ b)
  · obtain ⟨hfirst, hlast⟩ := Output.fits_append.mp hboth
    rw [print_of_fits hboth, print_of_fits hfirst]
    dsimp only
    rw [print_of_fits hlast, after, after, after, Output.append_append]
  · obtain ⟨room, hroom, hfull⟩ : ∃ room, t.output.room = some room ∧ room < (a ++ b).utf8ByteSize := by
      simpa [Output.Fits] using hboth
    rw [print_of_room_lt hroom hfull, String.toList_append]
    by_cases hfirst : a.utf8ByteSize ≤ room
    · have hfits : t.output.Fits a := fun room' hroom' => by
        rw [hroom] at hroom'
        cases hroom'
        exact hfirst
      have hleft : (t.after a).output.room = some (room - a.utf8ByteSize) := by
        simp [after, Output.append, hroom]
      have hlast : room - a.utf8ByteSize < b.utf8ByteSize := by
        rw [String.utf8ByteSize_append] at hfull
        omega
      rw [print_of_fits hfits]
      dsimp only
      rw [print_of_room_lt hleft hlast, fit_append (by simpa using hfirst)]
      simp [after, Output.append, String.append_assoc]
    · rw [print_of_room_lt hroom (by omega), fit_append_of_lt (by simpa using hfirst)]

end AnchorOutline.Terminal
