import Bindery.Declaration.Walk
import Bindery.Pass.Basic

/-!
# Forward declarations

Every forward declaration is merged into the complete class of the same qualified name: it is linked
to that class, hands over its comment where the class has none, and leaves its scope. A class
without definition anywhere stays incomplete.
-/

namespace Bindery

/-- Whether a declaration is a class of which only the name is known. -/
def Decl.isIncomplete (d : Decl) : Bool :=
  d.body.record?.any (·.incomplete)

namespace Library

/-- The complete classes by qualified name, the first of each name. -/
def definitions (lib : Library) : Except GraphFault (List (String × Nat)) := do
  (lib.classes.filter (!·.isIncomplete)).foldlM
    (fun table d => do
      let name ← lib.qualifiedName d
      return if table.any (·.1 == name) then table else table ++ [(name, d.id)])
    []

/-- Links a forward declaration to its definition. -/
def link (lib : Library) (id definition : Nat) : Library :=
  let comment := ((lib.decl? id).map (·.comment)).getD ""
  let complete (r : Record) : Record :=
    { r with definition := some definition, incomplete := false }
  let linked := lib.update id fun d => { d with body := d.body.mapRecord complete }
  if comment = "" then linked
  else
    linked.update definition fun d => if d.comment = "" then { d with comment := comment } else d

end Library

namespace PassM

/-- Merges one class into its definition, if it is a forward declaration. -/
def resolveClass (definitions : List (String × Nat)) (id : Nat) : PassM Library Unit := do
  match (← get).library.decl? id with
  | none => pure ()
  | some d =>
    if d.isIncomplete then
      let name ← look (·.qualifiedName d)
      match definitions.find? (·.1 == name) with
      | none => count fun t => { t with unresolved := t.unresolved ++ [id] }
      | some (_, definition) =>
        edit (modify (·.link id definition))
        edit (Edit.remove id)
        count fun t => { t with resolved := t.resolved ++ [id] }

/-- Merges every forward declaration of the library into its definition. -/
def resolveIncomplete : PassM Library Unit := do
  let definitions ← look (·.definitions)
  let classes := (← get).library.classes.map (·.id)
  classes.forM (resolveClass definitions)

end PassM

end Bindery
