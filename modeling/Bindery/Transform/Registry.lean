import Bindery.Value.Compare
import Bindery.Value.Printer

/-!
# Registered transforms

A table of transforms by name, in the order in which names came up first. A name is any value that
can be a key. It stays with the definition it was registered for: the same definition, from a module
that is loaded again, takes the place of the one before, and any other one is refused.
-/

namespace Bindery

/-- Where a transform is defined. -/
structure Definition where
  /-- The module. -/
  module : String
  /-- The name of the class in the module. -/
  name : String
deriving DecidableEq, Repr, Inhabited

/-- The definition as one name. -/
def Definition.text (d : Definition) : String :=
  d.module ++ "." ++ d.name

/-- The module of what is always there. -/
def Definition.builtinModule : String := "builtins"

/-- The definition as its class is shown. What is always there is shown without its module. -/
def Definition.shown (d : Definition) : String :=
  "<class '" ++ (if d.module = builtinModule then d.name else d.text) ++ "'>"

/-- The name a definition is registered under: the name that is asked for, if it counts as true, or
else the name of the class. -/
def Definition.registeredName (d : Definition) (asked : Value) : Value :=
  if asked.truthy then asked else .text d.name

/-- Why a registration is refused. -/
inductive RegistryFault where
  /-- What is registered is no transform. -/
  | notTransform (d : Definition)
  /-- Another definition has the name, which is shown. -/
  | taken (shown : String) (owner : Definition)
  /-- The name cannot be a key. -/
  | misfit (m : Misfit)
deriving DecidableEq, Repr

namespace RegistryFault

/-- The message of a refusal. -/
def message : RegistryFault → String
  | notTransform d => d.shown ++ " is not a LibraryTransform subclass"
  | taken shown owner =>
    "Transform name '" ++ shown ++ "' is already registered by " ++ owner.text
  | misfit m => m.message

/-- The label of a refusal. -/
def label : RegistryFault → String
  | notTransform _ => "TypeError"
  | taken .. => "LoadError"
  | misfit m => m.label

/-- A refusal as it is reported. -/
def report (f : RegistryFault) : Report :=
  ⟨f.label, f.message⟩

end RegistryFault

/-- What can be registered, with contents of any type. -/
structure Candidate (α : Type) where
  /-- Where it is defined. -/
  definition : Definition
  /-- Whether it is a transform. -/
  isTransform : Bool
  /-- What it is. -/
  content : α
deriving Repr, Inhabited

/-- Registered transforms by name. -/
abbrev Registry (α : Type) := List (Value × Candidate α)

namespace Registry

variable {α : Type}

/-- The transform of a name. -/
def get? (r : Registry α) (name : Value) : Option (Candidate α) :=
  (r.find? (·.1.same name)).map (·.2)

/-- Whether a name is registered. -/
def contains (r : Registry α) (name : Value) : Bool :=
  (r.get? name).isSome

/-- The transform of a name that has to be a key. -/
def lookUp (r : Registry α) (name : Value) : Except RegistryFault (Option (Candidate α)) :=
  match name.keyFault? with
  | some m => .error (.misfit m)
  | none => .ok (r.get? name)

/-- The registered names, in order. -/
def names (r : Registry α) : List Value :=
  r.map (·.1)

/-- The table with a transform under a name. A known name keeps its place and its form. -/
def put (r : Registry α) (name : Value) (c : Candidate α) : Registry α :=
  if r.contains name then r.map fun e => if e.1.same name then (e.1, c) else e else r ++ [(name, c)]

/-- A name that is known brings no further name into the table. -/
theorem names_put_of_contains (r : Registry α) (name : Value) (c : Candidate α)
    (h : r.contains name = true) : names (put r name c) = names r := by
  simp only [put, h, if_true, names, List.map_map]
  refine List.map_congr_left fun e _ => ?_
  simp only [Function.comp_apply]
  split <;> rfl

/-- Registers a transform under a name. -/
def register (r : Registry α) (name : Value) (c : Candidate α) :
    Except RegistryFault (Registry α) :=
  if !c.isTransform then .error (.notTransform c.definition)
  else
    match r.lookUp name with
    | .error f => .error f
    | .ok none => .ok (r.put name c)
    | .ok (some owner) =>
      if owner.definition = c.definition then .ok (r.put name c)
      else .error (.taken name.shown owner.definition)

/-- Registers transforms one after the other. -/
def registerAll (r : Registry α) (cs : List (Value × Candidate α)) :
    Except RegistryFault (Registry α) :=
  cs.foldlM (fun r c => r.register c.1 c.2) r

/-- The transforms that a module defines. -/
def definedIn (r : Registry α) (module : String) : Registry α :=
  r.filter (·.2.definition.module == module)

end Registry

end Bindery
