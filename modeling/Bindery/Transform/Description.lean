import Bindery.Declaration.Basic
import Bindery.Transform.Loader

/-!
# Descriptions of transforms

Transforms, and the modules that hold them, are described by objects. A failure is a list of its
kind and what it is made with; a request is a list of its words; a pass is the name of one that
every run makes, or an object for a visitor or a function. Whatever a description leaves out is not
done. A request that there is not, or with the wrong number of arguments, is a fault once it is
made.
-/

namespace Bindery

/-- The failure that a value describes. -/
def Raised.ofValue? : Value → Option Raised
  | .list (kind :: args) => some ⟨kind.asText, args⟩
  | _ => none

/-- What the request of a word is about, if there is such a request. -/
def Request.parameters? (method : String) : Option (List String) :=
  match method with
  | "find_enums" => some []
  | "rename_class" => some ["name", "new_name"]
  | "set_name_of_enum_with_matching_item" => some ["item_name", "new_name"]
  | "find_classes" | "find_class" | "find_namespace" | "find_function" | "ignore_class_with_name"
  | "ignore_function_with_name" | "set_class_as_value_type" | "set_class_as_opaque"
  | "remove_class" => some ["name"]
  | _ => none

/-- The request of a word about `first` and `second`, as far as it is about something. -/
def Request.ofWord? {N : Type} (method : String) (first second : N) : Option (Request N) :=
  match method with
  | "find_classes" => some (findClasses first)
  | "find_class" => some (findClass first)
  | "find_namespace" => some (findNamespace first)
  | "find_function" => some (findFunction first)
  | "find_enums" => some findEnums
  | "ignore_class_with_name" => some (ignoreClasses first)
  | "ignore_function_with_name" => some (ignoreFunctions first)
  | "set_class_as_value_type" => some (markValueType first)
  | "set_class_as_opaque" => some (markOpaque first)
  | "rename_class" => some (renameClass first second)
  | "remove_class" => some (removeClass first)
  | "set_name_of_enum_with_matching_item" => some (nameEnum first second)
  | _ => none

/-- The types of what helpers have under other names than those of requests. -/
def helperParts : List (String × String) := [("library", "Library")]

/-- The request of a word with what it is about, which must be as much as it takes. -/
def Request.ofWords (method : String) (args : List Value) : Except Fault (Request Value) :=
  let argument (n : Nat) : Value := (args[n]?).getD .null
  match Request.parameters? method, ofWord? method (argument 0) (argument 1) with
  | some parameters, some request =>
    match ArityFault.ofCall? ("LibraryHelpers." ++ method) parameters args.length with
    | some f => .error (.arity f)
    | none => .ok request
  | _, _ =>
    match helperParts.find? (·.1 == method) with
    | some (_, typeName) => .error (.misfit (.notCallable typeName))
    | none => .error (.misfit (.noOperation "LibraryHelpers" method))

/-- The request of a word that is given as data. -/
def Request.ofGiven (method : Value) (args : List Value) : Except Fault (Request Value) :=
  match method with
  | .text s => ofWords s args
  | _ => .error (.misfit (.notAnAttribute method.typeName))

/-- The request that a value describes. -/
def LoggedRequest.ofValue? : Value → Option LoggedRequest
  | .list (method :: args) => some ⟨method.shown, Request.ofGiven method args⟩
  | _ => none

/-- The failures that an object describes, by name. -/
def failuresByName (v : Value) : List (String × Raised) :=
  v.objectFields.filterMap fun e => (Raised.ofValue? e.2).map fun r => (e.1, r)

/-- The visitor of a name that a value describes. -/
def VisitScript.ofValue (name : Value) (v : Value) : VisitScript :=
  ⟨name, (v.field "skip").asTexts, (v.field "rename").objectFields, (v.field "remove").listItems,
    failuresByName (v.field "fail")⟩

/-- The function of a name that a value describes. Functions have names that are texts. -/
def CallScript.ofValue (name : Value) (v : Value) : Except Fault CallScript :=
  match name with
  | .text name => .ok ⟨name, v.field "named", Raised.ofValue? (v.field "fail")⟩
  | _ => .error .unnamedFunction

/-- The types of what a schedule has under other names than those of passes. -/
def scheduleParts : List (String × String) :=
  [("passes", "tuple"), ("sealed", "bool"), ("_sealed", "bool"), ("_passes", "list"),
    ("library", "Library"), ("type_database", "TypeDatabase")]

/-- What the name of a pass asks the schedule for. -/
def PassRequest.ofName (name : String) : PassRequest :=
  match Pass.ofName? name, scheduleParts.find? (·.1 == name) with
  | some p, _ => .pass p
  | none, some (_, typeName) => .refused (.misfit (.notCallable typeName))
  | none, none =>
    if name = "add_pass" then
      match ArityFault.ofCall? "PassBuilder.add_pass" ["pass_"] 0 with
      | some f => .refused (.arity f)
      | none => .refused (.misfit (.noOperation "PassBuilder" name))
    else .refused (.misfit (.noOperation "PassBuilder" name))

/-- What a value asks the schedule for. -/
def PassRequest.ofValue (v : Value) : PassRequest :=
  match v.text?, v.field? "visitor", v.field? "callable" with
  | some name, _, _ => ofName name
  | none, some name, _ => .pass (.visitor (.ofValue name v))
  | none, none, some name =>
    match CallScript.ofValue name v with
    | .ok script => .pass (.call script)
    | .error f => .refused f
  | none, none, none => .value (v.field "not_callable")

namespace TransformScript

/-- The name of a transform that is not given one. -/
def defaultName : Value := .text "transform"

/-- The transform that a value describes. -/
def ofValue (v : Value) : TransformScript :=
  ⟨(v.field? "name").getD defaultName, Raised.ofValue? (v.field "fail_init"),
    Raised.ofValue? (v.field "fail_headers"), (v.field "setup_headers").items?.getD [],
    (v.field "preprocess").listItems.filterMap LoggedRequest.ofValue?,
    (v.field "setup_passes").listItems.map PassRequest.ofValue,
    (v.field "postprocess").listItems.filterMap LoggedRequest.ofValue?⟩

end TransformScript

namespace ModuleClass

/-- The name of a class that is not given one. -/
def defaultName : String := "T"

/-- The class that a value describes. -/
def ofValue (v : Value) : ModuleClass :=
  ⟨(v.field "class").text?.getD defaultName, v.field "register", .ofValue v⟩

end ModuleClass

/-- The module that a value describes. -/
def ModuleScript.ofValue (v : Value) : ModuleScript :=
  ⟨Raised.ofValue? (v.field "raise"), (v.field "transforms").listItems.map ModuleClass.ofValue,
    Raised.ofValue? (v.field "raise_after")⟩

end Bindery
