import Bindery.Declaration.Basic
import Bindery.Declaration.Content
import Bindery.Declaration.Library

/-!
# Attributes by name

The attributes of a declaration under the names that dumps give them, so that a declaration can be
described and changed by data. Each attribute has a type, and an assignment of anything else fails:
a declaration that holds such a thing is no longer one of those that are typed. A list of
declarations can only be given where it is empty, and stays so.
-/

namespace Bindery

namespace Content

/-- A text. -/
def text? : Content → Option String
  | value v => v.text?
  | _ => none

/-- A truth value. -/
def truth? : Content → Option Bool
  | value (.bool b) => some b
  | _ => none

/-- An integer. -/
def int? : Content → Option Int
  | value (.int n) => some n
  | _ => none

/-- The number of a declaration, or nothing. -/
def link? : Content → Option (Option Nat)
  | value .null => some none
  | value (.int n) => if 0 ≤ n then some (some n.toNat) else none
  | _ => none

/-- The value of an enumerator, or nothing. -/
def constant? : Content → Option (Option Constant)
  | value .null => some none
  | value (.int n) => some (some (.int n))
  | value (.bool b) => some (some (.truth b))
  | _ => none

/-- A text, or nothing. -/
def optionalText? : Content → Option (Option String)
  | value .null => some none
  | value (.text s) => some (some s)
  | _ => none

/-- A list of texts. -/
def texts? : Content → Option (List String)
  | list items =>
    items.mapM fun i =>
      match i with
      | .value v => v.text?
      | .declaration _ => none
  | _ => none

/-- The fields of an object. -/
def fields? : Content → Option Fields
  | value (.object fields) => some fields
  | _ => none

/-- A place, or nothing. -/
def place? : Content → Option (Option SourceLocation)
  | value .null => some none
  | location (.text file) (.int line) (.int column) => some (some ⟨file, line, column⟩)
  | _ => none

/-- An access level. -/
def access? : Content → Option Access
  | access a => some a
  | _ => none

/-- Whether a list has no items. -/
def isEmptyList : Content → Bool
  | list items => items.isEmpty
  | _ => false

end Content

/-- Changes an attribute of a class. -/
def Record.assign? (r : Record) (name : String) (c : Content) : Option Record :=
  match name with
  | "is_incomplete" => c.truth?.map fun b => { r with incomplete := b }
  | "is_struct" => c.truth?.map fun b => { r with isStruct := b }
  | "is_union" => c.truth?.map fun b => { r with isUnion := b }
  | "is_value_type" => c.truth?.map fun b => { r with valueType := b }
  | "bases" => c.texts?.map fun names => { r with bases := names }
  | "definition_id" => c.link?.map fun id => { r with definition := id }
  | _ => none

/-- Changes an attribute of a prototype. -/
def Prototype.assign? (p : Prototype) (name : String) (c : Content) : Option Prototype :=
  match name with
  | "return_type" => c.text?.map fun s => { p with returnType := s }
  | "is_variadic" => c.truth?.map fun b => { p with variadic := b }
  | _ => none

/-- Changes an attribute of a method. -/
def MethodTraits.assign? (t : MethodTraits) (name : String) (c : Content) : Option MethodTraits :=
  match name with
  | "access" => c.access?.map fun a => { t with access := a }
  | "is_static" => c.truth?.map fun b => { t with isStatic := b }
  | "is_virtual" => c.truth?.map fun b => { t with isVirtual := b }
  | "is_const" => c.truth?.map fun b => { t with isConst := b }
  | "is_constructor" => c.truth?.map fun b => { t with isConstructor := b }
  | "is_destructor" => c.truth?.map fun b => { t with isDestructor := b }
  | _ => none

namespace Body

/-- Changes an attribute that the form adds; no result where the form has no such attribute or the
attribute has another type. -/
def assign? (b : Body) (name : String) (c : Content) : Option Body :=
  if b.form.lists.contains name then
    if c.isEmptyList && (b.listOf name).isEmpty then some b else none
  else
    match b with
    | unit s _ => if name = "file_path" then c.text?.map (unit s) else none
    | record r => (r.assign? name c).map record
    | function p => (p.assign? name c).map function
    | method p t =>
      match p.assign? name c with
      | some p => some (method p t)
      | none => (t.assign? name c).map (method p)
    | field type access =>
      match name with
      | "type" => c.text?.map (field · access)
      | "access" => c.access?.map (field type)
      | _ => none
    | parameter type index =>
      match name with
      | "type" => c.text?.map (parameter · index)
      | "index" => c.int?.map (parameter type)
      | _ => none
    | enumeration items underlying isScoped =>
      match name with
      | "underlying_type" => c.text?.map (enumeration items · isScoped)
      | "is_scoped" => c.truth?.map (enumeration items underlying)
      | _ => none
    | enumItem value initializer =>
      match name with
      | "value" => c.constant?.map (enumItem · initializer)
      | "expression" => c.text?.map (enumItem value)
      | _ => none
    | _ => none

/-- An assignment leaves the form of a body alone. -/
theorem form_of_assign? {b b' : Body} {name : String} {c : Content}
    (h : b.assign? name c = some b') :
    b'.form = b.form := by
  unfold assign? at h
  split at h
  · split at h
    · simp only [Option.some.injEq] at h; rw [h]
    · simp at h
  · cases b
    case method p t =>
      dsimp only at h
      split at h
      · simp only [Option.some.injEq] at h; subst h; rfl
      · simp only [Option.map_eq_some_iff] at h; obtain ⟨_, _, rfl⟩ := h; rfl
    all_goals
      simp only at h
      first
        | (simp only [Option.map_eq_some_iff] at h; obtain ⟨_, _, rfl⟩ := h; rfl)
        | (split at h <;>
            first
              | (simp only [Option.map_eq_some_iff] at h; obtain ⟨_, _, rfl⟩ := h; rfl)
              | simp at h)
        | simp at h

end Body

namespace Decl

/-- Changes an attribute; no result where the declaration has no such attribute or the attribute has
another type. -/
def assign? (d : Decl) (name : String) (c : Content) : Option Decl :=
  match name with
  | "id" | "kind" => none
  | "name" => c.text?.map fun s => { d with name := s }
  | "definition_order" => c.int?.map fun n => { d with order := n }
  | "parent_id" => c.link?.map fun id => { d with parent := id }
  | "location" => c.place?.map fun l => { d with location := l }
  | "comment" => c.text?.map fun s => { d with comment := s }
  | "ignored" => c.truth?.map fun b => { d with ignored := b }
  | "original_name" => c.optionalText?.map fun s => { d with givenName := s }
  | "metadata" => c.fields?.map fun fields => { d with notes := fields }
  | name => (d.body.assign? name c).map fun b => { d with body := b }

/-- Changes attributes one after the other. -/
def assignAll? (d : Decl) (attributes : List (String × Content)) : Option Decl :=
  attributes.foldlM (fun d (name, c) => d.assign? name c) d

end Decl

end Bindery

/-!
## Declarations from data

A declaration can be created with attributes given by name. All of them are looked at before
anything is created: values that are refused come first, then names that a creation needs for what
it is about, then attributes that every new declaration is given anyway, and last those that its
form does not have. The kind of a declaration that is not plain is that of its form, whatever is
given.
-/

namespace Bindery

/-- The name of what a declaration is made in. -/
def ownName : String := "self"

/-- The names of what a creation is about. -/
def reservedAttributes : List String := [ownName, "decl_cls", "parent"]

namespace Form

/-- Why a declaration cannot be created with attributes of some names. -/
def refusal? (f : Form) (names : List String) : Option GraphFault :=
  match names.find? reservedAttributes.contains with
  | some name => some (.reservedAttribute name)
  | none =>
    match names.find? fixedAttributes.contains with
    | some name => some (.fixedAttribute f.name name)
    | none => (names.find? fun name => !f.attributes.contains name).map (.unknownAttribute f.name)

/-- Why a declaration cannot be made by itself with attributes of some names. -/
def refusalAlone? (f : Form) (names : List String) : Option GraphFault :=
  (names.find? fun name => !f.attributes.contains name).map fun name =>
    if name = ownName then .ownAttribute f.name name else .unknownAttribute f.name name

/-- The contents of given attributes, if neither their values nor their names are refused. -/
def contents (f : Form) (refusal : List String → Option GraphFault) (attributes : Fields) :
    Except GraphFault (List (String × Content)) := do
  let contents ← attributes.mapM fun (name, v) => return (name, ← Content.ofGiven name v)
  match refusal attributes.names with
  | some fault => throw fault
  | none => return contents.filter fun e => f = .plain || e.1 != "kind"

/-- The contents of the attributes that a new declaration is given, if they are not refused. -/
def given (f : Form) (attributes : Fields) : Except GraphFault (List (String × Content)) :=
  f.contents f.refusal? attributes

/-- The contents of the attributes of a declaration that is made by itself, if they are not
refused. -/
def givenAlone (f : Form) (attributes : Fields) : Except GraphFault (List (String × Content)) :=
  f.contents f.refusalAlone? attributes

end Form

/-- A new declaration with its attributes, as far as all of them have their types. -/
def Library.newDecl? (lib : Library) (f : Form) (parent : Option Nat)
    (given : List (String × Content)) : Option Decl :=
  (lib.blankDecl parent (.blank f)).assignAll? given

end Bindery
