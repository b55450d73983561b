import Bindery.Declaration.Basic
import Bindery.Declaration.Content
import Bindery.Declaration.Library
import Bindery.Fault
import Bindery.Value.Compare
import Bindery.Value.Misfit

/-!
# Loose libraries

Data can give the attributes of a declaration contents that no typed declaration has: a name that is
no text, a list with numbers among the classes, an attribute that the form does not know. Such a
library is loose. Its declarations keep their attributes by name, whatever they hold, and what does
not fit is found out where something is done with it. A declaration is addressed by its number, the
place at which it was created; what its attribute `id` holds is another matter.

The main statement here says that a loosened declaration has the attributes of its form.
-/

namespace Bindery

/-- A declaration whose attributes hold anything. -/
structure LooseDecl where
  /-- Its form, which nothing changes. -/
  form : Form
  /-- Its attributes. -/
  attributes : List (String × Content)
deriving Repr, Inhabited

/-- A loose declaration and whether it can be looked up. -/
structure LooseSlot where
  /-- The declaration. -/
  decl : LooseDecl
  /-- Whether it is registered. -/
  registered : Bool
deriving Repr, Inhabited

/-- A library of loose declarations. -/
structure LooseLibrary where
  /-- The namespace its bindings are meant for. -/
  namespaceName : Value
  /-- The native library it describes. -/
  libraryName : Value
  /-- The declarations that are listed as its units. -/
  units : List Nat
  /-- Its declarations, by number. -/
  slots : List LooseSlot
deriving Repr, Inhabited

/-- A change of a loose library that may fail. -/
abbrev LooseM := ExceptT Fault (StateM LooseLibrary)

namespace LooseDecl

/-- What an attribute holds. -/
def get? (d : LooseDecl) (name : String) : Option Content :=
  (d.attributes.find? (·.1 == name)).map (·.2)

/-- Gives an attribute a content. -/
def put (d : LooseDecl) (name : String) (c : Content) : LooseDecl :=
  if d.attributes.any (·.1 == name) then
    { d with attributes := d.attributes.map fun e => if e.1 == name then (name, c) else e }
  else { d with attributes := d.attributes ++ [(name, c)] }

/-- The attributes that a form adds, of a typed declaration. -/
def ownContents : Body → List Content
  | .plain => []
  | .unit s file => scopeContents s ++ [text file]
  | .space s => scopeContents s
  | .record r =>
    [truth r.incomplete, truth r.isStruct, truth r.isUnion, truth r.valueType,
      .ofValue (.ofTexts r.bases), .ofNumbers r.fields, .ofNumbers r.methods,
      .ofNumbers r.classes, .ofNumbers r.enums, link r.definition]
  | .field type access => [text type, .access access]
  | .method p t =>
    prototypeContents p ++
      [.access t.access, truth t.isStatic, truth t.isVirtual, truth t.isConst,
        truth t.isConstructor, truth t.isDestructor]
  | .function p => prototypeContents p
  | .parameter type index => [text type, .value (.int index)]
  | .enumeration items underlying isScoped => [.ofNumbers items, text underlying, truth isScoped]
  | .enumItem value initializer =>
    [.value ((value.map (·.toValue)).getD .null), text initializer]
where
  text (s : String) : Content := .value (.text s)
  truth (b : Bool) : Content := .value (.bool b)
  link (id : Option Nat) : Content := .value ((id.map fun (n : Nat) => .int n).getD .null)
  scopeContents (s : Scope) : List Content :=
    [.ofNumbers s.namespaces, .ofNumbers s.classes, .ofNumbers s.enums, .ofNumbers s.functions]
  prototypeContents (p : Prototype) : List Content :=
    [text p.returnType, .ofNumbers p.parameters, truth p.variadic]

/-- The attributes that all declarations have, of a typed declaration. -/
def commonContents (d : Decl) : List Content :=
  [.value (.int d.id), .value (.text d.name), .kind d.kind, .value (.int d.order),
    .value ((d.parent.map fun (n : Nat) => .int n).getD .null),
    (d.location.map fun l => .location (.text l.file) (.int l.line) (.int l.column)).getD
      (.value .null),
    .value (.text d.comment), .value (.bool d.ignored), .value (.ofText? d.givenName),
    .value (.object d.notes)]

/-- A typed declaration as a loose one. -/
def ofDecl (d : Decl) : LooseDecl :=
  ⟨d.body.form, d.body.form.attributes.zip (commonContents d ++ ownContents d.body)⟩

/-- A loosened declaration has the attributes of its form, each once and in order. -/
theorem map_fst_ofDecl (d : Decl) :
    (ofDecl d).attributes.map (·.1) = (ofDecl d).form.attributes := by
  have h : d.body.form.attributes.length = (commonContents d ++ ownContents d.body).length := by
    cases d.body <;> rfl
  simp [ofDecl, List.map_fst_zip, h]

end LooseDecl

namespace LooseLibrary

/-- A typed library as a loose one. -/
def ofLibrary (lib : Library) : LooseLibrary :=
  ⟨lib.namespaceName, lib.libraryName, lib.units,
    lib.slots.map fun s => ⟨.ofDecl s.decl, s.registered⟩⟩

/-- How many declarations have been created. -/
def created (l : LooseLibrary) : Nat :=
  l.slots.length

/-- How many declarations are registered. -/
def size (l : LooseLibrary) : Nat :=
  l.slots.countP (·.registered)

/-- The declaration of a number, registered or not. -/
def decl? (l : LooseLibrary) (id : Nat) : Option LooseDecl :=
  l.slots[id]?.map (·.decl)

/-- Whether a number is registered. -/
def contains (l : LooseLibrary) (id : Nat) : Bool :=
  l.slots[id]?.any (·.registered)

theorem size_ofLibrary (lib : Library) : (ofLibrary lib).size = lib.size := by
  simp [size, Library.size, ofLibrary, List.countP_map, Function.comp_def]

theorem decl?_ofLibrary (lib : Library) (id : Nat) :
    (ofLibrary lib).decl? id = (lib.decl? id).map .ofDecl := by
  simp [decl?, Library.decl?, ofLibrary, Function.comp_def]

/-- Changes the declaration of a number. -/
def update (l : LooseLibrary) (id : Nat) (f : LooseDecl → LooseDecl) : LooseLibrary :=
  { l with slots := l.slots.modify id fun s => { s with decl := f s.decl } }

/-- Gives an attribute of a declaration a content. -/
def assign (l : LooseLibrary) (id : Nat) (name : String) (c : Content) : LooseLibrary :=
  l.update id (·.put name c)

/-- Unregisters the declaration of a number. -/
def unregister (l : LooseLibrary) (id : Nat) : LooseLibrary :=
  { l with slots := l.slots.modify id fun s => { s with registered := false } }

/-- The form of an item, if it is a declaration. -/
def formOf? (l : LooseLibrary) : Item → Option Form
  | .value _ => none
  | .declaration id => (l.decl? id).map (·.form)

/-- Whether an item is a declaration of a form. -/
def hasForm (l : LooseLibrary) (form : Form) (item : Item) : Bool :=
  l.formOf? item == some form

/-- What an attribute of an item holds. -/
def content (l : LooseLibrary) (item : Item) (name : String) : Except Fault Content :=
  match item with
  | .value v => .error (.misfit (.noOperation v.typeName name))
  | .declaration id =>
    match l.decl? id with
    | none => .error (.graph (.missing (toString id)))
    | some d =>
      match d.get? name with
      | some c => .ok c
      | none => .error (.graph (.noPart d.form.name name))

/-- What an attribute of an item holds, as a value. -/
def value (l : LooseLibrary) (item : Item) (name : String) : Except Fault Value :=
  (l.content item name).map (·.toValue)

/-- What an attribute of an item holds, as a truth value. -/
def truth (l : LooseLibrary) (item : Item) (name : String) : Except Fault Bool :=
  (l.value item name).map (·.truthy)

/-- The items on a list of an item. -/
def inside (l : LooseLibrary) (item : Item) (name : String) : Except Fault (List Item) :=
  match item, name with
  | .value (.object _), "items" =>
    .error (.misfit (.notIterable "builtin_function_or_method"))
  | _, _ => do
    let c ← l.content item name
    match c.items? with
    | some items => return items
    | none => throw (.misfit (.notIterable c.typeName))

/-- The kind of an item. -/
def kindOf (l : LooseLibrary) (item : Item) : Except Fault Kind := do
  match ← l.content item "kind" with
  | .kind k => return k
  | c => throw (.misfit (.noOperation c.typeName "value"))

/-- Whether an item is of a kind. -/
def isOfKind (l : LooseLibrary) (item : Item) (kinds : List Kind) : Except Fault Bool := do
  match ← l.content item "kind" with
  | .kind k => return kinds.contains k
  | _ => return false

/-- What every declaration can be asked to do. -/
def requestWords : List String := ["rename", "children", "add_child", "remove_child", "to_dict"]

/-- Whether an item can be asked to do something. An attribute of that name is in the way. -/
def canDo (l : LooseLibrary) (item : Item) (word : String) : Except Fault Unit :=
  match item with
  | .value v => .error (.misfit (.noOperation v.typeName word))
  | .declaration id =>
    match (l.decl? id).bind (·.get? word) with
    | some c => .error (.misfit (.notCallable c.typeName))
    | none => .ok ()

/-- A value as a key. -/
def key (v : Value) : Except Fault Value :=
  match v.keyFault? with
  | some m => .error (.misfit m)
  | none => .ok v

/-- The number under which a declaration is registered, if a value is such a number. -/
def registered? (l : LooseLibrary) (v : Value) : Except Fault (Option Nat) :=
  (key v).map fun v => v.asNumber?.filter l.contains

/-- Looks a declaration up. -/
def get (l : LooseLibrary) (v : Value) : Except Fault Item := do
  match ← l.registered? v with
  | some id => return .declaration id
  | none => throw (.graph (.missing v.shown))

end LooseLibrary

namespace LooseM

/-- A part of a change that only looks at the library. -/
def look {α : Type} (f : LooseLibrary → Except Fault α) : LooseM α := do
  match f (← MonadState.get) with
  | .ok a => pure a
  | .error e => throw e

/-- Gives an attribute of an item a content. -/
def assign (item : Item) (name : String) (c : Content) : LooseM Unit :=
  match item with
  | .value v => throw (.misfit (.noOperation v.typeName name))
  | .declaration id => modify (·.assign id name c)

end LooseM

end Bindery

/-!
## Scopes of loose declarations

A declaration tells the one it lies in by its attribute `parent_id`, so its scopes are found by
looking them up one after the other. Its qualified name joins the names of its scopes, which all
have to be texts; units have no part in it. Links from forward declarations are followed in the same
way, until one leads to a declaration met before.
-/

namespace Bindery.LooseLibrary

variable (l : LooseLibrary)

/-- The declaration an item lies in. -/
def parentOf (item : Item) : Except Fault (Option Item) := do
  match ← l.value item "parent_id" with
  | .null => return none
  | v => return some (← l.get v)

/-- What an item is called: its name, or the name it was created with. -/
def nameOf (first : Bool) (item : Item) : Except Fault Value := do
  let name ← l.value item "name"
  if !first then return name
  match ← l.value item "original_name" with
  | .null => return name
  | v => return v

/-- The names of an item and its scopes outward, units left out, up to a number of levels. -/
def namesFrom (first : Bool) : Nat → Item → Except Fault (List Value)
  | 0, _ => .ok []
  | levels + 1, item => do
    let own ← if ← l.isOfKind item [.unit] then pure [] else (l.nameOf first item).map ([·])
    match ← l.parentOf item with
    | none => return own
    | some p => return own ++ (← namesFrom first levels p)

/-- Names joined from the outside in, which all have to be texts. -/
def joinNames (names : List Value) : Except Fault String := do
  return "::".intercalate (← (Value.parts names).mapError .misfit)

/-- The qualified name of an item, with the names everything was created with if `first` says so. -/
def qualifiedName (first : Bool) (item : Item) : Except Fault String := do
  joinNames (← l.namesFrom first (l.created + 1) item).reverse

/-- The unit an item lies in, looking at most a number of levels outward. -/
def unitFrom : Nat → Item → Except Fault (Option Item)
  | 0, _ => .ok none
  | levels + 1, item =>
    if l.hasForm .unit item then .ok (some item)
    else do
      match ← l.parentOf item with
      | none => return none
      | some p => unitFrom levels p

/-- The unit an item lies in. -/
def unitOf (item : Item) : Except Fault (Option Item) :=
  l.unitFrom (l.created + 1) item

/-- Follows links from forward declarations. `seen` holds what identified those met so far. -/
def resolveFrom : Nat → List Value → Item → Except Fault Item
  | 0, _, item => .ok item
  | steps + 1, seen, item => do
    if !l.hasForm .record item then return item
    match ← l.value item "definition_id" with
    | .null => return item
    | target =>
      let next ← l.get target
      let id ← l.value next "id"
      let id ← key id
      if seen.any (·.same id) then return next else resolveFrom steps (id :: seen) next

/-- The complete definition behind what is registered under a number. -/
def resolve (v : Value) : Except Fault Item := do
  let item ← l.get v
  let id ← key (← l.value item "id")
  l.resolveFrom (l.created + 1) [id] item

end Bindery.LooseLibrary
