import Bindery.Declaration.Basic
import Bindery.Declaration.Fault

/-!
# The library of declarations

A library numbers the declarations it creates and keeps each of them in a slot of its own, so a
number is never used twice. A slot also tells whether its declaration is registered: one that has
been discarded cannot be looked up any more, although others may still list it. The units of the
library are listed apart and are the roots of every walk.

An edit reads and changes the library and may be refused; what it did before the refusal stays.
-/

namespace Bindery

/-- A declaration and whether it can be looked up. -/
structure Slot where
  /-- The declaration. -/
  decl : Decl
  /-- Whether it is registered. -/
  registered : Bool
deriving Repr, Inhabited

/-- A library of declarations. -/
structure Library where
  /-- The namespace its bindings are meant for. -/
  namespaceName : Value
  /-- The native library it describes. -/
  libraryName : Value
  /-- Its units, in order. -/
  units : List Nat
  /-- Its declarations, by number. -/
  slots : List Slot
deriving Repr, Inhabited

/-- A change of a library that may be refused. -/
abbrev Edit := ExceptT GraphFault (StateM Library)

/-- Runs an edit: its outcome and the library it leaves. -/
def Edit.perform {α : Type} (edit : Edit α) (lib : Library) : Except GraphFault α × Library :=
  (ExceptT.run edit).run lib

namespace Library

/-- A library without declarations. -/
def empty (namespaceName libraryName : Value) : Library :=
  ⟨namespaceName, libraryName, [], []⟩

/-- How many declarations have been created. -/
def created (lib : Library) : Nat :=
  lib.slots.length

/-- How many declarations are registered. -/
def size (lib : Library) : Nat :=
  lib.slots.countP (·.registered)

/-- The declaration of a number, registered or not. -/
def decl? (lib : Library) (id : Nat) : Option Decl :=
  lib.slots[id]?.map (·.decl)

/-- Whether a number is registered. -/
def contains (lib : Library) (id : Nat) : Bool :=
  lib.slots[id]?.any (·.registered)

/-- The registered declaration of a number. -/
def registered? (lib : Library) (id : Nat) : Option Decl :=
  (lib.slots[id]?.filter (·.registered)).map (·.decl)

/-- Looks a declaration up. -/
def get (lib : Library) (id : Nat) : Except GraphFault Decl :=
  match lib.registered? id with
  | some d => .ok d
  | none => .error (.missing (toString id))

/-- Changes the declaration of a number. -/
def update (lib : Library) (id : Nat) (f : Decl → Decl) : Library :=
  { lib with slots := lib.slots.modify id fun s => { s with decl := f s.decl } }

/-- Appends a registered declaration. -/
def append (lib : Library) (d : Decl) : Library :=
  { lib with slots := lib.slots ++ [⟨d, true⟩] }

theorem created_append (lib : Library) (d : Decl) : (lib.append d).created = lib.created + 1 := by
  simp [created, append]

theorem created_update (lib : Library) (id : Nat) (f : Decl → Decl) :
    (lib.update id f).created = lib.created := by
  simp [created, update]

theorem decl?_append (lib : Library) (d : Decl) (id : Nat) :
    (lib.append d).decl? id = if id = lib.created then some d else lib.decl? id := by
  have hc : lib.created = lib.slots.length := rfl
  by_cases h : id < lib.slots.length
  · have hne : id ≠ lib.created := by omega
    simp [decl?, append, List.getElem?_append_left h, hne]
  · by_cases h' : id = lib.created
    · subst h'; simp [decl?, append, created]
    · have h1 : lib.slots[id]? = none := List.getElem?_eq_none (by omega)
      have h2 : [(⟨d, true⟩ : Slot)][id - lib.slots.length]? = none :=
        List.getElem?_eq_none (by simp only [List.length_cons, List.length_nil]; omega)
      simp [decl?, append, List.getElem?_append_right (by omega : lib.slots.length ≤ id), h1, h2,
        h']

theorem decl?_update (lib : Library) (id : Nat) (f : Decl → Decl) (k : Nat) :
    (lib.update id f).decl? k = if id = k then (lib.decl? k).map f else lib.decl? k := by
  simp only [decl?, update, List.getElem?_modify]
  cases lib.slots[k]? <;> by_cases h : id = k <;> simp [h]

/-- A new declaration before its attributes are given. -/
def blankDecl (lib : Library) (parent : Option Nat) (body : Body) : Decl :=
  .blank lib.created parent body

end Library

namespace Edit

/-- A part of an edit that only looks at the library. -/
def look {α : Type} (f : Library → Except GraphFault α) : Edit α := do
  match f (← get) with
  | .ok a => pure a
  | .error e => throw e

/-- Changes the declaration of a number. -/
def update (id : Nat) (f : Decl → Decl) : Edit Unit :=
  modify (·.update id f)

/-- Puts a declaration into another one, at the end of the list for its kind. -/
def addChild (owner child : Nat) : Edit Unit := do
  let lib ← get
  match lib.decl? owner, lib.decl? child with
  | some o, some c =>
    match o.body.insert? c.body child with
    | some body => update owner fun d => { d with body := body }
    | none => throw (.refuses o.kind c.kind)
  | _, _ => pure ()

/-- Creates a declaration inside `parent`, with `init` giving it its attributes. Its number is used
up even when the parent refuses it. -/
def create (body : Body) (parent : Option Nat) (init : Decl → Decl) : Edit Nat := do
  let lib ← get
  let id := lib.created
  set (lib.append (init (lib.blankDecl parent body)))
  match parent with
  | some p => addChild p id
  | none => pure ()
  return id

/-- Takes a declaration out of the declaration that holds it. -/
def removeChild (owner child : Nat) : Edit Unit := do
  let lib ← get
  match lib.decl? owner, lib.decl? child with
  | some o, some c =>
    let put (body : Body) : Edit Unit := update owner fun d => { d with body := body }
    match o.body with
    | .unit s file =>
      match Body.eraseFromScope? s child with
      | some s => put (.unit s file)
      | none => throw (.notDeclared (Text.quoted c.name) (Text.quoted o.name))
    | .space s =>
      match Body.eraseFromScope? s child with
      | some s => put (.space s)
      | none => throw (.notDeclared (Text.quoted c.name) (Text.quoted o.name))
    | .record r =>
      match Body.eraseFromRecord? r child with
      | some r => put (.record r)
      | none => throw (.notMember (Text.quoted c.name) (Text.quoted o.name))
    | .method p t =>
      match Body.eraseNumber? p.parameters child with
      | some ids => put (.method { p with parameters := ids } t)
      | none => throw .notListed
    | .function p =>
      match Body.eraseNumber? p.parameters child with
      | some ids => put (.function { p with parameters := ids })
      | none => throw .notListed
    | .enumeration items u s =>
      match Body.eraseNumber? items child with
      | some items => put (.enumeration items u s)
      | none => throw .notListed
    | _ => throw (.childless o.kind)
  | _, _ => pure ()

/-- Lists a unit. -/
def addUnit (id : Nat) : Edit Unit := do
  let lib ← get
  if lib.contains id then set { lib with units := lib.units ++ [id] }
  else
    match lib.decl? id with
    | none => throw (.missing (toString id))
    | some d =>
      match d.body with
      | .unit _ file => throw (.foreignUnit (Text.quoted file))
      | b => throw (.noPart b.form.name "file_path")

/-- Takes a declaration out of the scope it was created in; it stays registered. A root is taken off
the list of units. -/
def remove (id : Nat) : Edit Unit := do
  let lib ← get
  match lib.decl? id with
  | none => throw (.missing (toString id))
  | some d =>
    match d.parent with
    | none => set { lib with units := lib.units.erase id }
    | some p => do
      let owner ← look (·.get p)
      removeChild owner.id id

/-- Gives a declaration another name. -/
def rename (id : Nat) (name : String) : Edit Unit :=
  update id (·.rename name)

end Edit

end Bindery

/-!
## How deep declarations lie

A way down through declarations takes places at each level, and there is a limited number of them. A
declaration lies as deep as it has scopes around it; where one lies too deep for some way down, the
library it is in has to be gone through with care.
-/

namespace Bindery

/-- How many places there are for a way down. -/
def Library.room : Nat := 990

namespace Library

variable (lib : Library)

/-- Whether a declaration lies inside at least so many others. -/
def liesBelow : Nat → Nat → Bool
  | 0, _ => true
  | levels + 1, id =>
    match (lib.decl? id).bind (·.parent) with
    | none => false
    | some owner => liesBelow levels owner

/-- A declaration that lies inside many others lies inside fewer as well. -/
theorem liesBelow_of_le {m n id : Nat} (h : m ≤ n) (hn : lib.liesBelow n id = true) :
    lib.liesBelow m id = true := by
  induction m generalizing n id with
  | zero => simp [liesBelow]
  | succ m ih =>
    cases n with
    | zero => omega
    | succ n =>
      unfold liesBelow at hn ⊢
      split
      · simp_all
      · rename_i owner hp
        simp only [hp] at hn
        exact ih (by omega) hn

/-- Whether what is put into a declaration may lie too deep for some way down. No way down takes
more than three places at a level. -/
def isDeep (id : Nat) : Bool :=
  lib.liesBelow (room / 3) id

/-- Whether any of the declarations lies too deep for some way down. -/
def hasDepths : Bool :=
  (List.range lib.created).any lib.isDeep

/-- Whether there is no room for a way down that takes one place at each level and reaches everything
created after a declaration. -/
def outgrowsRoom (id : Nat) : Bool :=
  (List.range lib.created).any fun later => id < later && lib.liesBelow room later

end Library

end Bindery
