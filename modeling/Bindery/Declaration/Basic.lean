import Bindery.Decimal.Shortest
import Bindery.Declaration.Form
import Bindery.Value.Basic

/-!
# Declarations

What a header declares: units, namespaces, classes, fields, methods, functions, parameters,
enumerations and their items. A declaration refers to others by number, and what its form adds to
the common part is its body. There need not be declarations of the numbers by which it refers to
the one it was created in and to the class that completes it. Which forms of declarations a body
takes in, and in which order it lists them, is settled here.
-/

namespace Bindery

/-- Who may use a member. -/
inductive Access where
  /-- Everyone. -/
  | everyone
  /-- The class and those derived from it. -/
  | derived
  /-- The class alone. -/
  | classOnly
deriving DecidableEq, Repr, Inhabited

/-- The word for an access level. -/
def Access.word : Access → String
  | everyone => "public"
  | derived => "protected"
  | classOnly => "private"

/-- The access level of a word. -/
def Access.ofWord? (word : String) : Option Access :=
  [everyone, derived, classOnly].find? (·.word == word)

theorem Access.ofWord?_word (a : Access) : Access.ofWord? a.word = some a := by
  cases a <;> rfl

/-- The value of an enumerator. A truth value counts as a number and is shown as a word. -/
inductive Constant where
  /-- An integer of any size. -/
  | int (n : Int)
  /-- A truth value. -/
  | truth (b : Bool)
deriving DecidableEq, Repr, Inhabited

namespace Constant

/-- The number a constant counts as. -/
def toInt : Constant → Int
  | int n => n
  | truth b => if b then 1 else 0

/-- A constant as a value. -/
def toValue : Constant → Value
  | int n => .int n
  | truth b => .bool b

end Constant

/-- A place in a header. -/
structure SourceLocation where
  /-- The path of the header. -/
  file : String
  /-- The line, from one. -/
  line : Int
  /-- The column in bytes, from one. -/
  column : Int
deriving DecidableEq, Repr, Inhabited

/-- What a scope holds, by kind. -/
structure Scope where
  /-- Nested scopes. -/
  namespaces : List Nat
  /-- Classes. -/
  classes : List Nat
  /-- Enumerations. -/
  enums : List Nat
  /-- Functions. -/
  functions : List Nat
deriving DecidableEq, Repr, Inhabited

/-- A scope that holds nothing. -/
def Scope.empty : Scope := ⟨[], [], [], []⟩

/-- What a call of a function looks like. -/
structure Prototype where
  /-- The type of the result. -/
  returnType : String
  /-- The parameters. -/
  parameters : List Nat
  /-- Whether further arguments may follow. -/
  variadic : Bool
deriving DecidableEq, Repr, Inhabited

/-- What distinguishes methods. -/
structure MethodTraits where
  /-- Who may call it. -/
  access : Access
  /-- Whether it needs no object. -/
  isStatic : Bool
  /-- Whether derived classes may replace it. -/
  isVirtual : Bool
  /-- Whether it leaves its object alone. -/
  isConst : Bool
  /-- Whether it makes objects. -/
  isConstructor : Bool
  /-- Whether it ends objects. -/
  isDestructor : Bool
deriving DecidableEq, Repr, Inhabited

/-- A class. -/
structure Record where
  /-- Whether only its name is known. -/
  incomplete : Bool
  /-- Whether it was declared as a structure. -/
  isStruct : Bool
  /-- Whether it was declared as a union. -/
  isUnion : Bool
  /-- Whether its layout is wanted although it has virtual methods. -/
  valueType : Bool
  /-- The names of its bases. -/
  bases : List String
  /-- Data members. -/
  fields : List Nat
  /-- Member functions. -/
  methods : List Nat
  /-- Nested classes. -/
  classes : List Nat
  /-- Nested enumerations. -/
  enums : List Nat
  /-- The class that completes this one. -/
  definition : Option Nat
deriving DecidableEq, Repr, Inhabited

/-- What a form adds to the common part of a declaration. -/
inductive Body where
  /-- Nothing. -/
  | plain
  /-- All that one header declares. -/
  | unit (scope : Scope) (file : String)
  /-- A named scope. -/
  | space (scope : Scope)
  /-- A class. -/
  | record (r : Record)
  /-- A data member. -/
  | field (type : String) (access : Access)
  /-- A member function. -/
  | method (prototype : Prototype) (traits : MethodTraits)
  /-- A free function. -/
  | function (prototype : Prototype)
  /-- A parameter and its place among the parameters. -/
  | parameter (type : String) (index : Int)
  /-- An enumeration. -/
  | enumeration (items : List Nat) (underlying : String) (isScoped : Bool)
  /-- An item, its value if it is constant, and the text of its initializer. -/
  | enumItem (value : Option Constant) (initializer : String)
deriving DecidableEq, Repr, Inhabited

namespace Body

/-- The form of a body. -/
def form : Body → Form
  | plain => .plain
  | unit .. => .unit
  | space .. => .space
  | record .. => .record
  | field .. => .field
  | method .. => .method
  | function .. => .function
  | parameter .. => .parameter
  | enumeration .. => .enumeration
  | enumItem .. => .enumItem

/-- The kind of a body. A plain declaration counts as a scope. -/
def kind (b : Body) : Kind :=
  b.form.kind

/-- The body of a form before its attributes are given. -/
def blank : Form → Body
  | .plain => plain
  | .unit => unit .empty ""
  | .space => space .empty
  | .record => record ⟨false, false, false, false, [], [], [], [], [], none⟩
  | .field => field "" .everyone
  | .method => method ⟨"void", [], false⟩ ⟨.everyone, false, false, false, false, false⟩
  | .function => function ⟨"void", [], false⟩
  | .parameter => parameter "" 0
  | .enumeration => enumeration [] "int" false
  | .enumItem => enumItem none ""

theorem form_blank (f : Form) : (blank f).form = f := by
  cases f <;> rfl

/-- The scope of a unit or a namespace. -/
def scope? : Body → Option Scope
  | unit s _ => some s
  | space s => some s
  | _ => none

/-- The class of a body. -/
def record? : Body → Option Record
  | record r => some r
  | _ => none

/-- The prototype of a function or a method. -/
def prototype? : Body → Option Prototype
  | method p _ => some p
  | function p => some p
  | _ => none

/-- Whether the body is a class. -/
def isRecord (b : Body) : Bool :=
  b.record?.isSome

/-- Whether the body is an enumeration. -/
def isEnumeration : Body → Bool
  | enumeration .. => true
  | _ => false

/-- Whether the body is a free function. -/
def isFunction : Body → Bool
  | function .. => true
  | _ => false

/-- Changes the scope of a unit or a namespace. -/
def mapScope (f : Scope → Scope) : Body → Body
  | unit s file => unit (f s) file
  | space s => space (f s)
  | b => b

/-- Changes a class. -/
def mapRecord (f : Record → Record) : Body → Body
  | record r => record (f r)
  | b => b

/-- Changes the prototype of a function or a method. -/
def mapPrototype (f : Prototype → Prototype) : Body → Body
  | method p t => method (f p) t
  | function p => function (f p)
  | b => b

/-- The declarations inside a body, in the order in which they are visited. -/
def children : Body → List Nat
  | unit s _ => s.namespaces ++ s.classes ++ s.enums ++ s.functions
  | space s => s.namespaces ++ s.classes ++ s.enums ++ s.functions
  | record r => r.classes ++ r.enums ++ r.fields ++ r.methods
  | method p _ => p.parameters
  | function p => p.parameters
  | enumeration items _ _ => items
  | _ => []

/-- The list of declarations of a name. -/
def listOf (b : Body) (name : String) : List Nat :=
  match b, name with
  | unit s _, "namespaces" | space s, "namespaces" => s.namespaces
  | unit s _, "classes" | space s, "classes" => s.classes
  | unit s _, "enums" | space s, "enums" => s.enums
  | unit s _, "functions" | space s, "functions" => s.functions
  | record r, "classes" => r.classes
  | record r, "enums" => r.enums
  | record r, "fields" => r.fields
  | record r, "methods" => r.methods
  | method p _, "parameters" | function p, "parameters" => p.parameters
  | enumeration items _ _, "items" => items
  | _, _ => []

/-- The declarations inside a body are those on its lists. -/
theorem children_eq_flatMap_listOf (b : Body) : b.children = b.form.lists.flatMap b.listOf := by
  cases b <;> simp [children, form, Form.lists, listOf]

/-- A scope with one more declaration at the end of its list. -/
def insertIntoScope? (s : Scope) (child : Body) (id : Nat) : Option Scope :=
  match child with
  | unit .. | space .. => some { s with namespaces := s.namespaces ++ [id] }
  | record .. => some { s with classes := s.classes ++ [id] }
  | enumeration .. => some { s with enums := s.enums ++ [id] }
  | function .. => some { s with functions := s.functions ++ [id] }
  | _ => none

/-- A class with one more member at the end of its list. -/
def insertIntoRecord? (r : Record) (child : Body) (id : Nat) : Option Record :=
  match child with
  | field .. => some { r with fields := r.fields ++ [id] }
  | method .. => some { r with methods := r.methods ++ [id] }
  | record .. => some { r with classes := r.classes ++ [id] }
  | enumeration .. => some { r with enums := r.enums ++ [id] }
  | _ => none

/-- A body with one more declaration inside, if it takes that kind in. -/
def insert? (owner child : Body) (id : Nat) : Option Body :=
  match owner with
  | unit s file => (insertIntoScope? s child id).map (unit · file)
  | space s => (insertIntoScope? s child id).map space
  | record r => (insertIntoRecord? r child id).map record
  | method p t =>
    match child with
    | parameter .. => some (method { p with parameters := p.parameters ++ [id] } t)
    | _ => none
  | function p =>
    match child with
    | parameter .. => some (function { p with parameters := p.parameters ++ [id] })
    | _ => none
  | enumeration items u s =>
    match child with
    | enumItem .. => some (enumeration (items ++ [id]) u s)
    | _ => none
  | _ => none

/-- A scope without one of its declarations. It is taken from the first list that has it. -/
def eraseFromScope? (s : Scope) (id : Nat) : Option Scope :=
  if s.namespaces.contains id then some { s with namespaces := s.namespaces.erase id }
  else if s.classes.contains id then some { s with classes := s.classes.erase id }
  else if s.enums.contains id then some { s with enums := s.enums.erase id }
  else if s.functions.contains id then some { s with functions := s.functions.erase id }
  else none

/-- A class without one of its members. It is taken from the first list that has it. -/
def eraseFromRecord? (r : Record) (id : Nat) : Option Record :=
  if r.fields.contains id then some { r with fields := r.fields.erase id }
  else if r.methods.contains id then some { r with methods := r.methods.erase id }
  else if r.classes.contains id then some { r with classes := r.classes.erase id }
  else if r.enums.contains id then some { r with enums := r.enums.erase id }
  else none

/-- Numbers without one of them, if it is there. -/
def eraseNumber? (ids : List Nat) (id : Nat) : Option (List Nat) :=
  if ids.contains id then some (ids.erase id) else none

end Body

/-- A declaration. -/
structure Decl where
  /-- Its number, which it keeps. -/
  id : Nat
  /-- Its place in the order in which declarations were met. -/
  order : Int
  /-- Its name now. -/
  name : String
  /-- The declaration it was created in. -/
  parent : Option Nat
  /-- Where the header declares it. -/
  location : Option SourceLocation
  /-- The comment above it. -/
  comment : String
  /-- Whether generated code leaves it out. -/
  ignored : Bool
  /-- Its first name, once it has been renamed. -/
  givenName : Option String
  /-- Notes attached to it. -/
  notes : Fields
  /-- What its form adds. -/
  body : Body
deriving Repr, Inhabited

namespace Decl

/-- A declaration before its attributes are given. Its place in the order is its number. -/
def blank (id : Nat) (parent : Option Nat) (body : Body) : Decl :=
  { id := id, order := id, name := "", parent := parent, location := none, comment := ""
    ignored := false, givenName := none, notes := [], body := body }

/-- The kind of a declaration. -/
def kind (d : Decl) : Kind :=
  d.body.kind

/-- Gives a declaration another name; the first name is remembered. -/
def rename (d : Decl) (name : String) : Decl :=
  if name = d.name then d
  else { d with name := name, givenName := some (d.givenName.getD d.name) }

/-- The name a declaration was created with. -/
def firstName (d : Decl) : String :=
  d.givenName.getD d.name

/-- A new name leaves the first name alone. -/
theorem firstName_rename (d : Decl) (name : String) : (d.rename name).firstName = d.firstName := by
  unfold rename
  split <;> simp [firstName]

/-- A declaration has the name it was given last. -/
theorem name_rename (d : Decl) (name : String) : (d.rename name).name = name := by
  unfold rename
  split
  · next h => exact h.symm
  · rfl

end Decl

end Bindery

/-!
## Values where a type is expected

A value read as a text, an integer, the number of a declaration, a constant or a list of texts. A
value of another type reads as empty, zero or nothing.
-/

namespace Bindery

namespace Value

/-- A value as a text; what is no text is empty. -/
def asText : Value → String
  | text s => s
  | _ => ""

/-- A value as an integer; a truth value counts as zero or one. -/
def asInt : Value → Int
  | int n => n
  | bool b => if b then 1 else 0
  | _ => 0

/-- A value as the number of a declaration. A double counts if it is whole. -/
def asNumber? : Value → Option Nat
  | int n => if 0 ≤ n then some n.toNat else none
  | bool b => some (if b then 1 else 0)
  | float bits => Decimal.natural? bits
  | _ => none

/-- A value as a constant. -/
def asConstant? : Value → Option Constant
  | int n => some (.int n)
  | bool b => some (.truth b)
  | _ => none

/-- A list of texts. -/
def asTexts : Value → List String
  | list items => items.map asText
  | _ => []

end Value

end Bindery
