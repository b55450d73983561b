/-!
# Kinds and forms of declarations

A declaration has a form, which settles what attributes it has and what it takes in, and a kind,
under which it is known. Each form has a kind of its own, but for the plain form, which has nothing
to add and counts as a scope.
-/

namespace Bindery

/-- The kinds of declarations. -/
inductive Kind where
  /-- All that one header declares. -/
  | unit
  /-- A named scope. -/
  | space
  /-- A class, structure or union. -/
  | record
  /-- A data member. -/
  | field
  /-- A member function. -/
  | method
  /-- A parameter of a function or method. -/
  | parameter
  /-- An enumeration. -/
  | enumeration
  /-- An item of an enumeration. -/
  | enumItem
  /-- A free function. -/
  | function
deriving DecidableEq, Repr, Inhabited

/-- The word for a kind. -/
def Kind.word : Kind → String
  | unit => "translation_unit"
  | space => "namespace"
  | record => "class"
  | field => "field"
  | method => "method"
  | parameter => "parameter"
  | enumeration => "enum"
  | enumItem => "enum_item"
  | function => "function"

/-- The forms of declarations. -/
inductive Form where
  /-- Nothing but the common part. -/
  | plain
  /-- All that one header declares. -/
  | unit
  /-- A named scope. -/
  | space
  /-- A class. -/
  | record
  /-- A data member. -/
  | field
  /-- A member function. -/
  | method
  /-- A free function. -/
  | function
  /-- A parameter. -/
  | parameter
  /-- An enumeration. -/
  | enumeration
  /-- An item of an enumeration. -/
  | enumItem
deriving DecidableEq, Repr, Inhabited

namespace Form

/-- The kind of a form. -/
def kind : Form → Kind
  | plain => .space
  | unit => .unit
  | space => .space
  | record => .record
  | field => .field
  | method => .method
  | function => .function
  | parameter => .parameter
  | enumeration => .enumeration
  | enumItem => .enumItem

/-- The name of a form in messages. -/
def name : Form → String
  | plain => "Declaration"
  | unit => "TranslationUnit"
  | space => "Namespace"
  | record => "Class"
  | field => "Field"
  | method => "Method"
  | function => "Function"
  | parameter => "Parameter"
  | enumeration => "Enumeration"
  | enumItem => "EnumItem"

/-- The form of a word. The word declaration stands for a plain declaration, any other one for the
form of the kind it is the word for. -/
def ofWord? (word : String) : Option Form :=
  if word = "declaration" then some plain
  else
    [unit, space, record, field, method, parameter, enumeration, enumItem, function].find?
      (·.kind.word == word)

/-- Whether a form is a scope. -/
def isScope : Form → Bool
  | unit | space => true
  | _ => false

/-- The attributes that every new declaration is given. -/
def fixedAttributes : List String := ["id", "definition_order", "parent_id"]

/-- The attributes of all declarations, in the order in which they are shown. -/
def commonAttributes : List String :=
  ["id", "name", "kind", "definition_order", "parent_id", "location", "comment", "ignored",
    "original_name", "metadata"]

/-- The attributes that a form adds, in the order in which they are shown. -/
def ownAttributes : Form → List String
  | plain => []
  | unit => ["namespaces", "classes", "enums", "functions", "file_path"]
  | space => ["namespaces", "classes", "enums", "functions"]
  | record =>
    ["is_incomplete", "is_struct", "is_union", "is_value_type", "bases", "fields", "methods",
      "classes", "enums", "definition_id"]
  | field => ["type", "access"]
  | method =>
    ["return_type", "parameters", "is_variadic", "access", "is_static", "is_virtual", "is_const",
      "is_constructor", "is_destructor"]
  | function => ["return_type", "parameters", "is_variadic"]
  | parameter => ["type", "index"]
  | enumeration => ["items", "underlying_type", "is_scoped"]
  | enumItem => ["value", "expression"]

/-- The attributes of a form, in the order in which they are shown. -/
def attributes (f : Form) : List String :=
  commonAttributes ++ f.ownAttributes

/-- The lists of a form in which further declarations are put, in the order in which they are
visited. -/
def lists : Form → List String
  | unit | space => ["namespaces", "classes", "enums", "functions"]
  | record => ["classes", "enums", "fields", "methods"]
  | method | function => ["parameters"]
  | enumeration => ["items"]
  | _ => []

/-- The list of an owner that takes in declarations of a form, if there is one. -/
def listFor? (owner child : Form) : Option String :=
  match owner, child with
  | unit, unit | unit, space | space, unit | space, space => some "namespaces"
  | unit, record | space, record | record, record => some "classes"
  | unit, enumeration | space, enumeration | record, enumeration => some "enums"
  | unit, function | space, function => some "functions"
  | record, field => some "fields"
  | record, method => some "methods"
  | method, parameter | function, parameter => some "parameters"
  | enumeration, enumItem => some "items"
  | _, _ => none

/-- Only lists that a form has take declarations in. -/
theorem mem_lists_of_listFor? {owner child : Form} {list : String}
    (h : owner.listFor? child = some list) : list ∈ owner.lists := by
  cases owner <;> cases child <;> simp [listFor?] at h <;> subst h <;> simp [lists]

end Form

end Bindery
