import Bindery.Header.SyntaxNode

/-!
# Declarators

A declarator wraps a name in marks of pointers, references, arrays and functions. Unwrapping it from
the outside in gives the name, the marks that belong to the type, and the function it declares, if
it does. Marks inside a function declarator make it a pointer to a function.
-/

namespace Bindery

/-- What a declarator says. -/
structure Declarator where
  /-- The declared name. -/
  name : String
  /-- The marks of pointers and references. -/
  marks : String
  /-- The sizes of arrays with their brackets, the innermost first. -/
  arrays : List String
  /-- The function declarator. -/
  function : Option SyntaxNode
  /-- Whether a pointer to a function is declared. -/
  isFunctionPointer : Bool
deriving Repr, Inhabited

namespace Declarator

/-- A declarator that says nothing. -/
def blank : Declarator := ⟨"", "", [], none, false⟩

/-- What a declarator adds to the type before it. -/
def suffix (d : Declarator) : String :=
  d.marks ++ String.join d.arrays

/-- A pointer mark. -/
def addPointer (d : Declarator) : Declarator :=
  if d.function.isSome then { d with isFunctionPointer := true }
  else { d with marks := d.marks ++ "*" }

/-- A reference mark. -/
def addReference (d : Declarator) (mark : String) : Declarator :=
  if d.function.isSome then d else { d with marks := d.marks ++ mark }

/-- An array with a size. -/
def addArray (d : Declarator) (size : String) : Declarator :=
  { d with arrays := ("[" ++ size ++ "]") :: d.arrays }

/-- A function declarator; the outermost counts. -/
def addFunction (d : Declarator) (n : SyntaxNode) : Declarator :=
  { d with function := d.function.orElse fun _ => some n }

/-- The mark of a reference. -/
def referenceMark (n : SyntaxNode) : String :=
  if n.children.any (·.kind == "&&") then "&&" else "&"

/-- Unwraps a node, with `d` for what is around it. -/
def unwrapFrom (source : Source) (d : Declarator) (n : SyntaxNode) : Declarator :=
  let inField (d : Declarator) : Declarator :=
    match _h : n.child? "declarator" with
    | some c => unwrapFrom source d c
    | none => d
  let inFirst (d : Declarator) : Declarator :=
    match _h : n.namedChildren.head? with
    | some c => unwrapFrom source d c
    | none => d
  match n.kind with
  | "pointer_declarator" | "abstract_pointer_declarator" => inField d.addPointer
  | "reference_declarator" | "abstract_reference_declarator" =>
    inFirst (d.addReference (referenceMark n))
  | "array_declarator" | "abstract_array_declarator" =>
    inField (d.addArray (source.textOf (n.child? "size")))
  | "function_declarator" | "abstract_function_declarator" => inField (d.addFunction n)
  | "parenthesized_declarator" | "abstract_parenthesized_declarator" => inFirst d
  | "init_declarator" => inField d
  | _ => { d with name := source.text n }
termination_by sizeOf n
decreasing_by
  · exact SyntaxNode.sizeOf_child?_lt _h
  · exact SyntaxNode.sizeOf_head?_namedChildren_lt _h

/-- What a node declares. -/
def unwrap (source : Source) (n : SyntaxNode) : Declarator :=
  unwrapFrom source blank n

end Declarator

end Bindery
