import Bindery.Header.Declarator
import Bindery.Header.Enumeration
import Bindery.Signature.Normal
import Bindery.Text.Lowercase

/-!
# Classes of headers

Classes, their data members and member functions, and the declarations that may stand both in a
class and in a scope: functions, and types that are defined on the way. How to read a class is
passed to whatever can hold one, so that classes nest to any depth of the tree.
-/

namespace Bindery

open Bindery.Text

/-- How the class at a node is read: in which scope, with which comment, and with which name if it
has none of its own. Classes that are left out have no declaration. -/
abbrev RecordReader := SyntaxNode → Nat → String → Option String → Build (Option Nat)

/-- The sorts of classes. -/
inductive RecordForm where
  /-- A class, whose members are its own unless it says otherwise. -/
  | classForm
  /-- A structure. -/
  | structForm
  /-- A union. -/
  | unionForm
deriving DecidableEq, Repr

/-- The sort of class a node of this kind declares. -/
def RecordForm.ofKind? (kind : String) : Option RecordForm :=
  match kind with
  | "class_specifier" => some classForm
  | "struct_specifier" => some structForm
  | "union_specifier" => some unionForm
  | _ => none

/-- Whether a node of this kind can define a type. -/
def definesType (kind : String) : Bool :=
  kind == "enum_specifier" || (RecordForm.ofKind? kind).isSome

namespace Header

variable (h : Header)

/-- The access level that a node sets for the members after it. -/
def accessOf (n : SyntaxNode) : Except Fault Access :=
  match blankWords (strip (dropWhileEnd (· == ':') (h.source.chars n))) with
  | [] => .error .emptyAccess
  | word :: _ =>
    let word := String.ofList (lowercase word)
    match Access.ofWord? word with
    | some a => .ok a
    | none => .error (.graph (.unknownAccess (Text.quoted word)))

/-- Reads one parameter. -/
def readParameter (owner : Nat) (index : Nat) (n : SyntaxNode) : Build Unit := do
  let d := ((n.child? "declarator").map (Declarator.unwrap h.source)).getD .blank
  let base ← h.typeText n (n.child? "type") none
  let type := if d.function.isSome then base ++ "(*)()" else base ++ d.suffix
  let _ ← h.create (.parameter type index) owner d.name n ""

/-- Whether a list of parameters only says that there are none. -/
def saysNone (params : List SyntaxNode) : Bool :=
  match params with
  | [p] => (p.child? "declarator").isNone && h.source.textOf (p.child? "type") == "void"
  | _ => false

/-- Reads the parameters of a function. -/
def readParameters (list : Option SyntaxNode) (owner : Nat) : Build Unit := do
  match list with
  | none => pure ()
  | some list =>
    let params := list.namedChildren.filter fun c =>
      c.kind = "parameter_declaration" ∨ c.kind = "optional_parameter_declaration"
    if list.children.any fun c => c.kind = "..." ∨ c.kind = "variadic_parameter_declaration" then
      modify (·.update owner fun d =>
        { d with body := d.body.mapPrototype fun p => { p with variadic := true } })
    if !h.saysNone params then
      params.zipIdx.forM fun (p, index) => h.readParameter owner index p

/-- Reads a function or a method: a class makes it a method. `type` is the type of its result, which
constructors do not have. -/
def readCallable (n : SyntaxNode) (scope : Nat) (comment type name : String) (function : SyntaxNode)
    (access : Access) : Build Unit := do
  let prototype : Prototype := ⟨if type = "" then "void" else type, [], false⟩
  let body : Body ←
    if ← Build.isRecord scope then
      let isDestructor := "~".toList.isPrefixOf name.toList
      let isConstructor := type = "" && !isDestructor && name = (← Build.nameOf scope)
      pure (.method prototype
        ⟨access, h.hasKeyword n "static", h.hasKeyword n "virtual",
          function.children.any h.isConst, isConstructor, isDestructor⟩)
    else pure (.function prototype)
  let id ← h.create body scope name n comment
  h.readParameters (function.child? "parameters") id

/-- Reads the type that a declaration defines on the way, if it does. A type that is only named
by a declaration of something else is not one. -/
def readDefinedType (readRecord : RecordReader) (type : Option SyntaxNode) (scope : Nat)
    (comment : String) (hasDeclarators : Bool) : Build (Option Nat) := do
  match type with
  | none => return none
  | some t =>
    if !definesType t.kind then return none
    else if (t.child? "body").isNone && hasDeclarators then return none
    else if t.kind = "enum_specifier" then h.readEnumeration t scope comment none
    else readRecord t scope comment none

/-- Reads what one declarator of a declaration declares. Variables are left out, and so are members
that are defined outside their class. `base` is the type in front of the declarator, if there is
one. -/
def readDeclarator (n : SyntaxNode) (scope : Nat) (comment : String) (access : Access)
    (base : Option String) (c : SyntaxNode) : Build Unit := do
  let d := Declarator.unwrap h.source c
  match d.function with
  | none => pure ()
  | some function =>
    let outside := (Signature.scopeParts d.name.toList).length ≠ 1
    if d.isFunctionPointer || (outside && !(← Build.isRecord scope)) then pure ()
    else
      let result := (base.map (· ++ d.suffix)).getD ""
      h.readCallable n scope comment result d.name function access

/-- Reads a declaration of functions. -/
def readDeclaration (readRecord : RecordReader) (n : SyntaxNode) (scope : Nat) (comment : String)
    (access : Access) : Build Unit := do
  let type := n.child? "type"
  let declarators := n.childrenAt "declarator"
  let defined ← h.readDefinedType readRecord type scope comment !declarators.isEmpty
  match type with
  | none => declarators.forM (h.readDeclarator n scope comment access none)
  | some _ => do
    let base ← h.typeText n type defined
    declarators.forM (h.readDeclarator n scope comment access (some base))

/-- Reads the data member or the member function of one declarator. `base` is the type in front of
it, and `defined` the type that is defined there. -/
def readMember (n : SyntaxNode) (owner : Nat) (access : Access) (comment : String)
    (defined : Option Nat) (base : String) (c : SyntaxNode) : Build Unit := do
  let d := Declarator.unwrap h.source c
  match d.function, d.isFunctionPointer with
  | some function, false =>
    h.readCallable n owner comment (base ++ d.suffix) d.name function access
  | _, isPointer =>
    let type := if isPointer then base ++ "(*)()" else base ++ d.suffix
    let id ← h.create (.field type access) owner d.name c comment
    match defined with
    | none => pure ()
    | some t =>
      modify (·.update id fun f =>
        { f with notes := f.notes.put "type_declaration_id" (.int t) })

/-- Reads data members and member functions. -/
def readFields (readRecord : RecordReader) (n : SyntaxNode) (owner : Nat) (access : Access)
    (comment : String) : Build Unit := do
  let type := n.child? "type"
  let declarators := n.childrenAt "declarator"
  let defined ← h.readDefinedType readRecord type owner comment !declarators.isEmpty
  let base ← h.typeText n type defined
  declarators.forM (h.readMember n owner access comment defined base)

/-- Reads a definition of another name for a type; a type without name takes the first plain one. -/
def readAlias (readRecord : RecordReader) (n : SyntaxNode) (scope : Nat) (comment : String) :
    Build Unit := do
  match n.child? "type" with
  | none => pure ()
  | some type =>
    if definesType type.kind then
      let names := (n.childrenAt "declarator").map (Declarator.unwrap h.source)
      let plain := names.find? fun d => d.suffix = "" ∧ d.function.isNone
      let otherName := plain.map (·.name)
      let _ ←
        if type.kind = "enum_specifier" then h.readEnumeration type scope comment otherName
        else readRecord type scope comment otherName

/-- Reads the members of a class. An access specifier holds for the members after it, and inside
conditional text only up to its end. -/
def readMembers (readRecord : RecordReader) :
    Nat → List SyntaxNode → Nat → Access → Build Unit
  | 0, _, _, _ => pure ()
  | levels + 1, nodes, owner, access => do
    let _ ← (h.commented none nodes).foldlM
      (fun access (n, comment) => do
        match n.kind with
        | "access_specifier" => liftExcept (h.accessOf n)
        | "field_declaration" => do
          h.readFields readRecord n owner access comment
          pure access
        | "declaration" | "function_definition" => do
          h.readDeclaration readRecord n owner comment access
          pure access
        | "type_definition" => do
          h.readAlias readRecord n owner comment
          pure access
        | kind => do
          if "preproc_".toList.isPrefixOf kind.toList then
            readMembers readRecord levels n.children owner access
          pure access)
      access
where
  /-- An outcome as a step. -/
  liftExcept (outcome : Except Fault Access) : Build Access :=
    match outcome with
    | .ok a => pure a
    | .error f => throw f

/-- The names of the bases of a class. -/
def basesOf (n : SyntaxNode) : List String :=
  (n.children.filter (·.kind == "base_class_clause")).flatMap fun clause =>
    (clause.namedChildren.filter fun b =>
      ["type_identifier", "qualified_type_identifier", "template_type"].contains b.kind).map
        h.source.text

/-- Reads a class, down to a number of levels. A specialised template is left out. -/
def readRecord : Nat → RecordReader
  | 0, _, _, _, _ => return none
  | levels + 1, n, scope, comment, otherName => do
    if (n.child? "name").any (·.kind == "template_type") then return none
    else
      let form := (RecordForm.ofKind? n.kind).getD .structForm
      let body := n.child? "body"
      let name :=
        match n.child? "name" with
        | some c => h.source.text c
        | none => otherName.getD ""
      let record : Record :=
        ⟨body.isNone, form = .structForm, form = .unionForm, false, h.basesOf n, [], [], [], [],
          none⟩
      let id ← h.create (.record record) scope name n comment
      match body with
      | none => pure ()
      | some body =>
        let access := if form = .classForm then Access.classOnly else .everyone
        h.readMembers (readRecord levels) (body.size + 1) body.children id access
      return some id

end Header

end Bindery

/-!
## Scopes of headers

What stands in a scope: namespaces, which are entered again if the scope has them already, classes,
enumerations, functions, linkage blocks and conditional text. Templates and everything else are left
out.
-/

namespace Bindery

namespace Header

variable (h : Header)

/-- The scope of a name inside a scope, which is created if it is new. -/
def enterScope (n : SyntaxNode) (scope : Nat) (name : String) : Build Nat := do
  let lib ← get
  let inside := (((lib.decl? scope).bind (·.body.scope?)).map (·.namespaces)).getD []
  match inside.find? fun id => (lib.decl? id).any (·.name == name) with
  | some id => pure id
  | none => h.create (.space .empty) scope name n ""

/-- The names of the scopes that a node opens, from the outside in. A namespace without name has
the empty one. -/
def scopeNames (n : SyntaxNode) : List String :=
  let name := h.source.textOf (n.child? "name")
  (Signature.scopeParts name.toList).map fun part => String.ofList (Text.strip part)

/-- Reads what stands in a scope, down to a number of levels. Each node comes with its comment. -/
def readItems : Nat → List (SyntaxNode × String) → Nat → Build Unit
  | 0, _, _ => pure ()
  | levels + 1, nodes, scope =>
    let readRecord := h.readRecord (levels + 1)
    nodes.forM fun (n, comment) => do
      match n.kind with
      | "namespace_definition" => do
        let target ← (h.scopeNames n).foldlM (h.enterScope n) scope
        match n.child? "body" with
        | none => pure ()
        | some body => readItems levels (h.commented none body.children) target
      | "class_specifier" | "struct_specifier" | "union_specifier" => do
        let _ ← readRecord n scope comment none
      | "enum_specifier" => do
        let _ ← h.readEnumeration n scope comment none
      | "declaration" | "function_definition" =>
        h.readDeclaration readRecord n scope comment .everyone
      | "type_definition" => h.readAlias readRecord n scope comment
      | "linkage_specification" =>
        match n.child? "body" with
        | none => pure ()
        | some body =>
          if body.kind = "declaration_list" then
            readItems levels (h.commented none body.children) scope
          else readItems levels [(body, comment)] scope
      | kind => do
        if kind = "declaration_list" ∨ "preproc_".toList.isPrefixOf kind.toList = true then
          readItems levels (h.commented none n.children) scope

end Header

end Bindery
