import Bindery.Proofs.Header.Flat

/-!
# What a header declares

The classes, enumerations, functions and data members that a header declares can be told from its
tree alone, in the order in which they are met, each with its name, with the names of the namespaces
and classes around it and, in a class, with its access level. Left out are templates and what
specialises them, enumerations without items, variables, and members that are defined outside of
their class.
-/

namespace Bindery

/-- The forms and names of the namespaces and classes around something, from the outside in. -/
abbrev ScopePath :=
  List (Form × String)

/-- Namespaces one inside of the other. -/
def ScopePath.spaces (names : List String) : ScopePath :=
  names.map fun name => (.space, name)

/-- Something that a header declares. -/
structure Declared where
  /-- Its form. -/
  form : Form
  /-- Its name. -/
  name : String
  /-- The node that has its place. -/
  node : SyntaxNode
  /-- What is around it. -/
  path : ScopePath
  /-- Its access level, if it is a data member or a member function. -/
  access : Option Access

open SyntaxNode

namespace Header

variable (h : Header)

/-! ### Access levels -/

/-- The access level behind a node, where one holds before it. -/
def accessBehind (access : Access) (n : SyntaxNode) : Access :=
  if n.kind = "access_specifier" then (h.accessOf n).toOption.getD access else access

mutual

/-- The members that a node in the body of a class stands for, each with the access level it is
given. What is set in conditional text holds up to its end. -/
def placed (access : Access) : SyntaxNode → List (SyntaxNode × Access)
  | ⟨kind, start, stop, named, missing, field, children⟩ =>
    if "preproc_".toList.isPrefixOf kind.toList then placedAmong access children
    else [(⟨kind, start, stop, named, missing, field, children⟩, access)]

/-- The members among the nodes in the body of a class, each with the access level it is given. -/
def placedAmong (access : Access) : List SyntaxNode → List (SyntaxNode × Access)
  | [] => []
  | n :: ns => placed access n ++ placedAmong (h.accessBehind access n) ns

end

theorem placed_eq (access : Access) (n : SyntaxNode) :
    h.placed access n =
      if n.isConditional then h.placedAmong access n.children else [(n, access)] := by
  obtain ⟨kind, start, stop, named, missing, field, children⟩ := n
  rw [placed]
  rfl

mutual

theorem placed_fst : ∀ (access : Access) (n : SyntaxNode),
    (h.placed access n).map (·.1) = n.members
  | access, ⟨kind, start, stop, named, missing, field, children⟩ => by
    rw [placed, members]
    split_ifs
    · exact placedAmong_fst access children
    · rfl

theorem placedAmong_fst : ∀ (access : Access) (nodes : List SyntaxNode),
    (h.placedAmong access nodes).map (·.1) = membersAmong nodes
  | _, [] => rfl
  | access, n :: ns => by
    rw [placedAmong, membersAmong, List.map_append, placed_fst access n, placedAmong_fst _ ns]

end

theorem size_le_of_mem_placedAmong (access : Access) (nodes : List SyntaxNode) :
    ∀ m ∈ h.placedAmong access nodes, m.1.size ≤ sizes nodes := by
  intro m hm
  have hmember : m.1 ∈ (h.placedAmong access nodes).map (·.1) := List.mem_map_of_mem hm
  rw [h.placedAmong_fst] at hmember
  exact size_le_of_mem_membersAmong nodes m.1 hmember

/-- The access level for the first members of a class. -/
def firstAccess (n : SyntaxNode) : Access :=
  if n.kind = "class_specifier" then .classOnly else .everyone

/-! ### What nodes declare -/

/-- The name that a declarator declares. -/
def declaratorName (c : SyntaxNode) : String :=
  (Declarator.unwrap h.source c).name

/-- Whether a declarator declares something in the scope it stands in. -/
def declaresHere (c : SyntaxNode) : Bool :=
  (Signature.scopeParts (h.declaratorName c).toList).length == 1

/-- What a function is declared as: a method in a class, else a function. -/
def callable (inClass : Bool) (path : ScopePath) (access : Access) (n : SyntaxNode)
    (name : String) : Declared :=
  if inClass then ⟨.method, name, n, path, some access⟩ else ⟨.function, name, n, path, none⟩

/-- What one declarator of a node declares, in a class or in a scope. -/
def declaratorDeclared (inClass : Bool) (path : ScopePath) (access : Access)
    (n c : SyntaxNode) : List Declared :=
  let function := callable inClass path access n (h.declaratorName c)
  match n.kind, inClass with
  | "field_declaration", true =>
    if h.declaresFunction c then [function]
    else [⟨.field, h.declaratorName c, c, path, some access⟩]
  | "declaration", _ | "function_definition", _ =>
    if h.declaresFunction c && (inClass || h.declaresHere c) then [function] else []
  | _, _ => []

/-- What the declarators of a node declare. -/
def ownDeclared (inClass : Bool) (path : ScopePath) (access : Access) (n : SyntaxNode) :
    List Declared :=
  (n.childrenAt "declarator").flatMap (h.declaratorDeclared inClass path access n)

/-- The type that is defined where functions or data members are declared. A type that is only named
there is not defined. -/
def typeOnTheWay? (n : SyntaxNode) : Option (SyntaxNode × Option String) :=
  let defines (t : SyntaxNode) : Bool :=
    definesType t.kind && ((t.child? "body").isSome || (n.childrenAt "declarator").isEmpty)
  ((n.child? "type").filter defines).map (·, none)

/-- The type that is defined where another name for it is, with the first plain one. -/
def renamedType? (n : SyntaxNode) : Option (SyntaxNode × Option String) :=
  let names := (n.childrenAt "declarator").map (Declarator.unwrap h.source)
  let plain := names.find? fun d => d.suffix = "" ∧ d.function.isNone
  ((n.child? "type").filter fun t => definesType t.kind).map (·, plain.map (·.name))

/-- The type that a node defines, in a class or in a scope, and the name that the type takes if it
has none of its own. -/
def definedType? (inClass : Bool) (n : SyntaxNode) : Option (SyntaxNode × Option String) :=
  match n.kind, inClass with
  | "field_declaration", true => typeOnTheWay? n
  | "declaration", _ | "function_definition", _ => typeOnTheWay? n
  | "type_definition", _ => h.renamedType? n
  | "class_specifier", false | "struct_specifier", false | "union_specifier", false
  | "enum_specifier", false => some (n, none)
  | _, _ => none

theorem size_of_definedType? {inClass : Bool} {n : SyntaxNode}
    {defined : SyntaxNode × Option String} (hdefined : h.definedType? inClass n = some defined) :
    defined.1.size ≤ n.size := by
  have hchild : ∀ (p : SyntaxNode → Bool) (otherName : Option String),
      ((n.child? "type").filter p).map (·, otherName) = some defined → defined.1.size ≤ n.size := by
    intro p otherName hmap
    obtain ⟨c, hc, rfl⟩ := Option.map_eq_some_iff.1 hmap
    exact Nat.le_of_lt (size_child?_lt (Option.eq_some_of_filter_eq_some hc))
  unfold definedType? at hdefined
  split at hdefined
  all_goals first
    | exact hchild _ _ hdefined
    | (cases hdefined; done)
    | (cases hdefined; exact Nat.le_refl _)

/-- The name of a type. -/
def typeName (t : SyntaxNode) (otherName : Option String) : String :=
  match t.child? "name" with
  | some c => h.source.text c
  | none => otherName.getD ""

theorem flatMap_attach {α β : Type} (l : List α) (f : α → List β) :
    (l.attach.flatMap fun a => f a.1) = l.flatMap f := by
  rw [← List.flatMap_map, List.attach_map_subtype_val]

/-- What the definition of a type declares: the type, and what its members declare if it is a
class. -/
def typeDeclared (path : ScopePath) (t : SyntaxNode) (otherName : Option String) :
    List Declared :=
  let name := h.typeName t otherName
  if t.kind = "enum_specifier" then
    if (t.child? "body").isSome then [⟨.enumeration, name, t, path, none⟩] else []
  else if (t.child? "name").any (·.kind == "template_type") then []
  else
    ⟨.record, name, t, path, none⟩ ::
      match _hbody : t.child? "body" with
      | none => []
      | some body =>
        (h.placedAmong (firstAccess t) body.children).attach.flatMap fun ⟨m, _hm⟩ =>
          (match _hdefined : h.definedType? true m.1 with
          | none => []
          | some defined => typeDeclared (path ++ [(.record, name)]) defined.1 defined.2) ++
            h.ownDeclared true (path ++ [(.record, name)]) m.2 m.1
termination_by t.size
decreasing_by
  have hmember := h.size_le_of_mem_placedAmong _ _ m _hm
  have hdefined := h.size_of_definedType? _hdefined
  have hinside := body.sizes_children_lt_size
  have hbody := size_child?_lt _hbody
  omega

/-- What the type declares that is defined somewhere, if one is. -/
def typeOf (path : ScopePath) : Option (SyntaxNode × Option String) → List Declared
  | none => []
  | some defined => h.typeDeclared path defined.1 defined.2

/-- What a node declares, in a class or in a scope: the type that it defines, with all that is
inside, and what it declares itself. -/
def declaredAt (inClass : Bool) (path : ScopePath) (access : Access) (n : SyntaxNode) :
    List Declared :=
  h.typeOf path (h.definedType? inClass n) ++ h.ownDeclared inClass path access n

theorem typeDeclared_eq (path : ScopePath) (t : SyntaxNode) (otherName : Option String) :
    h.typeDeclared path t otherName =
      if t.kind = "enum_specifier" then
        if (t.child? "body").isSome then
          [⟨.enumeration, h.typeName t otherName, t, path, none⟩]
        else []
      else if (t.child? "name").any (·.kind == "template_type") then []
      else
        ⟨.record, h.typeName t otherName, t, path, none⟩ ::
          match t.child? "body" with
          | none => []
          | some body =>
            (h.placedAmong (firstAccess t) body.children).flatMap fun m =>
              h.declaredAt true (path ++ [(.record, h.typeName t otherName)]) m.2 m.1 := by
  rw [typeDeclared]
  dsimp only
  split_ifs
  · rfl
  · rfl
  · rfl
  · refine congrArg _ ?_
    split
    · next hnone => rw [hnone]
    · next body hsome =>
      rw [hsome]
      refine Eq.trans (List.flatMap_congr fun m _ => ?_) (flatMap_attach _ _)
      unfold declaredAt typeOf
      split
      · next hnone => rw [hnone]
      · next defined hdefined => rw [hdefined]

/-- What a node in a scope declares, the items in wrappers and namespaces included. -/
def itemDeclared (path : ScopePath) (n : SyntaxNode) : List Declared :=
  if n.kind = "linkage_specification" then
    match _hbody : n.child? "body" with
    | none => []
    | some body => itemDeclared path body
  else if n.kind = "declaration_list" ∨ n.isConditional = true then
    n.children.attach.flatMap fun ⟨c, _hc⟩ => itemDeclared path c
  else if n.kind = "namespace_definition" then
    match _hbody : n.child? "body" with
    | none => []
    | some body =>
      body.children.attach.flatMap fun ⟨c, _hc⟩ => itemDeclared (path ++ .spaces (h.scopeNames n)) c
  else h.declaredAt false path .everyone n
termination_by n.size
decreasing_by
  · exact size_child?_lt _hbody
  · exact Nat.lt_of_le_of_lt (size_le_sizes _hc) n.sizes_children_lt_size
  · have hinside := size_le_sizes _hc
    have hchildren := body.sizes_children_lt_size
    have hbody := size_child?_lt _hbody
    omega

theorem itemDeclared_eq (path : ScopePath) (n : SyntaxNode) :
    h.itemDeclared path n =
      if n.kind = "linkage_specification" then
        match n.child? "body" with
        | none => []
        | some body => h.itemDeclared path body
      else if n.kind = "declaration_list" ∨ n.isConditional = true then
        n.children.flatMap (h.itemDeclared path)
      else if n.kind = "namespace_definition" then
        match n.child? "body" with
        | none => []
        | some body => body.children.flatMap (h.itemDeclared (path ++ .spaces (h.scopeNames n)))
      else h.declaredAt false path .everyone n := by
  rw [itemDeclared]
  split_ifs
  · split
    · next hnone => rw [hnone]
    · next body hsome => rw [hsome]
  · exact flatMap_attach _ _
  · split
    · next hnone => rw [hnone]
    · next body hsome =>
      rw [hsome]
      exact flatMap_attach _ _
  · rfl

/-- What a header declares. -/
def declared (tree : SyntaxNode) : List Declared :=
  tree.children.flatMap (h.itemDeclared [])

end Header

end Bindery
