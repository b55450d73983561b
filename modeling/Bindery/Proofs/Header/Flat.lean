import Bindery.Proofs.Header.Enumeration
import Bindery.Proofs.Header.Levels

/-!
# Wrappers around what stands in a scope

Linkage blocks, lists of declarations and conditional text open no scope. Reading goes through them:
what is read of a scope is what would be read if all that stands in them stood there itself, however
they are nested, in each other or in namespaces.
-/

namespace Bindery

namespace SyntaxNode

/-- Whether a node only wraps what stands in the scope around it. -/
def isWrapper (n : SyntaxNode) : Bool :=
  n.kind == "linkage_specification" || n.kind == "declaration_list" || n.isConditional

mutual

/-- The items that a node in a scope stands for: those inside of it if it is a wrapper, else itself,
with the items inside of its body if it is a namespace. -/
def items : SyntaxNode → List SyntaxNode
  | ⟨kind, start, stop, named, missing, field, children⟩ =>
    if kind = "linkage_specification" then itemsAtBody children
    else if kind = "declaration_list" ∨ "preproc_".toList.isPrefixOf kind.toList = true then
      itemsAmong children
    else if kind = "namespace_definition" then
      [⟨kind, start, stop, named, missing, field, unwrapBody children⟩]
    else [⟨kind, start, stop, named, missing, field, children⟩]

/-- The items among the nodes in a scope. -/
def itemsAmong : List SyntaxNode → List SyntaxNode
  | [] => []
  | n :: ns => n.items ++ itemsAmong ns

/-- The items that the body among some children stands for. -/
def itemsAtBody : List SyntaxNode → List SyntaxNode
  | [] => []
  | n :: ns => if n.field == some "body" then n.items else itemsAtBody ns

/-- A node with the items among its children. -/
def unwrap : SyntaxNode → SyntaxNode
  | ⟨kind, start, stop, named, missing, field, children⟩ =>
    ⟨kind, start, stop, named, missing, field, itemsAmong children⟩

/-- Some children, with the items in the body among them. -/
def unwrapBody : List SyntaxNode → List SyntaxNode
  | [] => []
  | n :: ns => if n.field == some "body" then n.unwrap :: ns else n :: unwrapBody ns

end

mutual

/-- Whether there is a comment in a tree. -/
def hasComment : SyntaxNode → Bool
  | ⟨kind, _, _, _, _, _, children⟩ => kind == "comment" || haveComment children

/-- Whether there is a comment in one of several trees. -/
def haveComment : List SyntaxNode → Bool
  | [] => false
  | n :: ns => n.hasComment || haveComment ns

end

theorem unwrap_eq (n : SyntaxNode) : n.unwrap = { n with children := itemsAmong n.children } := by
  obtain ⟨kind, start, stop, named, missing, field, children⟩ := n
  rw [unwrap]

theorem items_of_linkage {n : SyntaxNode} (hn : n.kind = "linkage_specification") :
    n.items = itemsAtBody n.children := by
  obtain ⟨kind, start, stop, named, missing, field, children⟩ := n
  rw [items, if_pos hn]

theorem items_of_list {n : SyntaxNode}
    (hn : n.kind = "declaration_list" ∨ n.isConditional = true) :
    n.items = itemsAmong n.children := by
  obtain ⟨kind, start, stop, named, missing, field, children⟩ := n
  have hlist : kind = "declaration_list" ∨ "preproc_".toList.isPrefixOf kind.toList = true := hn
  have hlinkage : kind ≠ "linkage_specification" := by
    rintro rfl
    exact absurd hlist (by decide)
  rw [items, if_neg hlinkage, if_pos hlist]

theorem items_of_namespace {n : SyntaxNode} (hn : n.kind = "namespace_definition") :
    n.items = [{ n with children := unwrapBody n.children }] := by
  obtain ⟨kind, start, stop, named, missing, field, children⟩ := n
  obtain rfl : kind = "namespace_definition" := hn
  rw [items, if_neg (by decide), if_neg (by decide), if_pos rfl]

theorem items_of_other {n : SyntaxNode} (hwrapper : n.isWrapper = false)
    (hnamespace : n.kind ≠ "namespace_definition") : n.items = [n] := by
  simp only [isWrapper, Bool.or_eq_false_iff, beq_eq_false_iff_ne] at hwrapper
  obtain ⟨kind, start, stop, named, missing, field, children⟩ := n
  obtain ⟨⟨hlinkage, hlist⟩, hconditional⟩ := hwrapper
  have hnot : ¬(kind = "declaration_list" ∨ "preproc_".toList.isPrefixOf kind.toList = true) := by
    rintro (hkind | hkind)
    · exact hlist hkind
    · exact absurd (hconditional.symm.trans hkind) (by decide)
  rw [items, if_neg hlinkage, if_neg hnot, if_neg hnamespace]

theorem itemsAtBody_eq (children : List SyntaxNode) :
    itemsAtBody children =
      ((children.find? (·.field == some "body")).map items).getD [] := by
  induction children with
  | nil => rfl
  | cons n ns ih =>
    rw [itemsAtBody, List.find?_cons]
    cases n.field == some "body" with
    | true => rfl
    | false => exact ih

/-- The items in a body leave what stands beside the body. -/
theorem find?_unwrapBody {field : String} (hfield : field ≠ "body") (children : List SyntaxNode) :
    (unwrapBody children).find? (·.field == some field) =
      children.find? (·.field == some field) := by
  induction children with
  | nil => rfl
  | cons n ns ih =>
    rw [unwrapBody]
    cases hbody : n.field == some "body" with
    | true =>
      have hn : (n.field == some field) = false := by
        rw [eq_of_beq hbody, beq_eq_false_iff_ne]
        exact fun h => hfield (Option.some.inj h).symm
      rw [if_pos rfl, List.find?_cons_of_neg, List.find?_cons_of_neg]
      · rw [hn]
        exact Bool.false_ne_true
      · rw [unwrap_eq, hn]
        exact Bool.false_ne_true
    | false =>
      rw [if_neg Bool.false_ne_true, List.find?_cons, List.find?_cons, ih]

theorem find?_body_unwrapBody (children : List SyntaxNode) :
    (unwrapBody children).find? (·.field == some "body") =
      (children.find? (·.field == some "body")).map unwrap := by
  induction children with
  | nil => rfl
  | cons n ns ih =>
    rw [unwrapBody]
    cases hbody : n.field == some "body" with
    | true =>
      rw [if_pos rfl, List.find?_cons_of_pos, List.find?_cons_of_pos]
      · rfl
      · exact hbody
      · rw [unwrap_eq]
        exact hbody
    | false =>
      rw [if_neg Bool.false_ne_true, List.find?_cons, List.find?_cons, hbody, ih]

theorem isWrapper_eq_false {n : SyntaxNode} (hlinkage : n.kind ≠ "linkage_specification")
    (hlist : ¬(n.kind = "declaration_list" ∨ "preproc_".toList.isPrefixOf n.kind.toList = true)) :
    n.isWrapper = false := by
  obtain ⟨hlist, hconditional⟩ := not_or.1 hlist
  rw [isWrapper, beq_false_of_ne hlinkage, beq_false_of_ne hlist]
  exact Bool.eq_false_iff.2 hconditional

/-- What stands in a scope where nodes stand: the nodes, and what stands in the bodies of the
namespaces among them, at any depth. -/
inductive StandsAmong (nodes : List SyntaxNode) : SyntaxNode → Prop where
  /-- One of the nodes. -/
  | node {n : SyntaxNode} : n ∈ nodes → StandsAmong nodes n
  /-- In the body of a namespace. -/
  | inside {n body c : SyntaxNode} : StandsAmong nodes n → n.kind = "namespace_definition" →
      n.child? "body" = some body → c ∈ body.children → StandsAmong nodes c

/-- A node that is no wrapper and has only items in its body if it is a namespace. -/
def IsUnwrapped (n : SyntaxNode) : Prop :=
  n.isWrapper = false ∧
    (n.kind = "namespace_definition" → ∃ children, n.children = unwrapBody children)

mutual

theorem isUnwrapped_of_mem_items : ∀ n : SyntaxNode, ∀ m ∈ n.items, m.IsUnwrapped
  | ⟨kind, start, stop, named, missing, field, children⟩, m, hm => by
    rw [items] at hm
    split_ifs at hm with hlinkage hlist hnamespace
    · exact isUnwrapped_of_mem_itemsAtBody children m hm
    · exact isUnwrapped_of_mem_itemsAmong children m hm
    · cases List.mem_singleton.1 hm
      exact ⟨isWrapper_eq_false hlinkage hlist, fun _ => ⟨children, rfl⟩⟩
    · cases List.mem_singleton.1 hm
      exact ⟨isWrapper_eq_false hlinkage hlist, fun hkind => absurd hkind hnamespace⟩

theorem isUnwrapped_of_mem_itemsAmong :
    ∀ nodes : List SyntaxNode, ∀ m ∈ itemsAmong nodes, m.IsUnwrapped
  | [], _, hm => nomatch hm
  | n :: ns, m, hm => by
    rw [itemsAmong] at hm
    rcases List.mem_append.1 hm with hm | hm
    · exact isUnwrapped_of_mem_items n m hm
    · exact isUnwrapped_of_mem_itemsAmong ns m hm

theorem isUnwrapped_of_mem_itemsAtBody :
    ∀ nodes : List SyntaxNode, ∀ m ∈ itemsAtBody nodes, m.IsUnwrapped
  | [], _, hm => nomatch hm
  | n :: ns, m, hm => by
    rw [itemsAtBody] at hm
    split_ifs at hm
    · exact isUnwrapped_of_mem_items n m hm
    · exact isUnwrapped_of_mem_itemsAtBody ns m hm

end

/-- No wrapper is left among the items, at any depth. -/
theorem StandsAmong.isUnwrapped {nodes : List SyntaxNode} {m : SyntaxNode}
    (hm : StandsAmong (itemsAmong nodes) m) : m.IsUnwrapped := by
  induction hm with
  | node hm => exact isUnwrapped_of_mem_itemsAmong nodes _ hm
  | @inside n body c hstands hnamespace hbody hc ih =>
    obtain ⟨children, hchildren⟩ := ih.2 hnamespace
    have hfound := find?_body_unwrapBody children
    rw [← hchildren] at hfound
    obtain ⟨old, -, rfl⟩ := Option.map_eq_some_iff.1 (hfound.symm.trans hbody)
    rw [unwrap_eq] at hc
    exact isUnwrapped_of_mem_itemsAmong old.children c hc

theorem hasComment_eq (n : SyntaxNode) :
    n.hasComment = (n.kind == "comment" || haveComment n.children) := by
  obtain ⟨kind, start, stop, named, missing, field, children⟩ := n
  rw [hasComment]

theorem hasComment_of_mem {n : SyntaxNode} {nodes : List SyntaxNode} (hn : n ∈ nodes)
    (hnodes : haveComment nodes = false) : n.hasComment = false := by
  induction nodes with
  | nil => cases hn
  | cons c nodes ih =>
    rw [haveComment, Bool.or_eq_false_iff] at hnodes
    rcases List.mem_cons.1 hn with rfl | hn
    · exact hnodes.1
    · exact ih hn hnodes.2

theorem haveComment_children {n : SyntaxNode} (hn : n.hasComment = false) :
    haveComment n.children = false := by
  rw [hasComment_eq, Bool.or_eq_false_iff] at hn
  exact hn.2

theorem haveComment_append (ns ms : List SyntaxNode) :
    haveComment (ns ++ ms) = (haveComment ns || haveComment ms) := by
  induction ns with
  | nil => rfl
  | cons n ns ih => rw [List.cons_append, haveComment, haveComment, ih, Bool.or_assoc]

mutual

/-- Where there are no comments, there are none among the items. -/
theorem haveComment_items : ∀ n : SyntaxNode, n.hasComment = false → haveComment n.items = false
  | ⟨kind, start, stop, named, missing, field, children⟩, hn => by
    have hchildren := haveComment_children hn
    rw [items]
    split_ifs
    · exact haveComment_itemsAtBody children hchildren
    · exact haveComment_itemsAmong children hchildren
    · rw [hasComment, Bool.or_eq_false_iff] at hn
      rw [haveComment, hasComment, hn.1, haveComment_unwrapBody children hchildren]
      rfl
    · rw [haveComment, hn]
      rfl

theorem haveComment_itemsAmong :
    ∀ nodes : List SyntaxNode, haveComment nodes = false → haveComment (itemsAmong nodes) = false
  | [], _ => rfl
  | n :: ns, hnodes => by
    rw [haveComment, Bool.or_eq_false_iff] at hnodes
    rw [itemsAmong, haveComment_append, haveComment_items n hnodes.1,
      haveComment_itemsAmong ns hnodes.2]
    rfl

theorem haveComment_itemsAtBody :
    ∀ nodes : List SyntaxNode, haveComment nodes = false → haveComment (itemsAtBody nodes) = false
  | [], _ => rfl
  | n :: ns, hnodes => by
    rw [haveComment, Bool.or_eq_false_iff] at hnodes
    rw [itemsAtBody]
    split_ifs
    · exact haveComment_items n hnodes.1
    · exact haveComment_itemsAtBody ns hnodes.2

theorem hasComment_unwrap : ∀ n : SyntaxNode, n.hasComment = false → n.unwrap.hasComment = false
  | ⟨kind, start, stop, named, missing, field, children⟩, hn => by
    rw [hasComment, Bool.or_eq_false_iff] at hn
    rw [unwrap, hasComment, hn.1, haveComment_itemsAmong children hn.2]
    rfl

theorem haveComment_unwrapBody :
    ∀ nodes : List SyntaxNode, haveComment nodes = false → haveComment (unwrapBody nodes) = false
  | [], _ => rfl
  | n :: ns, hnodes => by
    rw [haveComment, Bool.or_eq_false_iff] at hnodes
    rw [unwrapBody]
    split_ifs
    · rw [haveComment, hasComment_unwrap n hnodes.1, hnodes.2]
      rfl
    · rw [haveComment, hnodes.1, haveComment_unwrapBody ns hnodes.2]
      rfl

end

end SyntaxNode

open SyntaxNode

namespace Header

variable (h : Header)

/-- Reads nodes without comments. -/
def fullPlain (nodes : List SyntaxNode) (scope : Nat) : Build Unit :=
  h.fullItems (nodes.map fun n => (n, "")) scope

theorem fullPlain_cons (n : SyntaxNode) (nodes : List SyntaxNode) (scope : Nat) :
    h.fullPlain (n :: nodes) scope = (do
      h.itemStep h.fullRecord h.fullItems scope (n, "")
      h.fullPlain nodes scope) := by
  unfold fullPlain
  rw [fullItems_eq, fullItems_eq]
  rfl

theorem fullPlain_singleton (n : SyntaxNode) (scope : Nat) :
    h.fullPlain [n] scope = h.itemStep h.fullRecord h.fullItems scope (n, "") := by
  rw [fullPlain_cons]
  exact bind_pure_unit

theorem fullPlain_append (ns ms : List SyntaxNode) (scope : Nat) :
    h.fullPlain (ns ++ ms) scope = (do h.fullPlain ns scope; h.fullPlain ms scope) := by
  induction ns with
  | nil => exact (pure_bind ..).symm
  | cons n ns ih => rw [List.cons_append, fullPlain_cons, fullPlain_cons, ih, bind_assoc]

/-- Where there are no comments, nothing has one. -/
theorem commented_of_haveComment {nodes : List SyntaxNode} (hnodes : haveComment nodes = false) :
    h.commented none nodes = nodes.map fun n => (n, "") := by
  induction nodes with
  | nil => rfl
  | cons n nodes ih =>
    rw [haveComment, Bool.or_eq_false_iff, hasComment_eq, Bool.or_eq_false_iff,
      beq_eq_false_iff_ne] at hnodes
    rw [commented, if_neg hnodes.1.1, ih hnodes.2]
    rfl

section Steps

variable {readRecord : RecordReader} {inside : List (SyntaxNode × String) → Nat → Build Unit}
  {n : SyntaxNode}

theorem itemStep_namespace (hn : n.kind = "namespace_definition") (scope : Nat)
    (comment : String) :
    h.itemStep readRecord inside scope (n, comment) = (do
      let target ← (h.scopeNames n).foldlM (h.enterScope n) scope
      match n.child? "body" with
      | none => pure ()
      | some body => inside (h.commented none body.children) target) := by
  obtain ⟨kind, start, stop, named, missing, field, children⟩ := n
  obtain rfl : kind = _ := hn
  rfl

theorem itemStep_linkage (hn : n.kind = "linkage_specification") (scope : Nat)
    (comment : String) :
    h.itemStep readRecord inside scope (n, comment) =
      match n.child? "body" with
      | none => pure ()
      | some body =>
        if body.kind = "declaration_list" then inside (h.commented none body.children) scope
        else inside [(body, comment)] scope := by
  obtain ⟨kind, start, stop, named, missing, field, children⟩ := n
  obtain rfl : kind = _ := hn
  rfl

theorem itemStep_list (hn : n.kind = "declaration_list" ∨ n.isConditional = true) (scope : Nat)
    (comment : String) :
    h.itemStep readRecord inside scope (n, comment) =
      inside (h.commented none n.children) scope := by
  have hother : ∀ kind ∈ ["namespace_definition", "class_specifier", "struct_specifier",
      "union_specifier", "enum_specifier", "declaration", "function_definition", "type_definition",
      "linkage_specification"], n.kind ≠ kind := by
    rintro kind hkind rfl
    unfold isConditional at hn
    revert hn
    generalize n.kind = kind at hkind ⊢
    revert kind
    decide
  unfold itemStep
  split
  all_goals first
    | exact absurd ‹_› (hother _ (by decide))
    | exact if_pos hn

end Steps

/-- Reading a namespace looks at its name, its start and its body. -/
theorem itemStep_unwrapBody {n : SyntaxNode} (hn : n.kind = "namespace_definition")
    {inside : List (SyntaxNode × String) → Nat → Build Unit}
    (hinside : ∀ body, n.child? "body" = some body →
      inside (h.commented none (itemsAmong body.children)) =
        inside (h.commented none body.children)) (scope : Nat) (comment : String) :
    h.itemStep h.fullRecord inside scope ({ n with children := unwrapBody n.children }, comment) =
      h.itemStep h.fullRecord inside scope (n, comment) := by
  have hnames : h.scopeNames { n with children := unwrapBody n.children } = h.scopeNames n := by
    unfold scopeNames child?
    rw [find?_unwrapBody (by decide)]
  have hbody : SyntaxNode.child? { n with children := unwrapBody n.children } "body" =
      (n.child? "body").map unwrap :=
    find?_body_unwrapBody n.children
  rw [h.itemStep_namespace (by exact hn), h.itemStep_namespace hn, hnames, hbody]
  refine bind_congr fun target => ?_
  cases hchild : n.child? "body" with
  | none => rfl
  | some body =>
    rw [Option.map_some, unwrap_eq]
    exact congrFun (hinside body hchild) target

/-- A node in a scope is read as its items, if what stands inside of it is. -/
theorem itemStep_items {n : SyntaxNode} (hn : n.hasComment = false)
    (ih : ∀ nodes, sizes nodes < n.size → haveComment nodes = false →
      h.fullPlain nodes = h.fullPlain (itemsAmong nodes)) (scope : Nat) :
    h.itemStep h.fullRecord h.fullItems scope (n, "") = h.fullPlain n.items scope := by
  have hinside : ∀ m : SyntaxNode, m.size ≤ n.size → m.hasComment = false →
      h.fullItems (h.commented none m.children) = h.fullPlain (itemsAmong m.children) := by
    intro m hm hplain
    have hnone := haveComment_children hplain
    rw [h.commented_of_haveComment hnone]
    exact ih _ (Nat.lt_of_lt_of_le m.sizes_children_lt_size hm) hnone
  have hbody : ∀ body, n.child? "body" = some body →
      body.size < n.size ∧ body.hasComment = false := fun body hbody =>
    ⟨size_child?_lt hbody, hasComment_of_mem (child?_mem hbody) (haveComment_children hn)⟩
  by_cases hlinkage : n.kind = "linkage_specification"
  · have hfound : itemsAtBody n.children = ((n.child? "body").map items).getD [] :=
      itemsAtBody_eq n.children
    rw [items_of_linkage hlinkage, hfound, h.itemStep_linkage hlinkage]
    cases hchild : n.child? "body" with
    | none => rfl
    | some body =>
      obtain ⟨hlt, hplain⟩ := hbody body hchild
      dsimp only [Option.map_some, Option.getD_some]
      split_ifs with hlist
      · rw [items_of_list (.inl hlist), hinside body (Nat.le_of_lt hlt) hplain]
      · have hone := ih [body] (by simpa [sizes] using hlt) (by simpa [haveComment] using hplain)
        rw [itemsAmong, itemsAmong, List.append_nil] at hone
        exact congrFun hone scope
  by_cases hlist : n.kind = "declaration_list" ∨ n.isConditional = true
  · rw [items_of_list hlist, ← hinside n (Nat.le_refl _) hn, h.itemStep_list hlist]
  by_cases hnamespace : n.kind = "namespace_definition"
  · rw [items_of_namespace hnamespace, fullPlain_singleton]
    refine (h.itemStep_unwrapBody hnamespace (fun body hchild => ?_) scope "").symm
    obtain ⟨hlt, hplain⟩ := hbody body hchild
    have hnone := haveComment_itemsAmong _ (haveComment_children hplain)
    rw [hinside body (Nat.le_of_lt hlt) hplain, h.commented_of_haveComment hnone]
    rfl
  · rw [items_of_other (isWrapper_eq_false hlinkage hlist) hnamespace, fullPlain_singleton]

/-- Nodes without comments are read as the items among them. -/
theorem fullPlain_items (nodes : List SyntaxNode) (hnodes : haveComment nodes = false) :
    h.fullPlain nodes = h.fullPlain (itemsAmong nodes) := by
  induction hsize : sizes nodes using Nat.strongRecOn generalizing nodes with
  | ind size ih =>
    funext scope
    cases nodes with
    | nil => rfl
    | cons n ns =>
      rw [haveComment, Bool.or_eq_false_iff] at hnodes
      rw [sizes] at hsize
      have hpos := n.size_pos
      have hrest := ih (sizes ns) (by omega) ns hnodes.2 rfl
      have hfirst := h.itemStep_items hnodes.1
        (fun ms hms hplain => ih (sizes ms) (by omega) ms hplain rfl) scope
      rw [fullPlain_cons, hfirst, hrest, itemsAmong, fullPlain_append]

/-- Linkage blocks, lists of declarations and conditional text do not matter where there are no
comments: reading nodes leaves the very library, and ends the very way, that reading the items among
them does, and among the items there are no such wrappers, however deep. -/
theorem readItems_itemsAmong {nodes : List SyntaxNode} (hnodes : haveComment nodes = false)
    {levels levels' : Nat} (hlevels : sizes nodes < levels)
    (hlevels' : sizes (itemsAmong nodes) < levels') (scope : Nat) (lib : Library) :
    (h.readItems levels (h.commented none nodes) scope).perform lib =
        (h.readItems levels' (h.commented none (itemsAmong nodes)) scope).perform lib ∧
      ∀ m, StandsAmong (itemsAmong nodes) m → m.isWrapper = false := by
  have hfull : ∀ {ns : List SyntaxNode} {l : Nat}, haveComment ns = false → sizes ns < l →
      h.readItems l (h.commented none ns) = h.fullPlain ns := by
    intro ns l hns hl
    have hle := h.sizes_commented_le none ns
    rw [h.readItems_eq_full (by omega), h.commented_of_haveComment hns]
    rfl
  refine ⟨?_, fun m hm => hm.isUnwrapped.1⟩
  rw [hfull hnodes hlevels, hfull (haveComment_itemsAmong nodes hnodes) hlevels',
    h.fullPlain_items nodes hnodes]

end Header

/-! ### A function in wrappers -/

/-- A header with a function in a linkage block, in a namespace, in conditional text and in another
linkage block. -/
def wrappedHeader : Header :=
  let lines := ["extern \"C\" \x7b", "#ifdef A", "namespace n \x7b", "extern \"C\" int f();",
    "\x7d", "#endif", "\x7d"]
  ⟨"a.h", ("\n".intercalate lines).toUTF8.toList⟩

/-- The function in the tree of the header. -/
def wrappedFunction : SyntaxNode :=
  ruleNode "declaration" 47 55 (some "body")
    [ruleNode "primitive_type" 47 50 (some "type") [],
      ruleNode "function_declarator" 51 54 (some "declarator")
        [ruleNode "identifier" 51 52 (some "declarator") [],
          ruleNode "parameter_list" 52 54 (some "parameters") []]]

/-- The namespace in the tree of the header, with a body. -/
def wrappedNamespace (body : List SyntaxNode) : SyntaxNode :=
  ruleNode "namespace_definition" 22 57 none
    [ruleNode "namespace_identifier" 32 33 (some "name") [],
      ruleNode "declaration_list" 34 57 (some "body") body]

/-- The linkage block in the tree of the header. -/
def wrappedBlock : SyntaxNode :=
  ruleNode "linkage_specification" 0 66 none
    [ruleNode "declaration_list" 11 66 (some "body")
      [ruleNode "preproc_ifdef" 13 64 none
        [wrappedNamespace [ruleNode "linkage_specification" 36 55 none [wrappedFunction]]]]]

/-- The namespace and the function are read as if there were no linkage blocks. -/
theorem readItems_itemsAmong_wrapped :
    haveComment [wrappedBlock] = false ∧
      itemsAmong [wrappedBlock] = [wrappedNamespace [wrappedFunction]] ∧
      (wrappedHeader.readItems 20 (wrappedHeader.commented none [wrappedBlock]) 0).perform oneUnit =
        (wrappedHeader.readItems 20
          (wrappedHeader.commented none (itemsAmong [wrappedBlock])) 0).perform oneUnit ∧
      (((wrappedHeader.readItems 20 (wrappedHeader.commented none [wrappedBlock]) 0).perform
        oneUnit).2.decl? 2).map (fun d => (d.name, d.parent)) = some ("f", some 1) := by
  have hplain : haveComment [wrappedBlock] = false := by decide +kernel
  refine ⟨hplain, rfl, ?_, by decide +kernel⟩
  exact (wrappedHeader.readItems_itemsAmong hplain (by decide +kernel) (by decide +kernel) 0
    oneUnit).1

end Bindery
