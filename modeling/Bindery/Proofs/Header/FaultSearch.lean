import Bindery.Header.Parse
import Bindery.Proofs.Header.Levels

/-!
# The search for faults

The search for a fault keeps a stack of trees, and of the children of a node it puts only those on
the stack that have a fault in them. It is compared here with the plain search through all nodes of
a tree in pre-order. What carries the comparison is the stack as a whole: the nodes of its trees,
one tree after the other, are what a plain search has yet to go through, and leaving out trees
without fault does not change what it finds.
-/

namespace Bindery

namespace SyntaxNode

/-! ### The nodes of a tree -/

mutual

/-- The nodes of a tree in pre-order. -/
def nodes : SyntaxNode → List SyntaxNode
  | ⟨kind, start, stop, named, missing, field, children⟩ =>
    ⟨kind, start, stop, named, missing, field, children⟩ :: nodesAmong children

/-- The nodes of several trees, one tree after the other. -/
def nodesAmong : List SyntaxNode → List SyntaxNode
  | [] => []
  | n :: ns => n.nodes ++ nodesAmong ns

end

theorem nodes_eq (n : SyntaxNode) : n.nodes = n :: nodesAmong n.children := by
  obtain ⟨kind, start, stop, named, missing, field, children⟩ := n
  rw [nodes]

theorem nodesAmong_append (ns ms : List SyntaxNode) :
    nodesAmong (ns ++ ms) = nodesAmong ns ++ nodesAmong ms := by
  induction ns with
  | nil => rfl
  | cons n ns ih => rw [List.cons_append, nodesAmong, nodesAmong, ih, List.append_assoc]

theorem nodesAmong_singleton (n : SyntaxNode) : nodesAmong [n] = n.nodes := by
  rw [nodesAmong, nodesAmong, List.append_nil]

mutual

theorem any_isFault_nodes : ∀ n : SyntaxNode, n.nodes.any isFault = n.hasFault
  | ⟨kind, start, stop, named, missing, field, children⟩ => by
    rw [nodes, List.any_cons, any_isFault_nodesAmong children, hasFault]
    rfl

theorem any_isFault_nodesAmong : ∀ ns : List SyntaxNode, (nodesAmong ns).any isFault = haveFault ns
  | [] => rfl
  | n :: ns => by
    rw [nodesAmong, List.any_append, any_isFault_nodes n, any_isFault_nodesAmong ns, haveFault]

end

/-- A tree has a fault where one of its nodes is one. -/
theorem hasFault_iff {n : SyntaxNode} : n.hasFault = true ↔ ∃ m ∈ n.nodes, m.isFault = true := by
  rw [← any_isFault_nodes, List.any_eq_true]

/-- A tree has a fault where its top is one or the tree of a child has one. -/
theorem hasFault_eq (n : SyntaxNode) : n.hasFault = (n.isFault || n.children.any hasFault) := by
  have hamong : ∀ ns : List SyntaxNode, haveFault ns = ns.any hasFault := by
    intro ns
    induction ns with
    | nil => rfl
    | cons c ns ih => rw [haveFault, List.any_cons, ih]
  obtain ⟨kind, start, stop, named, missing, field, children⟩ := n
  rw [hasFault, hamong]
  rfl

/-! ### Searching with a stack -/

/-- The search with a stack, told by its steps, without a bound on how many it takes: it ends when
the stack is empty or a fault is on top, and otherwise goes on with the children of the node on top
that have a fault in them. -/
inductive Searches : List SyntaxNode → Option SyntaxNode → Prop
  | exhausted : Searches [] none
  | found {n : SyntaxNode} {rest : List SyntaxNode} (fault : n.isFault = true) :
      Searches (n :: rest) (some n)
  | deeper {n : SyntaxNode} {rest : List SyntaxNode} {result : Option SyntaxNode}
      (plain : n.isFault = false)
      (further : Searches (n.children.filter (·.hasFault) ++ rest) result) :
      Searches (n :: rest) result

/-- The search comes to one result at most. -/
theorem Searches.unique {stack : List SyntaxNode} {r r' : Option SyntaxNode}
    (h : Searches stack r) (h' : Searches stack r') : r = r' := by
  induction h with
  | exhausted =>
    cases h'
    rfl
  | found fault =>
    cases h' with
    | found => rfl
    | deeper plain =>
      rw [plain] at fault
      cases fault
  | deeper plain _ ih =>
    cases h' with
    | found fault =>
      rw [plain] at fault
      cases fault
    | deeper _ further => exact ih further

/-- Trees without fault hide nothing from a plain search. -/
theorem find?_nodesAmong_filter (ns : List SyntaxNode) :
    (nodesAmong (ns.filter (·.hasFault))).find? isFault = (nodesAmong ns).find? isFault := by
  induction ns with
  | nil => rfl
  | cons n ns ih =>
    rw [nodesAmong, List.find?_append]
    cases hn : n.hasFault with
    | true => rw [List.filter_cons_of_pos hn, nodesAmong, List.find?_append, ih]
    | false =>
      have hnone : n.nodes.find? isFault = none := by
        rw [List.find?_eq_none]
        intro m hm hfault
        rw [hasFault_iff.2 ⟨m, hm, hfault⟩] at hn
        cases hn
      rw [List.filter_cons_of_neg (by rw [hn]; exact Bool.false_ne_true), ih, hnone]
      rfl

theorem sizes_filter_le (p : SyntaxNode → Bool) (ns : List SyntaxNode) :
    sizes (ns.filter p) ≤ sizes ns := by
  induction ns with
  | nil => exact Nat.le_refl _
  | cons n ns ih =>
    rw [sizes]
    cases hn : p n with
    | true =>
      rw [List.filter_cons_of_pos hn, sizes]
      exact Nat.add_le_add_left ih _
    | false =>
      rw [List.filter_cons_of_neg (by rw [hn]; exact Bool.false_ne_true)]
      exact Nat.le_trans ih (Nat.le_add_left _ _)

/-- What a step puts on the stack has fewer nodes than what it takes off. -/
theorem sizes_step_lt (n : SyntaxNode) (rest : List SyntaxNode) :
    sizes (n.children.filter (·.hasFault) ++ rest) < sizes (n :: rest) := by
  have hless := sizes_filter_le (·.hasFault) n.children
  rw [sizes_append, sizes, n.size_eq]
  omega

/-- A step changes nothing about what a plain search through the stack finds. -/
theorem find?_step {n : SyntaxNode} (hn : n.isFault = false) (rest : List SyntaxNode) :
    (nodesAmong (n.children.filter (·.hasFault) ++ rest)).find? isFault =
      (nodesAmong (n :: rest)).find? isFault := by
  rw [nodesAmong_append, List.find?_append, find?_nodesAmong_filter, ← List.find?_append,
    nodesAmong, nodes_eq, List.cons_append, List.find?_cons_of_neg (by rw [hn]; exact Bool.false_ne_true)]

/-- From every stack the search ends, with what a plain search through the stack finds. -/
theorem searches_find? (stack : List SyntaxNode) :
    Searches stack ((nodesAmong stack).find? isFault) := by
  induction hsize : sizes stack using Nat.strong_induction_on generalizing stack with
  | h size ih =>
    cases stack with
    | nil => exact .exhausted
    | cons n rest =>
      cases hn : n.isFault with
      | true =>
        rw [nodesAmong, nodes_eq, List.cons_append, List.find?_cons_of_pos hn]
        exact .found hn
      | false =>
        rw [← find?_step hn]
        exact .deeper hn (ih _ (hsize ▸ sizes_step_lt n rest) _ rfl)

/-- As many steps as there are nodes on the stack are enough. -/
theorem searches_searchFault {steps : Nat} {stack : List SyntaxNode}
    (hsteps : sizes stack ≤ steps) : Searches stack (searchFault steps stack) := by
  induction steps generalizing stack with
  | zero =>
    cases stack with
    | nil => exact .exhausted
    | cons n rest =>
      have hpos := n.size_pos
      rw [sizes] at hsteps
      omega
  | succ steps ih =>
    cases stack with
    | nil => exact .exhausted
    | cons n rest =>
      unfold searchFault
      cases hn : n.isFault with
      | true => exact .found hn
      | false => exact .deeper hn (ih (Nat.le_of_lt_succ (Nat.lt_of_lt_of_le (sizes_step_lt n rest)
          hsteps)))

theorem searchFault_eq_find? (n : SyntaxNode) (more : Nat) :
    searchFault (n.size + more) [n] = n.nodes.find? isFault := by
  have hsteps : sizes [n] ≤ n.size + more := Nat.le_add_right n.size more
  have hfound := (searches_searchFault hsteps).unique (searches_find? [n])
  rwa [nodesAmong_singleton] at hfound

theorem isSome_find?_isFault (n : SyntaxNode) : (n.nodes.find? isFault).isSome = n.hasFault := by
  rw [← any_isFault_nodes, List.isSome_find?]

/-- The first fault is what a plain search through the tree finds. -/
theorem firstFault?_eq_find? (n : SyntaxNode) : n.firstFault? = n.nodes.find? isFault := by
  have hsearch : searchFault n.size [n] = n.nodes.find? isFault := searchFault_eq_find? n 0
  have hsome := isSome_find?_isFault n
  unfold firstFault?
  rw [hsearch]
  cases hn : n.hasFault with
  | false =>
    rw [hn, Option.isSome_eq_false_iff, Option.isNone_iff_eq_none] at hsome
    exact hsome.symm
  | true =>
    obtain ⟨m, hm⟩ := Option.isSome_iff_exists.1 (hsome.trans hn)
    rw [hm]
    rfl

/-- The search with a stack is the plain search: from every tree it ends, with one result; that is
the first fault in pre-order, and it is none exactly where the tree has no fault. A tree that has
one is never left without having been found one, so that the tree as a whole is not taken for it. -/
theorem firstFault?_is_first_in_preorder (n : SyntaxNode) :
    n.hasFault = (n.isFault || n.children.any hasFault) ∧
    (∀ result, Searches [n] result ↔ result = n.nodes.find? isFault) ∧
    (∀ more, searchFault (n.size + more) [n] = n.nodes.find? isFault) ∧
    (searchFault n.size [n]).isSome = n.hasFault ∧
    (n.firstFault? = none ↔ ∀ m ∈ n.nodes, m.isFault = false) ∧
    ∀ m, n.firstFault? = some m ↔ m.isFault = true ∧ ∃ before after,
      n.nodes = before ++ m :: after ∧ ∀ b ∈ before, b.isFault = false := by
  have hends : Searches [n] (n.nodes.find? isFault) := by
    have hends := searches_find? [n]
    rwa [nodesAmong_singleton] at hends
  refine ⟨n.hasFault_eq, fun result => ⟨fun h => h.unique hends, ?_⟩, searchFault_eq_find? n, ?_,
    ?_, fun m => ?_⟩
  · rintro rfl
    exact hends
  · rw [← isSome_find?_isFault, ← searchFault_eq_find? n 0]
    rfl
  · rw [firstFault?_eq_find?, List.find?_eq_none]
    simp only [Bool.not_eq_true]
  · rw [firstFault?_eq_find?, List.find?_eq_some_iff_append]
    simp only [Bool.not_eq_true']

end SyntaxNode

/-! ### Headers with faults -/

namespace Library

/-- A header whose tree has a fault is given up at the place of the first one in pre-order, and the
library stays as it is. -/
theorem parseHeader_of_fault {files : FileTree} {grammar : Grammar} {options : HeaderOptions}
    {header : Value} {path : Path} {source : Source} {fault : SyntaxNode}
    (hfound : files.findHeader header options.includeDirs = .ok (some path))
    (hread : files.read path = .ok source)
    (hfault : (grammar source).nodes.find? SyntaxNode.isFault = some fault) (lib : Library) :
    lib.parseHeader files grammar options header = (.failed (faultPlace source fault), lib) := by
  rw [← SyntaxNode.firstFault?_eq_find?] at hfault
  unfold parseHeader
  simp only [hfound, hread, hfault]

end Library

end Bindery
