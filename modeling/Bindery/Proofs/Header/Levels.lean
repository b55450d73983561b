import Bindery.Proofs.Header.Members

/-!
# Reading all the way down

Readers of headers go down at most a number of levels. A tree has no more levels than nodes, so
where that many are allowed a reader comes to the end of every branch, and allowing more changes
nothing. Reading all the way down is reading with as many levels as there are nodes; it is told here
by the steps it takes, in which no levels are left to be seen.
-/

namespace Bindery

section Steps

variable {m : Type → Type} [Monad m] {α β : Type}

/-- Steps that do the same for all members of a list do the same for the list. -/
theorem forM_congr_of_mem {l : List α} {f g : α → m PUnit} (h : ∀ a ∈ l, f a = g a) :
    l.forM f = l.forM g := by
  induction l with
  | nil => rfl
  | cons a l ih =>
    have hrest := ih fun x hx => h x (List.mem_cons_of_mem _ hx)
    show (f a >>= fun _ => l.forM f) = g a >>= fun _ => l.forM g
    rw [h a (List.mem_cons_self ..), hrest]

theorem foldlM_congr_of_mem {l : List α} {f g : β → α → m β} (h : ∀ b, ∀ a ∈ l, f b a = g b a)
    (b : β) : l.foldlM f b = l.foldlM g b := by
  induction l generalizing b with
  | nil => rfl
  | cons a l ih =>
    rw [List.foldlM_cons, List.foldlM_cons, h b a (List.mem_cons_self ..)]
    exact bind_congr fun c => ih (fun b x hx => h b x (List.mem_cons_of_mem _ hx)) c

end Steps

/-! ### Sizes -/

namespace SyntaxNode

theorem size_le_sizes {n : SyntaxNode} {nodes : List SyntaxNode} (hn : n ∈ nodes) :
    n.size ≤ sizes nodes := by
  induction nodes with
  | nil => cases hn
  | cons c nodes ih =>
    rw [sizes]
    rcases List.mem_cons.1 hn with rfl | hn
    · omega
    · have hle := ih hn
      omega

theorem sizes_children_lt_size (n : SyntaxNode) : sizes n.children < n.size := by
  rw [n.size_eq]
  omega

theorem size_pos (n : SyntaxNode) : 0 < n.size :=
  Nat.zero_lt_of_lt n.sizes_children_lt_size

theorem size_child?_lt {n c : SyntaxNode} {field : String} (hc : n.child? field = some c) :
    c.size < n.size :=
  Nat.lt_of_le_of_lt (size_le_sizes (child?_mem hc)) n.sizes_children_lt_size

theorem sizes_append (ns ms : List SyntaxNode) : sizes (ns ++ ms) = sizes ns + sizes ms := by
  induction ns with
  | nil => exact (Nat.zero_add _).symm
  | cons n ns ih => rw [List.cons_append, sizes, sizes, ih, Nat.add_assoc]

end SyntaxNode

open SyntaxNode

namespace Header

variable (h : Header)

theorem sizes_commented_le (pending : Option SyntaxNode) (nodes : List SyntaxNode) :
    sizes ((h.commented pending nodes).map (·.1)) ≤ sizes nodes := by
  induction nodes generalizing pending with
  | nil => exact Nat.le_refl _
  | cons n nodes ih =>
    unfold commented
    rw [sizes]
    split
    · exact Nat.le_trans (ih _) (Nat.le_add_left _ _)
    · rw [List.map_cons, sizes]
      exact Nat.add_le_add_left (ih none) _

/-! ### Classes -/

/-- Two ways of reading classes do the same with nodes up to a size. -/
def SameUpTo (size : Nat) (r r' : RecordReader) : Prop :=
  ∀ n : SyntaxNode, n.size ≤ size → r n = r' n

section Same

variable {size : Nat} {r r' : RecordReader} (hsame : SameUpTo size r r')
include hsame

theorem readDefinedType_congr {type : Option SyntaxNode}
    (htype : ∀ t, type = some t → t.size ≤ size) (scope : Nat) (comment : String)
    (hasDeclarators : Bool) :
    h.readDefinedType r type scope comment hasDeclarators =
      h.readDefinedType r' type scope comment hasDeclarators := by
  cases type with
  | none => rfl
  | some t =>
    unfold readDefinedType
    dsimp only
    rw [hsame t (htype t rfl)]

theorem readDeclaration_congr {n : SyntaxNode} (hn : n.size ≤ size) (scope : Nat)
    (comment : String) (access : Access) :
    h.readDeclaration r n scope comment access = h.readDeclaration r' n scope comment access := by
  have htype : ∀ t, n.child? "type" = some t → t.size ≤ size := fun t ht =>
    Nat.le_trans (Nat.le_of_lt (size_child?_lt ht)) hn
  unfold readDeclaration
  dsimp only
  rw [h.readDefinedType_congr hsame htype]

theorem readFields_congr {n : SyntaxNode} (hn : n.size ≤ size) (owner : Nat) (access : Access)
    (comment : String) :
    h.readFields r n owner access comment = h.readFields r' n owner access comment := by
  have htype : ∀ t, n.child? "type" = some t → t.size ≤ size := fun t ht =>
    Nat.le_trans (Nat.le_of_lt (size_child?_lt ht)) hn
  unfold readFields
  dsimp only
  rw [h.readDefinedType_congr hsame htype]

theorem readAlias_congr {n : SyntaxNode} (hn : n.size ≤ size) (scope : Nat) (comment : String) :
    h.readAlias r n scope comment = h.readAlias r' n scope comment := by
  unfold readAlias
  cases htype : n.child? "type" with
  | none => rfl
  | some t =>
    have ht : t.size ≤ size := Nat.le_trans (Nat.le_of_lt (size_child?_lt htype)) hn
    dsimp only
    rw [hsame t ht]

end Same

/-- One step among the members of a class, where `inside` reads conditional text. It ends with the
access level for the members behind it. -/
def memberStep (readRecord : RecordReader) (inside : SyntaxNode → Access → Build Unit) (owner : Nat)
    (access : Access) (c : SyntaxNode × String) : Build Access :=
  match c.1.kind with
  | "access_specifier" => readMembers.liftExcept (h.accessOf c.1)
  | "field_declaration" => do
    h.readFields readRecord c.1 owner access c.2
    pure access
  | "declaration" | "function_definition" => do
    h.readDeclaration readRecord c.1 owner c.2 access
    pure access
  | "type_definition" => do
    h.readAlias readRecord c.1 owner c.2
    pure access
  | kind => do
    if "preproc_".toList.isPrefixOf kind.toList then inside c.1 access
    pure access

theorem readMembers_succ (r : RecordReader) (levels : Nat) (nodes : List SyntaxNode) (owner : Nat)
    (access : Access) :
    h.readMembers r (levels + 1) nodes owner access = (do
      let _ ← (h.commented none nodes).foldlM
        (h.memberStep r (fun n => h.readMembers r levels n.children owner) owner) access) := by
  rw [readMembers]
  rfl

theorem memberStep_congr {size : Nat} {r r' : RecordReader} (hsame : SameUpTo size r r')
    {inside inside' : SyntaxNode → Access → Build Unit} {n : SyntaxNode} (hn : n.size ≤ size)
    (hinside : inside n = inside' n) (owner : Nat) (access : Access) (comment : String) :
    h.memberStep r inside owner access (n, comment) =
      h.memberStep r' inside' owner access (n, comment) := by
  unfold memberStep
  simp only [h.readFields_congr hsame hn, h.readDeclaration_congr hsame hn,
    h.readAlias_congr hsame hn, hinside]

/-- How members are read depends neither on levels that are left nor on how classes are read that
are larger than the members. -/
theorem readMembers_congr {size : Nat} {r r' : RecordReader} (hsame : SameUpTo size r r')
    {nodes : List SyntaxNode} (hsize : sizes nodes ≤ size) {a b : Nat} (ha : sizes nodes < a)
    (hb : sizes nodes < b) (owner : Nat) (access : Access) :
    h.readMembers r a nodes owner access = h.readMembers r' b nodes owner access := by
  induction a generalizing b nodes access with
  | zero => exact absurd ha (Nat.not_lt_zero _)
  | succ a ih =>
    obtain ⟨b, rfl⟩ := Nat.exists_eq_succ_of_ne_zero (Nat.ne_zero_of_lt hb)
    rw [readMembers_succ, Nat.succ_eq_add_one, readMembers_succ]
    refine congrArg (fun m : Build Access => m >>= fun _ => pure ())
      (foldlM_congr_of_mem (fun access c hc => ?_) access)
    have hmem := size_le_sizes (h.mem_of_mem_commented hc)
    have hlt := c.1.sizes_children_lt_size
    refine h.memberStep_congr hsame (Nat.le_trans hmem hsize) (funext fun access => ?_) ..
    exact ih (by omega) (by omega) (by omega) access

/-- How a class is read does not depend on levels that are left. -/
theorem readRecord_congr {a b : Nat} {n : SyntaxNode} (ha : n.size ≤ a) (hb : n.size ≤ b) :
    h.readRecord a n = h.readRecord b n := by
  induction a generalizing b n with
  | zero => exact absurd (Nat.lt_of_lt_of_le n.size_pos ha) (Nat.lt_irrefl 0)
  | succ a ih =>
    obtain ⟨b, rfl⟩ :=
      Nat.exists_eq_succ_of_ne_zero (Nat.ne_zero_of_lt (Nat.lt_of_lt_of_le n.size_pos hb))
    funext scope comment otherName
    rw [readRecord, Nat.succ_eq_add_one, readRecord]
    cases hbody : n.child? "body" with
    | none => rfl
    | some body =>
      have hlt := size_child?_lt hbody
      have hinside := body.sizes_children_lt_size
      have hsame : SameUpTo (sizes body.children) (h.readRecord a) (h.readRecord b) :=
        fun m hm => ih (by omega) (by omega)
      have hmembers := h.readMembers_congr hsame (Nat.le_refl _)
        (Nat.lt_succ_of_lt hinside) (Nat.lt_succ_of_lt hinside)
      simp only [hmembers]

/-- Reads a class, all the way down. -/
def fullRecord : RecordReader :=
  fun n => h.readRecord n.size n

theorem readRecord_eq_full {levels : Nat} {n : SyntaxNode} (hn : n.size ≤ levels) :
    h.readRecord levels n = h.fullRecord n :=
  h.readRecord_congr hn (Nat.le_refl _)

/-- Reads the members of a class, all the way down. -/
def fullMembers (nodes : List SyntaxNode) (owner : Nat) (access : Access) : Build Unit :=
  h.readMembers h.fullRecord (sizes nodes + 1) nodes owner access

theorem fullMembers_eq (nodes : List SyntaxNode) (owner : Nat) (access : Access) :
    h.fullMembers nodes owner access = (do
      let _ ← (h.commented none nodes).foldlM
        (h.memberStep h.fullRecord (fun n => h.fullMembers n.children owner) owner) access) := by
  unfold fullMembers
  rw [readMembers_succ]
  refine congrArg (fun m : Build Access => m >>= fun _ => pure ())
    (foldlM_congr_of_mem (fun access c hc => ?_) access)
  have hmem := size_le_sizes (h.mem_of_mem_commented hc)
  have hlt := c.1.sizes_children_lt_size
  have hsame : SameUpTo c.1.size h.fullRecord h.fullRecord := fun _ _ => rfl
  refine h.memberStep_congr hsame (Nat.le_refl _) (funext fun access => ?_) ..
  exact h.readMembers_congr (fun _ _ => rfl) (Nat.le_refl _) (by omega) (Nat.lt_succ_self _) ..

/-- What reading a class comes to: the class is created, unless it is a specialised template, and
then its members are read. -/
theorem fullRecord_eq (n : SyntaxNode) (scope : Nat) (comment : String)
    (otherName : Option String) :
    h.fullRecord n scope comment otherName = (do
      if (n.child? "name").any (·.kind == "template_type") then return none
      else
        let form := (RecordForm.ofKind? n.kind).getD .structForm
        let body := n.child? "body"
        let name :=
          match n.child? "name" with
          | some c => h.source.text c
          | none => otherName.getD ""
        let record : Record :=
          ⟨body.isNone, form = .structForm, form = .unionForm, false, h.basesOf n, [], [], [], [],
            none⟩
        let id ← h.create (.record record) scope name n comment
        match body with
        | none => pure ()
        | some body =>
          h.fullMembers body.children id
            (if form = .classForm then Access.classOnly else .everyone)
        return some id) := by
  obtain ⟨size, hsize⟩ := Nat.exists_eq_succ_of_ne_zero (Nat.ne_zero_of_lt n.size_pos)
  unfold fullRecord
  rw [hsize, Nat.succ_eq_add_one, readRecord]
  cases hbody : n.child? "body" with
  | none => rfl
  | some body =>
    have hlt := size_child?_lt hbody
    have hinside := body.sizes_children_lt_size
    have hsame : SameUpTo (sizes body.children) (h.readRecord size) h.fullRecord :=
      fun m hm => h.readRecord_eq_full (by omega)
    have hmembers := h.readMembers_congr hsame (Nat.le_refl _)
      (Nat.lt_succ_of_lt hinside) (Nat.lt_succ_self _)
    simp only [hmembers]
    rfl

/-! ### Scopes -/

/-- One step among what stands in a scope, where `inside` reads what stands inside of something. -/
def itemStep (readRecord : RecordReader) (inside : List (SyntaxNode × String) → Nat → Build Unit)
    (scope : Nat) (c : SyntaxNode × String) : Build Unit :=
  match c.1.kind with
  | "namespace_definition" => do
    let target ← (h.scopeNames c.1).foldlM (h.enterScope c.1) scope
    match c.1.child? "body" with
    | none => pure ()
    | some body => inside (h.commented none body.children) target
  | "class_specifier" | "struct_specifier" | "union_specifier" => do
    let _ ← readRecord c.1 scope c.2 none
  | "enum_specifier" => do
    let _ ← h.readEnumeration c.1 scope c.2 none
  | "declaration" | "function_definition" =>
    h.readDeclaration readRecord c.1 scope c.2 .everyone
  | "type_definition" => h.readAlias readRecord c.1 scope c.2
  | "linkage_specification" =>
    match c.1.child? "body" with
    | none => pure ()
    | some body =>
      if body.kind = "declaration_list" then inside (h.commented none body.children) scope
      else inside [(body, c.2)] scope
  | kind => do
    if kind = "declaration_list" ∨ "preproc_".toList.isPrefixOf kind.toList = true then
      inside (h.commented none c.1.children) scope

theorem readItems_succ (levels : Nat) (nodes : List (SyntaxNode × String)) (scope : Nat) :
    h.readItems (levels + 1) nodes scope =
      nodes.forM (h.itemStep (h.readRecord (levels + 1)) (h.readItems levels) scope) := by
  rw [readItems]
  rfl

theorem itemStep_congr {r r' : RecordReader} {n : SyntaxNode} (hsame : SameUpTo n.size r r')
    {inside inside' : List (SyntaxNode × String) → Nat → Build Unit}
    (hinside : ∀ nodes, sizes (nodes.map (·.1)) < n.size → inside nodes = inside' nodes)
    (scope : Nat) (comment : String) :
    h.itemStep r inside scope (n, comment) = h.itemStep r' inside' scope (n, comment) := by
  have hchildren : inside (h.commented none n.children) = inside' (h.commented none n.children) :=
    hinside _ (Nat.lt_of_le_of_lt (h.sizes_commented_le _ _) n.sizes_children_lt_size)
  unfold itemStep
  simp only [hsame n (Nat.le_refl _), h.readDeclaration_congr hsame (Nat.le_refl _),
    h.readAlias_congr hsame (Nat.le_refl _), hchildren]
  cases hbody : n.child? "body" with
  | none => rfl
  | some body =>
    have hlt := size_child?_lt hbody
    have hin : inside (h.commented none body.children) =
        inside' (h.commented none body.children) :=
      hinside _ (Nat.lt_of_le_of_lt (h.sizes_commented_le _ _)
        (Nat.lt_trans body.sizes_children_lt_size hlt))
    have hone : inside [(body, comment)] = inside' [(body, comment)] :=
      hinside _ (by simpa [sizes] using hlt)
    simp only [hin, hone]

/-- How a scope is read does not depend on levels that are left. -/
theorem readItems_congr {nodes : List (SyntaxNode × String)} {a b : Nat}
    (ha : sizes (nodes.map (·.1)) < a) (hb : sizes (nodes.map (·.1)) < b) :
    h.readItems a nodes = h.readItems b nodes := by
  induction a generalizing b nodes with
  | zero => exact absurd ha (Nat.not_lt_zero _)
  | succ a ih =>
    obtain ⟨b, rfl⟩ := Nat.exists_eq_succ_of_ne_zero (Nat.ne_zero_of_lt hb)
    funext scope
    rw [readItems_succ, Nat.succ_eq_add_one, readItems_succ]
    refine forM_congr_of_mem fun c hc => ?_
    have hmem : c.1.size ≤ sizes (nodes.map (·.1)) :=
      size_le_sizes (List.mem_map_of_mem hc)
    refine h.itemStep_congr (fun m hm => h.readRecord_congr (by omega) (by omega)) ?_ ..
    exact fun nodes hnodes => ih (by omega) (by omega)

/-- Reads what stands in a scope, all the way down. -/
def fullItems (nodes : List (SyntaxNode × String)) (scope : Nat) : Build Unit :=
  h.readItems (sizes (nodes.map (·.1)) + 1) nodes scope

theorem readItems_eq_full {levels : Nat} {nodes : List (SyntaxNode × String)}
    (hlevels : sizes (nodes.map (·.1)) < levels) : h.readItems levels nodes = h.fullItems nodes :=
  h.readItems_congr hlevels (Nat.lt_succ_self _)

/-- The items of a tree are read all the way down. -/
theorem readItems_tree (tree : SyntaxNode) :
    h.readItems (tree.size + 1) (h.commented none tree.children) =
      h.fullItems (h.commented none tree.children) := by
  have hle := h.sizes_commented_le none tree.children
  have hlt := tree.sizes_children_lt_size
  exact h.readItems_eq_full (by omega)

/-- What stands in a scope is read item by item. -/
theorem fullItems_eq (nodes : List (SyntaxNode × String)) (scope : Nat) :
    h.fullItems nodes scope = nodes.forM (h.itemStep h.fullRecord h.fullItems scope) := by
  unfold fullItems
  rw [readItems_succ]
  refine forM_congr_of_mem fun c hc => ?_
  have hmem : c.1.size ≤ sizes (nodes.map (·.1)) := size_le_sizes (List.mem_map_of_mem hc)
  refine h.itemStep_congr (fun m hm => h.readRecord_eq_full (by omega)) ?_ ..
  exact fun nodes hnodes => h.readItems_congr (by omega) (Nat.lt_succ_self _)

end Header

end Bindery
