import Bindery.Proofs.Header.Fields

/-!
# Members of classes

What each reader of a part of a header adds to the fields of a class. Only data members add fields,
and only to the class they stand in, so whatever is read on the way has all of its own fields when
it is left.
-/

namespace Bindery

open Library

namespace Header

variable (h : Header) {N : SyntaxNode → Prop} {owner : Nat}

theorem typeText_adds {P : Library → Prop} (n : SyntaxNode) (type : Option SyntaxNode)
    (defined : Option Nat) :
    Adds h N owner P [] (h.typeText n type defined) fun _ lib => P lib := by
  refine .of_same fun lib => ?_
  cases defined <;> rfl

theorem isRecord_adds {P : Library → Prop} (id : Nat) :
    Adds h N owner P [] (Build.isRecord id) fun _ lib => P lib :=
  .of_same fun _ => rfl

theorem nameOf_adds {P : Library → Prop} (id : Nat) :
    Adds h N owner P [] (Build.nameOf id) fun _ lib => P lib :=
  .of_same fun _ => rfl

/-- Marking a function as one that takes further arguments. -/
theorem markVariadic_adds {P : Library → Prop} (id : Nat) :
    Adds h N owner P [] (modify (·.update id fun d =>
        { d with body := d.body.mapPrototype fun p => { p with variadic := true } }) : Build PUnit)
      fun _ _ => True := by
  intro lib a out _ _ hrun
  cases hrun
  refine ⟨lib.acquires_update (fun b => ?_) (fun b => ?_) fun b hb => ?_, trivial⟩
  · cases b <;> rfl
  · cases b with
    | method p t => rw [Body.mapPrototype, Body.listOf_method, Body.listOf_method]
    | function p => rw [Body.mapPrototype, Body.listOf_function, Body.listOf_function]
    | _ => rfl
  · cases b <;> first
      | rfl
      | cases hb

/-! ### Enumerations and functions -/

theorem readItem_adds (id : Nat) (s : ItemState) (n : SyntaxNode) :
    Adds h N owner (Has id) [] (h.readItem id s n) fun _ _ => True := by
  unfold readItem
  dsimp only
  cases Initializer.obstacle? (h.source.textOf (n.child? "value")) with
  | some o => exact .throw _
  | none =>
    refine (h.create_adds .enumItem rfl (by decide) id _ n "").behind fun _ => ?_
    exact .pure fun _ _ => trivial

/-- A type was read at a node, in a scope, unless it was left out. -/
abbrev ReadsType (scope : Nat) (n : SyntaxNode) (t : Option Nat) (lib : Library) : Prop :=
  ∀ id, t = some id → lib.DeclaresAt h scope id n

theorem readEnumeration_adds (n : SyntaxNode) (scope : Nat) (comment : String)
    (otherName : Option String) :
    Adds h N owner (Has scope) [] (h.readEnumeration n scope comment otherName)
      (h.ReadsType scope n) := by
  unfold readEnumeration
  split
  · exact .pure fun _ _ id hid => by cases hid
  · refine (h.create_adds .enumeration rfl (by decide) scope _ n comment).behind fun id => ?_
    have hitems (items : List SyntaxNode) : Adds h N owner (fun lib => lib.DeclaresAt h scope id n)
        [] (items.foldlM (h.readItem id) ItemState.start) fun _ lib =>
          lib.DeclaresAt h scope id n ∧ True :=
      .keep (lasting_declaresAt h scope id n) <|
        (Adds.foldlM_spares (lasting_has id) (fun s c _ => h.readItem_adds id s c) _).mono
          (fun _ hat => hat.has) fun _ _ hQ => hQ
    refine (hitems _).behind fun _ => .pure fun lib hlib a ha => ?_
    cases ha
    exact hlib.1

theorem readParameter_adds (id index : Nat) (n : SyntaxNode) :
    Adds h N owner (Has id) [] (h.readParameter id index n) fun _ _ => True := by
  refine (h.typeText_adds n _ none).behind fun _ => ?_
  refine (h.create_adds .parameter rfl (by decide) id _ n "").behind fun _ => ?_
  exact .pure fun _ _ => trivial

theorem readParameters_adds (list : Option SyntaxNode) (id : Nat) :
    Adds h N owner (Has id) [] (h.readParameters list id) fun _ _ => True := by
  unfold readParameters
  cases list with
  | none => exact .pure fun _ _ => trivial
  | some list =>
    have hparams : ∀ params : List SyntaxNode, Adds h N owner (Has id) []
        (if !h.saysNone params then
          params.zipIdx.forM fun p => h.readParameter id p.2 p.1 else pure ())
        fun _ _ => True := by
      intro params
      split
      · exact .forM_spares (lasting_has id) fun p _ => h.readParameter_adds id p.2 p.1
      · exact .pure fun _ _ => trivial
    dsimp only
    split
    · exact (h.markVariadic_adds id).andThen (lasting_has id) fun _ => hparams _
    · exact hparams _

theorem readCallable_adds (n : SyntaxNode) (scope : Nat) (comment type name : String)
    (function : SyntaxNode) (access : Access) :
    Adds h N owner (Has scope) [] (h.readCallable n scope comment type name function access)
      fun _ _ => True := by
  -- a method in a class and a function in a scope are created alike
  have hrest (body : Body) (form : Form) (hform : body.form = form)
      (hother : form ≠ .field ∧ form ≠ .record) : Adds h N owner (Has scope) []
        (h.create body scope name n comment >>= h.readParameters (function.child? "parameters"))
        fun _ _ => True :=
    (h.create_adds form hform hother scope name n comment).behind fun id =>
      (h.readParameters_adds _ id).mono (fun _ hat => hat.has) fun _ _ hQ => hQ
  unfold readCallable
  dsimp only
  refine (h.isRecord_adds scope).behind fun isMember => ?_
  cases isMember with
  | true =>
    refine (h.nameOf_adds scope).behind fun _ => ?_
    exact hrest _ .method rfl (by decide)
  | false => exact hrest _ .function rfl (by decide)

/-! ### Types and declarations -/

/-- A way of reading classes that adds fields only to the classes it reads. -/
def AddsRecords (N : SyntaxNode → Prop) (readRecord : RecordReader) : Prop :=
  ∀ n scope comment otherName owner, N n → Adds h N owner (Has scope) []
    (readRecord n scope comment otherName) (h.ReadsType scope n)

section Members

variable {readRecord : RecordReader} (hr : h.AddsRecords N readRecord)
include hr

theorem readDefinedType_adds {type : Option SyntaxNode} (htype : ∀ n, type = some n → N n)
    (scope : Nat) (comment : String) (hasDeclarators : Bool) :
    Adds h N owner (Has scope) [] (h.readDefinedType readRecord type scope comment hasDeclarators)
      fun t lib => ∀ id, t = some id → ∃ n, type = some n ∧ lib.DeclaresAt h scope id n := by
  have hnone : Adds h N owner (Has scope) [] (pure none) fun (t : Option Nat) lib =>
      ∀ id, t = some id → ∃ n, type = some n ∧ lib.DeclaresAt h scope id n :=
    .pure fun _ _ id hid => by cases hid
  unfold readDefinedType
  cases type with
  | none => exact hnone
  | some n =>
    have hread {m : Build (Option Nat)}
        (hm : Adds h N owner (Has scope) [] m (h.ReadsType scope n)) :
        Adds h N owner (Has scope) [] m fun (t : Option Nat) lib =>
          ∀ id, t = some id → ∃ c, some n = some c ∧ lib.DeclaresAt h scope id c :=
      hm.mono (fun _ hP => hP) fun _ _ hQ id hid => ⟨n, rfl, hQ id hid⟩
    dsimp only
    split_ifs
    · exact hnone
    · exact hnone
    · exact hread (h.readEnumeration_adds n scope comment none)
    · exact hread (hr n scope comment none owner (htype n rfl))

omit hr in
theorem readDeclarator_adds (n : SyntaxNode) (scope : Nat) (comment : String) (access : Access)
    (base : Option String) (c : SyntaxNode) :
    Adds h N owner (Has scope) [] (h.readDeclarator n scope comment access base c)
      fun _ _ => True := by
  unfold readDeclarator
  dsimp only
  cases (Declarator.unwrap h.source c).function with
  | none => exact .pure fun _ _ => trivial
  | some function =>
    refine (h.isRecord_adds scope).behind fun isMember => ?_
    split_ifs
    · exact .pure fun _ _ => trivial
    · exact h.readCallable_adds n scope comment _ _ function access

theorem readDeclaration_adds (hN : SyntaxNode.Inward N) {n : SyntaxNode} (hn : N n) (scope : Nat)
    (comment : String) (access : Access) :
    Adds h N owner (Has scope) [] (h.readDeclaration readRecord n scope comment access)
      fun _ _ => True := by
  have hdeclarators (base : Option String) : Adds h N owner (Has scope) []
      ((n.childrenAt "declarator").forM (h.readDeclarator n scope comment access base))
      fun _ _ => True :=
    .forM_spares (lasting_has scope) fun c _ =>
      h.readDeclarator_adds n scope comment access base c
  unfold readDeclaration
  dsimp only
  have htype : ∀ t, n.child? "type" = some t → N t := fun _ => hN.child? hn
  refine ((h.readDefinedType_adds hr htype scope comment _).keep (lasting_has scope)).behind
    fun defined => .mono ?_ (fun _ hP => hP.1) fun _ _ hQ => hQ
  cases n.child? "type" with
  | none => exact hdeclarators none
  | some type => exact (h.typeText_adds n _ defined).behind fun base => hdeclarators (some base)

theorem readAlias_adds (hN : SyntaxNode.Inward N) {n : SyntaxNode} (hn : N n) (scope : Nat)
    (comment : String) :
    Adds h N owner (Has scope) [] (h.readAlias readRecord n scope comment) fun _ _ => True := by
  unfold readAlias
  cases htype : n.child? "type" with
  | none => exact .pure fun _ _ => trivial
  | some type =>
    dsimp only
    split_ifs
    · exact (h.readEnumeration_adds type scope comment _).behind fun _ => .pure fun _ _ => trivial
    · have hread := hN.child? hn htype
      exact (hr type scope comment _ owner hread).behind fun _ => .pure fun _ _ => trivial
    · exact .pure fun _ _ => trivial

/-! ### Data members -/

/-- What is known of the type that a member defines. -/
abbrev DefinesType (n : SyntaxNode) (scope : Nat) (defined : Option Nat) (lib : Library) : Prop :=
  ∀ id, defined = some id → ∃ t, n.child? "type" = some t ∧ lib.DeclaresAt h scope id t

omit hr in
theorem lasting_definesType (n : SyntaxNode) (scope : Nat) (defined : Option Nat) :
    Lasting (h.DefinesType n scope defined) := by
  intro lib out owner ids hg hP id hid
  obtain ⟨t, ht, hat⟩ := hP id hid
  exact ⟨t, ht, hat.gains hg⟩

/-- The data that one declarator of a member declares. -/
def dataAt (n c : SyntaxNode) : List (SyntaxNode × SyntaxNode) :=
  if h.declaresFunction c then [] else [(n, c)]

omit hr in
theorem declaredData_eq {n : SyntaxNode} (hn : n.kind = "field_declaration") :
    h.declaredData n = (n.childrenAt "declarator").flatMap (h.dataAt n) := by
  unfold declaredData dataDeclarators
  rw [if_pos hn]
  induction n.childrenAt "declarator" with
  | nil => rfl
  | cons c cs ih =>
    rw [List.flatMap_cons, ← ih, List.filter_cons]
    unfold dataAt
    cases h.declaresFunction c <;> rfl

omit hr in
/-- A data member is created as a field of its class, and the type that it defines is noted down. -/
theorem createField_adds (n c : SyntaxNode) (access : Access) (comment : String)
    (defined : Option Nat) (type : String) :
    Adds h N owner (h.DefinesType n owner defined) [(n, c)]
      (do
        let id ← h.create (.field type access) owner (Declarator.unwrap h.source c).name c comment
        match defined with
        | none => pure ()
        | some t =>
          modify (·.update id fun f =>
            { f with notes := f.notes.put "type_declaration_id" (.int t) }))
      fun _ _ => True := by
  intro lib a out howner hdefines hrun
  obtain ⟨id, mid, hcreate, hnote⟩ := exists_of_outcomeOf_bind hrun
  obtain ⟨rfl, hcreated, hnew, hgains⟩ := h.create_gains (exists_decl?_of_lt howner) hcreate
  have hnothing (out : Library) (hsize : out.created = mid.created) (id : Nat)
      (hid : lib.created ≤ id) (hform : out.HasForm id [.record])
      (hfield : out.HasForm lib.created [.field]) : False := by
    -- the only number that is new is that of the field
    have hlt := hform.lt
    obtain rfl : id = lib.created := by omega
    obtain ⟨d, hd, hf⟩ := hform
    obtain ⟨e, he, hf'⟩ := hfield
    rw [hd] at he
    cases he
    rw [List.mem_singleton.1 hf] at hf'
    cases List.mem_singleton.1 hf'
  cases defined with
  | none =>
    cases hnote
    refine ⟨⟨⟨_, hgains, .cons ?_ .nil⟩, fun id hid hform => ?_⟩, trivial⟩
    · exact ⟨_, type, access, hnew, rfl, rfl, rfl, rfl, rfl, fun v hv => by cases hv⟩
    · exact (hnothing out rfl id hid hform ⟨_, hnew, List.mem_singleton.2 rfl⟩).elim
  | some t =>
    cases hnote
    have hgains := hgains.update_new (Nat.le_refl _) fun f =>
      { f with notes := f.notes.put "type_declaration_id" (.int t) }
    have hfield := decl?_update mid lib.created (fun f =>
      { f with notes := f.notes.put "type_declaration_id" (.int t) }) lib.created
    rw [if_pos rfl, hnew, Option.map_some] at hfield
    refine ⟨⟨⟨_, hgains, .cons ?_ .nil⟩, fun id hid hform => ?_⟩, trivial⟩
    · refine ⟨_, type, access, hfield, rfl, rfl, rfl, rfl, rfl, fun v hv => ?_⟩
      obtain ⟨node, hnode, hat⟩ := hdefines t rfl
      refine ⟨t, node, ?_, hnode, hat.gains hgains⟩
      rw [Fields.get?_put_self] at hv
      exact (Option.some.inj hv).symm
    · exact (hnothing _ (created_update ..) id hid hform
        ⟨_, hfield, List.mem_singleton.2 rfl⟩).elim

omit hr in
theorem readMember_adds (n : SyntaxNode) (access : Access) (comment : String)
    (defined : Option Nat) (base : String) (c : SyntaxNode) :
    Adds h N owner (h.DefinesType n owner defined) (h.dataAt n c)
      (h.readMember n owner access comment defined base c) fun _ _ => True := by
  unfold readMember
  dsimp only
  cases hfunction : (Declarator.unwrap h.source c).function with
  | none =>
    have hdata : h.dataAt n c = [(n, c)] := by simp [dataAt, declaresFunction, hfunction]
    rw [hdata]
    exact h.createField_adds n c access comment defined _
  | some function =>
    cases hpointer : (Declarator.unwrap h.source c).isFunctionPointer with
    | true =>
      have hdata : h.dataAt n c = [(n, c)] := by simp [dataAt, declaresFunction, hpointer]
      rw [hdata]
      exact h.createField_adds n c access comment defined _
    | false =>
      have hdata : h.dataAt n c = [] := by simp [dataAt, declaresFunction, hfunction, hpointer]
      rw [hdata]
      exact fun lib a out howner _ hrun => h.readCallable_adds n owner comment _ _ function access
        lib a out howner (exists_decl?_of_lt howner) hrun

theorem readFields_adds (hN : SyntaxNode.Inward N) {n : SyntaxNode} (hn : N n)
    (hkind : n.kind = "field_declaration") (access : Access) (comment : String) :
    Adds h N owner (Has owner) (h.declaredData n) (h.readFields readRecord n owner access comment)
      fun _ _ => True := by
  rw [h.declaredData_eq hkind]
  unfold readFields
  dsimp only
  have htype : ∀ t, n.child? "type" = some t → N t := fun _ => hN.child? hn
  refine (h.readDefinedType_adds hr htype owner comment _).behind fun defined => ?_
  refine (h.typeText_adds n _ defined).behind fun base => ?_
  exact .forM (h.lasting_definesType n owner defined) fun c _ =>
    h.readMember_adds n access comment defined base c

omit hr in
/-- Comments only go before what they belong to. -/
theorem flatMap_commented {α : Type} {s : SyntaxNode → List α}
    (hs : ∀ n, n.kind = "comment" → s n = []) (pending : Option SyntaxNode)
    (nodes : List SyntaxNode) : (h.commented pending nodes).flatMap (s ·.1) = nodes.flatMap s := by
  induction nodes generalizing pending with
  | nil => rfl
  | cons n nodes ih =>
    unfold commented
    split
    · next hn => rw [ih, List.flatMap_cons, hs n hn, List.nil_append]
    · rw [List.flatMap_cons, List.flatMap_cons, ih]

omit hr in
theorem mem_of_mem_commented {pending : Option SyntaxNode} {nodes : List SyntaxNode}
    {c : SyntaxNode × String} (hc : c ∈ h.commented pending nodes) : c.1 ∈ nodes := by
  induction nodes generalizing pending with
  | nil => cases hc
  | cons n nodes ih =>
    unfold commented at hc
    split at hc
    · exact List.mem_cons_of_mem _ (ih hc)
    · rcases List.mem_cons.1 hc with rfl | hc
      · exact List.mem_cons_self ..
      · exact List.mem_cons_of_mem _ (ih hc)

/-- The data that the members at a node declare. -/
def dataBelow (n : SyntaxNode) : List (SyntaxNode × SyntaxNode) :=
  n.members.flatMap h.declaredData

omit hr in
theorem dataBelow_of_not_conditional {n : SyntaxNode} (hn : n.isConditional = false) :
    h.dataBelow n = h.declaredData n := by
  unfold dataBelow
  rw [n.members_eq, hn]
  exact List.append_nil _

omit hr in
theorem dataBelow_eq_nil {n : SyntaxNode} (hn : n.isConditional = false)
    (hkind : n.kind ≠ "field_declaration") : h.dataBelow n = [] := by
  rw [h.dataBelow_of_not_conditional hn]
  unfold declaredData dataDeclarators
  rw [if_neg hkind, List.map_nil]

omit hr in
theorem flatMap_membersAmong (nodes : List SyntaxNode) :
    (SyntaxNode.membersAmong nodes).flatMap h.declaredData = nodes.flatMap h.dataBelow := by
  rw [SyntaxNode.membersAmong_eq, List.flatMap_assoc]
  rfl

omit h hr in
/-- A node of a kind that is no conditional text. -/
theorem not_conditional {n : SyntaxNode} {kind : String} (hn : n.kind = kind)
    (hkind : "preproc_".toList.isPrefixOf kind.toList = false) : n.isConditional = false := by
  unfold SyntaxNode.isConditional
  rw [hn, hkind]

omit h hr in
theorem sizes_children_lt {n : SyntaxNode} {nodes : List SyntaxNode} (hn : n ∈ nodes) :
    SyntaxNode.sizes n.children < SyntaxNode.sizes nodes := by
  induction nodes with
  | nil => cases hn
  | cons c nodes ih =>
    rw [SyntaxNode.sizes]
    rcases List.mem_cons.1 hn with rfl | hn
    · rw [n.size_eq]
      omega
    · have hlt := ih hn
      omega

/-- What one node among the members of a class adds, where its children are members in turn if it is
conditional text. -/
theorem readMember_step (hN : SyntaxNode.Inward N) {levels : Nat} {n : SyntaxNode} (hn : N n)
    (comment : String) (access : Access)
    (ih : Adds h N owner (Has owner) ((SyntaxNode.membersAmong n.children).flatMap h.declaredData)
      (h.readMembers readRecord levels n.children owner access) fun _ _ => True) :
    Adds h N owner (Has owner) (h.dataBelow n)
      (match n.kind with
        | "access_specifier" => readMembers.liftExcept (h.accessOf n)
        | "field_declaration" => do
          h.readFields readRecord n owner access comment
          pure access
        | "declaration" | "function_definition" => do
          h.readDeclaration readRecord n owner comment access
          pure access
        | "type_definition" => do
          h.readAlias readRecord n owner comment
          pure access
        | kind => do
          if "preproc_".toList.isPrefixOf kind.toList then
            h.readMembers readRecord levels n.children owner access
          pure access : Build Access)
      fun _ _ => True := by
  have hkeep {m : Build PUnit} {s : List (SyntaxNode × SyntaxNode)}
      (hm : Adds h N owner (Has owner) s m fun _ _ => True) :
      Adds h N owner (Has owner) s (do m; pure access) fun _ _ => True :=
    hm.andFinally fun _ => .pure fun _ _ => trivial
  split
  · next hkind =>
    rw [h.dataBelow_eq_nil (not_conditional hkind (by decide)) (by rw [hkind]; decide)]
    cases h.accessOf n with
    | ok a => exact .pure fun _ _ => trivial
    | error f => exact .throw f
  · next hkind =>
    rw [h.dataBelow_of_not_conditional (not_conditional hkind (by decide))]
    exact hkeep (h.readFields_adds hr hN hn hkind access comment)
  · next hkind =>
    rw [h.dataBelow_eq_nil (not_conditional hkind (by decide)) (by rw [hkind]; decide)]
    exact hkeep (h.readDeclaration_adds hr hN hn owner comment access)
  · next hkind =>
    rw [h.dataBelow_eq_nil (not_conditional hkind (by decide)) (by rw [hkind]; decide)]
    exact hkeep (h.readDeclaration_adds hr hN hn owner comment access)
  · next hkind =>
    rw [h.dataBelow_eq_nil (not_conditional hkind (by decide)) (by rw [hkind]; decide)]
    exact hkeep (h.readAlias_adds hr hN hn owner comment)
  · next hfield _ _ _ =>
    split
    · next hconditional =>
      unfold dataBelow
      rw [n.members_eq, SyntaxNode.isConditional, if_pos hconditional]
      exact hkeep ih
    · next hconditional =>
      rw [h.dataBelow_eq_nil (Bool.eq_false_iff.2 hconditional) hfield]
      exact .pure fun _ _ => trivial

theorem readMembers_adds (hN : SyntaxNode.Inward N) (levels : Nat) (nodes : List SyntaxNode)
    (hnodes : ∀ n ∈ nodes, N n) (hlevels : SyntaxNode.sizes nodes < levels) (access : Access) :
    Adds h N owner (Has owner) ((SyntaxNode.membersAmong nodes).flatMap h.declaredData)
      (h.readMembers readRecord levels nodes owner access) fun _ _ => True := by
  induction levels generalizing nodes access with
  | zero => exact absurd hlevels (Nat.not_lt_zero _)
  | succ levels ih =>
    have hcomment : ∀ n : SyntaxNode, n.kind = "comment" → h.dataBelow n = [] := fun n hn =>
      h.dataBelow_eq_nil (not_conditional hn (by decide)) (by rw [hn]; decide)
    rw [h.flatMap_membersAmong, ← h.flatMap_commented hcomment none nodes]
    unfold readMembers
    refine Adds.andFinally (.foldlM (lasting_has owner) (fun access c hc => ?_) access) fun _ =>
      .pure fun _ _ => trivial
    have hmem := h.mem_of_mem_commented hc
    have hlt := sizes_children_lt hmem
    have hn := hnodes c.1 hmem
    exact h.readMember_step hr hN hn c.2 access (ih c.1.children (hN c.1 · hn) (by omega) access)

end Members

/-! ### Classes -/

/-- A class that was read is new and has a field for each piece of data that its members declare. -/
theorem readRecord_new {levels : Nat} (hr : h.AddsRecords N (h.readRecord levels))
    (hN : SyntaxNode.Inward N) {n : SyntaxNode} (hn : N n) {scope id : Nat} {comment : String}
    {otherName : Option String} {lib out : Library}
    (hscope : lib.Has scope)
    (hrun : outcomeOf (h.readRecord (levels + 1) n scope comment otherName) lib =
      (.ok (some id), out)) :
    lib.Acquires h N owner [] out ∧ out.DeclaresAt h scope id n ∧ out.RecordsClass h id n := by
  unfold readRecord at hrun
  split_ifs at hrun
  · cases hrun
  · obtain ⟨a, mid, hcreate, hrest⟩ := exists_of_outcomeOf_bind hrun
    obtain ⟨rfl, hcreated, hnew, hgains⟩ := h.create_gains hscope hcreate
    have hmembers : some lib.created = some id ∧
        mid.Acquires h N lib.created (n.bodyMembers.flatMap h.declaredData) out := by
      have hlt : lib.created < mid.created := lt_created_of_decl? hnew
      unfold SyntaxNode.bodyMembers
      cases hbody : n.child? "body" with
      | none =>
        rw [hbody] at hrest
        cases hrest
        exact ⟨rfl, .refl _ h N _⟩
      | some body =>
        rw [hbody] at hrest
        obtain ⟨_, last, hread, hrest⟩ := exists_of_outcomeOf_bind hrest
        cases hrest
        have hsize : SyntaxNode.sizes body.children < body.size + 1 := by
          rw [body.size_eq]
          omega
        have hinside : ∀ c ∈ body.children, N c := fun c hc =>
          hN body c (hN.child? hn hbody) hc
        have hread := h.readMembers_adds hr hN _ _ hinside hsize _ mid _ out hlt ⟨_, hnew⟩ hread
        exact ⟨rfl, hread.1⟩
    obtain ⟨hid, hacquires⟩ := hmembers
    cases hid
    obtain ⟨ids, hgains', hfields⟩ := hacquires.gained
    have hat : mid.DeclaresAt h scope lib.created n := ⟨_, hnew, rfl, rfl⟩
    have hclass : out.RecordsClass h lib.created n := by
      obtain ⟨b, hb, hform, hlist, -⟩ := hgains' lib.created _ hnew
      obtain ⟨s, rfl⟩ := Body.exists_record hform
      rw [if_pos rfl, Body.listOf_record] at hlist
      have hids : s.fields = ids := hlist
      exact ⟨_, s, hb, rfl, rfl, hids ▸ hfields⟩
    refine ⟨⟨⟨[], (hgains.any owner).of_new hgains', .nil⟩, fun p hp hform => ?_⟩,
      hat.gains hgains', hclass⟩
    by_cases hp' : p = lib.created
    · exact ⟨n, hn, hp' ▸ hclass⟩
    · exact hacquires.classes p (by omega) hform

/-- Where no class was read, nothing happened. -/
theorem eq_of_readRecord_none {levels : Nat} {n : SyntaxNode} {scope : Nat} {comment : String}
    {otherName : Option String} {lib out : Library}
    (hrun : outcomeOf (h.readRecord (levels + 1) n scope comment otherName) lib =
      (.ok none, out)) : out = lib := by
  unfold readRecord at hrun
  split_ifs at hrun
  · cases hrun
    rfl
  · obtain ⟨_, _, -, hrest⟩ := exists_of_outcomeOf_bind hrun
    cases hbody : n.child? "body" with
    | none =>
      rw [hbody] at hrest
      cases hrest
    | some body =>
      rw [hbody] at hrest
      obtain ⟨_, _, -, hrest⟩ := exists_of_outcomeOf_bind hrest
      cases hrest

theorem readRecord_adds (hN : SyntaxNode.Inward N) (levels : Nat) :
    h.AddsRecords N (h.readRecord levels) := by
  induction levels with
  | zero => exact fun _ _ _ _ _ _ => .pure fun _ _ id hid => by cases hid
  | succ levels ih =>
    intro n scope comment otherName owner hn lib t out _ hscope hrun
    cases t with
    | none =>
      rw [h.eq_of_readRecord_none hrun]
      exact ⟨.refl lib h N owner, fun id hid => by cases hid⟩
    | some id =>
      obtain ⟨hacquires, hat, -⟩ := h.readRecord_new ih hN hn hscope hrun
      refine ⟨hacquires, fun id hid => ?_⟩
      cases hid
      exact hat

/-! ### Scopes -/

theorem enterScope_adds (n : SyntaxNode) (scope : Nat) (name : String) :
    Adds h N owner (Has scope) [] (h.enterScope n scope name) fun id lib => lib.Has id := by
  unfold enterScope
  intro lib id out howner hscope hrun
  rw [outcomeOf_bind_ok (outcomeOf_get lib)] at hrun
  dsimp only at hrun
  split at hrun
  · next id' hfound =>
    cases hrun
    -- a scope that is found by its name is there
    have hname := List.find?_some hfound
    refine ⟨.refl lib h N owner, ?_⟩
    cases hd : lib.decl? id with
    | none =>
      rw [hd] at hname
      cases hname
    | some d => exact ⟨d, hd⟩
  · obtain ⟨hacquires, hat⟩ :=
      h.create_adds .space rfl (by decide) scope name n "" lib id out howner hscope hrun
    exact ⟨hacquires, hat.has⟩

theorem enterScopes_adds (n : SyntaxNode) (scope : Nat) (names : List String) :
    Adds h N owner (Has scope) [] (names.foldlM (h.enterScope n) scope)
      fun id lib => lib.Has id := by
  induction names generalizing scope with
  | nil => exact .pure fun _ hhas => hhas
  | cons name names ih =>
    rw [List.foldlM_cons]
    exact (h.enterScope_adds n scope name).behind fun id => ih id

theorem readItems_adds (hN : SyntaxNode.Inward N) (levels : Nat)
    (nodes : List (SyntaxNode × String)) (hnodes : ∀ c ∈ nodes, N c.1) (scope : Nat) :
    Adds h N owner (Has scope) [] (h.readItems levels nodes scope) fun _ _ => True := by
  induction levels generalizing nodes scope with
  | zero => exact .pure fun _ _ => trivial
  | succ levels ih =>
    have hr : h.AddsRecords N (h.readRecord (levels + 1)) := h.readRecord_adds hN (levels + 1)
    have hrecord {n : SyntaxNode} (hn : N n) (comment : String) : Adds h N owner (Has scope) []
        (do let _ ← h.readRecord (levels + 1) n scope comment none) fun _ _ => True :=
      (hr n scope comment none owner hn).behind fun _ => .pure fun _ _ => trivial
    have hinside {n : SyntaxNode} (hn : N n) (target : Nat) : Adds h N owner (Has target) []
        (h.readItems levels (h.commented none n.children) target) fun _ _ => True :=
      ih _ (fun c hc => hN n c.1 hn (h.mem_of_mem_commented hc)) target
    unfold readItems
    refine .forM_spares (lasting_has scope) fun c hc => ?_
    have hn := hnodes c hc
    obtain ⟨n, comment⟩ := c
    dsimp only
    split
    · refine (h.enterScopes_adds n scope _).behind fun target => ?_
      cases hbody : n.child? "body" with
      | none => exact .pure fun _ _ => trivial
      | some body => exact hinside (hN.child? hn hbody) target
    · exact hrecord hn comment
    · exact hrecord hn comment
    · exact hrecord hn comment
    · exact (h.readEnumeration_adds n scope comment none).behind fun _ => .pure fun _ _ => trivial
    · exact h.readDeclaration_adds hr hN hn scope comment .everyone
    · exact h.readDeclaration_adds hr hN hn scope comment .everyone
    · exact h.readAlias_adds hr hN hn scope comment
    · cases hbody : n.child? "body" with
      | none => exact .pure fun _ _ => trivial
      | some body =>
        have hbody := hN.child? hn hbody
        dsimp only
        split_ifs
        · exact hinside hbody scope
        · exact ih _ (List.forall_mem_singleton.2 hbody) scope
    · split_ifs
      · exact hinside hn scope
      · exact .pure fun _ _ => trivial

end Header

end Bindery
