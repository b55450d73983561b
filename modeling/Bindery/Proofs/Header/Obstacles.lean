import Bindery.Proofs.Header.Declaring
import Bindery.Proofs.Header.Unit

/-!
# What keeps a header from being read

Few things can go wrong while a header is read: an access specifier that has no word or an unknown
one, and an initializer that cannot be read or evaluated. Where they stand can be told from the tree
alone, and reading fails at the first of them that it comes to, or not at all. Nothing else is ever
refused: what is created always stands in something that takes it in, which is why the forms of what
is known to be there are carried along.
-/

namespace Bindery

open Library SyntaxNode

/-! ### Steps that end at the first obstacle -/

/-- What an outcome is refused with. -/
def refusalOf {ε α : Type} : Except ε α → Option ε
  | .ok _ => none
  | .error e => some e

variable {α γ : Type}

/-- A step of reading a header that relies on `known` ends at the first of some obstacles, or, if
there are none, goes through; the library goes on growing in any case. -/
structure Meets (known : Known) (m : Build α) (gained : α → Known) (obstacles : List Fault) :
    Prop where
  /-- The library goes on growing from its unit. -/
  grows : GrowsBy known m gained
  /-- The step is refused with the first obstacle. -/
  ends : ∀ lib, lib.Growing → lib.Knows known →
    refusalOf (outcomeOf m lib).1 = obstacles.head?

namespace Meets

variable {known : Known} {m : Build α} {gained : α → Known} {obstacles rest : List Fault}

theorem weaken {less : Known} (h : Meets less m gained obstacles) (hc : known.Covers less) :
    Meets known m gained obstacles :=
  ⟨h.grows.weaken hc, fun lib hlib hk => h.ends lib hlib (hk.covers hc)⟩

/-- What was gained on the way may be left aside. -/
theorem forget {extra : Known} (h : Meets known m gained obstacles) :
    Meets (extra ++ known) m gained obstacles :=
  h.weaken fun x hx => ⟨x.2, List.mem_append_right _ hx, fun _ hf => hf⟩

theorem pure (a : α) (h : known.Covers (gained a)) : Meets known (Pure.pure a) gained [] :=
  ⟨.pure a h, fun _ _ _ => rfl⟩

theorem throw (e : Fault) : Meets known (MonadExcept.throw e : Build α) gained [e] :=
  ⟨.throw e, fun _ _ _ => rfl⟩

/-- A step that always goes through. -/
theorem of_reads {β : Type} {g : α → β} {m' : Build β}
    (h : Reads (.empty .null .null) known g m m' gained)
    (hok : ∀ lib, lib.Growing → lib.Knows known → refusalOf (outcomeOf m lib).1 = none) :
    Meets known m gained [] :=
  ⟨h.grows, hok⟩

theorem bind {f : α → Build γ} {last : γ → Known} (h : Meets known m gained obstacles)
    (hf : ∀ a, Meets (gained a ++ known) (f a) last rest) :
    Meets known (m >>= f) last (obstacles ++ rest) := by
  refine ⟨h.grows.bind fun a => (hf a).grows, fun lib hlib hk => ?_⟩
  have hends := h.ends lib hlib hk
  obtain ⟨hgrow, hgrows, hgained⟩ := h.grows lib hlib hk
  rw [outcomeOf_bind]
  revert hends hgrow hgrows hgained
  rcases outcomeOf m lib with ⟨e | a, t⟩ <;> intro hends hgrow hgrows hgained
  · rw [List.head?_append, ← hends]
    rfl
  · have hnil : obstacles = [] := List.head?_eq_none_iff.1 hends.symm
    rw [hnil, List.nil_append]
    refine (hf a).ends t hgrow fun x hx => ?_
    rcases List.mem_append.1 hx with hx | hx
    · exact hgained a rfl x hx
    · exact hk.grows hgrows x hx

/-- What comes behind a step that goes through. -/
theorem behind {f : α → Build γ} {last : γ → Known} (h : Meets known m gained [])
    (hf : ∀ a, Meets (gained a ++ known) (f a) last rest) : Meets known (m >>= f) last rest :=
  h.bind hf

/-- What goes through comes behind a step. -/
theorem before {f : α → Build γ} {last : γ → Known} (h : Meets known m gained obstacles)
    (hf : ∀ a, Meets (gained a ++ known) (f a) last []) : Meets known (m >>= f) last obstacles := by
  have hbind := h.bind hf
  rwa [List.append_nil] at hbind

/-- Steps one after the other, each with the result of the one before it. -/
theorem foldlM {l : List γ} {f : α → γ → Build α} {s : γ → List Fault}
    (hf : ∀ a, ∀ c ∈ l, Meets (gained a ++ known) (f a c) gained (s c)) (a : α) :
    Meets (gained a ++ known) (l.foldlM f a) gained (l.flatMap s) := by
  induction l generalizing a with
  | nil => exact pure a fun x hx => ⟨x.2, List.mem_append_left _ hx, fun _ hf => hf⟩
  | cons c l ih =>
    rw [List.foldlM_cons, List.flatMap_cons]
    refine (hf a c (List.mem_cons_self ..)).bind fun b => ?_
    refine (ih (fun b x hx => hf b x (List.mem_cons_of_mem _ hx)) b).weaken fun x hx => ?_
    refine ⟨x.2, ?_, fun _ hf => hf⟩
    rcases List.mem_append.1 hx with hx | hx
    · exact List.mem_append_left _ hx
    · exact List.mem_append_right _ (List.mem_append_right _ hx)

/-- Steps one after the other that gain nothing. -/
theorem foldlM_plain {l : List γ} {f : α → γ → Build α} {s : γ → List Fault}
    (hf : ∀ a, ∀ c ∈ l, Meets known (f a c) (fun _ => []) (s c)) (a : α) :
    Meets known (l.foldlM f a) (fun _ => []) (l.flatMap s) := by
  let gained : α → Known := fun _ => []
  have hfold : Meets (gained a ++ known) (l.foldlM f a) gained (l.flatMap s) := foldlM hf a
  exact hfold

theorem forM {l : List γ} {f : γ → Build PUnit} {s : γ → List Fault}
    (hf : ∀ c ∈ l, Meets known (f c) (fun _ => []) (s c)) :
    Meets known (l.forM f) (fun _ => []) (l.flatMap s) := by
  induction l with
  | nil => exact pure PUnit.unit known.covers_nil
  | cons c l ih =>
    exact (hf c (List.mem_cons_self ..)).bind fun _ =>
      (ih fun x hx => hf x (List.mem_cons_of_mem _ hx))

/-- Steps one after the other that go through. -/
theorem forM_plain {l : List γ} {f : γ → Build PUnit}
    (hf : ∀ c ∈ l, Meets known (f c) (fun _ => []) []) :
    Meets known (l.forM f) (fun _ => []) [] := by
  have hforM := forM hf
  rwa [List.flatMap_eq_nil_iff.2 fun _ _ => rfl] at hforM

end Meets

/-! ### Obstacles by place -/

namespace Header

variable (h : Header)

/-- What is wrong with a node in the body of a class that is to set an access level. -/
def accessObstacles (n : SyntaxNode) : List Fault :=
  if n.kind = "access_specifier" then (refusalOf (h.accessOf n)).toList else []

/-- What is wrong with the initializer of an item. -/
def itemObstacles (n : SyntaxNode) : List Fault :=
  ((Initializer.obstacle? (h.source.textOf (n.child? "value"))).map Fault.initializer).toList

/-- What is wrong inside the definition of a type. -/
def typeObstacles (t : SyntaxNode) : List Fault :=
  match _hbody : t.child? "body" with
  | none => []
  | some body =>
    if t.kind = "enum_specifier" then
      (body.namedChildren.filter (·.kind == "enumerator")).flatMap h.itemObstacles
    else if (t.child? "name").any (·.kind == "template_type") then []
    else
      (membersAmong body.children).attach.flatMap fun ⟨m, _hm⟩ =>
        h.accessObstacles m ++
          match _hdefined : h.definedType? true m with
          | none => []
          | some defined => typeObstacles defined.1
termination_by t.size
decreasing_by
  have hmember := size_le_of_mem_membersAmong _ m _hm
  have hdefined := h.size_of_definedType? _hdefined
  have hinside := body.sizes_children_lt_size
  have hbody := size_child?_lt _hbody
  omega

/-- What is wrong inside the type that a node defines, in a class or in a scope. -/
def definedObstacles (inClass : Bool) (n : SyntaxNode) : List Fault :=
  (h.definedType? inClass n).elim [] fun defined => h.typeObstacles defined.1

/-- What is wrong with a member of a class. -/
def memberObstacles (m : SyntaxNode) : List Fault :=
  h.accessObstacles m ++ h.definedObstacles true m

theorem typeObstacles_eq (t : SyntaxNode) :
    h.typeObstacles t =
      match t.child? "body" with
      | none => []
      | some body =>
        if t.kind = "enum_specifier" then
          (body.namedChildren.filter (·.kind == "enumerator")).flatMap h.itemObstacles
        else if (t.child? "name").any (·.kind == "template_type") then []
        else (membersAmong body.children).flatMap h.memberObstacles := by
  rw [typeObstacles]
  split
  · next hnone => rw [hnone]
  · next body hsome =>
    rw [hsome]
    dsimp only
    split_ifs
    · rfl
    · rfl
    · refine Eq.trans (List.flatMap_congr fun m _ => ?_) (flatMap_attach _ _)
      unfold memberObstacles definedObstacles
      split
      · next hnone => rw [hnone, Option.elim_none]
      · next defined hdefined => rw [hdefined, Option.elim_some]

/-- What is wrong with a node in a scope, wrappers and namespaces included. -/
def scopeObstacles (n : SyntaxNode) : List Fault :=
  if n.kind = "linkage_specification" then
    match _hbody : n.child? "body" with
    | none => []
    | some body => scopeObstacles body
  else if n.kind = "declaration_list" ∨ n.isConditional = true then
    n.children.attach.flatMap fun ⟨c, _hc⟩ => scopeObstacles c
  else if n.kind = "namespace_definition" then
    match _hbody : n.child? "body" with
    | none => []
    | some body => body.children.attach.flatMap fun ⟨c, _hc⟩ => scopeObstacles c
  else h.definedObstacles false n
termination_by n.size
decreasing_by
  · exact size_child?_lt _hbody
  · exact Nat.lt_of_le_of_lt (size_le_sizes _hc) n.sizes_children_lt_size
  · have hinside := size_le_sizes _hc
    have hchildren := body.sizes_children_lt_size
    have hbody := size_child?_lt _hbody
    omega

theorem scopeObstacles_eq (n : SyntaxNode) :
    h.scopeObstacles n =
      if n.kind = "linkage_specification" then
        (n.child? "body").elim [] h.scopeObstacles
      else if n.kind = "declaration_list" ∨ n.isConditional = true then
        n.children.flatMap h.scopeObstacles
      else if n.kind = "namespace_definition" then
        (n.child? "body").elim [] fun body => body.children.flatMap h.scopeObstacles
      else h.definedObstacles false n := by
  rw [scopeObstacles]
  split_ifs
  · split
    · next hnone => rw [hnone, Option.elim_none]
    · next body hsome => rw [hsome, Option.elim_some]
  · exact flatMap_attach _ _
  · split
    · next hnone => rw [hnone, Option.elim_none]
    · next body hsome =>
      rw [hsome, Option.elim_some]
      exact flatMap_attach _ _
  · rfl

/-- What is wrong with a header, in the order in which it is read. -/
def obstacles (tree : SyntaxNode) : List Fault :=
  tree.children.flatMap h.scopeObstacles

/-! ### What goes through -/

/-- Creating a declaration in one that takes its form in. -/
theorem create_meets {body : Body} (form : Form) (hform : body.form = form)
    (hbody : ∀ old : Library, body.renumber old.up = body) {scope : Nat} {forms : List Form}
    (hforms : ∀ f ∈ forms, (f.listFor? form).isSome = true)
    (hempty : ∀ list, body.listOf list = []) (hdef : body.record?.bind (·.definition) = none)
    (name : String) (n : SyntaxNode) (comment : String) :
    Meets [(scope, forms)] (h.create body scope name n comment) (fun id => [(id, [form])]) [] := by
  refine .of_reads (h.create_reads form hform (hbody _) hforms hempty hdef name n comment)
    fun lib _ hk => ?_
  subst hform
  obtain ⟨o, ho, hf⟩ := hk _ (List.mem_singleton.2 rfl)
  have hinsert : (o.body.insert? body lib.created).isSome = true :=
    Body.insert?_isSome_iff.2 (hforms _ hf)
  obtain ⟨b, hb⟩ := Option.isSome_iff_exists.1 hinsert
  have hcreated := Edit.outcomeOf_create body (h.describe name n comment) ho
    (show _ = h.describe name n comment (lib.blankDecl (some scope) body) from rfl)
  have hsame : (h.describe name n comment (lib.blankDecl (some scope) body)).body = body := rfl
  rw [hsame, hb] at hcreated
  unfold create
  rw [outcomeOf_buildEdit, hcreated]
  rfl

theorem typeText_meets (n : SyntaxNode) (type : Option SyntaxNode) (defined : Option Nat) :
    Meets [] (h.typeText n type defined) (fun _ => []) [] :=
  .of_reads (h.typeText_reads n type defined) fun lib _ _ => by cases defined <;> rfl

theorem readParameter_meets (owner index : Nat) (n : SyntaxNode) :
    Meets [(owner, callables)] (h.readParameter owner index n) (fun _ => []) [] := by
  refine ((h.typeText_meets n _ none).weaken (Known.covers_nil _)).behind fun _ => ?_
  refine (h.create_meets .parameter rfl (fun _ => rfl) (by decide) (fun _ => rfl) rfl _ n "").behind
    fun _ => ?_
  exact .pure () (Known.covers_nil _)

theorem readParameters_meets (list : Option SyntaxNode) (owner : Nat) :
    Meets [(owner, callables)] (h.readParameters list owner) (fun _ => []) [] := by
  unfold readParameters
  cases list with
  | none => exact .pure () (Known.covers_nil _)
  | some list =>
    have hparams : ∀ params : List SyntaxNode, Meets [(owner, callables)]
        (if !h.saysNone params then
          params.zipIdx.forM fun p => h.readParameter owner p.2 p.1 else pure ())
        (fun _ => []) [] := by
      intro params
      split
      · exact .forM_plain fun p _ => h.readParameter_meets owner p.2 p.1
      · exact .pure () (Known.covers_nil _)
    have hmark : Meets [] (modify (·.update owner fun d =>
        { d with body := d.body.mapPrototype fun p => { p with variadic := true } }) : Build PUnit)
        (fun _ => []) [] := .of_reads (markVariadic_reads owner) fun _ _ _ => rfl
    dsimp only
    split
    · exact (hmark.weaken (Known.covers_nil _)).behind fun _ => hparams _
    · exact hparams _

theorem readCallable_meets (n : SyntaxNode) (scope : Nat) (comment type name : String)
    (function : SyntaxNode) (access : Access) :
    Meets [(scope, Form.scopes)] (h.readCallable n scope comment type name function access)
      (fun _ => []) [] := by
  -- a method in a class and a function in a scope are created alike
  have hrest (body : Body) (form : Form) (forms : List Form) (known : Known)
      (hform : body.form = form) (hbody : ∀ old : Library, body.renumber old.up = body)
      (hforms : ∀ f ∈ forms, (f.listFor? form).isSome = true)
      (hempty : ∀ list, body.listOf list = []) (hdef : body.record?.bind (·.definition) = none)
      (hcallable : form ∈ callables) (hscope : (scope, forms) ∈ known) :
      Meets known
        (h.create body scope name n comment >>= h.readParameters (function.child? "parameters"))
        (fun _ => []) [] := by
    have hcreate : Meets [(scope, forms)] (h.create body scope name n comment)
        (fun id => [(id, [form])]) [] :=
      h.create_meets form hform hbody hforms hempty hdef name n comment
    refine (hcreate.weaken (Known.covers_of_mem hscope fun _ hf => hf)).behind fun id => ?_
    refine (h.readParameters_meets _ id).weaken (Known.covers_of_mem (List.mem_cons_self ..) ?_)
    intro f hf
    rw [List.mem_singleton.1 hf]
    exact hcallable
  unfold readCallable
  dsimp only
  refine Meets.behind (.of_reads (Build.isRecord_reads scope) fun _ _ _ => rfl) fun isMember => ?_
  cases isMember with
  | true =>
    have hname : Meets [] (Build.nameOf scope) (fun _ => []) [] :=
      .of_reads (Build.nameOf_reads scope) fun _ _ _ => rfl
    refine (hname.weaken (Known.covers_nil _)).behind fun _ => ?_
    refine hrest _ .method [.record] _ rfl (fun _ => rfl) (by decide) (fun list => ?_) rfl
      (by decide) (List.mem_append_right _ (List.mem_cons_self ..))
    rw [Body.listOf_method]
    exact ite_self _
  | false =>
    refine hrest _ .function [.unit, .space] _ rfl (fun _ => rfl) (by decide) (fun list => ?_) rfl
      (by decide) (List.mem_cons_self ..)
    rw [Body.listOf_function]
    exact ite_self _

theorem readDeclarator_meets (n : SyntaxNode) (scope : Nat) (comment : String) (access : Access)
    (base : Option String) (c : SyntaxNode) :
    Meets [(scope, Form.scopes)] (h.readDeclarator n scope comment access base c) (fun _ => [])
      [] := by
  unfold readDeclarator
  dsimp only
  cases (Declarator.unwrap h.source c).function with
  | none => exact .pure () (Known.covers_nil _)
  | some function =>
    refine Meets.behind (.of_reads (Build.isRecord_reads scope) fun _ _ _ => rfl) fun isMember =>
      .forget ?_
    split_ifs
    · exact .pure () (Known.covers_nil _)
    · exact h.readCallable_meets n scope comment _ _ function access

theorem readMember_meets (n : SyntaxNode) (owner : Nat) (access : Access) (comment : String)
    (defined : Option Nat) (base : String) (c : SyntaxNode) :
    Meets (ReadType defined ++ [(owner, [.record])])
      (h.readMember n owner access comment defined base c) (fun _ => []) [] := by
  have hfield (type name : String) {note : Nat → Build Unit}
      (hnote : ∀ a, Meets ([(a, [Form.field])] ++ (ReadType defined ++ [(owner, [.record])]))
        (note a) (fun _ => []) []) :
      Meets (ReadType defined ++ [(owner, [.record])])
        (h.create (.field type access) owner name c comment >>= note) (fun _ => []) [] := by
    have hcreate : Meets [(owner, [.record])] (h.create (.field type access) owner name c comment)
        (fun id => [(id, [.field])]) [] :=
      h.create_meets .field rfl (fun _ => rfl) (by decide) (fun _ => rfl) rfl name c comment
    refine (hcreate.weaken ?_).behind hnote
    exact Known.covers_of_mem (List.mem_append_right _ (List.mem_cons_self ..)) fun _ hf => hf
  have hlink (a t : Nat) : Meets ([(a, [Form.field])] ++ (ReadType (some t) ++ [(owner, [.record])]))
      (modify (·.update a fun f =>
        { f with notes := f.notes.put "type_declaration_id" (.int t) }) : Build PUnit)
      (fun _ => []) [] := by
    refine Meets.weaken (.of_reads (noteType_reads a t) fun _ _ _ => rfl) ?_
    exact Known.covers_of_mem (List.mem_cons_of_mem _ (List.mem_cons_self ..)) fun _ hf => hf
  unfold readMember
  dsimp only
  cases (Declarator.unwrap h.source c).function with
  | none =>
    refine hfield _ _ fun a => ?_
    cases defined with
    | none => exact .pure () (Known.covers_nil _)
    | some t => exact hlink a t
  | some function =>
    cases (Declarator.unwrap h.source c).isFunctionPointer with
    | true =>
      refine hfield _ _ fun a => ?_
      cases defined with
      | none => exact .pure () (Known.covers_nil _)
      | some t => exact hlink a t
    | false =>
      refine (h.readCallable_meets n owner comment _ _ function access).weaken ?_
      refine Known.covers_of_mem (List.mem_append_right _ (List.mem_cons_self ..)) ?_
      decide

theorem enterScope_meets (n : SyntaxNode) (scope : Nat) (name : String) :
    Meets [(scope, Form.spaces)] (h.enterScope n scope name) (fun id => [(id, Form.spaces)])
      [] := by
  refine .of_reads (h.enterScope_reads n scope name) fun lib hlib hk => ?_
  have hcreate : Meets [(scope, Form.spaces)] (h.create (.space .empty) scope name n "")
      (fun id => [(id, [.space])]) [] := by
    refine h.create_meets .space rfl (fun _ => rfl) (by decide) (fun list => ?_) rfl name n ""
    rw [Body.listOf_space, Body.listOf_unit]
    split_ifs <;> rfl
  unfold enterScope
  rw [outcomeOf_bind_ok (outcomeOf_get lib)]
  dsimp only
  split
  · rfl
  · exact hcreate.ends lib hlib hk

/-! ### Types and members -/

theorem readItem_meets (owner : Nat) (s : ItemState) (n : SyntaxNode) :
    Meets [(owner, [.enumeration])] (h.readItem owner s n) (fun _ => []) (h.itemObstacles n) := by
  unfold readItem itemObstacles
  dsimp only
  cases Initializer.obstacle? (h.source.textOf (n.child? "value")) with
  | some o => exact .throw _
  | none =>
    refine (h.create_meets .enumItem rfl (fun _ => rfl) (by decide) (fun _ => rfl) rfl _ n
      "").behind fun id => ?_
    exact .pure _ (Known.covers_nil _)

theorem readEnumeration_meets {t : SyntaxNode} (ht : t.kind = "enum_specifier") (scope : Nat)
    (comment : String) (otherName : Option String) :
    Meets [(scope, Form.scopes)] (h.readEnumeration t scope comment otherName) ReadType
      (h.typeObstacles t) := by
  rw [typeObstacles_eq]
  unfold readEnumeration
  cases t.child? "body" with
  | none => exact .pure none (Known.covers_nil _)
  | some body =>
    dsimp only
    rw [if_pos ht]
    refine (h.create_meets .enumeration rfl (fun _ => rfl) (by decide) ?_ rfl _ t comment).behind
      fun a => ?_
    · intro list
      rw [Body.listOf_enumeration]
      exact ite_self _
    · have hitem (s : ItemState) (c : SyntaxNode) : Meets
          ([(a, [.enumeration])] ++ [(scope, Form.scopes)]) (h.readItem a s c) (fun _ => [])
          (h.itemObstacles c) :=
        (h.readItem_meets a s c).weaken
          (Known.covers_of_mem (List.mem_cons_self ..) fun _ hf => hf)
      refine (Meets.foldlM_plain (fun s c _ => hitem s c) ItemState.start).before fun _ => ?_
      refine .pure (some a) (Known.covers_of_mem (List.mem_cons_self ..) ?_)
      decide

/-- A way of reading classes up to a size that fails at the first obstacle inside of them. -/
def MeetsRecords (size : Nat) (readRecord : RecordReader) : Prop :=
  ∀ t scope comment otherName, t.size ≤ size → t.kind ≠ "enum_specifier" →
    Meets [(scope, Form.scopes)] (readRecord t scope comment otherName) ReadType
      (h.typeObstacles t)

section Members

variable {size : Nat} {readRecord : RecordReader} (hr : h.MeetsRecords size readRecord)
include hr

theorem readType_meets {t : SyntaxNode} (ht : t.size ≤ size) (scope : Nat) (comment : String)
    (otherName : Option String) :
    Meets [(scope, Form.scopes)]
      (if t.kind = "enum_specifier" then h.readEnumeration t scope comment otherName
        else readRecord t scope comment otherName) ReadType (h.typeObstacles t) := by
  split_ifs with henum
  · exact h.readEnumeration_meets henum scope comment otherName
  · exact hr t scope comment otherName ht henum

theorem readDefinedType_meets {n : SyntaxNode} (hn : n.size ≤ size) (scope : Nat)
    (comment : String) :
    Meets [(scope, Form.scopes)]
      (h.readDefinedType readRecord (n.child? "type") scope comment
        !(n.childrenAt "declarator").isEmpty) ReadType
      ((typeOnTheWay? n).elim [] fun defined => h.typeObstacles defined.1) := by
  have hnone : Meets [(scope, Form.scopes)] (pure none) ReadType [] :=
    .pure none (Known.covers_nil _)
  unfold readDefinedType typeOnTheWay?
  cases htype : n.child? "type" with
  | none => exact hnone
  | some t =>
    have ht : t.size ≤ size := Nat.le_trans (Nat.le_of_lt (size_child?_lt htype)) hn
    have hread := h.readType_meets hr ht scope comment none
    dsimp only
    rw [Option.filter_some]
    cases hdefines : definesType t.kind
    · exact hnone
    · cases hbody : t.child? "body" <;> cases hempty : (n.childrenAt "declarator").isEmpty
      all_goals first
        | exact hread
        | exact hnone

theorem readAlias_meets {n : SyntaxNode} (hn : n.size ≤ size) (scope : Nat) (comment : String) :
    Meets [(scope, Form.scopes)] (h.readAlias readRecord n scope comment) (fun _ => [])
      ((h.renamedType? n).elim [] fun defined => h.typeObstacles defined.1) := by
  unfold readAlias renamedType?
  dsimp only
  cases htype : n.child? "type" with
  | none => exact .pure () (Known.covers_nil _)
  | some t =>
    have ht : t.size ≤ size := Nat.le_trans (Nat.le_of_lt (size_child?_lt htype)) hn
    rw [Option.filter_some]
    dsimp only
    cases hdefines : definesType t.kind
    · exact .pure () (Known.covers_nil _)
    · rw [if_pos rfl, if_pos rfl]
      split_ifs with henum
      · exact (h.readEnumeration_meets henum scope comment _).before fun _ =>
          .pure () (Known.covers_nil _)
      · exact (hr t scope comment _ ht henum).before fun _ => .pure () (Known.covers_nil _)

theorem readDeclaration_meets {n : SyntaxNode} (hn : n.size ≤ size) (scope : Nat)
    (comment : String) (access : Access) :
    Meets [(scope, Form.scopes)] (h.readDeclaration readRecord n scope comment access)
      (fun _ => []) ((typeOnTheWay? n).elim [] fun defined => h.typeObstacles defined.1) := by
  have hdeclarators (base : Option String) : Meets [(scope, Form.scopes)]
      ((n.childrenAt "declarator").forM (h.readDeclarator n scope comment access base))
      (fun _ => []) [] :=
    .forM_plain fun c _ => h.readDeclarator_meets n scope comment access base c
  unfold readDeclaration
  dsimp only
  refine (h.readDefinedType_meets hr hn scope comment).before fun defined => ?_
  cases n.child? "type" with
  | none => exact .forget (hdeclarators none)
  | some type =>
    refine ((h.typeText_meets n _ defined).weaken (Known.covers_nil _)).behind fun base => ?_
    exact .forget (.forget (hdeclarators (some base)))

theorem readFields_meets {n : SyntaxNode} (hn : n.size ≤ size) (owner : Nat) (access : Access)
    (comment : String) :
    Meets [(owner, [.record])] (h.readFields readRecord n owner access comment) (fun _ => [])
      ((typeOnTheWay? n).elim [] fun defined => h.typeObstacles defined.1) := by
  unfold readFields
  dsimp only
  refine ((h.readDefinedType_meets hr hn owner comment).weaken ?_).before fun defined => ?_
  · exact Known.covers_of_mem (List.mem_cons_self ..) (by decide)
  refine ((h.typeText_meets n _ defined).weaken (Known.covers_nil _)).behind fun base => ?_
  exact .forM_plain fun c _ => h.readMember_meets n owner access comment defined base c

/-- What is wrong at a node in the body of a class, in conditional text too. -/
def obstaclesBelow (n : SyntaxNode) : List Fault :=
  n.members.flatMap h.memberObstacles

omit hr in
theorem obstaclesBelow_of_not_conditional {n : SyntaxNode} (hn : n.isConditional = false) :
    h.obstaclesBelow n = h.accessObstacles n ++ h.definedObstacles true n := by
  unfold obstaclesBelow
  rw [n.members_eq, hn]
  exact List.append_nil _

omit hr in
theorem definedObstacles_eq_nil {inClass : Bool} {n : SyntaxNode}
    (hn : ∀ kind ∈ declaringKinds inClass, n.kind ≠ kind) :
    h.definedObstacles inClass n = [] := by
  unfold definedObstacles
  rw [h.definedType?_eq_none hn, Option.elim_none]

omit hr in
theorem accessObstacles_eq_nil {n : SyntaxNode} (hn : n.kind ≠ "access_specifier") :
    h.accessObstacles n = [] :=
  if_neg hn

omit hr in
theorem obstaclesBelow_comment {n : SyntaxNode} (hn : n.kind = "comment") :
    h.obstaclesBelow n = [] := by
  rw [h.obstaclesBelow_of_not_conditional (not_conditional hn (by decide)),
    h.accessObstacles_eq_nil (by rw [hn]; decide), h.definedObstacles_eq_nil (by rw [hn]; decide)]
  rfl

omit hr in
/-- What is wrong at a node that defines a type on the way. -/
theorem definedObstacles_onTheWay {inClass : Bool} {n : SyntaxNode}
    (hn : n.kind = "declaration" ∨ n.kind = "function_definition" ∨
      (n.kind = "field_declaration" ∧ inClass = true)) :
    h.definedObstacles inClass n =
      (typeOnTheWay? n).elim [] fun defined => h.typeObstacles defined.1 := by
  have hdefined : h.definedType? inClass n = typeOnTheWay? n := by
    unfold definedType?
    rcases hn with hn | hn | ⟨hn, rfl⟩ <;> rw [hn] <;> rfl
  unfold definedObstacles
  rw [hdefined]

omit hr in
theorem definedObstacles_alias {inClass : Bool} {n : SyntaxNode} (hn : n.kind = "type_definition") :
    h.definedObstacles inClass n =
      (h.renamedType? n).elim [] fun defined => h.typeObstacles defined.1 := by
  have hdefined : h.definedType? inClass n = h.renamedType? n := by
    unfold definedType?
    rw [hn]
    rfl
  unfold definedObstacles
  rw [hdefined]

/-- One node in the body of a class, where the reader for what is inside of conditional text fails
at the first obstacle there. -/
theorem memberStep_meets {n : SyntaxNode} (hn : n.size ≤ size) (owner : Nat) (access : Access)
    (comment : String) {inside : SyntaxNode → Access → Build Unit}
    (hinside : Meets [(owner, [.record])] (inside n access) (fun _ => [])
      (n.children.flatMap h.obstaclesBelow)) :
    Meets [(owner, [.record])] (h.memberStep readRecord inside owner access (n, comment))
      (fun _ => []) (h.obstaclesBelow n) := by
  have hscope : Known.Covers [(owner, [.record])] [(owner, Form.scopes)] :=
    Known.covers_of_mem (List.mem_cons_self ..) (by decide)
  have hkeep {m : Build PUnit} {s : List Fault}
      (hm : Meets [(owner, [.record])] m (fun _ => []) s) :
      Meets [(owner, [.record])] (do m; pure access) (fun _ => []) s :=
    hm.before fun _ => .pure access (Known.covers_nil _)
  -- nodes of all kinds but one set no access level
  have hdefined {kind : String} (hkind : n.kind = kind) (haccess : kind ≠ "access_specifier")
      (hplain : "preproc_".toList.isPrefixOf kind.toList = false) :
      h.obstaclesBelow n = h.definedObstacles true n := by
    rw [h.obstaclesBelow_of_not_conditional (not_conditional hkind hplain),
      h.accessObstacles_eq_nil (hkind ▸ haccess), List.nil_append]
  unfold memberStep
  dsimp only
  split
  · next hkind =>
    rw [h.obstaclesBelow_of_not_conditional (not_conditional hkind (by decide)),
      h.definedObstacles_eq_nil (by rw [hkind]; decide), List.append_nil, accessObstacles,
      if_pos hkind]
    cases h.accessOf n with
    | ok a => exact .pure a (Known.covers_nil _)
    | error f => exact .throw f
  · next hkind =>
    rw [hdefined hkind (by decide) (by decide),
      h.definedObstacles_onTheWay (.inr (.inr ⟨hkind, rfl⟩))]
    exact hkeep (h.readFields_meets hr hn owner access comment)
  · next hkind =>
    rw [hdefined hkind (by decide) (by decide), h.definedObstacles_onTheWay (.inl hkind)]
    exact hkeep ((h.readDeclaration_meets hr hn owner comment access).weaken hscope)
  · next hkind =>
    rw [hdefined hkind (by decide) (by decide), h.definedObstacles_onTheWay (.inr (.inl hkind))]
    exact hkeep ((h.readDeclaration_meets hr hn owner comment access).weaken hscope)
  · next hkind =>
    rw [hdefined hkind (by decide) (by decide), h.definedObstacles_alias hkind]
    exact hkeep ((h.readAlias_meets hr hn owner comment).weaken hscope)
  · next haccess hfield hdeclaration hdefinition halias =>
    split
    · next hconditional =>
      have hbelow : h.obstaclesBelow n = n.children.flatMap h.obstaclesBelow := by
        unfold obstaclesBelow
        rw [n.members_eq, isConditional, if_pos hconditional, membersAmong_eq, List.flatMap_assoc]
      rw [hbelow]
      exact hkeep hinside
    · next hconditional =>
      have hother : ∀ kind ∈ declaringKinds true, n.kind ≠ kind := by
        simpa [declaringKinds] using ⟨hdeclaration, hdefinition, halias, hfield⟩
      rw [h.obstaclesBelow_of_not_conditional (Bool.eq_false_iff.2 hconditional),
        h.accessObstacles_eq_nil haccess, h.definedObstacles_eq_nil hother]
      exact .pure access (Known.covers_nil _)

end Members

/-- Reading the body of a class fails at the first obstacle in it. -/
theorem fullMembers_meets {nodes : List SyntaxNode}
    (hr : h.MeetsRecords (sizes nodes) h.fullRecord) (owner : Nat) (access : Access) :
    Meets [(owner, [.record])] (h.fullMembers nodes owner access) (fun _ => [])
      (nodes.flatMap h.obstaclesBelow) := by
  induction hsize : sizes nodes using Nat.strongRecOn generalizing nodes access with
  | ind k ih =>
    subst hsize
    rw [fullMembers_eq, ← h.flatMap_commented fun _ => h.obstaclesBelow_comment]
    refine Meets.before (.foldlM_plain (fun access c hc => ?_) access) fun _ =>
      .pure () (Known.covers_nil _)
    have hmem := size_le_sizes (h.mem_of_mem_commented hc)
    have hlt := Nat.lt_of_lt_of_le c.1.sizes_children_lt_size hmem
    refine h.memberStep_meets hr hmem owner access c.2 (ih _ hlt ?_ access rfl)
    exact fun t scope comment otherName ht =>
      hr t scope comment otherName (Nat.le_trans ht (Nat.le_of_lt hlt))

/-- Reading a class fails at the first obstacle inside of it. -/
theorem fullRecord_meets (size : Nat) : h.MeetsRecords size h.fullRecord := by
  induction size with
  | zero =>
    intro t scope comment otherName ht
    exact absurd t.size_pos (by omega)
  | succ size ih =>
    intro t scope comment otherName ht henum
    rw [typeObstacles_eq, fullRecord_eq]
    split_ifs with htemplate
    · cases t.child? "body" <;> exact .pure none (Known.covers_nil _)
    · refine (h.create_meets .record rfl (fun _ => rfl) (by decide) (fun list => ?_) rfl _ t
        comment).behind fun id => ?_
      · rw [Body.listOf_record]
        split_ifs <;> rfl
      have hrecord (known : Known) (hid : (id, [.record]) ∈ known) :
          Meets known (pure (some id)) ReadType [] :=
        .pure (some id) (Known.covers_of_mem hid (by decide))
      cases hbody : t.child? "body" with
      | none => exact hrecord _ (List.mem_cons_self ..)
      | some body =>
        have hlt := size_child?_lt hbody
        have hinside := body.sizes_children_lt_size
        have hr : h.MeetsRecords (sizes body.children) h.fullRecord :=
          fun m scope comment otherName hm => ih m scope comment otherName (by omega)
        dsimp only
        rw [membersAmong_eq, List.flatMap_assoc]
        have hmembers (access : Access) := h.fullMembers_meets hr id access
        refine ((hmembers _).weaken ?_).before fun _ => hrecord _ (List.mem_cons_self ..)
        exact Known.covers_of_mem (List.mem_cons_self ..) fun _ hf => hf

/-! ### Scopes -/

theorem enterScopes_meets (n : SyntaxNode) (scope : Nat) (names : List String) :
    Meets [(scope, Form.spaces)] (names.foldlM (h.enterScope n) scope)
      (fun id => [(id, Form.spaces)]) [] := by
  let gained : Nat → Known := fun id => [(id, Form.spaces)]
  have hfold : Meets (gained scope ++ []) (names.foldlM (h.enterScope n) scope) gained
      (names.flatMap fun _ => []) :=
    .foldlM (fun a name _ => h.enterScope_meets n a name) scope
  rwa [List.flatMap_eq_nil_iff.2 fun _ _ => rfl] at hfold

/-- What is wrong with a definition of a type that stands in a scope. -/
theorem definedObstacles_type {n : SyntaxNode} {kind : String} (hn : n.kind = kind)
    (hkind : kind ∈ ["class_specifier", "struct_specifier", "union_specifier", "enum_specifier"]) :
    h.definedObstacles false n = h.typeObstacles n := by
  simp only [List.mem_cons, List.not_mem_nil, or_false] at hkind
  have hdefined : h.definedType? false n = some (n, none) := by
    unfold definedType?
    rcases hkind with rfl | rfl | rfl | rfl <;> rw [hn] <;> rfl
  unfold definedObstacles
  rw [hdefined, Option.elim_some]

theorem scopeObstacles_comment {n : SyntaxNode} (hn : n.kind = "comment") :
    h.scopeObstacles n = [] := by
  rw [scopeObstacles_eq, if_neg (by rw [hn]; decide), if_neg, if_neg (by rw [hn]; decide),
    h.definedObstacles_eq_nil (by rw [hn]; decide)]
  rw [isConditional, hn]
  decide

/-- One node in a scope, where the reader for what is inside fails at the first obstacle there. -/
theorem itemStep_meets (n : SyntaxNode) (scope : Nat) (comment : String)
    {inside : List (SyntaxNode × String) → Nat → Build Unit}
    (hinside : ∀ nodes, sizes (nodes.map (·.1)) < n.size → ∀ scope,
      Meets [(scope, Form.spaces)] (inside nodes scope) (fun _ => [])
        (nodes.flatMap fun c => h.scopeObstacles c.1)) :
    Meets [(scope, Form.spaces)] (h.itemStep h.fullRecord inside scope (n, comment)) (fun _ => [])
      (h.scopeObstacles n) := by
  have hchildren : ∀ m : SyntaxNode, m.size ≤ n.size → ∀ scope,
      Meets [(scope, Form.spaces)] (inside (h.commented none m.children) scope) (fun _ => [])
        (m.children.flatMap h.scopeObstacles) := by
    intro m hm scope
    have hle := h.sizes_commented_le none m.children
    have hlt := m.sizes_children_lt_size
    have hread := hinside (h.commented none m.children) (by omega) scope
    rwa [h.flatMap_commented fun _ => h.scopeObstacles_comment] at hread
  rw [scopeObstacles_eq]
  split_ifs with hlinkage hlist hnamespace
  · rw [h.itemStep_linkage hlinkage]
    cases hbody : n.child? "body" with
    | none => exact .pure () (Known.covers_nil _)
    | some body =>
      have hlt := size_child?_lt hbody
      rw [Option.elim_some]
      dsimp only
      split_ifs with hkind
      · rw [scopeObstacles_eq, if_neg (by rw [hkind]; decide), if_pos (.inl hkind)]
        exact hchildren body (Nat.le_of_lt hlt) scope
      · have hread := hinside [(body, comment)] (by simpa [sizes] using hlt) scope
        rwa [List.flatMap_singleton] at hread
  · rw [h.itemStep_list hlist]
    exact hchildren n (Nat.le_refl _) scope
  · rw [h.itemStep_namespace hnamespace]
    refine (h.enterScopes_meets n scope _).behind fun target => ?_
    cases hbody : n.child? "body" with
    | none => exact .pure () (Known.covers_nil _)
    | some body =>
      refine (hchildren body (Nat.le_of_lt (size_child?_lt hbody)) target).weaken ?_
      exact Known.covers_of_mem (List.mem_cons_self ..) fun _ hf => hf
  · have hscope : Known.Covers [(scope, Form.spaces)] [(scope, Form.scopes)] :=
      Known.covers_of_mem (List.mem_cons_self ..) (by decide)
    have hfull : h.MeetsRecords n.size h.fullRecord := h.fullRecord_meets n.size
    have hrecord {kind : String} (hkind : n.kind = kind) (hmem : kind ∈ ["class_specifier",
        "struct_specifier", "union_specifier"]) :
        Meets [(scope, Form.spaces)] (do let _ ← h.fullRecord n scope comment none)
          (fun _ => []) (h.definedObstacles false n) := by
      have henum : n.kind ≠ "enum_specifier" := by
        rintro hn
        rw [← hkind, hn] at hmem
        exact absurd hmem (by decide)
      rw [h.definedObstacles_type hkind (List.mem_append_left ["enum_specifier"] hmem)]
      exact ((hfull n scope comment none (Nat.le_refl _) henum).weaken hscope).before fun _ =>
        .pure () (Known.covers_nil _)
    unfold itemStep
    dsimp only
    split
    · exact absurd ‹_› hnamespace
    · exact hrecord ‹_› (by decide)
    · exact hrecord ‹_› (by decide)
    · exact hrecord ‹_› (by decide)
    · next hkind =>
      rw [h.definedObstacles_type hkind (by decide)]
      exact ((h.readEnumeration_meets hkind scope comment none).weaken hscope).before fun _ =>
        .pure () (Known.covers_nil _)
    · next hkind =>
      rw [h.definedObstacles_onTheWay (.inl hkind)]
      exact (h.readDeclaration_meets hfull (Nat.le_refl _) scope comment .everyone).weaken hscope
    · next hkind =>
      rw [h.definedObstacles_onTheWay (.inr (.inl hkind))]
      exact (h.readDeclaration_meets hfull (Nat.le_refl _) scope comment .everyone).weaken hscope
    · next hkind =>
      rw [h.definedObstacles_alias hkind]
      exact (h.readAlias_meets hfull (Nat.le_refl _) scope comment).weaken hscope
    · exact absurd ‹_› hlinkage
    · next hclass hstruct hunion henum hdeclaration hdefinition halias _ =>
      have hother : ∀ kind ∈ declaringKinds false, n.kind ≠ kind := by
        simpa [declaringKinds] using
          ⟨hdeclaration, hdefinition, halias, hclass, hstruct, hunion, henum⟩
      rw [if_neg (by exact hlist), h.definedObstacles_eq_nil hother]
      exact .pure () (Known.covers_nil _)

/-- Reading what stands in a scope fails at the first obstacle there. -/
theorem fullItems_meets (nodes : List (SyntaxNode × String)) (scope : Nat) :
    Meets [(scope, Form.spaces)] (h.fullItems nodes scope) (fun _ => [])
      (nodes.flatMap fun c => h.scopeObstacles c.1) := by
  induction hsize : sizes (nodes.map (·.1)) using Nat.strongRecOn generalizing nodes scope with
  | ind k ih =>
    subst hsize
    rw [fullItems_eq]
    refine .forM fun c hc => ?_
    have hle : c.1.size ≤ sizes (nodes.map (·.1)) := size_le_sizes (List.mem_map_of_mem hc)
    exact h.itemStep_meets c.1 scope c.2 fun inner hinner scope =>
      ih _ (Nat.lt_of_lt_of_le hinner hle) inner scope rfl

/-! ### Kinds of obstacles -/

end Header

/-- The faults that a header can give rise to where it is read. -/
inductive Fault.InText : Fault → Prop where
  /-- An access specifier has no word. -/
  | noWord : InText .emptyAccess
  /-- An access specifier has a word that stands for no access level. -/
  | unknownWord (shown : String) : InText (.graph (.unknownAccess shown))
  /-- An initializer cannot be read or evaluated. -/
  | initializer (o : Initializer.Obstacle) : InText (.initializer o)

/-- The faults of a header that do not only give up the header. -/
theorem Fault.InText.isHeldBack_eq_false_iff {f : Fault} (hf : f.InText) :
    f.isHeldBack = false ↔ f = .emptyAccess ∨ f = .initializer .tooManyRules := by
  cases hf with
  | noWord => exact ⟨fun _ => .inl rfl, fun _ => by decide⟩
  | unknownWord shown =>
    refine ⟨fun hheld => ?_, fun hf => by rcases hf with hf | hf <;> cases hf⟩
    have hlabel : (Fault.graph (.unknownAccess shown)).label = "ValueError" := rfl
    rw [isHeldBack, hlabel] at hheld
    exact absurd hheld (by decide)
  | initializer o =>
    cases o with
    | tooManyRules => exact ⟨fun _ => .inr rfl, fun _ => by decide⟩
    | _ =>
      refine ⟨fun hheld => absurd hheld (by decide), fun hf => ?_⟩
      rcases hf with hf | hf <;> cases hf

namespace Header

variable (h : Header)

theorem inText_of_mem_accessObstacles {n : SyntaxNode} {f : Fault}
    (hf : f ∈ h.accessObstacles n) : f.InText := by
  unfold accessObstacles accessOf at hf
  split_ifs at hf
  · split at hf
    · obtain rfl := List.mem_singleton.1 hf
      exact .noWord
    · dsimp only at hf
      split at hf
      · cases hf
      · obtain rfl := List.mem_singleton.1 hf
        exact .unknownWord _
  · cases hf

theorem inText_of_mem_itemObstacles {n : SyntaxNode} {f : Fault} (hf : f ∈ h.itemObstacles n) :
    f.InText := by
  obtain ⟨o, -, rfl⟩ := Option.map_eq_some_iff.1 (Option.mem_toList.1 hf)
  exact .initializer o

theorem exists_of_mem_definedObstacles {inClass : Bool} {n : SyntaxNode} {f : Fault}
    (hf : f ∈ h.definedObstacles inClass n) :
    ∃ defined, h.definedType? inClass n = some defined ∧ f ∈ h.typeObstacles defined.1 := by
  unfold definedObstacles at hf
  cases hdefined : h.definedType? inClass n with
  | none =>
    rw [hdefined] at hf
    cases hf
  | some defined =>
    rw [hdefined] at hf
    exact ⟨defined, rfl, hf⟩

theorem inText_of_mem_typeObstacles {t : SyntaxNode} {f : Fault} (hf : f ∈ h.typeObstacles t) :
    f.InText := by
  induction hsize : t.size using Nat.strongRecOn generalizing t with
  | ind k ih =>
    subst hsize
    rw [typeObstacles_eq] at hf
    cases hbody : t.child? "body" with
    | none =>
      rw [hbody] at hf
      cases hf
    | some body =>
      rw [hbody] at hf
      dsimp only at hf
      split_ifs at hf
      · obtain ⟨item, -, hf⟩ := List.mem_flatMap.1 hf
        exact h.inText_of_mem_itemObstacles hf
      · cases hf
      · obtain ⟨m, hm, hf⟩ := List.mem_flatMap.1 hf
        rcases List.mem_append.1 hf with hf | hf
        · exact h.inText_of_mem_accessObstacles hf
        · obtain ⟨defined, hdefined, hf⟩ := h.exists_of_mem_definedObstacles hf
          have hmember := size_le_of_mem_membersAmong _ m hm
          have htype := h.size_of_definedType? hdefined
          have hinside := body.sizes_children_lt_size
          have hlt := size_child?_lt hbody
          exact ih defined.1.size (by omega) hf rfl

theorem inText_of_mem_definedObstacles {inClass : Bool} {n : SyntaxNode} {f : Fault}
    (hf : f ∈ h.definedObstacles inClass n) : f.InText := by
  obtain ⟨defined, -, hf⟩ := h.exists_of_mem_definedObstacles hf
  exact h.inText_of_mem_typeObstacles hf

theorem inText_of_mem_scopeObstacles {n : SyntaxNode} {f : Fault} (hf : f ∈ h.scopeObstacles n) :
    f.InText := by
  induction hsize : n.size using Nat.strongRecOn generalizing n with
  | ind k ih =>
    subst hsize
    have hbelow {m : SyntaxNode} (hm : m.size ≤ n.size)
        (hf : f ∈ m.children.flatMap h.scopeObstacles) : f.InText := by
      obtain ⟨c, hc, hf⟩ := List.mem_flatMap.1 hf
      have hchild := size_le_sizes hc
      have hinside := m.sizes_children_lt_size
      exact ih c.size (by omega) hf rfl
    rw [scopeObstacles_eq] at hf
    cases hbody : n.child? "body" with
    | none =>
      rw [hbody] at hf
      split_ifs at hf
      · cases hf
      · exact hbelow (Nat.le_refl _) hf
      · cases hf
      · exact h.inText_of_mem_definedObstacles hf
    | some body =>
      have hlt := size_child?_lt hbody
      rw [hbody, Option.elim_some, Option.elim_some] at hf
      split_ifs at hf
      · exact ih body.size hlt hf rfl
      · exact hbelow (Nat.le_refl _) hf
      · exact hbelow (Nat.le_of_lt hlt) hf
      · exact h.inText_of_mem_definedObstacles hf

theorem inText_of_mem_obstacles {tree : SyntaxNode} {f : Fault} (hf : f ∈ h.obstacles tree) :
    f.InText := by
  obtain ⟨n, -, hf⟩ := List.mem_flatMap.1 hf
  exact h.inText_of_mem_scopeObstacles hf

/-! ### Headers -/

/-- A header is read up to its first obstacle, or wholly if there is none. -/
theorem refusalOf_draft (name : String) (defines : List Value) (tree : SyntaxNode) :
    refusalOf (h.draft name defines tree).1 = (h.obstacles tree).head? := by
  have hmeets := h.fullItems_meets (h.commented none tree.children) 0
  rw [h.flatMap_commented fun _ => h.scopeObstacles_comment] at hmeets
  unfold draft
  rw [readItems_tree]
  refine hmeets.ends _ (h.emptyUnit_growing name defines) fun x hx => ?_
  obtain rfl := List.mem_singleton.1 hx
  exact ⟨_, h.emptyUnit_decl? name defines 0, List.mem_cons_self ..⟩

/-- What becomes of a header whose tree has no fault, told from its first obstacle. -/
def verdict (tree : SyntaxNode) : HeaderOutcome :=
  match (h.obstacles tree).head? with
  | none => .parsed
  | some f => if f.isHeldBack then .failed (f.label ++ ": " ++ f.message) else .aborted f

theorem fst_readUnit (name : String) (defines : List Value) (tree : SyntaxNode) (lib : Library) :
    (h.readUnit name defines tree lib).1 = h.verdict tree := by
  have hdraft := h.refusalOf_draft name defines tree
  rw [readUnit_eq]
  unfold verdict
  rw [← hdraft]
  rcases h.draft name defines tree with ⟨f | _, new⟩
  · dsimp only [refusalOf]
    split_ifs <;> rfl
  · rfl

/-- Reading a header ends the run at an access specifier without a word and at an initializer that
takes too many rules to read, and at nothing else. -/
theorem verdict_eq_aborted_iff {tree : SyntaxNode} {f : Fault} :
    h.verdict tree = .aborted f ↔ (h.obstacles tree).head? = some f ∧
      (f = .emptyAccess ∨ f = .initializer .tooManyRules) := by
  unfold verdict
  cases hfirst : (h.obstacles tree).head? with
  | none => exact ⟨fun hv => (by cases hv), fun hv => (by cases hv.1)⟩
  | some first =>
    have hkind := h.inText_of_mem_obstacles (List.mem_of_mem_head? hfirst)
    rw [Option.some.injEq]
    dsimp only
    cases hheld : first.isHeldBack with
    | false =>
      rw [if_neg Bool.false_ne_true, HeaderOutcome.aborted.injEq]
      refine ⟨fun hv => ⟨hv, ?_⟩, And.left⟩
      rw [← hv]
      exact hkind.isHeldBack_eq_false_iff.1 hheld
    | true =>
      rw [if_pos rfl]
      refine ⟨fun hv => (by cases hv), ?_⟩
      rintro ⟨rfl, hf⟩
      rw [hkind.isHeldBack_eq_false_iff.2 hf] at hheld
      cases hheld

end Header

end Bindery
