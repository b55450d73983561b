import Bindery.Header.Members
import Bindery.Proofs.Header.Graft

/-!
# Readers of headers

Every reader of a part of a header, from the items of an enumeration up to all that stands in a
scope, keeps a library growing from its unit and does the same behind other declarations. A reader
relies on its scope being a unit, a namespace or a class, and what it creates is taken in there, so
nothing is ever refused a place.
-/

namespace Bindery

variable {old : Library}

/-- What declarations may stand in. -/
abbrev Form.scopes : List Form := [.unit, .space, .record]

/-- What namespaces may stand in. -/
abbrev Form.spaces : List Form := [.unit, .space]

/-- What a type may be defined as. -/
abbrev Form.types : List Form := [.record, .enumeration]

namespace Header

variable (h : Header)

theorem typeText_reads (n : SyntaxNode) (type : Option SyntaxNode) (defined : Option Nat) :
    Reads old [] id (h.typeText n type defined) (h.typeText n type (defined.map old.up))
      fun _ => [] := by
  cases defined with
  | none => exact .pure _ (Known.covers_nil _)
  | some a => exact (Build.nameOf_reads a).bind fun _ => .pure _ (Known.covers_nil _)

/-! ### Enumerations -/

theorem readItem_reads (owner : Nat) (s : ItemState) (n : SyntaxNode) :
    Reads old [(owner, [.enumeration])] id (h.readItem owner s n) (h.readItem (old.up owner) s n)
      fun _ => [] := by
  unfold readItem
  dsimp only
  cases Initializer.obstacle? (h.source.textOf (n.child? "value")) with
  | some o => exact .throw _
  | none =>
    refine (h.create_reads .enumItem rfl rfl (by decide) (fun _ => rfl) rfl _ n "").bind
      fun id => ?_
    exact .pure _ (Known.covers_nil _)

/-- What a reader of types leaves behind: the type it read, if any, is a class or an enumeration. -/
abbrev ReadType (t : Option Nat) : Known :=
  t.toList.map (·, Form.types)

theorem readEnumeration_reads (n : SyntaxNode) (scope : Nat) (comment : String)
    (otherName : Option String) :
    Reads old [(scope, Form.scopes)] (Option.map old.up)
      (h.readEnumeration n scope comment otherName)
      (h.readEnumeration n (old.up scope) comment otherName) ReadType := by
  unfold readEnumeration
  split
  · exact .pure none (Known.covers_nil _)
  · refine (h.create_reads .enumeration rfl rfl (by decide) ?_ rfl _ n comment).bind fun a => ?_
    · intro list
      rw [Body.listOf_enumeration]
      exact ite_self _
    · have hitem (s : ItemState) (c : SyntaxNode) : Reads old
          ([(a, [.enumeration])] ++ [(scope, Form.scopes)]) id (h.readItem a s c)
          (h.readItem (old.up a) s c) fun _ => [] :=
        (h.readItem_reads a s c).weaken
          (Known.covers_of_mem (List.mem_cons_self ..) fun _ hf => hf)
      refine (Reads.foldlM_plain (fun s c _ => hitem s c) ItemState.start).bind fun _ => ?_
      refine .pure (some a) (Known.covers_of_mem (List.mem_cons_self ..) ?_)
      decide

/-! ### Functions -/

/-- What parameters may stand in. -/
abbrev callables : List Form := [.method, .function]

theorem readParameter_reads (owner index : Nat) (n : SyntaxNode) :
    Reads old [(owner, callables)] id (h.readParameter owner index n)
      (h.readParameter (old.up owner) index n) fun _ => [] := by
  refine ((h.typeText_reads n _ none).weaken (Known.covers_nil _)).bind fun _ => ?_
  refine (h.create_reads .parameter rfl rfl (by decide) (fun _ => rfl) rfl _ n "").bind fun _ => ?_
  exact .pure () (Known.covers_nil _)

/-- Marking a function as one that takes further arguments. -/
theorem markVariadic_reads (owner : Nat) :
    Reads old [] id
      (modify (·.update owner fun d =>
        { d with body := d.body.mapPrototype fun p => { p with variadic := true } }) : Build PUnit)
      (modify (·.update (old.up owner) fun d =>
        { d with body := d.body.mapPrototype fun p => { p with variadic := true } }) : Build PUnit)
      fun _ => [] := by
  refine .modify (fun lib => ?_) (fun lib => ?_) fun lib hlib _ id e v he hv => ?_
  · refine Library.graft_update _ _ _ fun d => ?_
    unfold Decl.renumber
    cases d.body <;> rfl
  · refine Library.matches_update Decl.SameShape.refl fun d _ => ⟨rfl, rfl, rfl, ?_, ?_, ?_⟩
    · cases d.body <;> rfl
    · intro list
      cases d.body with
      | method p t => rw [Body.mapPrototype, Body.listOf_method, Body.listOf_method]
      | function p => rw [Body.mapPrototype, Body.listOf_function, Body.listOf_function]
      | _ => rfl
    · cases d.body <;> rfl
  · rw [Library.decl?_update] at he
    split_ifs at he
    · obtain ⟨d, hd, rfl⟩ := Option.map_eq_some_iff.1 he
      exact hlib.noted id d v hd hv
    · exact hlib.noted id e v he hv

theorem readParameters_reads (list : Option SyntaxNode) (owner : Nat) :
    Reads old [(owner, callables)] id (h.readParameters list owner)
      (h.readParameters list (old.up owner)) fun _ => [] := by
  unfold readParameters
  cases list with
  | none => exact .pure () (Known.covers_nil _)
  | some list =>
    have hparams : ∀ params : List SyntaxNode, Reads old [(owner, callables)] id
        (if !h.saysNone params then
          params.zipIdx.forM fun p => h.readParameter owner p.2 p.1 else pure ())
        (if !h.saysNone params then
          params.zipIdx.forM fun p => h.readParameter (old.up owner) p.2 p.1
        else pure ()) fun _ => [] := by
      intro params
      split
      · exact .forM fun p _ => h.readParameter_reads owner p.2 p.1
      · exact .pure () (Known.covers_nil _)
    dsimp only
    split
    · exact ((markVariadic_reads owner).weaken (Known.covers_nil _)).bind fun _ => hparams _
    · exact hparams _

theorem readCallable_reads (n : SyntaxNode) (scope : Nat) (comment type name : String)
    (function : SyntaxNode) (access : Access) :
    Reads old [(scope, Form.scopes)] id
      (h.readCallable n scope comment type name function access)
      (h.readCallable n (old.up scope) comment type name function access) fun _ => [] := by
  -- a method in a class and a function in a scope are created alike
  have hrest (body : Body) (form : Form) (forms : List Form) (known : Known)
      (hform : body.form = form) (hbody : body.renumber old.up = body)
      (hforms : ∀ f ∈ forms, (f.listFor? form).isSome = true)
      (hempty : ∀ list, body.listOf list = []) (hdef : body.record?.bind (·.definition) = none)
      (hcallable : form ∈ callables) (hscope : (scope, forms) ∈ known) :
      Reads old known id
        (h.create body scope name n comment >>= h.readParameters (function.child? "parameters"))
        (h.create body (old.up scope) name n comment >>=
          h.readParameters (function.child? "parameters")) fun _ => [] := by
    have hcreate : Reads old [(scope, forms)] old.up (h.create body scope name n comment)
        (h.create body (old.up scope) name n comment) fun id => [(id, [form])] :=
      h.create_reads form hform hbody hforms hempty hdef name n comment
    refine (hcreate.weaken (Known.covers_of_mem hscope fun _ hf => hf)).bind fun id => ?_
    refine (h.readParameters_reads _ id).weaken (Known.covers_of_mem (List.mem_cons_self ..) ?_)
    intro f hf
    rw [List.mem_singleton.1 hf]
    exact hcallable
  unfold readCallable
  dsimp only
  refine (Build.isRecord_reads scope).bind fun isMember => ?_
  cases isMember with
  | true =>
    refine ((Build.nameOf_reads scope).weaken (Known.covers_nil _)).bind fun _ => ?_
    refine hrest _ .method [.record] _ rfl rfl (by decide) (fun list => ?_) rfl (by decide)
      (List.mem_append_right _ (List.mem_cons_self ..))
    rw [Body.listOf_method]
    exact ite_self _
  | false =>
    refine hrest _ .function [.unit, .space] _ rfl rfl (by decide) (fun list => ?_) rfl (by decide)
      (List.mem_cons_self ..)
    rw [Body.listOf_function]
    exact ite_self _

/-! ### Types and members -/

/-- A way of reading classes that keeps a library growing from its unit and does the same behind
other declarations. -/
def ReadsRecords (old : Library) (readRecord : RecordReader) : Prop :=
  ∀ n scope comment otherName, Reads old [(scope, Form.scopes)] (Option.map old.up)
    (readRecord n scope comment otherName) (readRecord n (old.up scope) comment otherName) ReadType

section Members

variable {readRecord : RecordReader} (hr : ReadsRecords old readRecord)
include hr

theorem readDefinedType_reads (type : Option SyntaxNode) (scope : Nat) (comment : String)
    (hasDeclarators : Bool) :
    Reads old [(scope, Form.scopes)] (Option.map old.up)
      (h.readDefinedType readRecord type scope comment hasDeclarators)
      (h.readDefinedType readRecord type (old.up scope) comment hasDeclarators) ReadType := by
  have hnone : Reads old [(scope, Form.scopes)] (Option.map old.up) (pure none) (pure none)
      ReadType := .pure none (Known.covers_nil _)
  unfold readDefinedType
  cases type with
  | none => exact hnone
  | some t =>
    dsimp only
    split_ifs
    · exact hnone
    · exact hnone
    · exact h.readEnumeration_reads t scope comment none
    · exact hr t scope comment none

omit hr in
theorem readDeclarator_reads (n : SyntaxNode) (scope : Nat) (comment : String) (access : Access)
    (base : Option String) (c : SyntaxNode) :
    Reads old [(scope, Form.scopes)] id (h.readDeclarator n scope comment access base c)
      (h.readDeclarator n (old.up scope) comment access base c) fun _ => [] := by
  unfold readDeclarator
  dsimp only
  cases (Declarator.unwrap h.source c).function with
  | none => exact .pure () (Known.covers_nil _)
  | some function =>
    refine (Build.isRecord_reads scope).bind fun isMember => .forget ?_
    dsimp only [id]
    split_ifs
    · exact .pure () (Known.covers_nil _)
    · exact h.readCallable_reads n scope comment _ _ function access

theorem readDeclaration_reads (n : SyntaxNode) (scope : Nat) (comment : String) (access : Access) :
    Reads old [(scope, Form.scopes)] id (h.readDeclaration readRecord n scope comment access)
      (h.readDeclaration readRecord n (old.up scope) comment access) fun _ => [] := by
  have hdeclarators (base : Option String) : Reads old [(scope, Form.scopes)] id
      ((n.childrenAt "declarator").forM (h.readDeclarator n scope comment access base))
      ((n.childrenAt "declarator").forM (h.readDeclarator n (old.up scope) comment access base))
      fun _ => [] :=
    .forM fun c _ => h.readDeclarator_reads n scope comment access base c
  unfold readDeclaration
  dsimp only
  refine (h.readDefinedType_reads hr _ scope comment _).bind fun defined => ?_
  cases n.child? "type" with
  | none => exact .forget (hdeclarators none)
  | some type =>
    refine ((h.typeText_reads n _ defined).weaken (Known.covers_nil _)).bind fun base => ?_
    exact .forget (.forget (hdeclarators (some base)))

omit hr in
/-- Noting down the type that was defined together with a member. -/
theorem noteType_reads (a t : Nat) :
    Reads old [(t, Form.types)] id
      (modify (·.update a fun f =>
        { f with notes := f.notes.put "type_declaration_id" (.int t) }) : Build PUnit)
      (modify (·.update (old.up a) fun f =>
        { f with notes := f.notes.put "type_declaration_id" (.int (old.up t : Nat)) }) :
          Build PUnit)
      fun _ => [] := by
  refine .modify (fun lib => ?_) (fun lib => ?_) fun lib hlib hk b e v he hv => ?_
  · refine Library.graft_update _ _ _ fun d => ?_
    unfold Decl.renumber
    simp only [Fields.renumber_put]
  · exact Library.matches_update Decl.SameShape.refl fun d _ =>
      ⟨rfl, rfl, rfl, rfl, fun _ => rfl, rfl⟩
  · rw [Library.decl?_update] at he
    split_ifs at he
    · obtain ⟨d, hd, rfl⟩ := Option.map_eq_some_iff.1 he
      rw [Fields.get?_put_self] at hv
      cases hv
      exact ⟨t, rfl, hk _ (List.mem_singleton.2 rfl)⟩
    · exact hlib.noted b e v he hv

omit hr in
theorem readMember_reads (n : SyntaxNode) (owner : Nat) (access : Access) (comment : String)
    (defined : Option Nat) (base : String) (c : SyntaxNode) :
    Reads old (ReadType defined ++ [(owner, [.record])]) id
      (h.readMember n owner access comment defined base c)
      (h.readMember n (old.up owner) access comment (defined.map old.up) base c) fun _ => [] := by
  have hfield (type name : String) {note note' : Nat → Build Unit}
      (hnote : ∀ a, Reads old ([(a, [Form.field])] ++ (ReadType defined ++ [(owner, [.record])])) id
        (note a) (note' (old.up a)) fun _ => []) :
      Reads old (ReadType defined ++ [(owner, [.record])]) id
        (h.create (.field type access) owner name c comment >>= note)
        (h.create (.field type access) (old.up owner) name c comment >>= note') fun _ => [] := by
    have hcreate : Reads old [(owner, [.record])] old.up
        (h.create (.field type access) owner name c comment)
        (h.create (.field type access) (old.up owner) name c comment) fun id => [(id, [.field])] :=
      h.create_reads .field rfl rfl (by decide) (fun _ => rfl) rfl name c comment
    refine (hcreate.weaken ?_).bind hnote
    exact Known.covers_of_mem (List.mem_append_right _ (List.mem_cons_self ..)) fun _ hf => hf
  have hcovers (a t : Nat) : Known.Covers
      ([(a, [Form.field])] ++ (ReadType (some t) ++ [(owner, [.record])])) [(t, Form.types)] :=
    Known.covers_of_mem (List.mem_cons_of_mem _ (List.mem_cons_self ..)) fun _ hf => hf
  unfold readMember
  dsimp only
  cases (Declarator.unwrap h.source c).function with
  | none =>
    refine hfield _ _ fun a => ?_
    cases defined with
    | none => exact .pure () (Known.covers_nil _)
    | some t => exact (noteType_reads a t).weaken (hcovers a t)
  | some function =>
    cases (Declarator.unwrap h.source c).isFunctionPointer with
    | true =>
      refine hfield _ _ fun a => ?_
      cases defined with
      | none => exact .pure () (Known.covers_nil _)
      | some t => exact (noteType_reads a t).weaken (hcovers a t)
    | false =>
      refine (h.readCallable_reads n owner comment _ _ function access).weaken ?_
      refine Known.covers_of_mem (List.mem_append_right _ (List.mem_cons_self ..)) ?_
      decide

theorem readFields_reads (n : SyntaxNode) (owner : Nat) (access : Access) (comment : String) :
    Reads old [(owner, [.record])] id (h.readFields readRecord n owner access comment)
      (h.readFields readRecord n (old.up owner) access comment) fun _ => [] := by
  unfold readFields
  dsimp only
  refine ((h.readDefinedType_reads hr _ owner comment _).weaken ?_).bind fun defined => ?_
  · exact Known.covers_of_mem (List.mem_cons_self ..) (by decide)
  refine ((h.typeText_reads n _ defined).weaken (Known.covers_nil _)).bind fun base => ?_
  exact .forM fun c _ => h.readMember_reads n owner access comment defined base c

theorem readAlias_reads (n : SyntaxNode) (scope : Nat) (comment : String) :
    Reads old [(scope, Form.scopes)] id (h.readAlias readRecord n scope comment)
      (h.readAlias readRecord n (old.up scope) comment) fun _ => [] := by
  unfold readAlias
  cases n.child? "type" with
  | none => exact .pure () (Known.covers_nil _)
  | some type =>
    dsimp only
    split_ifs
    · exact (h.readEnumeration_reads type scope comment _).bind fun _ =>
        .pure () (Known.covers_nil _)
    · exact (hr type scope comment _).bind fun _ => .pure () (Known.covers_nil _)
    · exact .pure () (Known.covers_nil _)

theorem readMembers_reads (levels : Nat) (nodes : List SyntaxNode) (owner : Nat)
    (access : Access) :
    Reads old [(owner, [.record])] id (h.readMembers readRecord levels nodes owner access)
      (h.readMembers readRecord levels nodes (old.up owner) access) fun _ => [] := by
  induction levels generalizing nodes access with
  | zero => exact .pure () (Known.covers_nil _)
  | succ levels ih =>
    -- what stands in a class leaves the access level as it is, but for access specifiers
    have hkeep {m m' : Build PUnit} (access : Access)
        (hm : Reads old [(owner, [.record])] id m m' fun _ => []) :
        Reads old [(owner, [.record])] id (do m; pure access) (do m'; pure access) fun _ => [] :=
      hm.bind fun _ => .pure access (Known.covers_nil _)
    have hscope : Known.Covers [(owner, [.record])] [(owner, Form.scopes)] :=
      Known.covers_of_mem (List.mem_cons_self ..) (by decide)
    unfold readMembers
    refine Reads.bind (g := id) (.foldlM_plain (fun access c _ => ?_) access) fun _ =>
      .pure () (Known.covers_nil _)
    obtain ⟨n, comment⟩ := c
    dsimp only [id]
    split
    · cases h.accessOf n with
      | ok a => exact .pure a (Known.covers_nil _)
      | error f => exact .throw f
    · exact hkeep access (h.readFields_reads hr n owner access comment)
    · exact hkeep access ((h.readDeclaration_reads hr n owner comment access).weaken hscope)
    · exact hkeep access ((h.readDeclaration_reads hr n owner comment access).weaken hscope)
    · exact hkeep access ((h.readAlias_reads hr n owner comment).weaken hscope)
    · split_ifs
      · exact hkeep access (ih n.children access)
      · exact .pure access (Known.covers_nil _)

end Members

/-! ### Classes and scopes -/

theorem readRecord_reads (levels : Nat) : ReadsRecords old (h.readRecord levels) := by
  induction levels with
  | zero => exact fun _ _ _ _ => .pure none (Known.covers_nil _)
  | succ levels ih =>
    intro n scope comment otherName
    unfold readRecord
    split_ifs
    · exact .pure none (Known.covers_nil _)
    · dsimp only
      refine (h.create_reads .record rfl rfl (by decide) (fun list => ?_) rfl _ n comment).bind
        fun id => ?_
      · rw [Body.listOf_record]
        split_ifs <;> rfl
      · have htype (known : Known) (hmem : (id, [.record]) ∈ known) : Reads old known
            (Option.map old.up) (pure (some id)) (pure (some (old.up id))) ReadType :=
          .pure (some id) (Known.covers_of_mem hmem (by decide))
        cases n.child? "body" with
        | none => exact htype _ (List.mem_cons_self ..)
        | some body =>
          refine ((h.readMembers_reads ih (body.size + 1) body.children id _).weaken ?_).bind
            fun _ => htype _ (List.mem_cons_self ..)
          exact Known.covers_of_mem (List.mem_cons_self ..) fun _ hf => hf

omit h in
/-- The scopes that a scope holds. -/
theorem namespaces_graft (lib : Library) (scope : Nat) :
    ((((old.graft lib).decl? (old.up scope)).bind (·.body.scope?)).map (·.namespaces)).getD [] =
      ((((lib.decl? scope).bind (·.body.scope?)).map (·.namespaces)).getD []).map old.up := by
  rw [Library.decl?_graft]
  cases lib.decl? scope with
  | none => rfl
  | some d =>
    simp only [Option.map_some, Option.bind_some, Decl.renumber]
    cases d.body <;> rfl

omit h in
/-- What a scope of a growing library holds as scopes are scopes. -/
theorem hasForm_of_namespaces {lib : Library} (hlib : lib.Growing) {scope id : Nat}
    (hid : id ∈ (((lib.decl? scope).bind (·.body.scope?)).map (·.namespaces)).getD []) :
    lib.HasForm id Form.spaces := by
  cases hd : lib.decl? scope with
  | none =>
    rw [hd] at hid
    cases hid
  | some d =>
    rw [hd, Option.bind_some] at hid
    have hmem : id ∈ d.body.listOf "namespaces" := by
      cases hbody : d.body with
      | unit s file =>
        rw [hbody] at hid
        rw [Body.listOf_unit, if_pos rfl]
        exact hid
      | space s =>
        rw [hbody] at hid
        rw [Body.listOf_space, Body.listOf_unit, if_pos rfl]
        exact hid
      | _ =>
        rw [hbody] at hid
        cases hid
    obtain ⟨e, he, -, hform⟩ := (hlib.lists scope d "namespaces" hd).2 id hmem
    refine ⟨e, he, ?_⟩
    revert hform
    cases d.body.form <;> cases e.body.form <;> simp [Form.listFor?]

/-- A scope that is entered is one that the library has already, or a new one. -/
theorem enterScope_reads (n : SyntaxNode) (scope : Nat) (name : String) :
    Reads old [(scope, Form.spaces)] old.up (h.enterScope n scope name)
      (h.enterScope n (old.up scope) name) fun id => [(id, Form.spaces)] := by
  have hcreate : Reads old [(scope, Form.spaces)] old.up (h.create (.space .empty) scope name n "")
      (h.create (.space .empty) (old.up scope) name n "") fun id => [(id, [.space])] := by
    refine h.create_reads .space rfl rfl (by decide) (fun list => ?_) rfl name n ""
    rw [Body.listOf_space, Body.listOf_unit]
    split_ifs <;> rfl
  refine ⟨MovesUp.get_bind fun lib => ?_, fun lib hlib hk => ?_⟩
  · have hname : (fun id => ((old.graft lib).decl? id).any (·.name == name)) ∘ old.up =
        fun id => (lib.decl? id).any (·.name == name) := by
      funext id
      rw [Function.comp_apply, Library.decl?_graft]
      cases lib.decl? id <;> rfl
    dsimp only
    rw [namespaces_graft, List.find?_map, hname]
    cases List.find? (fun id => (lib.decl? id).any (·.name == name))
        ((((lib.decl? scope).bind (·.body.scope?)).map (·.namespaces)).getD []) with
    | none => exact hcreate.movesUp lib
    | some id => rfl
  · unfold enterScope
    rw [outcomeOf_bind_ok (outcomeOf_get lib)]
    dsimp only
    cases hf : List.find? (fun id => (lib.decl? id).any (·.name == name))
        ((((lib.decl? scope).bind (·.body.scope?)).map (·.namespaces)).getD []) with
    | none =>
      obtain ⟨hgrow, hgrows, hgained⟩ := hcreate.grows lib hlib hk
      refine ⟨hgrow, hgrows, fun a ha => (hgained a ha).covers ?_⟩
      exact Known.covers_of_mem (List.mem_cons_self ..) (by decide)
    | some id =>
      refine ⟨hlib, .refl lib, fun a ha x hx => ?_⟩
      cases ha
      obtain rfl := List.mem_singleton.1 hx
      exact hasForm_of_namespaces hlib (List.mem_of_find?_eq_some hf)

theorem enterScopes_reads (n : SyntaxNode) (scope : Nat) (names : List String) :
    Reads old [(scope, Form.spaces)] old.up (names.foldlM (h.enterScope n) scope)
      (names.foldlM (h.enterScope n) (old.up scope)) fun id => [(id, Form.spaces)] := by
  let gained : Nat → Known := fun id => [(id, Form.spaces)]
  have hfold : Reads old (gained scope ++ []) old.up (names.foldlM (h.enterScope n) scope)
      (names.foldlM (h.enterScope n) (old.up scope)) gained :=
    .foldlM (fun a name _ => h.enterScope_reads n a name) scope
  exact hfold

theorem readItems_reads (levels : Nat) (nodes : List (SyntaxNode × String)) (scope : Nat) :
    Reads old [(scope, Form.spaces)] id (h.readItems levels nodes scope)
      (h.readItems levels nodes (old.up scope)) fun _ => [] := by
  induction levels generalizing nodes scope with
  | zero => exact .pure () (Known.covers_nil _)
  | succ levels ih =>
    have hscope : Known.Covers [(scope, Form.spaces)] [(scope, Form.scopes)] :=
      Known.covers_of_mem (List.mem_cons_self ..) (by decide)
    have hr : ReadsRecords old (h.readRecord (levels + 1)) := h.readRecord_reads (levels + 1)
    have hrecord (n : SyntaxNode) (comment : String) : Reads old [(scope, Form.spaces)] id
        (do let _ ← h.readRecord (levels + 1) n scope comment none)
        (do let _ ← h.readRecord (levels + 1) n (old.up scope) comment none) fun _ => [] :=
      ((hr n scope comment none).weaken hscope).bind fun _ => .pure () (Known.covers_nil _)
    have hdeclaration (n : SyntaxNode) (comment : String) :=
      (h.readDeclaration_reads hr n scope comment .everyone).weaken hscope
    unfold readItems
    refine .forM fun c _ => ?_
    obtain ⟨n, comment⟩ := c
    dsimp only
    split
    · refine (h.enterScopes_reads n scope _).bind fun target => ?_
      cases n.child? "body" with
      | none => exact .pure () (Known.covers_nil _)
      | some body =>
        refine (ih _ target).weaken (Known.covers_of_mem (List.mem_cons_self ..) fun _ hf => hf)
    · exact hrecord n comment
    · exact hrecord n comment
    · exact hrecord n comment
    · exact ((h.readEnumeration_reads n scope comment none).weaken hscope).bind fun _ =>
        .pure () (Known.covers_nil _)
    · exact hdeclaration n comment
    · exact hdeclaration n comment
    · exact (h.readAlias_reads hr n scope comment).weaken hscope
    · cases n.child? "body" with
      | none => exact .pure () (Known.covers_nil _)
      | some body =>
        dsimp only
        split_ifs
        · exact ih _ scope
        · exact ih _ scope
    · split_ifs
      · exact ih _ scope
      · exact .pure () (Known.covers_nil _)

end Header

end Bindery
