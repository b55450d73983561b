import Bindery.Proofs.Header.Standing

/-!
# Reading what a header declares

Every reader of a part of a header creates declarations for what the part declares, in order, each
in the scope of its path, and none besides. This is told of one reader after the other, and so of
whatever stands in a scope, down to the last level.
-/

namespace Bindery

open Library SyntaxNode

/-- A class or a scope that stands at a path. -/
structure Library.Opens (lib : Library) (root : Nat) (path : ScopePath) (inClass : Bool)
    (scope : Nat) : Prop where
  /-- It stands there. -/
  standing : lib.ScopeAt root path scope
  /-- It is a class, or else a unit or a namespace. -/
  form : lib.HasForm scope (if inClass then [.record] else [.unit, .space])

theorem enduring_opens (root : Nat) (path : ScopePath) (inClass : Bool) (scope : Nat) :
    Enduring (·.Opens root path inClass scope) :=
  fun _ _ hw hopens => ⟨hopens.standing.widens hw, hw.hasForm_out hopens.form⟩

theorem Library.Opens.has {lib : Library} {root : Nat} {path : ScopePath} {inClass : Bool}
    {scope : Nat} (h : lib.Opens root path inClass scope) : lib.Has scope := by
  obtain ⟨d, hd, -⟩ := h.form
  exact ⟨d, hd⟩

theorem Body.namespaces_scope? (b : Body) :
    (b.scope?.map (·.namespaces)).getD [] = b.listOf "namespaces" := by
  cases b <;> rfl

namespace Header

variable (h : Header) {root : Nat} {path : ScopePath} {inClass : Bool}

/-! ### New declarations -/

/-- Creating what a header declares. A class can be entered then. -/
theorem create_declaring {body : Body} (form : Form) (hbody : body.form = form)
    (hform : form ∈ declaredForms) (scope : Nat) (name : String) (n : SyntaxNode)
    (comment : String) :
    Declaring h root (·.Opens root path inClass scope) [⟨form, name, n, path, body.access?⟩]
      (h.create body scope name n comment) fun id lib =>
        lib.Has id ∧ (form = .record → lib.Opens root (path ++ [(.record, name)]) true id) := by
  subst hbody
  intro lib id out hapart hopens hrun
  have hc := h.creates_of_create hopens.has hrun
  have hat := hopens.standing.widens hc.widens
  refine ⟨hc.declares hapart hopens.standing rfl hform rfl rfl rfl,
    ⟨_, decl?_of_registered? hc.registered⟩, fun hrecord => ⟨?_, ?_⟩⟩
  · exact hat.inside hc.holds hc.lt hc.registered hrecord (by decide)
  · exact ⟨_, decl?_of_registered? hc.registered, List.mem_singleton.2 hrecord⟩

/-- Creating a parameter or an item. -/
theorem createPart_declaring {body : Body} (form : Form) (hbody : body.form = form)
    (hform : form ∉ declaredForms ∧ form.isScope = false) (scope : Nat) (name : String)
    (n : SyntaxNode) (comment : String) :
    Declaring h root (Has scope) [] (h.create body scope name n comment) fun _ _ => True := by
  subst hbody
  intro lib id out hapart hhas hrun
  have hc := h.creates_of_create hhas hrun
  exact ⟨hc.declares_nothing (hc.spacesApart hapart hform.2) hform.1, trivial⟩

/-- Entering a scope inside of a scope. The one that is found, or else created, stands at the path
with the name behind it. -/
theorem enterScope_declaring (n : SyntaxNode) (scope : Nat) (name : String) :
    Declaring h root (·.Opens root path false scope) [] (h.enterScope n scope name)
      fun id lib => lib.Opens root (path ++ [(.space, name)]) false id := by
  unfold enterScope
  intro lib id out hapart hopens hrun
  rw [outcomeOf_bind_ok (outcomeOf_get lib)] at hrun
  obtain ⟨o, ho, hform⟩ := hopens.form
  have hinside : (((lib.decl? scope).bind (·.body.scope?)).map (·.namespaces)).getD [] =
      o.body.listOf "namespaces" := by
    rw [ho, Option.bind_some, Body.namespaces_scope?]
  have hlist : o.body.form.listFor? .space = some "namespaces" := by
    revert hform
    cases o.body.form <;> decide
  dsimp only at hrun
  rw [hinside] at hrun
  split at hrun
  · next id' hfound =>
    cases hrun
    have hmem := List.mem_of_find?_eq_some hfound
    obtain ⟨hlt, d, hd, hparent, hspace⟩ := (hapart scope o hopens.standing.le ho).2 id hmem
    obtain rfl : d.name = name := by
      have hname := List.find?_some hfound
      rw [decl?_of_registered? hd] at hname
      exact eq_of_beq hname
    have hholds : lib.Holds scope id :=
      ⟨o, d, _, ho, decl?_of_registered? hd, hparent, by rw [hspace, hlist], hmem⟩
    refine ⟨.refl hapart, hopens.standing.inside hholds hlt hd hspace (by decide), d,
      decl?_of_registered? hd, ?_⟩
    rw [hspace]
    decide
  · next hnone =>
    have hc := h.creates_of_create hopens.has hrun
    have hnew : ∀ o', lib.decl? scope = some o' →
        ∀ c ∈ o'.body.listOf "namespaces", lib.name? c ≠ some name := by
      intro o' ho' c hc hname
      rw [ho] at ho'
      cases ho'
      have hother := List.find?_eq_none.1 hnone c hc
      obtain ⟨d, hd, hd'⟩ := Option.map_eq_some_iff.1 hname
      rw [hd] at hother
      exact hother (beq_iff_eq.2 hd')
    have hspace : Form.space ∉ declaredForms := by decide
    refine ⟨hc.declares_nothing (hc.spacesApart_space hapart rfl rfl hnew) hspace, ?_, ?_⟩
    · exact (hopens.standing.widens hc.widens).inside hc.holds hc.lt hc.registered rfl (by decide)
    · exact ⟨_, decl?_of_registered? hc.registered,
        List.mem_cons_of_mem _ (List.mem_cons_self ..)⟩

/-- Entering scopes one inside of the other. -/
theorem enterScopes_declaring (n : SyntaxNode) (scope : Nat) (names : List String) :
    Declaring h root (·.Opens root path false scope) [] (names.foldlM (h.enterScope n) scope)
      fun id lib => lib.Opens root (path ++ .spaces names) false id := by
  induction names generalizing scope path with
  | nil => exact .pure fun _ hopens => by rwa [ScopePath.spaces, List.map_nil, List.append_nil]
  | cons name names ih =>
    rw [List.foldlM_cons]
    refine (h.enterScope_declaring n scope name).behind fun id => ?_
    have hpath : path ++ .spaces (name :: names) = path ++ [(.space, name)] ++ .spaces names :=
      List.append_cons ..
    rw [hpath]
    exact ih id

/-! ### Functions and enumerations -/

theorem readItem_declaring (id : Nat) (s : ItemState) (n : SyntaxNode) :
    Declaring h root (Has id) [] (h.readItem id s n) fun _ _ => True := by
  unfold readItem
  dsimp only
  cases Initializer.obstacle? (h.source.textOf (n.child? "value")) with
  | some o => exact .throw _
  | none =>
    refine (h.createPart_declaring .enumItem rfl (by decide) id _ n "").behind fun _ => ?_
    exact .pure fun _ _ => trivial

theorem readEnumeration_declaring {t : SyntaxNode} (ht : t.kind = "enum_specifier") (scope : Nat)
    (comment : String) (otherName : Option String) :
    Declaring h root (·.Opens root path inClass scope) (h.typeDeclared path t otherName)
      (h.readEnumeration t scope comment otherName) fun _ _ => True := by
  rw [typeDeclared_eq, if_pos ht]
  unfold readEnumeration
  cases t.child? "body" with
  | none => exact .pure fun _ _ => trivial
  | some body =>
    refine (h.create_declaring .enumeration rfl (by decide) scope _ t comment).before fun id => ?_
    have hitems (items : List SyntaxNode) : Declaring h root (Has id) []
        (items.foldlM (h.readItem id) ItemState.start) fun _ _ => True :=
      .foldlM_spares (enduring_has id) (fun s c _ => h.readItem_declaring id s c) _
    refine ((hitems _).mono (fun _ hlib => hlib.1) fun _ _ hQ => hQ).behind fun _ => ?_
    exact .pure fun _ _ => trivial

theorem typeText_declaring {P : Library → Prop} (n : SyntaxNode) (type : Option SyntaxNode)
    (defined : Option Nat) :
    Declaring h root P [] (h.typeText n type defined) fun _ lib => P lib := by
  refine .of_same fun lib => ?_
  cases defined <;> rfl

theorem readParameter_declaring (id index : Nat) (n : SyntaxNode) :
    Declaring h root (Has id) [] (h.readParameter id index n) fun _ _ => True := by
  refine (h.typeText_declaring n _ none).behind fun _ => ?_
  refine (h.createPart_declaring .parameter rfl (by decide) id _ n "").behind fun _ => ?_
  exact .pure fun _ _ => trivial

/-- Marking a function as one that takes further arguments. -/
theorem markVariadic_declaring {P : Library → Prop} (id : Nat) :
    Declaring h root P [] (modify (·.update id fun d =>
        { d with body := d.body.mapPrototype fun p => { p with variadic := true } }) : Build PUnit)
      fun _ _ => True := by
  intro lib a out hapart _ hrun
  cases hrun
  have hlists (b : Body) (list : String) :
      (b.mapPrototype fun p => { p with variadic := true }).listOf list = b.listOf list := by
    cases b with
    | method p t => rw [Body.mapPrototype, Body.listOf_method, Body.listOf_method]
    | function p => rw [Body.mapPrototype, Body.listOf_function, Body.listOf_function]
    | _ => rfl
  refine ⟨.of_matches hapart (created_update ..) (matches_update ?_ fun d _ => ?_), trivial⟩
  · exact fun d => ⟨.refl d, rfl⟩
  · refine ⟨⟨rfl, rfl, rfl, ?_, ?_, fun list => ?_⟩, hlists d.body "namespaces"⟩
    · cases d.body <;> rfl
    · cases d.body <;> rfl
    · intro c hc
      rwa [hlists]

theorem readParameters_declaring (list : Option SyntaxNode) (id : Nat) :
    Declaring h root (Has id) [] (h.readParameters list id) fun _ _ => True := by
  unfold readParameters
  cases list with
  | none => exact .pure fun _ _ => trivial
  | some list =>
    have hparams : ∀ params : List SyntaxNode, Declaring h root (Has id) []
        (if !h.saysNone params then
          params.zipIdx.forM fun p => h.readParameter id p.2 p.1 else pure ())
        fun _ _ => True := by
      intro params
      split
      · exact .forM_spares (enduring_has id) fun p _ => h.readParameter_declaring id p.2 p.1
      · exact .pure fun _ _ => trivial
    dsimp only
    split
    · exact (h.markVariadic_declaring id).andThen (enduring_has id) fun _ => hparams _
    · exact hparams _

theorem isRecord_declaring (scope : Nat) :
    Declaring h root (·.Opens root path inClass scope) [] (Build.isRecord scope) fun a lib =>
      lib.Opens root path inClass scope ∧ a = inClass := by
  refine (Declaring.look fun _ => rfl).mono (fun _ hP => hP) fun a lib hQ => ⟨hQ.1, ?_⟩
  obtain ⟨hopens, hrun⟩ := hQ
  obtain ⟨d, hd, hform⟩ := hopens.form
  have ha : ((lib.decl? scope).any (·.body.isRecord)) = a := by
    cases hrun
    rfl
  rw [← ha, hd, Option.any_some]
  revert hform
  cases inClass <;> cases d.body <;> simp [Body.form, Body.isRecord, Body.record?]

theorem readCallable_declaring (n : SyntaxNode) (scope : Nat) (comment type name : String)
    (function : SyntaxNode) (access : Access) :
    Declaring h root (·.Opens root path inClass scope) [callable inClass path access n name]
      (h.readCallable n scope comment type name function access) fun _ _ => True := by
  -- a method in a class and a function in a scope are created alike
  have hrest (body : Body) (form : Form) (hbody : body.form = form) (hform : form ∈ declaredForms) :
      Declaring h root (·.Opens root path inClass scope) [⟨form, name, n, path, body.access?⟩]
        (h.create body scope name n comment >>= h.readParameters (function.child? "parameters"))
        fun _ _ => True :=
    (h.create_declaring form hbody hform scope name n comment).before fun id =>
      (h.readParameters_declaring _ id).mono (fun _ hlib => hlib.1) fun _ _ hQ => hQ
  unfold readCallable
  dsimp only
  refine (h.isRecord_declaring scope).behind fun isMember => .assume ?_
  rintro rfl
  cases isMember with
  | true =>
    refine Declaring.behind (.of_same fun _ => rfl) fun owner => ?_
    exact hrest _ .method rfl (by decide)
  | false => exact hrest _ .function rfl (by decide)

/-! ### Types that are defined -/

/-- A way of reading classes up to a size that declares what they declare. -/
def DeclaresRecords (root size : Nat) (readRecord : RecordReader) : Prop :=
  ∀ t path inClass scope comment otherName, t.size ≤ size → t.kind ≠ "enum_specifier" →
    Declaring h root (·.Opens root path inClass scope) (h.typeDeclared path t otherName)
      (readRecord t scope comment otherName) fun _ _ => True

section Members

variable {size : Nat} {readRecord : RecordReader} (hr : h.DeclaresRecords root size readRecord)
include hr

theorem readType_declaring {t : SyntaxNode} (ht : t.size ≤ size) (scope : Nat) (comment : String)
    (otherName : Option String) :
    Declaring h root (·.Opens root path inClass scope) (h.typeDeclared path t otherName)
      (if t.kind = "enum_specifier" then h.readEnumeration t scope comment otherName
        else readRecord t scope comment otherName) fun _ _ => True := by
  split_ifs with henum
  · exact h.readEnumeration_declaring henum scope comment otherName
  · exact hr t path inClass scope comment otherName ht henum

theorem readDefinedType_declaring {n : SyntaxNode} (hn : n.size ≤ size) (scope : Nat)
    (comment : String) :
    Declaring h root (·.Opens root path inClass scope) (h.typeOf path (typeOnTheWay? n))
      (h.readDefinedType readRecord (n.child? "type") scope comment
        !(n.childrenAt "declarator").isEmpty) fun _ _ => True := by
  unfold readDefinedType typeOnTheWay?
  cases htype : n.child? "type" with
  | none => exact .pure fun _ _ => trivial
  | some t =>
    have ht : t.size ≤ size := Nat.le_trans (Nat.le_of_lt (size_child?_lt htype)) hn
    have hread : Declaring h root (·.Opens root path inClass scope) (h.typeDeclared path t none) _
        fun _ _ => True :=
      h.readType_declaring hr ht scope comment none
    dsimp only
    rw [Option.filter_some]
    cases hdefines : definesType t.kind
    · exact .pure fun _ _ => trivial
    · cases hbody : t.child? "body" <;> cases hempty : (n.childrenAt "declarator").isEmpty
      all_goals first
        | exact hread
        | exact .pure fun _ _ => trivial

theorem readAlias_declaring {n : SyntaxNode} (hn : n.size ≤ size) (scope : Nat)
    (comment : String) :
    Declaring h root (·.Opens root path inClass scope) (h.typeOf path (h.renamedType? n))
      (h.readAlias readRecord n scope comment) fun _ _ => True := by
  unfold readAlias renamedType?
  dsimp only
  cases htype : n.child? "type" with
  | none => exact .pure fun _ _ => trivial
  | some t =>
    have ht : t.size ≤ size := Nat.le_trans (Nat.le_of_lt (size_child?_lt htype)) hn
    rw [Option.filter_some]
    dsimp only
    cases hdefines : definesType t.kind
    · exact .pure fun _ _ => trivial
    · rw [if_pos rfl, if_pos rfl]
      split_ifs with henum
      · exact (h.readEnumeration_declaring henum scope comment _).before fun _ =>
          .pure fun _ _ => trivial
      · exact (hr t path inClass scope comment _ ht henum).before fun _ => .pure fun _ _ => trivial

omit hr in
/-- A declarator declares its function, if it may stand there. -/
theorem readDeclarator_declaring {n : SyntaxNode}
    (hn : n.kind = "declaration" ∨ n.kind = "function_definition") (scope : Nat) (comment : String)
    (access : Access) (base : Option String) (c : SyntaxNode) :
    Declaring h root (·.Opens root path inClass scope)
      (h.declaratorDeclared inClass path access n c)
      (h.readDeclarator n scope comment access base c) fun _ _ => True := by
  have hdeclared : h.declaratorDeclared inClass path access n c =
      if h.declaresFunction c && (inClass || h.declaresHere c) then
        [callable inClass path access n (h.declaratorName c)]
      else [] := by
    unfold declaratorDeclared
    rcases hn with hn | hn <;> rw [hn] <;> rfl
  unfold readDeclarator
  dsimp only
  cases hfunction : (Declarator.unwrap h.source c).function with
  | none =>
    have hno : h.declaresFunction c = false := by simp [declaresFunction, hfunction]
    rw [hdeclared, hno]
    exact .pure fun _ _ => trivial
  | some function =>
    have hyes : h.declaresFunction c = !(Declarator.unwrap h.source c).isFunctionPointer := by
      simp [declaresFunction, hfunction]
    have hname : (Declarator.unwrap h.source c).name = h.declaratorName c := rfl
    have houtside : decide ((Signature.scopeParts (h.declaratorName c).toList).length ≠ 1) =
        !h.declaresHere c := by
      rw [decide_not]
      rfl
    rw [hdeclared, hyes, hname, houtside]
    refine (h.isRecord_declaring scope).behind fun isMember => .assume ?_
    rintro rfl
    cases (Declarator.unwrap h.source c).isFunctionPointer <;> cases isMember <;>
      cases h.declaresHere c
    all_goals first
      | exact .pure fun _ _ => trivial
      | exact h.readCallable_declaring n scope comment _ _ function access

theorem readDeclaration_declaring {n : SyntaxNode} (hn : n.size ≤ size)
    (hkind : n.kind = "declaration" ∨ n.kind = "function_definition") (scope : Nat)
    (comment : String) (access : Access) :
    Declaring h root (·.Opens root path inClass scope) (h.declaredAt inClass path access n)
      (h.readDeclaration readRecord n scope comment access) fun _ _ => True := by
  have hdefined : h.definedType? inClass n = typeOnTheWay? n := by
    unfold definedType?
    rcases hkind with hkind | hkind <;> rw [hkind] <;> rfl
  have hdeclarators (base : Option String) :
      Declaring h root (·.Opens root path inClass scope) (h.ownDeclared inClass path access n)
        ((n.childrenAt "declarator").forM (h.readDeclarator n scope comment access base))
        fun _ _ => True :=
    .forM (enduring_opens root path inClass scope) fun c _ =>
      h.readDeclarator_declaring hkind scope comment access base c
  unfold readDeclaration declaredAt
  dsimp only
  rw [hdefined]
  refine (h.readDefinedType_declaring hr hn scope comment).andThen
    (enduring_opens root path inClass scope) fun defined => ?_
  cases n.child? "type" with
  | none => exact hdeclarators none
  | some type =>
    exact (h.typeText_declaring n _ defined).behind fun base => hdeclarators (some base)

/-! ### Data members -/

omit hr in
theorem createField_declaring (c : SyntaxNode) (owner : Nat) (access : Access) (comment : String)
    (defined : Option Nat) (type : String) :
    Declaring h root (·.Opens root path inClass owner)
      [⟨.field, h.declaratorName c, c, path, some access⟩]
      (do
        let id ← h.create (.field type access) owner (h.declaratorName c) c comment
        match defined with
        | none => pure ()
        | some t =>
          modify (·.update id fun f =>
            { f with notes := f.notes.put "type_declaration_id" (.int t) }))
      fun _ _ => True := by
  refine (h.create_declaring .field rfl (by decide) owner _ c comment).before fun id => ?_
  cases defined with
  | none => exact .pure fun _ _ => trivial
  | some t =>
    intro lib u out hapart _ hrun
    cases hrun
    refine ⟨.of_matches hapart (created_update ..) (matches_update ?_ fun d _ => ?_), trivial⟩
    · exact fun d => ⟨.refl d, rfl⟩
    · exact ⟨⟨rfl, rfl, rfl, rfl, rfl, fun _ _ hc => hc⟩, rfl⟩

omit hr in
theorem readMember_declaring {n : SyntaxNode} (hn : n.kind = "field_declaration") (owner : Nat)
    (access : Access) (comment : String) (defined : Option Nat) (base : String) (c : SyntaxNode) :
    Declaring h root (·.Opens root path true owner) (h.declaratorDeclared true path access n c)
      (h.readMember n owner access comment defined base c) fun _ _ => True := by
  have hdeclared : h.declaratorDeclared true path access n c =
      if h.declaresFunction c then [callable true path access n (h.declaratorName c)]
      else [⟨.field, h.declaratorName c, c, path, some access⟩] := by
    unfold declaratorDeclared
    rw [hn]
    rfl
  unfold readMember
  dsimp only
  cases hfunction : (Declarator.unwrap h.source c).function with
  | none =>
    have hno : h.declaresFunction c = false := by simp [declaresFunction, hfunction]
    rw [hdeclared, hno]
    exact h.createField_declaring c owner access comment defined _
  | some function =>
    cases hpointer : (Declarator.unwrap h.source c).isFunctionPointer with
    | true =>
      have hno : h.declaresFunction c = false := by simp [declaresFunction, hpointer]
      rw [hdeclared, hno]
      exact h.createField_declaring c owner access comment defined _
    | false =>
      have hyes : h.declaresFunction c = true := by simp [declaresFunction, hfunction, hpointer]
      rw [hdeclared, hyes]
      exact h.readCallable_declaring n owner comment _ _ function access

theorem readFields_declaring {n : SyntaxNode} (hn : n.size ≤ size)
    (hkind : n.kind = "field_declaration") (owner : Nat) (access : Access) (comment : String) :
    Declaring h root (·.Opens root path true owner) (h.declaredAt true path access n)
      (h.readFields readRecord n owner access comment) fun _ _ => True := by
  have hdefined : h.definedType? true n = typeOnTheWay? n := by
    unfold definedType?
    rw [hkind]
    rfl
  unfold readFields declaredAt
  dsimp only
  rw [hdefined]
  refine (h.readDefinedType_declaring hr hn owner comment).andThen
    (enduring_opens root path true owner) fun defined => ?_
  refine (h.typeText_declaring n _ defined).behind fun base => ?_
  exact .forM (enduring_opens root path true owner) fun c _ =>
    h.readMember_declaring hkind owner access comment defined base c

/-! ### Members of classes -/

/-- The kinds of the nodes that declare something, in a class or in a scope. -/
def declaringKinds (inClass : Bool) : List String :=
  ["declaration", "function_definition", "type_definition"] ++
    if inClass then ["field_declaration"]
    else ["class_specifier", "struct_specifier", "union_specifier", "enum_specifier"]

omit hr in
/-- What declares nothing defines no type either. -/
theorem definedType?_eq_none {n : SyntaxNode}
    (hn : ∀ kind ∈ declaringKinds inClass, n.kind ≠ kind) : h.definedType? inClass n = none := by
  have hcommon : ∀ kind ∈ ["declaration", "function_definition", "type_definition"],
      n.kind ≠ kind :=
    fun kind hkind => hn kind (List.mem_append_left _ hkind)
  unfold definedType?
  split
  all_goals first
    | rfl
    | exact absurd ‹n.kind = _› (hn _ (by decide))
    | exact absurd ‹n.kind = _› (hcommon _ (by decide))

omit hr in
theorem declaredAt_eq_nil {n : SyntaxNode} (hn : ∀ kind ∈ declaringKinds inClass, n.kind ≠ kind)
    (access : Access) : h.declaredAt inClass path access n = [] := by
  have hcommon : ∀ kind ∈ ["declaration", "function_definition", "type_definition"],
      n.kind ≠ kind :=
    fun kind hkind => hn kind (List.mem_append_left _ hkind)
  have hown : ∀ c, h.declaratorDeclared inClass path access n c = [] := by
    intro c
    unfold declaratorDeclared
    dsimp only
    split
    all_goals first
      | rfl
      | exact absurd ‹n.kind = _› (hn _ (by decide))
      | exact absurd ‹n.kind = _› (hcommon _ (by decide))
  unfold declaredAt ownDeclared
  rw [h.definedType?_eq_none hn, List.flatMap_eq_nil_iff.2 fun c _ => hown c]
  rfl

omit hr in
theorem declaredAt_alias {n : SyntaxNode} (hn : n.kind = "type_definition") (access : Access) :
    h.declaredAt inClass path access n = h.typeOf path (h.renamedType? n) := by
  have hdefined : h.definedType? inClass n = h.renamedType? n := by
    unfold definedType?
    rw [hn]
    rfl
  have hown : ∀ c, h.declaratorDeclared inClass path access n c = [] := by
    intro c
    unfold declaratorDeclared
    rw [hn]
    rfl
  unfold declaredAt ownDeclared
  rw [hdefined, List.flatMap_eq_nil_iff.2 fun c _ => hown c, List.append_nil]

omit hr in
theorem flatMap_placed {n : SyntaxNode} (hn : n.isConditional = false) (access : Access) :
    ((h.placed access n).flatMap fun m => h.declaredAt true path m.2 m.1) =
      h.declaredAt true path access n := by
  rw [h.placed_eq, hn]
  exact List.append_nil _

/-- One node in the body of a class, where the reader for what is inside of conditional text
declares what is there. -/
theorem memberStep_declaring {n : SyntaxNode} (hn : n.size ≤ size) (owner : Nat) (access : Access)
    (comment : String) {inside : SyntaxNode → Access → Build Unit}
    (hinside : Declaring h root (·.Opens root path true owner)
      ((h.placedAmong access n.children).flatMap fun m => h.declaredAt true path m.2 m.1)
      (inside n access) fun _ _ => True) :
    Declaring h root (·.Opens root path true owner)
      ((h.placed access n).flatMap fun m => h.declaredAt true path m.2 m.1)
      (h.memberStep readRecord inside owner access (n, comment)) fun a lib =>
        lib.Opens root path true owner ∧ a = h.accessBehind access n := by
  have hkeep {m : Build PUnit} {s : List Declared} (hkind : n.kind ≠ "access_specifier")
      (hm : Declaring h root (·.Opens root path true owner) s m fun _ _ => True) :
      Declaring h root (·.Opens root path true owner) s (do m; pure access) fun a lib =>
        lib.Opens root path true owner ∧ a = h.accessBehind access n :=
    (hm.keep (enduring_opens root path true owner)).before fun _ =>
      .pure fun _ hP => ⟨hP.1, (if_neg hkind).symm⟩
  unfold memberStep
  dsimp only
  split
  · next hkind =>
    rw [h.flatMap_placed (not_conditional hkind (by decide)),
      h.declaredAt_eq_nil (by rw [hkind]; decide)]
    unfold accessBehind
    rw [if_pos hkind]
    cases h.accessOf n with
    | ok a => exact .pure fun _ hP => ⟨hP, rfl⟩
    | error f => exact .throw f
  · next hkind =>
    rw [h.flatMap_placed (not_conditional hkind (by decide))]
    exact hkeep (by rw [hkind]; decide) (h.readFields_declaring hr hn hkind owner access comment)
  · next hkind =>
    rw [h.flatMap_placed (not_conditional hkind (by decide))]
    exact hkeep (by rw [hkind]; decide)
      (h.readDeclaration_declaring hr hn (.inl hkind) owner comment access)
  · next hkind =>
    rw [h.flatMap_placed (not_conditional hkind (by decide))]
    exact hkeep (by rw [hkind]; decide)
      (h.readDeclaration_declaring hr hn (.inr hkind) owner comment access)
  · next hkind =>
    rw [h.flatMap_placed (not_conditional hkind (by decide)), h.declaredAt_alias hkind]
    exact hkeep (by rw [hkind]; decide) (h.readAlias_declaring hr hn owner comment)
  · next haccess hfield hdeclaration hdefinition halias =>
    split
    · next hconditional =>
      rw [h.placed_eq, isConditional, if_pos hconditional]
      exact hkeep haccess hinside
    · next hconditional =>
      have hother : ∀ kind ∈ declaringKinds true, n.kind ≠ kind := by
        simpa [declaringKinds] using ⟨hdeclaration, hdefinition, halias, hfield⟩
      rw [h.flatMap_placed (Bool.eq_false_iff.2 hconditional), h.declaredAt_eq_nil hother]
      exact .pure fun _ hP => ⟨hP, (if_neg haccess).symm⟩

/-- The nodes in the body of a class, one after the other. A comment among them declares nothing and
sets no access level. -/
theorem foldMembers_declaring (owner : Nat) {inside : SyntaxNode → Access → Build Unit}
    {nodes : List SyntaxNode} (hnodes : ∀ n ∈ nodes, n.size ≤ size ∧ ∀ access,
      Declaring h root (·.Opens root path true owner)
        ((h.placedAmong access n.children).flatMap fun m => h.declaredAt true path m.2 m.1)
        (inside n access) fun _ _ => True) (pending : Option SyntaxNode) (access : Access) :
    Declaring h root (·.Opens root path true owner)
      ((h.placedAmong access nodes).flatMap fun m => h.declaredAt true path m.2 m.1)
      ((h.commented pending nodes).foldlM (h.memberStep readRecord inside owner) access)
      fun _ _ => True := by
  induction nodes generalizing pending access with
  | nil => exact .pure fun _ _ => trivial
  | cons n ns ih =>
    have hrest := ih fun m hm => hnodes m (List.mem_cons_of_mem _ hm)
    obtain ⟨hn, hinside⟩ := hnodes n (List.mem_cons_self ..)
    rw [placedAmong, List.flatMap_append]
    unfold commented
    split
    · next hcomment =>
      rw [h.flatMap_placed (not_conditional hcomment (by decide)),
        h.declaredAt_eq_nil (by rw [hcomment]; decide), accessBehind,
        if_neg (by rw [hcomment]; decide), List.nil_append]
      exact hrest _ access
    · rw [List.foldlM_cons]
      refine (h.memberStep_declaring hr hn owner access _ (hinside access)).bind fun a => .assume ?_
      rintro rfl
      exact hrest none _

end Members

/-- Reading the body of a class declares what its members declare, each with the access level that
is set for it. -/
theorem fullMembers_declaring {nodes : List SyntaxNode}
    (hr : h.DeclaresRecords root (sizes nodes) h.fullRecord) (owner : Nat) (access : Access) :
    Declaring h root (·.Opens root path true owner)
      ((h.placedAmong access nodes).flatMap fun m => h.declaredAt true path m.2 m.1)
      (h.fullMembers nodes owner access) fun _ _ => True := by
  induction hsize : sizes nodes using Nat.strongRecOn generalizing nodes access with
  | ind k ih =>
    subst hsize
    rw [fullMembers_eq]
    refine Declaring.before (h.foldMembers_declaring hr owner (fun n hn => ⟨size_le_sizes hn, ?_⟩)
      none access) fun _ => .pure fun _ _ => trivial
    have hlt := Nat.lt_of_lt_of_le n.sizes_children_lt_size (size_le_sizes hn)
    have hinside : h.DeclaresRecords root (sizes n.children) h.fullRecord :=
      fun t path inClass scope comment otherName ht =>
        hr t path inClass scope comment otherName (Nat.le_trans ht (Nat.le_of_lt hlt))
    exact fun access => ih _ hlt hinside access rfl

theorem firstAccess_eq (n : SyntaxNode) :
    (if (RecordForm.ofKind? n.kind).getD .structForm = .classForm then Access.classOnly
      else .everyone) = firstAccess n := by
  unfold firstAccess RecordForm.ofKind?
  split <;> simp_all

/-- Reading a class declares the class and what its members declare. -/
theorem fullRecord_declaring (size : Nat) : h.DeclaresRecords root size h.fullRecord := by
  induction size with
  | zero =>
    intro t path inClass scope comment otherName ht
    exact absurd t.size_pos (by omega)
  | succ size ih =>
    intro t path inClass scope comment otherName ht henum
    rw [typeDeclared_eq, if_neg henum, fullRecord_eq]
    split_ifs
    · exact .pure fun _ _ => trivial
    · refine (h.create_declaring .record rfl (by decide) scope _ t comment).bind fun id => ?_
      refine Declaring.mono ?_ (fun lib hP => hP.2 rfl) fun _ _ hQ => hQ
      cases hbody : t.child? "body" with
      | none => exact .pure fun _ _ => trivial
      | some body =>
        have hlt := size_child?_lt hbody
        have hinside := body.sizes_children_lt_size
        have hr : h.DeclaresRecords root (sizes body.children) h.fullRecord :=
          fun m path inClass scope comment otherName hm =>
            ih m path inClass scope comment otherName (by omega)
        rw [← firstAccess_eq]
        exact (h.fullMembers_declaring hr id _).before fun _ => .pure fun _ _ => trivial

/-! ### Scopes -/

/-- A definition of a type that stands in a scope. -/
theorem declaredAt_type {n : SyntaxNode} {kind : String} (hn : n.kind = kind)
    (hkind : kind ∈ ["class_specifier", "struct_specifier", "union_specifier", "enum_specifier"])
    (access : Access) : h.declaredAt false path access n = h.typeDeclared path n none := by
  simp only [List.mem_cons, List.not_mem_nil, or_false] at hkind
  have hdefined : h.definedType? false n = some (n, none) := by
    unfold definedType?
    rcases hkind with rfl | rfl | rfl | rfl <;> rw [hn] <;> rfl
  have hown : ∀ c, h.declaratorDeclared false path access n c = [] := by
    intro c
    unfold declaratorDeclared
    rcases hkind with rfl | rfl | rfl | rfl <;> rw [hn] <;> rfl
  unfold declaredAt ownDeclared
  rw [hdefined, List.flatMap_eq_nil_iff.2 fun c _ => hown c]
  exact List.append_nil _

theorem itemDeclared_comment {n : SyntaxNode} (hn : n.kind = "comment") :
    h.itemDeclared path n = [] := by
  rw [itemDeclared_eq, if_neg (by rw [hn]; decide), if_neg, if_neg (by rw [hn]; decide),
    h.declaredAt_eq_nil (by rw [hn]; decide)]
  rw [isConditional, hn]
  decide

/-- One node in a scope, where the reader for what is inside declares what is there. -/
theorem itemStep_declaring (n : SyntaxNode) (scope : Nat) (comment : String)
    {inside : List (SyntaxNode × String) → Nat → Build Unit}
    (hinside : ∀ nodes, sizes (nodes.map (·.1)) < n.size → ∀ path scope,
      Declaring h root (·.Opens root path false scope)
        (nodes.flatMap fun c => h.itemDeclared path c.1) (inside nodes scope) fun _ _ => True) :
    Declaring h root (·.Opens root path false scope) (h.itemDeclared path n)
      (h.itemStep h.fullRecord inside scope (n, comment)) fun _ _ => True := by
  have hchildren : ∀ m : SyntaxNode, m.size ≤ n.size → ∀ path scope,
      Declaring h root (·.Opens root path false scope) (m.children.flatMap (h.itemDeclared path))
        (inside (h.commented none m.children) scope) fun _ _ => True := by
    intro m hm path scope
    have hle := h.sizes_commented_le none m.children
    have hlt := m.sizes_children_lt_size
    have hread := hinside (h.commented none m.children) (by omega) path scope
    rwa [h.flatMap_commented fun _ => h.itemDeclared_comment] at hread
  rw [itemDeclared_eq]
  split_ifs with hlinkage hlist hnamespace
  · rw [h.itemStep_linkage hlinkage]
    cases hbody : n.child? "body" with
    | none => exact .pure fun _ _ => trivial
    | some body =>
      have hlt := size_child?_lt hbody
      dsimp only
      split_ifs with hkind
      · rw [itemDeclared_eq, if_neg (by rw [hkind]; decide), if_pos (.inl hkind)]
        exact hchildren body (Nat.le_of_lt hlt) path scope
      · have hread := hinside [(body, comment)] (by simpa [sizes] using hlt) path scope
        rwa [List.flatMap_singleton] at hread
  · rw [h.itemStep_list hlist]
    exact hchildren n (Nat.le_refl _) path scope
  · rw [h.itemStep_namespace hnamespace]
    refine (h.enterScopes_declaring n scope _).behind fun target => ?_
    cases hbody : n.child? "body" with
    | none => exact .pure fun _ _ => trivial
    | some body => exact hchildren body (Nat.le_of_lt (size_child?_lt hbody)) _ target
  · have hfull : h.DeclaresRecords root n.size h.fullRecord := h.fullRecord_declaring n.size
    have hrecord {kind : String} (hkind : n.kind = kind) (hmem : kind ∈ ["class_specifier",
        "struct_specifier", "union_specifier"]) :
        Declaring h root (·.Opens root path false scope) (h.declaredAt false path .everyone n)
          (do let _ ← h.fullRecord n scope comment none) fun _ _ => True := by
      have henum : n.kind ≠ "enum_specifier" := by
        rintro hn
        rw [← hkind, hn] at hmem
        exact absurd hmem (by decide)
      rw [h.declaredAt_type hkind (List.mem_append_left ["enum_specifier"] hmem)]
      exact (hfull n path false scope comment none (Nat.le_refl _) henum).before fun _ =>
        .pure fun _ _ => trivial
    unfold itemStep
    dsimp only
    split
    · exact absurd ‹_› hnamespace
    · exact hrecord ‹_› (by decide)
    · exact hrecord ‹_› (by decide)
    · exact hrecord ‹_› (by decide)
    · next hkind =>
      rw [h.declaredAt_type hkind (by decide)]
      exact (h.readEnumeration_declaring hkind scope comment none).before fun _ =>
        .pure fun _ _ => trivial
    · next hkind =>
      exact h.readDeclaration_declaring hfull (Nat.le_refl _) (.inl hkind) scope comment .everyone
    · next hkind =>
      exact h.readDeclaration_declaring hfull (Nat.le_refl _) (.inr hkind) scope comment .everyone
    · next hkind =>
      rw [h.declaredAt_alias hkind]
      exact h.readAlias_declaring hfull (Nat.le_refl _) scope comment
    · exact absurd ‹_› hlinkage
    · next hclass hstruct hunion henum hdeclaration hdefinition halias _ =>
      have hother : ∀ kind ∈ declaringKinds false, n.kind ≠ kind := by
        simpa [declaringKinds] using
          ⟨hdeclaration, hdefinition, halias, hclass, hstruct, hunion, henum⟩
      rw [if_neg (by exact hlist), h.declaredAt_eq_nil hother]
      exact .pure fun _ _ => trivial

/-- Reading what stands in a scope declares what the nodes there declare. -/
theorem fullItems_declaring (nodes : List (SyntaxNode × String)) (path : ScopePath)
    (scope : Nat) :
    Declaring h root (·.Opens root path false scope)
      (nodes.flatMap fun c => h.itemDeclared path c.1) (h.fullItems nodes scope)
      fun _ _ => True := by
  induction hsize : sizes (nodes.map (·.1)) using Nat.strongRecOn generalizing nodes path scope with
  | ind k ih =>
    subst hsize
    rw [fullItems_eq]
    refine .forM (enduring_opens root path false scope) fun c hc => ?_
    have hle : c.1.size ≤ sizes (nodes.map (·.1)) := size_le_sizes (List.mem_map_of_mem hc)
    exact h.itemStep_declaring c.1 scope c.2 fun inner hinner path scope =>
      ih _ (Nat.lt_of_lt_of_le hinner hle) inner path scope rfl

end Header

end Bindery
