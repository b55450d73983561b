import Bindery.Header.Parse
import Bindery.Proofs.Emit.Lines
import Bindery.Proofs.Header.Enumeration
import Bindery.Proofs.Header.Members
import Mathlib.Data.List.Flatten

/-!
# Storage of classes

An object of a class has storage for its data members and for its anonymous structures and unions,
but not for static members, which belong to the class as a whole. The fields of a class that was
read are those of its data members, static ones among them and anonymous ones not, and its layout
has entries for just these. So they are the storage of its objects exactly where no data member is
static and none is anonymous.
-/

namespace Bindery

/-- A part of a class that its objects may have storage for. -/
inductive StoragePart where
  /-- What one declarator of a data member declares. -/
  | data (member declarator : SyntaxNode)
  /-- A structure or union without a name whose members are members of the class. -/
  | anonymous (member : SyntaxNode)

/-- The name of a part of a class, which an anonymous one does not have. -/
def StoragePart.name (source : Source) : StoragePart → String
  | data _ declarator => (Declarator.unwrap source declarator).name
  | anonymous _ => ""

namespace Header

variable (h : Header)

/-- Whether a member is an anonymous structure or union. -/
def isAnonymous (n : SyntaxNode) : Bool :=
  n.kind == "field_declaration" && (n.childrenAt "declarator").isEmpty &&
    (n.child? "type").any fun t =>
      (t.kind == "struct_specifier" || t.kind == "union_specifier") && (t.child? "body").isSome &&
        (t.child? "name").isNone

/-- The parts of a class that a member declares as data, static or not. -/
def dataParts (n : SyntaxNode) : List StoragePart :=
  (h.dataDeclarators n).map (.data n)

/-- The parts of a class that the objects of the class have storage for because of a member. -/
def storage (n : SyntaxNode) : List StoragePart :=
  if isAnonymous n then [.anonymous n]
  else if h.hasKeyword n "static" then []
  else h.dataParts n

/-- The parts that the members of a class declare as data. -/
def declaredParts (n : SyntaxNode) : List StoragePart :=
  n.bodyMembers.flatMap h.dataParts

/-- The parts that the objects of a class have storage for. -/
def storageParts (n : SyntaxNode) : List StoragePart :=
  n.bodyMembers.flatMap h.storage

theorem declaredParts_eq (n : SyntaxNode) : h.declaredParts n =
    (n.bodyMembers.flatMap h.declaredData).map fun m => .data m.1 m.2 := by
  unfold declaredParts declaredData dataParts
  rw [List.map_flatMap]
  simp only [List.map_map, Function.comp_def]

end Header

namespace Library

/-- A declaration is the field of a class for one of its parts. The field for an anonymous structure
or union refers to its declaration. -/
def HoldsPart (lib : Library) (h : Header) (owner id : Nat) : StoragePart → Prop
  | .data m c => lib.RecordsField h owner id (m, c)
  | .anonymous m => ∃ d type access t node, lib.decl? id = some d ∧ d.body = .field type access ∧
      d.parent = some owner ∧ m.child? "type" = some node ∧
      d.notes.get? "type_declaration_id" = some (.int (t : Nat)) ∧ lib.DeclaresAt h owner t node

/-- The fields of a class are one for each of some parts, in order. -/
def FieldsAre (lib : Library) (h : Header) (id : Nat) (parts : List StoragePart) : Prop :=
  ∃ d r, lib.decl? id = some d ∧ d.body = .record r ∧
    List.Forall₂ (lib.HoldsPart h id) r.fields parts

theorem RecordsClass.fieldsAre {lib : Library} {h : Header} {id : Nat} {n : SyntaxNode}
    (hc : lib.RecordsClass h id n) : lib.FieldsAre h id (h.declaredParts n) := by
  obtain ⟨d, r, hd, hbody, -, hfields⟩ := hc
  refine ⟨d, r, hd, hbody, ?_⟩
  rw [h.declaredParts_eq, List.forall₂_map_right_iff]
  exact hfields

end Library

/-! ### Fields that are no storage -/

namespace Header

variable (h : Header)

/-- An anonymous structure or union declares no data by itself. -/
theorem dataParts_of_isAnonymous {n : SyntaxNode} (hn : isAnonymous n = true) :
    h.dataParts n = [] := by
  unfold isAnonymous at hn
  simp only [Bool.and_eq_true, List.isEmpty_iff] at hn
  unfold dataParts dataDeclarators
  rw [hn.1.2]
  split_ifs <;> rfl

/-- A member has storage for what it declares as data exactly if it is not anonymous, and not static
if it declares data. -/
theorem dataParts_eq_storage_iff (n : SyntaxNode) : h.dataParts n = h.storage n ↔
    isAnonymous n = false ∧ (h.hasKeyword n "static" = true → h.dataDeclarators n = []) := by
  unfold storage
  cases hanonymous : isAnonymous n with
  | true =>
    rw [h.dataParts_of_isAnonymous hanonymous]
    simp
  | false =>
    cases hstatic : h.hasKeyword n "static" with
    | true => simp [dataParts]
    | false => simp

theorem not_mem_dataParts (n m : SyntaxNode) : .anonymous m ∉ h.dataParts n := by
  intro hmem
  obtain ⟨c, -, hc⟩ := List.mem_map.1 hmem
  cases hc

theorem storage_sublist {n : SyntaxNode} (hn : isAnonymous n = false) :
    (h.storage n).Sublist (h.dataParts n) := by
  unfold storage
  rw [hn, if_neg Bool.false_ne_true]
  split_ifs
  · exact List.nil_sublist _
  · exact List.Sublist.refl _

/-- Where each of some lists is part of another one, all of them together are only the other ones
together if each is the other one. -/
theorem flatMap_eq_flatMap_iff {α β : Type} {f g : α → List β} {l : List α}
    (hsub : ∀ a ∈ l, (g a).Sublist (f a)) : l.flatMap f = l.flatMap g ↔ ∀ a ∈ l, f a = g a := by
  induction l with
  | nil => simp
  | cons a l ih =>
    obtain ⟨ha, hl⟩ := List.forall_mem_cons.1 hsub
    rw [List.forall_mem_cons, ← ih hl, List.flatMap_cons, List.flatMap_cons]
    refine ⟨fun heq => ?_, fun ⟨hfirst, hrest⟩ => by rw [hfirst, hrest]⟩
    have hlength := congrArg List.length heq
    rw [List.length_append, List.length_append] at hlength
    have hfirst := ha.length_le
    have hrest := (List.Sublist.flatMap_right l hl).length_le
    exact List.append_inj heq (by omega)

/-- What the members of a class declare as data is what its objects have storage for exactly if no
member is an anonymous structure or union and no static one declares data. -/
theorem declaredParts_eq_storageParts_iff (n : SyntaxNode) :
    h.declaredParts n = h.storageParts n ↔ ∀ m ∈ n.bodyMembers,
      isAnonymous m = false ∧ (h.hasKeyword m "static" = true → h.dataDeclarators m = []) := by
  constructor
  · intro heq
    have hplain : ∀ m ∈ n.bodyMembers, isAnonymous m = false := by
      intro m hm
      by_contra hanonymous
      have hstored : StoragePart.anonymous m ∈ h.storageParts n := by
        refine List.mem_flatMap.2 ⟨m, hm, ?_⟩
        unfold storage
        rw [if_pos (Bool.eq_true_of_not_eq_false hanonymous)]
        exact List.mem_singleton.2 rfl
      rw [← heq] at hstored
      obtain ⟨k, -, hk⟩ := List.mem_flatMap.1 hstored
      exact h.not_mem_dataParts k m hk
    have hall := (flatMap_eq_flatMap_iff fun m hm => h.storage_sublist (hplain m hm)).1 heq
    exact fun m hm => (h.dataParts_eq_storage_iff m).1 (hall m hm)
  · intro hall
    unfold declaredParts storageParts
    rw [List.flatMap_def, List.flatMap_def, List.map_congr_left fun m hm =>
      (h.dataParts_eq_storage_iff m).2 (hall m hm)]

end Header

/-! ### Entries of layouts -/

namespace Code

/-- An entry of a layout: the name of a field and its type. -/
abbrev Entry := String × String

/-- How an entry is written. -/
def Entry.text (entry : Entry) : String :=
  "(" ++ Text.quoted entry.1 ++ ", " ++ entry.2 ++ "),"

/-- The lines of entries, one level further in than the code. -/
def entryLines (c : Code) (entries : List Entry) : List String :=
  entries.map fun entry => times (c.level + 1) c.unit ++ entry.text

theorem Entry.text_ne_empty (entry : Entry) : entry.text ≠ "" := by
  simp [text]

/-- Lines that are not empty are indented. -/
theorem addLines_eq {c : Code} {texts : List String} (h : ∀ text ∈ texts, text ≠ "") :
    c.addLines texts = { c with lines := c.lines ++ texts.map (times c.level c.unit ++ ·) } := by
  unfold addLines
  induction texts generalizing c with
  | nil => simp
  | cons text texts ih =>
    obtain ⟨htext, htexts⟩ := List.forall_mem_cons.1 h
    rw [List.foldl_cons, ih htexts]
    simp [line, htext]

/-- The lines of a block of entries. -/
theorem lines_entryBlock {header : String} (hheader : header ≠ "") (c : Code)
    (entries : List Entry) :
    (((c.openBlock header).addLines (entries.map Entry.text)).closeBlock (some "]")).lines =
      c.lines ++ [times c.level c.unit ++ header] ++ c.entryLines entries ++
        [times c.level c.unit ++ "]"] := by
  have hentries : ∀ text ∈ entries.map Entry.text, text ≠ "" := by
    intro text htext
    obtain ⟨entry, -, rfl⟩ := List.mem_map.1 htext
    exact entry.text_ne_empty
  rw [addLines_eq hentries]
  simp [closeBlock, dedent, openBlock, indent, line, hheader, entryLines]

end Code

namespace Writing

variable {ι : Type} {c c' : Code} {u : PUnit}

/-- Lines for the members of a list. -/
theorem eq_of_run_forM_line {text : ι → String} {l : List ι}
    (hrun : (l.forM fun i => line (text i)).run c = .ok (u, c')) :
    c' = c.addLines (l.map text) := by
  induction l generalizing c with
  | nil =>
    cases hrun
    rfl
  | cons i l ih =>
    obtain ⟨_, mid, hfirst, hrest⟩ := exists_of_run_bind hrun
    cases hfirst
    exact ih hrest

/-- Lines for the members of a list that need something that is looked up for each. -/
theorem exists_of_run_forM_lift {α : Type} {x : ι → Except Fault α} {text : ι → α → String}
    {l : List ι} (hrun : (l.forM fun i => do line (text i (← liftM (x i)))).run c = .ok (u, c')) :
    ∃ found : List (ι × α), found.map (·.1) = l ∧
      c' = c.addLines (found.map fun p => text p.1 p.2) := by
  induction l generalizing c with
  | nil =>
    cases hrun
    exact ⟨[], rfl, rfl⟩
  | cons i l ih =>
    obtain ⟨_, mid, hfirst, hrest⟩ := exists_of_run_bind hrun
    obtain ⟨a, _, hlook, hline⟩ := exists_of_run_bind hfirst
    obtain ⟨-, rfl⟩ := eq_of_run_lift hlook
    cases hline
    obtain ⟨found, rfl, rfl⟩ := ih hrest
    exact ⟨(i, a) :: found, rfl, rfl⟩

end Writing

namespace Emission

open Writing

variable (e : Emission)

/-- The layout of a class ends in entries for fields of some names, in order; before them come those
of its bases. -/
def LaysOut (d : Decl) (names : List String) : Prop :=
  ∀ c c', (e.writeLayout d).run c = .ok ((), c') → ∃ front bases held fields,
    e.completeBases d = .ok bases ∧ held.map (·.1) = (List.range bases.length).map baseField ∧
    fields.map (·.1) = names ∧
    c'.lines = front ++ [Code.times c.level c.unit ++ (d.name ++ "._fields_ = [")] ++
      c.entryLines (held ++ fields) ++ [Code.times c.level c.unit ++ "]"]

/-- A layout has an entry for each field that is not ignored, and no other ones but for bases. -/
theorem laysOut_fieldsOf (d : Decl) : e.LaysOut d ((e.fieldsOf d).map (·.decl.name)) := by
  intro c c' hrun
  unfold writeLayout at hrun
  obtain ⟨_, _, hblank, hbehind⟩ := exists_of_run_bind hrun
  obtain ⟨bases, c₁, hlook, hwrite⟩ := exists_of_run_bind hbehind
  obtain ⟨hbases, rfl⟩ := eq_of_run_lift hlook
  have hgap : c.Onto c₁ := Appends.blank 1 c _ c₁ hblank
  obtain ⟨c₂, hon, hblock⟩ : ∃ c₂ : Code, c.Onto c₂ ∧
      (block (d.name ++ "._fields_ = [") (some "]") do
        (((List.range bases.length).map baseField).zip bases).forM fun b =>
          line ("(" ++ Text.quoted b.1 ++ ", " ++ b.2.name ++ "),")
        (e.fieldsOf d).forM fun f => do
          line ("(" ++ Text.quoted f.decl.name ++ ", " ++ (← liftM (e.fieldType f)).text ++ "),")
        ).run c₂ = .ok ((), c') := by
    dsimp only at hwrite
    split_ifs at hwrite
    · obtain ⟨_, c₂, hline, hblock⟩ := exists_of_run_bind hwrite
      exact ⟨c₂, hgap.trans (Appends.line _ c₁ _ c₂ hline), hblock⟩
    · exact ⟨c₁, hgap, hwrite⟩
  unfold block at hblock
  obtain ⟨_, _, hopen, hblock⟩ := exists_of_run_bind hblock
  obtain ⟨_, _, hinside, hclose⟩ := exists_of_run_bind hblock
  cases hopen
  cases hclose
  obtain ⟨_, _, hfirst, hrest⟩ := exists_of_run_bind hinside
  obtain rfl := eq_of_run_forM_line hfirst
  obtain ⟨found, hfound, rfl⟩ := exists_of_run_forM_lift hrest
  let held : List Code.Entry :=
    (((List.range bases.length).map baseField).zip bases).map fun p => (p.1, p.2.name)
  let fields : List Code.Entry := found.map fun p => (p.1.decl.name, p.2.text)
  refine ⟨c₂.lines, bases, held, fields, hbases, ?_, ?_, ?_⟩
  · exact (List.map_map ..).trans (List.map_fst_zip (by simp))
  · rw [← hfound, List.map_map, List.map_map]
    rfl
  · have hheader : d.name ++ "._fields_ = [" ≠ "" := by simp
    have hlines := c₂.lines_entryBlock hheader (held ++ fields)
    rw [hon.level, hon.unit] at hlines
    have hentries : c₂.entryLines (held ++ fields) = c.entryLines (held ++ fields) := by
      unfold Code.entryLines
      rw [hon.level, hon.unit]
    rw [hentries] at hlines
    rw [← hlines, List.map_append]
    unfold Code.addLines
    rw [List.foldl_append, List.map_map, List.map_map]
    rfl

end Emission

/-! ### Classes that were read -/

/-- A node and all that is inside of it. -/
inductive SyntaxNode.Holds (tree : SyntaxNode) : SyntaxNode → Prop where
  /-- The node itself. -/
  | self : tree.Holds tree
  /-- A child of a node inside. -/
  | child {n c : SyntaxNode} : tree.Holds n → c ∈ n.children → tree.Holds c

/-- None of the fields of a class that was read is ignored, and they have the names of the data. -/
theorem Library.RecordsClass.map_fieldsOf {e : Emission} {h : Header} {id : Nat} {n : SyntaxNode}
    (hc : e.library.RecordsClass h id n) {d : Decl} (hd : e.library.decl? id = some d) :
    (e.fieldsOf d).map (·.decl.name) = (h.declaredParts n).map (·.name h.source) := by
  obtain ⟨d', r, hd', hbody, -, hfields⟩ := hc
  rw [hd] at hd'
  cases hd'
  rw [h.declaredParts_eq]
  unfold Emission.fieldsOf
  rw [hbody]
  show (r.fields.filterMap _).map _ = _
  generalize r.fields = fields, n.bodyMembers.flatMap h.declaredData = members at hfields ⊢
  induction hfields with
  | nil => rfl
  | @cons f m fields members hf _ ih =>
    obtain ⟨c, type, access, hc, hfield, hname, -, -, hignored, -⟩ := hf
    rw [List.filterMap_cons, List.map_cons, List.map_cons, ← ih]
    simp only [hc, hfield, hignored, Bool.false_eq_true, if_false, List.map_cons]
    rw [hname]
    rfl

namespace Header

variable (h : Header)

/-- The fields of a class that was read are one for each piece of data that its members declare, in
order, and just these are the entries of its layout. They are the parts that its objects have
storage for exactly if no member is an anonymous structure or union and no static member declares
data. -/
theorem readRecord_fields {levels : Nat} {n : SyntaxNode} {scope id : Nat} {comment : String}
    {otherName : Option String} {lib out : Library} (hscope : lib.Has scope)
    (hrun : (h.readRecord levels n scope comment otherName).perform lib = (.ok (some id), out)) :
    out.FieldsAre h id (h.declaredParts n) ∧
      (∀ e : Emission, e.library = out → ∀ d, out.decl? id = some d →
        e.LaysOut d ((h.declaredParts n).map (·.name h.source))) ∧
      (h.declaredParts n = h.storageParts n ↔ ∀ m ∈ n.bodyMembers,
        isAnonymous m = false ∧ (h.hasKeyword m "static" = true → h.dataDeclarators m = [])) := by
  have hclass : out.RecordsClass h id n := by
    cases levels with
    | zero => cases hrun
    | succ levels =>
      have hall : SyntaxNode.Inward fun _ => True := fun _ _ _ _ => trivial
      have hnew : lib.Acquires h (fun _ => True) 0 [] out ∧ _ ∧ out.RecordsClass h id n :=
        h.readRecord_new (h.readRecord_adds hall levels) hall trivial hscope hrun
      exact hnew.2.2
  refine ⟨hclass.fieldsAre, ?_, h.declaredParts_eq_storageParts_iff n⟩
  rintro e rfl d hd
  rw [← hclass.map_fieldsOf hd]
  exact e.laysOut_fieldsOf d

end Header

/-- What is known of the outcome of a step, with the library it leaves. -/
theorem perform_eq_of_toOption {α : Type} {m : Build α} {lib : Library} {a : α}
    (h : (m.perform lib).1.toOption = some a) : m.perform lib = (.ok a, (m.perform lib).2) := by
  cases hrun : m.perform lib with
  | mk r out =>
    rw [hrun] at h
    cases r with
    | error f => cases h
    | ok b =>
      cases h
      rfl

/-! ### Three classes -/

/-- A node of a member of a class. -/
abbrev memberNode (start stop : Nat) (children : List SyntaxNode) : SyntaxNode :=
  ruleNode "field_declaration" start stop none children

/-- A node of a name that is declared. -/
abbrev declaratorNode (start stop : Nat) : SyntaxNode :=
  ruleNode "field_identifier" start stop (some "declarator") []

/-- A node of a type that is given by its name. -/
abbrev typeNode (start stop : Nat) : SyntaxNode :=
  ruleNode "primitive_type" start stop (some "type") []

/-- A node of the class `S` that a header begins with. -/
abbrev structNode (stop : Nat) (members : List SyntaxNode) : SyntaxNode :=
  ruleNode "struct_specifier" 0 stop none
    [ruleNode "type_identifier" 7 8 (some "name") [],
      ruleNode "field_declaration_list" 9 stop (some "body") members]

/-- A header with a class that has data members. -/
def plainHeader : Header :=
  ⟨"a.h", "struct S { int a, *b; int f(); };".toUTF8.toList⟩

/-- The class in the tree of the header. -/
def plainClass : SyntaxNode :=
  structNode 32
    [memberNode 11 21 [typeNode 11 14, declaratorNode 15 16,
        ruleNode "pointer_declarator" 18 20 (some "declarator") [declaratorNode 19 20]],
      memberNode 22 30 [typeNode 22 25,
        ruleNode "function_declarator" 26 29 (some "declarator") [declaratorNode 26 27]]]

/-- A header with a class that has a static member. -/
def staticHeader : Header :=
  ⟨"a.h", "struct S { static int n; int x; };".toUTF8.toList⟩

/-- The class in the tree of the header. -/
def staticClass : SyntaxNode :=
  structNode 33
    [memberNode 11 24 [ruleNode "storage_class_specifier" 11 17 none [], typeNode 18 21,
        declaratorNode 22 23],
      memberNode 25 31 [typeNode 25 28, declaratorNode 29 30]]

/-- A header with a class that has an anonymous structure. -/
def anonymousHeader : Header :=
  ⟨"a.h", "struct S { struct { int a; }; int b; };".toUTF8.toList⟩

/-- The class in the tree of the header. -/
def anonymousClass : SyntaxNode :=
  structNode 38
    [memberNode 11 29 [ruleNode "struct_specifier" 11 28 (some "type")
        [ruleNode "field_declaration_list" 18 28 (some "body")
          [memberNode 20 26 [typeNode 20 23, declaratorNode 24 25]]]],
      memberNode 30 36 [typeNode 30 33, declaratorNode 34 35]]

/-- The data members of the first class are its fields and its storage; its function is neither. -/
theorem readRecord_fields_plain : ∃ out, oneUnit.Has 0 ∧
    (plainHeader.readRecord 2 plainClass 0 "" none).perform oneUnit = (.ok (some 1), out) ∧
    out.FieldsAre plainHeader 1 (plainHeader.declaredParts plainClass) ∧
    (plainHeader.declaredParts plainClass).map (·.name plainHeader.source) = ["a", "b"] ∧
    plainHeader.declaredParts plainClass = plainHeader.storageParts plainClass := by
  let out := ((plainHeader.readRecord 2 plainClass 0 "" none).perform oneUnit).2
  have hunit : oneUnit.Has 0 := ⟨_, rfl⟩
  have hrun : (plainHeader.readRecord 2 plainClass 0 "" none).perform oneUnit =
      (.ok (some 1), out) :=
    perform_eq_of_toOption (by decide +kernel)
  obtain ⟨hfields, -, hstorage⟩ := plainHeader.readRecord_fields hunit hrun
  exact ⟨out, hunit, hrun, hfields, by decide +kernel, hstorage.2 (by decide +kernel)⟩

/-- The fields of a class are not those of more or fewer parts than there are fields. -/
theorem Library.not_fieldsAre {lib : Library} {h : Header} {id : Nat} {parts : List StoragePart}
    (hcount : ((lib.decl? id).bind (·.body.record?)).map (·.fields.length) ≠ some parts.length) :
    ¬lib.FieldsAre h id parts := by
  rintro ⟨d, r, hd, hbody, hfields⟩
  rw [hd, Option.bind_some, hbody] at hcount
  exact hcount (congrArg some hfields.length_eq)

/-- The static member of the second class is one of its fields, but no storage. The anonymous
structure of the third one is storage, but none of its fields. -/
theorem fields_not_storage :
    (∃ out, (staticHeader.readRecord 2 staticClass 0 "" none).perform oneUnit =
        (.ok (some 1), out) ∧
      ¬out.FieldsAre staticHeader 1 (staticHeader.storageParts staticClass)) ∧
    ∃ out, (anonymousHeader.readRecord 2 anonymousClass 0 "" none).perform oneUnit =
        (.ok (some 1), out) ∧
      ¬out.FieldsAre anonymousHeader 1 (anonymousHeader.storageParts anonymousClass) :=
  ⟨⟨_, perform_eq_of_toOption (by decide +kernel), Library.not_fieldsAre (by decide +kernel)⟩,
    ⟨_, perform_eq_of_toOption (by decide +kernel), Library.not_fieldsAre (by decide +kernel)⟩⟩

namespace Header

variable (h : Header)

/-! ### Headers that were read -/

/-- A header begins with its unit, which is empty and inside of nothing. -/
theorem exists_outcomeOf_openUnit (name : String) (defines : List Value) (lib : Library) :
    ∃ d, d.body = .unit .empty h.file ∧ d.parent = none ∧
      outcomeOf (h.openUnit name defines) lib = (.ok lib.created, lib.append d) := by
  unfold openUnit
  rw [outcomeOf_buildEdit, Edit.outcomeOf_create_none rfl]
  exact ⟨_, rfl, rfl, rfl⟩

/-- Every class of a header that was read was read at one of the nodes of the header, and has a
field for each piece of data that the members declare there. -/
theorem readUnit_fields {name : String} {defines : List Value} {tree : SyntaxNode}
    {lib out : Library} (hrun : h.readUnit name defines tree lib = (.parsed, out)) {id : Nat}
    (hid : lib.created ≤ id) (hclass : out.HasForm id [.record]) :
    ∃ n, tree.Holds n ∧ out.RecordsClass h id n := by
  obtain ⟨d, hd, -, hopen⟩ := h.exists_outcomeOf_openUnit name defines lib
  have hunit : (lib.append d).decl? lib.created = some d := by
    rw [Library.decl?_append, if_pos rfl]
  unfold readUnit at hrun
  rw [build_perform, hopen] at hrun
  simp only [build_perform] at hrun
  cases hread : outcomeOf (h.readItems (tree.size + 1) (h.commented none tree.children)
      lib.created) (lib.append d) with
  | mk r last =>
    rw [hread] at hrun
    cases r with
    | error f =>
      dsimp only at hrun
      split_ifs at hrun <;> cases hrun
    | ok u =>
      cases hrun
      have hadds : Adds h tree.Holds lib.created (Library.Has lib.created) []
          (h.readItems (tree.size + 1) (h.commented none tree.children) lib.created)
          fun _ _ => True :=
        h.readItems_adds (fun _ _ => .child) (tree.size + 1) (h.commented none tree.children)
          (fun c hc => .child .self (h.mem_of_mem_commented hc)) lib.created
      obtain ⟨⟨⟨ids, hgains, -⟩, hclasses⟩, -⟩ :=
        hadds _ _ _ (Library.lt_created_of_decl? hunit) ⟨d, hunit⟩ hread
      refine hclasses id ?_ hclass
      -- the unit itself is no class
      rw [Library.created_append]
      refine Nat.lt_of_le_of_ne hid ?_
      rintro rfl
      obtain ⟨e, he, hform⟩ :=
        hgains.hasForm (Library.lt_created_of_decl? hunit) hclass
      rw [hunit] at he
      cases he
      rw [hd] at hform
      cases List.mem_singleton.1 hform

end Header

end Bindery
