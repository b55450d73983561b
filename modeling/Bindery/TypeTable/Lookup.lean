import Bindery.Signature.Normal
import Bindery.TypeTable.Descriptor

/-!
# Describing native types

A type table is empty until it is set up, once, with the types that have a fixed binding. A type is
described by taking its normal spelling apart: a type of the table stands for itself, a mark or an
array size at its end is peeled off, a template stands for its plain name, and what is left refers
to the declaration of that name. Every type has a description, and the search ends because a part is
always shorter than the whole.
-/

namespace Bindery

open Bindery.Text Bindery.Signature

/-- What a declaration is to a type that refers to it. -/
inductive ReferentForm where
  /-- An enumeration. -/
  | enumeration
  /-- A class that is complete and not ignored. -/
  | layoutClass
  /-- Any other declaration. -/
  | other
deriving DecidableEq, Repr, Inhabited

/-- A declaration as a type sees it. -/
structure Referent where
  /-- The number of the declaration. -/
  id : Value
  /-- Its name in the generated module. -/
  name : Value
  /-- What it is. -/
  form : ReferentForm
deriving Repr, Inhabited

/-- Declarations by the names that types use; the first entry of a name counts. -/
abbrev NameIndex := List (String × Referent)

/-- The declaration of a name. -/
def NameIndex.get? (index : NameIndex) (name : String) : Option Referent :=
  (index.find? (·.1 == name)).map (·.2)

/-- Why the type table refuses a change. -/
inductive TypeTableFault where
  /-- It has been set up before. -/
  | alreadySetUp
  /-- It takes no further types; what was to be taken is shown. -/
  | readOnly (shown : String)
deriving DecidableEq, Repr

/-- The message of a refusal. -/
def TypeTableFault.message : TypeTableFault → String
  | alreadySetUp => "Type maps are already set up"
  | readOnly shown => "Cannot register '" ++ shown ++ "': the type database is read-only"

/-- A table of types with a fixed binding. -/
structure TypeTable where
  /-- Its lines. -/
  entries : List Descriptor
  /-- Whether it has been set up. -/
  ready : Bool
deriving Repr

namespace TypeTable

/-- The table before it is set up. -/
def blank : TypeTable := ⟨[], false⟩

/-- The table that describes types. -/
def standard : TypeTable := ⟨builtins, true⟩

/-- Fills the table; this is allowed once. -/
def setUp (t : TypeTable) : Except TypeTableFault TypeTable :=
  if t.ready then .error .alreadySetUp else .ok standard

/-- A table takes no types besides its own. -/
def register (_ : TypeTable) (native : Value) : Except TypeTableFault TypeTable :=
  .error (.readOnly native.shown)

theorem setUp_blank : setUp blank = .ok standard := rfl

/-- The line of a normal spelling. -/
def entry? (t : TypeTable) (native : String) : Option Descriptor :=
  t.entries.find? (·.native == native)

/-- The line of a type, without taking the type apart. -/
def find? (t : TypeTable) (signature : String) : Option Descriptor :=
  t.entry? (normalize signature)

/-- Whether a type has a line. -/
def contains (t : TypeTable) (signature : String) : Bool :=
  (t.find? signature).isSome

/-- The spellings of the lines, in order. -/
def signatures (t : TypeTable) : List String :=
  t.entries.map (·.native)

/-- The description of a type that refers to a declaration by name, or to none that is known. -/
def referTo (index : NameIndex) (native : List Char) : Descriptor :=
  let text := String.ofList native
  let plain := String.ofList (plainName native)
  match (index.get? text).orElse fun _ => index.get? plain with
  | some r =>
    match r.form with
    | .enumeration => ⟨text, r.name, .basic "c_int", .enumeration, r.id⟩
    | .layoutClass => ⟨text, r.name, .named r.name, .declaration, r.id⟩
    | .other => ⟨text, r.name, .named r.name, .opaqueHandle, r.id⟩
  | none => ⟨text, .text plain, .named (.text plain), .opaqueHandle, .null⟩

/-- The description of a pointer or reference to a described type. Pointers to characters, to
classes without layout and references to pointers are untyped. -/
def pointTo (native : List Char) (inner : Descriptor) : Descriptor :=
  let text := String.ofList native
  let typed : Descriptor :=
    ⟨text, inner.valueType, .pointer inner.foreignType, .pointer, inner.declaration⟩
  let untyped : Descriptor := ⟨text, .text "int", .basic "c_void_p", .pointer, inner.declaration⟩
  match inner.kind with
  | .declaration => if inner.declaration.isNull then untyped else typed
  | .primitive | .enumeration =>
    if inner.isVoid || inner.foreignType.isCharacter then untyped else typed
  | .pointer | .string =>
    if native.getLast? == some '*' then
      ⟨text, .text "int", .pointer inner.foreignType, .pointer, .null⟩
    else untyped
  | .std | .opaqueHandle => untyped

/-- The description of an array of a described type. -/
def arrayOf (native : List Char) (size : List Char) (inner : Descriptor) : Descriptor :=
  let text := String.ofList native
  if inner.isVoid then ⟨text, .text "int", .basic "c_void_p", .pointer, .null⟩
  else
    let size := if size.isEmpty then "0" else String.ofList size
    ⟨text, .text "list", .array inner.foreignType size, inner.kind, inner.declaration⟩

/-- What a pointer or reference points to. A run of reference marks is one reference, and the
pointer marks before it go with it. -/
def pointee (native : List Char) : List Char :=
  if native.getLast? == some '&' then
    dropWhileEnd (· == '*') (dropWhileEnd (· == '&') native)
  else native.dropLast

/-- The item type and the size of an array type: a size is one word, or nothing, in brackets at the
end. -/
def arrayParts? (native : List Char) : Option (List Char × List Char) :=
  match native.reverse with
  | ']' :: rest =>
    let inside := rest.takeWhile (· ≠ '[')
    let size := (strip inside.reverse)
    match rest.dropWhile (· ≠ '[') with
    | '[' :: item => if size.all isWord then some (stripEnd item.reverse, size) else none
    | _ => none
  | _ => none

/-- The plain name of a template with its arguments. -/
def templateName? (native : List Char) : Option (List Char) :=
  let name := native.takeWhile (· ≠ '<')
  if !name.isEmpty && name.length + 2 ≤ native.length && native.getLast? == some '>' then
    some (strip name)
  else none

theorem pointee_length_lt {native : List Char}
    (h : native.getLast?.any isMark = true) : (pointee native).length < native.length := by
  cases hl : native.getLast? with
  | none => simp [hl] at h
  | some c =>
    have hne : native ≠ [] := by rintro rfl; simp at hl
    have hpos : 0 < native.length := List.length_pos_iff.2 hne
    unfold pointee
    by_cases hc : c = '&'
    · subst hc
      simp only [hl, beq_self_eq_true, if_true]
      refine Nat.lt_of_le_of_lt (dropWhileEnd_length_le _ _) ?_
      obtain ⟨init, rfl⟩ : ∃ init, native = init ++ ['&'] := List.getLast?_eq_some_iff.1 hl
      have : dropWhileEnd (fun x => x == '&') (init ++ ['&']) =
          dropWhileEnd (fun x => x == '&') init := by simp [dropWhileEnd]
      rw [this]
      refine Nat.lt_of_le_of_lt (dropWhileEnd_length_le _ _) ?_
      simp
    · have : ¬ (some c == some '&') = true := by simpa using hc
      simp only [hl, this]
      simp only [Bool.false_eq_true, if_false, List.length_dropLast]
      omega

theorem arrayParts?_length_lt {native item size : List Char}
    (h : arrayParts? native = some (item, size)) : item.length < native.length := by
  unfold arrayParts? at h
  split at h
  · next rest hrev =>
    have hlen : native.length = rest.length + 1 := by
      have := congrArg List.length hrev
      simpa using this
    dsimp only at h
    split at h
    · next item' hdrop =>
      split at h
      · simp only [Option.some.injEq, Prod.mk.injEq] at h
        obtain ⟨rfl, -⟩ := h
        have h1 := (rest.dropWhile_suffix (· ≠ '[')).length_le
        have h2 : (stripEnd item'.reverse).length ≤ item'.length := by
          simpa [stripEnd] using dropWhileEnd_length_le isBlank item'.reverse
        rw [hdrop] at h1
        simp only [List.length_cons] at h1
        omega
      · simp at h
    · simp at h
  · simp at h

/-- What a type is made of. -/
inductive Shape where
  /-- A type that has a line in the table. -/
  | known (d : Descriptor)
  /-- A function pointer. -/
  | function
  /-- A pointer or a reference to a type. -/
  | pointer (target : List Char)
  /-- An array of items of a type, with its size. -/
  | array (item size : List Char)
  /-- A template with a line in the table, and its arguments. -/
  | template (d : Descriptor)
  /-- Any other type: the name of a declaration, if there is one. -/
  | name
deriving Repr, Inhabited

/-- What a type in its normal spelling is made of. -/
def shape (t : TypeTable) (native : List Char) : Shape :=
  match t.entry? (String.ofList native) with
  | some d => .known d
  | none =>
    if native.contains '(' then .function
    else if native.getLast?.any isMark then .pointer (pointee native)
    else
      match arrayParts? native with
      | some (item, size) => .array item size
      | none =>
        match (templateName? native).bind fun name => t.entry? (String.ofList name) with
        | some d => .template d
        | none => .name

/-- What a pointer points to is shorter than the pointer. -/
theorem shape_pointer_length_lt {t : TypeTable} {native target : List Char}
    (h : t.shape native = .pointer target) : target.length < native.length := by
  unfold shape at h
  split at h
  · simp at h
  · split at h
    · simp at h
    · split at h
      · next hm =>
        simp only [Shape.pointer.injEq] at h
        subst h
        exact pointee_length_lt hm
      · repeat' split at h
        all_goals simp at h

/-- The type of the items is shorter than that of the array. -/
theorem shape_array_length_lt {t : TypeTable} {native item size : List Char}
    (h : t.shape native = .array item size) : item.length < native.length := by
  unfold shape at h
  split at h
  · simp at h
  · split at h
    · simp at h
    · split at h
      · simp at h
      · split at h
        · next hp =>
          simp only [Shape.array.injEq] at h
          obtain ⟨rfl, rfl⟩ := h
          exact arrayParts?_length_lt hp
        · split at h <;> simp at h

/-- The description of a type, given as characters. -/
def describe (t : TypeTable) (index : NameIndex) (signature : List Char) : Descriptor :=
  let native := normalizeChars signature
  match _h : t.shape native with
  | .known d => d
  | .function => ⟨String.ofList native, .text "int", .basic "c_void_p", .pointer, .null⟩
  | .pointer target => pointTo native (describe t index target)
  | .array item size => arrayOf native size (describe t index item)
  | .template d => { d with native := String.ofList native }
  | .name => referTo index native
termination_by signature.length
decreasing_by
  · exact Nat.lt_of_lt_of_le (shape_pointer_length_lt _h) (normalizeChars_length_le signature)
  · exact Nat.lt_of_lt_of_le (shape_array_length_lt _h) (normalizeChars_length_le signature)

/-- The description of a type. -/
def lookup (t : TypeTable) (index : NameIndex) (signature : String) : Descriptor :=
  t.describe index signature.toList

end TypeTable

end Bindery
