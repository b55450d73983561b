import Bindery.Initializer.Number
import Bindery.TypeTable.Descent
import Mathlib.Data.List.Basic
import Mathlib.Tactic.SplitIfs

/-!
# What descriptions and type expressions are made of

A description comes from a line of the table, from a declaration that is known by name, or from
nothing that is known; pointers and arrays are put around it. A type expression has one thing at its
heart, with pointers and arrays around it: nothing at all, a type of the foreign function library,
or the name of a class. It can be evaluated if that thing and the sizes of its arrays mean something
in the module. Whatever the types of a library are, a description that is no opaque handle has
something meaningful at its heart: only classes with a layout are mentioned by name.
-/

namespace Bindery.Signature

theorem isMark_iff {c : Char} : isMark c = true ↔ c = '*' ∨ c = '&' := by
  rw [isMark, Bool.or_eq_true, beq_iff_eq, beq_iff_eq]

end Bindery.Signature

namespace Bindery.TypeTable

/-- Whatever line a type has is one of the table. -/
theorem mem_entries_of_shape {t : TypeTable} {native : List Char} {d : Descriptor}
    (h : t.shape native = .known d ∨ t.shape native = .template d) : d ∈ t.entries := by
  unfold TypeTable.shape at h
  cases he : t.entry? (String.ofList native) with
  | some e =>
    rw [he] at h
    rcases h with h | h <;> cases h
    exact List.mem_of_find?_eq_some he
  | none =>
    rw [he] at h
    simp only at h
    split_ifs at h
    · rcases h with h | h <;> cases h
    · rcases h with h | h <;> cases h
    · cases ha : arrayParts? native with
      | some parts =>
        rw [ha] at h
        rcases h with h | h <;> cases h
      | none =>
        rw [ha] at h
        simp only at h
        cases ht : (templateName? native).bind fun name => t.entry? (String.ofList name) with
        | none =>
          rw [ht] at h
          rcases h with h | h <;> cases h
        | some e =>
          rw [ht] at h
          rcases h with h | h <;> cases h
          obtain ⟨name, -, hname⟩ := Option.bind_eq_some_iff.1 ht
          exact List.mem_of_find?_eq_some hname

/-- What has no line and ends in nothing that a type is taken apart at is taken for the name of a
declaration. -/
theorem shape_of_last {t : TypeTable} {native : List Char}
    (htable : t.entry? (String.ofList native) = none) (hcall : '(' ∉ native)
    (hlast : ∀ c ∈ native.getLast?, Signature.isMark c = false ∧ c ≠ ']' ∧ c ≠ '>') :
    t.shape native = .name := by
  have hmark : ¬native.getLast?.any Signature.isMark = true := by
    intro hany
    obtain ⟨c, hc, hmark⟩ := (Option.any_eq_true _ _).1 hany
    rw [(hlast c hc).1] at hmark
    cases hmark
  have harray : arrayParts? native = none := by
    unfold arrayParts?
    split
    · next rest hrev =>
      have hclose : native.getLast? = some ']' := by
        rw [List.getLast?_eq_head?_reverse, hrev]
        rfl
      exact absurd rfl (hlast ']' hclose).2.1
    · rfl
  have htemplate : templateName? native = none := by
    have hopen : native.getLast? ≠ some '>' := fun hopen => absurd rfl (hlast '>' hopen).2.2
    unfold templateName?
    simp [hopen]
  unfold shape
  rw [htable, harray, htemplate]
  simp [hcall, hmark]

variable (index : NameIndex)

/-- A type is described by its shape. -/
theorem describe_eq (t : TypeTable) (signature : List Char) :
    t.describe index signature =
      match t.shape (Signature.normalizeChars signature) with
      | .known d => d
      | .function => ⟨String.ofList (Signature.normalizeChars signature), .text "int",
          .basic "c_void_p", .pointer, .null⟩
      | .pointer target => pointTo (Signature.normalizeChars signature) (t.describe index target)
      | .array item size =>
        arrayOf (Signature.normalizeChars signature) size (t.describe index item)
      | .template d => { d with native := String.ofList (Signature.normalizeChars signature) }
      | .name => referTo index (Signature.normalizeChars signature) := by
  rw [describe]
  split <;> next hs => rw [hs]

theorem exists_of_get? {name : String} {r : Referent} (h : index.get? name = some r) :
    ∃ entry ∈ index, entry.2 = r := by
  obtain ⟨entry, hentry, rfl⟩ := Option.map_eq_some_iff.1 h
  exact ⟨entry, List.mem_of_find?_eq_some hentry, rfl⟩

/-- What is no type of the table refers to a declaration that is known by name, or is an opaque
handle. -/
theorem referTo_cases (native : List Char) :
    (∃ name r, index.get? name = some r ∧ referTo index native =
      let text := String.ofList native
      match r.form with
      | .enumeration => ⟨text, r.name, .basic "c_int", .enumeration, r.id⟩
      | .layoutClass => ⟨text, r.name, .named r.name, .declaration, r.id⟩
      | .other => ⟨text, r.name, .named r.name, .opaqueHandle, r.id⟩) ∨
    ((referTo index native).kind = .opaqueHandle ∧ (referTo index native).declaration = .null) := by
  unfold referTo
  dsimp only
  cases hr : (index.get? (String.ofList native)).orElse fun _ =>
      index.get? (String.ofList (Signature.plainName native)) with
  | none => exact .inr ⟨rfl, rfl⟩
  | some r =>
    left
    cases hfirst : index.get? (String.ofList native) with
    | some r' =>
      rw [hfirst] at hr
      cases hr
      exact ⟨_, r, hfirst, rfl⟩
    | none =>
      rw [hfirst] at hr
      exact ⟨_, r, hr, rfl⟩

end Bindery.TypeTable

namespace Bindery

open Bindery.Initializer Bindery.Text

/-- The types that the foreign function library defines, as far as descriptions use them. -/
def foreignNames : List String :=
  ["c_bool", "c_char", "c_byte", "c_ubyte", "c_wchar", "c_short", "c_ushort", "c_int", "c_uint",
    "c_long", "c_ulong", "c_longlong", "c_ulonglong", "c_float", "c_double", "c_longdouble",
    "c_size_t", "c_ssize_t", "c_int8", "c_int16", "c_int32", "c_int64", "c_uint8", "c_uint16",
    "c_uint32", "c_uint64", "c_char_p", "c_wchar_p", "c_void_p"]

/-- Whether a word is an integer as the module would write it. -/
def isIntegerLiteral (word : String) : Bool :=
  word.toList.head?.any isAsciiDigit &&
    match readNumber word.toList with
    | some (some _, []) => true
    | _ => false

/-- Whether a word of a type expression means something in a module that defines some classes. -/
def isMeaningful (classes : List String) (word : String) : Bool :=
  classes.contains word || word == "None" || isIntegerLiteral word

namespace ForeignType

/-- Whether what is at the heart of a type expression means something. -/
def isFounded (classes : List String) : ForeignType → Bool
  | nothing => true
  | basic name => foreignNames.contains name
  | named name => isMeaningful classes name.shown
  | pointer target => target.isFounded classes
  | array item _ => item.isFounded classes

/-- The sizes of the arrays in a type expression, from the outside in. -/
def sizes : ForeignType → List String
  | pointer target => target.sizes
  | array item size => size :: item.sizes
  | _ => []

/-- Whether everything in a type expression means something. -/
def isResolved (classes : List String) (t : ForeignType) : Bool :=
  t.isFounded classes && t.sizes.all (isMeaningful classes)

end ForeignType

namespace TypeTable

/-- Whatever library a table is used for, the types of its lines mean something. -/
def Founded (t : TypeTable) : Prop :=
  ∀ d ∈ t.entries, ∀ classes, d.foreignType.isFounded classes = true

/-- The lines of the table are nothing, or types of the foreign function library. -/
theorem foreignType_builtin {d : Descriptor} (h : d ∈ builtins) :
    d.foreignType = .nothing ∨ ∃ name ∈ foreignNames, d.foreignType = .basic name := by
  have hall : builtins.all (fun d =>
      match d.foreignType with
      | .nothing => true
      | .basic name => foreignNames.contains name
      | _ => false) = true := by
    decide +kernel
  have hline := List.all_eq_true.1 hall d h
  cases hf : d.foreignType <;> simp only [hf] at hline
  · exact .inl rfl
  · exact .inr ⟨_, List.contains_iff_mem.1 hline, rfl⟩
  all_goals cases hline

theorem founded_standard : standard.Founded := by
  intro d hd classes
  rcases foreignType_builtin hd with hnothing | ⟨name, hname, hbasic⟩
  · rw [hnothing]
    rfl
  · rw [hbasic]
    exact List.contains_iff_mem.2 hname

/-- The classes with a layout that types refer to are among some classes. -/
def Covers (classes : List String) (index : NameIndex) : Prop :=
  ∀ entry ∈ index, entry.2.form = .layoutClass → ∃ name ∈ classes, entry.2.name = .text name

variable {classes : List String} {index : NameIndex}

theorem referTo_isFounded (h : Covers classes index) {native : List Char}
    (hk : (referTo index native).kind ≠ .opaqueHandle) :
    (referTo index native).foreignType.isFounded classes = true := by
  rcases referTo_cases index native with ⟨_, _, hr, heq⟩ | ⟨hhandle, -⟩
  · obtain ⟨entry, hentry, rfl⟩ := exists_of_get? index hr
    rw [heq] at hk ⊢
    cases hf : entry.2.form with
    | enumeration => rfl
    | layoutClass =>
      obtain ⟨name, hname, htext⟩ := h entry hentry hf
      simp [ForeignType.isFounded, htext, Value.shown, isMeaningful, hname]
    | other =>
      rw [hf] at hk
      exact absurd rfl hk
  · exact absurd hhandle hk

/-- A pointer is untyped, or a pointer to what has a meaning. -/
theorem pointTo_cases (native : List Char) (inner : Descriptor) :
    (pointTo native inner).foreignType = .basic "c_void_p" ∨
      inner.kind ≠ .opaqueHandle ∧
        (pointTo native inner).foreignType = .pointer inner.foreignType := by
  unfold pointTo
  cases hk : inner.kind <;> dsimp only <;> (try split_ifs) <;> simp

theorem pointTo_isFounded (native : List Char) {inner : Descriptor}
    (h : inner.kind ≠ .opaqueHandle → inner.foreignType.isFounded classes = true) :
    (pointTo native inner).foreignType.isFounded classes = true := by
  rcases pointTo_cases native inner with huntyped | ⟨hk, htyped⟩
  · rw [huntyped]
    rfl
  · rw [htyped]
    exact h hk

theorem arrayOf_isFounded (native size : List Char) {inner : Descriptor}
    (h : inner.kind ≠ .opaqueHandle → inner.foreignType.isFounded classes = true)
    (hk : (arrayOf native size inner).kind ≠ .opaqueHandle) :
    (arrayOf native size inner).foreignType.isFounded classes = true := by
  unfold arrayOf at hk ⊢
  split_ifs at hk ⊢ with hvoid
  · rfl
  · exact h hk
  · exact h hk

/-- What is described as anything but an opaque handle has something meaningful at its heart. -/
theorem describe_isFounded {t : TypeTable} (ht : t.Founded) (h : Covers classes index)
    (signature : List Char) (hk : (t.describe index signature).kind ≠ .opaqueHandle) :
    (t.describe index signature).foreignType.isFounded classes = true := by
  fun_induction t.describe index signature with
  | case1 signature native d hs => exact ht d (mem_entries_of_shape (.inl hs)) classes
  | case2 signature native hs => rfl
  | case3 signature native target hs ih => exact pointTo_isFounded native ih
  | case4 signature native item size hs ih => exact arrayOf_isFounded native size ih hk
  | case5 signature native d hs =>
    have hd : t.shape native = .known d ∨ t.shape native = .template d := .inr hs
    exact ht d (mem_entries_of_shape hd) classes
  | case6 signature native hs => exact referTo_isFounded h hk

end TypeTable

end Bindery

/-!
## Room for a search

How deep a search goes depends on the type alone: every pointer takes two places and every array
takes one. A search comes to its end just if there is room for all of them. Behind a type that is
spelled normally each star is one more pointer, so stars run out of room in the end.
-/

namespace Bindery.TypeTable

open Bindery.Signature

variable {t : TypeTable} {index : NameIndex}

/-- How many places the search for a type takes for its parts. -/
def depth (t : TypeTable) (signature : List Char) : Nat :=
  match _h : t.shape (normalizeChars signature) with
  | .pointer target => t.depth target + 2
  | .array item _ => t.depth item + 1
  | _ => 0
termination_by signature.length
decreasing_by
  · exact Nat.lt_of_lt_of_le (shape_pointer_length_lt _h) (normalizeChars_length_le signature)
  · exact Nat.lt_of_lt_of_le (shape_array_length_lt _h) (normalizeChars_length_le signature)

/-- The depth of a type depends on its shape. -/
theorem depth_eq (t : TypeTable) (signature : List Char) :
    t.depth signature =
      match t.shape (normalizeChars signature) with
      | .pointer target => t.depth target + 2
      | .array item _ => t.depth item + 1
      | _ => 0 := by
  rw [depth]
  split <;> next hs => simp only [hs]

/-- No type takes more than two places for each of its characters. -/
theorem depth_le (t : TypeTable) (signature : List Char) :
    t.depth signature ≤ 2 * signature.length := by
  fun_induction t.depth signature with
  | case1 signature target hs ih =>
    have := shape_pointer_length_lt hs
    have := normalizeChars_length_le signature
    omega
  | case2 signature item size hs ih =>
    have := shape_array_length_lt hs
    have := normalizeChars_length_le signature
    omega
  | case3 => exact Nat.zero_le _

theorem ofUsed?_eq_none_iff {used : Nat} :
    DescentFault.ofUsed? used = none ↔ used + 5 < DescentFault.room := by
  unfold DescentFault.ofUsed?
  split_ifs with hroom hlast
  · simp [hroom]
  · simp [hroom]
  · simp [hroom]

/-- A search runs out of room just if the type is too deep. -/
theorem descentFault?_eq_none_iff (t : TypeTable) (used : Nat) (signature : List Char) :
    t.descentFault? used signature = none ↔
      used + t.depth signature + 5 < DescentFault.room := by
  fun_induction t.descentFault? used signature with
  | case1 used signature f hf =>
    have hfull : ¬used + 5 < DescentFault.room := by
      rw [← ofUsed?_eq_none_iff, hf]
      exact nofun
    exact iff_of_false nofun (by omega)
  | case2 used signature hroom target hs ih =>
    have hdepth : t.depth signature = t.depth target + 2 := by rw [depth_eq, hs]
    rw [ih, hdepth]
    omega
  | case3 used signature hroom item size hs ih =>
    have hdepth : t.depth signature = t.depth item + 1 := by rw [depth_eq, hs]
    rw [ih, hdepth]
    omega
  | case4 used signature hroom hpointer harray =>
    have hdepth : t.depth signature = 0 := by
      rw [depth_eq]
      split
      · next hs => exact absurd hs (hpointer _)
      · next hs => exact absurd hs (harray _ _)
      · rfl
    rw [ofUsed?_eq_none_iff] at hroom
    exact iff_of_true rfl (by omega)

/-- A search comes to its end just if there is room for the type. -/
theorem exists_search_iff {used : Nat} {signature : String} :
    (∃ d, t.search used index signature = .ok d) ↔
      used + t.depth signature.toList + 5 < DescentFault.room := by
  rw [← descentFault?_eq_none_iff]
  unfold search
  cases t.descentFault? used signature.toList with
  | none => exact iff_of_true ⟨_, rfl⟩ rfl
  | some f => exact iff_of_false (fun ⟨_, h⟩ => nomatch h) nofun

theorem search_eq_ok {used : Nat} {signature : String}
    (h : used + t.depth signature.toList + 5 < DescentFault.room) :
    t.search used index signature = .ok (t.lookup index signature) := by
  obtain ⟨d, hd⟩ : ∃ d, t.search used index signature = .ok d := exists_search_iff.2 h
  rw [hd, eq_lookup_of_search hd]

/-! ### The same normal spelling -/

theorem describe_congr {a b : List Char} (h : normalizeChars a = normalizeChars b) :
    t.describe index a = t.describe index b := by
  rw [describe_eq, describe_eq, h]

theorem depth_congr {a b : List Char} (h : normalizeChars a = normalizeChars b) :
    t.depth a = t.depth b := by
  rw [depth_eq, depth_eq, h]

/-! ### Stars -/

/-- Stars in a row. -/
def stars (n : Nat) : List Char :=
  List.replicate n '*'

theorem stars_succ (n : Nat) : stars (n + 1) = stars n ++ ['*'] :=
  List.replicate_succ'

/-- A type behind which stars are pointers: with stars it is spelled normally, and it is nothing
else as a whole. -/
structure IsStem (t : TypeTable) (base : List Char) : Prop where
  /-- It is spelled normally, with stars or without. -/
  spelled : ∀ n, normalizeChars (base ++ stars n) = base ++ stars n
  /-- With stars it has no line in the table. -/
  apart : ∀ n, t.entry? (String.ofList (base ++ stars (n + 1))) = none
  /-- It is no function pointer. -/
  plain : '(' ∉ base

namespace IsStem

variable {base : List Char} (h : t.IsStem base)
include h

theorem shape_stars (n : Nat) :
    t.shape (base ++ stars (n + 1)) = .pointer (base ++ stars n) := by
  have hcall : (base ++ stars (n + 1)).contains '(' = false := by
    rw [← Bool.not_eq_true, List.contains_iff_mem, List.mem_append]
    rintro (hmem | hmem)
    · exact h.plain hmem
    · exact absurd (List.eq_of_mem_replicate hmem) (by decide)
  have hlast : (base ++ stars (n + 1)).getLast? = some '*' := by
    rw [stars_succ, ← List.append_assoc, List.getLast?_concat]
  have htarget : pointee (base ++ stars (n + 1)) = base ++ stars n := by
    unfold pointee
    rw [hlast, if_neg (by decide), stars_succ, ← List.append_assoc, List.dropLast_concat]
  unfold shape
  rw [h.apart, hcall, hlast, htarget]
  rfl

/-- Every star takes two places. -/
theorem depth_stars (n : Nat) : t.depth (base ++ stars n) = t.depth base + 2 * n := by
  induction n with
  | zero =>
    rw [show stars 0 = [] from rfl, List.append_nil]
    rfl
  | succ n ih =>
    have hdepth : t.depth (base ++ stars (n + 1)) = t.depth (base ++ stars n) + 2 := by
      rw [depth_eq, h.spelled, h.shape_stars]
    rw [hdepth, ih]
    omega

/-- A star is a pointer to what stands before it. -/
theorem describe_stars (n : Nat) :
    t.describe index (base ++ stars (n + 1)) =
      pointTo (base ++ stars (n + 1)) (t.describe index (base ++ stars n)) := by
  rw [describe_eq, h.spelled, h.shape_stars]

end IsStem

end Bindery.TypeTable
