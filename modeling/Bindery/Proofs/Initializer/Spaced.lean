import Bindery.Initializer.Meaning
import Bindery.Proofs.Initializer.Constant
import Bindery.Proofs.Naming.Names

/-!
# Rules on texts of symbols

A rule that respells texts respells a text of symbols and gaps symbol by symbol: none of them
reaches over the end of a symbol. For the rules on words this is so because numerals and names are
whole words of a text, and what stands next to them is a gap or a mark. Slashes are doubled one by
one, and the rules on quotes and on scopes do nothing where there are no quotes and no colons.
-/

namespace Bindery.Text

/-- A character that is in no word is kept. -/
theorem mapWords_cons_of_not_isWord {f : List Char → List Char} {c : Char} (h : isWord c = false)
    (cs : List Char) : mapWords f (c :: cs) = c :: mapWords f cs := by
  simp [mapWords, mapWords.go, h]

/-- A text without words is kept. -/
theorem mapWords_append_of_not_isWord {f : List Char → List Char} {ws : List Char}
    (h : ∀ c ∈ ws, isWord c = false) (cs : List Char) :
    mapWords f (ws ++ cs) = ws ++ mapWords f cs := by
  induction ws with
  | nil => rfl
  | cons c ws ih =>
    rw [List.cons_append, mapWords_cons_of_not_isWord (h c (List.mem_cons_self ..)),
      ih fun d hd => h d (List.mem_cons_of_mem _ hd), List.cons_append]

theorem mapWords_go_append {f : List Char → List Char} {word cs rest : List Char}
    (hne : word ≠ [] ∨ cs ≠ []) (hcs : ∀ c ∈ cs, isWord c = true)
    (hrest : ∀ c ∈ rest.head?, isWord c = false) :
    mapWords.go f word (cs ++ rest) = f (word.reverse ++ cs) ++ mapWords.go f [] rest := by
  induction cs generalizing word with
  | nil =>
    have hw : word ≠ [] := hne.resolve_right fun h => h rfl
    cases rest with
    | nil => simp [mapWords.go, hw]
    | cons d rest =>
      have hd : isWord d = false := hrest d rfl
      simp [mapWords.go, hd, hw]
  | cons c cs ih =>
    have hc : isWord c = true := hcs c (List.mem_cons_self ..)
    rw [List.cons_append, mapWords.go, if_pos hc,
      ih (.inl (List.cons_ne_nil _ _)) fun d hd => hcs d (List.mem_cons_of_mem _ hd)]
    simp

/-- A word is replaced as a whole, whatever follows it. -/
theorem mapWords_append {f : List Char → List Char} {word rest : List Char} (hne : word ≠ [])
    (hword : ∀ c ∈ word, isWord c = true) (hrest : ∀ c ∈ rest.head?, isWord c = false) :
    mapWords f (word ++ rest) = f word ++ mapWords f rest :=
  mapWords_go_append (.inr hne) hword hrest

/-- A text that does not end with a blank. -/
theorem stripEnd_of_last {cs : List Char} (h : ∀ c ∈ cs.getLast?, isBlank c = false) :
    stripEnd cs = cs := by
  obtain rfl | ⟨ds, d, rfl⟩ := List.eq_nil_or_concat cs
  · rfl
  · have hd : isBlank d = false := h d (by simp)
    simp [stripEnd, dropWhileEnd, hd]

/-- A text that neither begins nor ends with a blank. -/
theorem strip_of_ends {cs : List Char} (hhead : ∀ c ∈ cs.head?, isBlank c = false)
    (hlast : ∀ c ∈ cs.getLast?, isBlank c = false) : strip cs = cs := by
  have hstart : stripStart cs = cs := by
    cases cs with
    | nil => rfl
    | cons c cs => exact List.dropWhile_cons_of_neg (by simp [hhead c rfl])
  rw [strip, hstart, stripEnd_of_last hlast]

end Bindery.Text

namespace Bindery.Initializer

open Bindery.Text

/-- What holds of the characters in a list is decided on the list, not on all characters. -/
scoped instance (priority := 2000) decidableForallMem (cs : List Char) (p : Char → Prop)
    [DecidablePred p] : Decidable (∀ c ∈ cs, p c) :=
  List.decidableBAll p cs

/-! ### Texts without what is respelled -/

theorem joinScopes_of_not_mem {cs : List Char} (h : ':' ∉ cs) : joinScopes cs = cs := by
  fun_induction joinScopes cs with
  | case1 => rfl
  | case2 => exact absurd (List.mem_cons_self ..) h
  | case3 c cs _ ih => rw [ih fun hc => h (List.mem_cons_of_mem _ hc)]

/-- A name that can be used has no scopes. -/
theorem joinScopes_of_isValid {n : String} (h : Naming.isValid n = true) :
    String.ofList (joinScopes n.toList) = n := by
  have hcolon : ':' ∉ n.toList := by
    intro hmem
    have hname := List.all_eq_true.1 (Naming.isValid_iff.1 h).2.1 _ hmem
    exact absurd hname (by decide)
  rw [joinScopes_of_not_mem hcolon, String.ofList_toList]

theorem doubleSlashes_append (cs ds : List Char) :
    doubleSlashes (cs ++ ds) = doubleSlashes cs ++ doubleSlashes ds :=
  List.flatMap_append

theorem doubleSlashes_of_not_mem {cs : List Char} (h : '/' ∉ cs) : doubleSlashes cs = cs := by
  induction cs with
  | nil => rfl
  | cons c cs ih =>
    have hc : c ≠ '/' := fun hc => h (hc ▸ List.mem_cons_self ..)
    have hcs := ih fun hd => h (List.mem_cons_of_mem _ hd)
    unfold doubleSlashes at hcs ⊢
    rw [List.flatMap_cons, if_neg hc, hcs]
    rfl

theorem respellQuoted_cons_of_ne {c : Char} (h : c ≠ '\'') (cs : List Char) :
    respellQuoted (c :: cs) = c :: respellQuoted cs := by
  rw [respellQuoted]
  · exact fun _ _ hc => absurd hc h
  · exact fun _ _ hc => absurd hc h

/-- A text without quotes is kept, whatever follows it. -/
theorem respellQuoted_append {cs : List Char} (h : '\'' ∉ cs) (rest : List Char) :
    respellQuoted (cs ++ rest) = cs ++ respellQuoted rest := by
  induction cs with
  | nil => rfl
  | cons c cs ih =>
    have hc : c ≠ '\'' := fun hc => h (hc ▸ List.mem_cons_self ..)
    rw [List.cons_append, respellQuoted_cons_of_ne hc,
      ih fun hd => h (List.mem_cons_of_mem _ hd), List.cons_append]

/-! ### Characters of expressions -/

/-- The characters of names are those of ASCII words. -/
theorem toNat_lt_of_isNameChar {c : Char} (h : Naming.isNameChar c = true) : c.toNat < 128 := by
  simp only [Naming.isNameChar, isAsciiLetter, isAsciiDigit, Bool.or_eq_true, Bool.and_eq_true,
    decide_eq_true_eq, beq_iff_eq, Char.le_def, UInt32.le_iff_toNat_le] at h
  obtain ((⟨-, h⟩ | ⟨-, h⟩) | ⟨-, h⟩) | rfl := h
  · exact Nat.lt_of_le_of_lt h (by decide)
  · exact Nat.lt_of_le_of_lt h (by decide)
  · exact Nat.lt_of_le_of_lt h (by decide)
  · decide

theorem isWord_of_isNameChar {c : Char} (h : Naming.isNameChar c = true) : isWord c = true := by
  rw [isWord, if_pos (toNat_lt_of_isNameChar h)]
  exact h

/-- Whether a character is one of those that parentheses, signs and operators are written with. -/
def isMark (c : Char) : Bool :=
  "()+-~*/%<>&^|".toList.contains c

/-- What holds of every one of those characters holds of a mark. -/
theorem of_isMark {p : Char → Bool} (hall : ∀ c ∈ "()+-~*/%<>&^|".toList, p c = true) {c : Char}
    (h : isMark c = true) : p c = true :=
  hall c (List.contains_iff_mem.1 h)

/-- What holds of every blank and every line end holds of a gap. -/
theorem of_isGap {p : Char → Bool} (hall : ∀ c ∈ " \t\x0c\n\r\x0b".toList, p c = true) {c : Char}
    (h : isGap c = true) : p c = true := by
  simp only [isGap, isSpacing, Bool.or_eq_true, beq_iff_eq] at h
  obtain ((((rfl | rfl) | rfl) | rfl) | rfl) | rfl := h <;> exact hall _ (by decide)

theorem isGap_of_isSpacing {c : Char} (h : isSpacing c = true) : isGap c = true := by
  rw [isGap, h]
  rfl

theorem isWord_of_isMark {c : Char} (h : isMark c = true) : Text.isWord c = false := by
  simpa using of_isMark (p := fun c => !Text.isWord c) (by decide) h

theorem isWord_of_isGap {c : Char} (h : isGap c = true) : Text.isWord c = false := by
  simpa using of_isGap (p := fun c => !Text.isWord c) (by decide) h

theorem isBlank_of_isMark {c : Char} (h : isMark c = true) : isBlank c = false := by
  simpa using of_isMark (p := fun c => !isBlank c) (by decide) h

theorem isBlank_of_isNameChar {c : Char} (h : Naming.isNameChar c = true) : isBlank c = false := by
  have hall : ∀ n < 128, Naming.isNameChar (Char.ofNat n) = true →
      isBlank (Char.ofNat n) = false := by decide
  have hc := hall c.toNat (toNat_lt_of_isNameChar h)
  rw [Char.ofNat_toNat] at hc
  exact hc h

/-- Whether a character can stand in a constant expression without quotes. -/
def isPlain (c : Char) : Bool :=
  Naming.isNameChar c || isGap c || isMark c

/-- A character that cannot stand there is not in a text of those that can. -/
theorem not_mem_of_isPlain {c : Char} (hc : isPlain c = false) {cs : List Char}
    (hcs : ∀ c ∈ cs, isPlain c = true) : c ∉ cs := by
  intro hmem
  rw [hcs c hmem] at hc
  cases hc

/-! ### Spellings -/

namespace Symbol

/-- Whether a symbol is a numeral or a name. -/
def isWord : Symbol → Bool
  | numeral _ | name _ => true
  | opening | closing | sign _ | operator _ => false

theorem begins_of_isWord {s : Symbol} (h : s.isWord = true) : s.begins = true := by
  cases s <;> first | rfl | cases h

theorem ends_of_isWord {s : Symbol} (h : s.isWord = true) : s.ends = true := by
  cases s <;> first | rfl | cases h

/-- No word stands next to another one. -/
theorem Joins.isWord_eq_false {s s' : Symbol} (h : s.Joins s') (hs : s.isWord = true) :
    s'.isWord = false := by
  rw [Joins, ends_of_isWord hs] at h
  rw [← Bool.not_eq_true]
  intro hs'
  rw [begins_of_isWord hs'] at h
  cases h

end Symbol

/-- A way to spell symbols in which numerals and names are words, and all others have no words. -/
structure Parted (spell : Symbol → List Char) : Prop where
  /-- Every symbol has a character. -/
  ne_nil : ∀ s, spell s ≠ []
  /-- Numerals and names are words of ASCII. -/
  word : ∀ s : Symbol, s.isWord = true → ∀ c ∈ spell s, Naming.isNameChar c = true
  /-- Other symbols are spelled with marks. -/
  mark : ∀ s : Symbol, s.isWord = false → ∀ c ∈ spell s, isMark c = true

namespace Parted

variable {spell : Symbol → List Char}

theorem isBlank (h : Parted spell) (s : Symbol) : ∀ c ∈ spell s, isBlank c = false := by
  intro c hc
  cases hs : s.isWord with
  | true => exact isBlank_of_isNameChar (h.word s hs c hc)
  | false => exact isBlank_of_isMark (h.mark s hs c hc)

theorem isPlain (h : Parted spell) (s : Symbol) : ∀ c ∈ spell s, isPlain c = true := by
  intro c hc
  unfold Initializer.isPlain
  cases hs : s.isWord with
  | true => rw [h.word s hs c hc]; rfl
  | false => rw [h.mark s hs c hc, Bool.or_true]

end Parted

namespace Spaced

variable {gap : Char → Bool} {spell : Symbol → List Char} {ss : List Symbol} {cs : List Char}

theorem isPlain (h : Spaced gap spell ss cs) (hgap : ∀ c, gap c = true → isGap c = true)
    (hs : Parted spell) : ∀ c ∈ cs, isPlain c = true := by
  refine h.forall_mem (fun s _ => hs.isPlain s) fun c hc => ?_
  unfold Initializer.isPlain
  rw [hgap c hc, Bool.or_true, Bool.true_or]

/-- No blank stands at either end of a text. -/
theorem strip_eq (h : Spaced gap spell ss cs) (hne : ∀ s, spell s ≠ [])
    (hhead : ∀ s, ∀ c ∈ (spell s).head?, isBlank c = false)
    (hlast : ∀ s, ∀ c ∈ (spell s).getLast?, isBlank c = false) : strip cs = cs := by
  refine strip_of_ends (fun c hc => ?_) fun c hc => ?_
  · obtain ⟨s, ss, rfl⟩ := h.exists_eq_cons
    obtain ⟨rest, rfl⟩ := h.exists_eq_append
    rw [List.head?_append_of_ne_nil _ (hne s)] at hc
    exact hhead s c hc
  · obtain ⟨ds, s, rfl⟩ := h.exists_eq_concat
    rw [List.getLast?_append_of_ne_nil _ (hne s)] at hc
    exact hlast s c hc

/-- A rule on words changes numerals and names, each by itself, and nothing else. -/
theorem mapWords {f : List Char → List Char} (h : Spaced gap spell ss cs)
    (hgap : ∀ c, gap c = true → isGap c = true) (hs : Parted spell)
    (hss : ss.IsChain Symbol.Joins) :
    Spaced gap (fun s => if s.isWord then f (spell s) else spell s) ss (Text.mapWords f cs) := by
  have hmark (s : Symbol) (hw : s.isWord = false) : ∀ c ∈ spell s, Text.isWord c = false :=
    fun c hc => isWord_of_isMark (hs.mark s hw c hc)
  have hword (s : Symbol) (hw : s.isWord = true) : ∀ c ∈ spell s, Text.isWord c = true :=
    fun c hc => isWord_of_isNameChar (hs.word s hw c hc)
  have hsymbol (s : Symbol) (rest : List Char)
      (hrest : s.isWord = true → ∀ c ∈ rest.head?, Text.isWord c = false) :
      Text.mapWords f (spell s ++ rest) =
        (if s.isWord then f (spell s) else spell s) ++ Text.mapWords f rest := by
    cases hw : s.isWord with
    | true =>
      exact mapWords_append (hs.ne_nil s) (hword s hw) (hrest hw)
    | false =>
      exact mapWords_append_of_not_isWord (hmark s hw) rest
  induction h with
  | last s =>
    have h := hsymbol s [] fun _ c hc => nomatch hc
    rw [List.append_nil] at h
    rw [h]
    exact (List.append_nil _).symm ▸ .last s
  | @more s blanks hblanks ss cs h ih =>
    have hspaced := ih hss.tail
    have hgaps : ∀ c ∈ blanks, Text.isWord c = false :=
      fun c hc => isWord_of_isGap (hgap c (hblanks c hc))
    rw [hsymbol s _, mapWords_append_of_not_isWord hgaps]
    · exact .more s hblanks hspaced
    intro hw c hc
    cases blanks with
    | cons b _ =>
      obtain rfl : b = c := Option.some.inj hc
      exact hgaps b (List.mem_cons_self ..)
    | nil =>
      obtain ⟨s', ss, rfl⟩ := h.exists_eq_cons
      obtain ⟨rest, rfl⟩ := h.exists_eq_append
      have hw' := (List.isChain_cons_cons.1 hss).1.isWord_eq_false hw
      rw [List.nil_append, List.head?_append_of_ne_nil _ (hs.ne_nil s')] at hc
      exact hmark s' hw' c (List.mem_of_mem_head? hc)

/-- Doubling slashes changes symbols, each by itself, and no gap. -/
theorem doubleSlashes (h : Spaced gap spell ss cs) (hgap : ∀ c, gap c = true → isGap c = true) :
    Spaced gap (fun s => Initializer.doubleSlashes (spell s)) ss
      (Initializer.doubleSlashes cs) := by
  induction h with
  | last s => exact .last s
  | @more s blanks hblanks ss cs _ ih =>
    have hslash : '/' ∉ blanks := fun hmem => absurd (hgap _ (hblanks _ hmem)) (by decide)
    rw [doubleSlashes_append, doubleSlashes_append, doubleSlashes_of_not_mem hslash]
    exact .more s hblanks ih

end Spaced

end Bindery.Initializer
