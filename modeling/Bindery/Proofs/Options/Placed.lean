import Bindery.Proofs.Options.Checked
import Bindery.Transform.Selector

/-!
# Where the paths of a configuration stand

A relative path of a configuration is to stand at its directory: it becomes the path that both lead
to, written without detours. The paths of lists always do. The output directory and the transform do
where they look like paths, so a single name stays what it is, with a selector behind it or without;
spelled with a slash it is read at the directory. A Python file keeps the selector that is written
behind it.
-/

namespace Bindery

namespace Path

/-! ### Written paths -/

/-- The place that a name leads to from a place below the root. -/
def stepTo (place : List String) (name : String) : List String :=
  if name = "" ∨ name = "." then place
  else if name = ".." then place.dropLast
  else place ++ [name]

/-- The place below the root that a written path leads to. -/
def reached (text : String) : List String :=
  ((text.toList.splitOn '/').map String.ofList).foldl stepTo []

/-- A written path as it is written without detours. -/
def normalized (text : String) : String :=
  "/" ++ "/".intercalate (reached text)

theorem slashPieces_cons_of_ne {c : Char} (h : c ≠ '/') (cs : List Char) :
    slashPieces (c :: cs) = (slashPieces cs).modifyHead (c :: ·) := by
  have hne : slashPieces cs ≠ [] := by
    unfold slashPieces
    split <;> first | exact List.cons_ne_nil _ _ | skip
    split <;> exact List.cons_ne_nil _ _
  obtain ⟨piece, pieces, hpieces⟩ := List.exists_cons_of_ne_nil hne
  rw [slashPieces.eq_3 c cs (fun heq => h heq), hpieces]
  rfl

theorem slashPieces_eq_splitOn (cs : List Char) : slashPieces cs = cs.splitOn '/' := by
  induction cs with
  | nil => rfl
  | cons c cs ih =>
    rw [List.splitOn_cons_eq_if_modifyHead, ← ih]
    by_cases h : c = '/'
    · subst h
      rfl
    · rw [slashPieces_cons_of_ne h, if_neg (by simpa using h)]

/-- Every upward step is taken from the place where it is met. -/
theorem collapse_eq_foldl (parts : List String) : collapse parts =
    parts.foldl (fun place p => if p = ".." then place.dropLast else place ++ [p]) [] := by
  have hreverse (done : List String) : (parts.foldl (fun done p =>
      if p = ".." then done.tail else p :: done) done).reverse = parts.foldl (fun place p =>
        if p = ".." then place.dropLast else place ++ [p]) done.reverse := by
    induction parts generalizing done with
    | nil => rfl
    | cons p parts ih =>
      rw [List.foldl_cons, List.foldl_cons, ih]
      split <;> simp
  exact hreverse []

/-- The names of a path that is read lead to where its pieces lead. -/
theorem foldl_parts_ofText (text : String) (place : List String) :
    (ofText text).parts.foldl (fun place p => if p = ".." then place.dropLast else place ++ [p])
      place = ((text.toList.splitOn '/').map String.ofList).foldl stepTo place := by
  unfold ofText
  simp only [slashPieces_eq_splitOn, List.foldl_map, List.foldl_filter]
  congr 1
  funext place p
  have hskipped : (String.ofList p = "" ∨ String.ofList p = ".") ↔ ¬(p ≠ [] ∧ p ≠ ['.']) := by
    rw [← String.toList_inj, ← String.toList_inj, String.toList_ofList,
      Classical.not_and_iff_not_or_not, Classical.not_not, Classical.not_not]
    rfl
  unfold stepTo
  by_cases h : p ≠ [] ∧ p ≠ ['.']
  · rw [if_pos (by simpa using h), if_neg (mt hskipped.1 (not_not_intro h))]
  · rw [if_neg (by simpa using h), if_pos (hskipped.2 h)]

theorem rootOf_eq_relative_iff (cs : List Char) :
    rootOf cs = .relative ↔ cs.head? ≠ some '/' := by
  cases cs with
  | nil => simp [rootOf]
  | cons c cs =>
    unfold rootOf
    split <;> simp_all

theorem isAbsolute_ofText (text : String) :
    (ofText text).isAbsolute = true ↔ text.toList.head? = some '/' := by
  have hroot : (ofText text).isAbsolute = true ↔ rootOf text.toList ≠ .relative :=
    decide_eq_true_iff
  rw [hroot, Ne, rootOf_eq_relative_iff, Classical.not_not]

theorem reached_append (text more : String) : reached (text ++ "/" ++ more) =
    ((more.toList.splitOn '/').map String.ofList).foldl stepTo (reached text) := by
  have hpieces : (text ++ "/" ++ more).toList.splitOn '/' =
      text.toList.splitOn '/' ++ more.toList.splitOn '/' := by
    rw [String.toList_append, String.toList_append, List.append_assoc]
    exact List.splitOn_append_cons_self _ _
  unfold reached
  rw [hpieces, List.map_append, List.foldl_append]

/-- A path that is read at an absolute one leads there by the written path of both. -/
theorem text_resolve (here : Path) {base text : String} (hbase : (ofText base).isAbsolute = true)
    (htext : (ofText text).isAbsolute = false) :
    (resolve here ((ofText base).join (ofText text))).text = normalized (base ++ "/" ++ text) := by
  have hjoin : (ofText base).join (ofText text) =
      ⟨(ofText base).root, (ofText base).parts ++ (ofText text).parts⟩ := by
    unfold join
    rw [htext, if_neg Bool.false_ne_true]
  have hresolve : here.join ((ofText base).join (ofText text)) =
      (ofText base).join (ofText text) := by
    rw [hjoin]
    exact if_pos hbase
  unfold resolve normalized
  rw [hresolve, hjoin, reached_append, collapse_eq_foldl, List.foldl_append, foldl_parts_ofText,
    foldl_parts_ofText]
  rfl

/-! ### The last name of a path -/

/-- What is written before the last name of a text, and this name. -/
theorem exists_last_name (cs : List Char) : ∃ start last, cs = start ++ last ∧ '/' ∉ last ∧
    (start = [] ∨ ∃ way, start = way ++ ['/']) := by
  by_cases h : '/' ∈ cs
  · obtain ⟨last, way, hcs, hlast⟩ := List.eq_append_cons_of_mem (List.mem_reverse.2 h)
    refine ⟨way.reverse ++ ['/'], last.reverse, ?_, by simpa using hlast, .inr ⟨_, rfl⟩⟩
    rw [← List.reverse_reverse cs, hcs]
    simp
  · exact ⟨[], cs, rfl, h, .inl rfl⟩

/-- What is written before the last name of a path. -/
def front (text : String) : String :=
  if reached text = [] then "" else normalized text

theorem normalized_name {text name : String} (hslash : '/' ∉ name.toList)
    (hname : name ≠ "" ∧ name ≠ "." ∧ name ≠ "..") :
    normalized (text ++ "/" ++ name) = front text ++ "/" ++ name := by
  obtain ⟨hempty, hdot, hup⟩ := hname
  have hreached : reached (text ++ "/" ++ name) = reached text ++ [name] := by
    rw [reached_append, List.splitOn_eq_singleton hslash]
    simp [stepTo, hempty, hdot, hup]
  unfold front normalized
  rw [hreached]
  by_cases h : reached text = []
  · rw [if_pos h, h]
    simp
  · rw [if_neg h, String.intercalate_append_of_ne_nil h (List.cons_ne_nil _ _)]
    simp [String.append_assoc]

/-- The last name of a text is the last name of the path it leads to, if it ends in a way that is
no detour. -/
theorem exists_normalized_append (base stem : String) : ∃ start place last : String,
    stem = start ++ last ∧ '/' ∉ last.toList ∧ (start = "" ∨ ∃ way, start = way ++ "/") ∧
      ∀ ending : String, '/' ∉ ending.toList → 2 < ending.length →
        normalized (base ++ "/" ++ (stem ++ ending)) = place ++ "/" ++ (last ++ ending) := by
  obtain ⟨start, last, hstem, hlast, hstart⟩ := exists_last_name stem.toList
  have hsplit : stem = String.ofList start ++ String.ofList last := by
    rw [← String.toList_inj, String.toList_append, String.toList_ofList, String.toList_ofList,
      hstem]
  have hname (ending : String) (hslash : '/' ∉ ending.toList) (hlong : 2 < ending.length) :
      '/' ∉ (String.ofList last ++ ending).toList ∧ String.ofList last ++ ending ≠ "" ∧
        String.ofList last ++ ending ≠ "." ∧ String.ofList last ++ ending ≠ ".." := by
    have hlength : 2 < (String.ofList last ++ ending).length := by
      rw [String.length_append]
      omega
    refine ⟨by simp [hlast, hslash], ?_, ?_, ?_⟩ <;>
      · intro h
        rw [h] at hlength
        exact absurd hlength (by decide)
  rcases hstart with rfl | ⟨way, rfl⟩
  · refine ⟨"", front base, String.ofList last, hsplit, by simpa using hlast, .inl rfl, ?_⟩
    intro ending hslash hlong
    obtain ⟨hslash', hname'⟩ := hname ending hslash hlong
    rw [← normalized_name hslash' hname', hsplit]
    rfl
  · refine ⟨String.ofList (way ++ ['/']), front (base ++ "/" ++ String.ofList way),
      String.ofList last, hsplit, by simpa using hlast, .inr ⟨String.ofList way, ?_⟩, ?_⟩
    · exact String.ofList_append
    intro ending hslash hlong
    obtain ⟨hslash', hname'⟩ := hname ending hslash hlong
    rw [← normalized_name hslash' hname', hsplit, String.ofList_append]
    simp only [String.append_assoc]

end Path

namespace Selector

/-! ### Names behind a colon -/

/-- A text can be a name behind a colon. -/
def IsName (name : String) : Prop :=
  name ≠ "" ∧ ∀ c ∈ [':', '/', '\\'], c ∉ name.toList

instance (name : String) : Decidable (IsName name) :=
  @instDecidableAnd _ _ inferInstance (List.decidableBAll _ _)

variable {target target' name name' : String}

/-- What is behind the last colon. -/
theorem behind_colon (target : List Char) {name : List Char} (h : ':' ∉ name) :
    ((target ++ ':' :: name).reverse.takeWhile (· ≠ ':')).reverse = name := by
  rw [List.reverse_append, List.reverse_cons, List.append_assoc, List.takeWhile_append_of_pos]
  · simp
  · exact fun c hc => decide_eq_true fun heq => h (heq ▸ List.mem_reverse.1 hc)

theorem ofText_colon (h : IsName name) : ofText (target ++ ":" ++ name) =
    if target.length ≤ 1 then ⟨target ++ ":" ++ name, none⟩ else ⟨target, some name⟩ := by
  obtain ⟨hempty, hfree⟩ := h
  have hcolon : ':' ∉ name.toList := hfree ':' (by decide)
  have hslash : '/' ∉ name.toList := hfree '/' (by decide)
  have hback : '\\' ∉ name.toList := hfree '\\' (by decide)
  have hchars : (target ++ ":" ++ name).toList = target.toList ++ ':' :: name.toList := by
    simp
  have hname := behind_colon target.toList hcolon
  have htarget : (target.toList ++ ':' :: name.toList).take
      ((target.toList ++ ':' :: name.toList).length - name.toList.length - 1) = target.toList := by
    have hlength : (target.toList ++ ':' :: name.toList).length - name.toList.length - 1 =
        target.toList.length := by
      rw [List.length_append, List.length_cons]
      omega
    rw [hlength, List.take_left]
  have hnonempty : name.toList.isEmpty = false :=
    List.isEmpty_eq_false_iff.2 (mt String.toList_eq_nil_iff.1 hempty)
  have hcontains : (target.toList ++ ':' :: name.toList).contains ':' = true := by
    simp
  have hfree : name.toList.contains '/' = false ∧ name.toList.contains '\\' = false := by
    simp [hslash, hback]
  unfold ofText ofChars
  rw [hchars]
  simp only [hname, htarget, hnonempty, hcontains, hfree]
  rw [← hchars, String.ofList_toList, String.ofList_toList, String.ofList_toList,
    String.length_toList]
  by_cases hlong : target.length ≤ 1 <;> simp [hlong]

/-- Where no colon has a name behind it, no name is given. -/
theorem name_ofText_of_not {text : String}
    (h : ∀ target name, IsName name → text ≠ target ++ ":" ++ name) :
    (ofText text).name = none := by
  by_cases hcolon : ':' ∈ text.toList
  · obtain ⟨name, target, htext, hlast⟩ := List.eq_append_cons_of_mem (List.mem_reverse.2 hcolon)
    have hchars : text.toList = target.reverse ++ ':' :: name.reverse := by
      rw [← List.reverse_reverse text.toList, htext]
      simp
    have hsplit : text = String.ofList target.reverse ++ ":" ++ String.ofList name.reverse := by
      rw [← String.toList_inj, hchars]
      simp
    have hno : ¬ IsName (String.ofList name.reverse) := fun hname => h _ _ hname hsplit
    have hlast : ':' ∉ name.reverse := mt List.mem_reverse.1 hlast
    unfold ofText ofChars
    rw [hchars]
    simp only [behind_colon target.reverse hlast]
    rw [if_pos ?_]
    by_contra hnot
    simp only [Bool.or_eq_true, not_or, Bool.not_eq_true] at hnot
    obtain ⟨⟨⟨-, hempty⟩, hslash⟩, hback⟩ := hnot
    refine hno ⟨fun hnil => ?_, ?_⟩
    · rw [← String.toList_inj, String.toList_ofList] at hnil
      rw [hnil] at hempty
      cases hempty
    · rw [String.toList_ofList]
      intro c hc
      simp only [List.mem_cons, List.not_mem_nil, or_false] at hc
      rcases hc with rfl | rfl | rfl
      · exact hlast
      · simpa using hslash
      · simpa using hback
  · unfold ofText ofChars
    simp [hcolon]

/-- The last colon is the same. -/
theorem colon_inj (h : IsName name) (h' : IsName name')
    (heq : target ++ ":" ++ name = target' ++ ":" ++ name') : target = target' ∧ name = name' := by
  have hcolon : ':' ∉ name.toList := h.2 ':' (by decide)
  have hcolon' : ':' ∉ name'.toList := h'.2 ':' (by decide)
  have hchars : target.toList ++ ':' :: name.toList = target'.toList ++ ':' :: name'.toList := by
    simpa using congrArg String.toList heq
  have hname : name.toList = name'.toList := by
    rw [← behind_colon target.toList hcolon, hchars, behind_colon target'.toList hcolon']
  rw [hname] at hchars
  exact ⟨String.toList_inj.1 (List.append_cancel_right hchars), String.toList_inj.1 hname⟩

/-- Two texts with the same names behind colons give the same name exactly if what is before the
colon is a drive in both or in none. -/
theorem name_ofText_eq_iff {text text' : String}
    (h : ∀ name, IsName name →
      ((∃ target, text = target ++ ":" ++ name) ↔ ∃ target, text' = target ++ ":" ++ name)) :
    (ofText text').name = (ofText text).name ↔ ∀ target target' name, IsName name →
      text = target ++ ":" ++ name → text' = target' ++ ":" ++ name →
        (target.length ≤ 1 ↔ target'.length ≤ 1) := by
  by_cases hnamed : ∃ target name, IsName name ∧ text = target ++ ":" ++ name
  · obtain ⟨target, name, hname, rfl⟩ := hnamed
    obtain ⟨target', rfl⟩ := (h name hname).1 ⟨target, rfl⟩
    rw [ofText_colon hname, ofText_colon hname]
    constructor
    · intro heq other other' name' hname' htext htext'
      obtain ⟨rfl, rfl⟩ := colon_inj hname hname' htext
      obtain ⟨rfl, -⟩ := colon_inj hname hname' htext'
      by_cases h : target.length ≤ 1 <;> by_cases h' : target'.length ≤ 1
      · exact iff_of_true h h'
      · rw [if_pos h, if_neg h'] at heq
        cases heq
      · rw [if_neg h, if_pos h'] at heq
        cases heq
      · exact iff_of_false h h'
    · intro hlong
      have hlong := hlong target target' name hname rfl rfl
      by_cases h : target.length ≤ 1
      · rw [if_pos h, if_pos (hlong.1 h)]
      · rw [if_neg h, if_neg (mt hlong.2 h)]
  · have hnone : ∀ target name, IsName name → text ≠ target ++ ":" ++ name :=
      fun target name hname heq => hnamed ⟨target, name, hname, heq⟩
    have hnone' : ∀ target name, IsName name → text' ≠ target ++ ":" ++ name :=
      fun target name hname heq => (h name hname).2 ⟨target, heq⟩ |>.elim (hnone · name hname)
    rw [name_ofText_of_not hnone, name_ofText_of_not hnone']
    exact iff_of_true rfl fun target _ name hname heq => absurd heq (hnone target name hname)

/-- A name behind a colon is behind a colon of the last name of a path. -/
theorem colon_last_iff {start last : String} (hstart : start = "" ∨ ∃ way, start = way ++ "/")
    (hname : IsName name) : (∃ target, start ++ last = target ++ ":" ++ name) ↔
      ∃ target, last = target ++ ":" ++ name := by
  have hslash : '/' ∉ name.toList := hname.2 '/' (by decide)
  constructor
  · rintro ⟨target, heq⟩
    have hchars : start.toList ++ last.toList = target.toList ++ ':' :: name.toList := by
      simpa using congrArg String.toList heq
    have hsplit (before : List Char) (h : last.toList = before ++ ':' :: name.toList) :
        ∃ target, last = target ++ ":" ++ name := by
      refine ⟨String.ofList before, ?_⟩
      rw [← String.toList_inj, h]
      simp
    rcases List.append_eq_append_iff.1 hchars with ⟨before, -, h⟩ | ⟨behind, hbehind, h⟩
    · exact hsplit before h
    · by_cases hnil : behind = []
      · subst hnil
        exact hsplit [] h.symm
      -- A colon before the last name would have the slash before this name behind it.
      · exfalso
        rcases hstart with rfl | ⟨way, rfl⟩
        · exact hnil (List.append_eq_nil_iff.1 hbehind.symm).2
        · have hlast : ['/'] <:+ behind := by
            have hstart : ['/'] <:+ target.toList ++ behind := by
              rw [← hbehind, String.toList_append]
              exact List.suffix_append _ _
            exact List.suffix_of_suffix_length_le hstart (List.suffix_append _ _)
              (List.length_pos_iff.2 hnil)
          have hmem : '/' ∈ ':' :: name.toList := by
            rw [h]
            exact List.mem_append_left _ (hlast.subset (List.mem_singleton_self _))
          exact hslash (List.mem_of_ne_of_mem (by decide) hmem)
  · rintro ⟨target, rfl⟩
    exact ⟨start ++ target, by simp only [String.append_assoc]⟩

end Selector

namespace Options

variable {data : Fields} {base : String}

/-- A text that is not absolute is read at a directory as the written path of both. -/
theorem placed_eq (here : Path) {text : String} (hbase : (Path.ofText base).isAbsolute = true)
    (htext : (Path.ofText text).isAbsolute = false) :
    placed here (.ofText base) text = Path.normalized (base ++ "/" ++ text) := by
  unfold placed
  rw [htext, if_neg Bool.false_ne_true, Path.text_resolve here hbase htext]

theorem looksLikePath_iff {text : String} : looksLikePath text = true ↔
    ".py".toList <:+ text.toList ∨ '/' ∈ text.toList ∨ '\\' ∈ text.toList := by
  unfold looksLikePath
  simp [or_assoc]

/-- A selector behind a file adds nothing to what looks like a path but its own ending. -/
theorem looksLikePath_colon_iff {file name : String} (hname : Selector.IsName name) :
    looksLikePath (file ++ ":" ++ name) = true ↔
      '/' ∈ file.toList ∨ '\\' ∈ file.toList ∨ ".py".toList <:+ name.toList := by
  have hslash : '/' ∉ name.toList := hname.2 '/' (by decide)
  have hback : '\\' ∉ name.toList := hname.2 '\\' (by decide)
  have hchars : (file ++ ":" ++ name).toList = file.toList ++ ':' :: name.toList := by
    simp
  have hending : ".py".toList <:+ file.toList ++ ':' :: name.toList ↔
      ".py".toList <:+ name.toList := by
    refine ⟨fun h => ?_, fun h => h.trans ((List.suffix_cons _ _).trans (List.suffix_append _ _))⟩
    rcases List.suffix_or_suffix_of_suffix h (List.suffix_append file.toList (':' :: name.toList))
      with h | h
    · exact (List.suffix_cons_iff.1 h).resolve_left (by simp)
    · exact absurd (h.subset (List.mem_cons_self ..)) (by decide)
  rw [looksLikePath_iff, hchars, hending]
  simp only [List.mem_append, List.mem_cons, hslash, hback, or_false]
  constructor
  · rintro (h | h | h)
    · exact .inr (.inr h)
    · exact .inl (h.resolve_right (by decide))
    · exact .inr (.inl (h.resolve_right (by decide)))
  · rintro (h | h | h)
    · exact .inr (.inl (.inl h))
    · exact .inr (.inr (.inl h))
    · exact .inl h

/-- A relative path stays relative, whatever is behind it. -/
theorem isAbsolute_append {text more : String} (hempty : text ≠ "")
    (htext : (Path.ofText text).isAbsolute = false) :
    (Path.ofText (text ++ more)).isAbsolute = false := by
  rw [← Bool.not_eq_true, Path.isAbsolute_ofText] at htext ⊢
  rwa [String.toList_append, List.head?_append_of_ne_nil _ (mt String.toList_eq_nil_iff.1 hempty)]

/-- Of what is absolute only the root is as short as a drive. -/
theorem length_le_one_iff {target name : String}
    (h : (target ++ ":" ++ name).toList.head? = some '/') :
    target.length ≤ 1 ↔ target ++ ":" ++ name = "/:" ++ name := by
  constructor
  · intro hshort
    have htarget : target = "/" := by
      rw [← String.length_toList] at hshort
      rw [← String.toList_inj]
      match hchars : target.toList, hshort with
      | [], _ => simp [hchars] at h
      | [c], _ => simpa [hchars] using h
    rw [htarget]
    rfl
  · intro heq
    have hlength := congrArg String.length heq
    rw [String.length_append, String.length_append, String.length_append] at hlength
    have hcolon : ":".length = 1 ∧ "/:".length = 2 := ⟨rfl, rfl⟩
    omega

theorem head?_normalized (text : String) : (Path.normalized text).toList.head? = some '/' := by
  unfold Path.normalized
  rw [String.toList_append]
  rfl

/-- A Python file is named by the same name behind its colon wherever it is, unless it looks like a
drive. -/
theorem name_normalized_iff {stem : String}
    (hrelative : (Path.ofText (stem ++ ".py")).isAbsolute = false) :
    (Selector.ofText (Path.normalized (base ++ "/" ++ (stem ++ ".py")))).name =
        (Selector.ofText (stem ++ ".py")).name ↔
      ∀ target name, Selector.IsName name → stem ++ ".py" = target ++ ":" ++ name →
        (target.length ≤ 1 ↔
          Path.normalized (base ++ "/" ++ (stem ++ ".py")) = "/:" ++ name) := by
  obtain ⟨start, place, last, rfl, hlast, hstart, hplaced⟩ :=
    Path.exists_normalized_append base stem
  have hfile := hplaced ".py" (by decide) (by decide)
  have hhead := head?_normalized (base ++ "/" ++ (start ++ last ++ ".py"))
  have hsame (name : String) (hname : Selector.IsName name) :
      (∃ target, start ++ last ++ ".py" = target ++ ":" ++ name) ↔
        ∃ target, Path.normalized (base ++ "/" ++ (start ++ last ++ ".py")) =
          target ++ ":" ++ name := by
    rw [hfile, String.append_assoc, Selector.colon_last_iff hstart hname,
      Selector.colon_last_iff (.inr ⟨place, rfl⟩) hname]
  rw [Selector.name_ofText_eq_iff hsame]
  constructor
  · intro h target name hname htarget
    obtain ⟨target', htarget'⟩ := (hsame name hname).1 ⟨target, htarget⟩
    rw [h target target' name hname htarget htarget', htarget',
      length_le_one_iff (htarget' ▸ hhead)]
  · intro h target target' name hname htarget htarget'
    rw [h target name hname htarget, htarget', length_le_one_iff (htarget' ▸ hhead)]

/-- A Python file with a selector is the file at the directory with the same selector. -/
theorem normalized_colon {stem name : String} (hname : Selector.IsName name) :
    Path.normalized (base ++ "/" ++ (stem ++ ".py" ++ ":" ++ name)) =
      Path.normalized (base ++ "/" ++ (stem ++ ".py")) ++ ":" ++ name := by
  obtain ⟨start, place, last, rfl, hlast, hstart, hplaced⟩ :=
    Path.exists_normalized_append base stem
  have hslash : '/' ∉ name.toList := hname.2 '/' (by decide)
  have hwith := hplaced (".py" ++ ":" ++ name) (by simp [hslash]) (by
    have hending : ".py".length = 3 := rfl
    rw [String.length_append, String.length_append]
    omega)
  have hwithout := hplaced ".py" (by decide) (by decide)
  rw [hwithout]
  simpa only [String.append_assoc] using hwith

theorem length_normalized (base stem : String) :
    1 < (Path.normalized (base ++ "/" ++ (stem ++ ".py"))).length := by
  obtain ⟨start, place, last, -, -, -, hplaced⟩ := Path.exists_normalized_append base stem
  have hending : ".py".length = 3 := rfl
  rw [hplaced ".py" (by decide) (by decide), String.length_append, String.length_append,
    String.length_append]
  omega

/-- What stands at a directory is absolute, and differs from what is relative. -/
theorem normalized_ne {text other : String} (htext : (Path.ofText text).isAbsolute = false) :
    Path.normalized other ≠ text := by
  rintro rfl
  rw [← Bool.not_eq_true, Path.isAbsolute_ofText] at htext
  exact htext (head?_normalized other)

/-- The value of an option that can be a path, if it is given by a relative text: the path at the
directory if it looks like a path, or else the text. -/
theorem settledValue_text (here : Path) {text : String}
    (hbase : (Path.ofText base).isAbsolute = true) (htext : (Path.ofText text).isAbsolute = false)
    (hempty : text ≠ "") : settledValue here (some (.ofText base)) (.text text) =
      .text (if looksLikePath text then Path.normalized (base ++ "/" ++ text) else text) := by
  have htruthy : (Value.text text).truthy = true := by simpa [Value.truthy] using hempty
  have hshown : (Value.text text).shown = text := rfl
  simp only [settledValue, hshown, htruthy, placed_eq here hbase htext, true_and]
  split <;> rfl

/-- Relative paths of a configuration stand at its directory: those of lists always, the output
directory exactly if it ends as a Python file does or has a slash, a Python file always, and one
with a selector exactly if the file is written with a slash or the selector ends as a Python file
does. A Python file has the same selector then, unless what is before its last colon is a drive. -/
theorem ofConfig_placed {data : Fields} {base : String} (hnodup : data.names.Nodup)
    (hbase : (Path.ofText base).isAbsolute = true) (h : Usable data (some (.ofText base)))
    (here : Path) : ∃ o, ofConfig data here (some (.ofText base)) = .ok o ∧
      (∀ key ∈ pathListKeys, ∀ v texts, data.get? key = some v → v.givenTexts? = some texts →
        ∃ paths, o.valueOf key = .ofTexts paths ∧ List.Forall₂ (fun text path =>
          (Path.ofText text).isAbsolute = false →
            path = Path.normalized (base ++ "/" ++ text)) texts paths) ∧
      (∀ text, data.get? "output_dir" = some (.text text) → text ≠ "" →
        (Path.ofText text).isAbsolute = false →
          (o.outputDir = .text (Path.normalized (base ++ "/" ++ text)) ↔
            ".py".toList <:+ text.toList ∨ '/' ∈ text.toList ∨ '\\' ∈ text.toList)) ∧
      (∀ stem, data.get? "assembly" = some (.text (stem ++ ".py")) →
        (Path.ofText (stem ++ ".py")).isAbsolute = false →
          o.assembly = .text (Path.normalized (base ++ "/" ++ (stem ++ ".py"))) ∧
            ((Selector.ofText (Path.normalized (base ++ "/" ++ (stem ++ ".py")))).name =
                (Selector.ofText (stem ++ ".py")).name ↔
              ∀ target name, Selector.IsName name → stem ++ ".py" = target ++ ":" ++ name →
                (target.length ≤ 1 ↔
                  Path.normalized (base ++ "/" ++ (stem ++ ".py")) = "/:" ++ name))) ∧
      ∀ stem name, Selector.IsName name →
        data.get? "assembly" = some (.text (stem ++ ".py" ++ ":" ++ name)) →
        (Path.ofText (stem ++ ".py")).isAbsolute = false →
          ((∃ text, o.assembly = .text text ∧ Selector.ofText text =
              ⟨Path.normalized (base ++ "/" ++ (stem ++ ".py")), some name⟩) ↔
            '/' ∈ (stem ++ ".py").toList ∨ '\\' ∈ (stem ++ ".py").toList ∨
              ".py".toList <:+ name.toList) := by
  obtain ⟨o, out, ho, hsettled, hvalues⟩ := exists_ofConfig here hnodup h
  have hsingle {key : String} (hkey : key ∈ pathKeys) {text : String}
      (htext : data.get? key = some (.text text)) (hempty : text ≠ "")
      (hrelative : (Path.ofText text).isAbsolute = false) : o.valueOf key =
        .text (if looksLikePath text then Path.normalized (base ++ "/" ++ text) else text) := by
    rw [hvalues, hsettled.single key hkey _ htext, Option.getD_some,
      settledValue_text here hbase hrelative hempty]
  have hnonempty (stem : String) : stem ++ ".py" ≠ "" := by
    simp
  refine ⟨o, ho, fun key hkey v texts hv htexts => ?_, fun text htext hempty hrelative => ?_,
    fun stem htext hrelative => ⟨?_, name_normalized_iff hrelative⟩,
    fun stem name hname htext hrelative => ?_⟩
  · have hlist : key ∈ listKeys := by
      have hall : ∀ key ∈ pathListKeys, key ∈ listKeys := by decide
      exact hall key hkey
    refine ⟨texts.map (placed here (.ofText base)), ?_, ?_⟩
    · rw [hvalues, hsettled.lists key hlist v texts hv htexts, Option.getD_some]
      simp only [settledTexts, if_pos hkey]
    · rw [List.forall₂_map_right_iff, List.forall₂_same]
      exact fun text _ hrelative => placed_eq here hbase hrelative
  · rw [← looksLikePath_iff, show o.outputDir = o.valueOf "output_dir" from rfl,
      hsingle (by decide) htext hempty hrelative]
    cases hlooks : looksLikePath text with
    | true => simp
    | false => simpa using (normalized_ne hrelative).symm
  · have hlooks : looksLikePath (stem ++ ".py") = true := by
      rw [looksLikePath_iff, String.toList_append]
      exact .inl (List.suffix_append _ _)
    have hvalue := hsingle (by decide) htext (hnonempty stem) hrelative
    rwa [if_pos hlooks] at hvalue
  · have hlong : 1 < (stem ++ ".py").length := by
      rw [String.length_append, show ".py".length = 3 from rfl]
      omega
    have hvalue : o.assembly = _ := hsingle (by decide) htext
      (by simp [String.append_assoc])
      (by rw [String.append_assoc]; exact isAbsolute_append (hnonempty stem) hrelative)
    rw [← looksLikePath_colon_iff hname, hvalue]
    constructor
    · rintro ⟨text, heq, hselector⟩
      by_contra hlooks
      rw [if_neg hlooks, Value.text.injEq] at heq
      rw [← heq, Selector.ofText_colon hname, if_neg (Nat.not_le.2 hlong)] at hselector
      exact normalized_ne hrelative (Selector.mk.inj hselector).1.symm
    · intro hlooks
      refine ⟨_, by rw [if_pos hlooks], ?_⟩
      rw [normalized_colon hname, Selector.ofText_colon hname,
        if_neg (Nat.not_le.2 (length_normalized base stem))]

/-- A header, an output directory and a transform that are told with a slash. -/
theorem ofConfig_placed_slash : ∃ o,
    ofConfig [("headers", .text "a.h"), ("output_dir", .text "./out"),
      ("assembly", .text "./p.py:T")] ⟨.absolute, []⟩ (some (.ofText "/base")) = .ok o ∧
    o.outputDir = .text "/base/out" ∧
    ∃ text, o.assembly = .text text ∧ Selector.ofText text = ⟨"/base/p.py", some "T"⟩ := by
  obtain ⟨o, ho, -, hout, -, htransform⟩ := @ofConfig_placed [("headers", .text "a.h"),
    ("output_dir", .text "./out"), ("assembly", .text "./p.py:T")] "/base" (by decide) (by decide)
    (by decide) ⟨.absolute, []⟩
  have hbase : Path.normalized ("/base" ++ "/" ++ "./out") = "/base/out" ∧
      Path.normalized ("/base" ++ "/" ++ ("./p" ++ ".py")) = "/base/p.py" := by decide
  exact ⟨o, ho, hbase.1 ▸ (hout "./out" rfl (by decide) (by decide)).2 (by decide),
    hbase.2 ▸ (htransform "./p" "T" (by decide) rfl (by decide)).2 (by decide)⟩

/-- An output directory and a transform that are told without a slash stay what they are. -/
theorem ofConfig_not_placed : ∃ o,
    ofConfig [("output_dir", .text "out"), ("assembly", .text "p.py:T")] ⟨.absolute, []⟩
        (some (.ofText "/base")) = .ok o ∧
      o.outputDir = .text "out" ∧ o.assembly = .text "p.py:T" := by
  refine ⟨{ default with outputDir := .text "out", assembly := .text "p.py:T" }, ?_, rfl, rfl⟩
  rw [ofConfig_of_known (by decide)]
  rfl

end Options

end Bindery
