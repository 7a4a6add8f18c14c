import ShellWord.Proofs.ProjectSearch
import ShellWord.StyleCheck.Gate
import Mathlib.Data.List.Lex
import Mathlib.Data.List.Nodup
import Mathlib.Data.String.Basic

/-!
# The files below a directory

What lies below a directory is listed by the names on the way there, each entry once, and sorted by
these names, compared one by one. A directory's path and such names make a path that leads to the
entry, unless it is too long, however the directory's own path got there.
-/

namespace ShellWord

@[simp]
theorem Path.names_below (p : Path) (names : List String) :
    (p.below names).names = p.names ++ names := rfl

namespace FileTree

variable {t : FileTree} {cwd here d l : Location} {names rest : List String} {e : Entry} {n : Nat}
  {p : Path} {content : Bytes}

/-! ## Paths of what lies below -/

/-- An entry that is no link is reached from further up by its names alone. -/
theorem WellFormed.leads_of_get? (hwf : t.WellFormed) (h : t.get? (here ++ names) = some e)
    (hplain : ∀ target, e ≠ .link target) : t.Leads 0 here names (here ++ names) := by
  induction names generalizing here with
  | nil =>
    rw [List.append_nil] at h ⊢
    exact .done h
  | cons name rest ih =>
    rw [List.append_cons] at h ⊢
    obtain ⟨e', hnext, hplain'⟩ : ∃ e', t.get? (here ++ [name]) = some e' ∧
        ∀ target, e' ≠ .link target := by
      cases rest with
      | nil => exact ⟨e, by rwa [List.append_nil] at h, hplain⟩
      | cons first more =>
        exact ⟨.directory, hwf.get?_of_append (List.cons_ne_nil first more) h, by simp⟩
    have hhere := hwf.get?_of_append (List.cons_ne_nil name []) hnext
    obtain ⟨-, hdot, hdots⟩ := hwf.isName hnext name (by simp)
    exact .plain hhere hdot hdots hnext hplain' (ih h)

/-- Where names lead to a directory, more names lead to what lies below it. -/
theorem Leads.append (hwf : t.WellFormed) (h : t.Leads n here names d)
    (hentry : t.get? (d ++ rest) = some e) (hplain : ∀ target, e ≠ .link target) :
    t.Leads n here (names ++ rest) (d ++ rest) := by
  induction h with
  | done => exact hwf.leads_of_get? hentry hplain
  | dot hhere hdot _ ih => exact .dot hhere hdot (ih hentry)
  | up hhere hdots _ ih => exact .up hhere hdots (ih hentry)
  | link hhere hdot hdots hlink _ ih =>
    have hmore := ih hentry
    rw [List.append_assoc] at hmore
    exact .link hhere hdot hdots hlink hmore
  | plain hhere hdot hdots hnext hplain' _ ih =>
    exact .plain hhere hdot hdots hnext hplain' (ih hentry)

theorem find_below (hwf : t.WellFormed) (hstart : t.find cwd p = .ok (d, .directory))
    (hentry : t.get? (d ++ names) = some e) (hplain : ∀ target, e ≠ .link target) :
    t.find cwd (p.below names) =
      if (p.below names).isTooLong then .error .nameTooLong else .ok (d ++ names, e) := by
  rw [find_eq_ok_iff, locate] at hstart
  split_ifs at hstart with hnul hlong
  obtain ⟨k, hk, hleads⟩ := leads_of_follow hstart
  have hfollow : t.follow true maxLinks (startOf cwd p) (p.names ++ names) =
      .ok (.present (d ++ names) e) :=
    follow_of_leads hwf (hleads.append hwf hentry hplain) hk hentry
  have hnames : ¬ ((p.below names).names.any fun name => name.toList.contains '\x00') = true := by
    rw [Path.names_below, List.any_append, Bool.or_eq_true, not_or]
    refine ⟨hnul, ?_⟩
    simpa using fun name hname => (hwf.isName hentry name (by simp [hname])).1.2
  by_cases htooLong : (p.below names).isTooLong = true
  · have hlong' : maxPath < byteLength (p.below names).toString := by
      simpa [Path.isTooLong] using htooLong
    rw [if_pos htooLong, find, locate, if_neg hnames, if_pos hlong']
    rfl
  · have hlong' : ¬ maxPath < byteLength (p.below names).toString := by
      simpa [Path.isTooLong] using htooLong
    rw [if_neg htooLong, find_eq_ok_iff, locate, if_neg hnames, if_neg hlong']
    exact hfollow

theorem read_below (hwf : t.WellFormed) (hstart : t.find cwd p = .ok (d, .directory))
    (hfile : t.get? (d ++ names) = some (.file content)) :
    t.read cwd (p.below names) =
      if (p.below names).isTooLong then .error ⟨.nameTooLong, (p.below names).toString⟩
      else .ok content := by
  rw [read, find_below hwf hstart hfile (by simp)]
  by_cases htooLong : (p.below names).isTooLong = true
  · rw [if_pos htooLong, if_pos htooLong]
  · rw [if_neg htooLong, if_neg htooLong]

/-- Seen from a directory above, no entry has a path that is too long. -/
theorem WellFormed.not_isTooLong (hwf : t.WellFormed) (h : t.get? (d ++ names) = some e) :
    ¬ (Path.mk .here names).isTooLong = true := by
  have hlength : byteLength (Path.mk .here names).toString ≤ maxPath := by
    cases names with
    | nil => decide
    | cons first rest =>
      have hpath : byteLength (Path.toString ⟨.root, d ++ first :: rest⟩) ≤ maxPath :=
        hwf.paths (d ++ first :: rest, e) (mem_entries_of_get? (by simp) h)
      rw [byteLength, encodeString_rootPath (by simp), List.flatMap_append, List.length_append,
        ← encodeString_intercalate, List.length_cons] at hpath
      have hempty : "".pushn '/' PathStart.here.slashes = "" := by decide
      rw [byteLength, Path.toString]
      simp only [hempty, String.empty_append]
      split_ifs
      · decide
      · omega
  simpa [Path.isTooLong] using hlength

/-! ## All that lies below -/

theorem mem_namesBelow_iff :
    names ∈ t.namesBelow d ↔ names ≠ [] ∧ ∃ e, t.get? (d ++ names) = some e := by
  rw [namesBelow, List.mem_filterMap]
  constructor
  · rintro ⟨⟨l, e⟩, hmem, hnames⟩
    dsimp only at hnames
    split_ifs at hnames with hbelow
    obtain ⟨hway, hne⟩ := hbelow
    obtain ⟨below, rfl⟩ := List.isPrefixOf_iff_prefix.1 hway
    cases hnames
    rw [List.drop_left]
    have hsome : (t.entries.lookup (d ++ below)).isSome = true := by
      rw [Option.isSome_iff_ne_none, ne_eq, List.lookup_eq_none_iff]
      exact fun hnone => by simpa using hnone _ hmem
    obtain ⟨e', he'⟩ := Option.isSome_iff_exists.1 hsome
    have hbelowNe : below ≠ [] := fun hnil => hne (by simp [hnil])
    exact ⟨hbelowNe, e', by rw [get?, if_neg (by simp [hbelowNe]), he']⟩
  · rintro ⟨hne, e, h⟩
    refine ⟨(d ++ names, e), mem_entries_of_get? (by simp [hne]) h, ?_⟩
    simp [hne]

theorem nodup_namesBelow (hdistinct : (t.entries.map Prod.fst).Nodup) (d : Location) :
    (t.namesBelow d).Nodup := by
  have hnames : t.namesBelow d = (t.entries.map Prod.fst).filterMap fun l =>
      if d.isPrefixOf l ∧ d ≠ l then some (l.drop d.length) else none := by
    rw [List.filterMap_map]
    rfl
  rw [hnames]
  refine hdistinct.filterMap fun l l' names hl hl' => ?_
  rw [Option.mem_def] at hl hl'
  split_ifs at hl hl' with hbelow hbelow'
  obtain ⟨rest, rfl⟩ := List.isPrefixOf_iff_prefix.1 hbelow.1
  obtain ⟨rest', rfl⟩ := List.isPrefixOf_iff_prefix.1 hbelow'.1
  rw [List.drop_left, Option.some_inj] at hl hl'
  rw [hl, hl']

end FileTree

namespace StyleCheck

variable {t : FileTree} {cwd d : Location} {names : List String} {directory : Path}

/-! ## In order -/

theorem isNotAfter_iff {a b : List String} : isNotAfter a b = true ↔ a ≤ b := by
  have hlex : (List.lex b a fun x y => decide (x < y)) = true ↔ b < a := by
    rw [List.lex_eq_true_iff_lex]
    simp only [decide_eq_true_eq]
    rfl
  rw [isNotAfter, Bool.not_eq_true', ← Bool.not_eq_true, hlex, not_lt]

-- what is in a directory comes before a file whose name goes on after the directory's
example : isNotAfter ["a", "b.py"] ["a-b.py"] = true := by decide

/-- The names of the Python files below a directory, in order. -/
def pythonNames (t : FileTree) (d : Location) : List (List String) :=
  ((t.namesBelow d).filter isPythonName).mergeSort isNotAfter

theorem mem_pythonNames_iff :
    names ∈ pythonNames t d ↔
      isPythonName names = true ∧ ∃ e, t.get? (d ++ names) = some e := by
  rw [pythonNames, List.mem_mergeSort, List.mem_filter, FileTree.mem_namesBelow_iff]
  constructor
  · rintro ⟨⟨-, hentry⟩, hpython⟩
    exact ⟨hpython, hentry⟩
  · rintro ⟨hpython, hentry⟩
    refine ⟨⟨?_, hentry⟩, hpython⟩
    rintro rfl
    cases hpython

theorem sorted_pythonNames (t : FileTree) (d : Location) :
    (pythonNames t d).Pairwise (· ≤ ·) := by
  refine (List.pairwise_mergeSort (fun a b c hab hbc => ?_) (fun a b => ?_) _).imp
    isNotAfter_iff.1
  · rw [isNotAfter_iff] at hab hbc ⊢
    exact hab.trans hbc
  · rw [Bool.or_eq_true, isNotAfter_iff, isNotAfter_iff]
    exact le_total a b

/-- No two Python files come at the same time. -/
theorem pairwise_pythonNames (hdistinct : (t.entries.map Prod.fst).Nodup) :
    (pythonNames t d).Pairwise (· < ·) := by
  have hnodup : (pythonNames t d).Nodup := by
    rw [pythonNames, (List.mergeSort_perm _ _).nodup_iff]
    exact (FileTree.nodup_namesBelow hdistinct d).filter _
  exact (sorted_pythonNames t d).imp₂ (fun a b hle hne => lt_of_le_of_ne hle hne) hnodup

/-- There is only one way to put the names in order. -/
theorem pythonNames_eq {found : List (List String)} (hsorted : found.Pairwise (· ≤ ·))
    (hperm : found.Perm ((t.namesBelow d).filter isPythonName)) : pythonNames t d = found :=
  List.Perm.eq_of_pairwise (fun _ _ _ _ => le_antisymm) (sorted_pythonNames t d) hsorted
    ((List.mergeSort_perm _ _).trans hperm.symm)

/-- A directory below a directory has a path that is too long. -/
def HoldsUnreadable (t : FileTree) (d : Location) (directory : Path) : Prop :=
  ∃ names, t.get? (d ++ names) = some .directory ∧ (directory.below names).isTooLong = true

/-- From above, all directories can be listed. -/
theorem not_holdsUnreadable (hwf : t.WellFormed) (cwd : Location) (names : List String) :
    ¬ HoldsUnreadable t (cwd ++ names) ⟨.here, names⟩ := by
  rintro ⟨more, hdirectory, hlong⟩
  rw [List.append_assoc] at hdirectory
  exact hwf.not_isTooLong hdirectory hlong

theorem pythonFiles_of_holdsUnreadable (hstart : t.find cwd directory = .ok (d, .directory))
    (h : HoldsUnreadable t d directory) : ∃ e, pythonFiles t cwd directory = .error e := by
  obtain ⟨names, hdirectory, hlong⟩ := h
  have hne : names ≠ [] := by
    rintro rfl
    rw [FileTree.find_eq_ok_iff, FileTree.locate] at hstart
    split_ifs at hstart with hnul hshort
    simp [Path.isTooLong, Path.below, hshort] at hlong
  rw [pythonFiles, hstart]
  dsimp only
  cases hfind : (t.namesBelow d).find? fun names =>
      t.get? (d ++ names) = some .directory ∧ (directory.below names).isTooLong with
  | some unread => exact ⟨_, rfl⟩
  | none =>
    have hmem : names ∈ t.namesBelow d := FileTree.mem_namesBelow_iff.2 ⟨hne, _, hdirectory⟩
    have hread := List.find?_eq_none.1 hfind names hmem
    simp [hdirectory, hlong] at hread

theorem pythonFiles_eq (hstart : t.find cwd directory = .ok (d, .directory))
    (h : ¬ HoldsUnreadable t d directory) :
    pythonFiles t cwd directory = .ok ((pythonNames t d).map directory.below) := by
  have hfind : ((t.namesBelow d).find? fun names =>
      t.get? (d ++ names) = some .directory ∧ (directory.below names).isTooLong) = none := by
    rw [List.find?_eq_none]
    intro names _ hunread
    exact h ⟨names, by simpa using hunread⟩
  rw [pythonFiles, hstart]
  dsimp only
  rw [hfind]
  rfl

end StyleCheck

end ShellWord
