import ShellWord.Proofs.Lookup
import ShellWord.Settings.Layers

/-!
# The nearest settings file

The search for a project's settings file goes through the paths `projectFiles` one after another.
What it finds, or why it fails, is decided at the first of them that is not told to be missing.
-/

namespace ShellWord

/-- The settings files of the projects that a directory may belong to, the nearest first. The names
of the directory are given from the innermost to the outermost. -/
def projectFiles : List String → List Path
  | [] => [⟨.root, [projectFileName]⟩]
  | name :: above => ⟨.root, (name :: above).reverse ++ [projectFileName]⟩ :: projectFiles above

theorem start_of_mem_projectFiles {names : List String} {p : Path} (h : p ∈ projectFiles names) :
    p.start = .root := by
  induction names with
  | nil =>
    cases List.mem_singleton.1 h
    rfl
  | cons name above ih =>
    rcases List.mem_cons.1 h with rfl | h
    · rfl
    · exact ih h

namespace FileTree

variable {t : FileTree} {paths : List Path} {p q : Path}

/-- A search for a file among paths gets as far as `p`: there is none before. -/
def Reaches (t : FileTree) (paths : List Path) (p : Path) : Prop :=
  ∃ near far, paths = near ++ p :: far ∧ ∀ q ∈ near, t.isFile [] q = .ok false

theorem not_reaches_nil : ¬ t.Reaches [] p := by
  rintro ⟨near, far, h, _⟩
  cases near <;> cases h

theorem reaches_cons :
    t.Reaches (q :: paths) p ↔ p = q ∨ t.isFile [] q = .ok false ∧ t.Reaches paths p := by
  constructor
  · rintro ⟨near, far, h, hnear⟩
    cases near with
    | nil =>
      cases h
      exact .inl rfl
    | cons q near =>
      cases h
      rw [List.forall_mem_cons] at hnear
      exact .inr ⟨hnear.1, near, far, rfl, hnear.2⟩
  · rintro (rfl | ⟨hq, near, far, rfl, hnear⟩)
    · exact ⟨[], paths, rfl, by simp⟩
    · exact ⟨q :: near, far, rfl, List.forall_mem_cons.2 ⟨hq, hnear⟩⟩

theorem Reaches.mem (h : t.Reaches paths p) : p ∈ paths := by
  obtain ⟨near, far, rfl, _⟩ := h
  simp

/-- The first of some paths that leads to a file. -/
def firstFile (t : FileTree) : List Path → Except FileError (Option Path)
  | [] => .ok none
  | p :: rest =>
    match t.isFile [] p with
    | .error e => .error e
    | .ok true => .ok (some p)
    | .ok false => firstFile t rest

theorem firstFile_eq_error_iff {e : FileError} :
    t.firstFile paths = .error e ↔ ∃ p, t.Reaches paths p ∧ t.isFile [] p = .error e := by
  induction paths with
  | nil => simp [firstFile, not_reaches_nil]
  | cons q rest ih =>
    simp only [firstFile, reaches_cons, or_and_right, exists_or, exists_eq_left]
    cases hq : t.isFile [] q with
    | error e' => simp
    | ok found => cases found <;> simp [ih]

theorem firstFile_eq_some_iff :
    t.firstFile paths = .ok (some p) ↔ t.Reaches paths p ∧ t.isFile [] p = .ok true := by
  induction paths with
  | nil => simp [firstFile, not_reaches_nil]
  | cons q rest ih =>
    simp only [firstFile, reaches_cons]
    cases hq : t.isFile [] q with
    | error e =>
      simp only [reduceCtorEq, false_and, or_false, false_iff]
      rintro ⟨rfl, hp⟩
      rw [hq] at hp
      cases hp
    | ok found =>
      cases found with
      | true =>
        simp only [Except.ok.injEq, Option.some.injEq, Bool.true_eq_false, false_and, or_false]
        constructor
        · rintro rfl
          exact ⟨rfl, hq⟩
        · rintro ⟨rfl, _⟩
          rfl
      | false =>
        simp only [ih, true_and]
        constructor
        · rintro ⟨hreaches, hp⟩
          exact ⟨.inr hreaches, hp⟩
        · rintro ⟨rfl | hreaches, hp⟩
          · rw [hq] at hp
            cases hp
          · exact ⟨hreaches, hp⟩

/-- A path from the root leads to the same place from everywhere. -/
theorem isFile_of_root (hroot : p.start = .root) (cwd : Location) :
    t.isFile cwd p = t.isFile [] p := by
  have hstart : startOf cwd p = startOf [] p := by simp [startOf, Path.isAbsolute, hroot]
  simp only [isFile, ask, find, locate, hstart]

end FileTree

theorem nearestProjectFile_eq_firstFile (t : FileTree) (names : List String) :
    nearestProjectFile t names = t.firstFile (projectFiles names) := by
  induction names with
  | nil =>
    rw [nearestProjectFile, nearestProjectFile.candidate, projectFiles, FileTree.firstFile]
    cases h : t.isFile [] ⟨.root, [projectFileName]⟩ with
    | error e => simp [h, bind, Except.bind]
    | ok found => cases found <;> simp [h, bind, Except.bind, pure, Except.pure, FileTree.firstFile]
  | cons name above ih =>
    rw [nearestProjectFile, nearestProjectFile.candidate, projectFiles, FileTree.firstFile, ← ih]
    cases h : t.isFile [] ⟨.root, (name :: above).reverse ++ [projectFileName]⟩ with
    | error e => simp [bind, Except.bind]
    | ok found => cases found <;> simp [bind, Except.bind, pure, Except.pure]

end ShellWord
