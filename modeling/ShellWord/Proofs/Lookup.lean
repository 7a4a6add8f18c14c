import ShellWord.FileTree.Update
import Mathlib.Tactic.Common

/-!
# Why requests about paths fail

Each request about a path meets its own faults and no others. A zero character in a path is met by
every request, and by nothing else; asking whether there is a file fails for no other reason than
that a name or the path is too long; and what is a file can be read.
-/

namespace ShellWord

/-- A path with a zero character in one of its names. -/
def Path.HasNul (p : Path) : Prop := ∃ name ∈ p.names, '\x00' ∈ name.toList

theorem Path.HasNul.of_parent {p : Path} (h : p.parent.HasNul) : p.HasNul := by
  obtain ⟨name, hname, hnul⟩ := h
  exact ⟨name, List.dropLast_subset p.names hname, hnul⟩

namespace FileTree

variable {t : FileTree} {cwd : Location} {p : Path} {fault : FileFault}

/-! ## Following names -/

/-- The faults that are met on the way along names. -/
def IsWalkFault (fault : FileFault) : Prop :=
  fault = .notFound ∨ fault = .notADirectory ∨ fault = .nameTooLong ∨ fault = .tooManyLinks

theorem isWalkFault_of_followNames {followLast : Bool}
    {onLink : Location → List String → Except FileFault Place}
    (hlink : ∀ here names fault, onLink here names = .error fault → IsWalkFault fault)
    (here : Location) (names : List String)
    (h : followNames t followLast onLink here names = .error fault) : IsWalkFault fault := by
  fun_induction followNames t followLast onLink here names with
  -- the names lead somewhere
  | case1 | case7 | case9 => cases h
  -- they end in nothing, go through something else than a directory, or one is too long
  | case2 | case3 | case6 | case8 =>
    cases h
    simp [IsWalkFault]
  -- there are more names
  | case4 _ _ _ ih | case5 _ _ _ _ ih | case11 _ _ _ _ _ _ _ _ _ _ ih => exact ih h
  | case10 => exact hlink _ _ _ h

theorem isWalkFault_of_follow {followLast : Bool} (n : Nat) (here : Location)
    (names : List String) (h : follow t followLast n here names = .error fault) :
    IsWalkFault fault := by
  induction n generalizing here names fault with
  | zero =>
    refine isWalkFault_of_followNames (fun _ _ fault hfault => ?_) here names h
    cases hfault
    simp [IsWalkFault]
  | succ n ih => exact isWalkFault_of_followNames (fun here names _ => ih here names) here names h

/-! ## Looking up a path -/

theorem locate_of_hasNul (h : p.HasNul) (followLast : Bool) :
    t.locate cwd followLast p = .error .nul := by
  obtain ⟨name, hname, hnul⟩ := h
  have hany : (p.names.any fun name => name.toList.contains '\x00') = true := by
    rw [List.any_eq_true]
    exact ⟨name, hname, List.contains_iff_mem.2 hnul⟩
  rw [locate, if_pos hany]

theorem isWalkFault_of_locate (hnul : ¬ p.HasNul) {followLast : Bool}
    (h : t.locate cwd followLast p = .error fault) : IsWalkFault fault := by
  rw [locate] at h
  split_ifs at h with hany hlong
  · rw [List.any_eq_true] at hany
    obtain ⟨name, hname, hcontains⟩ := hany
    exact absurd ⟨name, hname, List.contains_iff_mem.1 hcontains⟩ hnul
  · cases h
    simp [IsWalkFault]
  · exact isWalkFault_of_follow _ _ _ h

theorem locate_eq_nul_iff {followLast : Bool} :
    t.locate cwd followLast p = .error .nul ↔ p.HasNul := by
  refine ⟨fun h => ?_, fun h => locate_of_hasNul h followLast⟩
  by_contra hnul
  have hfault := isWalkFault_of_locate hnul h
  simp [IsWalkFault] at hfault

theorem fault_of_find (h : t.find cwd p = .error fault) : fault = .nul ∨ IsWalkFault fault := by
  rw [find] at h
  cases hlocate : t.locate cwd true p with
  | error f =>
    rw [hlocate] at h
    cases h
    by_cases hnul : p.HasNul
    · rw [locate_of_hasNul hnul] at hlocate
      cases hlocate
      exact .inl rfl
    · exact .inr (isWalkFault_of_locate hnul hlocate)
  | ok place =>
    rw [hlocate] at h
    cases place with
    | present l e => simp [bind, Except.bind, pure, Except.pure] at h
    | absent l name =>
      simp only [bind, Except.bind, Except.error.injEq] at h
      simp [← h, IsWalkFault]

/-! ## Asking and reading -/

/-- Asking about an entry fails only for a path that is too long or has a name that is. -/
theorem ask_eq_error_iff {question : Entry → Bool} {e : FileError} :
    t.ask cwd p question = .error e ↔
      t.find cwd p = .error .nameTooLong ∧ e = ⟨.nameTooLong, p.toString⟩ := by
  rw [ask]
  cases hfind : t.find cwd p with
  | ok found => simp
  | error fault =>
    rcases fault_of_find hfind with rfl | rfl | rfl | rfl | rfl
    all_goals simp [meansAbsent, eq_comm]

theorem isFile_eq_error_iff {e : FileError} :
    t.isFile cwd p = .error e ↔
      t.find cwd p = .error .nameTooLong ∧ e = ⟨.nameTooLong, p.toString⟩ := ask_eq_error_iff

theorem isFile_eq_true_iff :
    t.isFile cwd p = .ok true ↔ ∃ content, t.read cwd p = .ok content := by
  rw [isFile, ask, read]
  cases hfind : t.find cwd p with
  | error fault => cases hfault : meansAbsent fault <;> simp [hfault]
  | ok found =>
    obtain ⟨l, entry⟩ := found
    cases entry <;> simp

/-! ## Making directories and opening files -/

/-- No directory is made at a path with a zero character, and none above it. -/
theorem makeDirectories_of_hasNul (h : p.HasNul) :
    t.makeDirectories cwd p = (t, .error ⟨.nul, p.toString⟩) := by
  rw [makeDirectories, makeDirectory, locate_of_hasNul h]
  simp [bind, Except.bind, settle]

/-- The fault that a settled request ends with is not a zero character, unless that was its own
fault. -/
theorem settle_error_ne_nul {e : FileError} (hfault : fault ≠ .nul)
    (h : (t.settle cwd p fault).2 = .error e) : e.fault ≠ .nul := by
  rw [settle, if_neg hfault] at h
  split at h
  · simp at h
  · cases h
    exact hfault
  · next e' hdirectory =>
    cases h
    rw [(ask_eq_error_iff.1 hdirectory).2]
    simp

theorem makeDirectory_error_ne_nul (hnul : ¬ p.HasNul)
    (h : t.makeDirectory cwd p = .error fault) : fault ≠ .nul := by
  rw [makeDirectory] at h
  cases hlocate : t.locate cwd false p with
  | error f =>
    rw [hlocate] at h
    cases h
    intro hf
    exact hnul (locate_eq_nul_iff.1 (hf ▸ hlocate))
  | ok place =>
    rw [hlocate] at h
    cases place with
    | present l e =>
      simp only [bind, Except.bind, Except.error.injEq] at h
      simp [← h]
    | absent l name => simp [bind, Except.bind] at h

theorem makeDirectories_error_ne_nul {e : FileError} (hnul : ¬ p.HasNul)
    (h : (t.makeDirectories cwd p).2 = .error e) : e.fault ≠ .nul := by
  fun_induction makeDirectories t cwd p with
  | case1 | case4 => cases h
  | case2 | case5 =>
    cases h
    simp
  | case3 p _ _ tree e' hparent ih =>
    cases h
    rw [hparent] at ih
    exact ih (fun hp => hnul hp.of_parent) rfl
  | case6 p _ _ tree _ fault _ hmake =>
    exact settle_error_ne_nul (makeDirectory_error_ne_nul hnul hmake) h
  | case7 p fault _ hmake => exact settle_error_ne_nul (makeDirectory_error_ne_nul hnul hmake) h

theorem openAppend_error_nul_iff :
    (∃ e, t.openAppend cwd p = .error e ∧ e.fault = .nul) ↔ p.HasNul := by
  constructor
  · rintro ⟨e, h, he⟩
    rw [openAppend] at h
    split at h
    · next fault hlocate =>
      cases h
      rw [show fault = .nul from he] at hlocate
      exact locate_eq_nul_iff.1 hlocate
    · cases h
    · cases h
      cases he
    · cases h
      cases he
    · cases h
  · intro hnul
    exact ⟨⟨.nul, p.toString⟩, by rw [openAppend, locate_of_hasNul hnul], rfl⟩

end FileTree

end ShellWord
