import ShellWord.Proofs.PhysicalPath
import Mathlib.Data.List.Perm.Subperm
import Mathlib.Data.Nat.Find

/-!
# Resolving paths

Resolving a path keeps a record of the links that it has met. What is recorded of a link is what it
means, and a link that is being followed is not met again: what it means would have to be found out
inside itself. So every link that is followed inside others is a new one, and the levels suffice.
-/

namespace ShellWord.FileTree

variable {t : FileTree} {here l m k cwd : Location} {names : List String} {n fuel : Nat}
  {opened : List Location} {met : Met} {p : Path}

/-! ## The record of links -/

/-- What a link means, where no more than some number of links are followed inside it. -/
def LinkMeans (t : FileTree) (n : Nat) (k m : Location) : Prop :=
  ∃ target, t.get? k = some (.link target) ∧
    t.MeansWithin n (targetStart k.dropLast target) (targetNames target) m

theorem LinkMeans.unique {n' : Nat} {m' : Location} (h : t.LinkMeans n k m)
    (h' : t.LinkMeans n' k m') : m = m' := by
  obtain ⟨target, hlink, hmeans⟩ := h
  obtain ⟨target', hlink', hmeans'⟩ := h'
  cases hlink.symm.trans hlink'
  exact hmeans.unique hmeans'

/-- A record knows what links mean and which ones are being followed. -/
structure Records (t : FileTree) (opened : List Location) (met : Met) : Prop where
  known : ∀ k m, met.lookup k = some (some m) → ∃ n, t.LinkMeans n k m
  following : ∀ k, met.lookup k = some none ↔ k ∈ opened

theorem lookup_met_cons (met : Met) (k k' : Location) (found : Option Location) :
    List.lookup k' ((k, found) :: met) = if k' = k then some found else met.lookup k' := by
  rw [List.lookup_cons]
  by_cases hk : k' = k
  · simp [hk]
  · rw [beq_false_of_ne hk, if_neg hk]

theorem Records.follow (h : t.Records opened met) (k : Location) :
    t.Records (k :: opened) ((k, none) :: met) := by
  constructor
  · intro k' m hlookup
    rw [lookup_met_cons] at hlookup
    split_ifs at hlookup
    · cases hlookup
    · exact h.known k' m hlookup
  · intro k'
    rw [lookup_met_cons, List.mem_cons, ← h.following]
    split_ifs with hk
    · simp [hk]
    · simp [hk]

theorem Records.settle (h : t.Records (k :: opened) met) (hk : k ∉ opened)
    (hmeans : t.LinkMeans n k m) : t.Records opened ((k, some m) :: met) := by
  constructor
  · intro k' m' hlookup
    rw [lookup_met_cons] at hlookup
    split_ifs at hlookup with hk'
    · cases hlookup
      exact ⟨n, hk' ▸ hmeans⟩
    · exact h.known k' m' hlookup
  · intro k'
    rw [lookup_met_cons]
    split_ifs with hk'
    · simp [hk', hk]
    · rw [h.following, List.mem_cons, or_iff_right hk']

/-! ## One level -/

end ShellWord.FileTree
