import ShellWord.FileTree.Resolve
import ShellWord.Proofs.Growth
import Mathlib.Data.List.Induction

/-!
# What paths mean

Names mean a location: `..` leads to the parent of the location that the names before it mean, and a
link means what its target means from the directory of the link. Nothing has to exist for that. In a
tree without link loops every path means one location, and resolving the path gives it.
-/

namespace ShellWord.FileTree

/-! ## Trees of an operating system -/

/-- A name that no request is refused for. -/
def IsName (name : String) : Prop := byteLength name ≤ maxName ∧ '\x00' ∉ name.toList

instance (name : String) : Decidable (IsName name) := inferInstanceAs (Decidable (_ ∧ _))

/-- The names that an entry puts in its place. -/
def linkNames : Entry → List String
  | .link target => targetNames target
  | _ => []

/-- Entries stand in directories, under names that can be asked for and at locations that can be
reached by name; so do the targets of links consist of such names. -/
structure WellFormed (t : FileTree) : Prop where
  parents : ∀ p ∈ t.entries, t.get? p.1.dropLast = some .directory
  names : ∀ p ∈ t.entries, ∀ name ∈ p.1, IsName name ∧ name ≠ "." ∧ name ≠ ".."
  paths : ∀ p ∈ t.entries, byteLength (Path.toString ⟨.root, p.1⟩) ≤ maxPath
  targets : ∀ p ∈ t.entries, ∀ name ∈ linkNames p.2, IsName name

/-- What names mean from a location, where no more than some number of links are followed inside
each other. -/
inductive MeansWithin (t : FileTree) : Nat → Location → List String → Location → Prop
  | done (n : Nat) (here : Location) : MeansWithin t n here [] here
  | dot {n : Nat} {here l : Location} {name : String} {rest : List String} (hdot : name = ".")
      (hrest : MeansWithin t n here rest l) : MeansWithin t n here (name :: rest) l
  | up {n : Nat} {here l : Location} {name : String} {rest : List String} (hdots : name = "..")
      (hrest : MeansWithin t n here.dropLast rest l) : MeansWithin t n here (name :: rest) l
  | link {n : Nat} {here m l : Location} {name target : String} {rest : List String}
      (hdot : name ≠ ".") (hdots : name ≠ "..")
      (hlink : t.get? (here ++ [name]) = some (.link target))
      (htarget : MeansWithin t n (targetStart here target) (targetNames target) m)
      (hrest : MeansWithin t (n + 1) m rest l) : MeansWithin t (n + 1) here (name :: rest) l
  | plain {n : Nat} {here l : Location} {name : String} {rest : List String}
      (hdot : name ≠ ".") (hdots : name ≠ "..")
      (hplain : ∀ target, t.get? (here ++ [name]) ≠ some (.link target))
      (hrest : MeansWithin t n (here ++ [name]) rest l) : MeansWithin t n here (name :: rest) l

/-- What names mean from a location. -/
def Means (t : FileTree) (here : Location) (names : List String) (l : Location) : Prop :=
  ∃ n, t.MeansWithin n here names l

section

variable {t : FileTree} {here l m d k : Location} {name target : String} {names rest : List String}
  {e : Entry} {n : Nat} {followLast : Bool} {place : Place}
  {onLink : Location → List String → Except FileFault Place}

theorem mem_entries_of_get? (hl : l ≠ []) (h : t.get? l = some e) : (l, e) ∈ t.entries := by
  rw [get?, if_neg hl, List.lookup_eq_some_iff] at h
  obtain ⟨before, after, hentries, -⟩ := h
  simp [hentries]

theorem ne_nil_of_link (h : t.get? l = some (.link target)) : l ≠ [] := by
  rintro rfl
  cases h

theorem WellFormed.get?_of_append (hwf : t.WellFormed) (hrest : rest ≠ [])
    (h : t.get? (d ++ rest) = some e) : t.get? d = some .directory := by
  induction rest using List.reverseRecOn generalizing e with
  | nil => exact absurd rfl hrest
  | append_singleton rest name ih =>
    have hmem := mem_entries_of_get? (by simp) h
    have hparent := hwf.parents _ hmem
    rw [← List.append_assoc, List.dropLast_concat] at hparent
    cases rest with
    | nil => rwa [List.append_nil] at hparent
    | cons first more => exact ih (by simp) hparent

theorem WellFormed.isName (hwf : t.WellFormed) (h : t.get? l = some e) :
    ∀ name ∈ l, IsName name ∧ name ≠ "." ∧ name ≠ ".." := by
  intro name hname
  exact hwf.names _ (mem_entries_of_get? (List.ne_nil_of_mem hname) h) name hname

/-! ## What names mean -/

/-- Names mean at most one location. -/
theorem MeansWithin.unique {n' : Nat} {l' : Location} (h : t.MeansWithin n here names l)
    (h' : t.MeansWithin n' here names l') : l = l' := by
  induction h generalizing n' l' with
  | done =>
    cases h'
    rfl
  | dot hdot _ ih =>
    subst hdot
    cases h' with
    | dot _ hrest => exact ih hrest
    | up hdots => exact absurd hdots (by decide)
    | link hdot | plain hdot => exact absurd rfl hdot
  | up hdots _ ih =>
    subst hdots
    cases h' with
    | dot hdot => exact absurd hdot (by decide)
    | up _ hrest => exact ih hrest
    | link _ hdots | plain _ hdots => exact absurd rfl hdots
  | link hdot hdots hlink _ _ ihtarget ihrest =>
    cases h' with
    | dot hdot' => exact absurd hdot' hdot
    | up hdots' => exact absurd hdots' hdots
    | plain _ _ hplain => exact absurd hlink (hplain _)
    | link _ _ hlink' htarget hrest =>
      cases hlink.symm.trans hlink'
      obtain rfl := ihtarget htarget
      exact ihrest hrest
  | plain hdot hdots hplain _ ih =>
    cases h' with
    | dot hdot' => exact absurd hdot' hdot
    | up hdots' => exact absurd hdots' hdots
    | link _ _ hlink => exact absurd hlink (hplain _)
    | plain _ _ _ hrest => exact ih hrest

theorem Means.unique {l' : Location} (h : t.Means here names l) (h' : t.Means here names l') :
    l = l' := by
  obtain ⟨n, h⟩ := h
  obtain ⟨n', h'⟩ := h'
  exact h.unique h'

/-- The names of a location stand for themselves, and no link is followed on the way along them,
with the last name included or not. -/
structure Straight (t : FileTree) (followLast : Bool) (l : Location) : Prop where
  noDot : "." ∉ l
  noDots : ".." ∉ l
  noLink : ∀ d, d <+: l → (d = l → followLast = true) → ∀ target, t.get? d ≠ some (.link target)

/-- A location that goes through no link. -/
abbrev Physical (t : FileTree) (l : Location) : Prop := t.Straight true l

theorem physical_nil (t : FileTree) : t.Physical [] := by
  refine ⟨List.not_mem_nil, List.not_mem_nil, fun d hd _ target => ?_⟩
  rw [List.prefix_nil.1 hd]
  exact nofun

theorem Physical.above (h : t.Physical l) (hd : d <+: l) : t.Physical d where
  noDot hmem := h.noDot (hd.mem hmem)
  noDots hmem := h.noDots (hd.mem hmem)
  noLink d' hd' _ := h.noLink d' (hd'.trans hd) fun _ => rfl

theorem Physical.parent (h : t.Physical l) : t.Physical l.dropLast :=
  h.above <| List.dropLast_prefix l

theorem Physical.concat (h : t.Physical here) (hdot : name ≠ ".") (hdots : name ≠ "..")
    (hplain : followLast = true → ∀ target, t.get? (here ++ [name]) ≠ some (.link target)) :
    t.Straight followLast (here ++ [name]) := by
  refine ⟨?_, ?_, fun d hd hlast => ?_⟩
  · simp [h.noDot, hdot.symm]
  · simp [h.noDots, hdots.symm]
  · rcases List.prefix_concat_iff.1 hd with rfl | hd
    · exact hplain (hlast rfl)
    · exact h.noLink d hd fun _ => rfl

/-- Entries lie in directories, and so do not lie behind links. -/
theorem WellFormed.physical (hwf : t.WellFormed) (h : t.get? l = some .directory) :
    t.Physical l := by
  have hnames := hwf.isName h
  refine ⟨fun hdot => (hnames _ hdot).2.1 rfl, fun hdots => (hnames _ hdots).2.2 rfl, ?_⟩
  rintro d ⟨rest, rfl⟩ - target hlink
  have hdirectory : t.get? d = some .directory := by
    cases rest with
    | nil => rwa [List.append_nil] at h
    | cons name more => exact hwf.get?_of_append (by simp) h
  cases hdirectory.symm.trans hlink

theorem WellFormed.physical_targetStart (hwf : t.WellFormed)
    (h : t.get? k = some (.link target)) : t.Physical (targetStart k.dropLast target) := by
  have hparent := hwf.parents _ (mem_entries_of_get? (ne_nil_of_link h) h)
  rw [targetStart]
  split_ifs
  · exact physical_nil t
  · exact hwf.physical hparent

theorem MeansWithin.physical (hwf : t.WellFormed) (h : t.MeansWithin n here names l)
    (hhere : t.Physical here) : t.Physical l := by
  induction h with
  | done => exact hhere
  | dot _ _ ih => exact ih hhere
  | up _ _ ih => exact ih hhere.parent
  | link _ _ hlink _ _ ihtarget ihrest =>
    have hstart := hwf.physical_targetStart hlink
    rw [List.dropLast_concat] at hstart
    exact ihrest (ihtarget hstart)
  | plain hdot hdots hplain _ ih => exact ih (hhere.concat hdot hdots fun _ => hplain)

/-! ## Straight ways -/

/-- An entry that is no link is gone through. -/
theorem WellFormed.followNames_cons (hwf : t.WellFormed) (h : t.get? (here ++ [name]) = some e)
    (hplain : ∀ target, e ≠ .link target) (rest : List String) :
    followNames t followLast onLink here (name :: rest) =
      followNames t followLast onLink (here ++ [name]) rest := by
  have hhere := hwf.get?_of_append (List.cons_ne_nil name []) h
  obtain ⟨⟨hshort, -⟩, hdot, hdots⟩ := hwf.isName h name (by simp)
  rw [followNames]
  simp only [hhere, hdot, hdots, Nat.not_lt.2 hshort, h, ne_eq, not_true_eq_false, if_false]

/-- A link is followed, unless it is the last name and to be left alone. -/
theorem WellFormed.followNames_link (hwf : t.WellFormed)
    (h : t.get? (here ++ [name]) = some (.link target)) (rest : List String) :
    followNames t followLast onLink here (name :: rest) =
      if rest = [] ∧ !followLast then .ok (.present (here ++ [name]) (.link target))
      else onLink (targetStart here target) (targetNames target ++ rest) := by
  have hhere := hwf.get?_of_append (List.cons_ne_nil name []) h
  obtain ⟨⟨hshort, -⟩, hdot, hdots⟩ := hwf.isName h name (by simp)
  rw [followNames]
  simp only [hhere, hdot, hdots, Nat.not_lt.2 hshort, h, ne_eq, not_true_eq_false, if_false]

end

end ShellWord.FileTree
