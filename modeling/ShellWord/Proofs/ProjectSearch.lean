import ShellWord.Proofs.NearestFile
import ShellWord.Proofs.Resolving
import Mathlib.Data.List.Infix

/-!
# The search for a project's settings file

The search goes from the location that the working directory means up to the root, along physical
parents. It finds the settings file of the nearest directory that has one.
-/

namespace ShellWord

namespace FileTree

/-- Where a lookup leads that follows a number of links. All that it goes through is there. -/
inductive Leads (t : FileTree) : Nat → Location → List String → Location → Prop
  | done {here : Location} {e : Entry} (hhere : t.get? here = some e) : Leads t 0 here [] here
  | dot {n : Nat} {here l : Location} {name : String} {rest : List String}
      (hhere : t.get? here = some .directory) (hdot : name = ".")
      (hrest : Leads t n here rest l) : Leads t n here (name :: rest) l
  | up {n : Nat} {here l : Location} {name : String} {rest : List String}
      (hhere : t.get? here = some .directory) (hdots : name = "..")
      (hrest : Leads t n here.dropLast rest l) : Leads t n here (name :: rest) l
  | link {n : Nat} {here l : Location} {name target : String} {rest : List String}
      (hhere : t.get? here = some .directory) (hdot : name ≠ ".") (hdots : name ≠ "..")
      (hlink : t.get? (here ++ [name]) = some (.link target))
      (hrest : Leads t n (targetStart here target) (targetNames target ++ rest) l) :
      Leads t (n + 1) here (name :: rest) l
  | plain {n : Nat} {here l : Location} {name : String} {rest : List String} {e : Entry}
      (hhere : t.get? here = some .directory) (hdot : name ≠ ".") (hdots : name ≠ "..")
      (hentry : t.get? (here ++ [name]) = some e) (hplain : ∀ target, e ≠ .link target)
      (hrest : Leads t n (here ++ [name]) rest l) : Leads t n here (name :: rest) l

/-- A name in a directory is that of a regular file, or of a link that leads to one. The system
follows no more than `maxLinks` links, this one included. -/
inductive HoldsFile (t : FileTree) (d : Location) (name : String) : Prop
  | file (content : Bytes) (h : t.get? (d ++ [name]) = some (.file content))
  | link (target : String) (n : Nat) (l : Location) (content : Bytes)
      (h : t.get? (d ++ [name]) = some (.link target)) (hn : n < maxLinks)
      (hleads : t.Leads n (targetStart d target) (targetNames target) l)
      (hfile : t.get? l = some (.file content))

section

variable {t : FileTree} {here l d : Location} {name target : String} {names rest : List String}
  {e : Entry} {n : Nat} {followLast : Bool}
  {onLink : Location → List String → Except FileFault Place}

/-! ## Lookups -/

theorem leads_of_followNames {bound : Nat}
    (honLink : ∀ here names, onLink here names = .ok (.present l e) →
      ∃ n, n < bound ∧ t.Leads n here names l)
    (h : followNames t true onLink here names = .ok (.present l e)) :
    ∃ n, n ≤ bound ∧ t.Leads n here names l := by
  fun_induction followNames t true onLink here names with
  | case1 here e hhere =>
    cases h
    exact ⟨0, Nat.zero_le _, .done hhere⟩
  | case2 | case3 | case6 | case7 | case8 => cases h
  | case4 here rest hhere ih =>
    obtain ⟨n, hn, hleads⟩ := ih h
    exact ⟨n, hn, .dot (not_not.1 hhere) rfl hleads⟩
  | case5 here rest hhere _ ih =>
    obtain ⟨n, hn, hleads⟩ := ih h
    exact ⟨n, hn, .up (not_not.1 hhere) rfl hleads⟩
  | case9 _ _ _ _ _ _ _ _ _ hlast => simp at hlast
  | case10 here name rest hhere hdot hdots _ target hlink =>
    obtain ⟨n, hn, hleads⟩ := honLink _ _ h
    exact ⟨n + 1, hn, .link (not_not.1 hhere) hdot hdots hlink hleads⟩
  | case11 here name rest hhere hdot hdots _ e hplain hentry ih =>
    obtain ⟨n, hn, hleads⟩ := ih h
    exact ⟨n, hn, .plain (not_not.1 hhere) hdot hdots hentry hplain hleads⟩

theorem leads_of_follow (h : follow t true n here names = .ok (.present l e)) :
    ∃ k, k ≤ n ∧ t.Leads k here names l := by
  induction n generalizing here names with
  | zero =>
    refine leads_of_followNames (fun here names hlink => ?_) h
    cases hlink
  | succ n ih =>
    refine leads_of_followNames (fun here names hlink => ?_) h
    obtain ⟨k, hk, hleads⟩ := ih hlink
    exact ⟨k, Nat.lt_succ_of_le hk, hleads⟩

theorem exists_follow_eq (t : FileTree) (followLast : Bool) (n : Nat) :
    ∃ onLink, follow t followLast n = followNames t followLast onLink := by
  cases n with
  | zero => exact ⟨_, rfl⟩
  | succ n => exact ⟨_, rfl⟩

theorem follow_of_leads (hwf : t.WellFormed) {k : Nat} (h : t.Leads k here names l) (hk : k ≤ n)
    (hl : t.get? l = some e) : follow t true n here names = .ok (.present l e) := by
  induction h generalizing n with
  | done hhere =>
    obtain ⟨onLink, hfollow⟩ := exists_follow_eq t true n
    rw [hfollow, followNames, hl]
  | dot hhere hdot _ ih =>
    have hrest := ih hk hl
    obtain ⟨onLink, hfollow⟩ := exists_follow_eq t true n
    rw [hfollow] at hrest ⊢
    simpa [followNames, hhere, hdot] using hrest
  | up hhere hdots _ ih =>
    have hrest := ih hk hl
    obtain ⟨onLink, hfollow⟩ := exists_follow_eq t true n
    rw [hfollow] at hrest ⊢
    simpa [followNames, hhere, hdots] using hrest
  | link _ _ _ hlink _ ih =>
    obtain ⟨n, rfl⟩ : ∃ m, n = m + 1 := ⟨n - 1, by omega⟩
    rw [follow, hwf.followNames_link hlink, if_neg (by simp)]
    exact ih (Nat.le_of_succ_le_succ hk) hl
  | plain _ _ _ hentry hplain _ ih =>
    have hrest := ih hk hl
    obtain ⟨onLink, hfollow⟩ := exists_follow_eq t true n
    rw [hfollow] at hrest ⊢
    rw [hwf.followNames_cons hentry hplain, hrest]

theorem isName_of_mem_targetNames (hwf : t.WellFormed)
    (h : t.get? (here ++ [name]) = some (.link target)) :
    ∀ name ∈ targetNames target, IsName name :=
  hwf.targets (_, .link target) (mem_entries_of_get? (by simp) h)

/-- Where names that can be asked for lead, there are only such names. -/
theorem MeansWithin.isName (hwf : t.WellFormed) (h : t.MeansWithin n here names l)
    (hhere : ∀ x ∈ here, IsName x) (hnames : ∀ x ∈ names, IsName x) : ∀ x ∈ l, IsName x := by
  induction h with
  | done => exact hhere
  | dot _ _ ih => exact ih hhere (List.forall_mem_cons.1 hnames).2
  | up _ _ ih =>
    have hparent : ∀ x ∈ _, IsName x := fun x hx => hhere x (List.dropLast_subset _ hx)
    exact ih hparent (List.forall_mem_cons.1 hnames).2
  | @link n here m l name target rest _ _ hlink _ _ ihtarget ihrest =>
    have hstart : ∀ x ∈ targetStart here target, IsName x := by
      rw [targetStart]
      split_ifs
      · simp
      · exact hhere
    have hm := ihtarget hstart (isName_of_mem_targetNames hwf hlink)
    exact ihrest hm (List.forall_mem_cons.1 hnames).2
  | plain _ _ _ _ ih =>
    obtain ⟨hname, hrest⟩ := List.forall_mem_cons.1 hnames
    exact ih (List.forall_mem_append.2 ⟨hhere, by simpa using hname⟩) hrest

theorem encodeString_intercalate (first : String) (names : List String) :
    0x2F :: Utf8.encodeString ("/".intercalate (first :: names)) =
      (first :: names).flatMap fun name => 0x2F :: Utf8.encodeString name := by
  have hslash : Utf8.encodeString "/" = [0x2F] := by decide
  induction names generalizing first with
  | nil => simp
  | cons name rest ih =>
    rw [List.flatMap_cons, ← ih name, String.intercalate_cons_cons]
    simp [Utf8.encodeString_append, hslash]

/-- Each name of a location is written after a slash. -/
theorem encodeString_rootPath (hne : names ≠ []) :
    Utf8.encodeString (Path.toString ⟨.root, names⟩) =
      names.flatMap fun name => 0x2F :: Utf8.encodeString name := by
  obtain ⟨first, rest, rfl⟩ := List.exists_cons_of_ne_nil hne
  have hslash : "".pushn '/' PathStart.root.slashes = "/" := by decide
  have hempty : "/" ++ "/".intercalate (first :: rest) ≠ "" := by
    simp
  have hbyte : Utf8.encodeString "/" = [0x2F] := by decide
  rw [← encodeString_intercalate, Path.toString]
  simp [hslash, hempty, Utf8.encodeString_append, hbyte]

end

end FileTree

/-! ## The search -/

section

open FileTree

variable {t : FileTree} {l d : Location} {host : Host} {p : Path}

/-- Among the directories from a location up to the root, the nearest that has a settings file. -/
structure NearestProject (t : FileTree) (l d : Location) : Prop where
  above : d <+: l
  holds : t.HoldsFile d projectFileName
  nearest : ∀ d', d' <+: l → t.HoldsFile d' projectFileName → d' <+: d

theorem NearestProject.unique {d' : Location} (h : NearestProject t l d)
    (h' : NearestProject t l d') : d = d' :=
  (h'.nearest d h.above h.holds).eq_of_length_le (h.nearest d' h'.above h'.holds).length_le

/-- What the search finds: the file of the nearest directory that has one, or nothing if none
has. -/
def FindsNearest (t : FileTree) (l : Location) (found : Option Path) : Prop :=
  (∀ q, found = some q ↔ ∃ d, NearestProject t l d ∧ q = ⟨.root, d ++ [projectFileName]⟩) ∧
    (found = none ↔ ∀ d, d <+: l → ¬ t.HoldsFile d projectFileName)

theorem findsNearest_some (h : NearestProject t l d) :
    FindsNearest t l (some ⟨.root, d ++ [projectFileName]⟩) := by
  refine ⟨fun q => ⟨fun hq => ?_, ?_⟩, ?_⟩
  · cases hq
    exact ⟨d, h, rfl⟩
  · rintro ⟨d', hd', rfl⟩
    rw [h.unique hd']
  · simp only [reduceCtorEq, false_iff]
    intro hnone
    exact hnone d h.above h.holds

theorem findsNearest_none (h : ∀ d, d <+: l → ¬ t.HoldsFile d projectFileName) :
    FindsNearest t l none := by
  refine ⟨fun q => ?_, iff_of_true rfl h⟩
  simp only [reduceCtorEq, false_iff]
  rintro ⟨d, hd, -⟩
  exact h d hd.above hd.holds

theorem FindsNearest.concat {name : String} {found : Option Path} (h : FindsNearest t l found)
    (hnone : ¬ t.HoldsFile (l ++ [name]) projectFileName) : FindsNearest t (l ++ [name]) found := by
  have hup : ∀ d, d <+: l → d <+: l ++ [name] := fun d hd => hd.trans (List.prefix_append _ _)
  have habove : ∀ d, d <+: l ++ [name] → t.HoldsFile d projectFileName → d <+: l := by
    intro d hd hholds
    rcases List.prefix_concat_iff.1 hd with rfl | hd
    · exact absurd hholds hnone
    · exact hd
  cases found with
  | none =>
    have hl := h.2.1 rfl
    exact findsNearest_none fun d hd hholds => hl d (habove d hd hholds) hholds
  | some q =>
    obtain ⟨d, hd, rfl⟩ := (h.1 q).1 rfl
    refine findsNearest_some ⟨hup d hd.above, hd.holds, fun d' hd' hholds => ?_⟩
    exact hd.nearest d' (habove d' hd' hholds) hholds

end

end ShellWord
