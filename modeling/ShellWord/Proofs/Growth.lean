import ShellWord.Proofs.Lookup

/-!
# File trees that grow

Making directories and appending to a file takes nothing away from a file tree, and replaces
nothing. `Grows` says so of the tree as a whole; in a tree that grows, a path leads to the same
location as before. `Gains` says what one file gains, and that at most directories are made
otherwise.
-/

namespace ShellWord

namespace FileTree

variable {t : FileTree} {l k : Location} {e : Entry} {content data : Bytes}

/-! ## Entries after a change -/

theorem lookup_cons_of_ne {entries : List (Location × Entry)} (h : k ≠ l) :
    List.lookup k ((l, e) :: entries) = entries.lookup k := by
  rw [List.lookup_cons, beq_false_of_ne h]

theorem lookup_replace (entries : List (Location × Entry)) (l k : Location) (e : Entry) :
    (entries.map fun (key, old) => if key = l then (key, e) else (key, old)).lookup k =
      if k = l then (entries.lookup l).map fun _ => e else entries.lookup k := by
  induction entries with
  | nil => simp
  | cons entry rest ih =>
    obtain ⟨key, old⟩ := entry
    simp only [List.map_cons]
    by_cases hkey : key = l
    · subst hkey
      by_cases hk : k = key
      · simp [hk]
      · rw [if_pos rfl, if_neg hk, lookup_cons_of_ne hk, lookup_cons_of_ne hk, ih, if_neg hk]
    · rw [if_neg hkey, lookup_cons_of_ne (Ne.symm hkey)]
      by_cases hk : k = key
      · simp [hk, hkey]
      · rw [lookup_cons_of_ne hk, lookup_cons_of_ne hk, ih]

theorem get?_put_self (h : l ≠ []) : (t.put l e).get? l = some e := by
  rw [get?, if_neg h, put]
  split
  · next hsome =>
    obtain ⟨old, hold⟩ := Option.isSome_iff_exists.1 hsome
    rw [lookup_replace, if_pos rfl, hold]
    rfl
  · next hnone =>
    rw [List.lookup_append, Option.not_isSome_iff_eq_none.1 hnone]
    simp

theorem get?_put_of_ne (h : k ≠ l) : (t.put l e).get? k = t.get? k := by
  rw [get?, get?, put]
  split_ifs with hroot
  · rfl
  · exact (lookup_replace ..).trans (if_neg h)
  · rw [List.lookup_append, lookup_cons_of_ne h, List.lookup_nil, Option.or_none]

theorem ne_nil_of_get?_file (h : t.get? l = some (.file content)) : l ≠ [] := by
  rintro rfl
  simp [get?] at h

theorem get?_append_self (h : t.get? l = some (.file content)) :
    (t.append l data).get? l = some (.file (content ++ data)) := by
  rw [append, h]
  exact get?_put_self (ne_nil_of_get?_file h)

theorem get?_append_of_ne (h : k ≠ l) : (t.append l data).get? k = t.get? k := by
  rw [append]
  split
  · exact get?_put_of_ne h
  · rfl

end FileTree

/-! ## Growth -/

/-- What may become of an entry: a file may get longer. -/
inductive Entry.Grows : Entry → Entry → Prop
  | same (e : Entry) : Entry.Grows e e
  | longer (content more : Bytes) : Entry.Grows (.file content) (.file (content ++ more))

namespace FileTree

variable {t t' t'' : FileTree} {l : Location} {e : Entry} {data : Bytes}

/-- Every entry of one file tree is in the other, unless it is a file that has got longer. -/
def Grows (t t' : FileTree) : Prop :=
  ∀ l e, t.get? l = some e → ∃ e', t'.get? l = some e' ∧ e.Grows e'

/-- What is not a file stays as it is. -/
theorem Grows.get? (h : t.Grows t') (hl : t.get? l = some e) (hfile : ∀ content, e ≠ .file content) :
    t'.get? l = some e := by
  obtain ⟨e', hl', hgrows⟩ := h l e hl
  cases hgrows with
  | same => exact hl'
  | longer content more => exact absurd rfl (hfile content)

theorem Grows.trans (h : t.Grows t') (h' : t'.Grows t'') : t.Grows t'' := by
  intro l e hl
  obtain ⟨e', hl', hgrows⟩ := h l e hl
  obtain ⟨e'', hl'', hgrows'⟩ := h' l e' hl'
  refine ⟨e'', hl'', ?_⟩
  cases hgrows with
  | same => exact hgrows'
  | longer content more =>
    cases hgrows' with
    | same => exact .longer content more
    | longer _ last =>
      rw [List.append_assoc]
      exact .longer content (more ++ last)

theorem grows_put (h : t.get? l = none) : t.Grows (t.put l e) := by
  intro k old hk
  have hne : k ≠ l := by
    rintro rfl
    rw [h] at hk
    cases hk
  exact ⟨old, (get?_put_of_ne hne).trans hk, .same old⟩

theorem grows_append : t.Grows (t.append l data) := by
  intro k old hk
  by_cases hkl : k = l
  · subst hkl
    cases old with
    | file content => exact ⟨_, get?_append_self hk, .longer content data⟩
    | directory => exact ⟨.directory, by rw [append, hk]; exact hk, .same _⟩
    | link target => exact ⟨.link target, by rw [append, hk]; exact hk, .same _⟩
  · exact ⟨old, (get?_append_of_ne hkl).trans hk, .same old⟩

end FileTree

/-! ## Paths in a tree that grows -/

/-- The location of a place, also of one that holds nothing. -/
def Place.location : Place → Location
  | present l _ => l
  | absent directory name => directory ++ [name]

/-- The entry at a place. -/
def Place.entry? : Place → Option Entry
  | present _ e => some e
  | absent _ _ => none

namespace FileTree

variable {t t' tree : FileTree} {cwd l : Location} {p : Path} {e : Entry} {place : Place}
  {followLast : Bool} {onLink onLink' : Location → List String → Except FileFault Place}
  {before data : Bytes}

theorem get?_of_followNames (hlink : ∀ here names, onLink here names = .ok place →
      t.get? place.location = place.entry?)
    (here : Location) (names : List String)
    (h : followNames t followLast onLink here names = .ok place) :
    t.get? place.location = place.entry? := by
  fun_induction followNames t followLast onLink here names with
  | case1 _ _ hentry | case7 _ _ _ _ _ _ hentry | case9 _ _ _ _ _ _ _ _ hentry =>
    cases h
    exact hentry
  | case2 | case3 | case6 | case8 => cases h
  | case4 _ _ _ ih | case5 _ _ _ _ ih | case11 _ _ _ _ _ _ _ _ _ _ ih => exact ih h
  | case10 => exact hlink _ _ h

/-- What is found at a place is what its location holds. -/
theorem get?_of_locate (h : t.locate cwd followLast p = .ok place) :
    t.get? place.location = place.entry? := by
  have hfollow : ∀ n here names, follow t followLast n here names = .ok place →
      t.get? place.location = place.entry? := by
    intro n
    induction n with
    | zero => exact get?_of_followNames fun _ _ h => by cases h
    | succ n ih => exact get?_of_followNames ih
  rw [locate] at h
  split_ifs at h
  exact hfollow _ _ _ h

/-- In a tree that has grown, names lead to where they led, also if there was nothing yet; only a
link would lead further. -/
theorem followNames_of_grows (hgrows : t.Grows t') (hentry : t'.get? place.location = some e)
    (hnotLink : ∀ target, e ≠ .link target)
    (hlink : ∀ here names, onLink here names = .ok place →
      onLink' here names = .ok (.present place.location e))
    (here : Location) (names : List String)
    (h : followNames t followLast onLink here names = .ok place) :
    followNames t' followLast onLink' here names = .ok (.present place.location e) := by
  have hstays : ∀ {here}, ¬ t.get? here ≠ some .directory → ¬ t'.get? here ≠ some .directory :=
    fun hdirectory => not_not.2 (hgrows.get? (not_not.1 hdirectory) (by simp))
  fun_induction followNames t followLast onLink here names with
  | case2 | case3 | case6 | case8 => cases h
  -- the names lead here
  | case1 here old hhere =>
    cases h
    rw [Place.location] at hentry ⊢
    rw [followNames, hentry]
  -- the last name led to nothing
  | case7 here name hdirectory hdot hdots hshort hnone =>
    cases h
    rw [Place.location] at hentry ⊢
    rw [followNames, if_neg (hstays hdirectory), if_neg hdot, if_neg hdots, if_neg hshort, hentry]
    cases e with
    | directory | file content => rw [followNames, hentry]
    | link target => exact absurd rfl (hnotLink target)
  -- it led to a link, which has stayed
  | case9 here name rest _ _ _ _ target hold =>
    cases h
    rw [Place.location, hgrows.get? hold (by simp)] at hentry
    cases hentry
    exact absurd rfl (hnotLink target)
  -- the names lead on
  | case4 here rest hdirectory ih =>
    rw [followNames, if_neg (hstays hdirectory), if_pos rfl]
    exact ih h
  | case5 here rest hdirectory hdot ih =>
    rw [followNames, if_neg (hstays hdirectory), if_neg hdot, if_pos rfl]
    exact ih h
  | case10 here name rest hdirectory hdot hdots hshort target hold hfollowed =>
    rw [followNames, if_neg (hstays hdirectory), if_neg hdot, if_neg hdots, if_neg hshort,
      hgrows.get? hold (by simp)]
    exact (if_neg hfollowed).trans (hlink _ _ h)
  | case11 here name rest hdirectory hdot hdots hshort old hnotLinkOld hold ih =>
    obtain ⟨new, hnew, hentryGrows⟩ := hgrows _ old hold
    rw [followNames, if_neg (hstays hdirectory), if_neg hdot, if_neg hdots, if_neg hshort, hnew]
    cases hentryGrows with
    | longer => exact ih h
    | same =>
      cases old with
      | directory | file content => exact ih h
      | link target => exact (hnotLinkOld target rfl).elim

theorem locate_of_grows (hgrows : t.Grows t') (hentry : t'.get? place.location = some e)
    (hnotLink : ∀ target, e ≠ .link target) (h : t.locate cwd followLast p = .ok place) :
    t'.locate cwd followLast p = .ok (.present place.location e) := by
  have hfollow : ∀ n here names, follow t followLast n here names = .ok place →
      follow t' followLast n here names = .ok (.present place.location e) := by
    intro n
    induction n with
    | zero => exact followNames_of_grows hgrows hentry hnotLink fun _ _ h => by cases h
    | succ n ih => exact followNames_of_grows hgrows hentry hnotLink ih
  rw [locate] at h ⊢
  split_ifs at h ⊢
  exact hfollow _ _ _ h

theorem find_eq_ok_iff :
    t.find cwd p = .ok (l, e) ↔ t.locate cwd true p = .ok (.present l e) := by
  rw [find]
  cases t.locate cwd true p with
  | error fault => simp [bind, Except.bind]
  | ok place => cases place <;> simp [bind, Except.bind, pure, Except.pure]

/-- In a tree that has grown, a path leads to the same file, which may have got longer. -/
theorem find_of_grows {old : Entry} (hgrows : t.Grows t') (hfind : t.find cwd p = .ok (l, old))
    (hfile : t'.get? l = some (.file data)) : t'.find cwd p = .ok (l, .file data) := by
  rw [find_eq_ok_iff] at hfind ⊢
  have hentry : t'.get? (Place.present l old).location = some (.file data) := hfile
  exact locate_of_grows hgrows hentry (by simp) hfind

/-! ## Making directories and opening a file -/

/-- A location is undisturbed: it holds what it held, or a directory where nothing was. -/
def Undisturbed (old new : Option Entry) : Prop :=
  new = old ∨ old = none ∧ new = some .directory

theorem Undisturbed.trans {old middle new : Option Entry} (h : Undisturbed old middle)
    (h' : Undisturbed middle new) : Undisturbed old new := by
  rcases h with rfl | ⟨rfl, rfl⟩
  · exact h'
  · rcases h' with rfl | ⟨hnone, -⟩
    · exact .inr ⟨rfl, rfl⟩
    · cases hnone

/-- Nothing has changed but directories that were made where nothing was. -/
def AddsDirectories (t t' : FileTree) : Prop := ∀ l, Undisturbed (t.get? l) (t'.get? l)

theorem addsDirectories_refl (t : FileTree) : t.AddsDirectories t := fun _ => .inl rfl

theorem AddsDirectories.trans (h : t.AddsDirectories tree) (h' : tree.AddsDirectories t') :
    t.AddsDirectories t' :=
  fun l => (h l).trans (h' l)

theorem addsDirectories_makeDirectory (h : t.makeDirectory cwd p = .ok t') :
    t.AddsDirectories t' := by
  rw [makeDirectory] at h
  cases hlocate : t.locate cwd false p with
  | error fault =>
    rw [hlocate] at h
    cases h
  | ok place =>
    rw [hlocate] at h
    have hnone := get?_of_locate hlocate
    cases place with
    | present l e => cases h
    | absent directory name =>
      cases h
      intro k
      by_cases hk : k = directory ++ [name]
      · subst hk
        exact .inr ⟨hnone, get?_put_self (by simp)⟩
      · exact .inl (get?_put_of_ne hk)

theorem settle_fst (fault : FileFault) : (t.settle cwd p fault).1 = t := by
  rw [settle]
  split
  · rfl
  · split <;> rfl

/-- Making directories adds directories, also if it fails in the end. -/
theorem addsDirectories_makeDirectories : t.AddsDirectories (t.makeDirectories cwd p).1 := by
  fun_induction makeDirectories t cwd p with
  | case1 p t' hmade => exact addsDirectories_makeDirectory hmade
  | case2 => exact addsDirectories_refl t
  | case3 p _ _ tree e hparent ih | case5 p _ _ tree hparent _ ih =>
    rw [hparent] at ih
    exact ih
  | case4 p _ _ tree hparent t' hmade ih =>
    rw [hparent] at ih
    exact ih.trans (addsDirectories_makeDirectory hmade)
  | case6 p _ _ tree hparent fault _ hmake ih =>
    rw [hparent] at ih
    rw [settle_fst]
    exact ih
  | case7 p fault _ hmake =>
    rw [settle_fst]
    exact addsDirectories_refl t

/-- The file at a location has gained data, which stands behind what the file held before; it may
be new. Nothing else has changed but directories that were made where nothing was. -/
structure Gains (t t' : FileTree) (l : Location) (before data : Bytes) : Prop where
  old : t.get? l = some (.file before) ∨ t.get? l = none ∧ before = []
  new : t'.get? l = some (.file (before ++ data))
  rest : ∀ k ≠ l, Undisturbed (t.get? k) (t'.get? k)

theorem Gains.append (h : t.Gains t' l before data) (more : Bytes) :
    t.Gains (t'.append l more) l before (data ++ more) := by
  constructor
  case old => exact h.old
  case new => rw [get?_append_self h.new, List.append_assoc]
  case rest =>
    intro k hk
    rw [get?_append_of_ne hk]
    exact h.rest k hk

/-- Directories that were made before are among those that may be made. -/
theorem AddsDirectories.gains (h : t.AddsDirectories tree) (h' : tree.Gains t' l before data) :
    t.Gains t' l before data := by
  constructor
  case old =>
    rcases h l with hsame | ⟨hnone, hmade⟩
    · rw [← hsame]
      exact h'.old
    · -- a directory that was made is no file
      have hfile := h'.old
      simp [hmade] at hfile
  case new => exact h'.new
  case rest => exact fun k hk => (h k).trans (h'.rest k hk)

/-- A file that was opened has gained nothing yet, and its path leads to it. -/
theorem gains_openAppend (h : t.openAppend cwd p = .ok (t', l)) :
    ∃ before, t.Gains t' l before [] ∧ t'.find cwd p = .ok (l, .file before) := by
  rw [openAppend] at h
  split at h
  · cases h
  · next content hlocate =>
    cases h
    have hfile : t.get? l = some (.file content) := get?_of_locate hlocate
    exact ⟨content, ⟨.inl hfile, by rw [List.append_nil, hfile], fun _ _ => .inl rfl⟩,
      find_eq_ok_iff.2 hlocate⟩
  · cases h
  · cases h
  · next directory name hlocate =>
    cases h
    have hnone : t.get? (directory ++ [name]) = none := get?_of_locate hlocate
    have hnew : (t.put (directory ++ [name]) (.file [])).get? (directory ++ [name]) =
        some (.file []) := get?_put_self (by simp)
    exact ⟨[], ⟨.inr ⟨hnone, rfl⟩, hnew, fun k hk => .inl (get?_put_of_ne hk)⟩,
      find_eq_ok_iff.2 (locate_of_grows (grows_put hnone) hnew (by simp) hlocate)⟩

end FileTree

end ShellWord
