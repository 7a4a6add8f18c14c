import ShellWord.Journal.Keeper
import ShellWord.Proofs.LogLines
import ShellWord.Proofs.RunLog

/-!
# The state of the log

Whatever requests were made before, the log is as the last configuration left it. Between requests
it is in one of two states: off, with no file open, or on, with one open file, which is both the
file that is held and the file that is written to. Each request leads from one of these states to
one of them, also if it fails on the way.
-/

namespace ShellWord.Journal

variable {cwd l : Location} {s : Settings} {k k' : Keeper} {stamp : String} {c : Call}

/-! ## Procedures of the keeper -/

namespace Keeping

variable {α β : Type}

theorem runOn_bind {x : Keeping α} {f : α → Keeping β} {a : α} (h : x.runOn k = (.ok a, k')) :
    (x >>= f).runOn k = (f a).runOn k' := by
  simp only [runOn, ExceptT.run_bind, StateT.run_bind] at h ⊢
  rw [h]
  rfl

theorem runOn_bind_error {x : Keeping α} {f : α → Keeping β} {e : KeeperFault}
    (h : x.runOn k = (.error e, k')) : (x >>= f).runOn k = (.error e, k') := by
  simp only [runOn, ExceptT.run_bind, StateT.run_bind] at h ⊢
  rw [h]
  rfl

theorem runOn_get (k : Keeper) : runOn get k = (.ok k, k) := rfl

theorem runOn_modify (f : Keeper → Keeper) (k : Keeper) : runOn (modify f) k = (.ok (), f k) := rfl

theorem runOn_makeDirectories (cwd : Location) (p : Path) (k : Keeper) :
    (makeDirectories cwd p).runOn k =
      ((k.tree.makeDirectories cwd p).2.mapError .file,
        { k with tree := (k.tree.makeDirectories cwd p).1 }) := by
  rw [makeDirectories, runOn_bind (runOn_get k), ← Prod.mk.eta (p := k.tree.makeDirectories cwd p)]
  show runOn (modify _ >>= _) k = _
  rw [runOn_bind (runOn_modify _ k)]
  cases (k.tree.makeDirectories cwd p).2 <;> rfl

theorem runOn_openAppend_error {p : Path} {e : FileError}
    (h : k.tree.openAppend cwd p = .error e) :
    (openAppend cwd p).runOn k = (.error (.file e), k) := by
  rw [openAppend, runOn_bind (runOn_get k), h]
  rfl

theorem runOn_openAppend_ok {p : Path} {tree : FileTree}
    (h : k.tree.openAppend cwd p = .ok (tree, l)) :
    (openAppend cwd p).runOn k =
      (.ok k.opened.length, { k with tree, opened := k.opened ++ [some l] }) := by
  rw [openAppend, runOn_bind (runOn_get k), h]
  rfl

end Keeping

/-! ## What a configuration does -/

namespace Keeper

/-- The log is turned off: there is no logger, and the file that was held is closed. -/
def off (k : Keeper) : Keeper :=
  match k.held with
  | none => { k with logs := false }
  | some handle => { k with logs := false, opened := k.opened.set handle none, held := none }

/-- The log is turned on: a file was opened in a new tree, and calls are logged to it. -/
def on (k : Keeper) (tree : FileTree) (l : Location) (full : Bool) : Keeper where
  tree := tree
  opened := k.opened ++ [some l]
  held := some k.opened.length
  target := some k.opened.length
  logs := true
  full := full

/-- What a configuration can do: it leaves the log off, or it fails once the log is off and some
directories have been made, or it opens a file that has gained nothing yet. -/
inductive Configured (k : Keeper) (cwd : Location) (s : Settings) :
    Except KeeperFault Unit → Keeper → Prop
  | without (hlog : s.log = none) : Configured k cwd s (.ok ()) k.off
  | failed {p : Path} {tree : FileTree} {e : FileError} (hlog : s.log = some p)
      (hadds : k.tree.AddsDirectories tree) :
      Configured k cwd s (.error (.file e)) { k.off with tree }
  | opened {p : Path} {tree : FileTree} {l : Location} {content : Bytes} (hlog : s.log = some p)
      (hgains : k.tree.Gains tree l content []) (hfind : tree.find cwd p = .ok (l, .file content)) :
      Configured k cwd s (.ok ()) (k.off.on tree l s.effectiveLogFull)

theorem off_tree (k : Keeper) : k.off.tree = k.tree := by
  rw [off]
  cases k.held <;> rfl

theorem runOn_closeHeld (k : Keeper) :
    Keeping.closeHeld.runOn { k with logs := false } = (.ok (), k.off) := by
  rw [Keeping.closeHeld, Keeping.runOn_bind (Keeping.runOn_get _), off]
  cases k.held <;> rfl

theorem runOn_openLog_failed {p : Path} {tree : FileTree} {e : FileError} (full : Bool)
    (hmade : k.tree.makeDirectories cwd p.parent = (tree, .error e)) :
    (Keeping.openLog cwd p full).runOn k = (.error (.file e), { k with tree }) := by
  have hrun := Keeping.runOn_makeDirectories cwd p.parent k
  rw [hmade] at hrun
  rw [Keeping.openLog, Keeping.runOn_bind_error hrun]

theorem runOn_openLog_unopened {p : Path} {made : FileTree} {e : FileError} (full : Bool)
    (hmade : k.tree.makeDirectories cwd p.parent = (made, .ok ()))
    (hopen : made.openAppend cwd p = .error e) :
    (Keeping.openLog cwd p full).runOn k = (.error (.file e), { k with tree := made }) := by
  have hrun := Keeping.runOn_makeDirectories cwd p.parent k
  rw [hmade] at hrun
  rw [Keeping.openLog, Keeping.runOn_bind hrun,
    Keeping.runOn_bind_error (Keeping.runOn_openAppend_error (k := { k with tree := made }) hopen)]

theorem runOn_openLog_opened {p : Path} {made tree : FileTree} (full : Bool)
    (hmade : k.tree.makeDirectories cwd p.parent = (made, .ok ()))
    (hopen : made.openAppend cwd p = .ok (tree, l)) :
    (Keeping.openLog cwd p full).runOn k = (.ok (), k.on tree l full) := by
  have hrun := Keeping.runOn_makeDirectories cwd p.parent k
  rw [hmade] at hrun
  rw [Keeping.openLog, Keeping.runOn_bind hrun,
    Keeping.runOn_bind (Keeping.runOn_openAppend_ok (k := { k with tree := made }) hopen)]
  rfl

/-- A configuration goes on from where the log is off. -/
theorem answer_configure (k : Keeper) (cwd : Location) (s : Settings) :
    k.answer (.configure cwd s) =
      (match s.log with
        | none => pure ()
        | some p => Keeping.openLog cwd p s.effectiveLogFull : Keeping Unit).runOn k.off := by
  show (Keeping.configure cwd s).runOn k = _
  rw [Keeping.configure, Keeping.runOn_bind (Keeping.runOn_modify _ k)]
  exact Keeping.runOn_bind (runOn_closeHeld k)

/-- Whatever is kept, a configuration does one of these. -/
theorem configured (k : Keeper) (cwd : Location) (s : Settings) :
    Configured k cwd s (k.answer (.configure cwd s)).1 (k.answer (.configure cwd s)).2 := by
  rw [answer_configure]
  cases hlog : s.log with
  | none => exact .without hlog
  | some p =>
    have hadds : k.tree.AddsDirectories (k.off.tree.makeDirectories cwd p.parent).1 := by
      rw [off_tree]
      exact FileTree.addsDirectories_makeDirectories
    cases hmade : k.off.tree.makeDirectories cwd p.parent with
    | mk made result =>
      rw [hmade] at hadds
      cases result with
      | error e =>
        simp only [runOn_openLog_failed _ hmade]
        exact .failed hlog hadds
      | ok _ =>
        cases hopen : made.openAppend cwd p with
        | error e =>
          simp only [runOn_openLog_unopened _ hmade hopen]
          exact .failed hlog hadds
        | ok result =>
          obtain ⟨tree, l⟩ := result
          obtain ⟨content, hgains, hfind⟩ := FileTree.gains_openAppend hopen
          simp only [runOn_openLog_opened _ hmade hopen]
          exact .opened hlog (hadds.gains hgains) hfind

/-! ## The states between requests -/

/-- The log is off: there is no logger, and no file is open. -/
structure Off (k : Keeper) : Prop where
  logs : k.logs = false
  held : k.held = none
  closed : ∀ file ∈ k.opened, file = none

/-- The log is on: one file is open, the last that was opened, and calls are logged to it. -/
structure On (k : Keeper) (l : Location) : Prop where
  logs : k.logs = true
  handles : ∃ earlier, (∀ file ∈ earlier, file = none) ∧ k.opened = earlier ++ [some l] ∧
    k.held = some earlier.length ∧ k.target = some earlier.length
  file : ∃ content, k.tree.get? l = some (.file content)

/-- A state between requests. -/
def AtRest (k : Keeper) : Prop := k.Off ∨ ∃ l, k.On l

theorem AtRest.off (h : k.AtRest) : k.off.Off := by
  rcases h with h | ⟨l, h⟩
  · rw [Keeper.off, h.held]
    exact ⟨rfl, rfl, h.closed⟩
  · obtain ⟨earlier, hearlier, hopened, hheld, -⟩ := h.handles
    have hset : (earlier ++ [some l]).set earlier.length none = earlier ++ [none] := by
      simp
    rw [Keeper.off, hheld]
    refine ⟨rfl, rfl, ?_⟩
    simp only [hopened, hset]
    exact List.forall_mem_append.2 ⟨hearlier, by simp⟩

theorem Off.withTree (h : k.Off) (tree : FileTree) : { k with tree }.Off :=
  ⟨h.logs, h.held, h.closed⟩

theorem Off.on (h : k.Off) {tree : FileTree} {content : Bytes}
    (hfile : tree.get? l = some (.file content)) (full : Bool) : (k.on tree l full).On l :=
  ⟨rfl, ⟨k.opened, h.closed, rfl, rfl, rfl⟩, content, hfile⟩

theorem Off.answer_record (h : k.Off) (stamp : String) (c : Call) :
    k.answer (.record stamp c) = (.ok (), k) := by
  show (Keeping.record stamp c).runOn k = _
  rw [Keeping.record, Keeping.runOn_bind (Keeping.runOn_get k), h.logs]
  rfl

theorem On.target (h : k.On l) :
    (k.target.bind fun handle => k.opened[handle]?.join) = some l := by
  obtain ⟨earlier, -, hopened, -, htarget⟩ := h.handles
  rw [htarget, hopened]
  simp

theorem On.runOn_write (h : k.On l) (data : Bytes) :
    (Keeping.write data).runOn k = (.ok (), { k with tree := k.tree.append l data }) := by
  rw [Keeping.write, Keeping.runOn_bind (Keeping.runOn_get k), h.target]
  rfl

theorem On.answer_record (h : k.On l) (stamp : String) (c : Call) :
    k.answer (.record stamp c) =
      (.ok (), { k with tree := k.tree.append l (c.line k.full stamp) }) := by
  show (Keeping.record stamp c).runOn k = _
  rw [Keeping.record, Keeping.runOn_bind (Keeping.runOn_get k), if_pos h.logs, h.runOn_write]

theorem On.append (h : k.On l) (data : Bytes) : { k with tree := k.tree.append l data }.On l := by
  obtain ⟨content, hfile⟩ := h.file
  exact ⟨h.logs, h.handles, _, FileTree.get?_append_self hfile⟩

theorem Off.file? (h : k.Off) : k.file? = none := by
  rw [Keeper.file?, h.logs]
  rfl

theorem On.file? (h : k.On l) : k.file? = some l := by
  rw [Keeper.file?, h.logs, if_pos rfl, h.target]

theorem Off.openFiles (h : k.Off) : k.openFiles = [] := by
  rw [Keeper.openFiles, List.filterMap_eq_nil_iff]
  exact h.closed

theorem On.openFiles (h : k.On l) : k.openFiles = [l] := by
  obtain ⟨earlier, hearlier, hopened, -, -⟩ := h.handles
  have hnone : earlier.filterMap id = [] := List.filterMap_eq_nil_iff.2 hearlier
  rw [Keeper.openFiles, hopened, List.filterMap_append, hnone]
  rfl

/-! ## Steps -/

/-- A configuration turns the log on if it has a log and succeeds, and off otherwise. -/
theorem Configured.off_or_on (hk : k.AtRest) {outcome : Except KeeperFault Unit}
    (h : Configured k cwd s outcome k') :
    (¬ (s.log.isSome ∧ outcome = .ok ()) ∧ k'.Off) ∨
      ∃ p l held, s.log = some p ∧ outcome = .ok () ∧ k'.tree.find cwd p = .ok (l, .file held) ∧
        k'.On l ∧ k'.full = s.effectiveLogFull := by
  cases h with
  | without hlog => exact .inl ⟨by simp [hlog], hk.off⟩
  | failed hlog hadds => exact .inl ⟨by simp, hk.off.withTree _⟩
  | opened hlog hgains hfind =>
    have hfile := hgains.new
    exact .inr ⟨_, _, _, hlog, rfl, hfind, hk.off.on hfile _, rfl⟩

theorem Configured.atRest (hk : k.AtRest) {outcome : Except KeeperFault Unit}
    (h : Configured k cwd s outcome k') : k'.AtRest := by
  rcases h.off_or_on hk with ⟨-, hoff⟩ | ⟨p, l, held, -, -, -, hon, -⟩
  · exact .inl hoff
  · exact .inr ⟨l, hon⟩

/-- Each request leads from a state between requests to another one. -/
theorem AtRest.answer (h : k.AtRest) (r : Request) : (k.answer r).2.AtRest := by
  cases r with
  | configure cwd s => exact (configured k cwd s).atRest h
  | record stamp c =>
    rcases h with h | ⟨l, h⟩
    · rw [h.answer_record]
      exact .inl h
    · rw [h.answer_record]
      exact .inr ⟨l, h.append _⟩

theorem after_append (k : Keeper) (requests more : List Request) :
    k.after (requests ++ more) = (k.after requests).after more := List.foldl_append

theorem AtRest.after (h : k.AtRest) (requests : List Request) : (k.after requests).AtRest := by
  induction requests generalizing k with
  | nil => exact h
  | cons r requests ih => exact ih (h.answer r)

theorem atRest_start (t : FileTree) : (start t).AtRest := .inl ⟨rfl, rfl, by simp [start]⟩

theorem off_full (k : Keeper) : k.off.full = k.full := by
  rw [off]
  cases k.held <;> rfl

theorem Off.world (h : k.Off) : k.world = ⟨⟨none, k.full⟩, k.tree⟩ := by
  rw [Keeper.world, h.file?]

theorem On.world (h : k.On l) : k.world = ⟨⟨some l, k.full⟩, k.tree⟩ := by
  rw [Keeper.world, h.file?]

/-- A configuration of what is kept is a configuration of what is seen of it. -/
theorem AtRest.world_configure (h : k.AtRest) (cwd : Location) (s : Settings) :
    (k.world.configure cwd s).1 = (k.answer (.configure cwd s)).2.world ∧
      (k.world.configure cwd s).2.mapError .file = (k.answer (.configure cwd s)).1 := by
  have hoff (tree : FileTree) : { k.off with tree }.world = { k.world.off with tree } := by
    rw [(h.off.withTree tree).world]
    show _ = (⟨⟨none, k.full⟩, tree⟩ : World)
    rw [off_full]
  have htree : k.world.tree = k.off.tree := (off_tree k).symm
  rw [answer_configure, World.configure]
  cases hlog : s.log with
  | none =>
    have hsame : k.off.world = k.world.off := by
      rw [h.off.world, off_full, off_tree]
      rfl
    exact ⟨hsame.symm, rfl⟩
  | some p =>
    cases hmade : k.off.tree.makeDirectories cwd p.parent with
    | mk made result =>
      simp only [htree, hmade]
      cases result with
      | error e =>
        simp only [runOn_openLog_failed _ hmade]
        exact ⟨(hoff made).symm, rfl⟩
      | ok _ =>
        cases hopen : made.openAppend cwd p with
        | error e =>
          simp only [runOn_openLog_unopened _ hmade hopen, hopen]
          exact ⟨(hoff made).symm, rfl⟩
        | ok result =>
          obtain ⟨tree, l⟩ := result
          obtain ⟨content, hgains, -⟩ := FileTree.gains_openAppend hopen
          simp only [runOn_openLog_opened _ hmade hopen, hopen]
          exact ⟨(h.off.on hgains.new s.effectiveLogFull).world.symm, rfl⟩

theorem AtRest.world_record (h : k.AtRest) (stamp : String) (c : Call) :
    k.world.record stamp c = (k.answer (.record stamp c)).2.world := by
  rcases h with h | ⟨l, h⟩
  · rw [h.answer_record, h.world]
    rfl
  · rw [h.answer_record, (h.append _).world, h.world]
    rfl

/-! ## The last configuration -/

/-- The requests to log calls, each with its stamp. -/
def records (calls : List (String × Call)) : List Request :=
  calls.map fun call => .record call.1 call.2

theorem Off.after_records (h : k.Off) (calls : List (String × Call)) :
    k.after (records calls) = k := by
  induction calls with
  | nil => rfl
  | cons call calls ih =>
    show (k.answer (.record call.1 call.2)).2.after (records calls) = k
    rw [h.answer_record, ih]

theorem On.after_records (h : k.On l) (calls : List (String × Call)) :
    (k.after (records calls)).On l ∧ (k.after (records calls)).full = k.full := by
  induction calls generalizing k with
  | nil => exact ⟨h, rfl⟩
  | cons call calls ih =>
    have hrest := ih (h.append (call.2.line k.full call.1))
    show ((k.answer (.record call.1 call.2)).2.after (records calls)).On l ∧
      ((k.answer (.record call.1 call.2)).2.after (records calls)).full = k.full
    rw [h.answer_record]
    exact hrest

/-- The last configuration among requests, its outcome, and what was kept right after it. -/
def LastConfigured (t : FileTree) (requests : List Request) (cwd : Location) (s : Settings)
    (outcome : Except KeeperFault Unit) (k : Keeper) : Prop :=
  ∃ before calls, requests = before ++ .configure cwd s :: records calls ∧
    ((start t).after before).answer (.configure cwd s) = (outcome, k)

/-- Calls are not logged, and no file is open. -/
structure IsSilent (k : Keeper) : Prop where
  logs : k.logs = false
  openFiles : k.openFiles = []
  record : ∀ stamp c, k.answer (.record stamp c) = (.ok (), k)

/-- A call that is logged appends one line to a file that holds something so far, and changes
nothing else; no other file is open. -/
structure AppendsTo (k : Keeper) (l : Location) (content : Bytes) (full : Bool) : Prop where
  logs : k.logs = true
  openFiles : k.openFiles = [l]
  file : k.tree.get? l = some (.file content)
  record : ∀ stamp c, ∃ text tree, k.answer (.record stamp c) = (.ok (), { k with tree }) ∧
    IsLineOf full stamp c text ∧ tree.get? l = some (.file (content ++ text)) ∧
    ∀ other ≠ l, tree.get? other = k.tree.get? other

theorem Off.isSilent (h : k.Off) : k.IsSilent := ⟨h.logs, h.openFiles, h.answer_record⟩

theorem On.appendsTo (h : k.On l) : ∃ content, k.AppendsTo l content k.full := by
  obtain ⟨content, hfile⟩ := h.file
  refine ⟨content, h.logs, h.openFiles, hfile, fun stamp c => ?_⟩
  exact ⟨c.line k.full stamp, _, h.answer_record stamp c, isLineOf_line _ _ _,
    FileTree.get?_append_self hfile, fun other hother => FileTree.get?_append_of_ne hother⟩

/-- What the last configuration came to is how calls are logged since. -/
theorem LastConfigured.cases {t : FileTree} {requests : List Request}
    {outcome : Except KeeperFault Unit} (h : LastConfigured t requests cwd s outcome k) :
    (¬ (s.log.isSome ∧ outcome = .ok ()) ∧ ((start t).after requests).IsSilent) ∨
      ∃ p l held content, s.log = some p ∧ outcome = .ok () ∧
        k.tree.find cwd p = .ok (l, .file held) ∧
        ((start t).after requests).AppendsTo l content s.effectiveLogFull := by
  obtain ⟨before, calls, rfl, hk⟩ := h
  have hrest : ((start t).after before).AtRest := (atRest_start t).after before
  have hconfigured := configured ((start t).after before) cwd s
  have hafter : (start t).after (before ++ .configure cwd s :: records calls) =
      k.after (records calls) := by
    rw [after_append]
    show (((start t).after before).answer (.configure cwd s)).2.after (records calls) = _
    rw [hk]
  rw [hk] at hconfigured
  rw [hafter]
  rcases hconfigured.off_or_on hrest with ⟨hno, hoff⟩ | ⟨p, l, held, hlog, hok, hfind, hon, hfull⟩
  · rw [hoff.after_records]
    exact .inl ⟨hno, hoff.isSilent⟩
  · obtain ⟨honAfter, hfullAfter⟩ := hon.after_records calls
    obtain ⟨content, happends⟩ := honAfter.appendsTo
    rw [hfullAfter, hfull] at happends
    exact .inr ⟨p, l, held, content, hlog, hok, hfind, happends⟩

end Keeper

end ShellWord.Journal
