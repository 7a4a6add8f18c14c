import ShellWord.Proofs.Growth
import ShellWord.Proofs.RunStatus

/-!
# What the log of a run tells

A run that quotes words keeps its log as it goes. `HasLogged` is the invariant: since the run began,
the log has gained certain lines, and the rest of the file tree is as it was. Opening the log begins
with no line; each word that is quoted adds one, and the first that is rejected adds the last.
-/

namespace ShellWord

/-! ## Lines -/

namespace Journal

/-- The line of an object. -/
def objectLine (members : List (String × Item)) : Bytes :=
  ascii (String.ofList (objectChars members)) ++ [0x0A]

/-- The members that show a word; only a full log does. -/
def inputMembers (full : Bool) (word : Bytes) : List (String × Item) :=
  if full then [("input", .text (Literal.ofBytes word))] else []

/-- The line that tells that a word was quoted. -/
def quotedLine (full : Bool) (d : Dialect) (stamp : String) (word : Bytes) : Bytes :=
  objectLine ([("dialect", .text d.name), ("size", .number word.length)] ++
    inputMembers full word ++
    [("event", .text "quoted"), ("ts", .text stamp), ("level", .text "info")])

/-- The line that tells that a word was rejected, and why. -/
def rejectedLine (full : Bool) (d : Dialect) (stamp : String) (word : Bytes) (error : String) :
    Bytes :=
  objectLine ([("dialect", .text d.name), ("size", .number word.length),
    ("error", .text error)] ++ inputMembers full word ++
    [("event", .text "rejected"), ("ts", .text stamp), ("level", .text "warning")])

/-- The lines that tell that words were quoted one after another, the first at a tick of the
clock. -/
def quotedLines (full : Bool) (d : Dialect) (clock : Nat → String) (tick : Nat)
    (words : List Bytes) : Bytes :=
  (words.zipIdx tick).flatMap fun (word, i) => quotedLine full d (clock i) word

variable {full : Bool} {d : Dialect} {clock : Nat → String} {stamp : String}

theorem quotedLines_cons (tick : Nat) (word : Bytes) (rest : List Bytes) :
    quotedLines full d clock tick (word :: rest) =
      quotedLine full d (clock tick) word ++ quotedLines full d clock (tick + 1) rest := by
  rw [quotedLines, List.zipIdx_cons, List.flatMap_cons, quotedLines]

theorem line_quoted (word : Bytes) :
    Call.line full stamp
        { event := "quoted", dialect := d, size := word.length, data := some word } =
      quotedLine full d stamp word := by
  cases full <;> rfl

example :
    quotedLine false .sh "now" [0x61] =
      ascii ("\x7b\"dialect\": \"sh\", \"size\": 1, \"event\": \"quoted\", \"ts\": \"now\", " ++
        "\"level\": \"info\"\x7d\n") := by decide +kernel

theorem line_rejected (word : Bytes) (error : String) :
    Call.line full stamp
        { event := "rejected", dialect := d, size := word.length, data := some word,
          error := some error } =
      rejectedLine full d stamp word error := by
  cases full <;> rfl

/-- A log that was set up is off, or it is the file that was opened once its directory had been
made. -/
theorem World.cases_of_configure {w w' : World} {cwd : Location} {s : Settings}
    (h : w.configure cwd s = (w', .ok ())) :
    s.log = none ∧ w' = w.off ∨
      ∃ p tree l, s.log = some p ∧
        (w.tree.makeDirectories cwd p.parent).1.openAppend cwd p = .ok (tree, l) ∧
        w' = ⟨⟨some l, s.effectiveLogFull⟩, tree⟩ := by
  rw [configure] at h
  split at h
  · next hlog =>
    cases h
    exact .inl ⟨hlog, rfl⟩
  · next p hlog =>
    split at h
    · cases h
    · next made hmade =>
      split at h
      · cases h
      · next tree l hopen =>
        cases h
        exact .inr ⟨p, tree, l, hlog, by rw [hmade]; exact hopen, rfl⟩

end Journal

open Journal (rejectedLine quotedLines)

namespace Command

/-- Since a run began on a host, its log has gained data. Without a log nothing has changed; with
one, its path leads to the file that has gained the data. -/
inductive HasLogged (host : Host) (s : Settings) (data : Bytes) : Journal.World → Prop
  | off {full : Bool} (hlog : s.log = none) : HasLogged host s data ⟨⟨none, full⟩, host.tree⟩
  | on {tree : FileTree} {p : Path} {l : Location} {before : Bytes} (hlog : s.log = some p)
      (hfind : tree.find host.cwd p = .ok (l, .file (before ++ data)))
      (hgains : host.tree.Gains tree l before data) :
      HasLogged host s data ⟨⟨some l, s.effectiveLogFull⟩, tree⟩

section

variable {host : Host} {clock : Nat → String} {journal : Journal} {s : Settings} {d : Dialect}
  {data : Bytes} {w : Journal.World}

theorem HasLogged.record (h : HasLogged host s data w) (stamp : String) (c : Journal.Call) :
    HasLogged host s (data ++ c.line s.effectiveLogFull stamp) (w.record stamp c) := by
  cases h with
  | off hlog => exact .off hlog
  | on hlog hfind hgains =>
    -- appending does not change where the path of the log leads
    have hnew := hgains.append (c.line s.effectiveLogFull stamp)
    exact .on hlog (FileTree.find_of_grows FileTree.grows_append hfind hnew.new) hnew

theorem hasLogged_openLog (h : (openLog host journal s).2 = .ok ()) :
    HasLogged host s [] (openLog host journal s).1 := by
  have hopened : openLog host journal s = ((openLog host journal s).1, .ok ()) := Prod.ext rfl h
  rcases Journal.World.cases_of_configure hopened with ⟨hlog, hw⟩ | ⟨p, tree, l, hlog, hopen, hw⟩
  · rw [hw]
    exact .off hlog
  · rw [hw]
    obtain ⟨before, hgains, hfind⟩ := FileTree.gains_openAppend hopen
    exact .on hlog (by rw [hfind, List.append_nil])
      (FileTree.addsDirectories_makeDirectories.gains hgains)

/-- Words without a zero byte are quoted and logged one after another; then comes the rest. -/
theorem HasLogged.quoteFrom_append (h : HasLogged host s data w) (clock : Nat → String)
    (d : Dialect) {words : List Bytes} (hwords : ∀ word ∈ words, 0 ∉ word) (tick : Nat)
    (out : Bytes) (rest : List Bytes) :
    ∃ w' out', HasLogged host s (data ++ quotedLines s.effectiveLogFull d clock tick words) w' ∧
      quoteFrom clock d tick w out (words ++ rest) =
        quoteFrom clock d (tick + words.length) w' out' rest := by
  induction words generalizing data w tick out with
  | nil => exact ⟨w, out, by simpa [quotedLines] using h, rfl⟩
  | cons word more ih =>
    have hnext := h.record (clock tick)
      { event := "quoted", dialect := d, size := word.length, data := some word }
    rw [Journal.line_quoted] at hnext
    obtain ⟨w', out', hw', hquote⟩ := ih hnext
      (fun v hv => hwords v (List.mem_cons_of_mem word hv)) (tick + 1)
      ((if tick = 0 then out else out ++ [0x20]) ++ d.write word)
    refine ⟨w', out', by rwa [Journal.quotedLines_cons, ← List.append_assoc], ?_⟩
    rw [List.cons_append, quoteFrom, Dialect.quoteOnto_eq,
      Dialect.quote_eq_write (hwords word List.mem_cons_self)]
    simp only [Except.map]
    rw [hquote, List.length_cons, Nat.add_right_comm, Nat.add_assoc]

/-- If no word has a zero byte, the log gains one line for each, in order. -/
theorem hasLogged_quoteWords (h : HasLogged host s [] w) {words : List Bytes}
    (hwords : ∀ word ∈ words, 0 ∉ word) :
    HasLogged host s (quotedLines s.effectiveLogFull d clock 0 words)
      (quoteWords clock d w words).1 := by
  obtain ⟨w', out', hw', hquote⟩ := h.quoteFrom_append clock d hwords 0 [] []
  rw [List.append_nil] at hquote
  rw [quoteWords, hquote]
  exact hw'

/-- At the first word that is rejected the log gains its last line. -/
theorem hasLogged_quoteWords_rejected (h : HasLogged host s [] w) {before after : List Bytes}
    {word : Bytes} {e : NulByte} (hbefore : ∀ v ∈ before, 0 ∉ v) (hword : d.quote word = .error e) :
    HasLogged host s (quotedLines s.effectiveLogFull d clock 0 before ++
        rejectedLine s.effectiveLogFull d (clock before.length) word e.message)
      (quoteWords clock d w (before ++ word :: after)).1 := by
  obtain ⟨w', out', hw', hquote⟩ :=
    h.quoteFrom_append clock d hbefore 0 [] (word :: after)
  rw [quoteWords, hquote, quoteFrom, Dialect.quoteOnto_eq, hword, Nat.zero_add,
    ← Journal.line_rejected]
  exact hw'.record _ _

end

end Command

end ShellWord
