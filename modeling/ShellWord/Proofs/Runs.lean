import ShellWord.Quote.Single
import Mathlib.Tactic.Common

/-!
# The pass over a word writes its runs

`SingleQuoted.render` reads a word byte by byte, with a group that may be open and high bytes that
may be pending. `SingleQuoted.renderRuns` is the rule: the renderings of the maximal runs, side by
side. The two agree, because what the pass owes at any point belongs to one run, the last one it
has begun.
-/

namespace ShellWord.SingleQuoted

/-! ## The kinds of bytes -/

theorem kind_eq_high_iff {b : UInt8} : Kind.of b = .high ↔ 0x80 ≤ b := by
  rw [← ByteClass.of_eq_high_iff, Kind.of]
  cases ByteClass.of b <;> simp

theorem kind_eq_quote_iff {b : UInt8} : Kind.of b = .quote ↔ b = 0x27 := by
  rw [← ByteClass.of_eq_quote_iff, Kind.of]
  cases ByteClass.of b <;> simp

/-! ## Maximal runs -/

theorem kind_of_runs_eq_cons {word run : Bytes} {k : Kind} {more : List (Kind × Bytes)}
    (h : runs word = (k, run) :: more) : ∀ b ∈ word.head?, Kind.of b = k := by
  cases word with
  | nil => simp [runs] at h
  | cons b rest =>
    simp only [List.head?_cons, Option.mem_def, Option.some.injEq, forall_eq']
    rw [runs] at h
    split at h
    · cases h
      rfl
    · split at h
      · next hk =>
        cases h
        exact hk.symm
      · cases h
        rfl

theorem runs_append_of_kind {k : Kind} {run rest : Bytes} (hne : run ≠ [])
    (hrun : ∀ b ∈ run, Kind.of b = k) (hrest : ∀ b ∈ rest.head?, Kind.of b ≠ k) :
    runs (run ++ rest) = (k, run) :: runs rest := by
  induction run with
  | nil => exact absurd rfl hne
  | cons b more ih =>
    have hb : Kind.of b = k := hrun b List.mem_cons_self
    rw [List.cons_append, runs]
    by_cases hmore : more = []
    · subst hmore
      rw [List.nil_append]
      split
      · next hnil => rw [hb, hnil]
      · next k' run' others hruns =>
        have hk : k' ≠ Kind.of b := by
          cases rest with
          | nil => simp [runs] at hruns
          | cons c tail =>
            rw [← kind_of_runs_eq_cons hruns c rfl, hb]
            exact hrest c rfl
        rw [if_neg hk, hb, hruns]
    · rw [ih hmore fun c hc => hrun c (List.mem_cons_of_mem b hc)]
      simp only [hb, if_true]

theorem mem_runs {word : Bytes} {r : Kind × Bytes} (h : r ∈ runs word) :
    r.2 ≠ [] ∧ ∀ b ∈ r.2, Kind.of b = r.1 := by
  induction word generalizing r with
  | nil => simp [runs] at h
  | cons b rest ih =>
    rw [runs] at h
    split at h
    · simp_all
    · next k run more hruns =>
      have hfirst := ih (r := (k, run)) (by simp [hruns])
      split at h
      · next hk =>
        rcases List.mem_cons.1 h with rfl | hmem
        · refine ⟨by simp, fun c hc => ?_⟩
          rcases List.mem_cons.1 hc with rfl | hc
          · exact hk.symm
          · exact hfirst.2 c hc
        · exact ih (by simp [hruns, hmem])
      · rcases List.mem_cons.1 h with rfl | hmem
        · simp
        · exact ih (by rwa [hruns])

theorem flatMap_snd_runs (word : Bytes) : (runs word).flatMap Prod.snd = word := by
  induction word with
  | nil => rfl
  | cons b rest ih =>
    rw [runs]
    split
    · next hnil => simpa [hnil] using ih
    · next k run more hruns =>
      rw [hruns] at ih
      split
      · simpa using ih
      · simpa using ih

theorem exists_kind_of_mem_runs {word : Bytes} {r : Kind × Bytes} (h : r ∈ runs word) :
    ∃ b ∈ word, Kind.of b = r.1 := by
  obtain ⟨hne, hkind⟩ := mem_runs h
  obtain ⟨b, hb⟩ := List.exists_mem_of_ne_nil r.2 hne
  refine ⟨b, ?_, hkind b hb⟩
  rw [← flatMap_snd_runs word]
  exact List.mem_flatMap.2 ⟨r, h, hb⟩

theorem runs_ne_nil {word : Bytes} (h : word ≠ []) : runs word ≠ [] := by
  intro hnil
  have hword := flatMap_snd_runs word
  rw [hnil] at hword
  exact h hword.symm

theorem renderRuns_append_of_kind {k : Kind} {run rest : Bytes} (hne : run ≠ [])
    (hrun : ∀ b ∈ run, Kind.of b = k) (hrest : ∀ b ∈ rest.head?, Kind.of b ≠ k) :
    renderRuns (run ++ rest) = renderRun k run ++ renderRuns rest := by
  rw [renderRuns, runs_append_of_kind hne hrun hrest, List.flatMap_cons]
  rfl

theorem renderRuns_of_kind {k : Kind} {run : Bytes} (hne : run ≠ [])
    (hrun : ∀ b ∈ run, Kind.of b = k) : renderRuns run = renderRun k run := by
  have hrest : ∀ b ∈ ([] : Bytes).head?, Kind.of b ≠ k := by simp
  have happend := renderRuns_append_of_kind hne hrun hrest
  simpa [renderRuns, runs] using happend

/-- Single quotes are written one by one, so a run of them may be cut anywhere. -/
theorem renderRuns_cons_quote {b : UInt8} (hb : Kind.of b = .quote) (rest : Bytes) :
    renderRuns (b :: rest) = escapedQuote ++ renderRuns rest := by
  rw [renderRuns, renderRuns, runs]
  split
  · next hnil => simp [hb, hnil, renderRun]
  · next k run more hruns =>
    rw [hruns]
    split
    · next hk =>
      rw [hb] at hk
      simp [hk, renderRun]
    · simp [hb, renderRun]

/-! ## One step of the pass -/

theorem State.step_high {b : UInt8} (hb : Kind.of b = .high) (s : State) :
    s.step b = (⟨false, s.pending ++ [b]⟩, s.closed) := by
  rw [Kind.of] at hb
  rw [State.step]
  cases hclass : ByteClass.of b <;> simp_all

theorem State.step_quote {b : UInt8} (hb : Kind.of b = .quote) (s : State) :
    s.step b = (⟨false, []⟩, s.flushed ++ s.closed ++ escapedQuote) := by
  rw [Kind.of] at hb
  rw [State.step]
  cases hclass : ByteClass.of b <;> simp_all

theorem State.step_verbatim {b : UInt8} (hb : Kind.of b = .verbatim) (s : State) :
    s.step b = (⟨true, []⟩, s.flushed ++ (if s.inGroup then [b] else [0x27, b])) := by
  rw [Kind.of] at hb
  rw [State.step]
  cases hclass : ByteClass.of b <;> simp_all

/-- What the pass has not finished: in a state, the bytes that it has read of the last run, and
what it has written for them. A run of single quotes is never unfinished. -/
inductive Unfinished : State → Bytes → Bytes → Prop
  /-- Nothing is owed. -/
  | nothing : Unfinished .start [] []
  /-- A group is open, and the bytes in it are written. -/
  | verbatim {run : Bytes} : run ≠ [] → (∀ b ∈ run, Kind.of b = .verbatim) →
      Unfinished ⟨true, []⟩ run (0x27 :: run)
  /-- High bytes are pending, and nothing is written for them. -/
  | high {run : Bytes} : run ≠ [] → (∀ b ∈ run, Kind.of b = .high) →
      Unfinished ⟨false, run⟩ run []

/-- When the word ends, the unfinished run is written as the rule says. -/
theorem Unfinished.finish {s : State} {run written : Bytes} (h : Unfinished s run written) :
    written ++ s.finish = renderRuns run := by
  cases h with
  | nothing => rfl
  | @verbatim run hne hall =>
    rw [renderRuns_of_kind hne hall]
    simp [State.finish, State.flushed, State.closed, renderRun]
  | @high run hne hall =>
    rw [renderRuns_of_kind hne hall]
    simp [State.finish, State.flushed, State.closed, renderRun, hne]

/-- What a step does about the unfinished run: a part of the word is finished, another run may have
begun, and what is written stays in step with the rule. -/
def StepsOn (s : State) (run written : Bytes) (b : UInt8) : Prop :=
  ∃ finished run' written', written ++ (s.step b).2 = finished ++ written' ∧
    Unfinished (s.step b).1 run' written' ∧
    ∀ rest, renderRuns (run ++ b :: rest) = finished ++ renderRuns (run' ++ rest)

/-- A high byte begins a run, or goes on with one of high bytes. -/
theorem Unfinished.step_high {s : State} {run written : Bytes} (h : Unfinished s run written)
    {b : UInt8} (hb : Kind.of b = .high) : StepsOn s run written b := by
  have hone : Unfinished ⟨false, [b]⟩ [b] [] := .high (by simp) (by simpa using hb)
  cases h with
  | nothing => exact ⟨[], [b], [], by simp [State.step_high hb, State.closed, State.start],
      by rw [State.step_high hb]; exact hone, fun _ => rfl⟩
  | @verbatim run hne hall =>
    -- the group is closed, which finishes its run
    refine ⟨renderRun .verbatim run, [b], [], ?_, by rw [State.step_high hb]; exact hone, ?_⟩
    · simp [State.step_high hb, State.closed, renderRun]
    · intro rest
      rw [renderRuns_append_of_kind hne hall (by simp [hb])]
      rfl
  | @high run hne hall =>
    -- nothing is written as long as high bytes follow each other
    refine ⟨[], run ++ [b], [], ?_, ?_, fun rest => by simp⟩
    · simp [State.step_high hb, State.closed]
    · rw [State.step_high hb]
      exact .high (by simp) (List.forall_mem_append.2 ⟨hall, by simpa using hb⟩)

/-- A single quote finishes the run before it, and itself. -/
theorem Unfinished.step_quote {s : State} {run written : Bytes} (h : Unfinished s run written)
    {b : UInt8} (hb : Kind.of b = .quote) : StepsOn s run written b := by
  cases h with
  | nothing =>
    refine ⟨escapedQuote, [], [], ?_, by rw [State.step_quote hb]; exact .nothing, ?_⟩
    · simp [State.step_quote hb, State.flushed, State.closed, State.start]
    · exact renderRuns_cons_quote hb
  | @verbatim run hne hall =>
    refine ⟨renderRun .verbatim run ++ escapedQuote, [], [], ?_,
      by rw [State.step_quote hb]; exact .nothing, ?_⟩
    · simp [State.step_quote hb, State.flushed, State.closed, renderRun]
    · intro rest
      rw [renderRuns_append_of_kind hne hall (by simp [hb]), renderRuns_cons_quote hb,
        List.append_assoc, List.nil_append]
  | @high run hne hall =>
    refine ⟨renderRun .high run ++ escapedQuote, [], [], ?_,
      by rw [State.step_quote hb]; exact .nothing, ?_⟩
    · simp [State.step_quote hb, State.flushed, State.closed, renderRun, hne]
    · intro rest
      rw [renderRuns_append_of_kind hne hall (by simp [hb]), renderRuns_cons_quote hb,
        List.append_assoc, List.nil_append]

/-- Any other byte begins a run, or goes on with one of its kind. -/
theorem Unfinished.step_verbatim {s : State} {run written : Bytes} (h : Unfinished s run written)
    {b : UInt8} (hb : Kind.of b = .verbatim) : StepsOn s run written b := by
  have hone : Unfinished ⟨true, []⟩ [b] [0x27, b] := .verbatim (by simp) (by simpa using hb)
  cases h with
  | nothing =>
    refine ⟨[], [b], [0x27, b], ?_, by rw [State.step_verbatim hb]; exact hone, fun _ => rfl⟩
    simp [State.step_verbatim hb, State.flushed, State.start]
  | @verbatim run hne hall =>
    refine ⟨[], run ++ [b], 0x27 :: (run ++ [b]), ?_, ?_, fun rest => by simp⟩
    · simp [State.step_verbatim hb, State.flushed]
    · rw [State.step_verbatim hb]
      exact .verbatim (by simp) (List.forall_mem_append.2 ⟨hall, by simpa using hb⟩)
  | @high run hne hall =>
    -- the pending bytes are written before the group is opened
    refine ⟨renderRun .high run, [b], [0x27, b], ?_,
      by rw [State.step_verbatim hb]; exact hone, ?_⟩
    · simp [State.step_verbatim hb, State.flushed, renderRun, hne]
    · intro rest
      rw [renderRuns_append_of_kind hne hall (by simp [hb])]
      rfl

theorem Unfinished.stepsOn {s : State} {run written : Bytes} (h : Unfinished s run written)
    (b : UInt8) : StepsOn s run written b := by
  cases hb : Kind.of b with
  | high => exact h.step_high hb
  | quote => exact h.step_quote hb
  | verbatim => exact h.step_verbatim hb

/-! ## The whole pass -/

/-- From any point of the pass on, what is written for the unfinished run and the rest of the word
is what the rule says. -/
theorem Unfinished.renderFrom_eq {s : State} {run written : Bytes} (h : Unfinished s run written)
    (rest : Bytes) : written ++ renderFrom s rest = renderRuns (run ++ rest) := by
  induction rest generalizing s run written with
  | nil => rw [renderFrom, List.append_nil, h.finish]
  | cons b rest ih =>
    obtain ⟨finished, run', written', hwritten, hnext, hrule⟩ := h.stepsOn b
    calc written ++ renderFrom s (b :: rest)
        = (written ++ (s.step b).2) ++ renderFrom (s.step b).1 rest := by
          rw [renderFrom, List.append_assoc]
      _ = finished ++ (written' ++ renderFrom (s.step b).1 rest) := by
          rw [hwritten, List.append_assoc]
      _ = finished ++ renderRuns (run' ++ rest) := by rw [ih hnext]
      _ = renderRuns (run ++ b :: rest) := (hrule rest).symm

theorem render_eq_renderRuns (word : Bytes) : render word = renderRuns word :=
  Unfinished.nothing.renderFrom_eq word

end ShellWord.SingleQuoted
