import ShellWord.Proofs.Appending

/-!
# The single-quoted form, run by run

A word falls into maximal runs in exactly one way, and the single-quoted form is what is written for
each of them, side by side. The pass that writes it never has a group open while high bytes are
pending, at no point between two of its actions.
-/

namespace ShellWord.SingleQuoted

/-! ## Falling into maximal runs -/

/-- A word falls into these runs: none is empty, each has bytes of one kind only, and neighbours
differ in kind, so that none can be made longer. -/
structure MaximalRuns (word : Bytes) (rs : List (Kind × Bytes)) : Prop where
  whole : rs.flatMap Prod.snd = word
  ne_nil : ∀ r ∈ rs, r.2 ≠ []
  of_kind : ∀ r ∈ rs, ∀ b ∈ r.2, Kind.of b = r.1
  maximal : rs.IsChain fun r s => r.1 ≠ s.1

theorem isChain_runs (word : Bytes) : (runs word).IsChain fun r s => r.1 ≠ s.1 := by
  induction word with
  | nil => exact .nil
  | cons b rest ih =>
    rw [runs]
    split
    · exact .singleton _
    · next k run more hruns =>
      rw [hruns] at ih
      split
      · -- the first run gets longer and keeps its kind
        have hmore := List.isChain_cons.1 ih
        exact List.isChain_cons.2 hmore
      · next hk => exact ih.cons_cons (Ne.symm hk)

theorem maximalRuns_runs (word : Bytes) : MaximalRuns word (runs word) where
  whole := flatMap_snd_runs word
  ne_nil _ hr := (mem_runs hr).1
  of_kind _ hr := (mem_runs hr).2
  maximal := isChain_runs word

theorem MaximalRuns.tail {word : Bytes} {r : Kind × Bytes} {more : List (Kind × Bytes)}
    (h : MaximalRuns word (r :: more)) : MaximalRuns (more.flatMap Prod.snd) more where
  whole := rfl
  ne_nil s hs := h.ne_nil s (List.mem_cons_of_mem r hs)
  of_kind s hs := h.of_kind s (List.mem_cons_of_mem r hs)
  maximal := h.maximal.tail

theorem MaximalRuns.head_kind {word : Bytes} {r : Kind × Bytes} {more : List (Kind × Bytes)}
    (h : MaximalRuns word (r :: more)) :
    ∀ b ∈ (more.flatMap Prod.snd).head?, Kind.of b ≠ r.1 := by
  intro b hb
  cases more with
  | nil => simp at hb
  | cons s others =>
    have hs : s ∈ r :: s :: others := by simp
    obtain ⟨c, run, hrun⟩ := List.exists_cons_of_ne_nil (h.ne_nil s hs)
    have hbc : b = c := by simpa [hrun, eq_comm] using hb
    have hkind : Kind.of c = s.1 := h.of_kind s hs c (by simp [hrun])
    have hneighbours : r.1 ≠ s.1 := h.maximal.rel_head? rfl
    rw [hbc, hkind]
    exact hneighbours.symm

/-- There is only one way to fall into maximal runs. -/
theorem MaximalRuns.eq_runs {word : Bytes} {rs : List (Kind × Bytes)} (h : MaximalRuns word rs) :
    rs = runs word := by
  induction rs generalizing word with
  | nil =>
    rw [← h.whole]
    rfl
  | cons r more ih =>
    have hne := h.ne_nil r List.mem_cons_self
    have hkind := h.of_kind r List.mem_cons_self
    calc r :: more
        = (r.1, r.2) :: runs (more.flatMap Prod.snd) := by rw [← ih h.tail]
      _ = runs (r.2 ++ more.flatMap Prod.snd) := (runs_append_of_kind hne hkind h.head_kind).symm
      _ = runs word := by rw [← h.whole, List.flatMap_cons]

theorem maximalRuns_iff {word : Bytes} {rs : List (Kind × Bytes)} :
    MaximalRuns word rs ↔ rs = runs word := by
  constructor
  · exact MaximalRuns.eq_runs
  · rintro rfl
    exact maximalRuns_runs word

/-! ## The actions for one byte -/

namespace State

theorem perform_append (s : State) (actions more : List Action) :
    s.perform (actions ++ more) =
      (((s.perform actions).1.perform more).1,
        (s.perform actions).2 ++ ((s.perform actions).1.perform more).2) := by
  induction actions generalizing s with
  | nil => rfl
  | cons a rest ih => simp only [List.cons_append, perform, ih, List.append_assoc]

theorem perform_flushing (s : State) : s.perform s.flushing = (⟨s.inGroup, []⟩, s.flushed) := by
  obtain ⟨inGroup, pending⟩ := s
  cases pending with
  | nil => rfl
  | cons b more => simp [flushing, perform, Action.on, flushed]

theorem perform_closing (s : State) : s.perform s.closing = (⟨false, s.pending⟩, s.closed) := by
  obtain ⟨inGroup, pending⟩ := s
  cases inGroup with
  | false => rfl
  | true => rfl

theorem perform_opening (s : State) :
    s.perform s.opening = (⟨true, s.pending⟩, if s.inGroup then [] else [0x27]) := by
  obtain ⟨inGroup, pending⟩ := s
  cases inGroup with
  | false => rfl
  | true => rfl

theorem perform_actions (s : State) (b : UInt8) : s.perform (s.actions b) = s.step b := by
  -- flushing leaves the group as it was, so closing and opening are not changed by it
  have hclosing : s.closing = (⟨s.inGroup, []⟩ : State).closing := rfl
  have hopening : s.opening = (⟨s.inGroup, []⟩ : State).opening := rfl
  rw [actions, step]
  cases ByteClass.of b with
  | high =>
    simp only [perform_append, perform_closing, perform, Action.on, List.append_nil]
  | quote =>
    simp only [perform_append, perform_flushing, hclosing, perform_closing, perform, Action.on,
      List.append_nil]
    simp [closed]
  | bare | literal | control | nul =>
    simp only [perform_append, perform_flushing, hopening, perform_opening, perform, Action.on,
      List.append_nil]
    cases s.inGroup <;> simp

/-! ## No group is open while high bytes are pending -/

/-- Not both at once: an open group and pending bytes. -/
def Apart (s : State) : Prop := s.inGroup = false ∨ s.pending = []

/-- What an action takes for granted: a byte is kept only outside a group, and a group is opened only
when nothing is pending. -/
def Admits (s : State) : Action → Prop
  | .keep _ => s.inGroup = false
  | .openGroup => s.pending = []
  | .closeGroup | .flush | .coverQuote | .put _ => True

/-- Each of the actions finds what it takes for granted when its turn comes. -/
def AdmitsAll (s : State) : List Action → Prop
  | [] => True
  | a :: rest => s.Admits a ∧ (a.on s).1.AdmitsAll rest

variable {s : State}

theorem Apart.on {a : Action} (h : s.Apart) (ha : s.Admits a) : (a.on s).1.Apart := by
  cases a with
  | keep b => exact .inl ha
  | openGroup => exact .inr ha
  | closeGroup => exact .inl rfl
  | flush => exact .inr rfl
  | coverQuote => exact h
  | put b => exact h

theorem Apart.through {actions : List Action} (h : s.Apart) (hall : s.AdmitsAll actions) :
    ∀ t ∈ s.through actions, t.Apart := by
  induction actions generalizing s with
  | nil => simpa [State.through] using h
  | cons a rest ih =>
    obtain ⟨ha, hrest⟩ := hall
    rw [State.through]
    exact List.forall_mem_cons.2 ⟨h, ih (h.on ha) hrest⟩

theorem admitsAll_actions (s : State) (b : UInt8) : s.AdmitsAll (s.actions b) := by
  obtain ⟨inGroup, pending⟩ := s
  rw [actions]
  cases ByteClass.of b with
  | high => cases inGroup <;> simp [closing, AdmitsAll, Admits, Action.on]
  | quote =>
    cases inGroup <;> cases pending <;>
      simp [flushing, closing, AdmitsAll, Admits]
  | bare | literal | control | nul =>
    cases inGroup <;> cases pending <;>
      simp [flushing, opening, AdmitsAll, Admits, Action.on]

theorem perform_mem_through (s : State) (actions : List Action) :
    (s.perform actions).1 ∈ s.through actions := by
  induction actions generalizing s with
  | nil => exact List.mem_singleton.2 rfl
  | cons a rest ih => exact List.mem_cons_of_mem s (ih (a.on s).1)

/-- A step keeps the two apart, at each point between its actions and behind the last of them. -/
theorem Apart.step (h : s.Apart) (b : UInt8) :
    (∀ t ∈ s.through (s.actions b), t.Apart) ∧ (s.step b).1.Apart := by
  have hthrough := h.through (admitsAll_actions s b)
  refine ⟨hthrough, ?_⟩
  rw [← perform_actions]
  exact hthrough _ (perform_mem_through s (s.actions b))

end State

/-- So does the whole pass. -/
theorem apart_statesFrom {s : State} (h : s.Apart) (word : Bytes) :
    ∀ t ∈ statesFrom s word, t.Apart := by
  induction word generalizing s with
  | nil => simpa [statesFrom] using h
  | cons b rest ih =>
    obtain ⟨hthrough, hnext⟩ := h.step b
    rw [statesFrom]
    exact List.forall_mem_append.2 ⟨hthrough, ih hnext⟩

/-! ## The form -/

theorem renderRun_eq (run : Bytes) :
    renderRun .high run = ascii "\"$(printf '" ++ run.flatMap octal ++ ascii "')\"" ∧
    renderRun .quote run = run.flatMap (fun _ => ascii "\\'") ∧
    renderRun .verbatim run = ascii "'" ++ run ++ ascii "'" := by
  have hopening : ascii "\"$(printf '" = printfOpening := by decide
  have hclosing : ascii "')\"" = printfClosing := by decide
  have hcovered : ascii "\\'" = escapedQuote := by decide
  have hquote : ascii "'" = [0x27] := by decide
  rw [hopening, hclosing, hcovered, hquote]
  exact ⟨rfl, rfl, rfl⟩

open Reading (isOctalDigit byteOfDigits? byteOfDigits_octalDigits) in
/-- The single-quoted form of a word is added to any buffer as what is written for the maximal runs
of the word: a run of high bytes as one substitution of `printf` with three octal digits for each
byte, each single quote behind a backslash, and a run of other bytes between two single quotes. At
no point, also between two actions for one byte, is a group open while high bytes are pending. -/
theorem writes_maximal_runs (word : Bytes) :
    ∃ rs, (∀ rs', MaximalRuns word rs' ↔ rs' = rs) ∧
      (∀ buffer, (writingFrom .start word).runOn buffer =
        (.ok (), buffer ++ rs.flatMap fun r => renderRun r.1 r.2)) ∧
      (∀ b, (Kind.of b = .high ↔ 0x80 ≤ b) ∧ (Kind.of b = .quote ↔ b = 0x27)) ∧
      (∀ run, renderRun .high run = ascii "\"$(printf '" ++ run.flatMap octal ++ ascii "')\"" ∧
        renderRun .quote run = run.flatMap (fun _ => ascii "\\'") ∧
        renderRun .verbatim run = ascii "'" ++ run ++ ascii "'") ∧
      (∀ b, 0x80 ≤ b → ∃ x y z, octal b = [0x5C, x, y, z] ∧ isOctalDigit x = true ∧
        isOctalDigit y = true ∧ isOctalDigit z = true ∧ byteOfDigits? 8 [x, y, z] = some b) ∧
      (∀ s b, State.perform s (s.actions b) = s.step b) ∧
      ∀ s ∈ statesFrom .start word, s.inGroup = false ∨ s.pending = [] := by
  refine ⟨runs word, fun rs' => maximalRuns_iff, fun buffer => ?_,
    fun b => ⟨kind_eq_high_iff, kind_eq_quote_iff⟩, renderRun_eq, fun b hb => ?_,
    State.perform_actions, apart_statesFrom (.inl rfl) word⟩
  · have hwrites := SingleQuoted.writes .start word buffer
    rw [← render, render_eq_renderRuns] at hwrites
    exact hwrites
  · have hzero : b ≠ 0 := (Reading.ne_of_kind_high (kind_eq_high_iff.2 hb)).1
    exact ⟨_, _, _, rfl, byteOfDigits_octalDigits b hzero⟩

end ShellWord.SingleQuoted
