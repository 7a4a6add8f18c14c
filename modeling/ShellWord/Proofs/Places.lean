import ShellWord.Proofs.Ascii
import ShellWord.Proofs.RoundTrip

/-!
# Where the bytes of a quoted word stand

Reading a text piece by piece, a shell comes to places where it is outside quotes, and constructs
begin there. In what is written for the dialect without escapes, every byte that could be taken for
something else stands in such a construct: inside single quotes, or in a substitution of `printf`
for a run of high bytes.
-/

namespace ShellWord.Reading

open SingleQuoted (Kind runs renderRun renderRuns printfGroup)

variable {k : Constructs} {word pre post run : Bytes} {b : UInt8}

/-! ## Places -/

/-- Behind the text the shell is outside quotes: whatever follows is read as the rest of a word. -/
def EndsOutside (k : Constructs) (text : Bytes) : Prop :=
  ∀ w, ∃ w', ∀ after, word? k w (text ++ after) = word? k w' after

/-- A construct begins where the shell is outside quotes, and between its parts `inner` and `rest`
is the byte that stands between `pre` and `post`. -/
def StandsIn (k : Constructs) (inner rest pre post : Bytes) : Prop :=
  ∃ before after, EndsOutside k before ∧ pre = before ++ inner ∧ post = rest ++ after

/-- The byte between `pre` and `post` stands inside a group `'...'`. -/
def InSingleQuotes (k : Constructs) (pre post : Bytes) : Prop :=
  ∃ group more, 0x27 ∉ group ∧ 0x27 ∉ more ∧ StandsIn k (0x27 :: group) (more ++ [0x27]) pre post

/-- The byte between `pre` and `post` is the dollar sign of the substitution for a run. -/
def OpensSubstitution (k : Constructs) (run pre post : Bytes) : Prop :=
  ∃ rest, printfGroup run = 0x22 :: 0x24 :: rest ∧ StandsIn k [0x22] rest pre post

theorem endsOutside_nil : EndsOutside k [] := fun w => ⟨w, fun _ => rfl⟩

theorem endsOutside_of_spells {text data : Bytes} (h : Spells k text data) : EndsOutside k text :=
  fun w => ⟨some (w.getD [] ++ data), word?_append h w⟩

/-- A shell that knows `printf` is outside quotes behind each run. -/
theorem endsOutside_runs (hk : k.printf = true) {rs : List (Kind × Bytes)}
    (h : ∀ r ∈ rs, r ∈ runs word) : EndsOutside k (rs.flatMap fun r => renderRun r.1 r.2) := by
  by_cases hne : rs = []
  · subst hne
    exact endsOutside_nil
  · refine endsOutside_of_spells (spells_flatMap (g := Prod.snd) hne fun r hr => ?_)
    obtain ⟨hrun, hkind⟩ := SingleQuoted.mem_runs (h r hr)
    exact spells_renderRun hrun hkind fun _ => hk

/-! ## In the single-quoted form -/

theorem exists_of_flatMap_eq_append {α β : Type} {f : α → List β} {l : List α} {pre post : List β}
    {b : β} (h : l.flatMap f = pre ++ b :: post) :
    ∃ before a after inner rest, l = before ++ a :: after ∧ f a = inner ++ b :: rest ∧
      pre = before.flatMap f ++ inner ∧ post = rest ++ after.flatMap f := by
  induction l generalizing pre with
  | nil => simp at h
  | cons a l ih =>
    rw [List.flatMap_cons] at h
    rcases List.append_eq_append_iff.1 h with ⟨more, hpre, hl⟩ | ⟨inner, ha, hrest⟩
    -- the element comes behind `f a`
    · obtain ⟨before, a', after, inner, rest, hl, ha', hmore, hpost⟩ := ih hl
      refine ⟨a :: before, a', after, inner, rest, by rw [hl]; rfl, ha', ?_, hpost⟩
      rw [hpre, hmore, List.flatMap_cons, List.append_assoc]
    -- the element is in `f a`, unless `f a` ends right before it
    · cases inner with
      | nil =>
        have htail : l.flatMap f = [] ++ b :: post := hrest.symm
        obtain ⟨before, a', after, inner, rest, hl, ha', hmore, hpost⟩ := ih htail
        refine ⟨a :: before, a', after, inner, rest, by rw [hl]; rfl, ha', ?_, hpost⟩
        rw [List.flatMap_cons, List.append_assoc, ← hmore, List.append_nil, ha, List.append_nil]
      | cons c rest =>
        obtain ⟨rfl, hpost⟩ := List.cons.inj hrest
        exact ⟨[], a, l, pre, rest, rfl, ha, rfl, hpost⟩

/-- Each byte of the form stands in what is written for one of the runs. -/
theorem standsIn_run (hk : k.printf = true) (h : SingleQuoted.render word = pre ++ b :: post) :
    ∃ r ∈ runs word, ∃ inner rest, renderRun r.1 r.2 = inner ++ b :: rest ∧
      StandsIn k inner rest pre post := by
  rw [SingleQuoted.render_eq_renderRuns] at h
  obtain ⟨before, r, after, inner, rest, hruns, hr, hpre, hpost⟩ := exists_of_flatMap_eq_append h
  have hbefore : ∀ s ∈ before, s ∈ runs word := by
    intro s hs
    rw [hruns]
    exact List.mem_append_left _ hs
  have hmem : r ∈ runs word := by simp [hruns]
  exact ⟨r, hmem, inner, rest, hr, _, _, endsOutside_runs hk hbefore, hpre, hpost⟩

/-- A byte between two quotes that is none of them is inside the group. -/
theorem exists_of_verbatim_eq_append {inner rest : Bytes} (hb : b ≠ 0x27)
    (h : [0x27] ++ run ++ [0x27] = inner ++ b :: rest) :
    ∃ group more, inner = 0x27 :: group ∧ rest = more ++ [0x27] ∧ run = group ++ b :: more := by
  cases inner with
  | nil =>
    have hfirst : 0x27 = b := (List.cons.inj h).1
    exact absurd hfirst.symm hb
  | cons c group =>
    obtain ⟨rfl, htail⟩ : 0x27 = c ∧ run ++ [0x27] = group ++ b :: rest := by simpa using h
    rcases List.eq_nil_or_concat rest with rfl | ⟨more, c, rfl⟩
    · have hlast : 0x27 = b := by simpa using (List.append_inj' htail rfl).2
      exact absurd hlast.symm hb
    · have hsplit : run ++ [0x27] = (group ++ b :: more) ++ [c] := by simpa using htail
      obtain ⟨hrun, hc⟩ := List.append_inj' hsplit rfl
      obtain rfl : 0x27 = c := by simpa using hc
      exact ⟨group, more, rfl, by simp, hrun⟩

/-- A byte that is no quote and no backslash stands in a group or in a substitution. -/
theorem place_of_ne (hk : k.printf = true) (hquote : b ≠ 0x27) (hslash : b ≠ 0x5C)
    (h : SingleQuoted.render word = pre ++ b :: post) :
    InSingleQuotes k pre post ∨
      ∃ run inner rest, (Kind.high, run) ∈ runs word ∧ printfGroup run = inner ++ b :: rest ∧
        StandsIn k inner rest pre post := by
  obtain ⟨⟨kind, run⟩, hmem, inner, rest, hrun, hplace⟩ := standsIn_run hk h
  cases kind with
  | high => exact .inr ⟨run, inner, rest, hmem, hrun, hplace⟩
  | quote =>
    -- only backslashes and quotes are written for single quotes
    have hb : b ∈ run.flatMap fun _ => SingleQuoted.escapedQuote := by
      have hb : b ∈ inner ++ b :: rest := by simp
      rwa [← hrun] at hb
    simp [SingleQuoted.escapedQuote, hquote, hslash] at hb
  | verbatim =>
    obtain ⟨group, more, rfl, rfl, rfl⟩ := exists_of_verbatim_eq_append hquote hrun
    have hnoQuote : 0x27 ∉ group ++ b :: more := by
      intro hq
      have hkind := (SingleQuoted.mem_runs hmem).2 0x27 hq
      rw [SingleQuoted.kind_eq_quote_iff.2 rfl] at hkind
      cases hkind
    refine .inl ⟨group, more, ?_, ?_, hplace⟩
    · exact fun hq => hnoQuote (List.mem_append_left _ hq)
    · exact fun hq => hnoQuote (List.mem_append_right _ (List.mem_cons_of_mem b hq))

/-! ## In a quoted word -/

/-- So does, in a word written for the dialect without escapes, each byte that is not bare. -/
theorem place_in_write_sh (hk : k.printf = true) (hbare : ByteClass.of b ≠ .bare)
    (hquote : b ≠ 0x27) (hslash : b ≠ 0x5C) (h : Dialect.sh.write word = pre ++ b :: post) :
    InSingleQuotes k pre post ∨
      ∃ run inner rest, (Kind.high, run) ∈ runs word ∧ printfGroup run = inner ++ b :: rest ∧
        StandsIn k inner rest pre post := by
  rw [Dialect.write] at h
  rcases Dialect.form_sh_cases word with ⟨hform, _⟩ | ⟨hform, hword⟩ | hform
  · have hb : b ∈ Form.empty.render word := by simp [← hform, h]
    simp [Form.render, hquote] at hb
  · have hb : b ∈ Form.bare.render word := by simp [← hform, h]
    exact absurd ((isBare_iff.1 hword).2 b hb) hbare
  · rw [hform] at h
    exact place_of_ne hk hquote hslash h

/-- The dollar sign behind the first quote of a substitution is the only one in it. -/
theorem exists_printfGroup_eq (run : Bytes) :
    ∃ rest, printfGroup run = 0x22 :: 0x24 :: rest ∧ 0x24 ∉ rest := by
  have hoctals := not_mem_octals (c := 0x24) (by decide) (by decide) run
  refine ⟨_, rfl, ?_⟩
  simp [hoctals, SingleQuoted.printfClosing]

/-- A dollar sign stands inside single quotes, or it opens a substitution for a run of high
bytes. -/
theorem place_of_dollar (hk : k.printf = true) (h : Dialect.sh.write word = pre ++ 0x24 :: post) :
    InSingleQuotes k pre post ∨
      ∃ run, (Kind.high, run) ∈ runs word ∧ OpensSubstitution k run pre post := by
  refine (place_in_write_sh hk (by decide) (by decide) (by decide) h).imp_right ?_
  rintro ⟨run, inner, rest, hmem, hgroup, hplace⟩
  obtain ⟨tail, htail, hdollar⟩ := exists_printfGroup_eq run
  rw [htail] at hgroup
  have hinner : inner = [0x22] ∧ rest = tail := by
    match inner with
    | [] => simp at hgroup
    | [c] => simpa [eq_comm] using hgroup
    | c :: c' :: more =>
      have htail : tail = more ++ 0x24 :: rest := by simp_all
      exact absurd (by simp [htail]) hdollar
  rw [hinner.1, hinner.2] at hplace
  exact ⟨run, hmem, tail, htail, hplace⟩

end ShellWord.Reading
