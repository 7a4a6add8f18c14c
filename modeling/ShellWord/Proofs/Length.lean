import ShellWord.Proofs.Interchange

/-!
# How long quoted words are

A bare word is written as it is, and no other word is: its quotes make it longer. For bash a byte
becomes four bytes at most, and three stand around them. Without escapes the quotes around a run are
charged to the bytes of the run; a single high byte between other bytes is the worst there is.
-/

namespace ShellWord

/-! ## Pieces side by side -/

section

variable {α : Type} {items : List α} {f g : α → Bytes} {c : Nat}

theorem length_flatMap_le (h : ∀ a ∈ items, (f a).length ≤ c * (g a).length) :
    (items.flatMap f).length ≤ c * (items.flatMap g).length := by
  induction items with
  | nil => simp
  | cons a rest ih =>
    have ha := h a List.mem_cons_self
    have hrest := ih fun x hx => h x (List.mem_cons_of_mem a hx)
    simp only [List.flatMap_cons, List.length_append, Nat.mul_add]
    omega

theorem length_flatMap_add_le (h : ∀ a ∈ items, (g a).length + c ≤ (f a).length) :
    (items.flatMap g).length + items.length * c ≤ (items.flatMap f).length := by
  induction items with
  | nil => simp
  | cons a rest ih =>
    have ha := h a List.mem_cons_self
    have hrest := ih fun x hx => h x (List.mem_cons_of_mem a hx)
    simp only [List.flatMap_cons, List.length_append, List.length_cons, Nat.add_mul, Nat.one_mul]
    omega

end

/-! ## The escape-quoted form -/

namespace EscapeQuoted

theorem length_escape (b : UInt8) : 1 ≤ (escape b).length ∧ (escape b).length ≤ 4 := by
  rw [escape]
  cases mnemonic? b with
  | some letter => simp
  | none => cases ByteClass.of b <;> simp

theorem length_escapes (word : Bytes) :
    word.length ≤ (word.flatMap escape).length ∧
      (word.flatMap escape).length ≤ 4 * word.length := by
  have hbytes : word.flatMap (fun b => [b]) = word := List.flatMap_singleton' word
  have hlower := length_flatMap_add_le (f := escape) (g := fun b => [b]) (c := 0)
    fun b (_ : b ∈ word) => (length_escape b).1
  have hupper := length_flatMap_le (f := escape) (g := fun b => [b]) (c := 4)
    fun b (_ : b ∈ word) => (length_escape b).2
  rw [hbytes] at hlower hupper
  exact ⟨hlower, hupper⟩

theorem length_render (word : Bytes) :
    word.length + 3 ≤ (render word).length ∧ (render word).length ≤ 4 * word.length + 3 := by
  have hescapes := length_escapes word
  simp only [render, opening, closing, List.length_append, List.length_cons, List.length_nil]
  omega

end EscapeQuoted

/-! ## The single-quoted form -/

namespace SingleQuoted

variable {k : Kind} {run word : Bytes} {c : Nat}

theorem length_octals (run : Bytes) : (run.flatMap octal).length = 4 * run.length := by
  induction run with
  | nil => rfl
  | cons b rest ih =>
    rw [List.flatMap_cons, List.length_append, ih, List.length_cons]
    simp only [octal, List.length_cons, List.length_nil]
    omega

/-- How many bytes a run becomes: fourteen stand around octal escapes, nothing around single quotes
that are covered one by one, and two around other bytes. -/
def Kind.writtenLength : Kind → Nat → Nat
  | high, n => 4 * n + 14
  | quote, n => 2 * n
  | verbatim, n => n + 2

theorem length_renderRun (k : Kind) (run : Bytes) :
    (renderRun k run).length = k.writtenLength run.length := by
  cases k with
  | high =>
    simp only [renderRun, printfGroup, printfOpening, printfClosing, List.length_append,
      length_octals, List.length_cons, List.length_nil, Kind.writtenLength]
    omega
  | quote => simp [renderRun, escapedQuote, Kind.writtenLength, Nat.mul_comm]
  | verbatim =>
    simp only [renderRun, List.length_append, List.length_cons, List.length_nil,
      Kind.writtenLength]
    omega

theorem Kind.lt_writtenLength {n : Nat} (hn : 0 < n) (k : Kind) : n + 1 ≤ k.writtenLength n := by
  cases k <;> simp only [writtenLength] <;> omega

/-- A run grows by a factor of three at most, or of eighteen if it is of high bytes. -/
theorem Kind.writtenLength_le {n : Nat} (hn : 0 < n) (hc : 3 ≤ c) (hhigh : k = .high → 18 ≤ c) :
    k.writtenLength n ≤ c * n := by
  cases k with
  | high =>
    have hfactor := Nat.mul_le_mul_right n (hhigh rfl)
    simp only [writtenLength]
    omega
  | quote =>
    have hfactor := Nat.mul_le_mul_right n hc
    simp only [writtenLength]
    omega
  | verbatim =>
    have hfactor := Nat.mul_le_mul_right n hc
    simp only [writtenLength]
    omega

theorem length_lt_render (hne : word ≠ []) : word.length < (render word).length := by
  have hrun : ∀ r ∈ runs word, r.2.length + 1 ≤ (renderRun r.1 r.2).length := by
    intro r hr
    rw [length_renderRun]
    exact r.1.lt_writtenLength (List.length_pos_iff.2 (mem_runs hr).1)
  have hpos := List.length_pos_iff.2 (runs_ne_nil hne)
  have hgrow := length_flatMap_add_le hrun
  rw [flatMap_snd_runs, ← renderRuns, ← render_eq_renderRuns] at hgrow
  omega

theorem length_render_le (hc : 3 ≤ c) (hhigh : (∃ b ∈ word, Kind.of b = .high) → 18 ≤ c) :
    (render word).length ≤ c * word.length := by
  -- no run is empty, so what stands around it can be charged to its bytes
  have hrun : ∀ r ∈ runs word, (renderRun r.1 r.2).length ≤ c * r.2.length := by
    intro r hr
    rw [length_renderRun]
    refine Kind.writtenLength_le (List.length_pos_iff.2 (mem_runs hr).1) hc fun hrhigh => hhigh ?_
    rw [← hrhigh]
    exact exists_kind_of_mem_runs hr
  have hgrow := length_flatMap_le hrun
  rw [flatMap_snd_runs, ← renderRuns, ← render_eq_renderRuns] at hgrow
  exact hgrow

end SingleQuoted

/-! ## The forms -/

open Reading (Constructs Suits)

section

variable {k : Constructs} {f : Form} {word : Bytes}

theorem Form.length_lt_render (h : Suits k f word) (hbare : f ≠ .bare) :
    word.length < (f.render word).length := by
  cases f with
  | empty =>
    have hempty : word = [] := h
    subst hempty
    decide
  | bare => exact absurd rfl hbare
  | escapeQuoted =>
    have hlength := (EscapeQuoted.length_render word).1
    rw [render]
    omega
  | singleQuoted => exact SingleQuoted.length_lt_render h.1

/-- How far a form can grow depends on the constructs that the shell knows. -/
theorem Form.length_render_le {c e : Nat} (h : Suits k f word) (hc : 3 ≤ c) (he : 2 ≤ e)
    (hescapes : k.escapes = true → 4 ≤ c ∧ 3 ≤ e) (hprintf : k.printf = true → 18 ≤ c) :
    (f.render word).length ≤ c * word.length + e := by
  have hfactor := Nat.mul_le_mul_right word.length hc
  cases f with
  | empty =>
    show 2 ≤ _
    omega
  | bare =>
    show word.length ≤ _
    omega
  | escapeQuoted =>
    obtain ⟨hc, he⟩ := hescapes h.1
    have hlength := (EscapeQuoted.length_render word).2
    have hescape := Nat.mul_le_mul_right word.length hc
    rw [render]
    omega
  | singleQuoted =>
    have hlength : (SingleQuoted.render word).length ≤ c * word.length :=
      SingleQuoted.length_render_le hc fun hhigh => hprintf (h.2 hhigh)
    rw [render]
    omega

end

/-! ## The dialects -/

namespace Dialect

variable {d : Dialect} {word : Bytes}

/-- No word of so many bytes becomes longer than this. -/
def lengthBound : Dialect → Nat → Nat
  | bash, n => 4 * n + 3
  | sh, n => 18 * n + 2

theorem length_write_le (h : 0 ∉ word) : (d.write word).length ≤ d.lengthBound word.length := by
  have hsuits := Reading.suits_ofDialect d h
  cases d with
  | bash => exact Form.length_render_le hsuits (by decide) (by decide) (fun _ => by decide) nofun
  | sh => exact Form.length_render_le hsuits (by decide) (by decide) nofun fun _ => by decide

theorem write_of_isBare (h : isBare word = true) : d.write word = word := by
  rw [write, form_eq_bare_iff.2 h, Form.render]

theorem length_lt_write (h : 0 ∉ word) (hbare : ¬ isBare word = true) :
    word.length < (d.write word).length := by
  refine Form.length_lt_render (Reading.suits_ofDialect d h) ?_
  rw [ne_eq, form_eq_bare_iff]
  exact hbare

theorem write_eq_self_iff (h : 0 ∉ word) : d.write word = word ↔ isBare word = true := by
  constructor
  · intro heq
    by_contra hbare
    have hlength := length_lt_write (d := d) h hbare
    rw [heq] at hlength
    omega
  · exact write_of_isBare

/-- A word is quoted as itself exactly if it has a byte and only bytes that stand for themselves
outside quotes. Any other word becomes longer, and none becomes longer than the bound. -/
theorem quote_grows (d : Dialect) (h : 0 ∉ word) :
    ∃ quoted, d.quote word = .ok quoted ∧
      (quoted = word ↔ word ≠ [] ∧ ∀ b ∈ word, Reading.isPlain b = true) ∧
      (¬ (word ≠ [] ∧ ∀ b ∈ word, Reading.isPlain b = true) → word.length < quoted.length) ∧
      quoted.length ≤ d.lengthBound word.length := by
  have hplain : isBare word = true ↔ word ≠ [] ∧ ∀ b ∈ word, Reading.isPlain b = true := by
    simp only [isBare_iff, Reading.of_eq_bare_iff_isPlain]
  refine ⟨d.write word, quote_eq_write h, ?_, fun hquotes => ?_, length_write_le h⟩
  · rw [write_eq_self_iff h, hplain]
  · rw [← hplain] at hquotes
    exact length_lt_write h hquotes

/-- High bytes between letters: each takes eighteen bytes of what the other dialect is given, and
four of what bash is given. -/
theorem quote_grows_high_between_letters :
    0 ∉ ([0x61, 0xFF, 0x62, 0xFF] : Bytes) ∧
    (∃ quoted, bash.quote [0x61, 0xFF, 0x62, 0xFF] = .ok quoted ∧ 4 < quoted.length ∧
      quoted.length ≤ 19) ∧
    ∃ quoted, sh.quote [0x61, 0xFF, 0x62, 0xFF] = .ok quoted ∧ 4 < quoted.length ∧
      quoted.length ≤ 74 := by
  have hzero : 0 ∉ ([0x61, 0xFF, 0x62, 0xFF] : Bytes) := by decide
  have hplain : ¬ (([0x61, 0xFF, 0x62, 0xFF] : Bytes) ≠ [] ∧
      ∀ b ∈ ([0x61, 0xFF, 0x62, 0xFF] : Bytes), Reading.isPlain b = true) := by
    rintro ⟨-, hall⟩
    have hhigh : ByteClass.of 0xFF = .bare :=
      (Reading.of_eq_bare_iff_isPlain 0xFF).2 (hall 0xFF (by decide))
    cases hhigh
  obtain ⟨forBash, hbash, _, hlonger, hbound⟩ := quote_grows .bash hzero
  obtain ⟨forSh, hsh, _, hlonger', hbound'⟩ := quote_grows .sh hzero
  exact ⟨hzero, ⟨forBash, hbash, hlonger hplain, hbound⟩, forSh, hsh, hlonger' hplain, hbound'⟩

-- one high byte takes all that the bound for bash allows
example : (bash.write [0xFF]).length = bash.lengthBound 1 := by decide

end Dialect

end ShellWord
