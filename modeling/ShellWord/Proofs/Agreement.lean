import ShellWord.Proofs.Places
import ShellWord.Proofs.WordList

/-!
# Where the dialects agree

The dialects part exactly over bytes that are not printable. With such a byte bash is given `$'...'`,
and nothing written for the other dialect begins like this; without one they take the same form.
-/

namespace ShellWord

open Reading (InSingleQuotes OpensSubstitution)

variable {word post : Bytes}

/-- The word has a control byte or a high byte. -/
def HasUnprintable (word : Bytes) : Prop :=
  ∃ b ∈ word, (0x01 ≤ b ∧ b ≤ 0x1F) ∨ b = 0x7F ∨ 0x80 ≤ b

theorem needsEscape_iff : needsEscape word = true ↔ HasUnprintable word := by
  simp only [needsEscape, List.any_eq_true, Bool.or_eq_true, decide_eq_true_eq,
    ByteClass.of_eq_control_iff, ByteClass.of_eq_high_iff]
  refine exists_congr fun b => and_congr_right fun _ => ?_
  grind

/-- A dollar sign that stands in a construct is not the first byte. -/
theorem Reading.StandsIn.ne_nil {k : Constructs} {b : UInt8} {inner rest pre : Bytes}
    (h : StandsIn k (b :: inner) rest pre post) : pre ≠ [] := by
  obtain ⟨before, after, _, rfl, _⟩ := h
  simp

namespace Dialect

theorem head?_write_sh_ne (word : Bytes) : (sh.write word).head? ≠ some 0x24 := by
  intro h
  obtain ⟨post, hwrite⟩ := List.head?_eq_some_iff.1 h
  have hfirst : sh.write word = [] ++ 0x24 :: post := hwrite
  have hk : (Reading.Constructs.ofDialect .sh).printf = true := rfl
  rcases Reading.place_of_dollar hk hfirst with ⟨_, _, _, _, hplace⟩ | ⟨_, _, _, _, hplace⟩
  · exact hplace.ne_nil rfl
  · exact hplace.ne_nil rfl

theorem not_prefix_write_sh : ¬ [0x24, 0x27] <+: sh.write word := by
  rintro ⟨rest, hrest⟩
  refine head?_write_sh_ne word ?_
  rw [← hrest]
  rfl

theorem write_bash_of_needsEscape (h : needsEscape word = true) :
    [0x24, 0x27] <+: bash.write word := by
  rw [write, form_bash_of_needsEscape h, Form.render, EscapeQuoted.render, List.append_assoc]
  exact List.prefix_append _ _

theorem write_bash_of_not_needsEscape (h : needsEscape word = false) :
    bash.write word = sh.write word := by
  rw [write, form_bash_of_not_needsEscape h, write]

/-- Only what is written for bash begins with `$'`, and only with an unprintable byte. -/
theorem prefix_write_bash_iff : [0x24, 0x27] <+: bash.write word ↔ needsEscape word = true := by
  refine ⟨fun hprefix => ?_, write_bash_of_needsEscape⟩
  cases hescape : needsEscape word with
  | true => rfl
  | false =>
    rw [write_bash_of_not_needsEscape hescape] at hprefix
    exact absurd hprefix not_prefix_write_sh

theorem write_bash_eq_iff : bash.write word = sh.write word ↔ needsEscape word = false := by
  refine ⟨fun heq => ?_, write_bash_of_not_needsEscape⟩
  cases hescape : needsEscape word with
  | false => rfl
  | true =>
    have hprefix := write_bash_of_needsEscape hescape
    rw [heq] at hprefix
    exact absurd hprefix not_prefix_write_sh

/-- The dialects quote a word alike exactly if it has no unprintable byte, and quoted for bash it
begins with `$'` exactly if it has one. For the other dialect it never begins with a dollar sign,
and has one outside single quotes only where a substitution for a run of high bytes opens. -/
theorem quote_eq_iff (h : 0 ∉ word) :
    (bash.quote word = sh.quote word ↔ ¬ HasUnprintable word) ∧
    (∃ quoted, bash.quote word = .ok quoted ∧ ([0x24, 0x27] <+: quoted ↔ HasUnprintable word)) ∧
    ∃ quoted, sh.quote word = .ok quoted ∧ quoted.head? ≠ some 0x24 ∧
      ∀ pre post, quoted = pre ++ 0x24 :: post →
        InSingleQuotes (.ofDialect .sh) pre post ∨
          ∃ run, (.high, run) ∈ SingleQuoted.runs word ∧
            OpensSubstitution (.ofDialect .sh) run pre post := by
  rw [quote_eq_write h, quote_eq_write h]
  refine ⟨?_, ⟨_, rfl, ?_⟩, _, rfl, head?_write_sh_ne word, fun pre post hquoted => ?_⟩
  · rw [← needsEscape_iff, Bool.not_eq_true, ← write_bash_eq_iff, Except.ok.injEq]
  · rw [prefix_write_bash_iff, needsEscape_iff]
  · exact Reading.place_of_dollar rfl hquoted

/-- A dollar sign and a high byte are quoted as `$'$\xE9'` and as `'$'"$(printf '\351')"`. -/
theorem quote_ne_dollar_high :
    0 ∉ ([0x24, 0xE9] : Bytes) ∧ bash.quote [0x24, 0xE9] ≠ sh.quote [0x24, 0xE9] ∧
    (∃ quoted, bash.quote [0x24, 0xE9] = .ok quoted ∧ [0x24, 0x27] <+: quoted) ∧
    ∃ quoted, sh.quote [0x24, 0xE9] = .ok quoted ∧ quoted.head? ≠ some 0x24 := by
  have hzero : 0 ∉ ([0x24, 0xE9] : Bytes) := by decide
  have hhigh : HasUnprintable [0x24, 0xE9] := ⟨0xE9, by decide, .inr (.inr (by decide))⟩
  obtain ⟨hagree, ⟨forBash, hbash, hprefix⟩, forSh, hsh, hhead, _⟩ := quote_eq_iff hzero
  exact ⟨hzero, fun heq => hagree.1 heq hhigh, ⟨forBash, hbash, hprefix.2 hhigh⟩,
    forSh, hsh, hhead⟩

end Dialect

end ShellWord
