import ShellWord.Proofs.Appending

/-!
# Each form carries every word

The dialects pick a form for readability, not because another form would mean something else. The
escape-quoted and the single-quoted form carry any word, also one that would be written bare; where
two forms suit a shell, one can stand for the other in any text.
-/

namespace ShellWord

open Writing (Writes)

/-- A word that can be quoted is added to a buffer in the form that the dialect picks. -/
theorem Dialect.writes {d : Dialect} {word : Bytes} (h : 0 ∉ word) :
    Writes (d.writing false word) (d.write word) := by
  intro buffer
  have hdata : (Source.bytes word).data = .ok word := rfl
  have hrun := runOn_writing (d := d) hdata buffer
  rw [Source.quotedBytes_bytes, quote_eq_write h] at hrun
  exact hrun

namespace Reading

variable {k : Constructs} {f g : Form} {word : Bytes}

/-- For a shell that knows all constructs every form suits, but for a bare word that is not bare. -/
theorem suits_all (hne : word ≠ []) (h : 0 ∉ word) (hempty : f ≠ .empty)
    (hbare : f = .bare → isBare word = true) : Suits .all f word := by
  cases f with
  | empty => exact absurd rfl hempty
  | bare => exact hbare rfl
  | escapeQuoted => exact ⟨rfl, h⟩
  | singleQuoted => exact ⟨hne, fun _ => rfl⟩

theorem suits_ofDialect (d : Dialect) (h : 0 ∉ word) : Suits (.ofDialect d) (d.form word) word := by
  refine suits_form ?_ ?_
  · rintro rfl
    exact ⟨rfl, h⟩
  · rintro rfl
    rfl

theorem word?_render (h : Suits k f word) (w : Option Bytes) (after : Bytes) :
    word? k w (f.render word ++ after) = word? k (some (w.getD [] ++ word)) after :=
  word?_append (spells_render h) w after

/-- A non-empty word is exactly one word in the escape-quoted form, for each shell that knows it, and
in the single-quoted form, for each shell that knows `printf`, whatever form would be picked for it.
Both are added to the end of any buffer, as is the form that is picked; and of two forms that suit
a shell, each is read in any place as the other is. -/
theorem forms_interchangeable (hne : word ≠ []) (h : 0 ∉ word) :
    (∀ k ∈ [Constructs.ofDialect .bash, .all],
      word? k none (EscapeQuoted.render word) = some (some word)) ∧
    (∀ k ∈ [Constructs.ofDialect .sh, .all],
      word? k none (SingleQuoted.render word) = some (some word)) ∧
    (∀ d, word? (.ofDialect d) none (d.write word) = some (some word)) ∧
    Writes (EscapeQuoted.writing word) (EscapeQuoted.render word) ∧
    Writes (SingleQuoted.writingFrom .start word) (SingleQuoted.render word) ∧
    (∀ d : Dialect, Writes (d.writing false word) (d.write word)) ∧
    (∀ f, f ≠ .empty → (f = .bare → isBare word = true) → Suits .all f word) ∧
    (∀ d : Dialect, Suits (.ofDialect d) (d.form word) word) ∧
    (∀ k f g, Suits k f word → Suits k g word → ∀ w after,
      word? k w (f.render word ++ after) = word? k w (g.render word ++ after)) := by
  refine ⟨fun k hk => ?_, fun k hk => ?_, fun d => ?_, EscapeQuoted.writes word,
    SingleQuoted.writes .start word, fun d => Dialect.writes h,
    fun f => suits_all hne h, fun d => suits_ofDialect d h, fun k f g hf hg w after => ?_⟩
  · have hescapes : k.escapes = true := by
      rcases List.mem_pair.1 hk with rfl | rfl <;> rfl
    have hsuits : Suits k .escapeQuoted word := ⟨hescapes, h⟩
    exact word?_of_spells (spells_render hsuits)
  · have hprintf : k.printf = true := by
      rcases List.mem_pair.1 hk with rfl | rfl <;> rfl
    have hsuits : Suits k .singleQuoted word := ⟨hne, fun _ => hprintf⟩
    exact word?_of_spells (spells_render hsuits)
  · exact word?_of_spells (spells_render (suits_ofDialect d h))
  · rw [word?_render hf, word?_render hg]

/-- A bare word in `$'...'`, and one with a control byte and a high byte between single quotes. -/
theorem forms_interchangeable_unpicked :
    Dialect.bash.form (ascii "ab") = .bare ∧ ascii "ab" ≠ [] ∧ 0 ∉ ascii "ab" ∧
    word? (.ofDialect .bash) none (ascii "$'ab'") = some (some (ascii "ab")) ∧
    Dialect.bash.form [0x0A, 0xFF] = .escapeQuoted ∧ 0 ∉ ([0x0A, 0xFF] : Bytes) ∧
    word? .all none (ascii "'\n'\"$(printf '\\377')\"") = some (some [0x0A, 0xFF]) := by
  have hne : ascii "ab" ≠ [] := by decide
  have hplain : 0 ∉ ascii "ab" := by decide
  have hodd : 0 ∉ ([0x0A, 0xFF] : Bytes) := by decide
  have hescaped := (forms_interchangeable hne hplain).1 (.ofDialect .bash) (by decide)
  have hsingle := (forms_interchangeable (by decide) hodd).2.1 .all (by decide)
  have hescapedText : EscapeQuoted.render (ascii "ab") = ascii "$'ab'" := by decide
  have hsingleText : SingleQuoted.render [0x0A, 0xFF] = ascii "'\n'\"$(printf '\\377')\"" := by
    decide
  rw [hescapedText] at hescaped
  rw [hsingleText] at hsingle
  exact ⟨by decide, hne, hplain, hescaped, by decide, hodd, hsingle⟩

end Reading

end ShellWord
