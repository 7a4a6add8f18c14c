import ShellWord.Proofs.EscapeQuoted
import ShellWord.Proofs.SingleQuoted

/-!
# Quoted words read back

A word without a zero byte can be quoted for both dialects, and what is written spells the word
for the shells of the dialect. So a quoted word may stand anywhere in a word: what is read before
and behind it does not change, and it adds its bytes and nothing else.
-/

namespace ShellWord

/-! ## When a word can be quoted -/

theorem firstNul?_eq_none_iff {word : Bytes} : firstNul? word = none ↔ 0 ∉ word := by
  rw [firstNul?, List.findIdx?_eq_none_iff]
  constructor
  · intro h hzero
    simpa using h 0 hzero
  · intro h b hb
    simpa using fun hzero : b = 0 => h (hzero ▸ hb)

namespace Dialect

variable {d : Dialect}

theorem quote_eq_write {word : Bytes} (h : 0 ∉ word) : d.quote word = .ok (d.write word) := by
  rw [quote, checkNoNul, firstNul?_eq_none_iff.2 h]
  rfl

theorem quote_eq_error {word : Bytes} (h : 0 ∈ word) : ∃ e, d.quote word = .error e := by
  cases hfirst : firstNul? word with
  | none => exact absurd h (firstNul?_eq_none_iff.1 hfirst)
  | some offset => exact ⟨⟨offset⟩, by rw [quote, checkNoNul, hfirst]; rfl⟩

theorem mapM_quote {words : List Bytes} (h : ∀ word ∈ words, 0 ∉ word) :
    words.mapM d.quote = .ok (words.map d.write) := by
  induction words with
  | nil => rfl
  | cons word rest ih =>
    rw [List.mapM_cons, quote_eq_write (h word List.mem_cons_self),
      ih fun v hv => h v (List.mem_cons_of_mem word hv)]
    rfl

theorem mapM_quote_eq_error {words : List Bytes} (h : ∃ word ∈ words, 0 ∈ word) :
    ∃ e, words.mapM d.quote = .error e := by
  induction words with
  | nil => simp at h
  | cons word rest ih =>
    rw [List.mapM_cons]
    by_cases hzero : 0 ∈ word
    · obtain ⟨e, he⟩ := quote_eq_error (d := d) hzero
      exact ⟨e, by rw [he]; rfl⟩
    · have hrest : ∃ word ∈ rest, 0 ∈ word := by simpa [hzero] using h
      obtain ⟨e, he⟩ := ih hrest
      exact ⟨e, by rw [quote_eq_write hzero, he]; rfl⟩

end Dialect

namespace Reading

variable {k : Constructs}

/-! ## Written words spell the words -/

theorem spells_empty : Spells k (Form.empty.render []) [] := by
  have hpiece : IsPiece k ([0x27] ++ [] ++ [0x27]) [] := isPiece_verbatim List.not_mem_nil
  exact .piece hpiece

theorem spells_of_isBare {word : Bytes} (h : isBare word = true) : Spells k word word := by
  obtain ⟨hne, hclass⟩ := isBare_iff.1 h
  exact spells_bare hne hclass

theorem kind_ne_high_of_needsEscape {word : Bytes} (h : needsEscape word = false) :
    ∀ b ∈ word, SingleQuoted.Kind.of b ≠ .high := by
  intro b hb hkind
  have hclass : ByteClass.of b = .high :=
    ByteClass.of_eq_high_iff.2 (SingleQuoted.kind_eq_high_iff.1 hkind)
  exact (needsEscape_eq_false_iff.1 h b hb).2 hclass

/-- A word can be given to a shell in this form: the form is one for the word, and the shell knows
all that stands in it. -/
def Suits (k : Constructs) : Form → Bytes → Prop
  | .empty, word => word = []
  | .bare, word => isBare word = true
  | .escapeQuoted, word => k.escapes = true ∧ 0 ∉ word
  | .singleQuoted, word =>
    word ≠ [] ∧ ((∃ b ∈ word, SingleQuoted.Kind.of b = .high) → k.printf = true)

theorem spells_render {f : Form} {word : Bytes} (h : Suits k f word) :
    Spells k (f.render word) word := by
  cases f with
  | empty =>
    have hempty : word = [] := h
    rw [hempty]
    exact spells_empty
  | bare => exact spells_of_isBare h
  | escapeQuoted => exact .piece (isPiece_escapeQuoted h.1 h.2)
  | singleQuoted => exact spells_singleQuoted h.1 h.2

/-- The form that a dialect picks suits the word, for any shell that knows the construct that the
dialect relies on. -/
theorem suits_form {d : Dialect} {word : Bytes}
    (hbash : d = .bash → k.escapes = true ∧ 0 ∉ word) (hsh : d = .sh → k.printf = true) :
    Suits k (d.form word) word := by
  unfold Dialect.form
  split
  · next hempty => exact List.isEmpty_iff.1 hempty
  · next hne =>
    have hne : word ≠ [] := by simpa using hne
    split
    · next hbare => exact hbare
    · cases d with
      | sh => exact ⟨hne, fun _ => hsh rfl⟩
      | bash =>
        show Suits k (if needsEscape word then .escapeQuoted else .singleQuoted) word
        split
        · exact hbash rfl
        · next hescape =>
          have hlow := kind_ne_high_of_needsEscape (by simpa using hescape)
          refine ⟨hne, ?_⟩
          rintro ⟨b, hb, hhigh⟩
          exact absurd hhigh (hlow b hb)

/-- What is written for bash spells the word, for any shell that knows `$'...'`. -/
theorem spells_write_bash (hk : k.escapes = true) {word : Bytes} (h : 0 ∉ word) :
    Spells k (Dialect.bash.write word) word :=
  spells_render (suits_form (fun _ => ⟨hk, h⟩) nofun)

/-- What is written for the other dialect spells the word, for any shell that knows `printf`. -/
theorem spells_write_sh (hk : k.printf = true) (word : Bytes) :
    Spells k (Dialect.sh.write word) word :=
  spells_render (suits_form nofun fun _ => hk)

theorem spells_write (d : Dialect) {word : Bytes} (h : 0 ∉ word) :
    Spells (.ofDialect d) (d.write word) word := by
  cases d with
  | bash => exact spells_write_bash rfl h
  | sh => exact spells_write_sh rfl word

/-! ## In any context -/

/-- A word quoted for bash adds exactly its bytes to the word that it stands in. Alone it is that
word, and quoted words side by side are one word. -/
theorem bash_quote_reads_back {word : Bytes} (h : 0 ∉ word) :
    ∃ q, Dialect.bash.quote word = .ok q ∧
      (∀ w after, word? (.ofDialect .bash) w (q ++ after) =
        word? (.ofDialect .bash) (some (w.getD [] ++ word)) after) ∧
      word? (.ofDialect .bash) none q = some (some word) ∧
      ∀ words : List Bytes, (∀ v ∈ words, 0 ∉ v) →
        ∃ qs, words.mapM Dialect.bash.quote = .ok qs ∧
          word? (.ofDialect .bash) none (q ++ qs.flatten) =
            some (some (word ++ words.flatten)) := by
  have hspells : Spells (.ofDialect .bash) (Dialect.bash.write word) word := spells_write .bash h
  refine ⟨Dialect.bash.write word, Dialect.quote_eq_write h, word?_append hspells,
    word?_of_spells hspells, fun words hwords => ?_⟩
  refine ⟨words.map Dialect.bash.write, Dialect.mapM_quote hwords, word?_of_spells ?_⟩
  exact hspells.append_flatten fun v hv => spells_write .bash (hwords v hv)

/-- A hexadecimal escape before a hexadecimal digit, a quote, and a backslash before an `n`. -/
theorem bash_quote_reads_back_tight :
    0 ∉ ([0x01, 0x41, 0x27, 0x5C, 0x6E] : Bytes) ∧
    word? (.ofDialect .bash) none (ascii "$'\\x01A\\'\\\\n'") =
      some (some [0x01, 0x41, 0x27, 0x5C, 0x6E]) := by
  have hword : 0 ∉ ([0x01, 0x41, 0x27, 0x5C, 0x6E] : Bytes) := by decide
  obtain ⟨q, hq, _, hread, _⟩ := bash_quote_reads_back hword
  have hwritten : Dialect.bash.quote [0x01, 0x41, 0x27, 0x5C, 0x6E] =
      .ok (ascii "$'\\x01A\\'\\\\n'") := by decide
  rw [hwritten] at hq
  cases hq
  exact ⟨hword, hread⟩

/-- A word quoted for the other dialect adds exactly its bytes to the word that it stands in, both
for a shell that knows nothing but `'...'`, the backslash and `printf`, and for one that knows
`$'...'` too. -/
theorem sh_quote_reads_back {word : Bytes} (h : 0 ∉ word) :
    ∃ q, Dialect.sh.quote word = .ok q ∧
      ∀ k ∈ [Constructs.ofDialect .sh, Constructs.all],
        (∀ w after, word? k w (q ++ after) = word? k (some (w.getD [] ++ word)) after) ∧
        word? k none q = some (some word) := by
  refine ⟨Dialect.sh.write word, Dialect.quote_eq_write h, fun k hk => ?_⟩
  have hprintf : k.printf = true := by
    rcases List.mem_cons.1 hk with rfl | hk
    · rfl
    · rw [List.mem_singleton.1 hk]
      rfl
  have hspells := spells_write_sh hprintf word
  exact ⟨word?_append hspells, word?_of_spells hspells⟩

/-- High bytes between a quote and a newline, read by the shell that knows no `$'...'`. -/
theorem sh_quote_reads_back_mixed :
    0 ∉ ([0x27, 0xC3, 0xA9, 0x0A, 0x37] : Bytes) ∧
    word? (.ofDialect .sh) none (ascii "\\'\"$(printf '\\303\\251')\"'\n7'") =
      some (some [0x27, 0xC3, 0xA9, 0x0A, 0x37]) := by
  have hword : 0 ∉ ([0x27, 0xC3, 0xA9, 0x0A, 0x37] : Bytes) := by decide
  obtain ⟨q, hq, hread⟩ := sh_quote_reads_back hword
  have hwritten : Dialect.sh.quote [0x27, 0xC3, 0xA9, 0x0A, 0x37] =
      .ok (ascii "\\'\"$(printf '\\303\\251')\"'\n7'") := by decide
  rw [hwritten] at hq
  cases hq
  exact ⟨hword, (hread (.ofDialect .sh) (by decide)).2⟩

end Reading

end ShellWord
