import ShellWord.Reading.Word
import Mathlib.Data.FinEnum

/-!
# Texts that spell data

A text spells data if a shell reads it piece by piece as that data, whatever text stands behind
it. Spellings can be put side by side, and both `word?` and `arguments?` go through a spelling at
once, so it is enough to show of a quoted word that it spells the word.
-/

namespace ShellWord.Reading

variable {k : Constructs}

/-- A text that is read in one step as the data, whatever text stands behind it. -/
def IsPiece (k : Constructs) (text data : Bytes) : Prop :=
  ∀ after, piece? k (text ++ after) = some (data, after)

/-- A text that is read as the data in one or more steps. -/
inductive Spells (k : Constructs) : Bytes → Bytes → Prop
  | piece {text data : Bytes} : IsPiece k text data → Spells k text data
  | append {text₁ data₁ text₂ data₂ : Bytes} : Spells k text₁ data₁ → Spells k text₂ data₂ →
      Spells k (text₁ ++ text₂) (data₁ ++ data₂)

/-! ## Single pieces -/

theorem IsPiece.ne_nil {text data : Bytes} (h : IsPiece k text data) : text ≠ [] := by
  rintro rfl
  have hread := h []
  simp [piece?] at hread

/-- A byte that separates words begins no piece. -/
theorem piece?_cons_of_isSeparator {b : UInt8} (hb : isSeparator b = true) (text : Bytes) :
    piece? k (b :: text) = none := by
  have hcases : b = 0x20 ∨ b = 0x09 := by simpa [isSeparator] using hb
  rcases hcases with rfl | rfl
  · simp [piece?, show isPlain 0x20 = false from rfl]
  · simp [piece?, show isPlain 0x09 = false from rfl]

theorem IsPiece.head_not_isSeparator {text data : Bytes} (h : IsPiece k text data)
    (after : Bytes) : (text ++ after).head?.any isSeparator = false := by
  cases text with
  | nil => exact absurd rfl h.ne_nil
  | cons b rest =>
    by_contra hb
    have hb : isSeparator b = true := by simpa using hb
    have hread := h after
    rw [List.cons_append, piece?_cons_of_isSeparator hb] at hread
    simp at hread

/-! ## The bytes outside quotes -/

theorem of_eq_bare_iff_isPlain : ∀ b : UInt8, ByteClass.of b = .bare ↔ isPlain b = true := by
  decide +kernel

theorem ne_of_isPlain {b : UInt8} (h : isPlain b = true) :
    b ≠ 0x27 ∧ b ≠ 0x5C ∧ b ≠ 0x24 ∧ b ≠ 0x22 := by
  refine ⟨?_, ?_, ?_, ?_⟩
  all_goals
    rintro rfl
    cases h

theorem isPiece_bare {b : UInt8} (hb : ByteClass.of b = .bare) : IsPiece k [b] [b] := by
  intro after
  have hplain := (of_eq_bare_iff_isPlain b).1 hb
  obtain ⟨h27, h5C, h24, h22⟩ := ne_of_isPlain hplain
  simp [piece?, h27, h5C, h24, h22, hplain]

theorem isPiece_backslash {c : UInt8} (hc : c ≠ 0x0A) : IsPiece k [0x5C, c] [c] := by
  intro after
  simp [piece?, hc]

theorem verbatim?_append_quote {data : Bytes} (h : 0x27 ∉ data) (after : Bytes) :
    verbatim? (data ++ 0x27 :: after) = some (data, after) := by
  induction data with
  | nil => simp [verbatim?]
  | cons b rest ih =>
    obtain ⟨hb, hrest⟩ := List.ne_and_not_mem_of_not_mem_cons h
    simp [verbatim?, hb.symm, ih hrest]

theorem isPiece_verbatim {data : Bytes} (h : 0x27 ∉ data) :
    IsPiece k ([0x27] ++ data ++ [0x27]) data := by
  intro after
  have hread := verbatim?_append_quote h after
  simpa [piece?] using hread

/-! ## Reading through a spelling -/

/-- Spellings side by side spell their data side by side. There has to be one: no text spells
nothing. -/
theorem spells_flatMap {α : Type} {f g : α → Bytes} {xs : List α} (hne : xs ≠ [])
    (h : ∀ x ∈ xs, Spells k (f x) (g x)) : Spells k (xs.flatMap f) (xs.flatMap g) := by
  induction xs with
  | nil => exact absurd rfl hne
  | cons x rest ih =>
    have hx := h x List.mem_cons_self
    rw [List.flatMap_cons, List.flatMap_cons]
    by_cases hrest : rest = []
    · subst hrest
      simpa using hx
    · exact hx.append (ih hrest fun y hy => h y (List.mem_cons_of_mem x hy))

theorem spells_bare {word : Bytes} (hne : word ≠ []) (h : ∀ b ∈ word, ByteClass.of b = .bare) :
    Spells k word word := by
  have hbytes : ∀ b ∈ word, Spells k [b] [b] := fun b hb => .piece (isPiece_bare (h b hb))
  simpa using spells_flatMap hne hbytes

theorem Spells.append_flatten {text data : Bytes} (h : Spells k text data) {f : Bytes → Bytes}
    {words : List Bytes} (hf : ∀ word ∈ words, Spells k (f word) word) :
    Spells k (text ++ (words.map f).flatten) (data ++ words.flatten) := by
  by_cases hne : words = []
  · subst hne
    simpa using h
  · have hwords : Spells k (words.flatMap f) (words.flatMap id) := spells_flatMap hne hf
    rw [← List.flatMap_def, ← List.flatMap_id]
    exact h.append hwords

theorem word?_append_piece {text data : Bytes} (h : IsPiece k text data) (w : Option Bytes)
    (after : Bytes) : word? k w (text ++ after) = word? k (some (w.getD [] ++ data)) after := by
  have hne : (text ++ after).isEmpty = false := by simp [h.ne_nil]
  rw [word?, hne]
  simp only [Bool.false_eq_true, if_false]
  split
  · next hnone => simp [h after] at hnone
  · next hsome =>
    rw [h after] at hsome
    cases hsome
    rfl

/-- A spelling adds its data to the word read so far, and marks the word as begun. -/
theorem word?_append {text data : Bytes} (h : Spells k text data) (w : Option Bytes)
    (after : Bytes) : word? k w (text ++ after) = word? k (some (w.getD [] ++ data)) after := by
  induction h generalizing w after with
  | piece hp => exact word?_append_piece hp w after
  | append _ _ ih₁ ih₂ => rw [List.append_assoc, ih₁, ih₂, Option.getD_some, List.append_assoc]

@[simp] theorem word?_nil (w : Option Bytes) : word? k w [] = some w := by
  simp [word?]

theorem word?_of_spells {text data : Bytes} (h : Spells k text data) :
    word? k none text = some (some data) := by
  have hread := word?_append h none []
  simpa using hread

theorem argumentsFrom_append_piece {text data : Bytes} (h : IsPiece k text data)
    (w : Option Bytes) (after : Bytes) :
    argumentsFrom k w (text ++ after) = argumentsFrom k (some (w.getD [] ++ data)) after := by
  have hne : (text ++ after).isEmpty = false := by simp [h.ne_nil]
  rw [argumentsFrom, hne, h.head_not_isSeparator after]
  simp only [Bool.false_eq_true, if_false]
  split
  · next hnone => simp [h after] at hnone
  · next hsome =>
    rw [h after] at hsome
    cases hsome
    rfl

theorem argumentsFrom_append {text data : Bytes} (h : Spells k text data) (w : Option Bytes)
    (after : Bytes) :
    argumentsFrom k w (text ++ after) = argumentsFrom k (some (w.getD [] ++ data)) after := by
  induction h generalizing w after with
  | piece hp => exact argumentsFrom_append_piece hp w after
  | append _ _ ih₁ ih₂ => rw [List.append_assoc, ih₁, ih₂, Option.getD_some, List.append_assoc]

@[simp] theorem argumentsFrom_nil (w : Option Bytes) : argumentsFrom k w [] = some w.toList := by
  simp [argumentsFrom]

theorem argumentsFrom_blank (w : Option Bytes) (after : Bytes) :
    argumentsFrom k w (0x20 :: after) = (argumentsFrom k none after).map (w.toList ++ ·) := by
  rw [argumentsFrom]
  simp [isSeparator]

end ShellWord.Reading
