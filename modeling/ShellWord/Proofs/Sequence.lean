import Mathlib.Tactic.Common

/-!
# One request after another

Requests that may be refused are made one after another, up to the first that is refused; what it
is refused for is what all of them together are refused for.
-/

namespace ShellWord

variable {α β ε : Type}

theorem bind_eq_ok_iff {x : Except ε α} {f : α → Except ε β} {b : β} :
    x >>= f = .ok b ↔ ∃ a, x = .ok a ∧ f a = .ok b := by
  cases x with
  | error e => simp [bind, Except.bind]
  | ok a => simp [bind, Except.bind]

theorem eq_ok_of_toOption {x : Except ε α} {a : α} (h : x.toOption = some a) : x = .ok a := by
  cases x with
  | error e => cases h
  | ok b =>
    cases h
    rfl

/-- What requests are refused for can be wrapped one by one or in the end. -/
theorem mapM_mapError {ε' : Type} (f : α → Except ε β) (g : ε → ε') (l : List α) :
    (l.mapM fun a => (f a).mapError g) = (l.mapM f).mapError g := by
  induction l with
  | nil => rfl
  | cons a rest ih =>
    rw [List.mapM_cons, List.mapM_cons, ih]
    cases f a with
    | error e => rfl
    | ok b => cases rest.mapM f <;> rfl

/-- Requests none of which is refused are answered one by one. -/
theorem mapM_eq_ok_map {f : α → Except ε β} {g : α → β} {l : List α}
    (h : ∀ a ∈ l, f a = .ok (g a)) : l.mapM f = .ok (l.map g) := by
  induction l with
  | nil => rfl
  | cons a rest ih =>
    rw [List.mapM_cons, h a List.mem_cons_self, ih fun x hx => h x (List.mem_cons_of_mem a hx)]
    rfl

theorem exists_first_error {f : α → Except ε β} {l : List α} (h : ∃ a ∈ l, ∀ b, f a ≠ .ok b) :
    ∃ before a after e, l = before ++ a :: after ∧ (∀ x ∈ before, ∃ b, f x = .ok b) ∧
      f a = .error e := by
  induction l with
  | nil => simp at h
  | cons x rest ih =>
    cases hx : f x with
    | error e => exact ⟨[], x, rest, e, rfl, by simp, hx⟩
    | ok b =>
      have hrest : ∃ a ∈ rest, ∀ b, f a ≠ .ok b := by simpa [hx] using h
      obtain ⟨before, a, after, e, rfl, hbefore, ha⟩ := ih hrest
      exact ⟨x :: before, a, after, e, rfl, List.forall_mem_cons.2 ⟨⟨b, hx⟩, hbefore⟩, ha⟩

/-- Of several requests, the first that is refused decides. -/
theorem mapM_of_first_error {f : α → Except ε β} {before after : List α} {a : α} {e : ε}
    (hbefore : ∀ x ∈ before, ∃ b, f x = .ok b) (ha : f a = .error e) :
    (before ++ a :: after).mapM f = .error e := by
  induction before with
  | nil =>
    rw [List.nil_append, List.mapM_cons, ha]
    rfl
  | cons x rest ih =>
    obtain ⟨b, hb⟩ := hbefore x List.mem_cons_self
    rw [List.cons_append, List.mapM_cons, hb, ih fun y hy => hbefore y (List.mem_cons_of_mem x hy)]
    rfl

/-- Of several, the first that something does not hold of is no later than any it does not hold
of. -/
theorem mem_or_eq_of_first {p : α → Prop} {before after before' after' : List α} {a a' : α}
    (h : before ++ a :: after = before' ++ a' :: after') (hbefore : ∀ x ∈ before, p x)
    (ha' : ¬ p a') : a ∈ before' ∨ a = a' := by
  rcases List.append_eq_append_iff.1 h with ⟨more, rfl, hmore⟩ | ⟨more, rfl, hmore⟩
  · cases more with
    | nil => exact .inr (List.cons.inj hmore).1
    | cons x rest =>
      obtain ⟨rfl, -⟩ := List.cons.inj hmore
      simp
  · cases more with
    | nil => exact .inr (List.cons.inj hmore).1.symm
    | cons x rest =>
      obtain ⟨rfl, -⟩ := List.cons.inj hmore
      exact absurd (hbefore _ (by simp)) ha'

end ShellWord
