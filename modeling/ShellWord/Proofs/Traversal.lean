import ShellWord.StyleCheck.Tree
import Mathlib.Data.List.Perm.Basic
import Mathlib.Data.List.Nodup

/-!
# Every node once

A node of a syntax tree has a place: the way to it from the root, as the indices of parts. Going
through a tree breadth first visits the node at each place exactly once, so it gives the nodes that
the recursion over the tree gives, in another order.
-/

namespace ShellWord.StyleCheck.Node

/-- The node at a place. -/
def at? (node : Node) : List Nat → Option Node
  | [] => some node
  | i :: rest => node.parts[i]?.bind fun part => part.at? rest

mutual

/-- A node and all below it, each with its place. -/
def placed : Node → List (List Nat × Node)
  | mk line kind parts => ([], mk line kind parts) :: placedParts 0 parts

/-- The nodes of parts that are counted from a number on, each with its place. -/
def placedParts (i : Nat) : List Node → List (List Nat × Node)
  | [] => []
  | n :: rest => n.placed.map (Prod.map (i :: ·) id) ++ placedParts (i + 1) rest

end

variable {place : List Nat} {n m : Node} {parts queue : List Node} {i : Nat}

/-! ## Places -/

theorem at?_append (n : Node) (place more : List Nat) :
    n.at? (place ++ more) = (n.at? place).bind fun m => m.at? more := by
  induction place generalizing n with
  | nil => rfl
  | cons i rest ih =>
    rw [List.cons_append, at?, at?, Option.bind_assoc]
    exact Option.bind_congr fun part _ => ih part

mutual

theorem map_snd_placed : ∀ n : Node, n.placed.map Prod.snd = n.preorder
  | mk line kind parts => by
    rw [placed, preorder, List.map_cons, map_snd_placedParts]

theorem map_snd_placedParts :
    ∀ (i : Nat) (parts : List Node), (placedParts i parts).map Prod.snd = preorders parts
  | _, [] => rfl
  | i, n :: rest => by
    rw [placedParts, preorders, List.map_append, List.map_map, map_snd_placedParts (i + 1) rest,
      ← map_snd_placed n]
    rfl

end

mutual

theorem mem_placed_iff : ∀ {n : Node} {place : List Nat} {m : Node},
    (place, m) ∈ n.placed ↔ n.at? place = some m
  | mk line kind parts, place, m => by
    rw [placed, List.mem_cons, mem_placedParts_iff]
    cases place with
    | nil => simp [at?, eq_comm]
    | cons i rest => simp [at?, Node.parts]

theorem mem_placedParts_iff : ∀ {parts : List Node} {first : Nat} {place : List Nat} {m : Node},
    (place, m) ∈ placedParts first parts ↔
      ∃ i rest, place = (first + i) :: rest ∧ (parts[i]?.bind fun part => part.at? rest) = some m
  | [], first, place, m => by simp [placedParts]
  | n :: others, first, place, m => by
    have hfirst : (place, m) ∈ n.placed.map (Prod.map (first :: ·) id) ↔
        ∃ rest, place = first :: rest ∧ n.at? rest = some m := by
      simp only [List.mem_map, Prod.exists, Prod.map, Prod.mk.injEq, id, mem_placed_iff (n := n)]
      grind
    rw [placedParts, List.mem_append, hfirst, @mem_placedParts_iff others]
    constructor
    · rintro (⟨rest, rfl, hat⟩ | ⟨i, rest, rfl, hat⟩)
      · exact ⟨0, rest, rfl, hat⟩
      · exact ⟨i + 1, rest, by rw [Nat.add_right_comm, Nat.add_assoc], hat⟩
    · rintro ⟨i, rest, rfl, hat⟩
      cases i with
      | zero => exact .inl ⟨rest, rfl, hat⟩
      | succ i => exact .inr ⟨i, rest, by rw [Nat.add_right_comm, Nat.add_assoc], hat⟩

end

mutual

theorem nodup_places : ∀ n : Node, (n.placed.map Prod.fst).Nodup
  | mk line kind parts => by
    rw [placed, List.map_cons, List.nodup_cons]
    refine ⟨fun hmem => ?_, nodup_partPlaces 0 parts⟩
    obtain ⟨⟨place, m⟩, hplaced, hnil⟩ := List.mem_map.1 hmem
    obtain ⟨i, rest, hplace, -⟩ := mem_placedParts_iff.1 hplaced
    rw [hplace] at hnil
    cases hnil

theorem nodup_partPlaces :
    ∀ (i : Nat) (parts : List Node), ((placedParts i parts).map Prod.fst).Nodup
  | _, [] => List.nodup_nil
  | i, n :: rest => by
    rw [placedParts, List.map_append, List.map_map]
    have hfirst : List.map (Prod.fst ∘ Prod.map (i :: ·) id) n.placed =
        (n.placed.map Prod.fst).map (i :: ·) := by
      rw [List.map_map]
      rfl
    rw [hfirst, List.nodup_append']
    refine ⟨(nodup_places n).map fun a b hab => (List.cons.inj hab).2,
      nodup_partPlaces (i + 1) rest, fun place hplace hother => ?_⟩
    -- the first index tells the parts apart
    obtain ⟨before, -, rfl⟩ := List.mem_map.1 hplace
    obtain ⟨⟨place, m⟩, hplaced, hcons⟩ := List.mem_map.1 hother
    obtain ⟨j, more, rfl, -⟩ := mem_placedParts_iff.1 hplaced
    have hindex := (List.cons.inj hcons).1
    omega

end

/-! ## Breadth first -/

theorem size_pos (n : Node) : 0 < n.size := by
  cases n
  rw [size]
  omega

theorem sizes_append (parts more : List Node) :
    sizes (parts ++ more) = sizes parts + sizes more := by
  induction parts with
  | nil => simp [sizes]
  | cons n rest ih => rw [List.cons_append, sizes, sizes, ih, Nat.add_assoc]

theorem preorders_append (parts more : List Node) :
    preorders (parts ++ more) = preorders parts ++ preorders more := by
  induction parts with
  | nil => rfl
  | cons n rest ih => rw [List.cons_append, preorders, preorders, ih, List.append_assoc]

/-- A queue is worked off completely: with every node all below it is visited. -/
theorem drain_perm {count : Nat} (h : sizes queue ≤ count) :
    (drain count queue).Perm (preorders queue) := by
  induction count generalizing queue with
  | zero =>
    cases queue with
    | nil => exact .nil
    | cons n rest =>
      have hpos := n.size_pos
      rw [sizes] at h
      omega
  | succ count ih =>
    cases queue with
    | nil => exact .nil
    | cons n rest =>
      obtain ⟨line, kind, parts⟩ := n
      have hrest : sizes (rest ++ parts) ≤ count := by
        rw [sizes, size] at h
        rw [sizes_append]
        omega
      rw [drain, preorders, preorder, List.cons_append]
      refine List.Perm.cons _ ((ih hrest).trans ?_)
      rw [preorders_append]
      exact List.perm_append_comm

theorem breadthFirst_perm_preorder (n : Node) : n.breadthFirst.Perm n.preorder := by
  have h : (drain n.size [n]).Perm (preorders [n]) := drain_perm (by simp [sizes])
  rwa [preorders, preorders, List.append_nil] at h

/-- The walk visits the node at each place once. -/
theorem breadthFirst_perm_placed (n : Node) :
    n.breadthFirst.Perm (n.placed.map Prod.snd) := by
  rw [map_snd_placed]
  exact n.breadthFirst_perm_preorder

end ShellWord.StyleCheck.Node
