import Mathlib.Data.List.Rotate
import Mathlib.Tactic

/-!
# A list visited in turn from a cursor

A scheduler keeps a list and an index into it, and visits the list from the
index around to where it began.  Read from the cursor the list is a queue: the
element found leaves its place and goes to the end, an element erased leaves
the rest in order, and an appended element joins somewhere between the others.
-/

namespace OpcuaStack

universe u

variable {α : Type u}

/-- The first index, visited from the cursor around, which satisfies the
predicate. -/
def cyclicFind (p : α → Bool) (order : List α) (cursor : ℕ) : Option ℕ :=
  ((List.range order.length).map fun offset =>
      (cursor + offset) % order.length).find?
    fun index => order[index]?.any p

/-- The list as it is visited from the cursor. -/
def visited (order : List α) (cursor : ℕ) : List α := order.rotate cursor

theorem mem_visited {order : List α} {cursor : ℕ} {a : α} :
    a ∈ visited order cursor ↔ a ∈ order :=
  List.mem_rotate

theorem nodup_visited {order : List α} {cursor : ℕ} :
    (visited order cursor).Nodup ↔ order.Nodup :=
  List.nodup_rotate

theorem cyclicFind_eq_none {p : α → Bool} {order : List α} {cursor : ℕ}
    (h : cyclicFind p order cursor = none) : ∀ a ∈ order, p a = false := by
  intro a hmem
  have hvisited : a ∈ visited order cursor := mem_visited.mpr hmem
  obtain ⟨offset, hoffset, ha⟩ := List.mem_iff_getElem.mp hvisited
  have hlength : offset < order.length := by
    simpa [visited] using hoffset
  have hat : order[(cursor + offset) % order.length]? = some a := by
    rw [← ha]
    simp only [visited, List.getElem_rotate]
    rw [Nat.add_comm offset cursor]
    exact List.getElem?_eq_getElem _
  unfold cyclicFind at h
  rw [List.find?_eq_none] at h
  have hnot := h ((cursor + offset) % order.length)
    (List.mem_map.mpr ⟨offset, List.mem_range.mpr hlength, rfl⟩)
  rw [hat] at hnot
  simpa using hnot

/-- The element found is the first in the queue to satisfy the predicate, and
behind the cursor advanced past it the queue ends in it. -/
theorem cyclicFind_eq_some {p : α → Bool} {order : List α} {cursor index : ℕ}
    (h : cyclicFind p order cursor = some index) :
    ∃ before a after, order[index]? = some a ∧ p a = true ∧
      visited order cursor = before ++ a :: after ∧
      (∀ b ∈ before, p b = false) ∧
      visited order ((index + 1) % order.length) = after ++ before ++ [a] := by
  unfold cyclicFind at h
  obtain ⟨hfound, offset, hoffset, hindex, hearlier⟩ :=
    List.find?_eq_some_iff_getElem.mp h
  simp only [List.length_map, List.length_range] at hoffset
  simp only [List.getElem_map, List.getElem_range] at hindex hearlier
  have hlength : (visited order cursor).length = order.length := by
    simp [visited]
  have hqueue : offset < (visited order cursor).length := by omega
  have hat : ∀ j (hj : j < (visited order cursor).length),
      order[(cursor + j) % order.length]? =
        some (visited order cursor)[j] := by
    intro j hj
    simp only [visited, List.getElem_rotate]
    rw [Nat.add_comm j cursor]
    exact List.getElem?_eq_getElem _
  have hsplit : visited order cursor =
      (visited order cursor).take offset ++
        (visited order cursor)[offset] ::
          (visited order cursor).drop (offset + 1) := by
    rw [← List.drop_eq_getElem_cons, List.take_append_drop]
  refine ⟨_, _, _, ?_, ?_, hsplit, ?_, ?_⟩
  · rw [← hindex]
    exact hat offset hqueue
  · rw [← hindex, hat offset hqueue] at hfound
    simpa using hfound
  · intro b hb
    obtain ⟨j, hj, rfl⟩ := List.mem_iff_getElem.mp hb
    rw [List.length_take] at hj
    have hnot := hearlier j (by omega)
    rw [hat j (by omega)] at hnot
    simpa using hnot
  · have hadvance : visited order ((index + 1) % order.length) =
        (visited order cursor).rotate (offset + 1) := by
      rw [visited, visited, List.rotate_rotate, List.rotate_mod, ← hindex,
        ← List.rotate_mod, Nat.mod_add_mod, List.rotate_mod]
      rfl
    rw [hadvance, List.rotate_eq_drop_append_take (by omega)]
    rw [List.take_add_one, List.getElem?_eq_getElem hqueue]
    simp

theorem pair_sublist_of_notMem {a b : α} {front back : List α}
    (h : [a, b].Sublist (front ++ back)) (ha : a ∉ front) :
    [a, b].Sublist back := by
  induction front with
  | nil => exact h
  | cons c front ih =>
      rw [List.mem_cons, not_or] at ha
      rw [List.cons_append] at h
      cases h with
      | cons _ hrest => exact ih hrest ha.2
      | cons_cons _ hrest => exact absurd rfl ha.1

theorem visited_append {order : List α} {cursor : ℕ}
    (hcursor : cursor ≤ order.length) (a : α) :
    (visited order cursor).Sublist (visited (order ++ [a]) cursor) := by
  unfold visited
  rw [List.rotate_eq_drop_append_take hcursor,
    List.rotate_eq_drop_append_take (by simp; omega),
    List.drop_append_of_le_length hcursor, List.take_append_of_le_length hcursor]
  exact (List.sublist_append_left _ _).append (List.Sublist.refl _)

/-- The cursor after the element at an index is erased and `count` are left. -/
def cursorAfterErase (cursor index count : ℕ) : ℕ :=
  let next := if index < cursor then cursor - 1 else cursor
  if count ≤ next then 0 else next

theorem visited_split_of_le {front back : List α} {cursor : ℕ}
    (h : cursor ≤ front.length) :
    visited (front ++ back) cursor =
      front.drop cursor ++ back ++ front.take cursor := by
  unfold visited
  rw [List.rotate_eq_drop_append_take (by simp; omega),
    List.drop_append_of_le_length h, List.take_append_of_le_length h]

theorem visited_split_of_ge {front back : List α} {offset : ℕ}
    (h : offset ≤ back.length) :
    visited (front ++ back) (front.length + offset) =
      back.drop offset ++ front ++ back.take offset := by
  unfold visited
  rw [List.rotate_eq_drop_append_take (by simp; omega)]
  rw [List.drop_length_add_append, List.take_length_add_append]
  simp

theorem visited_erase [DecidableEq α] {front back : List α} {a : α} {cursor : ℕ}
    (hnodup : (front ++ a :: back).Nodup)
    (hcursor : cursor ≤ front.length + back.length) :
    visited (front ++ back)
        (cursorAfterErase cursor front.length (front ++ back).length) =
      (visited (front ++ a :: back) cursor).erase a := by
  have hfront : a ∉ front := by
    intro hmem
    exact (List.nodup_append.mp hnodup).2.2 a hmem a List.mem_cons_self rfl
  have hback : a ∉ back :=
    (List.nodup_cons.mp (List.nodup_append.mp hnodup).2.1).1
  unfold cursorAfterErase
  simp only [List.length_append]
  by_cases hle : cursor ≤ front.length
  · have herased : (visited (front ++ a :: back) cursor).erase a =
        visited (front ++ back) cursor := by
      rw [visited_split_of_le hle, visited_split_of_le hle,
        List.append_assoc, List.append_assoc, List.cons_append,
        List.erase_append_right _ (fun h => hfront (List.mem_of_mem_drop h)),
        List.erase_cons_head]
    rw [herased, if_neg (show ¬front.length < cursor by omega)]
    split
    next hend =>
      have hwhole : cursor = (front ++ back).length := by
        simp only [List.length_append]
        omega
      rw [hwhole, visited, visited, List.rotate_zero, List.rotate_length]
    next => rfl
  · obtain ⟨offset, rfl⟩ : ∃ offset, cursor = front.length + (offset + 1) :=
      ⟨cursor - front.length - 1, by omega⟩
    rw [if_pos (show front.length < front.length + (offset + 1) by omega),
      if_neg (by omega), visited_split_of_ge (by simp; omega)]
    rw [show front.length + (offset + 1) - 1 = front.length + offset by omega,
      visited_split_of_ge (by omega)]
    simp only [List.drop_succ_cons, List.take_succ_cons]
    rw [List.erase_append_right, List.erase_cons_head]
    intro hmem
    rcases List.mem_append.mp hmem with hdrop | hmem
    · exact hback (List.mem_of_mem_drop hdrop)
    · exact hfront hmem

end OpcuaStack
