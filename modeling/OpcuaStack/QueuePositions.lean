import Mathlib.Tactic

/-!
# Positions in a shared queue

Elements of several producers share one queue.  Erasing the first or the last
element of one producer takes the head or the tail off that producer's own
elements and leaves the others alone.
-/

namespace OpcuaStack

universe u

variable {α : Type u} (p : α → Bool)

/-- The positions of the elements which satisfy a predicate, in order. -/
def positions (queue : List α) : List ℕ :=
  (List.range queue.length).filter fun i => queue[i]?.any p

@[simp] theorem positions_nil : positions p ([] : List α) = [] := rfl

theorem positions_cons (element : α) (rest : List α) :
    positions p (element :: rest) =
      if p element then 0 :: (positions p rest).map (· + 1)
      else (positions p rest).map (· + 1) := by
  have hlater : ((List.range rest.length).map Nat.succ).filter
      (fun i => (element :: rest)[i]?.any p) =
        (positions p rest).map (· + 1) := by
    rw [List.filter_map]
    rfl
  unfold positions
  rw [List.length_cons, List.range_succ_eq_map, List.filter_cons, hlater]
  rfl

theorem length_positions (queue : List α) :
    (positions p queue).length = (queue.filter p).length := by
  induction queue with
  | nil => rfl
  | cons element rest ih =>
      rw [positions_cons, List.filter_cons]
      split <;> simp [ih]

variable {p}

theorem positions_eq_nil_iff {queue : List α} :
    positions p queue = [] ↔ queue.filter p = [] := by
  rw [← List.length_eq_zero_iff, length_positions, List.length_eq_zero_iff]

theorem of_mem_positions {queue : List α} {index : ℕ}
    (h : index ∈ positions p queue) {element : α}
    (helement : queue[index]? = some element) : p element = true := by
  have hany := (List.mem_filter.mp h).2
  rw [helement] at hany
  exact hany

theorem filter_eraseIdx_head {queue : List α} {index : ℕ}
    (h : (positions p queue).head? = some index) :
    (queue.eraseIdx index).filter p = (queue.filter p).tail := by
  induction queue generalizing index with
  | nil => simp at h
  | cons element rest ih =>
      rw [positions_cons] at h
      by_cases hp : p element = true
      · rw [if_pos hp, List.head?_cons, Option.some.injEq] at h
        subst h
        simp [hp]
      · rw [if_neg hp, List.head?_map, Option.map_eq_some_iff] at h
        obtain ⟨earlier, hearlier, rfl⟩ := h
        simp [hp, ih hearlier]

theorem filter_eraseIdx_last {queue : List α} {index : ℕ}
    (h : (positions p queue).getLast? = some index) :
    (queue.eraseIdx index).filter p = (queue.filter p).dropLast := by
  induction queue generalizing index with
  | nil => simp at h
  | cons element rest ih =>
      rw [positions_cons] at h
      by_cases hnone : positions p rest = []
      · -- no later element qualifies, so the last position is this one
        have hfilter := positions_eq_nil_iff.mp hnone
        by_cases hp : p element = true
        · simp only [hp, if_true, hnone, List.map_nil, List.getLast?_singleton,
            Option.some.injEq] at h
          subst h
          simp [hp, hfilter]
        · simp [hp, hnone] at h
      · have hfilter : rest.filter p ≠ [] := mt positions_eq_nil_iff.mpr hnone
        have hlater : ((positions p rest).map (· + 1)).getLast? = some index := by
          by_cases hp : p element = true
          · rw [if_pos hp, List.getLast?_cons] at h
            cases hlast : ((positions p rest).map (· + 1)).getLast? with
            | none => simp [hnone] at hlast
            | some found =>
                rw [hlast, Option.getD_some] at h
                exact h
          · rwa [if_neg hp] at h
        rw [List.getLast?_map, Option.map_eq_some_iff] at hlater
        obtain ⟨earlier, hearlier, rfl⟩ := hlater
        rw [List.eraseIdx_cons_succ, List.filter_cons, List.filter_cons,
          ih hearlier]
        by_cases hp : p element = true
        · rw [if_pos hp, if_pos hp, List.dropLast_cons_of_ne_nil hfilter]
        · rw [if_neg hp, if_neg hp]

theorem filter_eraseIdx_of_not {queue : List α} {index : ℕ}
    (h : ∀ element, queue[index]? = some element → p element = false) :
    (queue.eraseIdx index).filter p = queue.filter p := by
  induction queue generalizing index with
  | nil => rfl
  | cons element rest ih =>
      cases index with
      | zero => simp [h element rfl]
      | succ earlier =>
          have hrest : (rest.eraseIdx earlier).filter p = rest.filter p :=
            ih fun found hfound => h found hfound
          rw [List.eraseIdx_cons_succ, List.filter_cons, List.filter_cons, hrest]

/-! ## One producer's share -/

/-- What a share makes room with: the oldest element or the newest. -/
def trim (discardOldest : Bool) (limit : ℕ) (elements : List α) : List α :=
  if elements.length ≤ limit then elements
  else if discardOldest then elements.tail
  else elements.dropLast

theorem trim_push_newest {limit : ℕ} {elements : List α}
    (h : limit ≤ elements.length) (element : α) :
    trim false limit (elements ++ [element]) = elements := by
  have hfull : ¬(elements ++ [element]).length ≤ limit := by
    rw [List.length_append, List.length_singleton]
    omega
  rw [trim, if_neg hfull]
  exact List.dropLast_concat

theorem length_trim_push (discardOldest : Bool) (limit : ℕ) (elements : List α)
    (element : α) :
    (trim discardOldest limit (elements ++ [element])).length ≤
      max elements.length limit := by
  unfold trim
  split
  next hfits => exact le_max_of_le_right hfits
  next =>
    refine le_max_of_le_left ?_
    split <;> simp

/-- Unless the newest element is the one discarded, a push ends the share. -/
theorem getLast?_trim_push {discardOldest : Bool} {limit : ℕ}
    {elements : List α} (hlimit : 0 < limit)
    (h : discardOldest = true ∨ elements.length < limit) (element : α) :
    (trim discardOldest limit (elements ++ [element])).getLast? = some element := by
  unfold trim
  split
  · exact List.getLast?_concat
  next hfull =>
    rw [List.length_append, List.length_singleton] at hfull
    have holdest : discardOldest = true := h.resolve_right (by omega)
    have hne : elements ≠ [] := by
      rintro rfl
      simp at hfull
      omega
    rw [if_pos holdest, List.tail_append_of_ne_nil hne]
    exact List.getLast?_concat

end OpcuaStack
