import Mathlib.Tactic

/-!
# Calls which wait for their answer

Calls are numbered in the order in which they are made.  A call returns at once
or waits in a task, under what it remembers; the task may hand it on to another
task before it returns.  What is asked of a table of calls is asked of each call
by itself: it has returned once, or it waits in one task.
-/

namespace OpcuaStack

variable {κ ρ : Type}

structure CallTable (κ ρ : Type) where
  waiting : ℕ → Option (ℕ × κ) := fun _ => none
  returned : ℕ → List ρ := fun _ => []
  nextCall : ℕ := 0

namespace CallTable

/-- A new call which returns at once. -/
def openReturned (t : CallTable κ ρ) (result : ρ) : CallTable κ ρ :=
  { t with
    returned := Function.update t.returned t.nextCall
      (t.returned t.nextCall ++ [result])
    nextCall := t.nextCall + 1 }

/-- A new call which waits in a task. -/
def openWaiting (t : CallTable κ ρ) (task : ℕ) (kept : κ) : CallTable κ ρ :=
  { t with
    waiting := Function.update t.waiting task (some (t.nextCall, kept))
    nextCall := t.nextCall + 1 }

/-- The call which waits in a task returns. -/
def finish (t : CallTable κ ρ) (task : ℕ) (result : κ → ρ) : CallTable κ ρ :=
  match t.waiting task with
  | none => t
  | some (call, kept) =>
      { t with
        waiting := Function.update t.waiting task none
        returned := Function.update t.returned call
          (t.returned call ++ [result kept]) }

/-- The call which waits in a task goes on waiting in another one. -/
def move (t : CallTable κ ρ) (task next : ℕ) : CallTable κ ρ :=
  match t.waiting task with
  | none => t
  | some held =>
      { t with
        waiting := Function.update (Function.update t.waiting task none) next
          (some held) }

/-- No call waits in a task from the given one on. -/
def WaitsBelow (t : CallTable κ ρ) (bound : ℕ) : Prop :=
  ∀ task held, t.waiting task = some held → task < bound

/-- The call waits in the task and nowhere else, and has not returned. -/
structure Waits (t : CallTable κ ρ) (call : ℕ) (kept : κ) (task : ℕ) :
    Prop where
  made : call < t.nextCall
  returned : t.returned call = []
  only : ∀ other remembered,
    t.waiting other = some (call, remembered) ↔
      other = task ∧ remembered = kept

/-- The call has returned once, with this result, and waits nowhere. -/
structure Returned (t : CallTable κ ρ) (call : ℕ) (result : ρ) : Prop where
  made : call < t.nextCall
  returned : t.returned call = [result]
  nowhere : ∀ task kept, t.waiting task ≠ some (call, kept)

/-- The calls which have not been made are not in the table. -/
structure Numbered (t : CallTable κ ρ) : Prop where
  returned : ∀ call, t.nextCall ≤ call → t.returned call = []
  waiting : ∀ task call kept,
    t.waiting task = some (call, kept) → call < t.nextCall

theorem numbered_empty : Numbered ({} : CallTable κ ρ) where
  returned _ _ := rfl
  waiting _ _ _ h := by cases h

section Operations

variable {t : CallTable κ ρ} {call task : ℕ} {kept : κ} {result : ρ}

theorem Waits.waiting (h : t.Waits call kept task) :
    t.waiting task = some (call, kept) :=
  (h.only task kept).mpr ⟨rfl, rfl⟩

/-! ### A new call -/

theorem openReturned_returned_of_ne (hne : call ≠ t.nextCall) :
    (t.openReturned result).returned call = t.returned call :=
  Function.update_of_ne hne _ _

theorem Numbered.openReturned (h : t.Numbered) (result : ρ) :
    (t.openReturned result).Numbered where
  returned call hcall := by
    have hne : call ≠ t.nextCall := Nat.ne_of_gt hcall
    rw [openReturned_returned_of_ne hne]
    exact h.returned call (Nat.le_of_succ_le hcall)
  waiting task call kept hheld :=
    (h.waiting task call kept hheld).trans (Nat.lt_succ_self _)

theorem Numbered.returned_openReturned (h : t.Numbered) (result : ρ) :
    (t.openReturned result).Returned t.nextCall result where
  made := Nat.lt_succ_self _
  returned := by
    simp [CallTable.openReturned, h.returned _ (le_refl _)]
  nowhere task kept hheld := (h.waiting task _ kept hheld).false

theorem Numbered.openWaiting (h : t.Numbered) (task : ℕ) (kept : κ) :
    (t.openWaiting task kept).Numbered where
  returned call hcall := h.returned call (Nat.le_of_succ_le hcall)
  waiting other call remembered hheld := by
    by_cases htask : other = task
    · subst htask
      simp only [CallTable.openWaiting, Function.update_self,
        Option.some.injEq, Prod.mk.injEq] at hheld
      rw [← hheld.1]
      exact Nat.lt_succ_self _
    · simp only [CallTable.openWaiting, Function.update_of_ne htask] at hheld
      exact (h.waiting other call remembered hheld).trans (Nat.lt_succ_self _)

theorem Numbered.waits_openWaiting (h : t.Numbered) (task : ℕ) (kept : κ) :
    (t.openWaiting task kept).Waits t.nextCall kept task where
  made := Nat.lt_succ_self _
  returned := h.returned _ (le_refl _)
  only other remembered := by
    by_cases htask : other = task
    · subst htask
      simp [CallTable.openWaiting, eq_comm]
    · simp only [CallTable.openWaiting, Function.update_of_ne htask, htask,
        false_and, iff_false]
      exact fun hheld => (h.waiting other _ remembered hheld).false

/-! ### The calls already made -/

theorem Waits.openReturned (h : t.Waits call kept task) (result : ρ) :
    (t.openReturned result).Waits call kept task where
  made := h.made.trans (Nat.lt_succ_self _)
  returned := by
    rw [openReturned_returned_of_ne h.made.ne]
    exact h.returned
  only := h.only

theorem Returned.openReturned (h : t.Returned call result) (other : ρ) :
    (t.openReturned other).Returned call result where
  made := h.made.trans (Nat.lt_succ_self _)
  returned := by
    rw [openReturned_returned_of_ne h.made.ne]
    exact h.returned
  nowhere := h.nowhere

theorem Waits.openWaiting (h : t.Waits call kept task) {other : ℕ}
    (hfree : t.waiting other = none) (remembered : κ) :
    (t.openWaiting other remembered).Waits call kept task where
  made := h.made.trans (Nat.lt_succ_self _)
  returned := h.returned
  only place found := by
    by_cases hplace : place = other
    · subst hplace
      have hne : place ≠ task := by
        rintro rfl
        rw [h.waiting] at hfree
        cases hfree
      simp [CallTable.openWaiting, hne, h.made.ne']
    · simp only [CallTable.openWaiting, Function.update_of_ne hplace]
      exact h.only place found

theorem Returned.openWaiting (h : t.Returned call result) (task : ℕ)
    (kept : κ) : (t.openWaiting task kept).Returned call result where
  made := h.made.trans (Nat.lt_succ_self _)
  returned := h.returned
  nowhere place found hheld := by
    by_cases hplace : place = task
    · subst hplace
      simp only [CallTable.openWaiting, Function.update_self,
        Option.some.injEq, Prod.mk.injEq] at hheld
      exact h.made.ne' hheld.1
    · simp only [CallTable.openWaiting, Function.update_of_ne hplace] at hheld
      exact h.nowhere place found hheld

/-! ### A call which returns or goes on waiting -/

theorem Waits.finish_self (h : t.Waits call kept task) (result : κ → ρ) :
    (t.finish task result).Returned call (result kept) := by
  unfold CallTable.finish
  rw [h.waiting]
  refine ⟨h.made, ?_, fun place found hheld => ?_⟩
  · simp [h.returned]
  · by_cases hplace : place = task
    · subst hplace
      simp at hheld
    · simp only [Function.update_of_ne hplace] at hheld
      exact hplace ((h.only place found).mp hheld).1

theorem Waits.finish_other (h : t.Waits call kept task) {other : ℕ}
    (hne : other ≠ task) (result : κ → ρ) :
    (t.finish other result).Waits call kept task := by
  unfold CallTable.finish
  cases hheld : t.waiting other with
  | none => exact h
  | some held =>
      obtain ⟨second, remembered⟩ := held
      have hsecond : call ≠ second := by
        rintro rfl
        exact hne ((h.only other remembered).mp hheld).1
      refine ⟨h.made, ?_, fun place found => ?_⟩
      · simp [Function.update_of_ne hsecond, h.returned]
      · by_cases hplace : place = other
        · subst hplace
          simp [hne]
        · simp only [Function.update_of_ne hplace]
          exact h.only place found

theorem Returned.finish (h : t.Returned call result) (task : ℕ)
    (other : κ → ρ) : (t.finish task other).Returned call result := by
  unfold CallTable.finish
  cases hheld : t.waiting task with
  | none => exact h
  | some held =>
      obtain ⟨second, remembered⟩ := held
      have hsecond : call ≠ second := by
        rintro rfl
        exact h.nowhere task remembered hheld
      refine ⟨h.made, ?_, fun place found hfound => ?_⟩
      · simp [Function.update_of_ne hsecond, h.returned]
      · by_cases hplace : place = task
        · subst hplace
          simp at hfound
        · simp only [Function.update_of_ne hplace] at hfound
          exact h.nowhere place found hfound

theorem Numbered.finish (h : t.Numbered) (task : ℕ) (result : κ → ρ) :
    (t.finish task result).Numbered := by
  unfold CallTable.finish
  cases hheld : t.waiting task with
  | none => exact h
  | some held =>
      obtain ⟨call, kept⟩ := held
      have hcall := h.waiting task call kept hheld
      refine ⟨fun other hother => ?_, fun place other found hfound => ?_⟩
      · have hne : other ≠ call := by
          rintro rfl
          exact absurd hother (not_le.mpr hcall)
        simp only [Function.update_of_ne hne]
        exact h.returned other hother
      · by_cases hplace : place = task
        · subst hplace
          simp at hfound
        · simp only [Function.update_of_ne hplace] at hfound
          exact h.waiting place other found hfound

theorem move_waiting {next : ℕ} {held : ℕ × κ}
    (hheld : t.waiting task = some held) (place : ℕ) :
    (t.move task next).waiting place =
      if place = next then some held
      else if place = task then none
      else t.waiting place := by
  unfold CallTable.move
  rw [hheld]
  by_cases hnext : place = next
  · subst hnext
    simp
  · by_cases htask : place = task
    · subst htask
      simp [hnext]
    · simp [hnext, htask]

theorem move_of_none {next : ℕ} (hnone : t.waiting task = none) :
    t.move task next = t := by
  unfold CallTable.move
  rw [hnone]

@[simp] theorem move_returned (next : ℕ) :
    (t.move task next).returned = t.returned := by
  unfold CallTable.move
  split <;> rfl

@[simp] theorem move_nextCall (next : ℕ) :
    (t.move task next).nextCall = t.nextCall := by
  unfold CallTable.move
  split <;> rfl

theorem Waits.move_self (h : t.Waits call kept task) (next : ℕ) :
    (t.move task next).Waits call kept next where
  made := by simpa using h.made
  returned := by simpa using h.returned
  only place found := by
    rw [move_waiting h.waiting]
    by_cases hnext : place = next
    · simp only [hnext, if_true, Option.some.injEq, Prod.mk.injEq, true_and]
      exact eq_comm
    · by_cases htask : place = task
      · rw [if_neg hnext, if_pos htask]
        simp [hnext]
      · simp only [hnext, htask, if_false, false_and, iff_false]
        intro hheld
        exact htask ((h.only place found).mp hheld).1

theorem Waits.move_other (h : t.Waits call kept task) {other next : ℕ}
    (hne : other ≠ task) (hfree : t.waiting next = none) :
    (t.move other next).Waits call kept task := by
  cases hheld : t.waiting other with
  | none =>
      rw [move_of_none hheld]
      exact h
  | some held =>
      have hnext : task ≠ next := by
        rintro rfl
        rw [h.waiting] at hfree
        cases hfree
      refine ⟨by simpa using h.made, by simpa using h.returned,
        fun place found => ?_⟩
      rw [move_waiting hheld]
      by_cases hplace : place = next
      · subst hplace
        have hother : held ≠ (call, found) := by
          rintro rfl
          exact hne ((h.only other found).mp hheld).1
        simp [hother, hnext.symm]
      · by_cases hplace' : place = other
        · subst hplace'
          simp [hplace, hne]
        · simp only [hplace, hplace', if_false]
          exact h.only place found

theorem Returned.move (h : t.Returned call result) (task next : ℕ) :
    (t.move task next).Returned call result := by
  cases hheld : t.waiting task with
  | none =>
      rw [move_of_none hheld]
      exact h
  | some held =>
      refine ⟨by simpa using h.made, by simpa using h.returned,
        fun place found hfound => ?_⟩
      rw [move_waiting hheld] at hfound
      split at hfound
      · cases hfound
        exact h.nowhere task found hheld
      · split at hfound
        · cases hfound
        · exact h.nowhere place found hfound

theorem Numbered.move (h : t.Numbered) (task next : ℕ) :
    (t.move task next).Numbered := by
  cases hheld : t.waiting task with
  | none =>
      rw [move_of_none hheld]
      exact h
  | some held =>
      refine ⟨fun other hother => ?_, fun place other found hfound => ?_⟩
      · rw [move_returned]
        exact h.returned other (by simpa using hother)
      · rw [move_waiting hheld] at hfound
        rw [move_nextCall]
        split at hfound
        · cases hfound
          exact h.waiting task other found hheld
        · split at hfound
          · cases hfound
          · exact h.waiting place other found hfound

/-! ### The tasks in use -/

theorem waiting_of_finish {result : κ → ρ} {place : ℕ} {held : ℕ × κ}
    (h : (t.finish task result).waiting place = some held) :
    t.waiting place = some held ∧ place ≠ task := by
  unfold CallTable.finish at h
  cases hheld : t.waiting task with
  | none =>
      simp only [hheld] at h
      refine ⟨h, ?_⟩
      rintro rfl
      rw [hheld] at h
      cases h
  | some found =>
      simp only [hheld] at h
      by_cases hplace : place = task
      · subst hplace
        simp at h
      · rw [Function.update_of_ne hplace] at h
        exact ⟨h, hplace⟩

theorem waiting_of_move {next place : ℕ} {held : ℕ × κ}
    (h : (t.move task next).waiting place = some held) :
    place = next ∨ t.waiting place = some held ∧ place ≠ task := by
  cases hheld : t.waiting task with
  | none =>
      rw [move_of_none hheld] at h
      refine .inr ⟨h, ?_⟩
      rintro rfl
      rw [hheld] at h
      cases h
  | some found =>
      rw [move_waiting hheld] at h
      split at h
      next hplace => exact .inl hplace
      · split at h
        · cases h
        next hne => exact .inr ⟨h, hne⟩

theorem WaitsBelow.mono {bound larger : ℕ} (h : t.WaitsBelow bound)
    (hle : bound ≤ larger) : t.WaitsBelow larger :=
  fun task held hheld => (h task held hheld).trans_le hle

theorem WaitsBelow.free {bound : ℕ} (h : t.WaitsBelow bound) :
    t.waiting bound = none := by
  cases hheld : t.waiting bound with
  | none => rfl
  | some held => exact absurd (h bound held hheld) (lt_irrefl bound)

theorem WaitsBelow.openWaiting {bound : ℕ} (h : t.WaitsBelow bound)
    (kept : κ) : (t.openWaiting bound kept).WaitsBelow (bound + 1) := by
  intro place held hheld
  by_cases hplace : place = bound
  · rw [hplace]
    exact Nat.lt_succ_self bound
  · simp only [CallTable.openWaiting, Function.update_of_ne hplace] at hheld
    exact (h place held hheld).trans (Nat.lt_succ_self bound)

theorem WaitsBelow.finish {bound : ℕ} (h : t.WaitsBelow bound) (task : ℕ)
    (result : κ → ρ) : (t.finish task result).WaitsBelow bound := by
  unfold CallTable.finish
  split
  · exact h
  · intro place held hheld
    by_cases hplace : place = task
    · subst hplace
      simp at hheld
    · simp only [Function.update_of_ne hplace] at hheld
      exact h place held hheld

theorem WaitsBelow.move {bound : ℕ} (h : t.WaitsBelow bound) (task : ℕ) :
    (t.move task bound).WaitsBelow (bound + 1) := by
  cases hheld : t.waiting task with
  | none =>
      rw [move_of_none hheld]
      exact h.mono (Nat.le_succ bound)
  | some held =>
      intro place found hfound
      rw [move_waiting hheld] at hfound
      split at hfound
      next hplace =>
        rw [hplace]
        exact Nat.lt_succ_self bound
      · split at hfound
        · cases hfound
        · exact (h place found hfound).trans (Nat.lt_succ_self bound)

end Operations

end CallTable
end OpcuaStack
