import Mathlib.Logic.Function.Basic
import Mathlib.Tactic

/-!
# Calls and arrivals

A call names a key and a handle, and waits for what arrives under its key.  An
arrival may come before its call or after it, and a failure settles every call
which waits at that moment.  With one call and one arrival to a key, a call is
settled once, with the body of its own arrival or with an error.
-/

namespace OpcuaStack

universe u v w x

/-- What was called and what arrived under each key, how each call was settled,
and the failures so far. -/
structure CallBook (κ : Type u) (η : Type v) (ε : Type w) (α : Type x) where
  calls : κ → Option η
  arrivals : κ → Option (η × α)
  outcomes : κ → Option (Except ε α)
  failures : List ε

namespace CallBook

variable {κ : Type u} {η : Type v} {ε : Type w} {α : Type x}

def empty : CallBook κ η ε α where
  calls _ := none
  arrivals _ := none
  outcomes _ := none
  failures := []

/-- The handle of a call which is not settled yet. -/
def waiting (book : CallBook κ η ε α) (key : κ) : Option η :=
  if (book.outcomes key).isSome then none else book.calls key

/-- A failure settles every call which waits. -/
def fail (book : CallBook κ η ε α) (error : ε) : CallBook κ η ε α :=
  { book with
    outcomes := fun key =>
      (book.waiting key).elim (book.outcomes key) fun _ => some (.error error)
    failures := book.failures ++ [error] }

theorem waiting_eq_some_iff {book : CallBook κ η ε α} {key : κ} {handle : η} :
    book.waiting key = some handle ↔
      book.outcomes key = none ∧ book.calls key = some handle := by
  unfold waiting
  cases book.outcomes key <;> simp

theorem waiting_of_outcome {book : CallBook κ η ε α} {key : κ}
    {outcome : Except ε α} (h : book.outcomes key = some outcome) :
    book.waiting key = none := by
  simp [waiting, h]

theorem waiting_of_open {book : CallBook κ η ε α} {key : κ}
    (h : book.outcomes key = none) : book.waiting key = book.calls key := by
  simp [waiting, h]

theorem waiting_fail (book : CallBook κ η ε α) (error : ε) (key : κ) :
    (book.fail error).waiting key = none := by
  cases hwaiting : book.waiting key with
  | none =>
      cases houtcome : book.outcomes key with
      | none =>
          rw [waiting_of_open houtcome] at hwaiting
          have hopen : (book.fail error).outcomes key = none := by
            simp [fail, waiting_of_open, houtcome, hwaiting]
          rw [waiting_of_open hopen]
          exact hwaiting
      | some outcome =>
          refine waiting_of_outcome (show _ = some outcome from ?_)
          simp [fail, waiting_of_outcome houtcome, houtcome]
  | some handle =>
      refine waiting_of_outcome (show _ = some (.error error) from ?_)
      simp [fail, hwaiting]

section Steps

variable [DecidableEq κ] [DecidableEq η]

/-- An arrival settles a call by its body, or by the error `mismatch` when it has
another handle. -/
def settle (mismatch : ε) (handle : η) (arrival : η × α) : Except ε α :=
  if arrival.1 = handle then .ok arrival.2 else .error mismatch

def call (mismatch : ε) (book : CallBook κ η ε α) (key : κ) (handle : η) :
    CallBook κ η ε α :=
  { book with
    calls := Function.update book.calls key (some handle)
    outcomes := Function.update book.outcomes key
      ((book.arrivals key).map (settle mismatch handle)) }

def arrive (mismatch : ε) (book : CallBook κ η ε α) (key : κ)
    (arrival : η × α) : CallBook κ η ε α :=
  { book with
    arrivals := Function.update book.arrivals key (some arrival)
    outcomes := Function.update book.outcomes key
      ((book.waiting key).elim (book.outcomes key) fun handle =>
        some (settle mismatch handle arrival)) }

/-- What the book may hold under one key. -/
inductive Entry (mismatch : ε) (failures : List ε) :
    Option η → Option (η × α) → Option (Except ε α) → Prop
  | uncalled (arrival : Option (η × α)) : Entry mismatch failures none arrival none
  | waiting (handle : η) : Entry mismatch failures (some handle) none none
  | answered (handle : η) (arrival : η × α) :
      Entry mismatch failures (some handle) (some arrival)
        (some (settle mismatch handle arrival))
  | failed (handle : η) (arrival : Option (η × α)) (error : ε)
      (hfailed : error ∈ failures) :
      Entry mismatch failures (some handle) arrival (some (.error error))

def Sound (mismatch : ε) (book : CallBook κ η ε α) : Prop :=
  ∀ key, Entry mismatch book.failures (book.calls key) (book.arrivals key)
    (book.outcomes key)

omit [DecidableEq κ] in
theorem settle_eq_ok_iff {mismatch : ε} {handle : η} {arrival : η × α}
    {body : α} :
    settle mismatch handle arrival = .ok body ↔ arrival = (handle, body) := by
  unfold settle
  split
  next heq =>
    subst heq
    rw [Except.ok.injEq]
    constructor
    · rintro rfl
      rfl
    · intro harrival
      rw [harrival]
  next hne =>
    constructor
    · intro h
      cases h
    · rintro rfl
      exact absurd rfl hne

omit [DecidableEq κ] in
theorem Entry.mono {mismatch : ε} {failures later : List ε}
    (hsub : failures ⊆ later) {called : Option η} {arrival : Option (η × α)}
    {outcome : Option (Except ε α)}
    (h : Entry mismatch failures called arrival outcome) :
    Entry mismatch later called arrival outcome := by
  cases h with
  | uncalled arrival => exact .uncalled arrival
  | waiting handle => exact .waiting handle
  | answered handle arrival => exact .answered handle arrival
  | failed handle arrival error hfailed =>
      exact .failed handle arrival error (hsub hfailed)

variable {mismatch : ε} {book : CallBook κ η ε α}

omit [DecidableEq κ] in
theorem empty_sound : Sound mismatch (empty : CallBook κ η ε α) :=
  fun _ => .uncalled none

theorem Sound.call (h : book.Sound mismatch) {key : κ} (handle : η)
    (hnew : book.calls key = none) :
    (book.call mismatch key handle).Sound mismatch := by
  intro other
  have hother := h other
  by_cases heq : other = key
  · subst heq
    simp only [CallBook.call, Function.update_self]
    cases book.arrivals other with
    | none => exact .waiting handle
    | some arrival => exact .answered handle arrival
  · simp only [CallBook.call, Function.update_of_ne heq]
    exact hother

theorem Sound.arrive (h : book.Sound mismatch) {key : κ} (arrival : η × α)
    (hnew : book.arrivals key = none) :
    (book.arrive mismatch key arrival).Sound mismatch := by
  intro other
  have hother := h other
  by_cases heq : other = key
  · subst heq
    simp only [CallBook.arrive, Function.update_self, CallBook.waiting]
    rw [hnew] at hother
    generalize book.calls other = called at hother
    generalize book.outcomes other = outcome at hother
    cases hother with
    | uncalled _ => exact .uncalled (some arrival)
    | waiting handle => exact .answered handle arrival
    | failed handle _ error hfailed =>
        exact .failed handle (some arrival) error hfailed
  · simp only [CallBook.arrive, Function.update_of_ne heq]
    exact hother

omit [DecidableEq κ] in
theorem Sound.fail (h : book.Sound mismatch) (error : ε) :
    (book.fail error).Sound mismatch := by
  intro key
  have hkey := (h key).mono (List.subset_append_left book.failures [error])
  simp only [CallBook.fail, CallBook.waiting]
  generalize book.calls key = called at hkey
  generalize book.arrivals key = arrival at hkey
  generalize book.outcomes key = outcome at hkey
  cases hkey with
  | uncalled arrival => exact .uncalled arrival
  | waiting handle => exact .failed handle none error (by simp)
  | answered handle arrival => exact .answered handle arrival
  | failed handle arrival earlier hfailed =>
      exact .failed handle arrival earlier hfailed

/-! ## What a sound book says -/

omit [DecidableEq κ] in
theorem Sound.matched (h : book.Sound mismatch) {key : κ} {body : α}
    (houtcome : book.outcomes key = some (.ok body)) :
    ∃ handle, book.calls key = some handle ∧
      book.arrivals key = some (handle, body) := by
  have hkey := h key
  generalize book.calls key = called at hkey
  generalize book.arrivals key = arrival at hkey
  rw [houtcome] at hkey
  generalize hsettled : some ((Except.ok body : Except ε α)) = outcome at hkey
  cases hkey with
  | uncalled _ => cases hsettled
  | waiting _ => cases hsettled
  | answered handle arrival =>
      refine ⟨handle, rfl, congrArg some ?_⟩
      exact settle_eq_ok_iff.mp (Option.some.inj hsettled).symm
  | failed _ _ _ _ => cases hsettled

omit [DecidableEq κ] in
/-- A call whose arrival is there is settled by it, unless it had failed. -/
theorem Sound.settled (h : book.Sound mismatch) {key : κ} {handle : η}
    {body : α} (hcall : book.calls key = some handle)
    (harrival : book.arrivals key = some (handle, body)) :
    book.outcomes key = some (.ok body) ∨
      ∃ error ∈ book.failures, book.outcomes key = some (.error error) := by
  have hkey := h key
  rw [hcall, harrival] at hkey
  generalize book.outcomes key = outcome at hkey
  cases hkey with
  | answered _ _ => exact .inl (congrArg some (settle_eq_ok_iff.mpr rfl))
  | failed _ _ error hfailed => exact .inr ⟨error, hfailed, rfl⟩

omit [DecidableEq κ] in
theorem Sound.open_of_not_called (h : book.Sound mismatch) {key : κ}
    (hcall : book.calls key = none) : book.outcomes key = none := by
  have hkey := h key
  rw [hcall] at hkey
  generalize book.arrivals key = arrival at hkey
  generalize book.outcomes key = outcome at hkey
  cases hkey with
  | uncalled _ => rfl

end Steps

end CallBook
end OpcuaStack
