import OpcuaStack.GuardedRun

/-!
# A turn with a queue of waiters

One turn at a time is held.  Who comes while it is taken waits in a queue; a release frees
the turn and wakes the first of the queue, who looks at the turn again and may find it
taken by another.  What is counted here is enough for two facts: no two hold the turn, and
a queue is never left without someone who will look at the turn.
-/

namespace OpcuaStack

/-- The flag of the turn, and how many hold it, wait in the queue, and are about to look. -/
structure TurnQueue where
  taken : Bool := false
  holders : ℕ := 0
  queued : ℕ := 0
  woken : ℕ := 0

namespace TurnQueue

variable {t next : TurnQueue}

def arrive (t : TurnQueue) : TurnQueue := { t with woken := t.woken + 1 }

def take (t : TurnQueue) : TurnQueue :=
  { t with taken := true, holders := t.holders + 1, woken := t.woken - 1 }

def queue (t : TurnQueue) : TurnQueue :=
  { t with queued := t.queued + 1, woken := t.woken - 1 }

def release (t : TurnQueue) : TurnQueue where
  taken := false
  holders := t.holders - 1
  queued := t.queued - 1
  woken := t.woken + min t.queued 1

inductive Move (t : TurnQueue) : TurnQueue → Prop
  | arrive : Move t t.arrive
  | take (hwoken : 0 < t.woken) (hfree : t.taken = false) : Move t t.take
  | queue (hwoken : 0 < t.woken) (htaken : t.taken = true) : Move t t.queue
  | release (hheld : 0 < t.holders) : Move t t.release

/-- The turn is held exactly while it is taken, and then once; a queue is waited in only
while someone holds the turn or is about to look at it. -/
structure Sound (t : TurnQueue) : Prop where
  holders : t.holders = t.taken.toNat
  awaited : 0 < t.queued → 0 < t.holders ∨ 0 < t.woken

theorem Sound.holders_le (h : t.Sound) : t.holders ≤ 1 := by
  rw [h.holders]
  exact Bool.toNat_le _

theorem Sound.initial : Sound {} := ⟨rfl, fun h => absurd h (lt_irrefl 0)⟩

theorem Move.sound (hmove : t.Move next) (h : t.Sound) : next.Sound := by
  cases hmove with
  | arrive => exact ⟨h.holders, fun _ => Or.inr (Nat.succ_pos _)⟩
  | take _ hfree =>
      have hnone : t.holders = 0 := by rw [h.holders, hfree]; rfl
      exact ⟨congrArg (· + 1) hnone, fun _ => Or.inl (Nat.succ_pos _)⟩
  | queue _ htaken =>
      have hone : t.holders = 1 := by rw [h.holders, htaken]; rfl
      exact ⟨h.holders, fun _ => Or.inl (hone ▸ Nat.one_pos)⟩
  | release =>
      have hnone : t.holders - 1 = 0 := Nat.sub_eq_zero_of_le h.holders_le
      refine ⟨hnone, fun hqueued => Or.inr ?_⟩
      have hleft : 0 < t.queued - 1 := hqueued
      change 0 < t.woken + min t.queued 1
      omega

/-- Some moves, one after the other. -/
abbrev Moves : TurnQueue → TurnQueue → Prop := Relation.ReflTransGen Move

theorem Moves.sound (hmoves : t.Moves next) (h : t.Sound) : next.Sound := by
  induction hmoves with
  | refl => exact h
  | tail _ hmove ih => exact hmove.sound ih

theorem runFrom_sound {σ α : Type} {step : σ → α → σ} (view : σ → TurnQueue) {P : σ → Prop}
    (hstep : ∀ state action, P state →
      P (step state action) ∧ (view state).Moves (view (step state action)))
    {state : σ} (hstate : P state) (hsound : (view state).Sound) (actions : List α) :
    P (runFrom step state actions) ∧ (view (runFrom step state actions)).Sound :=
  runFrom_invariant_of_step (P := fun state => P state ∧ (view state).Sound)
    (fun state action h =>
      have hnext := hstep state action h.1
      ⟨hnext.1, hnext.2.sound h.2⟩)
    ⟨hstate, hsound⟩ actions

end TurnQueue
end OpcuaStack
