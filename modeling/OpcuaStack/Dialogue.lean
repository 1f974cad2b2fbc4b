import Mathlib.Tactic

/-!
# Programs which ask

A dialogue asks its surroundings one question after the other, and ends with a
value or aborts.  The reply to a question is of the question's own type, and the
next question may depend on it.  A dialogue is guarded by a condition on replies
if the replies which break it are exactly those after which it aborts; a guarded
dialogue ends with a value exactly if no reply it gets breaks the condition.
-/

namespace OpcuaStack

inductive Dialogue (κ : Type) (ρ : κ → Type) (α : Type) where
  | done (value : α)
  | aborted
  | ask (question : κ) (next : ρ question → Dialogue κ ρ α)

namespace Dialogue

variable {κ : Type} {ρ : κ → Type} {α β : Type}

def bind : Dialogue κ ρ α → (α → Dialogue κ ρ β) → Dialogue κ ρ β
  | done value, f => f value
  | aborted, _ => aborted
  | ask question next, f => ask question fun reply => (next reply).bind f

instance : Monad (Dialogue κ ρ) where
  pure := done
  bind := bind

def question (question : κ) : Dialogue κ ρ (ρ question) := ask question done

@[simp] theorem pure_bind (value : α) (f : α → Dialogue κ ρ β) :
    (pure value : Dialogue κ ρ α) >>= f = f value := rfl

@[simp] theorem aborted_bind (f : α → Dialogue κ ρ β) :
    (aborted : Dialogue κ ρ α) >>= f = aborted := rfl

@[simp] theorem question_bind (asked : κ)
    (f : ρ asked → Dialogue κ ρ β) :
    question asked >>= f = ask asked f := rfl

theorem bind_bind {γ : Type} (d : Dialogue κ ρ α) (f : α → Dialogue κ ρ β)
    (g : β → Dialogue κ ρ γ) :
    d >>= f >>= g = d >>= fun value => f value >>= g := by
  induction d with
  | done value => rfl
  | aborted => rfl
  | ask question next ih => exact congrArg (ask question) (funext ih)

/-- The replies of the surroundings: to the first question, to the second, and
so on, whatever is asked. -/
abbrev Replies (κ : Type) (ρ : κ → Type) := ℕ → (question : κ) → ρ question

/-- The value with which the dialogue ends. -/
def run : Dialogue κ ρ α → Replies κ ρ → Option α
  | done value, _ => some value
  | aborted, _ => none
  | ask question next, replies =>
      (next (replies 0 question)).run fun count => replies (count + 1)

/-- Every reply which the dialogue gets meets the condition. -/
def AllReplies (P : (question : κ) → ρ question → Prop) :
    Dialogue κ ρ α → Replies κ ρ → Prop
  | done _, _ => True
  | aborted, _ => True
  | ask question next, replies =>
      P question (replies 0 question) ∧
        (next (replies 0 question)).AllReplies P fun count =>
          replies (count + 1)

/-- The dialogue aborts in the end, whatever the replies. -/
def Doomed : Dialogue κ ρ α → Prop
  | done _ => False
  | aborted => True
  | ask _ next => ∀ reply, (next reply).Doomed

/-- The dialogue is bound to abort after a reply which breaks the condition, and
aborts nowhere else. -/
def GuardedBy (P : (question : κ) → ρ question → Prop) :
    Dialogue κ ρ α → Prop
  | done _ => True
  | aborted => False
  | ask question next => ∀ reply,
      (P question reply → (next reply).GuardedBy P) ∧
        (¬P question reply → (next reply).Doomed)

variable {P : (question : κ) → ρ question → Prop}

theorem Doomed.run_eq_none {d : Dialogue κ ρ α} (h : d.Doomed)
    (replies : Replies κ ρ) : d.run replies = none := by
  induction d generalizing replies with
  | done value => exact h.elim
  | aborted => rfl
  | ask question next ih => exact ih _ (h _) _

theorem doomed_of_eq {d : Dialogue κ ρ α} (h : d = aborted) : d.Doomed := by
  rw [h]
  trivial

theorem Doomed.bind {d : Dialogue κ ρ α} (h : d.Doomed)
    (f : α → Dialogue κ ρ β) : (d >>= f).Doomed := by
  induction d with
  | done value => exact h.elim
  | aborted => trivial
  | ask question next ih => exact fun reply => ih reply (h reply)

theorem GuardedBy.run_isSome_iff {d : Dialogue κ ρ α} (h : d.GuardedBy P)
    (replies : Replies κ ρ) :
    (d.run replies).isSome = true ↔ d.AllReplies P replies := by
  induction d generalizing replies with
  | done value => simp [run, AllReplies]
  | aborted => exact h.elim
  | ask question next ih =>
      obtain ⟨hmeets, hbreaks⟩ := h (replies 0 question)
      unfold run AllReplies
      by_cases hreply : P question (replies 0 question)
      · rw [ih _ (hmeets hreply)]
        simp [hreply]
      · rw [(hbreaks hreply).run_eq_none]
        simp [hreply]

theorem GuardedBy.bind {d : Dialogue κ ρ α} {f : α → Dialogue κ ρ β}
    (h : d.GuardedBy P) (hf : ∀ value, (f value).GuardedBy P) :
    (d >>= f).GuardedBy P := by
  induction d with
  | done value => exact hf value
  | aborted => exact h.elim
  | ask question next ih =>
      intro reply
      obtain ⟨hmeets, hbreaks⟩ := h reply
      exact ⟨fun hreply => ih reply (hmeets hreply), fun hreply =>
        (hbreaks hreply).bind f⟩

theorem guardedBy_ask {question : κ} {next : ρ question → Dialogue κ ρ α}
    (hmeets : ∀ reply, P question reply)
    (hnext : ∀ reply, (next reply).GuardedBy P) :
    (ask question next).GuardedBy P :=
  fun reply => ⟨fun _ => hnext reply, fun hbreaks =>
    absurd (hmeets reply) hbreaks⟩

/-! ## Transcripts -/

/-- The questions which the dialogue asks and the replies it gets, in their order. -/
def transcript :
    Dialogue κ ρ α → Replies κ ρ → List ((question : κ) × ρ question)
  | done _, _ => []
  | aborted, _ => []
  | ask question next, replies =>
      ⟨question, replies 0 question⟩ ::
        (next (replies 0 question)).transcript fun count => replies (count + 1)

/-- Whatever the replies, the transcript and the value in the end, if there is one, are as
`Q` says. -/
def Ends (Q : List ((question : κ) × ρ question) → Option α → Prop) :
    Dialogue κ ρ α → Prop
  | done value => Q [] (some value)
  | aborted => Q [] none
  | ask question next => ∀ reply,
      (next reply).Ends fun exchanges value => Q (⟨question, reply⟩ :: exchanges) value

section Ends

variable {Q Q' : List ((question : κ) × ρ question) → Option α → Prop}

theorem Ends.holds {d : Dialogue κ ρ α} (h : d.Ends Q) (replies : Replies κ ρ) :
    Q (d.transcript replies) (d.run replies) := by
  induction d generalizing Q replies with
  | done value => exact h
  | aborted => exact h
  | ask question next ih => exact ih (replies 0 question) (h _) _

theorem Ends.imp {d : Dialogue κ ρ α} (h : d.Ends Q)
    (hQ : ∀ exchanges value, Q exchanges value → Q' exchanges value) : d.Ends Q' := by
  induction d generalizing Q Q' with
  | done value => exact hQ _ _ h
  | aborted => exact hQ _ _ h
  | ask question next ih =>
      intro reply
      exact ih reply (h reply) fun exchanges value => hQ _ value

theorem ends_pure {value : α} (h : Q [] (some value)) :
    (pure value : Dialogue κ ρ α).Ends Q := h

/-- The second part goes on with the transcript of the first. -/
theorem Ends.bind {Q : List ((question : κ) × ρ question) → Option β → Prop}
    {d : Dialogue κ ρ α} {f : α → Dialogue κ ρ β}
    (h : d.Ends fun exchanges value => value.elim (Q exchanges none) fun value =>
      (f value).Ends fun others result => Q (exchanges ++ others) result) :
    (d >>= f).Ends Q := by
  induction d generalizing Q with
  | done value => exact h
  | aborted => exact h
  | ask question next ih => exact fun reply => ih reply (h reply)

theorem ends_question {asked : κ} {Q : List ((question : κ) × ρ question) → Option β → Prop}
    {f : ρ asked → Dialogue κ ρ β}
    (h : ∀ reply, (f reply).Ends fun others result => Q (⟨asked, reply⟩ :: others) result) :
    (question asked >>= f).Ends Q := h

end Ends

/-! ## Surroundings which answer alike -/

/-- The same reply to a question every time. -/
def steady (answer : (question : κ) → ρ question) : Replies κ ρ := fun _ => answer

variable {answer : (question : κ) → ρ question}

@[simp] theorem run_pure (value : α) (replies : Replies κ ρ) :
    (pure value : Dialogue κ ρ α).run replies = some value := rfl

@[simp] theorem run_steady_bind (d : Dialogue κ ρ α) (f : α → Dialogue κ ρ β) :
    (d >>= f).run (steady answer) =
      (d.run (steady answer)).bind fun value => (f value).run (steady answer) := by
  induction d with
  | done value => rfl
  | aborted => rfl
  | ask question next ih => exact ih (answer question)

end Dialogue

end OpcuaStack
