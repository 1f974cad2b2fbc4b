import Mathlib.Tactic

/-!
# Runs of a transition system under a guard

A system is a step function on states.  A run takes a list of actions in
order, and a guard singles out the runs whose every action is taken in a state
which allows it.  The rules below are the two by which facts about one step
become facts about whole runs.  A loop which answers each element of a request
in turn is such a run with its answers collected.
-/

namespace OpcuaStack

universe u v

variable {σ : Type u} {α : Type v}

def runFrom (step : σ → α → σ) (state : σ) (actions : List α) : σ :=
  actions.foldl step state

/-- Every action of the list meets the guard in the state it is taken from. -/
def AllMeet (step : σ → α → σ) (guard : σ → α → Prop) : σ → List α → Prop
  | _, [] => True
  | state, action :: rest =>
      guard state action ∧ AllMeet step guard (step state action) rest

instance AllMeet.instDecidable (step : σ → α → σ) (guard : σ → α → Prop)
    [∀ state action, Decidable (guard state action)] :
    (state : σ) → (actions : List α) → Decidable (AllMeet step guard state actions)
  | _, [] => inferInstanceAs (Decidable True)
  | state, action :: rest =>
      have := instDecidable step guard (step state action) rest
      inferInstanceAs (Decidable (guard state action ∧
        AllMeet step guard (step state action) rest))

@[simp] theorem runFrom_nil (step : σ → α → σ) (state : σ) :
    runFrom step state [] = state := rfl

@[simp] theorem runFrom_cons
    (step : σ → α → σ) (state : σ) (action : α) (rest : List α) :
    runFrom step state (action :: rest) =
      runFrom step (step state action) rest := rfl

theorem runFrom_append
    (step : σ → α → σ) (state : σ) (first second : List α) :
    runFrom step state (first ++ second) =
      runFrom step (runFrom step state first) second :=
  List.foldl_append

theorem AllMeet.append_iff
    {step : σ → α → σ} {guard : σ → α → Prop} {state : σ}
    {first second : List α} :
    AllMeet step guard state (first ++ second) ↔
      AllMeet step guard state first ∧
        AllMeet step guard (runFrom step state first) second := by
  induction first generalizing state with
  | nil => simp [AllMeet]
  | cons action rest ih =>
      simp only [List.cons_append, AllMeet, runFrom_cons, ih, and_assoc]

theorem AllMeet.and {step : σ → α → σ} {guard other : σ → α → Prop} {state : σ}
    {actions : List α} (h : AllMeet step guard state actions)
    (hother : AllMeet step other state actions) :
    AllMeet step (fun state action => guard state action ∧ other state action)
      state actions := by
  induction actions generalizing state with
  | nil => trivial
  | cons action rest ih =>
      exact ⟨⟨h.1, hother.1⟩, ih h.2 hother.2⟩

theorem AllMeet.imp {step : σ → α → σ} {guard other : σ → α → Prop}
    (himp : ∀ state action, guard state action → other state action) {state : σ}
    {actions : List α} (h : AllMeet step guard state actions) :
    AllMeet step other state actions := by
  induction actions generalizing state with
  | nil => trivial
  | cons action rest ih => exact ⟨himp state action h.1, ih h.2⟩

theorem AllMeet.of_forall {step : σ → α → σ} {guard : α → Prop}
    {actions : List α} (h : ∀ action ∈ actions, guard action) (state : σ) :
    AllMeet step (fun _ action => guard action) state actions := by
  induction actions generalizing state with
  | nil => trivial
  | cons action rest ih =>
      exact ⟨h action List.mem_cons_self,
        ih (fun other hmem => h other (List.mem_cons_of_mem _ hmem)) _⟩

/-- What every guarded step preserves holds after every guarded run. -/
theorem runFrom_invariant
    {step : σ → α → σ} {guard : σ → α → Prop} {P : σ → Prop}
    (hstep : ∀ state action, P state → guard state action →
      P (step state action))
    {state : σ} (hstate : P state) {actions : List α}
    (hguard : AllMeet step guard state actions) :
    P (runFrom step state actions) := by
  induction actions generalizing state with
  | nil => exact hstate
  | cons action rest ih =>
      exact ih (hstep state action hstate hguard.1) hguard.2

/-- The same for what a run keeps about its state and the actions so far. -/
theorem runFrom_history
    {step : σ → α → σ} {guard : σ → α → Prop} {P : List α → σ → Prop}
    (hstep : ∀ before state action, P before state → guard state action →
      P (before ++ [action]) (step state action))
    {before : List α} {state : σ} (hstate : P before state) {actions : List α}
    (hguard : AllMeet step guard state actions) :
    P (before ++ actions) (runFrom step state actions) := by
  induction actions generalizing before state with
  | nil =>
      rw [List.append_nil]
      exact hstate
  | cons action rest ih =>
      have hnext := ih (hstep before state action hstate hguard.1) hguard.2
      rw [List.append_assoc] at hnext
      exact hnext

theorem runFrom_invariant_of_step
    {step : σ → α → σ} {P : σ → Prop}
    (hstep : ∀ state action, P state →
      P (step state action))
    {state : σ} (hstate : P state) (actions : List α) :
    P (runFrom step state actions) := by
  induction actions generalizing state with
  | nil => exact hstate
  | cons action rest ih =>
      exact ih (hstep state action hstate)

/-- If allowed steps keep an invariant under which a state is good, and any other
step leaves it in a state which is not, then a run visits only good states
exactly if its every step is allowed. -/
theorem forall_visited_iff_allMeet
    {step : σ → α → σ} {domain guard : σ → α → Prop} {P Q : σ → Prop}
    (hgood : ∀ state, P state → Q state)
    (hstep : ∀ state action, P state → domain state action →
      guard state action → P (step state action))
    (hfail : ∀ state action, P state → domain state action →
      ¬guard state action → ¬Q (step state action))
    {state : σ} (hstate : P state) {actions : List α}
    (hdomain : AllMeet step domain state actions) :
    (∀ before after, actions = before ++ after →
        Q (runFrom step state before)) ↔
      AllMeet step guard state actions := by
  induction actions generalizing state with
  | nil =>
      refine iff_of_true (fun before after heq => ?_) trivial
      rw [(List.append_eq_nil_iff.mp heq.symm).1]
      exact hgood state hstate
  | cons action rest ih =>
      constructor
      · intro hvisited
        have hguard : guard state action := by
          by_contra hnot
          exact hfail state action hstate hdomain.1 hnot
            (hvisited [action] rest rfl)
        refine ⟨hguard,
          (ih (hstep state action hstate hdomain.1 hguard) hdomain.2).mp ?_⟩
        intro before after heq
        exact hvisited (action :: before) after (by rw [heq, List.cons_append])
      · rintro ⟨hguard, hrest⟩ before after heq
        cases before with
        | nil => exact hgood state hstate
        | cons first later =>
            obtain ⟨rfl, hlater⟩ := List.cons.inj heq
            exact (ih (hstep state action hstate hdomain.1 hguard)
              hdomain.2).mpr hrest later after hlater

theorem reflTransGen_preserves {change : σ → σ → Prop} {P : σ → Prop}
    (hchange : ∀ before after, change before after → P before → P after)
    {before after : σ} (h : Relation.ReflTransGen change before after)
    (hbefore : P before) : P after := by
  induction h with
  | refl => exact hbefore
  | tail _ hlast ih => exact hchange _ _ hlast ih

/-- A loop over the elements of a request: each one updates the state and
appends one result. -/
def collectResults {β : Type*} (body : σ → α → σ × β) :
    σ → List α → σ × List β
  | state, [] => (state, [])
  | state, element :: rest =>
      let (state, result) := body state element
      let (state, results) := collectResults body state rest
      (state, result :: results)

theorem collectResults_fst {β : Type*} (body : σ → α → σ × β) (state : σ)
    (elements : List α) :
    (collectResults body state elements).1 =
      runFrom (fun state element => (body state element).1) state elements := by
  induction elements generalizing state with
  | nil => rfl
  | cons element rest ih => exact ih (body state element).1

theorem collectResults_invariant {β : Type*} {body : σ → α → σ × β}
    {P : σ → Prop}
    (hbody : ∀ state element, P state →
      P (body state element).1)
    {state : σ} (hstate : P state) (elements : List α) :
    P (collectResults body state elements).1 := by
  induction elements generalizing state with
  | nil => exact hstate
  | cons element rest ih =>
      exact ih (hbody state element hstate)

/-- What a round establishes of its own result, and later rounds keep, the loop
establishes of every result. -/
theorem collectResults_results {β : Type*} {body : σ → α → σ × β}
    {Q : σ → β → Prop}
    (hbody : ∀ state element, Q (body state element).1 (body state element).2)
    (hkeeps : ∀ state element result, Q state result →
      Q (body state element).1 result)
    (state : σ) (elements : List α) :
    ∀ result ∈ (collectResults body state elements).2,
      Q (collectResults body state elements).1 result := by
  induction elements generalizing state with
  | nil => simp [collectResults]
  | cons element rest ih =>
      intro result hmem
      simp only [collectResults, List.mem_cons] at hmem
      rcases hmem with rfl | hlater
      · exact collectResults_invariant
          (P := fun later => Q later (body state element).2)
          (fun later next hlater => hkeeps later next _ hlater)
          (hbody state element) rest
      · exact ih (body state element).1 result hlater

end OpcuaStack
