import OpcuaStack.BoundedReading

/-!
# What a scanner takes and what another one sees of it

A scanner spends on its values if each of them costs no more items than it took.
A second scanner watches a first one if it returns, wherever the first returns a
value, what that value comes to, and leaves the same.  Both hold of a family of
scanners if the body hands them on from its calls.  What a scanner ensures holds of
all its values.  A scanner retraces what is written for its values if it took just
that.
-/

namespace OpcuaStack

variable {τ α β γ : Type}

namespace Scanner

theorem bind_eq_value {first : Scanner τ α} {second : α → Scanner τ β}
    {w next : Window τ} {result : β}
    (h : first.bind second w = .value result next) :
    ∃ middle place, first w = .value middle place ∧
      second middle place = .value result next := by
  rw [bind] at h
  cases hfirst : first w with
  | value middle place =>
      rw [hfirst] at h
      exact ⟨middle, place, rfl, h⟩
  | refused => rw [hfirst] at h; cases h
  | pastEnd => rw [hfirst] at h; cases h
  | unfinished => rw [hfirst] at h; cases h

/-! ## Costs -/

def Spends (cost : α → ℕ) (s : Scanner τ α) : Prop :=
  ∀ w value next, s w = .value value next → cost value + next.left ≤ w.left

namespace Spends

theorem mono {cost less : α → ℕ} {s : Scanner τ α} (h : Spends cost s)
    (hle : ∀ value, less value ≤ cost value) : Spends less s := by
  intro w value next hvalue
  exact (Nat.add_le_add_right (hle value) _).trans (h w value next hvalue)

theorem of_orderly {s : Scanner τ α} (h : s.Orderly) : Spends (fun _ => 0) s := by
  intro w value next hvalue
  have horderly := h w
  rw [hvalue] at horderly
  rw [Nat.zero_add]
  exact Window.left_le_of_suffix horderly

theorem of_consumes {s : Scanner τ α} (h : s.Consumes) : Spends (fun _ => 1) s := by
  intro w value next hvalue
  have hless := h w value next hvalue
  change 1 + next.left ≤ w.left
  omega

theorem pure {cost : α → ℕ} {value : α} (hfree : cost value = 0) :
    Spends cost (Scanner.pure value : Scanner τ α) := by
  intro w value' next hvalue
  obtain ⟨rfl, rfl⟩ := Attempt.value.inj hvalue
  rw [hfree, Nat.zero_add]

theorem refuse (cost : α → ℕ) : Spends cost (Scanner.refuse : Scanner τ α) := by
  intro w value next hvalue
  cases hvalue

theorem take {count : ℕ} (hcount : count < 2 ^ 63) :
    Spends (fun _ => count) (Scanner.take count : Scanner τ (List τ)) := by
  intro w value next hvalue
  obtain ⟨hroom, -, hnext⟩ := take_eq_value hcount hvalue
  have hlength := congrArg List.length hnext
  rw [List.length_drop, Window.length_remaining, Window.length_remaining] at hlength
  dsimp only
  omega

/-- The second step takes what the first one left of the cost. -/
theorem bind {cost : α → ℕ} {total : β → ℕ} {first : Scanner τ α}
    {second : α → Scanner τ β} (hfirst : Spends cost first)
    (hsecond : ∀ result,
      Spends (fun value => total value - cost result) (second result)) :
    Spends total (first.bind second) := by
  intro w value next hvalue
  obtain ⟨middle, place, hmiddle, hrest⟩ := bind_eq_value hvalue
  have hspent := hfirst w middle place hmiddle
  have hleft := hsecond middle place value next hrest
  dsimp only at hleft
  omega

theorem bind_free {total : β → ℕ} {first : Scanner τ α}
    {second : α → Scanner τ β} (hfirst : first.Orderly)
    (hsecond : ∀ result, Spends total (second result)) :
    Spends total (first.bind second) :=
  (of_orderly hfirst).bind hsecond

theorem ite {cost : α → ℕ} {condition : Prop} [Decidable condition]
    {s s' : Scanner τ α} (h : Spends cost s) (h' : Spends cost s') :
    Spends cost (if condition then s else s') := by
  by_cases hcondition : condition
  · rwa [if_pos hcondition]
  · rwa [if_neg hcondition]

theorem repeated {cost : α → ℕ} {element : Scanner τ α} (h : Spends cost element)
    (count : ℕ) :
    Spends (fun values => (values.map cost).sum) (Scanner.repeated element count) := by
  induction count with
  | zero => exact Spends.pure rfl
  | succ count ih =>
      refine h.bind fun value => ih.bind fun values => Spends.pure ?_
      simp

end Spends

/-! ## What holds of all values -/

def Ensures (holds : α → Prop) (s : Scanner τ α) : Prop :=
  ∀ w value next, s w = .value value next → holds value

namespace Ensures

theorem trivially (s : Scanner τ α) : Ensures (fun _ => True) s :=
  fun _ _ _ _ => trivial

theorem pure {holds : α → Prop} {value : α} (h : holds value) :
    Ensures holds (Scanner.pure value : Scanner τ α) := by
  intro w value' next hvalue
  obtain ⟨rfl, rfl⟩ := Attempt.value.inj hvalue
  exact h

theorem refuse (holds : α → Prop) :
    Ensures holds (Scanner.refuse : Scanner τ α) := by
  intro w value next hvalue
  cases hvalue

theorem bind {holds : α → Prop} {holds' : β → Prop} {first : Scanner τ α}
    {second : α → Scanner τ β} (hfirst : Ensures holds first)
    (hsecond : ∀ result, holds result → Ensures holds' (second result)) :
    Ensures holds' (first.bind second) := by
  intro w value next hvalue
  obtain ⟨middle, place, hmiddle, hrest⟩ := bind_eq_value hvalue
  exact hsecond middle (hfirst w middle place hmiddle) place value next hrest

theorem ite {holds : α → Prop} {condition : Prop} [Decidable condition]
    {s s' : Scanner τ α} (h : condition → Ensures holds s)
    (h' : ¬condition → Ensures holds s') :
    Ensures holds (if condition then s else s') := by
  by_cases hcondition : condition
  · rw [if_pos hcondition]
    exact h hcondition
  · rw [if_neg hcondition]
    exact h' hcondition

theorem take {count : ℕ} (hcount : count < 2 ^ 63) :
    Ensures (fun items => items.length = count)
      (Scanner.take count : Scanner τ (List τ)) := by
  intro w value next hvalue
  obtain ⟨hroom, rfl, -⟩ := take_eq_value hcount hvalue
  exact List.length_take_of_le (hroom.trans_eq w.length_remaining.symm)

theorem splitOff (count : ℕ) :
    Ensures (fun items => items.length = count)
      (Scanner.splitOff count : Scanner τ (List τ)) := by
  intro w value next hvalue
  obtain ⟨hroom, rfl, -⟩ := splitOff_eq_value hvalue
  exact List.length_take_of_le (hroom.trans_eq w.length_remaining.symm)

theorem of_returns {holds : α → Prop} {s : Scanner τ α} (h : Ensures holds s)
    {written : Option (List τ)} {value : α} (hreturns : s.Returns written value)
    (hfits : ∀ piece, written = some piece → piece.length < 2 ^ 63) :
    holds value := by
  obtain ⟨piece, hpiece, hyields⟩ := hreturns
  obtain ⟨next, hvalue, -⟩ := hyields (.opening piece (hfits piece hpiece)) []
    (List.append_nil _).symm
  exact h _ value next hvalue

end Ensures

/-! ## Items which could have been written -/

def Retraces (write : α → List τ) (s : Scanner τ α) : Prop :=
  ∀ w value next, s w = .value value next →
    w.remaining = write value ++ next.remaining

namespace Retraces

theorem take {count : ℕ} (hcount : count < 2 ^ 63) :
    Retraces id (Scanner.take count : Scanner τ (List τ)) := by
  intro w value next hvalue
  obtain ⟨-, rfl, hnext⟩ := take_eq_value hcount hvalue
  rw [hnext]
  exact (List.take_append_drop count w.remaining).symm

theorem splitOff (count : ℕ) :
    Retraces id (Scanner.splitOff count : Scanner τ (List τ)) := by
  intro w value next hvalue
  obtain ⟨-, rfl, hnext⟩ := splitOff_eq_value hvalue
  rw [hnext]
  exact (List.take_append_drop count w.remaining).symm

end Retraces

/-! ## Watching -/

def Watches (view : α → β) (s : Scanner τ α) (watcher : Scanner τ β) : Prop :=
  ∀ w value next, s w = .value value next →
    watcher w = .value (view value) next

namespace Watches

theorem same (s : Scanner τ α) : Watches id s s := fun _ _ _ h => h

theorem pure {view : α → β} {value : α} {seen : β} (hseen : view value = seen) :
    Watches view (Scanner.pure value : Scanner τ α) (Scanner.pure seen) := by
  intro w value' next hvalue
  obtain ⟨rfl, rfl⟩ := Attempt.value.inj hvalue
  rw [hseen]
  rfl

theorem refuse (view : α → β) (watcher : Scanner τ β) :
    Watches view Scanner.refuse watcher := by
  intro w value next hvalue
  cases hvalue

theorem bind {α' β' : Type} {view : α → α'} {view' : β → β'}
    {first : Scanner τ α} {watcher : Scanner τ α'} {second : α → Scanner τ β}
    {watcher' : α' → Scanner τ β'} (hfirst : Watches view first watcher)
    (hsecond : ∀ result, Watches view' (second result) (watcher' (view result))) :
    Watches view' (first.bind second) (watcher.bind watcher') := by
  intro w value next hvalue
  obtain ⟨middle, place, hmiddle, hrest⟩ := bind_eq_value hvalue
  rw [Scanner.bind, hfirst w middle place hmiddle]
  exact hsecond middle place value next hrest

theorem then_seen {view : α → β} {s : Scanner τ α} {watcher : Scanner τ β}
    (h : Watches view s watcher) (f : β → γ) :
    Watches (fun value => f (view value)) s
      (watcher.bind fun seen => Scanner.pure (f seen)) := by
  intro w value next hvalue
  rw [Scanner.bind, h w value next hvalue]
  rfl

theorem of_result {view : α → γ} {view' : β → γ} {s : Scanner τ α}
    {watcher : Scanner τ γ} (h : Watches view s watcher) {f : α → β}
    (hview : ∀ value, view' (f value) = view value) :
    Watches view' (s.bind fun value => Scanner.pure (f value)) watcher := by
  intro w value next hvalue
  obtain ⟨middle, place, hmiddle, hrest⟩ := bind_eq_value hvalue
  obtain ⟨rfl, rfl⟩ := Attempt.value.inj hrest
  rw [hview]
  exact h w middle place hmiddle

theorem ite {view : α → β} {condition : Prop} [Decidable condition]
    {s s' : Scanner τ α} {watcher watcher' : Scanner τ β}
    (h : Watches view s watcher) (h' : Watches view s' watcher') :
    Watches view (if condition then s else s')
      (if condition then watcher else watcher') := by
  by_cases hcondition : condition
  · rwa [if_pos hcondition, if_pos hcondition]
  · rwa [if_neg hcondition, if_neg hcondition]

theorem repeated {view : α → β} {element : Scanner τ α} {watcher : Scanner τ β}
    (h : Watches view element watcher) (count : ℕ) :
    Watches (List.map view) (Scanner.repeated element count)
      (Scanner.repeated watcher count) := by
  induction count with
  | zero => exact Watches.pure rfl
  | succ count ih =>
      exact h.bind fun value => ih.bind fun values => Watches.pure rfl

end Watches
end Scanner

/-! ## Families -/

namespace Scanners

variable {ι : Type} {γ δ : ι → Type}

theorem spends_nested {cost : ∀ i, γ i → ℕ}
    {body : Scanners τ γ → Scanners τ γ}
    (h : ∀ calls : Scanners τ γ, (∀ i, Scanner.Spends (cost i) (calls i)) →
      ∀ i, Scanner.Spends (cost i) (body calls i)) (i : ι) :
    Scanner.Spends (cost i) (nested body i) := by
  have hdepth : ∀ depth i, Scanner.Spends (cost i) (unrolled body depth i) := by
    intro depth
    induction depth with
    | zero =>
        intro i w value next hvalue
        cases hvalue
    | succ depth ih => exact h _ ih
  exact fun w => hdepth (w.left + 1) i w

theorem watches_nested {view : ∀ i, γ i → δ i}
    {body : Scanners τ γ → Scanners τ γ} {watcher : Scanners τ δ → Scanners τ δ}
    (h : ∀ (calls : Scanners τ γ) (watchers : Scanners τ δ),
      (∀ i, Scanner.Watches (view i) (calls i) (watchers i)) →
      ∀ i, Scanner.Watches (view i) (body calls i) (watcher watchers i)) (i : ι) :
    Scanner.Watches (view i) (nested body i) (nested watcher i) := by
  have hdepth : ∀ depth i,
      Scanner.Watches (view i) (unrolled body depth i)
        (unrolled watcher depth i) := by
    intro depth
    induction depth with
    | zero =>
        intro i w value next hvalue
        cases hvalue
    | succ depth ih => exact h _ _ ih
  exact fun w => hdepth (w.left + 1) i w

end Scanners

end OpcuaStack
