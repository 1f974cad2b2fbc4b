import OpcuaStack.BoundedReading

/-!
# Scripts of reads

A script says what is read, step after step, where each step may depend on the items
read before it.  As a scanner it returns a value or refuses.  When it is performed, it
leaves a window in either case, and whoever reads on after a refusal reads on from
there.  One kind of step cuts: it goes on in a new window behind the items it takes.
Performing a script leaves it in a smaller span exactly if it gets to such a step.
-/

namespace OpcuaStack

variable {τ α β γ : Type}

theorem Scanner.bind_bind (first : Scanner τ α) (second : α → Scanner τ β)
    (third : β → Scanner τ γ) :
    (first.bind second).bind third =
      first.bind fun result => (second result).bind third := by
  funext w
  simp only [Scanner.bind]
  cases first w <;> rfl

theorem Scanner.bind_done (s : Scanner τ α) : s.bind Scanner.pure = s := by
  funext w
  rw [Scanner.bind]
  cases s w <;> rfl

inductive Script (τ α : Type) where
  | done (result : α)
  | refuse
  | unfinished
  /-- Check that there are as many items, and go on. -/
  | require (count : ℕ) (next : Script τ α)
  /-- Take the next items, without a check. -/
  | fetch (count : ℕ) (next : List τ → Script τ α)
  /-- Go on with how many items are left. -/
  | left (next : ℕ → Script τ α)
  /-- Take the next items, without a check, and go on in a window behind them. -/
  | cut (count : ℕ) (next : List τ → Script τ α)

namespace Script

def bind : Script τ α → (α → Script τ β) → Script τ β
  | .done result, second => second result
  | .refuse, _ => .refuse
  | .unfinished, _ => .unfinished
  | .require count next, second => .require count (next.bind second)
  | .fetch count next, second => .fetch count fun items => (next items).bind second
  | .left next, second => .left fun count => (next count).bind second
  | .cut count next, second => .cut count fun items => (next items).bind second

instance : Monad (Script τ) where
  pure := Script.done
  bind := Script.bind

def check (count : ℕ) : Script τ Unit := .require count (.done ())

/-- A read after its check. -/
def take (count : ℕ) : Script τ (List τ) :=
  .require count (.fetch count .done)

/-- How many items are left. -/
def size : Script τ ℕ := .left .done

/-- The next items if there are that many, and then a new window behind them. -/
def splitOff (count : ℕ) : Script τ (List τ) := do
  let left ← size
  if left < count then
    .refuse
  else
    .cut count .done

/-- One value after the other. -/
def repeated (element : Script τ α) : ℕ → Script τ (List α)
  | 0 => return []
  | count + 1 => do
      let value ← element
      let values ← repeated element count
      return value :: values

/-! ## Scripts as scanners -/

def scan : Script τ α → Scanner τ α
  | .done result => Scanner.pure result
  | .refuse => Scanner.refuse
  | .unfinished => fun _ => .unfinished
  | .require count next => (Scanner.require count).bind fun _ => next.scan
  | .fetch count next => (Scanner.fetch count).bind fun items => (next items).scan
  | .left next => Scanner.size.bind fun count => (next count).scan
  | .cut count next =>
      (Scanner.peek count).bind fun items =>
        (Scanner.restart count).bind fun _ => (next items).scan

@[simp] theorem scan_pure (result : α) :
    (pure result : Script τ α).scan = pure result := rfl

@[simp] theorem scan_refuse : (refuse : Script τ α).scan = Scanner.refuse := rfl

/-- By induction on the first script. -/
@[simp] theorem scan_bind (s : Script τ α) (second : α → Script τ β) :
    (s >>= second).scan = s.scan >>= fun result => (second result).scan := by
  change (s.bind second).scan = s.scan.bind fun result => (second result).scan
  induction s with
  | done result => rfl
  | refuse => rfl
  | unfinished => rfl
  | require count next ih =>
      rw [bind, scan, scan, Scanner.bind_bind, ih]
  | fetch count next ih =>
      rw [bind, scan, scan, Scanner.bind_bind]
      simp only [ih]
  | left next ih =>
      rw [bind, scan, scan, Scanner.bind_bind]
      simp only [ih]
  | cut count next ih =>
      rw [bind, scan, scan, Scanner.bind_bind]
      simp only [Scanner.bind_bind, ih]

@[simp] theorem scan_ite {condition : Prop} [Decidable condition] (s s' : Script τ α) :
    (if condition then s else s').scan =
      if condition then s.scan else s'.scan :=
  apply_ite scan condition s s'

@[simp] theorem scan_check (count : ℕ) :
    (check count : Script τ Unit).scan = Scanner.require count :=
  Scanner.bind_done (Scanner.require count)

@[simp] theorem scan_take (count : ℕ) :
    (take count : Script τ (List τ)).scan = Scanner.take count := by
  have hfetch : (fetch count done : Script τ (List τ)).scan = Scanner.fetch count :=
    Scanner.bind_done (Scanner.fetch count)
  rw [take, scan, hfetch]
  rfl

@[simp] theorem scan_size : (size : Script τ ℕ).scan = Scanner.size := rfl

@[simp] theorem scan_splitOff (count : ℕ) :
    (splitOff count : Script τ (List τ)).scan = Scanner.splitOff count := by
  rw [splitOff, scan_bind, Scanner.splitOff]
  simp only [scan_ite]
  rfl

@[simp] theorem scan_repeated (element : Script τ α) (count : ℕ) :
    (repeated element count).scan = Scanner.repeated element.scan count := by
  induction count with
  | zero => rfl
  | succ count ih =>
      rw [repeated, Scanner.repeated, scan_bind]
      simp only [scan_bind, scan_pure, ih]

end Script

/-! ## Scripts which call each other -/

section Nested

variable {ι : Type} {δ : ι → Type}

/-- A family of scripts. -/
abbrev Scripts (τ : Type) (δ : ι → Type) := ∀ i, Script τ (δ i)

namespace Scripts

/-- The family as far as the depth allows. -/
def unrolled (body : Scripts τ δ → Scripts τ δ) : ℕ → Scripts τ δ
  | 0 => fun _ => .unfinished
  | depth + 1 => body (unrolled body depth)

/-- The family, one deeper than there are items to take. -/
def nested (body : Scripts τ δ → Scripts τ δ) : Scripts τ δ :=
  fun i => .left fun count => unrolled body (count + 1) i

variable {body : Scripts τ δ → Scripts τ δ} {body' : Scanners τ δ → Scanners τ δ}

theorem scan_unrolled
    (h : ∀ calls i, (body calls i).scan = body' (fun j => (calls j).scan) i)
    (depth : ℕ) (i : ι) :
    (unrolled body depth i).scan = Scanners.unrolled body' depth i := by
  induction depth generalizing i with
  | zero => rfl
  | succ depth ih =>
      have hcalls : (fun j => (unrolled body depth j).scan) =
          Scanners.unrolled body' depth := funext ih
      rw [unrolled, Scanners.unrolled, h, hcalls]

theorem scan_nested
    (h : ∀ calls i, (body calls i).scan = body' (fun j => (calls j).scan) i) (i : ι) :
    (nested body i).scan = Scanners.nested body' i := by
  funext w
  change (unrolled body (w.left + 1) i).scan w = _
  rw [scan_unrolled h]
  rfl

end Scripts
end Nested

namespace Script

/-! ## Performing a script -/

/-- The value, if the script gets to one, and the window it ends in. -/
def perform : Script τ α → Window τ → Option α × Window τ
  | .done result, w => (some result, w)
  | .refuse, w | .unfinished, w => (none, w)
  | .require count next, w =>
      if w.items.length < (w.offset + count) % 2 ^ 64 then (none, w)
      else next.perform w
  | .fetch count next, w =>
      if h : w.offset + count ≤ w.items.length then
        (next (w.remaining.take count)).perform (w.advance count h)
      else
        (none, w)
  | .left next, w => (next w.left).perform w
  | .cut count next, w =>
      if w.offset + count ≤ w.items.length then
        (next (w.remaining.take count)).perform (w.restarted count)
      else
        (none, w)

/-- The script gets to a step which cuts. -/
def cuts : Script τ α → Window τ → Bool
  | .done _, _ | .refuse, _ | .unfinished, _ => false
  | .require count next, w =>
      if w.items.length < (w.offset + count) % 2 ^ 64 then false else next.cuts w
  | .fetch count next, w =>
      if h : w.offset + count ≤ w.items.length then
        (next (w.remaining.take count)).cuts (w.advance count h)
      else
        false
  | .left next, w => (next w.left).cuts w
  | .cut count _, w => decide (w.offset + count ≤ w.items.length)

theorem cuts_bind (s : Script τ α) (second : α → Script τ β) (w : Window τ) :
    (s >>= second).cuts w =
      (s.cuts w ||
        match s.perform w with
        | (some result, next) => (second result).cuts next
        | (none, _) => false) := by
  change (s.bind second).cuts w = _
  induction s generalizing w with
  | done result => rfl
  | refuse => rfl
  | unfinished => rfl
  | require count next ih =>
      rw [bind, cuts, cuts, perform]
      split
      · rfl
      · exact ih w
  | fetch count next ih =>
      rw [bind, cuts, cuts, perform]
      split
      · exact ih _ _
      · rfl
  | left next ih => exact ih w.left w
  | cut count next ih =>
      rw [bind, cuts, cuts, perform]
      by_cases hroom : w.offset + count ≤ w.items.length
      · rw [decide_eq_true hroom, Bool.true_or]
      · rw [decide_eq_false hroom, if_neg hroom]
        rfl

theorem cuts_bind_pure (s : Script τ α) (f : α → β) (w : Window τ) :
    (s >>= fun result => pure (f result)).cuts w = s.cuts w := by
  rw [cuts_bind]
  rcases s.perform w with ⟨_ | result, next⟩
  · exact Bool.or_false _
  · exact Bool.or_false _

/-- What was performed ends with the value of the attempt, or with none. -/
def EndsAs (done : Option α × Window τ) : Attempt τ α → Prop
  | .value result next => done = (some result, next)
  | .refused | .pastEnd | .unfinished => done.1 = none

/-- By induction on the script. -/
theorem perform_endsAs (s : Script τ α) (w : Window τ) :
    EndsAs (s.perform w) (s.scan w) := by
  induction s generalizing w with
  | done result => rfl
  | refuse => rfl
  | unfinished => rfl
  | require count next ih =>
      rw [perform, scan, Scanner.bind, Scanner.require]
      by_cases hshort : w.items.length < (w.offset + count) % 2 ^ 64
      · rw [if_pos hshort, if_pos hshort]
        rfl
      · rw [if_neg hshort, if_neg hshort]
        exact ih w
  | fetch count next ih =>
      rw [perform, scan, Scanner.bind, Scanner.fetch]
      by_cases hroom : w.offset + count ≤ w.items.length
      · rw [dif_pos hroom, dif_pos hroom]
        exact ih _ _
      · rw [dif_neg hroom, dif_neg hroom]
        rfl
  | left next ih => exact ih w.left w
  | cut count next ih =>
      rw [perform, scan, Scanner.bind, Scanner.peek]
      by_cases hroom : w.offset + count ≤ w.items.length
      · rw [if_pos hroom, if_pos hroom]
        dsimp only
        rw [Scanner.bind, Scanner.restart, if_pos hroom]
        exact ih _ _
      · rw [if_neg hroom, if_neg hroom]
        rfl

/-! ## The span a script leaves -/

theorem length_items_restarted (w : Window τ) (count : ℕ) :
    (w.restarted count).items.length = w.left - count := by
  rw [Window.restarted, Window.opening, List.length_drop, Window.length_remaining]

theorem length_items_perform_le (s : Script τ α) (w : Window τ) :
    (s.perform w).2.items.length ≤ w.items.length := by
  induction s generalizing w with
  | done result => exact le_rfl
  | refuse => exact le_rfl
  | unfinished => exact le_rfl
  | require count next ih =>
      rw [perform]
      split
      · exact le_rfl
      · exact ih w
  | fetch count next ih =>
      rw [perform]
      split
      next hroom => exact ih _ (w.advance count hroom)
      next => exact le_rfl
  | left next ih => exact ih w.left w
  | cut count next ih =>
      rw [perform]
      split
      next hroom =>
        have hnext := ih (w.remaining.take count) (w.restarted count)
        rw [length_items_restarted, Window.left] at hnext
        omega
      next => exact le_rfl

theorem items_perform_of_not_cuts {s : Script τ α} {w : Window τ}
    (h : s.cuts w = false) : (s.perform w).2.items = w.items := by
  induction s generalizing w with
  | done result => rfl
  | refuse => rfl
  | unfinished => rfl
  | require count next ih =>
      rw [cuts] at h
      rw [perform]
      split
      next => rfl
      next hroom =>
        rw [if_neg hroom] at h
        exact ih h
  | fetch count next ih =>
      rw [cuts] at h
      rw [perform]
      split
      next hroom =>
        rw [dif_pos hroom] at h
        exact ih _ h
      next => rfl
  | left next ih => exact ih w.left h
  | cut count next ih =>
      rw [cuts, decide_eq_false_iff_not] at h
      rw [perform, if_neg h]

/-- Nothing is cut before an item was taken. -/
def Delayed : Script τ α → Prop
  | .done _ | .refuse | .unfinished => True
  | .require _ next => next.Delayed
  | .fetch count next => 0 < count ∨ ∀ items, (next items).Delayed
  | .left next => ∀ count, (next count).Delayed
  | .cut _ _ => False

/-- A cut leaves out what is before the place it is made at.  Items were taken in the
span before the script, or the script takes some. -/
theorem length_items_perform_lt {s : Script τ α} {w : Window τ}
    (htaken : 0 < w.offset ∨ s.Delayed) (h : s.cuts w = true) :
    (s.perform w).2.items.length < w.items.length := by
  induction s generalizing w with
  | done result => cases h
  | refuse => cases h
  | unfinished => cases h
  | require count next ih =>
      rw [cuts] at h
      rw [perform]
      split at h
      next => cases h
      next hroom =>
        rw [if_neg hroom]
        exact ih htaken h
  | fetch count next ih =>
      rw [cuts] at h
      rw [perform]
      split at h
      next hroom =>
        rw [dif_pos hroom]
        have hnext : 0 < w.offset + count ∨
            (next (w.remaining.take count)).Delayed := by
          rcases htaken with hplace | hcount | hdelayed
          · exact Or.inl (Nat.add_pos_left hplace count)
          · exact Or.inl (Nat.add_pos_right w.offset hcount)
          · exact Or.inr (hdelayed _)
        exact ih _ (w := w.advance count hroom) hnext h
      next => cases h
  | left next ih => exact ih w.left (htaken.imp_right fun hdelayed => hdelayed w.left) h
  | cut count next ih =>
      have hplace : 0 < w.offset := htaken.resolve_right id
      rw [cuts, decide_eq_true_eq] at h
      rw [perform, if_pos h]
      have hnext :=
        (next (w.remaining.take count)).length_items_perform_le (w.restarted count)
      rw [length_items_restarted, Window.left] at hnext
      omega

/-- The span is the whole one still exactly if nothing was cut. -/
theorem Delayed.length_items_perform_eq_iff {s : Script τ α} (hdelayed : s.Delayed)
    (w : Window τ) :
    (s.perform w).2.items.length = w.items.length ↔ s.cuts w = false := by
  constructor
  · intro hlength
    by_contra hcuts
    have hless :=
      length_items_perform_lt (Or.inr hdelayed) (Bool.eq_true_of_not_eq_false hcuts)
    exact absurd hlength hless.ne
  · intro hcuts
    rw [items_perform_of_not_cuts hcuts]

/-! ## Scripts which never cut -/

inductive Steady : Script τ α → Prop where
  | done (result : α) : Steady (.done result)
  | refuse : Steady .refuse
  | unfinished : Steady .unfinished
  | require {count : ℕ} {next : Script τ α} (h : Steady next) :
      Steady (.require count next)
  | fetch {count : ℕ} {next : List τ → Script τ α} (h : ∀ items, Steady (next items)) :
      Steady (.fetch count next)
  | left {next : ℕ → Script τ α} (h : ∀ count, Steady (next count)) :
      Steady (.left next)

namespace Steady

theorem not_cuts {s : Script τ α} (h : s.Steady) (w : Window τ) :
    s.cuts w = false := by
  induction h generalizing w with
  | done result => rfl
  | refuse => rfl
  | unfinished => rfl
  | require _ ih =>
      rw [cuts]
      split
      · rfl
      · exact ih w
  | fetch _ ih =>
      rw [cuts]
      split
      next hroom => exact ih _ (w.advance _ hroom)
      next => rfl
  | left _ ih => exact ih w.left w

theorem bind {s : Script τ α} {second : α → Script τ β} (h : s.Steady)
    (hsecond : ∀ result, (second result).Steady) : (s >>= second).Steady := by
  induction h with
  | done result => exact hsecond result
  | refuse => exact .refuse
  | unfinished => exact .unfinished
  | require _ ih => exact .require ih
  | fetch _ ih => exact .fetch ih
  | left _ ih => exact .left ih

theorem pure (result : α) : Steady (Pure.pure result : Script τ α) := .done result

theorem check (count : ℕ) : Steady (Script.check count : Script τ Unit) :=
  .require (.done ())

theorem take (count : ℕ) : Steady (Script.take count : Script τ (List τ)) :=
  .require (.fetch .done)

theorem ite {condition : Prop} [Decidable condition] {s s' : Script τ α}
    (h : s.Steady) (h' : s'.Steady) :
    Steady (if condition then s else s') := by
  by_cases hcondition : condition
  · rwa [if_pos hcondition]
  · rwa [if_neg hcondition]

theorem repeated {element : Script τ α} (h : element.Steady) (count : ℕ) :
    (Script.repeated element count).Steady := by
  induction count with
  | zero => exact .pure []
  | succ count ih => exact h.bind fun _ => ih.bind fun _ => .pure _

end Steady

/-- After a script which does not cut, the next one starts where a scanner would. -/
theorem cuts_bind_iff {s : Script τ α} (h : s.Steady) (second : α → Script τ β)
    (w : Window τ) :
    (s >>= second).cuts w = true ↔
      ∃ result next, s.scan w = .value result next ∧
        (second result).cuts next = true := by
  have hends := s.perform_endsAs w
  rw [cuts_bind, h.not_cuts w, Bool.false_or]
  cases hattempt : s.scan w with
  | value result next =>
      rw [hattempt] at hends
      rw [show s.perform w = (some result, next) from hends]
      constructor
      · exact fun hcuts => ⟨result, next, rfl, hcuts⟩
      · rintro ⟨result', next', hvalue, hcuts⟩
        obtain ⟨rfl, rfl⟩ := Attempt.value.inj hvalue
        exact hcuts
  | refused | pastEnd | unfinished =>
      rw [hattempt] at hends
      have hnone : (s.perform w).1 = none := hends
      have hpair : s.perform w = (none, (s.perform w).2) := Prod.ext hnone rfl
      rw [hpair]
      refine iff_of_false Bool.false_ne_true ?_
      rintro ⟨_, _, hvalue, -⟩
      cases hvalue

theorem cuts_splitOff (count : ℕ) (w : Window τ) :
    (splitOff count : Script τ (List τ)).cuts w = true ↔ count ≤ w.left := by
  have hwithin := w.within
  change (if w.left < count then refuse else .cut count .done : Script τ (List τ)).cuts w =
    true ↔ _
  by_cases hshort : w.left < count
  · rw [if_pos hshort]
    exact iff_of_false Bool.false_ne_true (Nat.not_le.mpr hshort)
  · rw [if_neg hshort, cuts, decide_eq_true_eq]
    rw [Window.left] at hshort ⊢
    omega
end Script
end OpcuaStack
