import OpcuaStack.ByteReader

/-!
# Reading inside a window

A window stands at a place of a span of items.  A scanner looks at a window and
either returns a value and a window further on, or refuses, or commits a fault:
it reads past the end of the span, or runs out of the depth it was given.

Scanners which call each other are a family given by one body.  The body
contracts if it calls only where fewer items are left; then no depth limits the
family, and it is what its body makes of it.
-/

namespace OpcuaStack

/-! ## Windows -/

/-- A place in a span.  No object is larger than half of the address space. -/
structure Window (τ : Type) where
  items : List τ
  offset : ℕ
  fits : items.length < 2 ^ 63
  within : offset ≤ items.length

variable {τ α β : Type}

namespace Window

def opening (items : List τ) (fits : items.length < 2 ^ 63) : Window τ where
  items := items
  offset := 0
  fits := fits
  within := Nat.zero_le _

def remaining (w : Window τ) : List τ := w.items.drop w.offset

/-- How many items are left. -/
def left (w : Window τ) : ℕ := w.items.length - w.offset

@[simp] theorem length_remaining (w : Window τ) :
    w.remaining.length = w.left := by
  rw [remaining, List.length_drop, left]

@[simp] theorem remaining_opening (items : List τ)
    (fits : items.length < 2 ^ 63) : (opening items fits).remaining = items := rfl

theorem left_lt (w : Window τ) : w.left < 2 ^ 63 :=
  lt_of_le_of_lt (Nat.sub_le _ _) w.fits

def advance (w : Window τ) (count : ℕ)
    (h : w.offset + count ≤ w.items.length) : Window τ :=
  { w with offset := w.offset + count, within := h }

@[simp] theorem remaining_advance (w : Window τ) (count : ℕ)
    (h : w.offset + count ≤ w.items.length) :
    (w.advance count h).remaining = w.remaining.drop count := by
  simp [remaining, advance]

theorem length_suffix_lt {w : Window τ} {count : ℕ} :
    (w.remaining.drop count).length < 2 ^ 63 := by
  have hleft := w.left_lt
  have hlength := w.length_remaining
  rw [List.length_drop]
  omega

/-- A window over what is left after some items. -/
def restarted (w : Window τ) (count : ℕ) : Window τ :=
  opening (w.remaining.drop count) length_suffix_lt

@[simp] theorem remaining_restarted (w : Window τ) (count : ℕ) :
    (w.restarted count).remaining = w.remaining.drop count := rfl

theorem left_le_of_suffix {w next : Window τ}
    (h : next.remaining <:+ w.remaining) : next.left ≤ w.left := by
  have hlength := h.length_le
  rwa [length_remaining, length_remaining] at hlength

end Window

/-! ## Scanners -/

/-- What one look through a window comes to. -/
inductive Attempt (τ α : Type) where
  | value (result : α) (next : Window τ)
  | refused
  | pastEnd
  | unfinished

def Scanner (τ α : Type) := Window τ → Attempt τ α

namespace Scanner

def pure (result : α) : Scanner τ α := fun w => .value result w

def bind (first : Scanner τ α) (second : α → Scanner τ β) : Scanner τ β :=
  fun w =>
    match first w with
    | .value result next => second result next
    | .refused => .refused
    | .pastEnd => .pastEnd
    | .unfinished => .unfinished

instance : Monad (Scanner τ) where
  pure := Scanner.pure
  bind := Scanner.bind

def refuse : Scanner τ α := fun _ => .refused

/-- The check which comes before a read: `offset + count > size`, on machine
words. -/
def require (count : ℕ) : Scanner τ Unit := fun w =>
  if w.items.length < (w.offset + count) % 2 ^ 64 then .refused
  else .value () w

/-- How many items are left. -/
def size : Scanner τ ℕ := fun w => .value w.left w

/-- The next items, without a check. -/
def fetch (count : ℕ) : Scanner τ (List τ) := fun w =>
  if h : w.offset + count ≤ w.items.length then
    .value (w.remaining.take count) (w.advance count h)
  else
    .pastEnd

/-- The next items, from where they are. -/
def peek (count : ℕ) : Scanner τ (List τ) := fun w =>
  if w.offset + count ≤ w.items.length then
    .value (w.remaining.take count) w
  else
    .pastEnd

/-- Go on over what is left after the next items. -/
def restart (count : ℕ) : Scanner τ Unit := fun w =>
  if w.offset + count ≤ w.items.length then .value () (w.restarted count)
  else .pastEnd

/-- The next items if there are that many, and then a new window behind them. -/
def splitOff (count : ℕ) : Scanner τ (List τ) := do
  let left ← size
  if left < count then
    refuse
  else
    let items ← peek count
    restart count
    return items

/-- One value after the other. -/
def repeated (element : Scanner τ α) : ℕ → Scanner τ (List α)
  | 0 => return []
  | count + 1 => do
      let value ← element
      let values ← repeated element count
      return value :: values

end Scanner

/-! ## Orderly scanners -/

/-- No fault, and what is left is the end of what there was. -/
def Attempt.Orderly (w : Window τ) : Attempt τ α → Prop
  | .value _ next => next.remaining <:+ w.remaining
  | .refused => True
  | .pastEnd | .unfinished => False

namespace Scanner

/-- Where fewer items are left, the two do the same, and orderly. -/
def AgreeBelow (bound : ℕ) (first second : Scanner τ α) : Prop :=
  ∀ w, w.left < bound → first w = second w ∧ (first w).Orderly w

def Orderly (s : Scanner τ α) : Prop := ∀ w, (s w).Orderly w

theorem Orderly.agreeBelow {s : Scanner τ α} (h : s.Orderly) (bound : ℕ) :
    AgreeBelow bound s s := fun w _ => ⟨rfl, h w⟩

theorem Orderly.of_agreeBelow {s : Scanner τ α}
    (h : ∀ bound, AgreeBelow bound s s) : s.Orderly :=
  fun w => (h (w.left + 1) w (Nat.lt_succ_self _)).2

theorem AgreeBelow.symm_trans {bound : ℕ} {first second third : Scanner τ α}
    (h : AgreeBelow bound first second) (h' : AgreeBelow bound first third) :
    AgreeBelow bound second third := by
  intro w hw
  have heq := (h w hw).1
  refine ⟨heq.symm.trans (h' w hw).1, ?_⟩
  rw [← heq]
  exact (h w hw).2

theorem orderly_pure (result : α) : (pure result : Scanner τ α).Orderly :=
  fun _ => List.suffix_refl _

theorem orderly_refuse : (refuse : Scanner τ α).Orderly := fun _ => trivial

theorem orderly_size : (size : Scanner τ ℕ).Orderly :=
  fun _ => List.suffix_refl _

/-- What the second does, it does after the first left no more than there
was. -/
theorem orderly_bind_value {first : Scanner τ α} {w next : Window τ}
    {second : α → Scanner τ β} {result : α}
    (hfirst : (first w).Orderly w) (hvalue : first w = .value result next)
    (hsecond : (second result next).Orderly next) :
    (first.bind second w).Orderly w := by
  have hsuffix : next.remaining <:+ w.remaining := by
    rw [hvalue] at hfirst
    exact hfirst
  have hrun : first.bind second w = second result next := by
    rw [bind, hvalue]
  rw [hrun]
  cases hlast : second result next with
  | value last final =>
      rw [hlast] at hsecond
      have hfinal : final.remaining <:+ next.remaining := hsecond
      exact hfinal.trans hsuffix
  | refused => trivial
  | pastEnd => rw [hlast] at hsecond; exact hsecond
  | unfinished => rw [hlast] at hsecond; exact hsecond

theorem AgreeBelow.bind {bound : ℕ} {first first' : Scanner τ α}
    {second second' : α → Scanner τ β}
    (hfirst : AgreeBelow bound first first')
    (hsecond : ∀ result, AgreeBelow bound (second result) (second' result)) :
    AgreeBelow bound (first.bind second) (first'.bind second') := by
  intro w hw
  have ⟨hsame, horderly⟩ := hfirst w hw
  cases hvalue : first w with
  | value result next =>
      have hnext : next.left < bound := by
        rw [hvalue] at horderly
        exact (Window.left_le_of_suffix horderly).trans_lt hw
      have ⟨hsame', horderly'⟩ := hsecond result next hnext
      constructor
      · rw [Scanner.bind, Scanner.bind, ← hsame, hvalue]
        exact hsame'
      · rw [hvalue] at horderly
        exact orderly_bind_value (by rw [hvalue]; exact horderly) hvalue
          horderly'
  | refused =>
      rw [Scanner.bind, Scanner.bind, ← hsame, hvalue]
      exact ⟨rfl, trivial⟩
  | pastEnd => rw [hvalue] at horderly; exact horderly.elim
  | unfinished => rw [hvalue] at horderly; exact horderly.elim

theorem Orderly.bind {first : Scanner τ α} {second : α → Scanner τ β}
    (hfirst : first.Orderly) (hsecond : ∀ result, (second result).Orderly) :
    (first.bind second).Orderly :=
  .of_agreeBelow fun bound =>
    (hfirst.agreeBelow bound).bind fun result =>
      (hsecond result).agreeBelow bound

theorem AgreeBelow.ite {bound : ℕ} {condition : Prop} [Decidable condition]
    {first first' second second' : Scanner τ α}
    (h : AgreeBelow bound first first') (h' : AgreeBelow bound second second') :
    AgreeBelow bound (if condition then first else second)
      (if condition then first' else second') := by
  by_cases hcondition : condition
  · rwa [if_pos hcondition, if_pos hcondition]
  · rwa [if_neg hcondition, if_neg hcondition]

theorem Orderly.ite {condition : Prop} [Decidable condition]
    {first second : Scanner τ α} (h : first.Orderly) (h' : second.Orderly) :
    (if condition then first else second).Orderly := by
  by_cases hcondition : condition
  · rwa [if_pos hcondition]
  · rwa [if_neg hcondition]

/-- The first step takes at least one item. -/
def Consumes (s : Scanner τ α) : Prop :=
  ∀ w result next, s w = .value result next → next.left < w.left

/-- After a step which consumes, the rest runs where fewer items are left. -/
theorem Consumes.agreeBelow_bind {bound : ℕ} {first : Scanner τ α}
    {second second' : α → Scanner τ β}
    (hconsumes : first.Consumes) (hfirst : first.Orderly)
    (hsecond : ∀ result, AgreeBelow bound (second result) (second' result)) :
    AgreeBelow (bound + 1) (first.bind second) (first.bind second') := by
  intro w hw
  cases hvalue : first w with
  | value result next =>
      have hless := hconsumes w result next hvalue
      have ⟨hsame, horderly⟩ := hsecond result next (by omega)
      constructor
      · rw [Scanner.bind, Scanner.bind, hvalue]
        exact hsame
      · exact orderly_bind_value (hfirst w) hvalue horderly
  | refused =>
      rw [Scanner.bind, Scanner.bind, hvalue]
      exact ⟨rfl, trivial⟩
  | pastEnd =>
      have horderly := hfirst w
      rw [hvalue] at horderly
      exact horderly.elim
  | unfinished =>
      have horderly := hfirst w
      rw [hvalue] at horderly
      exact horderly.elim

theorem AgreeBelow.repeated {bound : ℕ} {element element' : Scanner τ α}
    (h : AgreeBelow bound element element') (count : ℕ) :
    AgreeBelow bound (Scanner.repeated element count)
      (Scanner.repeated element' count) := by
  induction count with
  | zero => exact (orderly_pure []).agreeBelow bound
  | succ count ih =>
      exact h.bind fun value => ih.bind fun values =>
        (orderly_pure (value :: values)).agreeBelow bound

theorem Orderly.repeated {element : Scanner τ α} (h : element.Orderly)
    (count : ℕ) : (Scanner.repeated element count).Orderly :=
  .of_agreeBelow fun bound => (h.agreeBelow bound).repeated count

/-! ### Checked reads -/

/-- The check which does not overflow is the check which was meant. -/
theorem require_eq {count : ℕ} (hcount : count < 2 ^ 63) (w : Window τ) :
    require count w =
      if w.offset + count ≤ w.items.length then .value () w else .refused := by
  have hfits := w.fits
  have hwithin := w.within
  have hmod : (w.offset + count) % 2 ^ 64 = w.offset + count :=
    Nat.mod_eq_of_lt (by omega)
  rw [require, hmod]
  by_cases h : w.offset + count ≤ w.items.length
  · rw [if_pos h, if_neg (by omega)]
  · rw [if_neg h, if_pos (by omega)]

theorem orderly_require {count : ℕ} (hcount : count < 2 ^ 63) :
    (require count : Scanner τ Unit).Orderly := by
  intro w
  rw [require_eq hcount]
  by_cases h : w.offset + count ≤ w.items.length
  · rw [if_pos h]
    exact List.suffix_refl _
  · rw [if_neg h]
    trivial

theorem splitOff_eq (count : ℕ) (w : Window τ) :
    splitOff count w =
      if w.left < count then .refused
      else .value (w.remaining.take count) (w.restarted count) := by
  by_cases hleft : w.left < count
  · have hrun : splitOff count w = (refuse : Scanner τ (List τ)) w := by
      change (if w.left < count then refuse else _ : Scanner τ (List τ)) w = _
      rw [if_pos hleft]
    rw [hrun, if_pos hleft]
    rfl
  · have hroom : w.offset + count ≤ w.items.length := by
      have hwithin := w.within
      rw [Window.left] at hleft
      omega
    have hrun : splitOff count w =
        (peek count).bind
          (fun items => (restart count).bind fun _ => pure items) w := by
      change (if w.left < count then refuse else _ : Scanner τ (List τ)) w = _
      rw [if_neg hleft]
      rfl
    rw [hrun, if_neg hleft, Scanner.bind, peek, if_pos hroom]
    dsimp only
    rw [Scanner.bind, restart, if_pos hroom]
    rfl

theorem orderly_splitOff (count : ℕ) :
    (splitOff count : Scanner τ (List τ)).Orderly := by
  intro w
  rw [splitOff_eq]
  by_cases hleft : w.left < count
  · rw [if_pos hleft]
    trivial
  · rw [if_neg hleft]
    change (w.restarted count).remaining <:+ w.remaining
    rw [Window.remaining_restarted]
    exact List.drop_suffix _ _

/-- A read after its check. -/
def take (count : ℕ) : Scanner τ (List τ) := do
  require count
  fetch count

theorem take_eq {count : ℕ} (hcount : count < 2 ^ 63) (w : Window τ) :
    take count w =
      if h : w.offset + count ≤ w.items.length then
        .value (w.remaining.take count) (w.advance count h)
      else
        .refused := by
  have hrun : take count w =
      (require count).bind (fun _ => fetch count) w := rfl
  rw [hrun, Scanner.bind, require_eq hcount]
  by_cases h : w.offset + count ≤ w.items.length
  · rw [if_pos h, dif_pos h]
    dsimp only
    rw [fetch, dif_pos h]
  · rw [if_neg h, dif_neg h]

theorem take_eq_value {count : ℕ} (hcount : count < 2 ^ 63) {w next : Window τ}
    {items : List τ} (h : take count w = .value items next) :
    count ≤ w.left ∧ items = w.remaining.take count ∧
      next.remaining = w.remaining.drop count := by
  rw [take_eq hcount] at h
  by_cases hroom : w.offset + count ≤ w.items.length
  · rw [dif_pos hroom] at h
    obtain ⟨rfl, rfl⟩ := Attempt.value.inj h
    refine ⟨?_, rfl, w.remaining_advance count hroom⟩
    rw [Window.left]
    omega
  · rw [dif_neg hroom] at h
    cases h

theorem splitOff_eq_value {count : ℕ} {w next : Window τ} {items : List τ}
    (h : splitOff count w = .value items next) :
    count ≤ w.left ∧ items = w.remaining.take count ∧
      next.remaining = w.remaining.drop count := by
  rw [splitOff_eq] at h
  by_cases hleft : w.left < count
  · rw [if_pos hleft] at h
    cases h
  · rw [if_neg hleft] at h
    obtain ⟨rfl, rfl⟩ := Attempt.value.inj h
    exact ⟨Nat.not_lt.mp hleft, rfl, w.remaining_restarted count⟩

theorem orderly_take {count : ℕ} (hcount : count < 2 ^ 63) :
    (take count : Scanner τ (List τ)).Orderly := by
  intro w
  rw [take_eq hcount]
  by_cases h : w.offset + count ≤ w.items.length
  · rw [dif_pos h]
    change (w.advance count h).remaining <:+ w.remaining
    rw [Window.remaining_advance]
    exact List.drop_suffix _ _
  · rw [dif_neg h]
    trivial

theorem consumes_take {count : ℕ} (hcount : count < 2 ^ 63)
    (hpos : 0 < count) : (take count : Scanner τ (List τ)).Consumes := by
  intro w result next hvalue
  obtain ⟨hroom, -, hnext⟩ := take_eq_value hcount hvalue
  have hlength := congrArg List.length hnext
  rw [List.length_drop, Window.length_remaining, Window.length_remaining] at hlength
  omega

theorem Consumes.bind {first : Scanner τ α} {second : α → Scanner τ β}
    (hfirst : first.Consumes) (hsecond : ∀ result, (second result).Orderly) :
    (first.bind second).Consumes := by
  intro w result final hvalue
  rw [Scanner.bind] at hvalue
  cases hmiddle : first w with
  | value middle next =>
      rw [hmiddle] at hvalue
      have horderly := hsecond middle next
      rw [show second middle next = .value result final from hvalue] at horderly
      exact (Window.left_le_of_suffix horderly).trans_lt
        (hfirst w middle next hmiddle)
  | refused => rw [hmiddle] at hvalue; cases hvalue
  | pastEnd => rw [hmiddle] at hvalue; cases hvalue
  | unfinished => rw [hmiddle] at hvalue; cases hvalue

end Scanner

/-! ## Scanners which call each other -/

section Nested

variable {ι : Type} {γ : ι → Type}

/-- A family of scanners. -/
abbrev Scanners (τ : Type) (γ : ι → Type) := ∀ i, Scanner τ (γ i)

namespace Scanners

/-- The family as far as the depth allows. -/
def unrolled (body : Scanners τ γ → Scanners τ γ) : ℕ → Scanners τ γ
  | 0 => fun _ _ => .unfinished
  | depth + 1 => body (unrolled body depth)

/-- The family, one deeper than there are items to take. -/
def nested (body : Scanners τ γ → Scanners τ γ) : Scanners τ γ :=
  fun i w => unrolled body (w.left + 1) i w

/-- Calls where no item was taken do not finish. -/
def afterProgress (calls : Scanners τ γ) (entry : Window τ) : Scanners τ γ :=
  fun i w => if w.left < entry.left then calls i w else .unfinished

/-- The body does the same for calls which do the same where fewer items are
left. -/
def Contracts (body : Scanners τ γ → Scanners τ γ) : Prop :=
  ∀ bound (calls calls' : Scanners τ γ),
    (∀ i, Scanner.AgreeBelow bound (calls i) (calls' i)) →
    ∀ i, Scanner.AgreeBelow (bound + 1) (body calls i) (body calls' i)

variable {body : Scanners τ γ → Scanners τ γ}

/-- By induction on the bound: a step deeper reaches one item further. -/
theorem Contracts.agreeBelow_unrolled (h : Contracts body) {bound : ℕ} :
    ∀ {depth depth' : ℕ}, bound ≤ depth → bound ≤ depth' → ∀ i,
      Scanner.AgreeBelow bound (unrolled body depth i)
        (unrolled body depth' i) := by
  induction bound with
  | zero =>
      intro depth depth' _ _ i w hw
      exact absurd hw (Nat.not_lt_zero _)
  | succ bound ih =>
      intro depth depth' hdepth hdepth' i
      obtain ⟨depth, rfl⟩ := Nat.exists_eq_succ_of_ne_zero
        (Nat.ne_of_gt (Nat.lt_of_lt_of_le (Nat.succ_pos bound) hdepth))
      obtain ⟨depth', rfl⟩ := Nat.exists_eq_succ_of_ne_zero
        (Nat.ne_of_gt (Nat.lt_of_lt_of_le (Nat.succ_pos bound) hdepth'))
      exact h bound _ _
        (ih (Nat.le_of_succ_le_succ hdepth) (Nat.le_of_succ_le_succ hdepth')) i

theorem Contracts.agreeBelow_nested (h : Contracts body) (bound : ℕ) (i : ι) :
    Scanner.AgreeBelow bound (unrolled body bound i) (nested body i) := by
  intro w hw
  have hagree := h.agreeBelow_unrolled (Nat.succ_le_of_lt hw) le_rfl i
  exact hagree w (Nat.lt_succ_self _)

theorem Contracts.orderly_nested (h : Contracts body) (i : ι) :
    (nested body i).Orderly := by
  refine Scanner.Orderly.of_agreeBelow fun bound => ?_
  exact (h.agreeBelow_nested bound i).symm_trans (h.agreeBelow_nested bound i)

/-- The family is what its body makes of it. -/
theorem Contracts.nested_eq (h : Contracts body) (i : ι) :
    nested body i = body (nested body) i := by
  funext w
  exact (h w.left _ _ (h.agreeBelow_nested w.left) i w
    (Nat.lt_succ_self _)).1

/-- Every call comes after at least one item was taken. -/
theorem Contracts.nested_afterProgress (h : Contracts body) (i : ι)
    (w : Window τ) :
    nested body i w = body (afterProgress (nested body) w) i w := by
  have hcalls : ∀ j, Scanner.AgreeBelow w.left (nested body j)
      (afterProgress (nested body) w j) := by
    intro j w' hw'
    refine ⟨?_, h.orderly_nested j w'⟩
    rw [afterProgress, if_pos hw']
  rw [h.nested_eq i]
  exact (h w.left _ _ hcalls i w (Nat.lt_succ_self _)).1

end Scanners
end Nested

/-! ## What a scanner yields -/

/-- The scanner returns the value wherever the piece comes next, and leaves what
comes after. -/
def Scanner.Yields (s : Scanner τ α) (piece : List τ) (value : α) : Prop :=
  ∀ (w : Window τ) (after : List τ), w.remaining = piece ++ after →
    ∃ next, s w = .value value next ∧ next.remaining = after

namespace Scanner.Yields

theorem pure (value : α) :
    Scanner.Yields (Scanner.pure value : Scanner τ α) [] value :=
  fun w _ hnext => ⟨w, rfl, hnext⟩

theorem bind {first : Scanner τ α} {second : α → Scanner τ β}
    {piece next : List τ} {a : α} {b : β}
    (hfirst : first.Yields piece a) (hsecond : (second a).Yields next b) :
    (first.bind second).Yields (piece ++ next) b := by
  intro w after hleft
  rw [List.append_assoc] at hleft
  obtain ⟨middle, hrun, hmiddle⟩ := hfirst w _ hleft
  obtain ⟨final, hrun', hfinal⟩ := hsecond middle after hmiddle
  refine ⟨final, ?_, hfinal⟩
  rw [Scanner.bind, hrun]
  exact hrun'

theorem bind_nil {first : Scanner τ α} {second : α → Scanner τ β}
    {piece : List τ} {a : α} {b : β}
    (hfirst : first.Yields piece a) (hsecond : (second a).Yields [] b) :
    (first.bind second).Yields piece b := by
  have h := hfirst.bind hsecond
  rwa [List.append_nil] at h

theorem bind_pure {first : Scanner τ α} {piece : List τ} {a : α}
    (hfirst : first.Yields piece a) (f : α → β) :
    (first.bind fun result => Scanner.pure (f result)).Yields piece (f a) :=
  hfirst.bind_nil (Yields.pure (f a))

theorem splitOff (piece : List τ) :
    (Scanner.splitOff piece.length).Yields piece piece := by
  intro w after hleft
  have hroom : ¬ w.left < piece.length := by
    have hlength := w.length_remaining
    rw [hleft, List.length_append] at hlength
    omega
  refine ⟨w.restarted piece.length, ?_, ?_⟩
  · rw [Scanner.splitOff_eq, if_neg hroom, hleft, List.take_left]
  · rw [Window.remaining_restarted, hleft, List.drop_left]

end Scanner.Yields

/-! ## Writing which may fail -/

/-- One piece written after the other; a failed write ends it. -/
def joined (first second : Option (List τ)) : Option (List τ) := do
  let piece ← first
  let next ← second
  return piece ++ next

@[simp] theorem joined_some (piece next : List τ) :
    joined (some piece) (some next) = some (piece ++ next) := rfl

theorem exists_of_joined_eq_some {first second : Option (List τ)}
    {piece : List τ} (h : joined first second = some piece) :
    ∃ a b, first = some a ∧ second = some b ∧ piece = a ++ b := by
  cases first with
  | none => cases h
  | some a =>
      cases second with
      | none => cases h
      | some b => exact ⟨a, b, rfl, rfl, (Option.some.inj h).symm⟩

/-- One value written after the other. -/
def joinedMap (write : β → Option (List τ)) : List β → Option (List τ)
  | [] => some []
  | value :: values => joined (write value) (joinedMap write values)

theorem length_le_of_joinedMap {write : β → Option (List τ)}
    {values : List β} {piece : List τ}
    (hpiece : joinedMap write values = some piece)
    (h : ∀ value ∈ values, ∀ written, write value = some written →
      written ≠ []) : values.length ≤ piece.length := by
  induction values generalizing piece with
  | nil => exact Nat.zero_le _
  | cons value values ih =>
      obtain ⟨first, rest, hfirst, hrest, rfl⟩ := exists_of_joined_eq_some hpiece
      have hlength := ih hrest fun other hother =>
        h other (List.mem_cons_of_mem _ hother)
      have hpos := List.length_pos_iff.mpr
        (h value List.mem_cons_self first hfirst)
      rw [List.length_cons, List.length_append]
      omega

/-- What is written is written, and the scanner returns the value from it. -/
def Scanner.Returns (s : Scanner τ α) (written : Option (List τ)) (value : α) :
    Prop :=
  ∃ piece, written = some piece ∧ s.Yields piece value

namespace Scanner.Returns

theorem of_yields {s : Scanner τ α} {piece : List τ} {value : α}
    (h : s.Yields piece value) : s.Returns (some piece) value :=
  ⟨piece, rfl, h⟩

theorem pure (value : α) :
    Scanner.Returns (Scanner.pure value : Scanner τ α) (some []) value :=
  of_yields (.pure value)

theorem bind {first : Scanner τ α} {second : α → Scanner τ β}
    {written next : Option (List τ)} {a : α} {b : β}
    (hfirst : first.Returns written a) (hsecond : (second a).Returns next b) :
    (first.bind second).Returns (joined written next) b := by
  obtain ⟨piece, rfl, hpiece⟩ := hfirst
  obtain ⟨piece', rfl, hpiece'⟩ := hsecond
  exact of_yields (hpiece.bind hpiece')

theorem unique {s : Scanner τ α} {piece : List τ} {value other : α}
    (hfits : piece.length < 2 ^ 63) (h : s.Returns (some piece) value)
    (h' : s.Returns (some piece) other) : value = other := by
  obtain ⟨first, hfirst, hyields⟩ := h
  obtain ⟨second, hsecond, hyields'⟩ := h'
  obtain rfl := Option.some.inj hfirst
  obtain rfl := Option.some.inj hsecond
  have hopen : (Window.opening piece hfits).remaining = piece ++ [] := by
    rw [Window.remaining_opening, List.append_nil]
  obtain ⟨_, hvalue, -⟩ := hyields _ [] hopen
  obtain ⟨_, hvalue', -⟩ := hyields' _ [] hopen
  rw [hvalue] at hvalue'
  exact (Attempt.value.inj hvalue').1

theorem bind_pure {first : Scanner τ α} {written : Option (List τ)} {a : α}
    (hfirst : first.Returns written a) (f : α → β) :
    (first.bind fun result => Scanner.pure (f result)).Returns written
      (f a) := by
  obtain ⟨piece, rfl, hpiece⟩ := hfirst
  exact of_yields (hpiece.bind_pure f)

/-- By induction on the values, each read after those before it. -/
theorem repeated {element : Scanner τ α} {write : β → Option (List τ)}
    {sent : β → α} (values : List β)
    (h : ∀ value ∈ values, element.Returns (write value) (sent value)) :
    (Scanner.repeated element values.length).Returns (joinedMap write values)
      (values.map sent) := by
  induction values with
  | nil => exact Returns.pure []
  | cons value values ih =>
      have hrest := ih fun other hother => h other (List.mem_cons_of_mem _ hother)
      exact (h value List.mem_cons_self).bind
        (hrest.bind_pure fun decoded => sent value :: decoded)

/-- A check that there are as many items as are read passes. -/
theorem guarded {s : Scanner τ α} {written : Option (List τ)} {value : α}
    {count : ℕ} (h : s.Returns written value)
    (hcount : ∀ piece, written = some piece → count ≤ piece.length) :
    (Scanner.size.bind fun left =>
      if left < count then Scanner.refuse else s).Returns written value := by
  obtain ⟨piece, rfl, hpiece⟩ := h
  apply of_yields
  intro w after hleft
  have hroom : ¬ w.left < count := by
    have hlength := w.length_remaining
    rw [hleft, List.length_append] at hlength
    have hle := hcount piece rfl
    omega
  have hrun :
      (Scanner.size.bind fun left =>
        if left < count then Scanner.refuse else s) w = s w := by
    change (if w.left < count then Scanner.refuse else s) w = s w
    rw [if_neg hroom]
  rw [hrun]
  exact hpiece w after hleft

end Scanner.Returns

/-! ## Readers as scanners -/

def Window.cursor (w : Window τ) : Cursor τ where
  items := w.items
  offset := w.offset

@[simp] theorem Window.remaining_cursor (w : Window τ) :
    w.cursor.remaining = w.remaining := rfl

@[simp] theorem Window.cursor_advance (w : Window τ) (count : ℕ)
    (h : w.offset + count ≤ w.items.length) :
    (w.advance count h).cursor = w.cursor.advance count := rfl

/-- The scanner returns and refuses where the reader does, and commits no fault. -/
def Scanner.Follows (s : Scanner τ α) (reader : Reader τ α) : Prop :=
  ∀ w : Window τ,
    (s w = .refused ∧ reader w.cursor = none) ∨
      ∃ value count, ∃ h : w.offset + count ≤ w.items.length,
        s w = .value value (w.advance count h) ∧
          reader w.cursor = some (value, w.cursor.advance count)

namespace Scanner.Follows

theorem orderly {s : Scanner τ α} {reader : Reader τ α}
    (h : s.Follows reader) : s.Orderly := by
  intro w
  obtain ⟨hrefused, -⟩ | ⟨value, count, hwithin, hvalue, -⟩ := h w
  · rw [hrefused]
    trivial
  · rw [hvalue]
    change (w.advance count hwithin).remaining <:+ w.remaining
    rw [Window.remaining_advance]
    exact List.drop_suffix _ _

theorem yields {s : Scanner τ α} {reader : Reader τ α} {piece : List τ}
    {value : α} (h : s.Follows reader) (hreads : Reads reader piece value) :
    s.Yields piece value := by
  intro w after hleft
  have hread := hreads w.cursor after hleft
  obtain ⟨-, hnone⟩ | ⟨value', count, hwithin, hvalue, hsome⟩ := h w
  · rw [hnone] at hread
    cases hread
  · rw [hsome, Option.some.injEq, Prod.mk.injEq] at hread
    obtain ⟨rfl, hcursor⟩ := hread
    refine ⟨w.advance count hwithin, hvalue, ?_⟩
    have hcount : w.offset + count = w.offset + piece.length :=
      congrArg Cursor.offset hcursor
    rw [Window.remaining_advance, hleft, Nat.add_left_cancel hcount,
      List.drop_left]

theorem pure (value : α) :
    Scanner.Follows (Scanner.pure value : Scanner τ α) (Pure.pure value) :=
  fun w => Or.inr ⟨value, 0, w.within, rfl, rfl⟩

theorem refuse : Scanner.Follows (Scanner.refuse : Scanner τ α) failure :=
  fun _ => Or.inl ⟨rfl, rfl⟩

theorem bind {first : Scanner τ α} {second : α → Scanner τ β}
    {reader : Reader τ α} {next : α → Reader τ β}
    (hfirst : first.Follows reader)
    (hsecond : ∀ result, (second result).Follows (next result)) :
    (first.bind second).Follows (reader >>= next) := by
  intro w
  have hrun : (reader >>= next) w.cursor =
      (reader w.cursor).bind fun result => next result.1 result.2 := rfl
  rw [hrun, Scanner.bind]
  obtain ⟨hrefused, hnone⟩ | ⟨value, count, hwithin, hvalue, hsome⟩ := hfirst w
  · rw [hrefused, hnone]
    exact Or.inl ⟨rfl, rfl⟩
  · rw [hvalue, hsome, Option.bind_some]
    dsimp only
    rw [← w.cursor_advance count hwithin]
    obtain hnext | ⟨value', count', hwithin', hvalue', hsome'⟩ :=
      hsecond value (w.advance count hwithin)
    · exact Or.inl hnext
    · refine Or.inr ⟨value', count + count', ?_, ?_, ?_⟩
      · exact (Nat.add_assoc _ _ _).symm.trans_le hwithin'
      · rw [hvalue']
        congr 1
        simp only [Window.advance, Window.mk.injEq, true_and]
        exact Nat.add_assoc _ _ _
      · rw [hsome', Window.cursor_advance, Cursor.advance_advance]

theorem map {first : Scanner τ α} {reader : Reader τ α}
    (hfirst : first.Follows reader) (f : α → β) :
    (first.bind fun result => Scanner.pure (f result)).Follows
      (f <$> reader) := by
  have hmap : f <$> reader = reader >>= fun result => Pure.pure (f result) :=
    map_eq_pure_bind f reader
  rw [hmap]
  exact hfirst.bind fun result => Follows.pure (f result)

theorem take {count : ℕ} (hcount : count < 2 ^ 63) :
    (Scanner.take count : Scanner τ (List τ)).Follows (Reader.take count) := by
  intro w
  have hleft := w.length_remaining
  have hwithin := w.within
  rw [Scanner.take_eq hcount, Reader.take, Window.remaining_cursor, hleft,
    Window.left]
  by_cases h : w.offset + count ≤ w.items.length
  · rw [dif_pos h, if_pos (by omega)]
    exact Or.inr ⟨_, count, h, rfl, rfl⟩
  · rw [dif_neg h, if_neg (by omega)]
    exact Or.inl ⟨rfl, rfl⟩

theorem ite {condition : Prop} [Decidable condition] {s s' : Scanner τ α}
    {reader reader' : Reader τ α} (h : s.Follows reader)
    (h' : s'.Follows reader') :
    (if condition then s else s').Follows
      (if condition then reader else reader') := by
  by_cases hcondition : condition
  · rwa [if_pos hcondition, if_pos hcondition]
  · rwa [if_neg hcondition, if_neg hcondition]

end Scanner.Follows

end OpcuaStack
