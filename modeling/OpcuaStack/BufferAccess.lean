import Mathlib.Tactic

/-!
# Access to buffers

A program over buffers comes to a value, refuses its input, or commits a fault:
it uses an index outside a buffer, or subtracts a size from a smaller one.  No
buffer is larger than half of the address space, so a sum of two sizes never
wraps.
-/

namespace OpcuaStack

variable {τ α β : Type}

inductive Access (α : Type) where
  | value (result : α)
  | refused
  | fault
deriving DecidableEq, Repr

namespace Access

def bind (x : Access α) (next : α → Access β) : Access β :=
  match x with
  | .value result => next result
  | .refused => .refused
  | .fault => .fault

instance : Monad Access where
  pure := Access.value
  bind := Access.bind

/-! ## Operations -/

def require (condition : Prop) [Decidable condition] : Access Unit :=
  if condition then .value () else .refused

def ofOption (x : Option α) : Access α :=
  match x with
  | none => .refused
  | some result => .value result

def itemAt (items : List τ) (index : ℕ) : Access τ :=
  match items[index]? with
  | none => .fault
  | some item => .value item

/-- The items from one iterator to another. -/
def between (items : List τ) (first last : ℕ) : Access (List τ) :=
  if first ≤ last ∧ last ≤ items.length then
    .value ((items.take last).drop first)
  else
    .fault

def difference (a b : ℕ) : Access ℕ :=
  if b ≤ a then .value (a - b) else .fault

/-- The value, if there is one. -/
def toOption : Access α → Option α
  | .value result => some result
  | .refused => none
  | .fault => none

/-- A program which answers a refused input as well. -/
def settle (x : Access α) (refusal : β) (answer : α → β) : Access β :=
  match x with
  | .value result => .value (answer result)
  | .refused => .value refusal
  | .fault => .fault

/-! ## When an operation gives a value -/

@[simp] theorem pure_eq (result : α) :
    (Pure.pure result : Access α) = .value result := rfl

@[simp] theorem value_bind (result : α) (next : α → Access β) :
    (Access.value result >>= next) = next result := rfl

@[simp] theorem refused_bind (next : α → Access β) :
    ((Access.refused : Access α) >>= next) = .refused := rfl

@[simp] theorem fault_bind (next : α → Access β) :
    ((Access.fault : Access α) >>= next) = .fault := rfl

@[simp] theorem ofOption_some (result : α) :
    ofOption (some result) = .value result := rfl

@[simp] theorem ofOption_none : (ofOption none : Access α) = .refused := rfl

theorem ofOption_bind (x : Option α) (next : α → Option β) :
    ofOption (x.bind next) = (ofOption x >>= fun result => ofOption (next result)) := by
  cases x <;> rfl

theorem ofOption_guard (condition : Prop) [Decidable condition] :
    ofOption (guard condition : Option Unit) = require condition := by
  by_cases h : condition
  · simp [guard, require, h]
  · simp [guard, require, h]

theorem settle_ofOption (x : Option α) (refusal : β) (answer : α → β) :
    (ofOption x).settle refusal answer =
      .value (x.elim refusal answer) := by
  cases x <;> rfl

@[simp] theorem itemAt_eq_value_iff {items : List τ} {index : ℕ} {item : τ} :
    itemAt items index = .value item ↔ items[index]? = some item := by
  unfold itemAt
  split <;> simp_all

theorem between_of_le {items : List τ} {first last : ℕ} (hfirst : first ≤ last)
    (hlast : last ≤ items.length) :
    between items first last = .value ((items.take last).drop first) :=
  if_pos ⟨hfirst, hlast⟩

theorem difference_of_le {a b : ℕ} (h : b ≤ a) :
    difference a b = .value (a - b) := if_pos h

@[simp] theorem toOption_eq_some_iff {x : Access α} {result : α} :
    x.toOption = some result ↔ x = .value result := by
  cases x <;> simp [toOption]

end Access
end OpcuaStack
