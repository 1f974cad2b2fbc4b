import Mathlib.Tactic

/-!
# Transforming a sequence block by block

A sequence is cut into blocks of one size, the last of which may be shorter,
and every block is transformed on its own; the results are put together in
order.  A transformation whose results all have one size is undone block by
block, if what it does to a block is undone.
-/

namespace OpcuaStack

variable {α β : Type}

/-- The first argument numbers the blocks still to come; it is the number of
items when the walk starts, which no walk with blocks of some size exceeds. -/
def blockwiseFrom (transform : ℕ → List α → Option (List β)) (size : ℕ) :
    ℕ → List α → Option (List β)
  | _, [] => some []
  | 0, _ :: _ => none
  | count + 1, items@(_ :: _) =>
      (transform count (items.take size)).bind fun block =>
        (blockwiseFrom transform size count (items.drop size)).map (block ++ ·)

def blockwise (transform : ℕ → List α → Option (List β)) (size : ℕ)
    (items : List α) : Option (List β) :=
  blockwiseFrom transform size items.length items

theorem blockwiseFrom_nil (transform : ℕ → List α → Option (List β))
    (size count : ℕ) : blockwiseFrom transform size count [] = some [] := by
  cases count <;> rfl

theorem blockwiseFrom_append {transform : ℕ → List α → Option (List β)}
    {size count : ℕ} (hsize : 0 < size) {block rest : List α}
    (hblock : block.length = size) :
    blockwiseFrom transform size (count + 1) (block ++ rest) =
      (transform count block).bind fun result =>
        (blockwiseFrom transform size count rest).map (result ++ ·) := by
  cases block with
  | nil => simp at hblock; omega
  | cons first more =>
      rw [List.cons_append, blockwiseFrom, ← List.cons_append,
        List.take_left' hblock, List.drop_left' hblock]

theorem blockwiseFrom_induction {transform : ℕ → List α → Option (List β)} {size : ℕ}
    {motive : List α → List β → Prop} (hnil : motive [] [])
    (hcons : ∀ index items block rest, items ≠ [] →
      transform index (items.take size) = some block →
      motive (items.drop size) rest → motive items (block ++ rest))
    {count : ℕ} {items : List α} {results : List β}
    (hrun : blockwiseFrom transform size count items = some results) :
    motive items results := by
  induction count generalizing items results with
  | zero =>
      cases items with
      | nil => exact Option.some.inj hrun ▸ hnil
      | cons first more => cases hrun
  | succ count ih =>
      cases items with
      | nil => exact Option.some.inj hrun ▸ hnil
      | cons first more =>
          simp only [blockwiseFrom, Option.bind_eq_some_iff,
            Option.map_eq_some_iff] at hrun
          obtain ⟨block, hblock, rest, hrest, rfl⟩ := hrun
          exact hcons count (first :: more) block rest (List.cons_ne_nil first more)
            hblock (ih hrest)

theorem blocks_ne_zero {items : List α} {blocks size : ℕ} (hitems : items ≠ [])
    (hle : items.length ≤ blocks * size) : ∃ fewer, blocks = fewer + 1 := by
  apply Nat.exists_eq_succ_of_ne_zero
  rintro rfl
  rw [Nat.zero_mul, Nat.le_zero, List.length_eq_zero_iff] at hle
  exact hitems hle

theorem length_blockwiseFrom_le {transform : ℕ → List α → Option (List β)}
    {size bound : ℕ}
    (hblock : ∀ {index block result}, transform index block = some result →
      result.length ≤ bound)
    {count blocks : ℕ} {items : List α} {results : List β}
    (hitems : items.length ≤ blocks * size)
    (hrun : blockwiseFrom transform size count items = some results) :
    results.length ≤ blocks * bound := by
  revert blocks
  refine blockwiseFrom_induction
    (motive := fun items results => ∀ {blocks : ℕ},
      items.length ≤ blocks * size → results.length ≤ blocks * bound)
    (fun _ => Nat.zero_le _) ?_ hrun
  intro index items block rest hsome hfirst ih blocks hitems
  obtain ⟨fewer, rfl⟩ := blocks_ne_zero hsome hitems
  have hshorter : (items.drop size).length ≤ fewer * size := by
    rw [List.length_drop]
    rw [Nat.succ_mul] at hitems
    omega
  have hlength := ih hshorter
  have hbound := hblock hfirst
  rw [List.length_append, Nat.succ_mul]
  omega

theorem length_blockwise_le {transform : ℕ → List α → Option (List β)}
    {size bound blocks : ℕ}
    (hblock : ∀ {index block result}, transform index block = some result →
      result.length ≤ bound)
    {items : List α} {results : List β} (hitems : items.length ≤ blocks * size)
    (hrun : blockwise transform size items = some results) :
    results.length ≤ blocks * bound :=
  length_blockwiseFrom_le hblock hitems hrun

/-- What one transformation makes of a block, the other turns back. -/
structure UndoesBlocks (transform : ℕ → List α → Option (List β))
    (undo : ℕ → List β → Option (List α)) (size : ℕ) : Prop where
  length : ∀ {index block result}, transform index block = some result →
    result.length = size
  undoes : ∀ {index other block result},
    transform index block = some result → undo other result = some block

/-- Undoing needs one step for every block, and has as many as there are
items. -/
theorem UndoesBlocks.blockwiseFrom {transform : ℕ → List α → Option (List β)}
    {undo : ℕ → List β → Option (List α)} {size inner : ℕ}
    (h : UndoesBlocks transform undo size) (hsize : 0 < size)
    {count : ℕ} {items : List α} {results : List β}
    (hrun : blockwiseFrom transform inner count items = some results)
    {steps : ℕ} (hsteps : results.length ≤ steps) :
    OpcuaStack.blockwiseFrom undo size steps results = some items := by
  revert steps
  refine blockwiseFrom_induction
    (motive := fun items results => ∀ {steps : ℕ}, results.length ≤ steps →
      OpcuaStack.blockwiseFrom undo size steps results = some items)
    (fun _ => blockwiseFrom_nil _ _ _) ?_ hrun
  intro index items block rest _ hblock ih steps hsteps
  have hlength : block.length = size := h.length hblock
  rw [List.length_append, hlength] at hsteps
  obtain ⟨left, rfl⟩ : ∃ left, steps = left + 1 := ⟨steps - 1, by omega⟩
  rw [blockwiseFrom_append hsize hlength, h.undoes hblock, ih (by omega)]
  simp [List.take_append_drop]

theorem UndoesBlocks.dvd_length {transform : ℕ → List α → Option (List β)}
    {undo : ℕ → List β → Option (List α)} {size inner : ℕ}
    (h : UndoesBlocks transform undo size) {count : ℕ} {items : List α}
    {results : List β}
    (hrun : OpcuaStack.blockwiseFrom transform inner count items =
      some results) : size ∣ results.length := by
  refine blockwiseFrom_induction (motive := fun _ results => size ∣ results.length)
    (dvd_zero size) ?_ hrun
  intro index items block rest _ hblock ih
  rw [List.length_append, h.length hblock]
  exact dvd_add dvd_rfl ih

theorem UndoesBlocks.length_blockwiseFrom
    {transform : ℕ → List α → Option (List β)}
    {undo : ℕ → List β → Option (List α)} {size inner : ℕ}
    (h : UndoesBlocks transform undo size) (hinner : 0 < inner) {count : ℕ}
    {blocks : ℕ} {items : List α} {results : List β}
    (hitems : items.length = blocks * inner)
    (hrun : OpcuaStack.blockwiseFrom transform inner count items =
      some results) : results.length = blocks * size := by
  revert blocks
  refine blockwiseFrom_induction
    (motive := fun items results => ∀ {blocks : ℕ},
      items.length = blocks * inner → results.length = blocks * size) ?_ ?_ hrun
  · intro blocks hitems
    have hzero : blocks = 0 := by
      rcases Nat.mul_eq_zero.mp hitems.symm with hzero | hzero
      · exact hzero
      · omega
    rw [hzero, Nat.zero_mul, List.length_nil]
  · intro index items block rest hsome hblock ih blocks hitems
    obtain ⟨fewer, rfl⟩ := blocks_ne_zero hsome hitems.le
    have hdrop : (items.drop inner).length = fewer * inner := by
      rw [List.length_drop, hitems, Nat.succ_mul, Nat.add_sub_cancel]
    rw [List.length_append, h.length hblock, ih hdrop, Nat.succ_mul, Nat.add_comm]

theorem UndoesBlocks.blockwise {transform : ℕ → List α → Option (List β)}
    {undo : ℕ → List β → Option (List α)} {size inner : ℕ}
    (h : UndoesBlocks transform undo size) (hsize : 0 < size)
    {items : List α} {results : List β}
    (hrun : OpcuaStack.blockwise transform inner items = some results) :
    OpcuaStack.blockwise undo size results = some items :=
  h.blockwiseFrom hsize hrun le_rfl

end OpcuaStack
