import OpcuaStack.KeyedMap

/-!
# An index of owners

Some holders hold items, and a map tells for each item who holds it.  The map
indexes the holdings if it names exactly the holders.  These are the rules by
which items are acquired, released and moved without losing that.
-/

namespace OpcuaStack

universe u v

variable {ι : Type u} {κ : Type v} [DecidableEq ι]

/-- The map names the holder of every item which is held, and no other. -/
def Indexes (owners : KeyedMap ι κ) (holds : κ → ι → Prop) : Prop :=
  ∀ item holder, owners.lookup item = some holder ↔ holds holder item

namespace Indexes

variable {owners : KeyedMap ι κ} {holds holds' : κ → ι → Prop}

theorem holder_unique (h : Indexes owners holds) {item : ι} {first second : κ}
    (hfirst : holds first item) (hsecond : holds second item) :
    first = second := by
  have hlookup := (h item first).mpr hfirst
  rw [(h item second).mpr hsecond] at hlookup
  exact (Option.some.inj hlookup).symm

theorem congr (h : Indexes owners holds)
    (hiff : ∀ holder item, holds' holder item ↔ holds holder item) :
    Indexes owners holds' := by
  intro item holder
  rw [h, hiff]

/-- One item goes to one holder, and the others stay where they are. -/
theorem insert (h : Indexes owners holds) {item : ι} {target : κ}
    (hitem : ∀ other, holds' other item ↔ other = target)
    (hothers : ∀ other another, another ≠ item →
      (holds' other another ↔ holds other another)) :
    Indexes (owners.insert item target) holds' := by
  intro another other
  rw [KeyedMap.lookup_insert_eq]
  by_cases heq : another = item
  · subst heq
    rw [if_pos rfl, Option.some.injEq, hitem]
    exact eq_comm
  · rw [if_neg heq, h, hothers other another heq]

theorem acquire (h : Indexes owners holds) {item : ι} {holder : κ}
    (hfree : ∀ other, holds other item → other = holder)
    (hiff : ∀ other another, holds' other another ↔
      other = holder ∧ another = item ∨ holds other another) :
    Indexes (owners.insert item holder) holds' := by
  refine h.insert (fun other => ?_) fun other another hne => by simp [hiff, hne]
  rw [hiff]
  constructor
  · rintro (⟨hother, _⟩ | hheld)
    · exact hother
    · exact hfree other hheld
  · exact fun hother => .inl ⟨hother, rfl⟩

theorem release (h : Indexes owners holds) {item : ι} {holder : κ}
    (hheld : holds holder item)
    (hiff : ∀ other another, holds' other another ↔
      holds other another ∧ ¬(other = holder ∧ another = item)) :
    Indexes (owners.erase item) holds' := by
  intro another other
  rw [KeyedMap.lookup_erase_eq, hiff]
  by_cases heq : another = item
  · subst heq
    rw [if_pos rfl]
    refine iff_of_false (by simp) ?_
    rintro ⟨hother, hnot⟩
    exact hnot ⟨h.holder_unique hother hheld, rfl⟩
  · rw [if_neg heq, h]
    simp [heq]

theorem move (h : Indexes owners holds) {item : ι} {source target : κ}
    (hheld : holds source item)
    (hiff : ∀ other another, holds' other another ↔
      other = target ∧ another = item ∨
        holds other another ∧ ¬(other = source ∧ another = item)) :
    Indexes (owners.insert item target) holds' := by
  refine h.insert (fun other => ?_) fun other another hne => by simp [hiff, hne]
  rw [hiff]
  constructor
  · rintro (⟨hother, _⟩ | ⟨hother, hnot⟩)
    · exact hother
    · exact absurd ⟨h.holder_unique hother hheld, rfl⟩ hnot
  · exact fun hother => .inl ⟨hother, rfl⟩

theorem forget (h : Indexes owners holds) {remaining : KeyedMap ι κ}
    {stays : κ → Bool}
    (hlookup : ∀ item, remaining.lookup item = (owners.lookup item).filter stays)
    (hiff : ∀ holder item, holds' holder item ↔
      stays holder = true ∧ holds holder item) :
    Indexes remaining holds' := by
  intro item holder
  rw [hlookup, Option.filter_eq_some_iff, h, hiff, and_comm]

end Indexes
end OpcuaStack
