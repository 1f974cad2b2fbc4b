import Mathlib.Tactic

/-!
# Choosing from a list

The first of the best elements of a list, and the matching of one list against
another, each element used once.  A loop which keeps the better element ends at
the first of the best; a matching which crosses off the first counterpart leaves,
for lists of one length, a rearrangement.  Where the counterparts of an element are
those with its key, crossing off the first one is never a mistake.
-/

namespace OpcuaStack

universe u v w

variable {α : Type u} {β : Type v}

/-! ## The first of the best -/

/-- The loop which replaces the incumbent by a better eligible candidate. -/
def firstBest (eligible : α → Bool) (better : α → α → Bool) :
    Option α → List α → Option α
  | incumbent, [] => incumbent
  | incumbent, candidate :: rest =>
      if eligible candidate && incumbent.all (better candidate) then
        firstBest eligible better (some candidate) rest
      else firstBest eligible better incumbent rest

/-- The element at the index is the first of the eligible ones with the greatest
key. -/
structure BestAt [LinearOrder β] (eligible : α → Bool) (key : α → β)
    (list : List α) (index : ℕ) (element : α) : Prop where
  getElem : list[index]? = some element
  isEligible : eligible element = true
  greatest : ∀ (other : ℕ) x, list[other]? = some x → eligible x = true →
    key x ≤ key element
  first : ∀ (other : ℕ) x, list[other]? = some x → eligible x = true →
    other < index → key x < key element

section

variable [LinearOrder β] {eligible : α → Bool} {key : α → β}

theorem BestAt.head {candidate : α} {rest : List α}
    (heligible : eligible candidate = true)
    (hrest : ∀ x ∈ rest, eligible x = true → key x ≤ key candidate) :
    BestAt eligible key (candidate :: rest) 0 candidate := by
  refine ⟨rfl, heligible, fun other x hx hxe => ?_,
    fun other x hx hxe hlt => absurd hlt (Nat.not_lt_zero _)⟩
  rcases List.mem_cons.mp (List.mem_of_getElem? hx) with rfl | hlater
  · exact le_refl _
  · exact hrest x hlater hxe

theorem BestAt.cons {candidate element : α} {rest : List α} {index : ℕ}
    (h : BestAt eligible key rest index element)
    (hcandidate : eligible candidate = true → key candidate < key element) :
    BestAt eligible key (candidate :: rest) (index + 1) element := by
  refine ⟨h.getElem, h.isEligible, fun other x hx hxe => ?_,
    fun other x hx hxe hlt => ?_⟩
  · cases other with
    | zero =>
        rw [List.getElem?_cons_zero, Option.some.injEq] at hx
        subst hx
        exact (hcandidate hxe).le
    | succ later => exact h.greatest later x hx hxe
  · cases other with
    | zero =>
        rw [List.getElem?_cons_zero, Option.some.injEq] at hx
        subst hx
        exact hcandidate hxe
    | succ later => exact h.first later x hx hxe (Nat.lt_of_succ_lt_succ hlt)

/-- The incumbent stays unless a candidate is better, and then the first of the
best candidates takes its place. -/
theorem firstBest_spec {better : α → α → Bool}
    (hbetter : ∀ x y, better x y = true ↔ key y < key x)
    (incumbent : Option α) (list : List α) {element : α}
    (h : firstBest eligible better incumbent list = some element) :
    (incumbent = some element ∧
        ∀ x ∈ list, eligible x = true → key x ≤ key element) ∨
      ∃ index, BestAt eligible key list index element ∧
        ∀ held, incumbent = some held → key held < key element := by
  induction list generalizing incumbent with
  | nil => exact .inl ⟨h, fun x hx => absurd hx List.not_mem_nil⟩
  | cons candidate rest ih =>
      rw [firstBest] at h
      split at h
      next htakes =>
        rw [Bool.and_eq_true] at htakes
        have hheld : ∀ held, incumbent = some held → key held < key candidate := by
          rintro held rfl
          exact (hbetter _ _).mp htakes.2
        right
        rcases ih (some candidate) h with ⟨heq, hrest⟩ | ⟨index, hbest, hover⟩
        · rw [Option.some.injEq] at heq
          subst heq
          exact ⟨0, .head htakes.1 hrest, hheld⟩
        · have hcandidate := hover candidate rfl
          exact ⟨index + 1, hbest.cons fun _ => hcandidate,
            fun held hincumbent => (hheld held hincumbent).trans hcandidate⟩
      next hstays =>
        -- an eligible candidate does not beat the incumbent
        have hnot : eligible candidate = true →
            ∃ held, incumbent = some held ∧ key candidate ≤ key held := by
          intro heligible
          rw [heligible, Bool.true_and] at hstays
          cases hincumbent : incumbent with
          | none =>
              rw [hincumbent] at hstays
              exact absurd rfl hstays
          | some held =>
              rw [hincumbent] at hstays
              exact ⟨held, rfl, not_lt.mp (mt (hbetter _ _).mpr hstays)⟩
        rcases ih incumbent h with ⟨heq, hrest⟩ | ⟨index, hbest, hover⟩
        · refine .inl ⟨heq, fun x hx hxe => ?_⟩
          rcases List.mem_cons.mp hx with rfl | hlater
          · obtain ⟨held, hheld, hle⟩ := hnot hxe
            rw [heq, Option.some.injEq] at hheld
            exact hheld ▸ hle
          · exact hrest x hlater hxe
        · refine .inr ⟨index + 1, hbest.cons fun heligible => ?_, hover⟩
          obtain ⟨held, hheld, hle⟩ := hnot heligible
          exact hle.trans_lt (hover held hheld)

theorem bestAt_of_firstBest {better : α → α → Bool}
    (hbetter : ∀ x y, better x y = true ↔ key y < key x) {list : List α}
    {element : α} (h : firstBest eligible better none list = some element) :
    ∃ index, BestAt eligible key list index element := by
  rcases firstBest_spec hbetter none list h with ⟨hnone, _⟩ | ⟨index, hbest, _⟩
  · exact absurd hnone nofun
  · exact ⟨index, hbest⟩

end

/-! ## Matching each element once -/

/-- Mark the first unmarked counterpart of an element. -/
def markFirst (counterpart : α → β → Bool) (element : α) :
    List (β × Bool) → Option (List (β × Bool))
  | [] => none
  | (candidate, matched) :: rest =>
      if matched || !counterpart element candidate then
        (markFirst counterpart element rest).map ((candidate, matched) :: ·)
      else some ((candidate, true) :: rest)

/-- Every element finds a counterpart which was not marked before. -/
def matchEach (counterpart : α → β → Bool) :
    List α → List (β × Bool) → Bool
  | [], _ => true
  | element :: rest, candidates =>
      match markFirst counterpart element candidates with
      | none => false
      | some marked => matchEach counterpart rest marked

def unmarked (candidates : List (β × Bool)) : List β :=
  (candidates.filter fun candidate => !candidate.2).map Prod.fst

theorem unmarked_fresh (others : List β) :
    unmarked (others.map (·, false)) = others := by
  simp [unmarked, List.filter_map, Function.comp_def]

theorem markFirst_spec {counterpart : α → β → Bool} {element : α}
    {candidates marked : List (β × Bool)}
    (h : markFirst counterpart element candidates = some marked) :
    ∃ candidate, counterpart element candidate = true ∧
      (unmarked candidates).Perm (candidate :: unmarked marked) := by
  induction candidates generalizing marked with
  | nil => exact absurd h nofun
  | cons head rest ih =>
      obtain ⟨candidate, matched⟩ := head
      rw [markFirst] at h
      split at h
      next hskips =>
        obtain ⟨later, hlater, rfl⟩ := Option.map_eq_some_iff.mp h
        obtain ⟨found, hfound, hperm⟩ := ih hlater
        refine ⟨found, hfound, ?_⟩
        cases matched with
        | true => exact hperm
        | false => exact (hperm.cons candidate).trans (List.Perm.swap ..)
      next htakes =>
        rw [Option.some.injEq] at h
        subst h
        cases matched with
        | true => exact absurd rfl htakes
        | false =>
            refine ⟨candidate, by simpa using htakes, ?_⟩
            exact List.Perm.refl _

theorem matchEach_spec {counterpart : α → β → Bool} {list : List α}
    {candidates : List (β × Bool)}
    (h : matchEach counterpart list candidates = true) :
    ∃ used rest, (unmarked candidates).Perm (used ++ rest) ∧
      List.Forall₂ (fun element candidate =>
        counterpart element candidate = true) list used := by
  induction list generalizing candidates with
  | nil => exact ⟨[], unmarked candidates, List.Perm.refl _, .nil⟩
  | cons element rest ih =>
      rw [matchEach] at h
      cases hmark : markFirst counterpart element candidates with
      | none =>
          rw [hmark] at h
          exact absurd h Bool.false_ne_true
      | some marked =>
          rw [hmark] at h
          obtain ⟨candidate, hcounterpart, hperm⟩ := markFirst_spec hmark
          obtain ⟨used, left, hused, hall⟩ := ih h
          exact ⟨candidate :: used, left, hperm.trans (hused.cons candidate),
            .cons hcounterpart hall⟩

theorem exists_related_of_mem {related : α → β → Prop} {list : List α}
    {others : List β} (h : List.Forall₂ related list others) {element : α}
    (hmem : element ∈ list) : ∃ other ∈ others, related element other := by
  induction h with
  | nil => exact absurd hmem List.not_mem_nil
  | @cons head other _ _ hhead _ ih =>
      rcases List.mem_cons.mp hmem with rfl | hlater
      · exact ⟨other, List.mem_cons_self, hhead⟩
      · obtain ⟨found, hfound, hrelated⟩ := ih hlater
        exact ⟨found, List.mem_cons_of_mem _ hfound, hrelated⟩

theorem matchEach_perm {counterpart : α → β → Bool} {list : List α}
    {others : List β} (hlength : list.length = others.length)
    (h : matchEach counterpart list (others.map (·, false)) = true) :
    ∃ arranged, others.Perm arranged ∧
      List.Forall₂ (fun element candidate =>
        counterpart element candidate = true) list arranged := by
  obtain ⟨used, rest, hperm, hall⟩ := matchEach_spec h
  rw [unmarked_fresh] at hperm
  have hrest : rest = [] := by
    have hused := hall.length_eq
    have htotal := hperm.length_eq
    rw [List.length_append] at htotal
    exact List.eq_nil_of_length_eq_zero (by omega)
  rw [hrest, List.append_nil] at hperm
  exact ⟨used, hperm, hall⟩

/-! ## Matching by a key -/

section

variable {κ : Type w} {key : α → κ} {otherKey : β → κ}
  {counterpart : α → β → Bool}

theorem markFirst_eq_none
    (hcounterpart : ∀ a b, counterpart a b = true ↔ key a = otherKey b)
    {element : α} {candidates : List (β × Bool)}
    (h : markFirst counterpart element candidates = none) :
    key element ∉ (unmarked candidates).map otherKey := by
  induction candidates with
  | nil => exact List.not_mem_nil
  | cons head rest ih =>
      obtain ⟨candidate, matched⟩ := head
      rw [markFirst] at h
      split at h
      next hskips =>
        have hrest := ih (Option.map_eq_none_iff.mp h)
        cases matched with
        | true => exact hrest
        | false =>
            have hdiffers : key element ≠ otherKey candidate := by
              intro heq
              rw [(hcounterpart element candidate).mpr heq] at hskips
              exact absurd hskips Bool.false_ne_true
            exact List.not_mem_cons_of_ne_of_not_mem hdiffers hrest
      next => exact absurd h nofun

theorem matchEach_iff_subperm
    (hcounterpart : ∀ a b, counterpart a b = true ↔ key a = otherKey b)
    (list : List α) (candidates : List (β × Bool)) :
    matchEach counterpart list candidates = true ↔
      (list.map key).Subperm ((unmarked candidates).map otherKey) := by
  induction list generalizing candidates with
  | nil => exact iff_of_true rfl List.nil_subperm
  | cons element rest ih =>
      rw [matchEach, List.map_cons]
      cases hmark : markFirst counterpart element candidates with
      | none =>
          have habsent := markFirst_eq_none hcounterpart hmark
          refine iff_of_false Bool.false_ne_true fun hsub => ?_
          exact habsent (hsub.subset List.mem_cons_self)
      | some marked =>
          obtain ⟨candidate, hfound, hperm⟩ := markFirst_spec hmark
          have hkeys : ((unmarked candidates).map otherKey).Perm
              (key element :: (unmarked marked).map otherKey) := by
            rw [(hcounterpart element candidate).mp hfound]
            exact hperm.map otherKey
          rw [hkeys.subperm_left, List.subperm_cons]
          exact ih marked

theorem matchEach_iff_perm
    (hcounterpart : ∀ a b, counterpart a b = true ↔ key a = otherKey b)
    {list : List α} {others : List β} (hlength : list.length = others.length) :
    matchEach counterpart list (others.map (·, false)) = true ↔
      (list.map key).Perm (others.map otherKey) := by
  rw [matchEach_iff_subperm hcounterpart, unmarked_fresh]
  constructor
  · intro hsub
    apply hsub.perm_of_length_le
    rw [List.length_map, List.length_map, hlength]
  · exact List.Perm.subperm

theorem map_get_places (f : α → κ) (list : List α) :
    (Finset.univ.val.map fun place => f (list.get place) : Multiset κ) =
      list.map f := by
  have hget : (fun place => f (list.get place)) = f ∘ list.get := rfl
  rw [Fin.univ_val_map, hget, ← List.map_ofFn, List.ofFn_get]

theorem card_places [DecidableEq κ] (f : α → κ) (list : List α) (value : κ) :
    Nat.card {place // f (list.get place) = value} =
      (list.map f : Multiset κ).count value := by
  rw [← map_get_places, Multiset.count_map, Nat.card_eq_fintype_card,
    Fintype.card_subtype, Finset.card_def, Finset.filter_val]
  simp only [eq_comm]

/-- Two lists have the same keys up to their order when their places can be paired
one to one, each with a place of the same key. -/
theorem map_perm_iff_exists_pairing {list : List α} {others : List β} :
    (list.map key).Perm (others.map otherKey) ↔
      ∃ pairing : Fin list.length ≃ Fin others.length,
        ∀ place, key (list.get place) = otherKey (others.get (pairing place)) := by
  classical
  rw [← Multiset.coe_eq_coe]
  constructor
  · intro heq
    have hfibre : ∀ value, Nonempty
        ({place // key (list.get place) = value} ≃
          {place // otherKey (others.get place) = value}) := by
      intro value
      apply Finite.card_eq.mp
      rw [card_places, card_places, heq]
    let fibres := fun value => (hfibre value).some
    exact ⟨Equiv.ofFiberEquiv fibres,
      fun place => (Equiv.ofFiberEquiv_map fibres place).symm⟩
  · rintro ⟨pairing, hpairing⟩
    rw [← map_get_places, ← map_get_places, ← Multiset.map_univ_val_equiv pairing,
      Multiset.map_map]
    exact Multiset.map_congr rfl fun place _ => hpairing place

end

end OpcuaStack
