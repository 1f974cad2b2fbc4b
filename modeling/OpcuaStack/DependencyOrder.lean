import Mathlib.Tactic

/-!
# A depth-first order of items which refer to each other

The items of a list are visited in turn.  What an item refers to by name is visited
before the item is put into the order, and an item which is met while it is still being
visited lies on a circle of references.  The order exists exactly when there is no
circle, and a list which is in order already is left as it is.
-/

namespace OpcuaStack

/-- Items with names, and the names each of them refers to, in the order of visits. -/
structure References (α κ : Type) where
  items : List α
  key : α → κ
  referred : α → List κ

namespace References

variable {α κ : Type} [DecidableEq κ]

/-- The visits so far. -/
structure Progress (α κ : Type) where
  emitted : Finset κ := ∅
  visiting : Finset κ := ∅
  ordered : List α := []

inductive Failure (κ : Type) where
  | circle (path : List κ)
  | exhausted
deriving DecidableEq, Repr

def Progress.enter (progress : Progress α κ) (name : κ) : Progress α κ :=
  { progress with visiting := insert name progress.visiting }

def Progress.leave (progress : Progress α κ) (name : κ) (item : α) : Progress α κ where
  emitted := insert name progress.emitted
  visiting := progress.visiting.erase name
  ordered := progress.ordered ++ [item]

variable (refs : References α κ)

/-- The item of a name; of two items with one name it is the later one. -/
def lookup (name : κ) : Option α :=
  refs.items.reverse.find? fun item => refs.key item = name

def visit : ℕ → α → List κ → Progress α κ → Except (Failure κ) (Progress α κ)
  | 0, _, _, _ => .error .exhausted
  | fuel + 1, item, stack, progress =>
      let name := refs.key item
      if name ∈ progress.emitted then
        .ok progress
      else if name ∈ progress.visiting then
        .error (.circle (stack ++ [name]))
      else do
        let inner ← (refs.referred item).foldlM (fun progress dependency =>
          match refs.lookup dependency with
          | some next => visit fuel next (stack ++ [name]) progress
          | none => .ok progress) (progress.enter name)
        return inner.leave name item

def sorted : Except (Failure κ) (List α) := do
  let progress ← refs.items.foldlM
    (fun progress item => refs.visit (refs.items.length + 1) item [] progress) {}
  return progress.ordered

/-! ## What an order is -/

/-- One name refers to another one, which an item has. -/
def Refers (name other : κ) : Prop :=
  ∃ item ∈ refs.items, refs.key item = name ∧ other ∈ refs.referred item ∧
    (refs.lookup other).isSome

/-- Every item comes behind the items which it refers to. -/
def InOrder (ordered : List α) : Prop :=
  ∀ front item back, ordered = front ++ item :: back →
    ∀ name ∈ refs.referred item, (refs.lookup name).isSome → name ∈ front.map refs.key

/-- A path along references which comes back to a name it has been at. -/
def Circle (path : List κ) : Prop :=
  path.IsChain refs.Refers ∧
    ∃ front name middle, path = front ++ name :: (middle ++ [name])

structure Sound (progress : Progress α κ) : Prop where
  emitted_iff : ∀ name, name ∈ progress.emitted ↔ name ∈ progress.ordered.map refs.key
  nodup : (progress.ordered.map refs.key).Nodup
  inOrder : refs.InOrder progress.ordered
  known : progress.ordered ⊆ refs.items

structure Advanced (progress later : Progress α κ) : Prop where
  sound : refs.Sound later
  continued : progress.ordered <+: later.ordered
  visiting : later.visiting = progress.visiting
  /-- What is being visited is not put into the order meanwhile. -/
  unfinished : ∀ name ∈ progress.visiting, name ∈ later.emitted → name ∈ progress.emitted

/-- A good result, or a failure which a circle explains. -/
def Outcome {β : Type} (good : β → Prop) : Except (Failure κ) β → Prop
  | .ok result => good result
  | .error (.circle path) => refs.Circle path
  | .error .exhausted => False

variable {refs}

theorem mem_of_lookup {name : κ} {item : α} (h : refs.lookup name = some item) :
    item ∈ refs.items :=
  List.mem_reverse.mp (List.mem_of_find?_eq_some h)

theorem key_of_lookup {name : κ} {item : α} (h : refs.lookup name = some item) :
    refs.key item = name := by
  simpa using List.find?_some h

theorem lookup_isSome_iff {name : κ} :
    (refs.lookup name).isSome ↔ name ∈ refs.items.map refs.key := by
  simp [lookup]

theorem Sound.empty : refs.Sound {} := by
  constructor <;> simp [InOrder]

theorem Advanced.refl {progress : Progress α κ} (h : refs.Sound progress) :
    refs.Advanced progress progress :=
  ⟨h, List.prefix_rfl, rfl, fun _ _ hmem => hmem⟩

theorem Advanced.trans {first second third : Progress α κ} (h : refs.Advanced first second)
    (h' : refs.Advanced second third) : refs.Advanced first third := by
  refine ⟨h'.sound, h.continued.trans h'.continued, h'.visiting.trans h.visiting, ?_⟩
  intro name hmem hthird
  apply h.unfinished name hmem
  exact h'.unfinished name (by rwa [h.visiting]) hthird

theorem Advanced.emitted {progress later : Progress α κ} (h : refs.Advanced progress later)
    (hsound : refs.Sound progress) {name : κ} (hmem : name ∈ progress.emitted) :
    name ∈ later.emitted := by
  rw [h.sound.emitted_iff]
  rw [hsound.emitted_iff] at hmem
  exact (h.continued.map refs.key).subset hmem

theorem Outcome.bind {β γ : Type} {good : β → Prop} {better : γ → Prop}
    {first : Except (Failure κ) β} {second : β → Except (Failure κ) γ}
    (h : refs.Outcome good first) (hnext : ∀ result, good result →
      refs.Outcome better (second result)) : refs.Outcome better (first >>= second) := by
  cases first with
  | ok result => exact hnext result h
  | error failure =>
      cases failure with
      | circle path => exact h
      | exhausted => exact h.elim

theorem Outcome.mono {β : Type} {good better : β → Prop} {result : Except (Failure κ) β}
    (h : refs.Outcome good result) (hmono : ∀ value, good value → better value) :
    refs.Outcome better result := by
  cases result with
  | ok value => exact hmono value h
  | error failure => cases failure <;> exact h

/-- Visits one after the other: each of them does its part, and no later one undoes it. -/
theorem Outcome.foldlM {β : Type} (done : β → Progress α κ → Prop)
    {step : Progress α κ → β → Except (Failure κ) (Progress α κ)} (hkept : ∀ entry progress later,
      refs.Sound progress → refs.Advanced progress later → done entry progress →
        done entry later) (entries : List β) {progress : Progress α κ}
    (hsound : refs.Sound progress) (hstep : ∀ entry ∈ entries, ∀ later,
      refs.Advanced progress later →
        refs.Outcome (fun next => refs.Advanced later next ∧ done entry next)
          (step later entry)) :
    refs.Outcome (fun later => refs.Advanced progress later ∧ ∀ entry ∈ entries,
      done entry later) (entries.foldlM step progress) := by
  induction entries generalizing progress with
  | nil => exact ⟨Advanced.refl hsound, by simp⟩
  | cons entry entries ih =>
      rw [List.foldlM_cons]
      apply Outcome.bind (hstep entry (by simp) progress (Advanced.refl hsound))
      intro next hnext
      have hrest := ih hnext.1.sound fun other hmem later hlater =>
        hstep other (by simp [hmem]) later (hnext.1.trans hlater)
      apply hrest.mono
      intro later hlater
      refine ⟨hnext.1.trans hlater.1, ?_⟩
      intro other hmem
      rcases List.mem_cons.mp hmem with rfl | hmem
      · exact hkept other next later hnext.1.sound hlater.1 hnext.2
      · exact hlater.2 other hmem

/-! ## One visit -/

theorem InOrder.concat {ordered : List α} {item : α} (h : refs.InOrder ordered)
    (hitem : ∀ name ∈ refs.referred item, (refs.lookup name).isSome →
      name ∈ ordered.map refs.key) : refs.InOrder (ordered ++ [item]) := by
  intro front other back heq
  rcases List.eq_nil_or_concat back with rfl | ⟨back, last, rfl⟩
  · obtain ⟨rfl, hother⟩ := List.append_inj' heq rfl
    obtain rfl : item = other := by simpa using hother
    exact hitem
  · have hshift : ordered ++ [item] = (front ++ other :: back) ++ [last] := by
      simpa using heq
    exact h front other back (List.append_inj' hshift rfl).1

theorem Sound.leave {progress : Progress α κ} (h : refs.Sound progress) {item : α}
    (hknown : item ∈ refs.items) (hnew : refs.key item ∉ progress.emitted)
    (hreferred : ∀ name ∈ refs.referred item, (refs.lookup name).isSome →
      name ∈ progress.emitted) : refs.Sound (progress.leave (refs.key item) item) := by
  constructor
  · intro name
    simp only [Progress.leave, Finset.mem_insert, h.emitted_iff, List.map_append,
      List.map_singleton, List.mem_append, List.mem_singleton]
    exact or_comm
  · rw [h.emitted_iff] at hnew
    simp only [Progress.leave, List.map_append, List.map_singleton]
    apply List.nodup_append.mpr
    refine ⟨h.nodup, List.nodup_singleton _, ?_⟩
    intro name hmem other hother heq
    apply hnew
    rwa [← List.mem_singleton.mp hother, ← heq]
  · apply h.inOrder.concat
    intro name hmem hfound
    exact (h.emitted_iff name).mp (hreferred name hmem hfound)
  · exact List.append_subset.mpr ⟨h.known, by simpa using hknown⟩

/-- What a visit starts from: the names on the stack lead to the item, they are the ones
which are being visited, and the fuel lasts for all the others. -/
structure Ready (refs : References α κ) (fuel : ℕ) (item : α) (stack : List κ)
    (progress : Progress α κ) : Prop where
  sound : refs.Sound progress
  known : item ∈ refs.items
  visiting_iff : ∀ name, name ∈ progress.visiting ↔ name ∈ stack
  chain : (stack ++ [refs.key item]).IsChain refs.Refers
  fuel_lasts : ((refs.items.map refs.key).toFinset \ progress.visiting).card < fuel

theorem circle_of_visiting {stack : List κ} {name : κ} (hmem : name ∈ stack)
    (hchain : (stack ++ [name]).IsChain refs.Refers) :
    refs.Circle (stack ++ [name]) := by
  obtain ⟨front, middle, rfl⟩ := List.append_of_mem hmem
  exact ⟨hchain, front, name, middle, by simp⟩

/-- What the item refers to is visited under the same conditions. -/
theorem Ready.next {fuel : ℕ} {item next : α} {stack : List κ}
    {progress later : Progress α κ} (h : Ready refs (fuel + 1) item stack progress)
    (hnew : refs.key item ∉ progress.visiting)
    (hlater : refs.Advanced (progress.enter (refs.key item)) later) {name : κ}
    (hmem : name ∈ refs.referred item) (hlookup : refs.lookup name = some next) :
    Ready refs fuel next (stack ++ [refs.key item]) later := by
  have hvisiting : later.visiting = insert (refs.key item) progress.visiting :=
    hlater.visiting
  constructor
  · exact hlater.sound
  · exact mem_of_lookup hlookup
  · intro other
    rw [hvisiting, Finset.mem_insert, h.visiting_iff, List.mem_append,
      List.mem_singleton]
    exact or_comm
  · rw [key_of_lookup hlookup]
    apply List.IsChain.append h.chain (List.isChain_singleton _)
    intro last hlast first hfirst
    obtain rfl : refs.key item = last := by simpa using hlast
    obtain rfl : name = first := by simpa using hfirst
    exact ⟨item, h.known, rfl, hmem, by simp [hlookup]⟩
  · have hin : refs.key item ∈ (refs.items.map refs.key).toFinset \ progress.visiting := by
      simp only [Finset.mem_sdiff, List.mem_toFinset]
      exact ⟨List.mem_map_of_mem h.known, hnew⟩
    have hless := Finset.card_lt_card (Finset.erase_ssubset hin)
    rw [← Finset.sdiff_insert] at hless
    rw [hvisiting]
    exact lt_of_lt_of_le hless (Nat.lt_succ_iff.mp h.fuel_lasts)

theorem Sound.enter {progress : Progress α κ} (h : refs.Sound progress) (name : κ) :
    refs.Sound (progress.enter name) :=
  ⟨h.emitted_iff, h.nodup, h.inOrder, h.known⟩

theorem visit_outcome (fuel : ℕ) {item : α} {stack : List κ} {progress : Progress α κ}
    (h : Ready refs fuel item stack progress) :
    refs.Outcome (fun later => refs.Advanced progress later ∧ refs.key item ∈ later.emitted)
      (refs.visit fuel item stack progress) := by
  induction fuel generalizing item stack progress with
  | zero => exact absurd h.fuel_lasts (Nat.not_lt_zero _)
  | succ fuel ih =>
      rw [visit]
      by_cases hemitted : refs.key item ∈ progress.emitted
      · simp only [hemitted, if_true]
        exact ⟨Advanced.refl h.sound, hemitted⟩
      by_cases hvisiting : refs.key item ∈ progress.visiting
      · simp only [hemitted, hvisiting, if_true, if_false]
        exact circle_of_visiting ((h.visiting_iff _).mp hvisiting) h.chain
      simp only [hemitted, hvisiting, if_false]
      apply Outcome.bind (Outcome.foldlM
        (fun name (later : Progress α κ) => (refs.lookup name).isSome → name ∈ later.emitted)
        (fun name before later hsound hlater hdone hfound =>
          hlater.emitted hsound (hdone hfound))
        (refs.referred item) (h.sound.enter (refs.key item)) ?_)
      · rintro inner ⟨hadvanced, hdone⟩
        have hlast : inner.visiting = insert (refs.key item) progress.visiting :=
          hadvanced.visiting
        have hnew : refs.key item ∉ inner.emitted := fun hmem =>
          hemitted (hadvanced.unfinished _ (by simp [Progress.enter]) hmem)
        refine ⟨⟨hadvanced.sound.leave h.known hnew hdone, ?_, ?_, ?_⟩,
          by simp [Progress.leave]⟩
        · exact hadvanced.continued.trans (List.prefix_append _ _)
        · simp [Progress.leave, hlast, hvisiting]
        · intro name hmem hleft
          rcases Finset.mem_insert.mp hleft with rfl | hinside
          · exact absurd hmem hvisiting
          · exact hadvanced.unfinished name (Finset.mem_insert_of_mem hmem) hinside
      · intro name hmem later hlater
        cases hlookup : refs.lookup name with
        | none => exact ⟨Advanced.refl hlater.sound, by simp⟩
        | some next =>
            apply (ih (h.next hvisiting hlater hmem hlookup)).mono
            rintro result ⟨hadvanced, hdone⟩
            rw [key_of_lookup hlookup] at hdone
            exact ⟨hadvanced, fun _ => hdone⟩

/-! ## The order of all items -/

theorem ready_at_start {progress : Progress α κ} (hsound : refs.Sound progress)
    (hvisiting : progress.visiting = ∅) {item : α} (hknown : item ∈ refs.items) :
    Ready refs (refs.items.length + 1) item [] progress := by
  refine ⟨hsound, hknown, by simp [hvisiting], by simp, ?_⟩
  rw [hvisiting, Finset.sdiff_empty, Nat.lt_succ_iff]
  exact (List.toFinset_card_le _).trans_eq (List.length_map _)

structure Ordering (refs : References α κ) (ordered : List α) : Prop where
  inOrder : refs.InOrder ordered
  nodup : (ordered.map refs.key).Nodup
  known : ordered ⊆ refs.items
  complete : refs.items.map refs.key ⊆ ordered.map refs.key

theorem sorted_outcome : refs.Outcome refs.Ordering refs.sorted := by
  apply Outcome.bind (Outcome.foldlM
    (fun item (later : Progress α κ) => refs.key item ∈ later.emitted)
    (fun item before later hsound hlater hdone => hlater.emitted hsound hdone)
    refs.items Sound.empty
    fun item hmem later hlater =>
      visit_outcome _ (ready_at_start hlater.sound hlater.visiting hmem))
  rintro later ⟨hadvanced, hdone⟩
  refine ⟨hadvanced.sound.inOrder, hadvanced.sound.nodup, hadvanced.sound.known, ?_⟩
  intro name hmem
  obtain ⟨item, hitem, rfl⟩ := List.mem_map.mp hmem
  exact (hadvanced.sound.emitted_iff _).mp (hdone item hitem)

theorem transGen_of_isChain {ν : Type} {r : ν → ν → Prop} {first last : ν} (middle : List ν)
    (h : (first :: (middle ++ [last])).IsChain r) : Relation.TransGen r first last := by
  induction middle generalizing first with
  | nil => exact .single (by simpa using h)
  | cons next middle ih =>
      rw [List.cons_append, List.isChain_cons_cons] at h
      exact .head h.1 (ih h.2)

theorem Circle.transGen {path : List κ} (h : refs.Circle path) :
    ∃ name ∈ path, Relation.TransGen refs.Refers name name := by
  obtain ⟨hchain, front, name, middle, rfl⟩ := h
  refine ⟨name, by simp, transGen_of_isChain middle ?_⟩
  exact (List.isChain_append.mp hchain).2.1

/-- Along an order the names that an item refers to come earlier. -/
theorem Ordering.idxOf_lt {ordered : List α} (h : refs.Ordering ordered)
    (hunique : (refs.items.map refs.key).Nodup) {name other : κ}
    (hrefers : refs.Refers name other) :
    (ordered.map refs.key).idxOf other < (ordered.map refs.key).idxOf name := by
  obtain ⟨item, hitem, rfl, hmem, hfound⟩ := hrefers
  have hordered : item ∈ ordered := by
    obtain ⟨same, hsame, hkey⟩ :=
      List.mem_map.mp (h.complete (List.mem_map_of_mem hitem))
    rwa [← List.inj_on_of_nodup_map hunique (h.known hsame) hitem hkey]
  obtain ⟨front, back, rfl⟩ := List.append_of_mem hordered
  have hfront := h.inOrder front item back rfl other hmem hfound
  have hnodup := h.nodup
  rw [List.map_append, List.map_cons] at hnodup ⊢
  have hname : refs.key item ∉ front.map refs.key := fun hin =>
    (List.nodup_append.mp hnodup).2.2 _ hin _ (by simp) rfl
  rw [List.idxOf_append_of_mem hfront, List.idxOf_append_of_notMem hname,
    List.idxOf_cons_self, add_zero]
  exact List.idxOf_lt_length_iff.mpr hfront

/-- There is an order exactly when no name leads back to itself. -/
theorem sorted_ok_iff (hunique : (refs.items.map refs.key).Nodup) :
    (∃ ordered, refs.sorted = .ok ordered) ↔
      ∀ name, ¬ Relation.TransGen refs.Refers name name := by
  have houtcome := @sorted_outcome _ _ _ refs
  constructor
  · rintro ⟨ordered, hsorted⟩ name hround
    rw [hsorted] at houtcome
    have hless : ∀ {other}, Relation.TransGen refs.Refers name other →
        (ordered.map refs.key).idxOf other < (ordered.map refs.key).idxOf name := by
      intro other hpath
      induction hpath with
      | single hrefers => exact Ordering.idxOf_lt houtcome hunique hrefers
      | tail _ hrefers ih => exact (Ordering.idxOf_lt houtcome hunique hrefers).trans ih
    exact lt_irrefl _ (hless hround)
  · intro hnone
    cases hsorted : refs.sorted with
    | ok ordered => exact ⟨ordered, rfl⟩
    | error failure =>
        rw [hsorted] at houtcome
        cases failure with
        | circle path =>
            obtain ⟨name, -, hround⟩ := Circle.transGen houtcome
            exact absurd hround (hnone name)
        | exhausted => exact houtcome.elim

/-! ## A list which is in order -/

theorem visit_of_emitted {fuel : ℕ} {item : α} {stack : List κ} {progress : Progress α κ}
    (h : refs.key item ∈ progress.emitted) :
    refs.visit (fuel + 1) item stack progress = .ok progress := by
  rw [visit]
  simp [h]

theorem foldlM_unchanged {β γ ε : Type} {step : γ → β → Except ε γ} {state : γ}
    (entries : List β) (h : ∀ entry ∈ entries, step state entry = .ok state) :
    entries.foldlM step state = .ok state := by
  induction entries with
  | nil => rfl
  | cons entry entries ih =>
      rw [List.foldlM_cons, h entry (by simp)]
      exact ih fun other hmem => h other (by simp [hmem])

theorem visit_of_referred {fuel : ℕ} {item : α} {progress : Progress α κ}
    (hnew : refs.key item ∉ progress.emitted) (hvisiting : progress.visiting = ∅)
    (hreferred : ∀ name ∈ refs.referred item, (refs.lookup name).isSome →
      name ∈ progress.emitted) :
    refs.visit (fuel + 2) item [] progress =
      .ok ((progress.enter (refs.key item)).leave (refs.key item) item) := by
  rw [visit]
  simp only [hnew, hvisiting, Finset.notMem_empty, if_false]
  rw [foldlM_unchanged]
  · rfl
  · intro name hmem
    cases hlookup : refs.lookup name with
    | none => rfl
    | some next =>
        apply visit_of_emitted
        rw [key_of_lookup hlookup]
        exact hreferred name hmem (by simp [hlookup])

theorem foldlM_inOrder (hunique : (refs.items.map refs.key).Nodup)
    (horder : refs.InOrder refs.items) (front back : List α) (hitems : refs.items = front ++ back)
    {progress : Progress α κ} (hsound : refs.Sound progress) (hvisiting : progress.visiting = ∅)
    (hordered : progress.ordered = front) :
    ∃ later, back.foldlM (fun progress item =>
        refs.visit (refs.items.length + 1) item [] progress) progress = .ok later ∧
      later.ordered = refs.items := by
  induction back generalizing front progress with
  | nil => exact ⟨progress, rfl, by simp [hordered, hitems]⟩
  | cons item back ih =>
      have hmem : item ∈ refs.items := by simp [hitems]
      have hnew : refs.key item ∉ progress.emitted := by
        rw [hitems, List.map_append, List.map_cons] at hunique
        rw [hsound.emitted_iff, hordered]
        intro hin
        exact (List.nodup_append.mp hunique).2.2 _ hin _ (by simp) rfl
      have hreferred : ∀ name ∈ refs.referred item, (refs.lookup name).isSome →
          name ∈ progress.emitted := by
        intro name hname hfound
        rw [hsound.emitted_iff, hordered]
        exact horder front item back hitems name hname hfound
      obtain ⟨fuel, hfuel⟩ := Nat.exists_eq_succ_of_ne_zero
        (Nat.ne_of_gt (List.length_pos_of_mem hmem))
      have hvisit := @visit_of_referred _ _ _ _ fuel _ _ hnew hvisiting hreferred
      rw [List.foldlM_cons]
      simp only [hfuel, Nat.succ_eq_add_one] at ih hvisit ⊢
      rw [hvisit]
      refine ih (front ++ [item]) (by simp [hitems]) ?_ ?_ ?_
      · exact (hsound.enter _).leave hmem hnew hreferred
      · simp [Progress.leave, Progress.enter, hvisiting]
      · simp [Progress.leave, Progress.enter, hordered]

theorem sorted_of_inOrder (hunique : (refs.items.map refs.key).Nodup)
    (horder : refs.InOrder refs.items) : refs.sorted = .ok refs.items := by
  obtain ⟨later, hlater, hordered⟩ :=
    foldlM_inOrder hunique horder [] refs.items rfl Sound.empty rfl rfl
  rw [sorted, hlater]
  exact congrArg Except.ok hordered

end References
end OpcuaStack
