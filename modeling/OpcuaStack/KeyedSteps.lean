import OpcuaStack.KeyedMap

/-!
# Steps with keys

Steps of different keys commute.  Two lists of steps which agree on every key
then have the same effect, so a list may be regrouped by key, in any order of
the groups, as long as each group keeps its order.
-/

namespace OpcuaStack

variable {σ α κ : Type} [DecidableEq κ]

/-- The steps of one key, in order. -/
def stepsOf (key : α → κ) (k : κ) (steps : List α) : List α :=
  steps.filter fun step => key step = k

theorem stepsOf_append (key : α → κ) (k : κ) (first second : List α) :
    stepsOf key k (first ++ second) =
      stepsOf key k first ++ stepsOf key k second :=
  List.filter_append ..

theorem key_of_mem_stepsOf {key : α → κ} {k : κ} {steps : List α} {step : α}
    (h : step ∈ stepsOf key k steps) : key step = k := by
  have hmem := List.mem_filter.mp h
  exact of_decide_eq_true hmem.2

theorem stepsOf_eq_of_keys {key : α → κ} {k j : κ} {steps : List α}
    (h : ∀ step ∈ steps, key step = j) :
    stepsOf key k steps = if j = k then steps else [] := by
  unfold stepsOf
  split
  next heq =>
    subst heq
    exact List.filter_eq_self.mpr fun step hstep => decide_eq_true (h step hstep)
  next hne =>
    refine List.filter_eq_nil_iff.mpr fun step hstep => ?_
    rw [h step hstep]
    simpa using hne

theorem stepsOf_filter {key : α → κ} {k : κ} {chosen : κ → Bool}
    {steps : List α} :
    stepsOf key k (steps.filter fun step => chosen (key step)) =
      if chosen k then stepsOf key k steps else [] := by
  unfold stepsOf
  rw [List.filter_filter]
  split
  next hchosen =>
    refine List.filter_congr fun step _ => ?_
    by_cases heq : key step = k
    · simp [heq, hchosen]
    · simp [heq]
  next hchosen =>
    refine List.filter_eq_nil_iff.mpr fun step _ => ?_
    by_cases heq : key step = k
    · simp [heq, hchosen]
    · simp [heq]

/-! ## The effect of a list -/

section Commuting

variable {act : σ → α → σ} {key : α → κ}

/-- Steps of different keys which stand in the list commute. -/
def CommuteIn (act : σ → α → σ) (key : α → κ) (steps : List α) : Prop :=
  ∀ a ∈ steps, ∀ b ∈ steps, key a ≠ key b →
    ∀ s, act (act s a) b = act (act s b) a

theorem foldl_move_front {step : α} {front : List α}
    (hcomm : ∀ other ∈ front, ∀ s,
      act (act s other) step = act (act s step) other) (s : σ) :
    act (front.foldl act s) step = front.foldl act (act s step) := by
  induction front generalizing s with
  | nil => rfl
  | cons other front ih =>
      have hother := hcomm other List.mem_cons_self s
      have hrest := ih (fun a ha => hcomm a (List.mem_cons_of_mem _ ha))
        (act s other)
      rw [List.foldl_cons, List.foldl_cons, hrest, hother]

/-- By induction on the first list: its first step is the first of its key in
the second list, where it can be moved to the front. -/
theorem foldl_eq_of_stepsOf_eq {first second : List α}
    (hcomm : CommuteIn act key first)
    (h : ∀ k, stepsOf key k first = stepsOf key k second) (s : σ) :
    first.foldl act s = second.foldl act s := by
  induction first generalizing second s with
  | nil =>
      cases second with
      | nil => rfl
      | cons step rest =>
          have hkey := h (key step)
          simp [stepsOf] at hkey
  | cons step rest ih =>
      have hkey := h (key step)
      have hhead : stepsOf key (key step) (step :: rest) =
          step :: stepsOf key (key step) rest := by
        simp [stepsOf]
      rw [hhead] at hkey
      obtain ⟨front, back, rfl, hfront, -, hback⟩ :=
        List.filter_eq_cons_iff.mp hkey.symm
      have hother : ∀ other ∈ front, key other ≠ key step := by
        intro other hmem heq
        exact hfront other hmem (decide_eq_true heq)
      have hmove : ∀ other ∈ front, ∀ s,
          act (act s other) step = act (act s step) other := by
        intro other hmem
        refine hcomm other ?_ step List.mem_cons_self (hother other hmem)
        have hlist : other ∈ stepsOf key (key other) (front ++ step :: back) :=
          List.mem_filter.mpr
            ⟨List.mem_append_left _ hmem, decide_eq_true rfl⟩
        rw [← h] at hlist
        exact List.mem_of_mem_filter hlist
      have hrest : ∀ k, stepsOf key k rest = stepsOf key k (front ++ back) := by
        intro k
        have hk := h k
        by_cases heq : key step = k
        · subst heq
          rw [stepsOf_append]
          have hnone : stepsOf key (key step) front = [] :=
            List.filter_eq_nil_iff.mpr fun other hmem => by
              simpa using hother other hmem
          rw [hnone, List.nil_append]
          exact hback.symm
        · have hskip : ∀ tail : List α,
              stepsOf key k (step :: tail) = stepsOf key k tail := by
            intro tail
            simp [stepsOf, heq]
          rw [hskip, stepsOf_append, hskip, ← stepsOf_append] at hk
          exact hk
      have hcommRest : CommuteIn act key rest := fun a ha b hb =>
        hcomm a (List.mem_cons_of_mem _ ha) b (List.mem_cons_of_mem _ hb)
      rw [List.foldl_cons, ih hcommRest hrest, List.foldl_append,
        List.foldl_append, List.foldl_cons, ← foldl_move_front hmove]

end Commuting

/-! ## Groups -/

/-- `groups[key].push_back(step)`. -/
def pushGroup (key : α → κ) (groups : KeyedMap κ (List α)) (step : α) :
    KeyedMap κ (List α) :=
  groups.insert (key step) ((groups.lookup (key step)).getD [] ++ [step])

def groupSteps (key : α → κ) (steps : List α) : KeyedMap κ (List α) :=
  steps.foldl (pushGroup key) ∅

theorem lookup_pushGroup (key : α → κ) (groups : KeyedMap κ (List α)) (step : α)
    (k : κ) :
    ((pushGroup key groups step).lookup k).getD [] =
      (groups.lookup k).getD [] ++ stepsOf key k [step] := by
  unfold pushGroup
  rw [KeyedMap.lookup_insert_eq]
  by_cases heq : k = key step
  · subst heq
    simp [stepsOf]
  · have hne : ¬key step = k := fun h => heq h.symm
    simp [stepsOf, heq, hne]

/-- By induction on the steps: a group holds the steps of its key so far. -/
theorem lookup_foldl_pushGroup (key : α → κ) (steps : List α)
    (groups : KeyedMap κ (List α)) (k : κ) :
    ((steps.foldl (pushGroup key) groups).lookup k).getD [] =
      (groups.lookup k).getD [] ++ stepsOf key k steps := by
  induction steps generalizing groups with
  | nil => simp [stepsOf]
  | cons step steps ih =>
      rw [List.foldl_cons, ih, lookup_pushGroup, List.append_assoc,
        ← stepsOf_append, List.singleton_append]

theorem getD_lookup_groupSteps (key : α → κ) (steps : List α) (k : κ) :
    ((groupSteps key steps).lookup k).getD [] = stepsOf key k steps := by
  have h := lookup_foldl_pushGroup key steps ∅ k
  simpa [groupSteps] using h

theorem lookup_groupSteps {key : α → κ} {steps : List α} {k : κ}
    {group : List α} (h : (groupSteps key steps).lookup k = some group) :
    group = stepsOf key k steps := by
  have hget := getD_lookup_groupSteps key steps k
  rwa [h, Option.getD_some] at hget

theorem lookup_groupSteps_ne_nil {key : α → κ} {steps : List α} {k : κ}
    {group : List α} (h : (groupSteps key steps).lookup k = some group) :
    group ≠ [] := by
  have hloop : ∀ (rest : List α) (groups : KeyedMap κ (List α)),
      (∀ j other, groups.lookup j = some other → other ≠ []) →
      ∀ j other, (rest.foldl (pushGroup key) groups).lookup j = some other →
        other ≠ [] := by
    intro rest
    induction rest with
    | nil => exact fun groups hgroups => hgroups
    | cons step rest ih =>
        intro groups hgroups
        refine ih (pushGroup key groups step) fun j other hlookup => ?_
        rw [pushGroup, KeyedMap.lookup_insert_eq] at hlookup
        split at hlookup
        next =>
          rw [← Option.some.inj hlookup]
          exact List.append_ne_nil_of_right_ne_nil _ (List.cons_ne_nil _ _)
        next => exact hgroups j other hlookup
  exact hloop steps ∅ (fun j other hlookup => by simp at hlookup) k group h

theorem stepsOf_flatMap {key : α → κ} {steps : List α}
    {order : List (Sigma fun _ : κ => List α)}
    (hnodup : (order.map Sigma.fst).Nodup)
    (hgroup : ∀ entry ∈ order, entry.2 = stepsOf key entry.1 steps) (k : κ) :
    stepsOf key k (order.flatMap Sigma.snd) =
      if k ∈ order.map Sigma.fst then stepsOf key k steps else [] := by
  induction order with
  | nil => rfl
  | cons entry order ih =>
      rw [List.map_cons, List.nodup_cons] at hnodup
      have hrest := ih hnodup.2 fun other hmem =>
        hgroup other (List.mem_cons_of_mem _ hmem)
      have hentry := hgroup entry List.mem_cons_self
      have hhead : stepsOf key k entry.2 =
          if entry.1 = k then entry.2 else [] :=
        stepsOf_eq_of_keys fun step hstep =>
          key_of_mem_stepsOf (hentry ▸ hstep)
      rw [List.flatMap_cons, stepsOf_append, hrest, hhead, List.map_cons]
      by_cases heq : entry.1 = k
      · subst heq
        rw [if_pos rfl, if_neg hnodup.1, if_pos List.mem_cons_self,
          List.append_nil]
        exact hentry
      · rw [if_neg heq, List.nil_append]
        have hiff : k ∈ entry.1 :: order.map Sigma.fst ↔
            k ∈ order.map Sigma.fst := by
          rw [List.mem_cons]
          exact or_iff_right fun h => heq h.symm
        simp only [hiff]

/-- In whatever order the groups come, their steps agree with the steps on each
key. -/
theorem stepsOf_groups {key : α → κ} {steps : List α}
    {order : List (Sigma fun _ : κ => List α)}
    (horder : order.Perm (groupSteps key steps).entries) (k : κ) :
    stepsOf key k (order.flatMap Sigma.snd) = stepsOf key k steps := by
  have hnodup : (order.map Sigma.fst).Nodup :=
    (horder.map Sigma.fst).nodup_iff.mpr (groupSteps key steps).nodupKeys
  have hgroup : ∀ entry ∈ order, entry.2 = stepsOf key entry.1 steps := by
    intro entry hmem
    exact lookup_groupSteps
      (KeyedMap.mem_entries_iff.mp (horder.mem_iff.mp hmem))
  rw [stepsOf_flatMap hnodup hgroup]
  split
  next => rfl
  next hnone =>
    have hlookup : (groupSteps key steps).lookup k = none := by
      cases hfound : (groupSteps key steps).lookup k with
      | none => rfl
      | some group =>
          have hmem := horder.mem_iff.mpr (KeyedMap.mem_entries_iff.mpr hfound)
          exact absurd (List.mem_map_of_mem (f := Sigma.fst) hmem) hnone
    have hget := getD_lookup_groupSteps key steps k
    rw [hlookup] at hget
    exact hget

end OpcuaStack
