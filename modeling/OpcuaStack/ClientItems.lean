import OpcuaStack.ClientSubscription
import OpcuaStack.GuardedRun

/-!
# The items of a client subscription

What every step keeps about the local ids which were given out, their records,
and the items which wait for their creation.
-/

namespace OpcuaStack

/-! ## Calls in flight -/

section Calls

variable {α : Type} {calls : List α} {index : ℕ} {call other changed : α}

theorem mem_set_of_ne (hother : other ∈ calls) (hcall : calls[index]? = some call)
    (hne : other ≠ call) : other ∈ calls.set index changed := by
  obtain ⟨place, hplace⟩ := List.mem_iff_getElem?.mp hother
  have hindex : index ≠ place := by
    rintro rfl
    exact hne (Option.some.inj (hplace.symm.trans hcall))
  exact List.mem_iff_getElem?.mpr
    ⟨place, by rw [List.getElem?_set_ne hindex, hplace]⟩

theorem mem_set_self (hcall : calls[index]? = some call) :
    changed ∈ calls.set index changed :=
  List.mem_set (List.getElem?_eq_some_iff.mp hcall).1 changed

theorem mem_eraseIdx_of_ne (hother : other ∈ calls)
    (hcall : calls[index]? = some call) (hne : other ≠ call) :
    other ∈ calls.eraseIdx index := by
  obtain ⟨place, hplace⟩ := List.mem_iff_getElem?.mp hother
  have hindex : place ≠ index := by
    rintro rfl
    exact hne (Option.some.inj (hplace.symm.trans hcall))
  exact List.mem_eraseIdx_iff_getElem?.mpr ⟨place, hindex, hplace⟩

theorem forall_mem_set {P : α → Prop} (h : ∀ call ∈ calls, P call)
    (hchanged : P changed) : ∀ call ∈ calls.set index changed, P call := by
  intro call hmem
  rcases List.mem_or_eq_of_mem_set hmem with hold | rfl
  · exact h call hold
  · exact hchanged

theorem forall_mem_eraseIdx {P : α → Prop} (h : ∀ call ∈ calls, P call) :
    ∀ call ∈ calls.eraseIdx index, P call :=
  fun call hmem => h call (List.mem_of_mem_eraseIdx hmem)

theorem forall_mem_append_singleton {P : α → Prop} (h : ∀ call ∈ calls, P call)
    (hchanged : P changed) : ∀ call ∈ calls ++ [changed], P call := by
  intro call hmem
  rcases List.mem_append.mp hmem with hold | hnew
  · exact h call hold
  · rw [List.mem_singleton.mp hnew]
    exact hchanged

end Calls

namespace ClientSubscription

variable {s t : ClientSubscription}

/-! ## Views of the state -/

def isClosed (s : ClientSubscription) (view : ViewId) : Bool :=
  (s.viewStates[view]?).any (·.closed)

/-- The items whose `CreateMonitoredItem` has not completed. -/
def waiting (s : ClientSubscription) : List PendingSubscription :=
  s.pendingSubscriptions ++ s.creates.map (·.item)

def Added (s : ClientSubscription) (localId : UInt32) (view : ViewId) : Prop :=
  ∃ item ∈ s.added, item.localId = localId ∧ item.view = view

/-! ## What a run relies on -/

/-- The next local id has not been given out before. -/
def NewLocalId (s : ClientSubscription) : ClientSubscriptionEvent → Prop
  | .addNext _ => s.nextLocalId ∉ s.added.map (·.localId)
  | _ => True

instance (s : ClientSubscription) :
    (event : ClientSubscriptionEvent) → Decidable (s.NewLocalId event)
  | .addNext _ => inferInstanceAs (Decidable (_ ∉ _))
  | .createView | .addItems _ _ | .creationFinished _
  | .flushPendingSubscriptions | .createStarts _ | .createFinished _ _
  | .removeItems _ _ | .removeNext _ | .closeView _ _ | .closeNext _
  | .deleteStarts _ | .deleteFinished _ _ | .publishResponse _
  | .readNext _ _ | .readerWakes _ => isTrue trivial

/-! ## Sound bookkeeping -/

structure Sound (s : ClientSubscription) : Prop where
  distinct : (s.added.map (·.localId)).Nodup
  recorded : ∀ localId record, s.itemsByLocalId.lookup localId = some record →
    s.Added localId record.view
  removed : ∀ item ∈ s.added, s.itemsByLocalId.lookup item.localId = none →
    ∃ removal ∈ s.removals, removal.localId = item.localId
  waits : ∀ item ∈ s.waiting, ∃ known ∈ s.added, known.localId = item.localId ∧
    known.view = item.view ∧ known.clientHandle = item.clientHandle
  once : (s.waiting.map (·.localId)).Nodup
  unset : ∀ item ∈ s.waiting, ∀ record,
    s.itemsByLocalId.lookup item.localId = some record → record.serverId = 0
  ownRemovals : ∀ removal ∈ s.removals,
    s.Added removal.localId removal.view ∧ removal.record.view = removal.view
  removing : ∀ call ∈ s.removeCalls, ∀ localId ∈ call.removing,
    s.Added localId call.view
  collected : ∀ call ∈ s.closeCalls, ∀ localIds ∈ call.localIds,
    ∀ localId ∈ localIds, s.Added localId call.view

theorem Sound.item_eq (h : s.Sound) {item other : AddedItem}
    (hitem : item ∈ s.added) (hother : other ∈ s.added)
    (hlocal : item.localId = other.localId) : item = other :=
  List.inj_on_of_nodup_map h.distinct hitem hother hlocal

theorem Sound.view_eq (h : s.Sound) {localId : UInt32} {view other : ViewId}
    (hview : s.Added localId view) (hother : s.Added localId other) :
    view = other := by
  obtain ⟨item, hitem, hlocal, rfl⟩ := hview
  obtain ⟨known, hknown, hsame, rfl⟩ := hother
  rw [h.item_eq hitem hknown (hlocal.trans hsame.symm)]

/-- What the bookkeeping depends on, the waiting items apart. -/
structure SameItems (s t : ClientSubscription) : Prop where
  added : t.added = s.added
  itemsByLocalId : t.itemsByLocalId = s.itemsByLocalId
  removals : t.removals = s.removals
  removeCalls : t.removeCalls = s.removeCalls
  closeCalls : t.closeCalls = s.closeCalls
  isClosed : ∀ view, t.isClosed view = s.isClosed view

theorem Sound.of_same (h : s.Sound) (hsame : s.SameItems t)
    (hwaiting : t.waiting.Subperm s.waiting) : t.Sound := by
  obtain ⟨hadded, hitems, hremovals, hremoveCalls, hcloseCalls, -⟩ := hsame
  have hAdded : ∀ localId view, s.Added localId view → t.Added localId view := by
    intro localId view
    unfold Added
    rw [hadded]
    exact id
  constructor
  case distinct => rw [hadded]; exact h.distinct
  case recorded =>
    intro localId record hlookup
    rw [hitems] at hlookup
    exact hAdded _ _ (h.recorded localId record hlookup)
  case removed => rw [hadded, hitems, hremovals]; exact h.removed
  case waits =>
    intro item hmem
    rw [hadded]
    exact h.waits item (List.Subperm.subset hwaiting hmem)
  case once =>
    obtain ⟨kept, hperm, hsub⟩ := hwaiting
    exact (hperm.map _).nodup_iff.mp ((hsub.map _).nodup h.once)
  case unset =>
    intro item hmem
    rw [hitems]
    exact h.unset item (List.Subperm.subset hwaiting hmem)
  case ownRemovals =>
    intro removal hremoval
    rw [hremovals] at hremoval
    obtain ⟨hadd, hview⟩ := h.ownRemovals removal hremoval
    exact ⟨hAdded _ _ hadd, hview⟩
  case removing =>
    intro call hcall localId hremoving
    rw [hremoveCalls] at hcall
    exact hAdded _ _ (h.removing call hcall localId hremoving)
  case collected =>
    intro call hcall localIds hids localId hmem
    rw [hcloseCalls] at hcall
    exact hAdded _ _ (h.collected call hcall localIds hids localId hmem)

theorem SameItems.refl (s : ClientSubscription) : s.SameItems s :=
  ⟨rfl, rfl, rfl, rfl, rfl, fun _ => rfl⟩

theorem SameItems.trans {u : ClientSubscription} (h : s.SameItems t)
    (hnext : t.SameItems u) : s.SameItems u where
  added := hnext.added.trans h.added
  itemsByLocalId := hnext.itemsByLocalId.trans h.itemsByLocalId
  removals := hnext.removals.trans h.removals
  removeCalls := hnext.removeCalls.trans h.removeCalls
  closeCalls := hnext.closeCalls.trans h.closeCalls
  isClosed := fun view => (hnext.isClosed view).trans (h.isClosed view)

/-! ## Steps which leave the items alone -/

theorem sameItems_createView (s : ClientSubscription) :
    s.SameItems s.createView := by
  refine ⟨rfl, rfl, rfl, rfl, rfl, fun view => ?_⟩
  unfold isClosed createView
  dsimp only
  rw [List.getElem?_append]
  split
  case isTrue => rfl
  case isFalse hview =>
    rw [List.getElem?_eq_none (not_lt.mp hview)]
    cases view - s.viewStates.length <;> rfl

theorem isClosed_modify {view : ViewId} {change : ViewState → ViewState}
    (hchange : ∀ state, (change state).closed = state.closed)
    (ht : t.viewStates = s.viewStates.modify view change) (other : ViewId) :
    t.isClosed other = s.isClosed other := by
  unfold isClosed
  rw [ht, List.getElem?_modify]
  cases s.viewStates[other]? with
  | none => rfl
  | some state =>
      by_cases hview : view = other
      · simp [hview, hchange]
      · simp [hview]

theorem sameItems_pushNotification (s : ClientSubscription) (view : ViewId)
    (notification : ItemNotification) :
    s.SameItems (s.pushNotification view notification) := by
  refine ⟨rfl, rfl, rfl, rfl, rfl, isClosed_modify ?_ rfl⟩
  intro state
  split <;> rfl

theorem sameItems_pushNotifications (s : ClientSubscription)
    (notifications : List (ViewId × ItemNotification)) :
    s.SameItems (s.pushNotifications notifications) := by
  induction notifications generalizing s with
  | nil => exact SameItems.refl s
  | cons notification rest ih =>
      exact (sameItems_pushNotification s _ _).trans (ih _)

theorem waiting_pushNotifications (s : ClientSubscription)
    (notifications : List (ViewId × ItemNotification)) :
    (s.pushNotifications notifications).waiting = s.waiting := by
  induction notifications generalizing s with
  | nil => rfl
  | cons notification rest ih => exact ih _

theorem sameItems_readNext (s : ClientSubscription) (call : ReadCall) :
    s.SameItems (s.readNext call) := by
  unfold readNext
  split
  · exact SameItems.refl s
  split
  · exact SameItems.refl s
  split
  · refine ⟨rfl, rfl, rfl, rfl, rfl, isClosed_modify ?_ rfl⟩
    exact fun _ => rfl
  · exact ⟨rfl, rfl, rfl, rfl, rfl, fun _ => rfl⟩

theorem waiting_readNext (s : ClientSubscription) (call : ReadCall) :
    (s.readNext call).waiting = s.waiting := by
  unfold readNext
  split
  · rfl
  split
  · rfl
  split <;> rfl

theorem publishResponse_cases (s : ClientSubscription)
    (response : PublishResponse) :
    (s.impl = none ∧ s.publishResponse response = s) ∨
      ∃ handlers, s.impl = some handlers ∧
        s.publishResponse response =
          { s with
            impl := some (handlers.handlePublishResponse response).1
            }.pushNotifications (handlers.handlePublishResponse response).2 := by
  unfold publishResponse
  cases s.impl with
  | none => exact Or.inl ⟨rfl, rfl⟩
  | some handlers => exact Or.inr ⟨handlers, rfl, rfl⟩

theorem sameItems_publishResponse (s : ClientSubscription)
    (response : PublishResponse) : s.SameItems (s.publishResponse response) := by
  obtain ⟨-, heq⟩ | ⟨handlers, -, heq⟩ := s.publishResponse_cases response
  · rw [heq]
    exact SameItems.refl s
  · rw [heq]
    refine SameItems.trans ?_ (sameItems_pushNotifications _ _)
    exact ⟨rfl, rfl, rfl, rfl, rfl, fun _ => rfl⟩

theorem waiting_publishResponse (s : ClientSubscription)
    (response : PublishResponse) :
    (s.publishResponse response).waiting = s.waiting := by
  obtain ⟨-, heq⟩ | ⟨handlers, -, heq⟩ := s.publishResponse_cases response
  · rw [heq]
  · rw [heq]
    exact waiting_pushNotifications { s with impl := _ } _

theorem sameItems_ensureCreated (s : ClientSubscription) :
    s.SameItems s.ensureCreated := by
  unfold ensureCreated
  split
  · exact SameItems.refl s
  · exact ⟨rfl, rfl, rfl, rfl, rfl, fun _ => rfl⟩

theorem waiting_ensureCreated (s : ClientSubscription) :
    s.ensureCreated.waiting = s.waiting := by
  unfold ensureCreated
  split <;> rfl

/-! ## Items are added -/

theorem added_append_singleton {item : AddedItem}
    (ht : t.added = s.added ++ [item]) {localId : UInt32} {view : ViewId}
    (h : s.Added localId view) : t.Added localId view := by
  obtain ⟨known, hknown, hids⟩ := h
  refine ⟨known, ?_, hids⟩
  rw [ht]
  exact List.mem_append_left _ hknown

theorem waiting_addItem (s : ClientSubscription) (view : ViewId)
    (request : MonitoredItemCreateRequest) :
    (s.addItem view request).waiting.Perm
      (s.newItem view request :: s.waiting) := by
  unfold addItem waiting
  dsimp only
  cases s.isCreating || s.impl.isNone with
  | true =>
      simp only [if_true, List.append_assoc, List.singleton_append]
      exact List.perm_middle
  | false =>
      simp only [Bool.false_eq_true, if_false, List.map_append, List.map_cons,
        List.map_nil, ← List.append_assoc]
      exact List.perm_append_singleton _ _

theorem Sound.lookup_nextLocalId (h : s.Sound)
    (hnew : s.nextLocalId ∉ s.added.map (·.localId)) :
    s.itemsByLocalId.lookup s.nextLocalId = none := by
  rw [Option.eq_none_iff_forall_ne_some]
  intro record hlookup
  obtain ⟨item, hitem, hlocal, -⟩ := h.recorded _ record hlookup
  exact hnew (List.mem_map.mpr ⟨item, hitem, hlocal⟩)

theorem Sound.lookup_addItem (h : s.Sound)
    (hnew : s.nextLocalId ∉ s.added.map (·.localId)) (view : ViewId)
    (request : MonitoredItemCreateRequest) (localId : UInt32) :
    (s.addItem view request).itemsByLocalId.lookup localId =
      if localId = s.nextLocalId then some { view }
      else s.itemsByLocalId.lookup localId := by
  change (KeyedMap.emplace s.itemsByLocalId s.nextLocalId { view }).lookup localId
    = _
  rw [KeyedMap.emplace_of_none (h.lookup_nextLocalId hnew),
    KeyedMap.lookup_insert_eq]

theorem Sound.addItem (h : s.Sound)
    (hnew : s.nextLocalId ∉ s.added.map (·.localId)) (view : ViewId)
    (request : MonitoredItemCreateRequest) : (s.addItem view request).Sound := by
  have hkeep : ∀ {localId : UInt32} {other : ViewId}, s.Added localId other →
      (s.addItem view request).Added localId other := added_append_singleton rfl
  have hlookup := h.lookup_addItem hnew view request
  have hwaiting := waiting_addItem s view request
  have hnotNew : ∀ item ∈ s.added, item.localId ≠ s.nextLocalId := by
    intro item hitem hlocal
    exact hnew (List.mem_map.mpr ⟨item, hitem, hlocal⟩)
  have hwaitsOld : ∀ item ∈ s.waiting, item.localId ≠ s.nextLocalId := by
    intro item hitem hlocal
    obtain ⟨known, hknown, hids, -⟩ := h.waits item hitem
    exact hnotNew known hknown (hids.trans hlocal)
  constructor
  case distinct =>
    unfold ClientSubscription.addItem
    dsimp only
    rw [List.map_append, List.map_singleton, ← List.concat_eq_append,
      List.nodup_concat]
    exact ⟨hnew, h.distinct⟩
  case recorded =>
    intro localId record hrecord
    rw [hlookup] at hrecord
    split at hrecord
    · next hlocal =>
      obtain rfl := Option.some.inj hrecord
      exact ⟨_, List.mem_append_right _ List.mem_cons_self, hlocal.symm, rfl⟩
    · exact hkeep (h.recorded localId record hrecord)
  case removed =>
    intro item hitem hnone
    rw [hlookup] at hnone
    split at hnone
    · exact absurd hnone (by simp)
    · next hlocal =>
      rcases List.mem_append.mp hitem with hold | hlast
      · exact h.removed item hold hnone
      · exact absurd (congrArg AddedItem.localId (List.mem_singleton.mp hlast))
          hlocal
  case waits =>
    intro item hitem
    rcases List.mem_cons.mp (hwaiting.subset hitem) with rfl | hold
    · exact ⟨_, List.mem_append_right _ List.mem_cons_self, rfl, rfl, rfl⟩
    · obtain ⟨known, hknown, hids⟩ := h.waits item hold
      exact ⟨known, List.mem_append_left _ hknown, hids⟩
  case once =>
    rw [(hwaiting.map _).nodup_iff, List.map_cons, List.nodup_cons]
    refine ⟨?_, h.once⟩
    intro hmem
    obtain ⟨item, hitem, hlocal⟩ := List.mem_map.mp hmem
    exact hwaitsOld item hitem hlocal
  case unset =>
    intro item hitem record hrecord
    rw [hlookup] at hrecord
    rcases List.mem_cons.mp (hwaiting.subset hitem) with rfl | hold
    · rw [show (s.newItem view request).localId = s.nextLocalId from rfl,
        if_pos rfl] at hrecord
      rw [← Option.some.inj hrecord]
    · rw [if_neg (hwaitsOld item hold)] at hrecord
      exact h.unset item hold record hrecord
  case ownRemovals =>
    intro removal hremoval
    obtain ⟨hadd, hview⟩ := h.ownRemovals removal hremoval
    exact ⟨hkeep hadd, hview⟩
  case removing =>
    intro call hcall localId hremoving
    exact hkeep (h.removing call hcall localId hremoving)
  case collected =>
    intro call hcall localIds hids localId hmem
    exact hkeep (h.collected call hcall localIds hids localId hmem)

/-! ## Items are removed -/

theorem removeItem_of_none {localId : UInt32}
    (hlookup : s.itemsByLocalId.lookup localId = none) (view : ViewId) :
    s.removeItem view localId =
      { s with
        pendingSubscriptions :=
          s.pendingSubscriptions.filter (·.localId ≠ localId) } := by
  unfold removeItem
  simp only [hlookup]

theorem removeItem_of_some {localId : UInt32} {record : ItemRecord}
    (hlookup : s.itemsByLocalId.lookup localId = some record) (view : ViewId) :
    s.removeItem view localId =
      { s with
        pendingSubscriptions :=
          s.pendingSubscriptions.filter (·.localId ≠ localId)
        itemsByLocalId := s.itemsByLocalId.erase localId
        removals := s.removals ++ [{ view, localId, record }]
        deletes :=
          if record.serverId = 0 then s.deletes
          else s.deletes ++ [{ serverId := record.serverId }] } := by
  unfold removeItem
  simp only [hlookup]

theorem lookup_removeItem (s : ClientSubscription) (view : ViewId)
    (localId other : UInt32) :
    (s.removeItem view localId).itemsByLocalId.lookup other =
      if other = localId then none else s.itemsByLocalId.lookup other := by
  cases hlookup : s.itemsByLocalId.lookup localId with
  | none =>
      rw [removeItem_of_none hlookup]
      split
      · next heq => exact heq ▸ hlookup
      · rfl
  | some record =>
      rw [removeItem_of_some hlookup]
      exact KeyedMap.lookup_erase_eq _ _ _

theorem waiting_removeItem_sublist (s : ClientSubscription) (view : ViewId)
    (localId : UInt32) :
    ((s.removeItem view localId).waiting).Sublist s.waiting := by
  cases hlookup : s.itemsByLocalId.lookup localId with
  | none =>
      rw [removeItem_of_none hlookup]
      exact List.filter_sublist.append_right _
  | some record =>
      rw [removeItem_of_some hlookup]
      exact List.filter_sublist.append_right _

theorem removeItem_frame (s : ClientSubscription) (view : ViewId)
    (localId : UInt32) :
    (s.removeItem view localId).added = s.added ∧
      (s.removeItem view localId).viewStates = s.viewStates ∧
      (s.removeItem view localId).removeCalls = s.removeCalls ∧
      (s.removeItem view localId).closeCalls = s.closeCalls ∧
      (s.removeItem view localId).creates = s.creates := by
  cases hlookup : s.itemsByLocalId.lookup localId with
  | none =>
      rw [removeItem_of_none hlookup]
      exact ⟨rfl, rfl, rfl, rfl, rfl⟩
  | some record =>
      rw [removeItem_of_some hlookup]
      exact ⟨rfl, rfl, rfl, rfl, rfl⟩

theorem mem_removals_removeItem {view : ViewId} {localId : UInt32}
    {removal : Removal} (hmem : removal ∈ (s.removeItem view localId).removals) :
    removal ∈ s.removals ∨
      ∃ record, s.itemsByLocalId.lookup localId = some record ∧
        removal = { view, localId, record } := by
  cases hlookup : s.itemsByLocalId.lookup localId with
  | none =>
      rw [removeItem_of_none hlookup] at hmem
      exact Or.inl hmem
  | some record =>
      rw [removeItem_of_some hlookup] at hmem
      rcases List.mem_append.mp hmem with hold | hnew
      · exact Or.inl hold
      · exact Or.inr ⟨record, rfl, List.mem_singleton.mp hnew⟩

theorem removals_subset_removeItem (s : ClientSubscription) (view : ViewId)
    (localId : UInt32) : s.removals ⊆ (s.removeItem view localId).removals := by
  cases hlookup : s.itemsByLocalId.lookup localId with
  | none =>
      rw [removeItem_of_none hlookup]
      exact List.Subset.refl _
  | some record =>
      rw [removeItem_of_some hlookup]
      exact List.subset_append_left _ _

theorem Sound.removeItem (h : s.Sound) {view : ViewId} {localId : UInt32}
    (hadded : s.Added localId view) : (s.removeItem view localId).Sound := by
  obtain ⟨haddedEq, -, hremoveCalls, hcloseCalls, -⟩ :=
    s.removeItem_frame view localId
  have hlookup := s.lookup_removeItem view localId
  have hwaiting := s.waiting_removeItem_sublist view localId
  have hkeep : ∀ other view', s.Added other view' →
      (s.removeItem view localId).Added other view' := by
    intro other view' hother
    unfold Added
    rw [haddedEq]
    exact hother
  have hold : ∀ {other : UInt32} {record : ItemRecord},
      (s.removeItem view localId).itemsByLocalId.lookup other = some record →
        s.itemsByLocalId.lookup other = some record := by
    intro other record hrecord
    rw [hlookup] at hrecord
    split at hrecord
    · exact absurd hrecord (by simp)
    · exact hrecord
  constructor
  case distinct => rw [haddedEq]; exact h.distinct
  case recorded =>
    exact fun other record hrecord =>
      hkeep _ _ (h.recorded other record (hold hrecord))
  case removed =>
    intro item hitem hnone
    rw [haddedEq] at hitem
    cases hrecord : s.itemsByLocalId.lookup item.localId with
    | none =>
        obtain ⟨removal, hremoval, hlocal⟩ := h.removed item hitem hrecord
        exact ⟨removal, s.removals_subset_removeItem view localId hremoval, hlocal⟩
    | some record =>
        rw [hlookup] at hnone
        split at hnone
        · next hlocal =>
          rw [removeItem_of_some (hlocal ▸ hrecord)]
          exact ⟨_, List.mem_append_right _ List.mem_cons_self, hlocal.symm⟩
        · exact absurd (hrecord.symm.trans hnone) (by simp)
  case waits =>
    intro item hitem
    rw [haddedEq]
    exact h.waits item (hwaiting.subset hitem)
  case once => exact (hwaiting.map _).nodup h.once
  case unset =>
    exact fun item hitem record hrecord =>
      h.unset item (hwaiting.subset hitem) record (hold hrecord)
  case ownRemovals =>
    intro removal hremoval
    rcases mem_removals_removeItem hremoval with hmem | ⟨record, hrecord, rfl⟩
    · obtain ⟨hadd, hview⟩ := h.ownRemovals removal hmem
      exact ⟨hkeep _ _ hadd, hview⟩
    · exact ⟨hkeep _ _ hadded,
        h.view_eq (h.recorded localId record hrecord) hadded⟩
  case removing =>
    intro call hcall other hremoving
    rw [hremoveCalls] at hcall
    exact hkeep _ _ (h.removing call hcall other hremoving)
  case collected =>
    intro call hcall localIds hids other hmem
    rw [hcloseCalls] at hcall
    exact hkeep _ _ (h.collected call hcall localIds hids other hmem)

theorem removeItem_removeCalls (s : ClientSubscription) (view : ViewId)
    (localId : UInt32) (removeCalls : List RemoveCall) :
    { s with removeCalls }.removeItem view localId =
      { s.removeItem view localId with removeCalls } := by
  unfold ClientSubscription.removeItem
  dsimp only
  cases s.itemsByLocalId.lookup localId <;> rfl

theorem removeItem_closeCalls (s : ClientSubscription) (view : ViewId)
    (localId : UInt32) (closeCalls : List CloseCall) :
    { s with closeCalls }.removeItem view localId =
      { s.removeItem view localId with closeCalls } := by
  unfold ClientSubscription.removeItem
  dsimp only
  cases s.itemsByLocalId.lookup localId <;> rfl

theorem Sound.withRemoveCalls (h : s.Sound) {removeCalls : List RemoveCall}
    (hcalls : ∀ call ∈ removeCalls, ∀ localId ∈ call.removing,
      s.Added localId call.view) :
    { s with removeCalls }.Sound :=
  { distinct := h.distinct
    recorded := h.recorded
    removed := h.removed
    waits := h.waits
    once := h.once
    unset := h.unset
    ownRemovals := h.ownRemovals
    removing := hcalls
    collected := h.collected }

theorem Sound.withCloseCalls (h : s.Sound) {closeCalls : List CloseCall}
    (hcalls : ∀ call ∈ closeCalls, ∀ localIds ∈ call.localIds,
      ∀ localId ∈ localIds, s.Added localId call.view) :
    { s with closeCalls }.Sound :=
  { distinct := h.distinct
    recorded := h.recorded
    removed := h.removed
    waits := h.waits
    once := h.once
    unset := h.unset
    ownRemovals := h.ownRemovals
    removing := h.removing
    collected := hcalls }

theorem Sound.removeItems (h : s.Sound) (view : ViewId)
    (itemIds : List MonitoredItemId) : (s.removeItems view itemIds).Sound := by
  refine h.withRemoveCalls (forall_mem_append_singleton h.removing ?_)
  intro localId hnone
  exact absurd hnone (by simp)

theorem Sound.removeNext (h : s.Sound) (index : ℕ) :
    (s.removeNext index).Sound := by
  unfold ClientSubscription.removeNext
  cases hcall : s.removeCalls[index]? with
  | none => exact h
  | some call =>
      have hmem := List.mem_of_getElem? hcall
      obtain ⟨view, itemIds, removing, results⟩ := call
      cases removing with
      | some localId =>
          have hadded := h.removing _ hmem localId rfl
          dsimp only
          rw [removeItem_removeCalls]
          refine (h.removeItem hadded).withRemoveCalls ?_
          apply forall_mem_set
          · have hcalls := (h.removeItem hadded).removing
            rw [(s.removeItem_frame view localId).2.2.1] at hcalls
            exact hcalls
          · intro other hnone
            exact absurd hnone (by simp)
      | none =>
          cases itemIds with
          | nil => exact h.withRemoveCalls (forall_mem_eraseIdx h.removing)
          | cons localId rest =>
              dsimp only
              split
              · next hview =>
                obtain ⟨record, hrecord, rfl⟩ := Option.map_eq_some_iff.mp hview
                refine h.withRemoveCalls (forall_mem_set h.removing ?_)
                intro other hother
                obtain rfl := Option.some.inj hother
                exact h.recorded localId record hrecord
              · refine h.withRemoveCalls (forall_mem_set h.removing ?_)
                intro other hnone
                exact absurd hnone (by simp)

/-! ## Views are closed -/

theorem closeView_cases (s : ClientSubscription) (view : ViewId)
    (status : Status) :
    s.closeView view status = s ∨
      ∃ state, s.viewStates[view]? = some state ∧ state.closed = false ∧
        s.closeView view status =
          { s with
            viewStates := s.viewStates.set view
              { state with
                closed := true
                closeStatus := status
                pendingNotifications := [] }
            closeCalls := s.closeCalls ++ [{ view }] } := by
  unfold closeView
  cases s.viewStates[view]? with
  | none => exact Or.inl rfl
  | some state =>
      cases hclosed : state.closed with
      | true => exact Or.inl (by simp [hclosed])
      | false => exact Or.inr ⟨state, rfl, hclosed, by simp [hclosed]⟩

theorem Sound.closeView (h : s.Sound) (view : ViewId) (status : Status) :
    (s.closeView view status).Sound := by
  obtain heq | ⟨state, hstate, -, heq⟩ := s.closeView_cases view status
  · rw [heq]
    exact h
  rw [heq]
  have hcollected : ∀ call ∈ s.closeCalls ++ [({ view := view } : CloseCall)],
      ∀ localIds ∈ call.localIds, ∀ localId ∈ localIds,
        s.Added localId call.view := by
    refine forall_mem_append_singleton h.collected ?_
    intro localIds hnone
    exact absurd hnone (by simp)
  exact { distinct := h.distinct, recorded := h.recorded, removed := h.removed,
          waits := h.waits, once := h.once, unset := h.unset,
          ownRemovals := h.ownRemovals, removing := h.removing,
          collected := hcollected }

theorem mem_collected (s : ClientSubscription) {view : ViewId}
    {localId : UInt32} :
    localId ∈ s.itemsByLocalId.keysWhere (fun _ record => record.view == view) ↔
      ∃ record, s.itemsByLocalId.lookup localId = some record ∧
        record.view = view := by
  simp only [KeyedMap.mem_keysWhere, beq_iff_eq]

theorem Sound.closeNext (h : s.Sound) (index : ℕ) :
    (s.closeNext index).Sound := by
  unfold ClientSubscription.closeNext
  cases hcall : s.closeCalls[index]? with
  | none => exact h
  | some call =>
      have hmem := List.mem_of_getElem? hcall
      obtain ⟨view, localIds⟩ := call
      match localIds with
      | none =>
          refine { distinct := h.distinct, recorded := h.recorded,
                   removed := h.removed, waits := h.waits, once := h.once,
                   unset := h.unset, ownRemovals := h.ownRemovals,
                   removing := h.removing,
                   collected := forall_mem_set h.collected ?_ }
          intro localIds hlocalIds localId hlocal
          obtain rfl := Option.some.inj hlocalIds
          obtain ⟨record, hrecord, rfl⟩ := s.mem_collected.mp hlocal
          exact h.recorded localId record hrecord
      | some [] => exact h.withCloseCalls (forall_mem_eraseIdx h.collected)
      | some (localId :: rest) =>
          dsimp only
          rw [removeItem_closeCalls]
          have hremoved := h.removeItem
            (h.collected _ hmem _ rfl localId List.mem_cons_self)
          have hcollected := hremoved.collected
          rw [(s.removeItem_frame view localId).2.2.2.1] at hcollected
          refine hremoved.withCloseCalls (forall_mem_set hcollected ?_)
          intro localIds hlocalIds other hother
          obtain rfl := Option.some.inj hlocalIds
          exact hcollected _ hmem _ rfl other (List.mem_cons_of_mem _ hother)

/-! ## Items are created -/

theorem Sound.addItems (h : s.Sound) (view : ViewId)
    (requests : List MonitoredItemCreateRequest) :
    (s.addItems view requests).Sound := by
  unfold ClientSubscription.addItems
  split
  · refine h.of_same ?_ ?_
    · refine SameItems.trans ?_ (sameItems_ensureCreated _)
      exact ⟨rfl, rfl, rfl, rfl, rfl, fun _ => rfl⟩
    · rw [waiting_ensureCreated]
      exact List.Subperm.refl _
  · exact h

theorem Sound.withAddCalls (h : s.Sound) (addCalls : List AddCall) :
    { s with addCalls }.Sound :=
  h.of_same ⟨rfl, rfl, rfl, rfl, rfl, fun _ => rfl⟩ (List.Subperm.refl _)

theorem Sound.addNext (h : s.Sound) {index : ℕ}
    (hnew : s.NewLocalId (.addNext index)) : (s.addNext index).Sound := by
  unfold ClientSubscription.addNext
  cases hcall : s.addCalls[index]? with
  | none => exact h
  | some call =>
      obtain ⟨view, requests, results⟩ := call
      cases requests with
      | nil => exact h.withAddCalls _
      | cons request rest =>
          have hcalls := h.withAddCalls (s.addCalls.set index
            { view, requests := rest,
              results := results ++ [s.addResult request] })
          exact hcalls.addItem hnew view request

theorem sameItems_creationFinished (s : ClientSubscription) (status : Status) :
    s.SameItems (s.creationFinished status) := by
  unfold creationFinished
  split
  · split <;> exact ⟨rfl, rfl, rfl, rfl, rfl, fun _ => rfl⟩
  · exact SameItems.refl s

theorem waiting_creationFinished (s : ClientSubscription) (status : Status) :
    ((s.creationFinished status).waiting).Sublist s.waiting := by
  unfold creationFinished
  split
  · split
    · exact (List.nil_sublist _).append_right _
    · exact List.Sublist.refl _
  · exact List.Sublist.refl _

theorem sameItems_flushPendingSubscriptions (s : ClientSubscription) :
    s.SameItems s.flushPendingSubscriptions := by
  unfold flushPendingSubscriptions
  split
  · exact ⟨rfl, rfl, rfl, rfl, rfl, fun _ => rfl⟩
  · exact SameItems.refl s

theorem waiting_flushPendingSubscriptions (s : ClientSubscription) :
    s.flushPendingSubscriptions.waiting.Perm s.waiting := by
  unfold flushPendingSubscriptions
  split
  · unfold waiting
    have hitems : (s.pendingSubscriptions.map fun item =>
        ({ item } : ItemCreate)).map (·.item) = s.pendingSubscriptions := by
      rw [List.map_map]
      exact List.map_id _
    rw [List.nil_append, List.map_append, hitems]
    exact List.perm_append_comm
  · exact List.Perm.refl _

theorem waiting_eraseIdx {index : ℕ} {create : ItemCreate}
    (hcreate : s.creates[index]? = some create) :
    s.waiting.Perm
      (create.item ::
        { s with creates := s.creates.eraseIdx index }.waiting) := by
  obtain ⟨hindex, rfl⟩ := List.getElem?_eq_some_iff.mp hcreate
  have hperm := (List.getElem_cons_eraseIdx_perm hindex).map ItemCreate.item
  exact ((hperm.symm).append_left s.pendingSubscriptions).trans List.perm_middle

theorem waiting_set {index : ℕ} {create : ItemCreate}
    (hcreate : s.creates[index]? = some create) (requested : Option UInt32) :
    { s with
      creates := s.creates.set index { create with requested } }.waiting =
        s.waiting := by
  have hitem : (s.creates.map (·.item))[index]? = some create.item := by
    rw [List.getElem?_map, hcreate]
    rfl
  obtain ⟨hindex, hget⟩ := List.getElem?_eq_some_iff.mp hitem
  unfold waiting
  dsimp only
  rw [List.map_set, ← hget, List.set_getElem_self]

theorem Sound.withImpl (h : s.Sound) (impl : Option MonitoredItemHandlers) :
    { s with impl }.Sound :=
  h.of_same ⟨rfl, rfl, rfl, rfl, rfl, fun _ => rfl⟩ (List.Subperm.refl _)

theorem Sound.dropCreate (h : s.Sound) {index : ℕ} {create : ItemCreate}
    (hcreate : s.creates[index]? = some create) :
    { s with creates := s.creates.eraseIdx index }.Sound := by
  refine h.of_same ⟨rfl, rfl, rfl, rfl, rfl, fun _ => rfl⟩ ?_
  exact (List.sublist_cons_self _ _).subperm.trans
    (waiting_eraseIdx hcreate).symm.subperm

theorem Sound.pushNotification (h : s.Sound) (view : ViewId)
    (notification : ItemNotification) :
    (s.pushNotification view notification).Sound :=
  h.of_same (s.sameItems_pushNotification view notification)
    (List.Subperm.refl _)

theorem Sound.createStarts (h : s.Sound) (index : ℕ) :
    (s.createStarts index).Sound := by
  unfold ClientSubscription.createStarts
  split
  · next item hcreate =>
    split
    · exact h.dropCreate hcreate
    split
    · refine h.of_same ⟨rfl, rfl, rfl, rfl, rfl, fun _ => rfl⟩ ?_
      exact (List.Perm.of_eq (waiting_set hcreate _)).subperm
    · exact (h.dropCreate hcreate).pushNotification _ _
  · exact h

theorem itemCreated_of_none {localId : UInt32}
    (hlookup : s.itemsByLocalId.lookup localId = none)
    (serverId : MonitoredItemId) :
    s.itemCreated localId serverId =
      { s with
        createdItems := s.createdItems ++ [serverId]
        deletes :=
          if s.issuesDeletes then s.deletes ++ [{ serverId, issued := true }]
          else s.deletes
        deletedItems :=
          if s.issuesDeletes then s.deletedItems ++ [serverId]
          else s.deletedItems } := by
  unfold itemCreated
  simp only [hlookup]
  have hsame : issuesDeletes
      { s with createdItems := s.createdItems ++ [serverId] } =
        s.issuesDeletes := rfl
  rw [hsame]
  cases s.issuesDeletes <;> rfl

theorem itemCreated_of_some {localId : UInt32} {record : ItemRecord}
    (hlookup : s.itemsByLocalId.lookup localId = some record)
    (serverId : MonitoredItemId) :
    s.itemCreated localId serverId =
      { s with
        createdItems := s.createdItems ++ [serverId]
        itemsByLocalId :=
          s.itemsByLocalId.insert localId { record with serverId } } := by
  unfold itemCreated
  simp only [hlookup]

theorem Sound.itemCreated (h : s.Sound) {localId : UInt32}
    (hcreated : localId ∉ s.waiting.map (·.localId))
    (serverId : MonitoredItemId) : (s.itemCreated localId serverId).Sound := by
  cases hrecord : s.itemsByLocalId.lookup localId with
  | none =>
      rw [itemCreated_of_none hrecord]
      exact h.of_same ⟨rfl, rfl, rfl, rfl, rfl, fun _ => rfl⟩
        (List.Subperm.refl _)
  | some record =>
      rw [itemCreated_of_some hrecord]
      have hold : ∀ other changed,
          (s.itemsByLocalId.insert localId
            { record with serverId }).lookup other = some changed →
          ∃ before, s.itemsByLocalId.lookup other = some before ∧
            changed.view = before.view ∧ (other ≠ localId → changed = before) := by
        intro other changed hlookup
        rw [KeyedMap.lookup_insert_eq] at hlookup
        split at hlookup
        · next heq =>
          obtain rfl := Option.some.inj hlookup
          exact ⟨record, heq ▸ hrecord, rfl, fun hne => absurd heq hne⟩
        · exact ⟨changed, hlookup, rfl, fun _ => rfl⟩
      refine { distinct := h.distinct, recorded := ?_, removed := ?_,
               waits := h.waits, once := h.once, unset := ?_,
               ownRemovals := h.ownRemovals, removing := h.removing,
               collected := h.collected }
      · intro other changed hlookup
        obtain ⟨before, hbefore, hview, -⟩ := hold other changed hlookup
        rw [hview]
        exact h.recorded other before hbefore
      · intro item hitem hlookup
        rw [KeyedMap.lookup_insert_eq] at hlookup
        split at hlookup
        · exact absurd hlookup (by simp)
        · exact h.removed item hitem hlookup
      · intro item hitem changed hlookup
        obtain ⟨before, hbefore, -, hsame⟩ := hold _ changed hlookup
        have hne : item.localId ≠ localId := fun heq =>
          hcreated (List.mem_map.mpr ⟨item, hitem, heq⟩)
        rw [hsame hne]
        exact h.unset item hitem before hbefore

/-- The coroutine at `index` resumes with the outcome of its request. -/
def createReturns (s : ClientSubscription) (index : ℕ) (clientHandle : UInt32)
    (result : StatusOr MonitoredItemId) : ClientSubscription :=
  { s with
    impl := s.impl.map fun handlers : MonitoredItemHandlers =>
      handlers.finishCreate clientHandle result
    creates := s.creates.eraseIdx index }

theorem createFinished_cases (s : ClientSubscription) (index : ℕ)
    (response : StatusOr CreateMonitoredItemsResponse) :
    s.createFinished index response = s ∨
      ∃ item clientHandle,
        s.creates[index]? = some { item, requested := some clientHandle } ∧
        ((∃ serverId, createdItem response = .ok serverId ∧
            s.createFinished index response =
              (s.createReturns index clientHandle (.ok serverId)).itemCreated
                item.localId serverId) ∨
          ∃ status hbad, createdItem response = .error status hbad ∧
            s.createFinished index response =
              (s.createReturns index clientHandle (.error status hbad)).refuse
                item status) := by
  unfold createFinished
  split
  · next item clientHandle hcreate =>
    refine Or.inr ⟨item, clientHandle, hcreate, ?_⟩
    cases createdItem response with
    | ok serverId => exact Or.inl ⟨serverId, rfl, rfl⟩
    | error status hbad => exact Or.inr ⟨status, hbad, rfl, rfl⟩
  · exact Or.inl rfl

theorem Sound.createReturns (h : s.Sound) {index : ℕ} {create : ItemCreate}
    (hcreate : s.creates[index]? = some create) (clientHandle : UInt32)
    (result : StatusOr MonitoredItemId) :
    (s.createReturns index clientHandle result).Sound :=
  (h.dropCreate hcreate).withImpl _

theorem Sound.not_waiting_createReturns (h : s.Sound) {index : ℕ}
    {create : ItemCreate} (hcreate : s.creates[index]? = some create)
    (clientHandle : UInt32) (result : StatusOr MonitoredItemId) :
    create.item.localId ∉
      (s.createReturns index clientHandle result).waiting.map (·.localId) := by
  have honce := ((waiting_eraseIdx hcreate).map (·.localId)).nodup_iff.mp h.once
  exact (List.nodup_cons.mp honce).1

theorem Sound.createFinished (h : s.Sound) (index : ℕ)
    (response : StatusOr CreateMonitoredItemsResponse) :
    (s.createFinished index response).Sound := by
  obtain heq | ⟨item, clientHandle, hcreate, ⟨serverId, -, heq⟩ |
    ⟨status, hbad, -, heq⟩⟩ := s.createFinished_cases index response
  · rw [heq]
    exact h
  · rw [heq]
    exact (h.createReturns hcreate clientHandle _).itemCreated
      (h.not_waiting_createReturns hcreate clientHandle _) serverId
  · rw [heq]
    exact (h.createReturns hcreate clientHandle _).pushNotification _ _

/-! ## Items are deleted -/

theorem sameItems_deleteStarts (s : ClientSubscription) (index : ℕ) :
    s.SameItems (s.deleteStarts index) := by
  unfold deleteStarts
  split
  · split <;> exact ⟨rfl, rfl, rfl, rfl, rfl, fun _ => rfl⟩
  · exact SameItems.refl s

theorem waiting_deleteStarts (s : ClientSubscription) (index : ℕ) :
    (s.deleteStarts index).waiting = s.waiting := by
  unfold deleteStarts
  split
  · split <;> rfl
  · rfl

theorem sameItems_deleteFinished (s : ClientSubscription) (index : ℕ)
    (answered : Bool) : s.SameItems (s.deleteFinished index answered) := by
  unfold deleteFinished
  split
  · exact ⟨rfl, rfl, rfl, rfl, rfl, fun _ => rfl⟩
  · exact SameItems.refl s

theorem waiting_deleteFinished (s : ClientSubscription) (index : ℕ)
    (answered : Bool) :
    (s.deleteFinished index answered).waiting = s.waiting := by
  unfold deleteFinished
  split <;> rfl

/-! ## Runs -/

theorem Sound.step (h : s.Sound) {event : ClientSubscriptionEvent}
    (hnew : s.NewLocalId event) : (s.step event).Sound := by
  cases event with
  | createView =>
      exact h.of_same s.sameItems_createView (List.Subperm.refl _)
  | addItems view requests => exact h.addItems view requests
  | addNext index => exact h.addNext hnew
  | creationFinished status =>
      exact h.of_same (s.sameItems_creationFinished status)
        (s.waiting_creationFinished status).subperm
  | flushPendingSubscriptions =>
      exact h.of_same s.sameItems_flushPendingSubscriptions
        s.waiting_flushPendingSubscriptions.subperm
  | createStarts index => exact h.createStarts index
  | createFinished index response => exact h.createFinished index response
  | removeItems view itemIds => exact h.removeItems view itemIds
  | removeNext index => exact h.removeNext index
  | closeView view status => exact h.closeView view status
  | closeNext index => exact h.closeNext index
  | deleteStarts index =>
      exact h.of_same (s.sameItems_deleteStarts index)
        (List.Perm.of_eq (s.waiting_deleteStarts index)).subperm
  | deleteFinished index answered =>
      exact h.of_same (s.sameItems_deleteFinished index answered)
        (List.Perm.of_eq (s.waiting_deleteFinished index answered)).subperm
  | publishResponse response =>
      exact h.of_same (s.sameItems_publishResponse response)
        (List.Perm.of_eq (s.waiting_publishResponse response)).subperm
  | readNext view maxCount =>
      exact h.of_same (s.sameItems_readNext _)
        (List.Perm.of_eq (s.waiting_readNext _)).subperm
  | readerWakes index =>
      change (s.readerWakes index).Sound
      unfold ClientSubscription.readerWakes
      split
      · exact h
      · next call _ =>
        have hwoken : Sound { s with readCalls := s.readCalls.eraseIdx index } :=
          h.of_same ⟨rfl, rfl, rfl, rfl, rfl, fun _ => rfl⟩ (List.Subperm.refl _)
        exact hwoken.of_same (sameItems_readNext _ call)
          (List.Perm.of_eq (waiting_readNext _ call)).subperm

theorem sound_initial : ({} : ClientSubscription).Sound where
  distinct := List.nodup_nil
  recorded := fun _ _ hlookup => absurd hlookup (by simp)
  removed := fun _ hitem => absurd hitem List.not_mem_nil
  waits := fun _ hitem => absurd hitem List.not_mem_nil
  once := List.nodup_nil
  unset := fun _ hitem => absurd hitem List.not_mem_nil
  ownRemovals := fun _ hremoval => absurd hremoval List.not_mem_nil
  removing := fun _ hcall => absurd hcall List.not_mem_nil
  collected := fun _ hcall => absurd hcall List.not_mem_nil

end ClientSubscription
end OpcuaStack
