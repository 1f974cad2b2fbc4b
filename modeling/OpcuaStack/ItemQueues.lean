import OpcuaStack.QueuePositions
import OpcuaStack.SubscriptionConservation

/-!
# How much an item has queued

All items of a subscription share the pending queue, and a push makes room at
the expense of the item it is for.  An operation which gives an item no new
parameters therefore leaves it with no more than it had or than its queue size
allows.  Only creating and modifying items set a queue size, and they leave the
queue as it is.
-/

namespace OpcuaStack

/-- The queue size an item with these parameters works with. -/
def MonitoringParameters.queueLimit (parameters : MonitoringParameters) : ℕ :=
  max 1 parameters.queueSize.toNat

theorem MonitoringParameters.queueLimit_pos (parameters : MonitoringParameters) :
    0 < parameters.queueLimit :=
  lt_of_lt_of_le Nat.zero_lt_one (le_max_left _ _)

/-- The two objects share their place in the map and their parameters. -/
structure Item.SameQueue (item other : Item) : Prop where
  monitoredItemId : item.monitoredItemId = other.monitoredItemId
  address : item.address = other.address
  parameters : item.parameters = other.parameters

theorem Item.SameQueue.refl (item : Item) : item.SameQueue item := ⟨rfl, rfl, rfl⟩

theorem Item.SameQueue.trans {item other third : Item} (h : item.SameQueue other)
    (hother : other.SameQueue third) : item.SameQueue third :=
  ⟨h.monitoredItemId.trans hother.monitoredItemId,
    h.address.trans hother.address, h.parameters.trans hother.parameters⟩

namespace ServerSubscription

/-- What an item has queued. -/
def entriesOf (s : ServerSubscription) (id : MonitoredItemId) :
    List QueuedNotification :=
  s.pendingNotifications.filter fun queued => queued.sourceItemId == id

/-! ## The queue of one item -/

@[simp] theorem enforceQueueLimit_items (s : ServerSubscription) (item : Item) :
    (s.enforceQueueLimit item).items = s.items := by
  unfold enforceQueueLimit
  simp only
  split
  · rfl
  · split <;> split <;> rfl

@[simp] theorem enforceQueueLimit_nextItemAddress (s : ServerSubscription)
    (item : Item) :
    (s.enforceQueueLimit item).nextItemAddress = s.nextItemAddress := by
  unfold enforceQueueLimit
  simp only
  split
  · rfl
  · split <;> split <;> rfl

@[simp] theorem queueNotification_items (s : ServerSubscription) (item : Item)
    (notification : NotificationData) :
    (s.queueNotification item notification).items = s.items :=
  enforceQueueLimit_items _ item

@[simp] theorem queueNotification_nextItemAddress (s : ServerSubscription)
    (item : Item) (notification : NotificationData) :
    (s.queueNotification item notification).nextItemAddress =
      s.nextItemAddress :=
  enforceQueueLimit_nextItemAddress _ item

theorem entriesOf_erasePending_of_ne (s : ServerSubscription)
    {owner id : MonitoredItemId} {index : ℕ}
    (howner : ∀ queued, s.pendingNotifications[index]? = some queued →
      queued.sourceItemId = owner) (hne : id ≠ owner) :
    (s.erasePending owner index).entriesOf id = s.entriesOf id := by
  refine filter_eraseIdx_of_not fun queued hqueued => ?_
  rw [howner queued hqueued]
  exact beq_false_of_ne hne.symm

theorem enforceQueueLimit_entriesOf (s : ServerSubscription) (item : Item) :
    (s.enforceQueueLimit item).entriesOf item.monitoredItemId =
      trim item.parameters.discardOldest item.parameters.queueLimit
        (s.entriesOf item.monitoredItemId) := by
  have hlength : _ = (s.entriesOf item.monitoredItemId).length :=
    length_positions
      (fun queued : QueuedNotification =>
        queued.sourceItemId == item.monitoredItemId) s.pendingNotifications
  unfold positions at hlength
  have hnone : ∀ indices : List ℕ,
      indices.length = (s.entriesOf item.monitoredItemId).length →
        ¬(s.entriesOf item.monitoredItemId).length ≤
          item.parameters.queueLimit → indices ≠ [] := by
    rintro indices hindices hfull rfl
    rw [← hindices] at hfull
    exact hfull (Nat.zero_le _)
  unfold enforceQueueLimit trim MonitoringParameters.queueLimit
  unfold MonitoringParameters.queueLimit at hnone
  simp only [hlength]
  split
  · rfl
  next hfull =>
    cases item.parameters.discardOldest with
    | false =>
        simp only [Bool.not_false, if_true, Bool.false_eq_true, if_false]
        split
        next index hlast => exact filter_eraseIdx_last hlast
        next hempty =>
          exact absurd (List.getLast?_eq_none_iff.mp hempty)
            (hnone _ hlength hfull)
    | true =>
        simp only [Bool.not_true, Bool.false_eq_true, if_false, if_true]
        split
        next index hhead => exact filter_eraseIdx_head hhead
        next hempty =>
          exact absurd (List.head?_eq_none_iff.mp hempty)
            (hnone _ hlength hfull)

theorem enforceQueueLimit_entriesOf_of_ne (s : ServerSubscription) {item : Item}
    {id : MonitoredItemId} (hne : id ≠ item.monitoredItemId) :
    (s.enforceQueueLimit item).entriesOf id = s.entriesOf id := by
  have herase : ∀ index, index ∈ positions
      (fun queued : QueuedNotification =>
        queued.sourceItemId == item.monitoredItemId) s.pendingNotifications →
      (s.erasePending item.monitoredItemId index).entriesOf id =
        s.entriesOf id := by
    intro index hmem
    refine s.entriesOf_erasePending_of_ne (fun queued hqueued => ?_) hne
    exact beq_iff_eq.mp (of_mem_positions hmem hqueued)
  unfold enforceQueueLimit
  simp only
  split
  · rfl
  · split
    · split
      next index hlast => exact herase index (List.mem_of_getLast? hlast)
      next => rfl
    · split
      next index hhead => exact herase index (List.mem_of_head? hhead)
      next => rfl

theorem queueNotification_entriesOf (s : ServerSubscription) (item : Item)
    (notification : NotificationData) :
    (s.queueNotification item notification).entriesOf item.monitoredItemId =
      trim item.parameters.discardOldest item.parameters.queueLimit
        (s.entriesOf item.monitoredItemId ++
          [⟨item.monitoredItemId, notification⟩]) := by
  unfold queueNotification
  rw [enforceQueueLimit_entriesOf]
  congr 1
  simp [pushPending, entriesOf]

theorem queueNotification_entriesOf_of_ne (s : ServerSubscription) (item : Item)
    {id : MonitoredItemId} (hne : id ≠ item.monitoredItemId)
    (notification : NotificationData) :
    (s.queueNotification item notification).entriesOf id = s.entriesOf id := by
  unfold queueNotification
  rw [enforceQueueLimit_entriesOf_of_ne _ hne]
  simp [pushPending, entriesOf, Ne.symm hne]

/-! ## Operations which set no queue size -/

/-- Every item is stored under its own id, and its address has been given out. -/
structure ItemsSound (s : ServerSubscription) : Prop where
  key : ∀ id item, s.items.lookup id = some item → item.monitoredItemId = id
  address : ∀ id item, s.items.lookup id = some item →
    item.address < s.nextItemAddress

/-- Every item of the second state was there with the same parameters, and has
queued no more than it had or than fits. -/
structure QueuesWithin (s t : ServerSubscription) : Prop where
  nextItemAddress : s.nextItemAddress ≤ t.nextItemAddress
  origin : ∀ id after, t.items.lookup id = some after →
    ∃ before, s.items.lookup id = some before ∧ after.SameQueue before ∧
      (t.entriesOf id).length ≤
        max (s.entriesOf id).length before.parameters.queueLimit

/-- No item has queued more than its queue size allows. -/
def QueuesBounded (s : ServerSubscription) : Prop :=
  ∀ id item, s.items.lookup id = some item →
    (s.entriesOf id).length ≤ item.parameters.queueLimit

namespace QueuesWithin

theorem of_items {s t : ServerSubscription}
    (haddress : s.nextItemAddress ≤ t.nextItemAddress)
    (hitems : ∀ id after, t.items.lookup id = some after →
      ∃ before, s.items.lookup id = some before ∧ after.SameQueue before)
    (hpending : t.pendingNotifications.Sublist s.pendingNotifications) :
    QueuesWithin s t := by
  refine ⟨haddress, fun id after hafter => ?_⟩
  obtain ⟨before, hbefore, hsame⟩ := hitems id after hafter
  exact ⟨before, hbefore, hsame,
    le_max_of_le_left (hpending.filter _).length_le⟩

theorem of_sublist {s t : ServerSubscription} (hitems : t.items = s.items)
    (haddress : t.nextItemAddress = s.nextItemAddress)
    (hpending : t.pendingNotifications.Sublist s.pendingNotifications) :
    QueuesWithin s t := by
  refine of_items haddress.ge (fun id after hafter => ?_) hpending
  rw [hitems] at hafter
  exact ⟨after, hafter, .refl after⟩

theorem refl (s : ServerSubscription) : QueuesWithin s s :=
  of_sublist rfl rfl (List.Sublist.refl _)

theorem trans {s t r : ServerSubscription} (hst : QueuesWithin s t)
    (htr : QueuesWithin t r) : QueuesWithin s r := by
  refine ⟨hst.nextItemAddress.trans htr.nextItemAddress,
    fun id after hafter => ?_⟩
  obtain ⟨between, hbetween, hsame, hle⟩ := htr.origin id after hafter
  obtain ⟨before, hbefore, hsame', hle'⟩ := hst.origin id between hbetween
  refine ⟨before, hbefore, hsame.trans hsame', hle.trans ?_⟩
  rw [hsame'.parameters]
  exact max_le hle' (le_max_right _ _)

theorem sound {s t : ServerSubscription} (h : QueuesWithin s t)
    (hs : s.ItemsSound) : t.ItemsSound := by
  constructor
  · intro id after hafter
    obtain ⟨before, hbefore, hsame, _⟩ := h.origin id after hafter
    exact hsame.monitoredItemId.trans (hs.key id before hbefore)
  · intro id after hafter
    obtain ⟨before, hbefore, hsame, _⟩ := h.origin id after hafter
    rw [hsame.address]
    exact (hs.address id before hbefore).trans_le h.nextItemAddress

theorem bounded {s t : ServerSubscription} (h : QueuesWithin s t)
    (hs : s.QueuesBounded) : t.QueuesBounded := by
  intro id after hafter
  obtain ⟨before, hbefore, hsame, hle⟩ := h.origin id after hafter
  rw [hsame.parameters]
  exact hle.trans (max_le (hs id before hbefore) (le_refl _))

end QueuesWithin

theorem insert_within {s t : ServerSubscription} (id : MonitoredItemId)
    (item : Item) {stored : Item} (hlookup : s.items.lookup id = some stored)
    (hsame : item.SameQueue stored) (hitems : t.items = s.items.insert id item)
    (haddress : t.nextItemAddress = s.nextItemAddress)
    (hpending : t.pendingNotifications = s.pendingNotifications) :
    QueuesWithin s t := by
  refine .of_items haddress.ge (fun other after hafter => ?_)
    (hpending ▸ List.Sublist.refl _)
  rw [hitems, KeyedMap.lookup_insert_eq] at hafter
  split at hafter
  next heq =>
    rw [heq]
    exact ⟨stored, hlookup, Option.some.inj hafter ▸ hsame⟩
  next => exact ⟨after, hafter, .refl after⟩

theorem writeItem_within {s : ServerSubscription} (item : Item) {stored : Item}
    (hlookup : s.items.lookup item.monitoredItemId = some stored)
    (hsame : item.SameQueue stored) :
    QueuesWithin s (s.writeItem item) ∧
      (s.writeItem item).items.lookup item.monitoredItemId = some item := by
  rw [writeItem_of_lookup hlookup hsame.address.symm]
  exact ⟨insert_within _ _ hlookup hsame rfl rfl rfl, AList.lookup_insert _⟩

theorem queueNotification_within {s : ServerSubscription} {item : Item}
    (hlookup : s.items.lookup item.monitoredItemId = some item)
    (notification : NotificationData) :
    QueuesWithin s (s.queueNotification item notification) := by
  refine ⟨(s.queueNotification_nextItemAddress _ _).ge,
    fun id after hafter => ?_⟩
  rw [queueNotification_items] at hafter
  refine ⟨after, hafter, .refl after, ?_⟩
  by_cases heq : id = item.monitoredItemId
  · subst heq
    rw [hlookup, Option.some.injEq] at hafter
    subst hafter
    rw [queueNotification_entriesOf]
    exact length_trim_push _ _ _ _
  · rw [s.queueNotification_entriesOf_of_ne item heq]
    exact le_max_left _ _

theorem queueDataChange_within {s : ServerSubscription} {item : Item}
    (hlookup : s.items.lookup item.monitoredItemId = some item)
    (dataValue : DataValue) :
    QueuesWithin s (s.queueDataChange item dataValue) := by
  unfold queueDataChange
  split
  · exact .refl s
  · split
    · exact .refl s
    · obtain ⟨hwithin, hwritten⟩ := writeItem_within
        { item with lastReportedValue := some dataValue } hlookup
        ⟨rfl, rfl, rfl⟩
      exact hwithin.trans (queueNotification_within hwritten _)

theorem queueEventFields_within {s : ServerSubscription} {item : Item}
    (hlookup : s.items.lookup item.monitoredItemId = some item)
    (eventFields : List Variant) :
    QueuesWithin s (s.queueEventFields item eventFields) := by
  unfold queueEventFields
  split
  · exact .refl s
  · exact queueNotification_within hlookup _

theorem queueItemStatus_within {s : ServerSubscription} {item : Item}
    (hlookup : s.items.lookup item.monitoredItemId = some item)
    (status : Status) (now : DateTime) :
    QueuesWithin s (s.queueItemStatus item status now) := by
  unfold queueItemStatus
  split
  · exact queueNotification_within hlookup _
  · exact queueDataChange_within hlookup _

theorem ItemsSound.lookup_of_find {s : ServerSubscription} (h : s.ItemsSound)
    {p : Item → Bool} {item : Item}
    (hfound : (s.items.entries.map Sigma.snd).find? p = some item) :
    s.items.lookup item.monitoredItemId = some item := by
  obtain ⟨entry, hentry, rfl⟩ :=
    List.mem_map.mp (List.mem_of_find?_eq_some hfound)
  have hlookup := KeyedMap.mem_entries_iff.mp hentry
  rwa [h.key _ _ hlookup]

theorem onNotification_within {s : ServerSubscription} (h : s.ItemsSound)
    (notification : ItemNotification) :
    QueuesWithin s (s.onNotification notification) := by
  unfold onNotification
  split
  · exact .refl s
  next item hfound =>
    have hlookup := h.lookup_of_find hfound
    split
    · exact queueDataChange_within hlookup _
    · exact queueEventFields_within hlookup _

theorem removeBackingItem_within (s : ServerSubscription)
    (backingItemId : MonitoredItemId) :
    QueuesWithin s (s.removeBackingItem backingItemId) := by
  unfold removeBackingItem
  split
  · exact .refl s
  · exact .of_sublist rfl rfl (List.Sublist.refl _)

theorem onBindResult_within {s : ServerSubscription} (h : s.ItemsSound)
    (weakItem : Option ℕ) (backingClientHandle : UInt32)
    (result : MonitoredItemCreateResult) (now : DateTime) :
    QueuesWithin s (s.onBindResult weakItem backingClientHandle result now) := by
  have habandoned : QueuesWithin s
      (if result.status.isBad then s
        else s.removeBackingItem result.monitoredItemId) := by
    split
    · exact .refl s
    · exact s.removeBackingItem_within _
  unfold onBindResult
  simp only
  split
  · exact habandoned
  next item hlocked =>
    obtain ⟨address, -, hfound⟩ := Option.bind_eq_some_iff.mp hlocked
    have hlookup := h.lookup_of_find hfound
    split
    · exact habandoned
    · split
      · obtain ⟨hwithin, hwritten⟩ := writeItem_within
          { item with monitoredItemStatus := result.status.code }
          hlookup ⟨rfl, rfl, rfl⟩
        exact hwithin.trans (queueItemStatus_within hwritten _ _)
      · refine (writeItem_within { item with
          monitoredItemStatus := result.status.code
          backingItemId := result.monitoredItemId } hlookup ?_).1
        exact ⟨rfl, rfl, rfl⟩

theorem bindItem_within {s : ServerSubscription} (h : s.ItemsSound)
    (bind : BindInFlight) (env : BindEnvironment) :
    QueuesWithin s (s.bindItem bind env) := by
  unfold bindItem
  split
  · exact onBindResult_within h _ _ _ _
  · exact .of_sublist rfl rfl (List.Sublist.refl _)

theorem completeBind_within {s : ServerSubscription} (h : s.ItemsSound)
    (index : ℕ) (results : List MonitoredItemCreateResult) (now : DateTime) :
    QueuesWithin s (s.completeBind index results now) := by
  unfold completeBind
  split
  · exact .refl s
  · have hdropped : QueuesWithin s
        { s with bindsInFlight := s.bindsInFlight.eraseIdx index } :=
      .of_sublist rfl rfl (List.Sublist.refl _)
    exact hdropped.trans (onBindResult_within (hdropped.sound h) _ _ _ _)

theorem onBackingEvent_within {s : ServerSubscription} (h : s.ItemsSound)
    (event : BackingEvent) : QueuesWithin s (s.onBackingEvent event) := by
  cases event with
  | notifications notifications =>
      exact runFrom_invariant_of_step (P := QueuesWithin s)
        (fun t notification ht =>
          ht.trans (onNotification_within (ht.sound h) notification))
        (.refl s) notifications
  | error status clock =>
      refine runFrom_invariant_of_step (P := QueuesWithin s)
        (fun t monitoredItemId ht => ?_) (.refl s) s.items.keys
      split
      next item hlookup =>
        have hkey := (ht.sound h).key _ _ hlookup
        rw [← hkey] at hlookup
        exact ht.trans (queueItemStatus_within hlookup _ _)
      next => exact ht
  | bindFinished index results now => exact completeBind_within h _ _ _

theorem startBackingSubscription_eq (s : ServerSubscription)
    (createSubscription : StatusOr Unit) :
    ∃ started, (s.startBackingSubscription createSubscription).1 =
      { s with backingStarted := started } := by
  unfold startBackingSubscription
  split
  · exact ⟨s.backingStarted, rfl⟩
  · split
    · exact ⟨s.backingStarted, rfl⟩
    · exact ⟨true, rfl⟩

theorem removeBackingItem_eq (s : ServerSubscription)
    (backingItemId : MonitoredItemId) :
    ∃ removals, s.removeBackingItem backingItemId =
      { s with backingRemovals := removals } := by
  unfold removeBackingItem
  split
  · exact ⟨s.backingRemovals, rfl⟩
  · exact ⟨_, rfl⟩

theorem eraseItem_within (s : ServerSubscription) (id : MonitoredItemId) :
    QueuesWithin s (s.eraseItem id) := by
  refine .of_items (le_refl _) (fun other after hafter => ?_)
    (List.Sublist.refl _)
  unfold eraseItem at hafter
  simp only [KeyedMap.lookup_erase_eq] at hafter
  split at hafter
  · exact absurd hafter nofun
  · exact ⟨after, hafter, .refl after⟩

/-! ## Services -/

theorem modify_within (s : ServerSubscription)
    (request : ModifySubscriptionRequest) :
    QueuesWithin s (s.modify request).1 := by
  unfold modify
  split
  · exact .refl s
  · exact .of_sublist rfl rfl (List.Sublist.refl _)

theorem deleteMonitoredItem_within (s : ServerSubscription)
    (monitoredItemId : MonitoredItemId) :
    QueuesWithin s (s.deleteMonitoredItem monitoredItemId).1 := by
  unfold deleteMonitoredItem
  split
  · exact .refl s
  · exact (s.removeBackingItem_within _).trans (eraseItem_within _ _)

theorem deleteMonitoredItems_within (s : ServerSubscription)
    (request : DeleteMonitoredItemsRequest) :
    QueuesWithin s (s.deleteMonitoredItems request).1 := by
  unfold deleteMonitoredItems
  split
  · exact .refl s
  · have hdeleted := collectResults_invariant (P := QueuesWithin s)
      (fun t id ht => ht.trans (t.deleteMonitoredItem_within id)) (.refl s)
      request.monitoredItemIds
    exact hdeleted.trans (.of_sublist rfl rfl List.filter_sublist)

theorem setMonitoringMode_within (s : ServerSubscription)
    (request : SetMonitoringModeRequest) :
    QueuesWithin s (s.setMonitoringMode request).1 := by
  unfold setMonitoringMode
  split
  · exact .refl s
  · refine collectResults_invariant (P := QueuesWithin s)
      (fun t monitoredItemId ht => ?_) (.refl s) request.monitoredItemIds
    unfold setItemMonitoringMode
    split
    · exact ht
    next item hlookup =>
      refine ht.trans (insert_within _
        { item with monitoringMode := request.monitoringMode }
        hlookup ?_ rfl rfl rfl)
      exact ⟨rfl, rfl, rfl⟩

theorem acknowledge_within (s : ServerSubscription)
    (sequenceNumbers : List UInt32) :
    QueuesWithin s (s.acknowledge sequenceNumbers).1 := by
  refine collectResults_invariant (P := QueuesWithin s)
    (fun t sequenceNumber ht => ht.trans ?_) (.refl s) sequenceNumbers
  unfold acknowledgeOne
  split
  · exact .refl t
  · exact .of_sublist rfl rfl (List.Sublist.refl _)

theorem tryPublish_within (s : ServerSubscription) (now : DateTime) :
    QueuesWithin s (s.tryPublish now).1 := by
  have hprime : QueuesWithin s (s.primePublishCycle now) := by
    unfold primePublishCycle
    split
    · exact .refl s
    · exact .of_sublist rfl rfl (List.Sublist.refl _)
  have hpublishes := s.tryPublish_publishes now
  generalize s.tryPublish now = result at hpublishes ⊢
  cases hpublishes with
  | waits _ => exact hprime
  | keepAlive _ _ =>
      exact hprime.trans (.of_sublist rfl rfl (List.Sublist.refl _))
  | data _ _ =>
      exact hprime.trans (.of_sublist rfl rfl (List.drop_sublist _ _))

theorem iterateFirst_within (s : ServerSubscription)
    (monitoredItemId : MonitoredItemId) :
    QueuesWithin s { s with items := s.items.modify monitoredItemId id } := by
  refine .of_items (le_refl _) (fun other after hafter => ?_)
    (List.Sublist.refl _)
  simp only [KeyedMap.lookup_modify] at hafter
  split at hafter
  next heq =>
    rw [heq]
    simp only [Option.map_id_fun, id_eq] at hafter
    exact ⟨after, hafter, .refl after⟩
  next => exact ⟨after, hafter, .refl after⟩

/-! ## Binding an item again -/

/-- The subscription with the item's object changed in place. -/
def withItem (s : ServerSubscription) (item : Item) : ServerSubscription :=
  { s with items := s.items.insert item.monitoredItemId item }

theorem QueuesWithin.readItem {s t : ServerSubscription} {item written : Item}
    (h : QueuesWithin (s.withItem item) t) (hsame : written.SameQueue item) :
    (t.readItem written).SameQueue item := by
  unfold ServerSubscription.readItem
  split
  next stored hlookup =>
    split
    · obtain ⟨before, hbefore, hstored, _⟩ := h.origin _ stored hlookup
      have hitem : (s.withItem item).items.lookup written.monitoredItemId =
          some item := by
        rw [hsame.monitoredItemId]
        exact AList.lookup_insert _
      rw [hitem, Option.some.injEq] at hbefore
      exact hbefore ▸ hstored
    · exact hsame
  next => exact hsame

theorem rebindItem_within {s : ServerSubscription} (item : Item) {stored : Item}
    (hlookup : s.items.lookup item.monitoredItemId = some stored)
    (haddress : stored.address = item.address)
    (hsound : (s.withItem item).ItemsSound) (env : BindEnvironment) :
    QueuesWithin (s.withItem item) (s.rebindItem item env).1 ∧
      (s.rebindItem item env).2.SameQueue item := by
  -- a write of the object, whatever changed in the subscription beside it
  have hwrite : ∀ (t : ServerSubscription) (written : Item),
      t.items = s.items → t.nextItemAddress = s.nextItemAddress →
        t.pendingNotifications = s.pendingNotifications →
          written.SameQueue item →
            QueuesWithin (s.withItem item) (t.writeItem written) ∧
              (t.writeItem written).items.lookup item.monitoredItemId =
                some written := by
    intro t written hitems hnext hpending hsame
    have hfound : t.items.lookup written.monitoredItemId = some stored := by
      rw [hitems, hsame.monitoredItemId, hlookup]
    rw [writeItem_of_lookup hfound (haddress.trans hsame.address.symm)]
    refine ⟨insert_within item.monitoredItemId written
      (AList.lookup_insert _) hsame ?_ hnext hpending, ?_⟩
    · change t.items.insert written.monitoredItemId written = _
      rw [hitems, hsame.monitoredItemId]
      exact (AList.insert_insert _).symm
    · rw [← hsame.monitoredItemId]
      exact AList.lookup_insert _
  unfold rebindItem
  split
  · refine ⟨(hwrite s { item with
      monitoredItemStatus := .badAttributeIdInvalid } rfl rfl rfl ?_).1, ?_⟩
    · exact ⟨rfl, rfl, rfl⟩
    · exact ⟨rfl, rfl, rfl⟩
  · obtain ⟨started, hstarted⟩ :=
      s.startBackingSubscription_eq env.createSubscription
    simp only [hstarted]
    split
    · refine ⟨(hwrite { s with backingStarted := started } { item with
        monitoredItemStatus := _ } rfl rfl rfl ?_).1, ?_⟩
      · exact ⟨rfl, rfl, rfl⟩
      · exact ⟨rfl, rfl, rfl⟩
    · obtain ⟨removals, hremovals⟩ := removeBackingItem_eq
        { s with backingStarted := started } item.backingItemId
      simp only [hremovals, takeClientHandle]
      have hbound := (hwrite
        { s with
          backingStarted := started
          backingRemovals := removals
          nextBackingClientHandle := s.nextBackingClientHandle + 1 }
        { item with
          bindingRequested := true
          backingItemId := 0
          monitoredItemStatus := .good
          backingClientHandle := s.nextBackingClientHandle }
        rfl rfl rfl ⟨rfl, rfl, rfl⟩).1
      have hwithin := fun bind =>
        hbound.trans (bindItem_within (hbound.sound hsound) bind env)
      exact ⟨hwithin _, (hwithin _).readItem ⟨rfl, rfl, rfl⟩⟩

theorem writeItem_of_detached {s : ServerSubscription} {item : Item}
    (hdetached : ∀ stored, s.items.lookup item.monitoredItemId = some stored →
      stored.address ≠ item.address) : s.writeItem item = s := by
  unfold writeItem
  split
  next stored hlookup => exact if_neg (hdetached stored hlookup)
  next => rfl

theorem rebindItem_within_of_detached {s : ServerSubscription} {item : Item}
    (hdetached : ∀ stored, s.items.lookup item.monitoredItemId = some stored →
      stored.address ≠ item.address) (hsound : s.ItemsSound)
    (env : BindEnvironment) : QueuesWithin s (s.rebindItem item env).1 := by
  -- a write of the object, whatever changed in the subscription beside it
  have hwrite : ∀ (t : ServerSubscription) (written : Item),
      t.items = s.items → written.SameQueue item → t.writeItem written = t := by
    intro t written hitems hsame
    refine writeItem_of_detached fun stored hlookup => ?_
    rw [hitems, hsame.monitoredItemId] at hlookup
    rw [hsame.address]
    exact hdetached stored hlookup
  unfold rebindItem
  split
  · simp only
    rw [hwrite]
    · exact .refl s
    · rfl
    · exact ⟨rfl, rfl, rfl⟩
  · obtain ⟨started, hstarted⟩ :=
      s.startBackingSubscription_eq env.createSubscription
    simp only [hstarted]
    split
    · rw [hwrite]
      · exact .of_sublist rfl rfl (List.Sublist.refl _)
      · rfl
      · exact ⟨rfl, rfl, rfl⟩
    · obtain ⟨removals, hremovals⟩ := removeBackingItem_eq
        { s with backingStarted := started } item.backingItemId
      simp only [hremovals, takeClientHandle]
      have hcounted : QueuesWithin s { s with
          backingStarted := started
          backingRemovals := removals
          nextBackingClientHandle := s.nextBackingClientHandle + 1 } :=
        .of_sublist rfl rfl (List.Sublist.refl _)
      rw [hwrite]
      · exact hcounted.trans (bindItem_within (hcounted.sound hsound) _ env)
      · rfl
      · exact ⟨rfl, rfl, rfl⟩

/-! ## Operations which set a queue size -/

/-- What the item of a modification has queued fits its new queue size. -/
def FitsModified (s : ServerSubscription) (source : MonitoredItemModifyRequest) :
    Prop :=
  ∀ item, s.items.lookup source.monitoredItemId = some item →
    (s.entriesOf source.monitoredItemId).length ≤
      source.requestedParameters.queueLimit

/-- What is queued under the id a new item will get fits its queue size. -/
def FitsCreated (s : ServerSubscription) (source : MonitoredItemCreateRequest) :
    Prop :=
  s.items.lookup s.nextMonitoredItemId = none →
    (s.entriesOf s.nextMonitoredItemId).length ≤
      source.requestedParameters.queueLimit

/-- The object `CreateMonitoredItems` makes for a request. -/
def newItem (s : ServerSubscription) (source : MonitoredItemCreateRequest) :
    Item where
  address := s.nextItemAddress
  monitoredItemId := s.nextMonitoredItemId
  itemToMonitor := source.itemToMonitor
  indexRange := source.indexRange
  monitoringMode := source.monitoringMode
  parameters := source.requestedParameters

/-- Storing an object under its own id at an address which was given out. -/
theorem ItemsSound.insert {s t : ServerSubscription} (h : s.ItemsSound)
    {item : Item} (hitems : t.items = s.items.insert item.monitoredItemId item)
    (hnext : s.nextItemAddress ≤ t.nextItemAddress)
    (haddress : item.address < t.nextItemAddress) : t.ItemsSound := by
  constructor
  · intro id held hheld
    rw [hitems, KeyedMap.lookup_insert_eq] at hheld
    split at hheld
    next heq => rw [← Option.some.inj hheld, heq]
    next => exact h.key id held hheld
  · intro id held hheld
    rw [hitems, KeyedMap.lookup_insert_eq] at hheld
    split at hheld
    next heq =>
      rw [← Option.some.inj hheld]
      exact haddress
    next => exact (h.address id held hheld).trans_le hnext

/-- Storing an object whose queue fits its size. -/
theorem QueuesBounded.insert {s t : ServerSubscription} (h : s.QueuesBounded)
    (item : Item) (hitems : t.items = s.items.insert item.monitoredItemId item)
    (hpending : t.pendingNotifications = s.pendingNotifications)
    (hfits : (s.entriesOf item.monitoredItemId).length ≤
      item.parameters.queueLimit) : t.QueuesBounded := by
  intro id held hheld
  have hentries : t.entriesOf id = s.entriesOf id := by
    unfold entriesOf
    rw [hpending]
  rw [hentries]
  rw [hitems, KeyedMap.lookup_insert_eq] at hheld
  split at hheld
  next heq =>
    rw [← Option.some.inj hheld, heq]
    exact hfits
  next => exact h id held hheld

/-- A modification rewrites the parameters in place and then only binds. -/
theorem modifyMonitoredItem_within {s : ServerSubscription} (h : s.ItemsSound)
    {source : MonitoredItemModifyRequest} {item : Item}
    (hlookup : s.items.lookup source.monitoredItemId = some item)
    (env : BindEnvironment) :
    (s.withItem
        { item with parameters := source.requestedParameters }).ItemsSound ∧
      QueuesWithin
        (s.withItem { item with parameters := source.requestedParameters })
        (s.modifyMonitoredItem source env).1 ∧
      (s.modifyMonitoredItem source env).2.revisedQueueSize =
        max 1 source.requestedParameters.queueSize := by
  have haddress := h.address _ _ hlookup
  have hkey := h.key _ _ hlookup
  have hsound : (s.withItem
      { item with parameters := source.requestedParameters }).ItemsSound :=
    h.insert rfl (le_refl _) haddress
  refine ⟨hsound, ?_⟩
  unfold modifyMonitoredItem
  simp only [hlookup]
  rw [← hkey] at hlookup
  obtain ⟨hwithin, hsame⟩ := rebindItem_within
    { item with parameters := source.requestedParameters } hlookup rfl hsound env
  exact ⟨hwithin, by rw [hsame.parameters]⟩

/-- A creation stores the new object and then only binds. -/
theorem createMonitoredItem_within {s : ServerSubscription} (h : s.ItemsSound)
    (source : MonitoredItemCreateRequest) (env : BindEnvironment) :
    (s.emplaceItem (s.newItem source)).ItemsSound ∧
      QueuesWithin (s.emplaceItem (s.newItem source))
        (s.createMonitoredItem source env).1 := by
  have hrebound : (s.emplaceItem (s.newItem source)).ItemsSound ∧
      QueuesWithin (s.emplaceItem (s.newItem source))
        ((s.emplaceItem (s.newItem source)).rebindItem
          (s.newItem source) env).1 := by
    cases hlookup : s.items.lookup (s.newItem source).monitoredItemId with
    | none =>
        have hitems : (s.emplaceItem (s.newItem source)).items =
            s.items.insert (s.newItem source).monitoredItemId
              (s.newItem source) := by
          simp [emplaceItem, hlookup]
        have hsound : (s.emplaceItem (s.newItem source)).ItemsSound :=
          h.insert hitems (Nat.le_succ _) (Nat.lt_succ_self _)
        have hstored : (s.emplaceItem (s.newItem source)).items.lookup
            (s.newItem source).monitoredItemId = some (s.newItem source) := by
          rw [hitems]
          exact AList.lookup_insert _
        have hsame : QueuesWithin (s.emplaceItem (s.newItem source))
            ((s.emplaceItem (s.newItem source)).withItem
              (s.newItem source)) :=
          insert_within _ _ hstored (.refl _) rfl rfl rfl
        exact ⟨hsound, hsame.trans
          (rebindItem_within _ hstored rfl (hsame.sound hsound) env).1⟩
    | some stored =>
        have hitems : (s.emplaceItem (s.newItem source)).items = s.items := by
          simp [emplaceItem, hlookup]
        have hcounted : QueuesWithin s (s.emplaceItem (s.newItem source)) :=
          .of_items (Nat.le_succ _)
            (fun id after hafter => ⟨after, hitems ▸ hafter, .refl after⟩)
            (List.Sublist.refl _)
        refine ⟨hcounted.sound h,
          rebindItem_within_of_detached (fun found hfound => ?_)
            (hcounted.sound h) env⟩
        rw [hitems] at hfound
        exact (h.address _ _ hfound).ne
  refine ⟨hrebound.1, hrebound.2.trans ?_⟩
  unfold createMonitoredItem
  simp only
  split
  · exact eraseItem_within _ _
  · exact .refl _

/-- Items are stored soundly and no queue is over its limit. -/
structure QueuesKept (s : ServerSubscription) : Prop where
  sound : s.ItemsSound
  bounded : s.QueuesBounded

theorem QueuesKept.within {s t : ServerSubscription} (h : s.QueuesKept)
    (hwithin : QueuesWithin s t) : t.QueuesKept :=
  ⟨hwithin.sound h.sound, hwithin.bounded h.bounded⟩

theorem modifyMonitoredItem_kept {s : ServerSubscription} (h : s.QueuesKept)
    {source : MonitoredItemModifyRequest} (hfits : s.FitsModified source)
    (env : BindEnvironment) : (s.modifyMonitoredItem source env).1.QueuesKept := by
  cases hlookup : s.items.lookup source.monitoredItemId with
  | none =>
      unfold modifyMonitoredItem
      simp only [hlookup]
      exact h
  | some item =>
      obtain ⟨hsound, hwithin, -⟩ :=
        modifyMonitoredItem_within h.sound hlookup env
      have hlimit := hfits item hlookup
      rw [← h.sound.key _ _ hlookup] at hlimit
      exact QueuesKept.within ⟨hsound, h.bounded.insert _ rfl rfl hlimit⟩ hwithin

theorem createMonitoredItem_kept {s : ServerSubscription} (h : s.QueuesKept)
    {source : MonitoredItemCreateRequest} (hfits : s.FitsCreated source)
    (env : BindEnvironment) : (s.createMonitoredItem source env).1.QueuesKept := by
  obtain ⟨hsound, hwithin⟩ := createMonitoredItem_within h.sound source env
  refine QueuesKept.within ⟨hsound, ?_⟩ hwithin
  cases hlookup : s.items.lookup s.nextMonitoredItemId with
  | none =>
      have hitems : (s.emplaceItem (s.newItem source)).items =
          s.items.insert s.nextMonitoredItemId (s.newItem source) := by
        simp [emplaceItem, newItem, hlookup]
      exact h.bounded.insert (s.newItem source) hitems rfl
        (hfits hlookup)
  | some stored =>
      have hitems : (s.emplaceItem (s.newItem source)).items = s.items := by
        simp [emplaceItem, newItem, hlookup]
      intro id item hitem
      exact h.bounded id item (hitems ▸ hitem)

end ServerSubscription

/-! ## Runs -/

namespace SubscriptionRun

open ServerSubscription

/-- A round of the loop of `CreateMonitoredItems`. -/
def createRound (envs : ℕ → BindEnvironment) (s : ServerSubscription)
    (indexed : MonitoredItemCreateRequest × ℕ) : ServerSubscription :=
  (s.createMonitoredItem indexed.1 (envs indexed.2)).1

/-- A round of the loop of `ModifyMonitoredItems`. -/
def modifyRound (envs : ℕ → BindEnvironment) (s : ServerSubscription)
    (indexed : MonitoredItemModifyRequest × ℕ) : ServerSubscription :=
  (s.modifyMonitoredItem indexed.1 (envs indexed.2)).1

/-- Every item which the call creates or modifies is given a queue size which
what it has queued by then fits. -/
def QueuesFit (run : SubscriptionRun) : SubscriptionEvent → Prop
  | .createMonitoredItems request envs =>
      request.subscriptionId = run.subscription.subscriptionId →
        AllMeet (createRound envs) (fun s indexed => s.FitsCreated indexed.1)
          run.subscription request.itemsToCreate.zipIdx
  | .modifyMonitoredItems request envs =>
      request.subscriptionId = run.subscription.subscriptionId →
        AllMeet (modifyRound envs) (fun s indexed => s.FitsModified indexed.1)
          run.subscription request.itemsToModify.zipIdx
  | _ => True

theorem step_itemsSound {run : SubscriptionRun} (event : SubscriptionEvent)
    (h : run.subscription.ItemsSound) :
    (run.step event).subscription.ItemsSound := by
  cases event with
  | backing event => exact (onBackingEvent_within h event).sound h
  | tryPublish now => exact (run.subscription.tryPublish_within now).sound h
  | modify request => exact (run.subscription.modify_within request).sound h
  | setPublishingEnabled publishingEnabled => exact ⟨h.key, h.address⟩
  | createMonitoredItems request envs =>
      change (run.subscription.createMonitoredItems request envs).1.ItemsSound
      unfold createMonitoredItems
      split
      · exact h
      · refine collectResults_invariant (P := ItemsSound)
          (fun t indexed ht => ?_) h request.itemsToCreate.zipIdx
        obtain ⟨hsound, hwithin⟩ := createMonitoredItem_within ht indexed.1
          (envs indexed.2)
        exact hwithin.sound hsound
  | modifyMonitoredItems request envs =>
      change (run.subscription.modifyMonitoredItems request envs).1.ItemsSound
      unfold modifyMonitoredItems
      split
      · exact h
      · refine collectResults_invariant (P := ItemsSound)
          (fun t indexed ht => ?_) h request.itemsToModify.zipIdx
        cases hlookup : t.items.lookup indexed.1.monitoredItemId with
        | none =>
            simp only [modifyMonitoredItem, hlookup]
            exact ht
        | some item =>
            obtain ⟨hsound, hwithin, -⟩ := modifyMonitoredItem_within ht hlookup
              (envs indexed.2)
            exact hwithin.sound hsound
  | deleteMonitoredItems request =>
      exact (run.subscription.deleteMonitoredItems_within request).sound h
  | setMonitoringMode request =>
      exact (run.subscription.setMonitoringMode_within request).sound h
  | acknowledge sequenceNumbers =>
      exact (run.subscription.acknowledge_within sequenceNumbers).sound h
  | iterateFirst monitoredItemId =>
      exact (run.subscription.iterateFirst_within monitoredItemId).sound h

theorem step_queuesKept {run : SubscriptionRun} {event : SubscriptionEvent}
    (h : run.subscription.QueuesKept) (hfits : run.QueuesFit event) :
    (run.step event).subscription.QueuesKept := by
  cases event with
  | backing event => exact h.within (onBackingEvent_within h.sound event)
  | tryPublish now => exact h.within (run.subscription.tryPublish_within now)
  | modify request => exact h.within (run.subscription.modify_within request)
  | setPublishingEnabled publishingEnabled =>
      exact h.within (.of_sublist rfl rfl (List.Sublist.refl _))
  | createMonitoredItems request envs =>
      change (run.subscription.createMonitoredItems request envs).1.QueuesKept
      unfold createMonitoredItems
      split
      · exact h
      next hid =>
        simp only [collectResults_fst]
        have hkept := runFrom_invariant (P := QueuesKept)
          (fun t indexed ht hfit =>
            createMonitoredItem_kept ht hfit (envs indexed.2))
          h (hfits (not_not.mp hid))
        exact hkept
  | modifyMonitoredItems request envs =>
      change (run.subscription.modifyMonitoredItems request envs).1.QueuesKept
      unfold modifyMonitoredItems
      split
      · exact h
      next hid =>
        simp only [collectResults_fst]
        have hkept := runFrom_invariant (P := QueuesKept)
          (fun t indexed ht hfit =>
            modifyMonitoredItem_kept ht hfit (envs indexed.2))
          h (hfits (not_not.mp hid))
        exact hkept
  | deleteMonitoredItems request =>
      exact h.within (run.subscription.deleteMonitoredItems_within request)
  | setMonitoringMode request =>
      exact h.within (run.subscription.setMonitoringMode_within request)
  | acknowledge sequenceNumbers =>
      exact h.within (run.subscription.acknowledge_within sequenceNumbers)
  | iterateFirst monitoredItemId =>
      exact h.within (run.subscription.iterateFirst_within monitoredItemId)

theorem start_queuesKept (subscriptionId : SubscriptionId)
    (parameters : SubscriptionParameters) (publishCycleStartTime : DateTime)
    (traceParent : ByteText) :
    (start subscriptionId parameters publishCycleStartTime
      traceParent).subscription.QueuesKept := by
  have hnone : ∀ id : MonitoredItemId,
      (∅ : KeyedMap MonitoredItemId Item).lookup id = none :=
    fun id => AList.lookup_empty id
  refine ⟨⟨fun id item hlookup => ?_, fun id item hlookup => ?_⟩,
    fun id item hlookup => ?_⟩ <;>
  · change (∅ : KeyedMap MonitoredItemId Item).lookup id = some item at hlookup
    rw [hnone] at hlookup
    exact absurd hlookup nofun

theorem items_sound (subscriptionId : SubscriptionId)
    (parameters : SubscriptionParameters) (publishCycleStartTime : DateTime)
    (traceParent : ByteText) (events : List SubscriptionEvent) :
    (runFrom SubscriptionRun.step
      (start subscriptionId parameters publishCycleStartTime traceParent)
      events).subscription.ItemsSound :=
  runFrom_invariant_of_step
    (P := fun run : SubscriptionRun => run.subscription.ItemsSound)
    (fun _ event h => step_itemsSound event h)
    (start_queuesKept subscriptionId parameters publishCycleStartTime
      traceParent).sound events

/-- In a run whose calls give no item a queue size smaller than what it has
queued, every item keeps to its queue size. -/
theorem item_queues_bounded (subscriptionId : SubscriptionId)
    (parameters : SubscriptionParameters) (publishCycleStartTime : DateTime)
    (traceParent : ByteText) (events : List SubscriptionEvent)
    (hfits : AllMeet SubscriptionRun.step QueuesFit
      (start subscriptionId parameters publishCycleStartTime traceParent)
      events) :
    (runFrom SubscriptionRun.step
      (start subscriptionId parameters publishCycleStartTime traceParent)
      events).subscription.QueuesBounded :=
  (runFrom_invariant
    (P := fun run : SubscriptionRun => run.subscription.QueuesKept)
    (fun _ _ h hfit => step_queuesKept h hfit)
    (start_queuesKept subscriptionId parameters publishCycleStartTime
      traceParent) hfits).bounded

/-- A bind which is granted at once. -/
def granted : BindEnvironment where
  immediateResults := some [{ status := .good, monitoredItemId := 7 }]

def reports (value : Double) : SubscriptionEvent :=
  .backing (.notifications [.dataChange
    ⟨1, ⟨.scalar .double value, 0, {}, {}, .good⟩⟩])

/-- Three values are queued for an item, which is then given the queue size. -/
def threeValuesThen (queueSize : UInt32) : List SubscriptionEvent :=
  [.createMonitoredItems
      { subscriptionId := 1
        itemsToCreate := [{ requestedParameters := { queueSize := 3 } }] }
      fun _ => granted,
    reports 1, reports 2, reports 3,
    .modifyMonitoredItems
      { subscriptionId := 1
        itemsToModify :=
          [{ monitoredItemId := 1
             requestedParameters := { queueSize := queueSize } }] }
      fun _ => granted]

instance (s : ServerSubscription) (source : MonitoredItemModifyRequest) :
    Decidable (s.FitsModified source) :=
  show Decidable (∀ item ∈ s.items.lookup source.monitoredItemId,
    (s.entriesOf source.monitoredItemId).length ≤
      source.requestedParameters.queueLimit) from
  Option.decidableForallMem _

instance (s : ServerSubscription) (source : MonitoredItemCreateRequest) :
    Decidable (s.FitsCreated source) :=
  inferInstanceAs (Decidable (_ → _))

instance (run : SubscriptionRun) : ∀ event, Decidable (run.QueuesFit event)
  | .createMonitoredItems _ _ => inferInstanceAs (Decidable (_ → _))
  | .modifyMonitoredItems _ _ => inferInstanceAs (Decidable (_ → _))
  | .backing _ | .tryPublish _ | .modify _ | .setPublishingEnabled _
  | .deleteMonitoredItems _ | .setMonitoringMode _ | .acknowledge _
  | .iterateFirst _ => inferInstanceAs (Decidable True)

theorem grown_queue_bounded :
    (runFrom SubscriptionRun.step (start 1 {} {} [])
      (threeValuesThen 5)).subscription.QueuesBounded := by
  refine item_queues_bounded 1 {} {} [] (threeValuesThen 5) ?_
  decide

/-- The item has queued three values when its queue size becomes one. -/
theorem shrunk_queue_over_limit :
    ¬(runFrom SubscriptionRun.step (start 1 {} {} [])
      (threeValuesThen 1)).subscription.QueuesBounded := by
  intro hbounded
  have hheld : ∃ item, (runFrom SubscriptionRun.step (start 1 {} {} [])
      (threeValuesThen 1)).subscription.items.lookup 1 = some item ∧
        item.parameters.queueLimit = 1 := by
    refine ⟨_, rfl, ?_⟩
    decide
  have hqueued : ((runFrom SubscriptionRun.step (start 1 {} {} [])
      (threeValuesThen 1)).subscription.entriesOf 1).length = 3 := by
    decide
  obtain ⟨item, hlookup, hlimit⟩ := hheld
  have hle := hbounded 1 item hlookup
  rw [hqueued, hlimit] at hle
  omega

end SubscriptionRun

end OpcuaStack
