import OpcuaStack.ServerSubscription

/-!
# What the operations of a subscription change

Apart from publishing, acknowledging and deleting, every operation of a
subscription is made of four kinds of edits: it rewrites the items with their
bindings, it replaces the parameters, or it pushes a notification to the pending
queue or erases one on account of its own item.  A property which these edits
preserve is preserved by all these operations, and only the two operations on the
parameters replace them.
-/

namespace OpcuaStack

namespace ServerSubscription

/-- One edit which leaves the parameters. -/
inductive ItemEdit (s : ServerSubscription) : ServerSubscription → Prop where
  | binding (backingStarted : Bool) (bindsInFlight : List BindInFlight)
      (backingRemovals : List MonitoredItemId) (nextItemAddress : ℕ)
      (nextMonitoredItemId nextBackingClientHandle : UInt32)
      (items : KeyedMap MonitoredItemId Item) :
      ItemEdit s { s with
        backingStarted := backingStarted
        bindsInFlight := bindsInFlight
        backingRemovals := backingRemovals
        nextItemAddress := nextItemAddress
        nextMonitoredItemId := nextMonitoredItemId
        nextBackingClientHandle := nextBackingClientHandle
        items := items }
  | push (queued : QueuedNotification) : ItemEdit s (s.pushPending queued)
  | erase (owner : MonitoredItemId) (index : ℕ)
      (howner : ∀ queued, s.pendingNotifications[index]? = some queued →
        queued.sourceItemId = owner) :
      ItemEdit s (s.erasePending owner index)

/-- One edit of a subscription. -/
inductive Edit (s : ServerSubscription) : ServerSubscription → Prop where
  | item {t : ServerSubscription} (h : ItemEdit s t) : Edit s t
  | parameters (parameters : SubscriptionParameters) :
      Edit s { s with parameters := parameters }

/-- Any number of edits which leave the parameters. -/
def ItemEdits (s t : ServerSubscription) : Prop :=
  Relation.ReflTransGen ItemEdit s t

/-- Any number of edits. -/
def Edits (s t : ServerSubscription) : Prop := Relation.ReflTransGen Edit s t

namespace ItemEdits

theorem refl (s : ServerSubscription) : ItemEdits s s :=
  Relation.ReflTransGen.refl

theorem single {s t : ServerSubscription} (h : ItemEdit s t) : ItemEdits s t :=
  Relation.ReflTransGen.single h

theorem trans {s t r : ServerSubscription} (hst : ItemEdits s t)
    (htr : ItemEdits t r) : ItemEdits s r :=
  Relation.ReflTransGen.trans hst htr

theorem edits {s t : ServerSubscription} (h : ItemEdits s t) : Edits s t :=
  Relation.ReflTransGen.mono (fun _ _ hedit => Edit.item hedit) s t h

theorem parameters {s t : ServerSubscription} (h : ItemEdits s t) :
    t.parameters = s.parameters :=
  reflTransGen_preserves (P := fun later => later.parameters = s.parameters)
    (fun earlier later hlast hearlier => by
      cases hlast <;> exact hearlier) h rfl

end ItemEdits

namespace Edits

theorem single {s t : ServerSubscription} (h : Edit s t) : Edits s t :=
  Relation.ReflTransGen.single h

theorem refl (s : ServerSubscription) : Edits s s := Relation.ReflTransGen.refl

theorem preserves {P : ServerSubscription → Prop}
    (hedit : ∀ s t, Edit s t → P s → P t) {s t : ServerSubscription}
    (h : Edits s t) (hs : P s) : P t :=
  reflTransGen_preserves hedit h hs

theorem field_eq {α : Type*} (field : ServerSubscription → α)
    (hitem : ∀ s t, ItemEdit s t → field t = field s)
    (hparameters : ∀ s parameters,
      field { s with parameters := parameters } = field s)
    {s t : ServerSubscription} (h : Edits s t) : field t = field s := by
  refine h.preserves (P := fun later => field later = field s)
    (fun earlier later hlast hearlier => ?_) rfl
  cases hlast with
  | item hedit => exact (hitem earlier later hedit).trans hearlier
  | parameters parameters => exact (hparameters earlier parameters).trans hearlier

section Frame

variable {s t : ServerSubscription} (h : Edits s t)
include h

theorem subscriptionId : t.subscriptionId = s.subscriptionId :=
  h.field_eq _ (fun _ _ hlast => by cases hlast <;> rfl) fun _ _ => rfl

theorem lastPublishTime : t.lastPublishTime = s.lastPublishTime :=
  h.field_eq _ (fun _ _ hlast => by cases hlast <;> rfl) fun _ _ => rfl

theorem retransmitQueue : t.retransmitQueue = s.retransmitQueue :=
  h.field_eq _ (fun _ _ hlast => by cases hlast <;> rfl) fun _ _ => rfl

theorem retainedNotifications :
    t.retainedNotifications = s.retainedNotifications :=
  h.field_eq _ (fun _ _ hlast => by cases hlast <;> rfl) fun _ _ => rfl

theorem nextSequenceNumber : t.nextSequenceNumber = s.nextSequenceNumber :=
  h.field_eq _ (fun _ _ hlast => by cases hlast <;> rfl) fun _ _ => rfl

end Frame

end Edits

/-! ## The queue -/

theorem enforceQueueLimit_edits (s : ServerSubscription) (item : Item) :
    ItemEdits s (s.enforceQueueLimit item) := by
  -- every index the loop collects holds a notification of this item
  have hindex : ∀ index, index ∈
      ((List.range s.pendingNotifications.length).filter fun i =>
        s.pendingNotifications[i]?.any fun queued =>
          queued.sourceItemId == item.monitoredItemId) →
      ItemEdits s (s.erasePending item.monitoredItemId index) := by
    intro index hmem
    apply ItemEdits.single
    apply ItemEdit.erase
    intro queued hqueued
    have hany := (List.mem_filter.mp hmem).2
    rw [hqueued] at hany
    simpa using hany
  unfold enforceQueueLimit
  simp only
  split
  · exact .refl s
  · split
    · split
      next index hlast =>
        exact hindex index (List.mem_of_getLast? hlast)
      next => exact .refl s
    · split
      next index hhead =>
        exact hindex index (List.mem_of_head? hhead)
      next => exact .refl s

theorem queueNotification_edits (s : ServerSubscription) (item : Item)
    (notification : NotificationData) :
    ItemEdits s (s.queueNotification item notification) :=
  (ItemEdits.single (.push _)).trans (enforceQueueLimit_edits _ item)

/-! ## Items and their bindings -/

theorem writeItem_of_lookup {s : ServerSubscription} {item stored : Item}
    (hlookup : s.items.lookup item.monitoredItemId = some stored)
    (haddress : stored.address = item.address) :
    s.writeItem item =
      { s with items := s.items.insert item.monitoredItemId item } := by
  unfold writeItem
  rw [hlookup]
  exact if_pos haddress

theorem writeItem_edits (s : ServerSubscription) (item : Item) :
    ItemEdits s (s.writeItem item) := by
  unfold writeItem
  split
  · split
    · exact .single (.binding _ _ _ _ _ _ _)
    · exact .refl s
  · exact .refl s

theorem removeBackingItem_edits (s : ServerSubscription)
    (backingItemId : MonitoredItemId) :
    ItemEdits s (s.removeBackingItem backingItemId) := by
  unfold removeBackingItem
  split
  · exact .refl s
  · exact .single (.binding _ _ _ _ _ _ _)

theorem startBackingSubscription_edits (s : ServerSubscription)
    (createSubscription : StatusOr Unit) :
    ItemEdits s (s.startBackingSubscription createSubscription).1 := by
  unfold startBackingSubscription
  split
  · exact .refl s
  · split
    · exact .refl s
    · exact .single (.binding _ _ _ _ _ _ _)

theorem takeClientHandle_edits (s : ServerSubscription) :
    ItemEdits s s.takeClientHandle :=
  .single (.binding _ _ _ _ _ _ _)

theorem emplaceItem_edits (s : ServerSubscription) (item : Item) :
    ItemEdits s (s.emplaceItem item) :=
  .single (.binding _ _ _ _ _ _ _)

theorem eraseItem_edits (s : ServerSubscription)
    (monitoredItemId : MonitoredItemId) :
    ItemEdits s (s.eraseItem monitoredItemId) :=
  .single (.binding _ _ _ _ _ _ _)

theorem queueDataChange_edits (s : ServerSubscription) (item : Item)
    (dataValue : DataValue) : ItemEdits s (s.queueDataChange item dataValue) := by
  unfold queueDataChange
  split
  · exact .refl s
  · split
    · exact .refl s
    · exact (s.writeItem_edits _).trans (queueNotification_edits _ _ _)

theorem queueEventFields_edits (s : ServerSubscription) (item : Item)
    (eventFields : List Variant) :
    ItemEdits s (s.queueEventFields item eventFields) := by
  unfold queueEventFields
  split
  · exact .refl s
  · exact queueNotification_edits _ _ _

theorem queueItemStatus_edits (s : ServerSubscription) (item : Item)
    (status : Status) (now : DateTime) :
    ItemEdits s (s.queueItemStatus item status now) := by
  unfold queueItemStatus
  split
  · exact queueNotification_edits _ _ _
  · exact queueDataChange_edits _ _ _

theorem onBindResult_edits (s : ServerSubscription) (weakItem : Option ℕ)
    (backingClientHandle : UInt32) (result : MonitoredItemCreateResult)
    (now : DateTime) :
    ItemEdits s (s.onBindResult weakItem backingClientHandle result now) := by
  have habandoned : ItemEdits s
      (if result.status.isBad then s
        else s.removeBackingItem result.monitoredItemId) := by
    split
    · exact .refl s
    · exact s.removeBackingItem_edits _
  unfold onBindResult
  simp only
  split
  · exact habandoned
  · split
    · exact habandoned
    · split
      · exact (s.writeItem_edits _).trans (queueItemStatus_edits _ _ _ _)
      · exact s.writeItem_edits _

theorem bindItem_edits (s : ServerSubscription) (bind : BindInFlight)
    (env : BindEnvironment) : ItemEdits s (s.bindItem bind env) := by
  unfold bindItem
  split
  · exact s.onBindResult_edits _ _ _ _
  · exact .single (.binding _ _ _ _ _ _ _)

theorem rebindItem_edits (s : ServerSubscription) (item : Item)
    (env : BindEnvironment) : ItemEdits s (s.rebindItem item env).1 := by
  unfold rebindItem
  split
  · exact s.writeItem_edits _
  · have hstart := s.startBackingSubscription_edits env.createSubscription
    simp only
    split
    · exact hstart.trans (writeItem_edits _ _)
    · refine hstart.trans ?_
      refine (removeBackingItem_edits _ item.backingItemId).trans ?_
      refine ItemEdits.trans ?_ (bindItem_edits _ _ env)
      exact (takeClientHandle_edits _).trans (writeItem_edits _ _)

/-! ## Operations -/

/-- A loop whose every round only edits, only edits. -/
theorem collectResults_edits {α β : Type}
    {body : ServerSubscription → α → ServerSubscription × β}
    (hbody : ∀ s element, ItemEdits s (body s element).1)
    (s : ServerSubscription) (elements : List α) :
    ItemEdits s (collectResults body s elements).1 :=
  collectResults_invariant (P := ItemEdits s)
    (fun t element h => h.trans (hbody t element)) (.refl s) elements

theorem onNotification_edits (s : ServerSubscription)
    (notification : ItemNotification) :
    ItemEdits s (s.onNotification notification) := by
  unfold onNotification
  split
  · exact .refl s
  · split
    · exact queueDataChange_edits _ _ _
    · exact queueEventFields_edits _ _ _

theorem completeBind_edits (s : ServerSubscription) (index : ℕ)
    (results : List MonitoredItemCreateResult) (now : DateTime) :
    ItemEdits s (s.completeBind index results now) := by
  unfold completeBind
  split
  · exact .refl s
  · refine ItemEdits.trans ?_ (onBindResult_edits _ _ _ _ now)
    exact .single (.binding _ _ _ _ _ _ _)

theorem onBackingEvent_edits (s : ServerSubscription)
    (event : BackingEvent) : ItemEdits s (s.onBackingEvent event) := by
  cases event with
  | notifications notifications =>
      exact runFrom_invariant_of_step (P := ItemEdits s)
        (fun t notification h => h.trans (t.onNotification_edits notification))
        (.refl s) notifications
  | error status clock =>
      refine runFrom_invariant_of_step (P := ItemEdits s)
        (fun t monitoredItemId h => ?_) (.refl s) s.items.keys
      split
      · exact h.trans (queueItemStatus_edits _ _ _ _)
      · exact h
  | bindFinished index results now => exact s.completeBind_edits _ _ _

theorem modify_edits (s : ServerSubscription)
    (request : ModifySubscriptionRequest) : Edits s (s.modify request).1 := by
  unfold modify
  split
  · exact .refl s
  · exact .single (.parameters _)

theorem setPublishingEnabled_edits (s : ServerSubscription)
    (publishingEnabled : Bool) :
    Edits s (s.setPublishingEnabled publishingEnabled) :=
  .single (.parameters _)

theorem createMonitoredItem_edits (s : ServerSubscription)
    (source : MonitoredItemCreateRequest) (env : BindEnvironment) :
    ItemEdits s (s.createMonitoredItem source env).1 := by
  unfold createMonitoredItem
  simp only
  have hrebound := fun item : Item =>
    (s.emplaceItem_edits item).trans (rebindItem_edits _ item env)
  split
  · exact (hrebound _).trans (eraseItem_edits _ _)
  · exact hrebound _

theorem createMonitoredItems_edits (s : ServerSubscription)
    (request : CreateMonitoredItemsRequest) (envs : ℕ → BindEnvironment) :
    ItemEdits s (s.createMonitoredItems request envs).1 := by
  unfold createMonitoredItems
  split
  · exact .refl s
  · exact collectResults_edits
      (fun t source => t.createMonitoredItem_edits _ _) s _

theorem modifyMonitoredItem_edits (s : ServerSubscription)
    (source : MonitoredItemModifyRequest) (env : BindEnvironment) :
    ItemEdits s (s.modifyMonitoredItem source env).1 := by
  unfold modifyMonitoredItem
  split
  · exact .refl s
  · exact rebindItem_edits _ _ env

theorem modifyMonitoredItems_edits (s : ServerSubscription)
    (request : ModifyMonitoredItemsRequest) (envs : ℕ → BindEnvironment) :
    ItemEdits s (s.modifyMonitoredItems request envs).1 := by
  unfold modifyMonitoredItems
  split
  · exact .refl s
  · exact collectResults_edits
      (fun t source => t.modifyMonitoredItem_edits _ _) s _

theorem deleteMonitoredItem_edits (s : ServerSubscription)
    (monitoredItemId : MonitoredItemId) :
    ItemEdits s (s.deleteMonitoredItem monitoredItemId).1 := by
  unfold deleteMonitoredItem
  split
  · exact .refl s
  · exact (s.removeBackingItem_edits _).trans (eraseItem_edits _ _)

theorem deleteMonitoredItems_cases (s : ServerSubscription)
    (request : DeleteMonitoredItemsRequest) :
    (s.deleteMonitoredItems request).1 = s ∨
      request.subscriptionId = s.subscriptionId ∧
        ∃ t, ItemEdits s t ∧
          (s.deleteMonitoredItems request).1 =
            t.removePending request.monitoredItemIds := by
  unfold deleteMonitoredItems
  split
  · exact .inl rfl
  next hid =>
    refine .inr ⟨not_not.mp hid, _, ?_, rfl⟩
    exact collectResults_edits deleteMonitoredItem_edits s _

theorem setMonitoringMode_edits (s : ServerSubscription)
    (request : SetMonitoringModeRequest) :
    ItemEdits s (s.setMonitoringMode request).1 := by
  unfold setMonitoringMode
  split
  · exact .refl s
  · refine collectResults_edits (fun t monitoredItemId => ?_) s _
    unfold setItemMonitoringMode
    split
    · exact .refl t
    · exact .single (.binding _ _ _ _ _ _ _)

/-! ## Publishing and acknowledging -/

/-- `has_publishable_notifications` of `TryPublish`. -/
def hasPublishableNotifications (s : ServerSubscription) : Bool :=
  s.parameters.publishingEnabled && !s.pendingNotifications.isEmpty

/-- The three ways in which `TryPublish` ends. -/
inductive Publishes (s : ServerSubscription) (now : DateTime) :
    ServerSubscription × Option PublishResponse → Prop where
  | waits (hready : (s.primePublishCycle now).isPublishReady now = false) :
      Publishes s now (s.primePublishCycle now, none)
  | keepAlive (hready : (s.primePublishCycle now).isPublishReady now = true)
      (hnothing :
        (s.primePublishCycle now).hasPublishableNotifications = false) :
      Publishes s now
        (((s.primePublishCycle now).publishKeepAlive now).1,
          some ((s.primePublishCycle now).publishKeepAlive now).2)
  | data (hready : (s.primePublishCycle now).isPublishReady now = true)
      (hpublishable :
        (s.primePublishCycle now).hasPublishableNotifications = true) :
      Publishes s now
        (((s.primePublishCycle now).publishPending now).1,
          some ((s.primePublishCycle now).publishPending now).2)

theorem tryPublish_publishes (s : ServerSubscription) (now : DateTime) :
    s.Publishes now (s.tryPublish now) := by
  unfold tryPublish
  simp only
  split
  next hnothing =>
    have hnothing' :
        (s.primePublishCycle now).hasPublishableNotifications = false := by
      rw [Bool.not_eq_true'] at hnothing
      exact hnothing
    split
    next hready => exact .waits (by simpa using hready)
    next hready => exact .keepAlive (by simpa using hready) hnothing'
  next hpublishable =>
    have hpublishable' :
        (s.primePublishCycle now).hasPublishableNotifications = true := by
      simpa [hasPublishableNotifications] using hpublishable
    split
    next hready => exact .waits (by simpa using hready)
    next hready => exact .data (by simpa using hready) hpublishable'

theorem tryPublish_keeps {β : Type} {part : ServerSubscription → β}
    (hkeepAlive : ∀ s now, part (publishKeepAlive s now).1 = part s)
    (hpending : ∀ s now, part (publishPending s now).1 = part s)
    {s : ServerSubscription} {now : DateTime}
    (hprime : part (s.primePublishCycle now) = part s) :
    part (s.tryPublish now).1 = part s := by
  have hpublishes := s.tryPublish_publishes now
  generalize s.tryPublish now = result at hpublishes ⊢
  cases hpublishes with
  | waits _ => exact hprime
  | keepAlive _ _ => exact (hkeepAlive _ now).trans hprime
  | data _ _ => exact (hpending _ now).trans hprime

theorem primePublishCycle_eq (s : ServerSubscription) (now : DateTime) :
    s.primePublishCycle now =
      { s with lastPublishTime := (s.primePublishCycle now).lastPublishTime } := by
  unfold primePublishCycle
  split <;> rfl

/-- What can happen to a subscription inside its session. -/
inductive Change (s : ServerSubscription) : ServerSubscription → Prop where
  | edits {t : ServerSubscription} (h : Edits s t) : Change s t
  | deletes (request : DeleteMonitoredItemsRequest) :
      Change s (s.deleteMonitoredItems request).1
  | primes (now : DateTime) : Change s (s.primePublishCycle now)
  | publishes (now : DateTime) : Change s (s.tryPublish now).1
  | acknowledges (sequenceNumber : UInt32) :
      Change s (s.acknowledgeOne sequenceNumber).1

/-- A change which neither publishes nor acknowledges. -/
inductive QuietChange (s : ServerSubscription) : ServerSubscription → Prop where
  | edits {t : ServerSubscription} (h : Edits s t) : QuietChange s t
  | deletes (request : DeleteMonitoredItemsRequest) :
      QuietChange s (s.deleteMonitoredItems request).1
  | primes (now : DateTime) : QuietChange s (s.primePublishCycle now)

theorem QuietChange.change {s t : ServerSubscription} (h : QuietChange s t) :
    Change s t := by
  cases h with
  | edits hedits => exact .edits hedits
  | deletes request => exact .deletes request
  | primes now => exact .primes now

end ServerSubscription

end OpcuaStack
