import OpcuaStack.GuardedRun
import OpcuaStack.KeyedMap
import OpcuaStack.QueueLedger
import OpcuaStack.SubscriptionMessages

/-!
# The server subscription

`session/server_subscription.cpp`.  A subscription owns monitored items, one
queue of pending notifications shared by all of them, and the messages
retained for republishing.  Items are bound to a backing subscription by
asynchronous requests; what the backing subscription answers, and the clock,
are inputs of the operations which read them.

The field `queueHistory` is a ghost: it records each change of the pending
queue and no operation reads it.
-/

namespace OpcuaStack

def kDefaultKeepAliveCount : UInt32 := 3

def kMaxRetransmitQueueNotifications : ℕ := 1024

def kMaxNotificationsPerPublishResponse : ℕ := 1000

def isAttributeEventNotifier (attributeId : AttributeId) : Bool :=
  attributeId == .eventNotifier

def isSupportedMonitoredAttribute (attributeId : AttributeId) : Bool :=
  attributeId == .value || isAttributeEventNotifier attributeId

def reviseParameters (parameters : SubscriptionParameters) :
    SubscriptionParameters :=
  let keepAlive :=
    if parameters.maxKeepAliveCount = 0 then kDefaultKeepAliveCount
    else parameters.maxKeepAliveCount
  let minLifetimeCount := 3 * keepAlive
  { parameters with
    maxKeepAliveCount := keepAlive
    lifetimeCount :=
      if parameters.lifetimeCount < minLifetimeCount then minLifetimeCount
      else parameters.lifetimeCount }

/-! ## State -/

/-- `ServerSubscription::Item`.  Items are shared objects; `address` is the
identity which a `std::weak_ptr` to one of them keeps. -/
structure Item where
  address : ℕ
  monitoredItemId : MonitoredItemId
  itemToMonitor : ReadValueId
  indexRange : Option ByteText
  monitoringMode : MonitoringMode
  parameters : MonitoringParameters
  monitoredItemStatus : StatusCode := .bad
  backingClientHandle : UInt32 := 0
  backingItemId : MonitoredItemId := 0
  bindingRequested : Bool := false
  lastReportedValue : Option DataValue := none

structure QueuedNotification where
  sourceItemId : MonitoredItemId
  notification : NotificationData

/-- A bind which was spawned and whose answer has not arrived. -/
structure BindInFlight where
  weakItem : Option ℕ
  backingClientHandle : UInt32
  request : MonitoredItemCreateRequest

structure ServerSubscription where
  subscriptionId : SubscriptionId
  parameters : SubscriptionParameters
  traceParent : ByteText := []
  /-- Whether `backing_subscription_state_` has been created. -/
  backingStarted : Bool := false
  bindsInFlight : List BindInFlight := []
  /-- The ids for which a `RemoveItems` was spawned, in order. -/
  backingRemovals : List MonitoredItemId := []
  nextItemAddress : ℕ := 0
  nextMonitoredItemId : UInt32 := 1
  nextBackingClientHandle : UInt32 := 1
  nextSequenceNumber : UInt32 := 1
  initialMessageSent : Bool := false
  lastPublishTime : Option DateTime
  items : KeyedMap MonitoredItemId Item := ∅
  pendingNotifications : List QueuedNotification := []
  retransmitQueue : List NotificationMessage := []
  retainedNotifications : ℕ := 0
  queueHistory : List (QueueEffect MonitoredItemId NotificationData) := []

/-- What a bind meets outside the subscription: the answer of
`create_subscription` if it is called, the answer of `AddItems` if the spawned
coroutine runs to its end at once, and the clock read for a failed bind. -/
structure BindEnvironment where
  createSubscription : StatusOr Unit := .ok ()
  immediateResults : Option (List MonitoredItemCreateResult) := none
  now : DateTime := {}

namespace ServerSubscription

def create (subscriptionId : SubscriptionId) (parameters : SubscriptionParameters)
    (publishCycleStartTime : DateTime) (traceParent : ByteText) :
    ServerSubscription where
  subscriptionId := subscriptionId
  parameters := reviseParameters parameters
  traceParent := traceParent
  lastPublishTime := some publishCycleStartTime

/-! ## The pending queue -/

def pushPending (s : ServerSubscription) (queued : QueuedNotification) :
    ServerSubscription :=
  { s with
    pendingNotifications := s.pendingNotifications ++ [queued]
    queueHistory := s.queueHistory ++
      [.push queued.sourceItemId queued.notification] }

/-- `pending_notifications_.erase` at one index, for the given item. -/
def erasePending (s : ServerSubscription) (owner : MonitoredItemId)
    (index : ℕ) : ServerSubscription :=
  { s with
    pendingNotifications := s.pendingNotifications.eraseIdx index
    queueHistory := s.queueHistory ++ [.discard owner index] }

/-- The `std::remove_if` of `DeleteMonitoredItems`. -/
def removePending (s : ServerSubscription) (named : List MonitoredItemId) :
    ServerSubscription :=
  { s with
    pendingNotifications := s.pendingNotifications.filter fun queued =>
      !decide (queued.sourceItemId ∈ named)
    queueHistory := s.queueHistory ++ [.remove named] }

/-- The `pop_front` loop of `TryPublish`. -/
def popPending (s : ServerSubscription) (count : ℕ) : ServerSubscription :=
  { s with
    pendingNotifications := s.pendingNotifications.drop count
    queueHistory := s.queueHistory ++ [.publish count] }

def enforceQueueLimit (s : ServerSubscription) (item : Item) :
    ServerSubscription :=
  let queueSize := max 1 item.parameters.queueSize.toNat
  let indices := (List.range s.pendingNotifications.length).filter fun i =>
    s.pendingNotifications[i]?.any fun queued =>
      queued.sourceItemId == item.monitoredItemId
  if indices.length ≤ queueSize then s
  else if !item.parameters.discardOldest then
    match indices.getLast? with
    | some index => s.erasePending item.monitoredItemId index
    | none => s
  else
    match indices.head? with
    | some index => s.erasePending item.monitoredItemId index
    | none => s

def queueNotification (s : ServerSubscription) (item : Item)
    (notification : NotificationData) : ServerSubscription :=
  (s.pushPending ⟨item.monitoredItemId, notification⟩).enforceQueueLimit item

/-! ## Items -/

/-- Write an item back through its reference.  The map shows the write only if
the item is the object it holds. -/
def writeItem (s : ServerSubscription) (item : Item) : ServerSubscription :=
  match s.items.lookup item.monitoredItemId with
  | some stored =>
      if stored.address = item.address then
        { s with items := s.items.insert item.monitoredItemId item }
      else s
  | none => s

/-- Read an item through its reference. -/
def readItem (s : ServerSubscription) (item : Item) : Item :=
  match s.items.lookup item.monitoredItemId with
  | some stored => if stored.address = item.address then stored else item
  | none => item

def lockItem (s : ServerSubscription) (weakItem : Option ℕ) : Option Item :=
  weakItem.bind fun address =>
    (s.items.entries.map Sigma.snd).find? fun item => item.address == address

def passesDeadband (item : Item) (dataValue : DataValue) : Bool :=
  match item.parameters.filter with
  | some (.dataChange filter) =>
      if filter.deadbandType ≠ .absolute ∨ filter.deadbandValue ≤ 0 then true
      else
        match item.lastReportedValue with
        | none => true
        | some last =>
            if last.statusCode ≠ dataValue.statusCode then true
            else
              match last.value.getDouble, dataValue.value.getDouble with
              | some previous, some current =>
                  decide (filter.deadbandValue ≤ |current - previous|)
              | _, _ => true
  | _ => true

def queueDataChange (s : ServerSubscription) (item : Item)
    (dataValue : DataValue) : ServerSubscription :=
  if item.monitoringMode ≠ .reporting then s
  else if !passesDeadband item dataValue then s
  else
    let item := { item with lastReportedValue := some dataValue }
    (s.writeItem item).queueNotification item
      (.dataChange [⟨item.parameters.clientHandle, dataValue⟩])

def queueEventFields (s : ServerSubscription) (item : Item)
    (eventFields : List Variant) : ServerSubscription :=
  if item.monitoringMode ≠ .reporting then s
  else
    s.queueNotification item
      (.events [⟨item.parameters.clientHandle, eventFields⟩])

def queueItemStatus (s : ServerSubscription) (item : Item) (status : Status)
    (now : DateTime) : ServerSubscription :=
  if isAttributeEventNotifier item.itemToMonitor.attributeId then
    s.queueNotification item (.statusChange status.code)
  else s.queueDataChange item (.ofStatus status.code now)

/-! ## The backing subscription -/

/-- `StartBackingSubscription`; `createSubscription` is the callback's answer. -/
def startBackingSubscription (s : ServerSubscription)
    (createSubscription : StatusOr Unit) : ServerSubscription × Status :=
  if s.backingStarted then (s, .good)
  else
    match createSubscription with
    | .error status _ => (s, status)
    | .ok () => ({ s with backingStarted := true }, .good)

def removeBackingItem (s : ServerSubscription)
    (backingItemId : MonitoredItemId) : ServerSubscription :=
  if backingItemId = 0 ∨ !s.backingStarted then s
  else { s with backingRemovals := s.backingRemovals ++ [backingItemId] }

def onBindResult (s : ServerSubscription) (weakItem : Option ℕ)
    (backingClientHandle : UInt32) (result : MonitoredItemCreateResult)
    (now : DateTime) : ServerSubscription :=
  let abandoned :=
    if result.status.isBad then s else s.removeBackingItem result.monitoredItemId
  match s.lockItem weakItem with
  | none => abandoned
  | some item =>
      if item.backingClientHandle ≠ backingClientHandle then abandoned
      else
        let item := { item with monitoredItemStatus := result.status.code }
        if result.status.isBad then
          (s.writeItem item).queueItemStatus item result.status now
        else
          s.writeItem { item with backingItemId := result.monitoredItemId }

/-- The end of the coroutine of `BindItem`. -/
def finishBind (s : ServerSubscription) (bind : BindInFlight)
    (results : List MonitoredItemCreateResult) (now : DateTime) :
    ServerSubscription :=
  s.onBindResult bind.weakItem bind.backingClientHandle
    (results.head?.getD { status := .ofCode .bad }) now

def bindItem (s : ServerSubscription) (bind : BindInFlight)
    (env : BindEnvironment) : ServerSubscription :=
  match env.immediateResults with
  | some results => s.finishBind bind results env.now
  | none => { s with bindsInFlight := s.bindsInFlight ++ [bind] }

def completeBind (s : ServerSubscription) (index : ℕ)
    (results : List MonitoredItemCreateResult) (now : DateTime) :
    ServerSubscription :=
  match s.bindsInFlight[index]? with
  | none => s
  | some bind =>
      ServerSubscription.finishBind
        { s with bindsInFlight := s.bindsInFlight.eraseIdx index }
        bind results now

def takeClientHandle (s : ServerSubscription) : ServerSubscription :=
  { s with nextBackingClientHandle := s.nextBackingClientHandle + 1 }

/-- `RebindItem`.  The item comes back as its reference shows it afterwards. -/
def rebindItem (s : ServerSubscription) (item : Item) (env : BindEnvironment) :
    ServerSubscription × Item :=
  if !isSupportedMonitoredAttribute item.itemToMonitor.attributeId then
    let item := { item with monitoredItemStatus := .badAttributeIdInvalid }
    (s.writeItem item, item)
  else
    let (s, startStatus) := s.startBackingSubscription env.createSubscription
    if startStatus.isBad then
      let item := { item with monitoredItemStatus := startStatus.code }
      (s.writeItem item, item)
    else
      let s := s.removeBackingItem item.backingItemId
      let item := { item with
        bindingRequested := true
        backingItemId := 0
        monitoredItemStatus := .good
        backingClientHandle := s.nextBackingClientHandle }
      let s := s.takeClientHandle.writeItem item
      let request : MonitoredItemCreateRequest :=
        { itemToMonitor := item.itemToMonitor
          indexRange := item.indexRange
          monitoringMode := item.monitoringMode
          requestedParameters :=
            { item.parameters with clientHandle := item.backingClientHandle } }
      let weakItem :=
        (s.items.lookup item.monitoredItemId).map fun stored => stored.address
      let s := s.bindItem ⟨weakItem, item.backingClientHandle, request⟩ env
      (s, s.readItem item)

/-- `OnNotifications`, for one notification. -/
def onNotification (s : ServerSubscription) (notification : ItemNotification) :
    ServerSubscription :=
  match (s.items.entries.map Sigma.snd).find? fun item =>
      item.backingClientHandle == notification.clientHandle with
  | none => s
  | some item =>
      match notification with
      | .dataChange dataChange => s.queueDataChange item dataChange.value
      | .event event => s.queueEventFields item event.eventFields

def onNotifications (s : ServerSubscription)
    (notifications : List ItemNotification) : ServerSubscription :=
  notifications.foldl onNotification s

/-- `OnSubscriptionError`; `clock` is the time read for each item. -/
def onSubscriptionError (s : ServerSubscription) (status : Status)
    (clock : MonitoredItemId → DateTime) : ServerSubscription :=
  s.items.keys.foldl
    (fun s monitoredItemId =>
      match s.items.lookup monitoredItemId with
      | some item => s.queueItemStatus item status (clock monitoredItemId)
      | none => s)
    s

/-- What can arrive from the backing subscription between two calls. -/
inductive BackingEvent where
  | notifications (notifications : List ItemNotification)
  | error (status : Status) (clock : MonitoredItemId → DateTime)
  | bindFinished (index : ℕ) (results : List MonitoredItemCreateResult)
      (now : DateTime)

def onBackingEvent (s : ServerSubscription) : BackingEvent → ServerSubscription
  | .notifications notifications => s.onNotifications notifications
  | .error status clock => s.onSubscriptionError status clock
  | .bindFinished index results now => s.completeBind index results now

/-! ## Services -/

def modify (s : ServerSubscription) (request : ModifySubscriptionRequest) :
    ServerSubscription × ModifySubscriptionResponse :=
  if request.subscriptionId ≠ s.subscriptionId then
    (s, { status := .ofCode .badSubscriptionIdInvalid })
  else
    let parameters := reviseParameters request.parameters
    ({ s with parameters := parameters },
      { status := .good
        revisedPublishingIntervalMs := parameters.publishingIntervalMs
        revisedLifetimeCount := parameters.lifetimeCount
        revisedMaxKeepAliveCount := parameters.maxKeepAliveCount })

def setPublishingEnabled (s : ServerSubscription) (publishingEnabled : Bool) :
    ServerSubscription :=
  { s with parameters :=
      { s.parameters with publishingEnabled := publishingEnabled } }

/-- `next_monitored_item_id_++` and `items_.emplace`, which keeps an item already
present under the id. -/
def emplaceItem (s : ServerSubscription) (item : Item) : ServerSubscription :=
  { s with
    nextItemAddress := s.nextItemAddress + 1
    nextMonitoredItemId := s.nextMonitoredItemId + 1
    items :=
      if (s.items.lookup item.monitoredItemId).isSome then s.items
      else s.items.insert item.monitoredItemId item }

def eraseItem (s : ServerSubscription) (monitoredItemId : MonitoredItemId) :
    ServerSubscription :=
  { s with items := s.items.erase monitoredItemId }

/-- One round of the loop of `CreateMonitoredItems`. -/
def createMonitoredItem (s : ServerSubscription)
    (source : MonitoredItemCreateRequest) (env : BindEnvironment) :
    ServerSubscription × MonitoredItemCreateResult :=
  let item : Item :=
    { address := s.nextItemAddress
      monitoredItemId := s.nextMonitoredItemId
      itemToMonitor := source.itemToMonitor
      indexRange := source.indexRange
      monitoringMode := source.monitoringMode
      parameters := source.requestedParameters }
  let (s, item) := (s.emplaceItem item).rebindItem item env
  let result : MonitoredItemCreateResult :=
    { status := .ofCode item.monitoredItemStatus
      monitoredItemId :=
        if item.monitoredItemStatus = .good then item.monitoredItemId else 0
      revisedSamplingIntervalMs := item.parameters.samplingIntervalMs
      revisedQueueSize := max 1 item.parameters.queueSize }
  if item.monitoredItemStatus ≠ .good then
    (s.eraseItem item.monitoredItemId, result)
  else (s, result)

/-- `CreateMonitoredItems`; each item comes with what its bind meets. -/
def createMonitoredItems (s : ServerSubscription)
    (request : CreateMonitoredItemsRequest) (envs : ℕ → BindEnvironment) :
    ServerSubscription × CreateMonitoredItemsResponse :=
  if request.subscriptionId ≠ s.subscriptionId then
    (s, { status := .ofCode .badSubscriptionIdInvalid })
  else
    let (s, results) := collectResults
      (fun s (source, index) => s.createMonitoredItem source (envs index))
      s request.itemsToCreate.zipIdx
    (s, { status := .good, results := results })

def modifyMonitoredItem (s : ServerSubscription)
    (source : MonitoredItemModifyRequest) (env : BindEnvironment) :
    ServerSubscription × MonitoredItemModifyResult :=
  match s.items.lookup source.monitoredItemId with
  | none => (s, { status := .ofCode .badMonitoredItemIdInvalid })
  | some item =>
      let item := { item with parameters := source.requestedParameters }
      let (s, item) := s.rebindItem item env
      (s,
        { status := .ofCode item.monitoredItemStatus
          revisedSamplingIntervalMs := item.parameters.samplingIntervalMs
          revisedQueueSize := max 1 item.parameters.queueSize })

def modifyMonitoredItems (s : ServerSubscription)
    (request : ModifyMonitoredItemsRequest) (envs : ℕ → BindEnvironment) :
    ServerSubscription × ModifyMonitoredItemsResponse :=
  if request.subscriptionId ≠ s.subscriptionId then
    (s, { status := .ofCode .badSubscriptionIdInvalid })
  else
    let (s, results) := collectResults
      (fun s (source, index) => s.modifyMonitoredItem source (envs index))
      s request.itemsToModify.zipIdx
    (s, { status := .good, results := results })

def deleteMonitoredItem (s : ServerSubscription)
    (monitoredItemId : MonitoredItemId) : ServerSubscription × Status :=
  match s.items.lookup monitoredItemId with
  | none => (s, .ofCode .badMonitoredItemIdInvalid)
  | some item =>
      ((s.removeBackingItem item.backingItemId).eraseItem monitoredItemId, .good)

def deleteMonitoredItems (s : ServerSubscription)
    (request : DeleteMonitoredItemsRequest) :
    ServerSubscription × StatusListResponse :=
  if request.subscriptionId ≠ s.subscriptionId then
    (s, { serviceResult := .ofCode .badSubscriptionIdInvalid })
  else
    let (s, results) :=
      collectResults deleteMonitoredItem s request.monitoredItemIds
    (s.removePending request.monitoredItemIds, { results := results })

def setItemMonitoringMode (s : ServerSubscription) (mode : MonitoringMode)
    (monitoredItemId : MonitoredItemId) : ServerSubscription × Status :=
  match s.items.lookup monitoredItemId with
  | none => (s, .ofCode .badMonitoredItemIdInvalid)
  | some item =>
      ({ s with items :=
          s.items.insert monitoredItemId { item with monitoringMode := mode } },
        .good)

def setMonitoringMode (s : ServerSubscription)
    (request : SetMonitoringModeRequest) :
    ServerSubscription × StatusListResponse :=
  if request.subscriptionId ≠ s.subscriptionId then
    (s, { serviceResult := .ofCode .badSubscriptionIdInvalid })
  else
    let (s, results) := collectResults
      (fun s => s.setItemMonitoringMode request.monitoringMode)
      s request.monitoredItemIds
    (s, { results := results })

/-! ## Publishing -/

def hasPendingNotifications (s : ServerSubscription) : Bool :=
  !s.pendingNotifications.isEmpty

def publishingInterval (s : ServerSubscription) : Duration :=
  .fromMilliseconds (max 1 (Double.truncate s.parameters.publishingIntervalMs))

def keepAliveInterval (s : ServerSubscription) : Duration :=
  .fromMilliseconds (wrapInt64 (s.publishingInterval.inMilliseconds *
    (max 1 s.parameters.maxKeepAliveCount.toNat : ℕ)))

def isPublishReady (s : ServerSubscription) (now : DateTime) : Bool :=
  match s.lastPublishTime with
  | none => false
  | some lastPublishTime =>
      let elapsed := (now.sub lastPublishTime).milliseconds
      if s.initialMessageSent && s.parameters.publishingEnabled &&
          !s.pendingNotifications.isEmpty then
        decide (s.publishingInterval.milliseconds ≤ elapsed)
      else if !s.initialMessageSent then
        decide (s.publishingInterval.milliseconds ≤ elapsed)
      else if !s.parameters.publishingEnabled ||
          s.pendingNotifications.isEmpty then
        decide (s.keepAliveInterval.milliseconds ≤ elapsed)
      else if !s.pendingNotifications.isEmpty then
        decide (s.publishingInterval.milliseconds ≤ elapsed)
      else decide (s.keepAliveInterval.milliseconds ≤ elapsed)

def primePublishCycle (s : ServerSubscription) (now : DateTime) :
    ServerSubscription :=
  if !s.parameters.publishingEnabled || s.lastPublishTime.isSome then s
  else { s with lastPublishTime := some now }

def nextPublishDeadline (s : ServerSubscription) : Option DateTime :=
  s.lastPublishTime.map fun lastPublishTime =>
    if !s.initialMessageSent then lastPublishTime.add s.publishingInterval
    else
      lastPublishTime.add
        (if s.parameters.publishingEnabled && !s.pendingNotifications.isEmpty
          then s.publishingInterval else s.keepAliveInterval)

def availableSequenceNumbers (s : ServerSubscription) : List UInt32 :=
  s.retransmitQueue.map (·.sequenceNumber)

/-- The eviction loop of `TryPublish`. -/
def evictRetained : List NotificationMessage → ℕ →
    List NotificationMessage × ℕ
  | oldest :: next :: rest, retained =>
      if kMaxRetransmitQueueNotifications < retained then
        evictRetained (next :: rest)
          (retained - oldest.notificationData.length)
      else (oldest :: next :: rest, retained)
  | queue, retained => (queue, retained)

/-- The number of queued entries one publish carries. -/
def maxEntries (s : ServerSubscription) : ℕ :=
  let limit := s.parameters.maxNotificationsPerPublish
  let requested :=
    if limit = 0 then s.pendingNotifications.length else limit.toNat
  min requested
    (min kMaxNotificationsPerPublishResponse s.pendingNotifications.length)

/-- The branch of `TryPublish` which has nothing to report. -/
def publishKeepAlive (s : ServerSubscription) (now : DateTime) :
    ServerSubscription × PublishResponse :=
  let s := { s with
    lastPublishTime := some now
    initialMessageSent := true
    queueHistory := s.queueHistory ++ [.publish 0] }
  (s,
    { status := .good
      subscriptionId := s.subscriptionId
      moreNotifications := false
      notificationMessage :=
        { sequenceNumber := s.nextSequenceNumber, publishTime := now }
      availableSequenceNumbers := s.availableSequenceNumbers })

/-- The branch of `TryPublish` which drains the pending queue. -/
def publishPending (s : ServerSubscription) (now : DateTime) :
    ServerSubscription × PublishResponse :=
  let notificationData :=
    (s.pendingNotifications.take s.maxEntries).map (·.notification)
  let message : NotificationMessage :=
    { sequenceNumber := s.nextSequenceNumber
      publishTime := now
      notificationData := notificationData }
  let s := s.popPending s.maxEntries
  let (retransmitQueue, retained) := evictRetained
    (s.retransmitQueue ++ [message])
    (s.retainedNotifications + notificationData.length)
  let s := { s with
    nextSequenceNumber := s.nextSequenceNumber + 1
    retransmitQueue := retransmitQueue
    retainedNotifications := retained
    lastPublishTime := some now
    initialMessageSent := true }
  (s,
    { status := .good
      subscriptionId := s.subscriptionId
      moreNotifications := !s.pendingNotifications.isEmpty
      notificationMessage := message
      availableSequenceNumbers := s.availableSequenceNumbers })

def tryPublish (s : ServerSubscription) (now : DateTime) :
    ServerSubscription × Option PublishResponse :=
  let s := s.primePublishCycle now
  if !(s.parameters.publishingEnabled && !s.pendingNotifications.isEmpty) then
    if !s.isPublishReady now then (s, none)
    else
      let (s, response) := s.publishKeepAlive now
      (s, some response)
  else if !s.isPublishReady now then (s, none)
  else
    let (s, response) := s.publishPending now
    (s, some response)

def republish (s : ServerSubscription) (sequenceNumber : UInt32) :
    RepublishResponse :=
  match s.retransmitQueue.find? (·.sequenceNumber == sequenceNumber) with
  | none => { status := .ofCode .badMessageNotAvailable }
  | some message => { status := .good, notificationMessage := message }

def acknowledgeOne (s : ServerSubscription) (sequenceNumber : UInt32) :
    ServerSubscription × StatusCode :=
  match s.retransmitQueue.find? (·.sequenceNumber == sequenceNumber) with
  | none => (s, .badSequenceNumberUnknown)
  | some message =>
      ({ s with
          retainedNotifications :=
            s.retainedNotifications - message.notificationData.length
          retransmitQueue :=
            s.retransmitQueue.eraseP (·.sequenceNumber == sequenceNumber) },
        .good)

def acknowledge (s : ServerSubscription) (sequenceNumbers : List UInt32) :
    ServerSubscription × List StatusCode :=
  collectResults acknowledgeOne s sequenceNumbers

end ServerSubscription

end OpcuaStack
