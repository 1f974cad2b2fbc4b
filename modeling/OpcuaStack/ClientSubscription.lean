import OpcuaStack.ClientProtocolSubscription
import OpcuaStack.KeyedMap

/-!
# The subscription which the views of a client session share

`ClientSubscription` with the monitored items of `ClientProtocolSubscription`.
Several threads and coroutines work on it; a step is what one of them does up to
the end of a critical section or to its next suspension.  A view is named by its
place among those created.
-/

namespace OpcuaStack

abbrev ViewId := ℕ

/-- `ClientSubscription::ViewState`, with everything which was put into its queue
and everything which `ReadNext` has returned. -/
structure ViewState where
  pendingNotifications : List ItemNotification := []
  closeStatus : Status := .ofCode .badNoCommunication
  closed : Bool := false
  pushed : List ItemNotification := []
  returned : List ItemNotification := []

structure PendingSubscription where
  view : ViewId
  localId : UInt32 := 0
  readValueId : ReadValueId := {}
  params : MonitoringParameters := {}
  clientHandle : UInt32 := 0

/-- `server_id` stays zero until the create completes. -/
structure ItemRecord where
  view : ViewId
  serverId : MonitoredItemId := 0
deriving DecidableEq

/-! ## The protocol subscription -/

/-- What the two callbacks of an item capture. -/
structure ItemHandler where
  view : ViewId
  clientHandle : UInt32
deriving DecidableEq

/-- The part of `ClientProtocolSubscription` which keeps the monitored items. -/
structure MonitoredItemHandlers where
  publishing : ClientProtocolSubscription := { isCreated := false }
  nextClientHandle : UInt32 := 1
  handlers : KeyedMap UInt32 ItemHandler := ∅
  eventHandlers : KeyedMap UInt32 ItemHandler := ∅
  clientHandleByItemId : KeyedMap MonitoredItemId UInt32 := ∅

/-- The outcome of `CreateMonitoredItem` by the response to its request. -/
def createdItem :
    StatusOr CreateMonitoredItemsResponse → StatusOr MonitoredItemId
  | .error status hbad => .error status hbad
  | .ok response =>
      match response.results with
      | [] => .error (.ofCode .bad) (by decide)
      | result :: _ =>
          if hbad : response.status.isBad = true then
            .error response.status hbad
          else if hbad : result.status.isBad = true then
            .error result.status hbad
          else .ok result.monitoredItemId

namespace MonitoredItemHandlers

/-- `CreateMonitoredItem` up to its suspension, with the client handle which it
assigns. -/
def beginCreate (h : MonitoredItemHandlers) (handler : ItemHandler) :
    MonitoredItemHandlers × UInt32 :=
  ({ h with
      nextClientHandle := h.nextClientHandle + 1
      handlers := KeyedMap.emplace h.handlers h.nextClientHandle handler
      eventHandlers :=
        KeyedMap.emplace h.eventHandlers h.nextClientHandle handler },
    h.nextClientHandle)

def forgetHandlers (h : MonitoredItemHandlers) (clientHandle : UInt32) :
    MonitoredItemHandlers :=
  { h with
    handlers := h.handlers.erase clientHandle
    eventHandlers := h.eventHandlers.erase clientHandle }

/-- The end of `CreateMonitoredItem`. -/
def finishCreate (h : MonitoredItemHandlers) (clientHandle : UInt32) :
    StatusOr MonitoredItemId → MonitoredItemHandlers
  | .error _ _ => h.forgetHandlers clientHandle
  | .ok itemId =>
      { h with
        clientHandleByItemId :=
          KeyedMap.emplace h.clientHandleByItemId itemId clientHandle }

/-- The end of `DeleteMonitoredItem`, when its request was answered. -/
def finishDelete (h : MonitoredItemHandlers) (itemId : MonitoredItemId) :
    MonitoredItemHandlers :=
  match h.clientHandleByItemId.lookup itemId with
  | none => h
  | some clientHandle =>
      { h.forgetHandlers clientHandle with
        clientHandleByItemId := h.clientHandleByItemId.erase itemId }

/-- The callbacks which a part of a message runs: the view, and what is pushed to
it under the handle which it knows. -/
def callbacks (h : MonitoredItemHandlers) :
    NotificationData → List (ViewId × ItemNotification)
  | .dataChange monitoredItems =>
      monitoredItems.filterMap fun item =>
        (h.handlers.lookup item.clientHandle).map fun handler =>
          (handler.view, .dataChange
            { clientHandle := handler.clientHandle, value := item.value })
  | .events events =>
      events.filterMap fun event =>
        (h.eventHandlers.lookup event.clientHandle).map fun handler =>
          (handler.view, .event
            { clientHandle := handler.clientHandle
              eventFields := event.eventFields })
  | .statusChange _ => []

/-- `HandlePublishResponse`, with the callbacks which it runs. -/
def handlePublishResponse (h : MonitoredItemHandlers)
    (response : PublishResponse) :
    MonitoredItemHandlers × List (ViewId × ItemNotification) :=
  let (publishing, message) := h.publishing.handlePublishResponse response
  ({ h with publishing },
    match message with
    | none => []
    | some message => message.notificationData.flatMap h.callbacks)

end MonitoredItemHandlers

/-! ## Operations in flight -/

/-- Where the coroutine which `EnsureCreated` has spawned is. -/
inductive CreationStage where
  | creating
  | flushing
deriving DecidableEq

structure AddCall where
  view : ViewId
  requests : List MonitoredItemCreateRequest
  results : List MonitoredItemCreateResult := []

/-- A call of `RemoveItems`; it is going to remove an id which it has found to be
its view's. -/
structure RemoveCall where
  view : ViewId
  itemIds : List MonitoredItemId
  removing : Option MonitoredItemId := none
  results : List Status := []

/-- A call of `CloseView`, with the ids to remove when it has collected them. -/
structure CloseCall where
  view : ViewId
  localIds : Option (List UInt32) := none

/-- A coroutine of `SpawnCreateMonitoredItem`, with its client handle when the
request has gone out. -/
structure ItemCreate where
  item : PendingSubscription
  requested : Option UInt32 := none

/-- A `DeleteMonitoredItem`; it is issued when its request has gone out. -/
structure ItemDelete where
  serverId : MonitoredItemId
  issued : Bool := false
deriving DecidableEq

structure ReadCall where
  view : ViewId
  maxCount : ℕ

/-! ## The subscription -/

/-- An id which `AddItems` has given out, with what it stands for. -/
structure AddedItem where
  view : ViewId
  clientHandle : UInt32
  result : MonitoredItemCreateResult

def AddedItem.localId (item : AddedItem) : UInt32 := item.result.monitoredItemId

/-- A record which `RemoveItem` has erased for a view. -/
structure Removal where
  view : ViewId
  localId : UInt32
  record : ItemRecord

structure ClientSubscription where
  impl : Option MonitoredItemHandlers := none
  isCreating : Bool := false
  nextLocalId : UInt32 := 1
  itemsByLocalId : KeyedMap UInt32 ItemRecord := ∅
  pendingSubscriptions : List PendingSubscription := []
  views : List ViewId := []
  viewStates : List ViewState := []
  creation : Option CreationStage := none
  addCalls : List AddCall := []
  removeCalls : List RemoveCall := []
  closeCalls : List CloseCall := []
  creates : List ItemCreate := []
  deletes : List ItemDelete := []
  readCalls : List ReadCall := []
  added : List AddedItem := []
  removals : List Removal := []
  createdItems : List MonitoredItemId := []
  deletedItems : List MonitoredItemId := []

namespace ClientSubscription

/-! ## Notifications -/

def pushNotification (s : ClientSubscription) (view : ViewId)
    (notification : ItemNotification) : ClientSubscription :=
  { s with
    viewStates := s.viewStates.modify view fun state =>
      if state.closed then state
      else
        { state with
          pendingNotifications := state.pendingNotifications ++ [notification]
          pushed := state.pushed ++ [notification] } }

def pushNotifications (s : ClientSubscription)
    (notifications : List (ViewId × ItemNotification)) : ClientSubscription :=
  notifications.foldl (fun s (view, notification) =>
    s.pushNotification view notification) s

/-- A turn of the loop of `ReadNext`: it returns, or it waits to be woken. -/
def readNext (s : ClientSubscription) (call : ReadCall) : ClientSubscription :=
  match s.viewStates[call.view]? with
  | none => s
  | some state =>
      if state.closed then
        s
      else if state.pendingNotifications ≠ [] ∨ call.maxCount = 0 then
        { s with
          viewStates := s.viewStates.modify call.view fun state =>
            { state with
              pendingNotifications :=
                state.pendingNotifications.drop call.maxCount
              returned := state.returned ++
                state.pendingNotifications.take call.maxCount } }
      else
        { s with readCalls := s.readCalls ++ [call] }

def readerWakes (s : ClientSubscription) (index : ℕ) : ClientSubscription :=
  match s.readCalls[index]? with
  | none => s
  | some call =>
      { s with readCalls := s.readCalls.eraseIdx index }.readNext call

def publishResponse (s : ClientSubscription) (response : PublishResponse) :
    ClientSubscription :=
  match s.impl with
  | none => s
  | some handlers =>
      let (handlers, notifications) := handlers.handlePublishResponse response
      { s with impl := some handlers }.pushNotifications notifications

/-! ## Views -/

def createView (s : ClientSubscription) : ClientSubscription :=
  { s with
    views := s.views ++ [s.viewStates.length]
    viewStates := s.viewStates ++ [{}] }

/-- Drops the local id and, if the create has completed, spawns the deletion of
the item on the server. -/
def removeItem (s : ClientSubscription) (view : ViewId) (localId : UInt32) :
    ClientSubscription :=
  let s :=
    { s with
      pendingSubscriptions :=
        s.pendingSubscriptions.filter (·.localId ≠ localId) }
  match s.itemsByLocalId.lookup localId with
  | none => s
  | some record =>
      { s with
        itemsByLocalId := s.itemsByLocalId.erase localId
        removals := s.removals ++ [{ view, localId, record }]
        deletes :=
          if record.serverId = 0 then s.deletes
          else s.deletes ++ [{ serverId := record.serverId }] }

/-- `CloseView` up to the end of its first critical section. -/
def closeView (s : ClientSubscription) (view : ViewId) (status : Status) :
    ClientSubscription :=
  match s.viewStates[view]? with
  | none => s
  | some state =>
      if state.closed then
        s
      else
        { s with
          viewStates := s.viewStates.set view
            { state with
              closed := true
              closeStatus := status
              pendingNotifications := [] }
          closeCalls := s.closeCalls ++ [{ view }] }

/-- The second critical section of `CloseView`, or the removal of an id. -/
def closeNext (s : ClientSubscription) (index : ℕ) : ClientSubscription :=
  match s.closeCalls[index]? with
  | none => s
  | some call =>
      match call.localIds with
      | none =>
          { s with
            views := s.views.filter (· ≠ call.view)
            closeCalls := s.closeCalls.set index
              { call with
                localIds := some (s.itemsByLocalId.keysWhere
                  fun _ record => record.view == call.view) } }
      | some [] => { s with closeCalls := s.closeCalls.eraseIdx index }
      | some (localId :: rest) =>
          { s with
            closeCalls :=
              s.closeCalls.set index { call with localIds := some rest }
            }.removeItem call.view localId

def removeItems (s : ClientSubscription) (view : ViewId)
    (itemIds : List MonitoredItemId) : ClientSubscription :=
  { s with removeCalls := s.removeCalls ++ [{ view, itemIds }] }

/-- The check of the next id in `RemoveItems`, or its removal. -/
def removeNext (s : ClientSubscription) (index : ℕ) : ClientSubscription :=
  match s.removeCalls[index]? with
  | none => s
  | some call =>
      match call.removing with
      | some localId =>
          { s with
            removeCalls :=
              s.removeCalls.set index { call with removing := none }
            }.removeItem call.view localId
      | none =>
          match call.itemIds with
          | [] => { s with removeCalls := s.removeCalls.eraseIdx index }
          | localId :: rest =>
              if (s.itemsByLocalId.lookup localId).map (·.view) =
                  some call.view then
                { s with
                  removeCalls := s.removeCalls.set index
                    { call with
                      itemIds := rest
                      removing := some localId
                      results := call.results ++ [.good] } }
              else
                { s with
                  removeCalls := s.removeCalls.set index
                    { call with
                      itemIds := rest
                      results := call.results ++
                        [.ofCode .badMonitoredItemIdInvalid] } }

/-! ## Items -/

def ensureCreated (s : ClientSubscription) : ClientSubscription :=
  if s.impl.isSome ∨ s.isCreating then
    s
  else
    { s with
      isCreating := true
      impl := some {}
      creation := some .creating }

/-- `AddItems` of a view, up to its loop. -/
def addItems (s : ClientSubscription) (view : ViewId)
    (requests : List MonitoredItemCreateRequest) : ClientSubscription :=
  if view < s.viewStates.length then
    let call : AddCall := { view, requests }
    { s with addCalls := s.addCalls ++ [call] }.ensureCreated
  else
    s

/-- The answer of `AddItems` to a request. -/
def addResult (s : ClientSubscription) (request : MonitoredItemCreateRequest) :
    MonitoredItemCreateResult :=
  { status := .good
    monitoredItemId := s.nextLocalId
    revisedSamplingIntervalMs := request.requestedParameters.samplingIntervalMs
    revisedQueueSize := max 1 request.requestedParameters.queueSize }

def newItem (s : ClientSubscription) (view : ViewId)
    (request : MonitoredItemCreateRequest) : PendingSubscription :=
  { view
    localId := s.nextLocalId
    readValueId := request.itemToMonitor
    params := request.requestedParameters
    clientHandle := request.requestedParameters.clientHandle }

/-- A turn of the loop of `AddItems`: whether the item is deferred is decided
together with its record. -/
def addItem (s : ClientSubscription) (view : ViewId)
    (request : MonitoredItemCreateRequest) : ClientSubscription :=
  let item := s.newItem view request
  let defer := s.isCreating || s.impl.isNone
  { s with
    nextLocalId := s.nextLocalId + 1
    itemsByLocalId := KeyedMap.emplace s.itemsByLocalId s.nextLocalId { view }
    pendingSubscriptions :=
      if defer then s.pendingSubscriptions ++ [item]
      else s.pendingSubscriptions
    creates := if defer then s.creates else s.creates ++ [{ item }]
    added := s.added ++
      [{ view
         clientHandle := request.requestedParameters.clientHandle
         result := s.addResult request }] }

def addNext (s : ClientSubscription) (index : ℕ) : ClientSubscription :=
  match s.addCalls[index]? with
  | none => s
  | some call =>
      match call.requests with
      | [] => { s with addCalls := s.addCalls.eraseIdx index }
      | request :: rest =>
          { s with
            addCalls := s.addCalls.set index
              { call with
                requests := rest
                results := call.results ++ [s.addResult request] }
            }.addItem call.view request

/-- The subscription's `Create` has returned. -/
def creationFinished (s : ClientSubscription) (status : Status) :
    ClientSubscription :=
  if s.creation = some .creating then
    if status.isBad then
      { s with
        isCreating := false
        impl := none
        pendingSubscriptions := []
        creation := none }
    else
      { s with
        isCreating := false
        impl := s.impl.map fun handlers : MonitoredItemHandlers =>
          { handlers with
            publishing := { handlers.publishing with isCreated := true } }
        creation := some .flushing }
  else
    s

def flushPendingSubscriptions (s : ClientSubscription) : ClientSubscription :=
  if s.creation = some .flushing then
    { s with
      pendingSubscriptions := []
      creates := s.creates ++
        s.pendingSubscriptions.map fun item => ({ item } : ItemCreate)
      creation := none }
  else
    s

/-- A refusal is reported as a notification. -/
def refuse (s : ClientSubscription) (item : PendingSubscription)
    (status : Status) : ClientSubscription :=
  s.pushNotification item.view (.dataChange
    { clientHandle := item.clientHandle
      value := .ofStatus status.code {} })

/-- The coroutine of `SpawnCreateMonitoredItem` up to its suspension. -/
def createStarts (s : ClientSubscription) (index : ℕ) : ClientSubscription :=
  match s.creates[index]? with
  | some { item, requested := none } =>
      match s.impl with
      | none => { s with creates := s.creates.eraseIdx index }
      | some handlers =>
          if handlers.publishing.isCreated then
            let (handlers, clientHandle) := handlers.beginCreate
              { view := item.view, clientHandle := item.clientHandle }
            { s with
              impl := some handlers
              creates :=
                s.creates.set index { item, requested := some clientHandle } }
          else
            { s with creates := s.creates.eraseIdx index }.refuse item
              (.ofCode .bad)
  | _ => s

/-- `DeleteMonitoredItem` sends nothing unless the subscription is created. -/
def issuesDeletes (s : ClientSubscription) : Bool :=
  match s.impl with
  | none => false
  | some handlers => handlers.publishing.isCreated

/-- The rest of the coroutine, when its item has been created: the record gets
the id, or the item is deleted again. -/
def itemCreated (s : ClientSubscription) (localId : UInt32)
    (serverId : MonitoredItemId) : ClientSubscription :=
  let s := { s with createdItems := s.createdItems ++ [serverId] }
  match s.itemsByLocalId.lookup localId with
  | some record =>
      { s with
        itemsByLocalId :=
          s.itemsByLocalId.insert localId { record with serverId } }
  | none =>
      if s.issuesDeletes then
        { s with
          deletes := s.deletes ++ [{ serverId, issued := true }]
          deletedItems := s.deletedItems ++ [serverId] }
      else
        s

/-- The request of the coroutine has been answered. -/
def createFinished (s : ClientSubscription) (index : ℕ)
    (response : StatusOr CreateMonitoredItemsResponse) : ClientSubscription :=
  match s.creates[index]? with
  | some { item, requested := some clientHandle } =>
      let s :=
        { s with
          impl := s.impl.map fun handlers : MonitoredItemHandlers =>
            handlers.finishCreate clientHandle (createdItem response)
          creates := s.creates.eraseIdx index }
      match createdItem response with
      | .ok serverId => s.itemCreated item.localId serverId
      | .error status _ => s.refuse item status
  | _ => s

/-- The coroutine of `RemoveItem` up to its suspension. -/
def deleteStarts (s : ClientSubscription) (index : ℕ) : ClientSubscription :=
  match s.deletes[index]? with
  | some { serverId, issued := false } =>
      if s.issuesDeletes then
        { s with
          deletes := s.deletes.set index { serverId, issued := true }
          deletedItems := s.deletedItems ++ [serverId] }
      else
        { s with deletes := s.deletes.eraseIdx index }
  | _ => s

/-- The request of a `DeleteMonitoredItem` has been answered, or has failed. -/
def deleteFinished (s : ClientSubscription) (index : ℕ) (answered : Bool) :
    ClientSubscription :=
  match s.deletes[index]? with
  | some { serverId, issued := true } =>
      { s with
        impl :=
          if answered then s.impl.map (·.finishDelete serverId) else s.impl
        deletes := s.deletes.eraseIdx index }
  | _ => s

end ClientSubscription

/-! ## Runs -/

inductive ClientSubscriptionEvent where
  | createView
  | addItems (view : ViewId) (requests : List MonitoredItemCreateRequest)
  | addNext (index : ℕ)
  | creationFinished (status : Status)
  | flushPendingSubscriptions
  | createStarts (index : ℕ)
  | createFinished (index : ℕ) (response : StatusOr CreateMonitoredItemsResponse)
  | removeItems (view : ViewId) (itemIds : List MonitoredItemId)
  | removeNext (index : ℕ)
  | closeView (view : ViewId) (status : Status)
  | closeNext (index : ℕ)
  | deleteStarts (index : ℕ)
  | deleteFinished (index : ℕ) (answered : Bool)
  | publishResponse (response : PublishResponse)
  | readNext (view : ViewId) (maxCount : ℕ)
  | readerWakes (index : ℕ)

namespace ClientSubscription

def step (s : ClientSubscription) :
    ClientSubscriptionEvent → ClientSubscription
  | .createView => s.createView
  | .addItems view requests => s.addItems view requests
  | .addNext index => s.addNext index
  | .creationFinished status => s.creationFinished status
  | .flushPendingSubscriptions => s.flushPendingSubscriptions
  | .createStarts index => s.createStarts index
  | .createFinished index response => s.createFinished index response
  | .removeItems view itemIds => s.removeItems view itemIds
  | .removeNext index => s.removeNext index
  | .closeView view status => s.closeView view status
  | .closeNext index => s.closeNext index
  | .deleteStarts index => s.deleteStarts index
  | .deleteFinished index answered => s.deleteFinished index answered
  | .publishResponse response => s.publishResponse response
  | .readNext view maxCount => s.readNext { view, maxCount }
  | .readerWakes index => s.readerWakes index

/-- No operation is in flight; a `ReadNext` may wait. -/
structure Quiescent (s : ClientSubscription) : Prop where
  creation : s.creation = none
  addCalls : s.addCalls = []
  removeCalls : s.removeCalls = []
  closeCalls : s.closeCalls = []
  creates : s.creates = []
  deletes : s.deletes = []

end ClientSubscription
end OpcuaStack
