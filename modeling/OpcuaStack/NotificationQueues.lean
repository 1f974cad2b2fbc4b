import OpcuaStack.ItemDelivery

/-!
# The queues of the views

What every event of a client subscription puts into the queues of the views, and
what `ReadNext` takes from them.
-/

namespace OpcuaStack

/-! ## Routing by the owners of the handles -/

/-- What a part of a message puts into which view's queue, when `owner` tells the
view of a handle and the handle which the view knows. -/
def routed (owner : UInt32 → Option (ViewId × UInt32)) :
    NotificationData → List (ViewId × ItemNotification)
  | .dataChange monitoredItems =>
      monitoredItems.filterMap fun item =>
        (owner item.clientHandle).map fun (view, clientHandle) =>
          (view, .dataChange { clientHandle, value := item.value })
  | .events events =>
      events.filterMap fun event =>
        (owner event.clientHandle).map fun (view, clientHandle) =>
          (view, .event { clientHandle, eventFields := event.eventFields })
  | .statusChange _ => []

/-- The part which is for one view, in order. -/
def forView (view : ViewId) (notifications : List (ViewId × ItemNotification)) :
    List ItemNotification :=
  (notifications.filter (·.1 = view)).map (·.2)

namespace ClientSubscription

variable {s : ClientSubscription}

def isOpen (s : ClientSubscription) (view : ViewId) : Bool :=
  (s.viewStates[view]?).any (!·.closed)

theorem isOpen_iff {view : ViewId} :
    s.isOpen view = true ↔
      view < s.viewStates.length ∧ s.isClosed view = false := by
  unfold isOpen isClosed
  cases hstate : s.viewStates[view]? with
  | none =>
      have hlength := List.getElem?_eq_none_iff.mp hstate
      simp [hlength]
  | some state =>
      have hless := (List.getElem?_eq_some_iff.mp hstate).1
      simp [hless]

theorem isOpen_pushNotification (s : ClientSubscription) (view other : ViewId)
    (notification : ItemNotification) :
    (s.pushNotification view notification).isOpen other = s.isOpen other := by
  have hlength : (s.pushNotification view notification).viewStates.length =
      s.viewStates.length := List.length_modify _ _ _
  rw [Bool.eq_iff_iff, isOpen_iff, isOpen_iff, hlength,
    (s.sameItems_pushNotification view notification).isClosed]

theorem pushedTo_pushNotifications (s : ClientSubscription)
    (notifications : List (ViewId × ItemNotification)) (view : ViewId) :
    (s.pushNotifications notifications).pushedTo view =
      s.pushedTo view ++
        if s.isOpen view then forView view notifications else [] := by
  induction notifications generalizing s with
  | nil => simp [pushNotifications, forView]
  | cons notification rest ih =>
      obtain ⟨other, pushed⟩ := notification
      change (pushNotifications (s.pushNotification other pushed) rest).pushedTo
        view = _
      rw [ih, pushedTo_pushNotification, isOpen_pushNotification,
        List.append_assoc]
      congr 1
      by_cases hview : view = other
      · subst hview
        simp only [true_and, ← isOpen_iff]
        cases s.isOpen view <;> simp [forView]
      · have hne : ¬other = view := fun heq => hview heq.symm
        cases s.isOpen view <;> simp [forView, hview, hne]

/-! ## Queues -/

end ClientSubscription

/-- What `ReadNext` has returned and what waits is what was pushed first, and all
of it while the view is open. -/
structure ViewState.InOrder (state : ViewState) : Prop where
  first : state.returned ++ state.pendingNotifications <+: state.pushed
  all : state.closed = false →
    state.pushed = state.returned ++ state.pendingNotifications

namespace ClientSubscription

variable {s : ClientSubscription}

def QueuesInOrder (s : ClientSubscription) : Prop :=
  ∀ (view : ViewId) (state : ViewState), s.viewStates[view]? = some state →
    state.InOrder

theorem QueuesInOrder.of_same {t : ClientSubscription} (h : s.QueuesInOrder)
    (hviews : t.viewStates = s.viewStates) : t.QueuesInOrder := by
  unfold QueuesInOrder
  rw [hviews]
  exact h

theorem QueuesInOrder.modify {t : ClientSubscription} {view : ViewId}
    {change : ViewState → ViewState} (h : s.QueuesInOrder)
    (hviews : t.viewStates = s.viewStates.modify view change)
    (hchange : ∀ state : ViewState, state.InOrder → (change state).InOrder) :
    t.QueuesInOrder := by
  intro other state hstate
  rw [hviews, List.getElem?_modify] at hstate
  obtain ⟨before, hbefore, hafter⟩ := Option.map_eq_some_iff.mp hstate
  have hinOrder := h other before hbefore
  by_cases hview : view = other
  · rw [if_pos hview] at hafter
    exact hafter ▸ hchange before hinOrder
  · rw [if_neg hview] at hafter
    exact hafter ▸ hinOrder

theorem QueuesInOrder.pushNotification (h : s.QueuesInOrder) (view : ViewId)
    (notification : ItemNotification) :
    (s.pushNotification view notification).QueuesInOrder := by
  refine h.modify rfl ?_
  intro state hstate
  cases hclosed : state.closed with
  | true => simpa [hclosed] using hstate
  | false =>
      have hall := hstate.all hclosed
      have hpushed : state.pushed ++ [notification] =
          state.returned ++ (state.pendingNotifications ++ [notification]) := by
        rw [hall, List.append_assoc]
      simp only [Bool.false_eq_true, if_false]
      exact ⟨hpushed ▸ List.prefix_rfl, fun _ => hpushed⟩

theorem QueuesInOrder.pushNotifications (h : s.QueuesInOrder)
    (notifications : List (ViewId × ItemNotification)) :
    (s.pushNotifications notifications).QueuesInOrder := by
  induction notifications generalizing s with
  | nil => exact h
  | cons notification rest ih => exact ih (h.pushNotification _ _)

theorem QueuesInOrder.publishResponse (h : s.QueuesInOrder)
    (response : PublishResponse) : (s.publishResponse response).QueuesInOrder := by
  obtain ⟨-, heq⟩ | ⟨handlers, -, heq⟩ := s.publishResponse_cases response
  · rw [heq]
    exact h
  · rw [heq]
    apply QueuesInOrder.pushNotifications
    exact h

theorem QueuesInOrder.readNext (h : s.QueuesInOrder) (call : ReadCall) :
    (s.readNext call).QueuesInOrder := by
  unfold ClientSubscription.readNext
  split
  · exact h
  split
  · exact h
  split
  · refine h.modify rfl ?_
    intro state hstate
    -- What is returned moves from the front of the queue.
    have hmoved : state.returned ++
          state.pendingNotifications.take call.maxCount ++
          state.pendingNotifications.drop call.maxCount =
        state.returned ++ state.pendingNotifications := by
      rw [List.append_assoc, List.take_append_drop]
    refine ⟨?_, fun hopen => ?_⟩
    · dsimp only
      rw [hmoved]
      exact hstate.first
    · dsimp only
      rw [hmoved]
      exact hstate.all hopen
  · exact h

theorem QueuesInOrder.readerWakes (h : s.QueuesInOrder) (index : ℕ) :
    (s.readerWakes index).QueuesInOrder := by
  unfold ClientSubscription.readerWakes
  split
  · exact h
  · apply QueuesInOrder.readNext
    exact h

theorem QueuesInOrder.createView (h : s.QueuesInOrder) :
    s.createView.QueuesInOrder := by
  intro view state hstate
  unfold ClientSubscription.createView at hstate
  dsimp only at hstate
  rw [List.getElem?_append] at hstate
  split at hstate
  · exact h view state hstate
  · obtain rfl := List.mem_singleton.mp (List.mem_of_getElem? hstate)
    exact ⟨List.prefix_rfl, fun _ => rfl⟩

theorem QueuesInOrder.closeView (h : s.QueuesInOrder) (view : ViewId)
    (status : Status) : (s.closeView view status).QueuesInOrder := by
  obtain heq | ⟨state, hstate, -, heq⟩ := s.closeView_cases view status
  · rw [heq]
    exact h
  rw [heq]
  intro other after hafter
  dsimp only at hafter
  by_cases hview : view = other
  · subst hview
    rw [List.getElem?_set_self (List.getElem?_eq_some_iff.mp hstate).1] at hafter
    obtain rfl := Option.some.inj hafter
    refine ⟨?_, fun hfalse => absurd hfalse (by simp)⟩
    dsimp only
    rw [List.append_nil]
    exact (List.prefix_append _ _).trans (h view state hstate).first
  · rw [List.getElem?_set_ne hview] at hafter
    exact h other after hafter

theorem viewStates_removeNext (s : ClientSubscription) (index : ℕ) :
    (s.removeNext index).viewStates = s.viewStates := by
  unfold removeNext
  split
  · rfl
  split
  · exact (removeItem_frame _ _ _).2.1
  split
  · rfl
  split <;> rfl

theorem viewStates_addItems (s : ClientSubscription) (view : ViewId)
    (requests : List MonitoredItemCreateRequest) :
    (s.addItems view requests).viewStates = s.viewStates := by
  unfold addItems ensureCreated
  split
  · dsimp only
    split <;> rfl
  · rfl

theorem viewStates_addNext (s : ClientSubscription) (index : ℕ) :
    (s.addNext index).viewStates = s.viewStates := by
  unfold addNext
  split
  · rfl
  split <;> rfl

theorem viewStates_creationFinished (s : ClientSubscription) (status : Status) :
    (s.creationFinished status).viewStates = s.viewStates := by
  unfold creationFinished
  split
  · split <;> rfl
  · rfl

theorem viewStates_flushPendingSubscriptions (s : ClientSubscription) :
    s.flushPendingSubscriptions.viewStates = s.viewStates := by
  unfold flushPendingSubscriptions
  split <;> rfl

theorem viewStates_deleteStarts (s : ClientSubscription) (index : ℕ) :
    (s.deleteStarts index).viewStates = s.viewStates := by
  unfold deleteStarts
  split
  · split <;> rfl
  · rfl

theorem viewStates_deleteFinished (s : ClientSubscription) (index : ℕ)
    (answered : Bool) :
    (s.deleteFinished index answered).viewStates = s.viewStates := by
  unfold deleteFinished
  split <;> rfl

theorem Stage.viewStates_createStarts (h : s.Stage) (index : ℕ) :
    (s.createStarts index).viewStates = s.viewStates := by
  obtain heq | ⟨item, handlers, -, -, -, heq⟩ :=
    createStarts_cases fun _ hcreate => h.issues_of_create hcreate
  · rw [heq]
  · rw [heq]

theorem viewStates_itemCreated (s : ClientSubscription) (localId : UInt32)
    (serverId : MonitoredItemId) :
    (s.itemCreated localId serverId).viewStates = s.viewStates := by
  cases hlookup : s.itemsByLocalId.lookup localId with
  | none => rw [itemCreated_of_none hlookup]
  | some record => rw [itemCreated_of_some hlookup]

theorem QueuesInOrder.createFinished (h : s.QueuesInOrder) (index : ℕ)
    (response : StatusOr CreateMonitoredItemsResponse) :
    (s.createFinished index response).QueuesInOrder := by
  obtain heq | ⟨item, clientHandle, -, ⟨serverId, -, heq⟩ |
    ⟨status, hbad, -, heq⟩⟩ := s.createFinished_cases index response
  · rw [heq]
    exact h
  · rw [heq]
    exact h.of_same (viewStates_itemCreated _ _ _)
  · rw [heq]
    apply QueuesInOrder.pushNotification
    exact h

theorem QueuesInOrder.step (h : s.QueuesInOrder) (hstage : s.Stage)
    (event : ClientSubscriptionEvent) : (s.step event).QueuesInOrder := by
  cases event with
  | createView => exact h.createView
  | addItems view requests => exact h.of_same (s.viewStates_addItems view requests)
  | addNext index => exact h.of_same (s.viewStates_addNext index)
  | creationFinished status => exact h.of_same (s.viewStates_creationFinished status)
  | flushPendingSubscriptions =>
      exact h.of_same s.viewStates_flushPendingSubscriptions
  | createStarts index => exact h.of_same (hstage.viewStates_createStarts index)
  | createFinished index response => exact h.createFinished index response
  | removeItems view itemIds => exact h
  | removeNext index => exact h.of_same (s.viewStates_removeNext index)
  | closeView view status => exact h.closeView view status
  | closeNext index => exact h.of_same (s.viewStates_closeNext index)
  | deleteStarts index => exact h.of_same (s.viewStates_deleteStarts index)
  | deleteFinished index answered =>
      exact h.of_same (s.viewStates_deleteFinished index answered)
  | publishResponse response => exact h.publishResponse response
  | readNext view maxCount => exact h.readNext { view, maxCount }
  | readerWakes index => exact h.readerWakes index

/-! ## What an event pushes -/

/-- The view of a handle of the protocol subscription, with the handle which the
view knows. -/
def owner (s : ClientSubscription) (handle : UInt32) : Option (ViewId × UInt32) :=
  match s.impl with
  | none => none
  | some handlers =>
      (handlers.handlers.lookup handle).map fun handler =>
        (handler.view, handler.clientHandle)

/-- The notifications of a response, or the refusal of an item. -/
def pushedBy (s : ClientSubscription)
    (owner : UInt32 → Option (ViewId × UInt32)) :
    ClientSubscriptionEvent → List (ViewId × ItemNotification)
  | .publishResponse response =>
      if response.status.isBad then []
      else response.notificationMessage.notificationData.flatMap (routed owner)
  | .createFinished index response =>
      match s.creates[index]? with
      | some { item, requested := some _ } =>
          match createdItem response with
          | .ok _ => []
          | .error status _ =>
              [(item.view, .dataChange
                { clientHandle := item.clientHandle
                  value := .ofStatus status.code {} })]
      | _ => []
  | _ => []

/-- The event puts this into the queues of the open views, and nothing else. -/
def Pushes (s : ClientSubscription) (event : ClientSubscriptionEvent)
    (notifications : List (ViewId × ItemNotification)) : Prop :=
  ∀ view, (s.step event).pushedTo view =
    s.pushedTo view ++ if s.isOpen view then forView view notifications else []

theorem pushes_nil {event : ClientSubscriptionEvent}
    (h : ∀ view, (s.step event).pushedTo view = s.pushedTo view) :
    s.Pushes event [] := by
  intro view
  rw [h view]
  cases s.isOpen view <;> simp [forView]

theorem pushedTo_readerWakes (s : ClientSubscription) (index : ℕ)
    (view : ViewId) : (s.readerWakes index).pushedTo view = s.pushedTo view := by
  unfold readerWakes
  split
  · rfl
  · rw [pushedTo_readNext]
    rfl

theorem pushes_createFinished (s : ClientSubscription)
    (owner : UInt32 → Option (ViewId × UInt32)) (index : ℕ)
    (response : StatusOr CreateMonitoredItemsResponse) :
    s.Pushes (.createFinished index response)
      (s.pushedBy owner (.createFinished index response)) := by
  unfold pushedBy
  dsimp only
  cases hcreate : s.creates[index]? with
  | none =>
      apply pushes_nil
      intro view
      change (s.createFinished index response).pushedTo view = _
      unfold createFinished
      rw [hcreate]
  | some create =>
      obtain ⟨item, requested⟩ := create
      cases requested with
      | none =>
          apply pushes_nil
          intro view
          change (s.createFinished index response).pushedTo view = _
          unfold createFinished
          rw [hcreate]
      | some clientHandle =>
          intro view
          change (s.createFinished index response).pushedTo view = _
          unfold createFinished
          rw [hcreate]
          cases createdItem response with
          | ok serverId =>
              dsimp only
              rw [pushedTo_itemCreated]
              change s.pushedTo view = _
              cases s.isOpen view <;> simp [forView]
          | error status hbad =>
              dsimp only
              exact pushedTo_pushNotifications _ [(item.view, _)] view

theorem callbacks_eq_routed {handlers : MonitoredItemHandlers}
    (himpl : s.impl = some handlers)
    (hevents : handlers.eventHandlers = handlers.handlers)
    (data : NotificationData) :
    handlers.callbacks data = routed s.owner data := by
  have howner : ∀ handle, s.owner handle =
      (handlers.handlers.lookup handle).map fun handler =>
        (handler.view, handler.clientHandle) := by
    intro handle
    unfold owner
    rw [himpl]
  cases data with
  | dataChange monitoredItems =>
      unfold MonitoredItemHandlers.callbacks routed
      simp only [howner, Option.map_map]
      rfl
  | events events =>
      unfold MonitoredItemHandlers.callbacks routed
      simp only [howner, hevents, Option.map_map]
      rfl
  | statusChange status => rfl

theorem routed_of_none {owner : UInt32 → Option (ViewId × UInt32)}
    (h : ∀ handle, owner handle = none) (data : NotificationData) :
    routed owner data = [] := by
  cases data <;> simp [routed, h]

theorem pushes_publishResponse (s : ClientSubscription)
    (hevents : ∀ handlers, s.impl = some handlers →
      handlers.eventHandlers = handlers.handlers)
    (response : PublishResponse) :
    s.Pushes (.publishResponse response)
      (s.pushedBy s.owner (.publishResponse response)) := by
  intro view
  change (s.publishResponse response).pushedTo view = _
  unfold pushedBy
  dsimp only
  obtain ⟨himpl, heq⟩ | ⟨handlers, himpl, heq⟩ := s.publishResponse_cases response
  · have hnone : response.notificationMessage.notificationData.flatMap
        (routed s.owner) = [] := by
      rw [List.flatMap_eq_nil_iff]
      intro data _
      apply routed_of_none
      intro handle
      unfold owner
      rw [himpl]
    rw [heq, hnone, ite_self]
    cases s.isOpen view <;> simp [forView]
  · have hcalls : (handlers.handlePublishResponse response).2 =
        if response.status.isBad then []
        else response.notificationMessage.notificationData.flatMap
          (routed s.owner) := by
      unfold MonitoredItemHandlers.handlePublishResponse
        ClientProtocolSubscription.handlePublishResponse
      cases response.status.isBad with
      | true => rfl
      | false =>
          exact List.flatMap_congr fun data _ =>
            callbacks_eq_routed himpl (hevents handlers himpl) data
    rw [heq, pushedTo_pushNotifications, hcalls]
    rfl

theorem pushes_step (hstage : s.Stage)
    (hevents : ∀ handlers, s.impl = some handlers →
      handlers.eventHandlers = handlers.handlers)
    (event : ClientSubscriptionEvent) :
    s.Pushes event (s.pushedBy s.owner event) := by
  cases event with
  | publishResponse response => exact pushes_publishResponse s hevents response
  | createFinished index response => exact pushes_createFinished s _ index response
  | createView => exact pushes_nil s.pushedTo_createView
  | addItems view requests =>
      exact pushes_nil (pushedTo_congr (s.viewStates_addItems view requests))
  | addNext index => exact pushes_nil (pushedTo_congr (s.viewStates_addNext index))
  | creationFinished status =>
      exact pushes_nil (pushedTo_congr (s.viewStates_creationFinished status))
  | flushPendingSubscriptions =>
      exact pushes_nil (pushedTo_congr s.viewStates_flushPendingSubscriptions)
  | createStarts index =>
      exact pushes_nil (pushedTo_congr (hstage.viewStates_createStarts index))
  | removeItems view itemIds => exact pushes_nil fun _ => rfl
  | removeNext index =>
      exact pushes_nil (pushedTo_congr (s.viewStates_removeNext index))
  | closeView view status =>
      exact pushes_nil fun other => s.pushedTo_closeView view other status
  | closeNext index =>
      exact pushes_nil (pushedTo_congr (s.viewStates_closeNext index))
  | deleteStarts index =>
      exact pushes_nil (pushedTo_congr (s.viewStates_deleteStarts index))
  | deleteFinished index answered =>
      exact pushes_nil (pushedTo_congr (s.viewStates_deleteFinished index answered))
  | readNext view maxCount =>
      exact pushes_nil (s.pushedTo_readNext { view, maxCount })
  | readerWakes index => exact pushes_nil (s.pushedTo_readerWakes index)

/-- The handles of the requests which are in flight. -/
def inFlight (s : ClientSubscription) : List UInt32 :=
  s.creates.filterMap (·.requested)

theorem inFlight_eraseIdx {index : ℕ} {item : PendingSubscription}
    {handle : UInt32}
    (hcreate : s.creates[index]? = some { item, requested := some handle }) :
    s.inFlight.Perm
      (handle :: { s with creates := s.creates.eraseIdx index }.inFlight) := by
  obtain ⟨hindex, hget⟩ := List.getElem?_eq_some_iff.mp hcreate
  have hperm := (List.getElem_cons_eraseIdx_perm hindex).symm.filterMap
    (·.requested)
  rw [hget] at hperm
  exact hperm

theorem inFlight_set {index : ℕ} {item : PendingSubscription}
    (hcreate : s.creates[index]? = some { item }) (handle : UInt32) :
    ({ s with
        creates := s.creates.set index
          { item, requested := some handle } } : ClientSubscription).inFlight.Perm
      (handle :: s.inFlight) := by
  obtain ⟨hindex, hget⟩ := List.getElem?_eq_some_iff.mp hcreate
  have hbefore := (List.getElem_cons_eraseIdx_perm hindex).filterMap (·.requested)
  rw [hget] at hbefore
  have hafter := (List.set_perm_cons_eraseIdx hindex
    ({ item, requested := some handle } : ItemCreate)).filterMap (·.requested)
  exact hafter.trans (hbefore.cons handle)

/-- The handlers are the same, and so are the requests in flight. -/
structure SameHandlers (s t : ClientSubscription) : Prop where
  impl : t.impl = s.impl
  inFlight : t.inFlight = s.inFlight

theorem sameHandlers_removeItem (s : ClientSubscription) (view : ViewId)
    (localId : UInt32) : s.SameHandlers (s.removeItem view localId) := by
  cases hlookup : s.itemsByLocalId.lookup localId with
  | none =>
      rw [removeItem_of_none hlookup]
      exact ⟨rfl, rfl⟩
  | some record =>
      rw [removeItem_of_some hlookup]
      exact ⟨rfl, rfl⟩

theorem sameHandlers_removeNext (s : ClientSubscription) (index : ℕ) :
    s.SameHandlers (s.removeNext index) := by
  unfold removeNext
  split
  · exact ⟨rfl, rfl⟩
  split
  · rw [removeItem_removeCalls]
    obtain ⟨himpl, hflight⟩ := s.sameHandlers_removeItem _ _
    exact ⟨himpl, hflight⟩
  split
  · exact ⟨rfl, rfl⟩
  split <;> exact ⟨rfl, rfl⟩

theorem sameHandlers_closeView (s : ClientSubscription) (view : ViewId)
    (status : Status) : s.SameHandlers (s.closeView view status) := by
  obtain heq | ⟨state, -, -, heq⟩ := s.closeView_cases view status
  · rw [heq]
    exact ⟨rfl, rfl⟩
  · rw [heq]
    exact ⟨rfl, rfl⟩

theorem sameHandlers_closeNext (s : ClientSubscription) (index : ℕ) :
    s.SameHandlers (s.closeNext index) := by
  unfold closeNext
  split
  · exact ⟨rfl, rfl⟩
  split
  · exact ⟨rfl, rfl⟩
  · exact ⟨rfl, rfl⟩
  · rw [removeItem_closeCalls]
    obtain ⟨himpl, hflight⟩ := s.sameHandlers_removeItem _ _
    exact ⟨himpl, hflight⟩

theorem sameHandlers_addNext (s : ClientSubscription) (index : ℕ) :
    s.SameHandlers (s.addNext index) := by
  unfold addNext
  split
  · exact ⟨rfl, rfl⟩
  split
  · exact ⟨rfl, rfl⟩
  · refine ⟨rfl, ?_⟩
    unfold addItem inFlight
    dsimp only
    split
    · rfl
    · rw [List.filterMap_append]
      exact List.append_nil _

theorem sameHandlers_flushPendingSubscriptions (s : ClientSubscription) :
    s.SameHandlers s.flushPendingSubscriptions := by
  unfold flushPendingSubscriptions
  split
  · refine ⟨rfl, ?_⟩
    unfold inFlight
    have hnone : (s.pendingSubscriptions.map fun item =>
        ({ item } : ItemCreate)).filterMap (·.requested) = [] := by
      rw [List.filterMap_map]
      exact List.filterMap_eq_nil_iff.mpr fun _ _ => rfl
    rw [List.filterMap_append, hnone, List.append_nil]
  · exact ⟨rfl, rfl⟩

theorem sameHandlers_deleteStarts (s : ClientSubscription) (index : ℕ) :
    s.SameHandlers (s.deleteStarts index) := by
  unfold deleteStarts
  split
  · split <;> exact ⟨rfl, rfl⟩
  · exact ⟨rfl, rfl⟩

theorem sameHandlers_readNext (s : ClientSubscription) (call : ReadCall) :
    s.SameHandlers (s.readNext call) := by
  unfold readNext
  split
  · exact ⟨rfl, rfl⟩
  split
  · exact ⟨rfl, rfl⟩
  split <;> exact ⟨rfl, rfl⟩

theorem sameHandlers_readerWakes (s : ClientSubscription) (index : ℕ) :
    s.SameHandlers (s.readerWakes index) := by
  unfold readerWakes
  split
  · exact ⟨rfl, rfl⟩
  · obtain ⟨himpl, hflight⟩ := sameHandlers_readNext
      { s with readCalls := s.readCalls.eraseIdx index } _
    exact ⟨himpl, hflight⟩

theorem sameHandlers_itemCreated (s : ClientSubscription) (localId : UInt32)
    (serverId : MonitoredItemId) :
    s.SameHandlers (s.itemCreated localId serverId) := by
  cases hlookup : s.itemsByLocalId.lookup localId with
  | none =>
      rw [itemCreated_of_none hlookup]
      exact ⟨rfl, rfl⟩
  | some record =>
      rw [itemCreated_of_some hlookup]
      exact ⟨rfl, rfl⟩

end ClientSubscription

end OpcuaStack
