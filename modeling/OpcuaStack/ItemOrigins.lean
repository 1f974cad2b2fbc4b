import OpcuaStack.ItemAccounts

/-!
# Where the items of a client subscription come from

`AddItems` takes its requests one by one.  A request gets a coroutine at once, or
waits until the subscription is created.
-/

namespace OpcuaStack

/-- A call of `AddItems` has passed the handle for an item of the view. -/
def AskedFor (events : List ClientSubscriptionEvent) (view : ViewId)
    (clientHandle : UInt32) : Prop :=
  ∃ requests, .addItems view requests ∈ events ∧
    ∃ request ∈ requests, request.requestedParameters.clientHandle = clientHandle

namespace ClientSubscription

variable {s t : ClientSubscription} {events : List ClientSubscriptionEvent}

structure Originates (events : List ClientSubscriptionEvent)
    (s : ClientSubscription) : Prop where
  adding : ∀ call ∈ s.addCalls, ∀ request ∈ call.requests,
    AskedFor events call.view request.requestedParameters.clientHandle
  waits : ∀ item ∈ s.waiting, AskedFor events item.view item.clientHandle

theorem Originates.of_same (h : s.Originates events)
    (hcalls : t.addCalls = s.addCalls) (hwaiting : t.waiting ⊆ s.waiting) :
    t.Originates events where
  adding := hcalls ▸ h.adding
  waits := fun item hitem => h.waits item (hwaiting hitem)

theorem addCalls_ensureCreated (s : ClientSubscription) :
    s.ensureCreated.addCalls = s.addCalls := by
  unfold ensureCreated
  split <;> rfl

theorem Originates.addItems (h : s.Originates events) {view : ViewId}
    {requests : List MonitoredItemCreateRequest}
    (hevent : .addItems view requests ∈ events) :
    (s.addItems view requests).Originates events := by
  unfold ClientSubscription.addItems
  split
  · have hadded : Originates events
        { s with addCalls := s.addCalls ++ [{ view, requests }] } := by
      refine ⟨forall_mem_append_singleton h.adding ?_, h.waits⟩
      exact fun request hrequest => ⟨requests, hevent, request, hrequest, rfl⟩
    exact hadded.of_same (addCalls_ensureCreated _)
      (List.Perm.of_eq (waiting_ensureCreated _)).subset
  · exact h

theorem Originates.addNext (h : s.Originates events) (index : ℕ) :
    (s.addNext index).Originates events := by
  unfold ClientSubscription.addNext
  cases hcall : s.addCalls[index]? with
  | none => exact h
  | some call =>
      have hasked := h.adding call (List.mem_of_getElem? hcall)
      obtain ⟨view, requests, results⟩ := call
      cases requests with
      | nil => exact ⟨forall_mem_eraseIdx h.adding, h.waits⟩
      | cons request rest =>
          constructor
          case adding =>
            exact forall_mem_set h.adding fun other hother =>
              hasked other (List.mem_cons_of_mem _ hother)
          case waits =>
            intro item hitem
            rcases List.mem_cons.mp ((waiting_addItem _ view request).subset hitem) with
              rfl | hold
            · exact hasked request List.mem_cons_self
            · exact h.waits item hold

theorem Originates.createStarts (h : s.Originates events) (index : ℕ) :
    (s.createStarts index).Originates events := by
  unfold ClientSubscription.createStarts
  split
  · next item hcreate =>
    have hdropped : Originates events { s with creates := s.creates.eraseIdx index } := by
      refine h.of_same rfl fun other hother => ?_
      exact (waiting_eraseIdx hcreate).symm.subset (List.mem_cons_of_mem _ hother)
    split
    · exact hdropped
    split
    · exact h.of_same rfl (List.Perm.of_eq (waiting_set hcreate _)).subset
    · exact ⟨hdropped.adding, hdropped.waits⟩
  · exact h

theorem Originates.createFinished (h : s.Originates events) (index : ℕ)
    (response : StatusOr CreateMonitoredItemsResponse) :
    (s.createFinished index response).Originates events := by
  obtain heq | ⟨item, clientHandle, hcreate, hends⟩ :=
    s.createFinished_cases index response
  · rw [heq]
    exact h
  · have hreturned : ∀ result,
        (s.createReturns index clientHandle result).Originates events := by
      refine fun result => h.of_same rfl fun other hother => ?_
      exact (waiting_eraseIdx hcreate).symm.subset (List.mem_cons_of_mem _ hother)
    obtain ⟨serverId, -, heq⟩ | ⟨status, hbad, -, heq⟩ := hends
    · obtain ⟨hadding, hwaits⟩ := hreturned (.ok serverId)
      rw [heq]
      unfold itemCreated
      dsimp only
      split
      · exact ⟨hadding, hwaits⟩
      · split <;> exact ⟨hadding, hwaits⟩
    · obtain ⟨hadding, hwaits⟩ := hreturned (.error status hbad)
      rw [heq]
      exact ⟨hadding, hwaits⟩

theorem Originates.removeItem (h : s.Originates events) (view : ViewId)
    (localId : UInt32) : (s.removeItem view localId).Originates events := by
  refine h.of_same ?_ (s.waiting_removeItem_sublist view localId).subset
  unfold ClientSubscription.removeItem
  dsimp only
  split <;> rfl

theorem Originates.removeNext (h : s.Originates events) (index : ℕ) :
    (s.removeNext index).Originates events := by
  unfold ClientSubscription.removeNext
  split
  · exact h
  split
  · rw [removeItem_removeCalls]
    obtain ⟨hadding, hwaits⟩ := h.removeItem _ _
    exact ⟨hadding, hwaits⟩
  split
  · exact ⟨h.adding, h.waits⟩
  split <;> exact ⟨h.adding, h.waits⟩

theorem Originates.closeNext (h : s.Originates events) (index : ℕ) :
    (s.closeNext index).Originates events := by
  unfold ClientSubscription.closeNext
  split
  · exact h
  split
  · exact ⟨h.adding, h.waits⟩
  · exact ⟨h.adding, h.waits⟩
  · rw [removeItem_closeCalls]
    obtain ⟨hadding, hwaits⟩ := h.removeItem _ _
    exact ⟨hadding, hwaits⟩

theorem Originates.readNext (h : s.Originates events) (call : ReadCall) :
    (s.readNext call).Originates events := by
  unfold ClientSubscription.readNext
  split
  · exact h
  split
  · exact h
  split <;> exact ⟨h.adding, h.waits⟩

theorem Originates.step (h : s.Originates events) {event : ClientSubscriptionEvent}
    (hevent : event ∈ events) : (s.step event).Originates events := by
  cases event with
  | createView => exact ⟨h.adding, h.waits⟩
  | addItems view requests => exact h.addItems hevent
  | addNext index => exact h.addNext index
  | creationFinished status =>
      refine h.of_same ?_ (s.waiting_creationFinished status).subset
      unfold ClientSubscription.step creationFinished
      dsimp only
      split
      · split <;> rfl
      · rfl
  | flushPendingSubscriptions =>
      refine h.of_same ?_ s.waiting_flushPendingSubscriptions.subset
      unfold ClientSubscription.step flushPendingSubscriptions
      dsimp only
      split <;> rfl
  | createStarts index => exact h.createStarts index
  | createFinished index response => exact h.createFinished index response
  | removeItems view itemIds => exact ⟨h.adding, h.waits⟩
  | removeNext index => exact h.removeNext index
  | closeView view status =>
      rw [ClientSubscription.step]
      obtain heq | ⟨state, -, -, heq⟩ := s.closeView_cases view status
      · rw [heq]
        exact h
      · rw [heq]
        exact ⟨h.adding, h.waits⟩
  | closeNext index => exact h.closeNext index
  | deleteStarts index =>
      refine h.of_same ?_ (List.Perm.of_eq (s.waiting_deleteStarts index)).subset
      unfold ClientSubscription.step deleteStarts
      dsimp only
      split
      · split <;> rfl
      · rfl
  | deleteFinished index answered =>
      refine h.of_same ?_
        (List.Perm.of_eq (s.waiting_deleteFinished index answered)).subset
      unfold ClientSubscription.step deleteFinished
      dsimp only
      split <;> rfl
  | publishResponse response =>
      rw [ClientSubscription.step]
      obtain ⟨-, heq⟩ | ⟨handlers, -, heq⟩ := s.publishResponse_cases response
      · rw [heq]
        exact h
      · rw [heq, pushNotifications_frame]
        exact ⟨h.adding, h.waits⟩
  | readNext view maxCount => exact h.readNext { view, maxCount }
  | readerWakes index =>
      unfold ClientSubscription.step readerWakes
      dsimp only
      split
      · exact h
      · next call _ =>
        have hwoken : Originates events
            { s with readCalls := s.readCalls.eraseIdx index } :=
          ⟨h.adding, h.waits⟩
        exact hwoken.readNext call

end ClientSubscription
end OpcuaStack
