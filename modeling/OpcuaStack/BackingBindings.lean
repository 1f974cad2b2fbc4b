import OpcuaStack.LeaseBook
import OpcuaStack.SubscriptionConservation

/-!
# Bindings of monitored items

An item which is monitored holds a binding on the backing subscription: an item
id there, and the client handle under which its notifications come back.  What
matters to the bindings is a small part of a subscription, its view.  Binding an
item again, deleting it and the answers of binds in flight change the view; all
other operations leave it alone.
-/

namespace OpcuaStack

/-- What an item shows of its binding. -/
structure Binding where
  monitoredItemId : MonitoredItemId
  address : ℕ
  clientHandle : UInt32
  backingItemId : MonitoredItemId
  status : StatusCode

def Item.binding (item : Item) : Binding where
  monitoredItemId := item.monitoredItemId
  address := item.address
  clientHandle := item.backingClientHandle
  backingItemId := item.backingItemId
  status := item.monitoredItemStatus

/-- What a subscription shows of its bindings. -/
structure BindingView where
  bindingOf : MonitoredItemId → Option Binding
  started : Bool
  inFlight : List UInt32
  removals : List MonitoredItemId
  nextClientHandle : UInt32

namespace ServerSubscription

def view (s : ServerSubscription) : BindingView where
  bindingOf id := (s.items.lookup id).map Item.binding
  started := s.backingStarted
  inFlight := s.bindsInFlight.map (·.backingClientHandle)
  removals := s.backingRemovals
  nextClientHandle := s.nextBackingClientHandle

/-- Every item is stored under its own id. -/
def Keyed (s : ServerSubscription) : Prop :=
  ∀ id binding, s.view.bindingOf id = some binding →
    binding.monitoredItemId = id

/-- If the map holds the object, it shows the same binding. -/
def Current (s : ServerSubscription) (item : Item) : Prop :=
  ∀ stored, s.items.lookup item.monitoredItemId = some stored →
    stored.address = item.address → stored.binding = item.binding

theorem Keyed.monitoredItemId_eq {s : ServerSubscription} (h : s.Keyed)
    {id : MonitoredItemId} {item : Item}
    (hlookup : s.items.lookup id = some item) : item.monitoredItemId = id :=
  h id item.binding (by simp [view, hlookup])

theorem Keyed.current {s : ServerSubscription} (h : s.Keyed)
    {id : MonitoredItemId} {item : Item}
    (hlookup : s.items.lookup id = some item) : s.Current item := by
  intro stored hstored _
  rw [h.monitoredItemId_eq hlookup, hlookup, Option.some.injEq] at hstored
  rw [hstored]

theorem view_insert (s : ServerSubscription) (id : MonitoredItemId)
    (item : Item) :
    { s with items := s.items.insert id item }.view =
      { s.view with
        bindingOf := Function.update s.view.bindingOf id
          (some item.binding) } := by
  unfold view
  congr 1
  funext other
  simp only [KeyedMap.lookup_insert_eq, Function.update_apply]
  split <;> rfl

theorem view_insert_of_lookup {s : ServerSubscription} {id : MonitoredItemId}
    {stored item : Item} (hlookup : s.items.lookup id = some stored)
    (hbinding : stored.binding = item.binding) :
    { s with items := s.items.insert id item }.view = s.view := by
  rw [view_insert, ← hbinding]
  have hsame : Function.update s.view.bindingOf id (some stored.binding) =
      s.view.bindingOf := by
    refine Function.update_eq_self_iff.mpr ?_
    simp [view, hlookup]
  rw [hsame]

/-! ## Operations which keep the view -/

theorem enforceQueueLimit_view (s : ServerSubscription) (item : Item) :
    (s.enforceQueueLimit item).view = s.view := by
  unfold enforceQueueLimit
  simp only
  split
  · rfl
  · split <;> split <;> rfl

theorem queueNotification_view (s : ServerSubscription) (item : Item)
    (notification : NotificationData) :
    (s.queueNotification item notification).view = s.view :=
  enforceQueueLimit_view _ item

theorem writeItem_view_of_current {s : ServerSubscription} {item : Item}
    (h : s.Current item) : (s.writeItem item).view = s.view := by
  unfold writeItem
  split
  next stored hlookup =>
    split
    next haddress =>
      exact view_insert_of_lookup hlookup (h stored hlookup haddress)
    next => rfl
  next => rfl

theorem queueDataChange_view {s : ServerSubscription} {item : Item}
    (h : s.Current item) (dataValue : DataValue) :
    (s.queueDataChange item dataValue).view = s.view := by
  unfold queueDataChange
  split
  · rfl
  · split
    · rfl
    · rw [queueNotification_view]
      exact writeItem_view_of_current h

theorem queueEventFields_view (s : ServerSubscription) (item : Item)
    (eventFields : List Variant) :
    (s.queueEventFields item eventFields).view = s.view := by
  unfold queueEventFields
  split
  · rfl
  · exact queueNotification_view _ _ _

theorem queueItemStatus_view {s : ServerSubscription} {item : Item}
    (h : s.Current item) (status : Status) (now : DateTime) :
    (s.queueItemStatus item status now).view = s.view := by
  unfold queueItemStatus
  split
  · exact queueNotification_view _ _ _
  · exact queueDataChange_view h _

theorem onNotification_view {s : ServerSubscription} (h : s.Keyed)
    (notification : ItemNotification) :
    (s.onNotification notification).view = s.view := by
  unfold onNotification
  split
  · rfl
  next item hfound =>
    obtain ⟨entry, hentry, rfl⟩ :=
      List.mem_map.mp (List.mem_of_find?_eq_some hfound)
    have hcurrent := h.current (KeyedMap.mem_entries_iff.mp hentry)
    split
    · exact queueDataChange_view hcurrent _
    · exact queueEventFields_view _ _ _

theorem onNotifications_view {s : ServerSubscription} (h : s.Keyed)
    (notifications : List ItemNotification) :
    (s.onNotifications notifications).view = s.view := by
  refine runFrom_invariant_of_step (P := fun t : ServerSubscription => t.view = s.view)
    (fun t notification ht => ?_) rfl notifications
  have hkeyed : t.Keyed := by
    intro id binding
    rw [ht]
    exact h id binding
  rw [onNotification_view hkeyed, ht]

theorem onSubscriptionError_view {s : ServerSubscription} (h : s.Keyed)
    (status : Status) (clock : MonitoredItemId → DateTime) :
    (s.onSubscriptionError status clock).view = s.view := by
  refine runFrom_invariant_of_step (P := fun t : ServerSubscription => t.view = s.view)
    (fun t monitoredItemId ht => ?_) rfl s.items.keys
  have hkeyed : t.Keyed := by
    intro id binding
    rw [ht]
    exact h id binding
  split
  next item hlookup =>
    rw [queueItemStatus_view (hkeyed.current hlookup), ht]
  next => exact ht

theorem setMonitoringMode_view (s : ServerSubscription)
    (request : SetMonitoringModeRequest) :
    (s.setMonitoringMode request).1.view = s.view := by
  unfold setMonitoringMode
  split
  · rfl
  · refine collectResults_invariant (P := fun t : ServerSubscription => t.view = s.view)
      (fun t monitoredItemId ht => ?_) rfl request.monitoredItemIds
    unfold setItemMonitoringMode
    split
    · exact ht
    next item hlookup =>
      have hbinding : item.binding =
          ({ item with monitoringMode := request.monitoringMode } :
            Item).binding := rfl
      exact (view_insert_of_lookup hlookup hbinding).trans ht

theorem modify_view (s : ServerSubscription)
    (request : ModifySubscriptionRequest) : (s.modify request).1.view = s.view := by
  unfold modify
  split <;> rfl

theorem acknowledge_view (s : ServerSubscription)
    (sequenceNumbers : List UInt32) :
    (s.acknowledge sequenceNumbers).1.view = s.view := by
  refine collectResults_invariant (P := fun t : ServerSubscription => t.view = s.view)
    (fun t sequenceNumber ht => ?_) rfl sequenceNumbers
  unfold acknowledgeOne
  split <;> exact ht

theorem tryPublish_view (s : ServerSubscription) (now : DateTime) :
    (s.tryPublish now).1.view = s.view := by
  refine tryPublish_keeps (fun _ _ => rfl) (fun _ _ => rfl) ?_
  rw [s.primePublishCycle_eq now]
  rfl

theorem iterateFirst_view (s : ServerSubscription)
    (monitoredItemId : MonitoredItemId) :
    { s with items := s.items.modify monitoredItemId id }.view = s.view := by
  unfold view
  congr 1
  funext other
  simp only [KeyedMap.lookup_modify]
  split
  next heq =>
    rw [heq]
    cases s.items.lookup monitoredItemId <;> rfl
  next => rfl

/-! ## Operations which change the view -/

theorem eraseItem_view (s : ServerSubscription) (id : MonitoredItemId) :
    (s.eraseItem id).view =
      { s.view with
        bindingOf := Function.update s.view.bindingOf id none } := by
  unfold view eraseItem
  congr 1
  funext other
  simp only [KeyedMap.lookup_erase_eq, Function.update_apply]
  split <;> rfl

theorem emplaceItem_view {s : ServerSubscription} {item : Item}
    (hnew : s.items.lookup item.monitoredItemId = none) :
    (s.emplaceItem item).view =
      { s.view with
        bindingOf := Function.update s.view.bindingOf item.monitoredItemId
          (some item.binding) } := by
  have hinsert := s.view_insert item.monitoredItemId item
  unfold emplaceItem
  rw [hnew]
  exact hinsert

theorem writeItem_view {s : ServerSubscription} {item stored : Item}
    (hlookup : s.items.lookup item.monitoredItemId = some stored)
    (haddress : stored.address = item.address) :
    (s.writeItem item).view =
      { s.view with
        bindingOf := Function.update s.view.bindingOf item.monitoredItemId
          (some item.binding) } := by
  rw [writeItem_of_lookup hlookup haddress]
  exact s.view_insert item.monitoredItemId item

theorem writeItem_current {s : ServerSubscription} {item stored : Item}
    (hlookup : s.items.lookup item.monitoredItemId = some stored)
    (haddress : stored.address = item.address) :
    (s.writeItem item).Current item := by
  rw [writeItem_of_lookup hlookup haddress]
  intro found hfound _
  simp only [AList.lookup_insert, Option.some.injEq] at hfound
  rw [hfound]

theorem removeBackingItem_view (s : ServerSubscription)
    (backingItemId : MonitoredItemId) :
    (s.removeBackingItem backingItemId).view =
      if backingItemId = 0 ∨ !s.backingStarted then s.view
      else { s.view with removals := s.view.removals ++ [backingItemId] } := by
  unfold removeBackingItem
  split <;> rfl

/-- What an answered bind makes of the view.  A refused one leaves its status
with the item which waits for it, if any; a granted binding goes to the item
which waits for it under the handle of the bind, or is given back. -/
inductive Settles (v : BindingView) (clientHandle : UInt32)
    (result : MonitoredItemCreateResult) : BindingView → Prop where
  | ignored (hbad : result.status.isBad = true) : Settles v clientHandle result v
  | refused (hbad : result.status.isBad = true) (id : MonitoredItemId)
      (binding : Binding) (hbinding : v.bindingOf id = some binding) :
      Settles v clientHandle result
        { v with
          bindingOf := Function.update v.bindingOf id
            (some { binding with status := result.status.code }) }
  | abandoned (hgranted : result.status.isBad = false) :
      Settles v clientHandle result
        (if result.monitoredItemId = 0 ∨ !v.started then v
          else { v with removals := v.removals ++ [result.monitoredItemId] })
  | bound (hgranted : result.status.isBad = false) (id : MonitoredItemId)
      (binding : Binding) (hbinding : v.bindingOf id = some binding)
      (hhandle : binding.clientHandle = clientHandle) :
      Settles v clientHandle result
        { v with
          bindingOf := Function.update v.bindingOf id
            (some { binding with
              backingItemId := result.monitoredItemId
              status := result.status.code }) }

theorem onBindResult_settles {s : ServerSubscription} (h : s.Keyed)
    (weakItem : Option ℕ) (clientHandle : UInt32)
    (result : MonitoredItemCreateResult) (now : DateTime) :
    Settles s.view clientHandle result
      (s.onBindResult weakItem clientHandle result now).view := by
  have habandoned : Settles s.view clientHandle result
      (if result.status.isBad then s
        else s.removeBackingItem result.monitoredItemId).view := by
    cases hbad : result.status.isBad with
    | true => exact .ignored hbad
    | false =>
        have hview := s.removeBackingItem_view result.monitoredItemId
        simp only [Bool.false_eq_true, if_false]
        rw [hview]
        exact .abandoned hbad
  unfold onBindResult
  simp only
  split
  · exact habandoned
  next item hlock =>
    split
    · exact habandoned
    next hhandle =>
      rw [not_not] at hhandle
      have hmem : ∃ id, s.items.lookup id = some item := by
        obtain ⟨address, _, hfound⟩ := Option.bind_eq_some_iff.mp hlock
        obtain ⟨entry, hentry, rfl⟩ :=
          List.mem_map.mp (List.mem_of_find?_eq_some hfound)
        exact ⟨entry.1, KeyedMap.mem_entries_iff.mp hentry⟩
      obtain ⟨id, hlookup⟩ := hmem
      have hid := h.monitoredItemId_eq hlookup
      subst hid
      have hbinding : s.view.bindingOf item.monitoredItemId =
          some item.binding := by
        simp [view, hlookup]
      split
      next hbad =>
        have hlookup' : s.items.lookup
            ({ item with
              monitoredItemStatus := result.status.code } :
                Item).monitoredItemId = some item := hlookup
        rw [queueItemStatus_view (writeItem_current hlookup' rfl),
          writeItem_view hlookup' rfl]
        exact .refused hbad item.monitoredItemId item.binding hbinding
      next hgood =>
        have hlookup' : s.items.lookup
            ({ item with
              monitoredItemStatus := result.status.code
              backingItemId := result.monitoredItemId } :
                Item).monitoredItemId = some item := hlookup
        rw [writeItem_view hlookup' rfl]
        exact .bound (by simpa using hgood) item.monitoredItemId item.binding
          hbinding hhandle

/-! ## Binding an item -/

end ServerSubscription

namespace BindingView

def start (v : BindingView) : BindingView := { v with started := true }

/-- The binding of an item is given back, and the item waits for a new one under
the next handle. -/
def rebind (v : BindingView) (binding : Binding) : BindingView :=
  { v with
    bindingOf := Function.update v.bindingOf binding.monitoredItemId
      (some { binding with
        clientHandle := v.nextClientHandle
        backingItemId := 0
        status := .good })
    removals :=
      if binding.backingItemId = 0 then v.removals
      else v.removals ++ [binding.backingItemId]
    nextClientHandle := v.nextClientHandle + 1 }

def spawn (v : BindingView) (clientHandle : UInt32) : BindingView :=
  { v with inFlight := v.inFlight ++ [clientHandle] }

def setStatus (v : BindingView) (binding : Binding) (status : StatusCode) :
    BindingView :=
  { v with
    bindingOf := Function.update v.bindingOf binding.monitoredItemId
      (some { binding with status := status }) }

def erase (v : BindingView) (id : MonitoredItemId) : BindingView :=
  { v with bindingOf := Function.update v.bindingOf id none }

end BindingView

namespace ServerSubscription

/-- The answer an `AddItems` for one item is read as. -/
def firstResult (results : List MonitoredItemCreateResult) :
    MonitoredItemCreateResult :=
  results.head?.getD { status := .ofCode .bad }

/-- Whether `RebindItem` spawns a bind. -/
def spawnsBind (s : ServerSubscription) (attributeId : AttributeId)
    (env : BindEnvironment) : Bool :=
  isSupportedMonitoredAttribute attributeId &&
    !(s.startBackingSubscription env.createSubscription).2.isBad

theorem spawnsBind_congr {s t : ServerSubscription}
    (hstarted : s.backingStarted = t.backingStarted) (attributeId : AttributeId)
    (env : BindEnvironment) :
    s.spawnsBind attributeId env = t.spawnsBind attributeId env := by
  unfold spawnsBind startBackingSubscription
  rw [hstarted]
  cases t.backingStarted with
  | true => rfl
  | false =>
      cases env.createSubscription with
      | ok created => rfl
      | error status hbad => rfl

/-- What `RebindItem` makes of the view. -/
inductive Rebinds (v : BindingView) (binding : Binding)
    (env : BindEnvironment) : Bool → BindingView → Prop where
  | refused (status : StatusCode) :
      Rebinds v binding env false (v.setStatus binding status)
  | spawned (hsuspends : env.immediateResults = none) :
      Rebinds v binding env true
        ((v.start.rebind binding).spawn v.nextClientHandle)
  | settled (results : List MonitoredItemCreateResult)
      (hresults : env.immediateResults = some results) {w : BindingView}
      (hsettles : Settles (v.start.rebind binding) v.nextClientHandle
        (firstResult results) w) :
      Rebinds v binding env true w

theorem startBackingSubscription_view (s : ServerSubscription)
    (createSubscription : StatusOr Unit) :
    ((s.startBackingSubscription createSubscription).2.isBad = true ∧
        (s.startBackingSubscription createSubscription).1 = s) ∨
      (s.startBackingSubscription createSubscription).2.isBad = false ∧
        (s.startBackingSubscription createSubscription).1 =
          { s with backingStarted := true } := by
  have hgood : Status.good.isBad = false := by decide
  unfold startBackingSubscription
  split
  next hstarted =>
    refine .inr ⟨hgood, ?_⟩
    simp [← hstarted]
  · split
    next status hbad => exact .inl ⟨hbad, rfl⟩
    next => exact .inr ⟨hgood, rfl⟩

theorem readItem_binding {s : ServerSubscription} {item : Item}
    {binding : Binding}
    (hbinding : s.view.bindingOf item.monitoredItemId = some binding)
    (haddress : binding.address = item.address) :
    (s.readItem item).binding = binding := by
  obtain ⟨stored, hlookup, rfl⟩ := Option.map_eq_some_iff.mp hbinding
  unfold readItem
  rw [hlookup]
  exact congrArg Item.binding (if_pos haddress)

theorem exists_updated_binding {bindingOf : MonitoredItemId → Option Binding}
    {other : MonitoredItemId} {found updated : Binding}
    (hfound : bindingOf other = some found) (haddress : updated.address = found.address)
    (hitem : updated.monitoredItemId = found.monitoredItemId) {id : MonitoredItemId}
    {binding : Binding} (hbinding : bindingOf id = some binding) :
    ∃ after, Function.update bindingOf other (some updated) id = some after ∧
      after.address = binding.address ∧
      after.monitoredItemId = binding.monitoredItemId := by
  by_cases heq : id = other
  · subst heq
    rw [hbinding, Option.some.injEq] at hfound
    subst hfound
    exact ⟨updated, Function.update_self _ _ _, haddress, hitem⟩
  · exact ⟨binding, by simp [heq, hbinding], rfl, rfl⟩

theorem Settles.exists_binding {v w : BindingView} {clientHandle : UInt32}
    {result : MonitoredItemCreateResult}
    (h : Settles v clientHandle result w) {id : MonitoredItemId}
    {binding : Binding} (hbinding : v.bindingOf id = some binding) :
    ∃ after, w.bindingOf id = some after ∧ after.address = binding.address ∧
      after.monitoredItemId = binding.monitoredItemId := by
  cases h with
  | ignored hbad => exact ⟨binding, hbinding, rfl, rfl⟩
  | refused hbad other found hfound =>
      exact exists_updated_binding hfound (by rfl) (by rfl) hbinding
  | abandoned hgranted =>
      refine ⟨binding, ?_, rfl, rfl⟩
      split <;> exact hbinding
  | bound hgranted other found hfound hhandle =>
      exact exists_updated_binding hfound (by rfl) (by rfl) hbinding

theorem bindItem_rebinds {s : ServerSubscription} (h : s.Keyed)
    {v : BindingView} {binding : Binding} {clientHandle : UInt32}
    (hview : s.view = v.start.rebind binding)
    (hhandle : clientHandle = v.nextClientHandle) (weakItem : Option ℕ)
    (request : MonitoredItemCreateRequest) (env : BindEnvironment) :
    Rebinds v binding env true
      (s.bindItem ⟨weakItem, clientHandle, request⟩ env).view := by
  unfold bindItem
  split
  next results hresults =>
    have hsettles := s.onBindResult_settles h weakItem clientHandle
      (firstResult results) env.now
    rw [hview, hhandle] at hsettles
    exact .settled results hresults (hhandle ▸ hsettles)
  next hsuspends =>
    have hspawned :
        { s with
          bindsInFlight := s.bindsInFlight ++
            [BindInFlight.mk weakItem clientHandle request] }.view =
          (v.start.rebind binding).spawn v.nextClientHandle := by
      rw [← hview, ← hhandle]
      simp [view, BindingView.spawn]
    rw [hspawned]
    exact .spawned hsuspends

theorem bindItem_exists_binding {s : ServerSubscription} (h : s.Keyed)
    (bind : BindInFlight) (env : BindEnvironment) {id : MonitoredItemId}
    {binding : Binding} (hbinding : s.view.bindingOf id = some binding) :
    ∃ after, (s.bindItem bind env).view.bindingOf id = some after ∧
      after.address = binding.address := by
  unfold bindItem
  split
  next results _ =>
    obtain ⟨after, hafter, haddress, _⟩ := (s.onBindResult_settles h
      bind.weakItem bind.backingClientHandle (firstResult results)
      env.now).exists_binding hbinding
    exact ⟨after, hafter, haddress⟩
  next => exact ⟨binding, hbinding, rfl⟩

/-- The item as `RebindItem` leaves it before the bind is spawned. -/
def reboundItem (s : ServerSubscription) (item : Item) : Item :=
  { item with
    bindingRequested := true
    backingItemId := 0
    monitoredItemStatus := .good
    backingClientHandle :=
      (s.removeBackingItem item.backingItemId).nextBackingClientHandle }

/-- The started subscription before the bind is spawned. -/
def rebound (s : ServerSubscription) (item : Item) : ServerSubscription :=
  (s.removeBackingItem item.backingItemId).takeClientHandle.writeItem
    (s.reboundItem item)

theorem rebound_view {s : ServerSubscription} {item stored : Item}
    (hstarted : s.backingStarted = true)
    (hlookup : s.items.lookup item.monitoredItemId = some stored)
    (haddress : stored.address = item.address) :
    (s.rebound item).view = s.view.rebind item.binding ∧
      (s.reboundItem item).backingClientHandle = s.view.nextClientHandle := by
  have hkept : (s.removeBackingItem item.backingItemId).takeClientHandle.view =
      { s.view with
        removals :=
          if item.backingItemId = 0 then s.view.removals
          else s.view.removals ++ [item.backingItemId]
        nextClientHandle := s.view.nextClientHandle + 1 } := by
    unfold removeBackingItem
    by_cases hzero : item.backingItemId = 0
    · simp [hzero, takeClientHandle, view]
    · simp [hzero, hstarted, takeClientHandle, view]
  have hhandle : (s.removeBackingItem
      item.backingItemId).nextBackingClientHandle =
        s.nextBackingClientHandle := by
    unfold removeBackingItem
    split <;> rfl
  have hitems : (s.removeBackingItem
      item.backingItemId).takeClientHandle.items.lookup
        (s.reboundItem item).monitoredItemId = some stored := by
    rw [← hlookup]
    unfold removeBackingItem
    split <;> rfl
  refine ⟨?_, hhandle⟩
  rw [rebound, writeItem_view hitems haddress, hkept]
  simp only [BindingView.rebind, reboundItem, Item.binding, hhandle]
  rfl

theorem rebindItem_rebinds {s : ServerSubscription} (h : s.Keyed)
    {item stored : Item}
    (hlookup : s.items.lookup item.monitoredItemId = some stored)
    (haddress : stored.address = item.address) (env : BindEnvironment) :
    Rebinds s.view item.binding env
        (s.spawnsBind item.itemToMonitor.attributeId env)
        (s.rebindItem item env).1.view ∧
      (s.rebindItem item env).1.view.bindingOf item.monitoredItemId =
        some (s.rebindItem item env).2.binding := by
  have hrefused : ∀ (t : ServerSubscription) (status : StatusCode),
      t.items.lookup item.monitoredItemId = some stored →
        (t.writeItem { item with monitoredItemStatus := status }).view =
          t.view.setStatus item.binding status := by
    intro t status hfound
    have hfound' : t.items.lookup
        ({ item with monitoredItemStatus := status } : Item).monitoredItemId =
          some stored := hfound
    exact writeItem_view hfound' haddress
  unfold rebindItem spawnsBind
  split
  next hunsupported =>
    rw [Bool.not_eq_true'] at hunsupported
    simp only [hunsupported, Bool.false_and]
    rw [hrefused s _ hlookup]
    exact ⟨.refused _, Function.update_self _ _ _⟩
  next hsupported =>
    have hattribute : isSupportedMonitoredAttribute
        item.itemToMonitor.attributeId = true := by
      simpa using hsupported
    simp only [hattribute, Bool.true_and]
    rcases s.startBackingSubscription_view env.createSubscription with
      ⟨hbad, hsame⟩ | ⟨hgood, hstarted⟩
    · rw [if_pos hbad, hsame, hbad]
      simp only
      rw [hrefused s _ hlookup]
      exact ⟨.refused _, Function.update_self _ _ _⟩
    · rw [if_neg (by rw [hgood]; exact Bool.false_ne_true), hstarted, hgood]
      generalize ht : { s with backingStarted := true } = t
      have htlookup : t.items.lookup item.monitoredItemId = some stored := by
        rw [← ht]
        exact hlookup
      obtain ⟨hview, hhandle⟩ :=
        rebound_view (s := t) (by rw [← ht]) htlookup haddress
      have htview : t.view = s.view.start := by
        rw [← ht]
        rfl
      rw [htview] at hview hhandle
      have hkeyed : (t.rebound item).Keyed := by
        intro id binding hid
        rw [hview] at hid
        simp only [BindingView.rebind, Function.update_apply] at hid
        split at hid
        next heq =>
          rw [← Option.some.inj hid]
          exact heq.symm
        next => exact h id binding hid
      refine ⟨bindItem_rebinds hkeyed hview hhandle _ _ env, ?_⟩
      have hbound : (t.rebound item).view.bindingOf item.monitoredItemId =
          some { item.binding with
            clientHandle := s.view.start.nextClientHandle
            backingItemId := 0
            status := .good } := by
        rw [hview]
        exact Function.update_self _ _ _
      obtain ⟨after, hafter, hsame⟩ :=
        bindItem_exists_binding hkeyed _ env hbound
      have hread := @readItem_binding _ (t.reboundItem item) _ hafter hsame
      rw [← hread] at hafter
      exact hafter

end ServerSubscription

end OpcuaStack
