import OpcuaStack.PublishFairness

/-!
# The subscription store of a session

`session/server_session.cpp` keeps its subscriptions behind owning pointers.  A
transfer moves a pointer out of the giving session and erases the entry it
leaves behind afterwards, so that for a moment the map holds a null pointer.
The store below has such entries; it is shown to behave as the map of
subscriptions which the session is elsewhere taken to have.
-/

namespace OpcuaStack

/-- The members of a session which the store consists of.  An entry without a
subscription is a null pointer. -/
structure SubscriptionStore where
  subscriptions : KeyedMap SubscriptionId (Option ServerSubscription) := ∅
  publishOrder : List SubscriptionId := []
  nextSubscriptionId : SubscriptionId := 1
  nextPublishIndex : ℕ := 0

namespace SubscriptionStore

/-- `FindSubscription`: null for a missing entry and for a null entry. -/
def findSubscription (store : SubscriptionStore) (id : SubscriptionId) :
    Option ServerSubscription :=
  (store.subscriptions.lookup id).join

/-- What an operation leaves behind the pointer found for an id. -/
def writeSubscription (store : SubscriptionStore) (id : SubscriptionId)
    (subscription : ServerSubscription) : SubscriptionStore :=
  { store with
    subscriptions := store.subscriptions.insert id (some subscription) }

def createSubscriptionWithId (store : SubscriptionStore) (id : SubscriptionId)
    (request : CreateSubscriptionRequest) (traceParent : ByteText)
    (now : DateTime) : SubscriptionStore :=
  let subscription :=
    ServerSubscription.create id request.parameters now traceParent
  { store with
    nextSubscriptionId := max store.nextSubscriptionId (id + 1)
    subscriptions := store.subscriptions.emplace id (some subscription)
    publishOrder := store.publishOrder ++ [id] }

def eraseSubscription (store : SubscriptionStore) (id : SubscriptionId) :
    SubscriptionStore :=
  let store := { store with subscriptions := store.subscriptions.erase id }
  match store.publishOrder.findIdx? (· == id) with
  | none => store
  | some index =>
      let publishOrder := store.publishOrder.eraseIdx index
      if publishOrder.isEmpty then
        { store with publishOrder := publishOrder, nextPublishIndex := 0 }
      else
        let next :=
          if index < store.nextPublishIndex then store.nextPublishIndex - 1
          else store.nextPublishIndex
        { store with
          publishOrder := publishOrder
          nextPublishIndex := if publishOrder.length ≤ next then 0 else next }

def deleteSubscription (store : SubscriptionStore) (id : SubscriptionId) :
    SubscriptionStore × Status :=
  match store.findSubscription id with
  | none => (store, .ofCode .badSubscriptionIdInvalid)
  | some _ => (store.eraseSubscription id, .good)

/-- The loop of `DeleteSubscriptions`. -/
def deleteSubscriptions (store : SubscriptionStore)
    (request : DeleteSubscriptionsRequest) : SubscriptionStore × List Status :=
  collectResults deleteSubscription store request.subscriptionIds

/-- One round of the loop of `TransferSubscriptionsFrom`.  The pointer is moved
into the receiving map, which leaves a null pointer in the giving one until the
entry is erased. -/
def transferSubscription (stores : SubscriptionStore × SubscriptionStore)
    (id : SubscriptionId) :
    (SubscriptionStore × SubscriptionStore) × TransferResult :=
  let (target, source) := stores
  match target.findSubscription id with
  | some _ => (stores, { statusCode := .ofCode .bad })
  | none =>
      match source.subscriptions.lookup id with
      | none => (stores, { statusCode := .ofCode .badSubscriptionIdInvalid })
      | some pointer =>
          let source :=
            { source with subscriptions := source.subscriptions.insert id none }
          let target :=
            { target with
              subscriptions := target.subscriptions.emplace id pointer
              publishOrder := target.publishOrder ++ [id] }
          ((target, source.eraseSubscription id), { statusCode := .good })

def refreshNextSubscriptionId (store : SubscriptionStore) : SubscriptionStore :=
  { store with
    nextSubscriptionId := store.subscriptions.keys.foldl
      (fun next id => max next (id + 1)) store.nextSubscriptionId }

def transferSubscriptionsFrom (target source : SubscriptionStore)
    (ids : List SubscriptionId) :
    (SubscriptionStore × SubscriptionStore) × List TransferResult :=
  let ((target, source), results) :=
    collectResults transferSubscription (target, source) ids
  ((target.refreshNextSubscriptionId, source), results)

/-! ## Publishing -/

def findNextReadySubscription (store : SubscriptionStore) (now : DateTime)
    (requirePending : Bool) : Option ℕ :=
  ((List.range store.publishOrder.length).map fun offset =>
      (store.nextPublishIndex + offset) % store.publishOrder.length).find?
    fun index =>
      (store.publishOrder[index]?.bind store.findSubscription).any
        fun subscription =>
          (!requirePending || subscription.hasPendingNotifications) &&
            subscription.isPublishReady now

def advancePublishCursorAfter (store : SubscriptionStore) (index : ℕ) :
    SubscriptionStore :=
  if store.publishOrder.isEmpty then { store with nextPublishIndex := 0 }
  else
    { store with nextPublishIndex := (index + 1) % store.publishOrder.length }

/-- A round of the loop over the subscriptions which are not ready. -/
def primeSubscription (now : DateTime)
    (state : SubscriptionStore × ServerSession.PublishSchedule) (id : SubscriptionId) :
    SubscriptionStore × ServerSession.PublishSchedule :=
  let (store, schedule) := state
  match store.findSubscription id with
  | none => state
  | some subscription =>
      let subscription := subscription.primePublishCycle now
      let store := store.writeSubscription id subscription
      match subscription.nextPublishDeadline with
      | none => (store, schedule)
      | some deadline =>
          (store,
            { earliestDeadline :=
                match schedule.earliestDeadline with
                | none => some deadline
                | some earliest =>
                    if deadline.ticks < earliest.ticks then some deadline
                    else some earliest
              maxWaitBeforeRecheck :=
                match schedule.maxWaitBeforeRecheck with
                | none => some subscription.publishingInterval
                | some wait =>
                    if subscription.publishingInterval.milliseconds <
                        wait.milliseconds then
                      some subscription.publishingInterval
                    else some wait })

def pollWait (store : SubscriptionStore) (now : DateTime) :
    SubscriptionStore × PublishPollResult :=
  if store.subscriptions.entries.isEmpty then
    (store, .response { status := .ofCode .badNoSubscription })
  else
    let (store, schedule) :=
      store.publishOrder.foldl (primeSubscription now) (store, {})
    match schedule.earliestDeadline with
    | none => (store, .response { status := .good })
    | some deadline =>
        let wait : Duration := ⟨max 0 (deadline.sub now).milliseconds⟩
        (store, .waitFor
          (match schedule.maxWaitBeforeRecheck with
          | none => wait
          | some recheck => ⟨min wait.milliseconds recheck.milliseconds⟩))

def pollReady (store : SubscriptionStore) (index : ℕ) (now : DateTime) :
    SubscriptionStore × PublishPollResult :=
  match store.publishOrder[index]? with
  | none => (store, .response { status := .ofCode .bad })
  | some id =>
      match store.findSubscription id with
      | none => (store, .response { status := .ofCode .bad })
      | some subscription =>
          let (subscription, published) := subscription.tryPublish now
          let store := store.writeSubscription id subscription
          match published with
          | none => (store, .response { status := .good })
          | some response =>
              (store.advancePublishCursorAfter index, .response response)

def pollPublish (store : SubscriptionStore) (now : DateTime) :
    SubscriptionStore × PublishPollResult :=
  match (store.findNextReadySubscription now true).or
      (store.findNextReadySubscription now false) with
  | none => store.pollWait now
  | some index => store.pollReady index now

/-! ## The session a store belongs to -/

/-- Every entry holds the subscription which the session has, and the order and
the cursor are the session's. -/
structure Stores (store : SubscriptionStore) (session : ServerSession) : Prop where
  lookup : ∀ id, store.subscriptions.lookup id =
    (session.subscriptions.lookup id).map some
  publishOrder : store.publishOrder = session.publishOrder
  nextPublishIndex : store.nextPublishIndex = session.nextPublishIndex

variable {store source : SubscriptionStore} {session sourceSession : ServerSession}

theorem Stores.findSubscription_eq (h : Stores store session) :
    store.findSubscription = session.subscriptions.lookup := by
  funext id
  rw [findSubscription, h.lookup]
  cases session.subscriptions.lookup id <;> rfl

theorem Stores.isEmpty_eq (h : Stores store session) :
    store.subscriptions.entries.isEmpty =
      session.subscriptions.entries.isEmpty := by
  have hentries : ∀ {β : Type} (m : KeyedMap SubscriptionId β),
      m.entries.isEmpty = true ↔ ∀ id, m.lookup id = none := by
    intro β m
    rw [List.isEmpty_iff]
    constructor
    · intro hnil id
      rw [AList.lookup_eq_none]
      simp [AList.mem_keys, AList.keys, hnil]
    · intro hnone
      refine List.eq_nil_iff_forall_not_mem.mpr fun entry hmem => ?_
      have hfound := KeyedMap.mem_entries_iff.mp hmem
      rw [hnone] at hfound
      cases hfound
  rw [Bool.eq_iff_iff, hentries, hentries]
  refine forall_congr' fun id => ?_
  rw [h.lookup, Option.map_eq_none_iff]

theorem Stores.write (h : Stores store session) (id : SubscriptionId)
    (subscription : ServerSubscription) :
    Stores (store.writeSubscription id subscription)
      (session.writeSubscription id subscription) where
  lookup other := by
    rw [writeSubscription, ServerSession.writeSubscription,
      KeyedMap.lookup_insert_eq, KeyedMap.lookup_insert_eq]
    split
    next => rfl
    next => exact h.lookup other
  publishOrder := h.publishOrder
  nextPublishIndex := h.nextPublishIndex

theorem Stores.create (h : Stores store session) {id : SubscriptionId}
    (hnew : session.hasSubscription id = false)
    (request : CreateSubscriptionRequest) (traceParent : ByteText)
    (now : DateTime) :
    Stores (store.createSubscriptionWithId id request traceParent now)
      (session.createSubscriptionWithId id request traceParent now).1 where
  lookup other := by
    have hnone : session.subscriptions.lookup id = none := by
      simpa [ServerSession.hasSubscription] using hnew
    have hmissing : store.subscriptions.lookup id = none := by
      rw [h.lookup, hnone]
      rfl
    simp only [createSubscriptionWithId, ServerSession.createSubscriptionWithId,
      hnew, KeyedMap.emplace_of_none hmissing, KeyedMap.lookup_insert_eq,
      Bool.false_eq_true, if_false]
    split
    next => rfl
    next => exact h.lookup other
  publishOrder := by
    simp only [createSubscriptionWithId, ServerSession.createSubscriptionWithId,
      h.publishOrder]
  nextPublishIndex := h.nextPublishIndex

theorem Stores.erase (h : Stores store session) (id : SubscriptionId) :
    Stores (store.eraseSubscription id) (session.eraseSubscription id) := by
  have hlookup : ∀ other, (store.subscriptions.erase id).lookup other =
      ((session.subscriptions.erase id).lookup other).map some := by
    intro other
    rw [KeyedMap.lookup_erase_eq, KeyedMap.lookup_erase_eq]
    split
    next => rfl
    next => exact h.lookup other
  unfold eraseSubscription ServerSession.eraseSubscription
  simp only [h.publishOrder, h.nextPublishIndex]
  cases hindex : session.publishOrder.findIdx? (· == id) with
  | none =>
      dsimp only
      exact ⟨hlookup, rfl, rfl⟩
  | some index =>
      dsimp only
      split
      · exact ⟨hlookup, rfl, rfl⟩
      · exact ⟨hlookup, rfl, rfl⟩

theorem eraseSubscription_insert (store : SubscriptionStore)
    (id : SubscriptionId) (pointer : Option ServerSubscription) :
    ({ store with subscriptions := store.subscriptions.insert id pointer } :
        SubscriptionStore).eraseSubscription id = store.eraseSubscription id := by
  have herase : (store.subscriptions.insert id pointer).erase id =
      store.subscriptions.erase id := by
    apply AList.ext
    change List.kerase id (⟨id, pointer⟩ :: List.kerase id
      store.subscriptions.entries) = List.kerase id store.subscriptions.entries
    exact List.kerase_cons_eq rfl
  unfold eraseSubscription
  simp only [herase]

theorem Stores.delete (h : Stores store session) (id : SubscriptionId) :
    Stores (store.deleteSubscription id).1 (session.deleteSubscription id).1 ∧
      (store.deleteSubscription id).2 = (session.deleteSubscription id).2 := by
  have hfind := congrFun h.findSubscription_eq id
  unfold deleteSubscription ServerSession.deleteSubscription
    ServerSession.hasSubscription
  cases hlookup : session.subscriptions.lookup id with
  | none =>
      simp only [hfind, hlookup]
      exact ⟨h, rfl⟩
  | some subscription =>
      simp only [hfind, hlookup]
      exact ⟨h.erase id, rfl⟩

theorem Stores.transferOne {stores : SubscriptionStore × SubscriptionStore}
    {sessions : ServerSession × ServerSession}
    (h : Stores stores.1 sessions.1 ∧ Stores stores.2 sessions.2)
    (id : SubscriptionId) :
    (Stores (transferSubscription stores id).1.1
        (ServerSession.transferSubscription sessions id).1.1 ∧
      Stores (transferSubscription stores id).1.2
        (ServerSession.transferSubscription sessions id).1.2) ∧
      (transferSubscription stores id).2 =
        (ServerSession.transferSubscription sessions id).2 := by
  obtain ⟨target, source⟩ := stores
  obtain ⟨targetSession, sourceSession⟩ := sessions
  obtain ⟨htarget, hsource⟩ := h
  have hfind := congrFun htarget.findSubscription_eq id
  have hentry := hsource.lookup id
  unfold transferSubscription ServerSession.transferSubscription
    ServerSession.hasSubscription
  dsimp only at hfind hentry ⊢
  cases hheld : targetSession.subscriptions.lookup id with
  | some held =>
      simp only [hfind, hheld]
      exact ⟨⟨htarget, hsource⟩, rfl⟩
  | none =>
      cases hlookup : sourceSession.subscriptions.lookup id with
      | none =>
          rw [hlookup] at hentry
          simp only [hfind, hheld, hentry]
          exact ⟨⟨htarget, hsource⟩, rfl⟩
      | some subscription =>
          rw [hlookup] at hentry
          simp only [hfind, hheld, hentry, Option.map_some,
            eraseSubscription_insert]
          refine ⟨⟨⟨fun other => ?_, ?_, htarget.nextPublishIndex⟩,
            hsource.erase id⟩, rfl⟩
          · have hmissing : target.subscriptions.lookup id = none := by
              rw [htarget.lookup, hheld]
              rfl
            simp only [KeyedMap.emplace_of_none hmissing]
            have hinsert := (htarget.write id subscription).lookup other
            exact hinsert
          · exact congrArg (· ++ [id]) htarget.publishOrder

/-- By induction on the ids: the two loops go through the same rounds. -/
theorem Stores.transferLoop (ids : List SubscriptionId)
    {stores : SubscriptionStore × SubscriptionStore}
    {sessions : ServerSession × ServerSession}
    (h : Stores stores.1 sessions.1 ∧ Stores stores.2 sessions.2) :
    (Stores (collectResults transferSubscription stores ids).1.1
        (collectResults ServerSession.transferSubscription sessions ids).1.1 ∧
      Stores (collectResults transferSubscription stores ids).1.2
        (collectResults ServerSession.transferSubscription sessions ids).1.2) ∧
      (collectResults transferSubscription stores ids).2 =
        (collectResults ServerSession.transferSubscription sessions ids).2 := by
  induction ids generalizing stores sessions with
  | nil => exact ⟨h, rfl⟩
  | cons id ids ih =>
      obtain ⟨hround, hresult⟩ := Stores.transferOne h id
      obtain ⟨hrest, hresults⟩ := ih hround
      exact ⟨hrest, congrArg₂ List.cons hresult hresults⟩

theorem Stores.transfer (h : Stores store session)
    (hsource : Stores source sourceSession) (ids : List SubscriptionId) :
    (Stores (store.transferSubscriptionsFrom source ids).1.1
        (session.transferSubscriptionsFrom sourceSession ids).1.1 ∧
      Stores (store.transferSubscriptionsFrom source ids).1.2
        (session.transferSubscriptionsFrom sourceSession ids).1.2) ∧
      (store.transferSubscriptionsFrom source ids).2 =
        (session.transferSubscriptionsFrom sourceSession ids).2 := by
  have hloop := @Stores.transferLoop ids (store, source) (session, sourceSession)
    ⟨h, hsource⟩
  obtain ⟨⟨htarget, hsource'⟩, hresults⟩ := hloop
  exact ⟨⟨⟨htarget.lookup, htarget.publishOrder, htarget.nextPublishIndex⟩,
    hsource'⟩, hresults⟩

theorem Stores.deleteAll (h : Stores store session)
    (request : DeleteSubscriptionsRequest) :
    Stores (store.deleteSubscriptions request).1
        (session.deleteSubscriptions request).1 ∧
      (store.deleteSubscriptions request).2 =
        (session.deleteSubscriptions request).2.results := by
  have hloop : ∀ (ids : List SubscriptionId) {store : SubscriptionStore}
      {session : ServerSession}, Stores store session →
      Stores (collectResults deleteSubscription store ids).1
          (collectResults ServerSession.deleteSubscription session ids).1 ∧
        (collectResults deleteSubscription store ids).2 =
          (collectResults ServerSession.deleteSubscription session ids).2 := by
    intro ids
    induction ids with
    | nil => exact fun h => ⟨h, rfl⟩
    | cons id ids ih =>
        intro store session h
        obtain ⟨hround, hresult⟩ := h.delete id
        obtain ⟨hrest, hresults⟩ := ih hround
        exact ⟨hrest, congrArg₂ List.cons hresult hresults⟩
  exact hloop request.subscriptionIds h

/-! ## Polling -/

theorem Stores.findNextReadySubscription_eq (h : Stores store session)
    (now : DateTime) (requirePending : Bool) :
    store.findNextReadySubscription now requirePending =
      session.findNextReadySubscription now requirePending := by
  unfold findNextReadySubscription ServerSession.findNextReadySubscription
  rw [h.findSubscription_eq, h.publishOrder, h.nextPublishIndex]

theorem Stores.prime (now : DateTime)
    {state : SubscriptionStore × ServerSession.PublishSchedule}
    {other : ServerSession × ServerSession.PublishSchedule}
    (h : Stores state.1 other.1 ∧ state.2 = other.2) (id : SubscriptionId) :
    Stores (primeSubscription now state id).1
        (ServerSession.primeSubscription now other id).1 ∧
      (primeSubscription now state id).2 =
        (ServerSession.primeSubscription now other id).2 := by
  obtain ⟨store, schedule⟩ := state
  obtain ⟨session, schedule'⟩ := other
  obtain ⟨hstores, hschedule⟩ := h
  dsimp only at hstores hschedule
  subst hschedule
  have hfind := congrFun hstores.findSubscription_eq id
  unfold primeSubscription ServerSession.primeSubscription
  cases hlookup : session.subscriptions.lookup id with
  | none =>
      simp only [hfind, hlookup]
      exact ⟨hstores, trivial⟩
  | some subscription =>
      simp only [hfind, hlookup]
      cases hdeadline :
          (subscription.primePublishCycle now).nextPublishDeadline with
      | none => exact ⟨hstores.write id _, rfl⟩
      | some deadline => exact ⟨hstores.write id _, rfl⟩

theorem Stores.pollWait (h : Stores store session) (now : DateTime) :
    Stores (store.pollWait now).1 (session.pollWait now).1 ∧
      (store.pollWait now).2 = (session.pollWait now).2 := by
  have hloop : ∀ (ids : List SubscriptionId)
      (state : SubscriptionStore × ServerSession.PublishSchedule)
      (other : ServerSession × ServerSession.PublishSchedule),
      Stores state.1 other.1 ∧ state.2 = other.2 →
      Stores (ids.foldl (primeSubscription now) state).1
          (ids.foldl (ServerSession.primeSubscription now) other).1 ∧
        (ids.foldl (primeSubscription now) state).2 =
          (ids.foldl (ServerSession.primeSubscription now) other).2 := by
    intro ids
    induction ids with
    | nil => exact fun _ _ h => h
    | cons id ids ih => exact fun state other h => ih _ _ (Stores.prime now h id)
  obtain ⟨hprimed, hschedule⟩ :=
    hloop session.publishOrder (store, {}) (session, {}) ⟨h, rfl⟩
  unfold SubscriptionStore.pollWait ServerSession.pollWait
  rw [h.isEmpty_eq]
  by_cases hempty : session.subscriptions.entries.isEmpty = true
  · rw [if_pos hempty, if_pos hempty]
    exact ⟨h, rfl⟩
  · rw [if_neg hempty, if_neg hempty, h.publishOrder]
    dsimp only
    rw [hschedule]
    cases (session.publishOrder.foldl (ServerSession.primeSubscription now)
        (session, {})).2.earliestDeadline with
    | none => exact ⟨hprimed, rfl⟩
    | some deadline => exact ⟨hprimed, rfl⟩

theorem Stores.advance (h : Stores store session) (index : ℕ) :
    Stores (store.advancePublishCursorAfter index)
      (session.advancePublishCursorAfter index) := by
  unfold advancePublishCursorAfter ServerSession.advancePublishCursorAfter
  rw [h.publishOrder]
  split
  · exact ⟨h.lookup, rfl, rfl⟩
  · exact ⟨h.lookup, rfl, rfl⟩

theorem Stores.pollReady (h : Stores store session) (index : ℕ)
    (now : DateTime) :
    Stores (store.pollReady index now).1 (session.pollReady index now).1 ∧
      (store.pollReady index now).2 = (session.pollReady index now).2 := by
  unfold SubscriptionStore.pollReady ServerSession.pollReady
  rw [h.publishOrder, h.findSubscription_eq]
  cases hindex : session.publishOrder[index]? with
  | none =>
      dsimp only
      exact ⟨h, rfl⟩
  | some id =>
      dsimp only
      cases hlookup : session.subscriptions.lookup id with
      | none =>
          dsimp only
          exact ⟨h, rfl⟩
      | some subscription =>
          dsimp only
          cases hpublished : (subscription.tryPublish now).2 with
          | none =>
              dsimp only
              exact ⟨h.write id _, rfl⟩
          | some response =>
              dsimp only
              exact ⟨(h.write id _).advance index, rfl⟩

/-- Where every entry holds its subscription, polling the store is polling the
session. -/
theorem Stores.poll (h : Stores store session) (now : DateTime) :
    Stores (store.pollPublish now).1 (session.pollPublish now).1 ∧
      (store.pollPublish now).2 = (session.pollPublish now).2 := by
  unfold pollPublish ServerSession.pollPublish
  rw [h.findNextReadySubscription_eq, h.findNextReadySubscription_eq]
  cases hfound : (session.findNextReadySubscription now true).or
      (session.findNextReadySubscription now false) with
  | none => exact h.pollWait now
  | some index => exact h.pollReady index now

end SubscriptionStore
end OpcuaStack
