import OpcuaStack.PublishScheduling

/-!
# Fairness between the subscriptions of a session

Read from its cursor, the publish order of a session is a queue.  The
subscription served goes to the end of it, one which leaves the session leaves
the others in order, and one which joins stands somewhere between them.  So a
subscription just served stays behind every other one until that is served, as
long as neither leaves the session.
-/

namespace OpcuaStack

/-- What can happen to a session.  The other session of a transfer is arbitrary
and may change between two events. -/
inductive SessionEvent where
  | poll (now : DateTime)
  | create (id : SubscriptionId) (request : CreateSubscriptionRequest)
      (traceParent : ByteText) (now : DateTime)
  | delete (request : DeleteSubscriptionsRequest)
  | transferIn (source : ServerSession) (ids : List SubscriptionId)
  | transferOut (target : ServerSession) (ids : List SubscriptionId)
  | acknowledge (request : PublishRequest)
  | serve (request : SessionRequest) (envs : ℕ → BindEnvironment)
  | storeBrowse (response : BrowseResponse) (requestedMax : ℕ)
  | backing (id : SubscriptionId) (event : ServerSubscription.BackingEvent)
  | resume (serviceContext : ServiceContext)

namespace ServerSession

def apply (session : ServerSession) : SessionEvent → ServerSession
  | .poll now => (session.pollPublish now).1
  | .create id request traceParent now =>
      (session.createSubscriptionWithId id request traceParent now).1
  | .delete request => (session.deleteSubscriptions request).1
  | .transferIn source ids => (session.transferSubscriptionsFrom source ids).1.1
  | .transferOut target ids => (target.transferSubscriptionsFrom session ids).1.2
  | .acknowledge request => (session.acknowledgePublishRequest request).1
  | .serve request envs => (session.serve request envs).1
  | .storeBrowse response requestedMax =>
      (session.storeBrowseResults response requestedMax).1
  | .backing id event =>
      (session.onSubscription id () fun subscription =>
        (subscription.onBackingEvent event, ())).1
  | .resume serviceContext => { session with serviceContext := serviceContext }

/-- The subscription for which a poll publishes. -/
def polledSubscription (session : ServerSession) (now : DateTime) :
    Option SubscriptionId :=
  ((session.findNextReadySubscription now true).or
      (session.findNextReadySubscription now false)).bind
    fun index => session.publishOrder[index]?

/-- The publish order as a poll visits it. -/
def publishQueue (session : ServerSession) : List SubscriptionId :=
  visited session.publishOrder session.nextPublishIndex

/-- The publish order lists the subscriptions once each, and the cursor points
into it. -/
structure InOrder (session : ServerSession) : Prop where
  nodup : session.publishOrder.Nodup
  held : ∀ id, id ∈ session.publishOrder ↔ session.hasSubscription id = true
  cursor : session.nextPublishIndex = 0 ∨
    session.nextPublishIndex < session.publishOrder.length

theorem InOrder.cursor_le {session : ServerSession} (h : session.InOrder) :
    session.nextPublishIndex ≤ session.publishOrder.length := by
  rcases h.cursor with hzero | hlt
  · omega
  · exact hlt.le

/-! ## Joining and leaving -/

/-- The queue changes only by what joins it and what leaves the session. -/
structure KeepsOrder (before after : ServerSession) : Prop where
  inOrder : after.InOrder
  kept : ∀ ids : List SubscriptionId, ids.Sublist before.publishQueue →
    (∀ id ∈ ids, after.hasSubscription id = true) →
      ids.Sublist after.publishQueue

theorem KeepsOrder.refl {session : ServerSession} (h : session.InOrder) :
    KeepsOrder session session :=
  ⟨h, fun _ hsublist _ => hsublist⟩

theorem InOrder.keepsOrder_of_inPlace {before after : ServerSession}
    (h : before.InOrder) (hplace : InPlace before after) :
    KeepsOrder before after := by
  refine ⟨⟨?_, fun id => ?_, ?_⟩, fun ids hsublist _ => ?_⟩
  · rw [hplace.publishOrder]
    exact h.nodup
  · rw [hplace.publishOrder, hplace.sameOutline.hasSubscription]
    exact h.held id
  · rw [hplace.publishOrder, hplace.nextPublishIndex]
    exact h.cursor
  · rw [publishQueue, hplace.publishOrder, hplace.nextPublishIndex]
    exact hsublist

/-- A subscription which was not there joins at the end of the order. -/
theorem InOrder.join {before after : ServerSession} (h : before.InOrder)
    {id : SubscriptionId} (hnew : before.hasSubscription id = false)
    (horder : after.publishOrder = before.publishOrder ++ [id])
    (hcursor : after.nextPublishIndex = before.nextPublishIndex)
    (hheld : ∀ other, after.hasSubscription other =
      (decide (other = id) || before.hasSubscription other)) :
    after.InOrder ∧ before.publishQueue.Sublist after.publishQueue := by
  have hnotMem : id ∉ before.publishOrder := by
    rw [h.held, hnew]
    exact Bool.false_ne_true
  refine ⟨⟨?_, fun other => ?_, ?_⟩, ?_⟩
  · rw [horder]
    refine List.nodup_append.mpr ⟨h.nodup, List.nodup_singleton id, ?_⟩
    intro other hother joined hjoined heq
    rw [heq, List.mem_singleton.mp hjoined] at hother
    exact hnotMem hother
  · rw [horder, hheld, List.mem_append, h.held]
    simp [or_comm]
  · rw [horder, hcursor, List.length_append]
    rcases h.cursor with hzero | hlt
    · exact .inl hzero
    · exact .inr (by omega)
  · rw [publishQueue, publishQueue, horder, hcursor]
    exact visited_append h.cursor_le id

theorem eraseSubscription_of_mem {session : ServerSession}
    {front back : List SubscriptionId} {id : SubscriptionId}
    (horder : session.publishOrder = front ++ id :: back) (hnew : id ∉ front) :
    (session.eraseSubscription id).publishOrder = front ++ back ∧
      (session.eraseSubscription id).nextPublishIndex =
        cursorAfterErase session.nextPublishIndex front.length
          (front ++ back).length := by
  have hindex : session.publishOrder.findIdx? (· == id) =
      some front.length := by
    rw [horder, List.findIdx?_append]
    have hfront : front.findIdx? (· == id) = none := by
      rw [List.findIdx?_eq_none_iff]
      intro other hother
      simp only [beq_eq_false_iff_ne]
      rintro rfl
      exact hnew hother
    simp [hfront, List.findIdx?_cons]
  have herased : session.publishOrder.eraseIdx front.length =
      front ++ back := by
    rw [horder, List.eraseIdx_append_of_length_le (le_refl _)]
    simp
  unfold eraseSubscription
  simp only [hindex, herased]
  split
  next hempty =>
    refine ⟨rfl, ?_⟩
    rw [List.isEmpty_iff.mp hempty]
    simp [cursorAfterErase]
  next => exact ⟨rfl, rfl⟩

theorem InOrder.keepsOrder_erase {session : ServerSession} (h : session.InOrder)
    {id : SubscriptionId} (hheld : session.hasSubscription id = true) :
    KeepsOrder session (session.eraseSubscription id) := by
  obtain ⟨front, back, horder⟩ := List.append_of_mem ((h.held id).mpr hheld)
  have hnodup := h.nodup
  rw [horder] at hnodup
  have hfront : id ∉ front := fun hmem =>
    (List.nodup_append.mp hnodup).2.2 id hmem id List.mem_cons_self rfl
  have hback : id ∉ back :=
    (List.nodup_cons.mp (List.nodup_append.mp hnodup).2.1).1
  obtain ⟨hafter, hcursor⟩ := eraseSubscription_of_mem horder hfront
  have hqueue : (session.eraseSubscription id).publishQueue =
      session.publishQueue.erase id := by
    rw [publishQueue, publishQueue, hafter, hcursor, horder]
    refine visited_erase hnodup ?_
    have hlength := congrArg List.length horder
    simp only [List.length_append, List.length_cons] at hlength
    rcases h.cursor with hzero | hlt <;> omega
  refine ⟨⟨?_, fun other => ?_, ?_⟩, fun ids hsublist hstay => ?_⟩
  · rw [hafter]
    exact hnodup.sublist ((List.Sublist.refl front).append
      (List.sublist_cons_self id back))
  · rw [hafter, eraseSubscription_hasSubscription]
    have hmem := h.held other
    rw [horder] at hmem
    by_cases heq : other = id
    · subst heq
      simp [hfront, hback]
    · simpa [heq] using hmem
  · rw [hafter, hcursor]
    unfold cursorAfterErase
    generalize (if front.length < session.nextPublishIndex then
      session.nextPublishIndex - 1 else session.nextPublishIndex) = next
    simp only
    split
    · exact .inl rfl
    next hlt => exact .inr (not_le.mp hlt)
  · rw [hqueue]
    have hnotMem : id ∉ ids := by
      intro hmem
      have hgone := hstay id hmem
      rw [eraseSubscription_hasSubscription] at hgone
      simp at hgone
    rw [← List.erase_of_not_mem hnotMem]
    exact hsublist.erase id

/-! ## Loops of joining and leaving -/

theorem KeepsOrder.trans_of_leave {a b c : ServerSession}
    (hab : KeepsOrder a b) (hbc : KeepsOrder b c)
    (hleave : ∀ id, c.hasSubscription id = true → b.hasSubscription id = true) :
    KeepsOrder a c :=
  ⟨hbc.inOrder, fun ids hsublist hstay =>
    hbc.kept ids (hab.kept ids hsublist fun id hmem =>
      hleave id (hstay id hmem)) hstay⟩

theorem InOrder.keepsOrder_delete {session : ServerSession}
    (h : session.InOrder) (request : DeleteSubscriptionsRequest) :
    KeepsOrder session (session.deleteSubscriptions request).1 := by
  refine collectResults_invariant (P := KeepsOrder session)
    (fun current id hcurrent => ?_) (.refl h) request.subscriptionIds
  unfold deleteSubscription
  split
  next hheld =>
    refine hcurrent.trans_of_leave (hcurrent.inOrder.keepsOrder_erase hheld) ?_
    intro other hother
    rw [eraseSubscription_hasSubscription] at hother
    exact (Bool.and_eq_true_iff.mp hother).2
  next => exact hcurrent

theorem InOrder.keepsOrder_transferOut {session : ServerSession}
    (h : session.InOrder) (target : ServerSession) (ids : List SubscriptionId) :
    KeepsOrder session (target.transferSubscriptionsFrom session ids).1.2 := by
  have hstart : KeepsOrder session (target, session).2 := .refl h
  refine collectResults_invariant
    (P := fun sessions : ServerSession × ServerSession =>
      KeepsOrder session sessions.2)
    (fun sessions id hsessions => ?_) hstart ids
  unfold transferSubscription
  simp only
  split
  · exact hsessions
  · split
    · exact hsessions
    next s hlookup =>
      have hheld : sessions.2.hasSubscription id = true := by
        simp [hasSubscription, hlookup]
      refine hsessions.trans_of_leave
        (hsessions.inOrder.keepsOrder_erase hheld) ?_
      intro other hother
      rw [eraseSubscription_hasSubscription] at hother
      exact (Bool.and_eq_true_iff.mp hother).2

theorem transferSubscription_join {sessions : ServerSession × ServerSession}
    (h : sessions.1.InOrder) (id : SubscriptionId) :
    (transferSubscription sessions id).1.1.InOrder ∧
      sessions.1.publishQueue.Sublist
        (transferSubscription sessions id).1.1.publishQueue := by
  unfold transferSubscription
  simp only
  split
  · exact ⟨h, List.Sublist.refl _⟩
  next hnew =>
    split
    · exact ⟨h, List.Sublist.refl _⟩
    next s hlookup =>
      refine h.join (by simpa using hnew) rfl rfl fun other => ?_
      simp only [hasSubscription, KeyedMap.lookup_insert_eq]
      split
      next heq => simp [heq]
      next hne => simp [hne]

theorem InOrder.keepsOrder_transferIn {session : ServerSession}
    (h : session.InOrder) (source : ServerSession) (ids : List SubscriptionId) :
    KeepsOrder session (session.transferSubscriptionsFrom source ids).1.1 := by
  have hstart : (session, source).1.InOrder ∧
      session.publishQueue.Sublist (session, source).1.publishQueue :=
    ⟨h, List.Sublist.refl _⟩
  have hround : ∀ (sessions : ServerSession × ServerSession)
      (id : SubscriptionId),
      sessions.1.InOrder ∧
          session.publishQueue.Sublist sessions.1.publishQueue →
        (transferSubscription sessions id).1.1.InOrder ∧
          session.publishQueue.Sublist
            (transferSubscription sessions id).1.1.publishQueue := by
    intro sessions id hsessions
    have hjoin := transferSubscription_join hsessions.1 id
    exact ⟨hjoin.1, hsessions.2.trans hjoin.2⟩
  have hloop := collectResults_invariant hround hstart ids
  refine ⟨⟨hloop.1.nodup, hloop.1.held, hloop.1.cursor⟩, ?_⟩
  intro kept hsublist _
  exact hsublist.trans hloop.2

/-! ## One event -/

/-- New subscriptions get ids which no subscription of the session has. -/
def CreatesFresh (session : ServerSession) : SessionEvent → Prop
  | .create id _ _ _ => session.hasSubscription id = false
  | _ => True

instance (session : ServerSession) :
    (event : SessionEvent) → Decidable (session.CreatesFresh event)
  | .create id _ _ _ =>
      inferInstanceAs (Decidable (session.hasSubscription id = false))
  | .poll _ | .delete _ | .transferIn _ _ | .transferOut _ _ | .acknowledge _
  | .serve _ _ | .storeBrowse _ _ | .backing _ _ | .resume _ =>
      inferInstanceAs (Decidable True)

/-- A poll publishes for the first subscription in the queue which passes the
test, and moves it to the end. -/
theorem InOrder.poll {session : ServerSession} (h : session.InOrder)
    {now : DateTime} {waiting : SubscriptionId}
    (hwaiting : session.eligible now true waiting = true) :
    ∃ id front back, session.polledSubscription now = some id ∧
      session.publishQueue = front ++ id :: back ∧ waiting ∉ front ∧
      (session.pollPublish now).1.InOrder ∧
      (session.pollPublish now).1.publishQueue = back ++ front ++ [id] := by
  have hmem : waiting ∈ session.publishOrder := by
    obtain ⟨s, hlookup, _⟩ := eligible_ready hwaiting
    exact (h.held waiting).mpr (by simp [hasSubscription, hlookup])
  cases hfind : session.findNextReadySubscription now true with
  | none =>
      rw [findNextReadySubscription_eq] at hfind
      rw [cyclicFind_eq_none hfind waiting hmem] at hwaiting
      exact absurd hwaiting Bool.false_ne_true
  | some index =>
      have hfound : (session.findNextReadySubscription now true).or
          (session.findNextReadySubscription now false) = some index := by
        rw [hfind]
        rfl
      rw [findNextReadySubscription_eq] at hfind
      obtain ⟨front, id, back, hindex, heligible, hqueue, hskipped, hnext⟩ :=
        cyclicFind_eq_some hfind
      obtain ⟨s, response, hlookup, _, _, hpoll⟩ :=
        pollPublish_of_found hfound hindex heligible
      have hplace : InPlace session
          (session.writeSubscription id (s.tryPublish now).1) :=
        writeSubscription_inPlaceBy hlookup (.publishes now)
      have hwritten := (h.keepsOrder_of_inPlace hplace).inOrder
      have hlt : index < session.publishOrder.length :=
        (List.getElem?_eq_some_iff.mp hindex).1
      have hadvance : (session.pollPublish now).1 =
          { session.writeSubscription id (s.tryPublish now).1 with
            nextPublishIndex := (index + 1) % session.publishOrder.length } := by
        rw [hpoll]
        simp only [advancePublishCursorAfter]
        rw [if_neg]
        · rfl
        · intro hempty
          have hnil : session.publishOrder = [] := List.isEmpty_iff.mp hempty
          simp [hnil] at hlt
      refine ⟨id, front, back, ?_, hqueue, ?_, ?_, ?_⟩
      · simp [polledSubscription, hfound, hindex]
      · intro hfront
        rw [hskipped waiting hfront] at hwaiting
        exact absurd hwaiting Bool.false_ne_true
      · rw [hadvance]
        exact ⟨hwritten.nodup, hwritten.held, .inr (Nat.mod_lt _ (by omega))⟩
      · rw [hadvance]
        exact hnext

theorem InOrder.poll_inOrder {session : ServerSession} (h : session.InOrder)
    (now : DateTime) : (session.pollPublish now).1.InOrder := by
  unfold pollPublish
  split
  · exact (h.keepsOrder_of_inPlace ((session.pollWait_quiet now).inPlace)).inOrder
  next index _ =>
    obtain ⟨served, hserved, heq | heq⟩ := session.pollReady_inPlace index now
    · rw [heq]
      exact (h.keepsOrder_of_inPlace hserved).inOrder
    · have hinOrder := (h.keepsOrder_of_inPlace hserved).inOrder
      rw [heq]
      unfold advancePublishCursorAfter
      split
      · exact ⟨hinOrder.nodup, hinOrder.held, .inl rfl⟩
      next hne =>
        refine ⟨hinOrder.nodup, hinOrder.held, .inr (Nat.mod_lt _ ?_)⟩
        exact List.length_pos_iff.mpr fun hnil => hne (by simp [hnil])

/-- Every event but a poll keeps the order of the queue. -/
theorem InOrder.apply_keepsOrder {session : ServerSession} (h : session.InOrder)
    {event : SessionEvent} (hfresh : session.CreatesFresh event)
    (hpoll : ∀ now, event ≠ .poll now) :
    KeepsOrder session (session.apply event) := by
  cases event with
  | poll now => exact absurd rfl (hpoll now)
  | create id request traceParent now =>
      have hjoin : (session.createSubscriptionWithId id request traceParent
            now).1.InOrder ∧
          session.publishQueue.Sublist (session.createSubscriptionWithId id
            request traceParent now).1.publishQueue :=
        h.join hfresh rfl rfl
          (session.createSubscriptionWithId_hasSubscription id request
            traceParent now)
      exact ⟨hjoin.1, fun ids hids _ => hids.trans hjoin.2⟩
  | delete request => exact h.keepsOrder_delete request
  | transferIn source ids => exact h.keepsOrder_transferIn source ids
  | transferOut target ids => exact h.keepsOrder_transferOut target ids
  | acknowledge request =>
      exact h.keepsOrder_of_inPlace
        (session.acknowledgePublishRequest_inPlace request)
  | serve request envs =>
      exact h.keepsOrder_of_inPlace ((session.serve_quiet request envs).inPlace)
  | storeBrowse response requestedMax =>
      exact h.keepsOrder_of_inPlace
        ((session.storeBrowseResults_quiet response requestedMax).inPlace)
  | backing id event =>
      exact h.keepsOrder_of_inPlace ((session.onBackingEvent_quiet id event).inPlace)
  | resume serviceContext =>
      exact ⟨⟨h.nodup, h.held, h.cursor⟩, fun _ hsublist _ => hsublist⟩

theorem InOrder.apply {session : ServerSession} (h : session.InOrder)
    {event : SessionEvent} (hfresh : session.CreatesFresh event) :
    (session.apply event).InOrder := by
  cases event with
  | poll now => exact h.poll_inOrder now
  | _ => exact (h.apply_keepsOrder hfresh (by simp)).inOrder

/-! ## Runs -/

/-- A poll finds the subscription with pending notifications and ready. -/
def FoundByPoll (id : SubscriptionId) (session : ServerSession) :
    SessionEvent → Prop
  | .poll now => session.eligible now true id = true
  | _ => True

instance (id : SubscriptionId) (session : ServerSession) :
    (event : SessionEvent) → Decidable (FoundByPoll id session event)
  | .poll now => inferInstanceAs (Decidable (session.eligible now true id = true))
  | .create _ _ _ _ | .delete _ | .transferIn _ _ | .transferOut _ _
  | .acknowledge _ | .serve _ _ | .storeBrowse _ _ | .backing _ _ | .resume _ =>
      inferInstanceAs (Decidable True)

/-- The subscription is in the session, and every poll finds it. -/
def StaysReady (id : SubscriptionId) (session : ServerSession)
    (event : SessionEvent) : Prop :=
  session.hasSubscription id = true ∧ FoundByPoll id session event

instance (id : SubscriptionId) (session : ServerSession)
    (event : SessionEvent) : Decidable (StaysReady id session event) :=
  inferInstanceAs (Decidable (_ ∧ _))

theorem serves_before_second {waiting other : SubscriptionId}
    (middle : List SessionEvent) {session : ServerSession} {second : DateTime}
    (h : session.InOrder) (hbehind : [waiting, other].Sublist session.publishQueue)
    (hmeets : AllMeet apply (fun session event =>
        session.CreatesFresh event ∧ StaysReady waiting session event ∧
          session.hasSubscription other = true)
      session (middle ++ [.poll second]))
    (hsecond : (runFrom apply session middle).polledSubscription second =
      some other) :
    ∃ before now after, middle = before ++ .poll now :: after ∧
      (runFrom apply session before).polledSubscription now =
        some waiting := by
  induction middle generalizing session with
  | nil =>
      -- the other subscription would be served with the waiting one before it
      obtain ⟨⟨_, ⟨_, hready⟩, _⟩, _⟩ := hmeets
      obtain ⟨id, front, back, hpolled, hqueue, hwaiting, _⟩ := h.poll hready
      rw [runFrom_nil, hpolled, Option.some.injEq] at hsecond
      subst hsecond
      rw [hqueue] at hbehind
      have hnodup : (front ++ id :: back).Nodup := by
        rw [← hqueue]
        exact nodup_visited.mpr h.nodup
      have hback := pair_sublist_of_notMem hbehind hwaiting
      have hagain : [id].Sublist back := by
        cases hback with
        | cons _ hrest => exact (List.sublist_cons_self _ _).trans hrest
        | cons_cons _ hrest => exact hrest
      have hmem : id ∈ back := hagain.subset List.mem_cons_self
      exact absurd hmem
        (List.nodup_cons.mp (List.nodup_append.mp hnodup).2.1).1
  | cons event rest ih =>
      obtain ⟨⟨hfresh, ⟨hheld, hready⟩, hother⟩, hrest⟩ := hmeets
      -- both are still there when the next event comes
      have hnext : (session.apply event).hasSubscription waiting = true ∧
          (session.apply event).hasSubscription other = true := by
        cases rest with
        | nil => exact ⟨hrest.1.2.1.1, hrest.1.2.2⟩
        | cons next later => exact ⟨hrest.1.2.1.1, hrest.1.2.2⟩
      have hkept : (∃ now, event = .poll now ∧
            session.polledSubscription now = some waiting) ∨
          [waiting, other].Sublist (session.apply event).publishQueue := by
        cases event with
        | poll now =>
            obtain ⟨id, front, back, hpolled, hqueue, hwaiting, _, hafter⟩ :=
              h.poll hready
            by_cases hid : id = waiting
            · exact .inl ⟨now, rfl, hid ▸ hpolled⟩
            · right
              rw [hqueue, List.append_cons] at hbehind
              have hback := pair_sublist_of_notMem hbehind (by
                simp [hwaiting, Ne.symm hid])
              change [waiting, other].Sublist
                (session.pollPublish now).1.publishQueue
              rw [hafter, List.append_assoc]
              exact hback.trans (List.sublist_append_left _ _)
        | _ =>
            right
            refine (h.apply_keepsOrder hfresh (by simp)).kept _ hbehind ?_
            simp only [List.mem_cons, List.not_mem_nil, or_false]
            rintro id (rfl | rfl)
            · exact hnext.1
            · exact hnext.2
      rcases hkept with ⟨now, rfl, hserved⟩ | hkept
      · exact ⟨[], now, rest, rfl, hserved⟩
      · obtain ⟨before, now, after, rfl, hserved⟩ :=
          ih (h.apply hfresh) hkept hrest hsecond
        exact ⟨event :: before, now, after, rfl, hserved⟩

theorem new_inOrder (address : ℕ) (sessionId : NodeId)
    (serviceContext : ServiceContext) (operationLimits : OperationLimits) :
    InOrder
      { address := address
        sessionId := sessionId
        serviceContext := serviceContext
        operationLimits := operationLimits } :=
  ⟨List.nodup_nil, fun id => by simp [hasSubscription], .inl rfl⟩

/-- Between two polls which serve one subscription, every other which has
notifications and is ready at every poll is served, if both stay in the
session. -/
theorem round_robin_fair (address : ℕ) (sessionId : NodeId)
    (serviceContext : ServiceContext) (operationLimits : OperationLimits)
    (earlier middle : List SessionEvent) (first second : DateTime)
    (waiting other : SubscriptionId) :
    let session : ServerSession :=
      { address := address
        sessionId := sessionId
        serviceContext := serviceContext
        operationLimits := operationLimits }
    AllMeet apply CreatesFresh session
        (earlier ++ .poll first :: (middle ++ [.poll second])) →
      AllMeet apply (StaysReady waiting) (runFrom apply session earlier)
        (.poll first :: (middle ++ [.poll second])) →
      AllMeet apply (fun session _ => session.hasSubscription other = true)
        (runFrom apply session earlier)
        (.poll first :: (middle ++ [.poll second])) →
      other ≠ waiting →
      (runFrom apply session earlier).polledSubscription first = some other →
      (runFrom apply session
          (earlier ++ .poll first :: middle)).polledSubscription second =
        some other →
        ∃ before now after, middle = before ++ .poll now :: after ∧
          (runFrom apply session
            (earlier ++ .poll first :: before)).polledSubscription now =
              some waiting := by
  intro session hfresh hready hstays hne hfirst hsecond
  have hinOrder : (runFrom apply session earlier).InOrder := by
    refine runFrom_invariant (P := InOrder)
      (fun state event hstate => hstate.apply)
      (new_inOrder address sessionId serviceContext operationLimits)
      (AllMeet.append_iff.mp hfresh).1
  have hmeets := (AllMeet.append_iff.mp hfresh).2.and (hready.and hstays)
  obtain ⟨id, front, back, hpolled, hqueue, _, hafterInOrder, hafter⟩ :=
    hinOrder.poll hready.1.2
  rw [hpolled, Option.some.injEq] at hfirst
  subst hfirst
  have hbehind : [waiting, id].Sublist
      ((runFrom apply session earlier).apply (.poll first)).publishQueue := by
    have hmem : waiting ∈ (runFrom apply session earlier).publishQueue :=
      mem_visited.mpr ((hinOrder.held waiting).mpr hready.1.1)
    rw [hqueue] at hmem
    have hrest : waiting ∈ back ++ front := by
      rcases List.mem_append.mp hmem with hfront | hback
      · exact List.mem_append_right _ hfront
      · rcases List.mem_cons.mp hback with heq | hback
        · exact absurd heq.symm hne
        · exact List.mem_append_left _ hback
    change [waiting, id].Sublist
      ((runFrom apply session earlier).pollPublish first).1.publishQueue
    rw [hafter]
    exact (List.singleton_sublist.mpr hrest).append (List.Sublist.refl [id])
  rw [runFrom_append, runFrom_cons] at hsecond
  obtain ⟨before, now, after, hmiddle, hserved⟩ :=
    serves_before_second middle hafterInOrder hbehind hmeets.2 hsecond
  refine ⟨before, now, after, hmiddle, ?_⟩
  rw [runFrom_append, runFrom_cons]
  exact hserved

def emptySession : ServerSession :=
  { address := 0, sessionId := {}, serviceContext := {}, operationLimits := {} }

/-- A subscription with one item, which publishes every 100 ms. -/
def subscribes (id : SubscriptionId) : List SessionEvent :=
  [.create id { parameters := { publishingIntervalMs := 100 } } [] {},
    .serve (.createMonitoredItems { subscriptionId := id, itemsToCreate := [{}] })
      fun _ => { immediateResults := some [{ monitoredItemId := 1 }] }]

/-- The item of a subscription changes. -/
def changes (id : SubscriptionId) : SessionEvent :=
  .backing id (.notifications [.dataChange ⟨1, .ofStatus .good {}⟩])

theorem second_served_in_turn :
    ∃ before now after,
      [changes 1, .poll ⟨1000000⟩, changes 2] =
          before ++ SessionEvent.poll now :: after ∧
        (runFrom apply emptySession
          ((subscribes 1 ++ subscribes 2 ++ [changes 1, changes 2]) ++
            .poll ⟨1000000⟩ :: before)).polledSubscription now = some 2 :=
  round_robin_fair 0 {} {} {}
    (subscribes 1 ++ subscribes 2 ++ [changes 1, changes 2])
    [changes 1, .poll ⟨1000000⟩, changes 2] ⟨1000000⟩ ⟨2000000⟩ 2 1
    (by decide +kernel) (by decide +kernel) (by decide +kernel)
    (by decide +kernel) (by decide +kernel) (by decide +kernel)

/-- Three subscriptions, of which the first has published once. -/
def turnOfSecond : List SessionEvent :=
  subscribes 1 ++ subscribes 2 ++ subscribes 3 ++
    [changes 1, .poll ⟨1000000⟩, changes 1, changes 2]

/-- The second subscription leaves for another session and comes back. -/
def leavesAndReturns : List SessionEvent :=
  let session := runFrom apply emptySession
    (turnOfSecond ++ [.poll ⟨2000000⟩, changes 2])
  [changes 2, .transferOut emptySession [2],
    .transferIn (emptySession.transferSubscriptionsFrom session [2]).1.1 [2]]

/-- A subscription which leaves the session and returns is served twice, while
another one with notifications waits. -/
theorem returning_subscription_served_twice :
    AllMeet apply CreatesFresh emptySession
        (turnOfSecond ++ .poll ⟨2000000⟩ ::
          (leavesAndReturns ++ [.poll ⟨3000000⟩])) ∧
      AllMeet apply (StaysReady 1) (runFrom apply emptySession turnOfSecond)
        (.poll ⟨2000000⟩ :: (leavesAndReturns ++ [.poll ⟨3000000⟩])) ∧
      (runFrom apply emptySession turnOfSecond).polledSubscription ⟨2000000⟩ =
        some 2 ∧
      (runFrom apply emptySession
          (turnOfSecond ++ .poll ⟨2000000⟩ ::
            leavesAndReturns)).polledSubscription ⟨3000000⟩ = some 2 ∧
      ∀ before now after,
        leavesAndReturns ≠ before ++ SessionEvent.poll now :: after := by
  refine ⟨by decide +kernel, by decide +kernel, by decide +kernel,
    by decide +kernel, ?_⟩
  intro before now after heq
  have hmem : SessionEvent.poll now ∈ leavesAndReturns := by
    rw [heq]
    simp
  simp [leavesAndReturns, changes] at hmem

end ServerSession

end OpcuaStack
