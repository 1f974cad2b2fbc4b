import OpcuaStack.NumberedLog
import OpcuaStack.PublishLink
import OpcuaStack.RetransmissionQueue

/-!
# What a session retains

The data messages of a session form one log, in which each subscription numbers
its own.  The queues hold messages of the log, and the counters follow its
lengths.
-/

namespace OpcuaStack

/-- What a subscription retains, and the number of its next message. -/
structure Retention where
  subscriptionId : SubscriptionId
  nextSequenceNumber : UInt32
  retransmitQueue : List NotificationMessage

namespace ServerSubscription

def retention (s : ServerSubscription) : Retention where
  subscriptionId := s.subscriptionId
  nextSequenceNumber := s.nextSequenceNumber
  retransmitQueue := s.retransmitQueue

theorem retention_edits {s t : ServerSubscription} (h : Edits s t) :
    t.retention = s.retention := by
  unfold retention
  rw [h.subscriptionId, h.nextSequenceNumber, h.retransmitQueue]

theorem retention_primePublishCycle (s : ServerSubscription) (now : DateTime) :
    (s.primePublishCycle now).retention = s.retention := by
  rw [primePublishCycle_eq]
  rfl

theorem retention_quiet {s t : ServerSubscription} (h : QuietChange s t) :
    t.retention = s.retention := by
  cases h with
  | edits hedits => exact retention_edits hedits
  | deletes request =>
      rcases s.deleteMonitoredItems_cases request with
        heq | ⟨_, edited, hedits, heq⟩
      · rw [heq]
      · rw [heq]
        change edited.retention = s.retention
        exact retention_edits hedits.edits
  | primes now => exact s.retention_primePublishCycle now

end ServerSubscription

/-- The subscription's counter and queue agree with the log. -/
structure Retention.Follows (r : Retention) (id : SubscriptionId)
    (log : List (SubscriptionId × NotificationMessage)) : Prop where
  subscriptionId : r.subscriptionId = id
  next : r.nextSequenceNumber = UInt32.ofNat (countOf id log + 1)
  queue : ∀ message ∈ r.retransmitQueue, (id, message) ∈ log

namespace ServerSession

/-- Every subscription of the session agrees with the log. -/
def Follows (session : ServerSession)
    (log : List (SubscriptionId × NotificationMessage)) : Prop :=
  ∀ id s, session.subscriptions.lookup id = some s → s.retention.Follows id log

variable {session : ServerSession}
  {log : List (SubscriptionId × NotificationMessage)}

theorem Follows.of_quiet (h : session.Follows log) {after : ServerSession}
    (hquiet : QuietInPlace session after) : after.Follows log := by
  intro id t hlookup
  obtain ⟨s, hbefore, hchanges⟩ := hquiet.exists_before hlookup
  have hretention : t.retention = s.retention :=
    reflTransGen_preserves (P := fun later => later.retention = s.retention)
      (fun _ _ hlast hearlier =>
        (ServerSubscription.retention_quiet hlast).trans hearlier)
      hchanges rfl
  rw [hretention]
  exact h id s hbefore

theorem Follows.of_subscriptions_eq (h : session.Follows log)
    {after : ServerSession}
    (hsubscriptions : after.subscriptions = session.subscriptions) :
    after.Follows log := by
  intro id s hlookup
  rw [hsubscriptions] at hlookup
  exact h id s hlookup

/-- One subscription is written back, and the others see the log grow without
entries of their own. -/
theorem Follows.write (h : session.Follows log) {id : SubscriptionId}
    {t : ServerSubscription}
    {more : List (SubscriptionId × NotificationMessage)}
    (hfollows : t.retention.Follows id (log ++ more))
    (hmore : ∀ entry ∈ more, entry.1 = id) :
    (session.writeSubscription id t).Follows (log ++ more) := by
  intro other s hlookup
  simp only [writeSubscription, KeyedMap.lookup_insert_eq] at hlookup
  split at hlookup
  next heq =>
    cases hlookup
    rw [heq]
    exact hfollows
  next hne =>
    have hold := h other s hlookup
    have hnone : countOf other more = 0 := by
      apply List.countP_eq_zero.mpr
      intro entry hentry
      simpa [hmore entry hentry] using Ne.symm hne
    refine ⟨hold.subscriptionId, ?_, fun message hmessage => ?_⟩
    · rw [countOf_append, hnone]
      exact hold.next
    · exact List.mem_append_left _ (hold.queue message hmessage)

theorem Follows.writeSame (h : session.Follows log) {id : SubscriptionId}
    {t : ServerSubscription} (hfollows : t.retention.Follows id log) :
    (session.writeSubscription id t).Follows log := by
  rw [← List.append_nil log] at hfollows ⊢
  exact h.write hfollows (by simp)

/-! ## Acknowledging -/

theorem acknowledgeOne_follows {s : ServerSubscription} {id : SubscriptionId}
    (h : s.retention.Follows id log) (sequenceNumber : UInt32) :
    (s.acknowledgeOne sequenceNumber).1.retention.Follows id log := by
  unfold ServerSubscription.acknowledgeOne
  split
  · exact h
  · refine ⟨h.subscriptionId, h.next, fun message hmessage => ?_⟩
    exact h.queue message (List.mem_of_mem_eraseP hmessage)

theorem Follows.acknowledgeFor (h : session.Follows log)
    (acknowledgement : SubscriptionAcknowledgement) :
    (session.acknowledgeFor acknowledgement).1.Follows log := by
  unfold ServerSession.acknowledgeFor onSubscription
  split
  · exact h
  next s hlookup =>
    exact h.writeSame (acknowledgeOne_follows (h _ s hlookup)
      acknowledgement.sequenceNumber)

theorem Follows.acknowledgePublishRequest (h : session.Follows log)
    (request : PublishRequest) :
    (session.acknowledgePublishRequest request).1.Follows log :=
  collectResults_invariant (P := fun session : ServerSession => session.Follows log)
    (fun _ acknowledgement hcurrent => hcurrent.acknowledgeFor acknowledgement) h
    request.subscriptionAcknowledgements

theorem acknowledgedMessage_spec (h : session.Follows log)
    {acknowledgement : SubscriptionAcknowledgement}
    {entry : SubscriptionId × NotificationMessage}
    (hentry : session.acknowledgedMessage acknowledgement = some entry) :
    entry ∈ log ∧ entry.1 = acknowledgement.subscriptionId ∧
      entry.2.sequenceNumber = acknowledgement.sequenceNumber := by
  unfold acknowledgedMessage at hentry
  rw [Option.bind_eq_some_iff] at hentry
  obtain ⟨s, hlookup, hfound⟩ := hentry
  rw [Option.map_eq_some_iff] at hfound
  obtain ⟨message, hmessage, rfl⟩ := hfound
  refine ⟨?_, rfl, ?_⟩
  · exact (h _ s hlookup).queue message (List.mem_of_find?_eq_some hmessage)
  · have hnumber := List.find?_some hmessage
    exact beq_iff_eq.mp hnumber

/-- A message taken out on acknowledgement is in the log, under the number that
one of the acknowledgements names. -/
theorem acknowledgedMessages_spec (h : session.Follows log)
    {acknowledgements : List SubscriptionAcknowledgement}
    {entry : SubscriptionId × NotificationMessage}
    (hentry : entry ∈ session.acknowledgedMessages acknowledgements) :
    entry ∈ log ∧ ∃ acknowledgement ∈ acknowledgements,
      entry.1 = acknowledgement.subscriptionId ∧
        entry.2.sequenceNumber = acknowledgement.sequenceNumber := by
  induction acknowledgements generalizing session with
  | nil => cases hentry
  | cons acknowledgement rest ih =>
      rcases List.mem_append.mp hentry with hfirst | hrest
      · rw [Option.mem_toList] at hfirst
        obtain ⟨hlog, hnames⟩ := acknowledgedMessage_spec h hfirst
        exact ⟨hlog, acknowledgement, List.mem_cons_self, hnames⟩
      · obtain ⟨hlog, other, hother, hnames⟩ :=
          ih (h.acknowledgeFor acknowledgement) hrest
        exact ⟨hlog, other, List.mem_cons_of_mem _ hother, hnames⟩

/-! ## Publishing -/

/-- A poll answers without data, or publishes the next message of one
subscription. -/
inductive Polls (log : List (SubscriptionId × NotificationMessage)) :
    ServerSession × PublishPollResult → Prop where
  | waits {after : ServerSession} {duration : Duration}
      (hfollows : after.Follows log) : Polls log (after, .waitFor duration)
  | empty {after : ServerSession} {response : PublishResponse}
      (hfollows : after.Follows log)
      (hdata : response.notificationMessage.notificationData = []) :
      Polls log (after, .response response)
  | data {after : ServerSession} {response : PublishResponse}
      (hfollows : after.Follows
        (log ++ [(response.subscriptionId, response.notificationMessage)]))
      (hdata : response.notificationMessage.notificationData ≠ [])
      (hgood : response.status.isBad = false)
      (hnumber : response.notificationMessage.sequenceNumber =
        UInt32.ofNat (countOf response.subscriptionId log + 1)) :
      Polls log (after, .response response)

open ServerSubscription

theorem evictRetained_suffix (queue : List NotificationMessage)
    (retained : ℕ) : (evictRetained queue retained).1 <:+ queue := by
  fun_induction evictRetained queue retained with
  | case1 oldest next rest retained hover ih =>
      exact ih.trans (List.suffix_cons oldest (next :: rest))
  | case2 oldest next rest retained hwithin => exact List.suffix_rfl
  | case3 queue retained hshort => exact List.suffix_rfl

theorem publishPending_follows {s : ServerSubscription} {id : SubscriptionId}
    (h : s.retention.Follows id log) (now : DateTime) :
    (s.publishPending now).1.retention.Follows id
      (log ++ [(id, s.pendingMessage now)]) := by
  have hcount : countOf id (log ++ [(id, s.pendingMessage now)]) =
      countOf id log + 1 := by
    rw [countOf_append, countOf_singleton, if_pos rfl]
  refine ⟨h.subscriptionId, ?_, fun message hmessage => ?_⟩
  · have hnext : s.nextSequenceNumber = UInt32.ofNat (countOf id log + 1) :=
      h.next
    change s.nextSequenceNumber + 1 = _
    rw [hnext, hcount, UInt32.ofNat_add (countOf id log + 1) 1]
    rfl
  · have hmem : message ∈ s.retransmitQueue ++ [s.pendingMessage now] :=
      (evictRetained_suffix _ _).subset hmessage
    rcases List.mem_append.mp hmem with hold | hnew
    · exact List.mem_append_left _ (h.queue message hold)
    · rw [List.mem_singleton.mp hnew]
      exact List.mem_append_right _ List.mem_cons_self

theorem advancePublishCursorAfter_subscriptions (session : ServerSession)
    (index : ℕ) :
    (session.advancePublishCursorAfter index).subscriptions =
      session.subscriptions := by
  unfold advancePublishCursorAfter
  split <;> rfl

theorem Follows.advance (h : session.Follows log) (index : ℕ) :
    (session.advancePublishCursorAfter index).Follows log :=
  h.of_subscriptions_eq (session.advancePublishCursorAfter_subscriptions index)

theorem pollReady_polls (h : session.Follows log) (index : ℕ)
    (now : DateTime) : Polls log (session.pollReady index now) := by
  unfold pollReady
  split
  · exact .empty h rfl
  next id _ =>
    cases hlookup : session.subscriptions.lookup id with
    | none => exact .empty h rfl
    | some s =>
        have hs : (s.primePublishCycle now).retention.Follows id log := by
          rw [s.retention_primePublishCycle]
          exact h id s hlookup
        have hid : (s.primePublishCycle now).subscriptionId = id :=
          hs.subscriptionId
        have hcases := s.tryPublish_publishes now
        simp only
        generalize s.tryPublish now = result at hcases ⊢
        cases hcases with
        | waits hready =>
            exact .empty (h.writeSame hs) rfl
        | keepAlive hready hnothing =>
            have hkept : ((s.primePublishCycle now).publishKeepAlive
                now).1.retention.Follows id log := hs
            exact .empty ((h.writeSame hkept).advance index) rfl
        | data hready hpublishable =>
            have hpos : 1 ≤ ((s.primePublishCycle now).pendingMessage
                now).notificationData.length := by
              rw [pendingMessage_length]
              exact maxEntries_pos hpublishable
            have hgood : Status.good.isBad = false := by decide
            refine .data ?_ (List.ne_nil_of_length_pos hpos) hgood ?_
            · change Follows _ (log ++
                [((s.primePublishCycle now).subscriptionId,
                  (s.primePublishCycle now).pendingMessage now)])
              rw [hid]
              exact (h.write (publishPending_follows hs now)
                (by simp)).advance index
            · change (s.primePublishCycle now).nextSequenceNumber =
                UInt32.ofNat
                  (countOf (s.primePublishCycle now).subscriptionId log + 1)
              rw [hid]
              exact hs.next

theorem pollWait_polls (h : session.Follows log) (now : DateTime) :
    Polls log (session.pollWait now) := by
  have hfollows := h.of_quiet (session.pollWait_quiet now)
  unfold pollWait at hfollows ⊢
  split
  next hempty =>
    rw [if_pos hempty] at hfollows
    exact .empty hfollows rfl
  next hsome =>
    rw [if_neg hsome] at hfollows
    simp only at hfollows ⊢
    split
    next hnone =>
      simp only [hnone] at hfollows
      exact .empty hfollows rfl
    next deadline hdeadline =>
      simp only [hdeadline] at hfollows
      exact .waits hfollows

theorem pollPublish_polls (h : session.Follows log) (now : DateTime) :
    Polls log (session.pollPublish now) := by
  unfold pollPublish
  split
  · exact pollWait_polls h now
  · exact pollReady_polls h _ now

/-! ## Events of the session -/

/-- The events of a session which keeps its subscriptions to itself: a new
subscription gets an id under which nothing was published, and polls and
acknowledgements come with the publish requests. -/
def KeepsToItself (session : ServerSession)
    (log : List (SubscriptionId × NotificationMessage)) : SessionEvent → Prop
  | .create id _ _ _ =>
      session.hasSubscription id = false ∧ countOf id log = 0
  | .poll _ | .acknowledge _ | .transferIn _ _ | .transferOut _ _ => False
  | _ => True

instance (session : ServerSession)
    (log : List (SubscriptionId × NotificationMessage)) :
    (event : SessionEvent) → Decidable (session.KeepsToItself log event)
  | .create id _ _ _ =>
      inferInstanceAs (Decidable
        (session.hasSubscription id = false ∧ countOf id log = 0))
  | .poll _ | .acknowledge _ | .transferIn _ _ | .transferOut _ _ =>
      inferInstanceAs (Decidable False)
  | .delete _ | .serve _ _ | .storeBrowse _ _ | .backing _ _ | .resume _ =>
      inferInstanceAs (Decidable True)

theorem Follows.create (h : session.Follows log) {id : SubscriptionId}
    (hnew : session.hasSubscription id = false) (hcount : countOf id log = 0)
    (request : CreateSubscriptionRequest) (traceParent : ByteText)
    (now : DateTime) :
    (session.createSubscriptionWithId id request traceParent
      now).1.Follows log := by
  have hcreated : (ServerSubscription.create id request.parameters now
      traceParent).retention.Follows id log :=
    ⟨rfl, by rw [hcount]; rfl, fun _ hmessage => absurd hmessage
      List.not_mem_nil⟩
  intro other s hlookup
  simp only [createSubscriptionWithId, hnew, Bool.false_eq_true, if_false,
    KeyedMap.lookup_insert_eq] at hlookup
  split at hlookup
  next heq =>
    cases hlookup
    rw [heq]
    exact hcreated
  next => exact h other s hlookup

theorem Follows.delete (h : session.Follows log)
    (request : DeleteSubscriptionsRequest) :
    (session.deleteSubscriptions request).1.Follows log := by
  refine collectResults_invariant (P := fun session : ServerSession => session.Follows log)
    (fun current id hcurrent => ?_) h request.subscriptionIds
  unfold deleteSubscription
  split
  · intro other s hlookup
    rw [eraseSubscription_subscriptions, KeyedMap.lookup_erase_eq] at hlookup
    split at hlookup
    · cases hlookup
    · exact hcurrent other s hlookup
  · exact hcurrent

theorem Follows.apply (h : session.Follows log) {event : SessionEvent}
    (hkeeps : session.KeepsToItself log event) :
    (session.apply event).Follows log := by
  cases event with
  | poll now => exact hkeeps.elim
  | create id request traceParent now =>
      exact h.create hkeeps.1 hkeeps.2 request traceParent now
  | delete request => exact h.delete request
  | transferIn source ids => exact hkeeps.elim
  | transferOut target ids => exact hkeeps.elim
  | acknowledge request => exact hkeeps.elim
  | serve request envs => exact h.of_quiet (session.serve_quiet request envs)
  | storeBrowse response requestedMax =>
      exact h.of_quiet (session.storeBrowseResults_quiet response requestedMax)
  | backing id event => exact h.of_quiet (session.onBackingEvent_quiet id event)
  | resume serviceContext => exact h.of_subscriptions_eq rfl

end ServerSession
end OpcuaStack
