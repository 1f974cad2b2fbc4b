import OpcuaStack.RetransmissionQueue

/-!
# The wrap-around of sequence numbers

The counter of data messages has 32 bits and starts at one, so its first wrap
gives a message the number zero, which a client reads as a keep-alive.  A run
meets no such message, and never retains two messages under one number, exactly
if no data message is published while the counter is at zero.
-/

namespace OpcuaStack

/-- `TryPublish` is due and has data to publish. -/
def ServerSubscription.PublishesData (s : ServerSubscription) (now : DateTime) :
    Prop :=
  (s.primePublishCycle now).isPublishReady now = true ∧
    (s.primePublishCycle now).hasPublishableNotifications = true

theorem ServerSubscription.tryPublish_of_publishesData {s : ServerSubscription}
    {now : DateTime} (h : s.PublishesData now) :
    s.tryPublish now =
      (((s.primePublishCycle now).publishPending now).1,
        some ((s.primePublishCycle now).publishPending now).2) := by
  have hcases := s.tryPublish_publishes now
  generalize s.tryPublish now = result at hcases ⊢
  cases hcases with
  | waits hready => exact absurd h.1 (by simp [hready])
  | keepAlive hready hnothing => exact absurd h.2 (by simp [hnothing])
  | data hready hpublishable => rfl

theorem ServerSubscription.dataMessage_tryPublish (s : ServerSubscription)
    (now : DateTime) :
    s.PublishesData now ∧
        dataMessage (s.tryPublish now).2 =
          [(s.primePublishCycle now).pendingMessage now] ∨
      ¬s.PublishesData now ∧ dataMessage (s.tryPublish now).2 = [] := by
  have hcases := s.tryPublish_publishes now
  generalize s.tryPublish now = result at hcases ⊢
  cases hcases with
  | waits hready => exact .inr ⟨fun h => by simp [h.1] at hready, rfl⟩
  | keepAlive hready hnothing =>
      exact .inr ⟨fun h => by simp [h.2] at hnothing, rfl⟩
  | data hready hpublishable =>
      refine .inl ⟨⟨hready, hpublishable⟩, dataMessage_publishPending hpublishable now⟩

theorem ServerSubscription.pendingMessage_primed_number (s : ServerSubscription)
    (now : DateTime) :
    ((s.primePublishCycle now).pendingMessage now).sequenceNumber =
      s.nextSequenceNumber := by
  change (s.primePublishCycle now).nextSequenceNumber = s.nextSequenceNumber
  rw [primePublishCycle_eq]

namespace RetransmissionRun

/-- No data message is published while the counter is at zero. -/
def NumbersNonzero (r : RetransmissionRun) : SubscriptionEvent → Prop
  | .tryPublish now =>
      r.run.subscription.PublishesData now →
        r.run.subscription.nextSequenceNumber ≠ 0
  | _ => True

theorem published_step_length {r : RetransmissionRun} (h : r.Retains)
    (hlength : r.published.length < 2 ^ 32) {event : SubscriptionEvent}
    (hnonzero : r.NumbersNonzero event) :
    (r.step event).published.length < 2 ^ 32 := by
  rw [published_step]
  cases event with
  | tryPublish now =>
      rcases r.run.subscription.dataMessage_tryPublish now with
        ⟨hdata, hmessage⟩ | ⟨_, hmessage⟩
      · have hcounter := hnonzero hdata
        rw [ServerSubscription.Retains.next h] at hcounter
        simp only [hmessage, List.length_append, List.length_singleton]
        by_contra hover
        apply hcounter
        apply UInt32.toNat_inj.mp
        rw [UInt32.toNat_ofNat', UInt32.toNat_zero]
        omega
      · simpa [hmessage] using hlength
  | _ => simpa using hlength

/-- In a run in which no data message is published at zero, the counter has not
gone round. -/
theorem retains_of_numbersNonzero {r : RetransmissionRun}
    {events : List SubscriptionEvent} (hstart : r.Retains)
    (hlength : r.published.length < 2 ^ 32)
    (hnonzero : AllMeet step NumbersNonzero r events) :
    (runFrom step r events).Retains ∧
      (runFrom step r events).published.length < 2 ^ 32 :=
  runFrom_invariant
    (P := fun r : RetransmissionRun =>
      r.Retains ∧ r.published.length < 2 ^ 32)
    (fun _ event h hevent => ⟨h.1.step h.2 event,
      published_step_length h.1 h.2 hevent⟩)
    ⟨hstart, hlength⟩ hnonzero

theorem Retains.number_ne_zero {r : RetransmissionRun} (h : r.Retains)
    (hlength : r.published.length < 2 ^ 32) {message : NotificationMessage}
    (hmessage : message ∈ r.published) : message.sequenceNumber ≠ 0 := by
  have hnumber : message.sequenceNumber ∈
      r.published.map NotificationMessage.sequenceNumber :=
    List.mem_map_of_mem hmessage
  rw [ServerSubscription.Retains.numbers h] at hnumber
  obtain ⟨index, hindex, heq⟩ := List.mem_map.mp hnumber
  have hindex' := List.mem_range.mp hindex
  intro hzero
  have htoNat := congrArg UInt32.toNat (heq.trans hzero)
  rw [UInt32.toNat_ofNat', UInt32.toNat_zero] at htoNat
  omega

theorem numbersNonzero_of_published {first : RetransmissionRun}
    {events : List SubscriptionEvent}
    (hnonzero : ∀ message ∈ (runFrom step first events).published,
      message.sequenceNumber ≠ 0) : AllMeet step NumbersNonzero first events := by
  induction events using List.reverseRecOn with
  | nil => trivial
  | append_singleton rest event ih =>
      rw [runFrom_append, runFrom_cons, runFrom_nil, published_step] at hnonzero
      refine AllMeet.append_iff.mpr ⟨ih fun message hmessage =>
        hnonzero message (List.mem_append_left _ hmessage), ?_, trivial⟩
      cases event with
      | tryPublish now =>
          intro hdata hzero
          rcases (runFrom step first
              rest).run.subscription.dataMessage_tryPublish now with
            ⟨_, hmessage⟩ | ⟨hnodata, _⟩
          · refine hnonzero _ (List.mem_append_right _ ?_)
              (((runFrom step first
                rest).run.subscription.pendingMessage_primed_number
                  now).trans hzero)
            simp [hmessage]
          · exact hnodata hdata
      | _ => trivial

/-- A run publishes no data message under zero and never retains two messages
under one number, if and only if it publishes no data message while the counter
is at zero, that is if it publishes fewer than 2^32 data messages. -/
theorem numbers_nonzero_and_distinct_iff (subscriptionId : SubscriptionId)
    (parameters : SubscriptionParameters) (publishCycleStartTime : DateTime)
    (traceParent : ByteText) (events : List SubscriptionEvent) :
    let first := start subscriptionId parameters publishCycleStartTime
      traceParent
    (((∀ message ∈ (runFrom step first events).published,
          message.sequenceNumber ≠ 0) ∧
        ∀ before, before <+: events →
          (runFrom step first
            before).run.subscription.availableSequenceNumbers.Nodup) ↔
      AllMeet step NumbersNonzero first events) ∧
      (AllMeet step NumbersNonzero first events ↔
        (runFrom step first events).published.length < 2 ^ 32) := by
  intro first
  have hretains : ∀ before, AllMeet step NumbersNonzero first before →
      (runFrom step first before).Retains ∧
        (runFrom step first before).published.length < 2 ^ 32 :=
    fun before hbefore => retains_of_numbersNonzero
      (start_retains subscriptionId parameters publishCycleStartTime
        traceParent) (by simp [first, start, published, SubscriptionRun.start])
      hbefore
  refine ⟨⟨fun hnumbers => numbersNonzero_of_published hnumbers.1, fun hguard => ?_⟩,
    fun hguard => (hretains events hguard).2, fun hlength => ?_⟩
  · constructor
    · intro message hmessage
      obtain ⟨h, hlength⟩ := hretains events hguard
      exact h.number_ne_zero hlength hmessage
    · rintro before ⟨later, rfl⟩
      obtain ⟨h, hlength⟩ := hretains before (AllMeet.append_iff.mp hguard).1
      exact ServerSubscription.Retains.queue_nodup h hlength
  · have h : (runFrom step first events).Retains :=
      retains_run subscriptionId parameters publishCycleStartTime traceParent events hlength
    exact numbersNonzero_of_published fun message hmessage =>
      h.number_ne_zero hlength hmessage

/-! ## A run which reaches zero -/

/-- An item with the default parameters, bound under the first handle. -/
structure IsFirstItem (item : Item) : Prop where
  monitoredItemId : item.monitoredItemId = 1
  backingClientHandle : item.backingClientHandle = 1
  monitoringMode : item.monitoringMode = .reporting
  parameters : item.parameters = {}

/-- After so many rounds of one change and one publish each. -/
structure Rolls (count : ℕ) (s : ServerSubscription) : Prop where
  item : ∃ item, s.items.entries = [⟨1, item⟩] ∧ IsFirstItem item
  parameters : s.parameters = reviseParameters {}
  pending : s.pendingNotifications = []
  lastPublishTime : s.lastPublishTime = some ⟨count * 10000⟩
  nextSequenceNumber : s.nextSequenceNumber = UInt32.ofNat (count + 1)

def round (count : ℕ) : List SubscriptionEvent :=
  [itemChanges, publishesAt (count + 1)]

def rounds (count : ℕ) : List SubscriptionEvent :=
  monitorsItem :: (List.range count).flatMap round

theorem rounds_succ (count : ℕ) :
    runFrom step (start 1 {} {} []) (rounds (count + 1)) =
      runFrom step (runFrom step (start 1 {} {} []) (rounds count))
        (round count) := by
  rw [← runFrom_append]
  simp [rounds, List.range_succ]

theorem queueNotification_of_pending_nil {s : ServerSubscription}
    (hpending : s.pendingNotifications = []) (item : Item)
    (notification : NotificationData) :
    s.queueNotification item notification =
      s.pushPending ⟨item.monitoredItemId, notification⟩ := by
  unfold ServerSubscription.queueNotification
    ServerSubscription.enforceQueueLimit
  simp [ServerSubscription.pushPending, hpending]

theorem Rolls.itemChanges {count : ℕ} {s : ServerSubscription}
    (h : Rolls count s) (value : DataValue) :
    ∃ item queued,
      s.onNotification (.dataChange ⟨1, value⟩) =
          { s with
            items := s.items.insert 1 item
            pendingNotifications := [queued]
            queueHistory := s.queueHistory ++
              [.push queued.sourceItemId queued.notification] } ∧
        (s.items.insert 1 item).entries = [⟨1, item⟩] ∧ IsFirstItem item := by
  obtain ⟨item, hentries, hitem⟩ := h.item
  have hlookup : s.items.lookup 1 = some item :=
    KeyedMap.mem_entries_iff.mp (by simp [hentries])
  let changed : Item := { item with lastReportedValue := some value }
  have hid : changed.monitoredItemId = 1 := hitem.monitoredItemId
  have hwrite : s.writeItem changed =
      { s with items := s.items.insert 1 changed } := by
    have hstored : s.items.lookup changed.monitoredItemId = some item := by
      rw [hid]
      exact hlookup
    rw [ServerSubscription.writeItem_of_lookup hstored rfl, hid]
  have hnotify : s.onNotification (.dataChange ⟨1, value⟩) =
      (s.writeItem changed).queueNotification changed
        (.dataChange [⟨0, value⟩]) := by
    simp [changed, ServerSubscription.onNotification, hentries,
      hitem.backingClientHandle, ItemNotification.clientHandle,
      ServerSubscription.queueDataChange, hitem.monitoringMode,
      ServerSubscription.passesDeadband, hitem.parameters]
  refine ⟨changed, ⟨1, .dataChange [⟨0, value⟩]⟩, ?_, ?_, ?_⟩
  · rw [hnotify, hwrite, queueNotification_of_pending_nil
      (s := { s with items := s.items.insert 1 changed }) h.pending]
    simp [ServerSubscription.pushPending, h.pending, hid]
  · simp [AList.insert, hentries]
  · exact ⟨hitem.monitoredItemId, hitem.backingClientHandle,
      hitem.monitoringMode, hitem.parameters⟩

theorem publishesData_of_pending {s : ServerSubscription} {count : ℕ}
    (hparameters : s.parameters = reviseParameters {})
    (hpending : s.pendingNotifications ≠ [])
    (hlast : s.lastPublishTime = some ⟨count * 10000⟩) :
    s.PublishesData ⟨(count + 1 : ℕ) * 10000⟩ := by
  have hprimed : s.primePublishCycle ⟨(count + 1 : ℕ) * 10000⟩ = s := by
    simp [ServerSubscription.primePublishCycle, hlast]
  have hinterval : s.publishingInterval = ⟨1⟩ := by
    simp [ServerSubscription.publishingInterval, Duration.fromMilliseconds,
      hparameters, reviseParameters, Double.truncate]
  have helapsed : (DateTime.sub ⟨(count + 1 : ℕ) * 10000⟩
      ⟨count * 10000⟩).milliseconds = 1 := by
    simp only [DateTime.sub]
    push_cast
    ring
  unfold ServerSubscription.PublishesData
  rw [hprimed]
  constructor
  · simp only [ServerSubscription.isPublishReady, hlast, hinterval, helapsed,
      hparameters, reviseParameters]
    cases s.initialMessageSent <;> simp [hpending]
  · simp [ServerSubscription.hasPublishableNotifications, hparameters,
      reviseParameters, hpending]

theorem Rolls.step {count : ℕ} {r : RetransmissionRun}
    (h : Rolls count r.run.subscription) :
    Rolls (count + 1) (runFrom step r (round count)).run.subscription ∧
      ∃ message ∈ (runFrom step r (round count)).published,
        message.sequenceNumber = UInt32.ofNat (count + 1) := by
  obtain ⟨item, queued, hnotify, hentries, hitem⟩ :=
    h.itemChanges (.ofStatus .good {})
  have hchanged : (r.step RetransmissionRun.itemChanges).run.subscription =
      r.run.subscription.onNotification
        (.dataChange ⟨1, .ofStatus .good {}⟩) := rfl
  rw [hnotify] at hchanged
  rw [round, runFrom_cons, runFrom_cons, runFrom_nil]
  generalize r.step RetransmissionRun.itemChanges = changed at hchanged ⊢
  have hdue : changed.run.subscription.PublishesData
      ⟨(count + 1 : ℕ) * 10000⟩ := by
    apply publishesData_of_pending
    · rw [hchanged]
      exact h.parameters
    · rw [hchanged]
      simp
    · rw [hchanged]
      exact h.lastPublishTime
  have hprimed : changed.run.subscription.primePublishCycle
      ⟨(count + 1 : ℕ) * 10000⟩ = changed.run.subscription := by
    rw [hchanged]
    simp [ServerSubscription.primePublishCycle, h.lastPublishTime]
  have hpublish := ServerSubscription.tryPublish_of_publishesData hdue
  rw [hprimed] at hpublish
  have hafter : (changed.step (publishesAt (count + 1))).run.subscription =
      (changed.run.subscription.publishPending
        ⟨(count + 1 : ℕ) * 10000⟩).1 :=
    congrArg Prod.fst hpublish
  have hentry : changed.run.subscription.maxEntries = 1 := by
    rw [hchanged]
    simp [ServerSubscription.maxEntries, h.parameters, reviseParameters,
      kMaxNotificationsPerPublishResponse]
  constructor
  · rw [hafter]
    constructor
    · refine ⟨item, ?_, hitem⟩
      simpa [ServerSubscription.publishPending, ServerSubscription.popPending,
        hchanged] using hentries
    · simpa [ServerSubscription.publishPending, ServerSubscription.popPending,
        hchanged] using h.parameters
    · simp only [ServerSubscription.publishPending,
        ServerSubscription.popPending, hentry]
      simp [hchanged]
    · rfl
    · rw [ServerSubscription.publishPending_nextSequenceNumber, hchanged]
      simp only [h.nextSequenceNumber]
      rw [UInt32.ofNat_add (count + 1) 1]
      rfl
  · refine ⟨changed.run.subscription.pendingMessage
      ⟨(count + 1 : ℕ) * 10000⟩, ?_, ?_⟩
    · rw [published_step]
      rcases changed.run.subscription.dataMessage_tryPublish
          ⟨(count + 1 : ℕ) * 10000⟩ with ⟨_, hmessage⟩ | ⟨hnodata, _⟩
      · rw [hprimed] at hmessage
        apply List.mem_append_right
        change _ ∈ ServerSubscription.dataMessage
          (changed.run.subscription.tryPublish ⟨(count + 1 : ℕ) * 10000⟩).2
        rw [hmessage]
        exact List.mem_singleton_self _
      · exact absurd hdue hnodata
    · rw [← h.nextSequenceNumber]
      change changed.run.subscription.nextSequenceNumber = _
      rw [hchanged]

theorem rolls_rounds (count : ℕ) :
    Rolls count
      (runFrom step (start 1 {} {} []) (rounds count)).run.subscription := by
  induction count with
  | zero => exact ⟨⟨_, rfl, ⟨rfl, rfl, rfl, rfl⟩⟩, rfl, rfl, rfl, rfl⟩
  | succ count ih =>
      rw [rounds_succ]
      exact ih.step.1

theorem rounds_publish_zero (count : ℕ) (hcount : count + 1 = 2 ^ 32) :
    ∃ message ∈ (runFrom step (start 1 {} {} [])
      (rounds (count + 1))).published, message.sequenceNumber = 0 := by
  obtain ⟨message, hmessage, hnumber⟩ := (rolls_rounds count).step.2
  refine ⟨message, ?_, ?_⟩
  · rw [rounds_succ]
    exact hmessage
  · rw [hnumber, hcount]
    decide

/-- After 2^32 data messages one is published under the number zero. -/
theorem data_message_numbered_zero :
    ¬∀ message ∈ (runFrom step (start 1 {} {} [])
      (rounds (4294967295 + 1))).published, message.sequenceNumber ≠ 0 := by
  intro hnonzero
  obtain ⟨message, hmessage, hzero⟩ :=
    rounds_publish_zero 4294967295 (by norm_num)
  exact hnonzero message hmessage hzero

end RetransmissionRun

end OpcuaStack
