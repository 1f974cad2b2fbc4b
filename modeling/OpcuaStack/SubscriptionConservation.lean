import OpcuaStack.SubscriptionEdits

/-!
# Conservation and order of notifications

A run of a subscription is any sequence of its operations, with the messages
returned by `TryPublish` collected.  The ledger replayed from the queue history
accounts, after every run, for the pending queue and for all these messages:
each notification ever pushed has exactly one fate.
-/

namespace OpcuaStack

/-- One call on a subscription, or one event of its backing subscription.
`iterateFirst` changes nothing but the order in which the item map is iterated,
which a hash map leaves open. -/
inductive SubscriptionEvent where
  | backing (event : ServerSubscription.BackingEvent)
  | tryPublish (now : DateTime)
  | modify (request : ModifySubscriptionRequest)
  | setPublishingEnabled (publishingEnabled : Bool)
  | createMonitoredItems (request : CreateMonitoredItemsRequest)
      (envs : ℕ → BindEnvironment)
  | modifyMonitoredItems (request : ModifyMonitoredItemsRequest)
      (envs : ℕ → BindEnvironment)
  | deleteMonitoredItems (request : DeleteMonitoredItemsRequest)
  | setMonitoringMode (request : SetMonitoringModeRequest)
  | acknowledge (sequenceNumbers : List UInt32)
  | iterateFirst (monitoredItemId : MonitoredItemId)

/-- A subscription and the messages `TryPublish` has returned, in order. -/
structure SubscriptionRun where
  subscription : ServerSubscription
  messages : List NotificationMessage := []

def SubscriptionRun.step (run : SubscriptionRun) :
    SubscriptionEvent → SubscriptionRun
  | .backing event =>
      { run with subscription := run.subscription.onBackingEvent event }
  | .tryPublish now =>
      let (s, response) := run.subscription.tryPublish now
      { subscription := s
        messages := run.messages ++
          (response.map (·.notificationMessage)).toList }
  | .modify request =>
      { run with subscription := (run.subscription.modify request).1 }
  | .setPublishingEnabled publishingEnabled =>
      { run with
        subscription := run.subscription.setPublishingEnabled publishingEnabled }
  | .createMonitoredItems request envs =>
      { run with
        subscription := (run.subscription.createMonitoredItems request envs).1 }
  | .modifyMonitoredItems request envs =>
      { run with
        subscription := (run.subscription.modifyMonitoredItems request envs).1 }
  | .deleteMonitoredItems request =>
      { run with
        subscription := (run.subscription.deleteMonitoredItems request).1 }
  | .setMonitoringMode request =>
      { run with
        subscription := (run.subscription.setMonitoringMode request).1 }
  | .acknowledge sequenceNumbers =>
      { run with
        subscription := (run.subscription.acknowledge sequenceNumbers).1 }
  | .iterateFirst monitoredItemId =>
      { run with
        subscription := { run.subscription with
          items := run.subscription.items.modify monitoredItemId id } }

namespace ServerSubscription

def pendingPairs (s : ServerSubscription) :
    List (MonitoredItemId × NotificationData) :=
  s.pendingNotifications.map fun queued =>
    (queued.sourceItemId, queued.notification)

/-- The ledger of the queue history accounts for the queue and the messages. -/
def Balanced (s : ServerSubscription) (messages : List NotificationMessage) :
    Prop :=
  (Ledger.replay s.queueHistory).Accounts s.pendingPairs
    (messages.map (·.notificationData))

/-- Between the two states the queue was changed only by pushes and by discards
made on account of the item discarded. -/
structure QueuesOnly (s t : ServerSubscription) : Prop where
  balanced : ∀ messages, s.Balanced messages → t.Balanced messages
  removals : ∀ named,
    .remove named ∈ t.queueHistory → .remove named ∈ s.queueHistory
  subscriptionId : t.subscriptionId = s.subscriptionId

namespace QueuesOnly

theorem refl (s : ServerSubscription) : QueuesOnly s s :=
  ⟨fun _ h => h, fun _ h => h, rfl⟩

theorem trans {s t r : ServerSubscription}
    (hst : QueuesOnly s t) (htr : QueuesOnly t r) : QueuesOnly s r :=
  ⟨fun messages h => htr.balanced messages (hst.balanced messages h),
    fun named h => hst.removals named (htr.removals named h),
    htr.subscriptionId.trans hst.subscriptionId⟩

theorem of_eq {s t : ServerSubscription}
    (hpending : t.pendingNotifications = s.pendingNotifications)
    (hhistory : t.queueHistory = s.queueHistory)
    (hid : t.subscriptionId = s.subscriptionId) : QueuesOnly s t := by
  refine ⟨fun messages h => ?_, fun named h => hhistory ▸ h, hid⟩
  unfold Balanced pendingPairs at h ⊢
  rw [hpending, hhistory]
  exact h

end QueuesOnly

/-! ## Edits only queue -/

theorem pushPending_queuesOnly (s : ServerSubscription)
    (queued : QueuedNotification) : QueuesOnly s (s.pushPending queued) := by
  refine ⟨fun messages h => ?_, fun named h => ?_, rfl⟩
  · have hpush := h.push queued.sourceItemId queued.notification
    simpa [Balanced, pushPending, Ledger.replay_append_singleton, pendingPairs]
      using hpush
  · simpa [pushPending] using h

theorem erasePending_queuesOnly (s : ServerSubscription)
    (owner : MonitoredItemId) (index : ℕ)
    (howner : ∀ queued, s.pendingNotifications[index]? = some queued →
      queued.sourceItemId = owner) :
    QueuesOnly s (s.erasePending owner index) := by
  refine ⟨fun messages h => ?_, fun named h => ?_, rfl⟩
  · have hdiscard := h.discard owner index (by
      intro element helement
      simp only [pendingPairs, List.getElem?_map, Option.map_eq_some_iff]
        at helement
      obtain ⟨queued, hqueued, rfl⟩ := helement
      exact howner queued hqueued)
    simpa [Balanced, erasePending, Ledger.replay_append_singleton,
      pendingPairs, List.eraseIdx_map] using hdiscard
  · simpa [erasePending] using h

theorem Edits.queuesOnly {s t : ServerSubscription} (h : Edits s t) :
    QueuesOnly s t := by
  refine h.preserves (P := QueuesOnly s) (fun r u hlast hearlier => ?_) (.refl s)
  refine hearlier.trans ?_
  cases hlast with
  | parameters => exact .of_eq rfl rfl rfl
  | item hedit =>
      cases hedit with
      | binding => exact .of_eq rfl rfl rfl
      | push queued => exact r.pushPending_queuesOnly queued
      | erase owner index howner =>
          exact r.erasePending_queuesOnly owner index howner

theorem acknowledge_queuesOnly (s : ServerSubscription)
    (sequenceNumbers : List UInt32) :
    QueuesOnly s (s.acknowledge sequenceNumbers).1 := by
  refine collectResults_invariant (P := QueuesOnly s)
    (fun t sequenceNumber h => h.trans ?_) (.refl s) sequenceNumbers
  unfold acknowledgeOne
  split
  · exact .refl t
  · exact .of_eq rfl rfl rfl

/-! ## Publishing and deleting -/

theorem removePending_balanced {s : ServerSubscription}
    {messages : List NotificationMessage} (h : s.Balanced messages)
    (named : List MonitoredItemId) : (s.removePending named).Balanced messages := by
  have hremove := h.remove named
  simpa [Balanced, removePending, Ledger.replay_append_singleton, pendingPairs,
    List.filter_map, Function.comp_def] using hremove

theorem popPending_balanced {s : ServerSubscription}
    {messages : List NotificationMessage} (h : s.Balanced messages)
    (count : ℕ) (message : NotificationMessage)
    (hmessage : message.notificationData =
      (s.pendingNotifications.take count).map (·.notification)) :
    (s.popPending count).Balanced (messages ++ [message]) := by
  have hpublish := h.publish count
  simpa [Balanced, popPending, Ledger.replay_append_singleton, pendingPairs,
    hmessage, ← List.map_take, ← List.map_drop, Function.comp_def]
    using hpublish

theorem Balanced.of_eq {s t : ServerSubscription}
    {messages : List NotificationMessage} (h : s.Balanced messages)
    (hpending : t.pendingNotifications = s.pendingNotifications)
    (hhistory : t.queueHistory = s.queueHistory) : t.Balanced messages := by
  unfold Balanced pendingPairs at h ⊢
  rw [hpending, hhistory]
  exact h

theorem primePublishCycle_queuesOnly (s : ServerSubscription) (now : DateTime) :
    QueuesOnly s (s.primePublishCycle now) := by
  unfold primePublishCycle
  split
  · exact .refl s
  · exact .of_eq rfl rfl rfl

theorem publishKeepAlive_balanced {s : ServerSubscription}
    {messages : List NotificationMessage} (h : s.Balanced messages)
    (now : DateTime) :
    (s.publishKeepAlive now).1.Balanced
      (messages ++ [(s.publishKeepAlive now).2.notificationMessage]) :=
  (popPending_balanced h 0 _ rfl).of_eq rfl rfl

theorem publishPending_balanced {s : ServerSubscription}
    {messages : List NotificationMessage} (h : s.Balanced messages)
    (now : DateTime) :
    (s.publishPending now).1.Balanced
      (messages ++ [(s.publishPending now).2.notificationMessage]) :=
  (popPending_balanced h s.maxEntries _ rfl).of_eq rfl rfl

theorem tryPublish_balanced {s : ServerSubscription}
    {messages : List NotificationMessage} (h : s.Balanced messages)
    (now : DateTime) :
    (s.tryPublish now).1.Balanced
      (messages ++
        ((s.tryPublish now).2.map (·.notificationMessage)).toList) := by
  have hprimed := (s.primePublishCycle_queuesOnly now).balanced messages h
  unfold tryPublish
  simp only
  split
  · split
    · simpa using hprimed
    · exact publishKeepAlive_balanced hprimed now
  · split
    · simpa using hprimed
    · exact publishPending_balanced hprimed now

theorem tryPublish_removals (s : ServerSubscription) (now : DateTime)
    (named : List MonitoredItemId)
    (hmem : .remove named ∈ (s.tryPublish now).1.queueHistory) :
    .remove named ∈ s.queueHistory := by
  apply (s.primePublishCycle_queuesOnly now).removals named
  unfold tryPublish at hmem
  simp only at hmem
  split at hmem
  · split at hmem
    · exact hmem
    · simpa [publishKeepAlive] using hmem
  · split at hmem
    · exact hmem
    · simpa [publishPending, popPending] using hmem

theorem tryPublish_subscriptionId (s : ServerSubscription) (now : DateTime) :
    (s.tryPublish now).1.subscriptionId = s.subscriptionId := by
  rw [← (s.primePublishCycle_queuesOnly now).subscriptionId]
  unfold tryPublish
  simp only
  split
  · split <;> rfl
  · split <;> rfl

end ServerSubscription

/-! ## Runs -/

namespace SubscriptionRun

/-- The events which neither publish nor delete only queue. -/
theorem step_queuesOnly (run : SubscriptionRun) (event : SubscriptionEvent)
    (hpublish : ∀ now, event ≠ .tryPublish now)
    (hdelete : ∀ request, event ≠ .deleteMonitoredItems request) :
    run.subscription.QueuesOnly (run.step event).subscription ∧
      (run.step event).messages = run.messages := by
  cases event with
  | backing event =>
      exact ⟨(run.subscription.onBackingEvent_edits _).edits.queuesOnly, rfl⟩
  | tryPublish now => exact absurd rfl (hpublish now)
  | modify request => exact ⟨(run.subscription.modify_edits _).queuesOnly, rfl⟩
  | setPublishingEnabled publishingEnabled =>
      exact ⟨(run.subscription.setPublishingEnabled_edits _).queuesOnly, rfl⟩
  | createMonitoredItems request envs =>
      exact ⟨(run.subscription.createMonitoredItems_edits _ _).edits.queuesOnly, rfl⟩
  | modifyMonitoredItems request envs =>
      exact ⟨(run.subscription.modifyMonitoredItems_edits _ _).edits.queuesOnly, rfl⟩
  | deleteMonitoredItems request => exact absurd rfl (hdelete request)
  | setMonitoringMode request =>
      exact ⟨(run.subscription.setMonitoringMode_edits _).edits.queuesOnly, rfl⟩
  | acknowledge sequenceNumbers =>
      exact ⟨run.subscription.acknowledge_queuesOnly _, rfl⟩
  | iterateFirst monitoredItemId => exact ⟨.of_eq rfl rfl rfl, rfl⟩

/-- The state of a run after the given events: the books balance, and whatever
was removed by name was named by one of the events. -/
structure Conserves (subscriptionId : SubscriptionId)
    (events : List SubscriptionEvent) (run : SubscriptionRun) : Prop where
  balanced : run.subscription.Balanced run.messages
  removals : ∀ named, .remove named ∈ run.subscription.queueHistory →
    ∃ request, .deleteMonitoredItems request ∈ events ∧
      request.subscriptionId = subscriptionId ∧
        request.monitoredItemIds = named
  subscriptionId : run.subscription.subscriptionId = subscriptionId

theorem Conserves.step {subscriptionId : SubscriptionId}
    {events : List SubscriptionEvent} {run : SubscriptionRun}
    (h : run.Conserves subscriptionId events) (event : SubscriptionEvent) :
    (run.step event).Conserves subscriptionId (events ++ [event]) := by
  have hearlier : ∀ named, .remove named ∈ run.subscription.queueHistory →
      ∃ request, .deleteMonitoredItems request ∈ events ++ [event] ∧
        request.subscriptionId = subscriptionId ∧
          request.monitoredItemIds = named := by
    intro named hmem
    obtain ⟨request, hrequest, hid, hnamed⟩ := h.removals named hmem
    exact ⟨request, List.mem_append_left _ hrequest, hid, hnamed⟩
  by_cases hpublish : ∃ now, event = .tryPublish now
  · obtain ⟨now, rfl⟩ := hpublish
    exact ⟨ServerSubscription.tryPublish_balanced h.balanced now,
      fun named hmem => hearlier named
        (ServerSubscription.tryPublish_removals _ now named hmem),
      (ServerSubscription.tryPublish_subscriptionId _ now).trans
        h.subscriptionId⟩
  · by_cases hdelete : ∃ request, event = .deleteMonitoredItems request
    · obtain ⟨request, rfl⟩ := hdelete
      rcases run.subscription.deleteMonitoredItems_cases request with
        hsame | ⟨hid, t, ht, heq⟩
      · have hstep : run.step (.deleteMonitoredItems request) = run := by
          simp only [SubscriptionRun.step, hsame]
        rw [hstep]
        exact ⟨h.balanced, hearlier, h.subscriptionId⟩
      · have hstep : run.step (.deleteMonitoredItems request) =
            { run with
              subscription := t.removePending request.monitoredItemIds } := by
          simp only [SubscriptionRun.step, heq]
        rw [hstep]
        refine ⟨ServerSubscription.removePending_balanced
          (ht.edits.queuesOnly.balanced _ h.balanced) _, ?_,
          ht.edits.subscriptionId.trans h.subscriptionId⟩
        intro named hmem
        simp only [ServerSubscription.removePending, List.mem_append,
          List.mem_singleton, QueueEffect.remove.injEq] at hmem
        rcases hmem with hold | rfl
        · exact hearlier named (ht.edits.queuesOnly.removals named hold)
        · exact ⟨request, by simp, hid.trans h.subscriptionId, rfl⟩
    · obtain ⟨hqueues, hmessages⟩ := run.step_queuesOnly event
        (fun now heq => hpublish ⟨now, heq⟩)
        (fun request heq => hdelete ⟨request, heq⟩)
      refine ⟨?_, fun named hmem => hearlier named (hqueues.removals named hmem),
        hqueues.subscriptionId.trans h.subscriptionId⟩
      rw [hmessages]
      exact hqueues.balanced _ h.balanced

theorem Conserves.run {subscriptionId : SubscriptionId}
    {run : SubscriptionRun} (h : run.Conserves subscriptionId [])
    (events : List SubscriptionEvent) :
    (runFrom SubscriptionRun.step run events).Conserves subscriptionId
      events := by
  induction events using List.reverseRecOn with
  | nil => exact h
  | append_singleton rest event ih =>
      rw [runFrom_append, runFrom_cons, runFrom_nil]
      exact ih.step event

/-- A subscription just created, before its first operation. -/
def start (subscriptionId : SubscriptionId) (parameters : SubscriptionParameters)
    (publishCycleStartTime : DateTime) (traceParent : ByteText) :
    SubscriptionRun where
  subscription := ServerSubscription.create subscriptionId parameters
    publishCycleStartTime traceParent

theorem start_conserves (subscriptionId : SubscriptionId)
    (parameters : SubscriptionParameters) (publishCycleStartTime : DateTime)
    (traceParent : ByteText) :
    (start subscriptionId parameters publishCycleStartTime
      traceParent).Conserves subscriptionId [] := by
  refine ⟨Ledger.Accounts.empty, fun named hmem => ?_, rfl⟩
  simp [start, ServerSubscription.create] at hmem

/-- In every run each pushed notification has exactly one entry in the ledger,
and its fate says where it is: the pending entries are the pending queue, the
entries published in a message are that message's data, and an entry is
discarded or removed only on account of its own item.  What was published, read
in the order of the messages, is a subsequence of what was pushed. -/
theorem notifications_conserved (subscriptionId : SubscriptionId)
    (parameters : SubscriptionParameters) (publishCycleStartTime : DateTime)
    (traceParent : ByteText) (events : List SubscriptionEvent) :
    let run := runFrom SubscriptionRun.step
      (start subscriptionId parameters publishCycleStartTime traceParent) events
    let pushes := pushesOf run.subscription.queueHistory
    let entries := (Ledger.replay run.subscription.queueHistory).entries
    entries.map (fun entry => (entry.key, entry.value)) = pushes ∧
      pendingOf entries = run.subscription.pendingPairs ∧
      (∀ message, publishedIn message entries =
        (run.messages.map (·.notificationData)).getD message []) ∧
      (∀ entry ∈ entries, ∀ message, entry.fate = .published message →
        message < run.messages.length) ∧
      (∀ entry ∈ entries, ∀ owner, entry.fate = .discarded owner →
        owner = entry.key) ∧
      (∀ entry ∈ entries, ∀ named, entry.fate = .removed named →
        entry.key ∈ named ∧
          ∃ request, .deleteMonitoredItems request ∈ events ∧
            request.subscriptionId = subscriptionId ∧
              request.monitoredItemIds = named) ∧
      (run.messages.flatMap (·.notificationData)).Sublist
        (pushes.map Prod.snd) := by
  intro run pushes entries
  have h : run.Conserves subscriptionId events :=
    (start_conserves subscriptionId parameters publishCycleStartTime
      traceParent).run events
  have haccounts := h.balanced
  refine ⟨Ledger.replay_keyValue _, haccounts.pending, haccounts.published,
    fun entry hmem message hfate => ?_, haccounts.discarded,
    fun entry hmem named hfate => ?_, ?_⟩
  · have hlt := haccounts.message_lt hmem hfate
    simpa using hlt
  · refine ⟨haccounts.removed entry hmem named hfate, h.removals named ?_⟩
    exact Ledger.removed_mem_history hmem hfate
  · have hsublist := Ledger.publishedOf_sublist
      (Ledger.replay run.subscription.queueHistory)
    rw [haccounts.inOrder] at hsublist
    have hpushes : pushes.map Prod.snd = entries.map fun entry => entry.value := by
      have hkeyValue :
          entries.map (fun entry => (entry.key, entry.value)) = pushes :=
        Ledger.replay_keyValue _
      rw [← hkeyValue, List.map_map]
      rfl
    rw [List.flatMap_def, hpushes]
    exact hsublist

def valueChange : SubscriptionEvent :=
  .backing (.notifications [.dataChange ⟨1, .ofStatus .good {}⟩])

/-- An item whose queue holds one value changes twice, is published, changes again and is
deleted; another one has changed by then. -/
def changingEvents : List SubscriptionEvent :=
  [.createMonitoredItems { subscriptionId := 1, itemsToCreate := [{}, {}] }
      fun _ => { immediateResults := some [{ monitoredItemId := 1 }, { monitoredItemId := 2 }] },
    valueChange, valueChange, .tryPublish ⟨10000000⟩, valueChange,
    .backing (.notifications [.dataChange ⟨2, .ofStatus .good {}⟩]),
    .deleteMonitoredItems { subscriptionId := 1, monitoredItemIds := [1] }]

/-- The first value is discarded, the second published, the third removed with its item,
and the value of the other item is pending. -/
theorem changes_conserved :
    let run := runFrom SubscriptionRun.step (start 1 {} {} []) changingEvents
    let entries := (Ledger.replay run.subscription.queueHistory).entries
    entries.map (·.fate) =
        [.discarded 1, .published 0, .removed [1], .pending] ∧
      pendingOf entries = run.subscription.pendingPairs ∧
      publishedIn 0 entries = (run.messages.map (·.notificationData)).getD 0 [] := by
  have hconserved := notifications_conserved 1 {} {} [] changingEvents
  exact ⟨by decide +kernel, hconserved.2.1, hconserved.2.2.1 0⟩

end SubscriptionRun

end OpcuaStack
