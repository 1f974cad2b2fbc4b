import OpcuaStack.RotatingQueue
import OpcuaStack.SessionReachability

/-!
# When a session publishes

A subscription is ready when the message it owes is due, and the session either
publishes for a ready subscription or waits for the first message to come due.
The runtime sleeps for that time: exactly, if it was given a scheduler, and
otherwise on a timer of whole milliseconds.
-/

namespace OpcuaStack

namespace Duration

/-- The duration in the ticks of `DateTime`, of which a millisecond has ten
thousand. -/
def ticks (duration : Duration) : ℚ := duration.milliseconds * 10 * 1000

theorem saturatingTrunc_of_nonneg {value : ℚ} (h : 0 ≤ value) :
    saturatingTrunc value = min int64Max ⌊value⌋ := by
  have htruncate : Double.truncate value = ⌊value⌋ := by
    unfold Double.truncate
    rw [Int.tdiv_eq_ediv_of_nonneg (Rat.num_nonneg.mpr h), Rat.floor_def']
  have hfloor : (0 : Int) ≤ ⌊value⌋ := Int.floor_nonneg.mpr h
  unfold saturatingTrunc
  rw [htruncate]
  unfold int64Min int64Max
  omega

theorem inMilliseconds_le {duration : Duration}
    (h : 0 ≤ duration.milliseconds) :
    (duration.inMilliseconds : ℚ) ≤ duration.milliseconds := by
  unfold inMilliseconds
  rw [saturatingTrunc_of_nonneg h]
  calc ((min int64Max ⌊duration.milliseconds⌋ : Int) : ℚ)
      ≤ (⌊duration.milliseconds⌋ : ℚ) := by exact_mod_cast min_le_right _ _
    _ ≤ duration.milliseconds := Int.floor_le _

theorem inMilliseconds_pos_iff {duration : Duration}
    (h : 0 ≤ duration.milliseconds) :
    0 < duration.inMilliseconds ↔ 1 ≤ duration.milliseconds := by
  have hfloor : 1 ≤ ⌊duration.milliseconds⌋ ↔ 1 ≤ duration.milliseconds := by
    rw [Int.le_floor]
    norm_cast
  unfold inMilliseconds
  rw [saturatingTrunc_of_nonneg h, ← hfloor]
  unfold int64Max
  omega

end Duration

/-- `Delay`: how long after the call the coroutine goes on.  An injected
`post_delayed_task` is handed the duration itself, the timer of the executor whole
milliseconds, which are taken to fit its 64 bits of nanoseconds (292 years). -/
def ServerRuntime.delay (injected : Bool) (duration : Duration) : Duration :=
  if duration.milliseconds ≤ 0 then ⟨0⟩
  else if injected then duration
  else ⟨duration.inMilliseconds⟩

def PublishPollResult.wait : PublishPollResult → Option Duration
  | .response _ => none
  | .waitFor duration => some duration

theorem PublishPollResult.eq_waitFor {poll : PublishPollResult}
    {duration : Duration} (h : poll.wait = some duration) :
    poll = .waitFor duration := by
  cases poll with
  | response response => simp [wait] at h
  | waitFor found => rw [Option.some.inj h]

/-! ## Readiness and deadlines -/

namespace ServerSubscription

/-- The time the subscription lets pass between its last message and the one it
owes. -/
def owedInterval (s : ServerSubscription) : Duration :=
  if s.initialMessageSent && !s.hasPublishableNotifications then
    s.keepAliveInterval
  else s.publishingInterval

/-- When the message the subscription owes is due, in ticks. -/
def owedAt (s : ServerSubscription) : Option ℚ :=
  s.lastPublishTime.map fun last => last.ticks + s.owedInterval.ticks

/-- The time at which the owed message is due is a time the clock can show. -/
def ExactTime (s : ServerSubscription) : Prop :=
  ∀ last, s.lastPublishTime = some last →
    ((last.add s.owedInterval).ticks : ℚ) = last.ticks + s.owedInterval.ticks

variable {s : ServerSubscription} {last : DateTime}

theorem isPublishReady_eq (hlast : s.lastPublishTime = some last)
    (now : DateTime) :
    s.isPublishReady now =
      decide (s.owedInterval.milliseconds ≤ (now.sub last).milliseconds) := by
  unfold isPublishReady owedInterval hasPublishableNotifications
  rw [hlast]
  cases s.initialMessageSent <;> cases s.parameters.publishingEnabled <;>
    cases s.pendingNotifications.isEmpty <;> rfl

theorem nextPublishDeadline_eq (hlast : s.lastPublishTime = some last) :
    s.nextPublishDeadline = some (last.add s.owedInterval) := by
  unfold nextPublishDeadline owedInterval hasPublishableNotifications
  rw [hlast]
  cases s.initialMessageSent <;> cases s.parameters.publishingEnabled <;>
    cases s.pendingNotifications.isEmpty <;> rfl

theorem ready_iff_due (hlast : s.lastPublishTime = some last) (now : DateTime) :
    s.isPublishReady now = true ↔
      (last.ticks : ℚ) + s.owedInterval.ticks ≤ now.ticks := by
  rw [isPublishReady_eq hlast, decide_eq_true_iff]
  unfold DateTime.sub Duration.ticks
  constructor <;> intro h <;> simp only at h ⊢ <;> linarith

theorem lastPublishTime_of_ready {now : DateTime}
    (hready : s.isPublishReady now = true) :
    ∃ last, s.lastPublishTime = some last := by
  unfold isPublishReady at hready
  split at hready
  · exact absurd hready Bool.false_ne_true
  next last hlast => exact ⟨last, hlast⟩

theorem primePublishCycle_of_started (hlast : s.lastPublishTime = some last)
    (now : DateTime) : s.primePublishCycle now = s := by
  simp [primePublishCycle, hlast]

theorem tryPublish_of_ready {now : DateTime}
    (hready : s.isPublishReady now = true) :
    ∃ response, (s.tryPublish now).2 = some response := by
  obtain ⟨last, hlast⟩ := lastPublishTime_of_ready hready
  have hprimed := primePublishCycle_of_started hlast now
  have hpublishes := s.tryPublish_publishes now
  generalize s.tryPublish now = result at hpublishes ⊢
  cases hpublishes with
  | waits hnot =>
      rw [hprimed, hready] at hnot
      exact absurd hnot.symm Bool.false_ne_true
  | keepAlive _ _ => exact ⟨_, rfl⟩
  | data _ _ => exact ⟨_, rfl⟩

theorem one_le_publishingInterval (s : ServerSubscription) :
    1 ≤ s.publishingInterval.milliseconds := by
  have hone : (1 : Int) ≤
      max 1 (Double.truncate s.parameters.publishingIntervalMs) :=
    le_max_left _ _
  change (1 : ℚ) ≤
    ((max 1 (Double.truncate s.parameters.publishingIntervalMs) : Int) : ℚ)
  exact_mod_cast hone

end ServerSubscription

/-! ## Sessions whose subscriptions have all started -/

namespace ServerSession

open ServerSubscription

/-- Every subscription has a last publish time and a place in the publish
order. -/
structure Started (session : ServerSession) : Prop where
  time : ∀ id s, session.subscriptions.lookup id = some s →
    s.lastPublishTime.isSome = true
  place : ∀ id, session.hasSubscription id = true → id ∈ session.publishOrder

theorem started_change {s t : ServerSubscription} (h : Change s t)
    (hstarted : s.lastPublishTime.isSome = true) :
    t.lastPublishTime.isSome = true := by
  cases h with
  | edits hedits =>
      rw [hedits.lastPublishTime]
      exact hstarted
  | deletes request =>
      rcases s.deleteMonitoredItems_cases request with
        heq | ⟨_, edited, hedits, heq⟩
      · rw [heq]
        exact hstarted
      · rw [heq]
        change edited.lastPublishTime.isSome = true
        rw [hedits.edits.lastPublishTime]
        exact hstarted
  | primes now =>
      unfold primePublishCycle
      split
      · exact hstarted
      · rfl
  | publishes now =>
      have hpublishes := s.tryPublish_publishes now
      generalize s.tryPublish now = result at hpublishes ⊢
      cases hpublishes with
      | waits _ =>
          obtain ⟨last, hlast⟩ := Option.isSome_iff_exists.mp hstarted
          rw [primePublishCycle_of_started hlast]
          exact hstarted
      | keepAlive _ _ => rfl
      | data _ _ => rfl
  | acknowledges sequenceNumber =>
      unfold acknowledgeOne
      split <;> exact hstarted

namespace Started

variable {session : ServerSession} (h : session.Started)
include h

theorem inPlace {after : ServerSession} (hplace : InPlace session after) :
    after.Started where
  time id t hlookup := by
    obtain ⟨s, hbefore, hchanges⟩ := hplace.exists_before hlookup
    exact reflTransGen_preserves
      (P := fun subscription => subscription.lastPublishTime.isSome = true)
      (fun _ _ => started_change) hchanges (h.time id s hbefore)
  place id hheld := by
    rw [hplace.publishOrder]
    rw [hplace.sameOutline.hasSubscription] at hheld
    exact h.place id hheld

theorem created (id : SubscriptionId) (request : CreateSubscriptionRequest)
    (traceParent : ByteText) (now : DateTime) :
    (session.createSubscriptionWithId id request traceParent now).1.Started where
  time other s hlookup := by
    unfold createSubscriptionWithId at hlookup
    simp only at hlookup
    split at hlookup
    · exact h.time other s hlookup
    · rw [KeyedMap.lookup_insert_eq] at hlookup
      split at hlookup
      · cases hlookup
        rfl
      · exact h.time other s hlookup
  place other hheld := by
    rw [createSubscriptionWithId_hasSubscription] at hheld
    change other ∈ session.publishOrder ++ [id]
    rcases Bool.or_eq_true_iff.mp hheld with heq | hold
    · simp [of_decide_eq_true heq]
    · exact List.mem_append_left _ (h.place other hold)

theorem inserted {id : SubscriptionId} {s : ServerSubscription}
    (hstarted : s.lastPublishTime.isSome = true) :
    Started { session with
      subscriptions := session.subscriptions.insert id s
      publishOrder := session.publishOrder ++ [id] } where
  time other t hlookup := by
    simp only [KeyedMap.lookup_insert_eq] at hlookup
    split at hlookup
    · cases hlookup
      exact hstarted
    · exact h.time other t hlookup
  place other hheld := by
    simp only [hasSubscription, KeyedMap.lookup_insert_eq] at hheld
    split at hheld
    next heq => simp [heq]
    next => exact List.mem_append_left _ (h.place other hheld)

theorem erased (id : SubscriptionId) :
    (session.eraseSubscription id).Started where
  time other s hlookup := by
    rw [eraseSubscription_subscriptions, KeyedMap.lookup_erase_eq] at hlookup
    split at hlookup
    · simp at hlookup
    · exact h.time other s hlookup
  place other hheld := by
    rw [eraseSubscription_hasSubscription] at hheld
    obtain ⟨hne, hold⟩ := Bool.and_eq_true_iff.mp hheld
    have hmem := h.place other hold
    unfold eraseSubscription
    simp only
    split
    · exact hmem
    next index hindex =>
      have hkept : other ∈ session.publishOrder.eraseIdx index := by
        obtain ⟨hlt, hat, _⟩ := List.findIdx?_eq_some_iff_getElem.mp hindex
        obtain ⟨place, hplace, rfl⟩ := List.mem_iff_getElem.mp hmem
        refine List.mem_eraseIdx_iff_getElem.mpr ⟨place, hplace, ?_, rfl⟩
        rintro rfl
        exact absurd (beq_iff_eq.mp hat) (of_decide_eq_true hne)
      split <;> exact hkept

theorem deleted (request : DeleteSubscriptionsRequest) :
    (session.deleteSubscriptions request).1.Started := by
  refine collectResults_invariant (P := Started) (fun current id hcurrent => ?_)
    h request.subscriptionIds
  unfold deleteSubscription
  split
  · exact hcurrent.erased id
  · exact hcurrent

omit h in
theorem transferSubscription {sessions : ServerSession × ServerSession}
    (h : sessions.1.Started ∧ sessions.2.Started) (id : SubscriptionId) :
    (ServerSession.transferSubscription sessions id).1.1.Started ∧
      (ServerSession.transferSubscription sessions id).1.2.Started := by
  unfold ServerSession.transferSubscription
  simp only
  split
  · exact h
  · split
    · exact h
    next s hlookup =>
      exact ⟨h.1.inserted (h.2.time id s hlookup), h.2.erased id⟩

theorem transferred {source : ServerSession} (hsource : source.Started)
    (ids : List SubscriptionId) :
    (session.transferSubscriptionsFrom source ids).1.1.Started ∧
      (session.transferSubscriptionsFrom source ids).1.2.Started := by
  have hboth : (session, source).1.Started ∧ (session, source).2.Started :=
    ⟨h, hsource⟩
  have hloop := collectResults_invariant
    (P := fun sessions : ServerSession × ServerSession =>
      sessions.1.Started ∧ sessions.2.Started)
    (fun _ id hsessions => transferSubscription hsessions id) hboth ids
  exact ⟨⟨hloop.1.time, hloop.1.place⟩, hloop.2⟩

theorem polled (now : DateTime) : (session.pollPublish now).1.Started := by
  unfold pollPublish
  split
  · exact h.inPlace ((session.pollWait_quiet now).inPlace)
  next index _ =>
    obtain ⟨served, hserved, heq | heq⟩ := session.pollReady_inPlace index now
    · rw [heq]
      exact h.inPlace hserved
    · have hstarted := h.inPlace hserved
      rw [heq]
      unfold advancePublishCursorAfter
      split <;> exact ⟨hstarted.time, hstarted.place⟩

end Started

theorem Reachable.started {session : ServerSession} (h : session.Reachable) :
    session.Started := by
  induction h with
  | new address sessionId serviceContext operationLimits =>
      exact ⟨fun _ _ hlookup => by simp at hlookup,
        fun _ hheld => by simp [hasSubscription] at hheld⟩
  | resumed _ serviceContext ih => exact ⟨ih.time, ih.place⟩
  | created _ id request traceParent now ih =>
      exact ih.created id request traceParent now
  | deleted _ request ih => exact ih.deleted request
  | received _ _ ids ihtarget ihsource =>
      exact (ihtarget.transferred ihsource ids).1
  | gave _ _ ids ihtarget ihsource => exact (ihtarget.transferred ihsource ids).2
  | acknowledged _ request ih =>
      exact ih.inPlace (acknowledgePublishRequest_inPlace _ request)
  | polled _ now ih => exact ih.polled now
  | served _ request envs ih => exact ih.inPlace (serve_quiet _ request envs).inPlace
  | browsed _ response requestedMax ih =>
      exact ih.inPlace (storeBrowseResults_quiet _ response requestedMax).inPlace
  | backing _ id event ih => exact ih.inPlace (onBackingEvent_quiet _ id event).inPlace

/-! ## One poll -/

/-- The test of `FindNextReadySubscription` on one id. -/
def eligible (session : ServerSession) (now : DateTime) (requirePending : Bool)
    (id : SubscriptionId) : Bool :=
  (session.subscriptions.lookup id).any fun subscription =>
    (!requirePending || subscription.hasPendingNotifications) &&
      subscription.isPublishReady now

theorem findNextReadySubscription_eq (session : ServerSession) (now : DateTime)
    (requirePending : Bool) :
    session.findNextReadySubscription now requirePending =
      cyclicFind (session.eligible now requirePending) session.publishOrder
        session.nextPublishIndex := by
  unfold findNextReadySubscription cyclicFind eligible
  congr 1
  funext index
  cases session.publishOrder[index]? with
  | none => rfl
  | some id => rfl

theorem eligible_ready {session : ServerSession} {now : DateTime}
    {requirePending : Bool} {id : SubscriptionId}
    (h : session.eligible now requirePending id = true) :
    ∃ s, session.subscriptions.lookup id = some s ∧
      s.isPublishReady now = true := by
  obtain ⟨s, hlookup, hs⟩ := (Option.any_eq_true _ _).mp h
  exact ⟨s, hlookup, (Bool.and_eq_true_iff.mp hs).2⟩

theorem pollPublish_of_found {session : ServerSession} {now : DateTime}
    {requirePending : Bool} {index : ℕ} {id : SubscriptionId}
    (hfound : (session.findNextReadySubscription now true).or
      (session.findNextReadySubscription now false) = some index)
    (hindex : session.publishOrder[index]? = some id)
    (heligible : session.eligible now requirePending id = true) :
    ∃ s response, session.subscriptions.lookup id = some s ∧
      s.isPublishReady now = true ∧ (s.tryPublish now).2 = some response ∧
      session.pollPublish now =
        ((session.writeSubscription id
            (s.tryPublish now).1).advancePublishCursorAfter index,
          .response response) := by
  obtain ⟨s, hlookup, hready⟩ := eligible_ready heligible
  obtain ⟨response, hresponse⟩ := tryPublish_of_ready hready
  refine ⟨s, response, hlookup, hready, hresponse, ?_⟩
  unfold pollPublish
  rw [hfound]
  simp only [pollReady, hindex, hlookup, hresponse]

theorem pollPublish_cases (session : ServerSession) (now : DateTime) :
    (∃ id s response, session.subscriptions.lookup id = some s ∧
        s.isPublishReady now = true ∧ (s.tryPublish now).2 = some response ∧
        (session.pollPublish now).2 = .response response) ∨
      (∀ id ∈ session.publishOrder, ∀ s,
        session.subscriptions.lookup id = some s →
          s.isPublishReady now = false) ∧
        session.pollPublish now = session.pollWait now := by
  cases hfound : (session.findNextReadySubscription now true).or
      (session.findNextReadySubscription now false) with
  | some index =>
      left
      have hsome : ∃ requirePending, cyclicFind
          (session.eligible now requirePending) session.publishOrder
            session.nextPublishIndex = some index := by
        simp only [findNextReadySubscription_eq] at hfound
        rcases Option.or_eq_some_iff.mp hfound with hpending | ⟨_, hready⟩
        · exact ⟨true, hpending⟩
        · exact ⟨false, hready⟩
      obtain ⟨requirePending, hcyclic⟩ := hsome
      obtain ⟨_, id, _, hindex, heligible, _⟩ := cyclicFind_eq_some hcyclic
      obtain ⟨s, response, hlookup, hready, hresponse, heq⟩ :=
        pollPublish_of_found hfound hindex heligible
      exact ⟨id, s, response, hlookup, hready, hresponse, by rw [heq]⟩
  | none =>
      right
      refine ⟨fun id hmem s hlookup => ?_, by unfold pollPublish; rw [hfound]⟩
      have hnone := (Option.or_eq_none_iff.mp hfound).2
      rw [findNextReadySubscription_eq] at hnone
      have hnot := cyclicFind_eq_none hnone id hmem
      simpa [eligible, hlookup] using hnot

/-! ## The time to wait -/

/-- What the loop of the waiting branch has collected over the ids visited. -/
structure Collected (session : ServerSession) (ids : List SubscriptionId)
    (state : ServerSession × PublishSchedule) : Prop where
  lookup : ∀ id,
    state.1.subscriptions.lookup id = session.subscriptions.lookup id
  earliest_le : ∀ id ∈ ids, ∀ s deadline,
    session.subscriptions.lookup id = some s →
      s.nextPublishDeadline = some deadline →
        ∃ earliest, state.2.earliestDeadline = some earliest ∧
          earliest.ticks ≤ deadline.ticks
  earliest_held : ∀ earliest, state.2.earliestDeadline = some earliest →
    ∃ id s, session.subscriptions.lookup id = some s ∧
      s.nextPublishDeadline = some earliest
  one_le_recheck : ∀ wait, state.2.maxWaitBeforeRecheck = some wait →
    1 ≤ wait.milliseconds

theorem Collected.prime {session : ServerSession} (hstarted : session.Started)
    {ids : List SubscriptionId} {state : ServerSession × PublishSchedule}
    (h : Collected session ids state) (now : DateTime) (id : SubscriptionId) :
    Collected session (ids ++ [id]) (primeSubscription now state id) := by
  obtain ⟨current, schedule⟩ := state
  have hlookup := h.lookup id
  simp only at hlookup
  unfold primeSubscription
  simp only [hlookup]
  cases hheld : session.subscriptions.lookup id with
  | none =>
      refine ⟨h.lookup, fun other hmem s deadline hother => ?_,
        h.earliest_held, h.one_le_recheck⟩
      rcases List.mem_append.mp hmem with hmem | hmem
      · exact h.earliest_le other hmem s deadline hother
      · rw [List.mem_singleton.mp hmem, hheld] at hother
        simp at hother
  | some s =>
      obtain ⟨last, hlast⟩ :=
        Option.isSome_iff_exists.mp (hstarted.time id s hheld)
      have hprimed := primePublishCycle_of_started hlast now
      have hdeadline := nextPublishDeadline_eq hlast
      simp only [hprimed, hdeadline]
      have hwritten : ∀ other,
          (current.writeSubscription id s).subscriptions.lookup other =
            session.subscriptions.lookup other := by
        intro other
        rw [writeSubscription, KeyedMap.lookup_insert_eq]
        split
        next heq => rw [heq, hheld]
        next => exact h.lookup other
      refine ⟨hwritten, ?_, ?_, ?_⟩
      · intro other hmem t deadline hother hdue
        simp only
        rcases List.mem_append.mp hmem with hmem | hmem
        · obtain ⟨earliest, hearliest, hle⟩ :=
            h.earliest_le other hmem t deadline hother hdue
          simp only at hearliest
          simp only [hearliest]
          split
          next hlt => exact ⟨_, rfl, hlt.le.trans hle⟩
          next => exact ⟨_, rfl, hle⟩
        · rw [List.mem_singleton.mp hmem, hheld, Option.some.injEq] at hother
          rw [← hother, hdeadline, Option.some.injEq] at hdue
          rw [← hdue]
          split
          · exact ⟨_, rfl, le_refl _⟩
          next earliest _ =>
            split
            · exact ⟨_, rfl, le_refl _⟩
            next hnot => exact ⟨_, rfl, not_lt.mp hnot⟩
      · intro earliest hearliest
        simp only at hearliest
        split at hearliest
        · cases hearliest
          exact ⟨id, s, hheld, hdeadline⟩
        next held hheldEarliest =>
          split at hearliest
          · cases hearliest
            exact ⟨id, s, hheld, hdeadline⟩
          · cases hearliest
            exact h.earliest_held _ hheldEarliest
      · intro wait hwait
        simp only at hwait
        split at hwait
        · cases hwait
          exact s.one_le_publishingInterval
        next held hheldWait =>
          split at hwait
          · cases hwait
            exact s.one_le_publishingInterval
          · cases hwait
            exact h.one_le_recheck _ hheldWait

theorem Collected.primeAll {session : ServerSession}
    (hstarted : session.Started) (now : DateTime)
    (ids : List SubscriptionId) {seen : List SubscriptionId}
    {state : ServerSession × PublishSchedule}
    (h : Collected session seen state) :
    Collected session (seen ++ ids)
      (ids.foldl (primeSubscription now) state) := by
  induction ids generalizing seen state with
  | nil => simpa using h
  | cons id rest ih =>
      have hrest := ih (h.prime hstarted now id)
      rwa [List.append_assoc] at hrest

/-- The waiting branch waits for the earliest deadline, or for at least a
millisecond. -/
theorem pollWait_waits {session : ServerSession} (hstarted : session.Started)
    (hheld : session.subscriptions.entries ≠ []) (now : DateTime) :
    ∃ wait earliest id s, (session.pollWait now).2 = .waitFor wait ∧
      session.subscriptions.lookup id = some s ∧
      s.nextPublishDeadline = some earliest ∧
      (∀ other t deadline, session.subscriptions.lookup other = some t →
        t.nextPublishDeadline = some deadline →
          earliest.ticks ≤ deadline.ticks) ∧
      wait.milliseconds ≤ max 0 (earliest.sub now).milliseconds ∧
      min 1 (max 0 (earliest.sub now).milliseconds) ≤ wait.milliseconds := by
  have hempty : Collected session [] (session, {}) := by
    refine ⟨fun _ => rfl, ?_, ?_, ?_⟩ <;> simp
  have hcollected :=
    hempty.primeAll hstarted now session.publishOrder
  rw [List.nil_append] at hcollected
  have hplace : ∀ other t, session.subscriptions.lookup other = some t →
      other ∈ session.publishOrder := by
    intro other t hother
    exact hstarted.place other (by simp [hasSubscription, hother])
  obtain ⟨entry, hentry⟩ := List.exists_mem_of_ne_nil _ hheld
  have hfirst := KeyedMap.mem_entries_iff.mp hentry
  obtain ⟨last, hlast⟩ :=
    Option.isSome_iff_exists.mp (hstarted.time _ _ hfirst)
  obtain ⟨earliest, hearliest, _⟩ := hcollected.earliest_le entry.1
    (hplace _ _ hfirst) entry.2 _ hfirst (nextPublishDeadline_eq hlast)
  obtain ⟨id, s, hlookup, hdeadline⟩ :=
    hcollected.earliest_held earliest hearliest
  have hbound : ∀ other t deadline,
      session.subscriptions.lookup other = some t →
        t.nextPublishDeadline = some deadline →
          earliest.ticks ≤ deadline.ticks := by
    intro other t deadline hother hdue
    obtain ⟨found, hfound, hle⟩ := hcollected.earliest_le other
      (hplace other t hother) t deadline hother hdue
    rw [hearliest, Option.some.injEq] at hfound
    rw [hfound]
    exact hle
  unfold pollWait
  rw [if_neg (by simpa using hheld)]
  simp only [hearliest]
  refine ⟨_, earliest, id, s, rfl, hlookup, hdeadline, hbound, ?_⟩
  split
  · exact ⟨le_refl _, min_le_right _ _⟩
  next recheck hrecheck =>
    have hone := hcollected.one_le_recheck recheck hrecheck
    exact ⟨min_le_left _ _, le_min (min_le_right _ _)
      ((min_le_left _ _).trans hone)⟩

/-! ## Polling and sleeping -/

def Exact (session : ServerSession) : Prop :=
  ∀ id s, session.subscriptions.lookup id = some s → s.ExactTime

/-- The time which lies a duration ahead is past no deadline. -/
def EndsByDeadlines (session : ServerSession) (now : DateTime)
    (duration : Duration) : Prop :=
  ∀ id s deadline, session.subscriptions.lookup id = some s →
    s.nextPublishDeadline = some deadline →
      (now.ticks : ℚ) + duration.ticks ≤ deadline.ticks

/-- What is asked of a poll at a time, and of the sleep of the publish loop
which may follow it. -/
structure SchedulesPublishing (session : ServerSession) (now : DateTime)
    (injected : Bool) : Prop where
  readiness : ∀ id s, session.subscriptions.lookup id = some s →
    ∃ deadline, s.nextPublishDeadline = some deadline ∧
      (s.isPublishReady now = true ↔ deadline.ticks ≤ now.ticks)
  responds : ∀ response, (session.pollPublish now).2 = .response response →
    (session.subscriptions.entries = [] ∧
        response = { status := .ofCode .badNoSubscription }) ∨
      ∃ id s, session.subscriptions.lookup id = some s ∧
        s.isPublishReady now = true ∧ (s.tryPublish now).2 = some response
  waits : ∀ wait, (session.pollPublish now).2 = .waitFor wait →
    0 < wait.milliseconds ∧
      (∀ id s, session.subscriptions.lookup id = some s →
        s.isPublishReady now = false) ∧
      session.EndsByDeadlines now wait
  sleeps : ∀ wait, (session.pollPublish now).2 = .waitFor wait →
    0 < (ServerRuntime.delay injected wait).milliseconds ∧
      session.EndsByDeadlines now (ServerRuntime.delay injected wait)

/-- Some message is due already, or none is due within a millisecond. -/
def DueOrMillisecondAway (session : ServerSession) (now : DateTime) : Prop :=
  (∃ id s due, session.subscriptions.lookup id = some s ∧
      s.owedAt = some due ∧ due ≤ now.ticks) ∨
    ∀ id s due, session.subscriptions.lookup id = some s →
      s.owedAt = some due → (now.ticks : ℚ) + 10 * 1000 ≤ due

theorem Started.deadline {session : ServerSession} (h : session.Started)
    (hexact : session.Exact) {id : SubscriptionId} {s : ServerSubscription}
    (hlookup : session.subscriptions.lookup id = some s) (now : DateTime) :
    ∃ deadline, s.nextPublishDeadline = some deadline ∧
      s.owedAt = some (deadline.ticks : ℚ) ∧
      (s.isPublishReady now = true ↔ deadline.ticks ≤ now.ticks) := by
  obtain ⟨last, hlast⟩ := Option.isSome_iff_exists.mp (h.time id s hlookup)
  have htime := hexact id s hlookup last hlast
  refine ⟨_, nextPublishDeadline_eq hlast, ?_, ?_⟩
  · rw [htime, owedAt, hlast]
    rfl
  · rw [ready_iff_due hlast, ← htime]
    norm_cast

/-- The outcomes of a poll.  The wait is a millisecond or more exactly if every
deadline is at least a millisecond away. -/
theorem Started.poll_cases {session : ServerSession} (h : session.Started)
    (hexact : session.Exact) (now : DateTime) :
    (∃ id s response, session.subscriptions.lookup id = some s ∧
        s.isPublishReady now = true ∧ (s.tryPublish now).2 = some response ∧
        (session.pollPublish now).2 = .response response) ∨
      (session.subscriptions.entries = [] ∧
        (session.pollPublish now).2 =
          .response { status := .ofCode .badNoSubscription }) ∨
      ∃ wait, (session.pollPublish now).2 = .waitFor wait ∧
        0 < wait.milliseconds ∧
        (∀ id s, session.subscriptions.lookup id = some s →
          s.isPublishReady now = false) ∧
        session.EndsByDeadlines now wait ∧
        (1 ≤ wait.milliseconds ↔ session.DueOrMillisecondAway now) := by
  rcases session.pollPublish_cases now with hready | ⟨hnone, hpoll⟩
  · exact .inl hready
  right
  rw [hpoll]
  by_cases hheld : session.subscriptions.entries = []
  · left
    exact ⟨hheld, by simp [pollWait, hheld]⟩
  right
  have hidle : ∀ id s, session.subscriptions.lookup id = some s →
      s.isPublishReady now = false := by
    intro id s hlookup
    exact hnone id (h.place id (by simp [hasSubscription, hlookup])) s hlookup
  obtain ⟨wait, earliest, id, s, hwait, hlookup, hdeadline, hearliest, hle,
    hge⟩ := pollWait_waits h hheld now
  have hlater : ∀ id s deadline, session.subscriptions.lookup id = some s →
      s.nextPublishDeadline = some deadline →
        s.owedAt = some (deadline.ticks : ℚ) ∧ now.ticks < deadline.ticks := by
    intro id s deadline hlookup hdeadline
    obtain ⟨found, hfound, hdue, hiff⟩ := h.deadline hexact hlookup now
    rw [hdeadline, Option.some.injEq] at hfound
    subst hfound
    refine ⟨hdue, not_le.mp fun hpast => ?_⟩
    have hready := hiff.mpr hpast
    rw [hidle id s hlookup] at hready
    exact absurd hready Bool.false_ne_true
  have hpositive : (now.ticks : ℚ) < earliest.ticks := by
    exact_mod_cast (hlater id s earliest hlookup hdeadline).2
  have hremaining : (earliest.sub now).milliseconds =
      ((earliest.ticks : ℚ) - now.ticks) / 10 / 1000 := rfl
  have hpos : 0 < (earliest.sub now).milliseconds := by
    rw [hremaining]
    linarith
  rw [max_eq_right hpos.le] at hle hge
  refine ⟨wait, hwait, ?_, hidle, ?_, ?_⟩
  · exact lt_of_lt_of_le (lt_min one_pos hpos) hge
  · intro other t deadline hother hdue
    have hfirst : (earliest.ticks : ℚ) ≤ deadline.ticks := by
      exact_mod_cast hearliest other t deadline hother hdue
    unfold Duration.ticks
    rw [hremaining] at hle
    linarith
  · constructor
    · intro hone
      right
      intro other t due hother howed
      obtain ⟨deadline, hdue, hat, _⟩ := h.deadline hexact hother now
      rw [hat, Option.some.injEq] at howed
      have hfirst : (earliest.ticks : ℚ) ≤ deadline.ticks := by
        exact_mod_cast hearliest other t deadline hother hdue
      rw [← howed]
      rw [hremaining] at hle
      linarith
    · rintro (⟨other, t, due, hother, howed, hpast⟩ | haway)
      · obtain ⟨deadline, hdue, hat, _⟩ := h.deadline hexact hother now
        rw [hat, Option.some.injEq] at howed
        rw [← howed] at hpast
        have hnot := (hlater other t deadline hother hdue).2
        exact absurd (by exact_mod_cast hpast) (not_le.mpr hnot)
      · have hfar := haway id s _ hlookup
          (hlater id s earliest hlookup hdeadline).1
        have hone : 1 ≤ (earliest.sub now).milliseconds := by
          rw [hremaining]
          linarith
        rwa [min_eq_left hone] at hge

/-- The delay after a positive wait is positive unless the timer's whole
milliseconds round it away, and it is no longer than the wait. -/
theorem delay_spec (injected : Bool) {wait : Duration}
    (hpos : 0 < wait.milliseconds) :
    (0 < (ServerRuntime.delay injected wait).milliseconds ↔
        injected = true ∨ 1 ≤ wait.milliseconds) ∧
      (ServerRuntime.delay injected wait).milliseconds ≤
        wait.milliseconds := by
  unfold ServerRuntime.delay
  rw [if_neg (not_le.mpr hpos)]
  cases injected with
  | true => simp [hpos]
  | false =>
      have hiff := Duration.inMilliseconds_pos_iff hpos.le
      refine ⟨?_, Duration.inMilliseconds_le hpos.le⟩
      rw [← hiff]
      simp

theorem EndsByDeadlines.mono {session : ServerSession} {now : DateTime}
    {shorter longer : Duration} (h : session.EndsByDeadlines now longer)
    (hle : shorter.milliseconds ≤ longer.milliseconds) :
    session.EndsByDeadlines now shorter := by
  intro id s deadline hlookup hdeadline
  have hends := h id s deadline hlookup hdeadline
  unfold Duration.ticks at hends ⊢
  linarith

/-- With exact times a reachable session schedules its publishing as asked,
except for the sleep of a runtime without a scheduler of its own: that sleep is
over at once when the next message is less than a millisecond away. -/
theorem publish_scheduling_iff {session : ServerSession}
    (h : session.Reachable) (hexact : session.Exact) (now : DateTime)
    (injected : Bool) :
    session.SchedulesPublishing now injected ↔
      injected = true ∨ session.DueOrMillisecondAway now := by
  have hreadiness : ∀ id s, session.subscriptions.lookup id = some s →
      ∃ deadline, s.nextPublishDeadline = some deadline ∧
        (s.isPublishReady now = true ↔ deadline.ticks ≤ now.ticks) := by
    intro id s hlookup
    obtain ⟨deadline, hdeadline, _, hiff⟩ :=
      h.started.deadline hexact hlookup now
    exact ⟨deadline, hdeadline, hiff⟩
  rcases h.started.poll_cases hexact now with
    ⟨id, s, response, hlookup, hready, hpublish, hpoll⟩ | ⟨hempty, hpoll⟩ |
      ⟨wait, hpoll, hpos, hidle, hends, hone⟩
  · have hdue : session.DueOrMillisecondAway now := by
      obtain ⟨deadline, _, hdue, hiff⟩ :=
        h.started.deadline hexact hlookup now
      exact .inl ⟨id, s, _, hlookup, hdue, by exact_mod_cast hiff.mp hready⟩
    refine iff_of_true ⟨hreadiness, ?_, ?_, ?_⟩ (.inr hdue)
    · intro answer hanswer
      rw [hpoll] at hanswer
      cases hanswer
      exact .inr ⟨id, s, hlookup, hready, hpublish⟩
    · simp [hpoll]
    · simp [hpoll]
  · have haway : session.DueOrMillisecondAway now := by
      right
      intro id s due hlookup
      rw [← KeyedMap.mem_entries_iff, hempty] at hlookup
      simp at hlookup
    refine iff_of_true ⟨hreadiness, ?_, ?_, ?_⟩ (.inr haway)
    · intro answer hanswer
      rw [hpoll] at hanswer
      cases hanswer
      exact .inl ⟨hempty, rfl⟩
    · simp [hpoll]
    · simp [hpoll]
  · have hdelay := delay_spec injected hpos
    rw [← hone, ← hdelay.1]
    constructor
    · intro hschedules
      exact (hschedules.sleeps wait hpoll).1
    · intro hsleeps
      refine ⟨hreadiness, by simp [hpoll], ?_, ?_⟩
      · intro other hother
        rw [hpoll] at hother
        cases hother
        exact ⟨hpos, hidle, hends⟩
      · intro other hother
        rw [hpoll] at hother
        cases hother
        exact ⟨hsleeps, hends.mono hdelay.2⟩

/-- A session with one subscription, which publishes every 100 ms. -/
def publishingSession : ServerSession :=
  (createSubscriptionWithId
    { address := 0
      sessionId := {}
      serviceContext := {}
      operationLimits := {} }
    1 { parameters := { publishingIntervalMs := 100 } } [] {}).1

theorem publishingSession_reachable : publishingSession.Reachable :=
  (Reachable.new _ _ _ _).created _ _ _ _

theorem publishingSession_lookup {id : SubscriptionId} {s : ServerSubscription}
    (h : publishingSession.subscriptions.lookup id = some s) :
    s = .create 1 { publishingIntervalMs := 100 } {} [] := by
  have hsubscriptions : publishingSession.subscriptions =
      AList.insert 1 (.create 1 { publishingIntervalMs := 100 } {} []) ∅ := rfl
  rw [hsubscriptions, KeyedMap.lookup_insert_eq] at h
  split at h
  · exact (Option.some.inj h).symm
  · simp at h

theorem publishingSession_exact : publishingSession.Exact := by
  intro id s hlookup last hlast
  cases publishingSession_lookup hlookup
  cases hlast
  decide +kernel

/-- Half a millisecond before the first message is due, the timer of whole
milliseconds does not sleep at all. -/
theorem repolls_at_same_instant :
    publishingSession.Reachable ∧ publishingSession.Exact ∧
      ¬publishingSession.SchedulesPublishing ⟨995000⟩ false := by
  refine ⟨publishingSession_reachable, publishingSession_exact, ?_⟩
  intro hschedules
  have hwait : (publishingSession.pollPublish ⟨995000⟩).2.wait =
      some ⟨1 / 2⟩ := by
    decide +kernel
  have hpoll := PublishPollResult.eq_waitFor hwait
  have hsleep := (hschedules.sleeps ⟨1 / 2⟩ hpoll).1
  exact absurd hsleep (by decide +kernel)

theorem publishingSession_sleeps :
    publishingSession.SchedulesPublishing ⟨500000⟩ false ∧
      publishingSession.SchedulesPublishing ⟨995000⟩ true := by
  refine ⟨(publish_scheduling_iff publishingSession_reachable
      publishingSession_exact _ _).mpr (.inr (.inr ?_)),
    (publish_scheduling_iff publishingSession_reachable
      publishingSession_exact _ _).mpr (.inl rfl)⟩
  intro id s due hlookup hdue
  cases publishingSession_lookup hlookup
  cases hdue
  decide +kernel

end ServerSession

end OpcuaStack
