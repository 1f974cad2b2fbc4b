import OpcuaStack.RetentionLog
import OpcuaStack.SubscriptionConservation

/-!
# The retransmission queue

The data messages which a subscription has published form a log, numbered from
one.  A message retires from it when it is acknowledged, and when the bound on
the retained notifications evicts it.  After every run of fewer than 2^32 data
messages the retransmission queue holds the messages which have not retired, and
these are the ones which `Republish` returns.
-/

namespace OpcuaStack

/-- The notifications of some messages. -/
def notificationCount (queue : List NotificationMessage) : ℕ :=
  (queue.map fun message => message.notificationData.length).sum

@[simp] theorem notificationCount_nil : notificationCount [] = 0 := rfl

@[simp] theorem notificationCount_cons (message : NotificationMessage)
    (queue : List NotificationMessage) :
    notificationCount (message :: queue) =
      message.notificationData.length + notificationCount queue := by
  simp [notificationCount]

@[simp] theorem notificationCount_append
    (first second : List NotificationMessage) :
    notificationCount (first ++ second) =
      notificationCount first + notificationCount second := by
  simp [notificationCount]

theorem notificationCount_eraseP {queue : List NotificationMessage}
    {number : UInt32} {message : NotificationMessage}
    (hfound : queue.find? (·.sequenceNumber == number) = some message) :
    notificationCount queue = message.notificationData.length +
      notificationCount (queue.eraseP (·.sequenceNumber == number)) := by
  induction queue with
  | nil => simp at hfound
  | cons first rest ih =>
      cases hmatch : first.sequenceNumber == number with
      | true =>
          simp only [List.find?_cons, hmatch, Option.some.injEq] at hfound
          subst hfound
          simp only [List.eraseP_cons, hmatch, cond_true,
            notificationCount_cons]
      | false =>
          simp only [List.find?_cons, hmatch] at hfound
          simp only [List.eraseP_cons, hmatch, cond_false,
            notificationCount_cons, ih hfound]
          omega

namespace ServerSubscription

/-! ## Eviction -/

theorem evictRetained_cons (oldest : NotificationMessage)
    {queue : List NotificationMessage} (hqueue : queue ≠ []) (retained : ℕ) :
    evictRetained (oldest :: queue) retained =
      if kMaxRetransmitQueueNotifications < retained then
        evictRetained queue (retained - oldest.notificationData.length)
      else (oldest :: queue, retained) := by
  cases queue with
  | nil => exact absurd rfl hqueue
  | cons next rest => rfl

/-- The loop drops the oldest messages, no more of them than it has to, and never
the newest. -/
theorem evictRetained_spec (queue : List NotificationMessage)
    (newest : NotificationMessage)
    (hnewest : newest.notificationData.length ≤
      kMaxRetransmitQueueNotifications) :
    ∃ count ≤ queue.length,
      evictRetained (queue ++ [newest]) (notificationCount (queue ++ [newest])) =
          (queue.drop count ++ [newest],
            notificationCount (queue.drop count ++ [newest])) ∧
        notificationCount (queue.drop count ++ [newest]) ≤
          kMaxRetransmitQueueNotifications ∧
        ∀ fewer < count, kMaxRetransmitQueueNotifications <
          notificationCount (queue.drop fewer ++ [newest]) := by
  induction queue with
  | nil =>
      refine ⟨0, le_rfl, rfl, ?_, ?_⟩
      · simpa using hnewest
      · intro fewer hfewer
        exact absurd hfewer (Nat.not_lt_zero fewer)
  | cons oldest rest ih =>
      have hne : rest ++ [newest] ≠ [] := by simp
      rw [List.cons_append, evictRetained_cons oldest hne]
      split
      next hover =>
        obtain ⟨count, hcount, hevicts, hbound, hleast⟩ := ih
        refine ⟨count + 1, Nat.succ_le_succ hcount, ?_, hbound, ?_⟩
        · rw [notificationCount_cons, Nat.add_sub_cancel_left]
          exact hevicts
        · intro fewer hfewer
          cases fewer with
          | zero => exact hover
          | succ fewer => exact hleast fewer (Nat.lt_of_succ_lt_succ hfewer)
      next hwithin =>
        refine ⟨0, Nat.zero_le _, rfl, Nat.le_of_not_lt hwithin, ?_⟩
        intro fewer hfewer
        exact absurd hfewer (Nat.not_lt_zero fewer)

/-! ## Data messages -/

theorem maxEntries_le (s : ServerSubscription) :
    s.maxEntries ≤ kMaxNotificationsPerPublishResponse ∧
      s.maxEntries ≤ s.pendingNotifications.length := by
  unfold maxEntries
  simp only
  omega

theorem maxEntries_pos {s : ServerSubscription}
    (hpublishable : s.hasPublishableNotifications = true) :
    1 ≤ s.maxEntries := by
  have hpending : s.pendingNotifications ≠ [] := by
    simp only [hasPublishableNotifications, Bool.and_eq_true,
      Bool.not_eq_true', List.isEmpty_eq_false_iff] at hpublishable
    exact hpublishable.2
  have hlength := List.length_pos_of_ne_nil hpending
  unfold maxEntries kMaxNotificationsPerPublishResponse
  simp only
  split
  · omega
  next hlimit =>
    have hpos : 0 < s.parameters.maxNotificationsPerPublish.toNat := by
      rw [Nat.pos_iff_ne_zero]
      intro hzero
      exact hlimit (UInt32.toNat_inj.mp hzero)
    omega

/-- The message which the data branch of `TryPublish` returns and retains. -/
def pendingMessage (s : ServerSubscription) (now : DateTime) :
    NotificationMessage where
  sequenceNumber := s.nextSequenceNumber
  publishTime := now
  notificationData :=
    (s.pendingNotifications.take s.maxEntries).map (·.notification)

theorem pendingMessage_length (s : ServerSubscription) (now : DateTime) :
    (s.pendingMessage now).notificationData.length = s.maxEntries := by
  have hle := s.maxEntries_le.2
  simp only [pendingMessage, List.length_map, List.length_take]
  omega

theorem pendingMessage_length_le (s : ServerSubscription) (now : DateTime) :
    (s.pendingMessage now).notificationData.length ≤
      kMaxNotificationsPerPublishResponse := by
  rw [pendingMessage_length]
  exact s.maxEntries_le.1

theorem publishPending_message (s : ServerSubscription) (now : DateTime) :
    (s.publishPending now).2.notificationMessage = s.pendingMessage now := rfl

theorem publishPending_available (s : ServerSubscription) (now : DateTime) :
    (s.publishPending now).2.availableSequenceNumbers =
      (s.publishPending now).1.availableSequenceNumbers := rfl

theorem publishPending_nextSequenceNumber (s : ServerSubscription)
    (now : DateTime) :
    (s.publishPending now).1.nextSequenceNumber = s.nextSequenceNumber + 1 := rfl

theorem publishPending_evicts (s : ServerSubscription) (now : DateTime) :
    ((s.publishPending now).1.retransmitQueue,
        (s.publishPending now).1.retainedNotifications) =
      evictRetained (s.retransmitQueue ++ [s.pendingMessage now])
        (s.retainedNotifications +
          (s.pendingMessage now).notificationData.length) := rfl

/-! ## The log of data messages -/

/-- The queue is what is left of the published messages, its total is right and
within the bound, and the messages are numbered in order. -/
structure Retains (s : ServerSubscription)
    (published : List NotificationMessage) (retired : List UInt32) : Prop where
  queue : s.retransmitQueue =
    liveEntries NotificationMessage.sequenceNumber retired published
  retired_published : ∀ number ∈ retired,
    number ∈ published.map NotificationMessage.sequenceNumber
  total : s.retainedNotifications = notificationCount s.retransmitQueue
  bounded : s.retainedNotifications ≤ kMaxRetransmitQueueNotifications
  sizes : ∀ message ∈ published, 1 ≤ message.notificationData.length ∧
    message.notificationData.length ≤ kMaxNotificationsPerPublishResponse
  numbers : published.map NotificationMessage.sequenceNumber =
    (List.range published.length).map fun index => UInt32.ofNat (index + 1)
  next : s.nextSequenceNumber = UInt32.ofNat (published.length + 1)

namespace Retains

variable {s : ServerSubscription} {published : List NotificationMessage}
  {retired : List UInt32}

theorem numbers_increase (h : s.Retains published retired)
    (hlength : published.length < 2 ^ 32) :
    (published.map NotificationMessage.sequenceNumber).Pairwise (· < ·) := by
  rw [h.numbers, List.pairwise_map]
  refine List.pairwise_lt_range.imp_of_mem ?_
  intro first second hfirst hsecond hlt
  have hfirst' := List.mem_range.mp hfirst
  have hsecond' := List.mem_range.mp hsecond
  rw [UInt32.lt_iff_toNat_lt, UInt32.toNat_ofNat', UInt32.toNat_ofNat']
  omega

theorem numbers_nodup (h : s.Retains published retired)
    (hlength : published.length < 2 ^ 32) :
    (published.map NotificationMessage.sequenceNumber).Nodup :=
  (h.numbers_increase hlength).imp UInt32.ne_of_lt

theorem available_increase (h : s.Retains published retired)
    (hlength : published.length < 2 ^ 32) :
    s.availableSequenceNumbers.Pairwise (· < ·) := by
  unfold availableSequenceNumbers
  rw [h.queue]
  exact (h.numbers_increase hlength).sublist
    ((liveEntries_sublist _ _ _).map _)

theorem queue_nodup (h : s.Retains published retired)
    (hlength : published.length < 2 ^ 32) :
    (s.retransmitQueue.map NotificationMessage.sequenceNumber).Nodup :=
  (h.available_increase hlength).imp UInt32.ne_of_lt

/-- The number of the next message is new, as long as the counter has not gone
round more than once. -/
theorem next_notMem (h : s.Retains published retired)
    (hlength : published.length < 2 ^ 32) :
    s.nextSequenceNumber ∉
      published.map NotificationMessage.sequenceNumber := by
  rw [h.numbers, h.next]
  intro hmem
  obtain ⟨index, hindex, heq⟩ := List.mem_map.mp hmem
  have hindex' := List.mem_range.mp hindex
  have htoNat := congrArg UInt32.toNat heq
  rw [UInt32.toNat_ofNat', UInt32.toNat_ofNat'] at htoNat
  omega

theorem of_eq {t : ServerSubscription} (h : s.Retains published retired)
    (hqueue : t.retransmitQueue = s.retransmitQueue)
    (htotal : t.retainedNotifications = s.retainedNotifications)
    (hnext : t.nextSequenceNumber = s.nextSequenceNumber) :
    t.Retains published retired where
  queue := hqueue.trans h.queue
  retired_published := h.retired_published
  total := by rw [htotal, hqueue, h.total]
  bounded := by rw [htotal]; exact h.bounded
  sizes := h.sizes
  numbers := h.numbers
  next := hnext.trans h.next

theorem edits {t : ServerSubscription} (h : s.Retains published retired)
    (hedits : Edits s t) : t.Retains published retired :=
  h.of_eq hedits.retransmitQueue hedits.retainedNotifications
    hedits.nextSequenceNumber

theorem congr (h : s.Retains published retired) (retired' : List UInt32)
    (hmem : ∀ number, number ∈ retired ↔ number ∈ retired') :
    s.Retains published retired' where
  queue := h.queue.trans (liveEntries_congr _ _ hmem)
  retired_published number hnumber :=
    h.retired_published number ((hmem number).mpr hnumber)
  total := h.total
  bounded := h.bounded
  sizes := h.sizes
  numbers := h.numbers
  next := h.next

/-- Publishing a data message appends it to the log, and retires as many of the
oldest messages as the bound demands. -/
theorem publishPending (h : s.Retains published retired)
    (hlength : published.length < 2 ^ 32)
    (hpublishable : s.hasPublishableNotifications = true) (now : DateTime) :
    ∃ count ≤ s.retransmitQueue.length,
      (s.publishPending now).1.retransmitQueue =
          s.retransmitQueue.drop count ++ [s.pendingMessage now] ∧
        (∀ fewer < count, kMaxRetransmitQueueNotifications <
          notificationCount
            (s.retransmitQueue.drop fewer ++ [s.pendingMessage now])) ∧
        (s.publishPending now).1.Retains (published ++ [s.pendingMessage now])
          (retired ++ (s.retransmitQueue.take count).map
            NotificationMessage.sequenceNumber) := by
  have hsize := s.pendingMessage_length_le now
  have hevicts := s.publishPending_evicts now
  have htotal : s.retainedNotifications +
      (s.pendingMessage now).notificationData.length =
        notificationCount (s.retransmitQueue ++ [s.pendingMessage now]) := by
    rw [h.total, notificationCount_append, notificationCount_cons,
      notificationCount_nil, Nat.add_zero]
  obtain ⟨count, hcount, hspec, hbound, hleast⟩ :=
    evictRetained_spec s.retransmitQueue (s.pendingMessage now)
      (hsize.trans (by decide))
  rw [htotal, hspec, Prod.mk.injEq] at hevicts
  obtain ⟨hqueue, hretained⟩ := hevicts
  have hfresh : (s.pendingMessage now).sequenceNumber ∉
      published.map NotificationMessage.sequenceNumber := h.next_notMem hlength
  have htaken : ∀ number ∈ (s.retransmitQueue.take count).map
      NotificationMessage.sequenceNumber,
      number ∈ published.map NotificationMessage.sequenceNumber := by
    intro number hnumber
    have hsublist : ((s.retransmitQueue.take count).map
        NotificationMessage.sequenceNumber).Sublist
          (published.map NotificationMessage.sequenceNumber) := by
      refine ((List.take_sublist _ _).trans ?_).map _
      rw [h.queue]
      exact liveEntries_sublist _ _ _
    exact hsublist.subset hnumber
  refine ⟨count, hcount, hqueue, hleast, ?_⟩
  constructor
  · -- the messages taken from the front are the ones which retire
    rw [hqueue, liveEntries_append]
    · rw [liveEntries_retire, ← h.queue,
        filter_notMem_take _ (h.queue_nodup hlength)]
    · intro hmem
      rcases List.mem_append.mp hmem with hold | hnew
      · exact hfresh (h.retired_published _ hold)
      · exact hfresh (htaken _ hnew)
  · intro number hnumber
    rw [List.map_append]
    apply List.mem_append_left
    rcases List.mem_append.mp hnumber with hold | hnew
    · exact h.retired_published number hold
    · exact htaken number hnew
  · rw [hretained, hqueue]
  · rw [hretained]
    exact hbound
  · intro message hmessage
    rcases List.mem_append.mp hmessage with hold | hnew
    · exact h.sizes message hold
    · rw [List.mem_singleton.mp hnew]
      refine ⟨?_, hsize⟩
      rw [pendingMessage_length]
      exact maxEntries_pos hpublishable
  · rw [List.map_append, h.numbers, List.length_append, List.length_singleton,
      List.range_succ, List.map_append, List.map_singleton, List.map_singleton,
      ← h.next]
    rfl
  · rw [publishPending_nextSequenceNumber, h.next, List.length_append,
      List.length_singleton, UInt32.ofNat_add (published.length + 1) 1]
    rfl

/-- Acknowledging a retained message retires it; acknowledging any other number
changes nothing. -/
theorem acknowledgeOne (h : s.Retains published retired)
    (hlength : published.length < 2 ^ 32) (number : UInt32) :
    (s.acknowledgeOne number).1.Retains published
      (retired ++ if (s.acknowledgeOne number).2 = .good then [number]
        else []) := by
  unfold ServerSubscription.acknowledgeOne
  split
  · have hunknown : StatusCode.badSequenceNumberUnknown ≠ .good := by decide
    simpa [hunknown] using h
  next message hfound =>
    have hnumber : message.sequenceNumber = number := by
      have hmatch := List.find?_some hfound
      simpa using hmatch
    have hmessage := List.mem_of_find?_eq_some hfound
    constructor
    · simp only [if_pos]
      rw [eraseP_key_eq_filter NotificationMessage.sequenceNumber
        (h.queue_nodup hlength), h.queue, ← liveEntries_retire]
    · intro other hother
      simp only [if_pos, List.mem_append, List.mem_singleton] at hother
      rcases hother with hold | rfl
      · exact h.retired_published other hold
      · have hpublished : message ∈ published := by
          rw [h.queue] at hmessage
          exact (liveEntries_sublist _ _ _).subset hmessage
        exact hnumber ▸ List.mem_map_of_mem hpublished
    · simp only
      rw [h.total, notificationCount_eraseP hfound]
      omega
    · exact (Nat.sub_le _ _).trans h.bounded
    · exact h.sizes
    · exact h.numbers
    · exact h.next

theorem republish (h : s.Retains published retired)
    (hlength : published.length < 2 ^ 32) (number : UInt32) :
    (∀ message, s.republish number =
          { status := .good, notificationMessage := message } ↔
        message ∈ published ∧ message.sequenceNumber = number ∧
          number ∉ retired) ∧
      ((s.republish number).status = .good ↔
        number ∈ s.availableSequenceNumbers) ∧
      ((s.republish number).status ≠ .good →
        s.republish number = { status := .ofCode .badMessageNotAvailable }) := by
  have hfind := find?_liveEntries NotificationMessage.sequenceNumber
    (h.numbers_nodup hlength) retired number
  rw [← h.queue] at hfind
  have hbad : Status.ofCode .badMessageNotAvailable ≠ .good := by decide
  unfold ServerSubscription.republish
  cases hfound : s.retransmitQueue.find? (·.sequenceNumber == number) with
  | none =>
      refine ⟨fun message => ?_, ?_, fun _ => rfl⟩
      · rw [← hfind message, hfound]
        simp [hbad]
      · have hnone := List.find?_eq_none.mp hfound
        simp only [hbad, availableSequenceNumbers, List.mem_map, false_iff,
          not_exists, not_and]
        intro message hmessage
        simpa using hnone message hmessage
  | some found =>
      refine ⟨fun message => ?_, ?_, fun hstatus => absurd rfl hstatus⟩
      · rw [← hfind message, hfound]
        simp
      · have hmem := List.mem_of_find?_eq_some hfound
        have hnumber : found.sequenceNumber = number := by
          have hmatch := List.find?_some hfound
          simpa using hmatch
        simp only [true_iff]
        exact hnumber ▸ List.mem_map_of_mem hmem

end Retains

/-! ## What a step retires -/

/-- The numbers which `Acknowledge` answers with Good. -/
def acknowledgedBy (s : ServerSubscription) (sequenceNumbers : List UInt32) :
    List UInt32 :=
  ((sequenceNumbers.zip (s.acknowledge sequenceNumbers).2).filter
    fun answer => answer.2 == .good).map Prod.fst

/-- The numbers which are available before `TryPublish` and not after it. -/
def evictedBy (s : ServerSubscription) (now : DateTime) : List UInt32 :=
  s.availableSequenceNumbers.filter fun number =>
    decide (number ∉ (s.tryPublish now).1.availableSequenceNumbers)

theorem acknowledgedBy_cons (s : ServerSubscription) (number : UInt32)
    (rest : List UInt32) :
    s.acknowledgedBy (number :: rest) =
      (if (s.acknowledgeOne number).2 = .good then [number] else []) ++
        (s.acknowledgeOne number).1.acknowledgedBy rest := by
  by_cases hgood : (s.acknowledgeOne number).2 = .good <;>
    simp [acknowledgedBy, acknowledge, collectResults, hgood]

theorem Retains.acknowledge {s : ServerSubscription}
    {published : List NotificationMessage} {retired : List UInt32}
    (h : s.Retains published retired) (hlength : published.length < 2 ^ 32)
    (sequenceNumbers : List UInt32) :
    (s.acknowledge sequenceNumbers).1.Retains published
      (retired ++ s.acknowledgedBy sequenceNumbers) := by
  induction sequenceNumbers generalizing s retired with
  | nil => simpa [ServerSubscription.acknowledge, collectResults, acknowledgedBy]
  | cons number rest ih =>
      rw [acknowledgedBy_cons, ← List.append_assoc]
      exact ih (h.acknowledgeOne hlength number)

/-- The answer to a number of an Acknowledge: `Good` if a message of this number is
retained and the number was not acknowledged before in the same request. -/
def acknowledgeStatus (s : ServerSubscription) (earlier : List UInt32)
    (number : UInt32) : StatusCode :=
  if number ∈ s.availableSequenceNumbers ∧ number ∉ earlier then .good
  else .badSequenceNumberUnknown

theorem acknowledgeOne_queue {s : ServerSubscription}
    (hnodup : s.availableSequenceNumbers.Nodup) (number : UInt32) :
    (s.acknowledgeOne number).1.retransmitQueue =
      s.retransmitQueue.filter fun message => message.sequenceNumber ∉ [number] := by
  unfold acknowledgeOne
  split
  next hnone =>
    refine (List.filter_eq_self.mpr fun message hmessage => ?_).symm
    simpa using List.find?_eq_none.mp hnone message hmessage
  next => exact eraseP_key_eq_filter NotificationMessage.sequenceNumber hnodup number

theorem acknowledgeOne_status (s : ServerSubscription) (number : UInt32) :
    (s.acknowledgeOne number).2 = s.acknowledgeStatus [] number := by
  unfold acknowledgeOne acknowledgeStatus
  split
  next hnone =>
    rw [if_neg]
    rintro ⟨hmem, -⟩
    obtain ⟨message, hmessage, hnumber⟩ := List.mem_map.mp hmem
    simpa [hnumber] using List.find?_eq_none.mp hnone message hmessage
  next message hfound =>
    have hnumber : message.sequenceNumber = number := by
      simpa using List.find?_some hfound
    rw [if_pos]
    exact ⟨hnumber ▸ List.mem_map_of_mem (List.mem_of_find?_eq_some hfound),
      List.not_mem_nil⟩

theorem acknowledge_queue {s : ServerSubscription}
    (hnodup : s.availableSequenceNumbers.Nodup) (numbers : List UInt32) :
    (s.acknowledge numbers).1.retransmitQueue =
      s.retransmitQueue.filter fun message => message.sequenceNumber ∉ numbers := by
  induction numbers generalizing s with
  | nil => simp [acknowledge, collectResults]
  | cons number rest ih =>
      have hqueue := acknowledgeOne_queue hnodup number
      have hnodup' : (s.acknowledgeOne number).1.availableSequenceNumbers.Nodup := by
        rw [availableSequenceNumbers, hqueue]
        exact hnodup.sublist (List.filter_sublist.map _)
      refine (ih hnodup').trans ?_
      rw [hqueue, List.filter_filter]
      refine List.filter_congr fun message _ => ?_
      simp [not_or, Bool.and_comm]

theorem acknowledge_results {s : ServerSubscription}
    (hnodup : s.availableSequenceNumbers.Nodup) (before : List UInt32) (number : UInt32)
    (after : List UInt32) :
    (s.acknowledge (before ++ number :: after)).2[before.length]? =
      some (s.acknowledgeStatus before number) := by
  induction before generalizing s with
  | nil => exact congrArg some (acknowledgeOne_status s number)
  | cons first rest ih =>
      have hqueue := acknowledgeOne_queue hnodup first
      have hnodup' : (s.acknowledgeOne first).1.availableSequenceNumbers.Nodup := by
        rw [availableSequenceNumbers, hqueue]
        exact hnodup.sublist (List.filter_sublist.map _)
      refine (ih hnodup').trans (congrArg some ?_)
      have hmem : number ∈ (s.acknowledgeOne first).1.availableSequenceNumbers ↔
          number ∈ s.availableSequenceNumbers ∧ number ≠ first := by
        rw [availableSequenceNumbers, hqueue]
        simp only [availableSequenceNumbers, List.mem_map, List.mem_filter,
          List.mem_singleton, decide_eq_true_eq]
        constructor
        · rintro ⟨message, ⟨hmessage, hother⟩, rfl⟩
          exact ⟨⟨message, hmessage, rfl⟩, hother⟩
        · rintro ⟨⟨message, hmessage, rfl⟩, hother⟩
          exact ⟨message, ⟨hmessage, hother⟩, rfl⟩
      simp only [acknowledgeStatus, hmem, List.mem_cons, not_or, and_assoc]

theorem Retains.primePublishCycle {s : ServerSubscription}
    {published : List NotificationMessage} {retired : List UInt32}
    (h : s.Retains published retired) (now : DateTime) :
    (s.primePublishCycle now).Retains published retired := by
  rw [primePublishCycle_eq]
  exact h.of_eq rfl rfl rfl

/-- A message just published is kept at the end of the queue, behind the newer
part of what was there. -/
structure PublishesMessage (s : ServerSubscription) (now : DateTime)
    (response : PublishResponse) (count : ℕ) : Prop where
  queue : (s.tryPublish now).1.retransmitQueue =
    s.retransmitQueue.drop count ++ [response.notificationMessage]
  count_le : count ≤ s.retransmitQueue.length
  least : ∀ fewer < count, kMaxRetransmitQueueNotifications <
    notificationCount
      (s.retransmitQueue.drop fewer ++ [response.notificationMessage])
  evicted : s.evictedBy now =
    (s.retransmitQueue.take count).map NotificationMessage.sequenceNumber

theorem evictedBy_of_queue_eq {s : ServerSubscription} {now : DateTime}
    (hqueue : (s.tryPublish now).1.retransmitQueue = s.retransmitQueue) :
    s.evictedBy now = [] := by
  unfold evictedBy availableSequenceNumbers
  rw [hqueue, List.filter_eq_nil_iff]
  intro number hnumber
  simpa using hnumber

/-- The message of a response, if it carries data. -/
def dataMessage (response : Option PublishResponse) :
    List NotificationMessage :=
  (response.map (·.notificationMessage)).toList.filter
    fun message => !message.notificationData.isEmpty

theorem dataMessage_publishPending {s : ServerSubscription}
    (hpublishable : s.hasPublishableNotifications = true) (now : DateTime) :
    dataMessage (some (s.publishPending now).2) = [s.pendingMessage now] := by
  have hpos : 1 ≤ (s.pendingMessage now).notificationData.length := by
    rw [pendingMessage_length]
    exact maxEntries_pos hpublishable
  have hne := List.ne_nil_of_length_pos hpos
  simp [dataMessage, publishPending_message, hne]

theorem Retains.tryPublish {s : ServerSubscription}
    {published : List NotificationMessage} {retired : List UInt32}
    (h : s.Retains published retired) (hlength : published.length < 2 ^ 32)
    (now : DateTime) :
    (s.tryPublish now).1.Retains
        (published ++ dataMessage (s.tryPublish now).2)
        (retired ++ s.evictedBy now) ∧
      ∀ response, (s.tryPublish now).2 = some response →
        response.availableSequenceNumbers =
            (s.tryPublish now).1.availableSequenceNumbers ∧
          (response.notificationMessage.notificationData = [] ∧
              (s.tryPublish now).1.retransmitQueue = s.retransmitQueue ∨
            ∃ count, s.PublishesMessage now response count) := by
  have hprimed := h.primePublishCycle now
  have hprimedQueue :
      (s.primePublishCycle now).retransmitQueue = s.retransmitQueue := by
    rw [primePublishCycle_eq]
  have hcases := s.tryPublish_publishes now
  generalize hresult : s.tryPublish now = result at hcases
  cases hcases with
  | waits hready =>
      have hevicted : s.evictedBy now = [] :=
        evictedBy_of_queue_eq (by rw [hresult]; exact hprimedQueue)
      rw [hevicted]
      refine ⟨by simpa [dataMessage] using hprimed, ?_⟩
      simp
  | keepAlive hready hnothing =>
      have hevicted : s.evictedBy now = [] :=
        evictedBy_of_queue_eq (by rw [hresult]; exact hprimedQueue)
      have hdata : dataMessage
          (some ((s.primePublishCycle now).publishKeepAlive now).2) = [] := rfl
      rw [hevicted, hdata, List.append_nil, List.append_nil]
      refine ⟨hprimed.of_eq rfl rfl rfl, ?_⟩
      rintro response heq
      rw [Option.some.injEq] at heq
      subst heq
      exact ⟨rfl, .inl ⟨rfl, hprimedQueue⟩⟩
  | data hready hpublishable =>
      obtain ⟨count, hcount, hqueue, hleast, hretains⟩ :=
        hprimed.publishPending hlength hpublishable now
      rw [hprimedQueue] at hcount hqueue hleast hretains
      have hevicted : s.evictedBy now = (s.retransmitQueue.take count).map
          NotificationMessage.sequenceNumber := by
        have hfresh : ((s.primePublishCycle now).pendingMessage
            now).sequenceNumber ∉
              s.retransmitQueue.map NotificationMessage.sequenceNumber := by
          intro hmem
          rw [h.queue] at hmem
          exact hprimed.next_notMem hlength
            (((liveEntries_sublist _ _ _).map _).subset hmem)
        unfold evictedBy availableSequenceNumbers
        rw [hresult]
        simp only [hqueue, List.map_append, List.map_singleton, List.map_drop,
          List.map_take]
        exact filter_notMem_drop_append (h.queue_nodup hlength) hfresh count
      have hdata := dataMessage_publishPending hpublishable now
      refine ⟨?_, ?_⟩
      · rw [hdata, hevicted]
        exact hretains
      · rintro response heq
        rw [Option.some.injEq] at heq
        subst heq
        refine ⟨publishPending_available _ now, .inr ⟨count, ?_⟩⟩
        constructor
        · rw [hresult]
          exact hqueue
        · exact hcount
        · exact hleast
        · exact hevicted

end ServerSubscription

/-! ## Runs -/

/-- A run, with the numbers acknowledged and the numbers evicted in it. -/
structure RetransmissionRun where
  run : SubscriptionRun
  acknowledged : List UInt32 := []
  evicted : List UInt32 := []

namespace RetransmissionRun

def step (r : RetransmissionRun) (event : SubscriptionEvent) :
    RetransmissionRun where
  run := r.run.step event
  acknowledged := r.acknowledged ++
    match event with
    | .acknowledge sequenceNumbers =>
        r.run.subscription.acknowledgedBy sequenceNumbers
    | _ => []
  evicted := r.evicted ++
    match event with
    | .tryPublish now => r.run.subscription.evictedBy now
    | _ => []

/-- The data messages published so far. -/
def published (r : RetransmissionRun) : List NotificationMessage :=
  r.run.messages.filter fun message => !message.notificationData.isEmpty

def start (subscriptionId : SubscriptionId) (parameters : SubscriptionParameters)
    (publishCycleStartTime : DateTime) (traceParent : ByteText) :
    RetransmissionRun where
  run := .start subscriptionId parameters publishCycleStartTime traceParent

def Retains (r : RetransmissionRun) : Prop :=
  r.run.subscription.Retains r.published (r.acknowledged ++ r.evicted)

theorem published_step (r : RetransmissionRun) (event : SubscriptionEvent) :
    (r.step event).published = r.published ++
      match event with
      | .tryPublish now => ServerSubscription.dataMessage
          (r.run.subscription.tryPublish now).2
      | _ => [] := by
  cases event <;>
    simp [published, step, SubscriptionRun.step, ServerSubscription.dataMessage]

theorem published_length_le_step (r : RetransmissionRun)
    (event : SubscriptionEvent) :
    r.published.length ≤ (r.step event).published.length := by
  rw [published_step, List.length_append]
  exact Nat.le_add_right _ _

theorem start_retains (subscriptionId : SubscriptionId)
    (parameters : SubscriptionParameters) (publishCycleStartTime : DateTime)
    (traceParent : ByteText) :
    (start subscriptionId parameters publishCycleStartTime
      traceParent).Retains := by
  constructor <;>
    simp [start, published, SubscriptionRun.start, ServerSubscription.create,
      liveEntries]

theorem Retains.step {r : RetransmissionRun} (h : r.Retains)
    (hlength : r.published.length < 2 ^ 32) (event : SubscriptionEvent) :
    (r.step event).Retains := by
  have hedits : ∀ {t : ServerSubscription},
      ServerSubscription.Edits r.run.subscription t →
        t.Retains (r.published ++ []) ((r.acknowledged ++ []) ++
          (r.evicted ++ [])) := by
    intro t hedits
    simpa using ServerSubscription.Retains.edits h hedits
  unfold Retains
  rw [published_step]
  cases event with
  | backing event => exact hedits (r.run.subscription.onBackingEvent_edits _).edits
  | tryPublish now =>
      have hpublish := (ServerSubscription.Retains.tryPublish h hlength now).1
      simpa [RetransmissionRun.step, SubscriptionRun.step] using hpublish
  | modify request => exact hedits (r.run.subscription.modify_edits _)
  | setPublishingEnabled publishingEnabled =>
      exact hedits (r.run.subscription.setPublishingEnabled_edits _)
  | createMonitoredItems request envs =>
      exact hedits (r.run.subscription.createMonitoredItems_edits _ _).edits
  | modifyMonitoredItems request envs =>
      exact hedits (r.run.subscription.modifyMonitoredItems_edits _ _).edits
  | deleteMonitoredItems request =>
      rcases r.run.subscription.deleteMonitoredItems_cases request with
        hsame | ⟨_, t, ht, heq⟩
      · simpa [RetransmissionRun.step, SubscriptionRun.step, hsame]
          using hedits (.refl _)
      · have hremoved := (hedits ht.edits).of_eq
          (t := t.removePending request.monitoredItemIds) rfl rfl rfl
        simpa [RetransmissionRun.step, SubscriptionRun.step, heq] using hremoved
  | setMonitoringMode request =>
      exact hedits (r.run.subscription.setMonitoringMode_edits _).edits
  | acknowledge sequenceNumbers =>
      have hacknowledged :=
        ServerSubscription.Retains.acknowledge h hlength sequenceNumbers
      have hcongr := hacknowledged.congr ((r.acknowledged ++
        r.run.subscription.acknowledgedBy sequenceNumbers) ++ r.evicted)
        (fun number => by simp only [List.mem_append]; tauto)
      simpa [RetransmissionRun.step, SubscriptionRun.step] using hcongr
  | iterateFirst monitoredItemId =>
      exact hedits (.single (.item (.binding _ _ _ _ _ _ _)))

/-- After every run of fewer than 2^32 data messages, the queue retains the
messages which were published, and neither acknowledged nor evicted. -/
theorem retains_run (subscriptionId : SubscriptionId)
    (parameters : SubscriptionParameters) (publishCycleStartTime : DateTime)
    (traceParent : ByteText) (events : List SubscriptionEvent) :
    let r := runFrom step (start subscriptionId parameters
      publishCycleStartTime traceParent) events
    r.published.length < 2 ^ 32 → r.Retains := by
  refine runFrom_invariant_of_step
    (P := fun r : RetransmissionRun => r.published.length < 2 ^ 32 → r.Retains)
    (fun r event h hlength => ?_)
    (fun _ => start_retains subscriptionId parameters publishCycleStartTime
      traceParent) events
  have hbefore : r.published.length < 2 ^ 32 :=
    (r.published_length_le_step event).trans_lt hlength
  exact (h hbefore).step hbefore event

/-- In every run of fewer than 2^32 data messages: the total of retained
notifications is exact and within its bound, the retained messages are of
bounded size and numbered in order, `Republish` returns exactly the published
messages which were neither acknowledged nor evicted, the numbers reported as
available are the ones it accepts, `Acknowledge` answers `Good` exactly for those which
it was not given before in the request and removes their messages only, and publishing
evicts only the oldest messages, no more than needed and never the one just published. -/
theorem retransmission_queue_exact (subscriptionId : SubscriptionId)
    (parameters : SubscriptionParameters) (publishCycleStartTime : DateTime)
    (traceParent : ByteText) (events : List SubscriptionEvent) :
    let r := runFrom step (start subscriptionId parameters
      publishCycleStartTime traceParent) events
    let s := r.run.subscription
    r.published.length < 2 ^ 32 →
      s.retainedNotifications = notificationCount s.retransmitQueue ∧
      s.retainedNotifications ≤ kMaxRetransmitQueueNotifications ∧
      (∀ message ∈ s.retransmitQueue, 1 ≤ message.notificationData.length ∧
        message.notificationData.length ≤
          kMaxNotificationsPerPublishResponse) ∧
      s.availableSequenceNumbers.Pairwise (· < ·) ∧
      (∀ number,
        (∀ message, s.republish number =
              { status := .good, notificationMessage := message } ↔
            message ∈ r.published ∧ message.sequenceNumber = number ∧
              number ∉ r.acknowledged ∧ number ∉ r.evicted) ∧
          ((s.republish number).status = .good ↔
            number ∈ s.availableSequenceNumbers) ∧
          ((s.republish number).status ≠ .good →
            s.republish number =
              { status := .ofCode .badMessageNotAvailable })) ∧
      (∀ numbers,
        (s.acknowledge numbers).1.retransmitQueue =
            s.retransmitQueue.filter (fun message => message.sequenceNumber ∉ numbers) ∧
          ∀ before number after, numbers = before ++ number :: after →
            (s.acknowledge numbers).2[before.length]? =
              some (s.acknowledgeStatus before number)) ∧
      ∀ now response, (s.tryPublish now).2 = some response →
        response.availableSequenceNumbers =
            (s.tryPublish now).1.availableSequenceNumbers ∧
          (response.notificationMessage.notificationData = [] ∧
              (s.tryPublish now).1.retransmitQueue = s.retransmitQueue ∨
            ∃ count, s.PublishesMessage now response count) := by
  intro r s hlength
  have h : s.Retains r.published (r.acknowledged ++ r.evicted) :=
    retains_run subscriptionId parameters publishCycleStartTime traceParent
      events hlength
  have hnodup : s.availableSequenceNumbers.Nodup := h.queue_nodup hlength
  refine ⟨h.total, h.bounded, ?_, h.available_increase hlength, ?_,
    fun numbers => ⟨ServerSubscription.acknowledge_queue hnodup numbers, ?_⟩,
    fun now => (h.tryPublish hlength now).2⟩
  · intro message hmessage
    rw [h.queue] at hmessage
    exact h.sizes message ((liveEntries_sublist _ _ _).subset hmessage)
  · intro number
    obtain ⟨hreturns, havailable, hmissing⟩ := h.republish hlength number
    refine ⟨fun message => ?_, havailable, hmissing⟩
    rw [hreturns message, List.mem_append, not_or]
  · rintro before number after rfl
    exact ServerSubscription.acknowledge_results hnodup before number after

/-- One item is created, whose bind is answered at once. -/
def monitorsItem : SubscriptionEvent :=
  .createMonitoredItems { subscriptionId := 1, itemsToCreate := [{}] }
    fun _ => { immediateResults := some [{ monitoredItemId := 1 }] }

/-- The first item changes. -/
def itemChanges : SubscriptionEvent :=
  .backing (.notifications [.dataChange ⟨1, .ofStatus .good {}⟩])

/-- A publish at the given millisecond. -/
def publishesAt (millisecond : ℕ) : SubscriptionEvent :=
  .tryPublish ⟨millisecond * 10000⟩

/-- Three messages, the second of which is acknowledged, and once more when it is gone. -/
def retainingEvents : List SubscriptionEvent :=
  [monitorsItem, itemChanges, publishesAt 1000, itemChanges, publishesAt 2000, itemChanges,
    publishesAt 3000, .acknowledge [2, 2]]

/-- Two messages are left, and an Acknowledge of the first and of one which is gone takes
away the first. -/
theorem first_message_available :
    let r := runFrom step (start 1 {} {} []) retainingEvents
    r.published.length = 3 ∧ r.acknowledged = [2] ∧
      r.run.subscription.availableSequenceNumbers = [1, 3] ∧
      ((r.run.subscription.republish 1).status = .good ↔
        1 ∈ r.run.subscription.availableSequenceNumbers) ∧
      (r.run.subscription.acknowledge [2, 1]).1.retransmitQueue =
        r.run.subscription.retransmitQueue.filter
          (fun message => message.sequenceNumber ∉ [2, 1]) ∧
      (r.run.subscription.acknowledge [2, 1]).2[1]? =
        some (r.run.subscription.acknowledgeStatus [2] 1) := by
  have hexact := retransmission_queue_exact 1 {} {} [] retainingEvents (by decide +kernel)
  have hacknowledge := hexact.2.2.2.2.2.1 [2, 1]
  exact ⟨by decide +kernel, by decide +kernel, by decide +kernel,
    (hexact.2.2.2.2.1 1).2.1, hacknowledge.1, hacknowledge.2 [2] 1 [] rfl⟩

end RetransmissionRun

end OpcuaStack
