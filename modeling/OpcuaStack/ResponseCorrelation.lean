import OpcuaStack.CallBook
import OpcuaStack.ReceiveRuns

/-!
# Correlation of responses

What the two maps of the client channel hold is a book of calls and arrivals.
Every step of a run is one of the three steps of the book or none, so that the
book stays sound.  It fails to say where a response went only when a renewal has
taken the response off the transport.
-/

namespace OpcuaStack

namespace ChannelRun

variable {ρ α : Type}

/-- Receives and responses are matched by request id and handle, once each, and
no response which has come off the transport is lost. -/
structure Correlated (r : ChannelRun ρ α) : Prop where
  -- A body comes from the response with the id and handle of the call.
  returns : ∀ requestId body, (requestId, .response body) ∈ r.returned →
    ∃ requestHandle, (requestId, requestHandle) ∈ r.calls ∧
      { requestId, requestHandle, body } ∈ r.link.arrived
  -- No two responses have one id, and no two receives return for one.
  oneResponse : (r.link.arrived.map ClientResponseFrame.requestId).Nodup
  oneReturn : (r.returned.map Prod.fst).Nodup
  -- A response is there for the call which is still to come.
  kept : ∀ response ∈ r.link.arrived,
    response.requestId ∉ r.calls.map Prod.fst →
      r.link.returns (.receive response.requestId response.requestHandle) =
        some (response.requestId, .response response.body)
  -- A call has the response which is there, unless its read had failed.
  received : ∀ response ∈ r.link.arrived,
    (response.requestId, response.requestHandle) ∈ r.calls →
      (response.requestId, .response response.body) ∈ r.completed ∨
        ∃ status ∈ r.link.record.failedReads,
          (response.requestId, .failed status) ∈ r.completed
  -- A call which has not completed is pending, and a read loop runs for it.
  pending : ∀ requestId requestHandle, (requestId, requestHandle) ∈ r.calls →
    (∃ outcome, (requestId, outcome) ∈ r.completed) ∨
      r.link.channel.pendingResponses.lookup requestId =
          some { requestHandle, receivers := 1 } ∧
        r.link.channel.readLoops.length = 1
  -- A failed read completes every pending receive with its error, and leaves no
  -- read loop, so that the next receive to wait starts one.
  failure : ∀ index loop status,
    r.link.channel.readLoops[index]? = some loop →
      let ch := (r.link.failRead index status).channel
      (∀ requestId pending,
          r.link.channel.pendingResponses.lookup requestId = some pending →
            (requestId, .failed status) ∈ ch.readyReceives) ∧
        ch.pendingResponses = ∅ ∧ ch.readLoops = [] ∧
        ch.readLoopRunning = false ∧
        ∀ requestId requestHandle,
          ch.bufferedResponses.lookup requestId = none →
            (ch.receive requestId requestHandle).readLoops = [.spawned]

end ChannelRun

/-! ## The book of a run -/

/-- What a `Receive` makes of the way its call was settled. -/
def ReceiveOutcome.ofResult {α : Type} : Except Status α → ReceiveOutcome α
  | .ok body => .response body
  | .error status => .failed status

/-- The side of a run which its receives see. -/
structure ReceiveSide (α : Type) where
  calls : List (UInt32 × UInt32)
  completed : List (UInt32 × ReceiveOutcome α)
  pending : KeyedMap UInt32 PendingResponse
  buffered : KeyedMap UInt32 (BufferedResponse α)
  delivered : List (ClientResponseFrame α)
  failedReads : List Status

/-- The calls and arrivals of a channel, by request id. -/
abbrev ResponseBook (α : Type) := CallBook UInt32 UInt32 Status α

namespace ReceiveSide

variable {α : Type}

/-- The lists of the side hold what the book holds, the pending responses are the
calls which wait, and the buffered ones hold the arrivals for calls still to
come. -/
structure Represents (s : ReceiveSide α) (book : ResponseBook α) : Prop where
  calls : ∀ requestId requestHandle,
    (requestId, requestHandle) ∈ s.calls ↔
      book.calls requestId = some requestHandle
  arrivals : ∀ requestId requestHandle body,
    { requestId, requestHandle, body } ∈ s.delivered ↔
      book.arrivals requestId = some (requestHandle, body)
  completed : ∀ requestId outcome,
    (requestId, outcome) ∈ s.completed ↔
      ∃ result, book.outcomes requestId = some result ∧
        outcome = ReceiveOutcome.ofResult result
  once : (s.completed.map Prod.fst).Nodup
  pending : ∀ requestId, s.pending.lookup requestId =
    (book.waiting requestId).map fun requestHandle =>
      { requestHandle, receivers := 1 }
  kept : ∀ requestId requestHandle body, book.calls requestId = none →
    book.arrivals requestId = some (requestHandle, body) →
      s.buffered.lookup requestId = some { requestHandle, body }
  buffered : ∀ requestId response,
    s.buffered.lookup requestId = some response →
      book.arrivals requestId = some (response.requestHandle, response.body)
  failures : book.failures = s.failedReads

variable {s : ReceiveSide α} {book : ResponseBook α}

theorem empty_represents :
    ({ calls := [], completed := [], pending := ∅, buffered := ∅,
       delivered := [], failedReads := [] } : ReceiveSide α).Represents .empty where
  calls requestId requestHandle := by simp [CallBook.empty]
  arrivals requestId requestHandle body := by simp [CallBook.empty]
  completed requestId outcome := by simp [CallBook.empty]
  once := List.nodup_nil
  pending requestId := rfl
  kept requestId requestHandle body _ harrival := by cases harrival
  buffered requestId response hlookup := by cases hlookup
  failures := rfl

theorem Represents.perm (h : s.Represents book)
    {completed : List (UInt32 × ReceiveOutcome α)}
    (hperm : completed.Perm s.completed) :
    { s with completed }.Represents book :=
  { h with
    completed := fun requestId outcome => by
      rw [← h.completed]
      exact hperm.mem_iff
    once := (hperm.map Prod.fst).nodup_iff.mpr h.once }

theorem Represents.not_completed (h : s.Represents book) {requestId : UInt32}
    (hopen : book.outcomes requestId = none) :
    requestId ∉ s.completed.map Prod.fst := by
  intro hmem
  obtain ⟨⟨id, outcome⟩, hcompleted, rfl⟩ := List.mem_map.mp hmem
  obtain ⟨result, hresult, _⟩ := (h.completed id outcome).mp hcompleted
  rw [hopen] at hresult
  cases hresult

theorem Represents.call_eq_none (h : s.Represents book) {requestId : UInt32}
    (hnew : requestId ∉ s.calls.map Prod.fst) :
    book.calls requestId = none := by
  cases hcall : book.calls requestId with
  | none => rfl
  | some requestHandle =>
      have hmem := (h.calls requestId requestHandle).mpr hcall
      exact absurd (List.mem_map_of_mem hmem) hnew

theorem Represents.arrival_eq_none (h : s.Represents book) {requestId : UInt32}
    (hnew : requestId ∉ s.delivered.map ClientResponseFrame.requestId) :
    book.arrivals requestId = none := by
  cases harrival : book.arrivals requestId with
  | none => rfl
  | some arrival =>
      have hmem := (h.arrivals requestId arrival.1 arrival.2).mpr harrival
      exact absurd (List.mem_map_of_mem hmem) hnew

theorem Represents.nodup_append (h : s.Represents book) {requestId : UInt32}
    (hopen : book.outcomes requestId = none) (outcome : ReceiveOutcome α) :
    ((s.completed ++ [(requestId, outcome)]).map Prod.fst).Nodup := by
  rw [List.map_append]
  refine List.nodup_append.mpr ⟨h.once, List.nodup_singleton _, ?_⟩
  intro id hmem other hother heq
  have hid : other = requestId := List.mem_singleton.mp hother
  rw [heq, hid] at hmem
  exact h.not_completed hopen hmem

theorem Represents.mem_append_completed (h : s.Represents book) {requestId : UInt32}
    (hopen : book.outcomes requestId = none) (settled) (id : UInt32)
    (outcome : ReceiveOutcome α) :
    (id, outcome) ∈ s.completed ++ [(requestId, ReceiveOutcome.ofResult settled)] ↔
      ∃ result, Function.update book.outcomes requestId (some settled) id = some result ∧
        outcome = ReceiveOutcome.ofResult result := by
  rw [List.mem_append, h.completed, List.mem_singleton, Prod.mk.injEq]
  by_cases heq : id = requestId
  · subst heq
    simp [hopen]
  · simp [heq]

theorem ofResult_settle (requestHandle : UInt32)
    (response : BufferedResponse α) :
    ReceiveOutcome.ofResult
        (CallBook.settle (.ofCode .bad) requestHandle
          (response.requestHandle, response.body)) =
      if response.requestHandle ≠ requestHandle then .failed (.ofCode .bad)
      else .response response.body := by
  unfold CallBook.settle
  by_cases heq : response.requestHandle = requestHandle
  · rw [if_pos heq, if_neg (not_not_intro heq)]
    rfl
  · rw [if_neg heq, if_pos heq]
    rfl

theorem mem_append_call {calls : List (UInt32 × UInt32)}
    {called : UInt32 → Option UInt32} {requestId requestHandle : UInt32}
    (hcalls : ∀ id handle, (id, handle) ∈ calls ↔ called id = some handle)
    (hnew : called requestId = none) (id handle : UInt32) :
    (id, handle) ∈ calls ++ [(requestId, requestHandle)] ↔
      Function.update called requestId (some requestHandle) id = some handle := by
  rw [List.mem_append, hcalls, List.mem_singleton, Prod.mk.injEq]
  by_cases heq : id = requestId
  · subst heq
    rw [Function.update_self, hnew, Option.some.injEq]
    simp [eq_comm]
  · rw [Function.update_of_ne heq]
    simp [heq]

theorem mem_append_arrival {delivered : List (ClientResponseFrame α)}
    {arrived : UInt32 → Option (UInt32 × α)} {requestId : UInt32}
    (harrived : ∀ id handle body,
      { requestId := id, requestHandle := handle, body } ∈ delivered ↔
        arrived id = some (handle, body))
    (hnew : arrived requestId = none) (arrival : UInt32 × α)
    (id handle : UInt32) (body : α) :
    { requestId := id, requestHandle := handle, body } ∈
        delivered ++
          [{ requestId, requestHandle := arrival.1, body := arrival.2 }] ↔
      Function.update arrived requestId (some arrival) id =
        some (handle, body) := by
  rw [List.mem_append, harrived, List.mem_singleton,
    ClientResponseFrame.mk.injEq]
  by_cases heq : id = requestId
  · subst heq
    rw [Function.update_self, hnew, Option.some.injEq, Prod.ext_iff]
    simp [eq_comm]
  · rw [Function.update_of_ne heq]
    simp [heq]

theorem Represents.callBuffered (h : s.Represents book)
    (hsound : book.Sound (.ofCode .bad)) {requestId : UInt32}
    (requestHandle : UInt32) {response : BufferedResponse α} (hcall : book.calls requestId = none)
    (hbuffered : s.buffered.lookup requestId = some response)
    {buffered : KeyedMap UInt32 (BufferedResponse α)}
    (hothers : ∀ id, id ≠ requestId →
      buffered.lookup id = s.buffered.lookup id)
    (hsub : ∀ found, buffered.lookup requestId = some found →
      found = response) :
    { s with
      calls := s.calls ++ [(requestId, requestHandle)]
      completed := s.completed ++
        [(requestId,
          ReceiveOutcome.ofResult (CallBook.settle (.ofCode .bad)
            requestHandle (response.requestHandle, response.body)))]
      buffered }.Represents
      (book.call (.ofCode .bad) requestId requestHandle) := by
  have hopen := hsound.open_of_not_called hcall
  have harrival := h.buffered requestId response hbuffered
  have houtcome : (book.call (.ofCode .bad) requestId requestHandle).outcomes =
      Function.update book.outcomes requestId
        (some (CallBook.settle (.ofCode .bad) requestHandle
          (response.requestHandle, response.body))) := by
    simp only [CallBook.call, harrival, Option.map_some]
  constructor
  case calls => exact mem_append_call h.calls hcall
  case arrivals => exact h.arrivals
  case completed =>
    rw [houtcome]
    exact h.mem_append_completed hopen _
  case once => exact h.nodup_append hopen _
  case pending =>
    intro id
    rw [h.pending]
    by_cases heq : id = requestId
    · subst heq
      rw [CallBook.waiting_of_open hopen, hcall,
        CallBook.waiting_of_outcome (by rw [houtcome, Function.update_self])]
    · unfold CallBook.waiting
      simp [CallBook.call, heq]
  case kept =>
    intro id handle body hnone hkept
    by_cases heq : id = requestId
    · subst heq
      simp [CallBook.call] at hnone
    · rw [hothers id heq]
      simp only [CallBook.call, Function.update_of_ne heq] at hnone
      exact h.kept id handle body hnone hkept
  case buffered =>
    intro id found hfound
    by_cases heq : id = requestId
    · subst heq
      rw [hsub found hfound]
      exact harrival
    · rw [hothers id heq] at hfound
      exact h.buffered id found hfound
  case failures => exact h.failures

theorem Represents.callPending (h : s.Represents book)
    (hsound : book.Sound (.ofCode .bad)) {requestId requestHandle : UInt32}
    (hcall : book.calls requestId = none)
    (hbuffered : s.buffered.lookup requestId = none) :
    { s with
      calls := s.calls ++ [(requestId, requestHandle)]
      pending := s.pending.insert requestId { requestHandle, receivers := 1 }
        }.Represents (book.call (.ofCode .bad) requestId requestHandle) := by
  have hopen := hsound.open_of_not_called hcall
  have harrival : book.arrivals requestId = none := by
    cases harrival : book.arrivals requestId with
    | none => rfl
    | some arrival =>
        have hkept := h.kept requestId arrival.1 arrival.2 hcall harrival
        rw [hbuffered] at hkept
        cases hkept
  have houtcome : (book.call (.ofCode .bad) requestId requestHandle).outcomes =
      book.outcomes := by
    simp only [CallBook.call, harrival, Option.map_none]
    rw [← hopen, Function.update_eq_self]
  constructor
  case calls => exact mem_append_call h.calls hcall
  case arrivals => exact h.arrivals
  case completed =>
    rw [houtcome]
    exact h.completed
  case once => exact h.once
  case pending =>
    intro id
    rw [KeyedMap.lookup_insert_eq, h.pending]
    unfold CallBook.waiting
    rw [houtcome]
    by_cases heq : id = requestId
    · subst heq
      simp [CallBook.call, hopen]
    · simp [CallBook.call, heq]
  case kept =>
    intro id handle body hnone hkept
    by_cases heq : id = requestId
    · subst heq
      simp [CallBook.call] at hnone
    · simp only [CallBook.call, Function.update_of_ne heq] at hnone
      exact h.kept id handle body hnone hkept
  case buffered => exact h.buffered
  case failures => exact h.failures

theorem Represents.deliverPending (h : s.Represents book)
    {requestId requestHandle : UInt32} (arrival : UInt32 × α)
    (hnew : requestId ∉ s.delivered.map ClientResponseFrame.requestId)
    (hwaiting : book.waiting requestId = some requestHandle) :
    { s with
      completed := s.completed ++
        [(requestId,
          ReceiveOutcome.ofResult
            (CallBook.settle (.ofCode .bad) requestHandle arrival))]
      pending := s.pending.erase requestId
      delivered := s.delivered ++
        [ClientResponseFrame.mk requestId arrival.1 arrival.2] }.Represents (book.arrive (.ofCode .bad) requestId arrival) := by
  obtain ⟨hopen, hcall⟩ := CallBook.waiting_eq_some_iff.mp hwaiting
  have harrival := h.arrival_eq_none hnew
  have houtcome : (book.arrive (.ofCode .bad) requestId arrival).outcomes =
      Function.update book.outcomes requestId
        (some (CallBook.settle (.ofCode .bad) requestHandle arrival)) := by
    simp only [CallBook.arrive, hwaiting, Option.elim_some]
  constructor
  case calls => exact h.calls
  case arrivals => exact mem_append_arrival h.arrivals harrival arrival
  case completed =>
    rw [houtcome]
    exact h.mem_append_completed hopen _
  case once => exact h.nodup_append hopen _
  case pending =>
    intro id
    rw [KeyedMap.lookup_erase_eq, h.pending]
    by_cases heq : id = requestId
    · subst heq
      rw [if_pos rfl,
        CallBook.waiting_of_outcome (by rw [houtcome, Function.update_self])]
      rfl
    · unfold CallBook.waiting
      simp [CallBook.arrive, heq]
  case kept =>
    intro id handle body hnone hkept
    by_cases heq : id = requestId
    · subst heq
      simp [CallBook.arrive, hcall] at hnone
    · simp only [CallBook.arrive, Function.update_of_ne heq] at hkept
      exact h.kept id handle body hnone hkept
  case buffered =>
    intro id found hfound
    by_cases heq : id = requestId
    · subst heq
      have hearlier := h.buffered id found hfound
      rw [harrival] at hearlier
      cases hearlier
    · simp only [CallBook.arrive, Function.update_of_ne heq]
      exact h.buffered id found hfound
  case failures => exact h.failures

theorem Represents.deliverBuffered (h : s.Represents book)
    {requestId : UInt32} (arrival : UInt32 × α)
    (hnew : requestId ∉ s.delivered.map ClientResponseFrame.requestId)
    (hwaiting : book.waiting requestId = none) :
    { s with
      buffered := s.buffered.insert requestId
        { requestHandle := arrival.1, body := arrival.2 }
      delivered := s.delivered ++
        [ClientResponseFrame.mk requestId arrival.1 arrival.2] }.Represents (book.arrive (.ofCode .bad) requestId arrival) := by
  have harrival := h.arrival_eq_none hnew
  have houtcome : (book.arrive (.ofCode .bad) requestId arrival).outcomes =
      book.outcomes := by
    simp only [CallBook.arrive, hwaiting, Option.elim_none]
    exact Function.update_eq_self _ _
  constructor
  case calls => exact h.calls
  case arrivals => exact mem_append_arrival h.arrivals harrival arrival
  case completed =>
    rw [houtcome]
    exact h.completed
  case once => exact h.once
  case pending =>
    intro id
    rw [h.pending]
    unfold CallBook.waiting
    rw [houtcome]
    rfl
  case kept =>
    intro id handle body hnone hkept
    rw [KeyedMap.lookup_insert_eq]
    by_cases heq : id = requestId
    · subst heq
      simp only [CallBook.arrive, Function.update_self, Option.some.injEq]
        at hkept
      rw [if_pos rfl, hkept]
    · simp only [CallBook.arrive, Function.update_of_ne heq] at hkept
      rw [if_neg heq]
      exact h.kept id handle body hnone hkept
  case buffered =>
    intro id found hfound
    rw [KeyedMap.lookup_insert_eq] at hfound
    by_cases heq : id = requestId
    · subst heq
      rw [if_pos rfl, Option.some.injEq] at hfound
      subst hfound
      simp [CallBook.arrive]
    · rw [if_neg heq] at hfound
      simp only [CallBook.arrive, Function.update_of_ne heq]
      exact h.buffered id found hfound
  case failures => exact h.failures

/-- A failed read completes every pending response with its status. -/
theorem Represents.fail (h : s.Represents book) (status : Status) :
    { s with
      completed := s.completed ++
        s.pending.entries.map fun entry : (_ : UInt32) × PendingResponse =>
          (entry.1, ReceiveOutcome.failed status)
      pending := ∅
      failedReads := s.failedReads ++ [status] }.Represents
      (book.fail status) := by
  have hkeys : ∀ requestId,
      (∃ entry ∈ s.pending.entries, entry.1 = requestId) ↔
        ∃ requestHandle, book.waiting requestId = some requestHandle := by
    intro requestId
    constructor
    · rintro ⟨⟨id, pending⟩, hmem, rfl⟩
      have hlookup := KeyedMap.mem_entries_iff.mp hmem
      rw [h.pending, Option.map_eq_some_iff] at hlookup
      obtain ⟨requestHandle, hwaiting, _⟩ := hlookup
      exact ⟨requestHandle, hwaiting⟩
    · rintro ⟨requestHandle, hwaiting⟩
      refine ⟨⟨requestId, { requestHandle, receivers := 1 }⟩, ?_, rfl⟩
      rw [KeyedMap.mem_entries_iff, h.pending, hwaiting]
      rfl
  constructor
  case calls => exact h.calls
  case arrivals => exact h.arrivals
  case completed =>
    intro id outcome
    rw [List.mem_append, h.completed]
    have hfailed : (id, outcome) ∈
        (s.pending.entries.map fun entry =>
          ((entry.1, .failed status) : UInt32 × ReceiveOutcome α)) ↔
        (∃ requestHandle, book.waiting id = some requestHandle) ∧
          outcome = .failed status := by
      rw [← hkeys, List.mem_map]
      constructor
      · rintro ⟨entry, hmem, heq⟩
        rw [Prod.mk.injEq] at heq
        exact ⟨⟨entry, hmem, heq.1⟩, heq.2.symm⟩
      · rintro ⟨⟨entry, hmem, hid⟩, rfl⟩
        exact ⟨entry, hmem, by rw [hid]⟩
    rw [hfailed]
    simp only [CallBook.fail]
    cases hwaiting : book.waiting id with
    | none => simp
    | some requestHandle =>
        rw [(CallBook.waiting_eq_some_iff.mp hwaiting).1]
        simp [ReceiveOutcome.ofResult]
  case once =>
    rw [List.map_append, List.map_map]
    refine List.nodup_append.mpr ⟨h.once, s.pending.nodupKeys, ?_⟩
    rintro id hcompleted other hother rfl
    obtain ⟨entry, hmem, hid⟩ := List.mem_map.mp hother
    obtain ⟨requestHandle, hwaiting⟩ := (hkeys id).mp ⟨entry, hmem, hid⟩
    exact h.not_completed (CallBook.waiting_eq_some_iff.mp hwaiting).1 hcompleted
  case pending =>
    intro id
    rw [CallBook.waiting_fail]
    rfl
  case kept => exact h.kept
  case buffered => exact h.buffered
  case failures => exact congrArg (· ++ [status]) h.failures

end ReceiveSide

namespace ChannelRun

variable {ρ α : Type}

def receives (r : ChannelRun ρ α) : ReceiveSide α where
  calls := r.calls
  completed := r.completed
  pending := r.link.channel.pendingResponses
  buffered := r.link.channel.bufferedResponses
  delivered := r.link.record.delivered
  failedReads := r.link.record.failedReads

/-- The receives of a run agree with a book which is sound. -/
def Booked (r : ChannelRun ρ α) : Prop :=
  ∃ book : ResponseBook α,
    book.Sound (.ofCode .bad) ∧ r.receives.Represents book

theorem step_quiet {r : ChannelRun ρ α} {event : LinkEvent ρ α}
    (hevent : event.isReceiving = false) :
    event.call = none ∧ r.link.returns event = none := by
  cases event <;> first | exact ⟨rfl, rfl⟩ | cases hevent

theorem receives_step_quiet {r : ChannelRun ρ α} {event : LinkEvent ρ α}
    (hcall : event.call = none) (hreturns : r.link.returns event = none)
    (hsame : r.link.SameReceives (r.link.step event)) :
    (r.step event).receives = r.receives := by
  simp only [receives, completed, step, hcall, hreturns, hsame.ready,
    hsame.pending, hsame.buffered, hsame.delivered, hsame.failedReads,
    Option.toList_none, List.append_nil]

theorem Booked.quiet {r : ChannelRun ρ α} (h : r.Booked) {event : LinkEvent ρ α}
    (hcall : event.call = none) (hreturns : r.link.returns event = none)
    (hsame : r.link.SameReceives (r.link.step event)) :
    (r.step event).Booked := by
  unfold Booked
  rw [receives_step_quiet hcall hreturns hsame]
  exact h

theorem return_perm {β : Type} (returned ready : List β) (outcome : β) :
    (returned ++ [outcome] ++ ready).Perm (returned ++ ready ++ [outcome]) := by
  rw [List.append_assoc, List.singleton_append]
  exact List.perm_middle.trans (List.perm_append_singleton _ _).symm

theorem Booked.receive {r : ChannelRun ρ α} (h : r.Booked)
    {requestId requestHandle : UInt32}
    (honce : r.ReceivesOnce (.receive requestId requestHandle)) :
    (r.step (.receive requestId requestHandle)).Booked := by
  obtain ⟨book, hsound, hrep⟩ := h
  have hnew : requestId ∉ r.calls.map Prod.fst := honce _ rfl
  have hcall := hrep.call_eq_none hnew
  refine ⟨book.call (.ofCode .bad) requestId requestHandle,
    hsound.call requestHandle hcall, ?_⟩
  cases hbuffered : r.link.channel.bufferedResponses.lookup requestId with
  | none =>
      have hpending : r.link.channel.pendingResponses.lookup requestId = none := by
        have hlookup := hrep.pending requestId
        rw [CallBook.waiting_of_open (hsound.open_of_not_called hcall), hcall]
          at hlookup
        exact hlookup
      have hmaps := ClientChannel.ensureReadLoop_sameMaps
        { r.link.channel with
          pendingResponses := r.link.channel.pendingResponses.insert requestId
            { requestHandle, receivers := 1 } }
      have hreceives : (r.step (.receive requestId requestHandle)).receives =
          { r.receives with
            calls := r.calls ++ [(requestId, requestHandle)]
            pending := r.link.channel.pendingResponses.insert requestId
              { requestHandle, receivers := 1 } } := by
        simp only [receives, completed, step, ClientLink.step,
          ClientLink.returns, LinkEvent.call, ClientChannel.receive, hbuffered,
          hpending, hmaps.buffered, hmaps.pending, hmaps.ready, Option.map_none,
          Option.toList_none, Option.toList_some, List.append_nil, Nat.zero_add]
      rw [hreceives]
      exact hrep.callPending hsound hcall hbuffered
  | some response =>
      -- The response leaves the map only when it answers the handle.
      let buffered :=
        if response.requestHandle ≠ requestHandle then
          r.link.channel.bufferedResponses
        else r.link.channel.bufferedResponses.erase requestId
      have hothers : ∀ id, id ≠ requestId →
          buffered.lookup id = r.link.channel.bufferedResponses.lookup id := by
        intro id hne
        simp only [buffered]
        split
        next => rfl
        next => rw [KeyedMap.lookup_erase_eq, if_neg hne]
      have hsub : ∀ found, buffered.lookup requestId = some found →
          found = response := by
        intro found hfound
        simp only [buffered] at hfound
        split at hfound
        next =>
          rw [hbuffered] at hfound
          exact (Option.some.inj hfound).symm
        next =>
          rw [KeyedMap.lookup_erase_eq, if_pos rfl] at hfound
          cases hfound
      have hstep := (hrep.callBuffered hsound requestHandle hcall hbuffered
        hothers hsub).perm
          (return_perm r.returned r.link.channel.readyReceives _)
      have hreceives : (r.step (.receive requestId requestHandle)).receives =
          { r.receives with
            calls := r.calls ++ [(requestId, requestHandle)]
            completed :=
              r.returned ++ [(requestId,
                ReceiveOutcome.ofResult (CallBook.settle (.ofCode .bad)
                  requestHandle (response.requestHandle, response.body)))] ++
                r.link.channel.readyReceives
            buffered } := by
        rw [ReceiveSide.ofResult_settle]
        simp only [receives, completed, step, ClientLink.step,
          ClientLink.returns, LinkEvent.call, ClientChannel.receive, hbuffered,
          Option.map_some, Option.toList_some, buffered]
        split <;> rfl
      rw [hreceives]
      exact hstep

/-! ## The steps of the receives and the loop -/

theorem Booked.resumeReceive {r : ChannelRun ρ α} (h : r.Booked) (index : ℕ) :
    (r.step (.resumeReceive index)).Booked := by
  obtain ⟨book, hsound, hrep⟩ := h
  refine ⟨book, hsound, ?_⟩
  cases hready : r.link.channel.readyReceives[index]? with
  | none =>
      have hreceives : (r.step (.resumeReceive index)).receives = r.receives := by
        simp only [receives, completed, step, ClientLink.step,
          ClientLink.returns, LinkEvent.call, ClientChannel.resumeReceive,
          hready, Option.toList_none, List.append_nil]
      rw [hreceives]
      exact hrep
  | some completion =>
      obtain ⟨requestId, outcome⟩ := completion
      obtain ⟨hlt, hget⟩ := List.getElem?_eq_some_iff.mp hready
      have hperm : (r.returned ++ [(requestId, outcome)] ++
          r.link.channel.readyReceives.eraseIdx index).Perm r.completed := by
        rw [List.append_assoc, completed]
        refine List.Perm.append_left _ ?_
        rw [← hget]
        exact List.getElem_cons_eraseIdx_perm hlt
      -- The call has been settled, and is not pending any more.
      have hpending :
          r.link.channel.pendingResponses.lookup requestId = none := by
        have hmem : (requestId, outcome) ∈ r.completed := by
          apply List.mem_append_right
          rw [← hget]
          exact List.getElem_mem hlt
        obtain ⟨result, hresult, _⟩ := (hrep.completed _ _).mp hmem
        have hlookup := hrep.pending requestId
        rw [CallBook.waiting_of_outcome hresult] at hlookup
        exact hlookup
      have hstep := hrep.perm hperm
      have hreceives : (r.step (.resumeReceive index)).receives =
          { r.receives with
            completed := r.returned ++ [(requestId, outcome)] ++
              r.link.channel.readyReceives.eraseIdx index
            pending := r.link.channel.pendingResponses.erase requestId } := by
        simp only [receives, completed, step, ClientLink.step,
          ClientLink.returns, LinkEvent.call, ClientChannel.resumeReceive,
          hready, Option.toList_some, Option.toList_none, List.append_nil]
      rw [hreceives]
      refine { hstep with pending := fun id => ?_ }
      rw [KeyedMap.lookup_erase_eq]
      split
      next heq =>
        rw [heq, ← hpending]
        exact hrep.pending requestId
      next => exact hrep.pending id

theorem Booked.deliver {r : ChannelRun ρ α} (h : r.Booked)
    {event : LinkEvent ρ α} (hcall : event.call = none)
    (hreturns : r.link.returns event = none)
    {response : ClientResponseFrame α}
    (hnew : response.requestId ∉
      r.link.record.delivered.map ClientResponseFrame.requestId)
    (hmaps : (r.link.channel.deliverResponse response).SameMaps
      (r.link.step event).channel)
    (hdelivered : (r.link.step event).record.delivered =
      r.link.record.delivered ++ [response])
    (hfailed : (r.link.step event).record.failedReads =
      r.link.record.failedReads) : (r.step event).Booked := by
  obtain ⟨book, hsound, hrep⟩ := h
  have harrival := hrep.arrival_eq_none hnew
  refine ⟨book.arrive (.ofCode .bad) response.requestId
    (response.requestHandle, response.body), hsound.arrive _ harrival, ?_⟩
  have hpending := hrep.pending response.requestId
  cases hwaiting : book.waiting response.requestId with
  | none =>
      rw [hwaiting, Option.map_none] at hpending
      have hbuffered : r.link.channel.bufferedResponses.lookup
          response.requestId = none := by
        cases hlookup : r.link.channel.bufferedResponses.lookup
            response.requestId with
        | none => rfl
        | some found =>
            have hearlier := hrep.buffered _ found hlookup
            rw [harrival] at hearlier
            cases hearlier
      have hchannel : r.link.channel.deliverResponse response =
          { r.link.channel with
            bufferedResponses :=
              r.link.channel.bufferedResponses.insert response.requestId
                { requestHandle := response.requestHandle
                  body := response.body } } := by
        simp only [receives] at hpending
        simp only [ClientChannel.deliverResponse, hpending, hbuffered]
      rw [hchannel] at hmaps
      have hreceives : (r.step event).receives =
          { r.receives with
            buffered :=
              r.link.channel.bufferedResponses.insert response.requestId
                { requestHandle := response.requestHandle
                  body := response.body }
            delivered := r.link.record.delivered ++ [response] } := by
        simp only [receives, completed, step, hcall, hreturns, hmaps.buffered,
          hmaps.pending, hmaps.ready, hdelivered, hfailed, Option.toList_none,
          List.append_nil]
      rw [hreceives]
      exact hrep.deliverBuffered (response.requestHandle, response.body) hnew
        hwaiting
  | some requestHandle =>
      rw [hwaiting, Option.map_some] at hpending
      have hchannel : r.link.channel.deliverResponse response =
          { r.link.channel with
            pendingResponses :=
              r.link.channel.pendingResponses.erase response.requestId
            readyReceives := r.link.channel.readyReceives ++
              [(response.requestId,
                ReceiveOutcome.ofResult (CallBook.settle (.ofCode .bad)
                  requestHandle (response.requestHandle, response.body)))] } := by
        have hsettle := ReceiveSide.ofResult_settle requestHandle
          { requestHandle := response.requestHandle, body := response.body }
        simp only [receives] at hpending
        simp only [ClientChannel.deliverResponse, hpending, hsettle,
          ClientChannel.completed, Nat.sub_self, List.replicate_zero]
      rw [hchannel] at hmaps
      have hreceives : (r.step event).receives =
          { r.receives with
            completed := r.completed ++
              [(response.requestId,
                ReceiveOutcome.ofResult (CallBook.settle (.ofCode .bad)
                  requestHandle (response.requestHandle, response.body)))]
            pending := r.link.channel.pendingResponses.erase response.requestId
            delivered := r.link.record.delivered ++ [response] } := by
        simp only [receives, completed, step, hcall, hreturns, hmaps.buffered,
          hmaps.pending, hmaps.ready, hdelivered, hfailed, Option.toList_none,
          List.append_nil, List.append_assoc]
      rw [hreceives]
      exact hrep.deliverPending (response.requestHandle, response.body) hnew
        hwaiting

/-- While each receive has a pending response of its own, a failure completes one
receive for each. -/
theorem failPendingResponses_ready {r : ChannelRun ρ α} {book : ResponseBook α}
    (hrep : r.receives.Represents book) (status : Status) :
    (r.link.channel.failPendingResponses status).readyReceives =
      r.link.channel.readyReceives ++
        r.link.channel.pendingResponses.entries.map fun entry =>
          (entry.1, .failed status) := by
  have hone : ∀ entry ∈ r.link.channel.pendingResponses.entries,
      ClientChannel.completed (α := α) entry.1 entry.2 (.failed status) =
        [(entry.1, .failed status)] := by
    rintro ⟨requestId, pending⟩ hmem
    have hlookup := KeyedMap.mem_entries_iff.mp hmem
    have hpending := hrep.pending requestId
    simp only [receives, hlookup] at hpending
    obtain ⟨requestHandle, _, heq⟩ := Option.map_eq_some_iff.mp hpending.symm
    subst heq
    rfl
  simp only [ClientChannel.failPendingResponses]
  rw [List.flatMap_congr hone, ← List.map_eq_flatMap]

theorem Booked.fail {r : ChannelRun ρ α} (h : r.Booked) (status : Status)
    {event : LinkEvent ρ α} (hcall : event.call = none)
    (hreturns : r.link.returns event = none)
    (hmaps : (r.link.channel.failPendingResponses status).SameMaps
      (r.link.step event).channel)
    (hdelivered : (r.link.step event).record.delivered =
      r.link.record.delivered)
    (hfailed : (r.link.step event).record.failedReads =
      r.link.record.failedReads ++ [status]) : (r.step event).Booked := by
  obtain ⟨book, hsound, hrep⟩ := h
  refine ⟨book.fail status, hsound.fail status, ?_⟩
  have hready := failPendingResponses_ready hrep status
  have hreceives : (r.step event).receives =
      { r.receives with
        completed := r.completed ++
          r.link.channel.pendingResponses.entries.map fun entry =>
            (entry.1, .failed status)
        pending := ∅
        failedReads := r.link.record.failedReads ++ [status] } := by
    simp only [receives, completed, step, hcall, hreturns, hmaps.buffered,
      hmaps.pending, hmaps.ready, hready, hdelivered, hfailed,
      Option.toList_none, List.append_nil, List.append_assoc]
    rfl
  rw [hreceives]
  exact hrep.fail status

theorem Booked.loopReads {first : UInt32} {r : ChannelRun ρ α} (h : r.Booked)
    (hids : r.IdsDrawn first) (index : ℕ) :
    (r.step (.loopReads index)).Booked := by
  have hstep : r.link.step (.loopReads index) = r.link.loopReads index := rfl
  unfold ClientLink.loopReads at hstep
  split at hstep
  next chunkIndex frame rest _ hincoming =>
    cases frame with
    | openResponse serviceResult =>
        refine h.fail (.ofCode .bad) rfl rfl ?_ ?_ ?_ <;> rw [hstep]
        · exact ClientChannel.endReadLoop_sameMaps _ index
        · rfl
        · rfl
    | intermediateChunk requestId =>
        simp only at hstep
        split at hstep
        next =>
          refine h.fail (.ofCode .bad) rfl rfl ?_ ?_ ?_ <;> rw [hstep]
          · exact ClientChannel.endReadLoop_sameMaps _ index
          · rfl
          · rfl
        next =>
          refine h.quiet rfl rfl ?_
          rw [hstep]
          exact ⟨rfl, rfl, rfl, rfl, rfl⟩
    | finalChunk response =>
        refine h.deliver rfl rfl (hids.not_delivered hincoming) ?_ ?_ ?_ <;>
          rw [hstep]
        · exact ClientChannel.continueReadLoop_sameMaps _ index
  next =>
    refine h.quiet rfl rfl ?_
    rw [hstep]
    exact ⟨rfl, rfl, rfl, rfl, rfl⟩

theorem Booked.loopReadFailed {r : ChannelRun ρ α} (h : r.Booked) (index : ℕ)
    (status : Status) : (r.step (.loopReadFailed index status)).Booked := by
  have hstep : r.link.step (.loopReadFailed index status) =
    r.link.loopReadFailed index status := rfl
  unfold ClientLink.loopReadFailed at hstep
  split at hstep
  next =>
    refine h.fail status rfl rfl ?_ ?_ ?_ <;> rw [hstep]
    · exact ClientChannel.endReadLoop_sameMaps _ index
    · rfl
    · rfl
  next =>
    refine h.quiet rfl rfl ?_
    rw [hstep]
    exact ⟨rfl, rfl, rfl, rfl, rfl⟩

theorem Booked.startReadLoop {r : ChannelRun ρ α} (h : r.Booked) (index : ℕ) :
    (r.step (.startReadLoop index)).Booked := by
  refine h.quiet rfl rfl ?_
  simp only [ClientLink.step, ClientLink.startReadLoop]
  split
  next =>
    have hmaps := ClientChannel.continueReadLoop_sameMaps r.link.channel index
    exact ⟨hmaps.buffered, hmaps.pending, hmaps.ready, rfl, rfl⟩
  next => exact ⟨rfl, rfl, rfl, rfl, rfl⟩

theorem Booked.step {first : UInt32} {r : ChannelRun ρ α} (h : r.Booked)
    (hids : r.IdsDrawn first) {event : LinkEvent ρ α}
    (honce : r.ReceivesOnce event) : (r.step event).Booked := by
  cases hevent : event.isReceiving with
  | false =>
      obtain ⟨hcall, hreturns⟩ := step_quiet (r := r) hevent
      exact h.quiet hcall hreturns
        (ClientLink.step_sameReaders _ hevent).toSameReceives
  | true =>
      cases event with
      | receive requestId requestHandle => exact h.receive honce
      | resumeReceive index => exact h.resumeReceive index
      | startReadLoop index => exact h.startReadLoop index
      | loopReads index => exact h.loopReads hids index
      | loopReadFailed index status => exact h.loopReadFailed index status
      | _ => cases hevent

/-! ## Runs -/

/-- What a run keeps. -/
structure Keeps (first : UInt32) (r : ChannelRun ρ α) : Prop where
  booked : r.Booked
  ids : r.IdsDrawn first
  loops : r.link.channel.LoopServes
  renewals : ∀ frame ∈ r.link.record.renewalReads, frame.isOpenResponse = true

theorem Keeps.step {first : UInt32} {r : ChannelRun ρ α} (h : r.Keeps first)
    {event : LinkEvent ρ α} (honce : r.ReceivesOnce event)
    (hlast : r.IdsLast event) (hown : r.RenewalReadsItsOwn event) :
    (r.step event).Keeps first where
  booked := h.booked.step h.ids honce
  ids := h.ids.step hlast
  loops := ClientLink.step_loopServes h.loops event
  renewals := by
    intro frame hmem
    have hreads := ClientLink.step_renewalReads r.link event
    simp only [ChannelRun.step, hreads, List.mem_append, Option.mem_toList]
      at hmem
    rcases hmem with hbefore | hread
    · exact h.renewals frame hbefore
    · exact hown frame hread

theorem start_keeps (nextRequestId : UInt32) (authenticationToken : NodeId) :
    (start nextRequestId authenticationToken :
      ChannelRun ρ α).Keeps nextRequestId where
  booked := ⟨.empty, CallBook.empty_sound, ReceiveSide.empty_represents⟩
  ids := start_idsDrawn nextRequestId authenticationToken
  loops := ⟨rfl, fun _ => rfl⟩
  renewals frame hmem := by cases hmem

theorem Keeps.arrived {first : UInt32} {r : ChannelRun ρ α} (h : r.Keeps first) :
    r.link.arrived = r.link.record.delivered := by
  have hnone : r.link.record.renewalReads.filterMap WireFrame.completes = [] := by
    apply List.filterMap_eq_nil_iff.mpr
    intro frame hmem
    have hopen := h.renewals frame hmem
    cases frame with
    | openResponse serviceResult => rfl
    | intermediateChunk requestId => cases hopen
    | finalChunk response => cases hopen
  rw [ClientLink.arrived, hnone, List.append_nil]

theorem Keeps.failure {first : UInt32} {r : ChannelRun ρ α} (h : r.Keeps first)
    {index : ℕ} {loop : ReadLoop} (status : Status)
    (hloop : r.link.channel.readLoops[index]? = some loop) :
    let ch := (r.link.failRead index status).channel
    (∀ requestId pending,
        r.link.channel.pendingResponses.lookup requestId = some pending →
          (requestId, .failed status) ∈ ch.readyReceives) ∧
      ch.pendingResponses = ∅ ∧ ch.readLoops = [] ∧
      ch.readLoopRunning = false ∧
      ∀ requestId requestHandle,
        ch.bufferedResponses.lookup requestId = none →
          (ch.receive requestId requestHandle).readLoops = [.spawned] := by
  obtain ⟨hloops, rfl, _⟩ :=
    ClientLink.eq_singleton_of_getElem? h.loops.loops hloop
  obtain ⟨book, _, hrep⟩ := h.booked
  simp only [ClientLink.failRead]
  rw [ClientLink.endReadLoop_failPendingResponses hloops]
  refine ⟨?_, rfl, rfl, rfl, ?_⟩
  · intro requestId pending hlookup
    simp only [failPendingResponses_ready hrep]
    apply List.mem_append_right
    exact List.mem_map.mpr
      ⟨⟨requestId, pending⟩, KeyedMap.mem_entries_iff.mpr hlookup, rfl⟩
  · intro requestId requestHandle hnone
    simp only [ClientChannel.receive, hnone, ClientChannel.ensureReadLoop]
    rfl

theorem Keeps.correlated {first : UInt32} {r : ChannelRun ρ α}
    (h : r.Keeps first) : r.Correlated := by
  have hkeeps := h
  obtain ⟨⟨book, hsound, hrep⟩, hids, hloops, _⟩ := h
  have harrived := hkeeps.arrived
  constructor
  case returns =>
    intro requestId body hmem
    have hcompleted : (requestId, .response body) ∈ r.completed :=
      List.mem_append_left _ hmem
    obtain ⟨result, hresult, houtcome⟩ := (hrep.completed _ _).mp hcompleted
    cases result with
    | error status => cases houtcome
    | ok found =>
        cases houtcome
        obtain ⟨requestHandle, hcall, harrival⟩ := hsound.matched hresult
        refine ⟨requestHandle, (hrep.calls _ _).mpr hcall, ?_⟩
        rw [harrived]
        exact (hrep.arrivals _ _ _).mpr harrival
  case oneResponse =>
    rw [harrived]
    exact (List.nodup_append.mp hids.nodup).2.1
  case oneReturn =>
    have honce := hrep.once
    simp only [receives, completed, List.map_append] at honce
    exact (List.nodup_append.mp honce).1
  case kept =>
    rintro ⟨requestId, requestHandle, body⟩ hmem hnew
    rw [harrived] at hmem
    have harrival := (hrep.arrivals _ _ _).mp hmem
    have hbuffered := hrep.kept _ _ _ (hrep.call_eq_none hnew) harrival
    simp only [receives] at hbuffered
    simp [ClientLink.returns, hbuffered]
  case received =>
    rintro ⟨requestId, requestHandle, body⟩ hmem hcall
    rw [harrived] at hmem
    have harrival := (hrep.arrivals _ _ _).mp hmem
    rcases hsound.settled ((hrep.calls _ _).mp hcall) harrival with
      hok | ⟨status, hfailed, herror⟩
    · left
      exact (hrep.completed _ _).mpr ⟨_, hok, rfl⟩
    · right
      rw [hrep.failures] at hfailed
      exact ⟨status, hfailed, (hrep.completed _ _).mpr ⟨_, herror, rfl⟩⟩
  case pending =>
    intro requestId requestHandle hmem
    have hcall := (hrep.calls _ _).mp hmem
    cases houtcome : book.outcomes requestId with
    | some result =>
        left
        exact ⟨_, (hrep.completed _ _).mpr ⟨result, houtcome, rfl⟩⟩
    | none =>
        right
        have hpending := hrep.pending requestId
        rw [CallBook.waiting_of_open houtcome, hcall] at hpending
        refine ⟨hpending, ?_⟩
        -- A loop which had stopped would have left nothing pending.
        cases hrunning : r.link.channel.readLoopRunning with
        | true => rw [hloops.loops, hrunning]; rfl
        | false =>
            have hnone := ClientChannel.noPendingResponses_iff.mp
              (hloops.idle hrunning) requestId
            simp only [receives, hnone] at hpending
            cases hpending
  case failure =>
    intro index loop status hloop
    exact hkeeps.failure status hloop

/-- In a run which receives each id at most once and whose ids do not wrap, and
whose renewals take no service response off the transport, receives and responses
are correlated. -/
theorem receives_correlated (nextRequestId : UInt32)
    (authenticationToken : NodeId) (events : List (LinkEvent ρ α))
    (honce : AllMeet step ReceivesOnce
      (start nextRequestId authenticationToken) events)
    (hlast : AllMeet step IdsLast
      (start nextRequestId authenticationToken) events)
    (hown : AllMeet step RenewalReadsItsOwn
      (start nextRequestId authenticationToken) events) :
    (runFrom step (start nextRequestId authenticationToken)
      events).Correlated := by
  have hkeeps := runFrom_invariant (P := Keeps (ρ := ρ) (α := α) nextRequestId)
    (fun r event h hguard =>
      h.step hguard.1.1 hguard.1.2 hguard.2)
    (start_keeps nextRequestId authenticationToken) ((honce.and hlast).and hown)
  exact hkeeps.correlated

/-- The second response arrives before its receive is called, and the first
receive waits for the response which arrives last. -/
def answeredInReverse : List (LinkEvent String String) :=
  [.send { requestHandle := 1, body := "Read" } false, .writeFinished 0,
    .send { requestHandle := 2, body := "Write" } false, .writeFinished 0,
    .receive 2 1, .startReadLoop 0,
    .answer 1 1 "Written", .loopReads 0, .loopReads 0,
    .answer 0 0 "Values", .loopReads 0,
    .receive 3 2, .resumeReceive 0]

theorem reversed_answers_correlated :
    (runFrom step (start 2 {}) answeredInReverse).Correlated ∧
      (runFrom step (start 2 {}) answeredInReverse).returned =
        [(3, .response "Written"), (2, .response "Values")] :=
  ⟨receives_correlated 2 {} answeredInReverse (by decide)
    (by decide) (by decide), by decide⟩

/-- The receive of the publish is called after a renewal has taken its response
off the transport. -/
def receivedAfterRenewal : List (LinkEvent String String) :=
  ClientLink.answeredBeforeRenewal ++ [.receive 2 1, .startReadLoop 0]

theorem renewal_loses_response :
    AllMeet step ReceivesOnce (start 2 {}) receivedAfterRenewal ∧
      AllMeet step IdsLast (start 2 {}) receivedAfterRenewal ∧
      ¬(runFrom step (start 2 {}) receivedAfterRenewal).Correlated := by
  refine ⟨by decide, by decide, fun hcorrelated => ?_⟩
  have hreceived := hcorrelated.received
    { requestId := 2, requestHandle := 1, body := "Notification" }
    (by decide) (by decide)
  revert hreceived
  decide

end ChannelRun
end OpcuaStack
