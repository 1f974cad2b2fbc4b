import OpcuaStack.TokenRenewal

/-!
# Runs of the receives

A run of the client link keeps the calls of `Receive` and what they returned.
Request ids are drawn in turn, so that the responses which come off the
transport have different ids until the counter wraps.  There is one read loop
while a response is pending.
-/

namespace OpcuaStack

/-- A client link, the ids it has drawn, and its `Receive` calls with what they
returned. -/
structure ChannelRun (ρ α : Type) where
  link : ClientLink ρ α
  drawnIds : ℕ := 0
  calls : List (UInt32 × UInt32) := []
  returned : List (UInt32 × ReceiveOutcome α) := []

namespace ClientLink

variable {ρ α : Type}

/-- The responses which have come off the transport. -/
def arrived (l : ClientLink ρ α) : List (ClientResponseFrame α) :=
  l.record.delivered ++ l.record.renewalReads.filterMap WireFrame.completes

/-- What a `Receive` returns in the step, if one does. -/
def returns (l : ClientLink ρ α) :
    LinkEvent ρ α → Option (UInt32 × ReceiveOutcome α)
  | .receive requestId requestHandle =>
      (l.channel.bufferedResponses.lookup requestId).map fun buffered =>
        (requestId,
          if buffered.requestHandle ≠ requestHandle then
            .failed (.ofCode .bad)
          else .response buffered.body)
  | .resumeReceive index => l.channel.readyReceives[index]?
  | _ => none

/-- The frame which a renewal reads in the step, if one does. -/
def renewalFrame (l : ClientLink ρ α) : LinkEvent ρ α → Option (WireFrame α)
  | .renewalReads index =>
      match l.channel.activeSends[index]?, l.incoming with
      | some { stage := .readingOpen, .. }, frame :: _ => some frame
      | _, _ => none
  | _ => none

end ClientLink

namespace LinkEvent

variable {ρ α : Type}

/-- The id and the handle which the step passes to `Receive`. -/
def call : LinkEvent ρ α → Option (UInt32 × UInt32)
  | .receive requestId requestHandle => some (requestId, requestHandle)
  | _ => none

/-- The step is one of a `Receive` or of a read loop. -/
def isReceiving : LinkEvent ρ α → Bool
  | .receive .. | .resumeReceive _ | .startReadLoop _ | .loopReads _
  | .loopReadFailed .. => true
  | _ => false

end LinkEvent

namespace ChannelRun

variable {ρ α : Type}

def start (nextRequestId : UInt32) (authenticationToken : NodeId) :
    ChannelRun ρ α :=
  { link := .opened nextRequestId authenticationToken }

def step (r : ChannelRun ρ α) (event : LinkEvent ρ α) : ChannelRun ρ α :=
  { link := r.link.step event
    drawnIds :=
      if (r.link.step event).nextRequestId = r.link.nextRequestId then
        r.drawnIds
      else r.drawnIds + 1
    calls := r.calls ++ event.call.toList
    returned := r.returned ++ (r.link.returns event).toList }

/-- The receives which have returned or are about to. -/
def completed (r : ChannelRun ρ α) : List (UInt32 × ReceiveOutcome α) :=
  r.returned ++ r.link.channel.readyReceives

/-! ## What a run relies on -/

/-- Each request id is passed to `Receive` at most once. -/
def ReceivesOnce (r : ChannelRun ρ α) (event : LinkEvent ρ α) : Prop :=
  ∀ call ∈ event.call, call.1 ∉ r.calls.map Prod.fst

/-- The counter of request ids has not wrapped. -/
def IdsLast (r : ChannelRun ρ α) (event : LinkEvent ρ α) : Prop :=
  (r.step event).drawnIds ≤ 2 ^ 32

/-- A renewal takes no frame of a service response off the transport. -/
def RenewalReadsItsOwn (r : ChannelRun ρ α) (event : LinkEvent ρ α) : Prop :=
  ∀ frame ∈ r.link.renewalFrame event, frame.isOpenResponse = true

instance (r : ChannelRun ρ α) (event : LinkEvent ρ α) :
    Decidable (r.ReceivesOnce event) :=
  show Decidable (∀ call ∈ event.call, call.1 ∉ r.calls.map Prod.fst) from
    Option.decidableForallMem _

instance (r : ChannelRun ρ α) (event : LinkEvent ρ α) :
    Decidable (r.IdsLast event) := by
  unfold IdsLast
  infer_instance

instance (r : ChannelRun ρ α) (event : LinkEvent ρ α) :
    Decidable (r.RenewalReadsItsOwn event) := by
  unfold RenewalReadsItsOwn
  infer_instance

end ChannelRun

namespace ClientLink

variable {ρ α : Type}

/-! ## Request ids -/

/-- The ids of the requests and responses which have not come off the
transport. -/
def openIds (l : ClientLink ρ α) : List UInt32 :=
  l.requests.map SentRequest.requestId ++
    (l.incoming.filterMap WireFrame.completes).map ClientResponseFrame.requestId

def knownIds (l : ClientLink ρ α) : List UInt32 :=
  l.openIds ++ l.record.delivered.map ClientResponseFrame.requestId

/-- A step keeps to the ids which are known, or draws the next one. -/
inductive KeepsIds (l next : ClientLink ρ α) : Prop
  | same (hnext : next.nextRequestId = l.nextRequestId)
      (hids : next.knownIds.Subperm l.knownIds)
  | draws (hnext : next.nextRequestId = l.nextRequestId + 1)
      (hids : next.knownIds.Subperm (l.nextRequestId :: l.knownIds))

theorem KeepsIds.of_eq {l next : ClientLink ρ α}
    (hnext : next.nextRequestId = l.nextRequestId)
    (hids : next.knownIds = l.knownIds) : KeepsIds l next :=
  .same hnext (by rw [hids])

theorem startRequest_knownIds (l : ClientLink ρ α)
    (message : ClientRequest ρ) :
    (l.startRequest message).knownIds.Perm (l.nextRequestId :: l.knownIds) := by
  simp only [startRequest, knownIds, openIds, List.map_append, List.map_cons,
    List.map_nil, List.append_assoc, List.singleton_append]
  exact List.perm_middle

theorem takeTurn_keepsIds (l : ClientLink ρ α) (message : ClientRequest ρ)
    (due : Bool) : KeepsIds l (l.takeTurn message due) := by
  unfold takeTurn
  split
  next => exact .of_eq rfl rfl
  next =>
    simp only
    split
    next => exact .draws rfl (List.sublist_cons_self _ _).subperm
    next => exact .draws rfl (startRequest_knownIds _ message).subperm

theorem resumeSend_keepsIds (l : ClientLink ρ α) (index : ℕ) (due : Bool) :
    KeepsIds l (l.resumeSend index due) := by
  unfold resumeSend
  split
  next => exact .of_eq rfl rfl
  next message _ =>
    rcases takeTurn_keepsIds
        { l with
          channel :=
            { l.channel with
              wokenSenders := l.channel.wokenSenders.eraseIdx index } }
        message due with ⟨hnext, hids⟩ | ⟨hnext, hids⟩
    · exact .same hnext hids
    · exact .draws hnext hids

theorem knownIds_taken {l : ClientLink ρ α} {frame : WireFrame α}
    {rest : List (WireFrame α)} (hincoming : l.incoming = frame :: rest) :
    ({ l with incoming := rest } : ClientLink ρ α).knownIds.Subperm
      l.knownIds := by
  apply List.Sublist.subperm
  simp only [knownIds, openIds, hincoming]
  refine List.Sublist.append_right (List.Sublist.append_left ?_ _) _
  exact ((List.sublist_cons_self frame rest).filterMap _).map _

theorem renewalReads_keepsIds (l : ClientLink ρ α) (index : ℕ) :
    KeepsIds l (l.renewalReads index) := by
  unfold renewalReads
  split
  next message frame rest _ hincoming =>
    have htaken := knownIds_taken hincoming
    simp only
    split
    next => exact .same rfl htaken
    next =>
      refine .draws rfl ?_
      exact (startRequest_knownIds _ message).subperm.trans ((List.subperm_cons _).mpr htaken)
  next => exact .of_eq rfl rfl

theorem loopReads_keepsIds (l : ClientLink ρ α) (index : ℕ) :
    KeepsIds l (l.loopReads index) := by
  unfold loopReads
  split
  next chunkIndex frame rest _ hincoming =>
    have htaken := knownIds_taken hincoming
    cases frame with
    | openResponse serviceResult => exact .same rfl htaken
    | intermediateChunk requestId =>
        simp only
        split <;> exact .same rfl htaken
    | finalChunk response =>
        refine .same rfl (List.Perm.subperm ?_)
        simp only [knownIds, openIds, hincoming, WireFrame.completes,
          List.filterMap_cons, List.map_cons, List.map_append, List.map_nil,
          List.append_assoc]
        refine List.Perm.append_left _ ?_
        rw [← List.append_assoc]
        exact List.perm_append_singleton response.requestId _
  next => exact .of_eq rfl rfl

theorem answer_keepsIds (l : ClientLink ρ α) (index chunks : ℕ) (body : α) :
    KeepsIds l (l.answer index chunks body) := by
  unfold answer
  split
  next => exact .of_eq rfl rfl
  next request hrequest =>
    obtain ⟨hlt, hget⟩ := List.getElem?_eq_some_iff.mp hrequest
    refine .same rfl (List.Perm.subperm ?_)
    have hrequests : (request :: l.requests.eraseIdx index).Perm l.requests := by
      rw [← hget]
      exact List.getElem_cons_eraseIdx_perm hlt
    have hids := hrequests.map SentRequest.requestId
    simp only [knownIds, openIds, List.filterMap_append,
      ReaderState.filterMap_chunksOf,
      List.map_append, List.map_cons, List.map_nil, List.append_assoc,
      List.singleton_append]
    refine List.Perm.trans ?_ (hids.append_right _)
    rw [← List.append_assoc]
    exact (List.perm_middle.trans (by rw [List.map_cons, List.cons_append,
      List.append_assoc]))

theorem step_keepsIds (l : ClientLink ρ α) (event : LinkEvent ρ α) :
    KeepsIds l (l.step event) := by
  cases event with
  | send message due => exact takeTurn_keepsIds l message due
  | resumeSend index due => exact resumeSend_keepsIds l index due
  | writeFinished index =>
      simp only [step, writeFinished]
      split <;> exact .of_eq rfl rfl
  | writeFailed index status =>
      simp only [step, writeFailed]
      split <;> exact .of_eq rfl rfl
  | renewalReads index => exact renewalReads_keepsIds l index
  | renewalReadFailed index status =>
      simp only [step, renewalReadFailed]
      split <;> exact .of_eq rfl rfl
  | receive requestId requestHandle => exact .of_eq rfl rfl
  | resumeReceive index => exact .of_eq rfl rfl
  | startReadLoop index =>
      simp only [step, startReadLoop]
      split <;> exact .of_eq rfl rfl
  | loopReads index => exact loopReads_keepsIds l index
  | loopReadFailed index status =>
      simp only [step, loopReadFailed]
      split <;> exact .of_eq rfl rfl
  | answer index chunks body => exact answer_keepsIds l index chunks body
  | answerRenewal serviceResult =>
      simp only [step, answerRenewal]
      split
      next => exact .of_eq rfl rfl
      next =>
        refine .of_eq rfl ?_
        simp [knownIds, openIds, WireFrame.completes]

end ClientLink

namespace ChannelRun

variable {ρ α : Type}

/-- The ids which are known are among those drawn, and differ. -/
structure IdsDrawn (first : UInt32) (r : ChannelRun ρ α) : Prop where
  next : r.link.nextRequestId = first + UInt32.ofNat r.drawnIds
  drawn : ∀ id ∈ r.link.knownIds,
    ∃ index < r.drawnIds, id = first + UInt32.ofNat index
  nodup : r.link.knownIds.Nodup

theorem ofNat_ne {first : UInt32} {index drawn : ℕ} (hlt : index < drawn)
    (hlast : drawn < 2 ^ 32) :
    first + UInt32.ofNat index ≠ first + UInt32.ofNat drawn := by
  intro heq
  have hids : UInt32.ofNat index = UInt32.ofNat drawn :=
    (UInt32.add_right_inj first).mp heq
  have hnat := congrArg UInt32.toNat hids
  rw [UInt32.toNat_ofNat_of_lt' (hlt.trans hlast),
    UInt32.toNat_ofNat_of_lt' hlast] at hnat
  omega

theorem nodup_of_subperm {ids known : List UInt32} (h : ids.Subperm known)
    (hnodup : known.Nodup) : ids.Nodup := by
  obtain ⟨part, hperm, hsub⟩ := h
  exact hperm.nodup_iff.mp (hnodup.sublist hsub)

theorem IdsDrawn.step {first : UInt32} {r : ChannelRun ρ α}
    (h : r.IdsDrawn first) {event : LinkEvent ρ α} (hlast : r.IdsLast event) :
    (r.step event).IdsDrawn first := by
  rcases r.link.step_keepsIds event with ⟨hnext, hids⟩ | ⟨hnext, hids⟩
  · have hdrawn : (r.step event).drawnIds = r.drawnIds := if_pos hnext
    refine ⟨?_, ?_, nodup_of_subperm hids h.nodup⟩
    · rw [hdrawn]
      exact hnext.trans h.next
    · intro id hmem
      rw [hdrawn]
      exact h.drawn id (hids.subset hmem)
  · have hne : (r.link.step event).nextRequestId ≠ r.link.nextRequestId := by
      rw [hnext]
      intro heq
      exact absurd (UInt32.add_eq_left.mp heq) (by decide)
    have hdrawn : (r.step event).drawnIds = r.drawnIds + 1 := if_neg hne
    unfold IdsLast at hlast
    rw [hdrawn] at hlast
    have hfresh : r.link.nextRequestId ∉ r.link.knownIds := by
      intro hmem
      obtain ⟨index, hlt, heq⟩ := h.drawn _ hmem
      rw [h.next] at heq
      exact ofNat_ne hlt (Nat.lt_of_succ_le hlast) heq.symm
    refine ⟨?_, ?_,
      nodup_of_subperm hids (List.nodup_cons.mpr ⟨hfresh, h.nodup⟩)⟩
    · rw [hdrawn, UInt32.ofNat_add, ← UInt32.add_assoc, ← h.next]
      exact hnext
    · intro id hmem
      rw [hdrawn]
      rcases List.mem_cons.mp (hids.subset hmem) with rfl | hknown
      · exact ⟨r.drawnIds, Nat.lt_succ_self _, h.next⟩
      · obtain ⟨index, hlt, heq⟩ := h.drawn id hknown
        exact ⟨index, Nat.lt_succ_of_lt hlt, heq⟩

theorem start_idsDrawn (nextRequestId : UInt32) (authenticationToken : NodeId) :
    (start nextRequestId authenticationToken :
      ChannelRun ρ α).IdsDrawn nextRequestId where
  next := (UInt32.add_zero nextRequestId).symm
  drawn id hmem := by cases hmem
  nodup := List.nodup_nil

/-- A response which the read loop takes has an id of its own. -/
theorem IdsDrawn.not_delivered {first : UInt32} {r : ChannelRun ρ α}
    (h : r.IdsDrawn first) {response : ClientResponseFrame α}
    {rest : List (WireFrame α)}
    (hincoming : r.link.incoming = .finalChunk response :: rest) :
    response.requestId ∉
      r.link.record.delivered.map ClientResponseFrame.requestId := by
  have happart := (List.nodup_append.mp h.nodup).2.2
  intro hmem
  refine happart response.requestId ?_ _ hmem rfl
  simp [ClientLink.openIds, hincoming, WireFrame.completes]

end ChannelRun

namespace ClientChannel

variable {ρ α : Type}

/-! ## The read loop -/

/-- There is one read loop or none, and one while a response is pending. -/
structure LoopServes (ch : ClientChannel ρ α) : Prop where
  loops : ch.readLoops.length = ch.readLoopRunning.toNat
  idle : ch.readLoopRunning = false → ch.noPendingResponses = true

theorem noPendingResponses_iff {ch : ClientChannel ρ α} :
    ch.noPendingResponses = true ↔
      ∀ requestId, ch.pendingResponses.lookup requestId = none := by
  unfold noPendingResponses
  rw [List.isEmpty_iff]
  constructor
  · intro hnil requestId
    cases hlookup : ch.pendingResponses.lookup requestId with
    | none => rfl
    | some pending =>
        have hmem := KeyedMap.mem_entries_iff.mpr hlookup
        rw [hnil] at hmem
        cases hmem
  · intro hnone
    apply List.eq_nil_iff_forall_not_mem.mpr
    rintro ⟨requestId, pending⟩ hmem
    have hlookup := KeyedMap.mem_entries_iff.mp hmem
    rw [hnone requestId] at hlookup
    cases hlookup

/-- The two maps and the receives which are ready stay as they are. -/
structure SameMaps (ch next : ClientChannel ρ α) : Prop where
  buffered : next.bufferedResponses = ch.bufferedResponses
  pending : next.pendingResponses = ch.pendingResponses
  ready : next.readyReceives = ch.readyReceives

theorem ensureReadLoop_sameMaps (ch : ClientChannel ρ α) :
    SameMaps ch ch.ensureReadLoop := by
  unfold ensureReadLoop
  split <;> exact ⟨rfl, rfl, rfl⟩

theorem endReadLoop_sameMaps (ch : ClientChannel ρ α) (index : ℕ) :
    SameMaps ch (ch.endReadLoop index) := by
  simp only [endReadLoop]
  split
  next => exact ⟨rfl, rfl, rfl⟩
  next =>
    have h := ensureReadLoop_sameMaps
      { ch with
        readLoopRunning := false
        readLoops := ch.readLoops.eraseIdx index }
    exact ⟨h.buffered, h.pending, h.ready⟩

theorem continueReadLoop_sameMaps (ch : ClientChannel ρ α) (index : ℕ) :
    SameMaps ch (ch.continueReadLoop index) := by
  unfold continueReadLoop
  split
  next => exact endReadLoop_sameMaps ch index
  next => exact ⟨rfl, rfl, rfl⟩

theorem LoopServes.ensureReadLoop {ch : ClientChannel ρ α}
    (hloops : ch.readLoops.length = ch.readLoopRunning.toNat) :
    ch.ensureReadLoop.LoopServes := by
  unfold ClientChannel.ensureReadLoop
  split
  next hrunning =>
    exact ⟨hloops, fun hidle => by rw [hrunning] at hidle; cases hidle⟩
  next hidle =>
    have hnone := ClientLink.eq_nil_of_flag hloops (Bool.eq_false_iff.mpr hidle)
    exact ⟨by simp [hnone], fun hstopped => by cases hstopped⟩

theorem LoopServes.receive {ch : ClientChannel ρ α} (h : ch.LoopServes)
    (requestId requestHandle : UInt32) :
    (ch.receive requestId requestHandle).LoopServes := by
  unfold ClientChannel.receive
  split
  next =>
    split
    next => exact h
    next => exact ⟨h.loops, h.idle⟩
  next => exact LoopServes.ensureReadLoop h.loops

theorem LoopServes.resumeReceive {ch : ClientChannel ρ α} (h : ch.LoopServes)
    (index : ℕ) : (ch.resumeReceive index).LoopServes := by
  unfold ClientChannel.resumeReceive
  split
  next => exact h
  next requestId _ _ =>
    refine ⟨h.loops, fun hidle => ?_⟩
    rw [noPendingResponses_iff]
    intro other
    have hnone := noPendingResponses_iff.mp (h.idle hidle) other
    rw [KeyedMap.lookup_erase_eq, hnone, ite_self]

theorem LoopServes.continueReadLoop {ch : ClientChannel ρ α} {loop : ReadLoop}
    (hloops : ch.readLoops = [loop]) (hrunning : ch.readLoopRunning = true) :
    (ch.continueReadLoop 0).LoopServes := by
  rcases ClientLink.continueReadLoop_cases hloops with
    ⟨hnone, hnext⟩ | ⟨_, hnext⟩ <;> rw [hnext]
  · exact ⟨rfl, fun _ => hnone⟩
  · refine ⟨by simp [hrunning], fun hidle => ?_⟩
    rw [hrunning] at hidle
    cases hidle

theorem LoopServes.fail {ch : ClientChannel ρ α} {loop : ReadLoop}
    (hloops : ch.readLoops = [loop]) (status : Status) :
    ((ch.failPendingResponses status).endReadLoop 0).LoopServes := by
  rw [ClientLink.endReadLoop_failPendingResponses hloops]
  exact ⟨rfl, fun _ => rfl⟩

end ClientChannel

namespace ClientLink

variable {ρ α : Type}

/-- The step leaves what the receives use. -/
structure SameReceives (l next : ClientLink ρ α) : Prop where
  buffered : next.channel.bufferedResponses = l.channel.bufferedResponses
  pending : next.channel.pendingResponses = l.channel.pendingResponses
  ready : next.channel.readyReceives = l.channel.readyReceives
  delivered : next.record.delivered = l.record.delivered
  failedReads : next.record.failedReads = l.record.failedReads

/-- The step leaves the read loop as well. -/
structure SameReaders (l next : ClientLink ρ α) : Prop
    extends SameReceives l next where
  loops : next.channel.readLoops = l.channel.readLoops
  running : next.channel.readLoopRunning = l.channel.readLoopRunning

theorem SameReaders.refl (l : ClientLink ρ α) : SameReaders l l :=
  ⟨⟨rfl, rfl, rfl, rfl, rfl⟩, rfl, rfl⟩

theorem SameReaders.loopServes {l next : ClientLink ρ α}
    (hsame : SameReaders l next) (h : l.channel.LoopServes) :
    next.channel.LoopServes := by
  refine ⟨by rw [hsame.loops, hsame.running]; exact h.loops, ?_⟩
  intro hidle
  rw [hsame.running] at hidle
  unfold ClientChannel.noPendingResponses
  rw [hsame.pending]
  exact h.idle hidle

theorem takeTurn_sameReaders (l : ClientLink ρ α) (message : ClientRequest ρ)
    (due : Bool) : SameReaders l (l.takeTurn message due) := by
  unfold takeTurn
  split
  next => exact ⟨⟨rfl, rfl, rfl, rfl, rfl⟩, rfl, rfl⟩
  next =>
    simp only
    split <;> exact ⟨⟨rfl, rfl, rfl, rfl, rfl⟩, rfl, rfl⟩

theorem step_sameReaders {l : ClientLink ρ α} (event : LinkEvent ρ α)
    (hevent : event.isReceiving = false) : SameReaders l (l.step event) := by
  cases event with
  | send message due => exact takeTurn_sameReaders l message due
  | resumeSend index due =>
      simp only [step, resumeSend]
      split
      next => exact .refl l
      next message _ =>
        have h := takeTurn_sameReaders
          { l with
            channel :=
              { l.channel with
                wokenSenders := l.channel.wokenSenders.eraseIdx index } }
          message due
        exact
          ⟨⟨h.buffered, h.pending, h.ready, h.delivered, h.failedReads⟩,
            h.loops, h.running⟩
  | writeFinished index =>
      simp only [step, writeFinished]
      split <;> exact ⟨⟨rfl, rfl, rfl, rfl, rfl⟩, rfl, rfl⟩
  | writeFailed index status =>
      simp only [step, writeFailed]
      split <;> exact ⟨⟨rfl, rfl, rfl, rfl, rfl⟩, rfl, rfl⟩
  | renewalReads index =>
      simp only [step, renewalReads]
      split
      next =>
        split <;> exact ⟨⟨rfl, rfl, rfl, rfl, rfl⟩, rfl, rfl⟩
      next => exact .refl l
  | renewalReadFailed index status =>
      simp only [step, renewalReadFailed]
      split <;> exact ⟨⟨rfl, rfl, rfl, rfl, rfl⟩, rfl, rfl⟩
  | answer index chunks body =>
      simp only [step, answer]
      split <;> exact ⟨⟨rfl, rfl, rfl, rfl, rfl⟩, rfl, rfl⟩
  | answerRenewal serviceResult =>
      simp only [step, answerRenewal]
      split <;> exact ⟨⟨rfl, rfl, rfl, rfl, rfl⟩, rfl, rfl⟩
  | receive _ _ => cases hevent
  | resumeReceive _ => cases hevent
  | startReadLoop _ => cases hevent
  | loopReads _ => cases hevent
  | loopReadFailed _ _ => cases hevent

theorem step_loopServes {l : ClientLink ρ α} (h : l.channel.LoopServes)
    (event : LinkEvent ρ α) : (l.step event).channel.LoopServes := by
  cases hevent : event.isReceiving with
  | false => exact (step_sameReaders _ hevent).loopServes h
  | true =>
      cases event with
      | receive requestId requestHandle => exact h.receive requestId requestHandle
      | resumeReceive index => exact h.resumeReceive index
      | startReadLoop index =>
          simp only [step, startReadLoop]
          split
          next hloop =>
            obtain ⟨hloops, rfl, hrunning⟩ :=
              eq_singleton_of_getElem? h.loops hloop
            exact .continueReadLoop hloops hrunning
          next => exact h
      | loopReads index =>
          simp only [step, loopReads]
          split
          next chunkIndex frame rest hloop hincoming =>
            obtain ⟨hloops, rfl, hrunning⟩ :=
              eq_singleton_of_getElem? h.loops hloop
            cases frame with
            | openResponse serviceResult => exact .fail hloops _
            | intermediateChunk requestId =>
                simp only
                split
                next => exact .fail hloops _
                next =>
                  refine ⟨?_, h.idle⟩
                  rw [List.length_set]
                  exact h.loops
            | finalChunk response =>
                have hsame := deliverResponse_coroutines l.channel response
                exact .continueReadLoop (hsame.readLoops.trans hloops)
                  (hsame.readLoopRunning.trans hrunning)
          next => exact h
      | loopReadFailed index status =>
          simp only [step, loopReadFailed]
          split
          next hloop =>
            obtain ⟨hloops, rfl, _⟩ := eq_singleton_of_getElem? h.loops hloop
            exact .fail hloops status
          next => exact h
      | _ => cases hevent

theorem step_renewalReads (l : ClientLink ρ α) (event : LinkEvent ρ α) :
    (l.step event).record.renewalReads =
      l.record.renewalReads ++ (l.renewalFrame event).toList := by
  have hquiet {next : ClientLink ρ α}
      (hrecord : next.record.renewalReads = l.record.renewalReads) :
      next.record.renewalReads = l.record.renewalReads ++ [] := by
    rw [hrecord, List.append_nil]
  cases event with
  | send message due =>
      apply hquiet
      simp only [step, takeTurn]
      split
      next => rfl
      next => split <;> rfl
  | resumeSend index due =>
      apply hquiet
      simp only [step, resumeSend]
      split
      next => rfl
      next =>
        simp only [takeTurn]
        split
        next => rfl
        next => split <;> rfl
  | writeFinished index =>
      apply hquiet
      simp only [step, writeFinished]
      split <;> rfl
  | writeFailed index status =>
      apply hquiet
      simp only [step, writeFailed]
      split <;> rfl
  | renewalReads index =>
      simp only [step, renewalReads, renewalFrame]
      cases hsend : l.channel.activeSends[index]? with
      | none => exact (List.append_nil _).symm
      | some send =>
          obtain ⟨message, stage⟩ := send
          cases stage with
          | readingOpen =>
              cases hincoming : l.incoming with
              | nil => exact (List.append_nil _).symm
              | cons frame rest =>
                  simp only
                  split <;> rfl
          | _ => exact (List.append_nil _).symm
  | renewalReadFailed index status =>
      apply hquiet
      simp only [step, renewalReadFailed]
      split <;> rfl
  | receive requestId requestHandle => exact hquiet rfl
  | resumeReceive index => exact hquiet rfl
  | startReadLoop index =>
      apply hquiet
      simp only [step, startReadLoop]
      split <;> rfl
  | loopReads index =>
      apply hquiet
      simp only [step, loopReads]
      split
      next chunkIndex frame rest _ _ =>
        cases frame with
        | openResponse serviceResult => rfl
        | intermediateChunk requestId =>
            simp only
            split <;> rfl
        | finalChunk response => rfl
      next => rfl
  | loopReadFailed index status =>
      apply hquiet
      simp only [step, loopReadFailed]
      split <;> rfl
  | answer index chunks body =>
      apply hquiet
      simp only [step, answer]
      split <;> rfl
  | answerRenewal serviceResult =>
      apply hquiet
      simp only [step, answerRenewal]
      split <;> rfl

end ClientLink
end OpcuaStack
