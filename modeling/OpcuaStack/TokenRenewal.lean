import OpcuaStack.TransportReaders

/-!
# Renewal of the security token

A client link has one holder of the send turn and one read loop at most, and
every step which leaves a renewal alone is a move of the readers.  So the
renewals of a run whose steps all do have the transport to themselves.  The
channel looks at its pending responses alone, which are not all the responses
still to come.
-/

namespace OpcuaStack

/-- What happens on a healthy connection: every write and every read succeeds,
the server grants the renewals, and its responses keep to the chunk limit. -/
def LinkEvent.Healthy {ρ α : Type} : LinkEvent ρ α → Prop
  | .writeFailed .. | .renewalReadFailed .. | .loopReadFailed .. => False
  | .answer _ chunks _ => chunks < maxResponseChunks
  | .answerRenewal serviceResult => serviceResult.isBad = false
  | _ => True

instance {ρ α : Type} (event : LinkEvent ρ α) : Decidable event.Healthy := by
  cases event <;> unfold LinkEvent.Healthy <;> infer_instance

namespace ClientLink

variable {ρ α : Type}

/-- A client link after the channel has been opened. -/
def opened (nextRequestId : UInt32) (authenticationToken : NodeId) :
    ClientLink ρ α :=
  { channel := { authenticationToken }
    nextRequestId }

def outstandingReads (l : ClientLink ρ α) : ℕ :=
  l.channel.activeSends.countP ActiveSend.isReading +
    l.channel.readLoops.countP ReadLoop.isReading

def renewing (l : ClientLink ρ α) : Bool :=
  l.channel.activeSends.any ActiveSend.isRenewing

def loopReading (l : ClientLink ρ α) : Bool :=
  l.channel.readLoops.any ReadLoop.isReading

/-! ## Steps which disturb a renewal -/

/-- The send which gets the turn finds the token due and nothing pending. -/
def renewsInTurn (l : ClientLink ρ α) (due : Bool) : Bool :=
  !l.channel.sendInProgress && l.channel.noPendingResponses && due

def startsRenewal (l : ClientLink ρ α) : LinkEvent ρ α → Bool
  | .send _ due => l.renewsInTurn due
  | .resumeSend index due =>
      l.channel.wokenSenders[index]?.isSome && l.renewsInTurn due
  | _ => false

def startsReading (l : ClientLink ρ α) : LinkEvent ρ α → Bool
  | .startReadLoop index =>
      l.channel.readLoops[index]? == some .spawned &&
        !l.channel.noPendingResponses
  | _ => false

def writesResponse (l : ClientLink ρ α) : LinkEvent ρ α → Bool
  | .answer index _ _ => l.requests[index]?.isSome
  | _ => false

/-- A renewal begins while the loop is not reading and no service response is on
its way.  Until it is over the loop does not begin to read, and the server writes
no service response ahead of the one for the renewal. -/
structure LeavesRenewalAlone (l : ClientLink ρ α) (event : LinkEvent ρ α) :
    Prop where
  quiet : l.startsRenewal event = true →
    l.loopReading = false ∧
      ∀ frame ∈ l.incoming, frame.isOpenResponse = true
  alone : l.startsReading event = true → l.renewing = false
  first : l.writesResponse event = true → l.renewing = true →
    ∃ frame ∈ l.incoming, frame.isOpenResponse = true

instance (l : ClientLink ρ α) (event : LinkEvent ρ α) :
    Decidable (l.LeavesRenewalAlone event) :=
  decidable_of_iff
    ((l.startsRenewal event = true →
        l.loopReading = false ∧
          ∀ frame ∈ l.incoming, frame.isOpenResponse = true) ∧
      (l.startsReading event = true → l.renewing = false) ∧
      (l.writesResponse event = true → l.renewing = true →
        ∃ frame ∈ l.incoming, frame.isOpenResponse = true))
    ⟨fun h => ⟨h.1, h.2.1, h.2.2⟩, fun h => ⟨h.quiet, h.alone, h.first⟩⟩

/-! ## One send turn and one loop -/

structure OneEach (l : ClientLink ρ α) : Prop where
  sends : l.channel.activeSends.length = l.channel.sendInProgress.toNat
  loops : l.channel.readLoops.length = l.channel.readLoopRunning.toNat

def readers (l : ClientLink ρ α) : ReaderState α where
  turn := (l.channel.activeSends.map ActiveSend.stage).head?
  loop := l.channel.readLoops.head?
  openRequests := l.openRequests
  incoming := l.incoming
  record := l.record

theorem eq_singleton_of_getElem? {β : Type} {elements : List β} {flag : Bool}
    (hlength : elements.length = flag.toNat) {index : ℕ} {element : β}
    (hindex : elements[index]? = some element) :
    elements = [element] ∧ index = 0 ∧ flag = true := by
  obtain ⟨hlt, helement⟩ := List.getElem?_eq_some_iff.mp hindex
  have hle : flag.toNat ≤ 1 := Bool.toNat_le flag
  have hone : elements.length = 1 := by omega
  obtain ⟨only, rfl⟩ := List.length_eq_one_iff.mp hone
  have hzero : index = 0 := by omega
  subst hzero
  refine ⟨by rw [← helement]; rfl, rfl, ?_⟩
  cases flag with
  | true => rfl
  | false => cases hlength

theorem eq_nil_of_flag {β : Type} {elements : List β} {flag : Bool}
    (hlength : elements.length = flag.toNat) (hflag : flag = false) :
    elements = [] := by
  rw [hflag] at hlength
  exact List.length_eq_zero_iff.mp hlength

theorem OneEach.activeSends_eq {l : ClientLink ρ α} (h : l.OneEach) {index : ℕ}
    {send : ActiveSend ρ} (hsend : l.channel.activeSends[index]? = some send) :
    l.channel.activeSends = [send] ∧ index = 0 ∧
      l.channel.sendInProgress = true :=
  eq_singleton_of_getElem? h.sends hsend

theorem OneEach.readLoops_eq {l : ClientLink ρ α} (h : l.OneEach) {index : ℕ}
    {loop : ReadLoop} (hloop : l.channel.readLoops[index]? = some loop) :
    l.channel.readLoops = [loop] ∧ index = 0 ∧
      l.channel.readLoopRunning = true :=
  eq_singleton_of_getElem? h.loops hloop

theorem renewing_readers {l : ClientLink ρ α} (h : l.OneEach) :
    l.readers.Renewing ↔ l.renewing = true := by
  have hle : l.channel.activeSends.length ≤ 1 :=
    h.sends.trans_le (Bool.toNat_le _)
  unfold ReaderState.Renewing renewing readers
  match l.channel.activeSends, hle with
  | [], _ => simp
  | [send], _ => simp [ActiveSend.isRenewing]

theorem loopReading_readers {l : ClientLink ρ α} (h : l.OneEach) :
    l.readers.LoopReading ↔ l.loopReading = true := by
  have hle : l.channel.readLoops.length ≤ 1 :=
    h.loops.trans_le (Bool.toNat_le _)
  unfold ReaderState.LoopReading loopReading readers
  match l.channel.readLoops, hle with
  | [], _ => simp
  | [loop], _ => simp

/-- A step keeps one send turn and one loop, and is a move of the readers. -/
structure Simulated (healthy : Prop) (l next : ClientLink ρ α) : Prop where
  oneEach : next.OneEach
  move : ReaderState.Move healthy l.readers next.readers

theorem Simulated.of_eq {healthy : Prop} {l next : ClientLink ρ α}
    (h : l.OneEach)
    (hactive : next.channel.activeSends = l.channel.activeSends)
    (hprogress : next.channel.sendInProgress = l.channel.sendInProgress)
    (hloops : next.channel.readLoops = l.channel.readLoops)
    (hrunning : next.channel.readLoopRunning = l.channel.readLoopRunning)
    (hreaders : next.readers = l.readers) : Simulated healthy l next := by
  refine ⟨⟨?_, ?_⟩, ?_⟩
  · rw [hactive, hprogress]
    exact h.sends
  · rw [hloops, hrunning]
    exact h.loops
  · rw [hreaders]
    exact .stay _

theorem takeTurn_simulated {healthy : Prop} {l : ClientLink ρ α}
    (h : l.OneEach) {message : ClientRequest ρ} {due : Bool}
    (hquiet : l.renewsInTurn due = true →
      l.loopReading = false ∧
        ∀ frame ∈ l.incoming, frame.isOpenResponse = true) :
    Simulated healthy l (l.takeTurn message due) := by
  unfold takeTurn
  split
  next => exact Simulated.of_eq h rfl rfl rfl rfl rfl
  next hfree =>
    have hnone : l.channel.activeSends = [] :=
      eq_nil_of_flag h.sends (Bool.eq_false_iff.mpr hfree)
    have hturn : l.readers.turn = none := by simp [readers, hnone]
    simp only
    split
    next hdue =>
      have hrenews : l.renewsInTurn due = true := by
        unfold renewsInTurn
        rw [Bool.eq_false_iff.mpr hfree, Bool.not_false, Bool.true_and]
        exact hdue
      obtain ⟨hloop, hincoming⟩ := hquiet hrenews
      refine ⟨⟨by simp [startRenewal, hnone], h.loops⟩, ?_⟩
      have hmove : ReaderState.Move healthy l.readers _ :=
        .startRenewal l.readers hturn
        (fun hreading => by
          rw [(loopReading_readers h).mp hreading] at hloop
          cases hloop)
        hincoming
      simpa [readers, startRenewal, hnone] using hmove
    next hlater =>
      refine ⟨⟨by simp [startRequest, hnone], h.loops⟩, ?_⟩
      have hmove : ReaderState.Move healthy l.readers _ :=
        .takeTurn l.readers
        l.nextRequestId hturn
      simpa [readers, startRequest, hnone] using hmove

theorem resumeSend_simulated {healthy : Prop} {l : ClientLink ρ α}
    (h : l.OneEach) {index : ℕ} {due : Bool}
    (hquiet : (l.channel.wokenSenders[index]?.isSome &&
        l.renewsInTurn due) = true →
      l.loopReading = false ∧
        ∀ frame ∈ l.incoming, frame.isOpenResponse = true) :
    Simulated healthy l (l.resumeSend index due) := by
  unfold resumeSend
  split
  next => exact Simulated.of_eq h rfl rfl rfl rfl rfl
  next message hwoken =>
    rw [hwoken, Option.isSome_some, Bool.true_and] at hquiet
    -- The woken send leaves its list, which the readers do not see.
    let awake : ClientLink ρ α :=
      { l with
        channel :=
          { l.channel with
            wokenSenders := l.channel.wokenSenders.eraseIdx index } }
    have hawake : awake.OneEach := ⟨h.sends, h.loops⟩
    have hturn : Simulated healthy awake (awake.takeTurn message due) :=
      takeTurn_simulated hawake hquiet
    exact ⟨hturn.oneEach, hturn.move⟩

theorem finishSend_simulated {healthy : Prop} {l : ClientLink ρ α}
    (h : l.OneEach) {index : ℕ} {send : ActiveSend ρ} {requestId : UInt32}
    (hsend : l.channel.activeSends[index]? = some send)
    (hstage : send.stage = .writingRequest requestId) :
    Simulated healthy l (l.finishSend index) := by
  obtain ⟨hsends, rfl, _⟩ := h.activeSends_eq hsend
  refine ⟨⟨?_, h.loops⟩, ?_⟩
  · simp [finishSend, ClientChannel.releaseSendTurn, hsends]
  · have hmove : ReaderState.Move healthy l.readers _ :=
        .releaseTurn l.readers
      requestId (by simp [readers, hsends, hstage])
    simpa [readers, finishSend, ClientChannel.releaseSendTurn, hsends]
      using hmove

theorem failRenewal_simulated {healthy : Prop} (hfault : ¬ healthy)
    {l : ClientLink ρ α} (h : l.OneEach) {index : ℕ} {send : ActiveSend ρ}
    (hsend : l.channel.activeSends[index]? = some send) (status : Status) :
    Simulated healthy l (l.failRenewal index status) := by
  obtain ⟨hsends, rfl, _⟩ := h.activeSends_eq hsend
  refine ⟨⟨?_, h.loops⟩, ?_⟩
  · simp [failRenewal, finishSend, ClientChannel.releaseSendTurn, hsends]
  · have hmove : ReaderState.Move healthy l.readers _ :=
        .renewalFails l.readers
      status hfault
    simpa [readers, failRenewal, finishSend, ClientChannel.releaseSendTurn,
      hsends] using hmove

theorem writeFinished_simulated {healthy : Prop} {l : ClientLink ρ α}
    (h : l.OneEach) (index : ℕ) :
    Simulated healthy l (l.writeFinished index) := by
  unfold writeFinished
  split
  next message hsend =>
    obtain ⟨hsends, rfl, hprogress⟩ := h.activeSends_eq hsend
    refine ⟨⟨by simp [hsends, hprogress], h.loops⟩, ?_⟩
    have hmove : ReaderState.Move healthy l.readers _ :=
        .openWritten l.readers
      (by simp [readers, hsends])
    simpa [readers, hsends] using hmove
  next hsend => exact finishSend_simulated h hsend rfl
  next => exact Simulated.of_eq h rfl rfl rfl rfl rfl

theorem writeFailed_simulated {healthy : Prop} (hfault : ¬ healthy)
    {l : ClientLink ρ α} (h : l.OneEach) (index : ℕ) (status : Status) :
    Simulated healthy l (l.writeFailed index status) := by
  unfold writeFailed
  split
  next hsend => exact failRenewal_simulated hfault h hsend status
  next hsend => exact finishSend_simulated h hsend rfl
  next => exact Simulated.of_eq h rfl rfl rfl rfl rfl

theorem renewalReadFailed_simulated {healthy : Prop} (hfault : ¬ healthy)
    {l : ClientLink ρ α} (h : l.OneEach) (index : ℕ) (status : Status) :
    Simulated healthy l (l.renewalReadFailed index status) := by
  unfold renewalReadFailed
  split
  next hsend => exact failRenewal_simulated hfault h hsend status
  next => exact Simulated.of_eq h rfl rfl rfl rfl rfl

theorem ofCode_bad_isBad : (Status.ofCode .bad).isBad = true := by decide

theorem renewalReads_simulated {healthy : Prop} {l : ClientLink ρ α}
    (h : l.OneEach) (index : ℕ) :
    Simulated healthy l (l.renewalReads index) := by
  unfold renewalReads
  split
  next message frame rest hsend hincoming =>
    obtain ⟨hsends, rfl, hprogress⟩ := h.activeSends_eq hsend
    have hturn : l.readers.turn = some .readingOpen := by
      simp [readers, hsends]
    simp only
    split
    next hbad =>
      refine ⟨⟨?_, h.loops⟩, ?_⟩
      · simp [failRenewal, finishSend, ClientChannel.releaseSendTurn, hsends]
      · have hmove : ReaderState.Move healthy l.readers _ :=
        .renewalRefused l.readers frame rest hturn hincoming hbad
        simpa [readers, failRenewal, finishSend,
          ClientChannel.releaseSendTurn, hsends] using hmove
    next hgood =>
      refine ⟨⟨by simp [startRequest, hsends, hprogress], h.loops⟩, ?_⟩
      cases frame with
      | openResponse serviceResult =>
          have hmove : ReaderState.Move healthy l.readers _ :=
        .renewalReads l.readers serviceResult rest l.nextRequestId hturn hincoming
          simpa [readers, startRequest, hsends] using hmove
      | intermediateChunk requestId => exact absurd ofCode_bad_isBad hgood
      | finalChunk response => exact absurd ofCode_bad_isBad hgood
  next => exact Simulated.of_eq h rfl rfl rfl rfl rfl

/-! ## The read loop -/

theorem continueReadLoop_cases {ch : ClientChannel ρ α} {loop : ReadLoop}
    (hloops : ch.readLoops = [loop]) :
    ch.noPendingResponses = true ∧
        ch.continueReadLoop 0 =
          { ch with readLoopRunning := false, readLoops := [] } ∨
      ch.noPendingResponses = false ∧
        ch.continueReadLoop 0 = { ch with readLoops := [.reading 0] } := by
  unfold ClientChannel.continueReadLoop
  split
  next hnone =>
    left
    refine ⟨hnone, ?_⟩
    unfold ClientChannel.endReadLoop
    simp only [hloops, List.eraseIdx_cons_zero]
    exact if_pos hnone
  next hsome =>
    right
    exact ⟨Bool.eq_false_iff.mpr hsome, by rw [hloops]; rfl⟩

theorem endReadLoop_failPendingResponses {ch : ClientChannel ρ α}
    {loop : ReadLoop} (hloops : ch.readLoops = [loop]) (status : Status) :
    (ch.failPendingResponses status).endReadLoop 0 =
      { ch.failPendingResponses status with
        readLoopRunning := false
        readLoops := [] } := by
  unfold ClientChannel.endReadLoop ClientChannel.failPendingResponses
  simp only [hloops, List.eraseIdx_cons_zero]
  exact if_pos rfl

theorem failRead_readers {l : ClientLink ρ α} {loop : ReadLoop}
    (hloops : l.channel.readLoops = [loop]) (status : Status) :
    (l.failRead 0 status).readers =
      { l.readers with
        loop := none
        record :=
          { l.record with failedReads := l.record.failedReads ++ [status] } } := by
  unfold failRead
  rw [endReadLoop_failPendingResponses hloops]
  rfl

theorem OneEach.failRead {l : ClientLink ρ α} (h : l.OneEach)
    {loop : ReadLoop} (hloops : l.channel.readLoops = [loop])
    (status : Status) : (l.failRead 0 status).OneEach := by
  unfold ClientLink.failRead
  rw [endReadLoop_failPendingResponses hloops]
  exact ⟨h.sends, rfl⟩

theorem loopReadFailed_simulated {healthy : Prop} (hfault : ¬ healthy)
    {l : ClientLink ρ α} (h : l.OneEach) (index : ℕ) (status : Status) :
    Simulated healthy l (l.loopReadFailed index status) := by
  unfold loopReadFailed
  split
  next hloop =>
    obtain ⟨hloops, rfl, _⟩ := h.readLoops_eq hloop
    refine ⟨h.failRead hloops status, ?_⟩
    rw [failRead_readers hloops]
    exact .loopFails l.readers status hfault
  next => exact Simulated.of_eq h rfl rfl rfl rfl rfl

theorem startReadLoop_simulated {healthy : Prop} {l : ClientLink ρ α}
    (h : l.OneEach) {index : ℕ}
    (halone : (l.channel.readLoops[index]? == some .spawned &&
      !l.channel.noPendingResponses) = true → l.renewing = false) :
    Simulated healthy l (l.startReadLoop index) := by
  unfold startReadLoop
  split
  next hloop =>
    obtain ⟨hloops, rfl, hrunning⟩ := h.readLoops_eq hloop
    have hspawned : l.readers.loop = some .spawned := by
      simp [readers, hloops]
    rcases continueReadLoop_cases hloops with
      ⟨hnone, hnext⟩ | ⟨hsome, hnext⟩ <;> rw [hnext]
    · exact ⟨⟨h.sends, rfl⟩, .endLoop l.readers hspawned⟩
    · have hidle : l.renewing = false := by
        apply halone
        rw [hloop, hsome]
        rfl
      refine ⟨⟨h.sends, by simp [hrunning]⟩, ?_⟩
      apply ReaderState.Move.startLoop l.readers hspawned
      rw [renewing_readers h, hidle]
      exact Bool.false_ne_true
  next => exact Simulated.of_eq h rfl rfl rfl rfl rfl

/-- The coroutines which send and the read loop are the same. -/
structure SameCoroutines (ch next : ClientChannel ρ α) : Prop where
  activeSends : next.activeSends = ch.activeSends
  sendInProgress : next.sendInProgress = ch.sendInProgress
  readLoops : next.readLoops = ch.readLoops
  readLoopRunning : next.readLoopRunning = ch.readLoopRunning

theorem deliverResponse_coroutines (ch : ClientChannel ρ α)
    (frame : ClientResponseFrame α) :
    SameCoroutines ch (ch.deliverResponse frame) := by
  unfold ClientChannel.deliverResponse
  split
  next => exact ⟨rfl, rfl, rfl, rfl⟩
  next => split <;> exact ⟨rfl, rfl, rfl, rfl⟩

theorem resumeReceive_coroutines (ch : ClientChannel ρ α) (index : ℕ) :
    SameCoroutines ch (ch.resumeReceive index) := by
  unfold ClientChannel.resumeReceive
  split <;> exact ⟨rfl, rfl, rfl, rfl⟩

theorem Simulated.of_coroutines {healthy : Prop} {l : ClientLink ρ α}
    (h : l.OneEach) {ch : ClientChannel ρ α}
    (hsame : SameCoroutines l.channel ch) :
    Simulated healthy l { l with channel := ch } := by
  refine .of_eq h hsame.activeSends hsame.sendInProgress hsame.readLoops
    hsame.readLoopRunning ?_
  simp [readers, hsame.activeSends, hsame.readLoops]

theorem ensureReadLoop_simulated {healthy : Prop} {l : ClientLink ρ α}
    (h : l.OneEach) {ch : ClientChannel ρ α}
    (hsame : SameCoroutines l.channel ch) :
    Simulated healthy l { l with channel := ch.ensureReadLoop } := by
  unfold ClientChannel.ensureReadLoop
  split
  next => exact .of_coroutines h hsame
  next hidle =>
    rw [hsame.readLoopRunning] at hidle
    have hnone : l.channel.readLoops = [] :=
      eq_nil_of_flag h.loops (Bool.eq_false_iff.mpr hidle)
    refine ⟨⟨?_, by simp [hsame.readLoops, hnone]⟩, ?_⟩
    · simp only [hsame.activeSends, hsame.sendInProgress]
      exact h.sends
    · have hmove : ReaderState.Move healthy l.readers _ :=
        .spawnLoop l.readers (by simp [readers, hnone])
      simpa [readers, hsame.activeSends, hsame.readLoops, hnone] using hmove

theorem receive_simulated {healthy : Prop} {l : ClientLink ρ α}
    (h : l.OneEach) (requestId requestHandle : UInt32) :
    Simulated healthy l
      { l with channel := l.channel.receive requestId requestHandle } := by
  unfold ClientChannel.receive
  split
  next =>
    split <;> exact .of_coroutines h ⟨rfl, rfl, rfl, rfl⟩
  next => exact ensureReadLoop_simulated h ⟨rfl, rfl, rfl, rfl⟩

theorem loopReads_simulated {healthy : Prop} {l : ClientLink ρ α}
    (h : l.OneEach) (index : ℕ) :
    Simulated healthy l (l.loopReads index) := by
  unfold loopReads
  split
  next chunkIndex frame rest hloop hincoming =>
    obtain ⟨hloops, rfl, hrunning⟩ := h.readLoops_eq hloop
    have hreading : l.readers.loop = some (.reading chunkIndex) := by
      simp [readers, hloops]
    have htaken : ({ l with incoming := rest } : ClientLink ρ α).OneEach :=
      ⟨h.sends, h.loops⟩
    have hfails := failRead_readers (l := { l with incoming := rest }) hloops
      (.ofCode .bad)
    cases frame with
    | openResponse serviceResult =>
        simp only
        refine ⟨htaken.failRead hloops _, ?_⟩
        rw [hfails]
        exact .loopReadsOpen l.readers chunkIndex serviceResult rest _ hreading
          hincoming
    | intermediateChunk requestId =>
        simp only
        split
        next hexceeds =>
          refine ⟨htaken.failRead hloops _, ?_⟩
          rw [hfails]
          exact .loopExceedsLimit l.readers chunkIndex requestId rest _ hreading
            hincoming hexceeds
        next hlimit =>
          refine ⟨⟨h.sends, by simp [hloops, hrunning]⟩, ?_⟩
          have hmove : ReaderState.Move healthy l.readers _ :=
            .loopReadsChunk l.readers chunkIndex requestId rest hreading
              hincoming (Nat.lt_of_not_le hlimit)
          simpa [readers, hloops] using hmove
    | finalChunk response =>
        have hsame := deliverResponse_coroutines l.channel response
        have hdelivered := hsame.readLoops.trans hloops
        simp only
        rcases continueReadLoop_cases hdelivered with
          ⟨_, hnext⟩ | ⟨_, hnext⟩ <;> rw [hnext]
        · refine ⟨⟨?_, rfl⟩, ?_⟩
          · simp only [hsame.activeSends, hsame.sendInProgress]
            exact h.sends
          · have hmove : ReaderState.Move healthy l.readers _ :=
              .loopReadsResponse l.readers chunkIndex response rest none
                hreading hincoming (.inl rfl)
            simpa [readers, hsame.activeSends] using hmove
        · refine ⟨⟨?_, ?_⟩, ?_⟩
          · simp only [hsame.activeSends, hsame.sendInProgress]
            exact h.sends
          · simp [hsame.readLoopRunning, hrunning]
          · have hmove : ReaderState.Move healthy l.readers _ :=
              .loopReadsResponse l.readers chunkIndex response rest
                (some (.reading 0)) hreading hincoming (.inr rfl)
            simpa [readers, hsame.activeSends] using hmove
  next => exact Simulated.of_eq h rfl rfl rfl rfl rfl

/-! ## The server -/

theorem answer_simulated {healthy : Prop} {l : ClientLink ρ α} (h : l.OneEach)
    {index chunks : ℕ} {body : α}
    (hfirst : l.requests[index]?.isSome = true → l.renewing = true →
      ∃ frame ∈ l.incoming, frame.isOpenResponse = true)
    (hchunks : healthy → chunks < maxResponseChunks) :
    Simulated healthy l (l.answer index chunks body) := by
  unfold answer
  split
  next => exact Simulated.of_eq h rfl rfl rfl rfl rfl
  next request hrequest =>
    refine ⟨⟨h.sends, h.loops⟩, ?_⟩
    apply ReaderState.Move.answer l.readers
    · intro hrenewing
      apply hfirst (by rw [hrequest]; rfl)
      exact (renewing_readers h).mp hrenewing
    · exact hchunks

theorem answerRenewal_simulated {healthy : Prop} {l : ClientLink ρ α}
    (h : l.OneEach) {serviceResult : Status}
    (hgood : healthy → serviceResult.isBad = false) :
    Simulated healthy l (l.answerRenewal serviceResult) := by
  unfold answerRenewal
  split
  next => exact Simulated.of_eq h rfl rfl rfl rfl rfl
  next hopen =>
    exact ⟨⟨h.sends, h.loops⟩, .answerRenewal l.readers serviceResult hopen hgood⟩

theorem step_simulated {l : ClientLink ρ α} (h : l.OneEach)
    {event : LinkEvent ρ α} (hguard : l.LeavesRenewalAlone event) :
    Simulated event.Healthy l (l.step event) := by
  cases event with
  | send message due => exact takeTurn_simulated h hguard.quiet
  | resumeSend index due => exact resumeSend_simulated h hguard.quiet
  | writeFinished index => exact writeFinished_simulated h index
  | writeFailed index status => exact writeFailed_simulated id h index status
  | renewalReads index => exact renewalReads_simulated h index
  | renewalReadFailed index status =>
      exact renewalReadFailed_simulated id h index status
  | receive requestId requestHandle =>
      exact receive_simulated h requestId requestHandle
  | resumeReceive index =>
      exact .of_coroutines h (resumeReceive_coroutines l.channel index)
  | startReadLoop index => exact startReadLoop_simulated h hguard.alone
  | loopReads index => exact loopReads_simulated h index
  | loopReadFailed index status =>
      exact loopReadFailed_simulated id h index status
  | answer index chunks body => exact answer_simulated h hguard.first id
  | answerRenewal serviceResult => exact answerRenewal_simulated h id

/-! ## Runs -/

/-- What a renewal relies on: it is the only reader while it runs, and reads no
response but its own. -/
structure OnlyReader (l : ClientLink ρ α) : Prop where
  reads : l.outstandingReads ≤ 1
  frames : ∀ frame ∈ l.record.renewalReads, frame.isOpenResponse = true

/-- No renewal and no pending response has failed, and every response which the
server wrote was delivered, in the order of the wire, or is still unread. -/
structure NothingLost (l : ClientLink ρ α) : Prop where
  renewals : l.record.failedRenewals = []
  receives : l.record.failedReads = []
  responses : l.record.answered =
    l.record.delivered ++ l.incoming.filterMap WireFrame.completes

theorem outstandingReads_le_one {l : ClientLink ρ α} (h : l.OneEach)
    (hexclusive : l.readers.Exclusive) : l.outstandingReads ≤ 1 := by
  have hsends : l.channel.activeSends.countP ActiveSend.isReading ≤ 1 :=
    List.countP_le_length.trans (h.sends.trans_le (Bool.toNat_le _))
  have hloops : l.channel.readLoops.countP ReadLoop.isReading ≤ 1 :=
    List.countP_le_length.trans (h.loops.trans_le (Bool.toNat_le _))
  unfold outstandingReads
  by_cases hreading : l.renewing = true
  · have hidle : l.loopReading = false := by
      rw [Bool.eq_false_iff, ne_eq, ← loopReading_readers h]
      exact hexclusive.alone ((renewing_readers h).mpr hreading)
    have hnone : l.channel.readLoops.countP ReadLoop.isReading = 0 :=
      List.countP_eq_zero.mpr (by simpa [loopReading] using hidle)
    omega
  · have hnone : l.channel.activeSends.countP ActiveSend.isReading = 0 := by
      apply List.countP_eq_zero.mpr
      intro send hmem hread
      apply hreading
      refine List.any_eq_true.mpr ⟨send, hmem, ?_⟩
      have hstage : send.stage = .readingOpen := by
        simpa [ActiveSend.isReading] using hread
      rw [ActiveSend.isRenewing, hstage]
      rfl
    omega

theorem opened_oneEach (nextRequestId : UInt32) (authenticationToken : NodeId) :
    (opened nextRequestId authenticationToken : ClientLink ρ α).OneEach :=
  ⟨rfl, rfl⟩

theorem run_exclusive {nextRequestId : UInt32} {authenticationToken : NodeId}
    {events : List (LinkEvent ρ α)}
    (hguard : AllMeet step LeavesRenewalAlone
      (opened nextRequestId authenticationToken) events) :
    (runFrom step (opened nextRequestId authenticationToken) events).OneEach ∧
      (runFrom step (opened nextRequestId authenticationToken)
        events).readers.Exclusive := by
  apply runFrom_invariant (P := fun l : ClientLink ρ α =>
    l.OneEach ∧ l.readers.Exclusive) ?_ ?_ hguard
  · intro l event h hevent
    have hstep := step_simulated h.1 hevent
    exact ⟨hstep.oneEach, hstep.move.exclusive h.2⟩
  · refine ⟨opened_oneEach _ _, ?_⟩
    exact ReaderState.Exclusive.of_not_renewing
      (ReaderState.not_renewing rfl) (by simp [opened, readers])

theorem run_intact {nextRequestId : UInt32} {authenticationToken : NodeId}
    {events : List (LinkEvent ρ α)}
    (hguard : AllMeet step LeavesRenewalAlone
      (opened nextRequestId authenticationToken) events)
    (hhealthy : ∀ event ∈ events, event.Healthy) :
    (runFrom step (opened nextRequestId authenticationToken)
      events).readers.Intact := by
  have hboth := hguard.and (AllMeet.of_forall hhealthy _)
  refine (runFrom_invariant (P := fun l : ClientLink ρ α =>
    (l.OneEach ∧ l.readers.Exclusive) ∧ l.readers.Intact) ?_ ?_ hboth).2
  · intro l event h hevent
    have hstep := step_simulated h.1.1 hevent.1
    exact ⟨⟨hstep.oneEach, hstep.move.exclusive h.1.2⟩,
      hstep.move.intact hevent.2 h.1.2 h.2⟩
  · refine ⟨@run_exclusive ρ α nextRequestId authenticationToken [] trivial, ?_⟩
    exact ⟨rfl, by simp [opened, readers], rfl, rfl, rfl, rfl⟩

/-- In a run whose steps all leave the renewals alone, every renewal is the only
reader, and on a healthy connection none fails and no response is lost. -/
theorem renewal_only_reader (nextRequestId : UInt32)
    (authenticationToken : NodeId) (events : List (LinkEvent ρ α))
    (hguard : AllMeet step LeavesRenewalAlone
      (opened nextRequestId authenticationToken) events) :
    (runFrom step (opened nextRequestId authenticationToken)
        events).OnlyReader ∧
      ((∀ event ∈ events, event.Healthy) →
        (runFrom step (opened nextRequestId authenticationToken)
          events).NothingLost) := by
  obtain ⟨honeEach, hexclusive⟩ := run_exclusive hguard
  refine ⟨⟨outstandingReads_le_one honeEach hexclusive, hexclusive.reads⟩, ?_⟩
  intro hhealthy
  have hintact := run_intact hguard hhealthy
  exact ⟨hintact.renewals, hintact.receives, hintact.ledger⟩

/-- A publish is in flight when the token falls due.  The renewal is answered
first, and then the publish, which a receive waits for. -/
def renewalAnsweredFirst : List (LinkEvent String String) :=
  [.send { requestHandle := 1, body := "Publish" } false, .writeFinished 0,
    .send { requestHandle := 2, body := "Publish" } true, .writeFinished 0,
    .answerRenewal .good, .renewalReads 0, .writeFinished 0,
    .receive 2 1, .startReadLoop 0, .answer 0 1 "Notification",
    .loopReads 0, .loopReads 0, .resumeReceive 0]

theorem renewal_answered_first_only_reader :
    (∀ event ∈ renewalAnsweredFirst, event.Healthy) ∧
      (runFrom step (opened 2 {}) renewalAnsweredFirst).OnlyReader ∧
      (runFrom step (opened 2 {}) renewalAnsweredFirst).NothingLost ∧
      (runFrom step (opened 2 {}) renewalAnsweredFirst).record.delivered =
        [{ requestId := 2, requestHandle := 1, body := "Notification" }] := by
  have hhealthy : ∀ event ∈ renewalAnsweredFirst, event.Healthy := by decide
  have hreader := renewal_only_reader 2 {} renewalAnsweredFirst (by decide)
  exact ⟨hhealthy, hreader.1, hreader.2 hhealthy, by decide⟩

/-- The server answers the publish, whose receive has not been called, before
the next send finds the token due. -/
def answeredBeforeRenewal : List (LinkEvent String String) :=
  [.send { requestHandle := 1, body := "Publish" } false, .writeFinished 0,
    .answer 0 0 "Notification",
    .send { requestHandle := 2, body := "Publish" } true, .writeFinished 0,
    .renewalReads 0]

/-- The receive of the publish in flight is called while the renewal waits for
its response. -/
def receivedDuringRenewal : List (LinkEvent String String) :=
  [.send { requestHandle := 1, body := "Publish" } false, .writeFinished 0,
    .send { requestHandle := 2, body := "Publish" } true, .writeFinished 0,
    .receive 2 1, .startReadLoop 0]

/-- On a healthy connection a renewal reads the response of a publish, fails and
drops it, and a receive puts a second reader beside a renewal. -/
theorem renewal_steals_response :
    ((∀ event ∈ answeredBeforeRenewal, event.Healthy) ∧
      (runFrom step (opened 2 {}) answeredBeforeRenewal).record =
        { answered :=
            [{ requestId := 2, requestHandle := 1, body := "Notification" }]
          renewalReads :=
            [.finalChunk
              { requestId := 2, requestHandle := 1, body := "Notification" }]
          failedRenewals := [.ofCode .bad] } ∧
      (runFrom step (opened 2 {}) answeredBeforeRenewal).incoming = []) ∧
    (∀ event ∈ receivedDuringRenewal, event.Healthy) ∧
      (runFrom step (opened 2 {}) receivedDuringRenewal).outstandingReads = 2 := by
  decide

end ClientLink
end OpcuaStack
