import OpcuaStack.ClientLink

/-!
# The readers of the transport

What matters of a client link to those who read the transport: who holds the
send turn, the read loop, and the frames on their way.  There is at most one of
the former two.  A move is a step which leaves a renewal alone, and no sequence
of them has two readers or hands a renewal a service response.
-/

namespace OpcuaStack

structure ReaderState (α : Type) where
  turn : Option SendStage
  loop : Option ReadLoop
  openRequests : ℕ
  incoming : List (WireFrame α)
  record : LinkRecord α

namespace ReaderState

variable {α : Type}

def Renewing (v : ReaderState α) : Prop :=
  v.turn.any SendStage.isRenewing = true

def LoopReading (v : ReaderState α) : Prop :=
  v.loop.any ReadLoop.isReading = true

/-- The moves of the readers, on a connection which may fail unless it is
`healthy`. -/
inductive Move (healthy : Prop) : ReaderState α → ReaderState α → Prop where
  | stay (v) : Move healthy v v
  | takeTurn (v requestId) (hfree : v.turn = none) :
      Move healthy v { v with turn := some (.writingRequest requestId) }
  | startRenewal (v) (hfree : v.turn = none) (hloop : ¬ v.LoopReading)
      (hincoming : ∀ frame ∈ v.incoming, frame.isOpenResponse = true) :
      Move healthy v
        { v with
          turn := some .writingOpen
          openRequests := v.openRequests + 1 }
  | openWritten (v) (hturn : v.turn = some .writingOpen) :
      Move healthy v { v with turn := some .readingOpen }
  | releaseTurn (v requestId)
      (hturn : v.turn = some (.writingRequest requestId)) :
      Move healthy v { v with turn := none }
  | renewalReads (v serviceResult rest requestId)
      (hturn : v.turn = some .readingOpen)
      (hincoming : v.incoming = .openResponse serviceResult :: rest) :
      Move healthy v
        { v with
          turn := some (.writingRequest requestId)
          incoming := rest
          record :=
            { v.record with
              renewalReads :=
                v.record.renewalReads ++ [.openResponse serviceResult] } }
  | renewalRefused (v frame rest) (hturn : v.turn = some .readingOpen)
      (hincoming : v.incoming = frame :: rest)
      (hbad : (ClientLink.renewalStatus frame).isBad = true) :
      Move healthy v
        { v with
          turn := none
          incoming := rest
          record :=
            { v.record with
              renewalReads := v.record.renewalReads ++ [frame]
              failedRenewals :=
                v.record.failedRenewals ++ [ClientLink.renewalStatus frame] } }
  | renewalFails (v status) (hfault : ¬ healthy) :
      Move healthy v
        { v with
          turn := none
          record :=
            { v.record with
              failedRenewals := v.record.failedRenewals ++ [status] } }
  | spawnLoop (v) (hloop : v.loop = none) :
      Move healthy v { v with loop := some .spawned }
  | startLoop (v) (hloop : v.loop = some .spawned) (hturn : ¬ v.Renewing) :
      Move healthy v { v with loop := some (.reading 0) }
  | endLoop (v) (hloop : v.loop = some .spawned) :
      Move healthy v { v with loop := none }
  | loopReadsChunk (v chunkIndex requestId rest)
      (hloop : v.loop = some (.reading chunkIndex))
      (hincoming : v.incoming = .intermediateChunk requestId :: rest)
      (hlimit : chunkIndex + 1 < maxResponseChunks) :
      Move healthy v
        { v with
          loop := some (.reading (chunkIndex + 1))
          incoming := rest }
  | loopReadsResponse (v chunkIndex response rest next)
      (hloop : v.loop = some (.reading chunkIndex))
      (hincoming : v.incoming = .finalChunk response :: rest)
      (hnext : next = none ∨ next = some (.reading 0)) :
      Move healthy v
        { v with
          loop := next
          incoming := rest
          record :=
            { v.record with delivered := v.record.delivered ++ [response] } }
  | loopReadsOpen (v chunkIndex serviceResult rest status)
      (hloop : v.loop = some (.reading chunkIndex))
      (hincoming : v.incoming = .openResponse serviceResult :: rest) :
      Move healthy v
        { v with
          loop := none
          incoming := rest
          record :=
            { v.record with
              failedReads := v.record.failedReads ++ [status] } }
  | loopExceedsLimit (v chunkIndex requestId rest status)
      (hloop : v.loop = some (.reading chunkIndex))
      (hincoming : v.incoming = .intermediateChunk requestId :: rest)
      (hlimit : maxResponseChunks ≤ chunkIndex + 1) :
      Move healthy v
        { v with
          loop := none
          incoming := rest
          record :=
            { v.record with
              failedReads := v.record.failedReads ++ [status] } }
  | loopFails (v status) (hfault : ¬ healthy) :
      Move healthy v
        { v with
          loop := none
          record :=
            { v.record with
              failedReads := v.record.failedReads ++ [status] } }
  | answer (v chunks response)
      (hfirst : v.Renewing →
        ∃ frame ∈ v.incoming, frame.isOpenResponse = true)
      (hchunks : healthy → chunks < maxResponseChunks) :
      Move healthy v
        { v with
          incoming := v.incoming ++ WireFrame.chunksOf chunks response
          record :=
            { v.record with
              answered := v.record.answered ++ [response] } }
  | answerRenewal (v serviceResult) (hopen : v.openRequests ≠ 0)
      (hgood : healthy → serviceResult.isBad = false) :
      Move healthy v
        { v with
          openRequests := v.openRequests - 1
          incoming := v.incoming ++ [.openResponse serviceResult] }

/-! ## One reader -/

/-- A renewal has the transport to itself, and the frame it is about to read, if
there is one, is the response it waits for. -/
structure Exclusive (v : ReaderState α) : Prop where
  alone : v.Renewing → ¬ v.LoopReading
  head : v.Renewing →
    ∀ frame ∈ v.incoming.head?, frame.isOpenResponse = true
  reads : ∀ frame ∈ v.record.renewalReads, frame.isOpenResponse = true

theorem renewing_iff {v : ReaderState α} {stage : SendStage}
    (hturn : v.turn = some stage) : v.Renewing ↔ stage.isRenewing = true := by
  simp [Renewing, hturn]

theorem not_renewing {v : ReaderState α} (hturn : v.turn = none) :
    ¬ v.Renewing := by
  simp [Renewing, hturn]

theorem loopReading_iff {v : ReaderState α} {loop : ReadLoop}
    (hloop : v.loop = some loop) : v.LoopReading ↔ loop.isReading = true := by
  simp [LoopReading, hloop]

theorem not_loopReading {v : ReaderState α} (hloop : v.loop = none) :
    ¬ v.LoopReading := by
  simp [LoopReading, hloop]

theorem Exclusive.of_not_renewing {v : ReaderState α} (hturn : ¬ v.Renewing)
    (hreads : ∀ frame ∈ v.record.renewalReads, frame.isOpenResponse = true) :
    v.Exclusive :=
  ⟨fun h => absurd h hturn, fun h => absurd h hturn, hreads⟩

/-- While the loop reads, no renewal is under way, whatever the loop makes of
the frame. -/
theorem Exclusive.of_loop {v w : ReaderState α} (h : v.Exclusive)
    {chunkIndex : ℕ} (hloop : v.loop = some (.reading chunkIndex))
    (hturn : w.turn = v.turn)
    (hreads : w.record.renewalReads = v.record.renewalReads) :
    w.Exclusive := by
  have hidle : ¬ v.Renewing := by
    intro hrenewing
    exact h.alone hrenewing ((loopReading_iff hloop).mpr rfl)
  apply Exclusive.of_not_renewing
  · unfold Renewing at hidle ⊢
    rw [hturn]
    exact hidle
  · rw [hreads]
    exact h.reads

theorem head?_append_of_exists {frames more : List (WireFrame α)}
    (h : ∃ frame ∈ frames, frame.isOpenResponse = true) :
    (frames ++ more).head? = frames.head? := by
  obtain ⟨frame, hmem, _⟩ := h
  cases frames with
  | nil => exact absurd hmem List.not_mem_nil
  | cons first rest => rfl

theorem Move.exclusive {healthy : Prop} {v w : ReaderState α}
    (hmove : Move healthy v w) (h : v.Exclusive) : w.Exclusive := by
  cases hmove with
  | stay => exact h
  | takeTurn requestId hfree =>
      apply Exclusive.of_not_renewing
      · simp [Renewing, SendStage.isRenewing]
      · exact h.reads
  | startRenewal hfree hloop hincoming =>
      refine ⟨fun _ => hloop, fun _ frame hframe => ?_, h.reads⟩
      exact hincoming frame (List.mem_of_mem_head? hframe)
  | openWritten hturn =>
      have hrenewing : v.Renewing := (renewing_iff hturn).mpr rfl
      exact ⟨fun _ => h.alone hrenewing, fun _ => h.head hrenewing, h.reads⟩
  | releaseTurn requestId hturn =>
      exact Exclusive.of_not_renewing (not_renewing rfl) h.reads
  | renewalReads serviceResult rest requestId hturn hincoming =>
      apply Exclusive.of_not_renewing
      · simp [Renewing, SendStage.isRenewing]
      · intro frame hframe
        rcases List.mem_append.mp hframe with hold | hnew
        · exact h.reads frame hold
        · rw [List.mem_singleton.mp hnew]
          rfl
  | renewalRefused frame rest hturn hincoming hbad =>
      apply Exclusive.of_not_renewing (not_renewing rfl)
      intro other hother
      rcases List.mem_append.mp hother with hold | hnew
      · exact h.reads other hold
      · rw [List.mem_singleton.mp hnew]
        apply h.head ((renewing_iff hturn).mpr rfl)
        rw [hincoming]
        rfl
  | renewalFails status hfault =>
      exact Exclusive.of_not_renewing (not_renewing rfl) h.reads
  | spawnLoop hloop =>
      exact ⟨fun _ => by simp [LoopReading, ReadLoop.isReading], h.head,
        h.reads⟩
  | startLoop hloop hturn => exact Exclusive.of_not_renewing hturn h.reads
  | endLoop hloop => exact ⟨fun _ => not_loopReading rfl, h.head, h.reads⟩
  | loopReadsChunk chunkIndex requestId rest hloop hincoming hlimit =>
      exact h.of_loop hloop rfl rfl
  | loopReadsResponse chunkIndex response rest next hloop hincoming hnext =>
      exact h.of_loop hloop rfl rfl
  | loopReadsOpen chunkIndex serviceResult rest status hloop hincoming =>
      exact h.of_loop hloop rfl rfl
  | loopExceedsLimit chunkIndex requestId rest status hloop hincoming hlimit =>
      exact h.of_loop hloop rfl rfl
  | loopFails status hfault =>
      exact ⟨fun _ => not_loopReading rfl, h.head, h.reads⟩
  | answer chunks response hfirst hchunks =>
      refine ⟨h.alone, fun hrenewing => ?_, h.reads⟩
      rw [head?_append_of_exists (hfirst hrenewing)]
      exact h.head hrenewing
  | answerRenewal serviceResult hopen hgood =>
      refine ⟨h.alone, fun hrenewing => ?_, h.reads⟩
      have hhead := h.head hrenewing
      simp only
      cases hincoming : v.incoming with
      | nil => simp [WireFrame.isOpenResponse]
      | cons first rest =>
          rw [hincoming] at hhead
          exact hhead

/-! ## Nothing is lost -/

/-- No response has too many chunks, given that the first one has had so many of
its chunks read. -/
def WithinLimit : ℕ → List (WireFrame α) → Prop
  | chunkIndex, [] => chunkIndex = 0
  | chunkIndex, .openResponse _ :: rest => WithinLimit chunkIndex rest
  | chunkIndex, .intermediateChunk _ :: rest =>
      chunkIndex + 1 < maxResponseChunks ∧ WithinLimit (chunkIndex + 1) rest
  | _, .finalChunk _ :: rest => WithinLimit 0 rest

theorem WithinLimit.append {chunkIndex : ℕ} {frames more : List (WireFrame α)}
    (h : WithinLimit chunkIndex frames) (hmore : WithinLimit 0 more) :
    WithinLimit chunkIndex (frames ++ more) := by
  induction frames generalizing chunkIndex with
  | nil =>
      have hzero : chunkIndex = 0 := h
      subst hzero
      exact hmore
  | cons frame rest ih =>
      cases frame with
      | openResponse serviceResult => exact ih h
      | intermediateChunk requestId => exact ⟨h.1, ih h.2⟩
      | finalChunk response => exact ih h

theorem withinLimit_chunksOf {chunkIndex chunks : ℕ}
    (h : chunkIndex + chunks < maxResponseChunks)
    (response : ClientResponseFrame α) :
    WithinLimit chunkIndex (WireFrame.chunksOf chunks response) := by
  induction chunks generalizing chunkIndex with
  | zero => rfl
  | succ chunks ih =>
      exact ⟨by omega, ih (by omega)⟩

@[simp] theorem countP_chunksOf (chunks : ℕ)
    (response : ClientResponseFrame α) :
    (WireFrame.chunksOf chunks response).countP WireFrame.isOpenResponse = 0 := by
  simp [WireFrame.chunksOf, List.countP_replicate, WireFrame.isOpenResponse]

@[simp] theorem filterMap_chunksOf (chunks : ℕ)
    (response : ClientResponseFrame α) :
    (WireFrame.chunksOf chunks response).filterMap WireFrame.completes =
      [response] := by
  simp [WireFrame.chunksOf, WireFrame.completes, List.filterMap_replicate]

theorem openResponse_mem_chunksOf {serviceResult : Status} {chunks : ℕ}
    {response : ClientResponseFrame α} :
    .openResponse serviceResult ∉ WireFrame.chunksOf chunks response := by
  simp [WireFrame.chunksOf]

/-- The chunks of the response being read that the loop has read. -/
def chunksRead (v : ReaderState α) : ℕ :=
  match v.loop with
  | some (.reading chunkIndex) => chunkIndex
  | _ => 0

/-- One response is on its way to a renewal and none without one, no renewal or
read has failed, and whatever the server answered has been delivered in order or
is still unread. -/
structure Intact (v : ReaderState α) : Prop where
  opens : v.openRequests + v.incoming.countP WireFrame.isOpenResponse =
    (v.turn.any SendStage.isRenewing).toNat
  good : ∀ serviceResult, .openResponse serviceResult ∈ v.incoming →
    serviceResult.isBad = false
  limit : WithinLimit v.chunksRead v.incoming
  ledger : v.record.answered =
    v.record.delivered ++ v.incoming.filterMap WireFrame.completes
  renewals : v.record.failedRenewals = []
  receives : v.record.failedReads = []

theorem Intact.openResponse_notMem {v : ReaderState α} (h : v.Intact)
    (hidle : ¬ v.Renewing) (serviceResult : Status) :
    .openResponse serviceResult ∉ v.incoming := by
  intro hmem
  have hcount : 0 < v.incoming.countP WireFrame.isOpenResponse :=
    List.countP_pos_iff.mpr ⟨_, hmem, rfl⟩
  have hopens := h.opens
  unfold Renewing at hidle
  rw [Bool.eq_false_iff.mpr hidle, Bool.toNat_false] at hopens
  omega

theorem Exclusive.not_renewing_of_reading {v : ReaderState α}
    (h : v.Exclusive) {chunkIndex : ℕ}
    (hloop : v.loop = some (.reading chunkIndex)) : ¬ v.Renewing :=
  fun hrenewing => h.alone hrenewing ((loopReading_iff hloop).mpr rfl)

/-- Frames which are written are unread, and a response among them to a renewal is
good and was awaited. -/
theorem Intact.writes {v : ReaderState α} (h : v.Intact) {openRequests : ℕ}
    {frames : List (WireFrame α)} {answered : List (ClientResponseFrame α)}
    (hopens : openRequests + frames.countP WireFrame.isOpenResponse = v.openRequests)
    (hgood : ∀ serviceResult, .openResponse serviceResult ∈ frames →
      serviceResult.isBad = false)
    (hlimit : WithinLimit 0 frames)
    (hanswered : answered = v.record.answered ++ frames.filterMap WireFrame.completes) :
    Intact { v with
      openRequests := openRequests
      incoming := v.incoming ++ frames
      record := { v.record with answered := answered } } := by
  refine ⟨?_, ?_, h.limit.append hlimit, ?_, h.renewals, h.receives⟩
  · change openRequests + List.countP _ _ = _
    rw [List.countP_append, ← h.opens, ← hopens]
    omega
  · intro status hmem
    exact (List.mem_append.mp hmem).elim (h.good status) (hgood status)
  · rw [hanswered, h.ledger, List.filterMap_append, List.append_assoc]

theorem Move.intact {healthy : Prop} (hhealthy : healthy) {v w : ReaderState α}
    (hmove : Move healthy v w) (hexclusive : v.Exclusive) (h : v.Intact) :
    w.Intact := by
  have hopens := h.opens
  have hgood := h.good
  have hlimit := h.limit
  have hledger := h.ledger
  unfold chunksRead at hlimit
  cases hmove with
  | stay => exact h
  | takeTurn requestId hfree =>
      rw [hfree] at hopens
      exact ⟨hopens, hgood, hlimit, hledger, h.renewals, h.receives⟩
  | startRenewal hfree hloop hincoming =>
      refine ⟨?_, hgood, hlimit, hledger, h.renewals, h.receives⟩
      rw [hfree] at hopens
      simp only [Option.any_none, Bool.toNat_false] at hopens
      simp only [Option.any_some, SendStage.isRenewing, Bool.toNat_true]
      omega
  | openWritten hturn =>
      rw [hturn] at hopens
      exact ⟨hopens, hgood, hlimit, hledger, h.renewals, h.receives⟩
  | releaseTurn requestId hturn =>
      rw [hturn] at hopens
      exact ⟨hopens, hgood, hlimit, hledger, h.renewals, h.receives⟩
  | renewalReads serviceResult rest requestId hturn hincoming =>
      rw [hturn, hincoming, List.countP_cons_of_pos rfl] at hopens
      rw [hincoming] at hgood hlimit hledger
      refine ⟨?_, fun status hmem => hgood status (List.mem_cons_of_mem _ hmem),
        hlimit, hledger, h.renewals, h.receives⟩
      simp only [Option.any_some, SendStage.isRenewing, Bool.toNat_true] at hopens
      simp only [Option.any_some, SendStage.isRenewing, Bool.toNat_false]
      omega
  | renewalRefused frame rest hturn hincoming hbad =>
      have hframe := hexclusive.head ((renewing_iff hturn).mpr rfl) frame
        (by rw [hincoming]; rfl)
      cases frame with
      | openResponse serviceResult =>
          have hresult := hgood serviceResult
            (by rw [hincoming]; exact List.mem_cons_self)
          exact absurd hbad (by simpa [ClientLink.renewalStatus] using hresult)
      | intermediateChunk requestId => cases hframe
      | finalChunk response => cases hframe
  | renewalFails status hfault => exact absurd hhealthy hfault
  | spawnLoop hloop =>
      rw [hloop] at hlimit
      exact ⟨hopens, hgood, hlimit, hledger, h.renewals, h.receives⟩
  | startLoop hloop hturn =>
      rw [hloop] at hlimit
      exact ⟨hopens, hgood, hlimit, hledger, h.renewals, h.receives⟩
  | endLoop hloop =>
      rw [hloop] at hlimit
      exact ⟨hopens, hgood, hlimit, hledger, h.renewals, h.receives⟩
  | loopReadsChunk chunkIndex requestId rest hloop hincoming hnext =>
      rw [hincoming] at hopens hgood hlimit hledger
      rw [hloop] at hlimit
      exact ⟨hopens, fun status hmem => hgood status (List.mem_cons_of_mem _ hmem),
        hlimit.2, hledger, h.renewals, h.receives⟩
  | loopReadsResponse chunkIndex response rest next hloop hincoming hnext =>
      rw [hincoming] at hopens hgood hlimit hledger
      rw [hloop] at hlimit
      refine ⟨hopens, fun status hmem => hgood status (List.mem_cons_of_mem _ hmem),
        ?_, ?_, h.renewals, h.receives⟩
      · rcases hnext with rfl | rfl <;> exact hlimit
      · rw [hledger]
        simp [WireFrame.completes]
  | loopReadsOpen chunkIndex serviceResult rest status hloop hincoming =>
      have hnone := h.openResponse_notMem
        (hexclusive.not_renewing_of_reading hloop) serviceResult
      exact absurd (by rw [hincoming]; exact List.mem_cons_self) hnone
  | loopExceedsLimit chunkIndex requestId rest status hloop hincoming hexceeds =>
      rw [hincoming, hloop] at hlimit
      exact absurd hlimit.1 (Nat.not_lt.mpr hexceeds)
  | loopFails status hfault => exact absurd hhealthy hfault
  | answer chunks response hfirst hchunks =>
      apply h.writes
      · simp
      · exact fun status hmem => absurd hmem openResponse_mem_chunksOf
      · apply withinLimit_chunksOf
        rw [Nat.zero_add]
        exact hchunks hhealthy
      · rw [filterMap_chunksOf]
  | answerRenewal serviceResult hopen hresult =>
      apply h.writes
      · rw [List.countP_singleton, WireFrame.isOpenResponse, if_pos rfl]
        omega
      · intro status hmem
        obtain rfl : status = serviceResult := by simpa using hmem
        exact hresult hhealthy
      · rfl
      · simp [WireFrame.completes]

end ReaderState
end OpcuaStack
