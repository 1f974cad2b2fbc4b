import OpcuaStack.ChunkReassembly

/-!
# The limits of reassembly

What `ProcessSecureMessageChunk` keeps of a message which is not complete.  It stays
within the limits on bytes and chunks, a chunk which ends a message leaves nothing to the
next one, and the chunks of a message within the limits are delivered together.
-/

namespace OpcuaStack
namespace Binary

variable {ssl : OpenSsl}

namespace TcpConnection

variable {limits : TransportLimits} {maxFrameSize : ℕ} {c : TcpConnection ssl}

/-- What is held of a message is within the limits of the connection. -/
structure WithinLimits (limits : TransportLimits) (maxFrameSize : ℕ)
    (c : TcpConnection ssl) : Prop where
  limits : c.limits = limits
  frameSize : c.maxFrameSize = maxFrameSize
  message : c.partialMessage.length ≤ c.maxMessageBytes
  count : c.partialChunkCount ≤ c.maxChunkCount

/-- Nothing is held of a message. -/
structure HoldsNothing (c : TcpConnection ssl) : Prop where
  message : c.partialMessage = []
  requestId : c.partialRequestId = none
  count : c.partialChunkCount = 0

/-- Whether the connection goes on after the chunk. -/
def acceptsChunk (c : TcpConnection ssl) (chunk : MessageChunk) : Bool :=
  (c.processSecureMessageChunk chunk.chunkType chunk.body chunk.requestId).2

theorem WithinLimits.congr {next : TcpConnection ssl} (h : c.WithinLimits limits maxFrameSize)
    (hlimits : next.limits = c.limits) (hsize : next.maxFrameSize = c.maxFrameSize)
    (hmessage : next.partialMessage = c.partialMessage)
    (hcount : next.partialChunkCount = c.partialChunkCount) :
    next.WithinLimits limits maxFrameSize where
  limits := hlimits.trans h.limits
  frameSize := hsize.trans h.frameSize
  message := by
    rw [hmessage, maxMessageBytes, hlimits, hsize]
    exact h.message
  count := by
    rw [hcount, maxChunkCount, hlimits]
    exact h.count

theorem WithinLimits.reset (h : c.WithinLimits limits maxFrameSize) :
    c.resetReassembly.WithinLimits limits maxFrameSize where
  limits := h.limits
  frameSize := h.frameSize
  message := Nat.zero_le _
  count := Nat.zero_le _

/-- A chunk is added while there is room for it, and any other empties. -/
theorem WithinLimits.chunkStep (h : c.WithinLimits limits maxFrameSize) (chunk : MessageChunk) :
    (c.chunkStep chunk).WithinLimits limits maxFrameSize := by
  by_cases hadds : c.AddsChunk chunk
  · rw [chunkStep_of_added hadds]
    split
    next =>
      exact
        { limits := h.limits
          frameSize := h.frameSize
          message := List.length_append.trans_le hadds.2.2
          count := hadds.2.1 }
    next => exact h.reset.congr rfl rfl rfl rfl
  · obtain ⟨frames, hstep⟩ := exists_chunkStep_of_not_added hadds
    rw [hstep]
    exact h.reset.congr rfl rfl rfl rfl

theorem holdsNothing_of_not_added {chunk : MessageChunk} (h : ¬c.AddsChunk chunk) :
    (c.chunkStep chunk).HoldsNothing := by
  obtain ⟨frames, hstep⟩ := exists_chunkStep_of_not_added h
  rw [hstep]
  exact ⟨rfl, rfl, rfl⟩

theorem holdsNothing_of_ended {chunk : MessageChunk}
    (h : chunk.chunkType = finalChunk ∨ chunk.chunkType = abortChunk ∨
      c.acceptsChunk chunk = false) : (c.chunkStep chunk).HoldsNothing := by
  by_cases hadds : c.AddsChunk chunk
  · have haccepted : c.acceptsChunk chunk = true :=
      congrArg Prod.snd (processSecureMessageChunk_of_added hadds)
    have hlast : chunk.chunkType ≠ intermediateChunk := by
      rcases h with hfinal | habort | hrejected
      · rw [hfinal]
        decide
      · rw [habort]
        decide
      · exact absurd (haccepted.symm.trans hrejected) Bool.true_eq_false.mp
    rw [chunkStep_of_added hadds, if_neg hlast]
    exact ⟨rfl, rfl, rfl⟩
  · exact holdsNothing_of_not_added hadds

/-! ## Delivery -/

/-- The chunks of one message. -/
def messageChunks (requestId : UInt32) (bodies : List ByteString) (last : ByteString) :
    List MessageChunk :=
  bodies.map (fun body => ⟨intermediateChunk, requestId, body⟩) ++
    [⟨finalChunk, requestId, last⟩]

theorem runFrom_intermediate (requestId : UInt32) (bodies : List ByteString)
    (hcount : c.partialChunkCount + bodies.length ≤ c.maxChunkCount)
    (hsize : c.partialMessage.length + bodies.flatten.length ≤ c.maxMessageBytes) :
    ∃ id, runFrom chunkStep c (bodies.map fun body => ⟨intermediateChunk, requestId, body⟩) =
      { c with
        partialChunkCount := c.partialChunkCount + bodies.length
        partialRequestId := id
        partialMessage := c.partialMessage ++ bodies.flatten } := by
  induction bodies generalizing c with
  | nil =>
      refine ⟨c.partialRequestId, ?_⟩
      rw [List.flatten_nil, List.append_nil]
      rfl
  | cons body bodies ih =>
      rw [List.length_cons] at hcount
      rw [List.flatten_cons, List.length_append] at hsize
      have hadds : c.AddsChunk ⟨intermediateChunk, requestId, body⟩ :=
        ⟨Or.inl rfl, by omega, show c.partialMessage.length + body.length ≤ _ by omega⟩
      have hstep : c.chunkStep ⟨intermediateChunk, requestId, body⟩ =
          { c with
            partialChunkCount := c.partialChunkCount + 1
            partialRequestId := some requestId
            partialMessage := c.partialMessage ++ body } := chunkStep_of_added hadds
      rw [List.map_cons, runFrom_cons, hstep]
      obtain ⟨id, hrun⟩ := @ih
        { c with
          partialChunkCount := c.partialChunkCount + 1
          partialRequestId := some requestId
          partialMessage := c.partialMessage ++ body }
        (by change c.partialChunkCount + 1 + bodies.length ≤ c.maxChunkCount; omega)
        (by
          change (c.partialMessage ++ body).length + bodies.flatten.length ≤ c.maxMessageBytes
          rw [List.length_append]
          omega)
      refine ⟨id, hrun.trans ?_⟩
      rw [List.length_cons, List.flatten_cons, List.append_assoc, Nat.add_assoc,
        Nat.add_comm 1]

theorem HoldsNothing.resetReassembly (h : c.HoldsNothing) : c.resetReassembly = c := by
  obtain ⟨hmessage, hid, hcount⟩ := h
  cases c
  cases hmessage
  cases hid
  cases hcount
  rfl

theorem runFrom_messageChunks (hnothing : c.HoldsNothing) (requestId : UInt32)
    (bodies : List ByteString) (last : ByteString) (hcount : bodies.length + 1 ≤ c.maxChunkCount)
    (hsize : (bodies.flatten ++ last).length ≤ c.maxMessageBytes) :
    runFrom chunkStep c (messageChunks requestId bodies last) =
      c.startServiceFrame (bodies.flatten ++ last) requestId := by
  rw [List.length_append] at hsize
  obtain ⟨id, hrun⟩ := runFrom_intermediate (c := c) requestId bodies
    (by rw [hnothing.count]; omega) (by rw [hnothing.message, List.length_nil]; omega)
  rw [hnothing.message, hnothing.count, List.nil_append, Nat.zero_add] at hrun
  have hadds : TcpConnection.AddsChunk
      { c with
        partialChunkCount := bodies.length
        partialRequestId := id
        partialMessage := bodies.flatten }
      ⟨finalChunk, requestId, last⟩ := ⟨Or.inr rfl, hcount, hsize⟩
  rw [messageChunks, runFrom_append, hrun, runFrom_cons, runFrom_nil, chunkStep_of_added hadds,
    if_neg (show finalChunk ≠ intermediateChunk by decide)]
  exact congrArg (·.startServiceFrame (bodies.flatten ++ last) requestId)
    hnothing.resetReassembly

/-- Over every sequence of chunks. -/
theorem chunks_within_limits (limits : TransportLimits) (maxFrameSize : ℕ)
    (secureChannel : SecureChannel ssl) (chunks : List MessageChunk) :
    let c := runFrom chunkStep (.accepted limits maxFrameSize secureChannel) chunks
    c.WithinLimits limits maxFrameSize ∧
      (∀ chunk : MessageChunk,
        chunk.chunkType = finalChunk ∨ chunk.chunkType = abortChunk ∨
            c.acceptsChunk chunk = false →
          (c.chunkStep chunk).HoldsNothing) ∧
      (c.HoldsNothing → ∀ requestId bodies last,
        bodies.length + 1 ≤ c.maxChunkCount →
        (bodies.flatten ++ last).length ≤ c.maxMessageBytes →
          let delivered := runFrom chunkStep c (messageChunks requestId bodies last)
          delivered.HoldsNothing ∧
            delivered.started = c.started ++
              [{ payload := bodies.flatten ++ last
                 requestId
                 secure := c.secureChannel.basic256Active
                 clientCertificate := c.secureChannel.clientCertificateDer }]) := by
  intro c
  have haccepted : (TcpConnection.accepted limits maxFrameSize secureChannel).WithinLimits
      limits maxFrameSize := ⟨rfl, rfl, Nat.zero_le _, Nat.zero_le _⟩
  refine ⟨runFrom_invariant_of_step (fun _ chunk h => h.chunkStep chunk) haccepted chunks,
    fun chunk hended => holdsNothing_of_ended hended, ?_⟩
  intro hnothing requestId bodies last hcount hsize delivered
  have hdelivered : delivered = c.startServiceFrame (bodies.flatten ++ last) requestId :=
    runFrom_messageChunks hnothing requestId bodies last hcount hsize
  rw [hdelivered]
  exact ⟨⟨hnothing.message, hnothing.requestId, hnothing.count⟩, rfl⟩

/-! ## Whole connections -/

theorem WithinLimits.writeOutbound (h : c.WithinLimits limits maxFrameSize)
    (frame : Option ByteString) : (c.writeOutbound frame).WithinLimits limits maxFrameSize := by
  unfold TcpConnection.writeOutbound
  split
  next => exact h
  next =>
    split
    next => exact h
    next => exact h.congr rfl rfl rfl rfl

theorem WithinLimits.processSecureFrame (h : c.WithinLimits limits maxFrameSize)
    (around : Surroundings) (chunkType : UInt8) (frame : ByteString) :
    (c.processSecureFrame around chunkType frame).1.WithinLimits limits maxFrameSize := by
  unfold TcpConnection.processSecureFrame
  split
  next =>
    have hread : { c with
        secureChannel := (c.secureChannel.handleFrame around frame).1 }.WithinLimits limits
          maxFrameSize := h.congr rfl rfl rfl rfl
    have hanswered :=
      hread.writeOutbound (c.secureChannel.handleFrame around frame).2.outboundFrame
    dsimp only
    split
    next => exact hanswered
    next =>
      split
      next payload requestId _ _ => exact hanswered.chunkStep ⟨chunkType, requestId, payload⟩
      next => exact hanswered
  next => exact h.congr rfl rfl rfl rfl

theorem WithinLimits.handleNext (h : c.WithinLimits limits maxFrameSize)
    (around : ℕ → Surroundings) (frame : ByteString) :
    (c.handleNext around frame).1.WithinLimits limits maxFrameSize := by
  have hrecorded : { c with frames := c.frames ++ [frame] }.WithinLimits limits maxFrameSize :=
    h.congr rfl rfl rfl rfl
  unfold TcpConnection.handleNext processFrame
  split
  next => exact hrecorded.congr rfl rfl rfl rfl
  next header _ =>
    split
    next =>
      unfold processHello
      split
      next => exact hrecorded.congr rfl rfl rfl rfl
      next =>
        split
        next => exact hrecorded.congr rfl rfl rfl rfl
        next => split <;> exact hrecorded.congr rfl rfl rfl rfl
    next => exact hrecorded.processSecureFrame _ header.chunkType frame
    next => exact hrecorded.processSecureFrame _ header.chunkType frame
    next => exact hrecorded.processSecureFrame _ header.chunkType frame
    next => exact hrecorded.congr rfl rfl rfl rfl
    next => exact hrecorded.congr rfl rfl rfl rfl
    next => exact hrecorded.congr rfl rfl rfl rfl

theorem WithinLimits.processFrames (around : ℕ → Surroundings) (rounds : ℕ)
    (h : c.WithinLimits limits maxFrameSize) (pendingBytes : ByteString) :
    (TcpConnection.processFrames around rounds c pendingBytes).1.WithinLimits limits
      maxFrameSize := by
  induction rounds generalizing c pendingBytes with
  | zero => exact h
  | succ rounds ih =>
      unfold TcpConnection.processFrames
      split
      next => exact h
      next =>
        split
        next => exact h.congr rfl rfl rfl rfl
        next header _ =>
          split
          next => exact h.congr rfl rfl rfl rfl
          next =>
            split
            next => exact h
            next =>
              have hhandled := h.handleNext around (pendingBytes.take header.messageSize.toNat)
              dsimp only
              split
              next next hnext =>
                rw [hnext] at hhandled
                exact ih hhandled _
              next next hnext =>
                rw [hnext] at hhandled
                exact hhandled

theorem WithinLimits.finishServiceFrame (h : c.WithinLimits limits maxFrameSize)
    (requestId : UInt32) (payload : Option ByteString) :
    (c.finishServiceFrame requestId payload).WithinLimits limits maxFrameSize := by
  unfold TcpConnection.finishServiceFrame
  split
  next => exact h
  next =>
    dsimp only
    split
    next => exact h.congr rfl rfl rfl rfl
    next => split <;> exact h.congr rfl rfl rfl rfl

end TcpConnection

/-- Whatever is read from the peer, in whatever pieces, and whenever the handlers are done. -/
theorem TcpRun.run_withinLimits (around : ℕ → Surroundings) (limits : TransportLimits)
    (maxFrameSize : ℕ) (secureChannel : SecureChannel ssl) (events : List TcpEvent) :
    (runFrom (TcpRun.step around) ⟨.accepted limits maxFrameSize secureChannel, [], true⟩
      events).connection.WithinLimits limits maxFrameSize := by
  refine runFrom_invariant_of_step
    (P := fun r : TcpRun ssl => r.connection.WithinLimits limits maxFrameSize) ?_
    ⟨rfl, rfl, Nat.zero_le _, Nat.zero_le _⟩ events
  intro r event h
  cases event with
  | read bytes =>
      unfold TcpRun.step TcpRun.read
      dsimp only
      split
      next =>
        split
        next => exact h
        next => exact h.processFrames around _ _
      next => exact h
  | serviceFinished requestId payload => exact h.finishServiceFrame requestId payload

end Binary
end OpcuaStack
