import OpcuaStack.ClientSecureChannel
import OpcuaStack.GuardedRun
import OpcuaStack.TcpConnection

/-!
# Reassembly of chunks

Both ends put a message together from its chunks and remember the request id of
the chunk which came last.  Neither compares it with the id of the next chunk, so
that a message is whole when each chunk which is added to one carries the id of
the chunk before it.
-/

namespace OpcuaStack
namespace Binary

variable {ssl : OpenSsl}

/-- A chunk of a SecureMessage as it has been decoded. -/
structure MessageChunk where
  chunkType : UInt8
  requestId : UInt32
  body : ByteString
deriving DecidableEq

/-- The message is that of successive chunks of the stream which all carry the
request id. -/
def AssembledFrom (chunks : List MessageChunk) (requestId : UInt32)
    (message : ByteString) : Prop :=
  ∃ parts : List MessageChunk, parts <:+: chunks ∧
    (∀ part ∈ parts, part.requestId = requestId) ∧
    parts.flatMap MessageChunk.body = message

/-- The bytes put together so far are those of the last chunks, which all carry
the request id, if there is one. -/
def AssembledLast (chunks : List MessageChunk) (requestId : Option UInt32)
    (message : ByteString) : Prop :=
  ∃ parts : List MessageChunk, parts <:+ chunks ∧
    (∀ part ∈ parts, some part.requestId = requestId) ∧
    parts.flatMap MessageChunk.body = message

theorem AssembledFrom.later {chunks : List MessageChunk} {requestId : UInt32}
    {message : ByteString} (h : AssembledFrom chunks requestId message)
    (chunk : MessageChunk) :
    AssembledFrom (chunks ++ [chunk]) requestId message := by
  obtain ⟨parts, hparts, hids, hmessage⟩ := h
  exact ⟨parts, hparts.trans (List.infix_append' [] chunks [chunk]), hids,
    hmessage⟩

theorem AssembledLast.none (chunks : List MessageChunk) :
    AssembledLast chunks none [] :=
  ⟨[], List.nil_suffix, by simp, rfl⟩

theorem AssembledLast.add {chunks : List MessageChunk}
    {requestId : Option UInt32} {message : ByteString}
    (h : AssembledLast chunks requestId message) {chunk : MessageChunk}
    (hid : ∀ id ∈ requestId, chunk.requestId = id) :
    AssembledLast (chunks ++ [chunk]) (some chunk.requestId)
      (message ++ chunk.body) := by
  obtain ⟨parts, ⟨before, hsuffix⟩, hids, hmessage⟩ := h
  refine ⟨parts ++ [chunk], ⟨before, ?_⟩, ?_, ?_⟩
  · rw [← List.append_assoc, hsuffix]
  · intro part hmem
    rcases List.mem_append.mp hmem with hearlier | hlast
    · have hpart := hids part hearlier
      rw [hid part.requestId hpart.symm]
    · rw [List.mem_singleton.mp hlast]
  · rw [List.flatMap_append, hmessage, List.flatMap_singleton]

theorem AssembledLast.assembled {chunks : List MessageChunk}
    {requestId : UInt32} {message : ByteString}
    (h : AssembledLast chunks (some requestId) message) :
    AssembledFrom chunks requestId message := by
  obtain ⟨parts, hsuffix, hids, hmessage⟩ := h
  exact ⟨parts, hsuffix.isInfix,
    fun part hmem => Option.some.inj (hids part hmem), hmessage⟩

/-- A message which holds a byte of a chunk was put together from that chunk, if
no other chunk has the byte. -/
theorem not_assembledFrom {chunks : List MessageChunk} {requestId : UInt32}
    {message : ByteString} {byte : UInt8} (hbyte : byte ∈ message)
    (hothers : ∀ chunk ∈ chunks, byte ∈ chunk.body →
      chunk.requestId ≠ requestId) :
    ¬AssembledFrom chunks requestId message := by
  rintro ⟨parts, hparts, hids, rfl⟩
  obtain ⟨part, hpart, hmem⟩ := List.mem_flatMap.mp hbyte
  exact hothers part (hparts.subset hpart) hmem (hids part hpart)

/-! ## The server -/

namespace TcpConnection

def chunkStep (c : TcpConnection ssl) (chunk : MessageChunk) :
    TcpConnection ssl :=
  (c.processSecureMessageChunk chunk.chunkType chunk.body chunk.requestId).1

/-- The chunk passes the checks and is added to the partial message. -/
def AddsChunk (c : TcpConnection ssl) (chunk : MessageChunk) : Prop :=
  (chunk.chunkType = intermediateChunk ∨ chunk.chunkType = finalChunk) ∧
    c.partialChunkCount + 1 ≤ c.maxChunkCount ∧
    c.partialMessage.length + chunk.body.length ≤ c.maxMessageBytes

instance (c : TcpConnection ssl) (chunk : MessageChunk) :
    Decidable (c.AddsChunk chunk) := by
  unfold AddsChunk
  infer_instance

/-- A chunk which is added carries the id of the chunk before it in the partial
message. -/
def ContinuesMessage (c : TcpConnection ssl) (chunk : MessageChunk) : Prop :=
  c.AddsChunk chunk → ∀ id ∈ c.partialRequestId, chunk.requestId = id

instance (c : TcpConnection ssl) (chunk : MessageChunk) :
    Decidable (c.ContinuesMessage chunk) :=
  -- The id is looked up, not searched for among all of them.
  have : Decidable (∀ id ∈ c.partialRequestId, chunk.requestId = id) :=
    Option.decidableForallMem _
  inferInstanceAs (Decidable (_ → _))

/-- The partial message and the service frames are made of whole chunks of one
request each. -/
structure Reassembles (chunks : List MessageChunk) (c : TcpConnection ssl) :
    Prop where
  held : AssembledLast chunks c.partialRequestId c.partialMessage
  started : ∀ service ∈ c.started,
    AssembledFrom chunks service.requestId service.payload

theorem processSecureMessageChunk_of_added {c : TcpConnection ssl} {chunk : MessageChunk}
    (h : c.AddsChunk chunk) :
    c.processSecureMessageChunk chunk.chunkType chunk.body chunk.requestId =
      (if chunk.chunkType = intermediateChunk then
        { c with
          partialChunkCount := c.partialChunkCount + 1
          partialRequestId := some chunk.requestId
          partialMessage := c.partialMessage ++ chunk.body }
      else
        c.resetReassembly.startServiceFrame (c.partialMessage ++ chunk.body)
          chunk.requestId, true) := by
  obtain ⟨htype, hcount, hsize⟩ := h
  have habort : chunk.chunkType ≠ abortChunk := by
    rcases htype with h | h <;> rw [h] <;> decide
  have hvalid : ¬(chunk.chunkType ≠ intermediateChunk ∧
      chunk.chunkType ≠ finalChunk) := by
    rintro ⟨hc, hf⟩
    exact htype.elim hc hf
  unfold processSecureMessageChunk
  rw [if_neg habort, if_neg hvalid, if_neg (Nat.not_lt.mpr hcount),
    if_neg (Nat.not_lt.mpr hsize)]
  split <;> rfl

theorem chunkStep_of_added {c : TcpConnection ssl} {chunk : MessageChunk}
    (h : c.AddsChunk chunk) :
    c.chunkStep chunk =
      if chunk.chunkType = intermediateChunk then
        { c with
          partialChunkCount := c.partialChunkCount + 1
          partialRequestId := some chunk.requestId
          partialMessage := c.partialMessage ++ chunk.body }
      else
        c.resetReassembly.startServiceFrame (c.partialMessage ++ chunk.body)
          chunk.requestId :=
  congrArg Prod.fst (processSecureMessageChunk_of_added h)

/-- A chunk which is not added discards the partial message, and an error may be
written. -/
theorem exists_chunkStep_of_not_added {c : TcpConnection ssl} {chunk : MessageChunk}
    (h : ¬c.AddsChunk chunk) :
    ∃ frames, c.chunkStep chunk =
      { c.resetReassembly with written := c.written ++ frames } := by
  unfold chunkStep processSecureMessageChunk
  split
  next =>
    refine ⟨[], ?_⟩
    rw [List.append_nil]
    rfl
  next =>
    split
    next => exact ⟨_, rfl⟩
    next hvalid =>
      split
      next => exact ⟨_, rfl⟩
      next hcount =>
        split
        next => exact ⟨_, rfl⟩
        next hsize =>
          refine absurd ⟨?_, Nat.not_lt.mp hcount, Nat.not_lt.mp hsize⟩ h
          by_contra hneither
          exact hvalid (not_or.mp hneither)

theorem chunkStep_of_not_added {c : TcpConnection ssl} {chunk : MessageChunk}
    (h : ¬c.AddsChunk chunk) :
    (c.chunkStep chunk).partialRequestId = none ∧
      (c.chunkStep chunk).partialMessage = [] ∧
      (c.chunkStep chunk).started = c.started := by
  obtain ⟨frames, hstep⟩ := exists_chunkStep_of_not_added h
  rw [hstep]
  exact ⟨rfl, rfl, rfl⟩

theorem Reassembles.step {chunks : List MessageChunk} {c : TcpConnection ssl}
    (h : c.Reassembles chunks) {chunk : MessageChunk}
    (hcontinues : c.ContinuesMessage chunk) :
    (c.chunkStep chunk).Reassembles (chunks ++ [chunk]) := by
  by_cases hadds : c.AddsChunk chunk
  · have hheld := h.held.add (hcontinues hadds)
    rw [chunkStep_of_added hadds]
    split
    next => exact ⟨hheld, fun service hmem => (h.started service hmem).later chunk⟩
    next =>
      refine ⟨AssembledLast.none _, fun service hmem => ?_⟩
      rcases List.mem_append.mp hmem with hearlier | hlast
      · exact (h.started service hearlier).later chunk
      · rw [List.mem_singleton.mp hlast]
        exact hheld.assembled
  · obtain ⟨hid, hmessage, hstarted⟩ := chunkStep_of_not_added hadds
    refine ⟨?_, fun service hmem => ?_⟩
    · rw [hid, hmessage]
      exact AssembledLast.none _
    · rw [hstarted] at hmem
      exact (h.started service hmem).later chunk

end TcpConnection

/-! ## The client -/

namespace ClientSecureChannel

/-- The chunk which the loop decodes from a frame that was read. -/
def readChunk (c : ClientSecureChannel ssl) :
    Except Status ByteString → Option MessageChunk
  | .error _ => none
  | .ok frame =>
      (c.acceptChunk frame).map fun (chunkType, chunk) =>
        { chunkType, requestId := chunk.requestId, body := chunk.body }

/-- A chunk which is added carries the id of the chunk before it in the
response. -/
def ContinuesResponse (c : ClientSecureChannel ssl) (state : ResponseRead)
    (read : Except Status ByteString) : Prop :=
  match state with
  | .reading reassembled requestId chunkIndex =>
      ∀ chunk ∈ c.readChunk read,
        reassembled.length + chunk.body.length ≤ maxResponseBytes →
          chunkIndex ≠ 0 → chunk.requestId = requestId
  | .response _ _ => True
  | .failed _ => True

instance (c : ClientSecureChannel ssl) (state : ResponseRead)
    (read : Except Status ByteString) :
    Decidable (c.ContinuesResponse state read) := by
  unfold ContinuesResponse
  cases state <;> infer_instance

/-- What has been read is made of whole chunks of one request. -/
def Reads (c : ClientSecureChannel ssl)
    (reads : List (Except Status ByteString)) : ResponseRead → Prop
  | .reading reassembled requestId chunkIndex =>
      AssembledLast (reads.filterMap c.readChunk)
        (if chunkIndex = 0 then none else some requestId) reassembled
  | .response requestId body =>
      AssembledFrom (reads.filterMap c.readChunk) requestId body
  | .failed _ => True

theorem Reads.later {c : ClientSecureChannel ssl}
    {reads : List (Except Status ByteString)} {requestId : UInt32}
    {body : ByteString}
    (h : AssembledFrom (reads.filterMap c.readChunk) requestId body)
    (read : Except Status ByteString) :
    AssembledFrom ((reads ++ [read]).filterMap c.readChunk) requestId body := by
  rw [List.filterMap_append]
  cases hchunk : c.readChunk read with
  | none =>
      rw [List.filterMap_cons_none hchunk, List.filterMap_nil, List.append_nil]
      exact h
  | some chunk =>
      rw [List.filterMap_cons_some hchunk, List.filterMap_nil]
      exact h.later chunk

theorem Reads.step {c : ClientSecureChannel ssl}
    {reads : List (Except Status ByteString)} {state : ResponseRead}
    (h : c.Reads reads state) {read : Except Status ByteString}
    (hcontinues : c.ContinuesResponse state read) :
    c.Reads (reads ++ [read]) (c.readStep state read) := by
  cases state with
  | response requestId body => exact Reads.later h read
  | failed status => trivial
  | reading reassembled requestId chunkIndex =>
      cases read with
      | error status => trivial
      | ok frame =>
          simp only [readStep]
          split
          next => trivial
          next chunkType chunk haccept =>
            have hchunk : c.readChunk (.ok frame) =
                some { chunkType, requestId := chunk.requestId,
                       body := chunk.body } := by
              simp only [readChunk, haccept, Option.map_some]
            split
            next => trivial
            next hsize =>
              have hids : ∀ id ∈ (if chunkIndex = 0 then none else some requestId),
                  chunk.requestId = id := by
                intro id hid
                split at hid
                next => cases hid
                next hstarted =>
                  cases hid
                  exact hcontinues _ hchunk (Nat.not_lt.mp hsize) hstarted
              have hadded := @AssembledLast.add _ _ _ h
                { chunkType, requestId := chunk.requestId, body := chunk.body }
                hids
              rw [← List.filterMap_nil (f := c.readChunk),
                ← List.filterMap_cons_some hchunk, ← List.filterMap_append]
                at hadded
              split
              next => exact hadded.assembled
              next =>
                unfold ResponseRead.nextChunk
                split
                next => trivial
                next =>
                  simp only [Reads, Nat.succ_ne_zero, if_false]
                  exact hadded

end ClientSecureChannel

/-! ## Runs -/

namespace TcpConnection

theorem accepted_reassembles (limits : TransportLimits) (maxFrameSize : ℕ)
    (secureChannel : SecureChannel ssl) :
    (accepted limits maxFrameSize secureChannel).Reassembles [] where
  held := AssembledLast.none []
  started service hmem := by cases hmem

end TcpConnection

/-- When each chunk which is added to a message carries the request id of the
chunk before it, every message which the server starts a service frame for, and
every response which the client returns, is that of successive chunks with the
request id which it is attributed to. -/
theorem messages_kept_apart (limits : TransportLimits) (maxFrameSize : ℕ)
    (secureChannel : SecureChannel ssl) (chunks : List MessageChunk)
    (hchunks : AllMeet TcpConnection.chunkStep TcpConnection.ContinuesMessage
      (.accepted limits maxFrameSize secureChannel) chunks)
    (client : ClientSecureChannel ssl) (reads : List (Except Status ByteString))
    (hreads : AllMeet client.readStep client.ContinuesResponse
      (.reading [] 0 0) reads) :
    (∀ service ∈ (runFrom TcpConnection.chunkStep
        (.accepted limits maxFrameSize secureChannel) chunks).started,
      AssembledFrom chunks service.requestId service.payload) ∧
    ∀ requestId body,
      client.readServiceResponse reads = .response requestId body →
        AssembledFrom (reads.filterMap client.readChunk) requestId body := by
  constructor
  · have hrun := runFrom_history
      (P := fun chunks (c : TcpConnection ssl) => c.Reassembles chunks)
      (fun _ _ _ h hcontinues => h.step hcontinues)
      (TcpConnection.accepted_reassembles limits maxFrameSize secureChannel)
      hchunks
    exact hrun.started
  · intro requestId body hresponse
    unfold ClientSecureChannel.readServiceResponse at hresponse
    split at hresponse
    next =>
      have hstart : client.Reads [] (.reading [] 0 0) := AssembledLast.none []
      have hrun := runFrom_history (P := client.Reads)
        (fun _ _ _ h hcontinues => h.step hcontinues) hstart hreads
      simp only [runFrom, hresponse, List.nil_append] at hrun
      exact hrun
    next => cases hresponse

/-- The frame of a chunk for a client without security. -/
def plainChunkFrame (chunk : MessageChunk) : ByteString :=
  encodeSecureConversationMessage
    { frameHeader :=
        { messageType := .secureMessage, chunkType := chunk.chunkType }
      secureChannelId := 1
      symmetricSecurityHeader := some { tokenId := 1 }
      sequenceHeader := { sequenceNumber := 1, requestId := chunk.requestId }
      body := chunk.body }

def plainClient : ClientSecureChannel sampleSsl :=
  { opened := true, channelId := 1, tokenId := 1 }

/-- A message in two chunks, one which is given up, and one in a single chunk. -/
def orderlyChunks : List MessageChunk :=
  [⟨intermediateChunk, 7, [1, 2]⟩, ⟨finalChunk, 7, [3]⟩,
    ⟨intermediateChunk, 8, [4]⟩, ⟨abortChunk, 8, []⟩, ⟨finalChunk, 9, [5]⟩]

theorem orderly_chunks_kept_apart :
    (runFrom TcpConnection.chunkStep
        (.accepted {} 8192 ({} : SecureChannel sampleSsl)) orderlyChunks).started =
        [{ payload := [1, 2, 3], requestId := 7 },
          { payload := [5], requestId := 9 }] ∧
      plainClient.readServiceResponse
          ((orderlyChunks.take 2).map fun chunk => .ok (plainChunkFrame chunk)) =
        .response 7 [1, 2, 3] ∧
      AssembledFrom orderlyChunks 7 [1, 2, 3] ∧
      AssembledFrom ((orderlyChunks.take 2).filterMap fun chunk =>
        plainClient.readChunk (.ok (plainChunkFrame chunk))) 7 [1, 2, 3] := by
  have hstarted : (runFrom TcpConnection.chunkStep
      (.accepted {} 8192 ({} : SecureChannel sampleSsl)) orderlyChunks).started =
        [{ payload := [1, 2, 3], requestId := 7 },
          { payload := [5], requestId := 9 }] := by decide
  have hread : plainClient.readServiceResponse
      ((orderlyChunks.take 2).map fun chunk => .ok (plainChunkFrame chunk)) =
        .response 7 [1, 2, 3] := by decide
  have hapart := messages_kept_apart {} 8192 ({} : SecureChannel sampleSsl)
    orderlyChunks (by decide) plainClient
    ((orderlyChunks.take 2).map fun chunk => .ok (plainChunkFrame chunk))
    (by decide)
  refine ⟨hstarted, hread, ?_, ?_⟩
  · refine hapart.1 { payload := [1, 2, 3], requestId := 7 } ?_
    rw [hstarted]
    exact List.mem_cons_self
  · rw [← Function.comp_def, ← List.filterMap_map]
    exact hapart.2 7 [1, 2, 3] hread

/-- The first chunk of one request and the last chunk of another. -/
def strayChunks : List MessageChunk :=
  [⟨intermediateChunk, 1, [0x61]⟩, ⟨finalChunk, 2, [0x62]⟩]

/-- Both ends attribute the bytes of the first request to the second. -/
theorem stray_chunk_mixed :
    (∃ service ∈ (runFrom TcpConnection.chunkStep
        (.accepted {} 8192 ({} : SecureChannel sampleSsl)) strayChunks).started,
      ¬AssembledFrom strayChunks service.requestId service.payload) ∧
    ∃ requestId body,
      plainClient.readServiceResponse
          (strayChunks.map fun chunk => .ok (plainChunkFrame chunk)) =
        .response requestId body ∧
      ¬AssembledFrom
        ((strayChunks.map fun chunk => .ok (plainChunkFrame chunk)).filterMap
          plainClient.readChunk) requestId body := by
  have hmixed : ¬AssembledFrom strayChunks 2 [0x61, 0x62] :=
    @not_assembledFrom strayChunks 2 [0x61, 0x62] 0x61 (by decide) (by decide)
  refine ⟨⟨{ payload := [0x61, 0x62], requestId := 2 }, by decide, hmixed⟩,
    2, [0x61, 0x62], by decide, ?_⟩
  have hchunks : (strayChunks.map fun chunk =>
      (.ok (plainChunkFrame chunk) : Except Status ByteString)).filterMap
        plainClient.readChunk = strayChunks := by decide
  rw [hchunks]
  exact hmixed

end Binary
end OpcuaStack
