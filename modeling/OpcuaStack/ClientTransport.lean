import OpcuaStack.TransportMessages

/-!
# The client's end of a TCP connection

`ClientTransport`.  `ReadFrame` takes one frame out of the bytes which have come
in, and reads more of the stream while there is none; what is left over is for
the next call.
-/

namespace OpcuaStack
namespace Binary

structure ClientTransport where
  limits : TransportLimits := {}
  endpointUrl : ByteText := []
  maxFrameSize : ℕ := 16 * 1024 * 1024
  pendingBytes : ByteString := []
  acknowledge : AcknowledgeMessage := {}
  opened : Bool := false
deriving DecidableEq

def decodeAcknowledgeMessage : ByteString → Option AcknowledgeMessage :=
  decodeWithHeader .acknowledge do
    let protocolVersion ← decodeUInt32
    let receiveBufferSize ← decodeUInt32
    let sendBufferSize ← decodeUInt32
    let maxMessageSize ← decodeUInt32
    let maxChunkCount ← decodeUInt32
    return {
      protocolVersion, receiveBufferSize, sendBufferSize, maxMessageSize
      maxChunkCount }

def decodeErrorMessage : ByteString → Option ErrorMessage :=
  decodeWithHeader .error do
    let fullCode ← decodeUInt32
    let reason ← decodeByteString
    return { error := ⟨fullCode⟩, reason }

/-- Where a call of `ReadFrame` is. -/
inductive FrameRead where
  | frame (frame : ByteString)
  | failed (status : Status)
  | waiting
deriving DecidableEq

namespace ClientTransport

/-- What `ReadFrame` makes of the pending bytes before it reads more of them. -/
def takeFrame (t : ClientTransport) : FrameRead × ClientTransport :=
  if 8 ≤ t.pendingBytes.length then
    match decodeFrameHeader (t.pendingBytes.take 8) with
    | none => (.failed (.ofCode .bad), t)
    | some header =>
        if header.messageSize.toNat < 8 ∨
            t.maxFrameSize < header.messageSize.toNat then
          (.failed (.ofCode .bad), t)
        else if header.messageSize.toNat ≤ t.pendingBytes.length then
          (.frame (t.pendingBytes.take header.messageSize.toNat),
            { t with
              pendingBytes := t.pendingBytes.drop header.messageSize.toNat })
        else
          (.waiting, t)
  else
    (.waiting, t)

/-- `ReadFrame` with the reads to come; those which it does not need are left. -/
def readFrame (t : ClientTransport) :
    List ByteString → FrameRead × ClientTransport × List ByteString
  | [] =>
      let (result, t) := t.takeFrame
      (result, t, [])
  | bytes :: reads =>
      match t.takeFrame with
      | (.waiting, t) =>
          if bytes.isEmpty then
            (.failed (.ofCode .badNoCommunication), t, reads)
          else
            { t with pendingBytes := t.pendingBytes ++ bytes }.readFrame reads
      | (result, t) => (result, t, bytes :: reads)

/-- Calls of `ReadFrame` one after the other, until one waits or fails: the
frames, what the last call came to, the transport and the reads which are left. -/
def readFrames :
    ℕ → ClientTransport → List ByteString →
      List ByteString × FrameRead × ClientTransport × List ByteString
  | 0, t, reads => ([], .waiting, t, reads)
  | calls + 1, t, reads =>
      match t.readFrame reads with
      | (.frame frame, t, reads) =>
          let (frames, result, t, reads) := readFrames calls t reads
          (frame :: frames, result, t, reads)
      | (result, t, reads) => ([], result, t, reads)

/-- `Connect` once the first frame has come. -/
def acceptFirstFrame (t : ClientTransport) (frame : ByteString) :
    Status × ClientTransport :=
  match (decodeFrameHeader frame).map FrameHeader.messageType with
  | some .acknowledge =>
      match decodeAcknowledgeMessage frame with
      | none => (.ofCode .bad, t)
      | some acknowledge => (.good, { t with acknowledge, opened := true })
  | some .error =>
      match decodeErrorMessage frame with
      | some error => (error.error, t)
      | none => (.ofCode .badNoCommunication, t)
  | _ => (.ofCode .bad, t)

end ClientTransport
end Binary
end OpcuaStack
