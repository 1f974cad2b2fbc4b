import OpcuaStack.SecureChannel
import OpcuaStack.TransportMessages

/-!
# The server's end of a TCP connection

`TcpConnection`.  The read loop takes the frames out of the bytes which have come
in, handles them one by one, and puts the chunks of a message together.  A
message which is complete starts a service frame, which is answered later.  The
frames which were handled, what was written and what was started stay on record.
-/

namespace OpcuaStack
namespace Binary

variable {ssl : OpenSsl}

/-- A complete message with the binding of the channel, as the handler of service
frames gets it. -/
structure ServiceFrame where
  payload : ByteString
  requestId : UInt32
  secure : Bool := false
  clientCertificate : ByteString := []
deriving DecidableEq

structure TcpConnection (ssl : OpenSsl) where
  limits : TransportLimits := {}
  maxFrameSize : ℕ := 16 * 1024 * 1024
  helloReceived : Bool := false
  secureChannel : SecureChannel ssl := {}
  partialMessage : ByteString := []
  partialRequestId : Option UInt32 := none
  partialChunkCount : ℕ := 0
  pendingServiceFrames : ℕ := 0
  frames : List ByteString := []
  written : List ByteString := []
  started : List ServiceFrame := []

/-- `kIntermediateChunk`. -/
def intermediateChunk : UInt8 := 0x43

/-- `kFinalChunk`. -/
def finalChunk : UInt8 := 0x46

/-- `kAbortChunk`. -/
def abortChunk : UInt8 := 0x41

/-- `kDefaultMaxChunkCount`. -/
def defaultMaxChunkCount : ℕ := 8192

namespace TcpConnection

def write (c : TcpConnection ssl) (frame : ByteString) : TcpConnection ssl :=
  { c with written := c.written ++ [frame] }

/-- `WriteErrorAndClose`; the read loop does not go on. -/
def writeErrorAndClose (c : TcpConnection ssl) (error : Status)
    (reason : String) : TcpConnection ssl × Bool :=
  (c.write (encodeErrorMessage { error, reason := asciiText reason }), false)

/-! ## Chunks -/

def resetReassembly (c : TcpConnection ssl) : TcpConnection ssl :=
  { c with
    partialMessage := []
    partialRequestId := none
    partialChunkCount := 0 }

def startServiceFrame (c : TcpConnection ssl) (payload : ByteString)
    (requestId : UInt32) : TcpConnection ssl :=
  { c with
    pendingServiceFrames := c.pendingServiceFrames + 1
    started := c.started ++
      [{ payload, requestId
         secure := c.secureChannel.basic256Active
         clientCertificate := c.secureChannel.clientCertificateDer }] }

def maxChunkCount (c : TcpConnection ssl) : ℕ :=
  if c.limits.maxChunkCount ≠ 0 then c.limits.maxChunkCount.toNat
  else defaultMaxChunkCount

def maxMessageBytes (c : TcpConnection ssl) : ℕ :=
  if c.limits.maxMessageSize ≠ 0 then c.limits.maxMessageSize.toNat
  else c.maxFrameSize

def processSecureMessageChunk (c : TcpConnection ssl) (chunkType : UInt8)
    (payload : ByteString) (requestId : UInt32) : TcpConnection ssl × Bool :=
  if chunkType = abortChunk then
    (c.resetReassembly, true)
  else if chunkType ≠ intermediateChunk ∧ chunkType ≠ finalChunk then
    c.resetReassembly.writeErrorAndClose (.ofCode .bad)
      "Invalid UA Secure Conversation chunk type"
  else if c.partialChunkCount + 1 > c.maxChunkCount then
    c.resetReassembly.writeErrorAndClose (.ofCode .bad)
      "UA Secure Conversation message exceeds max chunk count"
  else if c.partialMessage.length + payload.length > c.maxMessageBytes then
    c.resetReassembly.writeErrorAndClose (.ofCode .bad)
      "UA Secure Conversation message too large"
  else
    let c :=
      { c with
        partialChunkCount := c.partialChunkCount + 1
        partialRequestId := some requestId
        partialMessage := c.partialMessage ++ payload }
    if chunkType = intermediateChunk then
      (c, true)
    else
      (c.resetReassembly.startServiceFrame c.partialMessage requestId, true)

/-! ## Frames -/

def processHello (c : TcpConnection ssl) (frame : ByteString) :
    TcpConnection ssl × Bool :=
  if c.helloReceived then
    c.writeErrorAndClose (.ofCode .bad)
      "Hello may only be sent once per connection"
  else
    match decodeHelloMessage frame with
    | none => c.writeErrorAndClose (.ofCode .bad) "Malformed Hello message"
    | some hello =>
        match negotiateHello hello c.limits with
        | .error error => (c.write (encodeErrorMessage error), false)
        | .ok acknowledge =>
            ({ c with helloReceived := true }.write
              (encodeAcknowledgeMessage acknowledge), true)

/-- A frame which the channel answers with no bytes is not written. -/
def writeOutbound (c : TcpConnection ssl) : Option ByteString → TcpConnection ssl
  | none => c
  | some frame => if frame.isEmpty then c else c.write frame

def processSecureFrame (c : TcpConnection ssl) (around : Surroundings)
    (chunkType : UInt8) (frame : ByteString) : TcpConnection ssl × Bool :=
  if c.helloReceived then
    let (channel, result) := c.secureChannel.handleFrame around frame
    let c :=
      { c with secureChannel := channel }.writeOutbound result.outboundFrame
    if result.closeTransport then
      (c, false)
    else
      match result.servicePayload, result.requestId with
      | some payload, some requestId =>
          c.processSecureMessageChunk chunkType payload requestId
      | _, _ => (c, true)
  else
    c.writeErrorAndClose (.ofCode .bad)
      "SecureChannel traffic received before Hello/Acknowledge"

def processFrame (c : TcpConnection ssl) (around : Surroundings)
    (frame : ByteString) : TcpConnection ssl × Bool :=
  match decodeFrameHeader frame with
  | none =>
      c.writeErrorAndClose (.ofCode .bad) "Invalid UA TCP frame header"
  | some header =>
      match header.messageType with
      | .hello => c.processHello frame
      | .secureOpen | .secureMessage | .secureClose =>
          c.processSecureFrame around header.chunkType frame
      | .acknowledge | .error | .reverseHello =>
          c.writeErrorAndClose (.ofCode .bad)
            "Unexpected UA TCP message type for server connection"

/-- The handling of the next frame, with what it finds around the channel. -/
def handleNext (around : ℕ → Surroundings) (c : TcpConnection ssl)
    (frame : ByteString) : TcpConnection ssl × Bool :=
  { c with frames := c.frames ++ [frame] }.processFrame (around c.frames.length)
    frame

/-- The loop of `ProcessBufferedFrames`, in so many rounds.  Each round which
goes on takes the eight bytes of a header at least, so that a round for each
byte is enough. -/
def processFrames (around : ℕ → Surroundings) :
    ℕ → TcpConnection ssl → ByteString → TcpConnection ssl × ByteString × Bool
  | 0, c, pendingBytes => (c, pendingBytes, true)
  | rounds + 1, c, pendingBytes =>
      if pendingBytes.length < 8 then
        (c, pendingBytes, true)
      else
        match decodeFrameHeader (pendingBytes.take 8) with
        | none =>
            let (c, goesOn) := c.writeErrorAndClose (.ofCode .bad)
              "Invalid UA TCP frame header"
            (c, pendingBytes, goesOn)
        | some header =>
            if header.messageSize.toNat > c.maxFrameSize then
              let (c, goesOn) := c.writeErrorAndClose (.ofCode .bad)
                "UA TCP frame too large"
              (c, pendingBytes, goesOn)
            else if pendingBytes.length < header.messageSize.toNat then
              (c, pendingBytes, true)
            else
              let frame := pendingBytes.take header.messageSize.toNat
              let pendingBytes := pendingBytes.drop header.messageSize.toNat
              match c.handleNext around frame with
              | (c, true) => processFrames around rounds c pendingBytes
              | (c, false) => (c, pendingBytes, false)

def processBufferedFrames (around : ℕ → Surroundings) (c : TcpConnection ssl)
    (pendingBytes : ByteString) : TcpConnection ssl × ByteString × Bool :=
  processFrames around pendingBytes.length c pendingBytes

/-- The rest of `StartServiceFrame`, when `on_secure_frame` has returned. -/
def finishServiceFrame (c : TcpConnection ssl) (requestId : UInt32)
    (payload : Option ByteString) : TcpConnection ssl :=
  if c.pendingServiceFrames = 0 then
    c
  else
    let c := { c with pendingServiceFrames := c.pendingServiceFrames - 1 }
    match payload with
    | none => c
    | some body =>
        if body.isEmpty then
          c
        else
          let (channel, frame) :=
            c.secureChannel.buildServiceResponse requestId body
          { c with secureChannel := channel }.write frame

/-- A connection which has just been accepted. -/
def accepted (limits : TransportLimits) (maxFrameSize : ℕ)
    (secureChannel : SecureChannel ssl) : TcpConnection ssl :=
  { limits, maxFrameSize, secureChannel }

end TcpConnection

/-! ## Runs -/

/-- The connection with the bytes which `Run` has read and not used, and whether
its loop still reads. -/
structure TcpRun (ssl : OpenSsl) where
  connection : TcpConnection ssl
  pendingBytes : ByteString := []
  reading : Bool := true

/-- What happens to a connection: its read returns bytes, none at the end of the
stream, or the handler is done with a service frame. -/
inductive TcpEvent where
  | read (bytes : ByteString)
  | serviceFinished (requestId : UInt32) (payload : Option ByteString)

namespace TcpRun

def read (around : ℕ → Surroundings) (r : TcpRun ssl) (bytes : ByteString) :
    TcpRun ssl :=
  if r.reading then
    if bytes.isEmpty then
      { r with reading := false }
    else
      let (connection, pendingBytes, reading) :=
        TcpConnection.processBufferedFrames around r.connection
          (r.pendingBytes ++ bytes)
      { connection, pendingBytes, reading }
  else
    r

def step (around : ℕ → Surroundings) (r : TcpRun ssl) : TcpEvent → TcpRun ssl
  | .read bytes => r.read around bytes
  | .serviceFinished requestId payload =>
      { r with
        connection := r.connection.finishServiceFrame requestId payload }

end TcpRun
end Binary
end OpcuaStack
