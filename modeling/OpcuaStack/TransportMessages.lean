import OpcuaStack.SecureConversation

/-!
# UA TCP messages

The messages of `protocol.h` which the two ends of a connection exchange before
any secure channel, and the limits which the server makes of a Hello.
-/

namespace OpcuaStack
namespace Binary

structure HelloMessage where
  protocolVersion : UInt32 := 0
  receiveBufferSize : UInt32 := 0
  sendBufferSize : UInt32 := 0
  maxMessageSize : UInt32 := 0
  maxChunkCount : UInt32 := 0
  endpointUrl : ByteText := []
deriving DecidableEq

structure AcknowledgeMessage where
  protocolVersion : UInt32 := 0
  receiveBufferSize : UInt32 := 0
  sendBufferSize : UInt32 := 0
  maxMessageSize : UInt32 := 0
  maxChunkCount : UInt32 := 0
deriving DecidableEq

structure ErrorMessage where
  error : Status := .ofCode .bad
  reason : ByteText := []
deriving DecidableEq

structure TransportLimits where
  protocolVersion : UInt32 := 0
  receiveBufferSize : UInt32 := 65535
  sendBufferSize : UInt32 := 65535
  maxMessageSize : UInt32 := 0
  maxChunkCount : UInt32 := 0
deriving DecidableEq

/-- `EncodeWithHeader`, of a body which is encoded already. -/
def encodeWithHeader (messageType : MessageType) (body : ByteString) :
    ByteString :=
  encodeFrameHeader
    { messageType, messageSize := UInt32.ofNat (8 + body.length) } ++ body

/-- The body of a frame of the given type whose size is that of the frame. -/
def decodeWithHeader {α : Type} (messageType : MessageType)
    (decoder : Decoder α) (frame : ByteString) : Option α := do
  let header ← completeFrameHeader frame
  guard (header.messageType = messageType)
  let decodeAll : Decoder α := do
    let message ← decoder
    Reader.atEnd
    return message
  decodeAll.start (frame.drop 8)

def encodeHelloMessage (message : HelloMessage) : ByteString :=
  encodeWithHeader .hello
    (encodeUInt32 message.protocolVersion ++
      encodeUInt32 message.receiveBufferSize ++
      encodeUInt32 message.sendBufferSize ++
      encodeUInt32 message.maxMessageSize ++
      encodeUInt32 message.maxChunkCount ++
      encodeByteString message.endpointUrl)

def decodeHelloMessage : ByteString → Option HelloMessage :=
  decodeWithHeader .hello do
    let protocolVersion ← decodeUInt32
    let receiveBufferSize ← decodeUInt32
    let sendBufferSize ← decodeUInt32
    let maxMessageSize ← decodeUInt32
    let maxChunkCount ← decodeUInt32
    let endpointUrl ← decodeByteString
    return {
      protocolVersion, receiveBufferSize, sendBufferSize, maxMessageSize
      maxChunkCount, endpointUrl }

def encodeAcknowledgeMessage (message : AcknowledgeMessage) : ByteString :=
  encodeWithHeader .acknowledge
    (encodeUInt32 message.protocolVersion ++
      encodeUInt32 message.receiveBufferSize ++
      encodeUInt32 message.sendBufferSize ++
      encodeUInt32 message.maxMessageSize ++
      encodeUInt32 message.maxChunkCount)

def encodeErrorMessage (message : ErrorMessage) : ByteString :=
  encodeWithHeader .error
    (encodeUInt32 message.error.fullCode ++ encodeByteString message.reason)

/-- `NegotiateHello`: the error or the acknowledgement. -/
def negotiateHello (hello : HelloMessage) (serverLimits : TransportLimits) :
    Except ErrorMessage AcknowledgeMessage :=
  if hello.receiveBufferSize = 0 ∨ hello.sendBufferSize = 0 then
    .error
      { error := .ofCode .bad
        reason := asciiText "Client transport buffers must be non-zero" }
  else
    .ok
      { protocolVersion := min hello.protocolVersion serverLimits.protocolVersion
        receiveBufferSize :=
          min serverLimits.receiveBufferSize hello.sendBufferSize
        sendBufferSize :=
          min serverLimits.sendBufferSize hello.receiveBufferSize
        maxMessageSize := serverLimits.maxMessageSize
        maxChunkCount := serverLimits.maxChunkCount }

end Binary
end OpcuaStack
