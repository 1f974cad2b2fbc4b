import OpcuaStack.BinaryCodec

/-!
# Secure conversation messages

The frame header of `protocol.h`, and the messages and bodies which
`secure_channel.h` declares.  A frame starts with its type, its chunk type and
its size; the size is stamped when the frame is complete.
-/

namespace OpcuaStack
namespace Binary

inductive MessageType where
  | hello
  | acknowledge
  | error
  | reverseHello
  | secureOpen
  | secureMessage
  | secureClose
deriving DecidableEq

structure FrameHeader where
  messageType : MessageType := .hello
  chunkType : UInt8 := 0x46
  messageSize : UInt32 := 0
deriving DecidableEq

def encodeMessageType : MessageType → ByteString
  | .hello => [0x48, 0x45, 0x4c]
  | .acknowledge => [0x41, 0x43, 0x4b]
  | .error => [0x45, 0x52, 0x52]
  | .reverseHello => [0x52, 0x48, 0x45]
  | .secureOpen => [0x4f, 0x50, 0x4e]
  | .secureMessage => [0x4d, 0x53, 0x47]
  | .secureClose => [0x43, 0x4c, 0x4f]

def decodeMessageType (text : ByteString) : Option MessageType :=
  if text = encodeMessageType .hello then some .hello
  else if text = encodeMessageType .acknowledge then some .acknowledge
  else if text = encodeMessageType .error then some .error
  else if text = encodeMessageType .reverseHello then some .reverseHello
  else if text = encodeMessageType .secureOpen then some .secureOpen
  else if text = encodeMessageType .secureMessage then some .secureMessage
  else if text = encodeMessageType .secureClose then some .secureClose
  else none

/-- `memcpy` of a little-endian number out of a frame. -/
def uint32At (bytes : ByteString) (offset : ℕ) : UInt32 :=
  UInt32.ofNat (ofLittleEndian ((bytes.drop offset).take 4))

def decodeFrameHeader (bytes : ByteString) : Option FrameHeader :=
  if bytes.length < 8 then
    none
  else
    match decodeMessageType (bytes.take 3) with
    | none => none
    | some messageType =>
        if (uint32At bytes 4).toNat < 8 then
          none
        else
          some {
            messageType
            chunkType := bytes.getD 3 0
            messageSize := uint32At bytes 4 }

def encodeFrameHeader (header : FrameHeader) : ByteString :=
  encodeMessageType header.messageType ++
    (header.chunkType :: encodeUInt32 header.messageSize)

/-- Bytes 4 to 7 get the size. -/
def stampFrameSize (bytes : ByteString) (size : ℕ) : ByteString :=
  bytes.take 4 ++ (encodeUInt32 (UInt32.ofNat size) ++ bytes.drop 8)

def fixUpFrameSize (frame : ByteString) : ByteString :=
  stampFrameSize frame frame.length

@[simp] theorem length_encodeMessageType (messageType : MessageType) :
    (encodeMessageType messageType).length = 3 := by
  cases messageType <;> rfl

@[simp] theorem length_encodeFrameHeader (header : FrameHeader) :
    (encodeFrameHeader header).length = 8 := by
  simp [encodeFrameHeader]

@[simp] theorem decodeMessageType_encode (messageType : MessageType) :
    decodeMessageType (encodeMessageType messageType) = some messageType := by
  cases messageType <;> decide

theorem uint32At_append (before after : ByteString) (value : UInt32) :
    uint32At (before ++ (encodeUInt32 value ++ after)) before.length =
      value := by
  have htake : (encodeUInt32 value ++ after).take 4 = encodeUInt32 value :=
    List.take_left' (length_encodeUInt32 value)
  have hlt : value.toNat < 256 ^ 4 := value.toNat_lt
  rw [uint32At, List.drop_left, htake, encodeUInt32,
    ofLittleEndian_littleEndian_of_lt hlt, UInt32.ofNat_toNat]

theorem uint32At_encodeFrameHeader (header : FrameHeader)
    (after : ByteString) :
    uint32At (encodeFrameHeader header ++ after) 4 = header.messageSize := by
  have hat := uint32At_append
    (encodeMessageType header.messageType ++ [header.chunkType]) after
    header.messageSize
  rw [List.length_append, length_encodeMessageType] at hat
  simpa [encodeFrameHeader] using hat

/-- The header of a frame is read from its front, unless its size is too small
for a header. -/
theorem decodeFrameHeader_encode (header : FrameHeader) (after : ByteString) :
    decodeFrameHeader (encodeFrameHeader header ++ after) =
      if header.messageSize.toNat < 8 then none else some header := by
  have hsize := uint32At_encodeFrameHeader header after
  obtain ⟨messageType, chunkType, messageSize⟩ := header
  have htype : (encodeFrameHeader ⟨messageType, chunkType, messageSize⟩ ++
      after).take 3 = encodeMessageType messageType := by
    rw [encodeFrameHeader, List.append_assoc]
    exact List.take_left' (length_encodeMessageType messageType)
  have hchunk : (encodeFrameHeader ⟨messageType, chunkType, messageSize⟩ ++
      after).getD 3 0 = chunkType := by
    cases messageType <;> rfl
  have hlength : ¬ (encodeFrameHeader ⟨messageType, chunkType, messageSize⟩ ++
      after).length < 8 := by
    simp [encodeFrameHeader]
    omega
  rw [decodeFrameHeader, if_neg hlength, htype, decodeMessageType_encode]
  simp only [hsize, hchunk]

theorem decodeFrameHeader_append (header : FrameHeader) (after : ByteString)
    (hsize : 8 ≤ header.messageSize.toNat) :
    decodeFrameHeader (encodeFrameHeader header ++ after) = some header := by
  rw [decodeFrameHeader_encode, if_neg (not_lt.mpr hsize)]

theorem stampFrameSize_append (header : FrameHeader) (after : ByteString)
    (size : ℕ) :
    stampFrameSize (encodeFrameHeader header ++ after) size =
      encodeFrameHeader { header with messageSize := UInt32.ofNat size } ++
        after := by
  have htake : (encodeFrameHeader header ++ after).take 4 =
      encodeMessageType header.messageType ++ [header.chunkType] := by
    have hshape : encodeFrameHeader header ++ after =
        (encodeMessageType header.messageType ++ [header.chunkType]) ++
          (encodeUInt32 header.messageSize ++ after) := by
      simp [encodeFrameHeader]
    rw [hshape]
    exact List.take_left' (by simp)
  rw [stampFrameSize, htake, List.drop_left' (length_encodeFrameHeader header)]
  simp [encodeFrameHeader]

theorem fixUpFrameSize_append (header : FrameHeader) (after : ByteString) :
    fixUpFrameSize (encodeFrameHeader header ++ after) =
      encodeFrameHeader
        { header with messageSize := UInt32.ofNat (8 + after.length) } ++
          after := by
  rw [fixUpFrameSize, stampFrameSize_append, List.length_append,
    length_encodeFrameHeader]

/-! ## Headers -/

/-- `enum class SecurityTokenRequestType : std::uint32_t`, read from the wire
without a check. -/
structure SecurityTokenRequestType where
  raw : UInt32
deriving DecidableEq

namespace SecurityTokenRequestType

def issue : SecurityTokenRequestType := ⟨0⟩
def renew : SecurityTokenRequestType := ⟨1⟩

end SecurityTokenRequestType

/-- `enum class MessageSecurityMode : std::uint32_t`. -/
structure MessageSecurityMode where
  raw : UInt32
deriving DecidableEq

namespace MessageSecurityMode

def none : MessageSecurityMode := ⟨1⟩
def signAndEncrypt : MessageSecurityMode := ⟨3⟩

end MessageSecurityMode

def securityPolicyNone : ByteText :=
  asciiText "http://opcfoundation.org/UA/SecurityPolicy#None"

def securityPolicyBasic256Sha256 : ByteText :=
  asciiText "http://opcfoundation.org/UA/SecurityPolicy#Basic256Sha256"

theorem securityPolicyBasic256Sha256_ne_none :
    securityPolicyBasic256Sha256 ≠ securityPolicyNone := by
  decide

structure RequestHeader where
  requestHandle : UInt32 := 0
  returnDiagnostics : UInt32 := 0
  auditEntryId : ByteText := []
  timeoutHint : UInt32 := 0

structure ResponseHeader where
  requestHandle : UInt32 := 0
  serviceResult : Status := Status.good

structure ChannelSecurityToken where
  channelId : UInt32 := 0
  tokenId : UInt32 := 0
  createdAt : Int64 := 0
  revisedLifetime : UInt32 := 0

structure AsymmetricSecurityHeader where
  securityPolicyUri : ByteText := []
  senderCertificate : ByteString := []
  receiverCertificateThumbprint : ByteString := []

structure SymmetricSecurityHeader where
  tokenId : UInt32 := 0

structure SequenceHeader where
  sequenceNumber : UInt32 := 0
  requestId : UInt32 := 0

structure SecureConversationMessage where
  frameHeader : FrameHeader
  secureChannelId : UInt32 := 0
  asymmetricSecurityHeader : Option AsymmetricSecurityHeader := none
  symmetricSecurityHeader : Option SymmetricSecurityHeader := none
  sequenceHeader : SequenceHeader := {}
  body : ByteString := []

structure OpenSecureChannelRequest where
  requestHeader : RequestHeader := {}
  clientProtocolVersion : UInt32 := 0
  requestType : SecurityTokenRequestType := .issue
  securityMode : MessageSecurityMode := .none
  clientNonce : ByteString := []
  requestedLifetime : UInt32 := 0

structure OpenSecureChannelResponse where
  responseHeader : ResponseHeader := {}
  serverProtocolVersion : UInt32 := 0
  securityToken : ChannelSecurityToken := {}
  serverNonce : ByteString := []

structure CloseSecureChannelRequest where
  requestHeader : RequestHeader := {}

def encodeAsymmetricSecurityHeader (header : AsymmetricSecurityHeader) :
    ByteString :=
  encodeByteString header.securityPolicyUri ++
    (encodeByteString header.senderCertificate ++
      encodeByteString header.receiverCertificateThumbprint)

def decodeAsymmetricSecurityHeader : Decoder AsymmetricSecurityHeader := do
  let securityPolicyUri ← decodeByteString
  let senderCertificate ← decodeByteString
  let receiverCertificateThumbprint ← decodeByteString
  return { securityPolicyUri, senderCertificate, receiverCertificateThumbprint }

def encodeSequenceHeader (header : SequenceHeader) : ByteString :=
  encodeUInt32 header.sequenceNumber ++ encodeUInt32 header.requestId

def decodeSequenceHeader : Decoder SequenceHeader := do
  let sequenceNumber ← decodeUInt32
  let requestId ← decodeUInt32
  return { sequenceNumber, requestId }

/-- Lengths which the encoding of a security header can hold. -/
structure AsymmetricSecurityHeader.Encodable
    (header : AsymmetricSecurityHeader) : Prop where
  uri : header.securityPolicyUri.length < 2 ^ 31
  certificate : header.senderCertificate.length < 2 ^ 31
  thumbprint : header.receiverCertificateThumbprint.length < 2 ^ 31

theorem reads_asymmetricSecurityHeader {header : AsymmetricSecurityHeader}
    (h : header.Encodable) :
    Reads decodeAsymmetricSecurityHeader
      (encodeAsymmetricSecurityHeader header) header :=
  (reads_byteString h.uri).bind ((reads_byteString h.certificate).bind
    ((reads_byteString h.thumbprint).bind_pure (Reads.pure _)))

theorem reads_sequenceHeader (header : SequenceHeader) :
    Reads decodeSequenceHeader (encodeSequenceHeader header) header :=
  (reads_uInt32 _).bind ((reads_uInt32 _).bind_pure (Reads.pure _))

/-! ## Messages -/

/-- What follows the channel id of a frame of the given type. -/
def decodeSecureConversationBody (frameHeader : FrameHeader)
    (secureChannelId : UInt32) : Decoder SecureConversationMessage :=
  if frameHeader.messageType = .secureOpen then do
    let header ← decodeAsymmetricSecurityHeader
    let sequenceHeader ← decodeSequenceHeader
    let body ← Reader.rest
    return {
      frameHeader, secureChannelId, asymmetricSecurityHeader := some header,
      sequenceHeader, body }
  else do
    let tokenId ← decodeUInt32
    let sequenceHeader ← decodeSequenceHeader
    let body ← Reader.rest
    return {
      frameHeader, secureChannelId, symmetricSecurityHeader := some { tokenId },
      sequenceHeader, body }

/-- A frame whose size is the number of its bytes. -/
def completeFrameHeader (frame : ByteString) : Option FrameHeader :=
  (decodeFrameHeader frame).filter (·.messageSize.toNat == frame.length)

def frameType (frame : ByteString) : Option MessageType :=
  (completeFrameHeader frame).map (·.messageType)

def decodeSecureConversationMessage (frame : ByteString) :
    Option SecureConversationMessage := do
  let frameHeader ← completeFrameHeader frame
  let decoder := do
    let secureChannelId ← decodeUInt32
    decodeSecureConversationBody frameHeader secureChannelId
  decoder.start (frame.drop 8)

/-- The part of a message between the frame header and the sequence header.  An
absent security header is never encoded. -/
def encodeSecurityHeader (message : SecureConversationMessage) : ByteString :=
  encodeUInt32 message.secureChannelId ++
    if message.frameHeader.messageType = .secureOpen then
      encodeAsymmetricSecurityHeader
        (message.asymmetricSecurityHeader.getD {})
    else
      encodeUInt32 (message.symmetricSecurityHeader.getD {}).tokenId

def encodeSecureConversationMessage (message : SecureConversationMessage) :
    ByteString :=
  fixUpFrameSize
    (encodeFrameHeader { message.frameHeader with messageSize := 0 } ++
      (encodeSecurityHeader message ++
        (encodeSequenceHeader message.sequenceHeader ++ message.body)))

/-- The headers match the type of the frame and can be encoded. -/
structure SecureConversationMessage.Encodable
    (message : SecureConversationMessage) : Prop where
  asymmetric : message.frameHeader.messageType = .secureOpen →
    message.symmetricSecurityHeader = none ∧
      ∃ header, message.asymmetricSecurityHeader = some header ∧
        header.Encodable
  symmetric : message.frameHeader.messageType ≠ .secureOpen →
    message.asymmetricSecurityHeader = none ∧
      ∃ header, message.symmetricSecurityHeader = some header
  size : (encodeSecureConversationMessage message).length < 2 ^ 32

/-- What a message of any size needs to be read as it was written. -/
structure SecureConversationMessage.WellHeaded
    (message : SecureConversationMessage) : Prop where
  asymmetric : message.frameHeader.messageType = .secureOpen →
    message.symmetricSecurityHeader = none ∧
      ∃ header, message.asymmetricSecurityHeader = some header ∧
        header.Encodable
  symmetric : message.frameHeader.messageType ≠ .secureOpen →
    message.asymmetricSecurityHeader = none ∧
      ∃ header, message.symmetricSecurityHeader = some header

theorem SecureConversationMessage.Encodable.wellHeaded
    {message : SecureConversationMessage} (h : message.Encodable) :
    message.WellHeaded := ⟨h.asymmetric, h.symmetric⟩

/-- The message with the size of its frame. -/
def SecureConversationMessage.sized (message : SecureConversationMessage) :
    SecureConversationMessage :=
  { message with
    frameHeader :=
      { message.frameHeader with
        messageSize :=
          UInt32.ofNat (encodeSecureConversationMessage message).length } }

theorem encodeSecureConversationMessage_eq
    (message : SecureConversationMessage) :
    encodeSecureConversationMessage message =
      encodeFrameHeader message.sized.frameHeader ++
        (encodeSecurityHeader message ++
          (encodeSequenceHeader message.sequenceHeader ++ message.body)) := by
  have heq : encodeSecureConversationMessage message =
      encodeFrameHeader
          { message.frameHeader with
            messageSize :=
              UInt32.ofNat (8 + (encodeSecurityHeader message ++
                (encodeSequenceHeader message.sequenceHeader ++
                  message.body)).length) } ++
        (encodeSecurityHeader message ++
          (encodeSequenceHeader message.sequenceHeader ++ message.body)) :=
    fixUpFrameSize_append _ _
  have hlength : (encodeSecureConversationMessage message).length =
      8 + (encodeSecurityHeader message ++
        (encodeSequenceHeader message.sequenceHeader ++ message.body)).length := by
    rw [heq, List.length_append, length_encodeFrameHeader]
  rw [SecureConversationMessage.sized, hlength]
  exact heq

theorem completeFrameHeader_append {header : FrameHeader} {after : ByteString}
    (h : header.messageSize.toNat = 8 + after.length) :
    completeFrameHeader (encodeFrameHeader header ++ after) = some header := by
  have hlength : (encodeFrameHeader header ++ after).length =
      header.messageSize.toNat := by
    rw [List.length_append, length_encodeFrameHeader, h]
  rw [completeFrameHeader, decodeFrameHeader_append header after (by omega),
    Option.filter_some, if_pos (by simp [hlength])]

/-- Whatever size a frame carries, its header is either read as it was written
or not at all. -/
theorem completeFrameHeader_eq {header decoded : FrameHeader}
    {after : ByteString}
    (h : completeFrameHeader (encodeFrameHeader header ++ after) =
      some decoded) : decoded = header := by
  rw [completeFrameHeader, decodeFrameHeader_encode,
    Option.filter_eq_some_iff] at h
  obtain ⟨hdecode, -⟩ := h
  split at hdecode
  next => exact absurd hdecode (by simp)
  next => exact (Option.some.inj hdecode).symm

theorem frameType_append_eq {header : FrameHeader} {after : ByteString}
    {messageType : MessageType}
    (h : frameType (encodeFrameHeader header ++ after) = some messageType) :
    header.messageType = messageType := by
  obtain ⟨decoded, hdecoded, rfl⟩ := Option.map_eq_some_iff.mp h
  rw [completeFrameHeader_eq hdecoded]

theorem readsAll_openBody {frameHeader : FrameHeader}
    (htype : frameHeader.messageType = .secureOpen) (channelId : UInt32)
    {header : AsymmetricSecurityHeader} (h : header.Encodable)
    (sequence : SequenceHeader) (body : ByteString) :
    ReadsAll (decodeSecureConversationBody frameHeader channelId)
      (encodeAsymmetricSecurityHeader header ++
        (encodeSequenceHeader sequence ++ body))
      { frameHeader
        secureChannelId := channelId
        asymmetricSecurityHeader := some header
        sequenceHeader := sequence
        body } := by
  rw [decodeSecureConversationBody, if_pos htype]
  refine (reads_asymmetricSecurityHeader h).bind_all ?_
  refine (reads_sequenceHeader sequence).bind_all ?_
  exact (ReadsAll.rest body).bind (Reads.pure _).all

theorem readsAll_symmetricBody {frameHeader : FrameHeader}
    (htype : frameHeader.messageType ≠ .secureOpen) (channelId : UInt32)
    (header : SymmetricSecurityHeader) (sequence : SequenceHeader)
    (body : ByteString) :
    ReadsAll (decodeSecureConversationBody frameHeader channelId)
      (encodeUInt32 header.tokenId ++ (encodeSequenceHeader sequence ++ body))
      { frameHeader
        secureChannelId := channelId
        symmetricSecurityHeader := some header
        sequenceHeader := sequence
        body } := by
  rw [decodeSecureConversationBody, if_neg htype]
  refine (reads_uInt32 header.tokenId).bind_all ?_
  refine (reads_sequenceHeader sequence).bind_all ?_
  exact (ReadsAll.rest body).bind (Reads.pure _).all

theorem readsAll_secureConversationBody {message : SecureConversationMessage}
    (h : message.WellHeaded) :
    ReadsAll
      (do
        let secureChannelId ← decodeUInt32
        decodeSecureConversationBody message.sized.frameHeader secureChannelId)
      (encodeSecurityHeader message ++
        (encodeSequenceHeader message.sequenceHeader ++ message.body))
      message.sized := by
  obtain ⟨frameHeader, channelId, asymmetric, symmetric, sequence, body⟩ :=
    message
  rw [encodeSecurityHeader, List.append_assoc]
  refine (reads_uInt32 channelId).bind_all ?_
  by_cases htype : frameHeader.messageType = .secureOpen
  · obtain ⟨rfl, header, rfl, hheader⟩ := h.asymmetric htype
    rw [if_pos htype]
    refine readsAll_openBody ?_ channelId hheader sequence body
    exact htype
  · obtain ⟨rfl, header, rfl⟩ := h.symmetric htype
    rw [if_neg htype]
    refine readsAll_symmetricBody ?_ channelId header sequence body
    exact htype

theorem decodeSecureConversationMessage_encode
    {message : SecureConversationMessage} (h : message.Encodable) :
    decodeSecureConversationMessage (encodeSecureConversationMessage message) =
      some message.sized := by
  have hsize : message.sized.frameHeader.messageSize.toNat =
      (encodeSecureConversationMessage message).length :=
    UInt32.toNat_ofNat_of_lt' h.size
  rw [encodeSecureConversationMessage_eq, List.length_append,
    length_encodeFrameHeader] at hsize
  rw [decodeSecureConversationMessage, encodeSecureConversationMessage_eq,
    completeFrameHeader_append hsize,
    List.drop_left' (length_encodeFrameHeader _)]
  exact (readsAll_secureConversationBody h.wellHeaded).start

theorem decodeSecureConversationMessage_eq
    {message decoded : SecureConversationMessage} (h : message.WellHeaded)
    (hdecode : decodeSecureConversationMessage
      (encodeSecureConversationMessage message) = some decoded) :
    decoded = message.sized := by
  rw [encodeSecureConversationMessage_eq] at hdecode
  obtain ⟨header, hheader, hbody⟩ := Option.bind_eq_some_iff.mp hdecode
  obtain rfl := completeFrameHeader_eq hheader
  rw [List.drop_left' (length_encodeFrameHeader _),
    (readsAll_secureConversationBody h).start] at hbody
  exact (Option.some.inj hbody).symm

/-! ## Bodies -/

def openSecureChannelRequestEncodingId : UInt32 := 446
def openSecureChannelResponseEncodingId : UInt32 := 449
def closeSecureChannelRequestEncodingId : UInt32 := 452

def appendRequestHeader (header : RequestHeader) : ByteString :=
  encodeNodeId { identifier := .numeric 0 } ++ (encodeInt64 0 ++
    (encodeUInt32 header.requestHandle ++
      (encodeUInt32 header.returnDiagnostics ++
        (encodeByteString header.auditEntryId ++
          (encodeUInt32 header.timeoutHint ++
            (encodeNodeId { identifier := .numeric 0 } ++
              encodeUInt8 0x00))))))

def readRequestHeader : Decoder RequestHeader := do
  let _authenticationToken ← decodeNodeId
  let _timestamp ← decodeInt64
  let requestHandle ← decodeUInt32
  let returnDiagnostics ← decodeUInt32
  let auditEntryId ← decodeByteString
  let timeoutHint ← decodeUInt32
  let _additionalHeader ← decodeExtensionObject
  return { requestHandle, returnDiagnostics, auditEntryId, timeoutHint }

def appendResponseHeader (header : ResponseHeader) : ByteString :=
  encodeInt64 0 ++ (encodeUInt32 header.requestHandle ++
    (encodeUInt32 (if header.serviceResult.isGood then 0 else 0x80000000) ++
      (encodeUInt8 0 ++ (encodeInt32 0 ++
        (encodeNodeId { identifier := .numeric 0 } ++ encodeUInt8 0x00)))))

def readResponseHeader : Decoder ResponseHeader := do
  let _timestamp ← decodeInt64
  let requestHandle ← decodeUInt32
  let statusWord ← decodeUInt32
  let _serviceDiagnosticsMask ← decodeUInt8
  let _stringTableCount ← decodeInt32
  let _additionalHeader ← decodeExtensionObject
  return { requestHandle, serviceResult := ⟨statusWord⟩ }

def encodeOpenSecureChannelRequestBody (request : OpenSecureChannelRequest) :
    ByteString :=
  appendMessage openSecureChannelRequestEncodingId
    (appendRequestHeader request.requestHeader ++
      (encodeUInt32 request.clientProtocolVersion ++
        (encodeUInt32 request.requestType.raw ++
          (encodeUInt32 request.securityMode.raw ++
            (encodeByteString request.clientNonce ++
              encodeUInt32 request.requestedLifetime)))))

def readOpenSecureChannelRequest : Decoder OpenSecureChannelRequest := do
  let requestHeader ← readRequestHeader
  let clientProtocolVersion ← decodeUInt32
  let requestType ← decodeUInt32
  let securityMode ← decodeUInt32
  let clientNonce ← decodeByteString
  let requestedLifetime ← decodeUInt32
  Reader.atEnd
  return {
    requestHeader, clientProtocolVersion, requestType := ⟨requestType⟩,
    securityMode := ⟨securityMode⟩, clientNonce, requestedLifetime }

/-- The payload of a message with the expected encoding id. -/
def readMessageOf {α : Type} (encodingId : UInt32) (reader : Decoder α)
    (body : ByteString) : Option α := do
  let (typeId, payload) ← readMessage.start body
  if typeId = encodingId then reader.start payload else none

def decodeOpenSecureChannelRequestBody (body : ByteString) :
    Option OpenSecureChannelRequest :=
  readMessageOf openSecureChannelRequestEncodingId
    readOpenSecureChannelRequest body

def encodeOpenSecureChannelResponseBody
    (response : OpenSecureChannelResponse) : ByteString :=
  appendMessage openSecureChannelResponseEncodingId
    (appendResponseHeader response.responseHeader ++
      (encodeUInt32 response.serverProtocolVersion ++
        (encodeUInt32 response.securityToken.channelId ++
          (encodeUInt32 response.securityToken.tokenId ++
            (encodeInt64 response.securityToken.createdAt ++
              (encodeUInt32 response.securityToken.revisedLifetime ++
                encodeByteString response.serverNonce))))))

def readOpenSecureChannelResponse : Decoder OpenSecureChannelResponse := do
  let responseHeader ← readResponseHeader
  let serverProtocolVersion ← decodeUInt32
  let channelId ← decodeUInt32
  let tokenId ← decodeUInt32
  let createdAt ← decodeInt64
  let revisedLifetime ← decodeUInt32
  let serverNonce ← decodeByteString
  Reader.atEnd
  return {
    responseHeader, serverProtocolVersion
    securityToken := { channelId, tokenId, createdAt, revisedLifetime }
    serverNonce }

def decodeOpenSecureChannelResponseBody (body : ByteString) :
    Option OpenSecureChannelResponse :=
  readMessageOf openSecureChannelResponseEncodingId
    readOpenSecureChannelResponse body

def encodeCloseSecureChannelRequestBody (request : CloseSecureChannelRequest) :
    ByteString :=
  appendMessage closeSecureChannelRequestEncodingId
    (appendRequestHeader request.requestHeader)

def decodeCloseSecureChannelRequestBody (body : ByteString) :
    Option CloseSecureChannelRequest :=
  readMessageOf closeSecureChannelRequestEncodingId
    (do
      let requestHeader ← readRequestHeader
      Reader.atEnd
      return { requestHeader })
    body

theorem reads_requestHeader {header : RequestHeader}
    (h : header.auditEntryId.length < 2 ^ 31) :
    Reads readRequestHeader (appendRequestHeader header) header := by
  refine (reads_numericNodeId 0).bind ((reads_int64 0).bind
    ((reads_uInt32 _).bind ((reads_uInt32 _).bind ((reads_byteString h).bind
      ((reads_uInt32 _).bind ?_)))))
  exact reads_nullExtensionObject.bind_pure (Reads.pure header)

/-- The status which the peer reads: good, or bad without its code. -/
def ResponseHeader.received (header : ResponseHeader) : ResponseHeader :=
  { header with
    serviceResult :=
      ⟨if header.serviceResult.isGood then 0 else 0x80000000⟩ }

theorem reads_responseHeader (header : ResponseHeader) :
    Reads readResponseHeader (appendResponseHeader header)
      header.received := by
  refine (reads_int64 0).bind ((reads_uInt32 _).bind ((reads_uInt32 _).bind
    ((reads_uInt8 0).bind ((reads_int32 0).bind ?_))))
  exact reads_nullExtensionObject.bind_pure (Reads.pure header.received)

theorem readMessageOf_appendMessage {α : Type} {encodingId : UInt32}
    {reader : Decoder α} {payload : ByteString} {value : α}
    (h : ReadsAll reader payload value) :
    readMessageOf encodingId reader (appendMessage encodingId payload) =
      some value := by
  rw [readMessageOf, readMessage_appendMessage]
  exact (if_pos rfl).trans h.start

theorem decodeOpenSecureChannelRequestBody_encode
    {request : OpenSecureChannelRequest}
    (haudit : request.requestHeader.auditEntryId.length < 2 ^ 31)
    (hnonce : request.clientNonce.length < 2 ^ 31) :
    decodeOpenSecureChannelRequestBody
      (encodeOpenSecureChannelRequestBody request) = some request := by
  refine readMessageOf_appendMessage ?_
  refine (reads_requestHeader haudit).bind_all ((reads_uInt32 _).bind_all
    ((reads_uInt32 _).bind_all ((reads_uInt32 _).bind_all
      ((reads_byteString hnonce).bind_all ?_))))
  exact (reads_uInt32 _).all.bind (ReadsAll.atEnd.bind (Reads.pure request).all)

theorem decodeOpenSecureChannelResponseBody_encode
    {response : OpenSecureChannelResponse}
    (hnonce : response.serverNonce.length < 2 ^ 31) :
    decodeOpenSecureChannelResponseBody
      (encodeOpenSecureChannelResponseBody response) =
        some { response with
          responseHeader := response.responseHeader.received } := by
  refine readMessageOf_appendMessage ?_
  refine (reads_responseHeader _).bind_all ((reads_uInt32 _).bind_all
    ((reads_uInt32 _).bind_all ((reads_uInt32 _).bind_all
      ((reads_int64 _).bind_all ((reads_uInt32 _).bind_all ?_)))))
  exact (reads_byteString hnonce).all.bind
    (ReadsAll.atEnd.bind (Reads.pure _).all)

end Binary
end OpcuaStack
