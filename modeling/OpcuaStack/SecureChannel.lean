import OpcuaStack.SecureFrames

/-!
# The server's secure channel

`SecureChannel` of `secure_channel.cpp`.  What a call finds around the channel,
the clock, the generators and the trust store, is an argument of the call.
-/

namespace OpcuaStack
namespace Binary

variable {ssl : OpenSsl}

/-- What one call of a channel gets from its surroundings. -/
structure Surroundings where
  now : Int64 := 0
  /-- The verdict of `validate_client_certificate`. -/
  validation : ByteString → Status := fun _ => Status.good
  /-- The result of the configured nonce generator. -/
  generatedNonce : Option ByteString := none
  randBytes : (length : ℕ) → Option (Vector UInt8 length) := fun _ => none
  /-- The seeds of the encrypted blocks. -/
  seeds : ℕ → ByteString := fun _ => []

def generateNonce (around : Surroundings) (length : ℕ) : Option ByteString :=
  if 0 < length then (around.randBytes length).map (·.toList) else some []

structure SecureChannelServerConfig (ssl : OpenSsl) where
  certificate : Certificate ssl
  privateKey : PrivateKey ssl
  certificateDer : ByteString := []
  certificateThumbprint : ByteString := []
  allowNone : Bool := true
  allowBasic256Sha256 : Bool := false
  validatesClientCertificate : Bool := false
  hasServerNonceGenerator : Bool := false

def makeSecureChannelServerConfig (certificate : Certificate ssl)
    (privateKey : PrivateKey ssl) (allowNone validatesClientCertificate : Bool) :
    Option (SecureChannelServerConfig ssl) :=
  let config : SecureChannelServerConfig ssl :=
    { certificate, privateKey, allowNone, validatesClientCertificate }
  if certificate.isNone then
    some config
  else do
    let der ← Binary.certificateDer certificate
    let thumbprint ← Binary.certificateThumbprint certificate
    return {
      config with
      certificateDer := der
      certificateThumbprint := thumbprint
      allowBasic256Sha256 := privateKey.isSome }

structure SecureChannel (ssl : OpenSsl) where
  config : Option (SecureChannelServerConfig ssl) := none
  channelId : UInt32 := 1
  tokenId : UInt32 := 1
  previousTokenId : UInt32 := 0
  nextSequenceNumber : UInt32 := 1
  opened : Bool := false
  basic256Active : Bool := false
  inboundKeys : DerivedKeys := {}
  outboundKeys : DerivedKeys := {}
  serverNonce : ByteString := []
  clientCertificateDer : ByteString := []

/-- `SecureChannel::Result`. -/
structure FrameResult where
  outboundFrame : Option ByteString := none
  servicePayload : Option ByteString := none
  requestId : Option UInt32 := none
  closeTransport : Bool := false
  gracefulClose : Bool := false
deriving DecidableEq

def FrameResult.close : FrameResult := { closeTransport := true }

namespace SecureChannel

/-! ## SecurityPolicy None -/

/-- The message and the request of an OPN frame without security. -/
def decodeOpenNone (frame : ByteString) :
    Option (SecureConversationMessage × OpenSecureChannelRequest) := do
  let message ← decodeSecureConversationMessage frame
  let request ← decodeOpenSecureChannelRequestBody message.body
  return (message, request)

def supportedSecurity (message : SecureConversationMessage)
    (request : OpenSecureChannelRequest) : Bool :=
  request.securityMode == .none &&
    match message.asymmetricSecurityHeader with
    | none => false
    | some header => header.securityPolicyUri == securityPolicyNone

def openResponse (s : SecureChannel ssl) (around : Surroundings)
    (request : OpenSecureChannelRequest) (serviceResult : Status)
    (serverNonce : ByteString) : OpenSecureChannelResponse :=
  { responseHeader :=
      { requestHandle := request.requestHeader.requestHandle, serviceResult }
    serverProtocolVersion := request.clientProtocolVersion
    securityToken :=
      { channelId := s.channelId
        tokenId := s.tokenId
        createdAt := around.now
        revisedLifetime := request.requestedLifetime }
    serverNonce }

def buildOpenResponse (s : SecureChannel ssl) (around : Surroundings)
    (message : SecureConversationMessage) (request : OpenSecureChannelRequest)
    (serviceResult : Status) : SecureChannel ssl × ByteString :=
  ({ s with nextSequenceNumber := s.nextSequenceNumber + 1 },
    encodeSecureConversationMessage
      { frameHeader := { messageType := .secureOpen }
        secureChannelId := s.channelId
        asymmetricSecurityHeader :=
          some { securityPolicyUri := securityPolicyNone }
        sequenceHeader :=
          { sequenceNumber := s.nextSequenceNumber
            requestId := message.sequenceHeader.requestId }
        body := encodeOpenSecureChannelResponseBody
          (s.openResponse around request serviceResult []) })

/-- The token rotates before the response is built. -/
def rotateNone (s : SecureChannel ssl) (request : OpenSecureChannelRequest) :
    SecureChannel ssl :=
  if request.requestType = .renew then
    { s with previousTokenId := s.tokenId, tokenId := s.tokenId + 1 }
  else
    s

def handleOpenNone (s : SecureChannel ssl) (around : Surroundings)
    (frame : ByteString) : SecureChannel ssl × FrameResult :=
  match decodeOpenNone frame with
  | none => (s, .close)
  | some (message, request) =>
      if supportedSecurity message request then
        let (answered, response) := (s.rotateNone request).buildOpenResponse
          around message request Status.good
        ({ answered with opened := true }, { outboundFrame := some response })
      else
        let (answered, response) := s.buildOpenResponse around message request
          (Status.ofCode .bad)
        (answered, { outboundFrame := some response })

theorem handleOpenNone_of_none {s : SecureChannel ssl} {around : Surroundings}
    {frame : ByteString} (h : decodeOpenNone frame = none) :
    s.handleOpenNone around frame = (s, .close) := by
  rw [handleOpenNone, h]

theorem handleOpenNone_refuses {s : SecureChannel ssl} {around : Surroundings}
    {frame : ByteString} {message : SecureConversationMessage}
    {request : OpenSecureChannelRequest}
    (h : decodeOpenNone frame = some (message, request))
    (hunsupported : supportedSecurity message request = false) :
    s.handleOpenNone around frame =
      ({ s with nextSequenceNumber := s.nextSequenceNumber + 1 },
        { outboundFrame := some (s.buildOpenResponse around message request
            (Status.ofCode .bad)).2 }) := by
  simp only [handleOpenNone, h, hunsupported]
  rfl

theorem handleOpenNone_opens {s : SecureChannel ssl} {around : Surroundings}
    {frame : ByteString} {message : SecureConversationMessage}
    {request : OpenSecureChannelRequest}
    (h : decodeOpenNone frame = some (message, request))
    (hsupported : supportedSecurity message request = true) :
    s.handleOpenNone around frame =
      ({ s.rotateNone request with
          nextSequenceNumber := (s.rotateNone request).nextSequenceNumber + 1
          opened := true },
        { outboundFrame := some ((s.rotateNone request).buildOpenResponse around
            message request Status.good).2 }) := by
  simp only [handleOpenNone, h, hsupported]
  rfl

/-! ## Basic256Sha256 -/

def generateServerNonce (config : SecureChannelServerConfig ssl)
    (around : Surroundings) : Option ByteString :=
  if config.hasServerNonceGenerator then
    around.generatedNonce.filter (·.length == 32)
  else
    generateNonce around 32

/-- What an OPN frame carries after the checks of its header. -/
structure SecureOpen (ssl : OpenSsl) where
  senderCertificate : ByteString
  clientCertificate : Certificate ssl
  clientPublicKey : PrivateKey ssl
  sequenceHeader : SequenceHeader
  request : OpenSecureChannelRequest

/-- The checks of `HandleOpenSecure` up to the decoded request. -/
def decodeOpenSecure (config : SecureChannelServerConfig ssl)
    (around : Surroundings) (frame : ByteString) : Option (SecureOpen ssl) := do
  let (_, header, headerEnd) ← decodeOpenPrefix frame
  guard (header.receiverCertificateThumbprint = config.certificateThumbprint)
  guard (header.senderCertificate ≠ [])
  guard (config.validatesClientCertificate = false ∨
    (around.validation header.senderCertificate).isBad = false)
  let clientCertificate ← loadDerCertificate ssl header.senderCertificate
  let clientPublicKey ← certificatePublicKey clientCertificate
  let (sequenceHeader, body) ← openAsymmetric
    { publicKey := clientPublicKey, privateKey := config.privateKey } frame
    headerEnd
  let request ← decodeOpenSecureChannelRequestBody body
  guard (request.securityMode = .signAndEncrypt)
  return {
    senderCertificate := header.senderCertificate
    clientCertificate, clientPublicKey, sequenceHeader, request }

/-- `BuildSecureOpenResponse`; the sequence number is used up in any case. -/
def buildSecureOpenResponse (s : SecureChannel ssl)
    (config : SecureChannelServerConfig ssl) (around : Surroundings)
    (received : SecureOpen ssl) (clientThumbprint serverNonce : ByteString) :
    SecureChannel ssl × Option ByteString :=
  let body := encodeOpenSecureChannelResponseBody
    (s.openResponse around received.request Status.good serverNonce)
  let header := encodeFrameHeader { messageType := .secureOpen } ++
    (encodeUInt32 s.channelId ++ encodeAsymmetricSecurityHeader
      { securityPolicyUri := securityPolicyBasic256Sha256
        senderCertificate := config.certificateDer
        receiverCertificateThumbprint := clientThumbprint })
  let plaintext := encodeSequenceHeader
    { sequenceNumber := s.nextSequenceNumber
      requestId := received.sequenceHeader.requestId } ++ body
  let clientKeyBytes := received.clientPublicKey.keySizeBytes
  ({ s with nextSequenceNumber := s.nextSequenceNumber + 1 },
    if clientKeyBytes ≤ rsaOaepSha1Overhead ∨
        config.privateKey.keySizeBytes = 0 then
      none
    else
      sealAsymmetric
        { publicKey := received.clientPublicKey
          privateKey := config.privateKey } around.seeds
        (clientKeyBytes - rsaOaepSha1Overhead) header plaintext)

/-- The token rotates before the response is built. -/
def rotateSecure (s : SecureChannel ssl) (request : OpenSecureChannelRequest) :
    SecureChannel ssl :=
  if request.requestType = .renew then
    { s with tokenId := s.tokenId + 1 }
  else
    s

def establish (s : SecureChannel ssl) (received : SecureOpen ssl)
    (serverNonce : ByteString) : SecureChannel ssl :=
  { s with
    inboundKeys := deriveBasic256Sha256Keys ssl serverNonce
      received.request.clientNonce
    outboundKeys := deriveBasic256Sha256Keys ssl received.request.clientNonce
      serverNonce
    serverNonce := serverNonce
    clientCertificateDer := received.senderCertificate
    basic256Active := true
    opened := true }

/-- The decoded frame with the nonce and the thumbprint for its answer. -/
def acceptOpenSecure (config : SecureChannelServerConfig ssl)
    (around : Surroundings) (frame : ByteString) :
    Option (SecureOpen ssl × ByteString × ByteString) := do
  let received ← decodeOpenSecure config around frame
  let serverNonce ← generateServerNonce config around
  guard (received.request.clientNonce.length = 32)
  let clientThumbprint ← certificateThumbprint received.clientCertificate
  return (received, serverNonce, clientThumbprint)

def handleOpenSecure (s : SecureChannel ssl)
    (config : SecureChannelServerConfig ssl) (around : Surroundings)
    (frame : ByteString) : SecureChannel ssl × FrameResult :=
  match acceptOpenSecure config around frame with
  | none => (s, .close)
  | some (received, serverNonce, clientThumbprint) =>
      match (s.rotateSecure received.request).buildSecureOpenResponse config
          around received clientThumbprint serverNonce with
      | (answered, none) => (answered, .close)
      | (answered, some response) =>
          (answered.establish received serverNonce,
            { outboundFrame := some response })

/-- The frame, the nonce and the response of an OPN which is answered. -/
def answeredOpen (s : SecureChannel ssl)
    (config : SecureChannelServerConfig ssl) (around : Surroundings)
    (frame : ByteString) : Option (SecureOpen ssl × ByteString × ByteString) :=
  match acceptOpenSecure config around frame with
  | none => none
  | some (received, serverNonce, clientThumbprint) =>
      ((s.rotateSecure received.request).buildSecureOpenResponse config around
        received clientThumbprint serverNonce).2.map
          fun response => (received, serverNonce, response)

/-- An OPN which is not answered may have moved the token all the same. -/
theorem handleOpenSecure_of_none {s : SecureChannel ssl}
    {config : SecureChannelServerConfig ssl} {around : Surroundings}
    {frame : ByteString} (h : s.answeredOpen config around frame = none) :
    ∃ t, s.handleOpenSecure config around frame = (t, .close) ∧
      (t = s ∨ ∃ request : OpenSecureChannelRequest, t =
        { s.rotateSecure request with
          nextSequenceNumber :=
            (s.rotateSecure request).nextSequenceNumber + 1 }) := by
  unfold answeredOpen at h
  unfold handleOpenSecure
  split
  next => exact ⟨s, rfl, Or.inl rfl⟩
  next received serverNonce clientThumbprint haccept =>
    simp only [haccept, Option.map_eq_none_iff] at h
    simp only [buildSecureOpenResponse] at h ⊢
    rw [h]
    exact ⟨_, rfl, Or.inr ⟨received.request, rfl⟩⟩

theorem handleOpenSecure_of_some {s : SecureChannel ssl}
    {config : SecureChannelServerConfig ssl} {around : Surroundings}
    {frame serverNonce response : ByteString} {received : SecureOpen ssl}
    (h : s.answeredOpen config around frame =
      some (received, serverNonce, response)) :
    s.handleOpenSecure config around frame =
      (establish
        { s.rotateSecure received.request with
          nextSequenceNumber :=
            (s.rotateSecure received.request).nextSequenceNumber + 1 }
        received serverNonce,
        { outboundFrame := some response }) := by
  unfold answeredOpen at h
  unfold handleOpenSecure
  split at h
  next => exact absurd h (by simp)
  next heq =>
    obtain ⟨built, hbuilt, hmk⟩ := Option.map_eq_some_iff.mp h
    obtain ⟨rfl, rfl, rfl⟩ : _ = received ∧ _ = serverNonce ∧ built = response := by
      simpa using hmk
    dsimp only
    simp only [buildSecureOpenResponse] at hbuilt ⊢
    rw [hbuilt]

/-! ## MSG and CLO -/

def handlePlainMessage (s : SecureChannel ssl) (frame : ByteString)
    (isClose : Bool) : SecureChannel ssl × FrameResult :=
  match decodeSecureConversationMessage frame with
  | none => (s, .close)
  | some message =>
      match message.symmetricSecurityHeader with
      | none => (s, .close)
      | some header =>
          if message.secureChannelId ≠ s.channelId then
            (s, .close)
          else if header.tokenId ≠ s.tokenId ∧
              (s.previousTokenId = 0 ∨ header.tokenId ≠ s.previousTokenId) then
            (s, .close)
          else if isClose then
            ({ s with opened := false },
              { closeTransport := true
                gracefulClose :=
                  (decodeCloseSecureChannelRequestBody message.body).isSome })
          else
            (s,
              { servicePayload := some message.body
                requestId := some message.sequenceHeader.requestId })

def handleSymmetricMessage (s : SecureChannel ssl) (frame : ByteString)
    (isClose : Bool) : SecureChannel ssl × FrameResult :=
  match openSymmetric ssl s.inboundKeys s.channelId s.tokenId frame with
  | none => (s, .close)
  | some (sequenceHeader, body) =>
      if isClose then
        ({ s with opened := false },
          { closeTransport := true
            gracefulClose := (decodeCloseSecureChannelRequestBody body).isSome })
      else
        (s,
          { servicePayload := some body
            requestId := some sequenceHeader.requestId })

def handleSecureMessage (s : SecureChannel ssl) (frame : ByteString)
    (isClose : Bool) : SecureChannel ssl × FrameResult :=
  if s.opened = false then
    (s, .close)
  else if s.basic256Active then
    s.handleSymmetricMessage frame isClose
  else
    s.handlePlainMessage frame isClose

/-! ## Frames -/

/-- The security policy of an OPN frame, read in front of anything else. -/
def peekPolicyUri (frame : ByteString) : Option ByteText :=
  let decoder : Decoder ByteText := do
    let _requestedChannelId ← decodeUInt32
    decodeByteString
  decoder.start (frame.drop 8)

/-- The configuration, if it accepts SecurityPolicy None. -/
def allowsNone (s : SecureChannel ssl) : Bool :=
  match s.config with
  | none => true
  | some config => config.allowNone

/-- The configuration, if it accepts Basic256Sha256. -/
def basic256Config (s : SecureChannel ssl) :
    Option (SecureChannelServerConfig ssl) :=
  s.config.filter fun config =>
    config.allowBasic256Sha256 && !config.certificateDer.isEmpty

def handleOpen (s : SecureChannel ssl) (around : Surroundings)
    (frame : ByteString) : SecureChannel ssl × FrameResult :=
  match peekPolicyUri frame with
  | none => (s, .close)
  | some policyUri =>
      if policyUri = securityPolicyNone then
        if s.allowsNone then s.handleOpenNone around frame else (s, .close)
      else if policyUri = securityPolicyBasic256Sha256 then
        match s.basic256Config with
        | none => (s, .close)
        | some config => s.handleOpenSecure config around frame
      else
        (s, .close)

theorem handleOpen_of_none {s : SecureChannel ssl} {around : Surroundings}
    {frame : ByteString} (h : peekPolicyUri frame = some securityPolicyNone) :
    s.handleOpen around frame =
      if s.allowsNone then s.handleOpenNone around frame else (s, .close) := by
  simp only [handleOpen, h, if_true]

theorem handleOpen_of_basic256 {s : SecureChannel ssl} {around : Surroundings}
    {frame : ByteString}
    (h : peekPolicyUri frame = some securityPolicyBasic256Sha256) :
    s.handleOpen around frame =
      match s.basic256Config with
      | none => (s, .close)
      | some config => s.handleOpenSecure config around frame := by
  simp only [handleOpen, h, if_neg securityPolicyBasic256Sha256_ne_none, if_true]

theorem handleOpen_of_other {s : SecureChannel ssl} {around : Surroundings}
    {frame : ByteString} (hnone : peekPolicyUri frame ≠ some securityPolicyNone)
    (hbasic : peekPolicyUri frame ≠ some securityPolicyBasic256Sha256) :
    s.handleOpen around frame = (s, .close) := by
  unfold handleOpen
  cases hpolicy : peekPolicyUri frame with
  | none => rfl
  | some policyUri =>
      rw [hpolicy] at hnone hbasic
      simp only [ne_eq, Option.some.injEq] at hnone hbasic
      simp only [if_neg hnone, if_neg hbasic]

def handleFrame (s : SecureChannel ssl) (around : Surroundings)
    (frame : ByteString) : SecureChannel ssl × FrameResult :=
  match completeFrameHeader frame with
  | none => (s, .close)
  | some header =>
      match header.messageType with
      | .secureOpen => s.handleOpen around frame
      | .secureMessage => s.handleSecureMessage frame false
      | .secureClose => s.handleSecureMessage frame true
      | .hello | .acknowledge | .error | .reverseHello => (s, .close)

theorem handleFrame_of_secureOpen {s : SecureChannel ssl}
    {around : Surroundings} {frame : ByteString}
    (h : frameType frame = some .secureOpen) :
    s.handleFrame around frame = s.handleOpen around frame := by
  obtain ⟨header, hheader, htype⟩ := Option.map_eq_some_iff.mp h
  simp only [handleFrame, hheader, htype]

theorem handleFrame_of_secureMessage {s : SecureChannel ssl}
    {around : Surroundings} {frame : ByteString}
    (h : frameType frame = some .secureMessage) :
    s.handleFrame around frame = s.handleSecureMessage frame false := by
  obtain ⟨header, hheader, htype⟩ := Option.map_eq_some_iff.mp h
  simp only [handleFrame, hheader, htype]

theorem handleFrame_of_secureClose {s : SecureChannel ssl}
    {around : Surroundings} {frame : ByteString}
    (h : frameType frame = some .secureClose) :
    s.handleFrame around frame = s.handleSecureMessage frame true := by
  obtain ⟨header, hheader, htype⟩ := Option.map_eq_some_iff.mp h
  simp only [handleFrame, hheader, htype]

/-- The types of frames which a secure channel handles. -/
def HandledType (messageType : Option MessageType) : Prop :=
  messageType = some .secureOpen ∨ messageType = some .secureMessage ∨
    messageType = some .secureClose

theorem handleFrame_of_other {s : SecureChannel ssl} {around : Surroundings}
    {frame : ByteString} (h : ¬ HandledType (frameType frame)) :
    s.handleFrame around frame = (s, .close) := by
  unfold handleFrame
  unfold HandledType frameType at h
  cases hheader : completeFrameHeader frame with
  | none => rfl
  | some header =>
      rw [hheader] at h
      cases htype : header.messageType <;> simp_all

/-- `BuildServiceResponse`; a frame which cannot be secured is left empty. -/
def buildServiceResponse (s : SecureChannel ssl) (requestId : UInt32)
    (body : ByteString) : SecureChannel ssl × ByteString :=
  let sequenceHeader : SequenceHeader :=
    { sequenceNumber := s.nextSequenceNumber, requestId }
  ({ s with nextSequenceNumber := s.nextSequenceNumber + 1 },
    if s.basic256Active then
      (sealSymmetric ssl s.outboundKeys .secureMessage s.channelId s.tokenId
        sequenceHeader body).getD []
    else
      encodeSecureConversationMessage
        { frameHeader := { messageType := .secureMessage }
          secureChannelId := s.channelId
          symmetricSecurityHeader := some { tokenId := s.tokenId }
          sequenceHeader, body })

end SecureChannel
end Binary
end OpcuaStack
