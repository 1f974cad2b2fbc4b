import OpcuaStack.SecureChannel

/-!
# The client's secure channel

`ClientSecureChannel`.  `OpenSecureChannel` and `Close` are cut where the code
waits for the transport: one part builds the frame to write, the other takes
the frame which was read.
-/

namespace OpcuaStack
namespace Binary

variable {ssl : OpenSsl}

structure ClientSecurity (ssl : OpenSsl) where
  securityPolicyUri : ByteText := securityPolicyNone
  securityMode : MessageSecurityMode := .none
  clientCertificate : Certificate ssl := none
  clientPrivateKey : PrivateKey ssl := none
  serverCertificate : Certificate ssl := none
  hasClientNonceGenerator : Bool := false

structure ClientSecureChannel (ssl : OpenSsl) where
  security : ClientSecurity ssl := {}
  opened : Bool := false
  channelId : UInt32 := 0
  tokenId : UInt32 := 0
  revisedLifetimeMs : UInt32 := 0
  nextSequenceNumber : UInt32 := 1
  nextRequestId : UInt32 := 1
  clientKeys : DerivedKeys := {}
  serverKeys : DerivedKeys := {}
  clientNonce : ByteString := []

/-- `ClientSecureChannel::ServiceResponse`, of one chunk. -/
structure ServiceChunk where
  requestId : UInt32 := 0
  body : ByteString := []

namespace ClientSecureChannel

def usesBasic256Sha256 (c : ClientSecureChannel ssl) : Bool :=
  c.security.securityPolicyUri != securityPolicyNone &&
    c.security.securityMode != .none

def usesSignAndEncrypt (c : ClientSecureChannel ssl) : Bool :=
  c.security.securityMode == .signAndEncrypt

/-! ## Opening -/

/-- The security header of an OPN frame; what cannot be derived from the
certificates stays empty. -/
def openSecurityHeader (c : ClientSecureChannel ssl) :
    AsymmetricSecurityHeader :=
  let header : AsymmetricSecurityHeader :=
    { securityPolicyUri := c.security.securityPolicyUri }
  if c.usesBasic256Sha256 then
    { header with
      senderCertificate :=
        (certificateDer c.security.clientCertificate).getD []
      receiverCertificateThumbprint :=
        (certificateThumbprint c.security.serverCertificate).getD [] }
  else
    header

def openRequest (c : ClientSecureChannel ssl) (requestHandle : UInt32)
    (requestType : SecurityTokenRequestType) (clientNonce : ByteString)
    (requestedLifetimeMs : UInt32) : OpenSecureChannelRequest :=
  { requestHeader := { requestHandle }
    requestType
    securityMode := c.security.securityMode
    clientNonce
    requestedLifetime := requestedLifetimeMs }

/-- `BuildPlaintextOpenFrame`, before the sequence number moves on. -/
def plaintextOpenFrame (c : ClientSecureChannel ssl) (requestId : UInt32)
    (secureChannelId : UInt32) (request : OpenSecureChannelRequest) :
    ByteString :=
  encodeSecureConversationMessage
    { frameHeader := { messageType := .secureOpen }
      secureChannelId
      asymmetricSecurityHeader := some c.openSecurityHeader
      sequenceHeader := { sequenceNumber := c.nextSequenceNumber, requestId }
      body := encodeOpenSecureChannelRequestBody request }

/-- Subtraction in `std::size_t`. -/
def sizeSub (a b : ℕ) : ℕ := (a + (2 ^ 64 - b)) % 2 ^ 64

/-- `BuildAsymmetricBasic256Sha256OpenFrame`: the plaintext frame is cut where
its sequence header starts. -/
def asymmetricOpenFrame (c : ClientSecureChannel ssl) (around : Surroundings)
    (requestId secureChannelId : UInt32) (request : OpenSecureChannelRequest) :
    Option ByteString := do
  let frame := c.plaintextOpenFrame requestId secureChannelId request
  let senderDer ← certificateDer c.security.clientCertificate
  let receiverThumbprint ← certificateThumbprint c.security.serverCertificate
  let header := frame.take 8 ++ (encodeUInt32 secureChannelId ++
    encodeAsymmetricSecurityHeader
      { securityPolicyUri := c.security.securityPolicyUri
        senderCertificate := senderDer
        receiverCertificateThumbprint := receiverThumbprint })
  guard (header.length < frame.length)
  let serverPublicKey ← certificatePublicKey c.security.serverCertificate
  sealAsymmetric
    { publicKey := serverPublicKey, privateKey := c.security.clientPrivateKey }
    around.seeds (sizeSub serverPublicKey.keySizeBytes rsaOaepSha1Overhead)
    header (frame.drop header.length)

def generateClientNonce (c : ClientSecureChannel ssl) (around : Surroundings) :
    Option ByteString :=
  if c.security.hasClientNonceGenerator then
    around.generatedNonce.filter (·.length == 32)
  else
    generateNonce around 32

/-- `OpenSecureChannel` up to the frame it writes.  The request id, and what
else was used up on the way, is not given back when no frame can be built. -/
def beginOpen (c : ClientSecureChannel ssl) (around : Surroundings)
    (requestType : SecurityTokenRequestType) (requestedLifetimeMs : UInt32) :
    ClientSecureChannel ssl × Option ByteString :=
  let requestId := c.nextRequestId
  let secureChannelId := if requestType = .renew then c.channelId else 0
  let numbered := { c with nextRequestId := c.nextRequestId + 1 }
  let request := numbered.openRequest requestId requestType
  if c.usesBasic256Sha256 then
    match c.generateClientNonce around with
    | none => (numbered, none)
    | some clientNonce =>
        ({ numbered with
            clientNonce
            nextSequenceNumber := c.nextSequenceNumber + 1 },
          numbered.asymmetricOpenFrame around requestId secureChannelId
            (request clientNonce requestedLifetimeMs))
  else
    ({ numbered with nextSequenceNumber := c.nextSequenceNumber + 1 },
      some (numbered.plaintextOpenFrame requestId secureChannelId
        (request [] requestedLifetimeMs)))

/-- `DecodeAsymmetricBasic256Sha256OpenFrame`, down to the response. -/
def decodeSecureOpenResponse (c : ClientSecureChannel ssl)
    (frame : ByteString) : Option OpenSecureChannelResponse := do
  guard (8 ≤ frame.length)
  let (_, _, headerEnd) ← decodeOpenPrefix frame
  let serverPublicKey ← certificatePublicKey c.security.serverCertificate
  let (_, body) ← openAsymmetric
    { publicKey := serverPublicKey, privateKey := c.security.clientPrivateKey }
    frame headerEnd
  decodeOpenSecureChannelResponseBody body

def decodePlainOpenResponse (frame : ByteString) :
    Option OpenSecureChannelResponse := do
  let message ← decodeSecureConversationMessage frame
  guard (message.frameHeader.messageType = .secureOpen)
  let header ← message.asymmetricSecurityHeader
  guard (header.securityPolicyUri = securityPolicyNone)
  decodeOpenSecureChannelResponseBody message.body

def decodeOpenResponse (c : ClientSecureChannel ssl) (frame : ByteString) :
    Option OpenSecureChannelResponse :=
  if c.usesBasic256Sha256 then
    c.decodeSecureOpenResponse frame
  else
    decodePlainOpenResponse frame

def adopt (c : ClientSecureChannel ssl) (response : OpenSecureChannelResponse) :
    ClientSecureChannel ssl :=
  let named :=
    { c with
      channelId := response.securityToken.channelId
      tokenId := response.securityToken.tokenId
      revisedLifetimeMs := response.securityToken.revisedLifetime
      opened := true }
  if c.usesBasic256Sha256 then
    { named with
      clientKeys := deriveBasic256Sha256Keys ssl response.serverNonce
        c.clientNonce
      serverKeys := deriveBasic256Sha256Keys ssl c.clientNonce
        response.serverNonce }
  else
    named

/-- `OpenSecureChannel` from the frame it reads on. -/
def finishOpen (c : ClientSecureChannel ssl) (frame : ByteString) :
    ClientSecureChannel ssl × Status :=
  match c.decodeOpenResponse frame with
  | none => (c, Status.ofCode .bad)
  | some response =>
      if response.responseHeader.serviceResult.isBad then
        (c, response.responseHeader.serviceResult)
      else
        (c.adopt response, Status.good)

/-! ## Services -/

/-- `BuildSymmetricBasic256Sha256Frame`. -/
def symmetricFrame (c : ClientSecureChannel ssl) (messageType : MessageType)
    (requestId : UInt32) (body : ByteString) : Option ByteString :=
  match messageType with
  | .secureMessage | .secureClose =>
      sealSymmetric ssl c.clientKeys messageType c.channelId c.tokenId
        { sequenceNumber := c.nextSequenceNumber, requestId } body
  | .hello | .acknowledge | .error | .reverseHello | .secureOpen => none

/-- The frame of a service request or of a close. -/
def messageFrame (c : ClientSecureChannel ssl) (messageType : MessageType)
    (requestId : UInt32) (body : ByteString) : Option ByteString :=
  if c.usesSignAndEncrypt then
    c.symmetricFrame messageType requestId body
  else
    some (encodeSecureConversationMessage
      { frameHeader := { messageType }
        secureChannelId := c.channelId
        symmetricSecurityHeader := some { tokenId := c.tokenId }
        sequenceHeader := { sequenceNumber := c.nextSequenceNumber, requestId }
        body })

/-- `SendServiceRequest` up to the frame it writes. -/
def buildServiceRequest (c : ClientSecureChannel ssl) (requestId : UInt32)
    (body : ByteString) : ClientSecureChannel ssl × Option ByteString :=
  if c.opened then
    ({ c with nextSequenceNumber := c.nextSequenceNumber + 1 },
      c.messageFrame .secureMessage requestId body)
  else
    (c, none)

/-- `Close` with the frame it writes. -/
def close (c : ClientSecureChannel ssl) :
    ClientSecureChannel ssl × Option ByteString :=
  if c.opened then
    ({ c with
        nextRequestId := c.nextRequestId + 1
        nextSequenceNumber := c.nextSequenceNumber + 1
        opened := false },
      c.messageFrame .secureClose c.nextRequestId
        (encodeCloseSecureChannelRequestBody
          { requestHeader := { requestHandle := c.nextRequestId } }))
  else
    (c, none)

/-- The header of a plain response names the channel and the token. -/
def namesPlainToken (c : ClientSecureChannel ssl)
    (message : SecureConversationMessage) : Bool :=
  message.frameHeader.messageType == .secureMessage &&
    message.secureChannelId == c.channelId &&
      match message.symmetricSecurityHeader with
      | none => false
      | some header => header.tokenId == c.tokenId

/-- `DecodeServiceMessageChunk`. -/
def decodeServiceMessageChunk (c : ClientSecureChannel ssl)
    (frame : ByteString) : Option ServiceChunk :=
  if c.usesSignAndEncrypt then
    (openSymmetric ssl c.serverKeys c.channelId c.tokenId frame).map
      fun (sequenceHeader, body) =>
        { requestId := sequenceHeader.requestId, body }
  else do
    let message ← decodeSecureConversationMessage frame
    guard (c.namesPlainToken message)
    return { requestId := message.sequenceHeader.requestId, body := message.body }

end ClientSecureChannel

/-! ## Responses -/

/-- `kMaxResponseChunks`. -/
def maxResponseChunks : ℕ := 8192

/-- `kMaxResponseBytes`. -/
def maxResponseBytes : ℕ := 64 * 1024 * 1024

/-- Where `ReadServiceResponse` is: it waits for the next frame with what it has
put together, or it has returned. -/
inductive ResponseRead where
  | reading (reassembled : ByteString) (requestId : UInt32) (chunkIndex : ℕ)
  | response (requestId : UInt32) (body : ByteString)
  | failed (status : Status)
deriving DecidableEq

/-- A round of the loop is over, and the next one begins with its check. -/
def ResponseRead.nextChunk (reassembled : ByteString) (requestId : UInt32)
    (chunkIndex : ℕ) : ResponseRead :=
  if maxResponseChunks ≤ chunkIndex then .failed (.ofCode .bad)
  else .reading reassembled requestId chunkIndex

namespace ClientSecureChannel

/-- The chunk type and the decoded chunk of a frame, if the loop goes on with
it. -/
def acceptChunk (c : ClientSecureChannel ssl) (frame : ByteString) :
    Option (UInt8 × ServiceChunk) := do
  guard (4 ≤ frame.length)
  let chunkType := frame.getD 3 0
  guard (chunkType = 0x43 ∨ chunkType = 0x46)
  let chunk ← c.decodeServiceMessageChunk frame
  return (chunkType, chunk)

/-- A round of `ReadServiceResponse` with what `ReadFrame` has returned. -/
def readStep (c : ClientSecureChannel ssl) (state : ResponseRead)
    (read : Except Status ByteString) : ResponseRead :=
  match state with
  | .response _ _ => state
  | .failed _ => state
  | .reading reassembled _ chunkIndex =>
      match read with
      | .error status => .failed status
      | .ok frame =>
          match c.acceptChunk frame with
          | none => .failed (.ofCode .bad)
          | some (chunkType, chunk) =>
              if maxResponseBytes < reassembled.length + chunk.body.length then
                .failed (.ofCode .bad)
              else if chunkType = 0x46 then
                .response chunk.requestId (reassembled ++ chunk.body)
              else
                .nextChunk (reassembled ++ chunk.body) chunk.requestId
                  (chunkIndex + 1)

/-- `ReadServiceResponse` after so many results of `ReadFrame`.  What it leaves
unread is for the next call. -/
def readServiceResponse (c : ClientSecureChannel ssl)
    (reads : List (Except Status ByteString)) : ResponseRead :=
  if c.opened then reads.foldl c.readStep (.reading [] 0 0)
  else .failed (.ofCode .badNoCommunication)

end ClientSecureChannel

/-! ## A small instance -/

def sampleSurroundings : Surroundings :=
  { randBytes := fun length => some (Vector.replicate length 5) }

/-- A server with the certificate 7, which accepts both policies. -/
def sampleServer : SecureChannel sampleSsl :=
  { config := makeSecureChannelServerConfig
      (some (7 : UInt8) : Certificate sampleSsl)
      (some (7 : UInt8) : PrivateKey sampleSsl) true false }

/-- A client of that server with a certificate of its own. -/
def sampleClient (name : UInt8) : ClientSecureChannel sampleSsl :=
  { security :=
      { securityPolicyUri := securityPolicyBasic256Sha256
        securityMode := .signAndEncrypt
        clientCertificate := (some name : Certificate sampleSsl)
        clientPrivateKey := (some name : PrivateKey sampleSsl)
        serverCertificate := (some (7 : UInt8) : Certificate sampleSsl) } }

/-- The first OPN frame of that client. -/
def sampleOpen (name : UInt8) : ByteString :=
  ((sampleClient name).beginOpen sampleSurroundings .issue 60000).2.getD []

end Binary
end OpcuaStack
