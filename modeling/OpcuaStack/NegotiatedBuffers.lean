import OpcuaStack.FrameStreams
import OpcuaStack.OpenExchange
import OpcuaStack.SymmetricRoundTrip

/-!
# Negotiated buffer sizes

`NegotiateHello` constrains the buffers to what the peer can handle, and the
Acknowledge tells the peer.  Nothing reads the limit when a frame is built, so a
connection keeps to it as long as what it has to answer is small enough.
-/

namespace OpcuaStack
namespace Binary

variable {ssl : OpenSsl}

/-! ## Sizes of the answers -/

/-- The outputs of OpenSSL are no longer than it says. -/
structure OutputSizes (ssl : OpenSsl) : Prop where
  encrypt : ∀ {seed key block result},
    ssl.evpPkeyEncrypt seed key block = some result →
      result.length ≤ ssl.evpPkeyGetSize key
  sign : ∀ {key data signature},
    ssl.evpDigestSign key data = some signature →
      signature.length ≤ ssl.evpPkeyGetSize key
  aes : ∀ {key iv plaintext ciphertext},
    ssl.aesEncrypt key iv plaintext = some ciphertext →
      ciphertext.length ≤ plaintext.length

/-- An Error message with the given text. -/
def errorSize (reason : String) : ℕ := 16 + reason.length

/-- The body of an OpenSecureChannel response. -/
def openResponseBodySize (nonceLength : ℕ) : ℕ := 56 + nonceLength

/-- An OPN response without security. -/
def plainOpenSize : ℕ :=
  8 + (4 + (4 + securityPolicyNone.length + (4 + 4))) +
    (8 + openResponseBodySize 0)

/-- An OPN response whose blocks are padded, signed and encrypted. -/
def securedOpenSize (config : SecureChannelServerConfig ssl)
    (clientPublicKey : PrivateKey ssl) : ℕ :=
  let keyBytes := clientPublicKey.keySizeBytes
  let plainBlock := keyBytes - rsaOaepSha1Overhead
  let unpadded :=
    8 + openResponseBodySize 32 + 1 + config.privateKey.keySizeBytes
  8 + (4 + (4 + securityPolicyBasic256Sha256.length +
      (4 + config.certificateDer.length + (4 + 20)))) +
    (unpadded + padCount plainBlock unpadded) / plainBlock * keyBytes

/-- A response to a service with a body of so many bytes. -/
def SecureChannel.serviceResponseSize (s : SecureChannel ssl)
    (bodyLength : ℕ) : ℕ :=
  if s.basic256Active then
    16 + (8 + bodyLength +
      (padCount aesBlockSize (8 + bodyLength + 1 + hmacSha256TagSize) + 1) +
      hmacSha256TagSize)
  else
    24 + bodyLength

/-- What an OPN frame is answered with. -/
def SecureChannel.openAnswerSize (s : SecureChannel ssl)
    (around : Surroundings) (frame : ByteString) : ℕ :=
  match peekPolicyUri frame with
  | none => 0
  | some policyUri =>
      if policyUri = securityPolicyNone then
        if s.allowsNone = true ∧ (decodeOpenNone frame).isSome = true then
          plainOpenSize
        else 0
      else if policyUri = securityPolicyBasic256Sha256 then
        match s.basic256Config with
        | none => 0
        | some config =>
            match acceptOpenSecure config around frame with
            | none => 0
            | some (received, _) =>
                securedOpenSize config received.clientPublicKey
      else 0

@[simp] theorem length_encodeUInt8 (value : UInt8) :
    (encodeUInt8 value).length = 1 := rfl

@[simp] theorem length_encodeInt32 (value : Int32) :
    (encodeInt32 value).length = 4 := length_encodeUInt32 _

@[simp] theorem length_encodeInt64 (value : Int64) :
    (encodeInt64 value).length = 8 := length_littleEndian 8 _

@[simp] theorem length_encodeByteString (value : ByteString) :
    (encodeByteString value).length = 4 + value.length := by
  simp [encodeByteString]

@[simp] theorem length_asciiText (text : String) :
    (asciiText text).length = text.length := by
  rw [asciiText, List.length_map, String.length_toList]

theorem length_encodeErrorMessage (error : Status) (reason : String) :
    (encodeErrorMessage { error, reason := asciiText reason }).length =
      errorSize reason := by
  simp [encodeErrorMessage, encodeWithHeader, errorSize]
  omega

theorem length_encodeOpenSecureChannelResponseBody
    (response : OpenSecureChannelResponse) :
    (encodeOpenSecureChannelResponseBody response).length =
      openResponseBodySize response.serverNonce.length := by
  have hid : (encodeNodeId
      { identifier := .numeric openSecureChannelResponseEncodingId }).length =
        4 := by decide
  have hnull : (encodeNodeId { identifier := .numeric 0 }).length = 2 := by
    decide
  simp only [encodeOpenSecureChannelResponseBody, appendMessage,
    appendResponseHeader, List.length_append, hid, hnull, length_encodeUInt8,
    length_encodeInt32, length_encodeInt64, length_encodeUInt32,
    length_encodeByteString, openResponseBodySize]
  omega

/-! ## The channel -/

theorem length_encodeAsymmetricSecurityHeader
    (header : AsymmetricSecurityHeader) :
    (encodeAsymmetricSecurityHeader header).length =
      4 + header.securityPolicyUri.length +
        (4 + header.senderCertificate.length +
          (4 + header.receiverCertificateThumbprint.length)) := by
  simp [encodeAsymmetricSecurityHeader]

theorem length_sealSymmetric_le (hsizes : OutputSizes ssl)
    {keys : DerivedKeys} {messageType : MessageType}
    {channelId tokenId : UInt32} {sequence : SequenceHeader}
    {body frame : ByteString}
    (h : sealSymmetric ssl keys messageType channelId tokenId sequence body =
      some frame) :
    frame.length ≤ 16 + (8 + body.length +
      (padCount aesBlockSize (8 + body.length + 1 + hmacSha256TagSize) + 1) +
      hmacSha256TagSize) := by
  simp only [sealSymmetric, List.length_append, length_encodeSequenceHeader] at h
  split at h
  next => cases h
  next =>
    simp only [Option.bind_eq_bind, Option.bind_eq_some_iff] at h
    obtain ⟨ciphertext, hcipher, hframe⟩ := h
    unfold aesCbcEncrypt at hcipher
    split at hcipher
    next => cases hcipher
    next =>
      have hlength := hsizes.aes hcipher
      simp only [List.length_append, length_encodeSequenceHeader, length_padding,
        length_hmacSha256] at hlength
      obtain rfl := Option.some.inj hframe
      rw [fixUpFrameSize_symmetricHeader, List.length_append,
        length_symmetricHeader]
      omega

theorem length_sealAsymmetric_le (hsizes : OutputSizes ssl)
    {keys : AsymmetricKeys ssl} {seeds : ℕ → ByteString} {header : FrameHeader}
    {security plaintext frame : ByteString}
    (hblock : rsaOaepSha1Overhead < keys.publicKey.keySizeBytes)
    (h : sealAsymmetric keys seeds
      (keys.publicKey.keySizeBytes - rsaOaepSha1Overhead)
      (encodeFrameHeader header ++ security) plaintext = some frame) :
    let plainBlock := keys.publicKey.keySizeBytes - rsaOaepSha1Overhead
    let unpadded := plaintext.length + 1 + keys.privateKey.keySizeBytes
    frame.length ≤ 8 + security.length +
      (unpadded + padCount plainBlock unpadded) / plainBlock *
        keys.publicKey.keySizeBytes := by
  simp only [sealAsymmetric, stampFrameSize_append] at h ⊢
  split at h
  next => cases h
  next =>
    simp only [Option.bind_eq_bind, Option.bind_eq_some_iff] at h
    obtain ⟨signature, hsign, ciphertext, hcipher, hframe⟩ := h
    obtain ⟨signer, hsigner, hsignature⟩ := Option.bind_eq_some_iff.mp hsign
    obtain ⟨handle, hhandle, hblocks⟩ := Option.bind_eq_some_iff.mp hcipher
    have hsigned : signature.length ≤ keys.privateKey.keySizeBytes := by
      rw [hsigner]
      exact hsizes.sign hsignature
    have hkey : ssl.evpPkeyGetSize handle = keys.publicKey.keySizeBytes := by
      rw [hhandle]
      rfl
    simp only [hkey, if_neg (Nat.not_le.mpr hblock)] at hblocks
    have hwhole := Nat.div_mul_cancel (Nat.dvd_of_mod_eq_zero (add_padCount_mod
      (Nat.sub_pos_of_lt hblock)
      (plaintext.length + 1 + keys.privateKey.keySizeBytes)))
    have hcount := length_blockwise_le (fun hencrypt =>
      (hsizes.encrypt hencrypt).trans hkey.le) (by
        rw [hwhole]
        simp only [List.length_append, length_padding]
        omega) hblocks
    rw [← Option.some.inj hframe, List.append_assoc, fixUpFrameSize_append]
    simp only [List.length_append, length_encodeFrameHeader]
    omega

theorem length_buildServiceResponse_plain {s : SecureChannel ssl}
    (h : s.basic256Active = false) (requestId : UInt32) (body : ByteString) :
    (s.buildServiceResponse requestId body).2.length = 24 + body.length := by
  simp only [SecureChannel.buildServiceResponse, h, Bool.false_eq_true, if_false]
  rw [encodeSecureConversationMessage_eq]
  simp [encodeSecurityHeader]
  omega

theorem length_buildServiceResponse_le (hsizes : OutputSizes ssl)
    (s : SecureChannel ssl) (requestId : UInt32) (body : ByteString) :
    (s.buildServiceResponse requestId body).2.length ≤
      s.serviceResponseSize body.length := by
  unfold SecureChannel.serviceResponseSize
  split
  next hactive =>
    simp only [SecureChannel.buildServiceResponse, hactive, if_true]
    cases hseal : sealSymmetric ssl s.outboundKeys .secureMessage s.channelId
        s.tokenId { sequenceNumber := s.nextSequenceNumber, requestId } body with
    | none => simp
    | some frame => exact length_sealSymmetric_le hsizes hseal
  next hplain =>
    rw [Bool.not_eq_true] at hplain
    exact (length_buildServiceResponse_plain hplain requestId body).le

theorem length_of_generateServerNonce {config : SecureChannelServerConfig ssl}
    {around : Surroundings} {nonce : ByteString}
    (h : SecureChannel.generateServerNonce config around = some nonce) :
    nonce.length = 32 := by
  unfold SecureChannel.generateServerNonce at h
  split at h
  next => simpa using (Option.filter_eq_some_iff.mp h).2
  next => exact length_of_generateNonce h

theorem length_of_thumbprint {certificate : Certificate ssl}
    {thumbprint : ByteString}
    (h : certificateThumbprint certificate = some thumbprint) :
    thumbprint.length = 20 := by
  obtain ⟨der, -, rfl⟩ := Option.map_eq_some_iff.mp h
  simp

theorem length_buildOpenResponse (s : SecureChannel ssl) (around : Surroundings)
    (message : SecureConversationMessage) (request : OpenSecureChannelRequest)
    (serviceResult : Status) :
    (s.buildOpenResponse around message request serviceResult).2.length =
      plainOpenSize := by
  rw [SecureChannel.buildOpenResponse, encodeSecureConversationMessage_eq]
  simp only [encodeSecurityHeader, if_true, Option.getD_some,
    List.length_append, length_encodeFrameHeader, length_encodeUInt32,
    length_encodeAsymmetricSecurityHeader, length_encodeSequenceHeader,
    length_encodeOpenSecureChannelResponseBody, SecureChannel.openResponse,
    List.length_nil, plainOpenSize]
  omega

theorem handleOpenNone_outbound_le (s : SecureChannel ssl)
    (around : Surroundings) {frame answer : ByteString}
    (h : (s.handleOpenNone around frame).2.outboundFrame = some answer) :
    (SecureChannel.decodeOpenNone frame).isSome = true ∧
      answer.length = plainOpenSize := by
  cases hdecode : SecureChannel.decodeOpenNone frame with
  | none =>
      rw [SecureChannel.handleOpenNone_of_none hdecode] at h
      cases h
  | some decoded =>
      obtain ⟨message, request⟩ := decoded
      refine ⟨rfl, ?_⟩
      cases hsupported : SecureChannel.supportedSecurity message request with
      | true =>
          rw [SecureChannel.handleOpenNone_opens hdecode hsupported] at h
          obtain rfl := Option.some.inj h
          exact length_buildOpenResponse _ around message request _
      | false =>
          rw [SecureChannel.handleOpenNone_refuses hdecode hsupported] at h
          obtain rfl := Option.some.inj h
          exact length_buildOpenResponse _ around message request _

theorem length_buildSecureOpenResponse_le (hsizes : OutputSizes ssl)
    (s : SecureChannel ssl) (config : SecureChannelServerConfig ssl)
    (around : Surroundings) (received : SecureChannel.SecureOpen ssl)
    {clientThumbprint serverNonce answer : ByteString}
    (hthumbprint : clientThumbprint.length = 20)
    (hnonce : serverNonce.length = 32)
    (h : (s.buildSecureOpenResponse config around received clientThumbprint
      serverNonce).2 = some answer) :
    answer.length ≤ securedOpenSize config received.clientPublicKey := by
  simp only [SecureChannel.buildSecureOpenResponse] at h
  split at h
  next => cases h
  next hkeys =>
    have hlength := length_sealAsymmetric_le hsizes
      (Nat.lt_of_not_le fun hle => hkeys (.inl hle)) h
    simp only [List.length_append, length_encodeUInt32, length_encodeSequenceHeader,
      length_encodeAsymmetricSecurityHeader,
      length_encodeOpenSecureChannelResponseBody, SecureChannel.openResponse,
      hnonce, hthumbprint] at hlength
    exact hlength

theorem handleOpenSecure_outbound_le (hsizes : OutputSizes ssl)
    (s : SecureChannel ssl) (config : SecureChannelServerConfig ssl)
    (around : Surroundings) {frame answer : ByteString}
    (h : (s.handleOpenSecure config around frame).2.outboundFrame =
      some answer) :
    ∃ accepted, SecureChannel.acceptOpenSecure config around frame =
        some accepted ∧
      answer.length ≤ securedOpenSize config accepted.1.clientPublicKey := by
  cases hanswered : s.answeredOpen config around frame with
  | none =>
      obtain ⟨_, heq, -⟩ := SecureChannel.handleOpenSecure_of_none hanswered
      rw [heq] at h
      cases h
  | some answered =>
      obtain ⟨received, serverNonce, response⟩ := answered
      rw [SecureChannel.handleOpenSecure_of_some hanswered] at h
      obtain rfl := Option.some.inj h
      unfold SecureChannel.answeredOpen at hanswered
      cases haccept : SecureChannel.acceptOpenSecure config around frame with
      | none =>
          simp only [haccept] at hanswered
          cases hanswered
      | some accepted =>
          refine ⟨accepted, rfl, ?_⟩
          obtain ⟨_, nonce, clientThumbprint⟩ := accepted
          simp only [haccept, Option.map_eq_some_iff] at hanswered
          obtain ⟨built, hbuilt, hmk⟩ := hanswered
          obtain ⟨rfl, rfl, rfl⟩ := by simpa using hmk
          simp only [SecureChannel.acceptOpenSecure, Option.bind_eq_bind,
            Option.bind_eq_some_iff] at haccept
          obtain ⟨_, -, _, hnonce, -, -, _, hthumbprint, haccepted⟩ := haccept
          obtain ⟨rfl, rfl, rfl⟩ := by simpa using haccepted
          exact length_buildSecureOpenResponse_le hsizes _ config around _
            (length_of_thumbprint hthumbprint)
            (length_of_generateServerNonce hnonce) hbuilt

theorem handleOpen_outbound_le (hsizes : OutputSizes ssl)
    (s : SecureChannel ssl) (around : Surroundings) {frame answer : ByteString}
    (h : (s.handleOpen around frame).2.outboundFrame = some answer) :
    answer.length ≤ s.openAnswerSize around frame := by
  unfold SecureChannel.handleOpen at h
  unfold SecureChannel.openAnswerSize
  cases hpolicy : SecureChannel.peekPolicyUri frame with
  | none =>
      simp only [hpolicy] at h
      cases h
  | some policyUri =>
      simp only [hpolicy] at h
      dsimp only
      split at h
      next hnone =>
        rw [if_pos hnone]
        split at h
        next hallows =>
          obtain ⟨hdecoded, hlength⟩ := handleOpenNone_outbound_le s around h
          rw [if_pos ⟨hallows, hdecoded⟩]
          exact hlength.le
        next => cases h
      next hsecured =>
        rw [if_neg hsecured]
        split at h
        next hbasic =>
          rw [if_pos hbasic]
          cases hconfig : s.basic256Config with
          | none =>
              simp only [hconfig] at h
              cases h
          | some config =>
              simp only [hconfig] at h
              obtain ⟨accepted, haccepted, hlength⟩ :=
                handleOpenSecure_outbound_le hsizes s config around h
              simp only [haccepted]
              exact hlength
        next => cases h

theorem handleSecureMessage_outbound (s : SecureChannel ssl)
    (frame : ByteString) (isClose : Bool) :
    (s.handleSecureMessage frame isClose).2.outboundFrame = none := by
  unfold SecureChannel.handleSecureMessage
  split
  next => rfl
  next =>
    split
    next =>
      unfold SecureChannel.handleSymmetricMessage
      split
      next => rfl
      next => split <;> rfl
    next =>
      unfold SecureChannel.handlePlainMessage
      split
      next => rfl
      next =>
        split
        next => rfl
        next =>
          split
          next => rfl
          next =>
            split
            next => rfl
            next => split <;> rfl

theorem handleFrame_outbound_le (hsizes : OutputSizes ssl)
    (s : SecureChannel ssl) (around : Surroundings) {frame answer : ByteString}
    {header : FrameHeader} (hheader : decodeFrameHeader frame = some header)
    (h : (s.handleFrame around frame).2.outboundFrame = some answer) :
    header.messageType = .secureOpen ∧
      answer.length ≤ s.openAnswerSize around frame := by
  unfold SecureChannel.handleFrame at h
  cases hcomplete : completeFrameHeader frame with
  | none =>
      simp only [hcomplete] at h
      cases h
  | some decoded =>
      obtain ⟨hdecoded, -⟩ := Option.filter_eq_some_iff.mp hcomplete
      obtain rfl := Option.some.inj (hheader.symm.trans hdecoded)
      simp only [hcomplete] at h
      cases htype : header.messageType with
      | secureOpen =>
          simp only [htype] at h
          exact ⟨rfl, handleOpen_outbound_le hsizes s around h⟩
      | secureMessage | secureClose =>
          simp only [htype, handleSecureMessage_outbound] at h
          cases h
      | hello | acknowledge | error | reverseHello =>
          simp only [htype] at h
          cases h

/-! ## The connection -/

namespace TcpConnection

/-- The Acknowledge which the connection's first frame was answered with. -/
def negotiated (c : TcpConnection ssl) : Option AcknowledgeMessage :=
  if c.helloReceived then do
    let frame ← c.frames.head?
    let hello ← decodeHelloMessage frame
    (negotiateHello hello c.limits).toOption
  else none

/-- Everything behind the Acknowledge keeps to the size which it names. -/
def HonoursBuffers (c : TcpConnection ssl) : Prop :=
  ∀ acknowledge ∈ c.negotiated, ∃ after,
    c.written = encodeAcknowledgeMessage acknowledge :: after ∧
      ∀ frame ∈ after, frame.length ≤ acknowledge.sendBufferSize.toNat

/-- An answer of the given size can be written once the Hello has been. -/
def Fits (c : TcpConnection ssl) (size : ℕ) : Prop :=
  ∀ acknowledge ∈ c.negotiated, size ≤ acknowledge.sendBufferSize.toNat

instance (c : TcpConnection ssl) (size : ℕ) : Decidable (c.Fits size) :=
  show Decidable (∀ acknowledge ∈ c.negotiated,
    size ≤ acknowledge.sendBufferSize.toNat) from
    Option.decidableForallMem _

/-- The Error message which a chunk is answered with. -/
def chunkAnswerSize (c : TcpConnection ssl) (chunkType : UInt8)
    (payload : ByteString) : ℕ :=
  if chunkType = abortChunk then 0
  else if chunkType ≠ intermediateChunk ∧ chunkType ≠ finalChunk then
    errorSize "Invalid UA Secure Conversation chunk type"
  else if c.partialChunkCount + 1 > c.maxChunkCount then
    errorSize "UA Secure Conversation message exceeds max chunk count"
  else if c.partialMessage.length + payload.length > c.maxMessageBytes then
    errorSize "UA Secure Conversation message too large"
  else 0

/-- What a frame behind the Hello is answered with. -/
def frameAnswerSize (c : TcpConnection ssl) (around : Surroundings)
    (frame : ByteString) : ℕ :=
  match decodeFrameHeader frame with
  | none => errorSize "Invalid UA TCP frame header"
  | some header =>
      match header.messageType with
      | .hello => errorSize "Hello may only be sent once per connection"
      | .secureOpen | .secureMessage | .secureClose =>
          max
            (if header.messageType = .secureOpen then
              c.secureChannel.openAnswerSize around frame
            else 0)
            (match (c.secureChannel.handleFrame around frame).2.servicePayload with
            | none => 0
            | some payload => c.chunkAnswerSize header.chunkType payload)
      | .acknowledge | .error | .reverseHello =>
          errorSize "Unexpected UA TCP message type for server connection"

/-- What bytes without a frame at their front are answered with. -/
def rejectionSize (pendingBytes : ByteString) : ℕ :=
  match decodeFrameHeader (pendingBytes.take 8) with
  | none => errorSize "Invalid UA TCP frame header"
  | some _ => errorSize "UA TCP frame too large"

def serviceAnswerSize (c : TcpConnection ssl) : Option ByteString → ℕ
  | none => 0
  | some body =>
      if body.isEmpty then 0
      else c.secureChannel.serviceResponseSize body.length

/-! ## One step -/

/-- What is written in addition keeps to the limit, and the negotiation stays. -/
structure WritesWithin (limit : ℕ) (c next : TcpConnection ssl) : Prop where
  limits : next.limits = c.limits
  helloReceived : next.helloReceived = c.helloReceived
  frames : next.frames = c.frames
  written : ∃ more, next.written = c.written ++ more ∧
    ∀ frame ∈ more, frame.length ≤ limit

variable {limit : ℕ}

theorem WritesWithin.of_eq {c next : TcpConnection ssl}
    (hlimits : next.limits = c.limits)
    (hhello : next.helloReceived = c.helloReceived)
    (hframes : next.frames = c.frames) (hwritten : next.written = c.written) :
    c.WritesWithin limit next :=
  ⟨hlimits, hhello, hframes, [], by rw [hwritten, List.append_nil], by simp⟩

theorem WritesWithin.trans {c next last : TcpConnection ssl}
    (h : c.WritesWithin limit next) (hnext : next.WritesWithin limit last) :
    c.WritesWithin limit last := by
  obtain ⟨more, hmore, hfits⟩ := h.written
  obtain ⟨rest, hrest, hlater⟩ := hnext.written
  refine ⟨hnext.limits.trans h.limits,
    hnext.helloReceived.trans h.helloReceived, hnext.frames.trans h.frames,
    more ++ rest, by rw [hrest, hmore, List.append_assoc], fun frame hmem => ?_⟩
  rcases List.mem_append.mp hmem with hearlier | hlate
  · exact hfits frame hearlier
  · exact hlater frame hlate

theorem write_within (c : TcpConnection ssl) {frame : ByteString}
    (h : frame.length ≤ limit) : c.WritesWithin limit (c.write frame) :=
  ⟨rfl, rfl, rfl, [frame], rfl, by simpa using h⟩

theorem writeErrorAndClose_within (c : TcpConnection ssl) (error : Status)
    {reason : String} (h : errorSize reason ≤ limit) :
    c.WritesWithin limit (c.writeErrorAndClose error reason).1 :=
  write_within c ((length_encodeErrorMessage error reason).trans_le h)

theorem resetReassembly_within (c : TcpConnection ssl) :
    c.WritesWithin limit c.resetReassembly := .of_eq rfl rfl rfl rfl

theorem processSecureMessageChunk_within (c : TcpConnection ssl)
    {chunkType : UInt8} {payload : ByteString} (requestId : UInt32)
    (h : c.chunkAnswerSize chunkType payload ≤ limit) :
    c.WritesWithin limit
      (c.processSecureMessageChunk chunkType payload requestId).1 := by
  have hreset := @resetReassembly_within _ limit c
  unfold chunkAnswerSize at h
  unfold processSecureMessageChunk
  by_cases habort : chunkType = abortChunk
  · rw [if_pos habort]
    exact hreset
  rw [if_neg habort] at h ⊢
  by_cases hinvalid : chunkType ≠ intermediateChunk ∧ chunkType ≠ finalChunk
  · rw [if_pos hinvalid] at h ⊢
    exact hreset.trans (writeErrorAndClose_within _ _ h)
  rw [if_neg hinvalid] at h ⊢
  by_cases hcount : c.partialChunkCount + 1 > c.maxChunkCount
  · rw [if_pos hcount] at h ⊢
    exact hreset.trans (writeErrorAndClose_within _ _ h)
  rw [if_neg hcount] at h ⊢
  by_cases hlarge : c.partialMessage.length + payload.length > c.maxMessageBytes
  · rw [if_pos hlarge] at h ⊢
    exact hreset.trans (writeErrorAndClose_within _ _ h)
  rw [if_neg hlarge]
  dsimp only
  split
  next => exact .of_eq rfl rfl rfl rfl
  next => exact .of_eq rfl rfl rfl rfl

theorem writeOutbound_within (c : TcpConnection ssl)
    {answer : Option ByteString}
    (h : ∀ frame ∈ answer, frame.length ≤ limit) :
    c.WritesWithin limit (c.writeOutbound answer) := by
  unfold writeOutbound
  split
  next => exact .of_eq rfl rfl rfl rfl
  next frame =>
    split
    next => exact .of_eq rfl rfl rfl rfl
    next => exact write_within c (h frame rfl)

theorem chunkAnswerSize_writeOutbound (c : TcpConnection ssl)
    (channel : SecureChannel ssl) (answer : Option ByteString)
    (chunkType : UInt8) (payload : ByteString) :
    ({ c with secureChannel := channel }.writeOutbound answer).chunkAnswerSize
        chunkType payload =
      c.chunkAnswerSize chunkType payload := by
  unfold writeOutbound
  split
  next => rfl
  next => split <;> rfl

/-- The answer to a frame of the secure channel; a chunk which is rejected is
answered with an Error message. -/
theorem processSecureFrame_within (hsizes : OutputSizes ssl)
    (c : TcpConnection ssl) (around : Surroundings) {frame : ByteString}
    {header : FrameHeader} (hheader : decodeFrameHeader frame = some header)
    (hhello : c.helloReceived = true)
    (hopen : header.messageType = .secureOpen →
      c.secureChannel.openAnswerSize around frame ≤ limit)
    (hchunk : ∀ payload,
      (c.secureChannel.handleFrame around frame).2.servicePayload =
          some payload →
        c.chunkAnswerSize header.chunkType payload ≤ limit) :
    c.WritesWithin limit
      (c.processSecureFrame around header.chunkType frame).1 := by
  have houtbound : ∀ answer ∈
      (c.secureChannel.handleFrame around frame).2.outboundFrame,
        answer.length ≤ limit := by
    intro answer hanswer
    obtain ⟨htype, hlength⟩ :=
      handleFrame_outbound_le hsizes c.secureChannel around hheader hanswer
    exact hlength.trans (hopen htype)
  unfold processSecureFrame
  rw [if_pos hhello]
  generalize c.secureChannel.handleFrame around frame = handled at *
  obtain ⟨channel, result⟩ := handled
  have hchannel : c.WritesWithin limit { c with secureChannel := channel } :=
    .of_eq rfl rfl rfl rfl
  have hanswered := hchannel.trans (writeOutbound_within _ houtbound)
  dsimp only
  split
  next => exact hanswered
  next =>
    split
    next payload requestId hpayload _ =>
      refine hanswered.trans (processSecureMessageChunk_within _ requestId ?_)
      rw [chunkAnswerSize_writeOutbound]
      exact hchunk payload hpayload
    next => exact hanswered

theorem processFrame_within (hsizes : OutputSizes ssl) (c : TcpConnection ssl)
    (around : Surroundings) (frame : ByteString)
    (hhello : c.helloReceived = true)
    (h : c.frameAnswerSize around frame ≤ limit) :
    c.WritesWithin limit (c.processFrame around frame).1 := by
  unfold frameAnswerSize at h
  unfold processFrame
  cases hheader : decodeFrameHeader frame with
  | none =>
      simp only [hheader] at h
      exact writeErrorAndClose_within c _ h
  | some header =>
      simp only [hheader] at h
      dsimp only
      cases htype : header.messageType with
      | hello =>
          simp only [htype] at h
          simp only [processHello, if_pos hhello]
          exact writeErrorAndClose_within c _ h
      | secureOpen =>
          simp only [htype, if_true] at h
          refine processSecureFrame_within hsizes c around hheader hhello
            (fun _ => (le_max_left _ _).trans h) (fun payload hpayload => ?_)
          simp only [hpayload] at h
          exact (le_max_right _ _).trans h
      | secureMessage | secureClose =>
          simp only [htype] at h
          refine processSecureFrame_within hsizes c around hheader hhello
            (fun hopen => ?_) (fun payload hpayload => ?_)
          · rw [htype] at hopen
            cases hopen
          · simp only [hpayload] at h
            exact (le_max_right _ _).trans h
      | acknowledge | error | reverseHello =>
          simp only [htype] at h
          exact writeErrorAndClose_within c _ h

theorem rejectHeader_within (c : TcpConnection ssl) {pendingBytes : ByteString}
    (h : rejectionSize pendingBytes ≤ limit) :
    c.WritesWithin limit (c.rejectHeader pendingBytes) := by
  unfold rejectionSize at h
  unfold rejectHeader
  cases hheader : decodeFrameHeader (pendingBytes.take 8) with
  | none =>
      simp only [hheader] at h
      exact writeErrorAndClose_within c _ h
  | some header =>
      simp only [hheader] at h
      exact writeErrorAndClose_within c _ h

theorem finishServiceFrame_within (hsizes : OutputSizes ssl)
    (c : TcpConnection ssl) (requestId : UInt32) {payload : Option ByteString}
    (h : c.serviceAnswerSize payload ≤ limit) :
    c.WritesWithin limit (c.finishServiceFrame requestId payload) := by
  unfold serviceAnswerSize at h
  unfold finishServiceFrame
  split
  next => exact .of_eq rfl rfl rfl rfl
  next =>
    cases payload with
    | none => exact .of_eq rfl rfl rfl rfl
    | some body =>
        dsimp only at h ⊢
        split
        next => exact .of_eq rfl rfl rfl rfl
        next hbody =>
          rw [if_neg hbody] at h
          have hlength := length_buildServiceResponse_le hsizes c.secureChannel
            requestId body
          obtain ⟨hlimits, hhello, hframes, hwritten⟩ := @write_within _ limit
            { c with
              pendingServiceFrames := c.pendingServiceFrames - 1
              secureChannel :=
                (c.secureChannel.buildServiceResponse requestId body).1 } _
            (hlength.trans h)
          exact ⟨hlimits, hhello, hframes, hwritten⟩

/-! ## Invariants of a run -/

/-- What holds of a connection at any time. -/
structure Negotiates (c : TcpConnection ssl) : Prop where
  acknowledged : c.helloReceived = true → c.negotiated.isSome = true
  honours : c.HonoursBuffers
  idle : c.helloReceived = false → c.pendingServiceFrames = 0

/-- What holds of a connection whose loop goes on. -/
def Untouched (c : TcpConnection ssl) : Prop :=
  c.helloReceived = false → c.frames = [] ∧ c.written = []

theorem accepted_negotiates (limits : TransportLimits) (maxFrameSize : ℕ)
    (secureChannel : SecureChannel ssl) :
    (accepted limits maxFrameSize secureChannel).Negotiates where
  acknowledged hhello := by cases hhello
  honours _ hnegotiated := by cases hnegotiated
  idle _ := rfl

theorem accepted_untouched (limits : TransportLimits) (maxFrameSize : ℕ)
    (secureChannel : SecureChannel ssl) :
    (accepted limits maxFrameSize secureChannel).Untouched :=
  fun _ => ⟨rfl, rfl⟩

theorem negotiated_of_not_received {c : TcpConnection ssl}
    (h : c.helloReceived = false) : c.negotiated = none := by
  rw [negotiated, h]
  rfl

theorem Negotiates.of_not_received {c : TcpConnection ssl}
    (hhello : c.helloReceived = false) (hidle : c.pendingServiceFrames = 0) :
    c.Negotiates where
  acknowledged htrue := by rw [hhello] at htrue; cases htrue
  honours := by
    intro acknowledge hnegotiated
    rw [negotiated_of_not_received hhello] at hnegotiated
    cases hnegotiated
  idle _ := hidle

theorem Negotiates.within {c next : TcpConnection ssl} (h : c.Negotiates)
    (hhello : c.helloReceived = true)
    (hnext : ∀ acknowledge ∈ c.negotiated,
      c.WritesWithin acknowledge.sendBufferSize.toNat next) :
    next.Negotiates := by
  obtain ⟨acknowledge, hack⟩ := Option.isSome_iff_exists.mp (h.acknowledged hhello)
  have hwithin := hnext acknowledge hack
  have hsame : next.negotiated = c.negotiated := by
    unfold negotiated
    rw [hwithin.limits, hwithin.helloReceived, hwithin.frames]
  have hreceived := hwithin.helloReceived.trans hhello
  refine ⟨fun _ => by rw [hsame, hack]; rfl, ?_, fun hfalse => ?_⟩
  · intro other hother
    rw [hsame, hack] at hother
    obtain rfl := Option.some.inj hother
    obtain ⟨after, hwritten, hfits⟩ := h.honours acknowledge hack
    obtain ⟨more, hmore, hlater⟩ := hwithin.written
    refine ⟨after ++ more, by rw [hmore, hwritten]; rfl, fun frame hmem => ?_⟩
    rcases List.mem_append.mp hmem with hearlier | hlate
    · exact hfits frame hearlier
    · exact hlater frame hlate
  · rw [hreceived] at hfalse
    cases hfalse

theorem processHello_negotiates {c : TcpConnection ssl} {frame : ByteString}
    (hhello : c.helloReceived = false) (hidle : c.pendingServiceFrames = 0)
    (hframes : c.frames = [frame]) (hwritten : c.written = []) :
    (c.processHello frame).1.Negotiates ∧
      ((c.processHello frame).2 = true →
        (c.processHello frame).1.helloReceived = true) := by
  unfold processHello
  rw [if_neg (by simp [hhello])]
  cases hdecode : decodeHelloMessage frame with
  | none => exact ⟨.of_not_received hhello hidle, nofun⟩
  | some hello =>
      dsimp only
      cases hack : negotiateHello hello c.limits with
      | error error => exact ⟨.of_not_received hhello hidle, nofun⟩
      | ok acknowledge =>
          have hnegotiated : ({ c with helloReceived := true }.write
              (encodeAcknowledgeMessage acknowledge)).negotiated =
                some acknowledge := by
            simp [negotiated, write, hframes, hdecode, hack, Except.toOption]
          refine ⟨⟨fun _ => by rw [hnegotiated]; rfl, ?_, nofun⟩, fun _ => rfl⟩
          intro other hother
          rw [hnegotiated] at hother
          obtain rfl := Option.some.inj hother
          refine ⟨[], ?_, by simp⟩
          change c.written ++ [encodeAcknowledgeMessage acknowledge] = _
          rw [hwritten, List.nil_append]

theorem processFrame_negotiates {c : TcpConnection ssl} (around : Surroundings)
    {frame : ByteString} (hhello : c.helloReceived = false)
    (hidle : c.pendingServiceFrames = 0) (hframes : c.frames = [frame])
    (hwritten : c.written = []) :
    (c.processFrame around frame).1.Negotiates ∧
      ((c.processFrame around frame).2 = true →
        (c.processFrame around frame).1.helloReceived = true) := by
  unfold processFrame
  cases hheader : decodeFrameHeader frame with
  | none => exact ⟨.of_not_received hhello hidle, nofun⟩
  | some header =>
      dsimp only
      cases htype : header.messageType with
      | hello => exact processHello_negotiates hhello hidle hframes hwritten
      | secureOpen | secureMessage | secureClose =>
          simp only [processSecureFrame, hhello]
          exact ⟨.of_not_received hhello hidle, nofun⟩
      | acknowledge | error | reverseHello =>
          exact ⟨.of_not_received hhello hidle, nofun⟩

/-- The answer to the next frame fits. -/
def FrameFits (around : ℕ → Surroundings) (c : TcpConnection ssl)
    (frame : ByteString) : Prop :=
  c.Fits (c.frameAnswerSize (around c.frames.length) frame)

instance (around : ℕ → Surroundings) (c : TcpConnection ssl)
    (frame : ByteString) : Decidable (c.FrameFits around frame) :=
  inferInstanceAs (Decidable (c.Fits _))

def RejectionFits (c : TcpConnection ssl) (pendingBytes : ByteString) : Prop :=
  c.Fits (rejectionSize pendingBytes)

instance (c : TcpConnection ssl) (pendingBytes : ByteString) :
    Decidable (c.RejectionFits pendingBytes) :=
  inferInstanceAs (Decidable (c.Fits _))

/-- The record of the frames grows behind the Hello. -/
theorem Negotiates.record {c : TcpConnection ssl} (h : c.Negotiates)
    (hhello : c.helloReceived = true) (frame : ByteString) :
    { c with frames := c.frames ++ [frame] }.negotiated = c.negotiated ∧
      { c with frames := c.frames ++ [frame] }.Negotiates := by
  have hsame : { c with frames := c.frames ++ [frame] }.negotiated =
      c.negotiated := by
    cases hframes : c.frames with
    | nil =>
        have hsome := h.acknowledged hhello
        simp [negotiated, hframes] at hsome
    | cons first rest => simp [negotiated, hframes]
  refine ⟨hsame, fun _ => ?_, ?_, h.idle⟩
  · rw [hsame]
    exact h.acknowledged hhello
  · intro acknowledge hack
    rw [hsame] at hack
    exact h.honours acknowledge hack

theorem handleNext_negotiates (hsizes : OutputSizes ssl)
    (around : ℕ → Surroundings) (c : TcpConnection ssl) (frame : ByteString)
    (h : c.Negotiates) (hopen : c.Untouched) (hfits : c.FrameFits around frame) :
    (c.handleNext around frame).1.Negotiates ∧
      ((c.handleNext around frame).2 = true →
        (c.handleNext around frame).1.Untouched) := by
  cases hhello : c.helloReceived with
  | true =>
      obtain ⟨hsame, hrecord⟩ := h.record hhello frame
      have hwithin : ∀ limit, c.frameAnswerSize (around c.frames.length) frame ≤
          limit → { c with frames := c.frames ++ [frame] }.WritesWithin limit
            (c.handleNext around frame).1 :=
        fun limit hlimit => processFrame_within hsizes _ _ frame hhello hlimit
      refine ⟨hrecord.within hhello fun acknowledge hack => ?_, fun _ hfalse => ?_⟩
      · rw [hsame] at hack
        exact hwithin _ (hfits acknowledge hack)
      · rw [(hwithin _ le_rfl).helloReceived] at hfalse
        exact absurd (hhello.symm.trans hfalse) (by decide)
  | false =>
      obtain ⟨hframes, hwritten⟩ := hopen hhello
      have hfirst := @processFrame_negotiates _
        { c with frames := c.frames ++ [frame] } (around c.frames.length) frame
        hhello (h.idle hhello) (by rw [hframes]; rfl) hwritten
      refine ⟨hfirst.1, fun hgoes hfalse => ?_⟩
      have hreceived := hfirst.2 hgoes
      exact absurd (hreceived.symm.trans hfalse) (by decide)

theorem Negotiates.rejectHeader {c : TcpConnection ssl} (h : c.Negotiates)
    {pendingBytes : ByteString} (hfits : c.RejectionFits pendingBytes) :
    (c.rejectHeader pendingBytes).Negotiates := by
  cases hhello : c.helloReceived with
  | true =>
      exact h.within hhello fun acknowledge hack =>
        rejectHeader_within c (hfits acknowledge hack)
  | false =>
      unfold TcpConnection.rejectHeader
      split <;> exact .of_not_received hhello (h.idle hhello)

theorem finishServiceFrame_of_idle {c : TcpConnection ssl}
    (h : c.pendingServiceFrames = 0) (requestId : UInt32)
    (payload : Option ByteString) :
    c.finishServiceFrame requestId payload = c := if_pos h

theorem written_finishServiceFrame {c : TcpConnection ssl}
    (hpending : c.pendingServiceFrames ≠ 0) {requestId : UInt32}
    {body : ByteString} (hbody : body ≠ []) :
    (c.finishServiceFrame requestId (some body)).written =
      c.written ++ [(c.secureChannel.buildServiceResponse requestId body).2] := by
  unfold TcpConnection.finishServiceFrame
  rw [if_neg hpending]
  dsimp only
  rw [if_neg (by simpa using hbody)]
  rfl

theorem negotiated_finishServiceFrame (c : TcpConnection ssl)
    (requestId : UInt32) (payload : Option ByteString) :
    (c.finishServiceFrame requestId payload).negotiated = c.negotiated := by
  unfold TcpConnection.finishServiceFrame
  split
  next => rfl
  next =>
    dsimp only
    split
    next => rfl
    next => split <;> rfl

theorem Negotiates.finishServiceFrame (hsizes : OutputSizes ssl)
    {c : TcpConnection ssl} (h : c.Negotiates) (requestId : UInt32)
    {payload : Option ByteString} (hfits : c.Fits (c.serviceAnswerSize payload)) :
    (c.finishServiceFrame requestId payload).Negotiates := by
  cases hhello : c.helloReceived with
  | true =>
      exact h.within hhello fun acknowledge hack =>
        finishServiceFrame_within hsizes c requestId (hfits acknowledge hack)
  | false =>
      rw [finishServiceFrame_of_idle (h.idle hhello)]
      exact h

theorem Untouched.finishServiceFrame {c : TcpConnection ssl}
    (hopen : c.Untouched) (h : c.Negotiates) (requestId : UInt32)
    (payload : Option ByteString) :
    (c.finishServiceFrame requestId payload).Untouched := by
  cases hhello : c.helloReceived with
  | true =>
      have hreceived : (c.finishServiceFrame requestId payload).helloReceived =
          true := by
        unfold TcpConnection.finishServiceFrame
        split
        next => exact hhello
        next =>
          dsimp only
          split
          next => exact hhello
          next => split <;> exact hhello
      intro hfalse
      exact absurd (hreceived.symm.trans hfalse) (by decide)
  | false =>
      rw [finishServiceFrame_of_idle (h.idle hhello)]
      exact hopen

end TcpConnection

/-! ## The peer -/

/-- The client has the ids and the keys of the server. -/
structure ClientSecureChannel.Follows (c : ClientSecureChannel ssl)
    (s : SecureChannel ssl) : Prop where
  opened : c.opened = true
  channelId : c.channelId = s.channelId
  tokenId : c.tokenId = s.tokenId
  secured : c.usesSignAndEncrypt = s.basic256Active
  serverKeys : s.basic256Active = true → c.serverKeys = s.outboundKeys

theorem readServiceResponse_single {c : ClientSecureChannel ssl}
    (hopened : c.opened = true) {frame : ByteString} {requestId : UInt32}
    {body : ByteString} (hlong : 4 ≤ frame.length)
    (hfinal : frame.getD 3 0 = 0x46)
    (hdecode : c.decodeServiceMessageChunk frame = some { requestId, body })
    (hbody : body.length ≤ maxResponseBytes) :
    c.readServiceResponse [.ok frame] = .response requestId body := by
  have haccept : c.acceptChunk frame = some (0x46, { requestId, body }) := by
    simp only [ClientSecureChannel.acceptChunk, hfinal, hdecode]
    simp [guard, hlong]
  simp [ClientSecureChannel.readServiceResponse, hopened,
    ClientSecureChannel.readStep, haccept, Nat.not_lt.mpr hbody]

theorem getD_encodeFrameHeader (header : FrameHeader) (after : ByteString) :
    (encodeFrameHeader header ++ after).getD 3 0 = header.chunkType := by
  obtain ⟨messageType, chunkType, messageSize⟩ := header
  cases messageType <;> rfl

theorem readServiceResponse_buildServiceResponse (hinverts : CipherInverts ssl)
    {c : ClientSecureChannel ssl} {s : SecureChannel ssl} (h : c.Follows s)
    (requestId : UInt32) {body : ByteString}
    (hbody : body.length ≤ maxResponseBytes)
    (hbuilt : (s.buildServiceResponse requestId body).2 ≠ [])
    (hsize : (s.buildServiceResponse requestId body).2.length < 2 ^ 32) :
    c.readServiceResponse [.ok (s.buildServiceResponse requestId body).2] =
      .response requestId body := by
  cases hactive : s.basic256Active with
  | true =>
      cases hseal : sealSymmetric ssl s.outboundKeys .secureMessage s.channelId
          s.tokenId { sequenceNumber := s.nextSequenceNumber, requestId }
          body with
      | none =>
          simp [SecureChannel.buildServiceResponse, hactive, hseal] at hbuilt
      | some frame =>
          have hframe : (s.buildServiceResponse requestId body).2 = frame := by
            simp [SecureChannel.buildServiceResponse, hactive, hseal]
          rw [hframe]
          have hopen := openSymmetric_sealSymmetric hinverts hseal
          obtain ⟨_, _, _, ciphertext, _, _, _, _, rfl⟩ := sealSymmetric_spec hseal
          refine readServiceResponse_single h.opened ?_ ?_ ?_ hbody
          · simp
            omega
          · rw [symmetricHeader, List.append_assoc]
            exact getD_encodeFrameHeader _ _
          · rw [ClientSecureChannel.decodeServiceMessageChunk,
              if_pos (h.secured.trans hactive), h.channelId, h.tokenId,
              h.serverKeys hactive, hopen]
            rfl
  | false =>
      have hframe : (s.buildServiceResponse requestId body).2 =
          encodeSecureConversationMessage
            { frameHeader := { messageType := .secureMessage }
              secureChannelId := s.channelId
              symmetricSecurityHeader := some { tokenId := s.tokenId }
              sequenceHeader :=
                { sequenceNumber := s.nextSequenceNumber, requestId }
              body } := by
        simp [SecureChannel.buildServiceResponse, hactive]
      rw [hframe] at hsize ⊢
      have hdecode := decodeSecureConversationMessage_encode
        (SecureConversationMessage.Encodable.mk (fun htype => by cases htype)
          (fun _ => ⟨rfl, _, rfl⟩) hsize)
      refine readServiceResponse_single h.opened ?_ ?_ ?_ hbody
      · rw [encodeSecureConversationMessage_eq]
        simp
        omega
      · rw [encodeSecureConversationMessage_eq]
        exact getD_encodeFrameHeader _ _
      · rw [ClientSecureChannel.decodeServiceMessageChunk,
          if_neg (by rw [h.secured, hactive]; decide), hdecode]
        simp [ClientSecureChannel.namesPlainToken,
          SecureConversationMessage.sized, h.channelId, h.tokenId, guard]

/-! ## Runs -/

namespace TcpRun

open TcpConnection

/-- The answers to what happens in the step fit. -/
def AnswersFit (around : ℕ → Surroundings) (r : TcpRun ssl) : TcpEvent → Prop
  | .read bytes =>
      r.reading = true →
        (uaTcpFraming r.connection.maxFrameSize).Meets (handleNext around)
          (FrameFits around) RejectionFits (r.pendingBytes ++ bytes).length
          r.connection (r.pendingBytes ++ bytes)
  | .serviceFinished _ payload =>
      r.connection.Fits (r.connection.serviceAnswerSize payload)

instance (around : ℕ → Surroundings) (r : TcpRun ssl) :
    (event : TcpEvent) → Decidable (r.AnswersFit around event)
  | .read _ => inferInstanceAs (Decidable (_ → _))
  | .serviceFinished _ _ => inferInstanceAs (Decidable (r.connection.Fits _))

structure Keeps (r : TcpRun ssl) : Prop where
  negotiates : r.connection.Negotiates
  untouched : r.reading = true → r.connection.Untouched

theorem Keeps.read (hsizes : OutputSizes ssl) (around : ℕ → Surroundings)
    {r : TcpRun ssl} (h : r.Keeps) {bytes : ByteString}
    (hfits : r.AnswersFit around (.read bytes)) :
    (r.read around bytes).Keeps := by
  unfold TcpRun.read
  split
  next hreading =>
    split
    next => exact ⟨h.negotiates, nofun⟩
    next =>
      have hdrained := Framing.drain_guarded
        (fun c frame => handleNext_negotiates hsizes around c frame)
        h.negotiates (h.untouched hreading) (hfits hreading)
      unfold processBufferedFrames
      rw [processFrames_eq around _ rfl]
      dsimp only
      generalize (uaTcpFraming r.connection.maxFrameSize).drain
        (handleNext around) _ r.connection _ = drained at hdrained ⊢
      obtain ⟨last, pendingBytes, stop⟩ := drained
      obtain ⟨hnegotiates, huntouched, hrejected⟩ := hdrained
      cases stop with
      | waiting => exact ⟨hnegotiates, fun _ => huntouched (by simp)⟩
      | closed => exact ⟨hnegotiates, nofun⟩
      | rejected =>
          exact ⟨hnegotiates.rejectHeader (hrejected rfl), nofun⟩
  next => exact h

theorem Keeps.step (hsizes : OutputSizes ssl) (around : ℕ → Surroundings)
    {r : TcpRun ssl} (h : r.Keeps) {event : TcpEvent}
    (hfits : r.AnswersFit around event) : (r.step around event).Keeps := by
  cases event with
  | read bytes => exact h.read hsizes around hfits
  | serviceFinished requestId payload =>
      refine ⟨?_, fun hreading => ?_⟩
      · exact h.negotiates.finishServiceFrame hsizes requestId hfits
      · exact (h.untouched hreading).finishServiceFrame h.negotiates requestId
          payload

/-- In a run whose answers all fit into the negotiated buffer, everything which
the server writes behind its Acknowledge does, and a response which fits is read
back by the peer as it is. -/
theorem negotiated_buffers_honoured (hsizes : OutputSizes ssl)
    (hinverts : CipherInverts ssl) (limits : TransportLimits)
    (maxFrameSize : ℕ) (secureChannel : SecureChannel ssl)
    (around : ℕ → Surroundings) (events : List TcpEvent)
    (hfits : AllMeet (step around) (AnswersFit around)
      { connection := accepted limits maxFrameSize secureChannel } events) :
    let server := (runFrom (step around)
      { connection := accepted limits maxFrameSize secureChannel }
      events).connection
    server.HonoursBuffers ∧
      ∀ acknowledge ∈ server.negotiated,
        ∀ (client : ClientSecureChannel ssl) (requestId : UInt32)
          (body : ByteString),
          client.Follows server.secureChannel →
          server.Fits (server.serviceAnswerSize (some body)) →
          body.length ≤ maxResponseBytes → body ≠ [] →
          ∀ frame, (server.secureChannel.buildServiceResponse requestId
              body).2 = frame → frame ≠ [] →
            frame.length ≤ acknowledge.sendBufferSize.toNat ∧
              client.readServiceResponse [.ok frame] =
                .response requestId body := by
  intro server
  have hkeeps : Keeps (runFrom (step around)
      { connection := accepted limits maxFrameSize secureChannel } events) :=
    runFrom_invariant (fun r event h hguard => h.step hsizes around hguard)
      ⟨accepted_negotiates limits maxFrameSize secureChannel,
        fun _ => accepted_untouched limits maxFrameSize secureChannel⟩ hfits
  refine ⟨hkeeps.negotiates.honours, ?_⟩
  rintro acknowledge hack client requestId body hfollows hroom hbody hnonempty
    frame rfl hframe
  have hlength := length_buildServiceResponse_le hsizes server.secureChannel
    requestId body
  have hsize : server.secureChannel.serviceResponseSize body.length ≤
      acknowledge.sendBufferSize.toNat := by
    have hanswer := hroom acknowledge hack
    rwa [serviceAnswerSize, if_neg (by simpa using hnonempty)] at hanswer
  refine ⟨hlength.trans hsize, ?_⟩
  have hsmall : acknowledge.sendBufferSize.toNat < 2 ^ 32 :=
    acknowledge.sendBufferSize.toNat_lt
  exact readServiceResponse_buildServiceResponse hinverts hfollows requestId
    hbody hframe (by omega)


/-- A Hello with a receive buffer of 8192 bytes, an OPN frame and a request. -/
def openedAndAsked : List TcpEvent :=
  [.read (encodeHelloMessage
      { receiveBufferSize := 8192, sendBufferSize := 8192 }),
    .read (({} : ClientSecureChannel sampleSsl).plaintextOpenFrame 1 1 {}),
    .read (encodeSecureConversationMessage
      { frameHeader := { messageType := .secureMessage }
        secureChannelId := 1
        symmetricSecurityHeader := some { tokenId := 1 }
        sequenceHeader := { sequenceNumber := 2, requestId := 2 }
        body := [1] })]

theorem sampleSsl_outputSizes : OutputSizes sampleSsl where
  encrypt hencrypt := ((sampleSsl_keyPair _).decrypt hencrypt).1.le
  sign hsign := ((sampleSsl_keyPair _).sign hsign).1.le
  aes hcipher := (sampleSsl_cipherInverts.length hcipher).le

theorem small_answers_fit :
    (runFrom (step fun _ => {})
        { connection := accepted {} 8192 ({} : SecureChannel sampleSsl) }
        (openedAndAsked ++
          [.serviceFinished 2 (some [5])])).connection.HonoursBuffers ∧
      (runFrom (step fun _ => {})
        { connection := accepted {} 8192 ({} : SecureChannel sampleSsl) }
        (openedAndAsked ++
          [.serviceFinished 2 (some [5])])).connection.written.length = 3 := by
  have hfits : AllMeet (step fun _ => {}) (AnswersFit fun _ => {})
      { connection := accepted {} 8192 ({} : SecureChannel sampleSsl) }
      (openedAndAsked ++ [.serviceFinished 2 (some [5])]) := by
    decide +kernel
  have hhonours := negotiated_buffers_honoured sampleSsl_outputSizes
    sampleSsl_cipherInverts {} 8192 ({} : SecureChannel sampleSsl) (fun _ => {})
    (openedAndAsked ++ [.serviceFinished 2 (some [5])]) hfits
  exact ⟨hhonours.1, by decide +kernel⟩

/-- A frame has 24 bytes more than its body, whatever the Acknowledge says. -/
theorem long_response_exceeds_buffer {body : ByteString}
    (hbody : 8168 < body.length) :
    ¬(runFrom (step fun _ => {})
        { connection := accepted {} 8192 ({} : SecureChannel sampleSsl) }
        (openedAndAsked ++
          [.serviceFinished 2 (some body)])).connection.HonoursBuffers := by
  have hasked : ∃ server, runFrom (step fun _ => {})
      { connection := accepted {} 8192 ({} : SecureChannel sampleSsl) }
        openedAndAsked = server ∧ server.connection.pendingServiceFrames ≠ 0 ∧
      server.connection.secureChannel.basic256Active = false ∧
      server.connection.negotiated =
        some { receiveBufferSize := 8192, sendBufferSize := 8192 } ∧
      server.connection.written.length = 2 :=
    ⟨_, rfl, by decide +kernel⟩
  obtain ⟨server, hserver, hpending, hplain, hnegotiated, hanswers⟩ := hasked
  rw [runFrom_append, hserver]
  intro hhonours
  obtain ⟨after, hwritten, hfits⟩ := hhonours
    { receiveBufferSize := 8192, sendBufferSize := 8192 }
    ((negotiated_finishServiceFrame _ _ _).trans hnegotiated)
  have hnonempty : body ≠ [] := by
    rintro rfl
    simp at hbody
  change (server.connection.finishServiceFrame 2 (some body)).written = _
    at hwritten
  rw [written_finishServiceFrame hpending hnonempty] at hwritten
  have hmem : (server.connection.secureChannel.buildServiceResponse 2
      body).2 ∈ after := by
    cases hearlier : server.connection.written with
    | nil => simp [hearlier] at hanswers
    | cons first rest =>
        rw [hearlier, List.cons_append] at hwritten
        rw [← (List.cons.inj hwritten).2]
        simp
  have hlength := hfits _ hmem
  rw [length_buildServiceResponse_plain hplain] at hlength
  change 24 + body.length ≤ 8192 at hlength
  omega

theorem large_response_exceeds_buffer :
    ¬(runFrom (step fun _ => {})
        { connection := accepted {} 8192 ({} : SecureChannel sampleSsl) }
        (openedAndAsked ++ [.serviceFinished 2
          (some (List.replicate 8192 0))])).connection.HonoursBuffers :=
  long_response_exceeds_buffer (by rw [List.length_replicate]; decide)

end TcpRun

end Binary
end OpcuaStack
