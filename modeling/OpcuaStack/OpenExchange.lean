import OpcuaStack.FrameReplay

/-!
# One exchange of OPN frames

The client writes an OPN, the server answers it, and the client adopts the
answer.  The server rotates its token before it encodes the answer, and each
end derives its keys from the two nonces; so both ends hold the same ids and
the same keys once the answer is good.
-/

namespace OpcuaStack
namespace Binary

variable {ssl : OpenSsl}

/-! ## Agreement -/

/-- The ends hold the same ids, and the same keys if they hold any. -/
structure Agree (c : ClientSecureChannel ssl) (s : SecureChannel ssl) :
    Prop where
  channelId : c.channelId = s.channelId
  tokenId : c.tokenId = s.tokenId
  secured : s.basic256Active = c.usesSignAndEncrypt
  clientKeys : c.usesBasic256Sha256 = true → c.clientKeys = s.inboundKeys
  serverKeys : c.usesBasic256Sha256 = true → c.serverKeys = s.outboundKeys

/-- SecurityPolicy None. -/
structure ClientSecurity.Plain (security : ClientSecurity ssl) : Prop where
  policy : security.securityPolicyUri = securityPolicyNone
  mode : security.securityMode = .none

/-- Basic256Sha256 with SignAndEncrypt.  Each end has the key of the
certificate under which the other one knows it. -/
structure ClientSecurity.Secured (security : ClientSecurity ssl)
    (config : Option (SecureChannelServerConfig ssl)) : Prop where
  policy : security.securityPolicyUri = securityPolicyBasic256Sha256
  mode : security.securityMode = .signAndEncrypt
  certificate : ∀ accepted ∈ config,
    certificateDer accepted.certificate = some accepted.certificateDer
  serverKeys : ∀ accepted ∈ config,
    ∀ publicKey ∈ certificatePublicKey security.serverCertificate,
      KeysPair publicKey accepted.privateKey
  clientKeys : ∀ der ∈ certificateDer security.clientCertificate,
    ∀ publicKey ∈ derPublicKey ssl der,
      KeysPair publicKey security.clientPrivateKey

theorem finishOpen_good {c : ClientSecureChannel ssl} {frame : ByteString}
    (h : (c.finishOpen frame).2 = Status.good) :
    ∃ response, c.decodeOpenResponse frame = some response ∧
      (c.finishOpen frame).1 = c.adopt response := by
  unfold ClientSecureChannel.finishOpen at h ⊢
  split at h
  next =>
    have hbad : Status.ofCode .bad ≠ Status.good := by decide
    exact absurd h hbad
  next response hdecode =>
    split at h
    next hbad =>
      have hresult : response.responseHeader.serviceResult = Status.good := h
      rw [hresult] at hbad
      exact absurd hbad (by decide)
    next hgood => exact ⟨response, hdecode, by simp [hgood]⟩

theorem peekPolicyUri_open {header : FrameHeader} (channelId : UInt32)
    {security : AsymmetricSecurityHeader} (hsecurity : security.Encodable)
    (after : ByteString) :
    SecureChannel.peekPolicyUri (encodeFrameHeader header ++
      (encodeUInt32 channelId ++ encodeAsymmetricSecurityHeader security ++
        after)) = some security.securityPolicyUri := by
  have hshape : encodeUInt32 channelId ++
      encodeAsymmetricSecurityHeader security ++ after =
        (encodeUInt32 channelId ++ encodeByteString security.securityPolicyUri) ++
          (encodeByteString security.senderCertificate ++
            encodeByteString security.receiverCertificateThumbprint ++
              after) := by
    simp [encodeAsymmetricSecurityHeader]
  have hreads : Reads
      (do
        let _requestedChannelId ← decodeUInt32
        decodeByteString)
      (encodeUInt32 channelId ++ encodeByteString security.securityPolicyUri)
      security.securityPolicyUri :=
    (reads_uInt32 channelId).bind (reads_byteString hsecurity.uri)
  rw [SecureChannel.peekPolicyUri,
    List.drop_left' (length_encodeFrameHeader header), hshape]
  exact hreads.start _

theorem encodeOpenMessage_eq {frameHeader : FrameHeader}
    (htype : frameHeader.messageType = .secureOpen) (channelId : UInt32)
    (security : AsymmetricSecurityHeader) (sequenceHeader : SequenceHeader)
    (body : ByteString) :
    ∃ header : FrameHeader, header.messageType = .secureOpen ∧
      encodeSecureConversationMessage
          { frameHeader
            secureChannelId := channelId
            asymmetricSecurityHeader := some security
            sequenceHeader
            body } =
        encodeFrameHeader header ++
          (encodeUInt32 channelId ++ encodeAsymmetricSecurityHeader security ++
            (encodeSequenceHeader sequenceHeader ++ body)) := by
  refine ⟨SecureConversationMessage.frameHeader (SecureConversationMessage.sized
    { frameHeader
      secureChannelId := channelId
      asymmetricSecurityHeader := some security
      sequenceHeader
      body }), htype, ?_⟩
  rw [encodeSecureConversationMessage_eq, encodeSecurityHeader, if_pos htype]
  rfl

theorem handleFrame_of_answer {s : SecureChannel ssl} {around : Surroundings}
    {header : FrameHeader} {after answer : ByteString}
    (htype : header.messageType = .secureOpen)
    (hanswer : (s.handleFrame around
      (encodeFrameHeader header ++ after)).2.outboundFrame = some answer) :
    s.handleFrame around (encodeFrameHeader header ++ after) =
      s.handleOpen around (encodeFrameHeader header ++ after) := by
  cases hframe : frameType (encodeFrameHeader header ++ after) with
  | none =>
      rw [SecureChannel.handleFrame_of_other
        (by simp [SecureChannel.HandledType, hframe])] at hanswer
      exact absurd hanswer (by simp [FrameResult.close])
  | some messageType =>
      obtain rfl := (frameType_append_eq hframe).symm.trans htype
      exact SecureChannel.handleFrame_of_secureOpen hframe

/-! ## SecurityPolicy None -/

theorem encodable_policyNone :
    AsymmetricSecurityHeader.Encodable
      { securityPolicyUri := securityPolicyNone } :=
  ⟨by decide, by decide, by decide⟩

section Plain

variable {c opening : ClientSecureChannel ssl} {s : SecureChannel ssl}
  {around serverAround : Surroundings} {requestType : SecurityTokenRequestType}
  {requestedLifetimeMs : UInt32} {frame answer : ByteString}

theorem ClientSecurity.Plain.not_basic256 (h : c.security.Plain) :
    c.usesBasic256Sha256 = false := by
  simp [ClientSecureChannel.usesBasic256Sha256, h.policy]

theorem ClientSecurity.Plain.not_signAndEncrypt (h : c.security.Plain) :
    c.usesSignAndEncrypt = false := by
  rw [ClientSecureChannel.usesSignAndEncrypt, h.mode]
  decide

theorem ClientSecurity.Plain.openSecurityHeader (h : c.security.Plain) :
    c.openSecurityHeader = { securityPolicyUri := securityPolicyNone } := by
  simp [ClientSecureChannel.openSecurityHeader, h.not_basic256, h.policy]

theorem beginOpen_plain (h : c.security.Plain) :
    ∃ secureChannelId,
      c.beginOpen around requestType requestedLifetimeMs =
        ({ c with
            nextRequestId := c.nextRequestId + 1
            nextSequenceNumber := c.nextSequenceNumber + 1 },
          some (encodeSecureConversationMessage
            { frameHeader := { messageType := .secureOpen }
              secureChannelId
              asymmetricSecurityHeader :=
                some { securityPolicyUri := securityPolicyNone }
              sequenceHeader :=
                { sequenceNumber := c.nextSequenceNumber
                  requestId := c.nextRequestId }
              body := encodeOpenSecureChannelRequestBody
                (c.openRequest c.nextRequestId requestType []
                  requestedLifetimeMs) })) := by
  refine ⟨if requestType = .renew then c.channelId else 0, ?_⟩
  have hheader := h.openSecurityHeader
  simp only [ClientSecureChannel.beginOpen, h.not_basic256, Bool.false_eq_true,
    if_false, ClientSecureChannel.plaintextOpenFrame]
  rw [← hheader]
  rfl

theorem decodeOpenNone_plain {frameHeader : FrameHeader} {channelId : UInt32}
    {sequenceHeader : SequenceHeader} {request : OpenSecureChannelRequest}
    (htype : frameHeader.messageType = .secureOpen)
    (haudit : request.requestHeader.auditEntryId = [])
    (hnonce : request.clientNonce = [])
    {opened : SecureConversationMessage × OpenSecureChannelRequest}
    (h : SecureChannel.decodeOpenNone (encodeSecureConversationMessage
      { frameHeader
        secureChannelId := channelId
        asymmetricSecurityHeader :=
          some { securityPolicyUri := securityPolicyNone }
        sequenceHeader
        body := encodeOpenSecureChannelRequestBody request }) = some opened) :
    opened.1.asymmetricSecurityHeader =
        some { securityPolicyUri := securityPolicyNone } ∧
      opened.2 = request := by
  obtain ⟨message, hmessage, hrest⟩ := Option.bind_eq_some_iff.mp h
  obtain ⟨decoded, hdecoded, hopened⟩ := Option.bind_eq_some_iff.mp hrest
  obtain rfl := Option.some.inj hopened
  obtain rfl := decodeSecureConversationMessage_eq
    ⟨fun _ => ⟨rfl, _, rfl, encodable_policyNone⟩,
      fun hother => absurd htype hother⟩ hmessage
  refine ⟨rfl, ?_⟩
  have hround := decodeOpenSecureChannelRequestBody_encode
    (show request.requestHeader.auditEntryId.length < 2 ^ 31 by simp [haudit])
    (show request.clientNonce.length < 2 ^ 31 by simp [hnonce])
  exact Option.some.inj (hdecoded.symm.trans hround)

theorem decodePlainOpenResponse_eq {frameHeader : FrameHeader}
    {channelId : UInt32} {sequenceHeader : SequenceHeader}
    {response decoded : OpenSecureChannelResponse}
    (htype : frameHeader.messageType = .secureOpen)
    (hnonce : response.serverNonce = [])
    (h : ClientSecureChannel.decodePlainOpenResponse
      (encodeSecureConversationMessage
        { frameHeader
          secureChannelId := channelId
          asymmetricSecurityHeader :=
            some { securityPolicyUri := securityPolicyNone }
          sequenceHeader
          body := encodeOpenSecureChannelResponseBody response }) =
      some decoded) :
    decoded.securityToken = response.securityToken := by
  simp only [ClientSecureChannel.decodePlainOpenResponse, Option.bind_eq_bind,
    Option.bind_eq_some_iff] at h
  obtain ⟨message, hmessage, -, -, header, -, -, -, hbody⟩ := h
  obtain rfl := decodeSecureConversationMessage_eq
    ⟨fun _ => ⟨rfl, _, rfl, encodable_policyNone⟩,
      fun hother => absurd htype hother⟩ hmessage
  have hround := decodeOpenSecureChannelResponseBody_encode
    (show response.serverNonce.length < 2 ^ 31 by simp [hnonce])
  rw [Option.some.inj (hbody.symm.trans hround)]

theorem agree_of_plain (hplain : c.security.Plain)
    (hinactive : s.basic256Active = false)
    (hbegin : c.beginOpen around requestType requestedLifetimeMs =
      (opening, some frame))
    (hanswer : (s.handleFrame serverAround frame).2.outboundFrame = some answer)
    (hgood : (opening.finishOpen answer).2 = Status.good) :
    Agree (opening.finishOpen answer).1 (s.handleFrame serverAround frame).1 := by
  obtain ⟨channelId, hopen⟩ := @beginOpen_plain _ c around requestType
    requestedLifetimeMs hplain
  rw [hbegin, Prod.mk.injEq, Option.some.injEq] at hopen
  obtain ⟨hopening, hframe⟩ := hopen
  obtain ⟨header, htype, hencoded⟩ := encodeOpenMessage_eq
    (show (FrameHeader.mk .secureOpen 0x46 0).messageType = .secureOpen from rfl)
    channelId { securityPolicyUri := securityPolicyNone }
    { sequenceNumber := c.nextSequenceNumber, requestId := c.nextRequestId }
    (encodeOpenSecureChannelRequestBody
      (c.openRequest c.nextRequestId requestType [] requestedLifetimeMs))
  have hpeek : SecureChannel.peekPolicyUri frame = some securityPolicyNone := by
    rw [hframe, hencoded]
    exact peekPolicyUri_open channelId encodable_policyNone _
  have hhandled : s.handleFrame serverAround frame =
      s.handleOpen serverAround frame := by
    rw [hframe, hencoded] at hanswer ⊢
    exact handleFrame_of_answer htype hanswer
  rw [hhandled, SecureChannel.handleOpen_of_none hpeek] at hanswer ⊢
  split at hanswer
  next hallows =>
    rw [if_pos hallows]
    cases hdecode : SecureChannel.decodeOpenNone frame with
    | none =>
        rw [SecureChannel.handleOpenNone_of_none hdecode] at hanswer
        exact absurd hanswer (by simp [FrameResult.close])
    | some opened =>
        obtain ⟨message, request⟩ := opened
        obtain ⟨hheader, hrequest⟩ := decodeOpenNone_plain rfl rfl rfl
          (hframe ▸ hdecode)
        have hsupported :
            SecureChannel.supportedSecurity message request = true := by
          simp only at hheader hrequest
          simp [SecureChannel.supportedSecurity, hheader, hrequest,
            ClientSecureChannel.openRequest, hplain.mode]
        rw [SecureChannel.handleOpenNone_opens hdecode hsupported] at hanswer ⊢
        obtain rfl := Option.some.inj hanswer
        obtain ⟨response, hresponse, hadopt⟩ := finishOpen_good hgood
        have hopened : opening.security.Plain := by
          rw [hopening]
          exact hplain
        have htoken := decodePlainOpenResponse_eq rfl rfl
          ((if_neg (by simp [hopened.not_basic256])).symm.trans hresponse)
        have hkept : (s.rotateNone request).basic256Active = false := by
          rw [← hinactive, SecureChannel.rotateNone]
          split <;> rfl
        rw [hadopt, ClientSecureChannel.adopt, hopened.not_basic256, htoken]
        refine ⟨rfl, rfl, hkept.trans hopened.not_signAndEncrypt.symm, ?_, ?_⟩
        · intro huses
          exact absurd (huses.symm.trans hopened.not_basic256) (by decide)
        · intro huses
          exact absurd (huses.symm.trans hopened.not_basic256) (by decide)
  next => exact absurd hanswer (by simp [FrameResult.close])

end Plain

/-! ## Basic256Sha256 -/

theorem length_of_certificateDer {certificate : Certificate ssl}
    {der : ByteString} (h : certificateDer certificate = some der) :
    der.length < 2 ^ 31 := by
  obtain ⟨handle, -, hder⟩ := Option.bind_eq_some_iff.mp h
  obtain ⟨encoded, -, hencoded⟩ := Option.bind_eq_some_iff.mp hder
  split at hencoded
  next => exact absurd hencoded (by simp)
  next =>
    rw [← Option.some.inj hencoded]
    exact encoded.property

theorem length_of_certificateThumbprint {certificate : Certificate ssl}
    {thumbprint : ByteString}
    (h : certificateThumbprint certificate = some thumbprint) :
    thumbprint.length < 2 ^ 31 := by
  obtain ⟨der, -, rfl⟩ := Option.map_eq_some_iff.mp h
  simp

theorem length_of_generateNonce {around : Surroundings} {nonce : ByteString}
    (h : generateNonce around 32 = some nonce) : nonce.length = 32 := by
  rw [generateNonce, if_pos (by decide)] at h
  obtain ⟨bytes, -, rfl⟩ := Option.map_eq_some_iff.mp h
  simp

theorem encodable_basic256 {certificate : ByteString}
    (hcertificate : certificate.length < 2 ^ 31) {thumbprint : ByteString}
    (hthumbprint : thumbprint.length < 2 ^ 31) :
    AsymmetricSecurityHeader.Encodable
      { securityPolicyUri := securityPolicyBasic256Sha256
        senderCertificate := certificate
        receiverCertificateThumbprint := thumbprint } where
  uri := by
    have hlength : securityPolicyBasic256Sha256.length < 2 ^ 31 := by
      decide
    exact hlength
  certificate := hcertificate
  thumbprint := hthumbprint

section Secured

variable {c opening : ClientSecureChannel ssl} {s : SecureChannel ssl}
  {config : Option (SecureChannelServerConfig ssl)}
  {around serverAround : Surroundings} {requestType : SecurityTokenRequestType}
  {requestedLifetimeMs : UInt32} {frame answer : ByteString}

theorem ClientSecurity.Secured.basic256 (h : c.security.Secured config) :
    c.usesBasic256Sha256 = true := by
  have hpolicy : securityPolicyBasic256Sha256 ≠ securityPolicyNone :=
    securityPolicyBasic256Sha256_ne_none
  have hmode : MessageSecurityMode.signAndEncrypt ≠ .none := by decide
  simp [ClientSecureChannel.usesBasic256Sha256, h.policy, h.mode, hpolicy, hmode]

theorem ClientSecurity.Secured.signAndEncrypt (h : c.security.Secured config) :
    c.usesSignAndEncrypt = true := by
  rw [ClientSecureChannel.usesSignAndEncrypt, h.mode]
  decide

/-- The plaintext frame which is cut apart holds the same security header as
the frame which is put together again. -/
theorem plaintextOpenFrame_cut (h : c.usesBasic256Sha256 = true)
    {der thumbprint : ByteString}
    (hder : certificateDer c.security.clientCertificate = some der)
    (hthumbprint : certificateThumbprint c.security.serverCertificate =
      some thumbprint)
    (requestId secureChannelId : UInt32) (request : OpenSecureChannelRequest) :
    ∃ header : FrameHeader, header.messageType = .secureOpen ∧
      (c.plaintextOpenFrame requestId secureChannelId request).take 8 =
        encodeFrameHeader header ∧
      (c.plaintextOpenFrame requestId secureChannelId request).drop
          (encodeFrameHeader header ++ (encodeUInt32 secureChannelId ++
            encodeAsymmetricSecurityHeader
              { securityPolicyUri := c.security.securityPolicyUri
                senderCertificate := der
                receiverCertificateThumbprint := thumbprint })).length =
        encodeSequenceHeader
          { sequenceNumber := c.nextSequenceNumber, requestId } ++
            encodeOpenSecureChannelRequestBody request := by
  have hheader : c.openSecurityHeader =
      { securityPolicyUri := c.security.securityPolicyUri
        senderCertificate := der
        receiverCertificateThumbprint := thumbprint } := by
    simp [ClientSecureChannel.openSecurityHeader, h, hder, hthumbprint]
  obtain ⟨header, htype, hencoded⟩ := encodeOpenMessage_eq
    (show (FrameHeader.mk .secureOpen 0x46 0).messageType = .secureOpen from rfl)
    secureChannelId c.openSecurityHeader
    { sequenceNumber := c.nextSequenceNumber, requestId }
    (encodeOpenSecureChannelRequestBody request)
  have hplaintext : c.plaintextOpenFrame requestId secureChannelId request = _ :=
    hencoded
  rw [hheader] at hplaintext
  have hcut : ∀ security tail : ByteString,
      (encodeFrameHeader header ++ (security ++ tail)).drop
        (encodeFrameHeader header ++ security).length = tail := by
    intro security tail
    rw [← List.append_assoc, List.drop_left]
  refine ⟨header, htype, ?_, ?_⟩
  · rw [hplaintext]
    exact List.take_left' (length_encodeFrameHeader header)
  · rw [hplaintext]
    exact hcut _ _

theorem asymmetricOpenFrame_spec (h : c.usesBasic256Sha256 = true)
    {requestId secureChannelId : UInt32} {request : OpenSecureChannelRequest}
    (hframe : c.asymmetricOpenFrame around requestId secureChannelId request =
      some frame) :
    ∃ der thumbprint publicKey header,
      certificateDer c.security.clientCertificate = some der ∧
        certificateThumbprint c.security.serverCertificate = some thumbprint ∧
        certificatePublicKey c.security.serverCertificate = some publicKey ∧
        header.messageType = .secureOpen ∧
        sealAsymmetric
          { publicKey, privateKey := c.security.clientPrivateKey } around.seeds
          (ClientSecureChannel.sizeSub publicKey.keySizeBytes rsaOaepSha1Overhead)
          (encodeFrameHeader header ++ (encodeUInt32 secureChannelId ++
            encodeAsymmetricSecurityHeader
              { securityPolicyUri := c.security.securityPolicyUri
                senderCertificate := der
                receiverCertificateThumbprint := thumbprint }))
          (encodeSequenceHeader
            { sequenceNumber := c.nextSequenceNumber, requestId } ++
              encodeOpenSecureChannelRequestBody request) = some frame := by
  simp only [ClientSecureChannel.asymmetricOpenFrame, Option.bind_eq_bind,
    Option.bind_eq_some_iff] at hframe
  obtain ⟨der, hder, thumbprint, hthumbprint, -, -, publicKey, hpublic, hseal⟩ :=
    hframe
  obtain ⟨header, htype, hcleartext, hsecret⟩ := plaintextOpenFrame_cut h hder
    hthumbprint requestId secureChannelId request
  rw [hcleartext, hsecret] at hseal
  exact ⟨der, thumbprint, publicKey, header, hder, hthumbprint, hpublic, htype,
    hseal⟩

theorem beginOpen_secured (h : c.usesBasic256Sha256 = true)
    (hbegin : c.beginOpen around requestType requestedLifetimeMs =
      (opening, some frame)) :
    ∃ clientNonce secureChannelId, clientNonce.length = 32 ∧
      opening = { c with
        nextRequestId := c.nextRequestId + 1
        nextSequenceNumber := c.nextSequenceNumber + 1
        clientNonce } ∧
      ({ c with
        nextRequestId := c.nextRequestId + 1 } :
          ClientSecureChannel ssl).asymmetricOpenFrame around c.nextRequestId
        secureChannelId (c.openRequest c.nextRequestId requestType clientNonce
          requestedLifetimeMs) = some frame := by
  simp only [ClientSecureChannel.beginOpen, h, if_true] at hbegin
  split at hbegin
  next => exact absurd hbegin (by simp)
  next clientNonce hnonce =>
    rw [Prod.mk.injEq] at hbegin
    refine ⟨clientNonce, _, ?_, hbegin.1.symm, hbegin.2⟩
    unfold ClientSecureChannel.generateClientNonce at hnonce
    split at hnonce
    next =>
      obtain ⟨-, hlength⟩ := Option.filter_eq_some_iff.mp hnonce
      simpa using hlength
    next => exact length_of_generateNonce hnonce

theorem decodeOpenSecure_spec {accepted : SecureChannelServerConfig ssl}
    {received : SecureChannel.SecureOpen ssl}
    (h : SecureChannel.decodeOpenSecure accepted around frame =
      some received) :
    ∃ channelId header headerEnd body,
      decodeOpenPrefix frame = some (channelId, header, headerEnd) ∧
        received.clientPublicKey ∈ derPublicKey ssl header.senderCertificate ∧
        openAsymmetric
          { publicKey := received.clientPublicKey
            privateKey := accepted.privateKey } frame headerEnd =
              some (received.sequenceHeader, body) ∧
        decodeOpenSecureChannelRequestBody body = some received.request := by
  simp only [SecureChannel.decodeOpenSecure, Option.bind_eq_bind,
    Option.bind_eq_some_iff] at h
  obtain ⟨⟨channelId, header, headerEnd⟩, hprefix, -, -, -, -, -, -,
    certificate, hcertificate, publicKey, hpublic, ⟨sequenceHeader, body⟩,
    hopen, request, hrequest, -, -, hreceived⟩ := h
  obtain rfl := Option.some.inj hreceived
  refine ⟨channelId, header, headerEnd, body, hprefix, ?_, hopen, hrequest⟩
  exact Option.bind_eq_some_iff.mpr ⟨certificate, hcertificate, hpublic⟩

theorem answeredOpen_spec {accepted : SecureChannelServerConfig ssl}
    {received : SecureChannel.SecureOpen ssl} {serverNonce : ByteString}
    (h : s.answeredOpen accepted around frame =
      some (received, serverNonce, answer)) :
    SecureChannel.decodeOpenSecure accepted around frame = some received ∧
      serverNonce.length = 32 ∧
      ∃ clientThumbprint plainBlock, clientThumbprint.length < 2 ^ 31 ∧
        sealAsymmetric
          { publicKey := received.clientPublicKey
            privateKey := accepted.privateKey } around.seeds plainBlock
          (encodeFrameHeader { messageType := .secureOpen } ++
            (encodeUInt32 (s.rotateSecure received.request).channelId ++
              encodeAsymmetricSecurityHeader
                { securityPolicyUri := securityPolicyBasic256Sha256
                  senderCertificate := accepted.certificateDer
                  receiverCertificateThumbprint := clientThumbprint }))
          (encodeSequenceHeader
            { sequenceNumber :=
                (s.rotateSecure received.request).nextSequenceNumber
              requestId := received.sequenceHeader.requestId } ++
            encodeOpenSecureChannelResponseBody
              ((s.rotateSecure received.request).openResponse around
                received.request Status.good serverNonce)) = some answer := by
  unfold SecureChannel.answeredOpen at h
  split at h
  next => exact absurd h (by simp)
  next haccept =>
    simp only [SecureChannel.acceptOpenSecure, Option.bind_eq_bind,
      Option.bind_eq_some_iff] at haccept
    obtain ⟨decoded, hdecoded, nonce, hnonce, -, -, thumbprint, hthumbprint,
      haccepted⟩ := haccept
    obtain ⟨rfl, rfl, rfl⟩ := by simpa using haccepted
    obtain ⟨built, hbuilt, hanswered⟩ := Option.map_eq_some_iff.mp h
    obtain ⟨rfl, rfl, rfl⟩ := by simpa using hanswered
    refine ⟨hdecoded, ?_, thumbprint,
      decoded.clientPublicKey.keySizeBytes - rsaOaepSha1Overhead,
      length_of_certificateThumbprint hthumbprint, ?_⟩
    · unfold SecureChannel.generateServerNonce at hnonce
      split at hnonce
      next =>
        obtain ⟨-, hlength⟩ := Option.filter_eq_some_iff.mp hnonce
        simpa using hlength
      next => exact length_of_generateNonce hnonce
    · simp only [SecureChannel.buildSecureOpenResponse] at hbuilt
      split at hbuilt
      next => exact absurd hbuilt (by simp)
      next => exact hbuilt

theorem received_request (hsecured : c.security.Secured config)
    {accepted : SecureChannelServerConfig ssl} (haccepted : accepted ∈ config)
    {requestId secureChannelId : UInt32} {request : OpenSecureChannelRequest}
    (haudit : request.requestHeader.auditEntryId = [])
    (hnonce : request.clientNonce.length = 32)
    (hframe : c.asymmetricOpenFrame around requestId secureChannelId request =
      some frame)
    {received : SecureChannel.SecureOpen ssl}
    (hreceived : SecureChannel.decodeOpenSecure accepted serverAround frame =
      some received) :
    received.request = request ∧
      KeysPair received.clientPublicKey c.security.clientPrivateKey := by
  obtain ⟨der, thumbprint, publicKey, header, hder, hthumbprint, hpublic, -,
    hseal⟩ := asymmetricOpenFrame_spec hsecured.basic256 hframe
  obtain ⟨_, _, _, body, hprefix, hclient, hopen, hrequest⟩ :=
    decodeOpenSecure_spec hreceived
  obtain ⟨_, _, _, ciphertext, size, _, _, _, hsealed⟩ :=
    sealAsymmetric_spec hseal
  have hencodable := encodable_basic256 (length_of_certificateDer hder)
    (length_of_certificateThumbprint hthumbprint)
  rw [hsecured.policy] at hseal hsealed
  rw [hsealed] at hprefix
  have hdecoded := decodeOpenPrefix_eq hencodable hprefix
  simp only [Prod.mk.injEq] at hdecoded
  obtain ⟨rfl, rfl, rfl⟩ := hdecoded
  have hsigns := hsecured.clientKeys der hder _ hclient
  refine ⟨?_, hsigns⟩
  have hopened := openAsymmetric_eq
    (hsecured.serverKeys accepted haccepted publicKey hpublic) hsigns hseal hopen
  obtain ⟨-, rfl⟩ := Prod.mk.inj hopened
  have hround := decodeOpenSecureChannelRequestBody_encode
    (show request.requestHeader.auditEntryId.length < 2 ^ 31 by simp [haudit])
    (show request.clientNonce.length < 2 ^ 31 by omega)
  exact Option.some.inj (hrequest.symm.trans hround)

theorem received_response (hsecured : c.security.Secured config)
    {accepted : SecureChannelServerConfig ssl} (haccepted : accepted ∈ config)
    {received : SecureChannel.SecureOpen ssl} {serverNonce : ByteString}
    (hkeys : KeysPair received.clientPublicKey c.security.clientPrivateKey)
    (hanswered : s.answeredOpen accepted around frame =
      some (received, serverNonce, answer))
    {response : OpenSecureChannelResponse}
    (hresponse : c.decodeSecureOpenResponse answer = some response) :
    response.securityToken.channelId =
        (s.rotateSecure received.request).channelId ∧
      response.securityToken.tokenId =
        (s.rotateSecure received.request).tokenId ∧
      response.serverNonce = serverNonce := by
  obtain ⟨-, hnonce, thumbprint, plainBlock, hthumbprint, hseal⟩ :=
    answeredOpen_spec hanswered
  simp only [ClientSecureChannel.decodeSecureOpenResponse, Option.bind_eq_bind,
    Option.bind_eq_some_iff] at hresponse
  obtain ⟨-, -, ⟨_, _, headerEnd⟩, hprefix, publicKey, hpublic, ⟨_, body⟩,
    hopen, hbody⟩ := hresponse
  obtain ⟨_, _, _, ciphertext, size, _, _, _, hsealed⟩ :=
    sealAsymmetric_spec hseal
  have hencodable := encodable_basic256
    (length_of_certificateDer (hsecured.certificate accepted haccepted))
    hthumbprint
  rw [hsealed] at hprefix
  have hdecoded := decodeOpenPrefix_eq hencodable hprefix
  simp only [Prod.mk.injEq] at hdecoded
  obtain ⟨rfl, rfl, rfl⟩ := hdecoded
  have hopened := openAsymmetric_eq hkeys
    (hsecured.serverKeys accepted haccepted publicKey hpublic) hseal hopen
  obtain ⟨-, rfl⟩ := Prod.mk.inj hopened
  have hround := decodeOpenSecureChannelResponseBody_encode
    (show ((s.rotateSecure received.request).openResponse around
      received.request Status.good serverNonce).serverNonce.length < 2 ^ 31 by
        change serverNonce.length < 2 ^ 31
        omega)
  rw [Option.some.inj (hbody.symm.trans hround)]
  exact ⟨rfl, rfl, rfl⟩

theorem agree_of_secured (hsecured : c.security.Secured s.config)
    (hbegin : c.beginOpen around requestType requestedLifetimeMs =
      (opening, some frame))
    (hanswer : (s.handleFrame serverAround frame).2.outboundFrame = some answer)
    (hgood : (opening.finishOpen answer).2 = Status.good) :
    Agree (opening.finishOpen answer).1 (s.handleFrame serverAround frame).1 := by
  obtain ⟨clientNonce, secureChannelId, hnonce, hopening, hframe⟩ :=
    beginOpen_secured hsecured.basic256 hbegin
  have hnumbered : ({ c with
      nextRequestId := c.nextRequestId + 1 } :
        ClientSecureChannel ssl).security.Secured s.config := hsecured
  have hopeningSecured : opening.security.Secured s.config := by
    rw [hopening]
    exact hsecured
  obtain ⟨der, thumbprint, publicKey, header, hder, hthumbprint, -, htype,
    hseal⟩ := asymmetricOpenFrame_spec hnumbered.basic256 hframe
  obtain ⟨_, _, _, ciphertext, size, _, _, _, hsealed⟩ :=
    sealAsymmetric_spec hseal
  rw [hnumbered.policy] at hsealed
  have hpeek : SecureChannel.peekPolicyUri frame =
      some securityPolicyBasic256Sha256 := by
    rw [hsealed]
    exact peekPolicyUri_open secureChannelId (encodable_basic256
      (length_of_certificateDer hder)
      (length_of_certificateThumbprint hthumbprint)) ciphertext
  have hhandled : s.handleFrame serverAround frame =
      s.handleOpen serverAround frame := by
    rw [hsealed] at hanswer ⊢
    exact handleFrame_of_answer htype hanswer
  rw [hhandled, SecureChannel.handleOpen_of_basic256 hpeek] at hanswer ⊢
  cases hconfig : s.basic256Config with
  | none =>
      rw [hconfig] at hanswer
      exact absurd hanswer (by simp [FrameResult.close])
  | some accepted =>
      have haccepted : accepted ∈ s.config :=
        (Option.filter_eq_some_iff.mp hconfig).1
      simp only [hconfig] at hanswer ⊢
      cases hanswered : s.answeredOpen accepted serverAround frame with
      | none =>
          obtain ⟨t, hclose, -⟩ :=
            SecureChannel.handleOpenSecure_of_none hanswered
          rw [hclose] at hanswer
          exact absurd hanswer (by simp [FrameResult.close])
      | some answered =>
          obtain ⟨received, serverNonce, written⟩ := answered
          rw [SecureChannel.handleOpenSecure_of_some hanswered] at hanswer ⊢
          obtain rfl := Option.some.inj hanswer
          obtain ⟨hrequest, hkeys⟩ := received_request hnumbered haccepted rfl
            hnonce hframe (answeredOpen_spec hanswered).1
          obtain ⟨response, hresponse, hadopt⟩ := finishOpen_good hgood
          obtain ⟨hchannel, htoken, hserverNonce⟩ := received_response
            hopeningSecured haccepted (by rw [hopening]; exact hkeys) hanswered
            ((if_pos hopeningSecured.basic256).symm.trans hresponse)
          have hclientNonce : received.request.clientNonce =
              opening.clientNonce := by
            rw [hrequest, hopening]
            rfl
          rw [hadopt, ClientSecureChannel.adopt, if_pos hopeningSecured.basic256]
          refine ⟨hchannel, htoken, hopeningSecured.signAndEncrypt.symm,
            fun _ => ?_, fun _ => ?_⟩
          · rw [hserverNonce, ← hclientNonce]
            rfl
          · rw [hserverNonce, ← hclientNonce]
            rfl

end Secured

end Binary
end OpcuaStack
