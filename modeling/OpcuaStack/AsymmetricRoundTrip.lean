import OpcuaStack.FrameAccess
import OpcuaStack.MessageRoundTrips
import OpcuaStack.OpenExchange
import OpcuaStack.SymmetricRoundTrip

/-!
# OPN frames read back

An OPN is encrypted with the key of its receiver and signed with the key of its
sender, and the two may differ in size.  The blocks follow the size of the one,
the signature has the size of the other, and the sender predicts from both how
long the frame is going to be, since the signature covers that size.
-/

namespace OpcuaStack
namespace Binary

variable {ssl : OpenSsl}

/-! ## Sealing and opening -/

/-- The receiver has the private key which the sender encrypts for, and the
public key of the one which the sender signs with. -/
structure Paired (sender receiver : AsymmetricKeys ssl) : Prop where
  encrypts : ∃ publicKey privateKey, sender.publicKey = some publicKey ∧
    receiver.privateKey = some privateKey ∧ KeyPair ssl publicKey privateKey
  signs : ∃ publicKey privateKey, receiver.publicKey = some publicKey ∧
    sender.privateKey = some privateKey ∧ KeyPair ssl publicKey privateKey

/-- The size which `sealAsymmetric` signs. -/
def predictedFrameSize (keys : AsymmetricKeys ssl) (plainBlock : ℕ)
    (header plaintext : ByteString) : ℕ :=
  let signatureSize := keys.privateKey.keySizeBytes
  let count := padCount plainBlock (plaintext.length + 1 + signatureSize)
  let toEncrypt := plaintext ++ padding count
  let blocks := (toEncrypt.length + signatureSize) / plainBlock
  header.length + blocks * keys.publicKey.keySizeBytes

/-- Only the length of the cleartext matters. -/
theorem predictedFrameSize_congr {keys : AsymmetricKeys ssl} {plainBlock : ℕ}
    {header other plaintext : ByteString} (h : header.length = other.length) :
    predictedFrameSize keys plainBlock header plaintext =
      predictedFrameSize keys plainBlock other plaintext := by
  rw [predictedFrameSize, predictedFrameSize, h]

theorem sealAsymmetric_parts {keys : AsymmetricKeys ssl}
    {seeds : ℕ → ByteString} {plainBlock : ℕ}
    {header plaintext frame : ByteString}
    (h : sealAsymmetric keys seeds plainBlock header plaintext = some frame) :
    ∃ count signature ciphertext,
      count = padCount plainBlock
        (plaintext.length + 1 + keys.privateKey.keySizeBytes) ∧ count ≤ 255 ∧
      rsaPkcs1Sha256Sign keys.privateKey
        (stampFrameSize header (predictedFrameSize keys plainBlock header
          plaintext) ++ (plaintext ++ padding count)) = some signature ∧
      rsaOaepEncrypt seeds keys.publicKey
        (plaintext ++ padding count ++ signature) = some ciphertext ∧
      frame = fixUpFrameSize
        (stampFrameSize header (predictedFrameSize keys plainBlock header
          plaintext) ++ ciphertext) := by
  simp only [sealAsymmetric] at h
  split at h
  next => exact absurd h (by simp)
  next hcount =>
    simp only [Option.bind_eq_bind, Option.bind_eq_some_iff] at h
    obtain ⟨signature, hsign, ciphertext, hcipher, hframe⟩ := h
    exact ⟨_, signature, ciphertext, rfl, Nat.not_lt.mp hcount, hsign, hcipher,
      (Option.some.inj hframe).symm⟩

section Sealed

variable {sender receiver : AsymmetricKeys ssl} {seeds : ℕ → ByteString}
  {header : FrameHeader} {security body frame : ByteString}
  {sequence : SequenceHeader}

theorem Paired.length_frame (h : Paired sender receiver)
    (hkey : rsaOaepSha1Overhead < sender.publicKey.keySizeBytes)
    {plaintext : ByteString}
    (hseal : sealAsymmetric sender seeds
      (sender.publicKey.keySizeBytes - rsaOaepSha1Overhead)
      (encodeFrameHeader header ++ security) plaintext = some frame) :
    frame.length = predictedFrameSize sender
      (sender.publicKey.keySizeBytes - rsaOaepSha1Overhead)
      (encodeFrameHeader header ++ security) plaintext := by
  obtain ⟨count, signature, ciphertext, hcount, -, hsign, hcipher, rfl⟩ :=
    sealAsymmetric_parts hseal
  obtain ⟨encryptingKey, decryptingKey, hpublic, -, hencrypts⟩ := h.encrypts
  obtain ⟨verifyingKey, signingKey, -, hprivate, hsigns⟩ := h.signs
  have hsignature : signature.length = sender.privateKey.keySizeBytes := by
    rw [hprivate] at hsign ⊢
    rw [(hsigns.sign hsign).1]
    exact hsigns.size
  have hblock : 0 < sender.publicKey.keySizeBytes - rsaOaepSha1Overhead :=
    Nat.sub_pos_of_lt hkey
  have hwhole := Nat.div_mul_cancel (Nat.dvd_of_mod_eq_zero (add_padCount_mod
    hblock (plaintext.length + 1 + sender.privateKey.keySizeBytes)))
  rw [← hcount] at hwhole
  have htotal : (plaintext ++ padding count ++ signature).length =
      plaintext.length + 1 + sender.privateKey.keySizeBytes + count := by
    simp only [List.length_append, length_padding, hsignature]
    omega
  have hcipherLength : ciphertext.length =
      (plaintext.length + 1 + sender.privateKey.keySizeBytes + count) /
        (sender.publicKey.keySizeBytes - rsaOaepSha1Overhead) *
          sender.publicKey.keySizeBytes := by
    rw [hpublic] at hcipher hkey hwhole ⊢
    have hundoes : UndoesBlocks
        (fun index => ssl.evpPkeyEncrypt (seeds index) encryptingKey)
        (fun _ => ssl.evpPkeyDecrypt decryptingKey)
        (ssl.evpPkeyGetSize encryptingKey) :=
      ⟨fun hblock => (hencrypts.decrypt hblock).1,
        fun hblock => (hencrypts.decrypt hblock).2⟩
    simp only [rsaOaepEncrypt, Option.bind_eq_bind, Option.bind_some] at hcipher
    have hlarge : ¬ssl.evpPkeyGetSize encryptingKey ≤ rsaOaepSha1Overhead :=
      Nat.not_le.mpr hkey
    rw [if_neg hlarge] at hcipher
    exact hundoes.length_blockwiseFrom (Nat.sub_pos_of_lt hkey)
      (htotal.trans hwhole.symm) hcipher
  have hpadded : (plaintext ++ padding count).length +
      sender.privateKey.keySizeBytes =
        plaintext.length + 1 + sender.privateKey.keySizeBytes + count := by
    simp only [List.length_append, length_padding]
    omega
  have hpredicted : predictedFrameSize sender
      (sender.publicKey.keySizeBytes - rsaOaepSha1Overhead)
      (encodeFrameHeader header ++ security) plaintext =
        (encodeFrameHeader header ++ security).length + ciphertext.length := by
    rw [predictedFrameSize, hcipherLength, ← hcount, hpadded]
  rw [stampFrameSize_append, List.append_assoc, fixUpFrameSize_append,
    hpredicted]
  simp only [List.length_append, length_encodeFrameHeader]
  omega

theorem Paired.frame_eq (h : Paired sender receiver)
    (hkey : rsaOaepSha1Overhead < sender.publicKey.keySizeBytes)
    {plaintext : ByteString}
    (hseal : sealAsymmetric sender seeds
      (sender.publicKey.keySizeBytes - rsaOaepSha1Overhead)
      (encodeFrameHeader header ++ security) plaintext = some frame) :
    ∃ count signature ciphertext, count ≤ 255 ∧
      rsaPkcs1Sha256Sign sender.privateKey
        (encodeFrameHeader
            { header with messageSize := UInt32.ofNat frame.length } ++
          security ++ (plaintext ++ padding count)) = some signature ∧
      rsaOaepEncrypt seeds sender.publicKey
        (plaintext ++ padding count ++ signature) = some ciphertext ∧
      frame = encodeFrameHeader
          { header with messageSize := UInt32.ofNat frame.length } ++
        security ++ ciphertext := by
  have hlength := h.length_frame hkey hseal
  obtain ⟨count, signature, ciphertext, -, hcount, hsign, hcipher, hframe⟩ :=
    sealAsymmetric_parts hseal
  rw [stampFrameSize_append, ← hlength] at hsign hframe
  refine ⟨count, signature, ciphertext, hcount, hsign, hcipher, ?_⟩
  have hfixed : fixUpFrameSize (encodeFrameHeader
      { header with messageSize := UInt32.ofNat frame.length } ++ security ++
        ciphertext) =
      encodeFrameHeader
        { header with
          messageSize :=
            UInt32.ofNat (8 + (security ++ ciphertext).length) } ++
        (security ++ ciphertext) := by
    rw [List.append_assoc, fixUpFrameSize_append]
  have htotal : 8 + (security ++ ciphertext).length = frame.length := by
    rw [hframe, hfixed]
    simp only [List.length_append, length_encodeFrameHeader]
  rw [hfixed, htotal] at hframe
  rw [List.append_assoc]
  exact hframe

theorem Paired.openAsymmetric_sealAsymmetric (h : Paired sender receiver)
    (hkey : rsaOaepSha1Overhead < sender.publicKey.keySizeBytes)
    (hseal : sealAsymmetric sender seeds
      (sender.publicKey.keySizeBytes - rsaOaepSha1Overhead)
      (encodeFrameHeader header ++ security)
      (encodeSequenceHeader sequence ++ body) = some frame) :
    openAsymmetric receiver frame (8 + security.length) =
      some (sequence, body) := by
  obtain ⟨count, signature, ciphertext, hcount, hsign, hcipher, hframe⟩ :=
    h.frame_eq hkey hseal
  obtain ⟨encryptingKey, decryptingKey, hpublic, hdecrypting, hencrypts⟩ :=
    h.encrypts
  obtain ⟨verifyingKey, signingKey, hverifying, hprivate, hsigns⟩ := h.signs
  have hprefix : (encodeFrameHeader
      { header with messageSize := UInt32.ofNat frame.length } ++
        security).length = 8 + security.length := by
    rw [List.length_append, length_encodeFrameHeader]
  have hdrop : frame.drop (8 + security.length) = ciphertext := by
    rw [hframe]
    exact List.drop_left' hprefix
  have htake : frame.take (8 + security.length) = encodeFrameHeader
      { header with messageSize := UInt32.ofNat frame.length } ++ security := by
    nth_rewrite 1 [hframe]
    exact List.take_left' hprefix
  rw [hpublic] at hcipher
  rw [hprivate] at hsign
  have hdecrypt := hencrypts.rsaOaepDecrypt hcipher
  obtain ⟨hsize, hverifies⟩ := hsigns.sign hsign
  have hkeySize : receiver.publicKey.keySizeBytes = signature.length := by
    rw [hverifying, hsize]
    rfl
  have hbegin : (encodeSequenceHeader sequence ++ body ++ padding count ++
      signature).length - receiver.publicKey.keySizeBytes =
        8 + body.length + (count + 1) := by
    rw [hkeySize]
    simp only [List.length_append, length_encodeSequenceHeader, length_padding]
    omega
  have hpadded : (encodeSequenceHeader sequence ++ body ++
      padding count).length = 8 + body.length + (count + 1) := by
    simp only [List.length_append, length_encodeSequenceHeader, length_padding]
  have hverified : asymmetricVerifies receiver.publicKey frame
      (8 + security.length) (encodeSequenceHeader sequence ++ body ++
        padding count ++ signature) = true := by
    have hlong : receiver.publicKey.keySizeBytes + 1 ≤
        (encodeSequenceHeader sequence ++ body ++ padding count ++
          signature).length := by
      rw [List.length_append, hpadded, hkeySize]
      omega
    rw [asymmetricVerifies, hbegin, decide_eq_true hlong, Bool.true_and,
      List.take_left' hpadded, List.drop_left' hpadded, htake, hverifying]
    exact hverifies
  rw [openAsymmetric, hdrop, hdecrypting, hdecrypt, Option.bind_eq_bind,
    Option.bind_some, if_pos hverified, hbegin, List.append_assoc]
  exact splitPlaintext_padded hcount sequence body signature

theorem decodeOpenPrefix_append (header : FrameHeader) (channelId : UInt32)
    {asymmetric : AsymmetricSecurityHeader} (hencodable : asymmetric.Encodable)
    {after : ByteString} (hafter : after ≠ []) :
    decodeOpenPrefix (encodeFrameHeader header ++
        (encodeUInt32 channelId ++ encodeAsymmetricSecurityHeader asymmetric ++
          after)) =
      some (channelId, asymmetric,
        8 + (encodeUInt32 channelId ++
          encodeAsymmetricSecurityHeader asymmetric).length) := by
  have hreads : Reads
      (do
        let channelId ← decodeUInt32
        let header ← decodeAsymmetricSecurityHeader
        return (channelId, header))
      (encodeUInt32 channelId ++ encodeAsymmetricSecurityHeader asymmetric)
      (channelId, asymmetric) :=
    (reads_uInt32 channelId).bind
      ((reads_asymmetricSecurityHeader hencodable).bind_pure (Reads.pure _))
  have hmore : 0 < after.length := List.length_pos_of_ne_nil hafter
  simp only [decodeOpenPrefix, List.drop_left' (length_encodeFrameHeader header),
    Option.bind_eq_bind]
  rw [hreads { items := encodeUInt32 channelId ++
    encodeAsymmetricSecurityHeader asymmetric ++ after } after rfl,
    Option.bind_some]
  simp only [Cursor.advance_offset, Nat.zero_add]
  rw [if_pos]
  · rfl
  · simp only [List.length_append, length_encodeFrameHeader]
    omega

/-- The receiver of an OPN reads its cleartext and opens the rest. -/
theorem Paired.receives (h : Paired sender receiver)
    (hkey : rsaOaepSha1Overhead < sender.publicKey.keySizeBytes)
    {channelId : UInt32} {asymmetric : AsymmetricSecurityHeader}
    (hencodable : asymmetric.Encodable)
    (hseal : sealAsymmetric sender seeds
      (sender.publicKey.keySizeBytes - rsaOaepSha1Overhead)
      (encodeFrameHeader header ++ (encodeUInt32 channelId ++
        encodeAsymmetricSecurityHeader asymmetric))
      (encodeSequenceHeader sequence ++ body) = some frame) :
    ∃ headerEnd, decodeOpenPrefix frame = some (channelId, asymmetric, headerEnd) ∧
      openAsymmetric receiver frame headerEnd = some (sequence, body) := by
  refine ⟨_, ?_, h.openAsymmetric_sealAsymmetric hkey hseal⟩
  obtain ⟨count, signature, ciphertext, -, -, hcipher, hframe⟩ :=
    h.frame_eq hkey hseal
  obtain ⟨encryptingKey, decryptingKey, hpublic, -, hencrypts⟩ := h.encrypts
  have hsome : ciphertext ≠ [] := by
    rintro rfl
    rw [hpublic] at hcipher
    have hdecrypt := hencrypts.rsaOaepDecrypt hcipher
    simp only [rsaOaepDecrypt, Option.bind_eq_bind, Option.bind_some] at hdecrypt
    split at hdecrypt
    next => exact absurd hdecrypt (by simp)
    next =>
      have hempty := congrArg List.length (Option.some.inj hdecrypt)
      simp only [List.length_nil, List.length_append,
        length_encodeSequenceHeader] at hempty
      omega
  rw [hframe, List.append_assoc]
  exact decodeOpenPrefix_append _ channelId hencodable hsome

end Sealed

/-! ## The two ends -/

/-- A client and a server which know each other's certificates, with keys of at
least 64 bytes; the size of a key is an `int`. -/
structure OpenParties (c : ClientSecureChannel ssl)
    (config : SecureChannelServerConfig ssl) (around : Surroundings) where
  clientDer : ByteString
  clientCertificate : Certificate ssl
  clientPublicKey : ssl.EvpPkey
  clientPrivateKey : ssl.EvpPkey
  serverPublicKey : ssl.EvpPkey
  serverPrivateKey : ssl.EvpPkey
  uses : c.usesBasic256Sha256 = true
  policy : c.security.securityPolicyUri.length < 2 ^ 31
  sendsDer : certificateDer c.security.clientCertificate = some clientDer
  loads : loadDerCertificate ssl clientDer = some clientCertificate
  certifies : certificatePublicKey clientCertificate = some (some clientPublicKey)
  holds : c.security.clientPrivateKey = some clientPrivateKey
  clientKeys : KeyPair ssl clientPublicKey clientPrivateKey
  trusted : config.validatesClientCertificate = false ∨
    (around.validation clientDer).isBad = false
  addressed : certificateThumbprint c.security.serverCertificate =
    some config.certificateThumbprint
  serverDer : certificateDer config.certificate = some config.certificateDer
  expects : certificatePublicKey c.security.serverCertificate =
    some (some serverPublicKey)
  serves : config.privateKey = some serverPrivateKey
  serverKeys : KeyPair ssl serverPublicKey serverPrivateKey
  clientSize : 64 ≤ ssl.evpPkeyGetSize clientPublicKey
  serverSize : 64 ≤ ssl.evpPkeyGetSize serverPublicKey ∧
    ssl.evpPkeyGetSize serverPublicKey < 2 ^ 31

namespace OpenParties

variable {c : ClientSecureChannel ssl} {config : SecureChannelServerConfig ssl}
  {around sending : Surroundings} {frame : ByteString}

/-- The keys with which the client sends. -/
def clientKeysOf (p : OpenParties c config around) : AsymmetricKeys ssl :=
  { publicKey := some p.serverPublicKey, privateKey := some p.clientPrivateKey }

/-- The keys with which the server sends. -/
def serverKeysOf (p : OpenParties c config around) : AsymmetricKeys ssl :=
  { publicKey := some p.clientPublicKey, privateKey := some p.serverPrivateKey }

theorem client_paired (p : OpenParties c config around) :
    Paired p.clientKeysOf p.serverKeysOf where
  encrypts := ⟨_, _, rfl, rfl, p.serverKeys⟩
  signs := ⟨_, _, rfl, rfl, p.clientKeys⟩

theorem server_paired (p : OpenParties c config around) :
    Paired p.serverKeysOf p.clientKeysOf where
  encrypts := ⟨_, _, rfl, rfl, p.clientKeys⟩
  signs := ⟨_, _, rfl, rfl, p.serverKeys⟩

/-! ### The client sends -/

end OpenParties

/-- `predicted_final_size` of `BuildAsymmetricBasic256Sha256OpenFrame`. -/
def ClientSecureChannel.predictedOpenSize (c : ClientSecureChannel ssl)
    (requestId secureChannelId : UInt32) (request : OpenSecureChannelRequest) :
    Option ℕ := do
  let frame := c.plaintextOpenFrame requestId secureChannelId request
  let senderDer ← certificateDer c.security.clientCertificate
  let receiverThumbprint ← certificateThumbprint c.security.serverCertificate
  let header := frame.take 8 ++ (encodeUInt32 secureChannelId ++
    encodeAsymmetricSecurityHeader
      { securityPolicyUri := c.security.securityPolicyUri
        senderCertificate := senderDer
        receiverCertificateThumbprint := receiverThumbprint })
  let serverPublicKey ← certificatePublicKey c.security.serverCertificate
  return predictedFrameSize
    { publicKey := serverPublicKey, privateKey := c.security.clientPrivateKey }
    (sizeSub serverPublicKey.keySizeBytes rsaOaepSha1Overhead) header
    (frame.drop header.length)

/-- `predicted_final_size` of `BuildSecureOpenResponse`. -/
def SecureChannel.predictedOpenSize (s : SecureChannel ssl)
    (config : SecureChannelServerConfig ssl) (around : Surroundings)
    (received : SecureOpen ssl) (clientThumbprint serverNonce : ByteString) : ℕ :=
  predictedFrameSize
    { publicKey := received.clientPublicKey, privateKey := config.privateKey }
    (received.clientPublicKey.keySizeBytes - rsaOaepSha1Overhead)
    (encodeFrameHeader { messageType := .secureOpen } ++
      (encodeUInt32 s.channelId ++ encodeAsymmetricSecurityHeader
        { securityPolicyUri := securityPolicyBasic256Sha256
          senderCertificate := config.certificateDer
          receiverCertificateThumbprint := clientThumbprint }))
    (encodeSequenceHeader
      { sequenceNumber := s.nextSequenceNumber
        requestId := received.sequenceHeader.requestId } ++
      encodeOpenSecureChannelResponseBody
        (s.openResponse around received.request Status.good serverNonce))

namespace OpenParties

variable {c : ClientSecureChannel ssl} {config : SecureChannelServerConfig ssl}
  {around sending : Surroundings} {frame : ByteString}

theorem sizeSub_overhead {size : ℕ} (hlower : 64 ≤ size) (hupper : size < 2 ^ 31) :
    ClientSecureChannel.sizeSub size rsaOaepSha1Overhead =
      size - rsaOaepSha1Overhead := by
  have hwrapped : size + (2 ^ 64 - rsaOaepSha1Overhead) =
      size - rsaOaepSha1Overhead + 2 ^ 64 := by
    unfold rsaOaepSha1Overhead
    omega
  rw [ClientSecureChannel.sizeSub, hwrapped, Nat.add_mod_right]
  exact Nat.mod_eq_of_lt (by omega)

theorem sizeSub_eq (p : OpenParties c config around) :
    ClientSecureChannel.sizeSub
        (PrivateKey.keySizeBytes (some p.serverPublicKey : PrivateKey ssl))
        rsaOaepSha1Overhead =
      p.clientKeysOf.publicKey.keySizeBytes - rsaOaepSha1Overhead :=
  sizeSub_overhead p.serverSize.1 p.serverSize.2

theorem clientOverhead_lt (p : OpenParties c config around) :
    rsaOaepSha1Overhead < p.clientKeysOf.publicKey.keySizeBytes :=
  lt_of_lt_of_le (by decide) p.serverSize.1

theorem serverOverhead_lt (p : OpenParties c config around) :
    rsaOaepSha1Overhead < p.serverKeysOf.publicKey.keySizeBytes :=
  lt_of_lt_of_le (by decide) p.clientSize

theorem seals_request (p : OpenParties c config around)
    {requestId secureChannelId : UInt32} {request : OpenSecureChannelRequest}
    (hframe : c.asymmetricOpenFrame sending requestId secureChannelId request =
      some frame) :
    ∃ header, sealAsymmetric p.clientKeysOf sending.seeds
      (p.clientKeysOf.publicKey.keySizeBytes - rsaOaepSha1Overhead)
      (encodeFrameHeader header ++ (encodeUInt32 secureChannelId ++
        encodeAsymmetricSecurityHeader
          { securityPolicyUri := c.security.securityPolicyUri
            senderCertificate := p.clientDer
            receiverCertificateThumbprint := config.certificateThumbprint }))
      (encodeSequenceHeader
        { sequenceNumber := c.nextSequenceNumber, requestId } ++
          encodeOpenSecureChannelRequestBody request) = some frame := by
  obtain ⟨der, thumbprint, publicKey, header, hder, hthumbprint, hpublic, -,
    hseal⟩ := asymmetricOpenFrame_spec p.uses hframe
  obtain rfl := Option.some.inj (hder.symm.trans p.sendsDer)
  obtain rfl := Option.some.inj (hthumbprint.symm.trans p.addressed)
  obtain rfl := Option.some.inj (hpublic.symm.trans p.expects)
  rw [p.holds, p.sizeSub_eq] at hseal
  exact ⟨header, hseal⟩

theorem predictedOpenSize_eq (p : OpenParties c config around)
    {requestId secureChannelId : UInt32} {request : OpenSecureChannelRequest}
    (hframe : c.asymmetricOpenFrame sending requestId secureChannelId request =
      some frame) :
    c.predictedOpenSize requestId secureChannelId request =
      some frame.length := by
  obtain ⟨header, hseal⟩ := p.seals_request hframe
  obtain ⟨other, -, hcleartext, hsecret⟩ := plaintextOpenFrame_cut p.uses
    p.sendsDer p.addressed requestId secureChannelId request
  rw [p.client_paired.length_frame p.clientOverhead_lt hseal,
    ClientSecureChannel.predictedOpenSize, p.sendsDer, p.addressed, p.expects,
    p.holds]
  simp only [Option.bind_eq_bind, Option.bind_some, Option.pure_def, hcleartext]
  rw [hsecret, p.sizeSub_eq]
  exact congrArg some (predictedFrameSize_congr (by simp))

theorem decodeOpenSecure_eq (p : OpenParties c config around)
    {requestId secureChannelId : UInt32} {request : OpenSecureChannelRequest}
    (haudit : request.requestHeader.auditEntryId.length < 2 ^ 31)
    (hnonce : request.clientNonce.length < 2 ^ 31)
    (hframe : c.asymmetricOpenFrame sending requestId secureChannelId request =
      some frame) :
    SecureChannel.decodeOpenSecure config around frame =
      if request.securityMode = .signAndEncrypt then
        some {
          senderCertificate := p.clientDer
          clientCertificate := p.clientCertificate
          clientPublicKey := some p.clientPublicKey
          sequenceHeader := { sequenceNumber := c.nextSequenceNumber, requestId }
          request }
      else none := by
  obtain ⟨header, hseal⟩ := p.seals_request hframe
  have hthumbprint := length_of_certificateThumbprint p.addressed
  obtain ⟨headerEnd, hprefix, hopen⟩ := p.client_paired.receives
    p.clientOverhead_lt
    ⟨p.policy, length_of_certificateDer p.sendsDer, hthumbprint⟩ hseal
  have hder : p.clientDer ≠ [] := by
    intro hempty
    have hloads := p.loads
    rw [hempty] at hloads
    exact absurd hloads (by simp [loadDerCertificate])
  have hkeys : ({ publicKey := some p.clientPublicKey
                  privateKey := config.privateKey } : AsymmetricKeys ssl) =
      p.serverKeysOf := by
    rw [p.serves]
    rfl
  simp only [SecureChannel.decodeOpenSecure, hprefix, Option.bind_eq_bind,
    Option.bind_some, guard, if_pos hder, if_pos p.trusted, p.loads, p.certifies,
    hkeys, hopen, decodeOpenSecureChannelRequestBody_encode haudit hnonce,
    if_true, Option.pure_def]
  split
  next => rfl
  next => rfl

/-! ### The server answers -/

theorem seals_response (p : OpenParties c config around) {s : SecureChannel ssl}
    {received : SecureChannel.SecureOpen ssl}
    (hkey : received.clientPublicKey = some p.clientPublicKey)
    {clientThumbprint serverNonce : ByteString}
    (hframe : (s.buildSecureOpenResponse config sending received clientThumbprint
      serverNonce).2 = some frame) :
    sealAsymmetric p.serverKeysOf sending.seeds
      (p.serverKeysOf.publicKey.keySizeBytes - rsaOaepSha1Overhead)
      (encodeFrameHeader { messageType := .secureOpen } ++
        (encodeUInt32 s.channelId ++ encodeAsymmetricSecurityHeader
          { securityPolicyUri := securityPolicyBasic256Sha256
            senderCertificate := config.certificateDer
            receiverCertificateThumbprint := clientThumbprint }))
      (encodeSequenceHeader
        { sequenceNumber := s.nextSequenceNumber
          requestId := received.sequenceHeader.requestId } ++
        encodeOpenSecureChannelResponseBody
          (s.openResponse sending received.request Status.good serverNonce)) =
        some frame := by
  simp only [SecureChannel.buildSecureOpenResponse] at hframe
  split at hframe
  next => exact absurd hframe (by simp)
  next =>
    rw [hkey, p.serves] at hframe
    exact hframe

theorem predictedResponseSize_eq (p : OpenParties c config around)
    {s : SecureChannel ssl} {received : SecureChannel.SecureOpen ssl}
    (hkey : received.clientPublicKey = some p.clientPublicKey)
    {clientThumbprint serverNonce : ByteString}
    (hframe : (s.buildSecureOpenResponse config sending received clientThumbprint
      serverNonce).2 = some frame) :
    s.predictedOpenSize config sending received clientThumbprint serverNonce =
      frame.length := by
  rw [p.server_paired.length_frame p.serverOverhead_lt
    (p.seals_response hkey hframe), SecureChannel.predictedOpenSize, hkey,
    p.serves]
  rfl

theorem decodeAsymmetricOpenFrame_eq (p : OpenParties c config around)
    {s : SecureChannel ssl} {received : SecureChannel.SecureOpen ssl}
    (hkey : received.clientPublicKey = some p.clientPublicKey)
    {clientThumbprint serverNonce : ByteString}
    (hthumbprint : clientThumbprint.length < 2 ^ 31)
    (hframe : (s.buildSecureOpenResponse config sending received clientThumbprint
      serverNonce).2 = some frame) :
    c.decodeAsymmetricOpenFrame frame =
      some
        ({ securityPolicyUri := securityPolicyBasic256Sha256
           senderCertificate := config.certificateDer
           receiverCertificateThumbprint := clientThumbprint },
          { sequenceNumber := s.nextSequenceNumber
            requestId := received.sequenceHeader.requestId },
          encodeOpenSecureChannelResponseBody
            (s.openResponse sending received.request Status.good serverNonce)) := by
  have hseal := p.seals_response hkey hframe
  obtain ⟨headerEnd, hprefix, hopen⟩ := p.server_paired.receives
    p.serverOverhead_lt
    (encodable_basic256 (length_of_certificateDer p.serverDer) hthumbprint) hseal
  have hlong : 8 ≤ frame.length := by
    rw [p.server_paired.length_frame p.serverOverhead_lt hseal,
      predictedFrameSize]
    simp only [List.length_append, length_encodeFrameHeader]
    omega
  have hkeys : ({ publicKey := some p.serverPublicKey
                  privateKey := c.security.clientPrivateKey } :
                    AsymmetricKeys ssl) = p.clientKeysOf := by
    rw [p.holds]
    rfl
  simp only [ClientSecureChannel.decodeAsymmetricOpenFrame, guard, if_pos hlong,
    hprefix, p.expects, hkeys, hopen, Option.bind_eq_bind, Option.bind_some,
    Option.pure_def]

end OpenParties

/-- The server recovers from an OPN of the client the sequence header and the
request which the client has put in, the client recovers from the response the
sequence header and the body which the server has put in, and each frame has the
size which was predicted and signed. -/
theorem open_frames_recovered {c : ClientSecureChannel ssl}
    {config : SecureChannelServerConfig ssl} {around : Surroundings}
    (p : OpenParties c config around) :
    (∀ (sending : Surroundings) (requestId secureChannelId : UInt32)
      (request : OpenSecureChannelRequest) (frame : ByteString),
      request.requestHeader.auditEntryId.length < 2 ^ 31 →
      request.clientNonce.length < 2 ^ 31 →
      c.asymmetricOpenFrame sending requestId secureChannelId request =
        some frame →
      (SecureChannel.decodeOpenSecure config around frame =
        if request.securityMode = .signAndEncrypt then
          some {
            senderCertificate := p.clientDer
            clientCertificate := p.clientCertificate
            clientPublicKey := some p.clientPublicKey
            sequenceHeader :=
              { sequenceNumber := c.nextSequenceNumber, requestId }
            request }
        else none) ∧
      c.predictedOpenSize requestId secureChannelId request =
        some frame.length) ∧
    ∀ (sending : Surroundings) (s : SecureChannel ssl)
      (received : SecureChannel.SecureOpen ssl)
      (clientThumbprint serverNonce frame : ByteString),
      received.clientPublicKey = some p.clientPublicKey →
      clientThumbprint.length < 2 ^ 31 → serverNonce.length < 2 ^ 31 →
      (s.buildSecureOpenResponse config sending received clientThumbprint
        serverNonce).2 = some frame →
      (∃ header, c.decodeAsymmetricOpenFrame frame =
        some (header,
          { sequenceNumber := s.nextSequenceNumber
            requestId := received.sequenceHeader.requestId },
          encodeOpenSecureChannelResponseBody
            (s.openResponse sending received.request Status.good
              serverNonce))) ∧
      c.decodeSecureOpenResponse frame =
        some (s.openResponse sending received.request Status.good serverNonce) ∧
      s.predictedOpenSize config sending received clientThumbprint serverNonce =
        frame.length := by
  constructor
  · intro sending requestId secureChannelId request frame haudit hnonce hframe
    exact ⟨p.decodeOpenSecure_eq haudit hnonce hframe,
      p.predictedOpenSize_eq hframe⟩
  · intro sending s received clientThumbprint serverNonce frame hkey hthumbprint
      hnonce hframe
    have hdecode := p.decodeAsymmetricOpenFrame_eq hkey hthumbprint hframe
    refine ⟨⟨_, hdecode⟩, ?_, p.predictedResponseSize_eq hkey hframe⟩
    rw [ClientSecureChannel.decodeSecureOpenResponse_eq, hdecode,
      Option.bind_some]
    exact (@openResponse_recovers (s.openResponse sending received.request
      Status.good serverNonce) (.inl rfl) hnonce).recovers

/-- The server of the samples as a configuration. -/
def sampleConfig : SecureChannelServerConfig sampleSsl :=
  { certificate := some (7 : UInt8)
    privateKey := some (7 : UInt8)
    certificateDer := [0x30, 7]
    certificateThumbprint := (sampleSsl.sha1 [0x30, 7]).toList
    allowBasic256Sha256 := true }

theorem sampleClient_uses : (sampleClient 5).usesBasic256Sha256 = true := by
  decide

theorem sampleClient_policy :
    (sampleClient 5).security.securityPolicyUri.length < 2 ^ 31 := by
  decide

theorem sampleSsl_size (key : UInt8) : 64 ≤ sampleSsl.evpPkeyGetSize key ∧
    sampleSsl.evpPkeyGetSize key < 2 ^ 31 :=
  ⟨le_rfl, (by norm_num : 64 < 2 ^ 31)⟩

/-- A client with the key 5 and a server with the key 7. -/
def sampleParties :
    OpenParties (sampleClient 5) sampleConfig sampleSurroundings where
  clientDer := [0x30, 5]
  clientCertificate := some (5 : UInt8)
  clientPublicKey := (5 : UInt8)
  clientPrivateKey := (5 : UInt8)
  serverPublicKey := (7 : UInt8)
  serverPrivateKey := (7 : UInt8)
  uses := sampleClient_uses
  policy := sampleClient_policy
  sendsDer := rfl
  loads := rfl
  certifies := rfl
  holds := rfl
  clientKeys := sampleSsl_keyPair 5
  trusted := .inl rfl
  addressed := rfl
  serverDer := rfl
  expects := rfl
  serves := rfl
  serverKeys := sampleSsl_keyPair 7
  clientSize := (sampleSsl_size 5).1
  serverSize := sampleSsl_size 7

/-- The OPN of that client is recovered. -/
theorem sampleOpen_recovered :
    ∃ frame received,
      (sampleClient 5).asymmetricOpenFrame sampleSurroundings 1 0
          { securityMode := .signAndEncrypt, clientNonce := [1, 2] } =
        some frame ∧
      SecureChannel.decodeOpenSecure sampleConfig sampleSurroundings frame =
        some received ∧
      received.request.clientNonce = [1, 2] ∧
      received.sequenceHeader = { sequenceNumber := 1, requestId := 1 } := by
  have hsome : ((sampleClient 5).asymmetricOpenFrame sampleSurroundings 1 0
      { securityMode := .signAndEncrypt, clientNonce := [1, 2] }).isSome =
        true := by
    decide +kernel
  obtain ⟨frame, hframe⟩ := Option.isSome_iff_exists.mp hsome
  have hdecode := ((open_frames_recovered sampleParties).1 _ _ _ _ _ (by norm_num)
    (by norm_num) hframe).1
  rw [if_pos rfl] at hdecode
  exact ⟨frame, _, hframe, hdecode, rfl, rfl⟩

end Binary
end OpcuaStack
