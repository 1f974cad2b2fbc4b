import OpcuaStack.BufferAccess
import OpcuaStack.ClientSecureChannel

/-!
# The parsers of secured frames

The four parsers of secured frames, with every index and every subtraction of
sizes checked.  An OPN leaves at least one byte before its signature, so its
padding size is there to be read.  A symmetric chunk may be nothing but its tag,
and then the byte in front of the tag lies outside the plaintext.
-/

namespace OpcuaStack
namespace Binary

variable {ssl : OpenSsl}

/-- `memcpy` of four bytes into a number. -/
def uint32Of (bytes : ByteString) : UInt32 := UInt32.ofNat (ofLittleEndian bytes)

/-! ## The parsers -/

/-- The sequence header and the body in front of the padding. -/
def splitAt (plaintext : ByteString) (bodyEnd : ℕ) :
    Access (SequenceHeader × ByteString) := do
  let sequenceNumber ← Access.between plaintext 0 4
  let requestId ← Access.between plaintext 4 8
  let body ← Access.between plaintext 8 bodyEnd
  return (
    { sequenceNumber := uint32Of sequenceNumber, requestId := uint32Of requestId },
    body)

/-- The end of `HandleSecureMessage`, of `HandleOpenSecure` and of
`DecodeSymmetricBasic256Sha256Frame`. -/
def checkedSplit (plaintext : ByteString) (signatureBegin : ℕ) :
    Access (SequenceHeader × ByteString) := do
  let last ← Access.difference signatureBegin 1
  let padSize ← Access.itemAt plaintext last
  Access.require ((1 + padSize.toNat) + 8 ≤ signatureBegin)
  let unpadded ← Access.difference signatureBegin 1
  let bodyEnd ← Access.difference unpadded padSize.toNat
  splitAt plaintext bodyEnd

/-- The end of `DecodeAsymmetricBasic256Sha256OpenFrame`, which compares in two
steps. -/
def checkedSplitOpen (plaintext : ByteString) (signatureBegin : ℕ) :
    Access (SequenceHeader × ByteString) := do
  let last ← Access.difference signatureBegin 1
  let padSize ← Access.itemAt plaintext last
  Access.require (1 + padSize.toNat ≤ signatureBegin)
  let unpadded ← Access.difference signatureBegin 1
  let bodyEnd ← Access.difference unpadded padSize.toNat
  Access.require (8 ≤ bodyEnd)
  splitAt plaintext bodyEnd

def checkedOpenSymmetric (ssl : OpenSsl) (keys : DerivedKeys)
    (channelId tokenId : UInt32) (frame : ByteString) :
    Access (SequenceHeader × ByteString) := do
  Access.require (symmetricHeaderSize ≤ frame.length)
  let channel ← Access.between frame 8 12
  let token ← Access.between frame 12 16
  Access.require (uint32Of channel = channelId ∧ uint32Of token = tokenId)
  let cipherSize ← Access.difference frame.length symmetricHeaderSize
  let cipher ← Access.between frame symmetricHeaderSize
    (symmetricHeaderSize + cipherSize)
  let decrypted ← Access.ofOption (aesCbcDecrypt ssl keys.encryptingKey
    keys.initializationVector cipher)
  Access.require (hmacSha256TagSize ≤ decrypted.length)
  let signatureBegin ← Access.difference decrypted.length hmacSha256TagSize
  let header ← Access.between frame 0 symmetricHeaderSize
  let payload ← Access.between decrypted 0 signatureBegin
  let tag ← Access.between decrypted signatureBegin
    (signatureBegin + hmacSha256TagSize)
  Access.require (hmacSha256 ssl keys.signingKey (header ++ payload) = tag)
  checkedSplit decrypted signatureBegin

/-- The cleartext in front of an OPN. -/
def checkedOpenPrefix (frame : ByteString) :
    Access (UInt32 × AsymmetricSecurityHeader × ℕ) := do
  let after ← Access.between frame 8 frame.length
  let ((channelId, header), cursor) ← Access.ofOption
    ((do
      let channelId ← decodeUInt32
      let header ← decodeAsymmetricSecurityHeader
      return (channelId, header) :
        Decoder (UInt32 × AsymmetricSecurityHeader)) { items := after })
  Access.require (8 + cursor.offset < frame.length)
  return (channelId, header, 8 + cursor.offset)

def checkedOpenAsymmetric
    (split : ByteString → ℕ → Access (SequenceHeader × ByteString))
    (keys : AsymmetricKeys ssl) (frame : ByteString) (headerEnd : ℕ) :
    Access (SequenceHeader × ByteString) := do
  let cipherSize ← Access.difference frame.length headerEnd
  let cipher ← Access.between frame headerEnd (headerEnd + cipherSize)
  let plaintext ← Access.ofOption (rsaOaepDecrypt keys.privateKey cipher)
  let signatureSize := keys.publicKey.keySizeBytes
  Access.require (signatureSize + 1 ≤ plaintext.length)
  let signatureBegin ← Access.difference plaintext.length signatureSize
  let header ← Access.between frame 0 headerEnd
  let signed ← Access.between plaintext 0 signatureBegin
  let signature ← Access.between plaintext signatureBegin
    (signatureBegin + signatureSize)
  Access.require (rsaPkcs1Sha256Verify keys.publicKey (header ++ signed)
    signature = true)
  split plaintext signatureBegin

namespace SecureChannel

/-- `HandleSecureMessage` of a secured channel. -/
def checkedSymmetricMessage (s : SecureChannel ssl) (frame : ByteString)
    (isClose : Bool) : Access (SecureChannel ssl × FrameResult) :=
  (checkedOpenSymmetric ssl s.inboundKeys s.channelId s.tokenId frame).settle
    (s, .close) fun (sequenceHeader, body) =>
      if isClose then
        ({ s with opened := false },
          { closeTransport := true
            gracefulClose := (decodeCloseSecureChannelRequestBody body).isSome })
      else
        (s,
          { servicePayload := some body
            requestId := some sequenceHeader.requestId })

def checkedSecureMessage (s : SecureChannel ssl) (frame : ByteString)
    (isClose : Bool) : Access (SecureChannel ssl × FrameResult) :=
  if s.opened = false then
    .value (s, .close)
  else if s.basic256Active then
    s.checkedSymmetricMessage frame isClose
  else
    .value (s.handlePlainMessage frame isClose)

/-- `HandleOpenSecure` up to the nonce and the thumbprint for its answer. -/
def checkedAcceptOpen (config : SecureChannelServerConfig ssl)
    (around : Surroundings) (frame : ByteString) :
    Access (SecureOpen ssl × ByteString × ByteString) := do
  let (_, header, headerEnd) ← checkedOpenPrefix frame
  Access.require
    (header.receiverCertificateThumbprint = config.certificateThumbprint)
  Access.require (header.senderCertificate ≠ [])
  Access.require (config.validatesClientCertificate = false ∨
    (around.validation header.senderCertificate).isBad = false)
  let clientCertificate ← Access.ofOption
    (loadDerCertificate ssl header.senderCertificate)
  let clientPublicKey ← Access.ofOption (certificatePublicKey clientCertificate)
  let (sequenceHeader, body) ← checkedOpenAsymmetric checkedSplit
    { publicKey := clientPublicKey, privateKey := config.privateKey } frame
    headerEnd
  let request ← Access.ofOption (decodeOpenSecureChannelRequestBody body)
  Access.require (request.securityMode = .signAndEncrypt)
  let serverNonce ← Access.ofOption (generateServerNonce config around)
  Access.require (request.clientNonce.length = 32)
  let clientThumbprint ← Access.ofOption (certificateThumbprint clientCertificate)
  return (
    { senderCertificate := header.senderCertificate
      clientCertificate, clientPublicKey, sequenceHeader, request },
    serverNonce, clientThumbprint)

def checkedOpenSecure (s : SecureChannel ssl)
    (config : SecureChannelServerConfig ssl) (around : Surroundings)
    (frame : ByteString) : Access (SecureChannel ssl × FrameResult) :=
  (checkedAcceptOpen config around frame).settle (s, .close)
    fun (received, serverNonce, clientThumbprint) =>
      match (s.rotateSecure received.request).buildSecureOpenResponse config
          around received clientThumbprint serverNonce with
      | (answered, none) => (answered, .close)
      | (answered, some response) =>
          (answered.establish received serverNonce,
            { outboundFrame := some response })

end SecureChannel

namespace ClientSecureChannel

/-- `DecodeSymmetricBasic256Sha256Frame`; every failure has the status Bad. -/
def checkedSymmetricFrame (c : ClientSecureChannel ssl) (frame : ByteString) :
    Access (Except Status ServiceChunk) :=
  (checkedOpenSymmetric ssl c.serverKeys c.channelId c.tokenId frame).settle
    (.error (.ofCode .bad)) fun (sequenceHeader, body) =>
      .ok { requestId := sequenceHeader.requestId, body }

/-- `DecodeAsymmetricBasic256Sha256OpenFrame`; every failure has the status
Bad. -/
def checkedOpenFrame (c : ClientSecureChannel ssl) (frame : ByteString) :
    Access (Except Status
      (AsymmetricSecurityHeader × SequenceHeader × ByteString)) :=
  let decoded := do
    Access.require (8 ≤ frame.length)
    let (_, header, headerEnd) ← checkedOpenPrefix frame
    let serverPublicKey ← Access.ofOption
      (certificatePublicKey c.security.serverCertificate)
    let (sequenceHeader, body) ← checkedOpenAsymmetric checkedSplitOpen
      { publicKey := serverPublicKey, privateKey := c.security.clientPrivateKey }
      frame headerEnd
    return (header, sequenceHeader, body)
  decoded.settle (.error (.ofCode .bad)) .ok

end ClientSecureChannel

/-! ## Splitting a plaintext -/

theorem uint32Of_between (bytes : ByteString) (first : ℕ) :
    uint32Of ((bytes.take (first + 4)).drop first) = uint32At bytes first := by
  rw [List.drop_take, Nat.add_sub_cancel_left]
  rfl

theorem splitAt_eq {plaintext : ByteString} {bodyEnd : ℕ} (hbody : 8 ≤ bodyEnd)
    (hend : bodyEnd ≤ plaintext.length) :
    splitAt plaintext bodyEnd =
      .value
        ({ sequenceNumber := uint32At plaintext 0
           requestId := uint32At plaintext 4 },
          (plaintext.take bodyEnd).drop 8) := by
  have hnumber := uint32Of_between plaintext 0
  have hrequest := uint32Of_between plaintext 4
  rw [splitAt, Access.between_of_le (by omega) (by omega), Access.value_bind,
    Access.between_of_le (by omega) (by omega), Access.value_bind,
    Access.between_of_le hbody hend, Access.value_bind, ← hnumber, ← hrequest]
  rfl

theorem itemAt_of_lt {plaintext : ByteString} {index : ℕ}
    (h : index < plaintext.length) :
    Access.itemAt plaintext index = .value (plaintext.getD index 0) := by
  rw [Access.itemAt_eq_value_iff, List.getD_eq_getElem?_getD,
    List.getElem?_eq_getElem h, Option.getD_some]

/-- With a byte in front of the signature the padding size is read from the
plaintext. -/
theorem checkedSplit_eq {plaintext : ByteString} {signatureBegin : ℕ}
    (hpos : 0 < signatureBegin) (hle : signatureBegin ≤ plaintext.length) :
    checkedSplit plaintext signatureBegin =
      .ofOption (splitPlaintext plaintext signatureBegin) := by
  rw [checkedSplit, Access.difference_of_le hpos, Access.value_bind,
    itemAt_of_lt (by omega), Access.value_bind, splitPlaintext]
  dsimp only
  generalize (plaintext.getD (signatureBegin - 1) 0).toNat = padSize
  by_cases hpad : 1 + padSize + 8 ≤ signatureBegin
  · rw [Access.require, if_pos hpad, if_neg (by omega), Access.value_bind,
      Access.value_bind, Access.difference_of_le (by omega), Access.value_bind,
      splitAt_eq (by omega) (by omega), Access.ofOption_some]
  · rw [Access.require, if_neg hpad, if_pos (by omega)]
    rfl

theorem checkedSplitOpen_eq {plaintext : ByteString} {signatureBegin : ℕ}
    (hpos : 0 < signatureBegin) (hle : signatureBegin ≤ plaintext.length) :
    checkedSplitOpen plaintext signatureBegin =
      .ofOption (splitPlaintext plaintext signatureBegin) := by
  rw [checkedSplitOpen, Access.difference_of_le hpos, Access.value_bind,
    itemAt_of_lt (by omega), Access.value_bind, splitPlaintext]
  dsimp only
  generalize (plaintext.getD (signatureBegin - 1) 0).toNat = padSize
  by_cases hpad : 1 + padSize ≤ signatureBegin
  · rw [Access.require, if_pos hpad, Access.value_bind, Access.value_bind,
      Access.difference_of_le (by omega), Access.value_bind]
    by_cases hbody : 8 ≤ signatureBegin - 1 - padSize
    · rw [Access.require, if_pos hbody, if_neg (by omega), Access.value_bind,
        splitAt_eq hbody (by omega), Access.ofOption_some]
    · rw [Access.require, if_neg hbody, if_pos (by omega)]
      rfl
  · rw [Access.require, if_neg hpad, if_pos (by omega)]
    rfl

/-- With nothing in front of the signature an index below zero is used. -/
theorem checkedSplit_zero (plaintext : ByteString) :
    checkedSplit plaintext 0 = .fault := rfl

/-! ## Symmetric chunks -/

/-- The frame names the channel and the token, and its ciphertext is nothing but
the tag of its header. -/
def CarriesOnlyTag (ssl : OpenSsl) (keys : DerivedKeys)
    (channelId tokenId : UInt32) (frame : ByteString) : Prop :=
  namesToken channelId tokenId frame = true ∧
    aesCbcDecrypt ssl keys.encryptingKey keys.initializationVector
        (frame.drop symmetricHeaderSize) =
      some (hmacSha256 ssl keys.signingKey (frame.take symmetricHeaderSize))

section Symmetric

variable {keys : DerivedKeys} {channelId tokenId : UInt32} {frame : ByteString}

/-- The parser once the header names the channel and the token. -/
def checkedDecrypted (ssl : OpenSsl) (keys : DerivedKeys) (frame : ByteString)
    (decrypted : ByteString) : Access (SequenceHeader × ByteString) :=
  if decrypted.length < hmacSha256TagSize then .refused
  else if hmacSha256 ssl keys.signingKey (frame.take symmetricHeaderSize ++
      decrypted.take (decrypted.length - hmacSha256TagSize)) =
        decrypted.drop (decrypted.length - hmacSha256TagSize) then
    checkedSplit decrypted (decrypted.length - hmacSha256TagSize)
  else .refused

theorem checkedOpenSymmetric_eq :
    checkedOpenSymmetric ssl keys channelId tokenId frame =
      if namesToken channelId tokenId frame then
        Access.ofOption (aesCbcDecrypt ssl keys.encryptingKey
          keys.initializationVector (frame.drop symmetricHeaderSize)) >>=
            checkedDecrypted ssl keys frame
      else .refused := by
  by_cases hshort : symmetricHeaderSize ≤ frame.length
  case neg =>
    have hnames : namesToken channelId tokenId frame = false := by
      simp [namesToken, hshort]
    rw [checkedOpenSymmetric, Access.require, if_neg hshort, hnames]
    rfl
  case pos =>
    have hsize : 16 ≤ frame.length := hshort
    have hchannel := uint32Of_between frame 8
    have htoken := uint32Of_between frame 12
    rw [checkedOpenSymmetric, Access.require, if_pos hshort, Access.value_bind,
      Access.between_of_le (by omega) (by omega), Access.value_bind,
      Access.between_of_le (by omega) (by omega), Access.value_bind, hchannel,
      htoken]
    by_cases hids : uint32At frame 8 = channelId ∧ uint32At frame 12 = tokenId
    case neg =>
      have hnames : namesToken channelId tokenId frame = false := by
        rw [namesToken, Bool.and_eq_false_iff]
        right
        rw [Bool.and_eq_false_iff]
        by_cases hid : uint32At frame 8 = channelId
        · exact .inr (beq_eq_false_iff_ne.mpr fun h => hids ⟨hid, h⟩)
        · exact .inl (beq_eq_false_iff_ne.mpr hid)
      rw [Access.require, if_neg hids, hnames]
      rfl
    case pos =>
      have hnames : namesToken channelId tokenId frame = true := by
        simp [namesToken, hshort, hids]
      have hcipher : Access.between frame symmetricHeaderSize
          (symmetricHeaderSize + (frame.length - symmetricHeaderSize)) =
            .value (frame.drop symmetricHeaderSize) := by
        rw [Access.between_of_le (by omega) (by omega),
          Nat.add_sub_cancel' hshort, List.take_length]
      rw [Access.require, if_pos hids, Access.value_bind,
        Access.difference_of_le hshort, Access.value_bind, hcipher,
        Access.value_bind, if_pos hnames]
      congr 1
      funext decrypted
      rw [checkedDecrypted]
      by_cases htag : decrypted.length < hmacSha256TagSize
      · rw [if_pos htag, Access.require, if_neg (by omega)]
        rfl
      · have hle : hmacSha256TagSize ≤ decrypted.length := Nat.le_of_not_lt htag
        have hend : decrypted.length - hmacSha256TagSize + hmacSha256TagSize =
            decrypted.length := Nat.sub_add_cancel hle
        rw [if_neg htag, Access.require, if_pos hle, Access.value_bind,
          Access.difference_of_le hle, Access.value_bind,
          Access.between_of_le (Nat.zero_le _) hshort, Access.value_bind,
          Access.between_of_le (Nat.zero_le _) (by omega), Access.value_bind,
          Access.between_of_le (by omega) (by omega), Access.value_bind, hend,
          List.take_length, List.drop_zero, List.drop_zero]
        split
        next hverifies =>
          rw [Access.require, if_pos hverifies]
          rfl
        next hfails =>
          rw [Access.require, if_neg hfails]
          rfl

theorem checkedDecrypted_eq {decrypted : ByteString}
    (h : decrypted ≠
      hmacSha256 ssl keys.signingKey (frame.take symmetricHeaderSize)) :
    checkedDecrypted ssl keys frame decrypted =
      .ofOption (if decrypted.length < hmacSha256TagSize then none
        else if hmacSha256 ssl keys.signingKey (frame.take symmetricHeaderSize ++
            decrypted.take (decrypted.length - hmacSha256TagSize)) =
              decrypted.drop (decrypted.length - hmacSha256TagSize) then
          splitPlaintext decrypted (decrypted.length - hmacSha256TagSize)
        else none) := by
  unfold checkedDecrypted
  split
  next => rfl
  next hlong =>
    split
    next hverifies =>
      refine checkedSplit_eq (Nat.pos_of_ne_zero fun hzero => h ?_) (by omega)
      rw [hzero, List.take_zero, List.append_nil, List.drop_zero] at hverifies
      exact hverifies.symm
    next => rfl

theorem checkedDecrypted_onlyTag :
    checkedDecrypted ssl keys frame
      (hmacSha256 ssl keys.signingKey (frame.take symmetricHeaderSize)) =
        .fault := by
  unfold checkedDecrypted
  rw [length_hmacSha256, if_neg (lt_irrefl _), Nat.sub_self, List.take_zero,
    List.append_nil, List.drop_zero, if_pos rfl]
  exact checkedSplit_zero _

theorem checkedOpenSymmetric_onlyTag
    (h : CarriesOnlyTag ssl keys channelId tokenId frame) :
    checkedOpenSymmetric ssl keys channelId tokenId frame = .fault := by
  rw [checkedOpenSymmetric_eq, if_pos h.1, h.2, Access.ofOption_some,
    Access.value_bind]
  exact checkedDecrypted_onlyTag

theorem checkedOpenSymmetric_inRange
    (h : ¬CarriesOnlyTag ssl keys channelId tokenId frame) :
    checkedOpenSymmetric ssl keys channelId tokenId frame =
      .ofOption (openSymmetric ssl keys channelId tokenId frame) := by
  rw [checkedOpenSymmetric_eq, openSymmetric]
  cases hnames : namesToken channelId tokenId frame with
  | false => rfl
  | true =>
      rw [if_pos rfl, if_pos rfl, symmetricPlaintext]
      cases hdecrypt : aesCbcDecrypt ssl keys.encryptingKey
          keys.initializationVector (frame.drop symmetricHeaderSize) with
      | none => rfl
      | some decrypted =>
          have hother : decrypted ≠
              hmacSha256 ssl keys.signingKey (frame.take symmetricHeaderSize) :=
            fun heq => h ⟨hnames, by rw [hdecrypt, heq]⟩
          rw [Access.ofOption_some, Access.value_bind, checkedDecrypted_eq hother]
          simp only [Option.bind_eq_bind, Option.bind_some]
          split
          next => rfl
          next =>
            split
            next => rfl
            next => rfl

end Symmetric

/-! ## OPN frames -/

section Asymmetric

variable {frame : ByteString} {keys : AsymmetricKeys ssl}

theorem checkedOpenPrefix_eq (h : 8 ≤ frame.length) :
    checkedOpenPrefix frame = .ofOption (decodeOpenPrefix frame) := by
  rw [checkedOpenPrefix, Access.between_of_le h le_rfl, Access.value_bind,
    List.take_length, decodeOpenPrefix]
  simp only [Option.bind_eq_bind, Access.ofOption_bind]
  congr 1
  funext decoded
  by_cases hmore : 8 + decoded.2.offset < frame.length
  · simp only [Access.require, if_pos hmore]
    rfl
  · simp only [Access.require, if_neg hmore]
    rfl

theorem headerEnd_lt {decoded : UInt32 × AsymmetricSecurityHeader × ℕ}
    (h : decodeOpenPrefix frame = some decoded) : decoded.2.2 < frame.length := by
  simp only [decodeOpenPrefix, Option.bind_eq_bind, Option.bind_eq_some_iff] at h
  obtain ⟨read, -, hend⟩ := h
  split at hend
  next hlt =>
    obtain rfl := Option.some.inj hend
    exact hlt
  next => exact absurd hend (by simp)

/-- The guard in front of the signature leaves a byte for the padding size. -/
theorem checkedOpenAsymmetric_eq
    {split : ByteString → ℕ → Access (SequenceHeader × ByteString)}
    (hsplit : ∀ {plaintext : ByteString} {signatureBegin : ℕ},
      0 < signatureBegin → signatureBegin ≤ plaintext.length →
        split plaintext signatureBegin =
          .ofOption (splitPlaintext plaintext signatureBegin))
    {headerEnd : ℕ} (hend : headerEnd ≤ frame.length) :
    checkedOpenAsymmetric split keys frame headerEnd =
      .ofOption (openAsymmetric keys frame headerEnd) := by
  have hcipher : Access.between frame headerEnd
      (headerEnd + (frame.length - headerEnd)) = .value (frame.drop headerEnd) := by
    rw [Access.between_of_le (by omega) (by omega), Nat.add_sub_cancel' hend,
      List.take_length]
  rw [checkedOpenAsymmetric, Access.difference_of_le hend, Access.value_bind,
    hcipher, Access.value_bind, openAsymmetric, Option.bind_eq_bind,
    Access.ofOption_bind]
  congr 1
  funext plaintext
  dsimp only
  by_cases hlong : keys.publicKey.keySizeBytes + 1 ≤ plaintext.length
  case neg =>
    have hfails : asymmetricVerifies keys.publicKey frame headerEnd plaintext =
        false := by
      rw [asymmetricVerifies, decide_eq_false hlong, Bool.false_and]
    rw [Access.require, if_neg hlong, hfails]
    rfl
  case pos =>
    have hle : keys.publicKey.keySizeBytes ≤ plaintext.length := by omega
    have hverdict : asymmetricVerifies keys.publicKey frame headerEnd plaintext =
        rsaPkcs1Sha256Verify keys.publicKey
          (frame.take headerEnd ++
            plaintext.take (plaintext.length - keys.publicKey.keySizeBytes))
          (plaintext.drop (plaintext.length - keys.publicKey.keySizeBytes)) := by
      rw [asymmetricVerifies, decide_eq_true hlong, Bool.true_and]
    rw [Access.require, if_pos hlong, hverdict, Access.value_bind, Access.difference_of_le hle, Access.value_bind,
      Access.between_of_le (Nat.zero_le _) hend, Access.value_bind,
      Access.between_of_le (Nat.zero_le _) (by omega), Access.value_bind,
      Access.between_of_le (by omega) (by omega), Access.value_bind,
      Nat.sub_add_cancel hle, List.take_length, List.drop_zero, List.drop_zero]
    split
    next hverifies =>
      rw [Access.require, if_pos hverifies, Access.value_bind]
      exact hsplit (by omega) (by omega)
    next hfails =>
      rw [Access.require, if_neg hfails]
      rfl

end Asymmetric

namespace SecureChannel

variable {s : SecureChannel ssl} {config : SecureChannelServerConfig ssl}
  {around : Surroundings} {frame : ByteString}

theorem checkedAcceptOpen_eq (h : 8 ≤ frame.length) :
    checkedAcceptOpen config around frame =
      .ofOption (acceptOpenSecure config around frame) := by
  rw [checkedAcceptOpen, checkedOpenPrefix_eq h, acceptOpenSecure,
    decodeOpenSecure]
  cases hprefix : decodeOpenPrefix frame with
  | none => rfl
  | some decoded =>
      have hend : decoded.2.2 ≤ frame.length := (headerEnd_lt hprefix).le
      simp only [Access.ofOption_some, Access.value_bind, Option.bind_eq_bind,
        Option.bind_some, Option.bind_assoc, Access.ofOption_bind,
        Access.ofOption_guard, checkedOpenAsymmetric_eq checkedSplit_eq hend]
      rfl

/-- `HandleFrame` calls `HandleOpenSecure` with a frame whose header it has
decoded. -/
theorem checkedOpenSecure_eq {header : FrameHeader}
    (h : completeFrameHeader frame = some header) :
    s.checkedOpenSecure config around frame =
      .value (s.handleOpenSecure config around frame) := by
  have hsize : 8 ≤ frame.length := by
    obtain ⟨hdecode, -⟩ := Option.filter_eq_some_iff.mp h
    unfold decodeFrameHeader at hdecode
    split at hdecode
    next => exact absurd hdecode (by simp)
    next hlong => omega
  rw [checkedOpenSecure, checkedAcceptOpen_eq hsize, Access.settle_ofOption,
    handleOpenSecure]
  cases acceptOpenSecure config around frame with
  | none => rfl
  | some accepted => rfl

theorem checkedSecureMessage_onlyTag {isClose : Bool} (hopened : s.opened = true)
    (hactive : s.basic256Active = true)
    (honly : CarriesOnlyTag ssl s.inboundKeys s.channelId s.tokenId frame) :
    s.checkedSecureMessage frame isClose = .fault := by
  rw [checkedSecureMessage, if_neg (by simp [hopened]), if_pos hactive,
    checkedSymmetricMessage, checkedOpenSymmetric_onlyTag honly]
  rfl

theorem checkedSecureMessage_eq_iff {isClose : Bool} :
    s.checkedSecureMessage frame isClose =
        .value (s.handleSecureMessage frame isClose) ↔
      ¬(s.opened = true ∧ s.basic256Active = true ∧
        CarriesOnlyTag ssl s.inboundKeys s.channelId s.tokenId frame) := by
  constructor
  · rintro heq ⟨hopened, hactive, honly⟩
    rw [checkedSecureMessage_onlyTag hopened hactive honly] at heq
    exact absurd heq (by simp)
  · intro hother
    unfold checkedSecureMessage handleSecureMessage
    split
    next => rfl
    next hopened =>
      split
      next hactive =>
        have hnot : ¬CarriesOnlyTag ssl s.inboundKeys s.channelId s.tokenId
            frame := fun honly =>
          hother ⟨by simpa using hopened, hactive, honly⟩
        rw [checkedSymmetricMessage, handleSymmetricMessage,
          checkedOpenSymmetric_inRange hnot, Access.settle_ofOption]
        cases openSymmetric ssl s.inboundKeys s.channelId s.tokenId frame with
        | none => rfl
        | some opened => rfl
      next => rfl

theorem handleSymmetricMessage_closes (s : SecureChannel ssl)
    (frame : ByteString) (isClose : Bool) :
    (s.handleSymmetricMessage frame isClose).2.closeTransport = true ∨
      (s.handleSymmetricMessage frame isClose).2.servicePayload ≠ none := by
  unfold handleSymmetricMessage
  split
  next => exact .inl rfl
  next =>
    split
    next => exact .inl rfl
    next => exact .inr (by simp)

theorem handlePlainMessage_closes (s : SecureChannel ssl) (frame : ByteString)
    (isClose : Bool) :
    (s.handlePlainMessage frame isClose).2.closeTransport = true ∨
      (s.handlePlainMessage frame isClose).2.servicePayload ≠ none := by
  unfold handlePlainMessage
  split
  next => exact .inl rfl
  next =>
    split
    next => exact .inl rfl
    next =>
      split
      next => exact .inl rfl
      next =>
        split
        next => exact .inl rfl
        next =>
          split
          next => exact .inl rfl
          next => exact .inr (by simp)

theorem handleSecureMessage_closes (s : SecureChannel ssl) (frame : ByteString)
    (isClose : Bool) :
    (s.handleSecureMessage frame isClose).2.closeTransport = true ∨
      (s.handleSecureMessage frame isClose).2.servicePayload ≠ none := by
  unfold handleSecureMessage
  split
  next => exact .inl rfl
  next =>
    split
    next => exact s.handleSymmetricMessage_closes frame isClose
    next => exact s.handlePlainMessage_closes frame isClose

theorem handleOpenSecure_closes (s : SecureChannel ssl)
    (config : SecureChannelServerConfig ssl) (around : Surroundings)
    (frame : ByteString) :
    (s.handleOpenSecure config around frame).2.closeTransport = true ∨
      (s.handleOpenSecure config around frame).2.outboundFrame ≠ none := by
  unfold handleOpenSecure
  split
  next => exact .inl rfl
  next =>
    split
    next => exact .inl rfl
    next => exact .inr (by simp)

end SecureChannel

namespace ClientSecureChannel

variable {c : ClientSecureChannel ssl} {frame : ByteString}

/-- The chunk or the status which `DecodeSymmetricBasic256Sha256Frame`
returns. -/
def symmetricFrameResult (c : ClientSecureChannel ssl) (frame : ByteString) :
    Except Status ServiceChunk :=
  (openSymmetric ssl c.serverKeys c.channelId c.tokenId frame).elim
    (.error (.ofCode .bad)) fun (sequenceHeader, body) =>
      .ok { requestId := sequenceHeader.requestId, body }

/-- `DecodeAsymmetricBasic256Sha256OpenFrame`. -/
def decodeAsymmetricOpenFrame (c : ClientSecureChannel ssl)
    (frame : ByteString) :
    Option (AsymmetricSecurityHeader × SequenceHeader × ByteString) := do
  guard (8 ≤ frame.length)
  let (_, header, headerEnd) ← decodeOpenPrefix frame
  let serverPublicKey ← certificatePublicKey c.security.serverCertificate
  let (sequenceHeader, body) ← openAsymmetric
    { publicKey := serverPublicKey, privateKey := c.security.clientPrivateKey }
    frame headerEnd
  return (header, sequenceHeader, body)

theorem decodeSecureOpenResponse_eq :
    c.decodeSecureOpenResponse frame =
      (c.decodeAsymmetricOpenFrame frame).bind fun (_, _, body) =>
        decodeOpenSecureChannelResponseBody body := by
  rw [decodeSecureOpenResponse, decodeAsymmetricOpenFrame]
  simp only [Option.bind_eq_bind, Option.bind_assoc, Option.pure_def,
    Option.bind_some]

theorem checkedSymmetricFrame_onlyTag
    (honly : CarriesOnlyTag ssl c.serverKeys c.channelId c.tokenId frame) :
    c.checkedSymmetricFrame frame = .fault := by
  rw [checkedSymmetricFrame, checkedOpenSymmetric_onlyTag honly]
  rfl

theorem checkedSymmetricFrame_eq_iff :
    c.checkedSymmetricFrame frame = .value (c.symmetricFrameResult frame) ↔
      ¬CarriesOnlyTag ssl c.serverKeys c.channelId c.tokenId frame := by
  constructor
  · intro heq honly
    rw [checkedSymmetricFrame_onlyTag honly] at heq
    exact absurd heq (by simp)
  · intro hother
    rw [checkedSymmetricFrame, symmetricFrameResult,
      checkedOpenSymmetric_inRange hother, Access.settle_ofOption]

theorem checkedOpenFrame_eq :
    c.checkedOpenFrame frame =
      .value ((c.decodeAsymmetricOpenFrame frame).elim
        (.error (.ofCode .bad)) .ok) := by
  rw [checkedOpenFrame, decodeAsymmetricOpenFrame, ← Access.settle_ofOption]
  congr 1
  by_cases h : 8 ≤ frame.length
  case neg => simp [Access.require, guard, h, Access.ofOption]
  case pos =>
    rw [checkedOpenPrefix_eq h]
    cases hprefix : decodeOpenPrefix frame with
    | none => simp [Access.require, guard, h, Access.ofOption]
    | some decoded =>
        have hend : decoded.2.2 ≤ frame.length := (headerEnd_lt hprefix).le
        simp only [Access.ofOption_some, Access.value_bind, Option.bind_eq_bind,
          Option.bind_some, Access.ofOption_bind,
          Access.ofOption_guard, checkedOpenAsymmetric_eq checkedSplitOpen_eq hend]
        rfl

end ClientSecureChannel

/-! ## The four parsers -/

/-- What the parsers owe a frame: every access is in range, and a frame which is
not accepted closes the transport or has a bad status. -/
structure ParsersInRange (s : SecureChannel ssl) (c : ClientSecureChannel ssl)
    (frame : ByteString) : Prop where
  secureMessage : ∀ isClose, s.checkedSecureMessage frame isClose =
    .value (s.handleSecureMessage frame isClose)
  secureMessageCloses : ∀ isClose,
    (s.handleSecureMessage frame isClose).2.closeTransport = true ∨
      (s.handleSecureMessage frame isClose).2.servicePayload ≠ none
  openSecure : ∀ config around header, completeFrameHeader frame = some header →
    s.checkedOpenSecure config around frame =
      .value (s.handleOpenSecure config around frame)
  openSecureCloses : ∀ config around,
    (s.handleOpenSecure config around frame).2.closeTransport = true ∨
      (s.handleOpenSecure config around frame).2.outboundFrame ≠ none
  symmetricFrame :
    c.checkedSymmetricFrame frame = .value (c.symmetricFrameResult frame)
  symmetricFrameBad : ∀ status, c.symmetricFrameResult frame = .error status →
    status.isBad = true
  openFrame : c.checkedOpenFrame frame =
    .value ((c.decodeAsymmetricOpenFrame frame).elim (.error (.ofCode .bad)) .ok)

/-- The parsers stay in range exactly if the ciphertext of a symmetric chunk is
not the bare tag of its header. -/
theorem parsersInRange_iff (s : SecureChannel ssl) (c : ClientSecureChannel ssl)
    (frame : ByteString) :
    ParsersInRange s c frame ↔
      ¬(s.opened = true ∧ s.basic256Active = true ∧
          CarriesOnlyTag ssl s.inboundKeys s.channelId s.tokenId frame) ∧
        ¬CarriesOnlyTag ssl c.serverKeys c.channelId c.tokenId frame := by
  constructor
  · intro h
    exact ⟨SecureChannel.checkedSecureMessage_eq_iff.mp (h.secureMessage false),
      ClientSecureChannel.checkedSymmetricFrame_eq_iff.mp h.symmetricFrame⟩
  · rintro ⟨hserver, hclient⟩
    refine ⟨fun isClose => SecureChannel.checkedSecureMessage_eq_iff.mpr hserver,
      s.handleSecureMessage_closes frame,
      fun config around header => SecureChannel.checkedOpenSecure_eq,
      fun config around => s.handleOpenSecure_closes config around frame,
      ClientSecureChannel.checkedSymmetricFrame_eq_iff.mpr hclient, ?_,
      ClientSecureChannel.checkedOpenFrame_eq⟩
    intro status hstatus
    rw [ClientSecureChannel.symmetricFrameResult] at hstatus
    cases hopen : openSymmetric ssl c.serverKeys c.channelId c.tokenId frame with
    | none =>
        rw [hopen] at hstatus
        obtain rfl := Except.error.inj hstatus
        decide
    | some opened =>
        rw [hopen] at hstatus
        exact absurd hstatus (by simp)

/-- Keys of the lengths which the ciphers take. -/
def tagKeys : DerivedKeys :=
  { signingKey := List.replicate 32 1
    encryptingKey := List.replicate 32 2
    initializationVector := List.replicate 16 3 }

/-- A complete MSG frame whose plaintext is the tag of its header. -/
def tagFrame : ByteString :=
  symmetricHeader .secureMessage 1 1 48 ++
    hmacSha256 sampleSsl tagKeys.signingKey
      (symmetricHeader .secureMessage 1 1 48)

/-- The server and the client index the plaintext of that frame below its
start. -/
theorem tagFrame_out_of_range :
    completeFrameHeader tagFrame =
        some { messageType := .secureMessage, messageSize := 48 } ∧
      ({ opened := true
         basic256Active := true
         inboundKeys := tagKeys } : SecureChannel sampleSsl).checkedSecureMessage
        tagFrame false = .fault ∧
      ({ channelId := 1
         tokenId := 1
         serverKeys := tagKeys } :
          ClientSecureChannel sampleSsl).checkedSymmetricFrame tagFrame =
        .fault := by
  have honly : CarriesOnlyTag sampleSsl tagKeys 1 1 tagFrame := by
    refine ⟨?_, ?_⟩
    · decide
    · decide +kernel
  have hsize : completeFrameHeader tagFrame =
      some { messageType := .secureMessage, messageSize := 48 } := by
    decide
  exact ⟨hsize, SecureChannel.checkedSecureMessage_onlyTag rfl rfl honly,
    ClientSecureChannel.checkedSymmetricFrame_onlyTag honly⟩

end Binary
end OpcuaStack
