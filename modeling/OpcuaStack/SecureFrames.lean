import OpcuaStack.Crypto
import OpcuaStack.SecureConversation

/-!
# Secured frames

The two ends of a secure channel sign, pad and encrypt in the same way, each
with its own keys.  An OPN frame is secured with the RSA keys of the two
certificates, every other frame with the keys derived from the nonces.
-/

namespace OpcuaStack
namespace Binary

variable {ssl : OpenSsl}

/-! ## Padding -/

/-- How many bytes fill up the last block. -/
def padCount (block unpadded : ℕ) : ℕ := (block - unpadded % block) % block

/-- The padding and the `PaddingSize` byte. -/
def padding (count : ℕ) : ByteString :=
  List.replicate count (UInt8.ofNat count) ++ [UInt8.ofNat count]

/-- The sequence header and the body of a decrypted chunk whose signature
starts at the given offset. -/
def splitPlaintext (plaintext : ByteString) (signatureBegin : ℕ) :
    Option (SequenceHeader × ByteString) :=
  -- With nothing before the signature the byte read here lies outside the
  -- vector; whatever it holds, the chunk is rejected.
  let padSize := (plaintext.getD (signatureBegin - 1) 0).toNat
  if signatureBegin < (1 + padSize) + 8 then
    none
  else
    let bodyEnd := signatureBegin - 1 - padSize
    some
      ({ sequenceNumber := uint32At plaintext 0
         requestId := uint32At plaintext 4 },
        (plaintext.take bodyEnd).drop 8)

/-! ## OPN frames -/

structure AsymmetricKeys (ssl : OpenSsl) where
  publicKey : PrivateKey ssl
  privateKey : PrivateKey ssl

/-- Encrypts with the public key of the peer and signs with the own key.  The
signature covers the header with the size which the frame is going to have. -/
def sealAsymmetric (keys : AsymmetricKeys ssl) (seeds : ℕ → ByteString)
    (plainBlock : ℕ) (header plaintext : ByteString) : Option ByteString :=
  let signatureSize := keys.privateKey.keySizeBytes
  let count := padCount plainBlock (plaintext.length + 1 + signatureSize)
  if 255 < count then
    none
  else do
    let toEncrypt := plaintext ++ padding count
    let blocks := (toEncrypt.length + signatureSize) / plainBlock
    let sized := stampFrameSize header
      (header.length + blocks * keys.publicKey.keySizeBytes)
    let signature ← rsaPkcs1Sha256Sign keys.privateKey (sized ++ toEncrypt)
    let ciphertext ← rsaOaepEncrypt seeds keys.publicKey (toEncrypt ++ signature)
    return fixUpFrameSize (sized ++ ciphertext)

/-- The channel id and security header of an OPN frame, with the offset of the
ciphertext. -/
def decodeOpenPrefix (frame : ByteString) :
    Option (UInt32 × AsymmetricSecurityHeader × ℕ) := do
  let decoder : Decoder (UInt32 × AsymmetricSecurityHeader) := do
    let channelId ← decodeUInt32
    let header ← decodeAsymmetricSecurityHeader
    return (channelId, header)
  let ((channelId, header), cursor) ← decoder { items := frame.drop 8 }
  if 8 + cursor.offset < frame.length then
    return (channelId, header, 8 + cursor.offset)
  else
    none

/-- The signature at the end of the plaintext covers the header and what is
before it. -/
def asymmetricVerifies (publicKey : PrivateKey ssl) (frame : ByteString)
    (headerEnd : ℕ) (plaintext : ByteString) : Bool :=
  let signatureBegin := plaintext.length - publicKey.keySizeBytes
  decide (publicKey.keySizeBytes + 1 ≤ plaintext.length) &&
    rsaPkcs1Sha256Verify publicKey
      (frame.take headerEnd ++ plaintext.take signatureBegin)
      (plaintext.drop signatureBegin)

/-- Decrypts with the own key and verifies with the public key of the peer. -/
def openAsymmetric (keys : AsymmetricKeys ssl) (frame : ByteString)
    (headerEnd : ℕ) : Option (SequenceHeader × ByteString) := do
  let plaintext ← rsaOaepDecrypt keys.privateKey (frame.drop headerEnd)
  if asymmetricVerifies keys.publicKey frame headerEnd plaintext then
    splitPlaintext plaintext (plaintext.length - keys.publicKey.keySizeBytes)
  else
    none

/-! ## MSG and CLO frames -/

def symmetricHeaderSize : ℕ := 16

def symmetricHeader (messageType : MessageType) (channelId tokenId : UInt32)
    (size : ℕ) : ByteString :=
  encodeFrameHeader { messageType, messageSize := UInt32.ofNat size } ++
    (encodeUInt32 channelId ++ encodeUInt32 tokenId)

def sealSymmetric (ssl : OpenSsl) (keys : DerivedKeys)
    (messageType : MessageType) (channelId tokenId : UInt32)
    (sequence : SequenceHeader) (body : ByteString) : Option ByteString :=
  let unpadded := encodeSequenceHeader sequence ++ body
  let count := padCount aesBlockSize (unpadded.length + 1 + hmacSha256TagSize)
  if 255 < count then
    none
  else do
    let payload := unpadded ++ padding count
    let header := symmetricHeader messageType channelId tokenId
      (symmetricHeaderSize + (payload.length + hmacSha256TagSize))
    let signature := hmacSha256 ssl keys.signingKey (header ++ payload)
    let ciphertext ← aesCbcEncrypt ssl keys.encryptingKey
      keys.initializationVector (payload ++ signature)
    return fixUpFrameSize (header ++ ciphertext)

/-- The plaintext of a frame whose HMAC verifies under the keys. -/
def symmetricPlaintext (ssl : OpenSsl) (keys : DerivedKeys)
    (frame : ByteString) : Option ByteString := do
  let decrypted ← aesCbcDecrypt ssl keys.encryptingKey
    keys.initializationVector (frame.drop symmetricHeaderSize)
  if decrypted.length < hmacSha256TagSize then
    none
  else
    let signatureBegin := decrypted.length - hmacSha256TagSize
    let expectedTag := hmacSha256 ssl keys.signingKey
      (frame.take symmetricHeaderSize ++ decrypted.take signatureBegin)
    if expectedTag = decrypted.drop signatureBegin then
      return decrypted
    else
      none

/-- The check of the channel id and the token id in the header. -/
def namesToken (channelId tokenId : UInt32) (frame : ByteString) : Bool :=
  decide (symmetricHeaderSize ≤ frame.length) &&
    (uint32At frame 8 == channelId && uint32At frame 12 == tokenId)

def openSymmetric (ssl : OpenSsl) (keys : DerivedKeys)
    (channelId tokenId : UInt32) (frame : ByteString) :
    Option (SequenceHeader × ByteString) :=
  if namesToken channelId tokenId frame then do
    let decrypted ← symmetricPlaintext ssl keys frame
    splitPlaintext decrypted (decrypted.length - hmacSha256TagSize)
  else
    none

/-! ## Unpadding -/

theorem padCount_lt {block : ℕ} (hblock : 0 < block) (unpadded : ℕ) :
    padCount block unpadded < block :=
  Nat.mod_lt _ hblock

@[simp] theorem length_padding (count : ℕ) :
    (padding count).length = count + 1 := by
  simp [padding]

@[simp] theorem length_encodeSequenceHeader (sequence : SequenceHeader) :
    (encodeSequenceHeader sequence).length = 8 := by
  simp [encodeSequenceHeader]

theorem getD_padding {count : ℕ} (hcount : count ≤ 255)
    (before after : ByteString) :
    ((before ++ (padding count ++ after)).getD
      (before.length + count) 0).toNat = count := by
  have hbyte : (UInt8.ofNat count).toNat = count :=
    UInt8.toNat_ofNat_of_lt' (show count < 256 by omega)
  have hlast : (padding count ++ after)[count]? = some (UInt8.ofNat count) := by
    rw [padding, List.append_assoc,
      List.getElem?_append_right (by simp)]
    simp
  rw [List.getD_eq_getElem?_getD,
    List.getElem?_append_right (Nat.le_add_right _ _), Nat.add_sub_cancel_left,
    hlast, Option.getD_some, hbyte]

theorem splitPlaintext_padded {count : ℕ} (hcount : count ≤ 255)
    (sequence : SequenceHeader) (body signature : ByteString) :
    splitPlaintext
        (encodeSequenceHeader sequence ++ body ++ (padding count ++ signature))
        (8 + body.length + (count + 1)) =
      some (sequence, body) := by
  have hpad := getD_padding hcount (encodeSequenceHeader sequence ++ body)
    signature
  rw [List.length_append, length_encodeSequenceHeader] at hpad
  have hbegin : 8 + body.length + (count + 1) - 1 = 8 + body.length + count := by
    omega
  have htake : (encodeSequenceHeader sequence ++ body ++
      (padding count ++ signature)).take (8 + body.length + count - count) =
        encodeSequenceHeader sequence ++ body :=
    List.take_left' (by simp)
  have hnumber : uint32At (encodeSequenceHeader sequence ++ body ++
      (padding count ++ signature)) 0 = sequence.sequenceNumber := by
    have hat := uint32At_append [] (encodeUInt32 sequence.requestId ++ body ++
      (padding count ++ signature)) sequence.sequenceNumber
    simpa [encodeSequenceHeader] using hat
  have hrequest : uint32At (encodeSequenceHeader sequence ++ body ++
      (padding count ++ signature)) 4 = sequence.requestId := by
    have hat := uint32At_append (encodeUInt32 sequence.sequenceNumber)
      (body ++ (padding count ++ signature)) sequence.requestId
    simpa [encodeSequenceHeader] using hat
  unfold splitPlaintext
  rw [hbegin, hpad, if_neg (by omega)]
  simp only [htake, hnumber, hrequest,
    List.drop_left' (length_encodeSequenceHeader sequence)]

/-! ## Asymmetric frames -/

/-- The two keys, as far as they are there, are halves of one. -/
def KeysPair (publicKey privateKey : PrivateKey ssl) : Prop :=
  ∀ publicHandle ∈ publicKey, ∀ privateHandle ∈ privateKey,
    KeyPair ssl publicHandle privateHandle

theorem sealAsymmetric_spec {keys : AsymmetricKeys ssl}
    {seeds : ℕ → ByteString} {plainBlock : ℕ} {header : FrameHeader}
    {security plaintext frame : ByteString}
    (h : sealAsymmetric keys seeds plainBlock
      (encodeFrameHeader header ++ security) plaintext = some frame) :
    ∃ count signed signature ciphertext size, count ≤ 255 ∧
      rsaPkcs1Sha256Sign keys.privateKey signed = some signature ∧
      rsaOaepEncrypt seeds keys.publicKey
        (plaintext ++ padding count ++ signature) = some ciphertext ∧
      frame = encodeFrameHeader { header with messageSize := size } ++
        (security ++ ciphertext) := by
  simp only [sealAsymmetric, stampFrameSize_append] at h
  split at h
  next => exact absurd h (by simp)
  next hcount =>
    simp only [Option.bind_eq_bind, Option.bind_eq_some_iff] at h
    obtain ⟨signature, hsign, ciphertext, hcipher, hframe⟩ := h
    refine ⟨_, _, signature, ciphertext,
      UInt32.ofNat (8 + (security ++ ciphertext).length),
      Nat.not_lt.mp hcount, hsign, hcipher, ?_⟩
    rw [← Option.some.inj hframe, List.append_assoc, fixUpFrameSize_append]

theorem decodeOpenPrefix_eq {header : FrameHeader} {channelId : UInt32}
    {security : AsymmetricSecurityHeader} (hsecurity : security.Encodable)
    {after : ByteString} {decoded : UInt32 × AsymmetricSecurityHeader × ℕ}
    (h : decodeOpenPrefix (encodeFrameHeader header ++
      (encodeUInt32 channelId ++ encodeAsymmetricSecurityHeader security ++
        after)) = some decoded) :
    decoded = (channelId, security,
      8 + (encodeUInt32 channelId ++
        encodeAsymmetricSecurityHeader security).length) := by
  have hreads : Reads
      (do
        let channelId ← decodeUInt32
        let header ← decodeAsymmetricSecurityHeader
        return (channelId, header))
      (encodeUInt32 channelId ++ encodeAsymmetricSecurityHeader security)
      (channelId, security) :=
    (reads_uInt32 channelId).bind
      ((reads_asymmetricSecurityHeader hsecurity).bind_pure (Reads.pure _))
  simp only [decodeOpenPrefix, List.drop_left' (length_encodeFrameHeader header),
    Option.bind_eq_bind, Option.bind_eq_some_iff] at h
  obtain ⟨⟨⟨readId, readHeader⟩, cursor⟩, hread, hend⟩ := h
  rw [hreads { items := encodeUInt32 channelId ++
    encodeAsymmetricSecurityHeader security ++ after } after rfl,
    Option.some.injEq, Prod.mk.injEq, Prod.mk.injEq] at hread
  obtain ⟨⟨rfl, rfl⟩, rfl⟩ := hread
  split at hend
  next =>
    rw [← Option.some.inj hend, Cursor.advance_offset, Nat.zero_add]
  next => exact absurd hend (by simp)

theorem openAsymmetric_eq {sender receiver : AsymmetricKeys ssl}
    (hencrypts : KeysPair sender.publicKey receiver.privateKey)
    (hsigns : KeysPair receiver.publicKey sender.privateKey)
    {seeds : ℕ → ByteString} {plainBlock : ℕ} {header : FrameHeader}
    {security body frame : ByteString} {sequence : SequenceHeader}
    (hseal : sealAsymmetric sender seeds plainBlock
      (encodeFrameHeader header ++ security)
      (encodeSequenceHeader sequence ++ body) = some frame)
    {opened : SequenceHeader × ByteString}
    (hopen : openAsymmetric receiver frame (8 + security.length) =
      some opened) : opened = (sequence, body) := by
  obtain ⟨count, signed, signature, ciphertext, size, hcount, hsign, hcipher,
    rfl⟩ := sealAsymmetric_spec hseal
  have hdrop : (encodeFrameHeader { header with messageSize := size } ++
      (security ++ ciphertext)).drop (8 + security.length) = ciphertext := by
    rw [← List.append_assoc]
    exact List.drop_left' (by simp)
  obtain ⟨plaintext, hdecrypt, hsplit⟩ := Option.bind_eq_some_iff.mp hopen
  rw [hdrop] at hdecrypt
  obtain ⟨publicHandle, hpublic, -⟩ := Option.bind_eq_some_iff.mp hcipher
  obtain ⟨privateHandle, hprivate, -⟩ := Option.bind_eq_some_iff.mp hdecrypt
  have hplaintext : plaintext =
      encodeSequenceHeader sequence ++ body ++ padding count ++ signature := by
    have hinverts := (hencrypts _ hpublic _ hprivate).rsaOaepDecrypt
      (hpublic ▸ hcipher)
    rw [hprivate] at hdecrypt
    exact Option.some.inj (hdecrypt.symm.trans hinverts)
  subst hplaintext
  split at hsplit
  next hverifies =>
    obtain ⟨signer, hsigner, hsignature⟩ := Option.bind_eq_some_iff.mp hsign
    have hlength : signature.length = receiver.publicKey.keySizeBytes := by
      cases hverifier : receiver.publicKey with
      | none => simp [asymmetricVerifies, rsaPkcs1Sha256Verify, hverifier]
          at hverifies
      | some verifier => exact ((hsigns _ hverifier _ hsigner).sign hsignature).1
    have hbegin : (encodeSequenceHeader sequence ++ body ++ padding count ++
        signature).length - receiver.publicKey.keySizeBytes =
          8 + body.length + (count + 1) := by
      rw [← hlength]
      simp only [List.length_append, length_encodeSequenceHeader, length_padding]
      omega
    rw [hbegin, List.append_assoc, splitPlaintext_padded hcount] at hsplit
    exact (Option.some.inj hsplit).symm
  next => exact absurd hsplit (by simp)

/-! ## Symmetric frames -/

@[simp] theorem length_symmetricHeader (messageType : MessageType)
    (channelId tokenId : UInt32) (size : ℕ) :
    (symmetricHeader messageType channelId tokenId size).length = 16 := by
  simp [symmetricHeader]

theorem namesToken_append (header : FrameHeader) (channelId tokenId : UInt32)
    (after : ByteString) :
    namesToken channelId tokenId (encodeFrameHeader header ++
      (encodeUInt32 channelId ++ (encodeUInt32 tokenId ++ after))) = true := by
  have hchannel : uint32At (encodeFrameHeader header ++
      (encodeUInt32 channelId ++ (encodeUInt32 tokenId ++ after))) 8 =
        channelId := by
    have hat := uint32At_append (encodeFrameHeader header)
      (encodeUInt32 tokenId ++ after) channelId
    rwa [length_encodeFrameHeader] at hat
  have htoken : uint32At (encodeFrameHeader header ++
      (encodeUInt32 channelId ++ (encodeUInt32 tokenId ++ after))) 12 =
        tokenId := by
    have hat := uint32At_append (encodeFrameHeader header ++
      encodeUInt32 channelId) after tokenId
    simpa using hat
  simp [namesToken, hchannel, htoken, symmetricHeaderSize]
  omega

theorem namesToken_symmetricHeader (messageType : MessageType)
    (channelId tokenId : UInt32) (size : ℕ) (after : ByteString) :
    namesToken channelId tokenId
      (symmetricHeader messageType channelId tokenId size ++ after) = true := by
  rw [symmetricHeader, List.append_assoc, List.append_assoc]
  exact namesToken_append _ channelId tokenId after

theorem fixUpFrameSize_symmetricHeader (messageType : MessageType)
    (channelId tokenId : UInt32) (size : ℕ) (after : ByteString) :
    fixUpFrameSize (symmetricHeader messageType channelId tokenId size ++
        after) =
      symmetricHeader messageType channelId tokenId (16 + after.length) ++
        after := by
  have hlength : 8 + (encodeUInt32 channelId ++ encodeUInt32 tokenId ++
      after).length = 16 + after.length := by
    simp only [List.length_append, length_encodeUInt32]
    omega
  rw [symmetricHeader, List.append_assoc, fixUpFrameSize_append, hlength,
    ← List.append_assoc]
  rfl

theorem sealSymmetric_spec {keys : DerivedKeys} {messageType : MessageType}
    {channelId tokenId : UInt32} {sequence : SequenceHeader}
    {body frame : ByteString}
    (h : sealSymmetric ssl keys messageType channelId tokenId sequence body =
      some frame) :
    ∃ count size signature ciphertext, count ≤ 255 ∧
      size = 16 + (8 + body.length + (count + 1) + 32) ∧
      signature = hmacSha256 ssl keys.signingKey
        (symmetricHeader messageType channelId tokenId size ++
          (encodeSequenceHeader sequence ++ body ++ padding count)) ∧
      aesCbcEncrypt ssl keys.encryptingKey keys.initializationVector
        (encodeSequenceHeader sequence ++ body ++ padding count ++ signature) =
          some ciphertext ∧
      frame = symmetricHeader messageType channelId tokenId
        (16 + ciphertext.length) ++ ciphertext := by
  simp only [sealSymmetric] at h
  split at h
  next => exact absurd h (by simp)
  next hcount =>
    simp only [Option.bind_eq_bind, Option.bind_eq_some_iff] at h
    obtain ⟨ciphertext, hcipher, hframe⟩ := h
    refine ⟨_, _, _, ciphertext, Nat.not_lt.mp hcount, ?_, rfl, hcipher, ?_⟩
    · simp only [symmetricHeaderSize, hmacSha256TagSize, List.length_append,
        length_encodeSequenceHeader, length_padding]
    · rw [← fixUpFrameSize_symmetricHeader]
      exact (Option.some.inj hframe).symm

theorem namesToken_sealSymmetric {keys : DerivedKeys}
    {messageType : MessageType} {channelId tokenId : UInt32}
    {sequence : SequenceHeader} {body frame : ByteString}
    (h : sealSymmetric ssl keys messageType channelId tokenId sequence body =
      some frame) :
    namesToken channelId tokenId frame = true := by
  obtain ⟨_, _, _, ciphertext, _, _, _, _, rfl⟩ := sealSymmetric_spec h
  exact namesToken_symmetricHeader _ _ _ _ _

theorem openSymmetric_sealSymmetric (hinverts : CipherInverts ssl)
    {keys : DerivedKeys} {messageType : MessageType}
    {channelId tokenId : UInt32} {sequence : SequenceHeader}
    {body frame : ByteString}
    (h : sealSymmetric ssl keys messageType channelId tokenId sequence body =
      some frame) :
    openSymmetric ssl keys channelId tokenId frame = some (sequence, body) := by
  have hnames := namesToken_sealSymmetric h
  obtain ⟨count, size, signature, ciphertext, hcount, hsize, hsignature, hcipher,
    rfl⟩ := sealSymmetric_spec h
  obtain ⟨hlength, hdecrypt⟩ := hinverts.aesCbcDecrypt hcipher
  have hbegin : (encodeSequenceHeader sequence ++ body ++ padding count ++
      signature).length - hmacSha256TagSize = 8 + body.length + (count + 1) := by
    rw [hsignature]
    simp only [List.length_append, length_encodeSequenceHeader, length_padding,
      length_hmacSha256]
    omega
  have hunsigned : (encodeSequenceHeader sequence ++ body ++
      padding count).length = 8 + body.length + (count + 1) := by
    simp only [List.length_append, length_encodeSequenceHeader, length_padding]
  have hpayload : (encodeSequenceHeader sequence ++ body ++ padding count ++
      signature).take (8 + body.length + (count + 1)) =
        encodeSequenceHeader sequence ++ body ++ padding count :=
    List.take_left' hunsigned
  have htag : (encodeSequenceHeader sequence ++ body ++ padding count ++
      signature).drop (8 + body.length + (count + 1)) = signature :=
    List.drop_left' hunsigned
  have hsizes : 16 + ciphertext.length = size := by
    rw [hlength, hsize, hsignature]
    simp only [List.length_append, length_encodeSequenceHeader, length_padding,
      length_hmacSha256, hmacSha256TagSize]
  have hlong : ¬ (encodeSequenceHeader sequence ++ body ++ padding count ++
      signature).length < hmacSha256TagSize := by
    rw [hsignature]
    simp only [List.length_append, length_hmacSha256]
    omega
  have hplaintext : symmetricPlaintext ssl keys
      (symmetricHeader messageType channelId tokenId
        (16 + ciphertext.length) ++ ciphertext) =
      some (encodeSequenceHeader sequence ++ body ++ padding count ++
        signature) := by
    have hheader := length_symmetricHeader messageType channelId tokenId
      (16 + ciphertext.length)
    simp only [symmetricPlaintext, symmetricHeaderSize, List.drop_left' hheader,
      List.take_left' hheader, hdecrypt, Option.bind_eq_bind, Option.bind_some,
      if_neg hlong, hbegin, hpayload, htag]
    rw [hsizes, if_pos hsignature.symm]
    rfl
  rw [openSymmetric, if_pos hnames, hplaintext, Option.bind_eq_bind,
    Option.bind_some, hbegin, List.append_assoc]
  exact splitPlaintext_padded hcount sequence body signature

theorem frameType_sealSymmetric {keys : DerivedKeys}
    {messageType : MessageType} {channelId tokenId : UInt32}
    {sequence : SequenceHeader} {body frame : ByteString}
    (h : sealSymmetric ssl keys messageType channelId tokenId sequence body =
      some frame) (hsize : frame.length < 2 ^ 32) :
    frameType frame = some messageType := by
  obtain ⟨_, _, _, ciphertext, _, _, _, _, rfl⟩ := sealSymmetric_spec h
  rw [List.length_append, length_symmetricHeader] at hsize
  have hnat : (UInt32.ofNat (16 + ciphertext.length)).toNat =
      16 + ciphertext.length := UInt32.toNat_ofNat_of_lt' hsize
  rw [frameType, symmetricHeader, List.append_assoc, completeFrameHeader_append]
  · rfl
  · rw [hnat]
    simp only [List.length_append, length_encodeUInt32]
    omega

end Binary
end OpcuaStack
