import OpcuaStack.FrameReplay

/-!
# Secured messages in both directions

Both ends pad the sequence header and the body to whole blocks, sign the header
with the size which the frame is going to have, and encrypt.  What one end
builds under the ids and keys of the other one, the other one reads as it was
written, whatever the last bytes of the body are.
-/

namespace OpcuaStack
namespace Binary

variable {ssl : OpenSsl}

/-! ## Building -/

/-- AES-256-CBC without padding encrypts whole blocks. -/
def CipherEncrypts (ssl : OpenSsl) : Prop :=
  ∀ key iv plaintext : ByteString, key.length = 32 → iv.length = 16 →
    plaintext.length % 16 = 0 → (ssl.aesEncrypt key iv plaintext).isSome = true

/-- Keys of the sizes which AES-256-CBC takes. -/
structure DerivedKeys.Sized (keys : DerivedKeys) : Prop where
  encryptingKey : keys.encryptingKey.length = 32
  initializationVector : keys.initializationVector.length = 16

theorem exists_aesCbcEncrypt (hencrypts : CipherEncrypts ssl)
    {keys : DerivedKeys} (hkeys : keys.Sized) {plaintext : ByteString}
    (hwhole : plaintext.length % aesBlockSize = 0) :
    ∃ ciphertext, aesCbcEncrypt ssl keys.encryptingKey
      keys.initializationVector plaintext = some ciphertext := by
  rw [aesCbcEncrypt, if_neg]
  · exact Option.isSome_iff_exists.mp (hencrypts _ _ _ hkeys.encryptingKey
      hkeys.initializationVector hwhole)
  · rintro (hkey | hvector | hpartial)
    · exact hkey hkeys.encryptingKey
    · exact hvector hkeys.initializationVector
    · exact hpartial hwhole

theorem add_padCount_mod {block : ℕ} (hblock : 0 < block) (unpadded : ℕ) :
    (unpadded + padCount block unpadded) % block = 0 := by
  have hlt := Nat.mod_lt unpadded hblock
  have hsplit := Nat.div_add_mod unpadded block
  unfold padCount
  rcases Nat.eq_zero_or_pos (unpadded % block) with hzero | hpos
  · rw [hzero, Nat.sub_zero, Nat.mod_self, Nat.add_zero, hzero]
  · rw [Nat.mod_eq_of_lt (show block - unpadded % block < block by omega)]
    have hwhole : unpadded + (block - unpadded % block) =
        block * (unpadded / block + 1) := by
      rw [Nat.mul_add]
      omega
    rw [hwhole, Nat.mul_mod_right]

/-- The padding fills whole blocks, so a message of any length can be sealed. -/
theorem exists_sealSymmetric (hencrypts : CipherEncrypts ssl)
    {keys : DerivedKeys} (hkeys : keys.Sized) (messageType : MessageType)
    (channelId tokenId : UInt32) (sequence : SequenceHeader)
    (body : ByteString) :
    ∃ frame, sealSymmetric ssl keys messageType channelId tokenId sequence
      body = some frame := by
  have hblock : 0 < aesBlockSize := by decide
  have hcount := padCount_lt hblock
    ((encodeSequenceHeader sequence ++ body).length + 1 + hmacSha256TagSize)
  have hwhole := add_padCount_mod hblock
    ((encodeSequenceHeader sequence ++ body).length + 1 + hmacSha256TagSize)
  simp only [sealSymmetric]
  generalize padCount aesBlockSize
    ((encodeSequenceHeader sequence ++ body).length + 1 + hmacSha256TagSize) =
      count at hcount hwhole ⊢
  have hsmall : count < 16 := hcount
  rw [if_neg (by omega)]
  have hsigned : ∀ data, (encodeSequenceHeader sequence ++ body ++
      padding count ++ hmacSha256 ssl keys.signingKey data).length %
        aesBlockSize = 0 := by
    intro data
    rw [← hwhole]
    congr 1
    simp only [List.length_append, length_padding, length_hmacSha256]
    omega
  obtain ⟨ciphertext, hcipher⟩ := exists_aesCbcEncrypt hencrypts hkeys
    (hsigned _)
  exact ⟨_, by rw [hcipher]; rfl⟩

/-! ## Sizes -/

/-- The size in the header is that of the frame, what follows the header is
whole blocks, and the signature covers the header as it is. -/
structure SealedFrame (ssl : OpenSsl) (keys : DerivedKeys)
    (frame : ByteString) : Prop where
  size : uint32At frame 4 = UInt32.ofNat frame.length
  header : symmetricHeaderSize ≤ frame.length
  blocks : (frame.drop symmetricHeaderSize).length % aesBlockSize = 0
  signed : ∃ payload,
    aesCbcDecrypt ssl keys.encryptingKey keys.initializationVector
        (frame.drop symmetricHeaderSize) =
      some (payload ++ hmacSha256 ssl keys.signingKey
        (frame.take symmetricHeaderSize ++ payload))

theorem sealedFrame_sealSymmetric (hinverts : CipherInverts ssl)
    {keys : DerivedKeys} {messageType : MessageType}
    {channelId tokenId : UInt32} {sequence : SequenceHeader}
    {body frame : ByteString}
    (h : sealSymmetric ssl keys messageType channelId tokenId sequence body =
      some frame) : SealedFrame ssl keys frame := by
  obtain ⟨count, size, signature, ciphertext, hcount, hsize, hsignature, hcipher,
    rfl⟩ := sealSymmetric_spec h
  obtain ⟨hlength, hdecrypt⟩ := hinverts.aesCbcDecrypt hcipher
  have hheader := length_symmetricHeader messageType channelId tokenId
    (16 + ciphertext.length)
  have hsizes : 16 + ciphertext.length = size := by
    rw [hlength, hsize, hsignature]
    simp only [List.length_append, length_encodeSequenceHeader, length_padding,
      length_hmacSha256, hmacSha256TagSize]
  constructor
  · rw [List.length_append, hheader, symmetricHeader, List.append_assoc]
    exact uint32At_encodeFrameHeader _ _
  · simp [symmetricHeaderSize]
  · rw [symmetricHeaderSize, List.drop_left' hheader, hlength]
    unfold aesCbcEncrypt at hcipher
    split at hcipher
    next => exact absurd hcipher (by simp)
    next hwhole =>
      simp only [ne_eq, not_or, not_not] at hwhole
      exact hwhole.2.2
  · refine ⟨encodeSequenceHeader sequence ++ body ++ padding count, ?_⟩
    rw [symmetricHeaderSize, List.drop_left' hheader, List.take_left' hheader,
      hdecrypt, hsizes, ← hsignature]

/-! ## Both directions -/

/-- A frame which is read as the message it was built from. -/
structure ClientFrameRoundTrips (s : SecureChannel ssl) (requestId : UInt32)
    (body frame : ByteString) : Prop where
  handled : s.handleSecureMessage frame false =
    (s, { servicePayload := some body, requestId := some requestId })
  sealed : SealedFrame ssl s.inboundKeys frame

structure ServerFrameRoundTrips (c : ClientSecureChannel ssl)
    (requestId : UInt32) (body frame : ByteString) : Prop where
  decoded : c.decodeServiceMessageChunk frame = some { requestId, body }
  sealed : SealedFrame ssl c.serverKeys frame

/-- Between a client and a server with the same ids and keys, every message
which can be built is read as it was written, and with keys of the right sizes
every message can be built. -/
theorem symmetric_frames_round_trip (hinverts : CipherInverts ssl)
    {c : ClientSecureChannel ssl} {s : SecureChannel ssl}
    (hopened : s.opened = true) (hactive : s.basic256Active = true)
    (hsecured : c.usesSignAndEncrypt = true)
    (hchannel : c.channelId = s.channelId) (htoken : c.tokenId = s.tokenId)
    (hrequests : c.clientKeys = s.inboundKeys)
    (hresponses : c.serverKeys = s.outboundKeys) (requestId : UInt32)
    (body : ByteString) :
    (∀ frame, c.symmetricFrame .secureMessage requestId body = some frame →
        ClientFrameRoundTrips s requestId body frame) ∧
      (∀ frame, (s.buildServiceResponse requestId body).2 = frame →
        frame ≠ [] → ServerFrameRoundTrips c requestId body frame) ∧
      (CipherEncrypts ssl → s.inboundKeys.Sized → s.outboundKeys.Sized →
        (∃ frame, c.symmetricFrame .secureMessage requestId body =
            some frame) ∧
          (s.buildServiceResponse requestId body).2 ≠ []) := by
  refine ⟨fun frame hframe => ?_, fun frame hframe hsome => ?_,
    fun hencrypts hinbound houtbound => ⟨?_, ?_⟩⟩
  · have hseal : sealSymmetric ssl s.inboundKeys .secureMessage s.channelId
        s.tokenId { sequenceNumber := c.nextSequenceNumber, requestId } body =
          some frame := by
      rw [← hchannel, ← htoken, ← hrequests]
      exact hframe
    refine ⟨?_, sealedFrame_sealSymmetric hinverts hseal⟩
    simp [SecureChannel.handleSecureMessage, hopened, hactive,
      SecureChannel.handleSymmetricMessage,
      openSymmetric_sealSymmetric hinverts hseal]
  · simp only [SecureChannel.buildServiceResponse, hactive, if_true] at hframe
    cases hseal : sealSymmetric ssl s.outboundKeys .secureMessage s.channelId
        s.tokenId { sequenceNumber := s.nextSequenceNumber, requestId } body with
    | none =>
        rw [hseal] at hframe
        exact absurd hframe.symm hsome
    | some built =>
        rw [hseal] at hframe
        obtain rfl : built = frame := hframe
        rw [← hchannel, ← htoken, ← hresponses] at hseal
        refine ⟨?_, sealedFrame_sealSymmetric hinverts hseal⟩
        rw [ClientSecureChannel.decodeServiceMessageChunk, if_pos hsecured,
          openSymmetric_sealSymmetric hinverts hseal]
        rfl
  · exact exists_sealSymmetric hencrypts (hrequests ▸ hinbound) _ _ _ _ _
  · obtain ⟨frame, hseal⟩ := exists_sealSymmetric hencrypts houtbound
      .secureMessage s.channelId s.tokenId
      { sequenceNumber := s.nextSequenceNumber, requestId } body
    simp only [SecureChannel.buildServiceResponse, hactive, if_true, hseal,
      Option.getD_some]
    rintro rfl
    exact absurd (sealedFrame_sealSymmetric hinverts hseal).header (by decide)

def sampleKeys : DerivedKeys :=
  { encryptingKey := List.replicate 32 1
    initializationVector := List.replicate 16 2 }

def keyedServer : SecureChannel sampleSsl :=
  { opened := true
    basic256Active := true
    inboundKeys := sampleKeys
    outboundKeys := sampleKeys }

def keyedClient : ClientSecureChannel sampleSsl :=
  { security := (sampleClient 9).security
    channelId := 1
    tokenId := 1
    clientKeys := sampleKeys
    serverKeys := sampleKeys }

/-- A body which ends as padding does. -/
theorem padded_looking_body_round_trips :
    ∃ frame, keyedClient.symmetricFrame .secureMessage 7 [3, 1, 1] =
        some frame ∧
      ClientFrameRoundTrips keyedServer 7 [3, 1, 1] frame := by
  obtain ⟨hclient, -, hbuilt⟩ := symmetric_frames_round_trip
    sampleSsl_cipherInverts (c := keyedClient) (s := keyedServer) rfl rfl
    (by decide) rfl rfl rfl rfl 7 [3, 1, 1]
  obtain ⟨⟨frame, hframe⟩, -⟩ :=
    hbuilt (fun _ _ _ _ _ _ => rfl) ⟨rfl, rfl⟩ ⟨rfl, rfl⟩
  exact ⟨frame, hframe, hclient frame hframe⟩

end Binary
end OpcuaStack
