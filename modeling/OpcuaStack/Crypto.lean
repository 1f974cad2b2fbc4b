import OpcuaStack.Blockwise
import OpcuaStack.BuiltInTypes

/-!
# Cryptography

`crypto.cpp` over the functions of OpenSSL which it calls.  Those are a
parameter; a handle is the value it stands for, and an encryption draws its
seed from the generator.  The only failure of the functions below is
`BadCrypto`.
-/

namespace OpcuaStack
namespace Binary

structure OpenSsl where
  X509 : Type
  EvpPkey : Type
  d2iX509 : ByteString → Option X509
  /-- The length of the result is an `int`. -/
  i2dX509 : X509 → Option { der : ByteString // der.length < 2 ^ 31 }
  sha1 : ByteString → Vector UInt8 20
  x509GetPubkey : X509 → Option EvpPkey
  evpPkeyGetSize : EvpPkey → ℕ
  evpPkeyEncrypt : ByteString → EvpPkey → ByteString → Option ByteString
  evpPkeyDecrypt : EvpPkey → ByteString → Option ByteString
  evpDigestSign : EvpPkey → ByteString → Option ByteString
  evpDigestVerify : EvpPkey → ByteString → ByteString → Bool
  hmac : ByteString → ByteString → Vector UInt8 32
  aesEncrypt : ByteString → ByteString → ByteString → Option ByteString
  aesDecrypt : ByteString → ByteString → ByteString → Option ByteString

/-- `crypto::Certificate`; the empty one has no handle. -/
abbrev Certificate (ssl : OpenSsl) := Option ssl.X509

/-- `crypto::PrivateKey`, which also holds public keys. -/
abbrev PrivateKey (ssl : OpenSsl) := Option ssl.EvpPkey

structure DerivedKeys where
  signingKey : ByteString := []
  encryptingKey : ByteString := []
  initializationVector : ByteString := []
deriving DecidableEq

def rsaOaepSha1Overhead : ℕ := 42
def hmacSha256TagSize : ℕ := 32
def aesBlockSize : ℕ := 16

variable {ssl : OpenSsl}

namespace PrivateKey

def keySizeBytes (key : PrivateKey ssl) : ℕ :=
  match key with
  | none => 0
  | some handle => ssl.evpPkeyGetSize handle

end PrivateKey

/-! ## Certificates -/

def loadDerCertificate (ssl : OpenSsl) (der : ByteString) :
    Option (Certificate ssl) :=
  if der.isEmpty then none else (ssl.d2iX509 der).map some

def certificateDer (certificate : Certificate ssl) : Option ByteString := do
  let handle ← certificate
  let der ← ssl.i2dX509 handle
  if der.val.isEmpty then none else return der.val

def certificateThumbprint (certificate : Certificate ssl) : Option ByteString :=
  (certificateDer certificate).map fun der => (ssl.sha1 der).toList

def certificatePublicKey (certificate : Certificate ssl) :
    Option (PrivateKey ssl) := do
  let handle ← certificate
  let key ← ssl.x509GetPubkey handle
  return some key

/-! ## RSA -/

/-- `RsaOaepEncrypt`; the seeds are what the generator gives for each block. -/
def rsaOaepEncrypt (seeds : ℕ → ByteString) (publicKey : PrivateKey ssl)
    (plaintext : ByteString) : Option ByteString := do
  let handle ← publicKey
  let keyBytes := ssl.evpPkeyGetSize handle
  if keyBytes ≤ rsaOaepSha1Overhead then
    none
  else
    blockwise (fun index => ssl.evpPkeyEncrypt (seeds index) handle)
      (keyBytes - rsaOaepSha1Overhead) plaintext

def rsaOaepDecrypt (privateKey : PrivateKey ssl) (ciphertext : ByteString) :
    Option ByteString := do
  let handle ← privateKey
  let keyBytes := ssl.evpPkeyGetSize handle
  if keyBytes = 0 ∨ ciphertext.length % keyBytes ≠ 0 then
    none
  else
    blockwise (fun _ => ssl.evpPkeyDecrypt handle) keyBytes ciphertext

def rsaPkcs1Sha256Sign (privateKey : PrivateKey ssl) (data : ByteString) :
    Option ByteString :=
  privateKey.bind fun handle => ssl.evpDigestSign handle data

def rsaPkcs1Sha256Verify (publicKey : PrivateKey ssl)
    (data signature : ByteString) : Bool :=
  match publicKey with
  | none => false
  | some handle => ssl.evpDigestVerify handle data signature

/-! ## Symmetric primitives -/

def hmacSha256 (ssl : OpenSsl) (key data : ByteString) : ByteString :=
  (ssl.hmac key data).toList

def aesCbcEncrypt (ssl : OpenSsl) (key iv plaintext : ByteString) :
    Option ByteString :=
  if key.length ≠ 32 ∨ iv.length ≠ aesBlockSize ∨
      plaintext.length % aesBlockSize ≠ 0 then
    none
  else
    ssl.aesEncrypt key iv plaintext

def aesCbcDecrypt (ssl : OpenSsl) (key iv ciphertext : ByteString) :
    Option ByteString :=
  if key.length ≠ 32 ∨ iv.length ≠ aesBlockSize ∨
      ciphertext.length % aesBlockSize ≠ 0 then
    none
  else
    ssl.aesDecrypt key iv ciphertext

/-- The loop of `PSha256`.  Every round appends at least one byte, so the
length of the output bounds the rounds. -/
def pSha256Loop (ssl : OpenSsl) (secret seed : ByteString) (outLength : ℕ) :
    ℕ → ByteString → ByteString → ByteString
  | 0, _, out => out
  | rounds + 1, a, out =>
      if out.length < outLength then
        let next := hmacSha256 ssl secret a
        let block := hmacSha256 ssl secret (next ++ seed)
        pSha256Loop ssl secret seed outLength rounds next
          (out ++ block.take (min block.length (outLength - out.length)))
      else
        out

def pSha256 (ssl : OpenSsl) (secret seed : ByteString) (outLength : ℕ) :
    ByteString :=
  pSha256Loop ssl secret seed outLength outLength seed []

def deriveBasic256Sha256Keys (ssl : OpenSsl) (secret seed : ByteString) :
    DerivedKeys :=
  let material := pSha256 ssl secret seed (32 + 32 + 16)
  { signingKey := material.take 32
    encryptingKey := (material.drop 32).take 32
    initializationVector := (material.drop (32 + 32)).take 16 }

theorem length_hmacSha256 (ssl : OpenSsl) (key data : ByteString) :
    (hmacSha256 ssl key data).length = hmacSha256TagSize := by
  simp [hmacSha256, hmacSha256TagSize]

/-! ## What OpenSSL promises -/

/-- The two halves of an RSA key: decryption inverts encryption, signatures have
the size of the modulus and verify. -/
structure KeyPair (ssl : OpenSsl) (publicKey privateKey : ssl.EvpPkey) :
    Prop where
  size : ssl.evpPkeyGetSize publicKey = ssl.evpPkeyGetSize privateKey
  decrypt : ∀ {seed block result},
    ssl.evpPkeyEncrypt seed publicKey block = some result →
      result.length = ssl.evpPkeyGetSize publicKey ∧
        ssl.evpPkeyDecrypt privateKey result = some block
  sign : ∀ {data signature},
    ssl.evpDigestSign privateKey data = some signature →
      signature.length = ssl.evpPkeyGetSize publicKey ∧
        ssl.evpDigestVerify publicKey data signature = true

theorem KeyPair.rsaOaepDecrypt {publicKey privateKey : ssl.EvpPkey}
    (h : KeyPair ssl publicKey privateKey) {seeds : ℕ → ByteString}
    {plaintext ciphertext : ByteString}
    (hencrypt : rsaOaepEncrypt seeds (some publicKey : PrivateKey ssl) plaintext =
      some ciphertext) :
    Binary.rsaOaepDecrypt (some privateKey : PrivateKey ssl) ciphertext =
      some plaintext := by
  have hundoes : UndoesBlocks
      (fun index => ssl.evpPkeyEncrypt (seeds index) publicKey)
      (fun _ => ssl.evpPkeyDecrypt privateKey)
      (ssl.evpPkeyGetSize publicKey) :=
    ⟨fun hblock => (h.decrypt hblock).1, fun hblock => (h.decrypt hblock).2⟩
  simp only [rsaOaepEncrypt, Option.bind_eq_bind, Option.bind_some] at hencrypt
  split at hencrypt
  next => exact absurd hencrypt (by simp)
  next hsize =>
    have hpos : 0 < ssl.evpPkeyGetSize publicKey := by
      simp only [rsaOaepSha1Overhead] at hsize
      omega
    have hmod : ciphertext.length % ssl.evpPkeyGetSize publicKey = 0 :=
      Nat.mod_eq_zero_of_dvd (hundoes.dvd_length hencrypt)
    simp only [Binary.rsaOaepDecrypt, Option.bind_eq_bind, Option.bind_some]
    rw [← h.size, if_neg (by omega)]
    exact hundoes.blockwise hpos hencrypt

/-- AES-256-CBC without padding: decryption inverts encryption, and the length
stays. -/
structure CipherInverts (ssl : OpenSsl) : Prop where
  length : ∀ {key iv plaintext ciphertext},
    ssl.aesEncrypt key iv plaintext = some ciphertext →
      ciphertext.length = plaintext.length
  decrypt : ∀ {key iv plaintext ciphertext},
    ssl.aesEncrypt key iv plaintext = some ciphertext →
      ssl.aesDecrypt key iv ciphertext = some plaintext

theorem CipherInverts.aesCbcDecrypt (h : CipherInverts ssl)
    {key iv plaintext ciphertext : ByteString}
    (hencrypt : aesCbcEncrypt ssl key iv plaintext = some ciphertext) :
    ciphertext.length = plaintext.length ∧
      Binary.aesCbcDecrypt ssl key iv ciphertext = some plaintext := by
  unfold aesCbcEncrypt at hencrypt
  split at hencrypt
  next => exact absurd hencrypt (by simp)
  next hsizes =>
    have hlength := h.length hencrypt
    refine ⟨hlength, ?_⟩
    rw [Binary.aesCbcDecrypt, hlength, if_neg hsizes, h.decrypt hencrypt]

/-! ## A small instance -/

def checksum (bytes : ByteString) : UInt8 :=
  bytes.foldl (fun sum byte => 31 * sum + byte + 1) 0

/-- Keys and certificates are named by a byte, an encrypted block carries the
name of its key and its length, and tags are checksums. -/
def sampleSsl : OpenSsl where
  X509 := UInt8
  EvpPkey := UInt8
  d2iX509
    | [0x30, name] => some name
    | _ => none
  i2dX509 name := some ⟨[0x30, name], by simp⟩
  sha1 der := Vector.replicate 20 (checksum der)
  x509GetPubkey name := some name
  evpPkeyGetSize _ := 64
  evpPkeyEncrypt _ key block :=
    if block.length ≤ 22 then
      some (key :: UInt8.ofNat block.length ::
        (block ++ List.replicate (62 - block.length) 0))
    else
      none
  evpPkeyDecrypt
    | key, owner :: size :: rest =>
        if owner = key then some (rest.take size.toNat) else none
    | _, _ => none
  evpDigestSign key data := some (key :: List.replicate 63 (checksum data))
  evpDigestVerify key data signature :=
    decide (signature = key :: List.replicate 63 (checksum data))
  hmac key data := Vector.replicate 32 (checksum key + checksum data)
  aesEncrypt _ _ plaintext := some plaintext
  aesDecrypt _ _ ciphertext := some ciphertext

theorem sampleSsl_keyPair (key : UInt8) : KeyPair sampleSsl key key where
  size := rfl
  decrypt {seed block result} hencrypt := by
    change (if block.length ≤ 22 then
      some (key :: UInt8.ofNat block.length ::
        (block ++ List.replicate (62 - block.length) 0))
      else none) = some result at hencrypt
    split at hencrypt
    next hle =>
      obtain rfl := Option.some.inj hencrypt
      have hsize : (UInt8.ofNat block.length).toNat = block.length :=
        UInt8.toNat_ofNat_of_lt' (show block.length < 256 by omega)
      refine ⟨?_, ?_⟩
      · simp only [List.length_cons, List.length_append, List.length_replicate]
        change _ = 64
        omega
      · change (if key = key then some (List.take _ _) else none) = some block
        rw [if_pos rfl, hsize, List.take_left]
    next => exact absurd hencrypt (by simp)
  sign {data signature} hsign := by
    obtain rfl := Option.some.inj hsign
    exact ⟨rfl, decide_eq_true rfl⟩

theorem sampleSsl_cipherInverts : CipherInverts sampleSsl where
  length {_ _ _ _} hencrypt := by rw [Option.some.inj hencrypt]
  decrypt {_ _ _ _} hencrypt := by rw [Option.some.inj hencrypt]; rfl

end Binary
end OpcuaStack
