import OpcuaStack.BufferAccess
import OpcuaStack.ByteReader
import OpcuaStack.SessionManagerTransitions

/-!
# The password in an encrypted token

`RecoverEncryptedPassword` of `server_session_manager.cpp`, with every index and
every subtraction of sizes checked.  The plaintext is what a client has chosen:
its length field is compared with two sizes before anything is subtracted from
it, so the program commits no fault, and what it accepts is one format.
-/

namespace OpcuaStack

/-- The length field, least significant byte first. -/
def lengthField (b0 b1 b2 b3 : UInt8) : ℕ :=
  b0.toNat + b1.toNat * 2 ^ 8 + b2.toNat * 2 ^ 16 + b3.toNat * 2 ^ 24

/-- `RecoverEncryptedPassword` from the length field on. -/
def readSecret (plaintext serverNonce : ByteString) (length : ℕ) :
    Access ByteText := do
  let available ← Access.difference plaintext.length 4
  Access.require (length ≤ available)
  Access.require (serverNonce.length ≤ length)
  let passwordLength ← Access.difference length serverNonce.length
  let trailing ← Access.between plaintext (4 + passwordLength)
    (4 + passwordLength + serverNonce.length)
  Access.require (trailing = serverNonce)
  Access.between plaintext 4 (4 + passwordLength)

/-- `RecoverEncryptedPassword` from the plaintext on. -/
def recoverSecret (plaintext serverNonce : ByteString) : Access ByteText := do
  Access.require (4 ≤ plaintext.length)
  let b0 ← Access.itemAt plaintext 0
  let b1 ← Access.itemAt plaintext 1
  let b2 ← Access.itemAt plaintext 2
  let b3 ← Access.itemAt plaintext 3
  readSecret plaintext serverNonce (lengthField b0 b1 b2 b3)

/-- The secret of the format: the length of the password and the nonce, the
password, and the nonce. -/
def encryptedSecret (password serverNonce : ByteString) : ByteString :=
  littleEndian 4 (password.length + serverNonce.length) ++ password ++ serverNonce

section Recovery

variable {b0 b1 b2 b3 : UInt8} {secret serverNonce : ByteString}

theorem lengthField_eq : lengthField b0 b1 b2 b3 =
    ofLittleEndian [b0, b1, b2, b3] := by
  simp only [lengthField, ofLittleEndian]
  omega

theorem littleEndian_lengthField :
    littleEndian 4 (lengthField b0 b1 b2 b3) = [b0, b1, b2, b3] := by
  rw [lengthField_eq]
  exact littleEndian_ofLittleEndian [b0, b1, b2, b3]

theorem lengthField_lt : lengthField b0 b1 b2 b3 < 2 ^ 32 := by
  have hlt := ofLittleEndian_lt [b0, b1, b2, b3]
  rw [lengthField_eq]
  simpa using hlt

theorem lengthField_of_littleEndian {length : ℕ} (hlength : length < 2 ^ 32)
    (h : littleEndian 4 length = [b0, b1, b2, b3]) :
    lengthField b0 b1 b2 b3 = length := by
  rw [lengthField_eq, ← h]
  exact ofLittleEndian_littleEndian_of_lt (by simpa using hlength)

theorem recoverSecret_short {plaintext : ByteString}
    (h : plaintext.length < 4) : recoverSecret plaintext serverNonce = .refused := by
  have hrequire : Access.require (4 ≤ plaintext.length) = .refused :=
    if_neg (by omega)
  rw [recoverSecret, hrequire]
  rfl

theorem readSecret_cons (length : ℕ) :
    readSecret (b0 :: b1 :: b2 :: b3 :: secret) serverNonce length =
      if (length ≤ secret.length ∧ serverNonce.length ≤ length) ∧
          (secret.drop (length - serverNonce.length)).take serverNonce.length =
            serverNonce then
        .value (secret.take (length - serverNonce.length))
      else .refused := by
  have hsize : (b0 :: b1 :: b2 :: b3 :: secret).length = secret.length + 4 := rfl
  have havailable : Access.difference
      (b0 :: b1 :: b2 :: b3 :: secret).length 4 = .value secret.length := by
    rw [Access.difference_of_le (by omega), hsize, Nat.add_sub_cancel]
  unfold readSecret
  simp only [havailable, Access.value_bind]
  by_cases hfits : length ≤ secret.length ∧ serverNonce.length ≤ length
  case neg =>
    rw [if_neg fun h => hfits h.1]
    by_cases hlong : length ≤ secret.length
    · have hnonce : ¬serverNonce.length ≤ length := fun h => hfits ⟨hlong, h⟩
      simp [Access.require, hlong, hnonce]
    · simp [Access.require, hlong]
  case pos =>
    obtain ⟨hlong, hnonce⟩ := hfits
    have htrailing : Access.between (b0 :: b1 :: b2 :: b3 :: secret)
        (4 + (length - serverNonce.length))
        (4 + (length - serverNonce.length) + serverNonce.length) =
          .value ((secret.drop (length - serverNonce.length)).take
            serverNonce.length) := by
      rw [Access.between_of_le (by omega) (by omega), List.drop_take,
        Nat.add_sub_cancel_left, Nat.add_comm 4]
      rfl
    have hpassword : Access.between (b0 :: b1 :: b2 :: b3 :: secret) 4
        (4 + (length - serverNonce.length)) =
          .value (secret.take (length - serverNonce.length)) := by
      rw [Access.between_of_le (by omega) (by omega), List.drop_take,
        Nat.add_sub_cancel_left]
      rfl
    rw [Access.difference_of_le hnonce]
    simp only [Access.value_bind, htrailing, hpassword]
    by_cases hsame : (secret.drop (length - serverNonce.length)).take
        serverNonce.length = serverNonce
    · simp [Access.require, hlong, hnonce, hsame]
    · simp [Access.require, hlong, hnonce, hsame]

theorem recoverSecret_cons :
    recoverSecret (b0 :: b1 :: b2 :: b3 :: secret) serverNonce =
      readSecret (b0 :: b1 :: b2 :: b3 :: secret) serverNonce
        (lengthField b0 b1 b2 b3) := by
  have hrequired : Access.require
      (4 ≤ (b0 :: b1 :: b2 :: b3 :: secret).length) = .value () :=
    if_pos (by simp)
  have h0 : Access.itemAt (b0 :: b1 :: b2 :: b3 :: secret) 0 = .value b0 := rfl
  have h1 : Access.itemAt (b0 :: b1 :: b2 :: b3 :: secret) 1 = .value b1 := rfl
  have h2 : Access.itemAt (b0 :: b1 :: b2 :: b3 :: secret) 2 = .value b2 := rfl
  have h3 : Access.itemAt (b0 :: b1 :: b2 :: b3 :: secret) 3 = .value b3 := rfl
  rw [recoverSecret, hrequired, Access.value_bind, h0, Access.value_bind, h1,
    Access.value_bind, h2, Access.value_bind, h3, Access.value_bind]

theorem exists_eq_cons_of_four_le {plaintext : ByteString}
    (h : 4 ≤ plaintext.length) :
    ∃ b0 b1 b2 b3 secret, plaintext = b0 :: b1 :: b2 :: b3 :: secret := by
  match plaintext, h with
  | b0 :: b1 :: b2 :: b3 :: secret, _ => exact ⟨b0, b1, b2, b3, secret, rfl⟩

theorem recoverSecret_ne_fault (plaintext serverNonce : ByteString) :
    recoverSecret plaintext serverNonce ≠ .fault := by
  by_cases hshort : plaintext.length < 4
  · rw [recoverSecret_short hshort]
    simp
  · obtain ⟨b0, b1, b2, b3, secret, rfl⟩ :=
      exists_eq_cons_of_four_le (Nat.le_of_not_lt hshort)
    rw [recoverSecret_cons, readSecret_cons]
    split <;> simp

theorem eq_encryptedSecret_of_readSecret {length : ℕ} {password : ByteText}
    (hfield : length < 2 ^ 32) (hencoded : littleEndian 4 length = [b0, b1, b2, b3])
    (h : readSecret (b0 :: b1 :: b2 :: b3 :: secret) serverNonce length =
      .value password) :
    password.length + serverNonce.length < 2 ^ 32 ∧
      ∃ rest, b0 :: b1 :: b2 :: b3 :: secret =
        encryptedSecret password serverNonce ++ rest := by
  rw [readSecret_cons] at h
  split at h
  next haccepted =>
    obtain ⟨⟨hlong, hnonce⟩, hsame⟩ := haccepted
    obtain rfl := Access.value.inj h
    have hpassword : (secret.take (length - serverNonce.length)).length +
        serverNonce.length = length := by
      rw [List.length_take]
      omega
    refine ⟨by omega,
      (secret.drop (length - serverNonce.length)).drop serverNonce.length, ?_⟩
    have hsecret : secret = secret.take (length - serverNonce.length) ++
        (serverNonce ++
          (secret.drop (length - serverNonce.length)).drop
            serverNonce.length) := by
      nth_rewrite 1 [← List.take_append_drop (length - serverNonce.length) secret]
      congr 1
      nth_rewrite 1 [← List.take_append_drop serverNonce.length
        (secret.drop (length - serverNonce.length))]
      rw [hsame]
    rw [encryptedSecret, hpassword, hencoded]
    simp only [List.append_assoc, List.cons_append, List.nil_append]
    rw [← hsecret]
  next => exact absurd h (by simp)

/-- What is accepted is a secret of the format, and its password comes back. -/
theorem eq_encryptedSecret_of_recoverSecret {plaintext : ByteString}
    {password : ByteText}
    (h : recoverSecret plaintext serverNonce = .value password) :
    password.length + serverNonce.length < 2 ^ 32 ∧
      ∃ rest, plaintext = encryptedSecret password serverNonce ++ rest := by
  have hfour : 4 ≤ plaintext.length := by
    by_contra hshort
    rw [recoverSecret_short (by omega)] at h
    exact absurd h (by simp)
  obtain ⟨b0, b1, b2, b3, secret, rfl⟩ := exists_eq_cons_of_four_le hfour
  rw [recoverSecret_cons] at h
  exact eq_encryptedSecret_of_readSecret lengthField_lt littleEndian_lengthField h

theorem recoverSecret_encryptedSecret {password : ByteText}
    (hlength : password.length + serverNonce.length < 2 ^ 32)
    (rest : ByteString) :
    recoverSecret (encryptedSecret password serverNonce ++ rest) serverNonce =
      .value password := by
  obtain ⟨b0, b1, b2, b3, tail, hfield⟩ :=
    exists_eq_cons_of_four_le
      (length_littleEndian 4 (password.length + serverNonce.length)).ge
  have htail : tail = [] := by
    have hcount := length_littleEndian 4 (password.length + serverNonce.length)
    rw [hfield] at hcount
    exact List.length_eq_zero_iff.mp (by simpa using hcount)
  subst htail
  rw [encryptedSecret, hfield]
  simp only [List.cons_append, List.nil_append, List.append_assoc]
  rw [recoverSecret_cons, lengthField_of_littleEndian hlength hfield,
    readSecret_cons, Nat.add_sub_cancel, List.length_append, List.length_append]
  rw [if_pos]
  · rw [List.take_left]
  · refine ⟨⟨by omega, by omega⟩, ?_⟩
    rw [List.drop_left, List.take_left]

theorem recoverSecret_eq_value_iff {plaintext : ByteString}
    {password : ByteText} :
    recoverSecret plaintext serverNonce = .value password ↔
      password.length + serverNonce.length < 2 ^ 32 ∧
        ∃ rest, plaintext = encryptedSecret password serverNonce ++ rest := by
  constructor
  · exact eq_encryptedSecret_of_recoverSecret
  · rintro ⟨hlength, rest, rfl⟩
    exact recoverSecret_encryptedSecret hlength rest

end Recovery

namespace ServerSessionManager

variable (m : ServerSessionManager)

/-- The plaintext of an encrypted token, if the manager can decrypt it. -/
def decryptedToken (ciphertext : ByteString) : Option ByteString :=
  match m.context.decryptUserToken with
  | none => none
  | some decrypt =>
      match decrypt ciphertext with
      | .error _ _ => none
      | .ok plaintext => some plaintext

theorem recoverEncryptedPassword_eq (ciphertext serverNonce : ByteString) :
    m.recoverEncryptedPassword ciphertext serverNonce =
      (m.decryptedToken ciphertext).bind fun plaintext =>
        (recoverSecret plaintext serverNonce).toOption := by
  unfold recoverEncryptedPassword decryptedToken
  cases m.context.decryptUserToken with
  | none => rfl
  | some decrypt =>
      dsimp only
      cases decrypt ciphertext with
      | error status _ => rfl
      | ok plaintext =>
          dsimp only [Option.bind_some]
          by_cases hshort : plaintext.length < 4
          · rw [recoverSecret_short hshort]
            match plaintext, hshort with
            | [], _ => rfl
            | [_], _ => rfl
            | [_, _], _ => rfl
            | [_, _, _], _ => rfl
          · obtain ⟨b0, b1, b2, b3, secret, rfl⟩ :=
              exists_eq_cons_of_four_le (Nat.le_of_not_lt hshort)
            rw [recoverSecret_cons, readSecret_cons, lengthField]
            dsimp only
            generalize b0.toNat + b1.toNat * 2 ^ 8 + b2.toNat * 2 ^ 16 +
              b3.toNat * 2 ^ 24 = length
            by_cases hbad : secret.length < length ∨
                length < serverNonce.length
            · rw [if_pos hbad, if_neg (by omega)]
              rfl
            · rw [if_neg hbad]
              by_cases hsame : (secret.drop (length - serverNonce.length)).take
                  serverNonce.length = serverNonce
              · rw [if_pos hsame, if_pos ⟨by omega, hsame⟩]
                rfl
              · rw [if_neg hsame, if_neg fun h => hsame h.2]
                rfl

theorem beginActivation_of_not_recovered {request : ActivateSessionRequest}
    {now : DateTime} {session : SessionState}
    (hlookup : m.sessions.lookup request.authenticationToken = some session)
    (hfresh : session.activated = false)
    (hanonymous : request.allowAnonymous = false)
    (hencrypted : request.passwordEncryptionAlgorithm ≠ [])
    (hfails : m.recoverEncryptedPassword request.encryptedPassword
      session.serverNonce = none) :
    (m.beginActivation request now).manager = m ∧
      ∃ response, (m.beginActivation request now).result = .answered response ∧
        response.status.isBad = true := by
  have halgorithm : request.passwordEncryptionAlgorithm.isEmpty = false := by
    simpa using hencrypted
  unfold beginActivation
  simp only [hlookup]
  cases hsigned : m.signatureAccepted session request with
  | false => exact ⟨rfl, _, rfl, rfl⟩
  | true =>
      simp only [hfresh, hanonymous, requestAuthentication, halgorithm, hfails,
        Bool.and_false, Bool.not_true, Bool.false_eq_true, if_false]
      exact ⟨rfl, _, rfl, rfl⟩

/-- The plaintext of a token gives a password if and only if it is a secret of
the format with that password and the nonce of the session, whatever follows
it; no access leaves the plaintext; and a session whose password is not
recovered stays unactivated. -/
theorem password_recovered_iff :
    (∀ plaintext serverNonce : ByteString,
      recoverSecret plaintext serverNonce ≠ .fault ∧
        ∀ password, recoverSecret plaintext serverNonce = .value password ↔
          password.length + serverNonce.length < 2 ^ 32 ∧
            ∃ rest, plaintext =
              littleEndian 4 (password.length + serverNonce.length) ++
                password ++ serverNonce ++ rest) ∧
      (∀ (ciphertext serverNonce : ByteString) (password : ByteText),
        m.recoverEncryptedPassword ciphertext serverNonce = some password ↔
          ∃ plaintext, m.decryptedToken ciphertext = some plaintext ∧
            recoverSecret plaintext serverNonce = .value password) ∧
      ∀ (request : ActivateSessionRequest) (pruneTime now : DateTime)
        (session : SessionState),
        (m.pruneExpiredSessions pruneTime).manager.sessions.lookup
            request.authenticationToken = some session →
          session.activated = false → request.allowAnonymous = false →
          request.passwordEncryptionAlgorithm ≠ [] →
          m.recoverEncryptedPassword request.encryptedPassword
            session.serverNonce = none →
          (m.activateSession request pruneTime now).manager =
              (m.pruneExpiredSessions pruneTime).manager ∧
            (m.activateSession request pruneTime now).manager.sessions.lookup
              request.authenticationToken = some session ∧
            ∃ response,
              (m.activateSession request pruneTime now).result =
                .answered response ∧
              response.status.isBad = true := by
  refine ⟨fun plaintext serverNonce =>
    ⟨recoverSecret_ne_fault plaintext serverNonce, fun password =>
      recoverSecret_eq_value_iff⟩, fun ciphertext serverNonce password => ?_,
    fun request pruneTime now session hlookup hfresh hanonymous hencrypted
      hfails => ?_⟩
  · rw [recoverEncryptedPassword_eq]
    simp [Option.bind_eq_some_iff]
  · obtain ⟨hmanager, hanswered⟩ := beginActivation_of_not_recovered
      (m.pruneExpiredSessions pruneTime).manager hlookup hfresh
      hanonymous hencrypted hfails
    have hsame : (m.activateSession request pruneTime now).manager =
        (m.pruneExpiredSessions pruneTime).manager := hmanager
    exact ⟨hsame, by rw [hsame]; exact hlookup, hanswered⟩

/-- A password of two bytes under a nonce of one, with a byte after it. -/
example : recoverSecret [3, 0, 0, 0, 65, 66, 9, 7] [9] = .value [65, 66] := by
  decide

end ServerSessionManager
end OpcuaStack
