import OpcuaStack.ClientSecureChannel
import OpcuaStack.GuardedRun

/-!
# Channel binding

Which checks a frame has to pass is decided by the policy it names, not by the
state the channel is in.  A call is bound to a certificate if it leaves the
security of the channel alone, asks to close the transport, or was
authenticated by the owner of the certificate.  Two kinds of OPN frames are the
only ones which are not bound.
-/

namespace OpcuaStack
namespace Binary

variable {ssl : OpenSsl}

/-- The public key of a certificate given by its DER encoding. -/
def derPublicKey (ssl : OpenSsl) (der : ByteString) :
    Option (PrivateKey ssl) :=
  (loadDerCertificate ssl der).bind certificatePublicKey

namespace SecureChannel

/-- What a frame needs authentication to change. -/
structure SameSecurity (s t : SecureChannel ssl) : Prop where
  tokenId : t.tokenId = s.tokenId
  inboundKeys : t.inboundKeys = s.inboundKeys
  outboundKeys : t.outboundKeys = s.outboundKeys
  clientCertificateDer : t.clientCertificateDer = s.clientCertificateDer
  opened : t.opened = s.opened

/-- A Basic256Sha256 OPN whose signature verifies under the public key of the
certificate. -/
def openVerifies (s : SecureChannel ssl) (certificate frame : ByteString) :
    Bool :=
  decide (frameType frame = some .secureOpen) &&
    decide (peekPolicyUri frame = some securityPolicyBasic256Sha256) &&
      ((do
        let config ← s.config
        let (_, _, headerEnd) ← decodeOpenPrefix frame
        let plaintext ← rsaOaepDecrypt config.privateKey (frame.drop headerEnd)
        let publicKey ← derPublicKey ssl certificate
        return asymmetricVerifies publicKey frame headerEnd plaintext) ==
          some true)

/-- A CLO whose HMAC verifies under the inbound keys. -/
def closeVerifies (s : SecureChannel ssl) (frame : ByteString) : Bool :=
  decide (frameType frame = some .secureClose) &&
    (symmetricPlaintext ssl s.inboundKeys frame).isSome

/-- The call of `HandleFrame` is bound to the certificate. -/
def CallBound (certificate : ByteString) (s : SecureChannel ssl)
    (call : Surroundings × ByteString) : Prop :=
  s.SameSecurity (s.handleFrame call.1 call.2).1 ∨
    (s.handleFrame call.1 call.2).2.closeTransport = true ∨
      s.openVerifies certificate call.2 = true ∨
        s.closeVerifies call.2 = true

/-- An OPN without security which the channel accepts, and which moves the
token or opens the channel. -/
def PlainTakeover (s : SecureChannel ssl) (frame : ByteString) : Prop :=
  frameType frame = some .secureOpen ∧
    peekPolicyUri frame = some securityPolicyNone ∧ s.allowsNone = true ∧
      ∃ message request, decodeOpenNone frame = some (message, request) ∧
        supportedSecurity message request = true ∧
          (request.requestType = .renew ∨ s.opened = false)

/-- The OPN asks for what is in place already. -/
structure InPlace (s : SecureChannel ssl) (received : SecureOpen ssl)
    (serverNonce : ByteString) : Prop where
  requestType : received.request.requestType ≠ .renew
  inboundKeys : deriveBasic256Sha256Keys ssl serverNonce
    received.request.clientNonce = s.inboundKeys
  outboundKeys : deriveBasic256Sha256Keys ssl received.request.clientNonce
    serverNonce = s.outboundKeys
  certificate : received.senderCertificate = s.clientCertificateDer
  opened : s.opened = true

/-- A Basic256Sha256 OPN which the channel accepts under the certificate it
brings along, although the certificate the channel is bound to did not sign
it. -/
def ForeignTakeover (certificate : ByteString) (s : SecureChannel ssl)
    (around : Surroundings) (frame : ByteString) : Prop :=
  frameType frame = some .secureOpen ∧
    peekPolicyUri frame = some securityPolicyBasic256Sha256 ∧
      s.openVerifies certificate frame = false ∧
        ∃ config received serverNonce response,
          s.basic256Config = some config ∧
            s.answeredOpen config around frame =
              some (received, serverNonce, response) ∧
              ¬ s.InPlace received serverNonce

/-! ## What the handlers change -/

theorem SameSecurity.refl (s : SecureChannel ssl) : s.SameSecurity s :=
  ⟨rfl, rfl, rfl, rfl, rfl⟩

theorem handleSecureMessage_bound (s : SecureChannel ssl) (frame : ByteString)
    (isClose : Bool) :
    s.SameSecurity (s.handleSecureMessage frame isClose).1 ∨
      (s.handleSecureMessage frame isClose).2.closeTransport = true := by
  unfold handleSecureMessage handleSymmetricMessage handlePlainMessage
  repeat' split
  all_goals first
    | exact Or.inr rfl
    | exact Or.inl (SameSecurity.refl s)

theorem rotateNone_sameSecurity_iff (s : SecureChannel ssl)
    (request : OpenSecureChannelRequest) (sequenceNumber : UInt32) :
    s.SameSecurity
        { s.rotateNone request with
          nextSequenceNumber := sequenceNumber
          opened := true } ↔
      request.requestType ≠ .renew ∧ s.opened = true := by
  unfold rotateNone
  constructor
  · intro h
    refine ⟨?_, h.opened.symm⟩
    intro hrenew
    have htoken := h.tokenId
    simp [hrenew] at htoken
  · rintro ⟨hissue, hopened⟩
    rw [if_neg hissue]
    exact ⟨rfl, rfl, rfl, rfl, hopened.symm⟩

theorem handleOpenNone_bound_iff (s : SecureChannel ssl)
    (around : Surroundings) (frame : ByteString) :
    (s.SameSecurity (s.handleOpenNone around frame).1 ∨
      (s.handleOpenNone around frame).2.closeTransport = true) ↔
    ¬ ∃ message request, decodeOpenNone frame = some (message, request) ∧
      supportedSecurity message request = true ∧
        (request.requestType = .renew ∨ s.opened = false) := by
  cases hdecode : decodeOpenNone frame with
  | none =>
      rw [handleOpenNone_of_none hdecode]
      simp [FrameResult.close]
  | some opened =>
      obtain ⟨message, request⟩ := opened
      cases hsupported : supportedSecurity message request with
      | false =>
          rw [handleOpenNone_refuses hdecode hsupported]
          have hsame : s.SameSecurity
              { s with nextSequenceNumber := s.nextSequenceNumber + 1 } :=
            ⟨rfl, rfl, rfl, rfl, rfl⟩
          simp [hsupported, hsame]
      | true =>
          rw [handleOpenNone_opens hdecode hsupported,
            s.rotateNone_sameSecurity_iff]
          simp [hsupported]

theorem establish_sameSecurity_iff (s : SecureChannel ssl)
    (received : SecureOpen ssl) (serverNonce : ByteString)
    (sequenceNumber : UInt32) :
    s.SameSecurity
        (establish
          { s.rotateSecure received.request with
            nextSequenceNumber := sequenceNumber } received serverNonce) ↔
      s.InPlace received serverNonce := by
  unfold rotateSecure
  constructor
  · intro h
    refine ⟨?_, h.inboundKeys, h.outboundKeys, h.clientCertificateDer,
      h.opened.symm⟩
    intro hrenew
    have htoken := h.tokenId
    simp [hrenew, establish] at htoken
  · intro h
    rw [if_neg h.requestType]
    exact ⟨rfl, h.inboundKeys, h.outboundKeys, h.certificate, h.opened.symm⟩

theorem handleOpenSecure_bound_iff (s : SecureChannel ssl)
    (config : SecureChannelServerConfig ssl) (around : Surroundings)
    (frame : ByteString) :
    (s.SameSecurity (s.handleOpenSecure config around frame).1 ∨
      (s.handleOpenSecure config around frame).2.closeTransport = true) ↔
    ¬ ∃ received serverNonce response,
      s.answeredOpen config around frame =
        some (received, serverNonce, response) ∧
        ¬ s.InPlace received serverNonce := by
  cases hanswer : s.answeredOpen config around frame with
  | none =>
      obtain ⟨t, hclose, -⟩ := handleOpenSecure_of_none hanswer
      rw [hclose]
      simp [FrameResult.close]
  | some answered =>
      obtain ⟨received, serverNonce, response⟩ := answered
      rw [handleOpenSecure_of_some hanswer, s.establish_sameSecurity_iff]
      simp

/-! ## Calls -/

section Policy

variable {certificate frame : ByteString} {s : SecureChannel ssl}
  {around : Surroundings}

theorem not_plainTakeover
    (h : peekPolicyUri frame ≠ some securityPolicyNone) :
    ¬ s.PlainTakeover frame := fun htaken => h htaken.2.1

theorem not_foreignTakeover
    (h : peekPolicyUri frame ≠ some securityPolicyBasic256Sha256) :
    ¬ ForeignTakeover certificate s around frame := fun htaken => h htaken.2.1

theorem not_openVerifies
    (h : peekPolicyUri frame ≠ some securityPolicyBasic256Sha256) :
    s.openVerifies certificate frame = false := by
  simp [openVerifies, h]

theorem handleOpen_bound_of_none (htype : frameType frame = some .secureOpen)
    (hpolicy : peekPolicyUri frame = some securityPolicyNone) :
    (s.SameSecurity (s.handleOpen around frame).1 ∨
      (s.handleOpen around frame).2.closeTransport = true) ↔
    ¬ s.PlainTakeover frame := by
  rw [handleOpen_of_none hpolicy, PlainTakeover]
  cases hallows : s.allowsNone with
  | false => simp [FrameResult.close]
  | true => simpa [htype, hpolicy] using s.handleOpenNone_bound_iff around frame

theorem handleOpen_bound_of_basic256
    (htype : frameType frame = some .secureOpen)
    (hpolicy : peekPolicyUri frame = some securityPolicyBasic256Sha256)
    (hforeign : s.openVerifies certificate frame = false) :
    (s.SameSecurity (s.handleOpen around frame).1 ∨
      (s.handleOpen around frame).2.closeTransport = true) ↔
    ¬ ForeignTakeover certificate s around frame := by
  rw [handleOpen_of_basic256 hpolicy, ForeignTakeover]
  cases hconfig : s.basic256Config with
  | none => simp [FrameResult.close]
  | some config =>
      simpa [htype, hpolicy, hforeign] using
        s.handleOpenSecure_bound_iff config around frame

end Policy

theorem callBound_iff (certificate : ByteString) (s : SecureChannel ssl)
    (call : Surroundings × ByteString) :
    CallBound certificate s call ↔
      ¬ s.PlainTakeover call.2 ∧
        ¬ ForeignTakeover certificate s call.1 call.2 := by
  obtain ⟨around, frame⟩ := call
  unfold CallBound
  dsimp only
  by_cases htype : frameType frame = some .secureOpen
  · have hclose : s.closeVerifies frame = false := by
      simp [closeVerifies, htype]
    rw [handleFrame_of_secureOpen htype, hclose]
    by_cases hnone : peekPolicyUri frame = some securityPolicyNone
    · have hbasic : peekPolicyUri frame ≠ some securityPolicyBasic256Sha256 := by
        rw [hnone, ne_eq, Option.some.injEq]
        exact securityPolicyBasic256Sha256_ne_none.symm
      simpa [not_openVerifies hbasic, not_foreignTakeover hbasic] using
        handleOpen_bound_of_none htype hnone
    · by_cases hbasic :
          peekPolicyUri frame = some securityPolicyBasic256Sha256
      · cases hverifies : s.openVerifies certificate frame with
        | false =>
            simpa [not_plainTakeover hnone] using
              handleOpen_bound_of_basic256 htype hbasic hverifies
        | true =>
            simp [not_plainTakeover hnone, ForeignTakeover, hverifies]
      · rw [handleOpen_of_other hnone hbasic]
        simp [FrameResult.close, not_plainTakeover hnone,
          not_foreignTakeover hbasic]
  · have hplain : ¬ s.PlainTakeover frame := fun htaken => htype htaken.1
    have hforeign : ¬ ForeignTakeover certificate s around frame :=
      fun htaken => htype htaken.1
    refine iff_of_true ?_ ⟨hplain, hforeign⟩
    by_cases hhandled : HandledType (frameType frame)
    · rcases hhandled with hopen | hmessage | hclose
      · exact absurd hopen htype
      · rw [handleFrame_of_secureMessage hmessage]
        exact (s.handleSecureMessage_bound frame false).imp_right Or.inl
      · rw [handleFrame_of_secureClose hclose]
        exact (s.handleSecureMessage_bound frame true).imp_right Or.inl
    · rw [handleFrame_of_other hhandled]
      exact Or.inl (SameSecurity.refl s)

/-- The channel after a call of `HandleFrame`. -/
def receive (s : SecureChannel ssl) (call : Surroundings × ByteString) :
    SecureChannel ssl :=
  (s.handleFrame call.1 call.2).1

/-- Every call of a run is bound to the certificate exactly if no frame of the
run is one of the two kinds of takeover in the state which it finds. -/
theorem calls_bound_iff (certificate : ByteString) (s : SecureChannel ssl)
    (calls : List (Surroundings × ByteString)) :
    AllMeet receive (CallBound certificate) s calls ↔
      AllMeet receive
        (fun channel call => ¬ channel.PlainTakeover call.2 ∧
          ¬ ForeignTakeover certificate channel call.1 call.2) s calls :=
  ⟨AllMeet.imp fun channel call => (callBound_iff certificate channel call).mp,
    AllMeet.imp fun channel call => (callBound_iff certificate channel call).mpr⟩

theorem not_callBound {certificate frame : ByteString} {s : SecureChannel ssl}
    {around : Surroundings}
    (hchange : ¬ s.SameSecurity (s.receive (around, frame)))
    (hquiet : (s.handleFrame around frame).2.closeTransport = false ∧
      s.openVerifies certificate frame = false ∧
        s.closeVerifies frame = false) :
    ¬ CallBound certificate s (around, frame) := by
  rintro (hsame | hclose | hopen | hclose)
  · exact hchange hsame
  · rw [hquiet.1] at hclose
    contradiction
  · rw [hquiet.2.1] at hopen
    contradiction
  · rw [hquiet.2.2] at hclose
    contradiction

/-- The channel which the client 9 has opened. -/
def securedServer : SecureChannel sampleSsl :=
  sampleServer.receive (sampleSurroundings, sampleOpen 9)

/-- A Renew without security, as anyone can write it. -/
def plainRenewal : ByteString :=
  ({} : ClientSecureChannel sampleSsl).plaintextOpenFrame 1 1
    { requestType := .renew }

theorem securedServer_taken_over :
    (securedServer.opened = true ∧ securedServer.basic256Active = true ∧
      securedServer.clientCertificateDer = [0x30, 9]) ∧
    ((securedServer.receive (sampleSurroundings, plainRenewal)).tokenId ≠
        securedServer.tokenId ∧
      (securedServer.handleFrame sampleSurroundings
          plainRenewal).2.closeTransport = false ∧
        securedServer.openVerifies [0x30, 9] plainRenewal = false ∧
          securedServer.closeVerifies plainRenewal = false) ∧
    (securedServer.receive
          (sampleSurroundings, sampleOpen 11)).clientCertificateDer ≠
        securedServer.clientCertificateDer ∧
      (securedServer.handleFrame sampleSurroundings
          (sampleOpen 11)).2.closeTransport = false ∧
        securedServer.openVerifies [0x30, 9] (sampleOpen 11) = false ∧
          securedServer.closeVerifies (sampleOpen 11) = false := by
  decide +kernel

/-- The token moves with the plain Renew; with the OPN of the client 11 the
certificate does. -/
theorem plain_renewal_and_foreign_open_take_over :
    (securedServer.opened = true ∧ securedServer.basic256Active = true ∧
      securedServer.clientCertificateDer = [0x30, 9]) ∧
      ¬ CallBound [0x30, 9] securedServer (sampleSurroundings, plainRenewal) ∧
      ¬ CallBound [0x30, 9] securedServer
        (sampleSurroundings, sampleOpen 11) := by
  obtain ⟨hsecured, ⟨hmoved, hplain⟩, hreplaced, hforeign⟩ := securedServer_taken_over
  refine ⟨hsecured, ?_, ?_⟩
  · exact not_callBound (fun hsame => hmoved hsame.tokenId) hplain
  · exact not_callBound (fun hsame => hreplaced hsame.clientCertificateDer) hforeign

end SecureChannel
end Binary
end OpcuaStack
