import OpcuaStack.ChannelBinding

/-!
# Frames which are fed again

The server decrypts the sequence number of a frame and looks at it no further.
A MSG frame changes nothing in the channel, so it is delivered each time it
arrives while the channel keeps its token and its keys.
-/

namespace OpcuaStack
namespace Binary
namespace SecureChannel

variable {ssl : OpenSsl}

/-! ## What no frame changes -/

/-- The channel id and the configuration stay, and Basic256Sha256 stays in
force. -/
structure KeepsPolicy (s t : SecureChannel ssl) : Prop where
  channelId : t.channelId = s.channelId
  config : t.config = s.config
  basic256Active : s.basic256Active = true → t.basic256Active = true

theorem KeepsPolicy.refl (s : SecureChannel ssl) : s.KeepsPolicy s :=
  ⟨rfl, rfl, id⟩

theorem handleOpenNone_keepsPolicy (s : SecureChannel ssl)
    (around : Surroundings) (frame : ByteString) :
    s.KeepsPolicy (s.handleOpenNone around frame).1 := by
  cases hdecode : decodeOpenNone frame with
  | none =>
      rw [handleOpenNone_of_none hdecode]
      exact KeepsPolicy.refl s
  | some opened =>
      obtain ⟨message, request⟩ := opened
      cases hsupported : supportedSecurity message request with
      | false =>
          rw [handleOpenNone_refuses hdecode hsupported]
          exact ⟨rfl, rfl, id⟩
      | true =>
          rw [handleOpenNone_opens hdecode hsupported, rotateNone]
          split
          · exact ⟨rfl, rfl, id⟩
          · exact ⟨rfl, rfl, id⟩

theorem rotateSecure_keepsPolicy (s : SecureChannel ssl)
    (request : OpenSecureChannelRequest) :
    s.KeepsPolicy (s.rotateSecure request) := by
  unfold rotateSecure
  split
  · exact ⟨rfl, rfl, id⟩
  · exact KeepsPolicy.refl s

theorem handleOpenSecure_keepsPolicy (s : SecureChannel ssl)
    (config : SecureChannelServerConfig ssl) (around : Surroundings)
    (frame : ByteString) :
    s.KeepsPolicy (s.handleOpenSecure config around frame).1 := by
  cases hanswer : s.answeredOpen config around frame with
  | none =>
      obtain ⟨t, hclose, rfl | ⟨request, rfl⟩⟩ :=
        handleOpenSecure_of_none hanswer
      · rw [hclose]
        exact KeepsPolicy.refl t
      · rw [hclose]
        have hkeeps := s.rotateSecure_keepsPolicy request
        exact ⟨hkeeps.channelId, hkeeps.config, hkeeps.basic256Active⟩
  | some answered =>
      obtain ⟨received, serverNonce, response⟩ := answered
      rw [handleOpenSecure_of_some hanswer]
      have hkeeps := s.rotateSecure_keepsPolicy received.request
      exact ⟨hkeeps.channelId, hkeeps.config, fun _ => rfl⟩

theorem handleSecureMessage_fst (s : SecureChannel ssl) (frame : ByteString)
    (isClose : Bool) :
    (s.handleSecureMessage frame isClose).1 = s ∨
      isClose = true ∧
        (s.handleSecureMessage frame isClose).1 = { s with opened := false } := by
  unfold handleSecureMessage handleSymmetricMessage handlePlainMessage
  repeat' split
  all_goals first
    | exact Or.inl rfl
    | exact Or.inr ⟨by assumption, rfl⟩

theorem handleOpen_keepsPolicy (s : SecureChannel ssl) (around : Surroundings)
    (frame : ByteString) : s.KeepsPolicy (s.handleOpen around frame).1 := by
  by_cases hnone : peekPolicyUri frame = some securityPolicyNone
  · rw [handleOpen_of_none hnone]
    split
    · exact s.handleOpenNone_keepsPolicy around frame
    · exact KeepsPolicy.refl s
  · by_cases hbasic : peekPolicyUri frame = some securityPolicyBasic256Sha256
    · rw [handleOpen_of_basic256 hbasic]
      split
      · exact KeepsPolicy.refl s
      · exact s.handleOpenSecure_keepsPolicy _ around frame
    · rw [handleOpen_of_other hnone hbasic]
      exact KeepsPolicy.refl s

theorem handleFrame_keepsPolicy (s : SecureChannel ssl) (around : Surroundings)
    (frame : ByteString) : s.KeepsPolicy (s.handleFrame around frame).1 := by
  by_cases hhandled : HandledType (frameType frame)
  · rcases hhandled with hopen | hmessage | hclose
    · rw [handleFrame_of_secureOpen hopen]
      exact s.handleOpen_keepsPolicy around frame
    · rw [handleFrame_of_secureMessage hmessage]
      rcases s.handleSecureMessage_fst frame false with hsame | ⟨_, hclosed⟩
      · rw [hsame]
        exact KeepsPolicy.refl s
      · rw [hclosed]
        exact ⟨rfl, rfl, id⟩
    · rw [handleFrame_of_secureClose hclose]
      rcases s.handleSecureMessage_fst frame true with hsame | ⟨_, hclosed⟩
      · rw [hsame]
        exact KeepsPolicy.refl s
      · rw [hclosed]
        exact ⟨rfl, rfl, id⟩
  · rw [handleFrame_of_other hhandled]
    exact KeepsPolicy.refl s

/-! ## Runs -/

theorem receive_run_keepsPolicy (s : SecureChannel ssl)
    (calls : List (Surroundings × ByteString)) :
    s.KeepsPolicy (runFrom receive s calls) := by
  refine runFrom_invariant_of_step (P := fun t => s.KeepsPolicy t)
    (fun t call h => ?_) (KeepsPolicy.refl s) calls
  have hstep := t.handleFrame_keepsPolicy call.1 call.2
  exact ⟨hstep.channelId.trans h.channelId, hstep.config.trans h.config,
    fun hactive => hstep.basic256Active (h.basic256Active hactive)⟩

theorem receive_run_of_messages {s : SecureChannel ssl}
    {calls : List (Surroundings × ByteString)}
    (h : ∀ call ∈ calls, frameType call.2 ≠ some .secureOpen ∧
      frameType call.2 ≠ some .secureClose) :
    runFrom receive s calls = s := by
  induction calls with
  | nil => rfl
  | cons call rest ih =>
      have hsame : s.receive call = s := by
        obtain ⟨hopen, hclose⟩ := h call List.mem_cons_self
        unfold receive
        by_cases hmessage : frameType call.2 = some .secureMessage
        · rw [handleFrame_of_secureMessage hmessage]
          rcases s.handleSecureMessage_fst call.2 false with hsame | ⟨hno, _⟩
          · exact hsame
          · exact absurd hno (by decide)
        · have hother : ¬ HandledType (frameType call.2) := by
            rintro (h | h | h) <;> contradiction
          rw [handleFrame_of_other hother]
      rw [runFrom_cons, hsame]
      exact ih fun other hother => h other (List.mem_cons_of_mem _ hother)

/-! ## Delivery -/

theorem handleFrame_of_openSymmetric {t : SecureChannel ssl}
    (around : Surroundings) {frame body : ByteString}
    {sequence : SequenceHeader}
    (htype : frameType frame = some .secureMessage)
    (hopened : t.opened = true) (hactive : t.basic256Active = true)
    (h : openSymmetric ssl t.inboundKeys t.channelId t.tokenId frame =
      some (sequence, body)) :
    t.handleFrame around frame =
      (t, { servicePayload := some body, requestId := some sequence.requestId }) := by
  rw [handleFrame_of_secureMessage htype]
  simp [handleSecureMessage, handleSymmetricMessage, hopened, hactive, h]

theorem handleFrame_of_not_openSymmetric {t : SecureChannel ssl}
    (around : Surroundings) {frame : ByteString}
    (htype : frameType frame = some .secureMessage)
    (hactive : t.basic256Active = true)
    (h : t.opened = false ∨
      openSymmetric ssl t.inboundKeys t.channelId t.tokenId frame = none) :
    t.handleFrame around frame = (t, .close) := by
  rw [handleFrame_of_secureMessage htype]
  rcases h with hclosed | hnone
  · simp [handleSecureMessage, hclosed]
  · simp [handleSecureMessage, handleSymmetricMessage, hactive, hnone]

theorem openSymmetric_eq_none_of_token {keys : DerivedKeys}
    {channelId tokenId other : UInt32} {frame : ByteString}
    (hnames : namesToken channelId tokenId frame = true)
    (hother : other ≠ tokenId) :
    openSymmetric ssl keys channelId other frame = none := by
  have htoken : uint32At frame 12 = tokenId := by
    simp only [namesToken, Bool.and_eq_true, beq_iff_eq] at hnames
    exact hnames.2.2
  have hno : namesToken channelId other frame = false := by
    simp [namesToken, htoken, hother.symm]
  rw [openSymmetric, hno]
  rfl

theorem symmetricPlaintext_of_openSymmetric {keys : DerivedKeys}
    {channelId tokenId : UInt32} {frame : ByteString}
    {opened : SequenceHeader × ByteString}
    (h : openSymmetric ssl keys channelId tokenId frame = some opened) :
    (symmetricPlaintext ssl keys frame).isSome = true := by
  unfold openSymmetric at h
  split at h
  next =>
    obtain ⟨plaintext, hplaintext, _⟩ := Option.bind_eq_some_iff.mp h
    rw [hplaintext]
    rfl
  next => exact absurd h (by simp)

theorem servicePayload_handleOpen (t : SecureChannel ssl) (around : Surroundings)
    (frame : ByteString) : (t.handleOpen around frame).2.servicePayload = none := by
  unfold handleOpen
  split
  next => rfl
  next =>
    split
    · split
      · unfold handleOpenNone
        split
        · rfl
        · split <;> rfl
      · rfl
    · split
      · split
        · rfl
        · unfold handleOpenSecure
          split
          · rfl
          · split <;> rfl
      · rfl

/-- Whatever frame is delivered on a secured channel, its tag verifies under the keys in
place. -/
theorem symmetricPlaintext_of_delivered {t : SecureChannel ssl}
    (hactive : t.basic256Active = true) {around : Surroundings} {frame body : ByteString}
    (h : (t.handleFrame around frame).2.servicePayload = some body) :
    (symmetricPlaintext ssl t.inboundKeys frame).isSome = true := by
  have hmessage : ∀ isClose,
      (t.handleSecureMessage frame isClose).2.servicePayload = some body →
        (symmetricPlaintext ssl t.inboundKeys frame).isSome = true := by
    intro isClose hdelivered
    unfold handleSecureMessage at hdelivered
    rw [hactive] at hdelivered
    split at hdelivered
    · cases hdelivered
    · rw [if_pos rfl] at hdelivered
      unfold handleSymmetricMessage at hdelivered
      split at hdelivered
      · cases hdelivered
      next hopen => exact symmetricPlaintext_of_openSymmetric hopen
  unfold handleFrame at h
  split at h
  next => cases h
  next header _ =>
    cases hkind : header.messageType with
    | secureOpen =>
        rw [hkind] at h
        rw [servicePayload_handleOpen] at h
        cases h
    | secureMessage =>
        rw [hkind] at h
        exact hmessage false h
    | secureClose =>
        rw [hkind] at h
        exact hmessage true h
    | _ =>
        rw [hkind] at h
        cases h

/-- What a later state of the channel does with a MSG frame which was built for
an earlier one: it delivers it while the token and the keys are the same, and
closes the transport once the token has moved or the channel is closed.  Whatever
other frame it delivers carries a tag which verifies under its keys. -/
structure DeliversWhileCurrent (s t : SecureChannel ssl)
    (around : Surroundings) (frame : ByteString) (delivered : FrameResult) :
    Prop where
  delivers : t.opened = true → t.tokenId = s.tokenId →
    t.inboundKeys = s.inboundKeys → t.handleFrame around frame = (t, delivered)
  closes : t.opened = false ∨ t.tokenId ≠ s.tokenId →
    t.handleFrame around frame = (t, .close)
  tagged : ∀ (nearby : Surroundings) (other payload : ByteString),
    (t.handleFrame nearby other).2.servicePayload = some payload →
      (symmetricPlaintext ssl t.inboundKeys other).isSome = true

/-- A frame which the client built under the token and the keys of a channel is
delivered every time it arrives while these are current, after whatever other
frames; and frames other than OPN and CLO leave them current. -/
theorem message_delivered_each_time (hinverts : CipherInverts ssl)
    {c : ClientSecureChannel ssl} {s : SecureChannel ssl}
    (hactive : s.basic256Active = true) (hchannel : c.channelId = s.channelId)
    (htoken : c.tokenId = s.tokenId) (hkeys : c.clientKeys = s.inboundKeys)
    {requestId : UInt32} {body frame : ByteString}
    (hbuilt : c.symmetricFrame .secureMessage requestId body = some frame)
    (hsize : frame.length < 2 ^ 32)
    (calls : List (Surroundings × ByteString)) (around : Surroundings) :
    DeliversWhileCurrent s (runFrom receive s calls) around frame
        { servicePayload := some body, requestId := some requestId } ∧
      ((∀ call ∈ calls, frameType call.2 ≠ some .secureOpen ∧
          frameType call.2 ≠ some .secureClose) →
        runFrom receive s calls = s) := by
  refine ⟨?_, receive_run_of_messages⟩
  have hkeeps := s.receive_run_keepsPolicy calls
  have hmessage : frameType frame = some .secureMessage :=
    frameType_sealSymmetric hbuilt hsize
  generalize runFrom receive s calls = t at hkeeps ⊢
  have hrun := hkeeps.basic256Active hactive
  constructor
  · intro hopened hsame hcurrent
    have hopens : openSymmetric ssl t.inboundKeys t.channelId t.tokenId frame =
        some ({ sequenceNumber := c.nextSequenceNumber, requestId }, body) := by
      rw [hcurrent, hsame, hkeeps.channelId, ← hkeys, ← hchannel, ← htoken]
      exact openSymmetric_sealSymmetric hinverts hbuilt
    exact handleFrame_of_openSymmetric around hmessage hopened hrun hopens
  · rintro (hclosed | hmoved)
    · exact handleFrame_of_not_openSymmetric around hmessage hrun (Or.inl hclosed)
    · refine handleFrame_of_not_openSymmetric around hmessage hrun (Or.inr ?_)
      refine openSymmetric_eq_none_of_token ?_ hmoved
      rw [hkeeps.channelId, ← hchannel, ← htoken]
      exact namesToken_sealSymmetric hbuilt
  · exact fun _ _ _ hdelivered => symmetricPlaintext_of_delivered hrun hdelivered

/-- The client 9 once its channel is open. -/
def openedClient : ClientSecureChannel sampleSsl :=
  (((sampleClient 9).beginOpen sampleSurroundings .issue 60000).1.finishOpen
    ((sampleServer.handleFrame sampleSurroundings
      (sampleOpen 9)).2.outboundFrame.getD [])).1

def firstMessage : ByteString :=
  (openedClient.symmetricFrame .secureMessage 7 [1, 2, 3]).getD []

def secondMessage : ByteString :=
  ((openedClient.buildServiceRequest 7 [1, 2, 3]).1.symmetricFrame
    .secureMessage 8 [4]).getD []

theorem openedClient_current :
    (securedServer.basic256Active = true ∧
        openedClient.channelId = securedServer.channelId ∧
        openedClient.tokenId = securedServer.tokenId ∧
        openedClient.clientKeys = securedServer.inboundKeys) ∧
      (openedClient.symmetricFrame .secureMessage 7 [1, 2, 3] = some firstMessage ∧
        firstMessage.length < 2 ^ 32) ∧
      let after := runFrom receive securedServer [(sampleSurroundings, secondMessage)]
      after.opened = true ∧ after.tokenId = securedServer.tokenId ∧
        after.inboundKeys = securedServer.inboundKeys := by
  decide +kernel

theorem first_message_delivered_after_second :
    (securedServer.receive (sampleSurroundings, secondMessage)).handleFrame
        sampleSurroundings firstMessage =
      (securedServer.receive (sampleSurroundings, secondMessage),
        { servicePayload := some [1, 2, 3], requestId := some 7 }) := by
  obtain ⟨⟨hactive, hchannel, htoken, hkeys⟩, ⟨hbuilt, hsize⟩, hopened, hsame, hcurrent⟩ :=
    openedClient_current
  have hdelivers := message_delivered_each_time sampleSsl_cipherInverts
    hactive hchannel htoken hkeys hbuilt hsize
    [(sampleSurroundings, secondMessage)] sampleSurroundings
  have hdelivered := hdelivers.1.delivers hopened hsame hcurrent
  rwa [runFrom_cons, runFrom_nil] at hdelivered

/-- The first message, the second, and the first again: each is delivered. -/
theorem first_message_delivered_twice :
    (securedServer.handleFrame sampleSurroundings
        firstMessage).2.servicePayload = some [1, 2, 3] ∧
      ((securedServer.receive (sampleSurroundings, firstMessage)).handleFrame
        sampleSurroundings secondMessage).2.servicePayload = some [4] ∧
      ((runFrom receive securedServer
        [(sampleSurroundings, firstMessage),
          (sampleSurroundings, secondMessage)]).handleFrame
        sampleSurroundings firstMessage).2.servicePayload = some [1, 2, 3] ∧
      (runFrom receive securedServer
        [(sampleSurroundings, firstMessage),
          (sampleSurroundings, secondMessage)]).tokenId =
        securedServer.tokenId := by
  decide +kernel

end SecureChannel
end Binary
end OpcuaStack
