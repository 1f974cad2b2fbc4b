import OpcuaStack.ChannelLink

/-!
# Agreement of the two ends

Between exchanges both ends hold the same ids and keys, and what is on the way
carries these ids.  During an exchange the OPN is the last frame on its way to
the server, or its answer is on the way back and all frames behind it carry the
ids which the client is about to adopt.
-/

namespace OpcuaStack
namespace Binary

variable {ssl : OpenSsl}

/-! ## What a step leaves alone -/

/-- The server's side of an agreement is the same. -/
structure SecureChannel.SameEnd (s t : SecureChannel ssl) : Prop where
  config : t.config = s.config
  channelId : t.channelId = s.channelId
  tokenId : t.tokenId = s.tokenId
  basic256Active : t.basic256Active = s.basic256Active
  inboundKeys : t.inboundKeys = s.inboundKeys
  outboundKeys : t.outboundKeys = s.outboundKeys

/-- The client's side of an agreement is the same. -/
structure ClientSecureChannel.SameEnd (c d : ClientSecureChannel ssl) :
    Prop where
  security : d.security = c.security
  channelId : d.channelId = c.channelId
  tokenId : d.tokenId = c.tokenId
  clientKeys : d.clientKeys = c.clientKeys
  serverKeys : d.serverKeys = c.serverKeys

theorem Agree.congr {c d : ClientSecureChannel ssl} {s t : SecureChannel ssl}
    (h : Agree c s) (hclient : c.SameEnd d) (hserver : s.SameEnd t) :
    Agree d t := by
  have hbasic : d.usesBasic256Sha256 = c.usesBasic256Sha256 := by
    simp [ClientSecureChannel.usesBasic256Sha256, hclient.security]
  have hsecured : d.usesSignAndEncrypt = c.usesSignAndEncrypt := by
    simp [ClientSecureChannel.usesSignAndEncrypt, hclient.security]
  constructor
  · rw [hclient.channelId, hserver.channelId, h.channelId]
  · rw [hclient.tokenId, hserver.tokenId, h.tokenId]
  · rw [hserver.basic256Active, hsecured, h.secured]
  · rw [hbasic, hclient.clientKeys, hserver.inboundKeys]
    exact h.clientKeys
  · rw [hbasic, hclient.serverKeys, hserver.outboundKeys]
    exact h.serverKeys

theorem ClientSecureChannel.SameEnd.refl (c : ClientSecureChannel ssl) :
    c.SameEnd c := ⟨rfl, rfl, rfl, rfl, rfl⟩

theorem SecureChannel.SameEnd.refl (s : SecureChannel ssl) : s.SameEnd s :=
  ⟨rfl, rfl, rfl, rfl, rfl, rfl⟩

theorem beginOpen_sameEnd (c : ClientSecureChannel ssl) (around : Surroundings)
    (requestType : SecurityTokenRequestType) (requestedLifetimeMs : UInt32) :
    c.SameEnd (c.beginOpen around requestType requestedLifetimeMs).1 := by
  unfold ClientSecureChannel.beginOpen
  dsimp only
  split
  next =>
    split
    next => exact ⟨rfl, rfl, rfl, rfl, rfl⟩
    next => exact ⟨rfl, rfl, rfl, rfl, rfl⟩
  next => exact ⟨rfl, rfl, rfl, rfl, rfl⟩

theorem handleFrame_of_carries {s : SecureChannel ssl} (around : Surroundings)
    {secured : Bool} {messageType : MessageType} {channelId tokenId : UInt32}
    {frame : ByteString} (htype : messageType ≠ .secureOpen)
    (h : Carries secured messageType channelId tokenId frame) :
    s.SameEnd (s.handleFrame around frame).1 ∧
      (s.handleFrame around frame).2.outboundFrame = none := by
  have hmessage : ∀ isClose, s.SameEnd (s.handleSecureMessage frame isClose).1 ∧
      (s.handleSecureMessage frame isClose).2.outboundFrame = none := by
    intro isClose
    unfold SecureChannel.handleSecureMessage
      SecureChannel.handleSymmetricMessage SecureChannel.handlePlainMessage
    repeat' split
    all_goals exact ⟨⟨rfl, rfl, rfl, rfl, rfl, rfl⟩, rfl⟩
  by_cases hhandled : SecureChannel.HandledType (frameType frame)
  · rcases hhandled with hopen | hmsg | hclo
    · exact absurd (h.type _ hopen) htype
    · rw [SecureChannel.handleFrame_of_secureMessage hmsg]
      exact hmessage false
    · rw [SecureChannel.handleFrame_of_secureClose hclo]
      exact hmessage true
  · rw [SecureChannel.handleFrame_of_other hhandled]
    exact ⟨SecureChannel.SameEnd.refl s, rfl⟩

/-! ## What the ends write -/

/-- A MSG or CLO frame with the ids of the server. -/
def SecureChannel.Expects (s : SecureChannel ssl) (frame : ByteString) : Prop :=
  ∃ messageType, messageType ≠ MessageType.secureOpen ∧
    Carries s.basic256Active messageType s.channelId s.tokenId frame

/-- A MSG frame with the ids of the server. -/
def SecureChannel.Writes (s : SecureChannel ssl) (frame : ByteString) : Prop :=
  Carries s.basic256Active .secureMessage s.channelId s.tokenId frame

theorem SecureChannel.SameEnd.expects {s t : SecureChannel ssl}
    (h : s.SameEnd t) {frame : ByteString} (hframe : s.Expects frame) :
    t.Expects frame := by
  unfold SecureChannel.Expects
  rw [h.basic256Active, h.channelId, h.tokenId]
  exact hframe

theorem SecureChannel.SameEnd.writes {s t : SecureChannel ssl}
    (h : s.SameEnd t) {frame : ByteString} (hframe : s.Writes frame) :
    t.Writes frame := by
  unfold SecureChannel.Writes
  rw [h.basic256Active, h.channelId, h.tokenId]
  exact hframe

theorem messageFrame_expected {c : ClientSecureChannel ssl}
    {s : SecureChannel ssl} (h : Agree c s) {messageType : MessageType}
    (htype : messageType ≠ .secureOpen) {requestId : UInt32}
    {body frame : ByteString}
    (hframe : c.messageFrame messageType requestId body = some frame) :
    s.Expects frame := by
  refine ⟨messageType, htype, ?_⟩
  rw [h.secured, ← h.channelId, ← h.tokenId]
  unfold ClientSecureChannel.messageFrame at hframe
  split at hframe
  next hsecured =>
    rw [hsecured]
    unfold ClientSecureChannel.symmetricFrame at hframe
    split at hframe
    · exact carries_sealSymmetric hframe
    · exact carries_sealSymmetric hframe
    all_goals exact absurd hframe (by simp)
  next hplain =>
    rw [Bool.not_eq_true] at hplain
    rw [hplain, ← Option.some.inj hframe]
    exact carries_encode htype _ _ _ _

theorem buildServiceResponse_writes (s : SecureChannel ssl) (requestId : UInt32)
    (body : ByteString) :
    s.SameEnd (s.buildServiceResponse requestId body).1 ∧
      ((s.buildServiceResponse requestId body).2 = [] ∨
        s.Writes (s.buildServiceResponse requestId body).2) := by
  refine ⟨⟨rfl, rfl, rfl, rfl, rfl, rfl⟩, ?_⟩
  unfold SecureChannel.Writes
  simp only [SecureChannel.buildServiceResponse]
  cases hactive : s.basic256Active with
  | true =>
      cases hseal : sealSymmetric ssl s.outboundKeys .secureMessage s.channelId
          s.tokenId { sequenceNumber := s.nextSequenceNumber, requestId } body with
      | none => exact Or.inl rfl
      | some frame => exact Or.inr (carries_sealSymmetric hseal)
  | false => exact Or.inr (carries_encode (by decide) _ _ _ _)

/-! ## The checks pass -/

/-- The ids in the header are those of the server, and its check of them
passes. -/
structure PassesServer (s : SecureChannel ssl) (frame : ByteString) : Prop where
  named : namesToken s.channelId s.tokenId frame = true
  checked : s.basic256Active = true ∨ frame.length < 2 ^ 32 →
    s.checksIds frame = true

structure PassesClient (c : ClientSecureChannel ssl) (frame : ByteString) :
    Prop where
  named : namesToken c.channelId c.tokenId frame = true
  checked : c.usesSignAndEncrypt = true ∨ frame.length < 2 ^ 32 →
    c.checksIds frame = true

theorem SecureChannel.Expects.passes {s : SecureChannel ssl}
    {frame : ByteString} (h : s.Expects frame) : PassesServer s frame := by
  obtain ⟨messageType, -, hcarries⟩ := h
  refine ⟨hcarries.named, fun hchecked => ?_⟩
  unfold SecureChannel.checksIds
  cases hactive : s.basic256Active with
  | true => exact hcarries.named
  | false =>
      obtain ⟨message, hdecode, -, hchannel, hheader⟩ :=
        hcarries.plain hactive (hchecked.resolve_left (by simp [hactive]))
      simp [hdecode, hchannel, hheader]

theorem SecureChannel.Writes.passes {c : ClientSecureChannel ssl}
    {s : SecureChannel ssl} (hagree : Agree c s) {frame : ByteString}
    (h : s.Writes frame) : PassesClient c frame := by
  unfold SecureChannel.Writes at h
  rw [hagree.secured, ← hagree.channelId, ← hagree.tokenId] at h
  refine ⟨h.named, fun hchecked => ?_⟩
  unfold ClientSecureChannel.checksIds
  cases hsecured : c.usesSignAndEncrypt with
  | true => exact h.named
  | false =>
      obtain ⟨message, hdecode, htype, hchannel, hheader⟩ :=
        h.plain hsecured (hchecked.resolve_left (by simp [hsecured]))
      simp [hdecode, ClientSecureChannel.namesPlainToken, htype, hchannel,
        hheader]

/-! ## Phases -/

namespace ChannelLink

/-- Between exchanges: what is on the way carries the ids of the server, and
before the first exchange nothing is on the way. -/
structure Idle (l : ChannelLink ssl) : Prop where
  opening : l.opening = false
  plain : l.client.security.Plain → l.server.basic256Active = false
  toServer : ∀ received ∈ l.toServer,
    received = .message received.bytes ∧ l.server.Expects received.bytes
  toClient : ∀ received ∈ l.toClient,
    received = .response received.bytes ∧ l.server.Writes received.bytes
  agree : l.established = true → Agree l.client l.server
  fresh : l.established = false → l.client.opened = false ∧
    l.toServer = [] ∧ l.toClient = [] ∧ l.servicing = []

/-- The OPN is the last frame on its way to the server. -/
structure Asked (l : ChannelLink ssl) : Prop where
  opening : l.opening = true
  plain : l.client.security.Plain → l.server.basic256Active = false
  toServer : ∃ messages frame, l.toServer = messages ++ [.openRequest frame] ∧
    (∀ received ∈ messages,
      received = .message received.bytes ∧ l.server.Expects received.bytes) ∧
    ∃ c around requestType requestedLifetimeMs,
      ClientSecureChannel.beginOpen c around requestType requestedLifetimeMs =
        (l.client, some frame)
  toClient : ∀ received ∈ l.toClient, received = .response received.bytes

/-- The answer is on its way back; it brings about agreement, and what follows
it carries the ids of the server. -/
structure Answered (l : ChannelLink ssl) : Prop where
  opening : l.opening = true
  toServer : l.toServer = []
  toClient : ∃ before answer after,
    l.toClient = before ++ .openAnswer answer :: after ∧
      (∀ received ∈ before, received = .response received.bytes) ∧
      (∀ received ∈ after,
        received = .response received.bytes ∧ l.server.Writes received.bytes) ∧
      ((l.client.finishOpen answer).2 = Status.good →
        Agree (l.client.finishOpen answer).1 l.server)

/-- The OPN was not answered, and never will be. -/
structure Unanswered (l : ChannelLink ssl) : Prop where
  opening : l.opening = true
  toServer : l.toServer = []
  toClient : ∀ received ∈ l.toClient, received = .response received.bytes

structure InOrder (l : ChannelLink ssl) : Prop where
  policy : l.client.security.Plain ∨
    l.client.security.Secured l.server.config
  phase : l.Idle ∨ l.Asked ∨ l.Answered ∨ l.Unanswered

theorem start_inOrder {security : ClientSecurity ssl}
    {config : Option (SecureChannelServerConfig ssl)}
    (hpolicy : security.Plain ∨ security.Secured config) :
    (start security config).InOrder where
  policy := hpolicy
  phase := Or.inl
    { opening := rfl
      plain := fun _ => rfl
      toServer := fun _ hreceived => absurd hreceived (List.not_mem_nil)
      toClient := fun _ hreceived => absurd hreceived (List.not_mem_nil)
      agree := fun hestablished => absurd hestablished (by simp [start])
      fresh := fun _ => ⟨rfl, rfl, rfl, rfl⟩ }

theorem InOrder.idle {l : ChannelLink ssl} (h : l.InOrder)
    (hopening : l.opening = false) : l.Idle := by
  rcases h.phase with hidle | hasked | hanswered | hunanswered
  · exact hidle
  · exact absurd (hopening.symm.trans hasked.opening) (by decide)
  · exact absurd (hopening.symm.trans hanswered.opening) (by decide)
  · exact absurd (hopening.symm.trans hunanswered.opening) (by decide)

/-! ## The client writes -/

theorem beginOpen_opened (c : ClientSecureChannel ssl) (around : Surroundings)
    (requestType : SecurityTokenRequestType) (requestedLifetimeMs : UInt32) :
    (c.beginOpen around requestType requestedLifetimeMs).1.opened = c.opened := by
  unfold ClientSecureChannel.beginOpen
  dsimp only
  split
  next => split <;> rfl
  next => rfl

theorem openChannel_inOrder {l : ChannelLink ssl} (h : l.InOrder)
    (around : Surroundings) (requestType : SecurityTokenRequestType)
    (requestedLifetimeMs : UInt32) :
    (l.openChannel around requestType requestedLifetimeMs).InOrder := by
  unfold openChannel
  split
  next => exact h
  next hready =>
    have hopening : l.opening = false := by
      rw [not_or, Bool.not_eq_true] at hready
      exact hready.1
    have hidle := h.idle hopening
    have hsame := beginOpen_sameEnd l.client around requestType
      requestedLifetimeMs
    have hopened := beginOpen_opened l.client around requestType
      requestedLifetimeMs
    split
    next client hbegin =>
      rw [hbegin] at hsame hopened
      refine ⟨?_, Or.inl ⟨hopening, ?_, hidle.toServer, hidle.toClient, ?_, ?_⟩⟩
      · rw [hsame.security]
        exact h.policy
      · rw [hsame.security]
        exact hidle.plain
      · intro hestablished
        exact (hidle.agree hestablished).congr hsame
          (SecureChannel.SameEnd.refl l.server)
      · intro hfresh
        obtain ⟨hclosed, hrest⟩ := hidle.fresh hfresh
        exact ⟨hopened.trans hclosed, hrest⟩
    next client frame hbegin =>
      rw [hbegin] at hsame
      refine ⟨?_, Or.inr (Or.inl ⟨rfl, ?_, ?_, ?_⟩)⟩
      · rw [hsame.security]
        exact h.policy
      · rw [hsame.security]
        exact hidle.plain
      · exact ⟨l.toServer, frame, rfl, hidle.toServer, l.client, around,
          requestType, requestedLifetimeMs, hbegin⟩
      · exact fun received hreceived => (hidle.toClient received hreceived).1

/-- What is written between exchanges carries the ids on which the ends
agree. -/
theorem write_inOrder {l : ChannelLink ssl} (h : l.InOrder)
    (hopening : l.opening = false)
    {built : ClientSecureChannel ssl × Option ByteString}
    (hsame : l.client.SameEnd built.1)
    (hclosed : l.client.opened = false →
      built.1.opened = false ∧ built.2 = none)
    (hbuilt : ∀ frame ∈ built.2, Agree l.client l.server →
      l.server.Expects frame) :
    (l.write built).InOrder := by
  have hidle := h.idle hopening
  refine ⟨?_, Or.inl ⟨hopening, ?_, ?_, hidle.toClient, ?_, ?_⟩⟩
  · change built.1.security.Plain ∨ built.1.security.Secured l.server.config
    rw [hsame.security]
    exact h.policy
  · change built.1.security.Plain → l.server.basic256Active = false
    rw [hsame.security]
    exact hidle.plain
  · intro received hreceived
    rcases List.mem_append.mp hreceived with hearlier | hwritten
    · exact hidle.toServer received hearlier
    · obtain ⟨frame, hframe, rfl⟩ : ∃ frame, frame ∈ built.2 ∧
          ClientFrame.message frame = received := by simpa using hwritten
      cases hestablished : l.established with
      | true => exact ⟨rfl, hbuilt frame hframe (hidle.agree hestablished)⟩
      | false =>
          rw [(hclosed (hidle.fresh hestablished).1).2] at hframe
          exact absurd hframe (by simp)
  · intro hestablished
    exact (hidle.agree hestablished).congr hsame
      (SecureChannel.SameEnd.refl l.server)
  · intro hfresh
    obtain ⟨hclosedClient, htoServer, hrest⟩ := hidle.fresh hfresh
    obtain ⟨hstill, hnone⟩ := hclosed hclosedClient
    exact ⟨hstill, by simp [write, htoServer, hnone], hrest⟩

theorem send_inOrder {l : ChannelLink ssl} (h : l.InOrder)
    (hopening : l.opening = false) (requestId : UInt32) (body : ByteString) :
    (l.write (l.client.buildServiceRequest requestId body)).InOrder := by
  refine write_inOrder h hopening ?_ ?_ ?_
  · unfold ClientSecureChannel.buildServiceRequest
    split
    · exact ⟨rfl, rfl, rfl, rfl, rfl⟩
    · exact ClientSecureChannel.SameEnd.refl l.client
  · intro hclosed
    simp [ClientSecureChannel.buildServiceRequest, hclosed]
  · intro frame hframe hagree
    unfold ClientSecureChannel.buildServiceRequest at hframe
    split at hframe
    · exact messageFrame_expected hagree (by decide) hframe
    · exact absurd hframe (by simp)

theorem close_inOrder {l : ChannelLink ssl} (h : l.InOrder)
    (hopening : l.opening = false) : (l.write l.client.close).InOrder := by
  refine write_inOrder h hopening ?_ ?_ ?_
  · unfold ClientSecureChannel.close
    split
    · exact ⟨rfl, rfl, rfl, rfl, rfl⟩
    · exact ClientSecureChannel.SameEnd.refl l.client
  · intro hclosed
    simp [ClientSecureChannel.close, hclosed]
  · intro frame hframe hagree
    unfold ClientSecureChannel.close at hframe
    split at hframe
    · exact messageFrame_expected hagree (by decide) hframe
    · exact absurd hframe (by simp)

/-! ## The server reads and answers -/

theorem InOrder.agree_of_open {l : ChannelLink ssl} (h : l.InOrder)
    (hplain : l.client.security.Plain → l.server.basic256Active = false)
    {c : ClientSecureChannel ssl} {around serverAround : Surroundings}
    {requestType : SecurityTokenRequestType} {requestedLifetimeMs : UInt32}
    {frame answer : ByteString}
    (hbegin : c.beginOpen around requestType requestedLifetimeMs =
      (l.client, some frame))
    (hanswer : (l.server.handleFrame serverAround frame).2.outboundFrame =
      some answer)
    (hgood : (l.client.finishOpen answer).2 = Status.good) :
    Agree (l.client.finishOpen answer).1
      (l.server.handleFrame serverAround frame).1 := by
  have hsame := beginOpen_sameEnd c around requestType requestedLifetimeMs
  rw [hbegin] at hsame
  rcases h.policy with hpolicy | hpolicy
  · exact agree_of_plain (hsame.security ▸ hpolicy) (hplain hpolicy) hbegin
      hanswer hgood
  · exact agree_of_secured (hsame.security ▸ hpolicy) hbegin hanswer hgood

/-- The server reads a message: nothing of its end changes, and no answer is
written. -/
theorem serverReceives_message {l : ChannelLink ssl} {received : ClientFrame}
    {rest : List ClientFrame} (htoServer : l.toServer = received :: rest)
    (hexpected : l.server.Expects received.bytes)
    (hconnected : l.serverClosed = false) (around : Surroundings) :
    (l.serverReceives around).client = l.client ∧
      l.server.SameEnd (l.serverReceives around).server ∧
      (l.serverReceives around).toServer = rest ∧
      (l.serverReceives around).toClient = l.toClient ∧
      (l.serverReceives around).opening = l.opening ∧
      (l.serverReceives around).established = l.established := by
  obtain ⟨messageType, htype, hcarries⟩ := hexpected
  obtain ⟨hsame, hsilent⟩ := handleFrame_of_carries (s := l.server) around htype
    hcarries
  simp [serverReceives, htoServer, hconnected, hsilent, hsame]

theorem serverReceives_of_nil {l : ChannelLink ssl} (h : l.toServer = [])
    (around : Surroundings) : l.serverReceives around = l := by
  simp [serverReceives, h]

theorem serverReceives_of_closed {l : ChannelLink ssl}
    (h : l.serverClosed = true) (around : Surroundings) :
    l.serverReceives around = l := by
  unfold serverReceives
  split
  next => rfl
  next => rw [if_pos h]

theorem Idle.serverReceives {l : ChannelLink ssl} (h : l.Idle)
    {received : ClientFrame} {rest : List ClientFrame}
    (htoServer : l.toServer = received :: rest)
    (hconnected : l.serverClosed = false) (around : Surroundings) :
    (l.serverReceives around).Idle := by
  have hqueue := h.toServer
  rw [htoServer] at hqueue
  obtain ⟨hclient, hserver, hrest, htoClient, hopening, hestablished⟩ :=
    serverReceives_message htoServer (hqueue received List.mem_cons_self).2
      hconnected around
  constructor
  · rw [hopening]
    exact h.opening
  · rw [hclient, hserver.basic256Active]
    exact h.plain
  · intro later hlater
    rw [hrest] at hlater
    obtain ⟨hmessage, hexpects⟩ := hqueue later (List.mem_cons_of_mem _ hlater)
    exact ⟨hmessage, hserver.expects hexpects⟩
  · intro response hresponse
    rw [htoClient] at hresponse
    obtain ⟨hshape, hwrites⟩ := h.toClient response hresponse
    exact ⟨hshape, hserver.writes hwrites⟩
  · intro hdone
    rw [hestablished] at hdone
    rw [hclient]
    exact (h.agree hdone).congr (ClientSecureChannel.SameEnd.refl l.client)
      hserver
  · intro hfresh
    rw [hestablished] at hfresh
    exact absurd (htoServer.symm.trans (h.fresh hfresh).2.1)
      (List.cons_ne_nil _ _)

theorem InOrder.serverReceives_asked {l : ChannelLink ssl} (h : l.InOrder)
    (hasked : l.Asked) (hconnected : l.serverClosed = false)
    (around : Surroundings) :
    (l.serverReceives around).Asked ∨ (l.serverReceives around).Answered ∨
      (l.serverReceives around).Unanswered := by
  obtain ⟨messages, frame, htoServer, hmessages, c, around', requestType,
    requestedLifetimeMs, hbegin⟩ := hasked.toServer
  cases messages with
  | cons received more =>
      obtain ⟨hclient, hserver, hrest, htoClient, hopening, -⟩ :=
        serverReceives_message htoServer
          (hmessages received List.mem_cons_self).2 hconnected around
      refine Or.inl ⟨?_, ?_, ?_, ?_⟩
      · rw [hopening]
        exact hasked.opening
      · rw [hclient, hserver.basic256Active]
        exact hasked.plain
      · refine ⟨more, frame, hrest, fun later hlater => ?_, c, around',
          requestType, requestedLifetimeMs, ?_⟩
        · obtain ⟨hmessage, hexpects⟩ :=
            hmessages later (List.mem_cons_of_mem _ hlater)
          exact ⟨hmessage, hserver.expects hexpects⟩
        · rw [hclient]
          exact hbegin
      · rw [htoClient]
        exact hasked.toClient
  | nil =>
      rw [List.nil_append] at htoServer
      cases hanswer : (l.server.handleFrame around
          frame).2.outboundFrame.filter (!·.isEmpty) with
      | none =>
          refine Or.inr (Or.inr ⟨?_, ?_, ?_⟩)
          · simpa [serverReceives, htoServer, hconnected] using hasked.opening
          · simp [serverReceives, htoServer, hconnected]
          · simpa [serverReceives, htoServer, hconnected, ClientFrame.bytes,
              hanswer] using hasked.toClient
      | some answer =>
          obtain ⟨houtbound, -⟩ := Option.filter_eq_some_iff.mp hanswer
          refine Or.inr (Or.inl ⟨?_, ?_, l.toClient, answer, [], ?_,
            hasked.toClient, ?_, ?_⟩)
          · simpa [serverReceives, htoServer, hconnected] using hasked.opening
          · simp [serverReceives, htoServer, hconnected]
          · simp [serverReceives, htoServer, hconnected, ClientFrame.bytes,
              hanswer]
          · exact fun _ hnone => absurd hnone List.not_mem_nil
          · intro hgood
            have hagree := h.agree_of_open hasked.plain hbegin houtbound
              (by simpa [serverReceives, htoServer, hconnected] using hgood)
            simpa [serverReceives, htoServer, hconnected, ClientFrame.bytes]
              using hagree

theorem serverReceives_policy (l : ChannelLink ssl) (around : Surroundings) :
    (l.serverReceives around).client = l.client ∧
      (l.serverReceives around).server.config = l.server.config := by
  unfold serverReceives
  split
  next => exact ⟨rfl, rfl⟩
  next received rest _ =>
    split
    next => exact ⟨rfl, rfl⟩
    next =>
      exact ⟨rfl, (l.server.handleFrame_keepsPolicy around received.bytes).config⟩

theorem serverReceives_inOrder {l : ChannelLink ssl} (h : l.InOrder)
    (around : Surroundings) : (l.serverReceives around).InOrder := by
  obtain ⟨hclient, hconfig⟩ := l.serverReceives_policy around
  refine ⟨by rw [hclient, hconfig]; exact h.policy, ?_⟩
  cases hconnected : l.serverClosed with
  | true =>
      rw [serverReceives_of_closed hconnected]
      exact h.phase
  | false =>
      rcases h.phase with hidle | hasked | hanswered | hunanswered
      · cases htoServer : l.toServer with
        | nil =>
            rw [serverReceives_of_nil htoServer]
            exact h.phase
        | cons received rest =>
            exact Or.inl (hidle.serverReceives htoServer hconnected around)
      · exact Or.inr (h.serverReceives_asked hasked hconnected around)
      · rw [serverReceives_of_nil hanswered.toServer]
        exact h.phase
      · rw [serverReceives_of_nil hunanswered.toServer]
        exact h.phase

theorem serverResponds_spec (l : ChannelLink ssl) (index : ℕ)
    (body : ByteString) :
    l.serverResponds index body = l ∨
      l.servicing ≠ [] ∧ ∃ server written,
        l.server.SameEnd server ∧
        (∀ received ∈ written,
          received = ServerFrame.response received.bytes ∧
            l.server.Writes received.bytes) ∧
        l.serverResponds index body =
          { l with
            server
            toClient := l.toClient ++ written
            servicing := l.servicing.eraseIdx index } := by
  cases hrequest : l.servicing[index]? with
  | none => exact Or.inl (by simp only [serverResponds, hrequest])
  | some requestId =>
      have hservicing : l.servicing ≠ [] := by
        intro hnone
        simp [hnone] at hrequest
      have hstep : l.serverResponds index body =
          { l with
            server := (l.server.buildServiceResponse requestId body).1
            toClient := l.toClient ++
              if (l.server.buildServiceResponse requestId body).2.isEmpty then []
              else [.response (l.server.buildServiceResponse requestId body).2]
            servicing := l.servicing.eraseIdx index } := by
        simp only [serverResponds, hrequest]
      obtain ⟨hserver, hframe⟩ :=
        buildServiceResponse_writes l.server requestId body
      refine Or.inr ⟨hservicing, _, _, hserver, ?_, hstep⟩
      intro received hreceived
      split at hreceived
      next => exact absurd hreceived List.not_mem_nil
      next hsome =>
        obtain rfl := List.mem_singleton.mp hreceived
        refine ⟨rfl, hframe.resolve_left ?_⟩
        intro hempty
        exact hsome (List.isEmpty_iff.mpr hempty)

theorem serverResponds_inOrder {l : ChannelLink ssl} (h : l.InOrder)
    (index : ℕ) (body : ByteString) :
    (l.serverResponds index body).InOrder := by
  rcases l.serverResponds_spec index body with hsame |
    ⟨hservicing, server, written, hserver, hwritten, hstep⟩
  · rw [hsame]
    exact h
  · rw [hstep]
    refine ⟨by rw [hserver.config]; exact h.policy, ?_⟩
    rcases h.phase with hidle | hasked | hanswered | hunanswered
    · refine Or.inl ⟨hidle.opening, ?_, ?_, ?_, ?_, ?_⟩
      · rw [hserver.basic256Active]
        exact hidle.plain
      · intro received hreceived
        obtain ⟨hshape, hexpects⟩ := hidle.toServer received hreceived
        exact ⟨hshape, hserver.expects hexpects⟩
      · intro received hreceived
        rcases List.mem_append.mp hreceived with hearlier | hlater
        · obtain ⟨hshape, hwrites⟩ := hidle.toClient received hearlier
          exact ⟨hshape, hserver.writes hwrites⟩
        · obtain ⟨hshape, hwrites⟩ := hwritten received hlater
          exact ⟨hshape, hserver.writes hwrites⟩
      · intro hestablished
        exact (hidle.agree hestablished).congr
          (ClientSecureChannel.SameEnd.refl l.client) hserver
      · intro hfresh
        exact absurd (hidle.fresh hfresh).2.2.2 hservicing
    · refine Or.inr (Or.inl ⟨hasked.opening, ?_, ?_, ?_⟩)
      · rw [hserver.basic256Active]
        exact hasked.plain
      · obtain ⟨messages, frame, htoServer, hmessages, hbegin⟩ := hasked.toServer
        refine ⟨messages, frame, htoServer, fun received hreceived => ?_, hbegin⟩
        obtain ⟨hshape, hexpects⟩ := hmessages received hreceived
        exact ⟨hshape, hserver.expects hexpects⟩
      · intro received hreceived
        rcases List.mem_append.mp hreceived with hearlier | hlater
        · exact hasked.toClient received hearlier
        · exact (hwritten received hlater).1
    · obtain ⟨before, answer, after, htoClient, hbefore, hafter, hagree⟩ :=
        hanswered.toClient
      refine Or.inr (Or.inr (Or.inl ⟨hanswered.opening, hanswered.toServer,
        before, answer, after ++ written, ?_, hbefore, ?_, ?_⟩))
      · simp [htoClient]
      · intro received hreceived
        rcases List.mem_append.mp hreceived with hearlier | hlater
        · obtain ⟨hshape, hwrites⟩ := hafter received hearlier
          exact ⟨hshape, hserver.writes hwrites⟩
        · obtain ⟨hshape, hwrites⟩ := hwritten received hlater
          exact ⟨hshape, hserver.writes hwrites⟩
      · intro hgood
        exact (hagree hgood).congr (ClientSecureChannel.SameEnd.refl _) hserver
    · refine Or.inr (Or.inr (Or.inr ⟨hunanswered.opening, hunanswered.toServer,
        fun received hreceived => ?_⟩))
      rcases List.mem_append.mp hreceived with hearlier | hlater
      · exact hunanswered.toClient received hearlier
      · exact (hwritten received hlater).1

/-! ## The client reads -/

theorem finishOpen_security (c : ClientSecureChannel ssl) (frame : ByteString) :
    (c.finishOpen frame).1.security = c.security := by
  unfold ClientSecureChannel.finishOpen ClientSecureChannel.adopt
  repeat' split
  all_goals rfl

theorem clientReceives_inOrder {l : ChannelLink ssl} (h : l.InOrder)
    (hgood : l.AnsweredGood .clientReceives) : l.clientReceives.InOrder := by
  cases htoClient : l.toClient with
  | nil => simpa [clientReceives, htoClient] using h
  | cons received rest =>
      have hanswer : l.opening = true → received = .openAnswer received.bytes ∧
          (l.client.finishOpen received.bytes).2 = Status.good := by
        intro hopening
        exact hgood hopening received (by simp [htoClient])
      have hnoAnswer : l.opening = true →
          (∀ response ∈ l.toClient, response = .response response.bytes) →
            False := by
        intro hopening hresponses
        have hresponse := hresponses received (by simp [htoClient])
        rw [(hanswer hopening).1] at hresponse
        exact absurd hresponse (by simp)
      rcases h.phase with hidle | hasked | hanswered | hunanswered
      · have hqueue := hidle.toClient
        rw [htoClient] at hqueue
        have hstep : l.clientReceives = { l with toClient := rest } := by
          simp [clientReceives, htoClient, hidle.opening]
        rw [hstep]
        refine ⟨h.policy, Or.inl ⟨hidle.opening, hidle.plain, hidle.toServer,
          fun response hresponse => hqueue response
            (List.mem_cons_of_mem _ hresponse), hidle.agree, ?_⟩⟩
        intro hfresh
        exact absurd (htoClient.symm.trans (hidle.fresh hfresh).2.2.1)
          (List.cons_ne_nil _ _)
      · exact (hnoAnswer hasked.opening hasked.toClient).elim
      · obtain ⟨before, answer, after, hqueue, hbefore, hafter, hagree⟩ :=
          hanswered.toClient
        obtain ⟨hshape, hstatus⟩ := hanswer hanswered.opening
        have hnone : before = [] := by
          cases before with
          | nil => rfl
          | cons first more =>
              obtain rfl : received = first := by
                rw [htoClient] at hqueue
                exact (List.cons.inj hqueue).1
              have hresponse := hbefore received List.mem_cons_self
              rw [hshape] at hresponse
              exact absurd hresponse (by simp)
        rw [hnone, List.nil_append, htoClient] at hqueue
        obtain ⟨rfl, rfl⟩ := List.cons.inj hqueue
        have hagreed := hagree hstatus
        have hsecurity := finishOpen_security l.client answer
        have hstep : l.clientReceives =
            { l with
              client := (l.client.finishOpen answer).1
              toClient := rest
              opening := false
              established := true } := by
          have hdone : (l.client.finishOpen answer).2 = Status.good := hstatus
          simp [clientReceives, htoClient, hanswered.opening, ServerFrame.bytes,
            hdone]
        rw [hstep]
        refine ⟨by rw [hsecurity]; exact h.policy, Or.inl ⟨rfl, ?_, ?_, hafter,
          fun _ => hagreed, fun hfresh => absurd hfresh (by simp)⟩⟩
        · intro hplain
          exact hagreed.secured.trans hplain.not_signAndEncrypt
        · intro message hmessage
          rw [hanswered.toServer] at hmessage
          exact absurd hmessage List.not_mem_nil
      · exact (hnoAnswer hunanswered.opening hunanswered.toClient).elim

/-! ## Runs -/

theorem step_inOrder {l : ChannelLink ssl} (h : l.InOrder)
    (event : ChannelEvent) (hgood : l.AnsweredGood event) :
    (l.step event).InOrder := by
  cases event with
  | openChannel around requestType requestedLifetimeMs =>
      exact openChannel_inOrder h around requestType requestedLifetimeMs
  | send requestId body =>
      cases hopening : l.opening with
      | true => simpa [step, hopening] using h
      | false => simpa [step, hopening] using send_inOrder h hopening requestId body
  | close =>
      cases hopening : l.opening with
      | true => simpa [step, hopening] using h
      | false => simpa [step, hopening] using close_inOrder h hopening
  | serverReceives around => exact serverReceives_inOrder h around
  | serverResponds index body => exact serverResponds_inOrder h index body
  | clientReceives => exact clientReceives_inOrder h hgood

/-- In every run whose exchanges are all answered well, the ends agree once an
exchange is over, a message which the server is about to read passes its check
of the ids, and so does a response which the client is about to read between
exchanges. -/
theorem ends_agree {security : ClientSecurity ssl}
    {config : Option (SecureChannelServerConfig ssl)}
    (hpolicy : security.Plain ∨ security.Secured config)
    (events : List ChannelEvent)
    (hgood : AllMeet step AnsweredGood (start security config) events) :
    let l := runFrom step (start security config) events
    (l.opening = false → l.established = true → Agree l.client l.server) ∧
      (∀ frame, l.toServer.head? = some (.message frame) →
        PassesServer l.server frame) ∧
      (∀ frame, l.toClient.head? = some (.response frame) →
        l.opening = false → PassesClient l.client frame) := by
  intro l
  have h : l.InOrder := runFrom_invariant (P := InOrder)
    (fun _ event hl hevent => step_inOrder hl event hevent)
    (start_inOrder hpolicy) hgood
  refine ⟨fun hopening => (h.idle hopening).agree, ?_, ?_⟩
  · intro frame hhead
    obtain ⟨rest, htoServer⟩ := List.head?_eq_some_iff.mp hhead
    rcases h.phase with hidle | hasked | hanswered | hunanswered
    · exact (hidle.toServer _ (by rw [htoServer]; exact List.mem_cons_self)).2.passes
    · obtain ⟨messages, openFrame, hqueue, hmessages, -⟩ := hasked.toServer
      cases messages with
      | nil => simp [htoServer] at hqueue
      | cons first more =>
          rw [htoServer] at hqueue
          obtain ⟨rfl, -⟩ := List.cons.inj hqueue
          exact (hmessages _ List.mem_cons_self).2.passes
    · simp [hanswered.toServer] at htoServer
    · simp [hunanswered.toServer] at htoServer
  · intro frame hhead hopening
    have hidle := h.idle hopening
    obtain ⟨rest, htoClient⟩ := List.head?_eq_some_iff.mp hhead
    obtain ⟨-, hwrites⟩ := hidle.toClient _
      (by rw [htoClient]; exact List.mem_cons_self)
    cases hestablished : l.established with
    | true => exact hwrites.passes (hidle.agree hestablished)
    | false =>
        exact absurd (htoClient.symm.trans (hidle.fresh hestablished).2.2.1)
          (List.cons_ne_nil _ _)

theorem sample_secured :
    (sampleClient 9).security.Secured sampleServer.config where
  policy := rfl
  mode := rfl
  certificate accepted haccepted := by
    obtain rfl := Option.some.inj haccepted
    rfl
  serverKeys accepted haccepted publicKey hpublic := by
    obtain rfl := Option.some.inj haccepted
    obtain rfl := Option.some.inj hpublic
    rintro _ ⟨⟩ _ ⟨⟩
    exact sampleSsl_keyPair 7
  clientKeys der hder publicKey hpublic := by
    obtain rfl := Option.some.inj hder
    obtain rfl := Option.some.inj hpublic
    rintro _ ⟨⟩ _ ⟨⟩
    exact sampleSsl_keyPair 9

/-- One evaluation of a renewal, for everything that is asked of it. -/
theorem renewal_answered :
    let fresh := start (sampleClient 9).security sampleServer.config
    let events := [.openChannel sampleSurroundings .issue 60000,
      .serverReceives sampleSurroundings, .clientReceives,
      .openChannel sampleSurroundings .renew 60000,
      .serverReceives sampleSurroundings, .clientReceives]
    AllMeet step AnsweredGood fresh events ∧
      (runFrom step fresh events).opening = false ∧
      (runFrom step fresh events).established = true := by
  decide +kernel

theorem renewed_ends_agree :
    let l := runFrom step (start (sampleClient 9).security sampleServer.config)
      [.openChannel sampleSurroundings .issue 60000,
        .serverReceives sampleSurroundings, .clientReceives,
        .openChannel sampleSurroundings .renew 60000,
        .serverReceives sampleSurroundings, .clientReceives]
    Agree l.client l.server := by
  obtain ⟨hgood, hidle, hestablished⟩ := renewal_answered
  exact (ends_agree (Or.inr sample_secured) _ hgood).1 hidle hestablished

end ChannelLink

end Binary
end OpcuaStack
