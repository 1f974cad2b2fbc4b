import OpcuaStack.OpenExchange

/-!
# A client and a server over a link

The frames between the two ends of a secure channel are read in the order in
which they were written.  The client opens or renews the channel when no
exchange is under way, and sends messages between exchanges; the server answers
the requests which it delivered, at any later time.
-/

namespace OpcuaStack
namespace Binary

variable {ssl : OpenSsl}

inductive ClientFrame where
  | openRequest (frame : ByteString)
  | message (frame : ByteString)

inductive ServerFrame where
  | openAnswer (frame : ByteString)
  | response (frame : ByteString)
deriving DecidableEq

def ClientFrame.bytes : ClientFrame → ByteString
  | .openRequest frame | .message frame => frame

def ServerFrame.bytes : ServerFrame → ByteString
  | .openAnswer frame | .response frame => frame

/-- The two ends with the frames between them.  The client waits for the answer
to an OPN while it is opening; an exchange which was answered well establishes
the channel.  The server works on the requests it has delivered. -/
structure ChannelLink (ssl : OpenSsl) where
  client : ClientSecureChannel ssl
  server : SecureChannel ssl
  toServer : List ClientFrame := []
  toClient : List ServerFrame := []
  opening : Bool := false
  established : Bool := false
  servicing : List UInt32 := []
  serverClosed : Bool := false

inductive ChannelEvent where
  | openChannel (around : Surroundings) (requestType : SecurityTokenRequestType)
      (requestedLifetimeMs : UInt32)
  | send (requestId : UInt32) (body : ByteString)
  | close
  | serverReceives (around : Surroundings)
  | serverResponds (index : ℕ) (body : ByteString)
  | clientReceives

namespace ChannelLink

/-- The link before the first exchange. -/
def start (security : ClientSecurity ssl)
    (config : Option (SecureChannelServerConfig ssl)) : ChannelLink ssl :=
  { client := { security }, server := { config } }

/-- `Open` or `Renew` up to the frame it writes; `Renew` needs a channel. -/
def openChannel (l : ChannelLink ssl) (around : Surroundings)
    (requestType : SecurityTokenRequestType) (requestedLifetimeMs : UInt32) :
    ChannelLink ssl :=
  if l.opening ∨ (requestType = .renew ∧ l.client.opened = false) then
    l
  else
    match l.client.beginOpen around requestType requestedLifetimeMs with
    | (client, none) => { l with client }
    | (client, some frame) =>
        { l with
          client
          toServer := l.toServer ++ [.openRequest frame]
          opening := true }

/-- The frames of a message which could be built. -/
def write (l : ChannelLink ssl)
    (built : ClientSecureChannel ssl × Option ByteString) : ChannelLink ssl :=
  { l with
    client := built.1
    toServer := l.toServer ++ (built.2.map ClientFrame.message).toList }

/-- `ProcessFrame`: an outbound frame is written, a request goes to its
service, and nothing is read after the transport was closed. -/
def serverReceives (l : ChannelLink ssl) (around : Surroundings) :
    ChannelLink ssl :=
  match l.toServer with
  | [] => l
  | frame :: rest =>
      if l.serverClosed then
        l
      else
        let (server, result) := l.server.handleFrame around frame.bytes
        { l with
          server
          toServer := rest
          toClient := l.toClient ++
            ((result.outboundFrame.filter (!·.isEmpty)).map
              ServerFrame.openAnswer).toList
          servicing := l.servicing ++
            (if result.servicePayload.isSome then result.requestId.toList
              else [])
          serverClosed := result.closeTransport }

/-- `StartServiceFrame` from the answer of the service on; a frame which could
not be secured has no bytes to write. -/
def serverResponds (l : ChannelLink ssl) (index : ℕ) (body : ByteString) :
    ChannelLink ssl :=
  match l.servicing[index]? with
  | none => l
  | some requestId =>
      let (server, frame) := l.server.buildServiceResponse requestId body
      { l with
        server
        toClient := l.toClient ++
          if frame.isEmpty then [] else [.response frame]
        servicing := l.servicing.eraseIdx index }

def clientReceives (l : ChannelLink ssl) : ChannelLink ssl :=
  match l.toClient with
  | [] => l
  | frame :: rest =>
      if l.opening then
        let (client, status) := l.client.finishOpen frame.bytes
        { l with
          client
          toClient := rest
          opening := false
          established := l.established || status == Status.good }
      else
        { l with toClient := rest }

def step (l : ChannelLink ssl) : ChannelEvent → ChannelLink ssl
  | .openChannel around requestType requestedLifetimeMs =>
      l.openChannel around requestType requestedLifetimeMs
  | .send requestId body =>
      if l.opening then l else l.write (l.client.buildServiceRequest requestId body)
  | .close => if l.opening then l else l.write l.client.close
  | .serverReceives around => l.serverReceives around
  | .serverResponds index body => l.serverResponds index body
  | .clientReceives => l.clientReceives

/-- An exchange which ends here ends with the answer of the server, and well. -/
def AnsweredGood (l : ChannelLink ssl) : ChannelEvent → Prop
  | .clientReceives => l.opening = true → ∀ received ∈ l.toClient.head?,
      received = .openAnswer received.bytes ∧
        (l.client.finishOpen received.bytes).2 = Status.good
  | _ => True

instance (l : ChannelLink ssl) :
    (event : ChannelEvent) → Decidable (l.AnsweredGood event)
  | .clientReceives => inferInstanceAs (Decidable (_ → _))
  | .openChannel _ _ _ | .send _ _ | .close | .serverReceives _
  | .serverResponds _ _ => inferInstanceAs (Decidable True)

end ChannelLink

/-! ## The checks of the ids -/

/-- The check of the channel id and the token id in `HandleSecureMessage`. -/
def SecureChannel.checksIds (s : SecureChannel ssl) (frame : ByteString) :
    Bool :=
  if s.basic256Active then
    namesToken s.channelId s.tokenId frame
  else
    match decodeSecureConversationMessage frame with
    | none => false
    | some message =>
        match message.symmetricSecurityHeader with
        | none => false
        | some header =>
            message.secureChannelId == s.channelId &&
              (header.tokenId == s.tokenId ||
                (s.previousTokenId != 0 && header.tokenId == s.previousTokenId))

/-- The check of the channel id and the token id in
`DecodeServiceMessageChunk`. -/
def ClientSecureChannel.checksIds (c : ClientSecureChannel ssl)
    (frame : ByteString) : Bool :=
  if c.usesSignAndEncrypt then
    namesToken c.channelId c.tokenId frame
  else
    match decodeSecureConversationMessage frame with
    | none => false
    | some message => c.namesPlainToken message

/-! ## Frames which carry ids -/

/-- A frame with the ids in its header, of a type which is known. -/
structure Carries (secured : Bool) (messageType : MessageType)
    (channelId tokenId : UInt32) (frame : ByteString) : Prop where
  type : ∀ read, frameType frame = some read → messageType = read
  named : namesToken channelId tokenId frame = true
  plain : secured = false → frame.length < 2 ^ 32 →
    ∃ message, decodeSecureConversationMessage frame = some message ∧
      message.frameHeader.messageType = messageType ∧
      message.secureChannelId = channelId ∧
      message.symmetricSecurityHeader = some { tokenId }

theorem carries_sealSymmetric {keys : DerivedKeys} {messageType : MessageType}
    {channelId tokenId : UInt32} {sequence : SequenceHeader}
    {body frame : ByteString}
    (h : sealSymmetric ssl keys messageType channelId tokenId sequence body =
      some frame) :
    Carries true messageType channelId tokenId frame where
  type read hread := by
    obtain ⟨_, _, _, ciphertext, _, _, _, _, rfl⟩ := sealSymmetric_spec h
    rw [symmetricHeader, List.append_assoc] at hread
    exact frameType_append_eq hread
  named := namesToken_sealSymmetric h
  plain hplain := absurd hplain (by decide)

theorem carries_encode {messageType : MessageType}
    (htype : messageType ≠ .secureOpen) (channelId tokenId : UInt32)
    (sequenceHeader : SequenceHeader) (body : ByteString) :
    Carries false messageType channelId tokenId
      (encodeSecureConversationMessage
        { frameHeader := { messageType }
          secureChannelId := channelId
          symmetricSecurityHeader := some { tokenId }
          sequenceHeader
          body }) where
  type read hread := by
    rw [encodeSecureConversationMessage_eq] at hread
    exact frameType_append_eq hread
  named := by
    rw [encodeSecureConversationMessage_eq, encodeSecurityHeader, if_neg htype,
      List.append_assoc]
    exact namesToken_append _ channelId tokenId _
  plain _ hsize := by
    refine ⟨_, decodeSecureConversationMessage_encode
      ⟨fun hopen => absurd hopen htype, fun _ => ⟨rfl, _, rfl⟩, hsize⟩, ?_⟩
    exact ⟨rfl, rfl, rfl⟩

end Binary
end OpcuaStack
