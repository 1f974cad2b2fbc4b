import OpcuaStack.ClientLink
import OpcuaStack.ClientProtocolSubscription

/-!
# The coroutines in a connection of the client

The objects which `ClientSession::ConnectAsync` makes for one connection, and the
coroutines which use them.  Each coroutine calls the channel, in `Send` and then in
`Receive`, and goes on with the status which it makes of the response.
-/

namespace OpcuaStack

/-- The coroutines which use the objects of a connection: an operation of the
session, the stages of a `ConnectAsync`, a `DisconnectAsync` with the operations
outstanding when it was called, and those of the subscription. -/
inductive ClientCoroutine where
  | operation (id : ℕ)
  | createSession
  | activateSession
  | readNamespaceArray
  | closeSession (outstanding : List ℕ)
  | createSubscription
  | publish
  | monitoredItem
deriving DecidableEq

abbrev BadStatus := { status : Status // status.isBad = true }

def ReceiveOutcome.status : ReceiveOutcome Status → Status
  | .response status => status
  | .failed status => status
  | .movedFrom => .ofCode .bad

/-- Where `ClientConnection::Open` is suspended. -/
inductive OpenStage where
  | openingTransport
  | writingHello
  | readingAcknowledge
  | writingOpen
  | readingOpen
deriving DecidableEq

def OpenStage.next : OpenStage → Option OpenStage
  | .openingTransport => some .writingHello
  | .writingHello => some .readingAcknowledge
  | .readingAcknowledge => some .writingOpen
  | .writingOpen => some .readingOpen
  | .readingOpen => none

/-- Where `ClientConnection::Close` is suspended. -/
inductive CloseStage where
  | writingClose
  | closingTransport
deriving DecidableEq

structure ClosingConnection where
  outstanding : List ℕ
  stage : CloseStage
deriving DecidableEq

/-- `ClientSubscription` with its `impl_`.  A coroutine which has been spawned has
the subscription weakly and nothing else. -/
structure SubscriptionState where
  isCreating : Bool := false
  implemented : Bool := false
  isCreated : Bool := false
  creationSpawned : Bool := false
  publishLoopRunning : Bool := false
  publishLoopSpawned : Bool := false
  outstandingPublishes : List (UInt32 × UInt32) := []

/-- `session_`, `channel_`, `connection_`, `secure_channel_` and `transport_`, with
the coroutines in them.  The callers in `Receive` wait for a response, have it, or
have lost the place where it would be put: the end of another call under the same id
erases it. -/
structure ClientStack where
  link : ClientLink ClientCoroutine Status := { nextRequestId := 1 }
  nextRequestHandle : UInt32 := 1
  opened : Bool := false
  isActive : Bool := false
  waiting : KeyedMap UInt32 (List ClientCoroutine) := ∅
  ready : List ClientCoroutine := []
  lost : List ClientCoroutine := []
  opening : Option OpenStage := none
  closing : List ClosingConnection := []
  subscription : SubscriptionState := {}

/-- A coroutine whose call is over, and the status it goes on with. -/
abbrev CallReturn := Option (ClientCoroutine × Status)

/-- A suspended call of the channel goes on, or a frame comes from the server. -/
inductive ChannelEvent where
  | resumeSend (index : ℕ)
  | writeFinished (index : ℕ)
  | writeFailed (index : ℕ) (status : BadStatus)
  | renewalReads (index : ℕ)
  | renewalReadFailed (index : ℕ) (status : BadStatus)
  | resumeReceive (index : ℕ)
  | startReadLoop (index : ℕ)
  | loopReads (index : ℕ)
  | loopReadFailed (index : ℕ) (status : BadStatus)
  | answer (index chunks : ℕ) (body : Status)
  | answerRenewal (serviceResult : Status)

namespace ClientStack

/-! ## Calls -/

/-- `SendServiceRequest` refuses on a channel which is not open, and the send turn
is released again. -/
def refuseSend (k : ClientStack) : ClientStack :=
  { k with
    link :=
      { k.link with
        nextRequestId := k.link.nextRequestId + 1
        channel := k.link.channel.releaseSendTurn } }

/-- `Send` from the moment it looks at the send turn. -/
def takeTurn (k : ClientStack) (message : ClientRequest ClientCoroutine)
    (due : Bool) : ClientStack × CallReturn :=
  if k.opened || k.link.channel.sendInProgress then
    ({ k with link := k.link.takeTurn message (due && k.opened) }, none)
  else
    (k.refuseSend, some (message.body, .ofCode .badNoCommunication))

/-- `NextRequestHandle` and `Send`. -/
def send (k : ClientStack) (coroutine : ClientCoroutine) (due : Bool) :
    ClientStack × CallReturn :=
  { k with nextRequestHandle := k.nextRequestHandle + 1 }.takeTurn
    { requestHandle := k.nextRequestHandle, body := coroutine } due

/-- `Receive`. -/
def receive (k : ClientStack) (coroutine : ClientCoroutine)
    (requestId requestHandle : UInt32) : ClientStack × CallReturn :=
  let link :=
    { k.link with channel := k.link.channel.receive requestId requestHandle }
  match k.link.channel.bufferedResponses.lookup requestId with
  | some buffered =>
      ({ k with link },
        some (coroutine,
          if buffered.requestHandle ≠ requestHandle then .ofCode .bad
          else buffered.body))
  | none =>
      ({ k with
          link
          waiting := k.waiting.insert requestId
            ((k.waiting.lookup requestId).getD [] ++ [coroutine]) },
        none)

/-- `ClientProtocolSubscription::Publish`: the window is filled, and the oldest
request received. -/
def publish (k : ClientStack) (due : Bool) : ClientStack × CallReturn :=
  match k.subscription.outstandingPublishes with
  | [] => k.send .publish due
  | (requestId, requestHandle) :: rest =>
      if rest.length + 1 < maxOutstandingPublishRequests then k.send .publish due
      else
        { k with
          subscription :=
            { k.subscription with outstandingPublishes := rest }
          }.receive .publish requestId requestHandle

/-- A coroutine whose request has been sent.  The publish loop goes on filling its
window, and any other receives its response. -/
def sent (k : ClientStack) (message : ClientRequest ClientCoroutine)
    (requestId : UInt32) (due : Bool) : ClientStack × CallReturn :=
  match message.body with
  | .publish =>
      { k with
        subscription :=
          { k.subscription with
            outstandingPublishes := k.subscription.outstandingPublishes ++
              [(requestId, message.requestHandle)] }
        }.publish due
  | coroutine => k.receive coroutine requestId message.requestHandle

/-! ## The suspended sends -/

def resumeSend (k : ClientStack) (index : ℕ) (due : Bool) :
    ClientStack × CallReturn :=
  match k.link.channel.wokenSenders[index]? with
  | none => (k, none)
  | some message =>
      { k with
        link :=
          { k.link with
            channel :=
              { k.link.channel with
                wokenSenders := k.link.channel.wokenSenders.eraseIdx index } }
        }.takeTurn message due

def writeFinished (k : ClientStack) (index : ℕ) (due : Bool) :
    ClientStack × CallReturn :=
  let next := { k with link := k.link.writeFinished index }
  match k.link.channel.activeSends[index]? with
  | some { message, stage := .writingRequest requestId } =>
      next.sent message requestId due
  | _ => (next, none)

def writeFailed (k : ClientStack) (index : ℕ) (status : Status) :
    ClientStack × CallReturn :=
  match k.link.channel.activeSends[index]? with
  | none => (k, none)
  | some { stage := .readingOpen, .. } => (k, none)
  | some { message, .. } =>
      ({ k with link := k.link.writeFailed index status },
        some (message.body, status))

/-- A renewal opens the secure channel again if it has been closed meanwhile. -/
def renewalReads (k : ClientStack) (index : ℕ) : ClientStack × CallReturn :=
  match k.link.channel.activeSends[index]?, k.link.incoming with
  | some { message, stage := .readingOpen }, frame :: _ =>
      let next := { k with link := k.link.renewalReads index }
      if (ClientLink.renewalStatus frame).isBad then
        (next, some (message.body, ClientLink.renewalStatus frame))
      else ({ next with opened := true }, none)
  | _, _ => (k, none)

def renewalReadFailed (k : ClientStack) (index : ℕ) (status : Status) :
    ClientStack × CallReturn :=
  match k.link.channel.activeSends[index]? with
  | some { message, stage := .readingOpen } =>
      ({ k with link := k.link.renewalReadFailed index status },
        some (message.body, status))
  | _ => (k, none)

/-! ## The suspended receives -/

/-- The pending response under the id is completed. -/
def completeOne (k : ClientStack) (requestId : UInt32) : ClientStack :=
  { k with
    ready := k.ready ++ (k.waiting.lookup requestId).getD []
    waiting := k.waiting.erase requestId }

/-- Every pending response is completed. -/
def completeAll (k : ClientStack) : ClientStack :=
  { k with
    ready := k.ready ++ k.waiting.entries.flatMap Sigma.snd
    waiting := ∅ }

/-- The rest of `Receive`, which erases what is pending under its id by then. -/
def resumeReceive (k : ClientStack) (index : ℕ) : ClientStack × CallReturn :=
  match k.ready[index]?, k.link.channel.readyReceives[index]? with
  | some coroutine, some (requestId, outcome) =>
      ({ k with
          link := { k.link with channel := k.link.channel.resumeReceive index }
          ready := k.ready.eraseIdx index
          lost := k.lost ++ (k.waiting.lookup requestId).getD []
          waiting := k.waiting.erase requestId },
        some (coroutine, outcome.status))
  | _, _ => (k, none)

/-! ## The read loop -/

/-- `ReadServiceResponse` refuses on a channel which is not open. -/
def refuseRead (k : ClientStack) (index : ℕ) : ClientStack :=
  if k.opened then k
  else
    match k.link.channel.readLoops[index]? with
    | some (.reading 0) =>
        { k with link := k.link.failRead index (.ofCode .badNoCommunication)
          }.completeAll
    | _ => k

def startReadLoop (k : ClientStack) (index : ℕ) : ClientStack :=
  match k.link.channel.readLoops[index]? with
  | some .spawned =>
      { k with link := k.link.startReadLoop index }.refuseRead index
  | _ => k

def loopReads (k : ClientStack) (index : ℕ) : ClientStack :=
  match k.link.channel.readLoops[index]?, k.link.incoming with
  | some (.reading chunkIndex), frame :: _ =>
      let next := { k with link := k.link.loopReads index }
      match frame with
      | .openResponse _ => next.completeAll
      | .intermediateChunk _ =>
          if maxResponseChunks ≤ chunkIndex + 1 then next.completeAll else next
      | .finalChunk response =>
          (next.completeOne response.requestId).refuseRead index
  | _, _ => k

def loopReadFailed (k : ClientStack) (index : ℕ) (status : Status) :
    ClientStack :=
  match k.link.channel.readLoops[index]? with
  | some (.reading _) =>
      { k with link := k.link.loopReadFailed index status }.completeAll
  | _ => k

/-- One coroutine runs from its suspension on, and may return from its call. -/
def advance (k : ClientStack) (due : Bool) :
    ChannelEvent → ClientStack × CallReturn
  | .resumeSend index => k.resumeSend index due
  | .writeFinished index => k.writeFinished index due
  | .writeFailed index status => k.writeFailed index status
  | .renewalReads index => k.renewalReads index
  | .renewalReadFailed index status => k.renewalReadFailed index status
  | .resumeReceive index => k.resumeReceive index
  | .startReadLoop index => (k.startReadLoop index, none)
  | .loopReads index => (k.loopReads index, none)
  | .loopReadFailed index status => (k.loopReadFailed index status, none)
  | .answer index chunks body =>
      ({ k with link := k.link.answer index chunks body }, none)
  | .answerRenewal serviceResult =>
      ({ k with link := k.link.answerRenewal serviceResult }, none)

/-- `ClientConnection::Close` up to its suspension. -/
def closeConnection (k : ClientStack) (outstanding : List ℕ) : ClientStack :=
  if k.opened then
    { k with
      link := { k.link with nextRequestId := k.link.nextRequestId + 1 }
      closing := k.closing ++ [{ outstanding, stage := .writingClose }] }
  else
    { k with closing := k.closing ++ [{ outstanding, stage := .closingTransport }] }

end ClientStack
end OpcuaStack
