import OpcuaStack.ClientChannel
import OpcuaStack.GuardedRun

/-!
# The client channel on its connection

One client channel, the frames which travel to and from the server, and a server
which answers what it has received in any order.  The renewal of a security
token (`ClientSecureChannel::OpenSecureChannel`) reads its response straight off
the transport.  The record of a run keeps what the server answered, what each
reader made of it, and the failures.
-/

namespace OpcuaStack

/-- A service request as `ClientConnection::SendRequest` puts it on the wire. -/
structure SentRequest (ρ : Type) where
  requestId : UInt32
  authenticationToken : NodeId
  message : ClientRequest ρ
deriving DecidableEq

/-- What has happened on the link so far. -/
structure LinkRecord (α : Type) where
  answered : List (ClientResponseFrame α) := []
  delivered : List (ClientResponseFrame α) := []
  renewalReads : List (WireFrame α) := []
  failedRenewals : List Status := []
  failedReads : List Status := []
deriving DecidableEq

structure ClientLink (ρ α : Type) where
  channel : ClientChannel ρ α := {}
  nextRequestId : UInt32
  requests : List (SentRequest ρ) := []
  openRequests : ℕ := 0
  incoming : List (WireFrame α) := []
  record : LinkRecord α := {}

/-- A step of one of the coroutines, of the transport or of the server.  Sends
and loops are named by their place in the lists of the channel, and `due` is
what `ShouldRenewSecurityToken` says when a send asks it. -/
inductive LinkEvent (ρ α : Type) where
  | send (message : ClientRequest ρ) (due : Bool)
  | resumeSend (index : ℕ) (due : Bool)
  | writeFinished (index : ℕ)
  | writeFailed (index : ℕ) (status : Status)
  | renewalReads (index : ℕ)
  | renewalReadFailed (index : ℕ) (status : Status)
  | receive (requestId requestHandle : UInt32)
  | resumeReceive (index : ℕ)
  | startReadLoop (index : ℕ)
  | loopReads (index : ℕ)
  | loopReadFailed (index : ℕ) (status : Status)
  | answer (index chunks : ℕ) (body : α)
  | answerRenewal (serviceResult : Status)

/-- `kMaxResponseChunks`. -/
def maxResponseChunks : ℕ := 8192

namespace ClientLink

variable {ρ α : Type}

/-- `SendRequest`: the frame goes into the write queue, and the send waits until
it is written. -/
def startRequest (l : ClientLink ρ α) (message : ClientRequest ρ) :
    ClientLink ρ α :=
  { l with
    channel :=
      { l.channel with
        activeSends := l.channel.activeSends ++
          [{ message, stage := .writingRequest l.nextRequestId }] }
    nextRequestId := l.nextRequestId + 1
    requests := l.requests ++
      [{ requestId := l.nextRequestId
         authenticationToken := l.channel.authenticationToken
         message }] }

/-- `Renew`: `OpenSecureChannel` takes a request id of its own and writes its
request. -/
def startRenewal (l : ClientLink ρ α) (message : ClientRequest ρ) :
    ClientLink ρ α :=
  { l with
    channel :=
      { l.channel with
        activeSends := l.channel.activeSends ++
          [{ message, stage := .writingOpen }] }
    nextRequestId := l.nextRequestId + 1
    openRequests := l.openRequests + 1 }

/-- `Send` from the moment it looks at the send turn. -/
def takeTurn (l : ClientLink ρ α) (message : ClientRequest ρ) (due : Bool) :
    ClientLink ρ α :=
  if l.channel.sendInProgress then
    { l with
      channel :=
        { l.channel with
          sendWaiters := l.channel.sendWaiters ++ [message] } }
  else
    let l := { l with channel := { l.channel with sendInProgress := true } }
    if l.channel.noPendingResponses && due then l.startRenewal message
    else l.startRequest message

def resumeSend (l : ClientLink ρ α) (index : ℕ) (due : Bool) :
    ClientLink ρ α :=
  match l.channel.wokenSenders[index]? with
  | none => l
  | some message =>
      { l with
        channel :=
          { l.channel with
            wokenSenders := l.channel.wokenSenders.eraseIdx index }
        }.takeTurn message due

/-- The send at the index is over: it releases the turn and returns. -/
def finishSend (l : ClientLink ρ α) (index : ℕ) : ClientLink ρ α :=
  { l with
    channel :=
      { l.channel with
        activeSends := l.channel.activeSends.eraseIdx index
      }.releaseSendTurn }

/-- `Send` after `RenewSecurityToken` has failed. -/
def failRenewal (l : ClientLink ρ α) (index : ℕ) (status : Status) :
    ClientLink ρ α :=
  { l.finishSend index with
    record :=
      { l.record with
        failedRenewals := l.record.failedRenewals ++ [status] } }

/-- The write of the send at the index is done.  A renewal goes on to read its
response. -/
def writeFinished (l : ClientLink ρ α) (index : ℕ) : ClientLink ρ α :=
  match l.channel.activeSends[index]? with
  | some { message, stage := .writingOpen } =>
      { l with
        channel :=
          { l.channel with
            activeSends := l.channel.activeSends.set index
              { message, stage := .readingOpen } } }
  | some { stage := .writingRequest _, .. } => l.finishSend index
  | _ => l

def writeFailed (l : ClientLink ρ α) (index : ℕ) (status : Status) :
    ClientLink ρ α :=
  match l.channel.activeSends[index]? with
  | some { stage := .writingOpen, .. } => l.failRenewal index status
  | some { stage := .writingRequest _, .. } => l.finishSend index
  | _ => l

/-- The status which `OpenSecureChannel` makes of the frame it has read. -/
def renewalStatus : WireFrame α → Status
  | .openResponse serviceResult => serviceResult
  | _ => .ofCode .bad

/-- The renewal at the index gets the next frame.  After a good one the send goes
on with its request, still in its turn. -/
def renewalReads (l : ClientLink ρ α) (index : ℕ) : ClientLink ρ α :=
  match l.channel.activeSends[index]?, l.incoming with
  | some { message, stage := .readingOpen }, frame :: rest =>
      let l :=
        { l with
          incoming := rest
          record :=
            { l.record with
              renewalReads := l.record.renewalReads ++ [frame] } }
      if (renewalStatus frame).isBad then
        l.failRenewal index (renewalStatus frame)
      else
        { l with
          channel :=
            { l.channel with
              activeSends := l.channel.activeSends.eraseIdx index }
          }.startRequest message
  | _, _ => l

def renewalReadFailed (l : ClientLink ρ α) (index : ℕ) (status : Status) :
    ClientLink ρ α :=
  match l.channel.activeSends[index]? with
  | some { stage := .readingOpen, .. } => l.failRenewal index status
  | _ => l

/-- A bad read: `RunReadLoop` fails everything that is pending and ends. -/
def failRead (l : ClientLink ρ α) (index : ℕ) (status : Status) :
    ClientLink ρ α :=
  { l with
    channel := (l.channel.failPendingResponses status).endReadLoop index
    record :=
      { l.record with failedReads := l.record.failedReads ++ [status] } }

/-- `ReadServiceResponse` and the rest of a round of `RunReadLoop` with the next
frame. -/
def loopReads (l : ClientLink ρ α) (index : ℕ) : ClientLink ρ α :=
  match l.channel.readLoops[index]?, l.incoming with
  | some (.reading chunkIndex), frame :: rest =>
      let l := { l with incoming := rest }
      match frame with
      | .openResponse _ => l.failRead index (.ofCode .bad)
      | .intermediateChunk _ =>
          if maxResponseChunks ≤ chunkIndex + 1 then
            l.failRead index (.ofCode .bad)
          else
            { l with
              channel :=
                { l.channel with
                  readLoops :=
                    l.channel.readLoops.set index (.reading (chunkIndex + 1)) } }
      | .finalChunk response =>
          { l with
            channel :=
              (l.channel.deliverResponse response).continueReadLoop index
            record :=
              { l.record with
                delivered := l.record.delivered ++ [response] } }
  | _, _ => l

def loopReadFailed (l : ClientLink ρ α) (index : ℕ) (status : Status) :
    ClientLink ρ α :=
  match l.channel.readLoops[index]? with
  | some (.reading _) => l.failRead index status
  | _ => l

def startReadLoop (l : ClientLink ρ α) (index : ℕ) : ClientLink ρ α :=
  match l.channel.readLoops[index]? with
  | some .spawned => { l with channel := l.channel.continueReadLoop index }
  | _ => l

/-- The server answers the request at the index, which may be any of those it
has received. -/
def answer (l : ClientLink ρ α) (index chunks : ℕ) (body : α) :
    ClientLink ρ α :=
  match l.requests[index]? with
  | none => l
  | some request =>
      let response :=
        { requestId := request.requestId
          requestHandle := request.message.requestHandle
          body }
      { l with
        requests := l.requests.eraseIdx index
        incoming := l.incoming ++ WireFrame.chunksOf chunks response
        record :=
          { l.record with answered := l.record.answered ++ [response] } }

def answerRenewal (l : ClientLink ρ α) (serviceResult : Status) :
    ClientLink ρ α :=
  if l.openRequests = 0 then l
  else
    { l with
      openRequests := l.openRequests - 1
      incoming := l.incoming ++ [.openResponse serviceResult] }

def step (l : ClientLink ρ α) : LinkEvent ρ α → ClientLink ρ α
  | .send message due => l.takeTurn message due
  | .resumeSend index due => l.resumeSend index due
  | .writeFinished index => l.writeFinished index
  | .writeFailed index status => l.writeFailed index status
  | .renewalReads index => l.renewalReads index
  | .renewalReadFailed index status => l.renewalReadFailed index status
  | .receive requestId requestHandle =>
      { l with channel := l.channel.receive requestId requestHandle }
  | .resumeReceive index => { l with channel := l.channel.resumeReceive index }
  | .startReadLoop index => l.startReadLoop index
  | .loopReads index => l.loopReads index
  | .loopReadFailed index status => l.loopReadFailed index status
  | .answer index chunks body => l.answer index chunks body
  | .answerRenewal serviceResult => l.answerRenewal serviceResult

end ClientLink
end OpcuaStack
