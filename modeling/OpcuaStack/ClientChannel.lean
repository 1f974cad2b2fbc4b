import OpcuaStack.BuiltInTypes
import OpcuaStack.KeyedMap

/-!
# The client channel

The request and response layer of the client (`client/client_channel.cpp`) over
a binary connection whose channel is open.  A coroutine is cut where it
suspends, and a step runs one of them from a suspension to the next.  The frames
of the transport are read in the order in which the server wrote them; whichever
coroutine has a read outstanding may be the one that gets the next frame.
-/

namespace OpcuaStack

/-- `RequestMessage` as a client sends it.  The bodies of requests and responses
stay parameters, since the channel only hands them on. -/
structure ClientRequest (ρ : Type) where
  requestHandle : UInt32
  body : ρ
  traceParent : ByteText := []
deriving DecidableEq

/-- `ClientResponseFrame`, with the response message in it. -/
structure ClientResponseFrame (α : Type) where
  requestId : UInt32
  requestHandle : UInt32
  body : α
deriving DecidableEq

/-- A frame from the server: the response to an OpenSecureChannel request, or a
chunk of a service response, the last of which completes it. -/
inductive WireFrame (α : Type) where
  | openResponse (serviceResult : Status)
  | intermediateChunk (requestId : UInt32)
  | finalChunk (response : ClientResponseFrame α)
deriving DecidableEq

namespace WireFrame

variable {α : Type}

def isOpenResponse : WireFrame α → Bool
  | .openResponse _ => true
  | _ => false

/-- The response which the frame completes. -/
def completes : WireFrame α → Option (ClientResponseFrame α)
  | .finalChunk response => some response
  | _ => none

/-- The chunks in which the server writes a response. -/
def chunksOf (chunks : ℕ) (response : ClientResponseFrame α) :
    List (WireFrame α) :=
  List.replicate chunks (.intermediateChunk response.requestId) ++
    [.finalChunk response]

end WireFrame

structure BufferedResponse (α : Type) where
  requestHandle : UInt32
  body : α
deriving DecidableEq

/-- A pending response has the `Receive` calls that wait for it. -/
structure PendingResponse where
  requestHandle : UInt32
  receivers : ℕ
deriving DecidableEq

/-- What a `Receive` finds when it goes on.  A call that shares its pending
response with another one may come after that one has moved the response out. -/
inductive ReceiveOutcome (α : Type) where
  | response (body : α)
  | failed (status : Status)
  | movedFrom
deriving DecidableEq

/-- Where a `Send` which has the send turn is suspended. -/
inductive SendStage where
  | writingOpen
  | readingOpen
  | writingRequest (requestId : UInt32)
deriving DecidableEq

/-- The renewal of the token has begun and has not returned. -/
def SendStage.isRenewing : SendStage → Bool
  | .writingRequest _ => false
  | _ => true

structure ActiveSend (ρ : Type) where
  message : ClientRequest ρ
  stage : SendStage
deriving DecidableEq

/-- A read loop which has been spawned and has not run yet, or one which waits
for a frame after so many chunks of a response. -/
inductive ReadLoop where
  | spawned
  | reading (chunkIndex : ℕ)
deriving DecidableEq

def ReadLoop.isReading : ReadLoop → Bool
  | .spawned => false
  | .reading _ => true

def ActiveSend.isReading {ρ : Type} (send : ActiveSend ρ) : Bool :=
  send.stage == .readingOpen

def ActiveSend.isRenewing {ρ : Type} (send : ActiveSend ρ) : Bool :=
  send.stage.isRenewing

/-- `class ClientChannel` with the coroutines which run in it: the sends that
wait for the turn, those woken to try again, those that have it, the read loops,
and the receives whose response is ready. -/
structure ClientChannel (ρ α : Type) where
  authenticationToken : NodeId := {}
  bufferedResponses : KeyedMap UInt32 (BufferedResponse α) := ∅
  pendingResponses : KeyedMap UInt32 PendingResponse := ∅
  readLoopRunning : Bool := false
  sendInProgress : Bool := false
  sendWaiters : List (ClientRequest ρ) := []
  wokenSenders : List (ClientRequest ρ) := []
  activeSends : List (ActiveSend ρ) := []
  readLoops : List ReadLoop := []
  readyReceives : List (UInt32 × ReceiveOutcome α) := []

namespace ClientChannel

variable {ρ α : Type}

def noPendingResponses (ch : ClientChannel ρ α) : Bool :=
  ch.pendingResponses.entries.isEmpty

/-- `ReleaseSendTurn`: the first waiter is woken, and looks at the turn again
when it runs. -/
def releaseSendTurn (ch : ClientChannel ρ α) : ClientChannel ρ α :=
  { ch with
    sendInProgress := false
    sendWaiters := ch.sendWaiters.tail
    wokenSenders := ch.wokenSenders ++ ch.sendWaiters.head?.toList }

/-- `EnsureReadLoop`. -/
def ensureReadLoop (ch : ClientChannel ρ α) : ClientChannel ρ α :=
  if ch.readLoopRunning then ch
  else
    { ch with
      readLoopRunning := true
      readLoops := ch.readLoops ++ [.spawned] }

/-- The end of `RunReadLoop`. -/
def endReadLoop (ch : ClientChannel ρ α) (index : ℕ) : ClientChannel ρ α :=
  let ch :=
    { ch with
      readLoopRunning := false
      readLoops := ch.readLoops.eraseIdx index }
  if ch.noPendingResponses then ch else ch.ensureReadLoop

/-- The head of the loop in `RunReadLoop`: the next response is read while any
is pending. -/
def continueReadLoop (ch : ClientChannel ρ α) (index : ℕ) :
    ClientChannel ρ α :=
  if ch.noPendingResponses then ch.endReadLoop index
  else { ch with readLoops := ch.readLoops.set index (.reading 0) }

/-- The receives that a completed pending response lets go on. -/
def completed (requestId : UInt32) (pending : PendingResponse)
    (outcome : ReceiveOutcome α) : List (UInt32 × ReceiveOutcome α) :=
  (requestId, outcome) ::
    List.replicate (pending.receivers - 1) (requestId, .movedFrom)

/-- `DeliverResponse`. -/
def deliverResponse (ch : ClientChannel ρ α)
    (frame : ClientResponseFrame α) : ClientChannel ρ α :=
  match ch.pendingResponses.lookup frame.requestId with
  | some pending =>
      let outcome :=
        if frame.requestHandle ≠ pending.requestHandle then
          .failed (.ofCode .bad)
        else .response frame.body
      { ch with
        pendingResponses := ch.pendingResponses.erase frame.requestId
        readyReceives :=
          ch.readyReceives ++ completed frame.requestId pending outcome }
  | none =>
      -- `emplace` leaves a response already buffered under the id alone.
      match ch.bufferedResponses.lookup frame.requestId with
      | some _ => ch
      | none =>
          { ch with
            bufferedResponses := ch.bufferedResponses.insert frame.requestId
              { requestHandle := frame.requestHandle, body := frame.body } }

/-- `FailPendingResponses`. -/
def failPendingResponses (ch : ClientChannel ρ α) (status : Status) :
    ClientChannel ρ α :=
  { ch with
    pendingResponses := ∅
    readyReceives := ch.readyReceives ++
      ch.pendingResponses.entries.flatMap fun entry =>
        completed entry.1 entry.2 (.failed status) }

/-- `Receive` up to its suspension.  A response which is already buffered is
returned at once, unless it answers another request handle. -/
def receive (ch : ClientChannel ρ α) (requestId requestHandle : UInt32) :
    ClientChannel ρ α :=
  match ch.bufferedResponses.lookup requestId with
  | some buffered =>
      if buffered.requestHandle ≠ requestHandle then ch
      else
        { ch with bufferedResponses := ch.bufferedResponses.erase requestId }
  | none =>
      let receivers :=
        match ch.pendingResponses.lookup requestId with
        | some pending => pending.receivers
        | none => 0
      { ch with
        pendingResponses := ch.pendingResponses.insert requestId
          { requestHandle, receivers := receivers + 1 } }.ensureReadLoop

/-- The rest of `Receive`, for the receive at the index. -/
def resumeReceive (ch : ClientChannel ρ α) (index : ℕ) : ClientChannel ρ α :=
  match ch.readyReceives[index]? with
  | none => ch
  | some (requestId, _) =>
      { ch with
        pendingResponses := ch.pendingResponses.erase requestId
        readyReceives := ch.readyReceives.eraseIdx index }

end ClientChannel
end OpcuaStack
