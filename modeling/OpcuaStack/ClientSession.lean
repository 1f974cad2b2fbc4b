import OpcuaStack.ClientStack
import OpcuaStack.GuardedRun

/-!
# The session of the client

`client/client_session.cpp` with the coroutines of `client_subscription.cpp`.  The
objects of a connection are destroyed by `Reset`, when a `ConnectAsync` fails and
when a `DisconnectAsync` has closed the connection, and by a later `ConnectAsync`,
which puts others in their place.  What was suspended in them then is recorded, and so
are the calls which the users of the objects make and those which return to them.
-/

namespace OpcuaStack

/-- A call of a user of the session, or one which the subscription makes in a coroutine
of its own. -/
inductive ClientCall where
  | connect
  | disconnect
  | operation (id : ℕ)
  | createSubscription
  | publishLoop
  | monitoredItem
deriving DecidableEq

def ClientCall.operationId : ClientCall → Option ℕ
  | .operation id => some id
  | _ => none

/-- What was suspended in the objects of a connection when they were destroyed. -/
structure Teardown where
  coroutines : List ClientCoroutine
  readLoops : List ReadLoop

/-- `class ClientSession`.  The operations are numbered as they are called. -/
structure ClientSession where
  isConnected : Bool := false
  stack : Option ClientStack := none
  started : ℕ := 0
  completions : List (ℕ × Status) := []
  disconnected : List (List ℕ) := []
  teardowns : List Teardown := []
  made : List ClientCall := []
  returned : List ClientCall := []

/-- A call of the session or of its subscription, or a coroutine which goes on.
`due` is what `ShouldRenewSecurityToken` says if a send asks it. -/
inductive ClientEvent where
  /-- `ConnectAsync`, once it has a transport. -/
  | connect
  | openAdvances (due : Bool)
  | openFails (status : BadStatus)
  | disconnect (due : Bool)
  | closeAdvances (index : ℕ)
  /-- `Read`, `Write`, `Browse`, `Call` and the other operations. -/
  | operation (due : Bool)
  /-- `EnsureCreated`, called by `AddItems`. -/
  | ensureCreated
  | startCreation (due : Bool)
  | startPublishLoop (due : Bool)
  /-- `CreateMonitoredItem` or `DeleteMonitoredItem`. -/
  | monitoredItem (due : Bool)
  | channel (event : ChannelEvent) (due : Bool)

/-- The senders which hold the send turn or wait for it. -/
def ClientChannel.senders {ρ α : Type} (ch : ClientChannel ρ α) : List ρ :=
  ch.sendWaiters.map ClientRequest.body ++
    ch.wokenSenders.map ClientRequest.body ++
    ch.activeSends.map fun send => send.message.body

namespace ClientStack

/-- The coroutines in `Receive`. -/
def receivers (k : ClientStack) : List ClientCoroutine :=
  k.waiting.entries.flatMap Sigma.snd ++ k.ready ++ k.lost

/-- The coroutines in `Open` and `Close` of the connection. -/
def connecting (k : ClientStack) : List ClientCoroutine :=
  (k.opening.toList.map fun _ => .createSession) ++
    k.closing.map fun closing => .closeSession closing.outstanding

/-- Every coroutine which is suspended in the objects, the read loop apart. -/
def coroutines (k : ClientStack) : List ClientCoroutine :=
  k.link.channel.senders ++ k.receivers ++ k.connecting

def teardown (k : ClientStack) : Teardown where
  coroutines := k.coroutines
  readLoops := k.link.channel.readLoops

end ClientStack

namespace ClientSession

def outstanding (s : ClientSession) : List ℕ :=
  (List.range s.started).filter fun id => !(s.completions.map Prod.fst).contains id

def makes (s : ClientSession) (call : ClientCall) : ClientSession :=
  { s with made := s.made ++ [call] }

def returns (s : ClientSession) (call : ClientCall) : ClientSession :=
  { s with returned := s.returned ++ [call] }

/-- `Reset`. -/
def reset (s : ClientSession) (k : ClientStack) : ClientSession :=
  { s with
    isConnected := false
    stack := none
    teardowns := s.teardowns ++ [k.teardown] }

/-- A coroutine goes on after a call which has failed. -/
def failed (s : ClientSession) (k : ClientStack) (status : Status) :
    ClientCoroutine → ClientSession
  | .operation id =>
      { s.returns (.operation id) with
        stack := some k
        completions := s.completions ++ [(id, status)] }
  | .createSession => (s.reset k).returns .connect
  | .activateSession => (s.reset k).returns .connect
  | .readNamespaceArray => { s.returns .connect with stack := some k }
  | .closeSession outstanding =>
      { s with
        stack := some ({ k with isActive := false }.closeConnection outstanding) }
  | .createSubscription =>
      { s.returns .createSubscription with
        stack := some
          { k with
            subscription :=
              { k.subscription with isCreating := false, implemented := false } } }
  | .publish =>
      { s.returns .publishLoop with
        stack := some
          { k with
            subscription := { k.subscription with publishLoopRunning := false } } }
  | .monitoredItem => { s.returns .monitoredItem with stack := some k }

/-- A coroutine has made a call, which is suspended or has failed at once. -/
def afterCall (s : ClientSession) : ClientStack × CallReturn → ClientSession
  | (k, none) => { s with stack := some k }
  | (k, some (coroutine, status)) => s.failed k status coroutine

/-- `FlushPendingSubscriptions` and `StartPublishLoop`, after the creation. -/
def created (k : ClientStack) : ClientStack :=
  { k with
    subscription :=
      { k.subscription with
        isCreated := true
        isCreating := false
        publishLoopRunning := true
        publishLoopSpawned :=
          k.subscription.publishLoopSpawned || !k.subscription.publishLoopRunning } }

/-- The head of the publish loop. -/
def publishRound (s : ClientSession) (k : ClientStack) (due : Bool) :
    ClientSession :=
  -- The window has room here, so that `Publish` sends before it receives.
  if s.isConnected then s.afterCall (k.publish due)
  else s.failed k (.ofCode .badNoCommunication) .publish

/-- A coroutine goes on after a call which has not failed. -/
def succeeded (s : ClientSession) (k : ClientStack) (status : Status) (due : Bool) :
    ClientCoroutine → ClientSession
  | .operation id =>
      { s.returns (.operation id) with
        stack := some k
        completions := s.completions ++ [(id, status)] }
  | .createSession => s.afterCall (k.send .activateSession due)
  | .activateSession =>
      { s with isConnected := true }.afterCall
        ({ k with isActive := true }.send .readNamespaceArray due)
  | .readNamespaceArray => { s.returns .connect with stack := some k }
  | .closeSession outstanding =>
      { s with
        stack := some ({ k with isActive := false }.closeConnection outstanding) }
  | .createSubscription =>
      { s.returns .createSubscription with stack := some (created k) }
  | .publish => s.publishRound k due
  | .monitoredItem => { s.returns .monitoredItem with stack := some k }

/-- A coroutine of the channel has run, and goes on if its call is over. -/
def proceed (s : ClientSession) (due : Bool) :
    ClientStack × CallReturn → ClientSession
  | (k, none) => { s with stack := some k }
  | (k, some (coroutine, status)) =>
      if status.isBad then s.failed k status coroutine
      else s.succeeded k status due coroutine

/-! ## The calls of the session -/

/-- `ConnectAsync` from its transport on: the objects of an earlier connection go,
and a subscription which was made on them keeps its `impl_`. -/
def connect (s : ClientSession) : ClientSession :=
  match s.stack with
  | none => { s.makes .connect with stack := some { opening := some .openingTransport } }
  | some k =>
      { s.makes .connect with
        stack := some
          { opening := some .openingTransport
            subscription :=
              { implemented := k.subscription.implemented
                isCreating := k.subscription.isCreating } }
        teardowns := s.teardowns ++ [k.teardown] }

/-- A stage of `Open` is done, and after the last `Create` goes on. -/
def openAdvances (s : ClientSession) (k : ClientStack) (due : Bool) :
    ClientSession :=
  match k.opening with
  | none => s
  | some stage =>
      match stage.next with
      | none =>
          s.afterCall
            ({ k with opening := none, opened := true }.send .createSession due)
      | some .writingOpen =>
          { s with
            stack := some
              { k with
                opening := some .writingOpen
                link := { k.link with nextRequestId := k.link.nextRequestId + 1 } } }
      | some next => { s with stack := some { k with opening := some next } }

def openFails (s : ClientSession) (k : ClientStack) : ClientSession :=
  match k.opening with
  | none => s
  | some _ => (s.reset { k with opening := none }).returns .connect

/-- `DisconnectAsync`. -/
def disconnect (s : ClientSession) (due : Bool) : ClientSession :=
  match s.stack with
  | none =>
      { (s.makes .disconnect).returns .disconnect with
        disconnected := s.disconnected ++ [s.outstanding] }
  | some k =>
      if k.isActive then
        (s.makes .disconnect).afterCall (k.send (.closeSession s.outstanding) due)
      else
        { s.makes .disconnect with stack := some (k.closeConnection s.outstanding) }

/-- A stage of `Close` is done, and after the last `DisconnectAsync` resets. -/
def closeAdvances (s : ClientSession) (k : ClientStack) (index : ℕ) :
    ClientSession :=
  match k.closing[index]? with
  | none => s
  | some { outstanding, stage := .writingClose } =>
      { s with
        stack := some
          { k with
            opened := false
            closing := k.closing.set index
              { outstanding, stage := .closingTransport } } }
  | some { outstanding, stage := .closingTransport } =>
      let s := (s.reset { k with closing := k.closing.eraseIdx index }).returns .disconnect
      { s with disconnected := s.disconnected ++ [outstanding] }

def operation (s : ClientSession) (due : Bool) : ClientSession :=
  if s.isConnected then
    match s.stack with
    | none => s
    | some k =>
        { s.makes (.operation s.started) with started := s.started + 1 }.afterCall
          (k.send (.operation s.started) due)
  else
    { (s.makes (.operation s.started)).returns (.operation s.started) with
      started := s.started + 1
      completions := s.completions ++ [(s.started, .ofCode .badNoCommunication)] }

def ensureCreated (k : ClientStack) : ClientStack :=
  if k.subscription.implemented || k.subscription.isCreating then k
  else
    { k with
      subscription :=
        { k.subscription with
          isCreating := true
          implemented := true
          creationSpawned := true } }

def startCreation (s : ClientSession) (k : ClientStack) (due : Bool) :
    ClientSession :=
  if k.subscription.creationSpawned then
    (s.makes .createSubscription).afterCall
      ({ k with subscription := { k.subscription with creationSpawned := false }
        }.send .createSubscription due)
  else s

def startPublishLoop (s : ClientSession) (k : ClientStack) (due : Bool) :
    ClientSession :=
  if k.subscription.publishLoopSpawned then
    (s.makes .publishLoop).publishRound
      { k with subscription := { k.subscription with publishLoopSpawned := false } }
      due
  else s

def monitoredItem (s : ClientSession) (k : ClientStack) (due : Bool) :
    ClientSession :=
  if k.subscription.isCreated then
    (s.makes .monitoredItem).afterCall (k.send .monitoredItem due)
  else s

def step (s : ClientSession) (event : ClientEvent) : ClientSession :=
  match event, s.stack with
  | .connect, _ => s.connect
  | .disconnect due, _ => s.disconnect due
  | .operation due, _ => s.operation due
  | _, none => s
  | .openAdvances due, some k => s.openAdvances k due
  | .openFails _, some k => s.openFails k
  | .closeAdvances index, some k => s.closeAdvances k index
  | .ensureCreated, some k => { s with stack := some (ensureCreated k) }
  | .startCreation due, some k => s.startCreation k due
  | .startPublishLoop due, some k => s.startPublishLoop k due
  | .monitoredItem due, some k => s.monitoredItem k due
  | .channel event due, some k => s.proceed due (k.advance due event)

end ClientSession
end OpcuaStack
