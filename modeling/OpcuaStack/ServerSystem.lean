import OpcuaStack.GuardedRun
import OpcuaStack.ServerRuntime

/-!
# Runs of the server

Any number of connections send requests to one runtime with its manager.  Each
request runs until it answers or suspends, and between two stretches of one
request any other request, expiry, closing connection or backing subscription
may run.  A run is a list of actions; its log keeps what each action reported.
-/

namespace OpcuaStack

structure SuspendedRequest where
  connection : ℕ
  work : SuspendedWork

structure ServerState where
  runtime : ServerRuntime
  connections : ℕ → ConnectionState := fun _ => {}
  suspended : ℕ → Option SuspendedRequest := fun _ => none
  nextTask : ℕ := 0

/-- One stretch of work.  A request which was read before its connection closed
may still be dispatched after, so requests are not refused there. -/
inductive ServerAction where
  | request (connection : ℕ) (body : RequestBody) (env : RequestEnvironment)
  | authenticated (task : ℕ) (reply : StatusOr AuthenticationResult)
      (now : DateTime)
  | served (task : ℕ) (reply : ResponseBody)
  | delayElapsed (task : ℕ) (now : DateTime)
  | closeConnection (connection : ℕ)
  | prune (now : DateTime)
  | backing (token : NodeId) (id : SubscriptionId)
      (event : ServerSubscription.BackingEvent)

/-- What a stretch of a handler did for its connection. -/
structure StepReport where
  connection : ℕ
  answer : Option ResponseBody
  use : Option (NodeId × SessionUse)
  touched : List ℕ

def Progress.answer : Progress → Option ResponseBody
  | .answered response => some response
  | .suspended _ => none

namespace ServerState

def connectionFor (state : ServerState) (connection : ℕ)
    (env : RequestEnvironment) : ConnectionState :=
  { state.connections connection with
    secureChannel := env.secureChannel
    clientCertificate := env.clientCertificate
    peer := env.peer }

def settle (state : ServerState) (connection : ℕ) (outcome : HandlerOutcome) :
    ServerState × Option StepReport :=
  let report : StepReport :=
    { connection := connection
      answer := outcome.progress.answer
      use := outcome.use
      touched := outcome.touched }
  let connections :=
    Function.update state.connections connection outcome.connection
  match outcome.progress with
  | .answered _ =>
      ({ state with runtime := outcome.runtime, connections := connections },
        some report)
  | .suspended work =>
      ({ runtime := outcome.runtime
         connections := connections
         suspended := Function.update state.suspended state.nextTask
           (some ⟨connection, work⟩)
         nextTask := state.nextTask + 1 },
        some report)

def takeTask (state : ServerState) (task : ℕ) : ServerState :=
  { state with suspended := Function.update state.suspended task none }

def closeConnection (state : ServerState) (connection : ℕ) : ServerState :=
  let (runtime, detached) := state.runtime.detach
    { state.connections connection with closed := true }
  { state with
    runtime := runtime
    connections := Function.update state.connections connection detached }

def backingEvent (state : ServerState) (token : NodeId) (id : SubscriptionId)
    (event : ServerSubscription.BackingEvent) : ServerState :=
  match state.runtime.sessions.lookup token with
  | none => state
  | some session =>
      let (session, _) := session.onSubscription id () fun subscription =>
        (subscription.onBackingEvent event, ())
      { state with runtime := state.runtime.writeSession token session }

def prune (state : ServerState) (now : DateTime) : ServerState :=
  let outcome := state.runtime.manager.pruneExpiredSessions now
  { state with
    runtime := state.runtime.adopt outcome.manager outcome.removed }

/-- One action.  An answer for a task which is not waiting for it changes
nothing. -/
def step (state : ServerState) (action : ServerAction) :
    ServerState × Option StepReport :=
  match action with
  | .request connection body env =>
      state.settle connection
        (state.runtime.handle (state.connectionFor connection env) body env)
  | .authenticated task reply now =>
      match state.suspended task with
      | some ⟨connection, .activating pending⟩ =>
          (state.takeTask task).settle connection
            (state.runtime.completeActivateSession
              (state.connections connection) pending reply now)
      | _ => (state, none)
  | .served task reply =>
      match state.suspended task with
      | some ⟨connection, .browsing session requestedMax⟩ =>
          (state.takeTask task).settle connection
            (state.runtime.resumeBrowse (state.connections connection) session
              requestedMax reply)
      | some ⟨connection, .serving _⟩ =>
          (state.takeTask task).settle connection
            { runtime := state.runtime
              connection := state.connections connection
              progress := .answered reply }
      | _ => (state, none)
  | .delayElapsed task now =>
      match state.suspended task with
      | some ⟨connection, .publishing ackResults⟩ =>
          (state.takeTask task).settle connection
            (state.runtime.resumePublish (state.connections connection)
              ackResults now)
      | _ => (state, none)
  | .closeConnection connection => (state.closeConnection connection, none)
  | .prune now => (state.prune now, none)
  | .backing token id event => (state.backingEvent token id event, none)

end ServerState

/-- A server and what has happened so far. -/
structure ServerRun where
  state : ServerState
  log : List (ServerAction × Option StepReport) := []

namespace ServerRun

def step (run : ServerRun) (action : ServerAction) : ServerRun :=
  let (state, report) := run.state.step action
  { state := state, log := run.log ++ [(action, report)] }

@[simp] theorem step_state (run : ServerRun) (action : ServerAction) :
    (run.step action).state = (run.state.step action).1 := rfl

@[simp] theorem step_log (run : ServerRun) (action : ServerAction) :
    (run.step action).log = run.log ++ [(action, (run.state.step action).2)] :=
  rfl

/-- A server just started: no sessions, no subscriptions, no connections. -/
def start (context : ServerSessionManagerContext)
    (operationLimits : OperationLimits) : ServerRun where
  state := { runtime :=
    { manager := { context := context }, operationLimits := operationLimits } }

end ServerRun

end OpcuaStack
