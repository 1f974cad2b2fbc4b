import OpcuaStack.NodeAttributesConversion
import OpcuaStack.ServerTasks
import OpcuaStack.SessionAgreement
import OpcuaStack.WebSocketServer

/-!
# Answers on a WebSocket

`RunConnection` spawns a handler for each text it accepts.  The handler awaits the
runtime, encodes the response and writes it, unless its text is longer than a message
may be.  An exception in the handler is lost with it, since it is spawned detached.
The library and the generated codecs are parameters; `EncodeJson` and `DecodeJson`
may throw.
-/

namespace OpcuaStack

inductive SocketBody where
  | discovery (service : DiscoveryService) (fields : ByteString)
  | response (body : ResponseBody)

structure SocketMessage where
  requestHandle : UInt32
  body : SocketBody

/-- `ws::Server` with what its handlers reach: the discovery services, the items of
an `AddNodes` request, and the text of a response if `EncodeJson` does not throw. -/
structure SocketServer extends WebSocketServer where
  attributes : AttributesCodec
  addNodesItems : ByteString → List AddNodesItem
  discover : DiscoveryService → ConnectionState → ByteString → ByteString
  serialize : SocketMessage → Option ByteText
  maxNodesPerNodeManagement : UInt32 := 1000

/-- What a spawned handler comes to. -/
inductive SpawnResult where
  | written (message : SocketMessage)
  /-- The text of the response is too long, and nothing is written. -/
  | tooLong
  | escaped

def SpawnResult.isWritten : SpawnResult → Bool
  | .written _ => true
  | _ => false

/-- The handle of a request as its text has it, and as the message keeps it. -/
structure SpawnedRequest where
  writtenHandle : UInt64
  requestHandle : UInt32

/-- A request with what its handler came to. -/
structure SpawnedAnswer where
  request : SpawnedRequest
  result : SpawnResult

namespace SocketServer

variable (ws : SocketServer)

/-- The number in the field `requestHandle` of a text. -/
def writtenHandle (frame : ByteText) : UInt64 :=
  (do
    let json ← ws.codec.parse frame
    let fields ← json.requireObject
    (← JsonValue.requireField fields "requestHandle").requireUInt64).getD 0

/-- The end of a handler: the response is encoded and written. -/
def finish (body : SocketBody) (request : SpawnedRequest) : SpawnedAnswer where
  request := request
  result :=
    let message := { requestHandle := request.requestHandle, body }
    match ws.serialize message with
    | none => .escaped
    | some text =>
        if ws.maxMessageSize < text.length then .tooLong else .written message

/-- `HandleAddNodes`, up to the callback: the number of items is checked, and they
are converted. -/
def addNodesThrows (body : RequestBody) (progress : Progress) : Bool :=
  match body, progress with
  | .service .addNodes parameters, .suspended _ =>
      let items := ws.addNodesItems parameters
      if items.length = 0 ∨ ws.maxNodesPerNodeManagement.toNat < items.length then false
      else
        match items.mapM ws.attributes.toManaged with
        | .error _ => true
        | .ok _ => false
  | _, _ => false

end SocketServer

/-- A server with the handlers which its WebSocket connections have spawned. -/
structure SocketState where
  server : ServerState
  calls : CallTable SpawnedRequest SpawnedAnswer := {}

/-- A text arrives, or anything else happens in the server. -/
inductive SocketAction where
  | frame (connection : ℕ) (frame : ByteText) (env : RequestEnvironment)
  | server (action : ServerAction)

namespace SocketState

variable (ws : SocketServer) (s : SocketState)

/-- A handler is spawned, and runs up to its first suspension. -/
def spawn (connection : ℕ) (message : RequestMessage) (request : SpawnedRequest)
    (env : RequestEnvironment) : SocketState :=
  match message.body with
  | .discovery service parameters =>
      let fields := ws.discover service (s.server.connectionFor connection env) parameters
      { s with calls := s.calls.openReturned (ws.finish (.discovery service fields) request) }
  | .request body =>
      let outcome := s.server.runtime.handle (s.server.connectionFor connection env) body
        { env with traceParent := message.traceParent }
      if ws.addNodesThrows body outcome.progress then
        { server :=
            { s.server with
              runtime := outcome.runtime
              connections :=
                Function.update s.server.connections connection outcome.connection }
          calls := s.calls.openReturned { request, result := .escaped } }
      else
        { server := (s.server.settle connection outcome).1
          calls :=
            TaskCalls.opened (fun answer => ws.finish (.response answer)) s.server s.calls
              outcome request }

/-- A text which is not accepted is answered with a fault, and if that cannot be
written the loop of the connection ends. -/
def receive (connection : ℕ) (frame : ByteText) (env : RequestEnvironment) :
    SocketState :=
  match ws.decodeFrame frame with
  | none =>
      match (ws.finish (.response (.serviceFault (.ofCode .badTypeMismatch)))
          ⟨0, 0⟩).result with
      | .written _ => s
      | _ => { s with server := s.server.closeConnection connection }
  | some message =>
      s.spawn ws connection message
        { writtenHandle := ws.writtenHandle frame
          requestHandle := message.requestHandle } env

def step : SocketAction → SocketState
  | .frame connection frame env => s.receive ws connection frame env
  | .server action =>
      { server := (s.server.step action).1
        calls :=
          TaskCalls.served (fun answer => ws.finish (.response answer)) s.server s.calls
            action }

end SocketState

/-! ## Answers -/

/-- The response was written, with the handle of the request. -/
def SpawnedAnswer.Answered (answer : SpawnedAnswer) : Prop :=
  ∃ message, answer.result = .written message ∧
    message.requestHandle.toNat = answer.request.writtenHandle.toNat

def SpawnedRequest.Narrowed (request : SpawnedRequest) : Prop :=
  request.requestHandle = request.writtenHandle.toUInt32

namespace SocketServer

variable (ws : SocketServer)

/-- The handle of the request fits into 32 bits, and the response is encoded and is not
too long. -/
def Fits (body : SocketBody) (request : SpawnedRequest) : Prop :=
  request.writtenHandle.toNat < 2 ^ 32 ∧
    ∃ text, ws.serialize { requestHandle := request.requestHandle, body } = some text ∧
      text.length ≤ ws.maxMessageSize

/-- No `AddNodes` request of an allowed size has an unreadable item. -/
def ItemsReadable (body : RequestBody) : Prop :=
  ∀ parameters, body = .service .addNodes parameters →
    (ws.addNodesItems parameters).length ≠ 0 →
      (ws.addNodesItems parameters).length ≤ ws.maxNodesPerNodeManagement.toNat →
        ∀ item ∈ ws.addNodesItems parameters, ¬ ws.attributes.Unreadable item

variable {ws}

theorem answered_finish_iff {request : SpawnedRequest} (hnarrowed : request.Narrowed)
    (body : SocketBody) :
    (ws.finish body request).Answered ↔ ws.Fits body request := by
  have hhandle : request.requestHandle.toNat = request.writtenHandle.toNat ↔
      request.writtenHandle.toNat < 2 ^ 32 := by
    rw [hnarrowed, UInt64.toNat_toUInt32]
    have hlt := request.writtenHandle.toNat_lt
    omega
  unfold SpawnedAnswer.Answered finish Fits
  dsimp only
  cases ws.serialize { requestHandle := request.requestHandle, body } with
  | none => simp
  | some text =>
      dsimp only
      split
      next hlong => simp [hlong]
      next hshort =>
        simp only [SpawnResult.written.injEq, exists_eq_left', hhandle,
          Option.some.injEq]
        exact (and_iff_left (not_lt.mp hshort)).symm

theorem addNodesThrows_iff (body : RequestBody) (work : SuspendedWork) :
    ws.addNodesThrows body (.suspended work) = true ↔ ¬ ws.ItemsReadable body := by
  by_cases hadd : ∃ parameters, body = .service .addNodes parameters
  · obtain ⟨parameters, rfl⟩ := hadd
    have hreadable : ws.ItemsReadable (.service .addNodes parameters) ↔
        ((ws.addNodesItems parameters).length ≠ 0 →
          (ws.addNodesItems parameters).length ≤ ws.maxNodesPerNodeManagement.toNat →
            ∀ item ∈ ws.addNodesItems parameters, ¬ ws.attributes.Unreadable item) := by
      refine ⟨fun h => h parameters rfl, fun h other hother => ?_⟩
      cases hother
      exact h
    have hthrows := ws.attributes.mapM_toManaged_throws_iff
      (ws.addNodesItems parameters)
    rw [hreadable]
    unfold addNodesThrows
    dsimp only
    split
    next hsize =>
      refine iff_of_false Bool.false_ne_true (not_not.mpr fun hne hle => ?_)
      exact absurd hle (not_le.mpr (hsize.resolve_left hne))
    next hsize =>
      obtain ⟨hne, hle⟩ := not_or.mp hsize
      cases hrun : (ws.addNodesItems parameters).mapM ws.attributes.toManaged with
      | error thrown =>
          refine iff_of_true rfl fun hall => ?_
          obtain ⟨item, hitem, hunreadable⟩ := hthrows.mp ⟨thrown, hrun⟩
          exact hall hne (not_lt.mp hle) item hitem hunreadable
      | ok items =>
          refine iff_of_false Bool.false_ne_true (not_not.mpr fun _ _ item hitem hbad => ?_)
          obtain ⟨thrown, hthrown⟩ := hthrows.mpr ⟨item, hitem, hbad⟩
          rw [hrun] at hthrown
          cases hthrown
  · refine iff_of_false ?_ (not_not.mpr fun parameters h => absurd ⟨parameters, h⟩ hadd)
    unfold addNodesThrows
    split
    next parameters _ _ => exact absurd ⟨parameters, rfl⟩ hadd
    next => exact Bool.false_ne_true

theorem not_addNodesThrows_answered (body : RequestBody) (answer : ResponseBody) :
    ws.addNodesThrows body (.answered answer) = false := by
  unfold addNodesThrows
  split
  next h => cases h
  next => rfl

theorem narrowed_of_decodeFrame {frame : ByteText} {message : RequestMessage}
    (h : ws.decodeFrame frame = some message) :
    message.requestHandle = (ws.writtenHandle frame).toUInt32 := by
  unfold WebSocketServer.decodeFrame at h
  obtain ⟨json, hparse, hdecode⟩ := Option.bind_eq_some_iff.mp h
  unfold JsonCodec.decodeRequestMessage at hdecode
  obtain ⟨fields, hfields, hdecode⟩ := Option.bind_eq_some_iff.mp hdecode
  obtain ⟨body, -, hdecode⟩ := Option.bind_eq_some_iff.mp hdecode
  obtain ⟨name, -, hdecode⟩ := Option.bind_eq_some_iff.mp hdecode
  obtain ⟨service, -, hdecode⟩ := Option.bind_eq_some_iff.mp hdecode
  obtain ⟨field, hfield, hdecode⟩ := Option.bind_eq_some_iff.mp hdecode
  obtain ⟨handle, hhandle, hdecode⟩ := Option.bind_eq_some_iff.mp hdecode
  obtain ⟨request, -, hmessage⟩ := Option.bind_eq_some_iff.mp hdecode
  have hwritten : ws.writtenHandle frame = handle := by
    unfold writtenHandle
    simp only [hparse, hfields, hfield, hhandle, Option.bind_eq_bind, Option.bind_some,
      Option.getD_some]
  rw [hwritten]
  cases hmessage
  rfl

end SocketServer

namespace SocketState

open ServerState

variable (ws : SocketServer)

/-- The handler of the request is suspended, and the event for which it waits makes it
end. -/
def Awaits (s : SocketState) (call : ℕ) : Prop :=
  s.calls.returned call = [] ∧
    ∃ task connection work, s.server.suspended task = some ⟨connection, work⟩ ∧
      ∀ event, s.server.Ends connection task work event →
        ∃ answer, (s.step ws (.server event)).calls.returned call = [answer]

/-- Every accepted request has been answered once with its handle or waits for that. -/
def EveryAnswered (s : SocketState) : Prop :=
  ∀ call < s.calls.nextCall,
    (∃ answer, s.calls.returned call = [answer] ∧ answer.Answered) ∨ s.Awaits ws call

/-- The handler of the message either answers at once with a response which fits, or is
suspended and has come to no unreadable item. -/
def SpawnFits (s : SocketState) (connection : ℕ) (message : RequestMessage)
    (request : SpawnedRequest) (env : RequestEnvironment) : Prop :=
  match message.body with
  | .discovery service parameters =>
      ws.Fits (.discovery service
        (ws.discover service (s.server.connectionFor connection env) parameters)) request
  | .request body =>
      match (s.server.runtime.handle (s.server.connectionFor connection env) body
          { env with traceParent := message.traceParent }).progress with
      | .answered answer => ws.Fits (.response answer) request
      | .suspended _ => ws.ItemsReadable body

/-- The responses which this step gives fit, and it comes to no unreadable item. -/
def StepFits (s : SocketState) : SocketAction → Prop
  | .frame connection frame env => ∀ message, ws.decodeFrame frame = some message →
      s.SpawnFits ws connection message
        ⟨ws.writtenHandle frame, message.requestHandle⟩ env
  | .server action => ∀ task answer, TaskCalls.Finishes s.server action task answer →
      ∀ call request, s.calls.waiting task = some (call, request) →
        ws.Fits (.response answer) request

/-! ## Runs -/

variable {ws} {s : SocketState}

/-- The state of the server and of its handlers, as runs have it. -/
structure Sound (s : SocketState) : Prop where
  consistent : TaskCalls.Consistent s.server s.calls
  narrowed : TaskCalls.AllWaiting s.calls SpawnedRequest.Narrowed
  accounted : TaskCalls.AllAccounted s.calls
  answered : TaskCalls.AllReturned s.calls SpawnedAnswer.Answered

theorem spawn_cases (ws : SocketServer) (s : SocketState) (connection : ℕ)
    (message : RequestMessage) {request : SpawnedRequest} (hnarrowed : request.Narrowed)
    (env : RequestEnvironment) :
    TaskCalls.Keeps s.server (s.spawn ws connection message request env).server none ∧
      ((∃ answer, (s.spawn ws connection message request env).calls =
            s.calls.openReturned answer ∧
          (answer.Answered ↔ s.SpawnFits ws connection message request env)) ∨
        (s.spawn ws connection message request env).calls =
            s.calls.openWaiting s.server.nextTask request ∧
          TaskCalls.Suspends s.server (s.spawn ws connection message request env).server ∧
            s.SpawnFits ws connection message request env) := by
  unfold spawn SpawnFits
  cases message.body with
  | discovery service parameters =>
      exact ⟨⟨le_refl _, fun _ _ _ => rfl⟩,
        .inl ⟨_, rfl, SocketServer.answered_finish_iff hnarrowed _⟩⟩
  | request body =>
      dsimp only
      generalize s.server.runtime.handle (s.server.connectionFor connection env) body
        { env with traceParent := message.traceParent } = outcome
      have hkeeps := TaskCalls.keeps_settle s.server connection outcome
      unfold TaskCalls.opened
      cases hprogress : outcome.progress with
      | answered answer =>
          rw [if_neg (by
            rw [SocketServer.not_addNodesThrows_answered]
            exact Bool.false_ne_true)]
          exact ⟨hkeeps, .inl ⟨_, rfl, SocketServer.answered_finish_iff hnarrowed _⟩⟩
      | suspended work =>
          by_cases hreadable : ws.ItemsReadable body
          · have hthrows : ¬ ws.addNodesThrows body (.suspended work) = true :=
              fun h => (SocketServer.addNodesThrows_iff body work).mp h hreadable
            have hanswer : outcome.progress.answer = none := by
              rw [hprogress]
              rfl
            obtain ⟨hnew, hnext⟩ := settle_suspends s.server connection hanswer
            rw [if_neg hthrows]
            exact ⟨hkeeps, .inr ⟨rfl, ⟨hnew, hnext⟩, hreadable⟩⟩
          · rw [if_pos ((SocketServer.addNodesThrows_iff body work).mpr hreadable)]
            refine ⟨⟨le_refl _, fun _ _ _ => rfl⟩, .inl ⟨_, rfl, ?_⟩⟩
            refine iff_of_false ?_ hreadable
            rintro ⟨_, hescaped, -⟩
            cases hescaped

theorem step_advances (hnarrowed : TaskCalls.AllWaiting s.calls SpawnedRequest.Narrowed)
    {action : SocketAction} (hfits : s.StepFits ws action) :
    TaskCalls.Advance SpawnedRequest.Narrowed SpawnedAnswer.Answered
      (fun _ answer => answer.Answered) s.server s.calls (s.step ws action).server
      (s.step ws action).calls := by
  cases action with
  | frame connection frame env =>
      unfold step receive
      dsimp only
      cases hdecode : ws.decodeFrame frame with
      | none =>
          dsimp only
          split
          · exact .kept ⟨le_refl _, fun _ _ _ => rfl⟩
          · exact .kept ⟨le_refl _, fun _ _ _ => rfl⟩
      | some message =>
          have hmessage := hfits message hdecode
          have hown : SpawnedRequest.Narrowed
              ⟨ws.writtenHandle frame, message.requestHandle⟩ :=
            SocketServer.narrowed_of_decodeFrame hdecode
          obtain ⟨hkeeps, ⟨answer, hcalls, hiff⟩ | ⟨hcalls, hnew, -⟩⟩ :=
            spawn_cases ws s connection message hown env
          · dsimp only
            rw [hcalls]
            exact .returned hkeeps (hiff.mpr hmessage)
          · dsimp only
            rw [hcalls]
            exact .waits hkeeps hnew hown
  | server action =>
      refine TaskCalls.advance_served fun task answer hfinishes call request hheld => ?_
      exact (SocketServer.answered_finish_iff (hnarrowed task call request hheld) _).mpr
        (hfits task answer hfinishes call request hheld)

theorem Sound.step (h : s.Sound) {action : SocketAction} (hfits : s.StepFits ws action) :
    (s.step ws action).Sound := by
  have hadvance := step_advances h.narrowed hfits
  exact ⟨hadvance.consistent h.consistent, hadvance.allWaiting (fun _ h => h) h.narrowed,
    hadvance.allAccounted h.consistent h.accounted,
    hadvance.allReturned h.consistent (fun _ h => h) (fun _ _ h => h) h.answered⟩

theorem Sound.everyAnswered (h : s.Sound) : s.EveryAnswered ws := by
  intro call hcall
  obtain ⟨answer, hreturned, -⟩ | ⟨task, request, hwaits, -⟩ := h.accounted call hcall
  · refine .inl ⟨answer, hreturned.returned, h.answered call answer ?_⟩
    rw [hreturned.returned]
    exact List.mem_singleton_self answer
  · obtain ⟨⟨connection, work⟩, hsuspended⟩ := Option.isSome_iff_exists.mp
      (h.consistent.suspended task _ hwaits.waiting)
    refine .inr ⟨hwaits.returned, task, connection, work, hsuspended, fun event hends => ?_⟩
    obtain ⟨hresumed, report, answer, hreport, hanswer⟩ := hends.answers hsuspended
    refine ⟨ws.finish (.response answer) request, ?_⟩
    have hcalls : (s.step ws (.server event)).calls =
        s.calls.finish task (ws.finish (.response answer)) := by
      unfold SocketState.step TaskCalls.served
      simp only [hresumed, hreport, hanswer]
    rw [hcalls]
    exact (hwaits.finish_self _).returned

theorem not_everyAnswered (call : ℕ) (answer : SpawnedAnswer)
    (hcall : call < s.calls.nextCall) (hreturned : s.calls.returned call = [answer])
    (hwrong : ¬ answer.Answered) : ¬ s.EveryAnswered ws := by
  intro hevery
  obtain ⟨other, hother, hanswered⟩ | ⟨hnone, -⟩ := hevery call hcall
  · rw [hreturned] at hother
    cases hother
    exact hwrong hanswered
  · rw [hreturned] at hnone
    cases hnone

theorem Sound.not_everyAnswered_step (h : s.Sound) {action : SocketAction}
    (hnot : ¬ s.StepFits ws action) : ¬ (s.step ws action).EveryAnswered ws := by
  cases action with
  | frame connection frame env =>
      unfold StepFits at hnot
      push Not at hnot
      obtain ⟨message, hdecode, hmessage⟩ := hnot
      have hown : SpawnedRequest.Narrowed
          ⟨ws.writtenHandle frame, message.requestHandle⟩ :=
        SocketServer.narrowed_of_decodeFrame hdecode
      have hstep : s.step ws (.frame connection frame env) =
          s.spawn ws connection message
            ⟨ws.writtenHandle frame, message.requestHandle⟩ env := by
        unfold SocketState.step receive
        dsimp only
        rw [hdecode]
      obtain ⟨-, ⟨answer, hcalls, hiff⟩ | ⟨-, -, hfits⟩⟩ :=
        spawn_cases ws s connection message hown env
      · have hnew := h.consistent.numbered.returned_openReturned answer
        refine not_everyAnswered s.calls.nextCall answer ?_ ?_
          fun hanswered => hmessage (hiff.mp hanswered)
        · rw [hstep, hcalls]
          exact hnew.made
        · rw [hstep, hcalls]
          exact hnew.returned
      · exact absurd hfits hmessage
  | server action =>
      unfold StepFits at hnot
      push Not at hnot
      obtain ⟨task, answer, ⟨hresumed, report, hreport, hanswer⟩, call, request, hheld,
        hwrong⟩ := hnot
      have hcalls : (s.step ws (.server action)).calls =
          s.calls.finish task (ws.finish (.response answer)) := by
        unfold SocketState.step TaskCalls.served
        simp only [hresumed, hreport, hanswer]
      have hmade := h.consistent.numbered.waiting task call request hheld
      obtain ⟨_, hreturned, -⟩ | ⟨own, mine, hwaits, -⟩ := h.accounted call hmade
      · exact absurd hheld (hreturned.nowhere task request)
      obtain ⟨rfl, rfl⟩ := (hwaits.only task request).mp hheld
      have hfinished := hwaits.finish_self (ws.finish (.response answer))
      refine not_everyAnswered call (ws.finish (.response answer) request) ?_ ?_
        fun hanswered => hwrong ((SocketServer.answered_finish_iff
            (h.narrowed task call request hheld) _).mp hanswered)
      · rw [hcalls]
        exact hfinished.made
      · rw [hcalls]
        exact hfinished.returned

theorem sound_start (server : ServerState) : Sound { server } where
  consistent := TaskCalls.consistent_empty server
  narrowed task call request h := by cases h
  accounted call h := absurd h (Nat.not_lt_zero call)
  answered call answer h := absurd h List.not_mem_nil

/-- In every state which a run visits, each accepted request has been answered once
with its handle or waits for that, exactly if every response fits and no request has an
unreadable item. -/
theorem requests_answered_iff (ws : SocketServer) (server : ServerState)
    (actions : List SocketAction) :
    (∀ before after, actions = before ++ after →
        (runFrom (SocketState.step ws) { server } before).EveryAnswered ws) ↔
      AllMeet (SocketState.step ws) (StepFits ws) { server } actions := by
  have hdomain : AllMeet (SocketState.step ws) (fun _ _ => True) { server } actions :=
    AllMeet.of_forall (fun _ _ => trivial) _
  exact forall_visited_iff_allMeet (P := Sound) (fun _ h => h.everyAnswered)
    (fun _ _ h _ hfits => h.step hfits)
    (fun _ _ h _ hnot => h.not_everyAnswered_step hnot) (sound_start server) hdomain

/-! ## An unreadable item and a wide handle -/

/-- Every text is the name of a service, and requests have no parameters. -/
def namingCodec : JsonCodec where
  parse frame := some (.object
    [(asciiText "body", .null), (asciiText "service", .string frame),
      (asciiText "requestHandle",
        .uint64 (if frame == asciiText "GetEndpoints" then 0x100000007 else 7))])
  serializedSize _ := 0
  decodeRequestHeader _ := none
  decodeDiscovery _ _ := some []
  decodeCreateSession _ := some {}
  decodeActivateSession _ := some
    { authenticationToken := ServerRun.defaultToken 1, allowAnonymous := true }
  decodeCloseSession _ := none
  decodeCreateSubscription _ := none
  decodeModifySubscription _ := none
  decodeSetPublishingMode _ := none
  decodeDeleteSubscriptions _ := none
  decodePublish _ := none
  decodeRepublish _ := none
  decodeTransferSubscriptions _ := none
  decodeCreateMonitoredItems _ := none
  decodeModifyMonitoredItems _ := none
  decodeDeleteMonitoredItems _ := none
  decodeSetMonitoringMode _ := none
  decodeBrowse _ := none
  decodeBrowseNext _ := none
  decodeService _ _ := some []

/-- `AddNodes` comes with an item whose body is a JSON text instead of an object. -/
def namingServer : SocketServer where
  codec := namingCodec
  attributes :=
    { fromExtensionObject := fun _ _ => none
      decodeJson := fun _ _ => .error (.error "expected a JSON object") }
  addNodesItems _ := [{ nodeAttributes := { value := .json (.string []) } }]
  discover _ _ _ := []
  serialize _ := some []

def serverAtRest : ServerState := (ServerRun.start {} {}).state

def named (service : String) : SocketAction := .frame 0 (asciiText service) {}

theorem findServers_answered :
    ∀ before after, [named "FindServers", named "unknown"] = before ++ after →
      (runFrom (SocketState.step namingServer) { server := serverAtRest }
        before).EveryAnswered namingServer := by
  refine (requests_answered_iff namingServer serverAtRest _).mpr ⟨?_, ?_, trivial⟩
  · intro message hdecode
    cases hdecode
    exact ⟨by decide, [], rfl, Nat.zero_le _⟩
  · intro message hdecode
    cases hdecode

/-- In an active session an `AddNodes` whose item has a body that its decoder throws at
is never answered, and a wide handle comes back narrowed. -/
theorem addNodes_and_wide_handle_unanswered :
    ¬ (runFrom (SocketState.step namingServer) { server := serverAtRest }
        [named "CreateSession", named "ActivateSession",
          named "AddNodes"]).EveryAnswered namingServer ∧
      ¬ (runFrom (SocketState.step namingServer) { server := serverAtRest }
        [named "GetEndpoints"]).EveryAnswered namingServer := by
  constructor
  · have hmade : 2 < (runFrom (SocketState.step namingServer) { server := serverAtRest }
        [named "CreateSession", named "ActivateSession",
          named "AddNodes"]).calls.nextCall := by
      decide +kernel
    have hescaped : ((runFrom (SocketState.step namingServer) { server := serverAtRest }
        [named "CreateSession", named "ActivateSession",
          named "AddNodes"]).calls.returned 2).map
            (fun answer => answer.result.isWritten) = [false] := by
      decide +kernel
    obtain ⟨answer, hreturned, hwritten⟩ := List.map_eq_singleton_iff.mp hescaped
    refine not_everyAnswered 2 answer hmade hreturned ?_
    rintro ⟨message, hresult, -⟩
    rw [hresult] at hwritten
    cases hwritten
  · have hreturned : (runFrom (SocketState.step namingServer) { server := serverAtRest }
        [named "GetEndpoints"]).calls.returned 0 =
          [⟨⟨0x100000007, 7⟩, .written ⟨7, .discovery .getEndpoints []⟩⟩] := rfl
    refine not_everyAnswered 0 _ Nat.zero_lt_one hreturned ?_
    rintro ⟨message, hresult, hhandle⟩
    cases hresult
    exact absurd hhandle (by decide)

end SocketState

end OpcuaStack
