import OpcuaStack.ServerTasks

/-!
# Answers to payloads

A call of `HandlePayload` whose payload is decoded returns one response with the
handle of its request, or waits in a task of the server whose next event makes
it return.  An `ActivateSession` for a token without a session is dropped.
-/

namespace OpcuaStack

/-! ## Response types -/

/-- The error response of the type is of the type. -/
def ResponseType.HoldsErrors (type : ResponseType) : Prop :=
  ∀ status, type.contains (type.buildRuntimeErrorResponse status) = true

theorem BinaryRuntime.contains_typedResponse {type : ResponseType}
    (h : type.HoldsErrors) (body : ResponseBody) :
    type.contains (typedResponse type body) = true := by
  unfold typedResponse
  split
  next hcontains => exact hcontains
  next =>
    split
    · exact h _
    · exact h _

namespace Binary

open BinaryRuntime ServiceDispatcher

theorem responseType_holdsErrors {body : RequestBody} {type : ResponseType}
    (h : responseType body = some type) : type.HoldsErrors := by
  intro status
  cases body with
  | session request => cases request <;> cases h <;> rfl
  | service kind parameters =>
      cases h
      exact beq_self_eq_true kind
  | _ =>
      cases h
      rfl

theorem encodingId_of_contains {body : RequestBody} {type : ResponseType}
    (h : responseType body = some type) {answer : ResponseBody}
    (hcontains : type.contains answer = true) :
    (ServiceResponseBody.response answer).encodingId =
      (ServiceRequestBody.request body).responseEncodingId := by
  cases body with
  | session request =>
      cases request <;> cases h <;> cases answer <;>
        first
        | rfl
        | cases hcontains
  | service kind parameters =>
      cases h
      cases answer with
      | service answered serviceResult results =>
          rw [show answered = kind from eq_of_beq hcontains]
          rfl
      | _ => cases hcontains
  | _ =>
      cases h
      cases answer <;>
        first
        | rfl
        | cases hcontains

/-! ## What a response carries -/

/-- The peer reads this encoding id and this request handle from the bytes. -/
def CarriesResponse (bytes : ByteString) (encodingId requestHandle : UInt32) : Prop :=
  ∃ payload header, readMessage.start bytes = some (encodingId, payload) ∧
    readResponseHeader.start payload = some header ∧
    header.requestHandle = requestHandle

theorem reads_serviceResponseHeader (requestHandle : UInt32)
    (serviceResult : Status) :
    Reads readResponseHeader
      (encodeServiceResponseHeader requestHandle serviceResult)
      { requestHandle, serviceResult } := by
  refine (reads_int64 0).bind ((reads_uInt32 _).bind ((reads_uInt32 _).bind
    ((reads_uInt8 0).bind ((reads_int32 0).bind ?_))))
  exact reads_nullExtensionObject.bind_pure (Reads.pure _)

theorem encodeServiceResponse_carries (codec : ServiceCodec)
    (requestHandle : UInt32) (response : ServiceResponseBody) :
    CarriesResponse (codec.encodeServiceResponse requestHandle response)
      response.encodingId requestHandle :=
  ⟨_, _, readMessage_appendMessage _ _,
    (reads_serviceResponseHeader _ _).start _, rfl⟩

/-- A response to the request: one of its response type or a `ServiceFault`,
with the handle of the request. -/
def Answers (message : ServiceRequestMessage) (returned : Option ByteString) :
    Prop :=
  ∃ bytes encodingId, returned = some bytes ∧
    CarriesResponse bytes encodingId message.header.requestHandle ∧
    (encodingId = message.body.responseEncodingId ∨
      encodingId = serviceFaultEncodingId)

/-! ## One payload -/

/-- A registration of nodes, or its removal. -/
def ServiceRequestBody.Registers : ServiceRequestBody → Prop
  | .request (.session (.registerNodes _)) => True
  | .request (.session (.unregisterNodes _)) => True
  | _ => False

/-- An `ActivateSession` whose token names no session. -/
def Dropped (message : ServiceRequestMessage) (r : ServerRuntime) : Prop :=
  (∃ request, message.body = .request (.activateSession request)) ∧
    r.manager.sessions.lookup message.header.authenticationToken = none

/-- What a suspended call returns later meets the condition. -/
def HeldPayload.Fits (held : HeldPayload) (Q : Option ByteString → Prop) :
    Prop :=
  ∀ (dispatcher : ServiceDispatcher) answer,
    Q (dispatcher.respondLater answer held)

section Handling

variable (dispatcher : ServiceDispatcher) {r : ServerRuntime}
  {connection : ConnectionState} {env : RequestEnvironment}
  {header : ServiceRequestHeader} {body : RequestBody} {type : ResponseType}

theorem respond_answers {answer : ResponseBody}
    (htype : responseType body = some type)
    (hcontains : type.contains answer = true) :
    Answers { header := header, body := .request body }
      (dispatcher.respond answer
        { requestHandle := header.requestHandle, type }) :=
  ⟨_, _, rfl, encodeServiceResponse_carries _ _ _,
    .inl (encodingId_of_contains htype hcontains)⟩

theorem held_fits (htype : responseType body = some type) :
    HeldPayload.Fits { requestHandle := header.requestHandle, type }
      (Answers { header := header, body := .request body }) := by
  intro dispatcher answer
  exact respond_answers dispatcher htype
    (contains_typedResponse (responseType_holdsErrors htype) answer)

theorem handle_contains (htype : type.HoldsErrors) {answer : ResponseBody}
    (h : (handle type r connection body env).progress = .answered answer) :
    type.contains answer = true := by
  unfold handle at h
  dsimp only at h
  split at h
  · cases h
    exact contains_typedResponse htype _
  · cases h

theorem handleAuthenticatedRequest_contains (htype : type.HoldsErrors)
    {request : DecodedRequest} {answer : ResponseBody}
    (h : (handleAuthenticatedRequest type r connection request env).progress =
      .answered answer) : type.contains answer = true := by
  unfold handleAuthenticatedRequest at h
  split at h
  · exact handle_contains htype h
  · cases h
    exact htype _

/-- A request which is neither dropped nor registers nodes reaches a handler,
and an answer at once is of its response type. -/
theorem handleDecodedRequest_answers (connection : ConnectionState)
    (env : RequestEnvironment)
    (hregisters : ¬ServiceRequestBody.Registers (.request body))
    (hdropped : ¬Dropped { header := header, body := .request body } r) :
    ∃ outcome type,
      handleDecodedRequest r connection { header, body } env = some outcome ∧
      responseType body = some type ∧
      ∀ answer, outcome.progress = .answered answer →
        type.contains answer = true := by
  have hauthenticated : ∀ type,
      handleDecodedRequest r connection { header, body } env =
          some (handleAuthenticatedRequest type r connection { header, body }
            env) →
        responseType body = some type →
          ∃ outcome type,
            handleDecodedRequest r connection { header, body } env =
              some outcome ∧
            responseType body = some type ∧
            ∀ answer, outcome.progress = .answered answer →
              type.contains answer = true := by
    intro type houtcome htype
    refine ⟨_, type, houtcome, htype, fun answer hanswer => ?_⟩
    exact handleAuthenticatedRequest_contains
      (responseType_holdsErrors htype) hanswer
  cases body with
  | createSession request =>
      refine ⟨_, _, rfl, rfl, fun answer hanswer => ?_⟩
      exact handle_contains (fun _ => rfl) hanswer
  | activateSession request =>
      have hsession : (r.manager.sessions.lookup
          header.authenticationToken).isSome = true := by
        rw [Option.isSome_iff_ne_none]
        exact fun hnone => hdropped ⟨⟨request, rfl⟩, hnone⟩
      obtain ⟨session, hlookup⟩ := Option.isSome_iff_exists.mp hsession
      have hhandled :
          handleDecodedRequest r connection
              { header, body := .activateSession request } env =
            some (handle .activateSession r connection
              (.activateSession
                { request with
                  sessionId := session.sessionId
                  authenticationToken := header.authenticationToken })
              { env with traceParent := [] }) := by
        unfold handleDecodedRequest handleActivateSession
        dsimp only
        rw [hlookup, Option.map_some]
      refine ⟨_, .activateSession, hhandled, rfl, fun answer hanswer => ?_⟩
      exact handle_contains (fun _ => rfl) hanswer
  | closeSession request =>
      refine ⟨_, _, rfl, rfl, fun answer hanswer => ?_⟩
      unfold handleCloseSession at hanswer
      split at hanswer
      · cases hanswer
        rfl
      · exact handle_contains (fun _ => rfl) hanswer
  | session request =>
      cases request with
      | registerNodes nodes => exact absurd trivial hregisters
      | unregisterNodes nodes => exact absurd trivial hregisters
      | _ => exact hauthenticated _ rfl rfl
  | _ => exact hauthenticated _ rfl rfl

end Handling

/-! ## Runs of the dispatcher -/

namespace DispatcherState

open ServerState

variable {dispatcher : ServiceDispatcher} {s : DispatcherState}

/-- Every waiting call waits in a suspended task of the server. -/
structure Consistent (s : DispatcherState) : Prop where
  numbered : s.calls.Numbered
  below : s.calls.WaitsBelow s.server.nextTask
  suspended : ∀ task held, s.calls.waiting task = some held →
    (s.server.suspended task).isSome = true

/-- The call has returned once, as asked, or waits in one task and will. -/
def Accounts (s : DispatcherState) (Q : Option ByteString → Prop)
    (call : ℕ) : Prop :=
  (∃ response, s.calls.Returned call response ∧ Q response) ∨
    ∃ task held, s.calls.Waits call held task ∧ held.Fits Q

theorem consistent_start (server : ServerState) :
    Consistent { server := server } where
  numbered := CallTable.numbered_empty
  below task held h := by cases h
  suspended task held h := by cases h

theorem consistent_iff :
    s.Consistent ↔ TaskCalls.Consistent s.server s.calls :=
  ⟨fun h => ⟨h.numbered, h.below, h.suspended⟩,
    fun h => ⟨h.numbered, h.below, h.suspended⟩⟩

/-- What a step does to the calls: one which has waited returns what the dispatcher
makes of the answer. -/
theorem step_advances (dispatcher : ServiceDispatcher) (s : DispatcherState)
    (action : DispatcherAction) :
    TaskCalls.Advance (fun _ => True) (fun _ => True)
      (fun held response => ∃ answer, response = dispatcher.respondLater answer held)
      s.server s.calls (s.step dispatcher action).server
      (s.step dispatcher action).calls := by
  cases action with
  | payload connection payload env =>
      unfold DispatcherState.step DispatcherState.receive
      dsimp only
      cases dispatcher.handlePayload s.server.runtime
          (s.server.connectionFor connection env) payload env with
      | refused response => exact .returned ⟨le_refl _, fun _ _ _ => rfl⟩ trivial
      | handled outcome held =>
          exact TaskCalls.advance_opened connection trivial fun _ _ => trivial
  | server action =>
      exact TaskCalls.advance_served fun _ answer _ _ _ _ => ⟨answer, rfl⟩

theorem Consistent.step (h : s.Consistent) (action : DispatcherAction) :
    (s.step dispatcher action).Consistent :=
  consistent_iff.mpr
    ((step_advances dispatcher s action).consistent (consistent_iff.mp h))

theorem Consistent.accounts_step (h : s.Consistent) {Q : Option ByteString → Prop}
    {call : ℕ} (haccounts : s.Accounts Q call) (action : DispatcherAction) :
    (s.step dispatcher action).Accounts Q call := by
  refine (step_advances dispatcher s action).accounts (consistent_iff.mp h) ?_ haccounts
  rintro held _ hfits ⟨answer, rfl⟩
  exact hfits dispatcher answer

theorem Consistent.run (h : s.Consistent) (actions : List DispatcherAction) :
    (runFrom (DispatcherState.step dispatcher) s actions).Consistent :=
  runFrom_invariant_of_step (fun _ action hs => hs.step action) h actions

theorem Consistent.accounts_run (h : s.Consistent)
    {Q : Option ByteString → Prop} {call : ℕ}
    (haccounts : s.Accounts Q call) (actions : List DispatcherAction) :
    (runFrom (DispatcherState.step dispatcher) s actions).Accounts Q call := by
  refine (runFrom_invariant_of_step
    (P := fun s : DispatcherState => s.Consistent ∧ s.Accounts Q call)
    (fun (s : DispatcherState) action hs => ?_) ⟨h, haccounts⟩ actions).2
  exact ⟨hs.1.step action, hs.1.accounts_step hs.2 action⟩

/-- The call has not returned, and waits in a task of the server for an event
which makes it return as asked. -/
def Awaits (dispatcher : ServiceDispatcher) (s : DispatcherState)
    (Q : Option ByteString → Prop) (call : ℕ) : Prop :=
  s.calls.returned call = [] ∧
    ∃ task connection work,
      s.server.suspended task = some ⟨connection, work⟩ ∧
      ∀ event, s.server.Ends connection task work event →
        ∃ response, (s.step dispatcher (.server event)).calls.returned call =
            [response] ∧ Q response

theorem Consistent.awaits (h : s.Consistent) {Q : Option ByteString → Prop}
    {call task : ℕ} {held : HeldPayload} (hwaits : s.calls.Waits call held task)
    (hfits : held.Fits Q) : Awaits dispatcher s Q call := by
  obtain ⟨⟨connection, work⟩, hsuspended⟩ := Option.isSome_iff_exists.mp
    (h.suspended task _ hwaits.waiting)
  refine ⟨hwaits.returned, task, connection, work, hsuspended, ?_⟩
  intro event hends
  obtain ⟨hresumed, report, answer, hreport, hanswer⟩ := hends.answers hsuspended
  refine ⟨_, ?_, hfits dispatcher answer⟩
  have hcalls : (s.step dispatcher (.server event)).calls =
      s.calls.finish task (dispatcher.respondLater answer) := by
    unfold DispatcherState.step DispatcherState.serve
    simp only [hresumed, hreport, hanswer]
  rw [hcalls]
  exact (hwaits.finish_self _).returned

/-- A payload which is decoded, registers no nodes and is not dropped has its
answer or waits for it. -/
theorem Consistent.receive_accounts (h : s.Consistent) (connection : ℕ)
    {payload : ByteString} (env : RequestEnvironment)
    {message : ServiceRequestMessage}
    (hdecode : dispatcher.codec.decodeServiceRequest payload = some message)
    (hregisters : ¬message.body.Registers)
    (hdropped : ¬Dropped message s.server.runtime) :
    (s.receive dispatcher connection payload env).Accounts (Answers message)
      s.calls.nextCall := by
  obtain ⟨header, body⟩ := message
  unfold DispatcherState.receive handlePayload
  rw [hdecode]
  cases body with
  | discovery service parameters =>
      exact .inl ⟨_, h.numbered.returned_openReturned _, _, _, rfl,
        encodeServiceResponse_carries _ _ _, .inl rfl⟩
  | request body =>
      obtain ⟨outcome, type, houtcome, htype, hanswers⟩ :=
        handleDecodedRequest_answers (s.server.connectionFor connection env) env
          hregisters hdropped
      dsimp only
      rw [houtcome, htype]
      dsimp only
      unfold Accounts
      dsimp only
      cases hprogress : outcome.progress with
      | answered answer =>
          exact .inl ⟨_, h.numbered.returned_openReturned _,
            respond_answers dispatcher htype (hanswers answer hprogress)⟩
      | suspended work =>
          exact .inr ⟨_, _, h.numbered.waits_openWaiting _ _,
            held_fits htype⟩

theorem receive_of_dropped (connection : ℕ) {payload : ByteString}
    (env : RequestEnvironment) {message : ServiceRequestMessage}
    (hdecode : dispatcher.codec.decodeServiceRequest payload = some message)
    (hdropped : Dropped message s.server.runtime) :
    s.receive dispatcher connection payload env =
      { s with calls := s.calls.openReturned none } := by
  obtain ⟨header, body⟩ := message
  obtain ⟨⟨request, hbody⟩, hnone⟩ := hdropped
  dsimp only at hbody hnone
  subst hbody
  unfold receive handlePayload
  rw [hdecode]
  dsimp only
  unfold handleDecodedRequest handleActivateSession
  dsimp only
  rw [hnone]
  rfl

end DispatcherState

open DispatcherState

/-- Whatever happened before and whatever happens after, a payload which is
decoded and registers no nodes returns one response to its request or waits for
an event which makes it; only an `ActivateSession` whose token names no session
is dropped, without effect. -/
theorem payload_answered_unless_dropped (dispatcher : ServiceDispatcher)
    (server : ServerState) (earlier later : List DispatcherAction)
    (connection : ℕ) (payload : ByteString) (env : RequestEnvironment)
    (message : ServiceRequestMessage)
    (hdecode : dispatcher.codec.decodeServiceRequest payload = some message)
    (hregisters : ¬message.body.Registers) :
    let before := runFrom (DispatcherState.step dispatcher)
      { server := server } earlier
    let received := before.step dispatcher (.payload connection payload env)
    let after := runFrom (DispatcherState.step dispatcher) received later
    let call := before.calls.nextCall
    (Dropped message before.server.runtime →
        received.server = before.server ∧
          after.calls.returned call = [none]) ∧
      (¬Dropped message before.server.runtime →
        (∃ response, after.calls.returned call = [response] ∧
            Answers message response) ∨
          Awaits dispatcher after (Answers message) call) := by
  intro before received after call
  have hbefore : before.Consistent := (consistent_start server).run earlier
  have hreceived : received.Consistent :=
    hbefore.step (.payload connection payload env)
  have hafter : after.Consistent := hreceived.run later
  refine ⟨fun hdropped => ?_, fun hdropped => ?_⟩
  · have heq : received =
        { before with calls := before.calls.openReturned none } :=
      receive_of_dropped connection env hdecode hdropped
    have haccounts : received.Accounts (· = none) call := by
      rw [heq]
      exact .inl ⟨none, hbefore.numbered.returned_openReturned none, rfl⟩
    refine ⟨by rw [heq], ?_⟩
    rcases hreceived.accounts_run haccounts later with
      ⟨response, hreturned, rfl⟩ | ⟨task, held, _, hfits⟩
    · exact hreturned.returned
    · cases hfits dispatcher (.serviceFault .good)
  · have haccounts : received.Accounts (Answers message) call :=
      hbefore.receive_accounts connection env hdecode hregisters hdropped
    rcases hreceived.accounts_run haccounts later with
      ⟨response, hreturned, hanswers⟩ | ⟨task, held, hwaits, hfits⟩
    · exact .inl ⟨response, hreturned.returned, hanswers⟩
    · exact .inr (hafter.awaits hwaits hfits)

/-! ## Two payloads -/

/-- Codecs under which a message of any type is a `Read` or an
`ActivateSession` without parameters, with a token of its own. -/
def twoServicesCodec : ServiceCodec where
  decodeDiscovery _ _ := none
  decodeCreateSession _ := none
  decodeActivateSession _ := some
    ({ authenticationToken := { identifier := .numeric 9, namespaceIndex := 3 }
       requestHandle := 8 }, {})
  decodeCloseSession _ := none
  decodeCreateSubscription _ := none
  decodeModifySubscription _ := none
  decodeSetPublishingMode _ := none
  decodeDeleteSubscriptions _ := none
  decodePublish _ := none
  decodeRepublish _ := none
  decodeTransferSubscriptions _ := none
  decodeCreateMonitoredItems _ := none
  decodeModifyMonitoredItems _ := none
  decodeDeleteMonitoredItems _ := none
  decodeSetMonitoringMode _ := none
  decodeBrowse _ := none
  decodeBrowseNext _ := none
  decodeRegisterNodes _ := none
  decodeUnregisterNodes _ := none
  decodeService _ parameters := some
    ({ authenticationToken := { identifier := .numeric 9, namespaceIndex := 3 }
       requestHandle := 7 }, parameters)
  encodeFields _ := []

def twoServices : ServiceDispatcher where
  codec := twoServicesCodec
  discover _ _ _ := (.good, [])

def idleServer : ServerState := (ServerRun.start {} {}).state

def readRequest : ServiceRequestMessage where
  header :=
    { authenticationToken := { identifier := .numeric 9, namespaceIndex := 3 }
      requestHandle := 7 }
  body := .request (.service .read [])

def activateRequest : ServiceRequestMessage where
  header :=
    { authenticationToken := { identifier := .numeric 9, namespaceIndex := 3 }
      requestHandle := 8 }
  body := .request (.activateSession {})

theorem decode_readRequest :
    twoServicesCodec.decodeServiceRequest (appendMessage 631 []) =
      some readRequest := by
  unfold ServiceCodec.decodeServiceRequest
  rw [readMessage_appendMessage]
  rfl

theorem decode_activateRequest :
    twoServicesCodec.decodeServiceRequest (appendMessage 467 []) =
      some activateRequest := by
  unfold ServiceCodec.decodeServiceRequest
  rw [readMessage_appendMessage]
  rfl

/-- A `Read` without a session is answered. -/
theorem read_without_session_answered :
    let after := runFrom (DispatcherState.step twoServices)
      { server := idleServer } [.payload 0 (appendMessage 631 []) {}]
    (∃ response, after.calls.returned 0 = [response] ∧
        Answers readRequest response) ∨
      Awaits twoServices after (Answers readRequest) 0 :=
  (payload_answered_unless_dropped twoServices idleServer [] [] 0
    (appendMessage 631 []) {} readRequest decode_readRequest id).2 fun hdropped => by
      obtain ⟨⟨request, hbody⟩, _⟩ := hdropped
      cases hbody

/-- An `ActivateSession` for a session the server does not know is decoded, and
its call returns nothing. -/
theorem activate_of_unknown_session_returns_nothing :
    twoServicesCodec.decodeServiceRequest (appendMessage 467 []) =
        some activateRequest ∧
      (runFrom (DispatcherState.step twoServices) { server := idleServer }
        [.payload 0 (appendMessage 467 []) {}]).calls.returned 0 = [none] := by
  refine ⟨decode_activateRequest, ?_⟩
  have hdropped : Dropped activateRequest idleServer.runtime :=
    ⟨⟨_, rfl⟩, rfl⟩
  rw [runFrom_cons, runFrom_nil]
  have hreceive : ({ server := idleServer } : DispatcherState).step twoServices
      (.payload 0 (appendMessage 467 []) {}) =
        { server := idleServer
          calls := CallTable.openReturned {} none } :=
    @receive_of_dropped twoServices { server := idleServer } 0 _ {}
      activateRequest decode_activateRequest hdropped
  rw [hreceive]
  rfl

end Binary

end OpcuaStack
