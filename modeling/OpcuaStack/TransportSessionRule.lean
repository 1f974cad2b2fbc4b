import OpcuaStack.BinaryRuntime
import OpcuaStack.SessionAgreement
import OpcuaStack.WebSocketServer

/-!
# The session rule of the two transports

A request which needs a session names one by the token in its header.  The
shared runtime looks only at the token of the connection, so the rule has to be
kept by the transports.  The binary one compares the two tokens; the WebSocket
one drops the header when it decodes the body.
-/

namespace OpcuaStack

/-- The requests of the services which need a session: those of attributes,
view, method, history, node management, subscriptions and monitored items. -/
def SessionBound : RequestBody → Prop
  | .createSession _ | .activateSession _ | .closeSession _ => False
  | .session (.registerNodes _) | .session (.unregisterNodes _) => False
  | _ => True

theorem SessionBound.not_sessionService {body : RequestBody}
    (h : SessionBound body) : ¬ServerRuntime.RequestsSessionService body := by
  cases body <;> simp_all [SessionBound, ServerRuntime.RequestsSessionService]

namespace ServerRuntime

def AttachedTo (r : ServerRuntime) (connection : ConnectionState)
    (token : NodeId) : Prop :=
  ∃ session, r.findAttachedSession connection = some (token, session)

theorem attachedTo_iff {r : ServerRuntime} {connection : ConnectionState}
    {attached : NodeId} {session : ServerSession}
    (hfound : r.findAttachedSession connection = some (attached, session))
    (token : NodeId) : r.AttachedTo connection token ↔ attached = token := by
  constructor
  · rintro ⟨named, hnamed⟩
    rw [hfound, Option.some.injEq, Prod.mk.injEq] at hnamed
    exact hnamed.1
  · rintro rfl
    exact ⟨session, hfound⟩

theorem not_attachedTo_of_missing {r : ServerRuntime}
    {connection : ConnectionState}
    (hnone : r.findAttachedSession connection = none) (token : NodeId) :
    ¬r.AttachedTo connection token := by
  rintro ⟨session, hfound⟩
  simp [hnone] at hfound

/-- The session rule for a request with the given token: if the connection is
attached to the session which the token names, the runtime executes the request
under that session, and else it is refused without effect. -/
structure MeetsSessionRule (r : ServerRuntime) (connection : ConnectionState)
    (token : NodeId) (body : RequestBody) (env : RequestEnvironment)
    (outcome : HandlerOutcome) (answer : Option ResponseBody) : Prop where
  executed : r.AttachedTo connection token →
    outcome.use = some (token, .served) ∧
      outcome.runtime = (r.handle connection body env).runtime
  refused : ¬r.AttachedTo connection token →
    outcome.use = none ∧
      answer.map ResponseBody.serviceResult =
        some (.ofCode .badSessionIdInvalid) ∧
      outcome.runtime = r ∧ outcome.connection = connection

/-- `SessionMissingResponse` for a request. -/
def missingResponse : RequestBody → ResponseBody
  | .createSubscription _ =>
      .createSubscription { status := .ofCode .badSessionIdInvalid }
  | .deleteSubscriptions _ =>
      .deleteSubscriptions { serviceResult := .ofCode .badSessionIdInvalid }
  | .transferSubscriptions _ =>
      .transferSubscriptions { serviceResult := .ofCode .badSessionIdInvalid }
  | .publish _ => .publish { status := .ofCode .badSessionIdInvalid }
  | .session request => sessionMissing request
  | _ => sessionMissingFault

theorem missingResponse_serviceResult (body : RequestBody) :
    (missingResponse body).serviceResult = .ofCode .badSessionIdInvalid := by
  cases body with
  | session request => cases request <;> rfl
  | _ => rfl

section Handle

variable {r : ServerRuntime} {connection : ConnectionState}
    {body : RequestBody} (env : RequestEnvironment)

theorem handle_of_missing (hbody : ¬RequestsSessionService body)
    (hnone : r.findAttachedSession connection = none) :
    r.handle connection body env =
      { runtime := r
        connection := connection
        progress := .answered (missingResponse body) } := by
  cases body with
  | createSession request => exact absurd trivial hbody
  | activateSession request => exact absurd trivial hbody
  | closeSession request => exact absurd trivial hbody
  | _ => simp only [handle, withAttachedSession, hnone, missingResponse]

theorem handle_use_of_attached (hbody : ¬RequestsSessionService body)
    {token : NodeId} {session : ServerSession}
    (hfound : r.findAttachedSession connection = some (token, session)) :
    (r.handle connection body env).use = some (token, .served) := by
  cases body with
  | createSession request => exact absurd trivial hbody
  | activateSession request => exact absurd trivial hbody
  | closeSession request => exact absurd trivial hbody
  | _ => simp only [handle, withAttachedSession, hfound]

end Handle

end ServerRuntime

namespace BinaryRuntime

open ServerRuntime

theorem exists_authenticatedResponse {body : RequestBody}
    (h : SessionBound body) :
    ∃ type, authenticatedResponse body = some type := by
  cases body with
  | createSession request => exact h.elim
  | activateSession request => exact h.elim
  | closeSession request => exact h.elim
  | session request =>
      cases request with
      | registerNodes nodes => exact h.elim
      | unregisterNodes nodes => exact h.elim
      | _ => exact ⟨_, rfl⟩
  | _ => exact ⟨_, rfl⟩

/-- An error response carries its status, and the answer for a missing session
is of the type of its request or a fault. -/
theorem authenticatedResponse_spec {body : RequestBody} {type : ResponseType}
    (htype : authenticatedResponse body = some type) :
    (∀ status, (type.buildRuntimeErrorResponse status).serviceResult = status) ∧
      (type.contains (missingResponse body) = true ∨
        missingResponse body = sessionMissingFault) := by
  cases body with
  | createSession request => simp [authenticatedResponse] at htype
  | activateSession request => simp [authenticatedResponse] at htype
  | closeSession request => simp [authenticatedResponse] at htype
  | session request =>
      cases request with
      | registerNodes nodes => simp [authenticatedResponse] at htype
      | unregisterNodes nodes => simp [authenticatedResponse] at htype
      | browseNext request =>
          obtain rfl := Option.some.inj htype
          exact ⟨fun _ => rfl, .inr rfl⟩
      | _ =>
          obtain rfl := Option.some.inj htype
          exact ⟨fun _ => rfl, .inl rfl⟩
  | browse request =>
      obtain rfl := Option.some.inj htype
      exact ⟨fun _ => rfl, .inr rfl⟩
  | service kind parameters =>
      obtain rfl := Option.some.inj htype
      exact ⟨fun _ => rfl, .inr rfl⟩
  | _ =>
      obtain rfl := Option.some.inj htype
      exact ⟨fun _ => rfl, .inl rfl⟩

theorem typedResponse_missingResponse {body : RequestBody} {type : ResponseType}
    (htype : authenticatedResponse body = some type) :
    (typedResponse type (missingResponse body)).serviceResult =
      .ofCode .badSessionIdInvalid := by
  obtain ⟨herror, hcontained | hfault⟩ := authenticatedResponse_spec htype
  · unfold typedResponse
    rw [if_pos hcontained]
    exact missingResponse_serviceResult body
  · rw [hfault]
    unfold typedResponse
    split
    · rfl
    · exact herror _

theorem handleAuthenticatedRequest_meetsSessionRule (r : ServerRuntime)
    (connection : ConnectionState) (request : DecodedRequest)
    (env : RequestEnvironment) {type : ResponseType}
    (htype : authenticatedResponse request.body = some type)
    (hbound : SessionBound request.body) :
    MeetsSessionRule r connection request.header.authenticationToken
      request.body { env with traceParent := request.header.traceParent }
      (handleAuthenticatedRequest type r connection request env)
      (handleAuthenticatedRequest type r connection request
        env).progress.answer := by
  obtain ⟨herror, _⟩ := authenticatedResponse_spec htype
  have hbody := hbound.not_sessionService
  unfold handleAuthenticatedRequest
  split
  next htoken =>
    constructor
    · rintro ⟨session, hfound⟩
      exact ⟨handle_use_of_attached _ hbody hfound, rfl⟩
    · intro hdetached
      have hnone : r.findAttachedSession connection = none := by
        cases hfound : r.findAttachedSession connection with
        | none => rfl
        | some found =>
            have hsame := (findAttachedSession_eq_some.mp hfound).1
            rw [htoken, Option.some.injEq] at hsame
            exact absurd ((attachedTo_iff hfound _).mpr hsame.symm) hdetached
      simp only [handle, handle_of_missing _ hbody hnone]
      refine ⟨trivial, ?_, trivial, trivial⟩
      simp only [Progress.answer, Option.map_some,
        typedResponse_missingResponse htype]
  next htoken =>
    constructor
    · rintro ⟨session, hfound⟩
      exact absurd (findAttachedSession_eq_some.mp hfound).1 htoken
    · intro _
      refine ⟨rfl, ?_, rfl, rfl⟩
      simp only [Progress.answer, Option.map_some, herror]

theorem handleDecodedRequest_of_sessionBound (r : ServerRuntime)
    (connection : ConnectionState) (request : DecodedRequest)
    (env : RequestEnvironment) (hbound : SessionBound request.body) :
    handleDecodedRequest r connection request env =
      (authenticatedResponse request.body).map fun type =>
        handleAuthenticatedRequest type r connection request env := by
  unfold handleDecodedRequest
  split
  next heq => rw [heq] at hbound; exact hbound.elim
  next heq => rw [heq] at hbound; exact hbound.elim
  next heq => rw [heq] at hbound; exact hbound.elim
  next => rfl

end BinaryRuntime

namespace WebSocketServer

open ServerRuntime

/-- When a WebSocket request is treated as the rule says: a connection which is
attached at all is attached to the session named in the header, and for one
which is not the refusal is not too large to be written. -/
def KeepsSessionRule (server : WebSocketServer) (r : ServerRuntime)
    (connection : ConnectionState) (token : NodeId) (requestHandle : UInt32)
    (body : RequestBody) : Prop :=
  (∀ attached session,
      r.findAttachedSession connection = some (attached, session) →
        attached = token) ∧
    (r.findAttachedSession connection = none →
      server.codec.serializedSize
          { requestHandle := requestHandle, body := missingResponse body } ≤
        server.maxMessageSize)

section Handle

variable (server : WebSocketServer) (r : ServerRuntime)
    (connection : ConnectionState) (token : NodeId) (requestHandle : UInt32)
    {body : RequestBody} (env : RequestEnvironment)

theorem written_of_missing (hbody : ¬RequestsSessionService body)
    (hnone : r.findAttachedSession connection = none) :
    (server.written requestHandle (r.handle connection body env)).map
        ResponseMessage.body =
      if server.codec.serializedSize
          { requestHandle := requestHandle, body := missingResponse body } ≤
            server.maxMessageSize then
        some (missingResponse body)
      else none := by
  simp only [handle_of_missing env hbody hnone, written, write, Progress.answer,
    Option.bind_some]
  split <;> rfl

theorem handle_meetsSessionRule_iff (hbody : ¬RequestsSessionService body) :
    MeetsSessionRule r connection token body env (r.handle connection body env)
        ((server.written requestHandle (r.handle connection body env)).map
          ResponseMessage.body) ↔
      server.KeepsSessionRule r connection token requestHandle body := by
  cases hfound : r.findAttachedSession connection with
  | none =>
      have hdetached := not_attachedTo_of_missing hfound token
      have hwritten :=
        written_of_missing server r connection requestHandle env hbody hfound
      constructor
      · intro hrule
        refine ⟨by simp [hfound], fun _ => ?_⟩
        have hanswer := (hrule.refused hdetached).2.1
        rw [hwritten] at hanswer
        by_contra hlarge
        simp [hlarge] at hanswer
      · intro hkeeps
        refine ⟨fun hattached => absurd hattached hdetached, fun _ => ?_⟩
        rw [hwritten, if_pos (hkeeps.2 hfound), handle_of_missing env hbody hfound]
        refine ⟨rfl, ?_, rfl, rfl⟩
        rw [Option.map_some, missingResponse_serviceResult]
  | some found =>
      obtain ⟨attached, session⟩ := found
      have huse := handle_use_of_attached env hbody hfound
      have hattached := attachedTo_iff hfound token
      constructor
      · intro hrule
        refine ⟨fun other otherSession hother => ?_, by simp [hfound]⟩
        rw [hfound, Option.some.injEq, Prod.mk.injEq] at hother
        rw [← hother.1, ← hattached]
        by_contra hdetached
        have hunused := (hrule.refused hdetached).1
        simp [huse] at hunused
      · intro hkeeps
        have hsame := hkeeps.1 attached session hfound
        subst hsame
        exact ⟨fun _ => ⟨huse, rfl⟩,
          fun hdetached => absurd (hattached.mpr rfl) hdetached⟩

end Handle

theorem runFrame_of_request {server : WebSocketServer} {frame : ByteText}
    {message : RequestMessage} {body : RequestBody}
    (hmessage : server.decodeFrame frame = some message)
    (hbody : message.body = .request body) (r : ServerRuntime)
    (connection : ConnectionState) (env : RequestEnvironment) :
    server.runFrame r connection frame env =
      .handled
        (r.handle connection body { env with traceParent := message.traceParent })
        (server.written message.requestHandle
          (r.handle connection body
            { env with traceParent := message.traceParent })) := by
  simp only [runFrame, hmessage, hbody]

end WebSocketServer

namespace ServerRuntime

open BinaryRuntime WebSocketServer

/-- In every state, the binary transport applies the session rule to every
request which needs a session, and the WebSocket transport does so exactly for
the requests of a connection which keeps to the session in their header. -/
theorem transports_apply_session_rule (server : WebSocketServer)
    (r : ServerRuntime) (connection : ConnectionState)
    (env : RequestEnvironment) :
    (∀ request : DecodedRequest, SessionBound request.body →
      ∃ outcome, handleDecodedRequest r connection request env = some outcome ∧
        MeetsSessionRule r connection request.header.authenticationToken
          request.body { env with traceParent := request.header.traceParent }
          outcome outcome.progress.answer) ∧
    ∀ frame message body header,
      server.decodeFrame frame = some message →
      message.body = .request body → SessionBound body →
      server.frameHeader frame = some header →
        ∃ outcome written,
          server.runFrame r connection frame env = .handled outcome written ∧
          (MeetsSessionRule r connection header.authenticationToken body
              { env with traceParent := message.traceParent } outcome
              (written.map ResponseMessage.body) ↔
            server.KeepsSessionRule r connection header.authenticationToken
              message.requestHandle body) := by
  constructor
  · intro request hbound
    obtain ⟨type, htype⟩ := exists_authenticatedResponse hbound
    refine ⟨handleAuthenticatedRequest type r connection request env, ?_, ?_⟩
    · rw [handleDecodedRequest_of_sessionBound r connection request env hbound,
        htype, Option.map_some]
    · exact handleAuthenticatedRequest_meetsSessionRule r connection request env
        htype hbound
  · intro frame message body header hmessage hbody hbound _
    exact ⟨_, _, runFrame_of_request hmessage hbody r connection env,
      handle_meetsSessionRule_iff server r connection
        header.authenticationToken message.requestHandle _
        hbound.not_sessionService⟩

end ServerRuntime

namespace ServerRun

open ServerRuntime WebSocketServer

/-- The text of a `Read` without nodes, with the token of its header. -/
def readText (token : String) : ByteText :=
  asciiText "\x7b\"requestHandle\":1,\"service\":\"Read\",\"body\":\x7b" ++
    (asciiText "\"RequestHeader\":\x7b\"AuthenticationToken\":\"" ++
      (asciiText token ++ asciiText "\"\x7d\x7d\x7d"))

def readJson (token : String) : JsonValue :=
  .object
    [(asciiText "requestHandle", .int64 1),
      (asciiText "service", .string (asciiText "Read")),
      (asciiText "body", .object
        [(asciiText "RequestHeader", .object
          [(asciiText "AuthenticationToken", .string (asciiText token))])])]

/-- The codec on the messages of `readText`, for two tokens. -/
def readCodec : JsonCodec where
  parse text :=
    (["ns=3;i=1", "ns=3;i=2"].find? fun token => readText token == text).map
      readJson
  serializedSize _ := 80
  decodeRequestHeader json := do
    let members ← json.requireObject
    let token ← (← JsonValue.requireField members
      "AuthenticationToken").requireString
    if token = asciiText "ns=3;i=1" then
      return { authenticationToken := defaultToken 1 }
    else if token = asciiText "ns=3;i=2" then
      return { authenticationToken := defaultToken 2 }
    else none
  decodeDiscovery _ _ := none
  decodeCreateSession _ := none
  decodeActivateSession _ := none
  decodeCloseSession _ := none
  decodeCreateSubscription _ := none
  decodeModifySubscription _ := none
  decodeSetPublishingMode _ := none
  decodeDeleteSubscriptions _ := none
  decodePublish _ := none
  decodeRepublish _ := none
  decodeTransferSubscriptions _ := none
  decodeCreateMonitoredItems _ := none
  decodeModifyMonitoredItems _ := none
  decodeDeleteMonitoredItems _ := none
  decodeSetMonitoringMode _ := none
  decodeBrowse _ := none
  decodeBrowseNext _ := none
  decodeService kind _ := if kind = .read then some [] else none

theorem parse_readText :
    readCodec.parse (readText "ns=3;i=1") = some (readJson "ns=3;i=1") ∧
      readCodec.parse (readText "ns=3;i=2") = some (readJson "ns=3;i=2") := by
  have htokens : asciiText "ns=3;i=1" ≠ asciiText "ns=3;i=2" := by decide
  have hdiffer : (readText "ns=3;i=1" == readText "ns=3;i=2") = false := by
    simpa [readText] using htokens
  constructor
  · simp only [readCodec, List.find?_cons, beq_self_eq_true, Option.map_some]
  · simp only [readCodec, List.find?_cons, hdiffer, beq_self_eq_true,
      Option.map_some]

/-- Both messages decode to the same request; only their headers differ. -/
theorem decode_readText :
    let server : WebSocketServer := { codec := readCodec }
    let read : RequestMessage :=
      { requestHandle := 1, body := .request (.service .read []) }
    server.decodeFrame (readText "ns=3;i=1") = some read ∧
      server.decodeFrame (readText "ns=3;i=2") = some read ∧
      server.frameHeader (readText "ns=3;i=1") =
        some { authenticationToken := defaultToken 1 } ∧
      server.frameHeader (readText "ns=3;i=2") =
        some { authenticationToken := defaultToken 2 } := by
  obtain ⟨hfirst, hsecond⟩ := parse_readText
  refine ⟨?_, ?_, ?_, ?_⟩
  · rw [WebSocketServer.decodeFrame, hfirst]
    rfl
  · rw [WebSocketServer.decodeFrame, hsecond]
    rfl
  · rw [WebSocketServer.frameHeader, hfirst]
    rfl
  · rw [WebSocketServer.frameHeader, hsecond]
    rfl

/-- A server with one session, which the first connection has activated. -/
def oneSession : ServerState :=
  (runFrom step (start {} {})
    [creates 0 {}, activates 0 (defaultToken 1) {}]).state

theorem oneSession_attached : ∃ session,
    oneSession.runtime.findAttachedSession (oneSession.connections 0) =
      some (defaultToken 1, session) := by
  have htoken : (oneSession.connections 0).authenticationToken =
      some (defaultToken 1) := by
    decide +kernel
  have hregistered : (oneSession.runtime.sessions.lookup
      (defaultToken 1)).isSome = true := by
    decide +kernel
  obtain ⟨session, hlookup⟩ := Option.isSome_iff_exists.mp hregistered
  exact ⟨session, findAttachedSession_eq_some.mpr ⟨htoken, hlookup⟩⟩

theorem read_under_own_token_meets_session_rule :
    ∃ outcome written,
      WebSocketServer.runFrame { codec := readCodec } oneSession.runtime
          (oneSession.connections 0) (readText "ns=3;i=1") {} =
        .handled outcome written ∧
      MeetsSessionRule oneSession.runtime (oneSession.connections 0)
        (defaultToken 1) (.service .read []) {} outcome
        (written.map ResponseMessage.body) := by
  obtain ⟨session, hattached⟩ := oneSession_attached
  obtain ⟨outcome, written, hrun, hrule⟩ :=
    (transports_apply_session_rule { codec := readCodec } oneSession.runtime
      (oneSession.connections 0) {}).2 (readText "ns=3;i=1") _ _ _
      decode_readText.1 rfl trivial decode_readText.2.2.1
  refine ⟨outcome, written, hrun, hrule.mpr ⟨fun token other hfound => ?_, ?_⟩⟩
  · rw [hattached, Option.some.injEq, Prod.mk.injEq] at hfound
    exact hfound.1.symm
  · intro hnone
    simp [hattached] at hnone

/-- The connection of the first session sends a `Read` with another token.  The
binary transport refuses it; the WebSocket transport executes it under the first
session. -/
theorem read_under_other_token_is_executed :
    (∃ outcome, BinaryRuntime.handleDecodedRequest oneSession.runtime
        (oneSession.connections 0)
        { header := { authenticationToken := defaultToken 2 }
          body := .service .read [] } {} = some outcome ∧
      outcome.progress.answer.map ResponseBody.serviceResult =
        some (.ofCode .badSessionIdInvalid)) ∧
    ∃ outcome written,
      WebSocketServer.runFrame { codec := readCodec } oneSession.runtime
          (oneSession.connections 0) (readText "ns=3;i=2") {} =
        .handled outcome written ∧
      outcome.use = some (defaultToken 1, .served) ∧
      ¬MeetsSessionRule oneSession.runtime (oneSession.connections 0)
        (defaultToken 2) (.service .read []) {} outcome
        (written.map ResponseMessage.body) := by
  obtain ⟨session, hattached⟩ := oneSession_attached
  have hdetached : ¬oneSession.runtime.AttachedTo (oneSession.connections 0)
      (defaultToken 2) := by
    rw [attachedTo_iff hattached]
    decide
  constructor
  · have hrule := BinaryRuntime.handleAuthenticatedRequest_meetsSessionRule
      oneSession.runtime (oneSession.connections 0)
      { header := { authenticationToken := defaultToken 2 }
        body := .service .read [] } {} rfl trivial
    exact ⟨_, rfl, (hrule.refused hdetached).2.1⟩
  · have huse : (oneSession.runtime.handle (oneSession.connections 0)
        (.service .read []) {}).use = some (defaultToken 1, .served) :=
      handle_use_of_attached {} id hattached
    refine ⟨_, _, runFrame_of_request decode_readText.2.1 rfl _ _ {}, huse,
      fun hrule => ?_⟩
    have hunused := huse.symm.trans (hrule.refused hdetached).1
    simp at hunused

end ServerRun
end OpcuaStack
