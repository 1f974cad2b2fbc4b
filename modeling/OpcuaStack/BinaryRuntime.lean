import OpcuaStack.ServerRuntime

/-!
# The binary transport's runtime

`transport/binary/runtime.cpp`.  The binary transport hands a decoded request to
the shared runtime.  A request which needs a session is checked against the
token of its header first, and every answer is brought to the response type of
its request.  The sessionless discovery services are not modelled.
-/

namespace OpcuaStack

structure ServiceRequestHeader where
  authenticationToken : NodeId := {}
  requestHandle : UInt32 := 0
  traceParent : ByteText := []

structure DecodedRequest where
  header : ServiceRequestHeader
  body : RequestBody

/-- A response type, as the templates of the binary runtime use it: the bodies
which are of the type, and `BuildRuntimeErrorResponse` at it. -/
structure ResponseType where
  contains : ResponseBody → Bool
  buildRuntimeErrorResponse : Status → ResponseBody

namespace ResponseType

def createSession : ResponseType where
  contains | .createSession _ => true | _ => false
  buildRuntimeErrorResponse status := .createSession { status := status }

def activateSession : ResponseType where
  contains | .activateSession _ => true | _ => false
  buildRuntimeErrorResponse status := .activateSession { status := status }

def closeSession : ResponseType where
  contains | .closeSession _ => true | _ => false
  buildRuntimeErrorResponse status := .closeSession { status := status }

def createSubscription : ResponseType where
  contains | .createSubscription _ => true | _ => false
  buildRuntimeErrorResponse status := .createSubscription { status := status }

def modifySubscription : ResponseType where
  contains | .modifySubscription _ => true | _ => false
  buildRuntimeErrorResponse status := .modifySubscription { status := status }

def setPublishingMode : ResponseType where
  contains | .setPublishingMode _ => true | _ => false
  buildRuntimeErrorResponse status :=
    .setPublishingMode { serviceResult := status }

def deleteSubscriptions : ResponseType where
  contains | .deleteSubscriptions _ => true | _ => false
  buildRuntimeErrorResponse status :=
    .deleteSubscriptions { serviceResult := status }

def publish : ResponseType where
  contains | .publish _ => true | _ => false
  buildRuntimeErrorResponse status := .publish { status := status }

def republish : ResponseType where
  contains | .republish _ => true | _ => false
  buildRuntimeErrorResponse status := .republish { status := status }

def transferSubscriptions : ResponseType where
  contains | .transferSubscriptions _ => true | _ => false
  buildRuntimeErrorResponse status :=
    .transferSubscriptions { serviceResult := status }

def createMonitoredItems : ResponseType where
  contains | .createMonitoredItems _ => true | _ => false
  buildRuntimeErrorResponse status := .createMonitoredItems { status := status }

def modifyMonitoredItems : ResponseType where
  contains | .modifyMonitoredItems _ => true | _ => false
  buildRuntimeErrorResponse status := .modifyMonitoredItems { status := status }

def deleteMonitoredItems : ResponseType where
  contains | .deleteMonitoredItems _ => true | _ => false
  buildRuntimeErrorResponse status :=
    .deleteMonitoredItems { serviceResult := status }

def setMonitoringMode : ResponseType where
  contains | .setMonitoringMode _ => true | _ => false
  buildRuntimeErrorResponse status :=
    .setMonitoringMode { serviceResult := status }

def browse : ResponseType where
  contains | .browse _ => true | _ => false
  buildRuntimeErrorResponse status := .browse { serviceResult := status }

def browseNext : ResponseType where
  contains | .browseNext _ => true | _ => false
  buildRuntimeErrorResponse status := .browseNext { serviceResult := status }

def service (kind : ServiceKind) : ResponseType where
  contains | .service answered _ _ => answered == kind | _ => false
  buildRuntimeErrorResponse status := .service kind status []

end ResponseType

namespace BinaryRuntime

/-- `AuthenticatedRequestTraits`, the table of the requests which need a
session.  It leaves out `RegisterNodes` and `UnregisterNodes`. -/
def authenticatedResponse : RequestBody → Option ResponseType
  | .createSession _ => none
  | .activateSession _ => none
  | .closeSession _ => none
  | .createSubscription _ => some .createSubscription
  | .deleteSubscriptions _ => some .deleteSubscriptions
  | .transferSubscriptions _ => some .transferSubscriptions
  | .publish _ => some .publish
  | .browse _ => some .browse
  | .session (.modifySubscription _) => some .modifySubscription
  | .session (.setPublishingMode _) => some .setPublishingMode
  | .session (.republish _) => some .republish
  | .session (.createMonitoredItems _) => some .createMonitoredItems
  | .session (.modifyMonitoredItems _) => some .modifyMonitoredItems
  | .session (.deleteMonitoredItems _) => some .deleteMonitoredItems
  | .session (.setMonitoringMode _) => some .setMonitoringMode
  | .session (.browseNext _) => some .browseNext
  | .session (.registerNodes _) => none
  | .session (.unregisterNodes _) => none
  | .service kind _ => some (.service kind)

/-- The answer of `Handle<Response>` for the body which the runtime gave. -/
def typedResponse (type : ResponseType) (body : ResponseBody) : ResponseBody :=
  if type.contains body then body
  else
    match body with
    | .serviceFault status => type.buildRuntimeErrorResponse status
    | _ => type.buildRuntimeErrorResponse (.ofCode .bad)

/-- `Handle<Response>`, up to its first suspension.  The answer of a request
which suspends passes through `typedResponse` when it comes. -/
def handle (type : ResponseType) (r : ServerRuntime)
    (connection : ConnectionState) (request : RequestBody)
    (env : RequestEnvironment) : HandlerOutcome :=
  let outcome := r.handle connection request env
  { outcome with
    progress :=
      match outcome.progress with
      | .answered body => .answered (typedResponse type body)
      | .suspended work => .suspended work }

def handleAuthenticatedRequest (type : ResponseType) (r : ServerRuntime)
    (connection : ConnectionState) (request : DecodedRequest)
    (env : RequestEnvironment) : HandlerOutcome :=
  if connection.authenticationToken =
      some request.header.authenticationToken then
    handle type r connection request.body
      { env with traceParent := request.header.traceParent }
  else
    { runtime := r
      connection := connection
      progress := .answered
        (type.buildRuntimeErrorResponse (.ofCode .badSessionIdInvalid)) }

/-- `HandleSessionRequest` for `CreateSession`. -/
def handleCreateSession (r : ServerRuntime) (connection : ConnectionState)
    (request : CreateSessionRequest) (env : RequestEnvironment) :
    HandlerOutcome :=
  handle .createSession r connection (.createSession request)
    { env with traceParent := [] }

/-- `HandleSessionRequest` for `ActivateSession`; a token without a session is
not answered. -/
def handleActivateSession (r : ServerRuntime) (connection : ConnectionState)
    (header : ServiceRequestHeader) (request : ActivateSessionRequest)
    (env : RequestEnvironment) : Option HandlerOutcome :=
  (r.manager.sessions.lookup header.authenticationToken).map fun session =>
    handle .activateSession r connection
      (.activateSession
        { request with
          sessionId := session.sessionId
          authenticationToken := header.authenticationToken })
      { env with traceParent := [] }

/-- `HandleSessionRequest` for `CloseSession`. -/
def handleCloseSession (r : ServerRuntime) (connection : ConnectionState)
    (header : ServiceRequestHeader) (env : RequestEnvironment) :
    HandlerOutcome :=
  match r.manager.sessions.lookup header.authenticationToken with
  | none =>
      { runtime := r
        connection := connection
        progress := .answered
          (.closeSession { status := .ofCode .badSessionIdInvalid }) }
  | some session =>
      handle .closeSession r connection
        (.closeSession
          { sessionId := session.sessionId
            authenticationToken := header.authenticationToken })
        { env with traceParent := [] }

/-- `HandleDecodedRequest`; a request which is not answered ends in `none`. -/
def handleDecodedRequest (r : ServerRuntime) (connection : ConnectionState)
    (request : DecodedRequest) (env : RequestEnvironment) :
    Option HandlerOutcome :=
  match request.body with
  | .createSession body => some (handleCreateSession r connection body env)
  | .activateSession body =>
      handleActivateSession r connection request.header body env
  | .closeSession _ => some (handleCloseSession r connection request.header env)
  | body =>
      (authenticatedResponse body).map fun type =>
        handleAuthenticatedRequest type r connection request env

end BinaryRuntime

end OpcuaStack
