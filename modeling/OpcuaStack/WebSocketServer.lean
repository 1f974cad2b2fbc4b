import OpcuaStack.ServerSystem

/-!
# The WebSocket transport

`transport/websocket/server.cpp` and `message_codec.cpp`.  A message is a JSON
object with a handle, the name of a service and a body, and the body is the
request of that service with its `RequestHeader`.  The decoders of the bodies
are generated from the schema, and the text is parsed and written by a library;
both are the fields of `JsonCodec`.
-/

namespace OpcuaStack

namespace JsonValue

def requireObject : JsonValue → Option (List (ByteText × JsonValue))
  | .object members => some members
  | _ => none

def requireField (members : List (ByteText × JsonValue)) (key : String) :
    Option JsonValue :=
  members.lookup (asciiText key)

def requireString : JsonValue → Option ByteText
  | .string value => some value
  | _ => none

def requireUInt64 : JsonValue → Option UInt64
  | .uint64 value => some value
  | .int64 value => if 0 ≤ value then some (.ofNat value.toNat) else none
  | _ => none

end JsonValue

/-- What the transport reads of a `RequestHeader`; the trace context is that of
`GetTraceParent`. -/
structure JsonRequestHeader where
  authenticationToken : NodeId := {}
  traceParent : ByteText := []

inductive DiscoveryService where
  | findServers
  | getEndpoints
deriving DecidableEq, Repr

/-- A request body.  A discovery request is handed to the runtime like the
others; its answer reads no session and is not modelled. -/
inductive MessageBody where
  | discovery (service : DiscoveryService) (parameters : ByteString)
  | request (body : RequestBody)

structure RequestMessage where
  requestHandle : UInt32
  body : MessageBody
  traceParent : ByteText := []

structure ResponseMessage where
  requestHandle : UInt32
  body : ResponseBody

/-- The JSON library and the generated codecs of the bodies.  A decoder which
throws gives `none`. -/
structure JsonCodec where
  parse : ByteText → Option JsonValue
  serializedSize : ResponseMessage → ℕ
  decodeRequestHeader : JsonValue → Option JsonRequestHeader
  decodeDiscovery : DiscoveryService → JsonValue → Option ByteString
  decodeCreateSession : JsonValue → Option CreateSessionRequest
  decodeActivateSession : JsonValue → Option ActivateSessionRequest
  decodeCloseSession : JsonValue → Option CloseSessionRequest
  decodeCreateSubscription : JsonValue → Option CreateSubscriptionRequest
  decodeModifySubscription : JsonValue → Option ModifySubscriptionRequest
  decodeSetPublishingMode : JsonValue → Option SetPublishingModeRequest
  decodeDeleteSubscriptions : JsonValue → Option DeleteSubscriptionsRequest
  decodePublish : JsonValue → Option PublishRequest
  decodeRepublish : JsonValue → Option RepublishRequest
  decodeTransferSubscriptions : JsonValue → Option TransferSubscriptionsRequest
  decodeCreateMonitoredItems : JsonValue → Option CreateMonitoredItemsRequest
  decodeModifyMonitoredItems : JsonValue → Option ModifyMonitoredItemsRequest
  decodeDeleteMonitoredItems : JsonValue → Option DeleteMonitoredItemsRequest
  decodeSetMonitoringMode : JsonValue → Option SetMonitoringModeRequest
  decodeBrowse : JsonValue → Option BrowseRequest
  decodeBrowseNext : JsonValue → Option BrowseNextRequest
  decodeService : ServiceKind → JsonValue → Option ByteString

namespace JsonCodec

variable (codec : JsonCodec)

def requestHeader (body : JsonValue) : Option JsonRequestHeader := do
  let fields ← body.requireObject
  let header ← JsonValue.requireField fields "RequestHeader"
  codec.decodeRequestHeader header

def readTraceParent (body : JsonValue) : ByteText :=
  ((codec.requestHeader body).map JsonRequestHeader.traceParent).getD []

def decodeNamed {ρ : Type} (decoders : List (String × Option ρ))
    (service : ByteText) : Option (Option ρ) :=
  (decoders.find? fun (name, _) => asciiText name == service).map Prod.snd

def decodeServiceRequest (service : ByteText) (body : JsonValue) :
    Option RequestBody :=
  let served (kind : ServiceKind) :=
    (codec.decodeService kind body).map (RequestBody.service kind)
  (decodeNamed
    [("Read", served .read),
      ("Write", served .write),
      ("Browse", (codec.decodeBrowse body).map .browse),
      ("BrowseNext", (codec.decodeBrowseNext body).map fun request =>
        .session (.browseNext request)),
      ("TranslateBrowsePathsToNodeIds", served .translateBrowsePathsToNodeIds),
      ("Call", served .call),
      ("AddNodes", served .addNodes),
      ("DeleteNodes", served .deleteNodes),
      ("AddReferences", served .addReferences),
      ("DeleteReferences", served .deleteReferences),
      ("HistoryRead", served .historyRead),
      ("HistoryUpdate", served .historyUpdate)]
    service).join

/-- The dispatch of `DecodeRequestMessage` on the name of the service. -/
def decodeBody (service : ByteText) (body : JsonValue) : Option MessageBody :=
  let discovered (service : DiscoveryService) :=
    (codec.decodeDiscovery service body).map (MessageBody.discovery service)
  let decoded (request : Option RequestBody) := request.map MessageBody.request
  let named := decodeNamed
    [("FindServers", discovered .findServers),
      ("GetEndpoints", discovered .getEndpoints),
      ("CreateSession",
        decoded ((codec.decodeCreateSession body).map .createSession)),
      ("ActivateSession",
        decoded ((codec.decodeActivateSession body).map .activateSession)),
      ("CloseSession",
        decoded ((codec.decodeCloseSession body).map .closeSession)),
      ("CreateSubscription",
        decoded ((codec.decodeCreateSubscription body).map
          .createSubscription)),
      ("ModifySubscription",
        decoded ((codec.decodeModifySubscription body).map fun request =>
          .session (.modifySubscription request))),
      ("SetPublishingMode",
        decoded ((codec.decodeSetPublishingMode body).map fun request =>
          .session (.setPublishingMode request))),
      ("DeleteSubscriptions",
        decoded ((codec.decodeDeleteSubscriptions body).map
          .deleteSubscriptions)),
      ("Publish", decoded ((codec.decodePublish body).map .publish)),
      ("Republish",
        decoded ((codec.decodeRepublish body).map fun request =>
          .session (.republish request))),
      ("TransferSubscriptions",
        decoded ((codec.decodeTransferSubscriptions body).map
          .transferSubscriptions)),
      ("CreateMonitoredItems",
        decoded ((codec.decodeCreateMonitoredItems body).map fun request =>
          .session (.createMonitoredItems request))),
      ("ModifyMonitoredItems",
        decoded ((codec.decodeModifyMonitoredItems body).map fun request =>
          .session (.modifyMonitoredItems request))),
      ("DeleteMonitoredItems",
        decoded ((codec.decodeDeleteMonitoredItems body).map fun request =>
          .session (.deleteMonitoredItems request))),
      ("SetMonitoringMode",
        decoded ((codec.decodeSetMonitoringMode body).map fun request =>
          .session (.setMonitoringMode request)))]
    service
  named.getD (decoded (codec.decodeServiceRequest service body))

def messageBody (json : JsonValue) : Option JsonValue := do
  let fields ← json.requireObject
  JsonValue.requireField fields "body"

/-- `DecodeRequestMessage`.  Every failure is `Bad_TypeMismatch`. -/
def decodeRequestMessage (json : JsonValue) : Option RequestMessage := do
  let fields ← json.requireObject
  let body ← JsonValue.requireField fields "body"
  let service ← (← JsonValue.requireField fields "service").requireString
  let handle ←
    (← JsonValue.requireField fields "requestHandle").requireUInt64
  let request ← codec.decodeBody service body
  return {
    requestHandle := handle.toUInt32
    body := request
    traceParent := codec.readTraceParent body }

end JsonCodec

/-- `ws::ServerContext`, with the codec it is built on. -/
structure WebSocketServer where
  codec : JsonCodec
  maxMessageSize : ℕ := 4 * 1024 * 1024

/-- What the loop of `RunConnection` does with one frame. -/
inductive FrameOutcome where
  /-- The frame is answered with a fault, unless that is too large and the loop
  ends. -/
  | undecodable (fault : Option ResponseMessage)
  | discovery (service : DiscoveryService) (parameters : ByteString)
  /-- The request has run up to its first suspension; `written` is its answer
  if it has one which is not too large. -/
  | handled (outcome : HandlerOutcome) (written : Option ResponseMessage)

namespace WebSocketServer

variable (server : WebSocketServer)

def decodeFrame (frame : ByteText) : Option RequestMessage :=
  (server.codec.parse frame).bind server.codec.decodeRequestMessage

def frameHeader (frame : ByteText) : Option JsonRequestHeader := do
  let json ← server.codec.parse frame
  let body ← JsonCodec.messageBody json
  server.codec.requestHeader body

/-- An answer is written unless its text is longer than the limit. -/
def write (message : ResponseMessage) : Option ResponseMessage :=
  if server.codec.serializedSize message ≤ server.maxMessageSize then
    some message
  else none

def written (requestHandle : UInt32) (outcome : HandlerOutcome) :
    Option ResponseMessage :=
  outcome.progress.answer.bind fun answer =>
    server.write { requestHandle := requestHandle, body := answer }

/-- One round of the loop of `RunConnection`, with the request it spawns. -/
def runFrame (r : ServerRuntime) (connection : ConnectionState)
    (frame : ByteText) (env : RequestEnvironment) : FrameOutcome :=
  match server.decodeFrame frame with
  | none =>
      .undecodable (server.write
        { requestHandle := 0
          body := .serviceFault (.ofCode .badTypeMismatch) })
  | some message =>
      match message.body with
      | .discovery service parameters => .discovery service parameters
      | .request body =>
          let outcome := r.handle connection body
            { env with traceParent := message.traceParent }
          .handled outcome (server.written message.requestHandle outcome)

end WebSocketServer

end OpcuaStack
