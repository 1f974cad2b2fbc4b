import OpcuaStack.BinaryRuntime
import OpcuaStack.CallTable
import OpcuaStack.SecureConversation
import OpcuaStack.ServerSystem

/-!
# The service dispatcher

`transport/binary/service_dispatcher.cpp`, with the switch of
`DecodeServiceRequest` and `EncodeServiceResponse`.  A call of `HandlePayload`
decodes its payload, hands the request to the binary runtime and encodes what
comes back.  The codecs of the message bodies are generated from the schema, and
the discovery services read no session; both are taken as they come.
-/

namespace OpcuaStack
namespace Binary

/-! ## Messages -/

/-- The services which need no session. -/
inductive DiscoveryRequest where
  | findServers
  | getEndpoints
  | registerServer
  | registerServer2
deriving DecidableEq, Repr

inductive ServiceRequestBody where
  | discovery (service : DiscoveryRequest) (parameters : ByteString)
  | request (body : RequestBody)

/-- `DecodedRequest`. -/
structure ServiceRequestMessage where
  header : ServiceRequestHeader
  body : ServiceRequestBody

inductive ServiceResponseBody where
  | discovery (service : DiscoveryRequest) (serviceResult : Status)
      (fields : ByteString)
  | response (body : ResponseBody)

/-- The generated codecs.  A decoder which fails, or does not read its body to
the end, gives `none`; `encodeFields` writes what follows the header. -/
structure ServiceCodec where
  decodeDiscovery : DiscoveryRequest → ByteString →
    Option (ServiceRequestHeader × ByteString)
  decodeCreateSession : ByteString →
    Option (ServiceRequestHeader × CreateSessionRequest)
  decodeActivateSession : ByteString →
    Option (ServiceRequestHeader × ActivateSessionRequest)
  decodeCloseSession : ByteString →
    Option (ServiceRequestHeader × CloseSessionRequest)
  decodeCreateSubscription : ByteString →
    Option (ServiceRequestHeader × CreateSubscriptionRequest)
  decodeModifySubscription : ByteString →
    Option (ServiceRequestHeader × ModifySubscriptionRequest)
  decodeSetPublishingMode : ByteString →
    Option (ServiceRequestHeader × SetPublishingModeRequest)
  decodeDeleteSubscriptions : ByteString →
    Option (ServiceRequestHeader × DeleteSubscriptionsRequest)
  decodePublish : ByteString → Option (ServiceRequestHeader × PublishRequest)
  decodeRepublish : ByteString → Option (ServiceRequestHeader × RepublishRequest)
  decodeTransferSubscriptions : ByteString →
    Option (ServiceRequestHeader × TransferSubscriptionsRequest)
  decodeCreateMonitoredItems : ByteString →
    Option (ServiceRequestHeader × CreateMonitoredItemsRequest)
  decodeModifyMonitoredItems : ByteString →
    Option (ServiceRequestHeader × ModifyMonitoredItemsRequest)
  decodeDeleteMonitoredItems : ByteString →
    Option (ServiceRequestHeader × DeleteMonitoredItemsRequest)
  decodeSetMonitoringMode : ByteString →
    Option (ServiceRequestHeader × SetMonitoringModeRequest)
  decodeBrowse : ByteString → Option (ServiceRequestHeader × BrowseRequest)
  decodeBrowseNext : ByteString →
    Option (ServiceRequestHeader × BrowseNextRequest)
  decodeRegisterNodes : ByteString →
    Option (ServiceRequestHeader × List NodeId)
  decodeUnregisterNodes : ByteString →
    Option (ServiceRequestHeader × List NodeId)
  decodeService : ServiceKind → ByteString →
    Option (ServiceRequestHeader × ByteString)
  encodeFields : ServiceResponseBody → ByteString

/-! ## Encoding ids -/

def serviceFaultEncodingId : UInt32 := 397

namespace DiscoveryRequest

def requestEncodingId : DiscoveryRequest → UInt32
  | findServers => 422
  | getEndpoints => 428
  | registerServer => 437
  | registerServer2 => 12211

def responseEncodingId : DiscoveryRequest → UInt32
  | findServers => 425
  | getEndpoints => 431
  | registerServer => 440
  | registerServer2 => 12212

end DiscoveryRequest

def serviceRequestEncodingId : ServiceKind → UInt32
  | .read => 631
  | .write => 673
  | .translateBrowsePathsToNodeIds => 554
  | .call => 712
  | .historyRead => 664
  | .historyUpdate => 700
  | .addNodes => 488
  | .deleteNodes => 500
  | .addReferences => 494
  | .deleteReferences => 506

def serviceResponseEncodingId : ServiceKind → UInt32
  | .read => 634
  | .write => 676
  | .translateBrowsePathsToNodeIds => 557
  | .call => 715
  | .historyRead => 667
  | .historyUpdate => 703
  | .addNodes => 491
  | .deleteNodes => 503
  | .addReferences => 497
  | .deleteReferences => 509

namespace ServiceResponseBody

/-- `kBinaryEncodingId` of the wire type of a response. -/
def encodingId : ServiceResponseBody → UInt32
  | discovery service _ _ => service.responseEncodingId
  | response (.createSession _) => 464
  | response (.activateSession _) => 470
  | response (.closeSession _) => 476
  | response (.createSubscription _) => 790
  | response (.modifySubscription _) => 796
  | response (.setPublishingMode _) => 802
  | response (.deleteSubscriptions _) => 850
  | response (.publish _) => 829
  | response (.republish _) => 835
  | response (.transferSubscriptions _) => 844
  | response (.createMonitoredItems _) => 754
  | response (.modifyMonitoredItems _) => 766
  | response (.deleteMonitoredItems _) => 784
  | response (.setMonitoringMode _) => 772
  | response (.browse _) => 530
  | response (.browseNext _) => 536
  | response (.registerNodes _) => 563
  | response .unregisterNodes => 569
  | response (.service kind _ _) => serviceResponseEncodingId kind
  | response (.serviceFault _) => serviceFaultEncodingId

def serviceResult : ServiceResponseBody → Status
  | discovery _ serviceResult _ => serviceResult
  | response body => body.serviceResult

end ServiceResponseBody

/-- The encoding id of the response type which belongs to a request. -/
def ServiceRequestBody.responseEncodingId : ServiceRequestBody → UInt32
  | .discovery service _ => service.responseEncodingId
  | .request (.createSession _) => 464
  | .request (.activateSession _) => 470
  | .request (.closeSession _) => 476
  | .request (.createSubscription _) => 790
  | .request (.deleteSubscriptions _) => 850
  | .request (.transferSubscriptions _) => 844
  | .request (.publish _) => 829
  | .request (.browse _) => 530
  | .request (.session (.modifySubscription _)) => 796
  | .request (.session (.setPublishingMode _)) => 802
  | .request (.session (.republish _)) => 835
  | .request (.session (.createMonitoredItems _)) => 754
  | .request (.session (.modifyMonitoredItems _)) => 766
  | .request (.session (.deleteMonitoredItems _)) => 784
  | .request (.session (.setMonitoringMode _)) => 772
  | .request (.session (.browseNext _)) => 536
  | .request (.session (.registerNodes _)) => 563
  | .request (.session (.unregisterNodes _)) => 569
  | .request (.service kind _) => serviceResponseEncodingId kind

/-! ## Decoding a request -/

namespace ServiceCodec

variable (codec : ServiceCodec)

/-- One arm of the switch of `DecodeServiceRequest`. -/
def decodeArm {ρ : Type} (decode : ByteString → Option (ServiceRequestHeader × ρ))
    (make : ρ → ServiceRequestBody) (body : ByteString) :
    Option ServiceRequestMessage :=
  (decode body).map fun (header, request) =>
    { header := header, body := make request }

/-- The arms of the switch, each with its encoding id. -/
def arms : List (UInt32 × (ByteString → Option ServiceRequestMessage)) :=
  let discovery (service : DiscoveryRequest) :=
    (service.requestEncodingId,
      decodeArm (codec.decodeDiscovery service) (.discovery service))
  let served (kind : ServiceKind) :=
    (serviceRequestEncodingId kind,
      decodeArm (codec.decodeService kind) fun parameters =>
        .request (.service kind parameters))
  [discovery .findServers, discovery .getEndpoints, discovery .registerServer,
    discovery .registerServer2,
    (461, decodeArm codec.decodeCreateSession fun request =>
      .request (.createSession request)),
    (467, decodeArm codec.decodeActivateSession fun request =>
      .request (.activateSession request)),
    (473, decodeArm codec.decodeCloseSession fun request =>
      .request (.closeSession request)),
    (787, decodeArm codec.decodeCreateSubscription fun request =>
      .request (.createSubscription request)),
    (793, decodeArm codec.decodeModifySubscription fun request =>
      .request (.session (.modifySubscription request))),
    (826, decodeArm codec.decodePublish fun request =>
      .request (.publish request)),
    (832, decodeArm codec.decodeRepublish fun request =>
      .request (.session (.republish request))),
    (751, decodeArm codec.decodeCreateMonitoredItems fun request =>
      .request (.session (.createMonitoredItems request))),
    (763, decodeArm codec.decodeModifyMonitoredItems fun request =>
      .request (.session (.modifyMonitoredItems request))),
    served .read, served .write,
    (527, decodeArm codec.decodeBrowse fun request =>
      .request (.browse request)),
    (533, decodeArm codec.decodeBrowseNext fun request =>
      .request (.session (.browseNext request))),
    served .translateBrowsePathsToNodeIds, served .call, served .historyRead,
    served .historyUpdate, served .addNodes, served .deleteNodes,
    served .addReferences, served .deleteReferences,
    (560, decodeArm codec.decodeRegisterNodes fun nodes =>
      .request (.session (.registerNodes nodes))),
    (566, decodeArm codec.decodeUnregisterNodes fun nodes =>
      .request (.session (.unregisterNodes nodes))),
    (799, decodeArm codec.decodeSetPublishingMode fun request =>
      .request (.session (.setPublishingMode request))),
    (847, decodeArm codec.decodeDeleteSubscriptions fun request =>
      .request (.deleteSubscriptions request)),
    (781, decodeArm codec.decodeDeleteMonitoredItems fun request =>
      .request (.session (.deleteMonitoredItems request))),
    (769, decodeArm codec.decodeSetMonitoringMode fun request =>
      .request (.session (.setMonitoringMode request))),
    (841, decodeArm codec.decodeTransferSubscriptions fun request =>
      .request (.transferSubscriptions request))]

def decodeServiceRequest (payload : ByteString) :
    Option ServiceRequestMessage := do
  let (typeId, body) ← readMessage.start payload
  let (_, decode) ← codec.arms.find? fun arm => arm.1 == typeId
  decode body

end ServiceCodec

/-- `ReadRequestHeader`, as far as the handle; its trace context cannot make it
fail. -/
def readRequestHandle : Decoder UInt32 := do
  let _authenticationToken ← decodeNodeId
  let _timestamp ← decodeInt64
  let requestHandle ← decodeUInt32
  let _returnDiagnostics ← decodeUInt32
  let _auditEntryId ← decodeByteString
  let _timeoutHint ← decodeUInt32
  let _additionalHeader ← decodeExtensionObject
  return requestHandle

def decodeRequestHandle (payload : ByteString) : Option UInt32 := do
  let (_, body) ← readMessage.start payload
  readRequestHandle.start body

/-! ## Encoding a response -/

/-- The generated encoding of the header which `MakeResponseHeader` makes. -/
def encodeServiceResponseHeader (requestHandle : UInt32)
    (serviceResult : Status) : ByteString :=
  encodeInt64 0 ++ (encodeUInt32 requestHandle ++
    (encodeUInt32 serviceResult.fullCode ++ (encodeUInt8 0 ++
      (encodeInt32 0 ++
        (encodeNodeId { identifier := .numeric 0 } ++ encodeUInt8 0x00)))))

def ServiceCodec.encodeServiceResponse (codec : ServiceCodec)
    (requestHandle : UInt32) (response : ServiceResponseBody) : ByteString :=
  appendMessage response.encodingId
    (encodeServiceResponseHeader requestHandle response.serviceResult ++
      codec.encodeFields response)

/-! ## Handling a payload -/

/-- `ServiceDispatcher`, with the codecs and the discovery services it reaches. -/
structure ServiceDispatcher where
  codec : ServiceCodec
  discover : DiscoveryRequest → ConnectionState → ByteString →
    Status × ByteString

/-- What a call of `HandlePayload` keeps while its handler is suspended: the
handle of its request and the type of the answer. -/
structure HeldPayload where
  requestHandle : UInt32
  type : ResponseType

/-- A call of `HandlePayload` up to its first suspension. -/
inductive PayloadOutcome where
  /-- The call returns, and has not reached the runtime. -/
  | refused (response : Option ByteString)
  | handled (outcome : HandlerOutcome) (held : HeldPayload)

namespace ServiceDispatcher

variable (dispatcher : ServiceDispatcher)

/-- The response type to which the handler of a request brings its answer. -/
def responseType : RequestBody → Option ResponseType
  | .createSession _ => some .createSession
  | .activateSession _ => some .activateSession
  | .closeSession _ => some .closeSession
  | body => BinaryRuntime.authenticatedResponse body

def handlePayload (r : ServerRuntime) (connection : ConnectionState)
    (payload : ByteString) (env : RequestEnvironment) : PayloadOutcome :=
  match dispatcher.codec.decodeServiceRequest payload with
  | none =>
      .refused ((decodeRequestHandle payload).map fun requestHandle =>
        dispatcher.codec.encodeServiceResponse requestHandle
          (.response (.serviceFault (.ofCode .badServiceUnsupported))))
  | some { header, body := .discovery service parameters } =>
      let (serviceResult, fields) :=
        dispatcher.discover service connection parameters
      .refused (some (dispatcher.codec.encodeServiceResponse
        header.requestHandle (.discovery service serviceResult fields)))
  | some { header, body := .request body } =>
      match BinaryRuntime.handleDecodedRequest r connection { header, body } env,
        responseType body with
      | some outcome, some type =>
          .handled outcome { requestHandle := header.requestHandle, type }
      | _, _ => .refused none

/-- What the call returns when its handler has answered. -/
def respond (answer : ResponseBody) (held : HeldPayload) : Option ByteString :=
  some (dispatcher.codec.encodeServiceResponse held.requestHandle
    (.response answer))

/-- The same after a suspension: `Handle<Response>` goes on first. -/
def respondLater (answer : ResponseBody) (held : HeldPayload) :
    Option ByteString :=
  dispatcher.respond (BinaryRuntime.typedResponse held.type answer) held

end ServiceDispatcher

/-! ## Runs -/

/-- A server with the calls of `HandlePayload` over all its connections. -/
structure DispatcherState where
  server : ServerState
  calls : CallTable HeldPayload (Option ByteString) := {}

/-- A payload arrives, or anything else happens in the server: an awaited answer
arrives, a delay elapses, a session expires, a connection closes. -/
inductive DispatcherAction where
  | payload (connection : ℕ) (payload : ByteString) (env : RequestEnvironment)
  | server (action : ServerAction)

/-- The task which an action takes up again. -/
def resumedTask : ServerAction → Option ℕ
  | .authenticated task _ _ => some task
  | .served task _ => some task
  | .delayElapsed task _ => some task
  | _ => none

namespace DispatcherState

variable (dispatcher : ServiceDispatcher) (s : DispatcherState)

def receive (connection : ℕ) (payload : ByteString) (env : RequestEnvironment) :
    DispatcherState :=
  match dispatcher.handlePayload s.server.runtime
      (s.server.connectionFor connection env) payload env with
  | .refused response => { s with calls := s.calls.openReturned response }
  | .handled outcome held =>
      { server := (s.server.settle connection outcome).1
        calls :=
          match outcome.progress with
          | .answered answer =>
              s.calls.openReturned (dispatcher.respond answer held)
          | .suspended _ => s.calls.openWaiting s.server.nextTask held }

/-- The server acts.  A handler which suspends again does so as a new task. -/
def serve (action : ServerAction) : DispatcherState :=
  let (server, report) := s.server.step action
  { server := server
    calls :=
      match resumedTask action, report with
      | some task, some report =>
          match report.answer with
          | some answer =>
              s.calls.finish task (dispatcher.respondLater answer)
          | none => s.calls.move task s.server.nextTask
      | _, _ => s.calls }

def step : DispatcherAction → DispatcherState
  | .payload connection payload env =>
      s.receive dispatcher connection payload env
  | .server action => s.serve dispatcher action

end DispatcherState

end Binary
end OpcuaStack
