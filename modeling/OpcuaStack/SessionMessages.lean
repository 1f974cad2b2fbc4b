import OpcuaStack.SubscriptionMessages

/-!
# Messages of the session layer

Sessions, the identity they run under, and the union of request and response
bodies which the runtime dispatches.  The services answered by the address
space are handed on with their parameters unread, so those stay encoded here.
The four discovery services touch no session and are not part of the union.
-/

namespace OpcuaStack

structure ServiceContext where
  userId : NodeId := {}
  userRights : UInt32 := 0
  requestId : UInt64 := 0
  traceId : ByteText := []
  peer : ByteText := []
deriving DecidableEq

structure AuthenticationResult where
  userId : NodeId := {}
  userRights : UInt32 := 0
  multiSessions : Bool := false
deriving DecidableEq

/-- `struct OperationLimits`, as far as sessions enforce it. -/
structure OperationLimits where
  maxMonitoredItemsPerCall : UInt32 := 1000

def kMaxBrowseContinuationPoints : ℕ := 100

/-! ## Session services -/

structure CreateSessionRequest where
  requestedTimeout : Duration := ⟨10 * 60 * 1000⟩
  endpointUrl : ByteText := []
  clientCertificate : ByteString := []
  clientNonce : ByteString := []
  channelSecure : Bool := false
  channelCertificate : ByteString := []
  peer : ByteText := []

structure CreateSessionResponse where
  status : Status := .good
  sessionId : NodeId := {}
  authenticationToken : NodeId := {}
  serverNonce : ByteString := []
  serverCertificate : ByteString := []
  revisedTimeout : Duration := {}

structure ActivateSessionRequest where
  sessionId : NodeId := {}
  authenticationToken : NodeId := {}
  userName : Option LocalizedText := none
  password : Option LocalizedText := none
  deleteExisting : Bool := false
  allowAnonymous : Bool := false
  channelSecure : Bool := false
  clientSignatureAlgorithm : ByteText := []
  clientSignature : ByteString := []
  encryptedPassword : ByteString := []
  passwordEncryptionAlgorithm : ByteText := []
  peer : ByteText := []

structure ActivateSessionResponse where
  status : Status := .good
  serviceContext : ServiceContext := {}
  authenticationResult : Option AuthenticationResult := none
  resumed : Bool := false

structure CloseSessionRequest where
  sessionId : NodeId := {}
  authenticationToken : NodeId := {}

structure CloseSessionResponse where
  status : Status := .good

/-! ## Browsing -/

structure ReferenceDescription where
  referenceTypeId : NodeId := {}
  isForward : Bool := false
  nodeId : ExpandedNodeId := {}
  browseName : QualifiedName := {}
  displayName : LocalizedText := {}
  nodeClass : UInt32 := 0
  typeDefinition : ExpandedNodeId := {}
deriving DecidableEq

structure BrowseResult where
  statusCode : Status := .good
  continuationPoint : ByteString := []
  references : List ReferenceDescription := []

structure BrowseRequest where
  requestedMaxReferencesPerNode : UInt32 := 0
  parameters : ByteString := []

structure BrowseResponse where
  serviceResult : Status := .good
  results : List BrowseResult := []

structure BrowseNextRequest where
  releaseContinuationPoints : Bool := false
  continuationPoints : List ByteString := []

/-! ## Request and response bodies -/

/-- The services answered by the address space alone. -/
inductive ServiceKind where
  | read
  | write
  | translateBrowsePathsToNodeIds
  | call
  | historyRead
  | historyUpdate
  | addNodes
  | deleteNodes
  | addReferences
  | deleteReferences
deriving DecidableEq, Repr

/-- The requests served from one session, without suspending and without
touching anything outside it. -/
inductive SessionRequest where
  | modifySubscription (request : ModifySubscriptionRequest)
  | setPublishingMode (request : SetPublishingModeRequest)
  | republish (request : RepublishRequest)
  | createMonitoredItems (request : CreateMonitoredItemsRequest)
  | modifyMonitoredItems (request : ModifyMonitoredItemsRequest)
  | deleteMonitoredItems (request : DeleteMonitoredItemsRequest)
  | setMonitoringMode (request : SetMonitoringModeRequest)
  | browseNext (request : BrowseNextRequest)
  | registerNodes (nodesToRegister : List NodeId)
  | unregisterNodes (nodesToUnregister : List NodeId)

inductive RequestBody where
  | createSession (request : CreateSessionRequest)
  | activateSession (request : ActivateSessionRequest)
  | closeSession (request : CloseSessionRequest)
  | createSubscription (request : CreateSubscriptionRequest)
  | deleteSubscriptions (request : DeleteSubscriptionsRequest)
  | transferSubscriptions (request : TransferSubscriptionsRequest)
  | publish (request : PublishRequest)
  | browse (request : BrowseRequest)
  | session (request : SessionRequest)
  | service (kind : ServiceKind) (parameters : ByteString)

/-- `ResponseBody`.  An address-space service answers `service`. -/
inductive ResponseBody where
  | createSession (response : CreateSessionResponse)
  | activateSession (response : ActivateSessionResponse)
  | closeSession (response : CloseSessionResponse)
  | createSubscription (response : CreateSubscriptionResponse)
  | modifySubscription (response : ModifySubscriptionResponse)
  | setPublishingMode (response : StatusListResponse)
  | deleteSubscriptions (response : StatusListResponse)
  | publish (response : PublishResponse)
  | republish (response : RepublishResponse)
  | transferSubscriptions (response : TransferSubscriptionsResponse)
  | createMonitoredItems (response : CreateMonitoredItemsResponse)
  | modifyMonitoredItems (response : ModifyMonitoredItemsResponse)
  | deleteMonitoredItems (response : StatusListResponse)
  | setMonitoringMode (response : StatusListResponse)
  | browse (response : BrowseResponse)
  | browseNext (response : BrowseResponse)
  | registerNodes (registeredNodeIds : List NodeId)
  | unregisterNodes
  | service (kind : ServiceKind) (serviceResult : Status)
      (results : ByteString)
  | serviceFault (status : Status)

/-- The `service_result` of the response header. -/
def ResponseBody.serviceResult : ResponseBody → Status
  | .createSession response => response.status
  | .activateSession response => response.status
  | .closeSession response => response.status
  | .createSubscription response => response.status
  | .modifySubscription response => response.status
  | .setPublishingMode response => response.serviceResult
  | .deleteSubscriptions response => response.serviceResult
  | .publish response => response.status
  | .republish response => response.status
  | .transferSubscriptions response => response.serviceResult
  | .createMonitoredItems response => response.status
  | .modifyMonitoredItems response => response.status
  | .deleteMonitoredItems response => response.serviceResult
  | .setMonitoringMode response => response.serviceResult
  | .browse response => response.serviceResult
  | .browseNext response => response.serviceResult
  | .registerNodes _ => .good
  | .unregisterNodes => .good
  | .service _ serviceResult _ => serviceResult
  | .serviceFault status => status

end OpcuaStack
