import OpcuaStack.ClientTransport
import OpcuaStack.Dialogue
import OpcuaStack.EndpointSelection
import OpcuaStack.SessionMessages

/-!
# The operations of the client

`client/client_protocol_session.cpp`, `client_protocol_subscription.cpp` and
`discovery_client.cpp`, each operation as the dialogue which it has with its
connection.  A `StatusOr` which is made from a status that is not bad panics, and
the dialogue aborts.  What a request carries is decided before it is sent and is
not modelled; the operations read only the replies.
-/

namespace OpcuaStack

/-! ## Response bodies -/

/-- A generated response: the result of its header, and its results. -/
structure WireResponse (ρ : Type) where
  serviceResult : Status := .good
  results : List ρ := []

structure AddNodesResult where
  statusCode : Status := .good
  addedNodeId : NodeId := {}

structure BrowsePathTarget where
  targetId : ExpandedNodeId := {}
  remainingPathIndex : UInt32 := 0

structure BrowsePathResult where
  statusCode : Status := .good
  targets : List BrowsePathTarget := []

structure CallMethodResult where
  statusCode : Status := .good
  inputArgumentResults : List Status := []
  outputArguments : List Variant := []

structure HistoryReadResult where
  statusCode : Status := .good
  continuationPoint : ByteString := []
  historyData : ExtensionObject := {}

structure HistoryUpdateResult where
  statusCode : Status := .good
  operationResults : List Status := []

structure ApplicationDescription where
  applicationUri : ByteText := []
  productUri : ByteText := []
  applicationName : LocalizedText := {}
  applicationType : UInt32 := 0
  gatewayServerUri : ByteText := []
  discoveryProfileUri : ByteText := []
  discoveryUrls : List ByteText := []

/-- A response body which the client decodes. -/
inductive ClientResponseBody where
  | serviceFault (status : Status)
  | findServers (status : Status) (servers : List ApplicationDescription)
  | getEndpoints (status : Status) (endpoints : List EndpointDescription)
  | registerServer (status : Status)
  | registerServer2 (status : Status) (configurationResults : List StatusCode)
  | createSession (response : CreateSessionResponse)
      (serverEndpoints : List EndpointDescription)
  | activateSession (response : ActivateSessionResponse)
  | closeSession (response : CloseSessionResponse)
  | createSubscription (response : CreateSubscriptionResponse)
  | createMonitoredItems (response : CreateMonitoredItemsResponse)
  | deleteMonitoredItems (response : StatusListResponse)
  | publish (response : PublishResponse)
  | deleteSubscriptions (response : StatusListResponse)
  | read (response : WireResponse DataValue)
  | write (response : WireResponse Status)
  | addNodes (response : WireResponse AddNodesResult)
  | deleteNodes (response : WireResponse Status)
  | addReferences (response : WireResponse Status)
  | deleteReferences (response : WireResponse Status)
  | historyRead (response : WireResponse HistoryReadResult)
  | historyUpdate (response : WireResponse HistoryUpdateResult)
  | browse (response : WireResponse BrowseResult)
  | browseNext (response : WireResponse BrowseResult)
  | translateBrowsePathsToNodeIds (response : WireResponse BrowsePathResult)
  | call (response : WireResponse CallMethodResult)
  /-- A response of a type for which no operation asks. -/
  | unasked (encodingId : UInt32)

/-! ## The conversation with the connection -/

/-- The response for which an operation waits. -/
inductive AwaitedResponse where
  | createSession
  | activateSession
  | closeSession
  | createSubscription
  | createMonitoredItems
  | deleteMonitoredItems
  | publish
  | deleteSubscriptions
  | read
  | write
  | addNodes
  | deleteNodes
  | addReferences
  | deleteReferences
  | historyRead
  | historyUpdate
  | browse
  | browseNext
  | translateBrowsePathsToNodeIds
  | call
  | getEndpoints
  | registerServer
  | registerServer2
  | findServers
deriving DecidableEq, Repr

/-- What an operation asks of what is around it. -/
inductive ClientQuestion where
  /-- `Open` of the connection. -/
  | openConnection
  /-- `RenewSecurityToken`, when the channel is quiet and the token due. -/
  | renewSecurityToken
  | sendRequest
  /-- The response to the request, from the read loop or `ReadResponse`. -/
  | receive (response : AwaitedResponse)
  | closeConnection
  /-- The signer of the credentials, if there is one. -/
  | sign
  /-- `ParseOpcTcpUrl` and `CreateTransport`. -/
  | prepareTransport
  /-- `SelectEndpoint` and `BuildChannelSecurity`. -/
  | buildSecurity (endpoints : List EndpointDescription)

structure ClientSignature where
  algorithm : ByteText := []
  signature : ByteString := []

def ClientQuestion.Reply : ClientQuestion → Type
  | openConnection => Status
  | renewSecurityToken => Option Status
  | sendRequest => Status
  | receive _ => StatusOr ClientResponseBody
  | closeConnection => Unit
  | sign => StatusOr ClientSignature
  | prepareTransport => StatusOr Unit
  | buildSecurity _ => StatusOr Unit

abbrev ClientDialogue := Dialogue ClientQuestion ClientQuestion.Reply

namespace ClientDialogue

def ask (question : ClientQuestion) : ClientDialogue question.Reply :=
  Dialogue.question question

/-- `StatusOr<T>{status}`, which panics unless the status is bad. -/
def fromStatus {α : Type} (status : Status) : ClientDialogue (StatusOr α) :=
  if hbad : status.isBad = true then pure (.error status hbad)
  else .aborted

/-- `StatusOr<T>{Status{StatusCode::Bad}}`. -/
def fromBad {α : Type} : ClientDialogue (StatusOr α) :=
  fromStatus (.ofCode .bad)

/-- `if (!result.ok()) co_return StatusOr<T>{result.status()};`. -/
def onValue {α β : Type} (result : StatusOr α)
    (next : α → ClientDialogue (StatusOr β)) : ClientDialogue (StatusOr β) :=
  match result with
  | .error status _ => fromStatus status
  | .ok value => next value

/-- `if (!result.ok()) co_return result.status();`. -/
def onValueStatus {α : Type} (result : StatusOr α)
    (next : α → ClientDialogue Status) : ClientDialogue Status :=
  match result with
  | .error status _ => pure status
  | .ok value => next value

end ClientDialogue

open ClientDialogue

/-! ## `ClientChannel` -/

namespace ClientCall

/-- `Send`. -/
def send : ClientDialogue (StatusOr Unit) := do
  let renewStatus ← ask .renewSecurityToken
  match renewStatus with
  | some renewStatus =>
      if renewStatus.isBad then
        fromStatus renewStatus
      else
        sendRequest
  | none => sendRequest
where
  sendRequest : ClientDialogue (StatusOr Unit) := do
    let sendStatus ← ask .sendRequest
    if sendStatus.isBad then
      fromStatus sendStatus
    else
      pure (.ok ())

/-- `Call`. -/
def call (awaited : AwaitedResponse) :
    ClientDialogue (StatusOr ClientResponseBody) := do
  let requestId ← send
  onValue requestId fun _ => ask (.receive awaited)

/-- The end of `CallTyped`, and `NarrowResponse`. -/
def narrowResponse {ρ : Type} (pick : ClientResponseBody → Option ρ)
    (result : StatusOr ClientResponseBody) : ClientDialogue (StatusOr ρ) :=
  onValue result fun body =>
    match body with
    | .serviceFault status => fromStatus status
    | body =>
        match pick body with
        | some typed => pure (.ok typed)
        | none => fromBad

/-- `CallTyped`. -/
def callTyped {ρ : Type} (awaited : AwaitedResponse)
    (pick : ClientResponseBody → Option ρ) : ClientDialogue (StatusOr ρ) := do
  let result ← call awaited
  narrowResponse pick result

/-- The operations which return the results of a good response, each converted. -/
def results {ρ σ : Type} (awaited : AwaitedResponse)
    (pick : ClientResponseBody → Option (WireResponse ρ)) (convert : ρ → σ) :
    ClientDialogue (StatusOr (List σ)) := do
  let result ← callTyped awaited pick
  onValue result fun response =>
    if response.serviceResult.isBad then
      fromStatus response.serviceResult
    else
      pure (.ok (response.results.map convert))

end ClientCall

/-! ## `ClientProtocolSession` -/

structure ClientCredentials where
  expectedServerCertificate : ByteString := []
  discoveredEndpoints : List EndpointDescription := []
  hasSigner : Bool := false

structure ClientProtocolSession where
  sessionId : NodeId := {}
  authenticationToken : NodeId := {}
  isActive : Bool := false

/-- What the client makes of the bodies of historical data. -/
structure HistoryCodec where
  decodeHistoryData : ExtensionObject → Option (List DataValue)
  decodeHistoryEvent : ExtensionObject → Option (List (List Variant))

structure HistoryReadRawResult where
  values : List DataValue := []
  continuationPoint : ByteString := []

structure HistoryReadEventsResult where
  events : List (List Variant) := []

structure CallResult where
  status : Status := .good
  inputArgumentResults : List StatusCode := []
  outputArguments : List Variant := []

namespace ClientProtocolSession

open ClientCall

variable (session : ClientProtocolSession)

/-- The end of `Create`: ActivateSession under the token of the session. -/
def sendActivate : ClientDialogue (Status × ClientProtocolSession) := do
  let activated ← callTyped .activateSession fun body =>
    match body with
    | .activateSession response => some response
    | _ => none
  match activated with
  | .error status _ => return (status, session)
  | .ok response =>
      if response.status.isBad then
        return (response.status, session)
      return (.good, { session with isActive := true })

/-- The signature over the certificate and the nonce of the server. -/
def sign (credentials : ClientCredentials) :
    ClientDialogue (StatusOr ClientSignature) :=
  if credentials.hasSigner then ask .sign else pure (.ok {})

/-- `Create` from the answer to CreateSession on. -/
def activate (credentials : ClientCredentials) (response : CreateSessionResponse)
    (serverEndpoints : List EndpointDescription) :
    ClientDialogue (Status × ClientProtocolSession) := do
  if !goesOnToActivate credentials.expectedServerCertificate
      credentials.discoveredEndpoints response.serverCertificate
      serverEndpoints then
    return (.ofCode .bad, session)
  let session :=
    { session with
      sessionId := response.sessionId
      authenticationToken := response.authenticationToken }
  let signature ← sign credentials
  match signature with
  | .error status _ => return (status, session)
  | .ok _ => session.sendActivate

def create (credentials : ClientCredentials) :
    ClientDialogue (Status × ClientProtocolSession) := do
  let openStatus ← ask .openConnection
  if openStatus.isBad then
    return (openStatus, session)
  let created ← callTyped .createSession fun body =>
    match body with
    | .createSession response serverEndpoints => some (response, serverEndpoints)
    | _ => none
  match created with
  | .error status _ => return (status, session)
  | .ok (response, serverEndpoints) =>
      if response.status.isBad then
        return (response.status, session)
      session.activate credentials response serverEndpoints

def close : ClientDialogue (Status × ClientProtocolSession) := do
  if session.isActive then
    let _closeResult ← callTyped .closeSession fun body =>
      match body with
      | .closeSession response => some response
      | _ => none
    let _ ← ask .closeConnection
    return (.good, { session with isActive := false })
  let _ ← ask .closeConnection
  return (.good, session)

def read : ClientDialogue (StatusOr (List DataValue)) :=
  results .read (fun body =>
    match body with
    | .read response => some response
    | _ => none) id

def write : ClientDialogue (StatusOr (List StatusCode)) :=
  results .write (fun body =>
    match body with
    | .write response => some response
    | _ => none) Status.code

def addNodes : ClientDialogue (StatusOr (List (StatusCode × NodeId))) :=
  results .addNodes (fun body =>
    match body with
    | .addNodes response => some response
    | _ => none) fun result => (result.statusCode.code, result.addedNodeId)

def deleteNodes : ClientDialogue (StatusOr (List StatusCode)) :=
  results .deleteNodes (fun body =>
    match body with
    | .deleteNodes response => some response
    | _ => none) Status.code

def addReferences : ClientDialogue (StatusOr (List StatusCode)) :=
  results .addReferences (fun body =>
    match body with
    | .addReferences response => some response
    | _ => none) Status.code

def deleteReferences : ClientDialogue (StatusOr (List StatusCode)) :=
  results .deleteReferences (fun body =>
    match body with
    | .deleteReferences response => some response
    | _ => none) Status.code

/-- `ToHandWritten` of a browse result keeps the code of its status. -/
def browse : ClientDialogue (StatusOr (List (StatusCode × BrowseResult))) :=
  results .browse (fun body =>
    match body with
    | .browse response => some response
    | _ => none) fun result => (result.statusCode.code, result)

def browseNext : ClientDialogue (StatusOr (List (StatusCode × BrowseResult))) :=
  results .browseNext (fun body =>
    match body with
    | .browseNext response => some response
    | _ => none) fun result => (result.statusCode.code, result)

def translateBrowsePathsToNodeIds :
    ClientDialogue (StatusOr (List (StatusCode × List BrowsePathTarget))) :=
  results .translateBrowsePathsToNodeIds (fun body =>
    match body with
    | .translateBrowsePathsToNodeIds response => some response
    | _ => none) fun result => (result.statusCode.code, result.targets)

def call : ClientDialogue (StatusOr CallResult) := do
  let result ← callTyped .call fun body =>
    match body with
    | .call response => some response
    | _ => none
  onValue result fun response =>
    match response.results with
    | [] => fromBad
    | first :: _ =>
        pure (.ok
          { status := first.statusCode
            inputArgumentResults := first.inputArgumentResults.map Status.code
            outputArguments := first.outputArguments })

/-! ### History -/

/-- The beginning of `ToManagedRawResult`, `ToManagedEventsResult` and
`ToManaged`: the first result of a response, unless its status is bad. -/
def firstResult {ρ σ : Type} (statusCode : ρ → Status)
    (response : WireResponse ρ) (make : ρ → σ) : ClientDialogue (StatusOr σ) :=
  match response.results with
  | [] => fromStatus response.serviceResult
  | result :: _ =>
      if (statusCode result).isBad then
        fromStatus (statusCode result)
      else
        pure (.ok (make result))

def toManagedRawResult (codec : HistoryCodec)
    (response : WireResponse HistoryReadResult) :
    ClientDialogue (StatusOr HistoryReadRawResult) :=
  firstResult HistoryReadResult.statusCode response fun result =>
    { continuationPoint := result.continuationPoint
      values := (codec.decodeHistoryData result.historyData).getD [] }

def toManagedEventsResult (codec : HistoryCodec)
    (response : WireResponse HistoryReadResult) :
    ClientDialogue (StatusOr HistoryReadEventsResult) :=
  firstResult HistoryReadResult.statusCode response fun result =>
    { events := (codec.decodeHistoryEvent result.historyData).getD [] }

def toManaged (response : WireResponse HistoryUpdateResult) :
    ClientDialogue (StatusOr (List StatusCode)) :=
  firstResult HistoryUpdateResult.statusCode response fun result =>
    result.operationResults.map Status.code

def pickHistoryRead : ClientResponseBody →
    Option (WireResponse HistoryReadResult)
  | .historyRead response => some response
  | _ => none

def pickHistoryUpdate : ClientResponseBody →
    Option (WireResponse HistoryUpdateResult)
  | .historyUpdate response => some response
  | _ => none

def historyReadRaw (codec : HistoryCodec) :
    ClientDialogue (StatusOr HistoryReadRawResult) := do
  let result ← callTyped .historyRead pickHistoryRead
  onValue result (toManagedRawResult codec)

def historyReadEvents (codec : HistoryCodec) :
    ClientDialogue (StatusOr HistoryReadEventsResult) := do
  let result ← callTyped .historyRead pickHistoryRead
  onValue result (toManagedEventsResult codec)

/-- `HistoryUpdateData` and `HistoryUpdateEvent`, which differ in their
requests. -/
def historyUpdate : ClientDialogue (StatusOr (List StatusCode)) := do
  let result ← callTyped .historyUpdate pickHistoryUpdate
  onValue result toManaged

end ClientProtocolSession

/-! ## `ClientProtocolSubscription` -/

structure CreateMonitoredItemResult where
  monitoredItemId : MonitoredItemId
  clientHandle : UInt32

namespace SubscriptionOperations

open ClientCall

/-- `Create`, with the id of the subscription. -/
def create : ClientDialogue (Status × Option SubscriptionId) := do
  let narrowed ← callTyped .createSubscription fun body =>
    match body with
    | .createSubscription response => some response
    | _ => none
  match narrowed with
  | .error status _ => return (status, none)
  | .ok response =>
      if response.status.isBad then
        return (response.status, none)
      return (.good, some response.subscriptionId)

def createMonitoredItem (isCreated : Bool) (clientHandle : UInt32) :
    ClientDialogue (StatusOr CreateMonitoredItemResult) := do
  if !isCreated then
    fromBad
  else
    let narrowed ← callTyped .createMonitoredItems fun body =>
      match body with
      | .createMonitoredItems response => some response
      | _ => none
    onValue narrowed fun response =>
      match response.results with
      | [] => fromBad
      | itemResult :: _ =>
          if response.status.isBad then
            fromStatus response.status
          else if itemResult.status.isBad then
            fromStatus itemResult.status
          else
            pure (.ok
              { monitoredItemId := itemResult.monitoredItemId
                clientHandle := clientHandle })

def deleteMonitoredItem (isCreated : Bool) : ClientDialogue Status := do
  if !isCreated then
    return .ofCode .bad
  let narrowed ← callTyped .deleteMonitoredItems fun body =>
    match body with
    | .deleteMonitoredItems response => some response
    | _ => none
  onValueStatus narrowed fun response => pure response.serviceResult

/-- `SendPublishRequest`. -/
def sendPublishRequest : ClientDialogue Status := do
  let requestId ← send
  onValueStatus requestId fun _ => pure .good

/-- `FillPublishWindow`, with the number of requests which are missing. -/
def fillPublishWindow : ℕ → ClientDialogue Status
  | 0 => pure .good
  | missing + 1 => do
      let status ← sendPublishRequest
      if status.isBad then
        return status
      fillPublishWindow missing

/-- `Publish`.  The response to its request may come while others are sent. -/
def publish (isCreated : Bool) (outstanding : ℕ) : ClientDialogue Status := do
  if !isCreated then
    return .ofCode .bad
  let fillStatus ← fillPublishWindow (2 - outstanding)
  if fillStatus.isBad then
    return fillStatus
  let result ← ask (.receive .publish)
  let narrowed ← narrowResponse (fun body =>
    match body with
    | .publish response => some response
    | _ => none) result
  onValueStatus narrowed fun response =>
    if response.status.isBad then
      pure response.status
    else
      pure .good

def delete (isCreated : Bool) : ClientDialogue Status := do
  if !isCreated then
    return .good
  let narrowed ← callTyped .deleteSubscriptions fun body =>
    match body with
    | .deleteSubscriptions response => some response
    | _ => none
  onValueStatus narrowed fun response => pure response.serviceResult

end SubscriptionOperations

/-! ## `DiscoveryClient` -/

namespace DiscoveryClient

/-- The end of `SendDiscoveryRequest`. -/
def discoveryBody (body : ClientResponseBody) :
    ClientDialogue (StatusOr ClientResponseBody) :=
  match body with
  | .serviceFault status => fromStatus status
  | body => pure (.ok body)

def sendDiscoveryRequest (awaited : AwaitedResponse) :
    ClientDialogue (StatusOr ClientResponseBody) := do
  let prepared ← ask .prepareTransport
  onValue prepared fun _ => do
    let openStatus ← ask .openConnection
    if openStatus.isBad then
      fromStatus openStatus
    else
      let sendStatus ← ask .sendRequest
      if sendStatus.isBad then
        let _ ← ask .closeConnection
        fromStatus sendStatus
      else
        let frame ← ask (.receive awaited)
        let _ ← ask .closeConnection
        onValue frame discoveryBody

def getEndpoints : ClientDialogue (StatusOr (List EndpointDescription)) := do
  let body ← sendDiscoveryRequest .getEndpoints
  onValue body fun body =>
    match body with
    | .getEndpoints status endpoints =>
        if status.isBad then fromStatus status else pure (.ok endpoints)
    | _ => fromBad

/-- `ResolveChannelSecurity`; without security there is nothing to learn. -/
def resolveChannelSecurity (secured : Bool) : ClientDialogue (StatusOr Unit) := do
  if !secured then
    return .ok ()
  let endpoints ← getEndpoints
  onValue endpoints fun endpoints => ask (.buildSecurity endpoints)

def registerServer (secured : Bool) : ClientDialogue Status := do
  let security ← resolveChannelSecurity secured
  onValueStatus security fun _ => do
    let body ← sendDiscoveryRequest .registerServer
    onValueStatus body fun body =>
      match body with
      | .registerServer status => pure status
      | _ => pure (.ofCode .bad)

def registerServer2 (secured : Bool) : ClientDialogue Status := do
  let security ← resolveChannelSecurity secured
  onValueStatus security fun _ => do
    let body ← sendDiscoveryRequest .registerServer2
    onValueStatus body fun body =>
      match body with
      | .registerServer2 status _ => pure status
      | _ => pure (.ofCode .bad)

def findServers (secured : Bool) :
    ClientDialogue (StatusOr (List ApplicationDescription)) := do
  let security ← resolveChannelSecurity secured
  onValue security fun _ => do
    let body ← sendDiscoveryRequest .findServers
    onValue body fun body =>
      match body with
      | .findServers status servers =>
          if status.isBad then fromStatus status else pure (.ok servers)
      | _ => fromBad

end DiscoveryClient

end OpcuaStack
