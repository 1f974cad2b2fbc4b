import OpcuaStack.ServiceRequests

/-!
# The handler of service requests

`server/service_handler.cpp` as the dialogue which it has with the application behind
it.  A request is refused as a whole before anything of it is handed over, or the
application gets every operation of it once, in order.
-/

namespace OpcuaStack

namespace StatusCode

def badNothingToDo : StatusCode := ofBad 0x0F
def badTooManyOperations : StatusCode := ofBad 0x10
def badTimestampsToReturnInvalid : StatusCode := ofBad 0x2B
def badNodeIdUnknown : StatusCode := ofBad 0x34
def badViewIdUnknown : StatusCode := ofBad 0x6B
def badHistoryOperationInvalid : StatusCode := ofBad 0x71

end StatusCode

namespace StatusOr

variable {α : Type}

def status : StatusOr α → Status
  | ok _ => .good
  | error status _ => status

def valueOr (fallback : α) : StatusOr α → α
  | ok value => value
  | error _ _ => fallback

end StatusOr

theorem Status.isBad_badHistoryOperationInvalid :
    (Status.ofCode .badHistoryOperationInvalid).isBad = true := rfl

namespace Services

/-! ## Requests and responses -/

/-- `std::variant` of the requests. -/
inductive ServiceRequest where
  | read (request : ReadRequest)
  | write (request : WriteRequest)
  | browse (request : BrowseRequest)
  | browseNext (request : BrowseNextRequest)
  | translateBrowsePaths (request : TranslateBrowsePathsRequest)
  | call (request : CallRequest)
  | historyRead (request : HistoryReadRequest)
  | historyUpdate (request : HistoryUpdateRequest)
  | addNodes (request : AddNodesRequest)
  | deleteNodes (request : DeleteNodesRequest)
  | addReferences (request : AddReferencesRequest)
  | deleteReferences (request : DeleteReferencesRequest)

/-- `std::variant` of the responses. -/
inductive ServiceResponse where
  | read (response : WireResponse DataValue)
  | write (response : WireResponse Status)
  | browse (response : WireResponse BrowseResult)
  | browseNext (response : WireResponse BrowseResult)
  | translateBrowsePaths (response : WireResponse BrowsePathResult)
  | call (response : WireResponse CallMethodResult)
  | historyRead (response : WireResponse HistoryReadResult)
  | historyUpdate (response : WireResponse HistoryUpdateResult)
  | addNodes (response : WireResponse AddNodesResult)
  | deleteNodes (response : WireResponse Status)
  | addReferences (response : WireResponse Status)
  | deleteReferences (response : WireResponse Status)

/-- `index()` of the variant. -/
def ServiceRequest.index : ServiceRequest → ℕ
  | read _ => 0
  | write _ => 1
  | browse _ => 2
  | browseNext _ => 3
  | translateBrowsePaths _ => 4
  | call _ => 5
  | historyRead _ => 6
  | historyUpdate _ => 7
  | addNodes _ => 8
  | deleteNodes _ => 9
  | addReferences _ => 10
  | deleteReferences _ => 11

def ServiceResponse.index : ServiceResponse → ℕ
  | read _ => 0
  | write _ => 1
  | browse _ => 2
  | browseNext _ => 3
  | translateBrowsePaths _ => 4
  | call _ => 5
  | historyRead _ => 6
  | historyUpdate _ => 7
  | addNodes _ => 8
  | deleteNodes _ => 9
  | addReferences _ => 10
  | deleteReferences _ => 11

/-- The limits of `operation_limits.h` which a handler enforces. -/
structure OperationLimits where
  maxNodesPerRead : UInt32 := 1000
  maxNodesPerWrite : UInt32 := 1000
  maxNodesPerMethodCall : UInt32 := 1000
  maxNodesPerBrowse : UInt32 := 1000
  maxNodesPerTranslateBrowsePathsToNodeIds : UInt32 := 1000
  maxNodesPerNodeManagement : UInt32 := 1000

/-! ## The application -/

/-- What a handler asks of the application, under the names of `ServiceCallbacks`. -/
inductive Callback where
  | read (context : ServiceContext) (inputs : List ReadValueId)
  | write (context : ServiceContext) (inputs : List WriteValue)
  | browse (context : ServiceContext) (inputs : List BrowseDescription)
  | translateBrowsePaths (inputs : List BrowsePath)
  | call (objectId methodId : NodeId) (inputArguments : List Variant)
      (context : ServiceContext)
  | historyReadRaw (details : HistoryReadRawDetails)
  | historyReadEvents (nodeId : NodeId) (fromTime toTime : DateTime) (filter : EventFilter)
  | historyUpdate (context : ServiceContext) (details : UpdateDataDetails)
  | historyUpdateEvent (context : ServiceContext) (details : UpdateEventDetails)
  | addNodes (context : ServiceContext) (items : List ManagedAddNodesItem)
  | deleteNodes (context : ServiceContext) (items : List DeleteNodesItem)
  | addReferences (context : ServiceContext) (items : List AddReferencesItem)
  | deleteReferences (context : ServiceContext) (items : List DeleteReferencesItem)

/-- A method is answered with its output arguments. -/
def Callback.Reply : Callback → Type
  | read _ _ => StatusOr (List DataValue)
  | write _ _ => StatusOr (List StatusCode)
  | browse _ _ => StatusOr (List ManagedBrowseResult)
  | translateBrowsePaths _ => StatusOr (List ManagedPathResult)
  | call _ _ _ _ => StatusOr (List Variant)
  | historyReadRaw _ => StatusOr HistoryReadRawResult
  | historyReadEvents _ _ _ _ => StatusOr (List Event)
  | historyUpdate _ _ => StatusOr (List StatusCode)
  | historyUpdateEvent _ _ => StatusOr (List StatusCode)
  | addNodes _ _ => StatusOr (List (StatusCode × NodeId))
  | deleteNodes _ _ => StatusOr (List StatusCode)
  | addReferences _ _ => StatusOr (List StatusCode)
  | deleteReferences _ _ => StatusOr (List StatusCode)

abbrev HandlerDialogue := Dialogue Callback Callback.Reply

def ask (callback : Callback) : HandlerDialogue callback.Reply :=
  Dialogue.question callback

/-- What throws leaves the handler. -/
def orThrow {α : Type} : Except Json.Thrown α → HandlerDialogue α
  | .ok value => pure value
  | .error _ => .aborted

structure ServiceHandler where
  serviceContext : ServiceContext := {}
  operationLimits : OperationLimits := {}
  attributes : AttributesCodec
  historyReads : HistoryReadCodec
  historyUpdates : HistoryUpdateCodec
  base64 : Base64 := .standard

/-! ## Checks and small steps -/

def validateOperationCount (count : ℕ) (limit : UInt32) : Option Status :=
  if count = 0 then some (.ofCode .badNothingToDo)
  else if limit.toNat < count then some (.ofCode .badTooManyOperations)
  else none

def kTimestampsSource : UInt32 := 0
def kTimestampsServer : UInt32 := 1
def kTimestampsNeither : UInt32 := 3

def applyTimestampsToReturn (timestampsToReturn : UInt32) (value : DataValue) : DataValue :=
  { value with
    sourceTimestamp :=
      if timestampsToReturn = kTimestampsServer ∨ timestampsToReturn = kTimestampsNeither then
        {}
      else value.sourceTimestamp
    serverTimestamp :=
      if timestampsToReturn = kTimestampsSource ∨ timestampsToReturn = kTimestampsNeither then
        {}
      else value.serverTimestamp }

/-- `NormalizeReadResult`, whose full code is that of `Bad_NodeIdUnknown`. -/
def normalizeReadResult (result : DataValue) : DataValue :=
  if result.statusCode = .badNodeIdUnknown then
    { result with statusCode := Status.code ⟨0x80340000⟩ }
  else result

/-- A response with the status of the answer, and with its values, if there are any. -/
def respond {α ρ : Type} (result : StatusOr (List α)) (convert : α → ρ) : WireResponse ρ where
  serviceResult := result.status
  results := (result.valueOr []).map convert

/-- The way of every service with a limit: `refuse` with the status of the check, or go
on. -/
def withinLimit {ρ : Type} (count : ℕ) (limit : UInt32) (make : WireResponse ρ → ServiceResponse)
    (run : HandlerDialogue ServiceResponse) : HandlerDialogue ServiceResponse :=
  match validateOperationCount count limit with
  | some status => pure (make { serviceResult := status })
  | none => run

namespace ServiceHandler

variable (handler : ServiceHandler)

/-! ## The services -/

def handleRead (request : ReadRequest) : HandlerDialogue ServiceResponse :=
  withinLimit request.nodesToRead.length handler.operationLimits.maxNodesPerRead .read
    (if request.maxAge < 0 ∨ kTimestampsNeither < request.timestampsToReturn then
      pure (.read { serviceResult := .ofCode .badTimestampsToReturnInvalid })
    else do
      let result ← ask (.read handler.serviceContext
        (request.nodesToRead.map managedReadValueId))
      return .read (respond result fun value =>
        applyTimestampsToReturn request.timestampsToReturn (normalizeReadResult value)))

def handleWrite (request : WriteRequest) : HandlerDialogue ServiceResponse :=
  withinLimit request.nodesToWrite.length handler.operationLimits.maxNodesPerWrite .write do
    let result ← ask (.write handler.serviceContext
      (request.nodesToWrite.map managedWriteValue))
    return .write (respond result Status.ofCode)

def handleBrowse (request : BrowseRequest) : HandlerDialogue ServiceResponse :=
  withinLimit request.nodesToBrowse.length handler.operationLimits.maxNodesPerBrowse .browse
    (if ¬request.viewId.isNull then
      pure (.browse { serviceResult := .ofCode .badViewIdUnknown })
    else do
      let result ← ask (.browse handler.serviceContext
        (request.nodesToBrowse.map managedDescription))
      return .browse (respond result wireBrowseResult))

def handleTranslateBrowsePaths (request : TranslateBrowsePathsRequest) :
    HandlerDialogue ServiceResponse :=
  withinLimit request.browsePaths.length
    handler.operationLimits.maxNodesPerTranslateBrowsePathsToNodeIds .translateBrowsePaths do
      let result ← ask (.translateBrowsePaths (request.browsePaths.map managedPath))
      return .translateBrowsePaths (respond result wirePathResult)

def callMethodResult : StatusOr (List Variant) → CallMethodResult
  | .ok outputArguments => { outputArguments := outputArguments }
  | .error status _ => { statusCode := status }

/-- The loop of `HandleCall`: one method after the other. -/
def callMethods : List CallMethodRequest → HandlerDialogue (List CallMethodResult)
  | [] => pure []
  | method :: methods => do
      let result ← ask (.call method.objectId method.methodId method.inputArguments
        handler.serviceContext)
      let results ← callMethods methods
      return callMethodResult result :: results

def handleCall (request : CallRequest) : HandlerDialogue ServiceResponse :=
  withinLimit request.methodsToCall.length handler.operationLimits.maxNodesPerMethodCall
    .call do
      let results ← handler.callMethods request.methodsToCall
      return .call { results := results }

/-- A raw read has a start, an end or a continuation point. -/
def isUnbounded (details : HistoryReadRawDetails) : Bool :=
  details.fromTime.ticks == 0 && details.toTime.ticks == 0 &&
    details.continuationPoint.isEmpty && !details.releaseContinuationPoint

/-- `HandleHistoryRead` from the decoded details on. -/
def readHistory (decoded : DecodedHistoryRead) : HandlerDialogue ServiceResponse :=
  match decoded.details with
  | .raw details =>
      if isUnbounded details then
        pure (.historyRead (handler.historyReads.toWireRawResponse
          (.error _ Status.isBad_badHistoryOperationInvalid)))
      else do
        let result ← ask (.historyReadRaw details)
        return .historyRead (handler.historyReads.toWireRawResponse result)
  | .events details => do
      let result ← ask (.historyReadEvents details.nodeId details.fromTime details.toTime
        details.filter)
      return .historyRead (handler.historyReads.toWireEventsResponse handler.base64 result
        decoded.eventFieldPaths)

def handleHistoryRead (request : HistoryReadRequest) : HandlerDialogue ServiceResponse := do
  let decoded ← orThrow (handler.historyReads.toManaged request)
  match decoded with
  | none =>
      return .historyRead { serviceResult := .ofCode .badHistoryOperationInvalid }
  | some decoded => handler.readHistory decoded

/-- The result in `ToWire` of the answer to an update. -/
def wireUpdateResult : StatusOr (List StatusCode) → HistoryUpdateResult
  | .ok codes => { operationResults := codes.map Status.ofCode }
  | .error status _ => { statusCode := status }

/-- `HandleHistoryUpdate` from the decoded details on. -/
def updateHistory : HistoryUpdateDetails → HandlerDialogue (StatusOr (List StatusCode))
  | .data details => ask (.historyUpdate handler.serviceContext details)
  | .events details => ask (.historyUpdateEvent handler.serviceContext details)

def handleHistoryUpdate (request : HistoryUpdateRequest) : HandlerDialogue ServiceResponse :=
  match handler.historyUpdates.toManaged request with
  | none => pure (.historyUpdate { serviceResult := .ofCode .badHistoryOperationInvalid })
  | some details => do
      let result ← handler.updateHistory details
      return .historyUpdate { results := [wireUpdateResult result] }

def handleAddNodes (request : AddNodesRequest) : HandlerDialogue ServiceResponse :=
  withinLimit request.nodesToAdd.length handler.operationLimits.maxNodesPerNodeManagement
    .addNodes do
      let items ← orThrow (request.nodesToAdd.mapM handler.attributes.toManaged)
      let result ← ask (.addNodes handler.serviceContext items)
      return .addNodes (respond result fun added =>
        { statusCode := .ofCode added.1, addedNodeId := added.2 })

def handleDeleteNodes (request : DeleteNodesRequest) : HandlerDialogue ServiceResponse :=
  withinLimit request.nodesToDelete.length handler.operationLimits.maxNodesPerNodeManagement
    .deleteNodes do
      let result ← ask (.deleteNodes handler.serviceContext request.nodesToDelete)
      return .deleteNodes (respond result Status.ofCode)

def handleAddReferences (request : AddReferencesRequest) : HandlerDialogue ServiceResponse :=
  withinLimit request.referencesToAdd.length
    handler.operationLimits.maxNodesPerNodeManagement .addReferences do
      let result ← ask (.addReferences handler.serviceContext
        (request.referencesToAdd.map managedAddReference))
      return .addReferences (respond result Status.ofCode)

def handleDeleteReferences (request : DeleteReferencesRequest) :
    HandlerDialogue ServiceResponse :=
  withinLimit request.referencesToDelete.length
    handler.operationLimits.maxNodesPerNodeManagement .deleteReferences do
      let result ← ask (.deleteReferences handler.serviceContext
        (request.referencesToDelete.map managedDeleteReference))
      return .deleteReferences (respond result Status.ofCode)

/-- `Handle`.  BrowseNext has no callback. -/
def handle : ServiceRequest → HandlerDialogue ServiceResponse
  | .read request => handler.handleRead request
  | .write request => handler.handleWrite request
  | .browse request => handler.handleBrowse request
  | .browseNext _ => pure (.browseNext { serviceResult := .ofCode .bad })
  | .translateBrowsePaths request => handler.handleTranslateBrowsePaths request
  | .call request => handler.handleCall request
  | .historyRead request => handler.handleHistoryRead request
  | .historyUpdate request => handler.handleHistoryUpdate request
  | .addNodes request => handler.handleAddNodes request
  | .deleteNodes request => handler.handleDeleteNodes request
  | .addReferences request => handler.handleAddReferences request
  | .deleteReferences request => handler.handleDeleteReferences request

end ServiceHandler

end Services

end OpcuaStack
