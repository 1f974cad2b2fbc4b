import OpcuaStack.ServerRegistrations

/-!
# Messages which are their own wire types

The services whose requests and responses `transport/binary/service_codec.cpp` takes as the
schema has them, with the fields behind the headers and the ids of the binary encodings.
-/

namespace OpcuaStack

namespace StandardTypes

/-! ## Fields -/

def plainField (name : String) (type : PlainType) (rest : FieldLayouts) : FieldLayouts :=
  .single name (.builtIn (.plain type)) rest

def plainArray (name : String) (type : PlainType) (rest : FieldLayouts) : FieldLayouts :=
  .array name (.builtIn (.plain type)) rest

def enumField (name : String) (rest : FieldLayouts) : FieldLayouts :=
  .single name (.enumeration .int32) rest

/-- The last array of a request, of structures. -/
def lastArray (name : String) (element : FieldLayouts) : FieldLayouts :=
  .array name (.structure element) .nil

/-! ## Structures -/

def readValueId : FieldLayouts :=
  nodeIdField "NodeId" (uint32Field "AttributeId" (stringField "IndexRange"
    (plainField "DataEncoding" .qualifiedName .nil)))

def writeValue : FieldLayouts :=
  nodeIdField "NodeId" (uint32Field "AttributeId" (stringField "IndexRange"
    (.single "Value" (.builtIn .dataValue) .nil)))

def viewDescription : FieldLayouts :=
  nodeIdField "ViewId" (dateTimeField "Timestamp" (uint32Field "ViewVersion" .nil))

def browseDescription : FieldLayouts :=
  nodeIdField "NodeId" (enumField "BrowseDirection" (nodeIdField "ReferenceTypeId"
    (boolField "IncludeSubtypes" (uint32Field "NodeClassMask"
      (uint32Field "ResultMask" .nil)))))

def relativePathElement : FieldLayouts :=
  nodeIdField "ReferenceTypeId" (boolField "IsInverse" (boolField "IncludeSubtypes"
    (plainField "TargetName" .qualifiedName .nil)))

def browsePath : FieldLayouts :=
  nodeIdField "StartingNode"
    (.single "RelativePath" (.structure (lastArray "Elements" relativePathElement)) .nil)

def callMethodRequest : FieldLayouts :=
  nodeIdField "ObjectId" (nodeIdField "MethodId"
    (.array "InputArguments" (.builtIn .variant) .nil))

def historyReadValueId : FieldLayouts :=
  nodeIdField "NodeId" (stringField "IndexRange"
    (plainField "DataEncoding" .qualifiedName (plainField "ContinuationPoint" .byteString .nil)))

def addNodesItem : FieldLayouts :=
  plainField "ParentNodeId" .expandedNodeId (nodeIdField "ReferenceTypeId"
    (plainField "RequestedNewNodeId" .expandedNodeId (plainField "BrowseName" .qualifiedName
      (enumField "NodeClass" (extensionObjectField "NodeAttributes"
        (plainField "TypeDefinition" .expandedNodeId .nil))))))

def deleteNodesItem : FieldLayouts :=
  nodeIdField "NodeId" (boolField "DeleteTargetReferences" .nil)

def addReferencesItem : FieldLayouts :=
  nodeIdField "SourceNodeId" (nodeIdField "ReferenceTypeId" (boolField "IsForward"
    (stringField "TargetServerUri" (plainField "TargetNodeId" .expandedNodeId
      (enumField "TargetNodeClass" .nil)))))

def deleteReferencesItem : FieldLayouts :=
  nodeIdField "SourceNodeId" (nodeIdField "ReferenceTypeId" (boolField "IsForward"
    (plainField "TargetNodeId" .expandedNodeId (boolField "DeleteBidirectional" .nil))))

def referenceDescription : FieldLayouts :=
  nodeIdField "ReferenceTypeId" (boolField "IsForward" (plainField "NodeId" .expandedNodeId
    (plainField "BrowseName" .qualifiedName (plainField "DisplayName" .localizedText
      (enumField "NodeClass" (plainField "TypeDefinition" .expandedNodeId .nil))))))

def browseResult : FieldLayouts :=
  plainField "StatusCode" .statusCode (plainField "ContinuationPoint" .byteString
    (lastArray "References" referenceDescription))

def browsePathResult : FieldLayouts :=
  plainField "StatusCode" .statusCode (lastArray "Targets"
    (plainField "TargetId" .expandedNodeId (uint32Field "RemainingPathIndex" .nil)))

def callMethodResult : FieldLayouts :=
  plainField "StatusCode" .statusCode (plainArray "InputArgumentResults" .statusCode
    (plainArray "InputArgumentDiagnosticInfos" .diagnosticInfo
      (.array "OutputArguments" (.builtIn .variant) .nil)))

def historyReadResult : FieldLayouts :=
  plainField "StatusCode" .statusCode (plainField "ContinuationPoint" .byteString
    (extensionObjectField "HistoryData" .nil))

def historyUpdateResult : FieldLayouts :=
  plainField "StatusCode" .statusCode (plainArray "OperationResults" .statusCode
    (plainArray "DiagnosticInfos" .diagnosticInfo .nil))

def addNodesResult : FieldLayouts :=
  plainField "StatusCode" .statusCode (nodeIdField "AddedNodeId" .nil)

def transferResult : FieldLayouts :=
  plainField "StatusCode" .statusCode (plainArray "AvailableSequenceNumbers" .uint32 .nil)

/-- The fields of a response with a result for each operation. -/
def resultsOf (result : TypeLayout) : FieldLayouts :=
  .array "Results" result (plainArray "DiagnosticInfos" .diagnosticInfo .nil)

def statusResults : FieldLayouts := resultsOf (.builtIn (.plain .statusCode))

end StandardTypes

theorem find?_of_nodup {α β : Type} [BEq β] [LawfulBEq β] {key : α → β} {items : List α}
    (hnodup : (items.map key).Nodup) {item : α} (hmem : item ∈ items) :
    items.find? (fun other => key other == key item) = some item := by
  induction items with
  | nil => simp at hmem
  | cons first items ih =>
      obtain ⟨hnew, hnodup⟩ := List.nodup_cons.mp hnodup
      rcases List.mem_cons.mp hmem with rfl | hmem
      · simp
      · have hne : (key first == key item) = false := by
          simp only [beq_eq_false_iff_ne]
          intro hsame
          apply hnew
          rw [hsame]
          exact List.mem_map_of_mem hmem
        simp [hne, ih hnodup hmem]

/-! ## Services -/

/-- The services in the order of the switch in `DecodeServiceRequest`. -/
inductive GeneratedService where
  | read
  | write
  | browse
  | browseNext
  | translateBrowsePathsToNodeIds
  | call
  | historyRead
  | historyUpdate
  | addNodes
  | deleteNodes
  | addReferences
  | deleteReferences
  | registerNodes
  | unregisterNodes
  | setPublishingMode
  | deleteSubscriptions
  | deleteMonitoredItems
  | setMonitoringMode
  | transferSubscriptions
deriving DecidableEq

namespace GeneratedService

open StandardTypes

def all : List GeneratedService :=
  [read, write, browse, browseNext, translateBrowsePathsToNodeIds, call, historyRead,
    historyUpdate, addNodes, deleteNodes, addReferences, deleteReferences, registerNodes,
    unregisterNodes, setPublishingMode, deleteSubscriptions, deleteMonitoredItems,
    setMonitoringMode, transferSubscriptions]

@[simp] theorem mem_all (service : GeneratedService) : service ∈ all := by
  cases service <;> decide

def requestEncodingId : GeneratedService → UInt32
  | read => 631
  | write => 673
  | browse => 527
  | browseNext => 533
  | translateBrowsePathsToNodeIds => 554
  | call => 712
  | historyRead => 664
  | historyUpdate => 700
  | addNodes => 488
  | deleteNodes => 500
  | addReferences => 494
  | deleteReferences => 506
  | registerNodes => 560
  | unregisterNodes => 566
  | setPublishingMode => 799
  | deleteSubscriptions => 847
  | deleteMonitoredItems => 781
  | setMonitoringMode => 769
  | transferSubscriptions => 841

/-- The id of a response is three above that of its request. -/
def responseEncodingId : GeneratedService → UInt32
  | read => 634
  | write => 676
  | browse => 530
  | browseNext => 536
  | translateBrowsePathsToNodeIds => 557
  | call => 715
  | historyRead => 667
  | historyUpdate => 703
  | addNodes => 491
  | deleteNodes => 503
  | addReferences => 497
  | deleteReferences => 509
  | registerNodes => 563
  | unregisterNodes => 569
  | setPublishingMode => 802
  | deleteSubscriptions => 850
  | deleteMonitoredItems => 784
  | setMonitoringMode => 772
  | transferSubscriptions => 844

def requestFields : GeneratedService → FieldLayouts
  | read => plainField "MaxAge" .double (enumField "TimestampsToReturn"
      (lastArray "NodesToRead" readValueId))
  | write => lastArray "NodesToWrite" writeValue
  | browse => .single "View" (.structure viewDescription)
      (uint32Field "RequestedMaxReferencesPerNode" (lastArray "NodesToBrowse" browseDescription))
  | browseNext => boolField "ReleaseContinuationPoints"
      (plainArray "ContinuationPoints" .byteString .nil)
  | translateBrowsePathsToNodeIds => lastArray "BrowsePaths" browsePath
  | call => lastArray "MethodsToCall" callMethodRequest
  | historyRead => extensionObjectField "HistoryReadDetails" (enumField "TimestampsToReturn"
      (boolField "ReleaseContinuationPoints" (lastArray "NodesToRead" historyReadValueId)))
  | historyUpdate => plainArray "HistoryUpdateDetails" .extensionObject .nil
  | addNodes => lastArray "NodesToAdd" addNodesItem
  | deleteNodes => lastArray "NodesToDelete" deleteNodesItem
  | addReferences => lastArray "ReferencesToAdd" addReferencesItem
  | deleteReferences => lastArray "ReferencesToDelete" deleteReferencesItem
  | registerNodes => plainArray "NodesToRegister" .nodeId .nil
  | unregisterNodes => plainArray "NodesToUnregister" .nodeId .nil
  | setPublishingMode => boolField "PublishingEnabled" (plainArray "SubscriptionIds" .uint32 .nil)
  | deleteSubscriptions => plainArray "SubscriptionIds" .uint32 .nil
  | deleteMonitoredItems => uint32Field "SubscriptionId"
      (plainArray "MonitoredItemIds" .uint32 .nil)
  | setMonitoringMode => uint32Field "SubscriptionId" (enumField "MonitoringMode"
      (plainArray "MonitoredItemIds" .uint32 .nil))
  | transferSubscriptions => plainArray "SubscriptionIds" .uint32
      (boolField "SendInitialValues" .nil)

def responseFields : GeneratedService → FieldLayouts
  | read => resultsOf (.builtIn .dataValue)
  | browse | browseNext => resultsOf (.structure browseResult)
  | translateBrowsePathsToNodeIds => resultsOf (.structure browsePathResult)
  | call => resultsOf (.structure callMethodResult)
  | historyRead => resultsOf (.structure historyReadResult)
  | historyUpdate => resultsOf (.structure historyUpdateResult)
  | addNodes => resultsOf (.structure addNodesResult)
  | registerNodes => plainArray "RegisteredNodeIds" .nodeId .nil
  | unregisterNodes => .nil
  | transferSubscriptions => resultsOf (.structure transferResult)
  | write | deleteNodes | addReferences | deleteReferences | setPublishingMode
  | deleteSubscriptions | deleteMonitoredItems | setMonitoringMode => statusResults

def request (service : GeneratedService) : TypeLayout :=
  .structure (.single "RequestHeader" requestHeader service.requestFields)

def response (service : GeneratedService) : TypeLayout :=
  .structure (.single "ResponseHeader" responseHeader service.responseFields)

/-! ## Dispatch -/

/-- The arm of a switch on the ids. -/
def ofEncodingId (idOf : GeneratedService → UInt32) (id : UInt32) : Option GeneratedService :=
  all.find? fun service => idOf service == id

@[simp] theorem ofEncodingId_request (service : GeneratedService) :
    ofEncodingId requestEncodingId service.requestEncodingId = some service :=
  find?_of_nodup (by decide) (mem_all service)

@[simp] theorem ofEncodingId_response (service : GeneratedService) :
    ofEncodingId responseEncodingId service.responseEncodingId = some service :=
  find?_of_nodup (by decide) (mem_all service)

end GeneratedService

end OpcuaStack
