import OpcuaStack.HistoryReads
import OpcuaStack.NotificationConversion
import OpcuaStack.SpecifiedAttributes

/-!
# Requests to the address space

The requests which a server hands to its application, as `service_message.h` lists them,
and the types which the application and the users of a client know instead of the
generated ones.  `services/browse_conversion.cpp` goes from one to the other and back,
and so do the loops of `server/service_handler.cpp` and
`client/client_protocol_session.cpp`.
-/

namespace OpcuaStack.Services

/-! ## Read and Write -/

/-- The generated `ReadValueId`. -/
structure WireReadValueId where
  nodeId : NodeId := {}
  attributeId : UInt32 := 0
  indexRange : ByteText := []
  dataEncoding : QualifiedName := {}

structure ReadRequest where
  maxAge : Double := 0
  timestampsToReturn : UInt32 := 0
  nodesToRead : List WireReadValueId := []

/-- The enumerators of `AttributeId`, from 1 on. -/
def enumeratedAttributes : List AttributeId :=
  [.nodeId, .nodeClass, .browseName, .displayName, .description, .writeMask,
    .userWriteMask, .isAbstract, .symmetric, .inverseName, .containsNoLoops,
    .eventNotifier, .value, .dataType, .valueRank, .arrayDimensions, .accessLevel,
    .userAccessLevel, .minimumSamplingInterval, .historizing, .executable, .userExecutable]

/-- `static_cast<UInt32>(attribute_id)`. -/
def rawAttribute : AttributeId → UInt32
  | .unlisted raw => raw
  | listed => .ofNat (enumeratedAttributes.idxOf listed + 1)

/-- `static_cast<AttributeId>(attribute_id)`. -/
def attributeOfRaw (raw : UInt32) : AttributeId :=
  if raw = 0 then .unlisted 0
  else (enumeratedAttributes[raw.toNat - 1]?).getD (.unlisted raw)

/-- A number which has an enumerator is held as that. -/
def IsProper (id : AttributeId) : Prop := attributeOfRaw (rawAttribute id) = id

def managedReadValueId (value : WireReadValueId) : ReadValueId where
  nodeId := value.nodeId
  attributeId := attributeOfRaw value.attributeId

def wireReadValueId (input : ReadValueId) : WireReadValueId where
  nodeId := input.nodeId
  attributeId := rawAttribute input.attributeId

/-- `WriteValue` of `attribute_types.h`. -/
structure WriteValue where
  nodeId : NodeId := {}
  attributeId : AttributeId := .value
  value : Variant := .null
  flags : UInt32 := 0

/-- The generated `WriteValue`. -/
structure WireWriteValue where
  nodeId : NodeId := {}
  attributeId : UInt32 := 0
  indexRange : ByteText := []
  value : DataValue := ⟨.null, 0, {}, {}, .good⟩

structure WriteRequest where
  nodesToWrite : List WireWriteValue := []

def managedWriteValue (value : WireWriteValue) : WriteValue where
  nodeId := value.nodeId
  attributeId := attributeOfRaw value.attributeId
  value := value.value.value

def wireWriteValue (input : WriteValue) : WireWriteValue where
  nodeId := input.nodeId
  attributeId := rawAttribute input.attributeId
  value := ⟨input.value, 0, {}, {}, .good⟩

/-- The flags of a value stay behind. -/
def WriteValue.sent (input : WriteValue) : WriteValue := { input with flags := 0 }

/-! ## Browse -/

/-- `BrowseDescription` of `view_types.h`. -/
structure BrowseDescription where
  nodeId : NodeId := {}
  direction : UInt32 := 2
  referenceTypeId : NodeId := {}
  includeSubtypes : Bool := true
  nodeClassMask : UInt32 := 0
  resultMask : UInt32 := 0x3F

/-- The generated `BrowseDescription`. -/
structure WireBrowseDescription where
  nodeId : NodeId := {}
  browseDirection : UInt32 := 0
  referenceTypeId : NodeId := {}
  includeSubtypes : Bool := false
  nodeClassMask : UInt32 := 0
  resultMask : UInt32 := 0

structure BrowseRequest where
  viewId : NodeId := {}
  requestedMaxReferencesPerNode : UInt32 := 0
  nodesToBrowse : List WireBrowseDescription := []

/-- `ReferenceDescription` of `view_types.h`. -/
structure ManagedReference where
  referenceTypeId : NodeId := {}
  forward : Bool := true
  nodeId : NodeId := {}
  nodeClass : UInt32 := 0
  browseName : QualifiedName := {}
  displayName : LocalizedText := {}
  typeDefinition : NodeId := {}

/-- `BrowseResult` of `view_types.h`. -/
structure ManagedBrowseResult where
  statusCode : StatusCode := .good
  continuationPoint : ByteString := []
  references : List ManagedReference := []

/-- `ToHandWritten` of a `BrowseDescription`. -/
def managedDescription (description : WireBrowseDescription) : BrowseDescription where
  nodeId := description.nodeId
  direction := description.browseDirection
  referenceTypeId := description.referenceTypeId
  includeSubtypes := description.includeSubtypes
  nodeClassMask := description.nodeClassMask
  resultMask := description.resultMask

/-- `ToGenerated` of a `BrowseDescription`. -/
def wireDescription (description : BrowseDescription) : WireBrowseDescription where
  nodeId := description.nodeId
  browseDirection := description.direction
  referenceTypeId := description.referenceTypeId
  includeSubtypes := description.includeSubtypes
  nodeClassMask := description.nodeClassMask
  resultMask := description.resultMask

/-- `ToHandWritten` of a `ReferenceDescription`, which keeps the node ids alone. -/
def managedReference (reference : ReferenceDescription) : ManagedReference where
  referenceTypeId := reference.referenceTypeId
  forward := reference.isForward
  nodeId := reference.nodeId.nodeId
  nodeClass := reference.nodeClass
  browseName := reference.browseName
  displayName := reference.displayName
  typeDefinition := reference.typeDefinition.nodeId

/-- `ToGenerated` of a `ReferenceDescription`. -/
def wireReference (reference : ManagedReference) : ReferenceDescription where
  referenceTypeId := reference.referenceTypeId
  isForward := reference.forward
  nodeId := { nodeId := reference.nodeId }
  browseName := reference.browseName
  displayName := reference.displayName
  nodeClass := reference.nodeClass
  typeDefinition := { nodeId := reference.typeDefinition }

/-- `ToHandWritten` of a `BrowseResult`. -/
def managedBrowseResult (result : BrowseResult) : ManagedBrowseResult where
  statusCode := result.statusCode.code
  continuationPoint := result.continuationPoint
  references := result.references.map managedReference

/-- `ToGenerated` of a `BrowseResult`. -/
def wireBrowseResult (result : ManagedBrowseResult) : BrowseResult where
  statusCode := .ofCode result.statusCode
  continuationPoint := result.continuationPoint
  references := result.references.map wireReference

/-! ## TranslateBrowsePathsToNodeIds -/

/-- `RelativePathElement` of `view_types.h`. -/
structure RelativePathElement where
  referenceTypeId : NodeId := {}
  inverse : Bool := false
  includeSubtypes : Bool := true
  targetName : QualifiedName := {}

/-- `BrowsePath` of `view_types.h`. -/
structure BrowsePath where
  nodeId : NodeId := {}
  relativePath : List RelativePathElement := []

/-- `BrowsePathTarget` of `view_types.h`, whose index is a `size_t`. -/
structure ManagedPathTarget where
  targetId : ExpandedNodeId := {}
  remainingPathIndex : UInt64 := 0

/-- `BrowsePathResult` of `view_types.h`. -/
structure ManagedPathResult where
  statusCode : StatusCode := .good
  targets : List ManagedPathTarget := []

/-- The generated `RelativePathElement`. -/
structure WirePathElement where
  referenceTypeId : NodeId := {}
  isInverse : Bool := false
  includeSubtypes : Bool := false
  targetName : QualifiedName := {}

/-- The generated `BrowsePath`. -/
structure WireBrowsePath where
  startingNode : NodeId := {}
  elements : List WirePathElement := []

structure TranslateBrowsePathsRequest where
  browsePaths : List WireBrowsePath := []

def managedElement (element : WirePathElement) : RelativePathElement where
  referenceTypeId := element.referenceTypeId
  inverse := element.isInverse
  includeSubtypes := element.includeSubtypes
  targetName := element.targetName

def wireElement (element : RelativePathElement) : WirePathElement where
  referenceTypeId := element.referenceTypeId
  isInverse := element.inverse
  includeSubtypes := element.includeSubtypes
  targetName := element.targetName

def managedPath (path : WireBrowsePath) : BrowsePath where
  nodeId := path.startingNode
  relativePath := path.elements.map managedElement

def wirePath (path : BrowsePath) : WireBrowsePath where
  startingNode := path.nodeId
  elements := path.relativePath.map wireElement

def managedTarget (target : BrowsePathTarget) : ManagedPathTarget where
  targetId := target.targetId
  remainingPathIndex := target.remainingPathIndex.toUInt64

def wireTarget (target : ManagedPathTarget) : BrowsePathTarget where
  targetId := target.targetId
  remainingPathIndex := target.remainingPathIndex.toUInt32

def managedPathResult (result : BrowsePathResult) : ManagedPathResult where
  statusCode := result.statusCode.code
  targets := result.targets.map managedTarget

def wirePathResult (result : ManagedPathResult) : BrowsePathResult where
  statusCode := .ofCode result.statusCode
  targets := result.targets.map wireTarget

/-! ## Call -/

structure CallMethodRequest where
  objectId : NodeId := {}
  methodId : NodeId := {}
  inputArguments : List Variant := []

structure CallRequest where
  methodsToCall : List CallMethodRequest := []

/-! ## Management of nodes -/

structure AddNodesRequest where
  nodesToAdd : List AddNodesItem := []

/-- `DeleteNodesItem`, which is the generated one field by field. -/
structure DeleteNodesItem where
  nodeId : NodeId := {}
  deleteTargetReferences : Bool := false

structure DeleteNodesRequest where
  nodesToDelete : List DeleteNodesItem := []

/-- `AddReferencesItem` of `node_management_types.h`. -/
structure AddReferencesItem where
  sourceNodeId : NodeId := {}
  referenceTypeId : NodeId := {}
  forward : Bool := true
  targetServerUri : ByteText := []
  targetNodeId : ExpandedNodeId := {}
  targetNodeClass : UInt32 := 1

/-- The generated `AddReferencesItem`. -/
structure WireAddReferencesItem where
  sourceNodeId : NodeId := {}
  referenceTypeId : NodeId := {}
  isForward : Bool := false
  targetServerUri : ByteText := []
  targetNodeId : ExpandedNodeId := {}
  targetNodeClass : UInt32 := 0

structure AddReferencesRequest where
  referencesToAdd : List WireAddReferencesItem := []

/-- `DeleteReferencesItem` of `node_management_types.h`. -/
structure DeleteReferencesItem where
  sourceNodeId : NodeId := {}
  referenceTypeId : NodeId := {}
  forward : Bool := true
  targetNodeId : ExpandedNodeId := {}
  deleteBidirectional : Bool := true

/-- The generated `DeleteReferencesItem`. -/
structure WireDeleteReferencesItem where
  sourceNodeId : NodeId := {}
  referenceTypeId : NodeId := {}
  isForward : Bool := false
  targetNodeId : ExpandedNodeId := {}
  deleteBidirectional : Bool := false

structure DeleteReferencesRequest where
  referencesToDelete : List WireDeleteReferencesItem := []

def managedAddReference (item : WireAddReferencesItem) : AddReferencesItem where
  sourceNodeId := item.sourceNodeId
  referenceTypeId := item.referenceTypeId
  forward := item.isForward
  targetServerUri := item.targetServerUri
  targetNodeId := item.targetNodeId
  targetNodeClass := item.targetNodeClass

def wireAddReference (item : AddReferencesItem) : WireAddReferencesItem where
  sourceNodeId := item.sourceNodeId
  referenceTypeId := item.referenceTypeId
  isForward := item.forward
  targetServerUri := item.targetServerUri
  targetNodeId := item.targetNodeId
  targetNodeClass := item.targetNodeClass

def managedDeleteReference (item : WireDeleteReferencesItem) : DeleteReferencesItem where
  sourceNodeId := item.sourceNodeId
  referenceTypeId := item.referenceTypeId
  forward := item.isForward
  targetNodeId := item.targetNodeId
  deleteBidirectional := item.deleteBidirectional

def wireDeleteReference (item : DeleteReferencesItem) : WireDeleteReferencesItem where
  sourceNodeId := item.sourceNodeId
  referenceTypeId := item.referenceTypeId
  isForward := item.forward
  targetNodeId := item.targetNodeId
  deleteBidirectional := item.deleteBidirectional

/-- An item of `AddNodes` of the client, whose reference type stays null. -/
def wireAddNode (codec : AttributesBodyCodec) (item : ManagedAddNodesItem) :
    AddNodesItem where
  parentNodeId := { nodeId := item.parentId }
  requestedNewNodeId := { nodeId := item.requestedId }
  browseName := item.attributes.browseName
  nodeClass := item.nodeClass
  nodeAttributes := codec.nodeAttributesToExtensionObject item.nodeClass item.attributes
  typeDefinition := { nodeId := item.typeDefinitionId }

/-! ## There and back -/

theorem managed_wireReadValueId {input : ReadValueId} (h : IsProper input.attributeId) :
    managedReadValueId (wireReadValueId input) = input := by
  rw [managedReadValueId, wireReadValueId, h]

theorem managed_wireWriteValue {input : WriteValue} (h : IsProper input.attributeId) :
    managedWriteValue (wireWriteValue input) = input.sent := by
  rw [managedWriteValue, wireWriteValue, h, WriteValue.sent]

@[simp] theorem managed_wireDescription (description : BrowseDescription) :
    managedDescription (wireDescription description) = description := rfl

@[simp] theorem managed_wireReference (reference : ManagedReference) :
    managedReference (wireReference reference) = reference := rfl

@[simp] theorem managed_wireElement (element : RelativePathElement) :
    managedElement (wireElement element) = element := rfl

@[simp] theorem managed_wireAddReference (item : AddReferencesItem) :
    managedAddReference (wireAddReference item) = item := rfl

@[simp] theorem managed_wireDeleteReference (item : DeleteReferencesItem) :
    managedDeleteReference (wireDeleteReference item) = item := rfl

@[simp] theorem managed_wirePath (path : BrowsePath) :
    managedPath (wirePath path) = path := by
  simp [managedPath, wirePath, Function.comp_def]

theorem managed_wireBrowseResult {result : ManagedBrowseResult}
    (h : result.statusCode.Fits) :
    managedBrowseResult (wireBrowseResult result) = result := by
  have hcode : (Status.ofCode result.statusCode).code = result.statusCode :=
    (StatusCode.onWire_eq_iff _).mpr h
  simp [managedBrowseResult, wireBrowseResult, hcode, Function.comp_def]

theorem managed_wireTarget {target : ManagedPathTarget}
    (h : target.remainingPathIndex.toNat < 2 ^ 32) :
    managedTarget (wireTarget target) = target := by
  have hindex : target.remainingPathIndex.toUInt32.toUInt64 = target.remainingPathIndex := by
    apply UInt64.toNat_inj.mp
    rw [UInt32.toNat_toUInt64, UInt64.toNat_toUInt32, Nat.mod_eq_of_lt h]
  rw [managedTarget, wireTarget, hindex]

/-- What a result of a path has to be like to come back. -/
structure ManagedPathResult.Fits (result : ManagedPathResult) : Prop where
  statusCode : result.statusCode.Fits
  targets : ∀ target ∈ result.targets, target.remainingPathIndex.toNat < 2 ^ 32

theorem managed_wirePathResult {result : ManagedPathResult} (h : result.Fits) :
    managedPathResult (wirePathResult result) = result := by
  have hcode : (Status.ofCode result.statusCode).code = result.statusCode :=
    (StatusCode.onWire_eq_iff _).mpr h.statusCode
  have htargets : result.targets.map (managedTarget ∘ wireTarget) = result.targets := by
    refine (List.map_congr_left fun target hmem => ?_).trans (List.map_id _)
    exact managed_wireTarget (h.targets target hmem)
  simp [managedPathResult, wirePathResult, hcode, htargets]

end OpcuaStack.Services
