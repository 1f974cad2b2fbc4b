import OpcuaStack.JsonVariants
import OpcuaStack.VariantCodec

/-!
# Attributes of new nodes

`services/node_attributes_conversion.cpp` and the conversion in
`ServiceHandler::HandleAddNodes`.  The attributes of a node come in an
ExtensionObject, whose body is binary or inline JSON.  The codecs of the bodies are
generated from the schema; the binary one fails quietly, the JSON one throws.
-/

namespace OpcuaStack

structure NodeAttributes where
  browseName : QualifiedName := {}
  displayName : LocalizedText := {}
  dataType : NodeId := {}
  value : Option Variant := none

/-- The generated types of the bodies. -/
inductive AttributesType where
  | object
  | variable
  | method
  | objectType
  | variableType
  | referenceType
  | dataType
  | view
deriving DecidableEq, Repr

namespace AttributesType

/-- The switch on `NodeClass`, with its default. -/
def ofNodeClass (nodeClass : Int32) : AttributesType :=
  if nodeClass = 2 then .variable
  else if nodeClass = 4 then .method
  else if nodeClass = 8 then .objectType
  else if nodeClass = 16 then .variableType
  else if nodeClass = 32 then .referenceType
  else if nodeClass = 64 then .dataType
  else if nodeClass = 128 then .view
  else .object

/-- The body has a data type and a value. -/
def isValued : AttributesType → Bool
  | .variable | .variableType => true
  | _ => false

end AttributesType

/-- What is read of a generated body. -/
structure AttributesBody where
  displayName : LocalizedText := {}
  dataType : NodeId := {}
  value : Variant := .null

/-- `FromExtensionObject` and `DecodeJson` of the generated bodies. -/
structure AttributesCodec where
  fromExtensionObject : AttributesType → ExtensionObject → Option AttributesBody
  decodeJson : AttributesType → JsonValue → Except Json.Thrown AttributesBody

/-- An item of the request. -/
structure AddNodesItem where
  parentNodeId : ExpandedNodeId := {}
  requestedNewNodeId : ExpandedNodeId := {}
  browseName : QualifiedName := {}
  nodeClass : Int32 := 1
  nodeAttributes : ExtensionObject := {}
  typeDefinition : ExpandedNodeId := {}

/-- An item as the callback gets it. -/
structure ManagedAddNodesItem where
  requestedId : NodeId
  parentId : NodeId
  nodeClass : Int32
  typeDefinitionId : NodeId
  attributes : NodeAttributes

namespace AttributesCodec

variable (codec : AttributesCodec)

def extractBody (type : AttributesType) (nodeAttributes : ExtensionObject) :
    Except Json.Thrown (Option AttributesBody) :=
  match codec.fromExtensionObject type nodeAttributes with
  | some body => .ok (some body)
  | none =>
      match nodeAttributes.value with
      | .json json => do
          let body ← codec.decodeJson type json
          return some body
      | _ => .ok none

/-- `CommonFrom` and `ValuedFrom`. -/
def attributesOf (type : AttributesType) : Option AttributesBody → NodeAttributes
  | none => {}
  | some body =>
      if type.isValued then
        { displayName := body.displayName
          dataType := body.dataType
          value := if Binary.variantIsNull body.value then none else some body.value }
      else
        { displayName := body.displayName }

def extensionObjectToNodeAttributes (nodeClass : Int32)
    (nodeAttributes : ExtensionObject) : Except Json.Thrown NodeAttributes := do
  let type := AttributesType.ofNodeClass nodeClass
  let body ← codec.extractBody type nodeAttributes
  return attributesOf type body

/-- One round of the loop of `HandleAddNodes`. -/
def toManaged (item : AddNodesItem) : Except Json.Thrown ManagedAddNodesItem := do
  let attributes ←
    codec.extensionObjectToNodeAttributes item.nodeClass item.nodeAttributes
  return {
    requestedId := item.requestedNewNodeId.nodeId
    parentId := item.parentNodeId.nodeId
    nodeClass := item.nodeClass
    typeDefinitionId := item.typeDefinition.nodeId
    attributes := { attributes with browseName := item.browseName } }

/-- A JSON body which its decoder throws at. -/
def Unreadable (item : AddNodesItem) : Prop :=
  let type := AttributesType.ofNodeClass item.nodeClass
  codec.fromExtensionObject type item.nodeAttributes = none ∧
    ∃ json thrown, item.nodeAttributes.value = .json json ∧
      codec.decodeJson type json = .error thrown

variable {codec}

theorem extractBody_throws_iff {type : AttributesType} {nodeAttributes : ExtensionObject} :
    (∃ thrown, codec.extractBody type nodeAttributes = .error thrown) ↔
      codec.fromExtensionObject type nodeAttributes = none ∧
        ∃ json thrown, nodeAttributes.value = .json json ∧
          codec.decodeJson type json = .error thrown := by
  unfold extractBody
  cases hbinary : codec.fromExtensionObject type nodeAttributes with
  | some body => simp
  | none =>
      cases hvalue : nodeAttributes.value with
      | json json =>
          cases hjson : codec.decodeJson type json with
          | error thrown => simp [hjson, bind, Except.bind]
          | ok body => simp [hjson, bind, Except.bind, pure, Except.pure]
      | empty => simp
      | binary bytes => simp

theorem toManaged_throws_iff {item : AddNodesItem} :
    (∃ thrown, codec.toManaged item = .error thrown) ↔ codec.Unreadable item := by
  rw [Unreadable, ← extractBody_throws_iff, toManaged, extensionObjectToNodeAttributes]
  cases codec.extractBody (.ofNodeClass item.nodeClass) item.nodeAttributes with
  | error thrown => simp [bind, Except.bind]
  | ok body => simp [bind, Except.bind, pure, Except.pure]

variable (codec) in
theorem mapM_toManaged_throws_iff (items : List AddNodesItem) :
    (∃ thrown, items.mapM codec.toManaged = .error thrown) ↔
      ∃ item ∈ items, codec.Unreadable item := by
  induction items with
  | nil => simp [pure, Except.pure]
  | cons item rest ih =>
      rw [List.mapM_cons, List.exists_mem_cons_iff, ← toManaged_throws_iff, ← ih]
      cases codec.toManaged item with
      | error thrown => simp [bind, Except.bind]
      | ok managed =>
          cases rest.mapM codec.toManaged with
          | error thrown => simp [bind, Except.bind]
          | ok others => simp [bind, Except.bind, pure, Except.pure]

end AttributesCodec

end OpcuaStack
