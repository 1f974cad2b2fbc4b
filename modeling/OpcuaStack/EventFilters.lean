import OpcuaStack.EventFields
import OpcuaStack.ExtensionObjectRoundTrip
import OpcuaStack.JsonVariants
import OpcuaStack.WireTypes

/-!
# Event filters

The event filters of `session/subscription_conversion.cpp` and `events/event_filter.cpp`.
The wire filter selects fields by clauses and events by a content filter; the server
keeps it as JSON, and reads the field paths out of it again.
-/

namespace OpcuaStack

/-! ## The filter on the wire -/

structure SimpleAttributeOperand where
  typeDefinitionId : NodeId := {}
  browsePath : List QualifiedName := []
  attributeId : UInt32 := 0
  indexRange : ByteText := []

structure LiteralOperand where
  value : Variant := .null

namespace FilterOperator

def equals : UInt32 := 0

def ofType : UInt32 := 14

def relatedTo : UInt32 := 15

end FilterOperator

structure ContentFilterElement where
  filterOperator : UInt32 := 0
  filterOperands : List ExtensionObject := []

/-- `ua::EventFilter`, with its where clause. -/
structure WireEventFilter where
  selectClauses : List SimpleAttributeOperand := []
  elements : List ContentFilterElement := []

def SimpleAttributeOperand.path (clause : SimpleAttributeOperand) : List ByteText :=
  clause.browsePath.map QualifiedName.name

def WireEventFilter.fieldPaths (filter : WireEventFilter) : List (List ByteText) :=
  filter.selectClauses.map SimpleAttributeOperand.path

/-- The filter of the domain. -/
structure EventFilter where
  types : UInt32 := 0
  ofType : List NodeId := []
  childOf : List NodeId := []

namespace EventFilter

def acked : UInt32 := 1

def unacked : UInt32 := 2

variable (filter : EventFilter)

def addOfType (id : Option NodeId) : EventFilter :=
  { filter with ofType := filter.ofType ++ id.toList }

def addChildOf (id : Option NodeId) : EventFilter :=
  { filter with childOf := filter.childOf ++ id.toList }

def addAcked (selected : Option Bool) : EventFilter :=
  selected.elim filter fun acked =>
    { filter with
      types := filter.types ||| if acked then EventFilter.acked else EventFilter.unacked }

end EventFilter

def ackedStateName : ByteText := asciiText "AckedState"

/-- The generated codecs of the operands. -/
structure OperandCodec where
  literal : BodyCodec LiteralOperand
  simpleAttribute : BodyCodec SimpleAttributeOperand

namespace OperandCodec

variable (codec : OperandCodec)

def literalOperand : WireType LiteralOperand :=
  { codec.literal with binaryEncodingId := 597, jsonEncodingId := 15208 }

def simpleAttributeOperand : WireType SimpleAttributeOperand :=
  { codec.simpleAttribute with binaryEncodingId := 603, jsonEncodingId := 15210 }

/-! ## The where clause -/

def operandLeaf (operand : ExtensionObject) : Option ByteText :=
  (codec.simpleAttributeOperand.fromExtensionObject operand).bind fun decoded =>
    decoded.browsePath.getLast?.map QualifiedName.name

def operandNodeId (operand : ExtensionObject) : Option NodeId :=
  (codec.literalOperand.fromExtensionObject operand).bind fun decoded =>
    decoded.value.getIf .nodeId

def operandBool (operand : ExtensionObject) : Option Bool :=
  (codec.literalOperand.fromExtensionObject operand).bind fun decoded =>
    decoded.value.getIf .bool

/-- The attribute of an `Equals` comes first, or else last. -/
def ackedSelection (first second : ExtensionObject) : Option Bool :=
  (if codec.operandLeaf first = some ackedStateName then codec.operandBool second
    else none).or
    (if codec.operandLeaf second = some ackedStateName then codec.operandBool first
      else none)

/-- One round of the loop over the elements; what is not known is left out. -/
def addElement (filter : EventFilter) (element : ContentFilterElement) : EventFilter :=
  match element.filterOperands with
  | [operand] =>
      if element.filterOperator = FilterOperator.ofType then
        filter.addOfType (codec.operandNodeId operand)
      else if element.filterOperator = FilterOperator.relatedTo then
        filter.addChildOf (codec.operandNodeId operand)
      else filter
  | [first, second] =>
      if element.filterOperator = FilterOperator.equals then
        filter.addAcked (codec.ackedSelection first second)
      else filter
  | _ => filter

def whereClause (filter : WireEventFilter) : EventFilter :=
  filter.elements.foldl codec.addElement {}

end OperandCodec

/-! ## The filter as JSON -/

section Json

open Json

def pathSegment (segment : ByteText) : JsonValue :=
  .object [(asciiText "Name", .string segment)]

def selectClause (path : List ByteText) : JsonValue :=
  .object [(asciiText "BrowsePath", .array (path.map pathSegment))]

/-- The members that `BuildEventFilter` writes for paths which are not none. -/
def pathMembers (fieldPaths : List (List ByteText)) : Members :=
  [(asciiText "Type", .string (asciiText "EventFilter")),
    (asciiText "Body",
      .object [(asciiText "SelectClauses", .array (fieldPaths.map selectClause))])]

def nodeIdTexts (base64 : Base64) (ids : List NodeId) : JsonValue :=
  .array (ids.map fun id => .string (id.toText base64))

/-- The JSON form of a selection. -/
def jsonFilter (base64 : Base64) (fieldPaths : List (List ByteText))
    (filter : EventFilter) : JsonValue :=
  .object (pathMembers fieldPaths ++
    [(asciiText "_scada", .string (asciiText "event")),
      (asciiText "types", .uint64 filter.types.toUInt64),
      (asciiText "of_type", nodeIdTexts base64 filter.ofType),
      (asciiText "child_of", nodeIdTexts base64 filter.childOf)])

def toJsonEventFilter (codec : OperandCodec) (base64 : Base64)
    (filter : WireEventFilter) : JsonValue :=
  jsonFilter base64 (normalizeEventFieldPaths filter.fieldPaths) (codec.whereClause filter)

/-- `c_str()`: a text ends at its first null character. -/
def cString (text : ByteText) : ByteText := text.takeWhile (· ≠ 0)

def parseSegment : JsonValue → Option ByteText
  | .object segment =>
      match ifContains segment "Name" with
      | some (.string name) => some (cString name)
      | _ => none
  | _ => none

/-- A clause without a path is skipped. -/
def parseClause : JsonValue → Option (List ByteText)
  | .object clause =>
      match ifContains clause "BrowsePath" with
      | some (.array segments) =>
          let path := segments.filterMap parseSegment
          if path.isEmpty then none else some path
      | _ => none
  | _ => none

def parseSelectClauses : Option JsonValue → List (List ByteText)
  | some (.array clauses) => clauses.filterMap parseClause
  | _ => []

/-- The object which the clauses are in. -/
def filterBody (members : Members) : Members :=
  match ifContains members "Body" with
  | some (.object body) => body
  | _ => members

def parseEventFilterFieldPaths : JsonValue → List (List ByteText)
  | .object members =>
      normalizeEventFieldPaths
        (parseSelectClauses (ifContains (filterBody members) "SelectClauses"))
  | _ => normalizeEventFieldPaths []

/-! ## Field paths in the JSON -/

theorem parseSegment_pathSegment (segment : ByteText) :
    parseSegment (pathSegment segment) = some (cString segment) := by
  rw [pathSegment, parseSegment, ifContains, List.lookup_cons_self]

theorem filterMap_pathSegment (path : List ByteText) :
    (path.map pathSegment).filterMap parseSegment = path.map cString := by
  induction path with
  | nil => rfl
  | cons segment rest ih =>
      rw [List.map_cons, List.filterMap_cons_some (parseSegment_pathSegment segment), ih,
        List.map_cons]

theorem parseClause_selectClause (path : List ByteText) :
    parseClause (selectClause path) =
      if path.isEmpty then none else some (path.map cString) := by
  rw [selectClause, parseClause, ifContains, List.lookup_cons_self]
  simp only [filterMap_pathSegment, List.isEmpty_map]

theorem filterMap_selectClause (fieldPaths : List (List ByteText)) :
    (fieldPaths.map selectClause).filterMap parseClause =
      (fieldPaths.filter (!·.isEmpty)).map (List.map cString) := by
  induction fieldPaths with
  | nil => rfl
  | cons path rest ih =>
      have hclause := parseClause_selectClause path
      cases hempty : path.isEmpty with
      | true =>
          rw [hempty, if_pos rfl] at hclause
          rw [List.map_cons, List.filterMap_cons_none hclause, ih,
            List.filter_cons_of_neg (by simp [hempty])]
      | false =>
          rw [hempty, if_neg Bool.false_ne_true] at hclause
          rw [List.map_cons, List.filterMap_cons_some hclause, ih,
            List.filter_cons_of_pos (by simp [hempty]), List.map_cons]

theorem ifContains_pathMembers (fieldPaths : List (List ByteText)) (members : Members) :
    ifContains (filterBody (pathMembers fieldPaths ++ members)) "SelectClauses" =
      some (.array (fieldPaths.map selectClause)) := by
  have hne : (asciiText "Body" == asciiText "Type") = false := by decide
  have hbody : ifContains (pathMembers fieldPaths ++ members) "Body" =
      some (.object [(asciiText "SelectClauses",
        .array (fieldPaths.map selectClause))]) := by
    rw [pathMembers, ifContains, List.cons_append, List.cons_append, List.lookup_cons, hne]
    exact List.lookup_cons_self
  rw [filterBody, hbody]
  exact List.lookup_cons_self

theorem parseEventFilterFieldPaths_jsonFilter (base64 : Base64)
    (fieldPaths : List (List ByteText)) (filter : EventFilter) :
    parseEventFilterFieldPaths (jsonFilter base64 fieldPaths filter) =
      normalizeEventFieldPaths
        ((fieldPaths.filter (!·.isEmpty)).map (List.map cString)) := by
  rw [jsonFilter, parseEventFilterFieldPaths, ifContains_pathMembers, parseSelectClauses,
    filterMap_selectClause]

end Json

/-! ## The binary bodies of operands -/

section Binary

open Binary Binary.Bounded

def encodeAttribute (operand : SimpleAttributeOperand) : ByteString :=
  encodeNodeId operand.typeDefinitionId ++
    (WireType.encodeArray encodeQualifiedName operand.browsePath ++
      (encodeUInt32 operand.attributeId ++ encodeByteString operand.indexRange))

def decodeAttribute : Bounded.Decoder SimpleAttributeOperand := do
  let typeDefinitionId ← Bounded.decodeNodeId
  let browsePath ← WireType.decodeArray decodeQualifiedName
  let attributeId ← Bounded.decodeUInt32
  let indexRange ← Bounded.decodeByteString
  return { typeDefinitionId, browsePath, attributeId, indexRange }

/-- The codecs on binary bodies. -/
def binaryOperandCodec (forms : Representations) : OperandCodec where
  literal := {
    encode := fun operand => (encodeVariant forms operand.value).getD []
    decode := WireType.decodeBody do
      let value ← decodeVariant forms
      return { value }
    decodeJson := fun _ => none }
  simpleAttribute := {
    encode := encodeAttribute
    decode := WireType.decodeBody decodeAttribute
    decodeJson := fun _ => none }

variable {forms : Representations}

theorem literalOperand_roundTrips {value : Variant}
    (hfits : ((encodeVariant forms value).getD []).length < 2 ^ 63)
    (h : (decodeVariant forms).Returns (encodeVariant forms value) value) :
    (binaryOperandCodec forms).literalOperand.RoundTrips { value } := by
  obtain ⟨written, hwritten, hyields⟩ := h
  refine WireType.decodeBody_of_yields hfits ?_
  change Scanner.Yields _ ((encodeVariant forms value).getD []) _
  rw [hwritten, Option.getD_some]
  exact hyields.bind_pure fun value => ({ value } : LiteralOperand)

/-- An operand whose parts have lengths that can be written. -/
structure SimpleAttributeOperand.Encodable (operand : SimpleAttributeOperand) : Prop where
  type : NodeIdentifier.Encodable operand.typeDefinitionId.identifier
  path : operand.browsePath.length < 2 ^ 31
  names : ∀ name ∈ operand.browsePath, name.name.length < 2 ^ 31
  range : operand.indexRange.length < 2 ^ 31

theorem yields_attribute {operand : SimpleAttributeOperand} (h : operand.Encodable) :
    decodeAttribute.Yields (encodeAttribute operand) operand :=
  (yields_nodeId h.type).bind
    ((WireType.yields_array h.path (fun name _ => WireType.encodeQualifiedName_ne_nil name)
      fun name hmem => WireType.yields_qualifiedName (h.names name hmem)).bind
        ((follows_uInt32.yields (reads_uInt32 _)).bind
          ((follows_byteString.yields (reads_byteString h.range)).bind_pure
            fun indexRange =>
              ({ operand with indexRange } : SimpleAttributeOperand))))

theorem simpleAttributeOperand_roundTrips {operand : SimpleAttributeOperand}
    (h : operand.Encodable) (hfits : (encodeAttribute operand).length < 2 ^ 63) :
    (binaryOperandCodec forms).simpleAttributeOperand.RoundTrips operand :=
  WireType.decodeBody_of_yields hfits (yields_attribute h)

end Binary

end OpcuaStack
