import OpcuaStack.DataValueRoundTrip
import OpcuaStack.IdentifierRoundTrip
import OpcuaStack.NodeAttributesConversion
import OpcuaStack.WireTypes

/-!
# Attributes of new nodes, there and back

`services/node_attributes_conversion.cpp` in both directions.  The writer sets a bit of a
mask for each attribute which is there.  The reader does not look at the mask: a value is
there for it unless it is null, and the other attributes always are.
-/

namespace OpcuaStack

/-- A generated body with its mask. -/
structure WireAttributes extends AttributesBody where
  specifiedAttributes : UInt32 := 0

namespace AttributesMask

def dataType : UInt32 := 16

def displayName : UInt32 := 64

def value : UInt32 := 2097152

end AttributesMask

def WireAttributes.Specifies (wire : WireAttributes) (bit : UInt32) : Prop :=
  wire.specifiedAttributes &&& bit ≠ 0

instance (wire : WireAttributes) (bit : UInt32) : Decidable (wire.Specifies bit) :=
  inferInstanceAs (Decidable (_ ≠ _))

namespace AttributesType

def binaryEncodingId : AttributesType → UInt32
  | .object => 354
  | .variable => 357
  | .method => 360
  | .objectType => 363
  | .variableType => 366
  | .referenceType => 369
  | .dataType => 372
  | .view => 375

def jsonEncodingId : AttributesType → UInt32
  | .object => 15152
  | .variable => 15153
  | .method => 15157
  | .objectType => 15158
  | .variableType => 15159
  | .referenceType => 15160
  | .dataType => 15161
  | .view => 15162

end AttributesType

/-! ## Writing -/

def LocalizedText.isEmpty (text : LocalizedText) : Bool :=
  text.locale.isEmpty && text.text.isEmpty

def NodeId.isNull (nodeId : NodeId) : Bool :=
  nodeId.namespaceIndex == 0 && nodeId.identifier == .numeric 0

def displayNameMask (attributes : NodeAttributes) : UInt32 :=
  if attributes.displayName.isEmpty then 0 else AttributesMask.displayName

def buildCommon (attributes : NodeAttributes) : WireAttributes where
  displayName := if attributes.displayName.isEmpty then {} else attributes.displayName
  specifiedAttributes := displayNameMask attributes

def buildValued (attributes : NodeAttributes) : WireAttributes where
  displayName := if attributes.displayName.isEmpty then {} else attributes.displayName
  dataType := if attributes.dataType.isNull then {} else attributes.dataType
  value := attributes.value.getD .null
  specifiedAttributes := displayNameMask attributes |||
    ((if attributes.dataType.isNull then 0 else AttributesMask.dataType) |||
      if attributes.value.isSome then AttributesMask.value else 0)

/-- The body of a type. -/
def buildAttributes (type : AttributesType) (attributes : NodeAttributes) : WireAttributes :=
  if type.isValued then buildValued attributes else buildCommon attributes

/-- The generated codecs, of which the one for JSON throws. -/
structure AttributesBodyCodec where
  encode : AttributesType → WireAttributes → ByteString
  decode : AttributesType → ByteString → Option WireAttributes
  decodeJson : AttributesType → JsonValue → Except Json.Thrown WireAttributes

namespace AttributesBodyCodec

variable (codec : AttributesBodyCodec)

def wireType (type : AttributesType) : WireType WireAttributes where
  encode := codec.encode type
  decode := codec.decode type
  decodeJson := fun json => (codec.decodeJson type json).toOption
  binaryEncodingId := type.binaryEncodingId
  jsonEncodingId := type.jsonEncodingId

def nodeAttributesToExtensionObject (nodeClass : Int32) (attributes : NodeAttributes) :
    ExtensionObject :=
  let type := AttributesType.ofNodeClass nodeClass
  (codec.wireType type).toExtensionObject (buildAttributes type attributes)

/-! ## Reading -/

/-- The codecs as the reader uses them, which reads past the mask. -/
def reader : AttributesCodec where
  fromExtensionObject := fun type nodeAttributes =>
    ((codec.wireType type).fromExtensionObject nodeAttributes).map
      WireAttributes.toAttributesBody
  decodeJson := fun type json => WireAttributes.toAttributesBody <$> codec.decodeJson type json

/-- `ExtractBody`, with the mask that was sent. -/
def extractWire (type : AttributesType) (nodeAttributes : ExtensionObject) :
    Except Json.Thrown (Option WireAttributes) :=
  match (codec.wireType type).fromExtensionObject nodeAttributes with
  | some wire => .ok (some wire)
  | none =>
      match nodeAttributes.value with
      | .json json => some <$> codec.decodeJson type json
      | _ => .ok none

variable {codec}

theorem extractBody_of_extractWire {type : AttributesType} {nodeAttributes : ExtensionObject}
    {wire : WireAttributes} (h : codec.extractWire type nodeAttributes = .ok (some wire)) :
    codec.reader.extractBody type nodeAttributes = .ok (some wire.toAttributesBody) := by
  have hread : codec.reader.fromExtensionObject type nodeAttributes =
      ((codec.wireType type).fromExtensionObject nodeAttributes).map
        WireAttributes.toAttributesBody := rfl
  rw [AttributesCodec.extractBody, hread]
  unfold extractWire at h
  cases hbinary : (codec.wireType type).fromExtensionObject nodeAttributes with
  | some found =>
      rw [hbinary] at h
      obtain rfl := Option.some.inj (Except.ok.inj h)
      rfl
  | none =>
      rw [hbinary] at h
      cases hvalue : nodeAttributes.value with
      | json json =>
          have hreadJson : codec.reader.decodeJson type json =
              WireAttributes.toAttributesBody <$> codec.decodeJson type json := rfl
          simp only [hvalue] at h
          simp only [Option.map_none, hreadJson]
          cases hjson : codec.decodeJson type json with
          | error thrown =>
              rw [hjson] at h
              cases h
          | ok found =>
              rw [hjson] at h
              obtain rfl := Option.some.inj (Except.ok.inj h)
              rfl
      | empty | binary _ =>
          rw [hvalue] at h
          cases h

theorem attributes_of_extractWire {nodeClass : Int32} {nodeAttributes : ExtensionObject}
    {wire : WireAttributes}
    (h : codec.extractWire (.ofNodeClass nodeClass) nodeAttributes = .ok (some wire)) :
    codec.reader.extensionObjectToNodeAttributes nodeClass nodeAttributes =
      .ok (AttributesCodec.attributesOf (.ofNodeClass nodeClass)
        (some wire.toAttributesBody)) := by
  rw [AttributesCodec.extensionObjectToNodeAttributes, extractBody_of_extractWire h]
  rfl

theorem extractWire_toExtensionObject {type : AttributesType} {wire : WireAttributes}
    (h : (codec.wireType type).RoundTrips wire) :
    codec.extractWire type ((codec.wireType type).toExtensionObject wire) =
      .ok (some wire) := by
  rw [extractWire, h.fromExtensionObject]

end AttributesBodyCodec

/-! ## What survives -/

/-- Only a variable and a variable type have a data type and a value. -/
def NodeAttributes.BelongTo (attributes : NodeAttributes) (type : AttributesType) : Prop :=
  type.isValued = false → attributes.dataType = {} ∧ attributes.value = none

/-- The attributes whose bits are set. -/
def WireAttributes.specified (wire : WireAttributes) (type : AttributesType) :
    NodeAttributes where
  displayName := if wire.Specifies AttributesMask.displayName then wire.displayName else {}
  dataType :=
    if type.isValued ∧ wire.Specifies AttributesMask.dataType then wire.dataType else {}
  value :=
    if type.isValued ∧ wire.Specifies AttributesMask.value then some wire.value else none

/-- The mask and the body say the same: what is not specified holds its default, and a
value is specified exactly if it is not null. -/
structure WireAttributes.Agrees (wire : WireAttributes) (type : AttributesType) : Prop where
  displayName : ¬wire.Specifies AttributesMask.displayName → wire.displayName = {}
  dataType : type.isValued → ¬wire.Specifies AttributesMask.dataType → wire.dataType = {}
  value : type.isValued →
    (wire.Specifies AttributesMask.value ↔ Binary.variantIsNull wire.value = false)

theorem LocalizedText.ite_isEmpty (text : LocalizedText) :
    (if text.isEmpty then {} else text) = text := by
  split
  next hempty =>
    obtain ⟨locale, text⟩ := text
    rw [isEmpty, Bool.and_eq_true, List.isEmpty_iff, List.isEmpty_iff] at hempty
    obtain ⟨rfl, rfl⟩ := hempty
    rfl
  next => rfl

theorem NodeId.ite_isNull (nodeId : NodeId) :
    (if nodeId.isNull then {} else nodeId) = nodeId := by
  split
  next hnull =>
    obtain ⟨identifier, namespaceIndex⟩ := nodeId
    rw [isNull, Bool.and_eq_true, beq_iff_eq, beq_iff_eq] at hnull
    obtain ⟨rfl, rfl⟩ := hnull
    rfl
  next => rfl

theorem attributesOf_buildAttributes {type : AttributesType} {attributes : NodeAttributes}
    (h : attributes.BelongTo type) :
    AttributesCodec.attributesOf type (some (buildAttributes type attributes).toAttributesBody) =
      { attributes with
        browseName := {}
        value := attributes.value.filter fun value => !Binary.variantIsNull value } := by
  obtain ⟨browseName, displayName, dataType, value⟩ := attributes
  rw [AttributesCodec.attributesOf, buildAttributes]
  split
  next hvalued =>
    have hnull : Binary.variantIsNull .null = true := rfl
    simp only [buildValued, LocalizedText.ite_isEmpty, NodeId.ite_isNull]
    cases value with
    | none => simp [hnull]
    | some value => cases hvalue : Binary.variantIsNull value <;> simp [Option.filter, hvalue]
  next hcommon =>
    obtain ⟨rfl, rfl⟩ := h (Bool.eq_false_iff.mpr hcommon)
    simp only [buildCommon, LocalizedText.ite_isEmpty, Option.filter_none]

theorem eq_ite_iff {α : Type} {p : Prop} [Decidable p] (value default : α) :
    value = (if p then value else default) ↔ (¬p → value = default) := by
  split
  next hp => exact iff_of_true rfl fun hnot => absurd hp hnot
  next hnot => exact ⟨fun heq _ => heq, fun h => h hnot⟩

theorem attributesOf_eq_specified_iff (wire : WireAttributes) (type : AttributesType) :
    AttributesCodec.attributesOf type (some wire.toAttributesBody) = wire.specified type ↔
      wire.Agrees type := by
  have hdisplay := eq_ite_iff (p := wire.Specifies AttributesMask.displayName)
    wire.displayName {}
  rw [AttributesCodec.attributesOf, WireAttributes.specified]
  cases hvalued : type.isValued with
  | false =>
      simp only [Bool.false_eq_true, if_false, false_and, NodeAttributes.mk.injEq, true_and,
        and_true, hdisplay]
      exact ⟨fun h => ⟨h, by simp [hvalued], by simp [hvalued]⟩, fun h => h.displayName⟩
  | true =>
      have hdataType := eq_ite_iff (p := wire.Specifies AttributesMask.dataType)
        wire.dataType {}
      have hvalue : (if Binary.variantIsNull wire.value then none else some wire.value) =
          (if wire.Specifies AttributesMask.value then some wire.value else none) ↔
            (wire.Specifies AttributesMask.value ↔
              Binary.variantIsNull wire.value = false) := by
        by_cases hset : wire.Specifies AttributesMask.value <;>
          cases Binary.variantIsNull wire.value <;> simp [hset]
      simp only [if_true, true_and, NodeAttributes.mk.injEq, hdisplay, hdataType, hvalue]
      exact ⟨fun ⟨h, h', h''⟩ => ⟨h, fun _ => h', fun _ => h''⟩,
        fun h => ⟨h.displayName, h.dataType hvalued, h.value hvalued⟩⟩

namespace AttributesBodyCodec

variable {codec : AttributesBodyCodec}

/-- Attributes come back exactly if no null is present for their value, and a body is read
by its mask exactly if the mask agrees with it. -/
theorem attributes_survive_iff :
    (∀ nodeClass attributes, attributes.BelongTo (.ofNodeClass nodeClass) →
      (codec.wireType (.ofNodeClass nodeClass)).RoundTrips
        (buildAttributes (.ofNodeClass nodeClass) attributes) →
      (codec.reader.extensionObjectToNodeAttributes nodeClass
          (codec.nodeAttributesToExtensionObject nodeClass attributes) =
            .ok { attributes with browseName := {} } ↔
        ∀ value, attributes.value = some value → Binary.variantIsNull value = false)) ∧
      ∀ nodeClass nodeAttributes wire,
        codec.extractWire (.ofNodeClass nodeClass) nodeAttributes = .ok (some wire) →
        (codec.reader.extensionObjectToNodeAttributes nodeClass nodeAttributes =
            .ok (wire.specified (.ofNodeClass nodeClass)) ↔
          wire.Agrees (.ofNodeClass nodeClass)) := by
  constructor
  · intro nodeClass attributes hbelong hround
    rw [nodeAttributesToExtensionObject,
      attributes_of_extractWire (extractWire_toExtensionObject hround),
      attributesOf_buildAttributes hbelong, Except.ok.injEq, NodeAttributes.mk.injEq]
    simp only [true_and]
    cases attributes.value with
    | none => simp
    | some value => simp [Option.filter]
  · intro nodeClass nodeAttributes wire hwire
    rw [attributes_of_extractWire hwire, Except.ok.injEq, attributesOf_eq_specified_iff]

end AttributesBodyCodec

/-! ## Binary bodies -/

section Binary

open Binary Binary.Bounded

/-- The bytes of the other fields of a body, which the conversion leaves at their
defaults. -/
def AttributesType.tail : AttributesType → ByteString
  | .object | .objectType | .dataType => List.replicate 1 0
  | .variable => List.replicate 19 0
  | .method | .view => List.replicate 2 0
  | .variableType => List.replicate 9 0
  | .referenceType => List.replicate 3 0

/-- An empty description and two write masks. -/
def commonDefaults : ByteString := List.replicate 9 0

variable (forms : Representations)

def encodeAttributes (type : AttributesType) (wire : WireAttributes) : ByteString :=
  encodeUInt32 wire.specifiedAttributes ++
    (encodeLocalizedText forms wire.displayName ++
      (commonDefaults ++
        ((if type.isValued then
            (encodeVariant forms wire.value).getD [] ++ encodeNodeId wire.dataType
          else []) ++ type.tail)))

/-- The value and the data type, if the type has them. -/
def decodeValued (type : AttributesType) (displayName : LocalizedText) :
    Bounded.Decoder AttributesBody :=
  if type.isValued then do
    let value ← decodeVariant forms
    let dataType ← Bounded.decodeNodeId
    return { displayName, dataType, value }
  else return { displayName }

def decodeAttributes (type : AttributesType) : Bounded.Decoder WireAttributes := do
  let specifiedAttributes ← Bounded.decodeUInt32
  let displayName ← decodeLocalizedText forms
  let _ ← Scanner.splitOff commonDefaults.length
  let body ← decodeValued forms type displayName
  let _ ← Scanner.splitOff type.tail.length
  return { body with specifiedAttributes }

def binaryAttributesCodec : AttributesBodyCodec where
  encode := encodeAttributes forms
  decode := fun type => WireType.decodeBody (decodeAttributes forms type)
  decodeJson := fun _ _ => .error (.error "expected a JSON object")

variable {forms}

theorem yields_noText (hnone : forms.widen [] = []) :
    (decodeLocalizedText forms).Yields (encodeLocalizedText forms {}) {} := by
  refine (yields_uInt8 0).bind ?_
  have hlocale : (decodeIf (0 : UInt8) 0x01 Bounded.decodeByteString []).Yields [] [] :=
    .pure []
  have htext : (decodeIf (0 : UInt8) 0x02 Bounded.decodeByteString []).Yields [] [] :=
    .pure []
  have hread := htext.bind_pure fun text =>
    ({ locale := [], text := forms.widen text } : LocalizedText)
  rw [hnone] at hread
  exact hlocale.bind hread

theorem yields_attributes {type : AttributesType} {wire : WireAttributes}
    (hnone : forms.widen [] = []) (hvalued : type.isValued) (hname : wire.displayName = {})
    (hvalue : (decodeVariant forms).Returns (encodeVariant forms wire.value) wire.value)
    (hdataType : NodeIdentifier.Encodable wire.dataType.identifier) :
    (decodeAttributes forms type).Yields (encodeAttributes forms type wire) wire := by
  obtain ⟨⟨displayName, dataType, value⟩, mask⟩ := wire
  obtain rfl : displayName = {} := hname
  obtain ⟨written, hwritten, hyields⟩ := hvalue
  have hbody : (decodeValued forms type {}).Yields
      (if type.isValued then (encodeVariant forms value).getD [] ++ encodeNodeId dataType
        else []) ⟨{}, dataType, value⟩ := by
    rw [decodeValued, if_pos hvalued, if_pos hvalued, hwritten, Option.getD_some]
    exact hyields.bind ((yields_nodeId hdataType).bind_pure fun dataType =>
      ({ dataType, value } : AttributesBody))
  exact (follows_uInt32.yields (reads_uInt32 mask)).bind
    ((yields_noText hnone).bind
      ((Scanner.Yields.splitOff commonDefaults).bind
        (hbody.bind ((Scanner.Yields.splitOff type.tail).bind_pure fun _ =>
          (⟨⟨{}, dataType, value⟩, mask⟩ : WireAttributes)))))

end Binary

/-! ## A new variable -/

namespace AttributesBodyCodec

open Binary Binary.Bounded

def sampleAttributesCodec : AttributesBodyCodec := binaryAttributesCodec sampleForms

def booleanType : NodeId := { identifier := .numeric 1 }

def booleanVariable (value : Variant) : NodeAttributes where
  dataType := booleanType
  value := some value

theorem bool_returns : (decodeVariant sampleForms).Returns
    (encodeVariant sampleForms (.scalar .bool true)) (.scalar .bool true) :=
  returns_variant sampleForms (.scalar .bool true) fun _ =>
    .of_yields ((yields_uInt8 1).bind_pure fun raw => decide (raw ≠ 0))

/-- A body of the variable, whatever its mask says. -/
theorem variableBody_roundTrips {value : Variant} {mask : UInt32}
    (hfits : (encodeAttributes sampleForms .variable
      ⟨⟨{}, booleanType, value⟩, mask⟩).length < 2 ^ 63)
    (hvalue : (decodeVariant sampleForms).Returns (encodeVariant sampleForms value) value) :
    (sampleAttributesCodec.wireType .variable).RoundTrips
      ⟨⟨{}, booleanType, value⟩, mask⟩ :=
  WireType.decodeBody_of_yields hfits (yields_attributes rfl rfl rfl hvalue trivial)

theorem booleanVariable_survives :
    sampleAttributesCodec.reader.extensionObjectToNodeAttributes 2
        (sampleAttributesCodec.nodeAttributesToExtensionObject 2
          (booleanVariable (.scalar .bool true))) =
      .ok (booleanVariable (.scalar .bool true)) := by
  refine (attributes_survive_iff.1 2 (booleanVariable (.scalar .bool true))
    (fun hvalued => absurd hvalued (by decide))
    (variableBody_roundTrips (by decide) bool_returns)).mpr ?_
  rintro value ⟨⟩
  rfl

/-- A body with a value which its mask does not name. -/
def unmaskedBody : WireAttributes := ⟨⟨{}, booleanType, .scalar .bool true⟩, 16⟩

/-- A null value is lost, and a value without its bit is taken. -/
theorem presence_inferred :
    (sampleAttributesCodec.reader.extensionObjectToNodeAttributes 2
          (sampleAttributesCodec.nodeAttributesToExtensionObject 2 (booleanVariable .null)) =
        .ok { dataType := booleanType } ∧
      (booleanVariable .null).value = some .null) ∧
    sampleAttributesCodec.reader.extensionObjectToNodeAttributes 2
        ((sampleAttributesCodec.wireType .variable).toExtensionObject unmaskedBody) =
      .ok (booleanVariable (.scalar .bool true)) ∧
    ¬unmaskedBody.Specifies AttributesMask.value := by
  have hround : (sampleAttributesCodec.wireType .variable).RoundTrips
      (buildAttributes .variable (booleanVariable .null)) :=
    variableBody_roundTrips (by decide) null_returns
  have hround' : (sampleAttributesCodec.wireType .variable).RoundTrips unmaskedBody :=
    variableBody_roundTrips (by decide) bool_returns
  have hnull : sampleAttributesCodec.extractWire (.ofNodeClass 2)
      (sampleAttributesCodec.nodeAttributesToExtensionObject 2 (booleanVariable .null)) =
        .ok (some (buildAttributes .variable (booleanVariable .null))) :=
    extractWire_toExtensionObject hround
  have hunmasked : sampleAttributesCodec.extractWire (.ofNodeClass 2)
      ((sampleAttributesCodec.wireType .variable).toExtensionObject unmaskedBody) =
        .ok (some unmaskedBody) := extractWire_toExtensionObject hround'
  exact ⟨⟨attributes_of_extractWire hnull, rfl⟩, attributes_of_extractWire hunmasked,
    by decide⟩

end AttributesBodyCodec

end OpcuaStack
