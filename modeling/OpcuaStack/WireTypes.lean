import OpcuaStack.VariantRoundTrip

/-!
# Structures in extension objects

The helpers which `tools/gen_ua_types.py` writes next to the codecs of the generated
types.  The body of a structure is binary or inline JSON, under the id of its
encoding.
-/

namespace OpcuaStack

/-- The generated codecs of a type.  A body which is not consumed is not decoded, and
what `DecodeJson` throws is caught. -/
structure BodyCodec (T : Type) where
  encode : T → ByteString
  decode : ByteString → Option T
  decodeJson : JsonValue → Option T

/-- A generated type, with the ids of its encodings. -/
structure WireType (T : Type) extends BodyCodec T where
  binaryEncodingId : UInt32
  jsonEncodingId : UInt32

def encodingId (id : UInt32) : ExpandedNodeId := { nodeId := { identifier := .numeric id } }

/-- The numeric identifier of namespace 0 that an extension object is named by. -/
def ExtensionObject.standardId? (extensionObject : ExtensionObject) : Option UInt32 :=
  match extensionObject.dataTypeId.nodeId.identifier with
  | .numeric id =>
      if extensionObject.dataTypeId.nodeId.namespaceIndex = 0 then some id else none
  | _ => none

namespace WireType

variable {T : Type} (type : WireType T)

def toExtensionObject (value : T) : ExtensionObject where
  dataTypeId := encodingId type.binaryEncodingId
  value := .binary (type.encode value)

def fromExtensionObject (extensionObject : ExtensionObject) : Option T :=
  if extensionObject.standardId? = some type.binaryEncodingId then
    match extensionObject.value with
    | .binary body => type.decode body
    | _ => none
  else none

/-- The id of the binary encoding is accepted in front of a JSON body. -/
def fromJsonExtensionObject (extensionObject : ExtensionObject) : Option T :=
  if extensionObject.standardId? = some type.jsonEncodingId ∨
      extensionObject.standardId? = some type.binaryEncodingId then
    match extensionObject.value with
    | .json body => type.decodeJson body
    | _ => none
  else none

def fromAnyExtensionObject (extensionObject : ExtensionObject) : Option T :=
  (type.fromExtensionObject extensionObject).or
    (type.fromJsonExtensionObject extensionObject)

/-- The codec reads back what it wrote for a value. -/
def RoundTrips (value : T) : Prop := type.decode (type.encode value) = some value

variable {type}

theorem fromExtensionObject_toExtensionObject (value : T) :
    type.fromExtensionObject (type.toExtensionObject value) =
      type.decode (type.encode value) :=
  if_pos rfl

theorem RoundTrips.fromExtensionObject {value : T} (h : type.RoundTrips value) :
    type.fromExtensionObject (type.toExtensionObject value) = some value :=
  (fromExtensionObject_toExtensionObject value).trans h

theorem RoundTrips.fromAnyExtensionObject {value : T} (h : type.RoundTrips value) :
    type.fromAnyExtensionObject (type.toExtensionObject value) = some value := by
  rw [WireType.fromAnyExtensionObject, h.fromExtensionObject, Option.some_or]

theorem fromJsonExtensionObject_binary {extensionObject : ExtensionObject}
    {body : ByteString} (hbody : extensionObject.value = .binary body) :
    type.fromJsonExtensionObject extensionObject = none := by
  rw [fromJsonExtensionObject, hbody]
  split <;> rfl

theorem fromExtensionObject_json {extensionObject : ExtensionObject} {body : JsonValue}
    (hbody : extensionObject.value = .json body) :
    type.fromExtensionObject extensionObject = none := by
  rw [fromExtensionObject, hbody]
  split <;> rfl

theorem fromExtensionObject_other {S : Type} {other : WireType S}
    (hids : other.binaryEncodingId ≠ type.binaryEncodingId) (value : S) :
    type.fromExtensionObject (other.toExtensionObject value) = none :=
  if_neg fun hid => hids (Option.some.inj hid)

theorem fromAnyExtensionObject_other {S : Type} {other : WireType S}
    (hids : other.binaryEncodingId ≠ type.binaryEncodingId) (value : S) :
    type.fromAnyExtensionObject (other.toExtensionObject value) = none := by
  rw [fromAnyExtensionObject, fromExtensionObject_other hids,
    fromJsonExtensionObject_binary rfl, Option.or_none]

end WireType

/-! ## The binary encoding of structures -/

namespace WireType

open Binary.Bounded

/-- A body is decoded when it is consumed. -/
def decodeBody {T : Type} (decode : Decoder T) (body : ByteString) : Option T :=
  if hfits : body.length < 2 ^ 63 then
    match decode (.opening body hfits) with
    | .value value next => if next.left = 0 then some value else none
    | _ => none
  else none

def encodeArray {T : Type} (encode : T → ByteString) (values : List T) : ByteString :=
  Binary.encodeInt32 (.ofNat values.length) ++ values.flatMap encode

/-- `DecodeArray`: an array which is null is empty. -/
def decodeArray {T : Type} (element : Decoder T) : Decoder (List T) := do
  let count ← decodeInt32
  if count ≤ 0 then
    return []
  else
    let left ← Scanner.size
    if left < count.toNatClampNeg then
      Scanner.refuse
    else
      Scanner.repeated element count.toNatClampNeg

theorem decodeBody_of_yields {T : Type} {decode : Decoder T} {body : ByteString} {value : T}
    (hfits : body.length < 2 ^ 63) (h : decode.Yields body value) :
    decodeBody decode body = some value := by
  have hopen : (Window.opening body hfits).remaining = body ++ [] := by
    rw [Window.remaining_opening, List.append_nil]
  obtain ⟨next, hvalue, hnext⟩ := h _ [] hopen
  have hleft : next.left = 0 := by
    rw [← Window.length_remaining, hnext, List.length_nil]
  rw [decodeBody, dif_pos hfits, hvalue]
  exact if_pos hleft

theorem yields_qualifiedName {name : QualifiedName} (h : name.name.length < 2 ^ 31) :
    decodeQualifiedName.Yields (Binary.encodeQualifiedName name) name :=
  (follows_uInt16.yields (Binary.reads_uInt16 _)).bind
    ((follows_byteString.yields (Binary.reads_byteString h)).bind_pure fun text =>
      ({ name := text, namespaceIndex := name.namespaceIndex } : QualifiedName))

theorem encodeQualifiedName_ne_nil (name : QualifiedName) :
    Binary.encodeQualifiedName name ≠ [] := by
  simp [Binary.encodeQualifiedName, Binary.encodeUInt16, littleEndian]

theorem joinedMap_some {T : Type} (encode : T → ByteString) (values : List T) :
    joinedMap (fun value => some (encode value)) values = some (values.flatMap encode) := by
  induction values with
  | nil => rfl
  | cons value values ih => rw [joinedMap, ih, joined_some, List.flatMap_cons]

theorem yields_array {T : Type} {encode : T → ByteString} {element : Decoder T}
    {values : List T} (hcount : values.length < 2 ^ 31)
    (hne : ∀ value ∈ values, encode value ≠ [])
    (h : ∀ value ∈ values, element.Yields (encode value) value) :
    (decodeArray element).Yields (encodeArray encode values) values := by
  obtain ⟨hnonneg, hlength⟩ := toNatClampNeg_ofNat hcount
  refine (yields_int32 _).bind ?_
  split
  next hnull =>
    -- A count which is not positive was written for no values.
    have hzero : Int32.ofNat values.length = 0 := by
      rw [← Int32.toInt_inj]
      rw [Int32.lt_iff_toInt_lt] at hnonneg
      rw [Int32.le_iff_toInt_le] at hnull
      exact le_antisymm hnull (not_lt.mp hnonneg)
    have hempty : values.length = 0 := by
      rw [← hlength, hzero]
      rfl
    rw [List.length_eq_zero_iff.mp hempty]
    exact .pure []
  next =>
    have helements : (Scanner.repeated element values.length).Returns
        (joinedMap (fun value => some (encode value)) values) (values.map id) :=
      Scanner.Returns.repeated values fun value hmem => .of_yields (h value hmem)
    have hroom : ∀ piece, joinedMap (fun value => some (encode value)) values = some piece →
        values.length ≤ piece.length := fun piece hpiece =>
      length_le_of_joinedMap hpiece fun value hmem written hwritten =>
        Option.some.inj hwritten ▸ hne value hmem
    rw [hlength]
    obtain ⟨piece, hpiece, hyields⟩ := helements.guarded hroom
    rw [joinedMap_some] at hpiece
    rw [List.map_id] at hyields
    obtain rfl := Option.some.inj hpiece
    exact hyields

end WireType

end OpcuaStack
