import OpcuaStack.BoundedDecoding
import OpcuaStack.ReadingScripts

/-!
# The decoder overloads as scripts

Each overload of `Decode` is a script of reads.  As a scanner it is the decoder of
variants and their parts; performed, it leaves the `Decoder` where the calls it made
have moved it, also when it fails.
-/

namespace OpcuaStack
namespace Binary
namespace Scripted

open Script

abbrev Decoder := Script UInt8

variable (forms : Representations)

/-! ## Overloads which call no other in turn -/

def decodeNumber {α : Type} (width : ℕ) (make : ℕ → α) : Decoder α := do
  let bytes ← take width
  return make (ofLittleEndian bytes)

def decodeUInt8 : Decoder UInt8 := decodeNumber 1 UInt8.ofNat

def decodeUInt16 : Decoder UInt16 := decodeNumber 2 UInt16.ofNat

def decodeUInt32 : Decoder UInt32 := decodeNumber 4 UInt32.ofNat

def decodeBool : Decoder Bool := do
  let raw ← decodeUInt8
  return raw ≠ 0

def decodeInt32 : Decoder Int32 := do
  let raw ← decodeUInt32
  return raw.toInt32

def decodeInt64 : Decoder Int64 :=
  decodeNumber 8 fun raw => (UInt64.ofNat raw).toInt64

def decodeUInt64 : Decoder UInt64 := do
  let raw ← decodeInt64
  return raw.toUInt64

def decodeFloat : Decoder Double := do
  let raw ← take 4
  return forms.ofFloat raw

def decodeDouble : Decoder Double := do
  let raw ← take 8
  return forms.ofDouble raw

/-- `Decode` into a `String` or a `ByteString`. -/
def decodeByteString : Decoder ByteString := do
  let length ← decodeInt32
  if length < 0 then
    return []
  else
    take length.toNatClampNeg

def decodeIf {α : Type} (mask bit : UInt8) (decode : Decoder α) (absent : α) :
    Decoder α :=
  if mask &&& bit ≠ 0 then decode else return absent

def decodeQualifiedName : Decoder QualifiedName := do
  let namespaceIndex ← decodeUInt16
  let name ← decodeByteString
  return { name, namespaceIndex }

def decodeLocalizedText : Decoder LocalizedText := do
  let mask ← decodeUInt8
  let locale ← decodeIf mask 0x01 decodeByteString []
  let text ← decodeIf mask 0x02 decodeByteString []
  return { locale, text := forms.widen text }

def decodeDateTime : Decoder DateTime := do
  let raw ← decodeInt64
  return { ticks := raw.toInt }

def decodeData4 : Decoder (Vector UInt8 8) := do
  check 8
  let bytes ← repeated decodeUInt8 8
  return .ofFn fun place => bytes.getD place 0

def decodeGuid : Decoder Guid := do
  let data1 ← decodeUInt32
  let data2 ← decodeUInt16
  let data3 ← decodeUInt16
  let data4 ← decodeData4
  return { data1, data2, data3, data4 }

def decodeStatus : Decoder Status := do
  let fullCode ← decodeUInt32
  return { fullCode }

/-- The identifier which follows an encoding byte. -/
def decodeIdentifier (format : UInt8) (withGuid : Bool) : Decoder NodeId :=
  if format = 0x00 then do
    let shortId ← decodeUInt8
    return { identifier := .numeric shortId.toUInt32 }
  else if format = 0x01 then do
    let ns ← decodeUInt8
    let shortId ← decodeUInt16
    return {
      identifier := .numeric shortId.toUInt32
      namespaceIndex := ns.toUInt16 }
  else if format = 0x02 then do
    let ns ← decodeUInt16
    let numericId ← decodeUInt32
    return { identifier := .numeric numericId, namespaceIndex := ns }
  else if format = 0x03 then do
    let ns ← decodeUInt16
    let stringId ← decodeByteString
    return { identifier := .string stringId, namespaceIndex := ns }
  else if format = 0x04 ∧ withGuid then do
    let ns ← decodeUInt16
    let guidId ← decodeGuid
    return { identifier := .guid guidId, namespaceIndex := ns }
  else if format = 0x05 then do
    let ns ← decodeUInt16
    let opaqueId ← decodeByteString
    return { identifier := .byteString opaqueId, namespaceIndex := ns }
  else
    .refuse

def decodeNodeId : Decoder NodeId := do
  let encoding ← decodeUInt8
  decodeIdentifier encoding true

def decodeExpandedNodeId : Decoder ExpandedNodeId := do
  let encoding ← decodeUInt8
  let nodeId ← decodeIdentifier (encoding &&& 0x3f) false
  let namespaceUri ← decodeIf encoding 0x80 decodeByteString []
  let serverIndex ← decodeIf encoding 0x40 decodeUInt32 0
  return { nodeId, namespaceUri, serverIndex }

/-- The body is copied from where it is, and the decoder is replaced by one which
starts behind it. -/
def decodeExtensionBody (length : Int32) : Decoder ByteString :=
  if length < 0 then .refuse else splitOff length.toNatClampNeg

/-- `ReadExtensionObjectValue`. -/
def decodeExtensionObject : Decoder ExtensionObject := do
  let dataTypeId ← decodeExpandedNodeId
  let encoding ← decodeUInt8
  if encoding = 0x00 then
    return { dataTypeId, value := .binary [] }
  else
    let length ← decodeInt32
    let body ← decodeExtensionBody length
    return { dataTypeId, value := .binary body }

/-- The body is taken like a byte string. -/
def decodeDecodedBody (length : Int32) : Decoder ByteString :=
  if length < 0 then .refuse else take length.toNatClampNeg

/-- `Decode` into a `DecodedExtensionObject`. -/
def decodeDecodedExtensionObject : Decoder DecodedExtensionObject := do
  let nodeId ← decodeNodeId
  (NodeId.numericId? nodeId).elim .refuse fun typeId => do
    let encoding ← decodeUInt8
    if encoding = 0x00 then
      return { typeId, encoding }
    else
      let length ← decodeInt32
      let body ← decodeDecodedBody length
      return { typeId, encoding, body }

/-- The count is compared with what remains. -/
def skip (count : ℕ) : Decoder Unit := do
  let left ← size
  if left < count then
    .refuse
  else
    .fetch count fun _ => .done ()

/-! ## Overloads which nest -/

abbrev Calls := Scripts UInt8 Bounded.Nesting.Carrier

variable (calls : Calls)

def decodePresent {α : Type} (mask bit : UInt8) (decode : Decoder α) :
    Decoder (Option α) :=
  decodeIf mask bit
    (do
      let value ← decode
      return some value)
    none

def diagnosticInfoBody : Decoder DiagnosticInfo := do
  let mask ← decodeUInt8
  let symbolicId ← decodePresent mask 0x01 decodeInt32
  let namespaceUri ← decodePresent mask 0x02 decodeInt32
  let locale ← decodePresent mask 0x08 decodeInt32
  let localizedText ← decodePresent mask 0x04 decodeInt32
  let additionalInfo ← decodePresent mask 0x10 decodeByteString
  let innerStatusCode ← decodePresent mask 0x20 decodeStatus
  let innerDiagnosticInfo ← decodePresent mask 0x40 (calls .diagnosticInfo)
  return .mk symbolicId namespaceUri locale localizedText additionalInfo
    innerStatusCode innerDiagnosticInfo

def dataValueBody : Decoder DataValue := do
  let mask ← decodeUInt8
  if mask &&& 0xc0 ≠ 0 then
    .refuse
  else
    let value ← decodeIf mask 0x01 (calls .variant) .null
    let status ← decodeIf mask 0x02 decodeStatus .good
    let sourceTimestamp ← decodeIf mask 0x04 decodeDateTime {}
    let _ ← decodeIf mask 0x10 decodeUInt16 0
    let serverTimestamp ← decodeIf mask 0x08 decodeDateTime {}
    let _ ← decodeIf mask 0x20 decodeUInt16 0
    return {
      value
      qualifier := 0
      sourceTimestamp
      serverTimestamp
      statusCode := status.code }

/-- `DecodeElement`. -/
def decodeElement : (type : PlainType) → Decoder type.Carrier
  | .empty => return ()
  | .bool => decodeBool
  | .int8 => do
      let raw ← decodeUInt8
      return raw.toInt8
  | .uint8 => decodeUInt8
  | .int16 => do
      let raw ← decodeUInt16
      return raw.toInt16
  | .uint16 => decodeUInt16
  | .int32 => decodeInt32
  | .uint32 => decodeUInt32
  | .int64 => decodeInt64
  | .uint64 => decodeUInt64
  | .float => decodeFloat forms
  | .double => decodeDouble forms
  | .string => decodeByteString
  | .dateTime => decodeDateTime
  | .guid => decodeGuid
  | .byteString => decodeByteString
  | .xmlElement => decodeByteString
  | .nodeId => decodeNodeId
  | .expandedNodeId => decodeExpandedNodeId
  | .statusCode => decodeStatus
  | .qualifiedName => decodeQualifiedName
  | .localizedText => decodeLocalizedText forms
  | .extensionObject => decodeExtensionObject
  | .diagnosticInfo => calls .diagnosticInfo

/-- `ReadArray`. -/
def decodeArray {α : Type} (element : Decoder α) : Decoder (List α) := do
  let count ← decodeInt32
  if count < 0 then
    .refuse
  else
    let left ← size
    if left < count.toNatClampNeg then
      .refuse
    else
      repeated element count.toNatClampNeg

def decodeNullArray : Decoder (List Unit) := do
  let count ← decodeInt32
  if count < 0 ∨ Bounded.maxNullArrayElements < count then
    .refuse
  else
    return List.replicate count.toNatClampNeg ()

def decodeShared {α : Type} (decode : Decoder α) : Decoder (Option α) := do
  let value ← decode
  return some value

def decodeVariantArray (type : BuiltInType) : Decoder Variant :=
  match type with
  | .plain .empty => do
      let elements ← decodeNullArray
      return .array .empty elements
  | .plain type => do
      let elements ← decodeArray (decodeElement forms calls type)
      return .array type elements
  | .dataValue => do
      let elements ← decodeArray (decodeShared (calls .dataValue))
      return .dataValueArray elements
  | .variant => do
      let elements ← decodeArray (calls .variant)
      return .variantArray elements

def decodeVariantScalar (type : BuiltInType) : Decoder Variant :=
  match type with
  | .plain type => do
      let value ← decodeElement forms calls type
      return .scalar type value
  | .dataValue => do
      let value ← decodeShared (calls .dataValue)
      return .dataValue value
  | .variant => do
      let value ← decodeShared (calls .variant)
      return .variant value

def variantBody : Decoder Variant := do
  let encodingMask ← decodeUInt8
  if encodingMask &&& 0x40 ≠ 0 then
    .refuse
  else
    (BuiltInType.ofId (encodingMask &&& 0x3f)).elim .refuse fun type =>
      if encodingMask &&& 0x80 ≠ 0 then decodeVariantArray forms calls type
      else decodeVariantScalar forms calls type

def body (calls : Calls) : Calls
  | .variant => variantBody forms calls
  | .dataValue => dataValueBody calls
  | .diagnosticInfo => diagnosticInfoBody calls

def decodeVariant : Decoder Variant := Scripts.nested (body forms) .variant

def decodeDataValue : Decoder DataValue := Scripts.nested (body forms) .dataValue

def decodeDiagnosticInfo : Decoder DiagnosticInfo :=
  Scripts.nested (body forms) .diagnosticInfo

/-! ## The scripts as scanners -/

@[simp] theorem scan_number {α : Type} (width : ℕ) (make : ℕ → α) :
    (decodeNumber width make).scan = Bounded.decodeNumber width make := by
  simp [decodeNumber, Bounded.decodeNumber]

@[simp] theorem scan_uInt8 : decodeUInt8.scan = Bounded.decodeUInt8 :=
  scan_number 1 _

@[simp] theorem scan_uInt16 : decodeUInt16.scan = Bounded.decodeUInt16 :=
  scan_number 2 _

@[simp] theorem scan_uInt32 : decodeUInt32.scan = Bounded.decodeUInt32 :=
  scan_number 4 _

@[simp] theorem scan_bool : decodeBool.scan = Bounded.decodeBool := by
  simp [decodeBool, Bounded.decodeBool]

@[simp] theorem scan_int32 : decodeInt32.scan = Bounded.decodeInt32 := by
  simp [decodeInt32, Bounded.decodeInt32]

@[simp] theorem scan_int64 : decodeInt64.scan = Bounded.decodeInt64 :=
  scan_number 8 _

@[simp] theorem scan_uInt64 : decodeUInt64.scan = Bounded.decodeUInt64 := by
  simp [decodeUInt64, Bounded.decodeUInt64]

@[simp] theorem scan_float : (decodeFloat forms).scan = Bounded.decodeFloat forms := by
  simp [decodeFloat, Bounded.decodeFloat]

@[simp] theorem scan_double :
    (decodeDouble forms).scan = Bounded.decodeDouble forms := by
  simp [decodeDouble, Bounded.decodeDouble]

@[simp] theorem scan_byteString :
    decodeByteString.scan = Bounded.decodeByteString := by
  simp [decodeByteString, Bounded.decodeByteString]

@[simp] theorem scan_decodeIf {α : Type} (mask bit : UInt8) (decode : Decoder α)
    (absent : α) :
    (decodeIf mask bit decode absent).scan =
      Bounded.decodeIf mask bit decode.scan absent := by
  simp [decodeIf, Bounded.decodeIf]

@[simp] theorem scan_qualifiedName :
    decodeQualifiedName.scan = Bounded.decodeQualifiedName := by
  simp [decodeQualifiedName, Bounded.decodeQualifiedName]

@[simp] theorem scan_localizedText :
    (decodeLocalizedText forms).scan = Bounded.decodeLocalizedText forms := by
  simp [decodeLocalizedText, Bounded.decodeLocalizedText]

@[simp] theorem scan_dateTime : decodeDateTime.scan = Bounded.decodeDateTime := by
  simp [decodeDateTime, Bounded.decodeDateTime]

@[simp] theorem scan_data4 : decodeData4.scan = Bounded.decodeData4 := by
  simp [decodeData4, Bounded.decodeData4]

@[simp] theorem scan_guid : decodeGuid.scan = Bounded.decodeGuid := by
  simp [decodeGuid, Bounded.decodeGuid]

@[simp] theorem scan_status : decodeStatus.scan = Bounded.decodeStatus := by
  simp [decodeStatus, Bounded.decodeStatus]

@[simp] theorem scan_identifier (format : UInt8) (withGuid : Bool) :
    (decodeIdentifier format withGuid).scan =
      Bounded.decodeIdentifier format withGuid := by
  simp only [decodeIdentifier, Bounded.decodeIdentifier, scan_ite, scan_bind, scan_pure,
    scan_refuse, scan_uInt8, scan_uInt16, scan_uInt32, scan_byteString, scan_guid]

@[simp] theorem scan_nodeId : decodeNodeId.scan = Bounded.decodeNodeId := by
  simp [decodeNodeId, Bounded.decodeNodeId]

@[simp] theorem scan_expandedNodeId :
    decodeExpandedNodeId.scan = Bounded.decodeExpandedNodeId := by
  simp [decodeExpandedNodeId, Bounded.decodeExpandedNodeId]

@[simp] theorem scan_extensionBody (length : Int32) :
    (decodeExtensionBody length).scan = Bounded.decodeExtensionBody length := by
  simp [decodeExtensionBody, Bounded.decodeExtensionBody]

@[simp] theorem scan_extensionObject :
    decodeExtensionObject.scan = Bounded.decodeExtensionObject := by
  simp [decodeExtensionObject, Bounded.decodeExtensionObject]

theorem follows_decodedBody {α : Type} (length : Int32) (make : ByteString → α) :
    ((decodeDecodedBody length).scan.bind fun body => Scanner.pure (make body)).Follows
      (do
        if length < 0 then
          failure
        let body ← Reader.take length.toNatClampNeg
        return make body) := by
  by_cases hnegative : length < 0
  · simp only [decodeDecodedBody, if_pos hnegative]
    exact .refuse
  · simp only [decodeDecodedBody, if_neg hnegative, scan_take]
    exact (Scanner.Follows.take (Bounded.toNatClampNeg_lt length)).bind fun _ => .pure _

/-- The sibling of `ReadExtensionObjectValue`, over a cursor. -/
theorem follows_decodedExtensionObject :
    decodeDecodedExtensionObject.scan.Follows Binary.decodeExtensionObject := by
  rw [decodeDecodedExtensionObject, scan_bind, scan_nodeId]
  refine Bounded.follows_nodeId.bind fun nodeId => ?_
  cases NodeId.numericId? nodeId with
  | none => exact .refuse
  | some typeId =>
      rw [Option.elim_some, scan_bind, scan_uInt8]
      refine Bounded.follows_uInt8.bind fun encoding => ?_
      rw [scan_ite, scan_bind, scan_int32]
      refine .ite (.pure _) (Bounded.follows_int32.bind fun length => ?_)
      rw [scan_bind]
      exact follows_decodedBody length _

section Calls

variable {calls : Calls}

theorem scan_present {α : Type} (mask bit : UInt8) (decode : Decoder α) :
    (decodePresent mask bit decode).scan =
      Bounded.decodePresent mask bit decode.scan := by
  simp [decodePresent, Bounded.decodePresent]

theorem scan_diagnosticInfoBody :
    (diagnosticInfoBody calls).scan =
      Bounded.diagnosticInfoBody fun nesting => (calls nesting).scan := by
  simp [diagnosticInfoBody, Bounded.diagnosticInfoBody, scan_present]

theorem scan_dataValueBody :
    (dataValueBody calls).scan =
      Bounded.dataValueBody fun nesting => (calls nesting).scan := by
  simp [dataValueBody, Bounded.dataValueBody]

theorem scan_element (type : PlainType) :
    (decodeElement forms calls type).scan =
      Bounded.decodeElement forms (fun nesting => (calls nesting).scan) type := by
  cases type with
  | empty => rfl
  | bool => exact scan_bool
  | int8 =>
      change (decodeUInt8 >>= fun raw => pure raw.toInt8).scan = _
      rw [scan_bind, scan_uInt8]
      rfl
  | uint8 => exact scan_uInt8
  | int16 =>
      change (decodeUInt16 >>= fun raw => pure raw.toInt16).scan = _
      rw [scan_bind, scan_uInt16]
      rfl
  | uint16 => exact scan_uInt16
  | int32 => exact scan_int32
  | uint32 => exact scan_uInt32
  | int64 => exact scan_int64
  | uint64 => exact scan_uInt64
  | float => exact scan_float forms
  | double => exact scan_double forms
  | string => exact scan_byteString
  | dateTime => exact scan_dateTime
  | guid => exact scan_guid
  | byteString => exact scan_byteString
  | xmlElement => exact scan_byteString
  | nodeId => exact scan_nodeId
  | expandedNodeId => exact scan_expandedNodeId
  | statusCode => exact scan_status
  | qualifiedName => exact scan_qualifiedName
  | localizedText => exact scan_localizedText forms
  | extensionObject => exact scan_extensionObject
  | diagnosticInfo => rfl

theorem scan_array {α : Type} (element : Decoder α) :
    (decodeArray element).scan = Bounded.decodeArray element.scan := by
  simp [decodeArray, Bounded.decodeArray]

theorem scan_nullArray : decodeNullArray.scan = Bounded.decodeNullArray := by
  simp [decodeNullArray, Bounded.decodeNullArray]

theorem scan_shared {α : Type} (decode : Decoder α) :
    (decodeShared decode).scan = Bounded.decodeShared decode.scan := by
  simp [decodeShared, Bounded.decodeShared]

theorem scan_variantArray (type : BuiltInType) :
    (decodeVariantArray forms calls type).scan =
      Bounded.decodeVariantArray forms (fun nesting => (calls nesting).scan) type := by
  unfold decodeVariantArray Bounded.decodeVariantArray
  split <;> simp [scan_nullArray, scan_array, scan_shared, scan_element]

theorem scan_variantScalar (type : BuiltInType) :
    (decodeVariantScalar forms calls type).scan =
      Bounded.decodeVariantScalar forms (fun nesting => (calls nesting).scan) type := by
  cases type <;>
    simp [decodeVariantScalar, Bounded.decodeVariantScalar, scan_shared, scan_element]

theorem scan_variantBody :
    (variantBody forms calls).scan =
      Bounded.variantBody forms fun nesting => (calls nesting).scan := by
  rw [variantBody, Bounded.variantBody, scan_bind, scan_uInt8]
  congr 1
  funext mask
  rw [scan_ite]
  cases BuiltInType.ofId (mask &&& 0x3f) with
  | none => rfl
  | some type =>
      rw [Option.elim_some, Option.elim_some, scan_ite, scan_variantArray,
        scan_variantScalar]
      rfl

end Calls

theorem scan_body (calls : Calls) (nesting : Bounded.Nesting) :
    (body forms calls nesting).scan =
      Bounded.body forms (fun other => (calls other).scan) nesting := by
  cases nesting with
  | variant => exact scan_variantBody forms
  | dataValue => exact scan_dataValueBody
  | diagnosticInfo => exact scan_diagnosticInfoBody

theorem scan_variant : (decodeVariant forms).scan = Bounded.decodeVariant forms :=
  Scripts.scan_nested (scan_body forms) .variant

theorem scan_dataValue :
    (decodeDataValue forms).scan = Bounded.decodeDataValue forms :=
  Scripts.scan_nested (scan_body forms) .dataValue

theorem scan_diagnosticInfo :
    (decodeDiagnosticInfo forms).scan = Bounded.decodeDiagnosticInfo forms :=
  Scripts.scan_nested (scan_body forms) .diagnosticInfo

end Scripted
end Binary
end OpcuaStack
