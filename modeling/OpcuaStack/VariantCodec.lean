import OpcuaStack.BinaryCodec
import OpcuaStack.BoundedReading

/-!
# The binary encoding of variants

The part of `codec_utils` which carries values of dynamic type.  An encoder may
throw, and then writes nothing that is sent.  A decoder looks through a window; the
three which nest in each other are one family, and its calls are a parameter of the
body that makes them.
-/

namespace OpcuaStack
namespace Binary

/-- How floating-point numbers and texts are held in bytes. -/
structure Representations where
  float : Double → Vector UInt8 4
  ofFloat : ByteString → Double
  double : Double → Vector UInt8 8
  ofDouble : ByteString → Double
  /-- `UtfConvert<char>`. -/
  narrow : WideText → ByteText
  /-- `UtfConvert<char16_t>`. -/
  widen : ByteText → WideText

variable (forms : Representations)

/-! ## Encoding leaves -/

def encodeBool (value : Bool) : ByteString :=
  encodeUInt8 (if value then 1 else 0)

def encodeQualifiedName (value : QualifiedName) : ByteString :=
  encodeUInt16 value.namespaceIndex ++ encodeByteString value.name

/-- A bit of an encoding mask, set for a part which is written. -/
def maskBit (present : Bool) (bit : UInt8) : UInt8 := if present then bit else 0

def encodeLocalizedText (value : LocalizedText) : ByteString :=
  let mask :=
    maskBit (!value.locale.isEmpty) 0x01 ||| maskBit (!value.text.isEmpty) 0x02
  encodeUInt8 mask ++
    ((if mask &&& 0x01 ≠ 0 then encodeByteString value.locale else []) ++
      (if mask &&& 0x02 ≠ 0 then encodeByteString (forms.narrow value.text)
        else []))

def encodeDateTime (value : DateTime) : ByteString :=
  encodeInt64 (Int64.ofInt value.ticks)

def encodeStatus (value : Status) : ByteString := encodeUInt32 value.fullCode

/-- The format bits of an `ExpandedNodeId`; a Guid falls into the last branch. -/
def expandedNodeIdFormat (nodeId : NodeId) : UInt8 :=
  match nodeId.identifier with
  | .numeric id =>
      if nodeId.namespaceIndex = 0 ∧ id ≤ 0xff then 0x00
      else if nodeId.namespaceIndex ≤ 0xff ∧ id ≤ 0xffff then 0x01
      else 0x02
  | .string _ => 0x03
  | .guid _ | .byteString _ => 0x05

/-- What follows the format byte of an `ExpandedNodeId`.  `opaque_id` throws where a
Guid is held. -/
def encodeExpandedBody (nodeId : NodeId) : Option ByteString :=
  match nodeId.identifier with
  | .numeric id =>
      if nodeId.namespaceIndex = 0 ∧ id ≤ 0xff then
        some (encodeUInt8 id.toUInt8)
      else if nodeId.namespaceIndex ≤ 0xff ∧ id ≤ 0xffff then
        some (encodeUInt8 nodeId.namespaceIndex.toUInt8 ++
          encodeUInt16 id.toUInt16)
      else
        some (encodeUInt16 nodeId.namespaceIndex ++ encodeUInt32 id)
  | .string id =>
      some (encodeUInt16 nodeId.namespaceIndex ++ encodeByteString id)
  | .guid _ => none
  | .byteString id =>
      some (encodeUInt16 nodeId.namespaceIndex ++ encodeByteString id)

def encodeExpandedNodeId (value : ExpandedNodeId) : Option ByteString :=
  let encoding :=
    maskBit (!value.namespaceUri.isEmpty) 0x80 |||
      maskBit (value.serverIndex != 0) 0x40 ||| expandedNodeIdFormat value.nodeId
  joined (some (encodeUInt8 encoding))
    (joined (encodeExpandedBody value.nodeId)
      (some
        ((if encoding &&& 0x80 ≠ 0 then encodeByteString value.namespaceUri
            else []) ++
          (if encoding &&& 0x40 ≠ 0 then encodeUInt32 value.serverIndex
            else []))))

/-- `AppendExtensionObjectValue`: only a body of bytes is written. -/
def encodeExtensionObject (value : ExtensionObject) : Option ByteString :=
  joined (encodeExpandedNodeId value.dataTypeId)
    (some
      (match value.value with
      | .binary body =>
          encodeUInt8 0x01 ++ (encodeInt32 (Int32.ofNat body.length) ++ body)
      | .empty | .json _ => encodeUInt8 0x00))

/-- A field which is written if it is there. -/
def encodePresent {α : Type} (encode : α → ByteString) (field : Option α) :
    ByteString :=
  field.elim [] encode

/-- `Locale` has the higher bit and is written before `LocalizedText`. -/
def encodeDiagnosticInfo : DiagnosticInfo → ByteString
  | .mk symbolicId namespaceUri locale localizedText additionalInfo
      innerStatusCode innerDiagnosticInfo =>
      let mask :=
        maskBit symbolicId.isSome 0x01 ||| maskBit namespaceUri.isSome 0x02 |||
          maskBit localizedText.isSome 0x04 ||| maskBit locale.isSome 0x08 |||
          maskBit additionalInfo.isSome 0x10 |||
          maskBit innerStatusCode.isSome 0x20 |||
          maskBit innerDiagnosticInfo.isSome 0x40
      encodeUInt8 mask ++ (encodePresent encodeInt32 symbolicId ++
        (encodePresent encodeInt32 namespaceUri ++
        (encodePresent encodeInt32 locale ++
        (encodePresent encodeInt32 localizedText ++
        (encodePresent encodeByteString additionalInfo ++
        (encodePresent encodeStatus innerStatusCode ++
          (match innerDiagnosticInfo with
          | none => []
          | some inner => encodeDiagnosticInfo inner)))))))

/-! ## Encoding variants -/

/-- `Variant::Type`: a plain built-in type or one of the two which nest. -/
inductive BuiltInType where
  | plain (type : PlainType)
  | dataValue
  | variant
deriving DecidableEq

def PlainType.id : PlainType → UInt8
  | .empty => 0
  | .bool => 1
  | .int8 => 2
  | .uint8 => 3
  | .int16 => 4
  | .uint16 => 5
  | .int32 => 6
  | .uint32 => 7
  | .int64 => 8
  | .uint64 => 9
  | .float => 10
  | .double => 11
  | .string => 12
  | .dateTime => 13
  | .guid => 14
  | .byteString => 15
  | .xmlElement => 16
  | .nodeId => 17
  | .expandedNodeId => 18
  | .statusCode => 19
  | .qualifiedName => 20
  | .localizedText => 21
  | .extensionObject => 22
  | .diagnosticInfo => 25

def BuiltInType.id : BuiltInType → UInt8
  | .plain type => PlainType.id type
  | .dataValue => 23
  | .variant => 24

/-- The enumerators of `Variant::Type` below `COUNT`. -/
def BuiltInType.all : List BuiltInType :=
  [.plain .empty, .plain .bool, .plain .int8, .plain .uint8, .plain .int16,
    .plain .uint16, .plain .int32, .plain .uint32, .plain .int64,
    .plain .uint64, .plain .float, .plain .double, .plain .string,
    .plain .dateTime, .plain .guid, .plain .byteString, .plain .xmlElement,
    .plain .nodeId, .plain .expandedNodeId, .plain .statusCode,
    .plain .qualifiedName, .plain .localizedText, .plain .extensionObject,
    .dataValue, .variant, .plain .diagnosticInfo]

def BuiltInType.ofNumber (number : ℕ) : Option BuiltInType :=
  BuiltInType.all[number]?

def BuiltInType.ofId (id : UInt8) : Option BuiltInType :=
  BuiltInType.ofNumber id.toNat

/-- `EncodeElement`. -/
def encodeElement : (type : PlainType) → type.Carrier → Option ByteString
  | .empty, _ => some []
  | .bool, (value : Bool) => some (encodeBool value)
  | .int8, (value : Int8) => some (encodeUInt8 value.toUInt8)
  | .uint8, (value : UInt8) => some (encodeUInt8 value)
  | .int16, (value : Int16) => some (encodeUInt16 value.toUInt16)
  | .uint16, (value : UInt16) => some (encodeUInt16 value)
  | .int32, (value : Int32) => some (encodeInt32 value)
  | .uint32, (value : UInt32) => some (encodeUInt32 value)
  | .int64, (value : Int64) => some (encodeInt64 value)
  | .uint64, (value : UInt64) => some (encodeUInt64 value)
  | .float, (value : Double) => some (forms.float value).toList
  | .double, (value : Double) => some (forms.double value).toList
  | .string, (value : ByteText) => some (encodeByteString value)
  | .dateTime, (value : DateTime) => some (encodeDateTime value)
  | .guid, (value : Guid) => some (encodeGuid value)
  | .byteString, (value : ByteString) => some (encodeByteString value)
  | .xmlElement, (value : ByteText) => some (encodeByteString value)
  | .nodeId, (value : NodeId) => some (encodeNodeId value)
  | .expandedNodeId, (value : ExpandedNodeId) => encodeExpandedNodeId value
  | .statusCode, (value : Status) => some (encodeStatus value)
  | .qualifiedName, (value : QualifiedName) => some (encodeQualifiedName value)
  | .localizedText, (value : LocalizedText) =>
      some (encodeLocalizedText forms value)
  | .extensionObject, (value : ExtensionObject) => encodeExtensionObject value
  | .diagnosticInfo, (value : DiagnosticInfo) =>
      some (encodeDiagnosticInfo value)

/-- `value.type()`; an array has the type of its elements. -/
def variantType : Variant → BuiltInType
  | .scalar type _ | .array type _ => .plain type
  | .dataValue _ | .dataValueArray _ => .dataValue
  | .variant _ | .variantArray _ => .variant

/-- `is_null`, of an array of null elements too. -/
def variantIsNull (value : Variant) : Bool :=
  variantType value == .plain .empty

/-- `IsGood(StatusCode)`. -/
def codeIsGood (code : StatusCode) : Bool := code.raw >>> 14 == 0

/-- The mask and the count of an array. -/
def encodeArrayHead (type : BuiltInType) (count : ℕ) : ByteString :=
  encodeUInt8 (type.id ||| 0x80) ++ encodeInt32 (Int32.ofNat count)

mutual

def encodeVariant : Variant → Option ByteString
  | .scalar type value =>
      joined (some (encodeUInt8 (BuiltInType.plain type).id))
        (encodeElement forms type value)
  | .dataValue value =>
      joined (some (encodeUInt8 BuiltInType.dataValue.id))
        (encodeSharedDataValue value)
  | .variant value =>
      joined (some (encodeUInt8 BuiltInType.variant.id))
        (encodeSharedVariant value)
  | .array type elements =>
      joined (some (encodeArrayHead (.plain type) elements.length))
        (joinedMap (encodeElement forms type) elements)
  | .dataValueArray elements =>
      joined (some (encodeArrayHead .dataValue elements.length))
        (encodeSharedDataValues elements)
  | .variantArray elements =>
      joined (some (encodeArrayHead .variant elements.length))
        (encodeVariants elements)

def encodeDataValue : DataValue → Option ByteString
  | ⟨value, _, sourceTimestamp, serverTimestamp, statusCode⟩ =>
      let mask :=
        maskBit (!variantIsNull value) 0x01 ||| maskBit (!codeIsGood statusCode) 0x02 |||
          maskBit (sourceTimestamp.ticks != 0) 0x04 |||
          maskBit (serverTimestamp.ticks != 0) 0x08
      joined (some (encodeUInt8 mask))
        (joined (if mask &&& 0x01 ≠ 0 then encodeVariant value else some [])
          (some
            ((if mask &&& 0x02 ≠ 0 then encodeStatus (Status.ofCode statusCode)
                else []) ++
              ((if mask &&& 0x04 ≠ 0 then encodeDateTime sourceTimestamp
                  else []) ++
                (if mask &&& 0x08 ≠ 0 then encodeDateTime serverTimestamp
                  else [])))))

/-- A null pointer is written as an empty DataValue. -/
def encodeSharedDataValue : Option DataValue → Option ByteString
  | none => some (encodeUInt8 0)
  | some value => encodeDataValue value

/-- A null pointer is written as a null Variant. -/
def encodeSharedVariant : Option Variant → Option ByteString
  | none => some (encodeUInt8 0)
  | some value => encodeVariant value

def encodeSharedDataValues : List (Option DataValue) → Option ByteString
  | [] => some []
  | value :: values =>
      joined (encodeSharedDataValue value) (encodeSharedDataValues values)

def encodeVariants : List Variant → Option ByteString
  | [] => some []
  | value :: values => joined (encodeVariant value) (encodeVariants values)

end

/-! ## Decoding leaves -/

namespace Bounded

open Scanner

abbrev Decoder := Scanner UInt8

/-- Bytes which are checked to be there, read as a number. -/
def decodeNumber {α : Type} (width : ℕ) (make : ℕ → α) : Decoder α := do
  let bytes ← take width
  return make (ofLittleEndian bytes)

def decodeUInt8 : Decoder UInt8 := decodeNumber 1 UInt8.ofNat

def decodeUInt16 : Decoder UInt16 := decodeNumber 2 UInt16.ofNat

def decodeUInt32 : Decoder UInt32 := decodeNumber 4 UInt32.ofNat

def decodeBool : Decoder Bool := do
  let raw ← decodeUInt8
  return raw ≠ 0

def decodeInt32 : Decoder Int32 := do
  let raw ← decodeUInt32
  return raw.toInt32

def decodeInt64 : Decoder Int64 :=
  decodeNumber 8 fun raw => (UInt64.ofNat raw).toInt64

def decodeUInt64 : Decoder UInt64 := do
  let raw ← decodeInt64
  return raw.toUInt64

def decodeFloat : Decoder Double := do
  let raw ← take 4
  return forms.ofFloat raw

def decodeDouble : Decoder Double := do
  let raw ← take 8
  return forms.ofDouble raw

/-- `Decode` into a `String` or a `ByteString`. -/
def decodeByteString : Decoder ByteString := do
  let length ← decodeInt32
  if length < 0 then
    return []
  else
    take length.toNatClampNeg

/-- A part which is read if its bit is set. -/
def decodeIf {α : Type} (mask bit : UInt8) (decode : Decoder α) (absent : α) :
    Decoder α :=
  if mask &&& bit ≠ 0 then decode else return absent

def decodeQualifiedName : Decoder QualifiedName := do
  let namespaceIndex ← decodeUInt16
  let name ← decodeByteString
  return { name, namespaceIndex }

def decodeLocalizedText : Decoder LocalizedText := do
  let mask ← decodeUInt8
  let locale ← decodeIf mask 0x01 decodeByteString []
  let text ← decodeIf mask 0x02 decodeByteString []
  return { locale, text := forms.widen text }

def decodeDateTime : Decoder DateTime := do
  let raw ← decodeInt64
  return { ticks := raw.toInt }

/-- The last bytes of a Guid are checked together and read one by one. -/
def decodeData4 : Decoder (Vector UInt8 8) := do
  require 8
  let bytes ← repeated decodeUInt8 8
  return .ofFn fun place => bytes.getD place 0

def decodeGuid : Decoder Guid := do
  let data1 ← decodeUInt32
  let data2 ← decodeUInt16
  let data3 ← decodeUInt16
  let data4 ← decodeData4
  return { data1, data2, data3, data4 }

def decodeStatus : Decoder Status := do
  let fullCode ← decodeUInt32
  return { fullCode }

/-- The identifier which follows an encoding byte; an `ExpandedNodeId` knows no
Guid. -/
def decodeIdentifier (format : UInt8) (withGuid : Bool) : Decoder NodeId :=
  if format = 0x00 then do
    let shortId ← decodeUInt8
    return { identifier := .numeric shortId.toUInt32 }
  else if format = 0x01 then do
    let ns ← decodeUInt8
    let shortId ← decodeUInt16
    return {
      identifier := .numeric shortId.toUInt32
      namespaceIndex := ns.toUInt16 }
  else if format = 0x02 then do
    let ns ← decodeUInt16
    let numericId ← decodeUInt32
    return { identifier := .numeric numericId, namespaceIndex := ns }
  else if format = 0x03 then do
    let ns ← decodeUInt16
    let stringId ← decodeByteString
    return { identifier := .string stringId, namespaceIndex := ns }
  else if format = 0x04 ∧ withGuid then do
    let ns ← decodeUInt16
    let guidId ← decodeGuid
    return { identifier := .guid guidId, namespaceIndex := ns }
  else if format = 0x05 then do
    let ns ← decodeUInt16
    let opaqueId ← decodeByteString
    return { identifier := .byteString opaqueId, namespaceIndex := ns }
  else
    refuse

def decodeNodeId : Decoder NodeId := do
  let encoding ← decodeUInt8
  decodeIdentifier encoding true

def decodeExpandedNodeId : Decoder ExpandedNodeId := do
  let encoding ← decodeUInt8
  let nodeId ← decodeIdentifier (encoding &&& 0x3f) false
  let namespaceUri ← decodeIf encoding 0x80 decodeByteString []
  let serverIndex ← decodeIf encoding 0x40 decodeUInt32 0
  return { nodeId, namespaceUri, serverIndex }

/-- The body is copied from where it is, and the decoder is replaced by one which
starts behind it. -/
def decodeExtensionBody (length : Int32) : Decoder ByteString :=
  if length < 0 then refuse else splitOff length.toNatClampNeg

/-- `ReadExtensionObjectValue`. -/
def decodeExtensionObject : Decoder ExtensionObject := do
  let dataTypeId ← decodeExpandedNodeId
  let encoding ← decodeUInt8
  if encoding = 0x00 then
    return { dataTypeId, value := .binary [] }
  else
    let length ← decodeInt32
    let body ← decodeExtensionBody length
    return { dataTypeId, value := .binary body }

/-! ## Decoding what nests -/

/-- The decoders which call each other. -/
inductive Nesting where
  | variant
  | dataValue
  | diagnosticInfo

abbrev Nesting.Carrier : Nesting → Type
  | .variant => Variant
  | .dataValue => DataValue
  | .diagnosticInfo => DiagnosticInfo

abbrev Calls := Scanners UInt8 Nesting.Carrier

variable (calls : Calls)

/-- A field which is read if its bit is set. -/
def decodePresent {α : Type} (mask bit : UInt8) (decode : Decoder α) :
    Decoder (Option α) :=
  decodeIf mask bit
    (do
      let value ← decode
      return some value)
    none

def diagnosticInfoBody : Decoder DiagnosticInfo := do
  let mask ← decodeUInt8
  let symbolicId ← decodePresent mask 0x01 decodeInt32
  let namespaceUri ← decodePresent mask 0x02 decodeInt32
  let locale ← decodePresent mask 0x08 decodeInt32
  let localizedText ← decodePresent mask 0x04 decodeInt32
  let additionalInfo ← decodePresent mask 0x10 decodeByteString
  let innerStatusCode ← decodePresent mask 0x20 decodeStatus
  let innerDiagnosticInfo ← decodePresent mask 0x40 (calls .diagnosticInfo)
  return .mk symbolicId namespaceUri locale localizedText additionalInfo
    innerStatusCode innerDiagnosticInfo

/-- Picoseconds are read and dropped. -/
def dataValueBody : Decoder DataValue := do
  let mask ← decodeUInt8
  if mask &&& 0xc0 ≠ 0 then
    refuse
  else
    let value ← decodeIf mask 0x01 (calls .variant) .null
    let status ← decodeIf mask 0x02 decodeStatus .good
    let sourceTimestamp ← decodeIf mask 0x04 decodeDateTime {}
    let _ ← decodeIf mask 0x10 decodeUInt16 0
    let serverTimestamp ← decodeIf mask 0x08 decodeDateTime {}
    let _ ← decodeIf mask 0x20 decodeUInt16 0
    return {
      value
      qualifier := 0
      sourceTimestamp
      serverTimestamp
      statusCode := status.code }

/-- `DecodeElement`. -/
def decodeElement : (type : PlainType) → Decoder type.Carrier
  | .empty => return ()
  | .bool => decodeBool
  | .int8 => do
      let raw ← decodeUInt8
      return raw.toInt8
  | .uint8 => decodeUInt8
  | .int16 => do
      let raw ← decodeUInt16
      return raw.toInt16
  | .uint16 => decodeUInt16
  | .int32 => decodeInt32
  | .uint32 => decodeUInt32
  | .int64 => decodeInt64
  | .uint64 => decodeUInt64
  | .float => decodeFloat forms
  | .double => decodeDouble forms
  | .string => decodeByteString
  | .dateTime => decodeDateTime
  | .guid => decodeGuid
  | .byteString => decodeByteString
  | .xmlElement => decodeByteString
  | .nodeId => decodeNodeId
  | .expandedNodeId => decodeExpandedNodeId
  | .statusCode => decodeStatus
  | .qualifiedName => decodeQualifiedName
  | .localizedText => decodeLocalizedText forms
  | .extensionObject => decodeExtensionObject
  | .diagnosticInfo => calls .diagnosticInfo

/-- `ReadArray`: no more elements than bytes are left. -/
def decodeArray {α : Type} (element : Decoder α) : Decoder (List α) := do
  let count ← decodeInt32
  if count < 0 then
    refuse
  else
    let left ← size
    if left < count.toNatClampNeg then
      refuse
    else
      repeated element count.toNatClampNeg

def maxNullArrayElements : Int32 := (1 : Int32) <<< 24

/-- Null elements take no bytes, so their number is bounded by itself. -/
def decodeNullArray : Decoder (List Unit) := do
  let count ← decodeInt32
  if count < 0 ∨ maxNullArrayElements < count then
    refuse
  else
    return List.replicate count.toNatClampNeg ()

def decodeShared {α : Type} (decode : Decoder α) : Decoder (Option α) := do
  let value ← decode
  return some value

def decodeVariantArray (type : BuiltInType) : Decoder Variant :=
  match type with
  | .plain .empty => do
      let elements ← decodeNullArray
      return .array .empty elements
  | .plain type => do
      let elements ← decodeArray (decodeElement forms calls type)
      return .array type elements
  | .dataValue => do
      let elements ← decodeArray (decodeShared (calls .dataValue))
      return .dataValueArray elements
  | .variant => do
      let elements ← decodeArray (calls .variant)
      return .variantArray elements

def decodeVariantScalar (type : BuiltInType) : Decoder Variant :=
  match type with
  | .plain type => do
      let value ← decodeElement forms calls type
      return .scalar type value
  | .dataValue => do
      let value ← decodeShared (calls .dataValue)
      return .dataValue value
  | .variant => do
      let value ← decodeShared (calls .variant)
      return .variant value

/-- Bit 6 announces a matrix, which is refused. -/
def variantBody : Decoder Variant := do
  let encodingMask ← decodeUInt8
  if encodingMask &&& 0x40 ≠ 0 then
    refuse
  else
    (BuiltInType.ofId (encodingMask &&& 0x3f)).elim refuse fun type =>
      if encodingMask &&& 0x80 ≠ 0 then decodeVariantArray forms calls type
      else decodeVariantScalar forms calls type

def body (calls : Calls) : Calls
  | .variant => variantBody forms calls
  | .dataValue => dataValueBody calls
  | .diagnosticInfo => diagnosticInfoBody calls

def decodeVariant : Decoder Variant := Scanners.nested (body forms) .variant

def decodeDataValue : Decoder DataValue := Scanners.nested (body forms) .dataValue

def decodeDiagnosticInfo : Decoder DiagnosticInfo :=
  Scanners.nested (body forms) .diagnosticInfo

end Bounded
end Binary
end OpcuaStack
