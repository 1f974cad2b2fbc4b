import Mathlib.Data.Rat.Defs
import Mathlib.Tactic

/-!
# Built-in types

The value types of `opcua/types`.  Narrow strings are sequences of bytes and
wide strings are sequences of UTF-16 code units, exactly as `std::string` and
`std::u16string` hold them.  Finite doubles are read as the rational numbers
they denote.
-/

namespace OpcuaStack

/-- `std::string`: a sequence of bytes. -/
abbrev ByteText := List UInt8

/-- `std::u16string`: a sequence of UTF-16 code units. -/
abbrev WideText := List UInt16

abbrev ByteString := List UInt8

def asciiText (name : String) : ByteText :=
  name.toList.map fun character => character.toNat.toUInt8

/-- A finite `double`, read as the rational it denotes. -/
abbrev Double := ℚ

/-! ## Identifiers -/

structure Guid where
  data1 : UInt32 := 0
  data2 : UInt16 := 0
  data3 : UInt16 := 0
  data4 : Vector UInt8 8 := Vector.replicate 8 0
deriving DecidableEq

inductive NodeIdentifier where
  | numeric (id : UInt32)
  | string (id : ByteText)
  | guid (id : Guid)
  | byteString (id : ByteString)
deriving DecidableEq

structure NodeId where
  identifier : NodeIdentifier := .numeric 0
  namespaceIndex : UInt16 := 0
deriving DecidableEq

structure ExpandedNodeId where
  nodeId : NodeId := {}
  namespaceUri : ByteText := []
  serverIndex : UInt32 := 0
deriving DecidableEq

structure QualifiedName where
  name : ByteText := []
  namespaceIndex : UInt16 := 0
deriving DecidableEq

structure LocalizedText where
  locale : ByteText := []
  text : WideText := []
deriving DecidableEq

/-! ## Status codes -/

inductive StatusSeverity where
  | good
  | uncertain
  | bad
  | reserved
deriving DecidableEq, Repr

/-- The two high bits of a status, read as `StatusSeverity`. -/
def StatusSeverity.ofBits (bits : UInt32) : StatusSeverity :=
  if bits = 0 then .good
  else if bits = 1 then .uncertain
  else if bits = 2 then .bad
  else .reserved

/-- `enum class StatusCode : unsigned`.  Codes arriving from elsewhere need not
be among the named enumerators, so the type keeps the raw value. -/
structure StatusCode where
  raw : UInt32
deriving DecidableEq, Repr

namespace StatusCode

/-- `Bad | code`, the form of every enumerator of bad severity. -/
def ofBad (code : UInt32) : StatusCode := ⟨((2 : UInt32) <<< 14) ||| code⟩

def good : StatusCode := ⟨0⟩
def bad : StatusCode := ofBad 0
def badIdentityTokenRejected : StatusCode := ofBad 0x21
def badUserIsAlreadyLoggedOn : StatusCode := ofBad 0x2005
def badServiceUnsupported : StatusCode := ofBad 0x0B
def badSessionIdInvalid : StatusCode := ofBad 0x25
def badNoCommunication : StatusCode := ofBad 0x31
def badSubscriptionIdInvalid : StatusCode := ofBad 0x28
def badContinuationPointInvalid : StatusCode := ofBad 0x4A
def badNoContinuationPoints : StatusCode := ofBad 0x4B
def badTypeMismatch : StatusCode := ofBad 0x74
def badAttributeIdInvalid : StatusCode := ofBad 0x35
def badMonitoredItemIdInvalid : StatusCode := ofBad 0x42
def badMessageNotAvailable : StatusCode := ofBad 0x7B
def badApplicationSignatureInvalid : StatusCode := ofBad 0x58
def badTooManyMonitoredItems : StatusCode := ofBad 0xDB
def badSequenceNumberUnknown : StatusCode := ofBad 0x7A
def badNoSubscription : StatusCode := ofBad 0x79

end StatusCode

/-- `class Status`: the code in the high half, flag bits in the low half. -/
structure Status where
  fullCode : UInt32 := 0
deriving DecidableEq, Repr

namespace Status

def ofCode (code : StatusCode) : Status := ⟨code.raw <<< 16⟩

def good : Status := ofCode .good

def severity (status : Status) : StatusSeverity :=
  StatusSeverity.ofBits (status.fullCode >>> 30)

/-- `operator!`: only bad severity counts as failure. -/
def isBad (status : Status) : Bool := status.severity == .bad

def isGood (status : Status) : Bool := status.severity == .good

def code (status : Status) : StatusCode := ⟨status.fullCode >>> 16⟩

end Status

theorem Status.isBad_ofCode_bad : (Status.ofCode .bad).isBad = true := rfl

/-- `StatusOr<T>`: a value or a status.  The constructor from a status aborts
unless the status is bad, so the error branch carries that fact. -/
inductive StatusOr (α : Type) where
  | ok (value : α)
  | error (status : Status) (hbad : status.isBad = true)

/-! ## Time -/

structure Duration where
  milliseconds : Double := 0
deriving DecidableEq

/-- `class DateTime`: a number of 100 ns ticks held in an `int64_t`. -/
structure DateTime where
  ticks : Int := 0
deriving DecidableEq, Repr

def int64Max : Int := 2 ^ 63 - 1
def int64Min : Int := -2 ^ 63

/-- Conversion of a double to an integer drops the fraction. -/
def Double.truncate (value : Double) : Int := value.num.tdiv value.den

def saturatingTrunc (value : Double) : Int :=
  max int64Min (min int64Max (Double.truncate value))

/-- Integer arithmetic of an `int64_t`, read modulo its width. -/
def wrapInt64 (value : Int) : Int := value.bmod (2 ^ 64)

def Duration.fromMilliseconds (milliseconds : Int) : Duration := ⟨milliseconds⟩

def Duration.inMilliseconds (duration : Duration) : Int :=
  saturatingTrunc duration.milliseconds

/-- `base::time_internal::SaturatedAdd`, on a delta already in ticks. -/
def saturatedAdd (delta value : Int) : Int :=
  max int64Min (min int64Max (delta + value))

def DateTime.add (time : DateTime) (delta : Duration) : DateTime :=
  ⟨saturatedAdd (saturatingTrunc (delta.milliseconds * 10 * 1000)) time.ticks⟩

def DateTime.sub (time other : DateTime) : Duration :=
  ⟨((time.ticks : ℚ) - (other.ticks : ℚ)) / 10 / 1000⟩

/-! ## Variants and data values -/

inductive JsonValue where
  | null
  | bool (value : Bool)
  | int64 (value : Int)
  | uint64 (value : UInt64)
  | double (value : Double)
  | string (value : ByteText)
  | array (elements : List JsonValue)
  | object (members : List (ByteText × JsonValue))

/-- What the `std::any` of an ExtensionObject holds: nothing, a binary body, or
the JSON form a text transport left there. -/
inductive ExtensionBody where
  | empty
  | binary (bytes : ByteString)
  | json (value : JsonValue)

structure ExtensionObject where
  dataTypeId : ExpandedNodeId := {}
  value : ExtensionBody := .empty

inductive DiagnosticInfo where
  | mk (symbolicId namespaceUri locale localizedText : Option Int32)
      (additionalInfo : Option ByteText) (innerStatusCode : Option Status)
      (innerDiagnosticInfo : Option DiagnosticInfo)

/-- The built-in types of `Variant::Type` which do not themselves contain
variants. -/
inductive PlainType where
  | empty | bool | int8 | uint8 | int16 | uint16 | int32 | uint32 | int64
  | uint64 | float | double | string | dateTime | guid | byteString
  | xmlElement | nodeId | expandedNodeId | statusCode | qualifiedName
  | localizedText | extensionObject | diagnosticInfo
deriving DecidableEq, Repr

/-- The C++ type of one value of a plain built-in type. -/
def PlainType.Carrier : PlainType → Type
  | .empty => Unit
  | .bool => Bool
  | .int8 => Int8
  | .uint8 => UInt8
  | .int16 => Int16
  | .uint16 => UInt16
  | .int32 => Int32
  | .uint32 => UInt32
  | .int64 => Int64
  | .uint64 => UInt64
  | .float => Double
  | .double => Double
  | .string => ByteText
  | .dateTime => DateTime
  | .guid => Guid
  | .byteString => ByteString
  | .xmlElement => ByteText
  | .nodeId => NodeId
  | .expandedNodeId => ExpandedNodeId
  | .statusCode => Status
  | .qualifiedName => QualifiedName
  | .localizedText => LocalizedText
  | .extensionObject => ExtensionObject
  | .diagnosticInfo => DiagnosticInfo

mutual

/-- `class Variant`: a scalar or an array of one built-in type.  Nested data
values and scalar variants are held by shared pointer, which may be null;
arrays of variants hold their elements directly. -/
inductive Variant where
  | scalar (type : PlainType) (value : type.Carrier)
  | dataValue (value : Option DataValue)
  | variant (value : Option Variant)
  | array (type : PlainType) (elements : List type.Carrier)
  | dataValueArray (elements : List (Option DataValue))
  | variantArray (elements : List Variant)

structure DataValue where
  value : Variant
  qualifier : UInt32
  sourceTimestamp : DateTime
  serverTimestamp : DateTime
  statusCode : StatusCode

end

def Variant.null : Variant := .scalar .empty ()

/-- `DataValue(StatusCode, DateTime)`: a status with no value. -/
def DataValue.ofStatus
    (statusCode : StatusCode) (serverTimestamp : DateTime) : DataValue where
  value := .null
  qualifier := 0
  sourceTimestamp := {}
  serverTimestamp := serverTimestamp
  statusCode := statusCode

def Variant.getInt64 : Variant → Option Int
  | .scalar .bool (value : Bool) => some (if value then 1 else 0)
  | .scalar .int8 (value : Int8) => some value.toInt
  | .scalar .uint8 (value : UInt8) => some value.toNat
  | .scalar .int16 (value : Int16) => some value.toInt
  | .scalar .uint16 (value : UInt16) => some value.toNat
  | .scalar .int32 (value : Int32) => some value.toInt
  | .scalar .uint32 (value : UInt32) => some value.toNat
  | .scalar .int64 (value : Int64) => some value.toInt
  | .scalar .uint64 (value : UInt64) => some value.toInt64.toInt
  | .scalar .double (value : Double) => some (Double.truncate value)
  | _ => none

def Variant.getDouble : Variant → Option Double
  | .scalar .bool (value : Bool) => some (if value then 1 else 0)
  | .scalar .double (value : Double) => some value
  | value => value.getInt64.map fun integer => (integer : ℚ)

/-- `Variant::get_if`. -/
def Variant.getIf (type : PlainType) : Variant → Option type.Carrier
  | .scalar held value => if htype : held = type then some (htype ▸ value) else none
  | _ => none

@[simp] theorem Variant.getIf_scalar (type : PlainType) (value : type.Carrier) :
    (Variant.scalar type value).getIf type = some value := dif_pos rfl

theorem Variant.getIf_scalar_of_ne {type held : PlainType} (hne : held ≠ type)
    (value : held.Carrier) : (Variant.scalar held value).getIf type = none := dif_neg hne

/-- `Variant::get` of a Boolean. -/
def Variant.getBool : Variant → Option Bool
  | .scalar .bool (value : Bool) => some value
  | value => value.getInt64.map fun number => number != 0

/-! ## Attributes -/

/-- `enum class AttributeId`; a request may carry a number outside it. -/
inductive AttributeId where
  | nodeId | nodeClass | browseName | displayName | description | writeMask
  | userWriteMask | isAbstract | symmetric | inverseName | containsNoLoops
  | eventNotifier | value | dataType | valueRank | arrayDimensions
  | accessLevel | userAccessLevel | minimumSamplingInterval | historizing
  | executable | userExecutable
  | unlisted (raw : UInt32)
deriving DecidableEq, Repr

structure ReadValueId where
  nodeId : NodeId := {}
  attributeId : AttributeId := .value
deriving DecidableEq

end OpcuaStack
