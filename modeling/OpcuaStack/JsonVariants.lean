import OpcuaStack.VariantCodec

/-!
# The JSON encoding of the built-in types

`ua/ua_json_builtins.cpp`.  A value is encoded as a tree of JSON values, and the
encoding of a type declares no shape of its own: a Variant names its type next to the
payload, and whether the payload is an array is seen from the payload.  The texts of
times, identifiers and byte strings come from other files and are the fields of
`Texts`.
-/

namespace OpcuaStack
namespace Json

/-- What leaves a codec instead of a value. -/
inductive Thrown where
  | error (message : String)
  /-- `std::bad_variant_access`. -/
  | badVariantAccess
  /-- What `std::stoul` throws. -/
  | invalidNumber
deriving DecidableEq

abbrev Members := List (ByteText × JsonValue)

/-- The text forms, and the conversions of numbers, which other files give. -/
structure Texts where
  dateTime : DateTime → ByteText
  ofDateTime : ByteText → Option DateTime
  guid : Guid → ByteText
  ofGuid : ByteText → Option Guid
  base64 : ByteString → ByteText
  ofBase64 : ByteText → Option ByteString
  nodeId : NodeId → ByteText
  /-- `NodeId::FromString`: the null NodeId for what it cannot read. -/
  ofNodeId : ByteText → NodeId
  symbol : StatusCode → ByteText
  narrow : WideText → ByteText
  widen : ByteText → WideText
  /-- `static_cast<Float>` of a double. -/
  float : Double → Double
  /-- `static_cast<double>` of an integer. -/
  double : Int → Double

variable (texts : Texts)

/-! ## Reading a JSON value -/

def requireObject : JsonValue → Except Thrown Members
  | .object members => .ok members
  | _ => .error (.error "expected a JSON object")

def requireArray : JsonValue → Except Thrown (List JsonValue)
  | .array elements => .ok elements
  | _ => .error (.error "expected a JSON array")

def requireString : JsonValue → Except Thrown ByteText
  | .string value => .ok value
  | _ => .error (.error "expected a JSON string")

def requireInt64 : JsonValue → Except Thrown Int
  | .int64 value => .ok value
  | .uint64 value =>
      if value.toNat < 2 ^ 63 then .ok value.toNat
      else .error (.error "expected a JSON integer")
  | _ => .error (.error "expected a JSON integer")

def requireUInt64 : JsonValue → Except Thrown ℕ
  | .uint64 value => .ok value.toNat
  | .int64 value =>
      if 0 ≤ value then .ok value.toNat
      else .error (.error "expected a JSON unsigned integer")
  | _ => .error (.error "expected a JSON unsigned integer")

def requireDouble : JsonValue → Except Thrown Double
  | .double value => .ok value
  | .int64 value => .ok (texts.double value)
  | .uint64 value => .ok (texts.double value.toNat)
  | _ => .error (.error "expected a JSON number")

def isNull : JsonValue → Bool
  | .null => true
  | _ => false

def ifContains (members : Members) (name : String) : Option JsonValue :=
  members.lookup (asciiText name)

def requireField (members : Members) (name : String) : Except Thrown JsonValue :=
  (ifContains members name).elim (.error (.error ("missing field " ++ name)))
    .ok

/-- `NarrowSigned` and `NarrowUnsigned`. -/
def narrowSigned (width : ℕ) (json : JsonValue) : Except Thrown Int := do
  let raw ← requireInt64 json
  if raw < -2 ^ (width - 1) ∨ 2 ^ (width - 1) ≤ raw then
    throw (.error "integer out of range")
  else
    return raw

def narrowUnsigned (width : ℕ) (json : JsonValue) : Except Thrown ℕ := do
  let raw ← requireUInt64 json
  if 2 ^ width ≤ raw then
    throw (.error "integer out of range")
  else
    return raw

/-! ## Decimal numbers -/

def isDigit (byte : UInt8) : Bool := 0x30 ≤ byte && byte ≤ 0x39

def digitsValue (digits : ByteText) : ℕ :=
  digits.foldl (fun value digit => 10 * value + (digit - 0x30).toNat) 0

/-- `std::from_chars` up to the end of the text, below a limit. -/
def fromCharsBelow (limit : ℕ) (text : ByteText) : Option ℕ :=
  if text ≠ [] ∧ text.all isDigit ∧ digitsValue text < limit then
    some (digitsValue text)
  else
    none

def fromCharsInt64 : ByteText → Option Int
  | 0x2d :: digits =>
      (fromCharsBelow (2 ^ 63 + 1) digits).map fun value => -value
  | digits => (fromCharsBelow (2 ^ 63) digits).map fun value => value

def isSpace (byte : UInt8) : Bool :=
  byte == 0x20 || (0x09 ≤ byte && byte ≤ 0x0d)

/-- `std::stoul`: blanks and a sign come first, and what follows the digits is
ignored. -/
def stoul (text : ByteText) : Except Thrown ℕ :=
  let signed := text.dropWhile isSpace
  let negative := signed.head? == some 0x2d
  let number :=
    if negative || signed.head? == some 0x2b then signed.tail else signed
  let digits := number.takeWhile isDigit
  if digits = [] ∨ 2 ^ 64 ≤ digitsValue digits then .error .invalidNumber
  else if negative then .ok ((2 ^ 64 - digitsValue digits) % 2 ^ 64)
  else .ok (digitsValue digits)

def decimalText (value : Int) : ByteText := asciiText (toString value)

/-! ## Encoding leaves -/

/-- A member which is there if it has a value. -/
def member (name : String) (value : Option JsonValue) : Members :=
  value.elim [] fun value => [(asciiText name, value)]

/-- A value unless it is the one that is left out. -/
def omittedIf {α : Type} (omitted : Bool) (value : α) : Option α :=
  if omitted then none else some value

def nullDateTimeText : ByteText := asciiText "0001-01-01T00:00:00Z"

def encodeDateTime (value : DateTime) : JsonValue :=
  .string (if value.ticks = 0 then nullDateTimeText else texts.dateTime value)

def encodeExpandedNodeId (value : ExpandedNodeId) : JsonValue :=
  .string
    ((if value.serverIndex = 0 then []
        else asciiText "svr=" ++ decimalText value.serverIndex.toNat ++
          asciiText ";") ++
      (if value.namespaceUri.isEmpty then []
        else asciiText "nsu=" ++ value.namespaceUri ++ asciiText ";") ++
      texts.nodeId value.nodeId)

def encodeStatus (value : Status) : JsonValue :=
  let isDefault := value.fullCode == 0
  .object
    (member "Code" (omittedIf isDefault (.uint64 value.fullCode.toUInt64)) ++
      member "Symbol" (omittedIf isDefault (.string (texts.symbol value.code))))

def encodeQualifiedName (value : QualifiedName) : JsonValue :=
  .string
    (if value.namespaceIndex = 0 then value.name
    else decimalText value.namespaceIndex.toNat ++ asciiText ":" ++ value.name)

def encodeLocalizedText (value : LocalizedText) : JsonValue :=
  let text := texts.narrow value.text
  .object
    (member "Locale" (omittedIf value.locale.isEmpty (.string value.locale)) ++
      member "Text" (omittedIf text.isEmpty (.string text)))

def encodeExtensionObject (value : ExtensionObject) : JsonValue :=
  .object
    (member "UaTypeId" (some (encodeExpandedNodeId texts value.dataTypeId)) ++
      match value.value with
      | .binary body =>
          member "UaEncoding" (some (.int64 1)) ++
            member "UaBody" (some (.string (texts.base64 body)))
      | .json body => member "UaBody" (some body)
      | .empty => [])

def encodeIndex (value : Int32) : JsonValue := .int64 value.toInt

def encodeDiagnosticInfo : DiagnosticInfo → JsonValue
  | .mk symbolicId namespaceUri locale localizedText additionalInfo
      innerStatusCode innerDiagnosticInfo =>
      .object
        (member "SymbolicId" (symbolicId.map encodeIndex) ++
          member "NamespaceUri" (namespaceUri.map encodeIndex) ++
          member "Locale" (locale.map encodeIndex) ++
          member "LocalizedText" (localizedText.map encodeIndex) ++
          member "AdditionalInfo" (additionalInfo.map .string) ++
          member "InnerStatusCode"
            (innerStatusCode.map (encodeStatus texts)) ++
          member "InnerDiagnosticInfo"
            (match innerDiagnosticInfo with
            | none => none
            | some inner => some (encodeDiagnosticInfo inner)))

/-- `Encode` of a value of a plain type. -/
def encodeElement : (type : PlainType) → type.Carrier → JsonValue
  | .empty, _ => .null
  | .bool, (value : Bool) => .bool value
  | .int8, (value : Int8) => .int64 value.toInt
  | .uint8, (value : UInt8) => .uint64 value.toUInt64
  | .int16, (value : Int16) => .int64 value.toInt
  | .uint16, (value : UInt16) => .uint64 value.toUInt64
  | .int32, (value : Int32) => .int64 value.toInt
  | .uint32, (value : UInt32) => .uint64 value.toUInt64
  -- A JSON number cannot carry 64 bits.
  | .int64, (value : Int64) => .string (decimalText value.toInt)
  | .uint64, (value : UInt64) => .string (decimalText value.toNat)
  | .float, (value : Double) => .double value
  | .double, (value : Double) => .double value
  | .string, (value : ByteText) => .string value
  | .dateTime, (value : DateTime) => encodeDateTime texts value
  | .guid, (value : Guid) => .string (texts.guid value)
  | .byteString, (value : ByteString) => .string (texts.base64 value)
  | .xmlElement, (value : ByteText) => .string value
  | .nodeId, (value : NodeId) => .string (texts.nodeId value)
  | .expandedNodeId, (value : ExpandedNodeId) =>
      encodeExpandedNodeId texts value
  | .statusCode, (value : Status) => encodeStatus texts value
  | .qualifiedName, (value : QualifiedName) => encodeQualifiedName value
  | .localizedText, (value : LocalizedText) => encodeLocalizedText texts value
  | .extensionObject, (value : ExtensionObject) =>
      encodeExtensionObject texts value
  | .diagnosticInfo, (value : DiagnosticInfo) =>
      encodeDiagnosticInfo texts value

/-! ## Decoding leaves -/

def decodeMember {α : Type} (members : Members) (name : String)
    (decode : JsonValue → Except Thrown α) : Except Thrown (Option α) :=
  (ifContains members name).elim (.ok none) fun json => some <$> decode json

def decodeBool : JsonValue → Except Thrown Bool
  | .bool value => .ok value
  | _ => .error (.error "expected a JSON boolean")

/-- The text form, or a number. -/
def decodeInt64 : JsonValue → Except Thrown Int64
  | .string text =>
      (fromCharsInt64 text).elim (.error (.error "malformed Int64"))
        fun value => .ok (.ofInt value)
  | json => Int64.ofInt <$> requireInt64 json

def decodeUInt64 : JsonValue → Except Thrown UInt64
  | .string text =>
      (fromCharsBelow (2 ^ 64) text).elim (.error (.error "malformed UInt64"))
        fun value => .ok (.ofNat value)
  | json => UInt64.ofNat <$> requireUInt64 json

/-- A null text is the empty one. -/
def decodeString : JsonValue → Except Thrown ByteText
  | .null => .ok []
  | json => requireString json

def decodeDateTime : JsonValue → Except Thrown DateTime
  | .null => .ok {}
  | json => do
      let text ← requireString json
      if text = nullDateTimeText then
        return {}
      else
        (texts.ofDateTime text).elim (.error (.error "malformed DateTime")) .ok

def decodeGuid (json : JsonValue) : Except Thrown Guid := do
  let text ← requireString json
  (texts.ofGuid text).elim (.error (.error "malformed Guid")) .ok

def decodeByteString : JsonValue → Except Thrown ByteString
  | .null => .ok []
  | json => do
      let text ← requireString json
      (texts.ofBase64 text).elim (.error (.error "malformed ByteString")) .ok

/-- A text which reads as the null NodeId has to be its canonical form. -/
def nodeIdOfText (message : String) (text : ByteText) : Except Thrown NodeId :=
  if texts.ofNodeId text = {} ∧ text ≠ asciiText "i=0" then
    .error (.error message)
  else
    .ok (texts.ofNodeId text)

def decodeNodeId (json : JsonValue) : Except Thrown NodeId := do
  let text ← requireString json
  nodeIdOfText texts "malformed NodeId" text

/-- The marks in front of a NodeId, in any order and number; each takes four bytes
and its separator. -/
def expandedNodeIdOfText (serverIndex : UInt32) (namespaceUri : ByteText) :
    ℕ → ByteText → Except Thrown ExpandedNodeId
  | 0, _ => .error (.error "malformed ExpandedNodeId")
  | rounds + 1, text =>
      let field := (text.drop 4).takeWhile (· ≠ 0x3b)
      let rest := (text.drop 4).drop (field.length + 1)
      let separated := field.length < (text.drop 4).length
      if text.take 4 = asciiText "svr=" then
        if separated then do
          let index ← stoul field
          expandedNodeIdOfText (.ofNat index) namespaceUri rounds rest
        else
          .error (.error "malformed ExpandedNodeId: no ; after svr=")
      else if text.take 4 = asciiText "nsu=" then
        if separated then expandedNodeIdOfText serverIndex field rounds rest
        else .error (.error "malformed ExpandedNodeId: no ; after nsu=")
      else do
        let nodeId ← nodeIdOfText texts "malformed ExpandedNodeId" text
        return { nodeId, namespaceUri, serverIndex }

def decodeExpandedNodeId (json : JsonValue) : Except Thrown ExpandedNodeId := do
  let text ← requireString json
  expandedNodeIdOfText texts 0 [] (text.length + 1) text

/-- `Status::FromFullCode` of a number. -/
def statusOfNumber (json : JsonValue) : Except Thrown Status := do
  let number ← requireUInt64 json
  return { fullCode := .ofNat number }

def decodeStatus (json : JsonValue) : Except Thrown Status :=
  match json with
  | .int64 _ | .uint64 _ => statusOfNumber json
  | _ => do
      let members ← requireObject json
      (ifContains members "Code").elim (.ok .good) statusOfNumber

def decodeQualifiedName : JsonValue → Except Thrown QualifiedName
  | .null => .ok {}
  | .object members => do
      let uri ← decodeMember members "Uri" requireUInt64
      let json ← requireField members "Name"
      let name ← requireString json
      return { name, namespaceIndex := .ofNat (uri.getD 0) }
  | json => do
      let text ← requireString json
      let digits := text.takeWhile (· ≠ 0x3a)
      -- Without a number in front of the colon the whole text is the name.
      if digits.length = text.length then
        return { name := text }
      else
        match fromCharsBelow (2 ^ 32) digits with
        | none => return { name := text }
        | some index =>
            return {
              name := text.drop (digits.length + 1)
              namespaceIndex := .ofNat index }

def decodeLocalizedText : JsonValue → Except Thrown LocalizedText
  | .null => .ok {}
  | json => do
      let members ← requireObject json
      let locale ← decodeMember members "Locale" requireString
      let text ← decodeMember members "Text" requireString
      return {
        locale := locale.getD []
        text := text.elim [] texts.widen }

def decodeExtensionObject (json : JsonValue) : Except Thrown ExtensionObject := do
  let members ← requireObject json
  let typeId ← requireField members "UaTypeId"
  let dataTypeId ← decodeExpandedNodeId texts typeId
  match ifContains members "UaBody" with
  | none => return { dataTypeId }
  | some body => do
      let encoding ← decodeMember members "UaEncoding" requireUInt64
      if encoding = some 1 then do
        let bytes ← decodeByteString texts body
        return { dataTypeId, value := .binary bytes }
      else
        return { dataTypeId, value := .json body }

def decodeIndex (json : JsonValue) : Except Thrown Int32 :=
  Int32.ofInt <$> requireInt64 json

mutual

def decodeDiagnosticInfo : JsonValue → Except Thrown DiagnosticInfo
  | .object members => do
      let symbolicId ← decodeMember members "SymbolicId" decodeIndex
      let namespaceUri ← decodeMember members "NamespaceUri" decodeIndex
      let locale ← decodeMember members "Locale" decodeIndex
      let localizedText ← decodeMember members "LocalizedText" decodeIndex
      let additionalInfo ← decodeMember members "AdditionalInfo" requireString
      let innerStatusCode ← decodeMember members "InnerStatusCode" decodeStatus
      let innerDiagnosticInfo ← decodeInnerDiagnosticInfo members
      return .mk symbolicId namespaceUri locale localizedText additionalInfo
        innerStatusCode innerDiagnosticInfo
  | _ => .error (.error "expected a JSON object")

def decodeInnerDiagnosticInfo : Members → Except Thrown (Option DiagnosticInfo)
  | [] => .ok none
  | (name, json) :: rest =>
      if asciiText "InnerDiagnosticInfo" == name then
        some <$> decodeDiagnosticInfo json
      else
        decodeInnerDiagnosticInfo rest

end

/-- `Decode` of a value of a plain type. -/
def decodeElement : (type : PlainType) → JsonValue → Except Thrown type.Carrier
  | .empty, _ => .ok ()
  | .bool, json => decodeBool json
  | .int8, json => Int8.ofInt <$> narrowSigned 8 json
  | .uint8, json => UInt8.ofNat <$> narrowUnsigned 8 json
  | .int16, json => Int16.ofInt <$> narrowSigned 16 json
  | .uint16, json => UInt16.ofNat <$> narrowUnsigned 16 json
  | .int32, json => Int32.ofInt <$> narrowSigned 32 json
  | .uint32, json => UInt32.ofNat <$> narrowUnsigned 32 json
  | .int64, json => decodeInt64 json
  | .uint64, json => decodeUInt64 json
  | .float, json => texts.float <$> requireDouble texts json
  | .double, json => requireDouble texts json
  | .string, json => decodeString json
  | .dateTime, json => decodeDateTime texts json
  | .guid, json => decodeGuid texts json
  | .byteString, json => decodeByteString texts json
  | .xmlElement, json => decodeString json
  | .nodeId, json => decodeNodeId texts json
  | .expandedNodeId, json => decodeExpandedNodeId texts json
  | .statusCode, json => decodeStatus json
  | .qualifiedName, json => decodeQualifiedName json
  | .localizedText, json => decodeLocalizedText texts json
  | .extensionObject, json => decodeExtensionObject texts json
  | .diagnosticInfo, json => decodeDiagnosticInfo json

/-! ## Variants and DataValues -/

open Binary (BuiltInType variantType variantIsNull codeIsGood)

def typeMember (value : Variant) : JsonValue :=
  .uint64 (variantType value).id.toUInt64

/-- `Encode(const Variant&)`, around the payload; only a scalar null is `null`. -/
def variantObject (value : Variant) (payload : Except Thrown JsonValue) :
    Except Thrown JsonValue :=
  match value with
  | .scalar .empty _ => .ok .null
  | _ => do
      let payload ← payload
      return .object
        (member "UaType" (some (typeMember value)) ++
          member "Value" (some payload))

/-- `Encode(const DataValue&)`, around the payload of its value. -/
def dataValueObject (value : DataValue) (payload : Except Thrown JsonValue) :
    Except Thrown JsonValue := do
  let inlined ←
    if variantIsNull value.value then pure []
    else do
      let payload ← payload
      pure
        (member "UaType" (some (typeMember value.value)) ++
          member "Value" (some payload))
  return .object
    (inlined ++
      member "StatusCode"
        (omittedIf (codeIsGood value.statusCode)
          (encodeStatus texts (.ofCode value.statusCode))) ++
      member "SourceTimestamp"
        (omittedIf (value.sourceTimestamp.ticks == 0)
          (encodeDateTime texts value.sourceTimestamp)) ++
      member "ServerTimestamp"
        (omittedIf (value.serverTimestamp.ticks == 0)
          (encodeDateTime texts value.serverTimestamp)))

/-- `EncodeVariantPayload`.  `get` of the shared pointer throws where an array of
DataValues or Variants is held. -/
def encodeVariantPayload : Variant → Except Thrown JsonValue
  | .scalar type value => .ok (encodeElement texts type value)
  | .array .empty _ => .ok .null
  | .array type elements =>
      .ok (.array (elements.map (encodeElement texts type)))
  | .dataValue none =>
      dataValueObject texts
        { value := .null
          qualifier := 0
          sourceTimestamp := {}
          serverTimestamp := {}
          statusCode := .good }
        (.ok .null)
  | .dataValue (some ⟨value, qualifier, source, server, code⟩) =>
      dataValueObject texts ⟨value, qualifier, source, server, code⟩
        (encodeVariantPayload value)
  | .variant none => .ok .null
  | .variant (some value) => variantObject value (encodeVariantPayload value)
  | .dataValueArray _ | .variantArray _ => .error .badVariantAccess

def encodeVariant (value : Variant) : Except Thrown JsonValue :=
  variantObject value (encodeVariantPayload texts value)

def encodeDataValue (value : DataValue) : Except Thrown JsonValue :=
  dataValueObject texts value (encodeVariantPayload texts value.value)

/-- The Variant of an object, given how its payload is read for a type. -/
def variantOfMembers (message : String) (members : Members)
    (payload : BuiltInType → Except Thrown Variant) : Except Thrown Variant :=
  (ifContains members "UaType").elim (.ok .null) fun json => do
    let number ← requireUInt64 json
    (BuiltInType.ofNumber (number % 2 ^ 32)).elim (.error (.error message))
      payload

/-- What a DataValue has besides its value. -/
def dataValueOfMembers (members : Members) (value : Except Thrown Variant) :
    Except Thrown DataValue := do
  let value ← value
  let status ← decodeMember members "StatusCode" decodeStatus
  let source ← decodeMember members "SourceTimestamp" (decodeDateTime texts)
  let server ← decodeMember members "ServerTimestamp" (decodeDateTime texts)
  return {
    value
    qualifier := 0
    sourceTimestamp := source.getD {}
    serverTimestamp := server.getD {}
    statusCode := status.elim .good Status.code }

mutual

/-- `DecodeVariantPayload`: an array is an array of the type. -/
def decodeVariantPayload (type : BuiltInType) :
    JsonValue → Except Thrown Variant
  | .object members =>
      match type with
      | .plain .empty => .ok .null
      | .plain type =>
          .scalar type <$> decodeElement texts type (.object members)
      | .dataValue =>
          (fun value => .dataValue (some value)) <$>
            dataValueOfMembers texts members
              (variantOfMembers "unsupported DataValue UaType" members
                fun type => decodeValueMember type members)
      | .variant =>
          (fun value => .variant (some value)) <$>
            variantOfMembers "unsupported Variant UaType" members
              fun type => decodeValueMember type members
  | .array elements =>
      match type with
      | .plain .empty => .ok .null
      | .plain type =>
          .array type <$> elements.mapM (decodeElement texts type)
      | .dataValue | .variant => .error (.error "expected a JSON object")
  | json =>
      match type with
      | .plain .empty => .ok .null
      | .plain type => .scalar type <$> decodeElement texts type json
      | .dataValue => .error (.error "expected a JSON object")
      | .variant =>
          match json with
          | .null => .ok (.variant (some .null))
          | _ => .error (.error "expected a JSON object")

/-- The member `Value`, read for a type; a null one is no value. -/
def decodeValueMember (type : BuiltInType) : Members → Except Thrown Variant
  | [] => .ok .null
  | (name, payload) :: rest =>
      if asciiText "Value" == name then
        if isNull payload then .ok .null
        else decodeVariantPayload type payload
      else
        decodeValueMember type rest

end

def decodeVariant : JsonValue → Except Thrown Variant
  | .null => .ok .null
  | json => do
      let members ← requireObject json
      variantOfMembers "unsupported Variant UaType" members
        fun type => decodeValueMember texts type members

def decodeDataValue (json : JsonValue) : Except Thrown DataValue := do
  let members ← requireObject json
  dataValueOfMembers texts members
    (variantOfMembers "unsupported DataValue UaType" members
      fun type => decodeValueMember texts type members)

end Json
end OpcuaStack
