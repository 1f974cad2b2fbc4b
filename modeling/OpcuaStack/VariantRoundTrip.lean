import OpcuaStack.BoundedDecoding

/-!
# Variants come back from their encoding

A variant is read back from what was written for it, wherever its leaves are.  A
DataValue comes back as far as it goes over the wire: without its qualifier, and with
`Good` for every status of good severity.
-/

namespace OpcuaStack
namespace Binary
namespace Bounded

variable (forms : Representations)

/-! ## What is sent -/

def codeAsSent (code : StatusCode) : StatusCode :=
  if codeIsGood code then .good else code

mutual

def asSent : Variant → Variant
  | .scalar type value => .scalar type value
  | .dataValue value => .dataValue (some (sharedDataValueAsSent value))
  | .variant value => .variant (some (sharedVariantAsSent value))
  | .array type elements => .array type elements
  | .dataValueArray elements =>
      .dataValueArray (sharedDataValuesAsSent elements)
  | .variantArray elements => .variantArray (variantsAsSent elements)

def dataValueAsSent : DataValue → DataValue
  | ⟨value, _, sourceTimestamp, serverTimestamp, statusCode⟩ =>
      { value := asSent value
        qualifier := 0
        sourceTimestamp
        serverTimestamp
        statusCode := codeAsSent statusCode }

/-- A null pointer is sent as an empty DataValue. -/
def sharedDataValueAsSent : Option DataValue → DataValue
  | none =>
      { value := .null
        qualifier := 0
        sourceTimestamp := {}
        serverTimestamp := {}
        statusCode := .good }
  | some value => dataValueAsSent value

/-- A null pointer is sent as a null Variant. -/
def sharedVariantAsSent : Option Variant → Variant
  | none => .null
  | some value => asSent value

def sharedDataValuesAsSent : List (Option DataValue) → List (Option DataValue)
  | [] => []
  | value :: values =>
      some (sharedDataValueAsSent value) :: sharedDataValuesAsSent values

def variantsAsSent : List Variant → List Variant
  | [] => []
  | value :: values => asSent value :: variantsAsSent values

end

/-! ## Leaves which return -/

/-- The texts of a DiagnosticInfo return, however deep they are. -/
def TextsReturn : DiagnosticInfo → Prop
  | .mk _ _ _ _ additionalInfo _ innerDiagnosticInfo =>
      (∀ text ∈ additionalInfo,
        decodeByteString.Yields (encodeByteString text) text) ∧
      (match innerDiagnosticInfo with
      | none => True
      | some inner => TextsReturn inner)

/-- The element codec returns the value.  A DiagnosticInfo is no leaf but for its
texts. -/
def LeafReturns : (type : PlainType) → type.Carrier → Prop
  | .diagnosticInfo, (value : DiagnosticInfo) => TextsReturn value
  | type, value => ∀ calls,
      (decodeElement forms calls type).Returns (encodeElement forms type value)
        value

/-- An array whose count can be written, and read if it is all there is. -/
def ArrayFits (type : PlainType) (count : ℕ) : Prop :=
  count < 2 ^ 31 ∧ (type = .empty → count ≤ 2 ^ 24)

mutual

/-- A variant whose leaves return and whose arrays fit.  A DataValue holds no array
of null elements. -/
def Sendable : Variant → Prop
  | .scalar type value => LeafReturns forms type value
  | .dataValue value => SharedDataValueSendable value
  | .variant value => SharedVariantSendable value
  | .array type elements =>
      ArrayFits type elements.length ∧
        ∀ element ∈ elements, LeafReturns forms type element
  | .dataValueArray elements =>
      elements.length < 2 ^ 31 ∧ SharedDataValuesSendable elements
  | .variantArray elements =>
      elements.length < 2 ^ 31 ∧ VariantsSendable elements

def DataValueSendable : DataValue → Prop
  | ⟨value, _, sourceTimestamp, serverTimestamp, statusCode⟩ =>
      Sendable value ∧ (variantIsNull value → value = .null) ∧
        decodeDateTime.Yields (encodeDateTime sourceTimestamp)
          sourceTimestamp ∧
        decodeDateTime.Yields (encodeDateTime serverTimestamp)
          serverTimestamp ∧
        (Status.ofCode statusCode).code = statusCode

def SharedDataValueSendable : Option DataValue → Prop
  | none => True
  | some value => DataValueSendable value

def SharedVariantSendable : Option Variant → Prop
  | none => True
  | some value => Sendable value

def SharedDataValuesSendable : List (Option DataValue) → Prop
  | [] => True
  | value :: values =>
      SharedDataValueSendable value ∧ SharedDataValuesSendable values

def VariantsSendable : List Variant → Prop
  | [] => True
  | value :: values => Sendable value ∧ VariantsSendable values

end

/-! ## Numbers and masks -/

theorem yields_uInt8 (value : UInt8) :
    decodeUInt8.Yields (encodeUInt8 value) value :=
  follows_uInt8.yields (reads_uInt8 value)

theorem yields_int32 (value : Int32) :
    decodeInt32.Yields (encodeInt32 value) value :=
  follows_int32.yields (reads_int32 value)

theorem yields_status (value : Status) :
    decodeStatus.Yields (encodeStatus value) value :=
  (follows_uInt32.yields (reads_uInt32 value.fullCode)).bind_pure Status.mk

theorem yields_decodeIf {α : Type} {mask bit : UInt8}
    {decode : Decoder α} {absent value : α} {piece : ByteString}
    (hset : mask &&& bit ≠ 0 → decode.Yields piece value)
    (hclear : mask &&& bit = 0 → absent = value) :
    (decodeIf mask bit decode absent).Yields
      (if mask &&& bit ≠ 0 then piece else []) value := by
  by_cases hbit : mask &&& bit = 0
  · rw [decodeIf, if_neg (not_not.mpr hbit), if_neg (not_not.mpr hbit),
      hclear hbit]
    exact .pure value
  · rw [decodeIf, if_pos hbit, if_pos hbit]
    exact hset hbit

theorem yields_present {α : Type} {mask bit : UInt8}
    {decode : Decoder α} {encode : α → ByteString} {field : Option α}
    (hbit : mask &&& bit ≠ 0 ↔ field.isSome)
    (h : ∀ value ∈ field, decode.Yields (encode value) value) :
    (decodePresent mask bit decode).Yields (encodePresent encode field)
      field := by
  cases field with
  | none =>
      have hclear : ¬ mask &&& bit ≠ 0 := by simpa using hbit
      rw [decodePresent, decodeIf, if_neg hclear]
      exact .pure none
  | some value =>
      rw [decodePresent, decodeIf, if_pos (hbit.mpr rfl)]
      exact (h value rfl).bind_pure some

/-! ## DiagnosticInfo -/

theorem diagnosticInfoMask_bits (symbolicId namespaceUri localizedText locale
    additionalInfo innerStatusCode innerDiagnosticInfo : Bool) :
    let mask :=
      maskBit symbolicId 0x01 ||| maskBit namespaceUri 0x02 |||
        maskBit localizedText 0x04 ||| maskBit locale 0x08 |||
        maskBit additionalInfo 0x10 ||| maskBit innerStatusCode 0x20 |||
        maskBit innerDiagnosticInfo 0x40
    (mask &&& 0x01 ≠ 0 ↔ symbolicId) ∧ (mask &&& 0x02 ≠ 0 ↔ namespaceUri) ∧
      (mask &&& 0x04 ≠ 0 ↔ localizedText) ∧ (mask &&& 0x08 ≠ 0 ↔ locale) ∧
      (mask &&& 0x10 ≠ 0 ↔ additionalInfo) ∧
      (mask &&& 0x20 ≠ 0 ↔ innerStatusCode) ∧
      (mask &&& 0x40 ≠ 0 ↔ innerDiagnosticInfo) := by
  revert symbolicId namespaceUri localizedText locale additionalInfo
    innerStatusCode innerDiagnosticInfo
  decide

def diagnosticInfoMask : DiagnosticInfo → UInt8
  | .mk symbolicId namespaceUri locale localizedText additionalInfo
      innerStatusCode innerDiagnosticInfo =>
      maskBit symbolicId.isSome 0x01 ||| maskBit namespaceUri.isSome 0x02 |||
        maskBit localizedText.isSome 0x04 ||| maskBit locale.isSome 0x08 |||
        maskBit additionalInfo.isSome 0x10 |||
        maskBit innerStatusCode.isSome 0x20 |||
        maskBit innerDiagnosticInfo.isSome 0x40

theorem encodeDiagnosticInfo_mk
    (symbolicId namespaceUri locale localizedText : Option Int32)
    (additionalInfo : Option ByteText) (innerStatusCode : Option Status)
    (innerDiagnosticInfo : Option DiagnosticInfo) :
    encodeDiagnosticInfo
        (.mk symbolicId namespaceUri locale localizedText additionalInfo
          innerStatusCode innerDiagnosticInfo) =
      encodeUInt8
          (diagnosticInfoMask
            (.mk symbolicId namespaceUri locale localizedText additionalInfo
              innerStatusCode innerDiagnosticInfo)) ++
        (encodePresent encodeInt32 symbolicId ++
        (encodePresent encodeInt32 namespaceUri ++
        (encodePresent encodeInt32 locale ++
        (encodePresent encodeInt32 localizedText ++
        (encodePresent encodeByteString additionalInfo ++
        (encodePresent encodeStatus innerStatusCode ++
          encodePresent encodeDiagnosticInfo innerDiagnosticInfo)))))) := by
  cases innerDiagnosticInfo <;> rfl

/-- A DiagnosticInfo returns: by recursion on how deep it is. -/
theorem yields_diagnosticInfo : (value : DiagnosticInfo) → TextsReturn value →
    (decodeDiagnosticInfo forms).Yields (encodeDiagnosticInfo value) value
  | .mk symbolicId namespaceUri locale localizedText additionalInfo
      innerStatusCode innerDiagnosticInfo, htexts => by
    have htext : ∀ text ∈ additionalInfo,
        decodeByteString.Yields (encodeByteString text) text := by
      cases innerDiagnosticInfo <;> exact htexts.1
    have hinner : ∀ inner ∈ innerDiagnosticInfo,
        (decodeDiagnosticInfo forms).Yields (encodeDiagnosticInfo inner)
          inner := by
      intro inner hinner
      cases hinner
      exact yields_diagnosticInfo inner htexts.2
    obtain ⟨hsymbolic, hnamespace, hlocalized, hlocale, hinfo, hstatus,
        hnested⟩ :=
      diagnosticInfoMask_bits symbolicId.isSome namespaceUri.isSome
        localizedText.isSome locale.isSome additionalInfo.isSome
        innerStatusCode.isSome innerDiagnosticInfo.isSome
    rw [encodeDiagnosticInfo_mk, decodeDiagnosticInfo_eq]
    refine (yields_uInt8 _).bind ?_
    refine (yields_present hsymbolic fun value _ => yields_int32 value).bind ?_
    refine (yields_present hnamespace fun value _ => yields_int32 value).bind ?_
    refine (yields_present hlocale fun value _ => yields_int32 value).bind ?_
    refine (yields_present hlocalized fun value _ => yields_int32 value).bind ?_
    refine (yields_present hinfo htext).bind ?_
    refine (yields_present hstatus fun value _ => yields_status value).bind ?_
    exact (yields_present hnested hinner).bind_pure
      (DiagnosticInfo.mk symbolicId namespaceUri locale localizedText
        additionalInfo innerStatusCode)

/-! ## Every element is written in at least one byte -/

theorem encodeByteString_ne_nil (value : ByteString) :
    encodeByteString value ≠ [] := by
  rw [encodeByteString, encodeInt32, encodeUInt32]
  simp [littleEndian]

theorem encodeNodeId_ne_nil (value : NodeId) : encodeNodeId value ≠ [] := by
  unfold encodeNodeId
  cases value.identifier with
  | numeric id =>
      dsimp only
      split
      · simp [encodeUInt8]
      · split <;> simp [encodeUInt8]
  | string id => simp [encodeUInt8]
  | guid id => simp [encodeUInt8]
  | byteString id => simp [encodeUInt8]

theorem joined_ne_nil {first : ByteString} {second : Option ByteString}
    {written : ByteString} (hfirst : first ≠ [])
    (hwritten : joined (some first) second = some written) : written ≠ [] := by
  obtain ⟨a, b, ha, -, rfl⟩ := exists_of_joined_eq_some hwritten
  cases ha
  exact List.append_ne_nil_of_left_ne_nil hfirst b

theorem encodeExpandedNodeId_ne_nil {value : ExpandedNodeId}
    {written : ByteString}
    (hwritten : encodeExpandedNodeId value = some written) : written ≠ [] :=
  joined_ne_nil (List.cons_ne_nil _ _) hwritten

theorem encodeExtensionObject_ne_nil {value : ExtensionObject}
    {written : ByteString}
    (hwritten : encodeExtensionObject value = some written) : written ≠ [] := by
  obtain ⟨a, b, ha, -, rfl⟩ := exists_of_joined_eq_some hwritten
  exact List.append_ne_nil_of_left_ne_nil (encodeExpandedNodeId_ne_nil ha) b

theorem encodeDiagnosticInfo_ne_nil (value : DiagnosticInfo) :
    encodeDiagnosticInfo value ≠ [] := by
  cases value with
  | mk =>
      rw [encodeDiagnosticInfo_mk]
      exact List.cons_ne_nil _ _

theorem encodeElement_ne_nil {type : PlainType} (htype : type ≠ .empty)
    {value : type.Carrier} {written : ByteString}
    (hwritten : encodeElement forms type value = some written) :
    written ≠ [] := by
  cases type with
  | empty => exact absurd rfl htype
  | expandedNodeId => exact encodeExpandedNodeId_ne_nil hwritten
  | extensionObject => exact encodeExtensionObject_ne_nil hwritten
  | diagnosticInfo =>
      obtain rfl := Option.some.inj hwritten
      exact encodeDiagnosticInfo_ne_nil value
  | nodeId =>
      obtain rfl := Option.some.inj hwritten
      exact encodeNodeId_ne_nil value
  | string | byteString | xmlElement =>
      obtain rfl := Option.some.inj hwritten
      exact encodeByteString_ne_nil value
  | float | double =>
      obtain rfl := Option.some.inj hwritten
      apply List.ne_nil_of_length_pos
      simp
  | bool | int8 | uint8 | localizedText =>
      obtain rfl := Option.some.inj hwritten
      exact List.cons_ne_nil _ _
  | int16 | uint16 | int32 | uint32 | int64 | uint64 | dateTime | guid
  | statusCode | qualifiedName =>
      obtain rfl := Option.some.inj hwritten
      exact List.cons_ne_nil _ _

theorem encodeVariant_ne_nil {value : Variant} {written : ByteString}
    (hwritten : encodeVariant forms value = some written) : written ≠ [] := by
  cases value <;> exact joined_ne_nil (List.cons_ne_nil _ _) hwritten

theorem encodeSharedDataValue_ne_nil {value : Option DataValue}
    {written : ByteString}
    (hwritten : encodeSharedDataValue forms value = some written) :
    written ≠ [] := by
  cases value with
  | none =>
      obtain rfl := Option.some.inj hwritten
      exact List.cons_ne_nil _ _
  | some value =>
      obtain ⟨value, qualifier, source, server, statusCode⟩ := value
      exact joined_ne_nil (List.cons_ne_nil _ _) hwritten

/-! ## Arrays -/

theorem toNatClampNeg_ofNat {count : ℕ} (hcount : count < 2 ^ 31) :
    ¬ Int32.ofNat count < 0 ∧ (Int32.ofNat count).toNatClampNeg = count := by
  have hint : (Int32.ofNat count).toInt = count := Int32.toInt_ofNat_of_lt hcount
  constructor
  · rw [Int32.lt_iff_toInt_lt, hint]
    simp
  · rw [Int32.toNatClampNeg, hint, Int.toNat_natCast]

theorem returns_array {α β : Type} {element : Decoder α}
    {write : β → Option ByteString} {sent : β → α} {elements : List β}
    (hcount : elements.length < 2 ^ 31)
    (hne : ∀ value ∈ elements, ∀ written, write value = some written →
      written ≠ [])
    (h : ∀ value ∈ elements, element.Returns (write value) (sent value)) :
    (decodeArray element).Returns
      (joined (some (encodeInt32 (Int32.ofNat elements.length)))
        (joinedMap write elements))
      (elements.map sent) := by
  obtain ⟨hnonneg, hlength⟩ := toNatClampNeg_ofNat hcount
  refine (Scanner.Returns.of_yields (yields_int32 _)).bind ?_
  rw [if_neg hnonneg, hlength]
  exact (Scanner.Returns.repeated elements h).guarded
    fun piece hpiece => length_le_of_joinedMap hpiece hne

theorem joinedMap_empty (elements : List PlainType.empty.Carrier) :
    joinedMap (encodeElement forms .empty) elements = some [] := by
  induction elements with
  | nil => rfl
  | cons element elements ih =>
      rw [joinedMap, ih]
      rfl

theorem returns_nullArray {elements : List PlainType.empty.Carrier}
    (hcount : elements.length ≤ 2 ^ 24) :
    decodeNullArray.Returns
      (joined (some (encodeInt32 (Int32.ofNat elements.length)))
        (joinedMap (encodeElement forms .empty) elements))
      elements := by
  obtain ⟨hnonneg, hlength⟩ :=
    toNatClampNeg_ofNat (hcount.trans_lt (by norm_num) : elements.length < 2 ^ 31)
  have hcap : ¬ maxNullArrayElements < Int32.ofNat elements.length := by
    have hmax : maxNullArrayElements.toInt = 2 ^ 24 := by decide
    have hint : (Int32.ofNat elements.length).toInt = elements.length :=
      Int32.toInt_ofNat_of_lt (hcount.trans_lt (by norm_num))
    rw [Int32.lt_iff_toInt_lt, hmax, hint]
    omega
  have hsame : List.replicate elements.length () = elements :=
    (List.eq_replicate_iff.mpr ⟨rfl, fun _ _ => rfl⟩).symm
  rw [joinedMap_empty]
  refine (Scanner.Returns.of_yields (yields_int32 _)).bind ?_
  rw [if_neg (not_or.mpr ⟨hnonneg, hcap⟩), hlength, hsame]
  exact .pure elements

/-! ## The first byte of a variant -/

theorem ofId_id (type : BuiltInType) :
    BuiltInType.ofId (type.id &&& 0x3f) = some type ∧
      BuiltInType.ofId ((type.id ||| 0x80) &&& 0x3f) = some type ∧
      type.id &&& 0x40 = 0 ∧ (type.id ||| 0x80) &&& 0x40 = 0 ∧
      type.id &&& 0x80 = 0 ∧ (type.id ||| 0x80) &&& 0x80 ≠ 0 := by
  rcases type with type | _ | _
  · cases type <;> decide
  · decide
  · decide

theorem returns_scalar {type : BuiltInType} {written : Option ByteString}
    {value : Variant}
    (h : (decodeVariantScalar forms (Scanners.nested (body forms)) type).Returns
      written value) :
    (decodeVariant forms).Returns
      (joined (some (encodeUInt8 type.id)) written) value := by
  obtain ⟨htype, -, hmatrix, -, hscalar, -⟩ := ofId_id type
  rw [decodeVariant_eq]
  refine (Scanner.Returns.of_yields (yields_uInt8 _)).bind ?_
  rw [if_neg (not_not.mpr hmatrix), htype, Option.elim_some,
    if_neg (not_not.mpr hscalar)]
  exact h

theorem returns_arrayHead {type : BuiltInType} {count : ℕ}
    {written : Option ByteString} {value : Variant}
    (h : (decodeVariantArray forms (Scanners.nested (body forms)) type).Returns
      (joined (some (encodeInt32 (Int32.ofNat count))) written) value) :
    (decodeVariant forms).Returns
      (joined (some (encodeArrayHead type count)) written) value := by
  obtain ⟨-, htype, -, hmatrix, -, harray⟩ := ofId_id type
  have hsplit :
      joined (some (encodeArrayHead type count)) written =
        joined (some (encodeUInt8 (type.id ||| 0x80)))
          (joined (some (encodeInt32 (Int32.ofNat count))) written) := by
    cases written with
    | none => rfl
    | some piece => simp [encodeArrayHead]
  rw [hsplit, decodeVariant_eq]
  refine (Scanner.Returns.of_yields (yields_uInt8 _)).bind ?_
  rw [if_neg (not_not.mpr hmatrix), htype, Option.elim_some, if_pos harray]
  exact h

/-! ## Variants and DataValues -/

theorem dataValueMask_bits (value status source server : Bool) :
    let mask :=
      maskBit value 0x01 ||| maskBit status 0x02 ||| maskBit source 0x04 |||
        maskBit server 0x08
    (mask &&& 0x01 ≠ 0 ↔ value) ∧ (mask &&& 0x02 ≠ 0 ↔ status) ∧
      (mask &&& 0x04 ≠ 0 ↔ source) ∧ (mask &&& 0x08 ≠ 0 ↔ server) ∧
      mask &&& 0xc0 = 0 ∧ mask &&& 0x10 = 0 ∧ mask &&& 0x20 = 0 := by
  revert value status source server
  decide

theorem returns_decodeIf {α : Type} {mask bit : UInt8} {decode : Decoder α}
    {absent value : α} {written : Option ByteString}
    (hset : mask &&& bit ≠ 0 → decode.Returns written value)
    (hclear : mask &&& bit = 0 → absent = value) :
    (decodeIf mask bit decode absent).Returns
      (if mask &&& bit ≠ 0 then written else some []) value := by
  by_cases hbit : mask &&& bit = 0
  · rw [decodeIf, if_neg (not_not.mpr hbit), if_neg (not_not.mpr hbit),
      hclear hbit]
    exact .pure value
  · rw [decodeIf, if_pos hbit, if_pos hbit]
    exact hset hbit

theorem yields_absent {α : Type} {mask bit : UInt8} (hclear : mask &&& bit = 0)
    (decode : Decoder α) (absent : α) :
    (decodeIf mask bit decode absent).Yields [] absent := by
  rw [decodeIf, if_neg (not_not.mpr hclear)]
  exact .pure absent

theorem yields_dateTimeField {mask bit : UInt8} {time : DateTime}
    (hbit : mask &&& bit ≠ 0 ↔ (time.ticks != 0) = true)
    (htime : decodeDateTime.Yields (encodeDateTime time) time) :
    (decodeIf mask bit decodeDateTime {}).Yields
      (if mask &&& bit ≠ 0 then encodeDateTime time else []) time := by
  apply yields_decodeIf
  · exact fun _ => htime
  · intro hclear
    have hzero : time.ticks = 0 := by
      by_contra hne
      exact hbit.mpr (by simpa using hne) hclear
    rw [← hzero]

theorem yields_statusField (mask : UInt8) (code : StatusCode) :
    (decodeIf mask 0x02 decodeStatus .good).Yields
      (if mask &&& 0x02 ≠ 0 then encodeStatus (Status.ofCode code) else [])
      (if mask &&& 0x02 ≠ 0 then Status.ofCode code else .good) := by
  by_cases hset : mask &&& 0x02 ≠ 0
  · rw [decodeIf, if_pos hset, if_pos hset, if_pos hset]
    exact yields_status _
  · rw [decodeIf, if_neg hset, if_neg hset, if_neg hset]
    exact .pure _

theorem code_statusField {mask : UInt8} {code : StatusCode}
    (hbit : mask &&& 0x02 ≠ 0 ↔ (!codeIsGood code) = true) :
    (if mask &&& 0x02 ≠ 0 then Status.ofCode code else .good).code =
      if codeIsGood code then .good else (Status.ofCode code).code := by
  cases hgood : codeIsGood code with
  | true =>
      have hclear : ¬ mask &&& 0x02 ≠ 0 := by simp [hbit, hgood]
      rw [if_neg hclear, if_pos rfl]
      rfl
  | false =>
      have hset : mask &&& 0x02 ≠ 0 := hbit.mpr (by simp [hgood])
      rw [if_pos hset, if_neg Bool.false_ne_true]

/-- What is left of a DataValue on the wire, if its value is sent as another. -/
def dataValueOnWire (value : DataValue) (sent : Variant) : DataValue where
  value := if variantIsNull value.value then .null else sent
  qualifier := 0
  sourceTimestamp := value.sourceTimestamp
  serverTimestamp := value.serverTimestamp
  statusCode :=
    if codeIsGood value.statusCode then .good
    else (Status.ofCode value.statusCode).code

theorem returns_dataValueOnWire {value : DataValue} {sent : Variant}
    (hsource : decodeDateTime.Yields (encodeDateTime value.sourceTimestamp)
      value.sourceTimestamp)
    (hserver : decodeDateTime.Yields (encodeDateTime value.serverTimestamp)
      value.serverTimestamp)
    (h : (decodeVariant forms).Returns (encodeVariant forms value.value) sent) :
    (decodeDataValue forms).Returns (encodeDataValue forms value)
      (dataValueOnWire value sent) := by
  obtain ⟨value, qualifier, source, server, code⟩ := value
  obtain ⟨hvalue, hstatus, hsourceBit, hserverBit, hother, hpico, hpico'⟩ :=
    dataValueMask_bits (!variantIsNull value) (!codeIsGood code)
      (source.ticks != 0) (server.ticks != 0)
  rw [dataValueOnWire]
  dsimp only
  rw [← code_statusField hstatus, decodeDataValue_eq]
  refine (Scanner.Returns.of_yields (yields_uInt8 _)).bind ?_
  rw [if_neg (not_not.mpr hother)]
  refine Scanner.Returns.bind (a := if variantIsNull value then .null else sent)
    (returns_decodeIf (fun hset => ?_) ?_) ?_
  · have hfull : variantIsNull value = false := by simpa using hvalue.mp hset
    rw [hfull]
    exact h
  · intro hclear
    have hempty : variantIsNull value := by
      by_contra hne
      exact hvalue.mpr (by simpa using hne) hclear
    rw [if_pos hempty]
  · apply Scanner.Returns.of_yields
    refine (yields_statusField _ code).bind ?_
    refine (yields_dateTimeField hsourceBit hsource).bind ?_
    refine (yields_absent hpico _ _).bind ?_
    exact (yields_dateTimeField hserverBit hserver).bind_nil
      ((yields_absent hpico' _ _).bind_nil (.pure _))

/-- What is sent of a DataValue is what is on the wire, unless its value is an array
of null elements. -/
theorem dataValueOnWire_asSent {value : DataValue}
    (hnull : variantIsNull value.value → value.value = .null)
    (hcode : (Status.ofCode value.statusCode).code = value.statusCode) :
    dataValueOnWire value (asSent value.value) = dataValueAsSent value := by
  obtain ⟨value, qualifier, source, server, code⟩ := value
  have hvalue : (if variantIsNull value then .null else asSent value) =
      asSent value := by
    by_cases hempty : variantIsNull value
    · have hscalar : value = .null := hnull hempty
      rw [if_pos hempty, hscalar]
      rfl
    · exact if_neg hempty
  have hsent : (if codeIsGood code then .good else (Status.ofCode code).code) =
      codeAsSent code :=
    congrArg (fun other => if codeIsGood code then .good else other) hcode
  rw [dataValueOnWire, dataValueAsSent, DataValue.mk.injEq]
  exact ⟨hvalue, rfl, rfl, rfl, hsent⟩

theorem returns_dataValue_of_value {value : DataValue}
    (hsendable : DataValueSendable forms value)
    (h : (decodeVariant forms).Returns (encodeVariant forms value.value)
      (asSent value.value)) :
    (decodeDataValue forms).Returns (encodeDataValue forms value)
      (dataValueAsSent value) := by
  have hparts : (variantIsNull value.value → value.value = .null) ∧
      decodeDateTime.Yields (encodeDateTime value.sourceTimestamp)
        value.sourceTimestamp ∧
      decodeDateTime.Yields (encodeDateTime value.serverTimestamp)
        value.serverTimestamp ∧
      (Status.ofCode value.statusCode).code = value.statusCode := by
    obtain ⟨value, qualifier, source, server, code⟩ := value
    exact hsendable.2
  obtain ⟨hnull, hsource, hserver, hcode⟩ := hparts
  rw [← dataValueOnWire_asSent hnull hcode]
  exact returns_dataValueOnWire forms hsource hserver h

theorem encodeVariants_eq (values : List Variant) :
    encodeVariants forms values = joinedMap (encodeVariant forms) values := by
  induction values with
  | nil => rfl
  | cons value values ih => rw [encodeVariants, joinedMap, ih]

theorem variantsAsSent_eq (values : List Variant) :
    variantsAsSent values = values.map asSent := by
  induction values with
  | nil => rfl
  | cons value values ih => rw [variantsAsSent, List.map_cons, ih]

theorem encodeSharedDataValues_eq (values : List (Option DataValue)) :
    encodeSharedDataValues forms values =
      joinedMap (encodeSharedDataValue forms) values := by
  induction values with
  | nil => rfl
  | cons value values ih => rw [encodeSharedDataValues, joinedMap, ih]

theorem sharedDataValuesAsSent_eq (values : List (Option DataValue)) :
    sharedDataValuesAsSent values =
      values.map fun value => some (sharedDataValueAsSent value) := by
  induction values with
  | nil => rfl
  | cons value values ih => rw [sharedDataValuesAsSent, List.map_cons, ih]

theorem returns_element (type : PlainType) {value : type.Carrier}
    (h : LeafReturns forms type value) :
    (decodeElement forms (Scanners.nested (body forms)) type).Returns
      (encodeElement forms type value) value := by
  cases type with
  | diagnosticInfo => exact .of_yields (yields_diagnosticInfo forms value h)
  | _ => exact h _

theorem returns_plainArray (type : PlainType) {elements : List type.Carrier}
    (hfits : ArrayFits type elements.length)
    (h : ∀ element ∈ elements, LeafReturns forms type element) :
    (decodeVariant forms).Returns
      (joined (some (encodeArrayHead (.plain type) elements.length))
        (joinedMap (encodeElement forms type) elements))
      (.array type elements) := by
  apply returns_arrayHead
  by_cases hempty : type = .empty
  · subst hempty
    exact (returns_nullArray forms (hfits.2 rfl)).bind_pure
      (Variant.array .empty)
  · have helements := returns_array hfits.1
      (fun _ _ _ => encodeElement_ne_nil forms hempty)
      fun element helement => returns_element forms type (h element helement)
    rw [List.map_id'] at helements
    rw [decodeVariantArray_plain forms hempty]
    exact helements.bind_pure (Variant.array type)

theorem returns_emptyDataValue :
    (decodeDataValue forms).Returns (encodeSharedDataValue forms none)
      (sharedDataValueAsSent none) := by
  rw [decodeDataValue_eq]
  exact .of_yields ((yields_uInt8 0).bind_nil (.pure _))

theorem returns_nullVariant :
    (decodeVariant forms).Returns (encodeSharedVariant forms none)
      (sharedVariantAsSent none) := by
  rw [decodeVariant_eq]
  exact .of_yields ((yields_uInt8 0).bind_nil (.pure _))

mutual

/-- A sendable variant returns as it is sent: by recursion on the variant. -/
theorem returns_variant : (value : Variant) → Sendable forms value →
    (decodeVariant forms).Returns (encodeVariant forms value) (asSent value)
  | .scalar type value, h =>
      returns_scalar forms
        ((returns_element forms type h).bind_pure (Variant.scalar type))
  | .dataValue value, h =>
      returns_scalar forms
        (((returns_sharedDataValue value h).bind_pure some).bind_pure
          Variant.dataValue)
  | .variant value, h =>
      returns_scalar forms
        (((returns_sharedVariant value h).bind_pure some).bind_pure
          Variant.variant)
  | .array type elements, h => returns_plainArray forms type h.1 h.2
  | .dataValueArray elements, h => by
      have helements := returns_array h.1
        (fun _ _ _ => encodeSharedDataValue_ne_nil forms)
        fun value hvalue =>
          (returns_sharedDataValues elements h.2 value hvalue).bind_pure some
      rw [encodeVariant, asSent, encodeSharedDataValues_eq,
        sharedDataValuesAsSent_eq]
      exact returns_arrayHead forms (helements.bind_pure Variant.dataValueArray)
  | .variantArray elements, h => by
      have helements := returns_array h.1
        (fun _ _ _ => encodeVariant_ne_nil forms)
        (returns_variants elements h.2)
      rw [encodeVariant, asSent, encodeVariants_eq, variantsAsSent_eq]
      exact returns_arrayHead forms (helements.bind_pure Variant.variantArray)

theorem returns_dataValue : (value : DataValue) →
    DataValueSendable forms value →
    (decodeDataValue forms).Returns (encodeDataValue forms value)
      (dataValueAsSent value)
  | ⟨value, _, _, _, _⟩, h =>
      returns_dataValue_of_value forms h (returns_variant value h.1)

theorem returns_sharedDataValue : (value : Option DataValue) →
    SharedDataValueSendable forms value →
    (decodeDataValue forms).Returns (encodeSharedDataValue forms value)
      (sharedDataValueAsSent value)
  | none, _ => returns_emptyDataValue forms
  | some value, h => returns_dataValue value h

theorem returns_sharedVariant : (value : Option Variant) →
    SharedVariantSendable forms value →
    (decodeVariant forms).Returns (encodeSharedVariant forms value)
      (sharedVariantAsSent value)
  | none, _ => returns_nullVariant forms
  | some value, h => returns_variant value h

theorem returns_sharedDataValues : (values : List (Option DataValue)) →
    SharedDataValuesSendable forms values → ∀ value ∈ values,
    (decodeDataValue forms).Returns (encodeSharedDataValue forms value)
      (sharedDataValueAsSent value)
  | [], _ => fun _ hvalue => absurd hvalue List.not_mem_nil
  | value :: values, h =>
      List.forall_mem_cons.mpr
        ⟨returns_sharedDataValue value h.1, returns_sharedDataValues values h.2⟩

theorem returns_variants : (values : List Variant) →
    VariantsSendable forms values → ∀ value ∈ values,
    (decodeVariant forms).Returns (encodeVariant forms value) (asSent value)
  | [], _ => fun _ hvalue => absurd hvalue List.not_mem_nil
  | value :: values, h =>
      List.forall_mem_cons.mpr
        ⟨returns_variant value h.1, returns_variants values h.2⟩

end

/-- Whatever is encoded is decoded as it was sent, in front of any bytes, and those
are left. -/
theorem variants_return :
    (∀ value : Variant, Sendable forms value →
      (decodeVariant forms).Returns (encodeVariant forms value)
        (asSent value)) ∧
      (∀ value : DataValue, DataValueSendable forms value →
        (decodeDataValue forms).Returns (encodeDataValue forms value)
          (dataValueAsSent value)) ∧
      ∀ value : DiagnosticInfo, TextsReturn value →
        (decodeDiagnosticInfo forms).Yields (encodeDiagnosticInfo value) value :=
  ⟨returns_variant forms, returns_dataValue forms, yields_diagnosticInfo forms⟩

/-! ## A DataValue with a qualifier -/

theorem yields_dateTime {time : DateTime} (hmin : int64Min ≤ time.ticks)
    (hmax : time.ticks ≤ int64Max) :
    decodeDateTime.Yields (encodeDateTime time) time := by
  have hraw := (Int64.ofInt time.ticks).toUInt64.toNat_lt
  have hnumber := (follows_number (by norm_num)
    fun raw => (UInt64.ofNat raw).toInt64).yields
      (reads_littleEndian 8 hraw fun raw => (UInt64.ofNat raw).toInt64)
  rw [UInt64.ofNat_toNat] at hnumber
  have hticks : (Int64.ofInt time.ticks).toInt = time.ticks := by
    rw [int64Min] at hmin
    rw [int64Max] at hmax
    exact Int64.toInt_ofInt_of_le (by omega) (by omega)
  have htime := hnumber.bind_pure fun raw => ({ ticks := raw.toInt } : DateTime)
  rw [Int64.toInt64_toUInt64, hticks] at htime
  exact htime

def sampleForms : Representations where
  float := fun _ => Vector.replicate 4 0
  ofFloat := fun _ => 0
  double := fun _ => Vector.replicate 8 0
  ofDouble := fun _ => 0
  narrow := fun text => text.map UInt16.toUInt8
  widen := fun text => text.map UInt8.toUInt16

/-- A qualified value, next to an array of null elements. -/
def sampleVariant : Variant :=
  .variantArray
    [.dataValue
      (some
        { value := .scalar .int32 (7 : Int32)
          qualifier := 1
          sourceTimestamp := { ticks := 5 }
          serverTimestamp := {}
          statusCode := .badTypeMismatch }),
      .array .empty [(), ()]]

theorem sampleVariant_sendable : Sendable sampleForms sampleVariant := by
  refine ⟨by decide, ⟨?_, ?_, ?_, ?_, ?_⟩, ⟨⟨by decide, by decide⟩, ?_⟩, trivial⟩
  · exact fun _ => .of_yields (yields_int32 7)
  · intro hnull
    exact absurd hnull (by decide)
  · exact yields_dateTime (by decide) (by decide)
  · exact yields_dateTime (by decide) (by decide)
  · decide
  · exact fun _ _ _ => .pure ()

theorem sampleVariant_returns :
    (decodeVariant sampleForms).Returns
      (encodeVariant sampleForms sampleVariant) (asSent sampleVariant) :=
  (variants_return sampleForms).1 sampleVariant sampleVariant_sendable

theorem sampleVariant_not_returned :
    Sendable sampleForms sampleVariant ∧
      ¬ (decodeVariant sampleForms).Returns
        (encodeVariant sampleForms sampleVariant) sampleVariant := by
  refine ⟨sampleVariant_sendable, fun hreturns => ?_⟩
  have hsent := returns_variant sampleForms sampleVariant sampleVariant_sendable
  have hlength :
      (encodeVariant sampleForms sampleVariant).map List.length = some 29 := by
    decide
  obtain ⟨piece, hpiece, hpieceLength⟩ := Option.map_eq_some_iff.mp hlength
  rw [hpiece] at hsent hreturns
  have hsame : sampleVariant = asSent sampleVariant :=
    hreturns.unique (by rw [hpieceLength]; norm_num) hsent
  -- The two differ in the qualifier.
  simp [sampleVariant, asSent, variantsAsSent, sharedDataValueAsSent,
    dataValueAsSent] at hsame

end Bounded
end Binary
end OpcuaStack
