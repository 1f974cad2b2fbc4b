import OpcuaStack.ExtensionObjectRoundTrip
import OpcuaStack.TypeLayouts
import OpcuaStack.WireTypes

/-!
# The binary codec of the generated types

What `encode_definition` and `decode_definition` write for a structure: its members one
after the other, and an array as a count and its elements.  A value comes back from its
encoding with each Variant and DataValue as it is sent, whatever types it is made of.
-/

namespace OpcuaStack

open Binary Binary.Bounded
open TypeGenerator (Underlying)

def Binary.BuiltInType.Carrier : BuiltInType → Type
  | .plain type => type.Carrier
  | .dataValue => DataValue
  | .variant => Variant

def TypeGenerator.Underlying.plain : Underlying → PlainType
  | .uint8 => .uint8
  | .uint16 => .uint16
  | .int32 => .int32

/-! ## Values -/

mutual

/-- The C++ type of a layout. -/
def TypeLayout.Carrier : TypeLayout → Type
  | .builtIn type => type.Carrier
  | .enumeration underlying => underlying.plain.Carrier
  | .structure fields => fields.Carrier

def FieldLayouts.Carrier : FieldLayouts → Type
  | .nil => Unit
  | .single _ type rest => type.Carrier × rest.Carrier
  | .array _ type rest => List type.Carrier × rest.Carrier

end

variable (forms : Representations)

/-! ## The codec -/

def encodeBuiltIn : (type : BuiltInType) → type.Carrier → Option ByteString
  | .plain type, value => encodeElement forms type value
  | .dataValue, value => encodeDataValue forms value
  | .variant, value => encodeVariant forms value

def decodeBuiltIn : (type : BuiltInType) → Bounded.Decoder type.Carrier
  | .plain type => decodeElement forms (Scanners.nested (body forms)) type
  | .dataValue => decodeDataValue forms
  | .variant => decodeVariant forms

/-- `detail::EncodeArray`. -/
def encodeArrayWith {α : Type} (encode : α → Option ByteString) (values : List α) :
    Option ByteString :=
  joined (some (encodeInt32 (Int32.ofNat values.length))) (joinedMap encode values)

mutual

def TypeLayout.encode : (type : TypeLayout) → type.Carrier → Option ByteString
  | .builtIn type, value => encodeBuiltIn forms type value
  | .enumeration underlying, value => encodeElement forms underlying.plain value
  | .structure fields, value => fields.encode value

def FieldLayouts.encode : (fields : FieldLayouts) → fields.Carrier → Option ByteString
  | .nil, _ => some []
  | .single _ type rest, value => joined (type.encode value.1) (rest.encode value.2)
  | .array _ type rest, value =>
      joined (encodeArrayWith type.encode value.1) (rest.encode value.2)

end

mutual

def TypeLayout.decode : (type : TypeLayout) → Bounded.Decoder type.Carrier
  | .builtIn type => decodeBuiltIn forms type
  | .enumeration underlying =>
      decodeElement forms (Scanners.nested (body forms)) underlying.plain
  | .structure fields => fields.decode

def FieldLayouts.decode : (fields : FieldLayouts) → Bounded.Decoder fields.Carrier
  | .nil => Scanner.pure ()
  | .single _ type rest => do
      let value ← type.decode
      let others ← rest.decode
      return (value, others)
  | .array _ type rest => do
      let values ← WireType.decodeArray type.decode
      let others ← rest.decode
      return (values, others)

end

/-! ## Leaves -/

/-- What a plain value has to meet to come back. -/
def LeafFits : (type : PlainType) → type.Carrier → Prop
  | .float, (value : Double) => forms.ofFloat (forms.float value).toList = value
  | .double, (value : Double) => forms.ofDouble (forms.double value).toList = value
  | .string, (value : ByteText) => value.length < 2 ^ 31
  | .byteString, (value : ByteString) => value.length < 2 ^ 31
  | .xmlElement, (value : ByteText) => value.length < 2 ^ 31
  | .dateTime, (value : DateTime) => int64Min ≤ value.ticks ∧ value.ticks ≤ int64Max
  | .nodeId, (value : NodeId) => NodeIdentifier.Encodable value.identifier
  | .expandedNodeId, (value : ExpandedNodeId) => Carried value
  | .qualifiedName, (value : QualifiedName) => value.name.length < 2 ^ 31
  | .localizedText, (value : LocalizedText) =>
      value.locale.length < 2 ^ 31 ∧ (forms.narrow value.text).length < 2 ^ 31 ∧
        (value.text = [] → forms.widen [] = []) ∧
        (value.text ≠ [] → forms.widen (forms.narrow value.text) = value.text)
  | .extensionObject, (value : ExtensionObject) => HasBytes value
  | .diagnosticInfo, (value : DiagnosticInfo) => TextsReturn value
  | _, _ => True

variable {forms}

theorem yields_text {value : ByteString} (h : value.length < 2 ^ 31) :
    Bounded.decodeByteString.Yields (encodeByteString value) value :=
  follows_byteString.yields (reads_byteString h)

theorem yields_taken {α : Type} {width : ℕ} (hwidth : width < 2 ^ 63)
    (bytes : Vector UInt8 width) (make : ByteString → α) :
    Scanner.Yields (do
      let raw ← Scanner.take width
      return make raw) bytes.toList (make bytes.toList) := by
  have htake := Reads.take bytes.toList
  rw [Vector.length_toList] at htake
  exact ((Scanner.Follows.take hwidth).map make).yields (htake.map make)

theorem yields_int64 (value : Int64) : Bounded.decodeInt64.Yields (encodeInt64 value) value := by
  have hnumber := (follows_number (by norm_num)
    fun raw => (UInt64.ofNat raw).toInt64).yields
      (reads_littleEndian 8 value.toUInt64.toNat_lt fun raw => (UInt64.ofNat raw).toInt64)
  rwa [UInt64.ofNat_toNat, Int64.toInt64_toUInt64] at hnumber

theorem localizedTextMask_bits (locale text : Bool) :
    ((maskBit locale 0x01 ||| maskBit text 0x02) &&& 0x01 = 0 ↔ locale = false) ∧
      ((maskBit locale 0x01 ||| maskBit text 0x02) &&& 0x02 = 0 ↔ text = false) := by
  cases locale <;> cases text <;> decide

theorem yields_localizedText {value : LocalizedText}
    (hlocale : value.locale.length < 2 ^ 31) (htext : (forms.narrow value.text).length < 2 ^ 31)
    (hempty : value.text = [] → forms.widen [] = [])
    (hreturn : value.text ≠ [] → forms.widen (forms.narrow value.text) = value.text) :
    (decodeLocalizedText forms).Yields (encodeLocalizedText forms value) value := by
  obtain ⟨locale, text⟩ := value
  obtain ⟨hlocaleBit, htextBit⟩ := localizedTextMask_bits (!locale.isEmpty) (!text.isEmpty)
  refine (yields_uInt8 _).bind ?_
  refine (yields_decodeIf (fun _ => yields_text hlocale) fun hclear => ?_).bind ?_
  · cases locale with
    | nil => rfl
    | cons first rest => exact absurd (hlocaleBit.mp hclear) (by simp)
  by_cases hnone : text = []
  · have hclear := htextBit.mpr (by simp [hnone])
    rw [if_neg (not_not.mpr hclear)]
    have hread := (yields_absent hclear Bounded.decodeByteString []).bind_pure fun text =>
      ({ locale, text := forms.widen text } : LocalizedText)
    rw [hempty hnone, ← hnone] at hread
    exact hread
  · have hset := htextBit.not.mpr (by simpa using hnone)
    rw [if_pos hset, decodeIf, if_pos hset]
    have hread := (yields_text htext).bind_pure fun text =>
      ({ locale, text := forms.widen text } : LocalizedText)
    rwa [hreturn hnone] at hread

theorem leafReturns_of_fits {type : PlainType} {value : type.Carrier}
    (h : LeafFits forms type value) : LeafReturns forms type value := by
  cases type with
  | diagnosticInfo => exact h
  | expandedNodeId => exact fun _ => returns_expandedNodeId h
  | extensionObject => exact fun _ => returns_extensionObject h
  | empty => exact fun _ => .pure ()
  | bool =>
      have hbool : ∀ value : Bool, decodeBool.Yields (encodeBool value) value := by
        intro value
        have hraw : decide ((if value then (1 : UInt8) else 0) ≠ 0) = value := by
          cases value <;> decide
        have hread := (yields_uInt8 (if value then 1 else 0)).bind_pure
          fun raw => decide (raw ≠ 0)
        rwa [hraw] at hread
      exact fun _ => .of_yields (hbool value)
  | int8 => exact fun _ => .of_yields ((yields_uInt8 _).bind_pure UInt8.toInt8)
  | uint8 => exact fun _ => .of_yields (yields_uInt8 value)
  | int16 =>
      exact fun _ => .of_yields
        ((follows_uInt16.yields (reads_uInt16 _)).bind_pure UInt16.toInt16)
  | uint16 => exact fun _ => .of_yields (follows_uInt16.yields (reads_uInt16 value))
  | int32 => exact fun _ => .of_yields (yields_int32 value)
  | uint32 => exact fun _ => .of_yields (follows_uInt32.yields (reads_uInt32 value))
  | int64 => exact fun _ => .of_yields (yields_int64 value)
  | uint64 =>
      exact fun _ => .of_yields
        ((yields_int64 (UInt64.toInt64 value)).bind_pure Int64.toUInt64)
  | float =>
      intro _
      have hread := yields_taken (by norm_num) (forms.float value) forms.ofFloat
      rw [h] at hread
      exact .of_yields hread
  | double =>
      intro _
      have hread := yields_taken (by norm_num) (forms.double value) forms.ofDouble
      rw [h] at hread
      exact .of_yields hread
  | string => exact fun _ => .of_yields (yields_text h)
  | byteString => exact fun _ => .of_yields (yields_text h)
  | xmlElement => exact fun _ => .of_yields (yields_text h)
  | dateTime => exact fun _ => .of_yields (yields_dateTime h.1 h.2)
  | guid => exact fun _ => .of_yields (follows_guid.yields (reads_guid value))
  | nodeId => exact fun _ => .of_yields (yields_nodeId h)
  | statusCode => exact fun _ => .of_yields (yields_status value)
  | qualifiedName => exact fun _ => .of_yields (WireType.yields_qualifiedName h)
  | localizedText =>
      exact fun _ => .of_yields (yields_localizedText h.1 h.2.1 h.2.2.1 h.2.2.2)

/-! ## What takes bytes -/

mutual

/-- A value of this type takes at least one byte. -/
def TypeLayout.tangible : TypeLayout → Bool
  | .builtIn type => type != .plain .empty
  | .enumeration _ => true
  | .structure fields => fields.tangible

def FieldLayouts.tangible : FieldLayouts → Bool
  | .nil => false
  | .single _ type rest => type.tangible || rest.tangible
  | .array _ _ _ => true

end

theorem joined_ne_nil_of_right {first second : Option ByteString} {written : ByteString}
    (h : joined first second = some written) (hright : ∀ piece, second = some piece →
      piece ≠ []) : written ≠ [] := by
  obtain ⟨piece, next, -, hnext, rfl⟩ := exists_of_joined_eq_some h
  exact List.append_ne_nil_of_right_ne_nil piece (hright next hnext)

theorem joined_ne_nil_of_left {first second : Option ByteString} {written : ByteString}
    (h : joined first second = some written) (hleft : ∀ piece, first = some piece →
      piece ≠ []) : written ≠ [] := by
  obtain ⟨piece, next, hpiece, -, rfl⟩ := exists_of_joined_eq_some h
  exact List.append_ne_nil_of_left_ne_nil (hleft piece hpiece) next

theorem encodeBuiltIn_ne_nil {type : BuiltInType} (htype : type ≠ .plain .empty)
    {value : type.Carrier} {written : ByteString}
    (h : encodeBuiltIn forms type value = some written) : written ≠ [] := by
  cases type with
  | plain type => exact encodeElement_ne_nil forms (fun heq => htype (heq ▸ rfl)) h
  | dataValue => exact @encodeSharedDataValue_ne_nil forms (some value) _ h
  | variant => exact encodeVariant_ne_nil forms h

mutual

theorem TypeLayout.encode_ne_nil : (type : TypeLayout) → type.tangible →
    (value : type.Carrier) → ∀ written, type.encode forms value = some written →
      written ≠ []
  | .builtIn type, htangible, value => fun written h =>
      encodeBuiltIn_ne_nil (bne_iff_ne.mp htangible) h
  | .enumeration underlying, _, value => fun written h =>
      @encodeElement_ne_nil forms underlying.plain (by cases underlying <;> decide)
        value written h
  | .structure fields, htangible, value => fields.encode_ne_nil htangible value

theorem FieldLayouts.encode_ne_nil : (fields : FieldLayouts) → fields.tangible →
    (value : fields.Carrier) → ∀ written, fields.encode forms value = some written →
      written ≠ []
  | .nil, htangible, _ => absurd htangible (by decide)
  | .single name type rest, htangible, value => by
      intro written h
      rcases Bool.or_eq_true_iff.mp htangible with htype | hrest
      · exact joined_ne_nil_of_left h (type.encode_ne_nil htype value.1)
      · exact joined_ne_nil_of_right h (rest.encode_ne_nil hrest value.2)
  | .array name type rest, _, value => by
      intro written h
      refine joined_ne_nil_of_left h fun piece hpiece => ?_
      exact joined_ne_nil_of_left hpiece fun count hcount => by
        rw [← Option.some.inj hcount]
        simp [encodeInt32, encodeUInt32, littleEndian]

end

/-! ## Values which come back -/

def builtInAsSent : (type : BuiltInType) → type.Carrier → type.Carrier
  | .plain _, value => value
  | .dataValue, value => dataValueAsSent value
  | .variant, value => asSent value

mutual

/-- The value that arrives. -/
def TypeLayout.asSent : (type : TypeLayout) → type.Carrier → type.Carrier
  | .builtIn type, value => builtInAsSent type value
  | .enumeration _, value => value
  | .structure fields, value => fields.asSent value

def FieldLayouts.asSent : (fields : FieldLayouts) → fields.Carrier → fields.Carrier
  | .nil, value => value
  | .single _ type rest, value => (type.asSent value.1, rest.asSent value.2)
  | .array _ type rest, value => (value.1.map type.asSent, rest.asSent value.2)

end

variable (forms)

def BuiltInFits : (type : BuiltInType) → type.Carrier → Prop
  | .plain type, value => LeafFits forms type value
  | .dataValue, value => DataValueSendable forms value
  | .variant, value => Sendable forms value

mutual

/-- The leaves come back, the counts can be written, and no array has elements of which
no trace is left in the bytes. -/
def TypeLayout.Fits : (type : TypeLayout) → type.Carrier → Prop
  | .builtIn type, value => BuiltInFits forms type value
  | .enumeration _, _ => True
  | .structure fields, value => fields.Fits value

def FieldLayouts.Fits : (fields : FieldLayouts) → fields.Carrier → Prop
  | .nil, _ => True
  | .single _ type rest, value => type.Fits value.1 ∧ rest.Fits value.2
  | .array _ type rest, value =>
      (value.1.length < 2 ^ 31 ∧ (value.1 = [] ∨ type.tangible) ∧
        ∀ element ∈ value.1, type.Fits element) ∧ rest.Fits value.2

end

variable {forms}

theorem returns_builtIn {type : BuiltInType} {value : type.Carrier}
    (h : BuiltInFits forms type value) :
    (decodeBuiltIn forms type).Returns (encodeBuiltIn forms type value)
      (builtInAsSent type value) := by
  cases type with
  | plain type => exact returns_element forms type (leafReturns_of_fits h)
  | dataValue => exact returns_dataValue forms value h
  | variant => exact returns_variant forms value h

/-- An array whose elements take bytes is read as long as it was written. -/
theorem returns_arrayWith {α : Type} {element : Bounded.Decoder α}
    {encode : α → Option ByteString} {sent : α → α} {values : List α}
    (hcount : values.length < 2 ^ 31)
    (hne : ∀ value ∈ values, ∀ written, encode value = some written → written ≠ [])
    (h : ∀ value ∈ values, element.Returns (encode value) (sent value)) :
    (WireType.decodeArray element).Returns (encodeArrayWith encode values)
      (values.map sent) := by
  obtain ⟨hnonneg, hlength⟩ := toNatClampNeg_ofNat hcount
  refine (Scanner.Returns.of_yields (yields_int32 _)).bind ?_
  by_cases hnull : Int32.ofNat values.length ≤ 0
  · -- Only the count of an empty array is not positive.
    have hempty : values.length = 0 := by
      rw [← hlength]
      have hzero : Int32.ofNat values.length = 0 := by
        rw [← Int32.toInt_inj]
        rw [Int32.lt_iff_toInt_lt] at hnonneg
        rw [Int32.le_iff_toInt_le] at hnull
        exact le_antisymm hnull (not_lt.mp hnonneg)
      rw [hzero]
      rfl
    rw [if_pos hnull, List.length_eq_zero_iff.mp hempty]
    exact .pure []
  · rw [if_neg hnull, hlength]
    exact (Scanner.Returns.repeated values h).guarded fun piece hpiece =>
      length_le_of_joinedMap hpiece hne

mutual

/-- By induction on the layout: every type is read back as its parts are. -/
theorem TypeLayout.returns : (type : TypeLayout) → (value : type.Carrier) →
    type.Fits forms value →
      (type.decode forms).Returns (type.encode forms value) (type.asSent value)
  | .builtIn type, _, h => @returns_builtIn forms type _ h
  | .enumeration underlying, value, _ =>
      @returns_element forms underlying.plain value
        (leafReturns_of_fits (by cases underlying <;> trivial))
  | .structure fields, value, h => fields.returns value h

theorem FieldLayouts.returns : (fields : FieldLayouts) → (value : fields.Carrier) →
    fields.Fits forms value →
      (fields.decode forms).Returns (fields.encode forms value) (fields.asSent value)
  | .nil, _, _ => .pure ()
  | .single _ type rest, value, h =>
      (type.returns value.1 h.1).bind
        ((rest.returns value.2 h.2).bind_pure fun others => (type.asSent value.1, others))
  | .array _ type rest, value, h => by
      have htangible : ∀ element ∈ value.1, ∀ written,
          type.encode forms element = some written → written ≠ [] := by
        intro element hmem
        rcases h.1.2.1 with hempty | htangible
        · rw [hempty] at hmem
          exact absurd hmem List.not_mem_nil
        · exact type.encode_ne_nil htangible element
      have harray := returns_arrayWith h.1.1 htangible
        fun element hmem => type.returns element (h.1.2.2 element hmem)
      exact harray.bind ((rest.returns value.2 h.2).bind_pure
        fun others => (value.1.map type.asSent, others))

end

/-! ## Whole bodies -/

/-- A structure comes back from the body that is written for it, its Variants as they
are sent. -/
theorem TypeLayout.decodeBody_encode {type : TypeLayout} {value : type.Carrier}
    (h : type.Fits forms value) :
    ∃ body, type.encode forms value = some body ∧
      (body.length < 2 ^ 63 →
        WireType.decodeBody (type.decode forms) body = some (type.asSent value)) := by
  obtain ⟨body, hbody, hyields⟩ := type.returns value h
  exact ⟨body, hbody, fun hfits => WireType.decodeBody_of_yields hfits hyields⟩

mutual

/-- There is no Variant and no DataValue in the type, so nothing changes on the way. -/
def TypeLayout.plain : TypeLayout → Bool
  | .builtIn (.plain _) => true
  | .builtIn .dataValue => false
  | .builtIn .variant => false
  | .enumeration _ => true
  | .structure fields => fields.plain

def FieldLayouts.plain : FieldLayouts → Bool
  | .nil => true
  | .single _ type rest => type.plain && rest.plain
  | .array _ type rest => type.plain && rest.plain

end

mutual

theorem TypeLayout.asSent_of_plain : (type : TypeLayout) → type.plain →
    (value : type.Carrier) → type.asSent value = value
  | .builtIn (.plain _), _, _ => rfl
  | .builtIn .dataValue, hplain, _ => absurd hplain (by decide)
  | .builtIn .variant, hplain, _ => absurd hplain (by decide)
  | .enumeration _, _, _ => rfl
  | .structure fields, hplain, value => fields.asSent_of_plain hplain value

theorem FieldLayouts.asSent_of_plain : (fields : FieldLayouts) → fields.plain →
    (value : fields.Carrier) → fields.asSent value = value
  | .nil, _, _ => rfl
  | .single name type rest, hplain, value => by
      obtain ⟨htype, hrest⟩ := (Bool.and_eq_true _ _).mp hplain
      rw [FieldLayouts.asSent, type.asSent_of_plain htype, rest.asSent_of_plain hrest]
      rfl
  | .array name type rest, hplain, value => by
      obtain ⟨htype, hrest⟩ := (Bool.and_eq_true _ _).mp hplain
      have helements : value.1.map type.asSent = value.1 :=
        List.map_id'' (type.asSent_of_plain htype) value.1
      rw [FieldLayouts.asSent, rest.asSent_of_plain hrest, helements]
      rfl

end

theorem TypeLayout.exists_body {type : TypeLayout} (hplain : type.plain)
    {value : type.Carrier} (h : type.Fits forms value) :
    ∃ body, type.encode forms value = some body ∧
      (body.length < 2 ^ 63 →
        WireType.decodeBody (type.decode forms) body = some value) := by
  obtain ⟨body, hbody, hyields⟩ := type.returns value h
  rw [type.asSent_of_plain hplain] at hyields
  exact ⟨body, hbody, fun hfits => WireType.decodeBody_of_yields hfits hyields⟩

/-- `WriteRequest::nodes_to_write`, without the node. -/
def writeValues : TypeLayout :=
  .structure (.array "NodesToWrite" (.structure (.single "AttributeId" (.builtIn (.plain .uint32))
    (.single "IndexRange" (.builtIn (.plain .string))
      (.single "Value" (.builtIn .dataValue) .nil)))) .nil)

def sampleWriteValues : writeValues.Carrier :=
  ([((13 : UInt32), [0x31],
    { value := .null, qualifier := 0, sourceTimestamp := {}, serverTimestamp := {},
      statusCode := .good }, ())], ())

theorem sampleWriteValues_fits : writeValues.Fits sampleForms sampleWriteValues := by
  have hstamp : decodeDateTime.Yields (encodeDateTime {}) {} :=
    yields_dateTime (by decide) (by decide)
  refine ⟨⟨by decide, .inr rfl, ?_⟩, trivial⟩
  intro element hmem
  obtain rfl := List.mem_singleton.mp hmem
  refine ⟨trivial, (by decide : 1 < 2 ^ 31), ?_, trivial⟩
  exact ⟨fun _ => .pure (), fun _ => rfl, hstamp, hstamp, by decide⟩

theorem sampleWriteValues_returns :
    ∃ body, writeValues.encode sampleForms sampleWriteValues = some body ∧
      (body.length < 2 ^ 63 → WireType.decodeBody (writeValues.decode sampleForms) body =
        some (writeValues.asSent sampleWriteValues)) :=
  TypeLayout.decodeBody_encode sampleWriteValues_fits

end OpcuaStack
