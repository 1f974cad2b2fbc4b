import OpcuaStack.GeneratedCodec
import OpcuaStack.NotificationBodies

/-!
# The JSON codec of the generated types

What `encode_json_definition` and `decode_json_definition` write for a structure: a
member for each field under its name in the schema, none for an empty array or for a
built-in value which `IsDefault` accepts.  The members are found by their names, so their
order does not matter, nor do members which no field has.
-/

namespace OpcuaStack

open Json
open Binary (BuiltInType)

variable (texts : Texts)

/-! ## Values which are not written -/

/-- The value of a member which nothing is assigned to. -/
def defaultElement : (type : PlainType) → type.Carrier
  | .empty => ()
  | .bool => false
  | .int8 => (0 : Int8)
  | .uint8 => (0 : UInt8)
  | .int16 => (0 : Int16)
  | .uint16 => (0 : UInt16)
  | .int32 => (0 : Int32)
  | .uint32 => (0 : UInt32)
  | .int64 => (0 : Int64)
  | .uint64 => (0 : UInt64)
  | .float => (0 : Double)
  | .double => (0 : Double)
  | .string => ([] : ByteText)
  | .dateTime => ({} : DateTime)
  | .guid => ({} : Guid)
  | .byteString => ([] : ByteString)
  | .xmlElement => ([] : ByteText)
  | .nodeId => ({} : NodeId)
  | .expandedNodeId => ({} : ExpandedNodeId)
  | .statusCode => Status.good
  | .qualifiedName => ({} : QualifiedName)
  | .localizedText => ({} : LocalizedText)
  | .extensionObject => ({} : ExtensionObject)
  | .diagnosticInfo => noDiagnosticInfo

/-- `IsDefault` of a plain type.  Of an ExtensionObject it looks at the NodeId and the
body only. -/
def isDefaultElement : (type : PlainType) → type.Carrier → Bool
  | .empty, _ => true
  | .bool, (value : Bool) => !value
  | .int8, (value : Int8) => value == 0
  | .uint8, (value : UInt8) => value == 0
  | .int16, (value : Int16) => value == 0
  | .uint16, (value : UInt16) => value == 0
  | .int32, (value : Int32) => value == 0
  | .uint32, (value : UInt32) => value == 0
  | .int64, (value : Int64) => value == 0
  | .uint64, (value : UInt64) => value == 0
  | .float, (value : Double) => value == 0
  | .double, (value : Double) => value == 0
  | .string, (value : ByteText) => value.isEmpty
  | .dateTime, (value : DateTime) => value.ticks == 0
  | .guid, (value : Guid) => value == {}
  | .byteString, (value : ByteString) => value.isEmpty
  | .xmlElement, (value : ByteText) => value.isEmpty
  | .nodeId, (value : NodeId) => value == {}
  | .expandedNodeId, (value : ExpandedNodeId) =>
      value.nodeId == {} && value.namespaceUri.isEmpty && value.serverIndex == 0
  | .statusCode, (value : Status) => value.fullCode == 0
  | .qualifiedName, (value : QualifiedName) =>
      value.namespaceIndex == 0 && value.name.isEmpty
  | .localizedText, (value : LocalizedText) => value.locale.isEmpty && value.text.isEmpty
  | .extensionObject, (value : ExtensionObject) =>
      value.dataTypeId.nodeId == {} &&
        match value.value with
        | .empty => true
        | _ => false
  | .diagnosticInfo, (value : DiagnosticInfo) =>
      match value with
      | .mk none none none none none none none => true
      | _ => false

def defaultBuiltIn : (type : BuiltInType) → type.Carrier
  | .plain type => defaultElement type
  | .dataValue => noDataValue
  | .variant => Variant.null

/-- `IsDefault`.  A DataValue holds a null Variant, scalar or array, and no qualifier. -/
def isDefaultBuiltIn : (type : BuiltInType) → type.Carrier → Bool
  | .plain type, value => isDefaultElement type value
  | .dataValue, (value : DataValue) => dataValueIsDefault value
  | .variant, (value : Variant) => isNullScalar value

def encodeBuiltInJson : (type : BuiltInType) → type.Carrier → Except Thrown JsonValue
  | .plain type, value => .ok (encodeElement texts type value)
  | .dataValue, value => encodeDataValue texts value
  | .variant, value => encodeVariant texts value

def decodeBuiltInJson : (type : BuiltInType) → JsonValue → Except Thrown type.Carrier
  | .plain type => decodeElement texts type
  | .dataValue => decodeDataValue texts
  | .variant => decodeVariant texts

/-! ## The codec -/

/-- `EncodeJsonArray`. -/
def encodeJsonArray {α : Type} (encode : α → Except Thrown JsonValue) (values : List α) :
    Except Thrown JsonValue :=
  .array <$> values.mapM encode

def encodeJsonMember (name : String) (omitted : Bool) (json : Except Thrown JsonValue) :
    Except Thrown Members :=
  if omitted then .ok [] else (fun json => member name (some json)) <$> json

/-- Only a built-in value may be left out. -/
def TypeLayout.omits : (type : TypeLayout) → type.Carrier → Bool
  | .builtIn type, value => isDefaultBuiltIn type value
  | .enumeration _, _ => false
  | .structure _, _ => false

mutual

def TypeLayout.encodeJson : (type : TypeLayout) → type.Carrier → Except Thrown JsonValue
  | .builtIn type, value => encodeBuiltInJson texts type value
  | .enumeration underlying, value => .ok (encodeElement texts underlying.plain value)
  | .structure fields, value => .object <$> fields.encodeJson value

def FieldLayouts.encodeJson : (fields : FieldLayouts) → fields.Carrier →
    Except Thrown Members
  | .nil, _ => .ok []
  | .single name type rest, value => do
      let first ← encodeJsonMember name (type.omits value.1) (type.encodeJson value.1)
      let others ← rest.encodeJson value.2
      return first ++ others
  | .array name type rest, value => do
      let first ← encodeJsonMember name value.1.isEmpty
        (encodeJsonArray type.encodeJson value.1)
      let others ← rest.encodeJson value.2
      return first ++ others

end

mutual

def TypeLayout.default : (type : TypeLayout) → type.Carrier
  | .builtIn type => defaultBuiltIn type
  | .enumeration underlying => defaultElement underlying.plain
  | .structure fields => fields.default

def FieldLayouts.default : (fields : FieldLayouts) → fields.Carrier
  | .nil => ()
  | .single _ type rest => (type.default, rest.default)
  | .array _ _ rest => ([], rest.default)

end

def FieldLayouts.isEmpty : FieldLayouts → Bool
  | .nil => true
  | _ => false

mutual

/-- The source of a structure without fields is not looked at. -/
def TypeLayout.decodeJson : (type : TypeLayout) → JsonValue → Except Thrown type.Carrier
  | .builtIn type, json => decodeBuiltInJson texts type json
  | .enumeration underlying, json => decodeElement texts underlying.plain json
  | .structure fields, json => do
      let members ← if fields.isEmpty then .ok [] else requireObject json
      fields.decodeJson members

def FieldLayouts.decodeJson : (fields : FieldLayouts) → Members →
    Except Thrown fields.Carrier
  | .nil, _ => .ok ()
  | .single name type rest, members => do
      let value ← readMember name type.decodeJson type.default members
      let others ← rest.decodeJson members
      return (value, others)
  | .array name type rest, members => do
      let values ← readArray name type.decodeJson members
      let others ← rest.decodeJson members
      return (values, others)

end

/-! ## What arrives -/

mutual

/-- A member which was left out arrives as its default. -/
def TypeLayout.asJson : (type : TypeLayout) → type.Carrier → type.Carrier
  | .builtIn _, value => value
  | .enumeration _, value => value
  | .structure fields, value => fields.asJson value

def FieldLayouts.asJson : (fields : FieldLayouts) → fields.Carrier → fields.Carrier
  | .nil, value => value
  | .single _ type rest, value =>
      (if type.omits value.1 then type.default else type.asJson value.1, rest.asJson value.2)
  | .array _ type rest, value => (value.1.map type.asJson, rest.asJson value.2)

end

def FieldLayouts.names : FieldLayouts → List String
  | .nil => []
  | .single name _ rest => name :: rest.names
  | .array name _ rest => name :: rest.names

mutual

/-- No structure has two fields of one name. -/
def TypeLayout.distinct : TypeLayout → Bool
  | .builtIn _ => true
  | .enumeration _ => true
  | .structure fields => decide (fields.names.map asciiText).Nodup && fields.distinct

def FieldLayouts.distinct : FieldLayouts → Bool
  | .nil => true
  | .single _ type rest => type.distinct && rest.distinct
  | .array _ type rest => type.distinct && rest.distinct

end

def BuiltInReturns : (type : BuiltInType) → type.Carrier → Prop
  | .plain type, value => LeafReturns texts type value
  | .dataValue, value => DataValueRoundTrips texts value
  | .variant, value => RoundTrips texts value

mutual

/-- Whatever is written of a built-in type comes back. -/
def TypeLayout.JsonFits : (type : TypeLayout) → type.Carrier → Prop
  | .builtIn type, value => BuiltInReturns texts type value
  | .enumeration _, _ => True
  | .structure fields, value => fields.JsonFits value

def FieldLayouts.JsonFits : (fields : FieldLayouts) → fields.Carrier → Prop
  | .nil, _ => True
  | .single _ type rest, value =>
      (type.omits value.1 = false → type.JsonFits value.1) ∧ rest.JsonFits value.2
  | .array _ type rest, value =>
      (∀ element ∈ value.1, type.JsonFits element) ∧ rest.JsonFits value.2

end

variable {texts}

/-! ## Members -/

theorem narrowUnsigned_uint64 {width : ℕ} {value : UInt64} (h : value.toNat < 2 ^ width) :
    narrowUnsigned width (.uint64 value) = .ok value.toNat :=
  if_neg (not_le.mpr h)

theorem narrowSigned_int64 {width : ℕ} {value : Int} (hlow : -2 ^ (width - 1) ≤ value)
    (hhigh : value < 2 ^ (width - 1)) :
    narrowSigned width (.int64 value) = .ok value :=
  if_neg (not_or.mpr ⟨not_lt.mpr hlow, not_le.mpr hhigh⟩)

theorem leafReturns_underlying (underlying : TypeGenerator.Underlying)
    (value : underlying.plain.Carrier) : LeafReturns texts underlying.plain value := by
  cases underlying with
  | uint8 =>
      change UInt8 at value
      change UInt8.ofNat <$> narrowUnsigned 8 (.uint64 value.toUInt64) = _
      rw [narrowUnsigned_uint64 (by simpa using value.toNat_lt)]
      exact congrArg Except.ok (by simp)
  | uint16 =>
      change UInt16 at value
      change UInt16.ofNat <$> narrowUnsigned 16 (.uint64 value.toUInt64) = _
      rw [narrowUnsigned_uint64 (by simpa using value.toNat_lt)]
      exact congrArg Except.ok (by simp)
  | int32 =>
      change Int32 at value
      change Int32.ofInt <$> narrowSigned 32 (.int64 value.toInt) = _
      rw [narrowSigned_int64 value.le_toInt value.toInt_lt]
      exact congrArg Except.ok (by simp)

/-- Members of some names, and of no others. -/
def OnlyOf (names : List String) (members : Members) : Prop :=
  ∀ name, asciiText name ∉ names.map asciiText → ifContains members name = none

/-- Two objects with the same values under some names. -/
def SameUnder (names : List String) (members others : Members) : Prop :=
  ∀ name ∈ names, ifContains members name = ifContains others name

theorem OnlyOf.cons {names : List String} {members : Members} (h : OnlyOf names members)
    (name : String) (value : Option JsonValue) :
    OnlyOf (name :: names) (member name value ++ members) := by
  intro other hother
  rw [List.map_cons, List.mem_cons, not_or] at hother
  rw [ifContains_other hother.1, h other hother.2]

/-- Behind the first member the others are found as if it was not there. -/
theorem SameUnder.tail {names : List String} {name : String} {value : Option JsonValue}
    {members all : Members} (hnew : asciiText name ∉ names.map asciiText)
    (h : SameUnder (name :: names) all (member name value ++ members)) :
    SameUnder names all members := by
  intro other hmem
  rw [h other (List.mem_cons_of_mem _ hmem), ifContains_other]
  intro hsame
  apply hnew
  rw [← hsame]
  exact List.mem_map_of_mem hmem

theorem SameUnder.head {names : List String} {name : String} {value : Option JsonValue}
    {members all : Members} (honly : OnlyOf names members)
    (hnew : asciiText name ∉ names.map asciiText)
    (h : SameUnder (name :: names) all (member name value ++ members)) :
    ifContains all name = value := by
  rw [h name List.mem_cons_self, ifContains_member rfl, honly name hnew, Option.or_none]

theorem encodeJsonMember_ok {name : String} {omitted : Bool} {json : Except Thrown JsonValue}
    {value : JsonValue} (h : omitted = false → json = .ok value) :
    encodeJsonMember name omitted json = .ok (member name (omittedIf omitted value)) := by
  cases omitted with
  | true => rfl
  | false =>
      rw [h rfl]
      rfl

theorem readMember_written {α : Type} {name : String} {decode : JsonValue → Except Thrown α}
    {omitted : Bool} {json : JsonValue} {value default : α} {members : Members}
    (hmember : ifContains members name = omittedIf omitted json)
    (h : omitted = false → decode json = .ok value) :
    readMember name decode default members =
      .ok (if omitted then default else value) := by
  rw [readMember, decodeMember, hmember]
  cases omitted with
  | true => rfl
  | false =>
      change (·.getD default) <$> (some <$> decode json) = _
      rw [h rfl]
      rfl

/-! ## Round trip -/

theorem mapM_returns {α : Type} {encode : α → Except Thrown JsonValue}
    {decode : JsonValue → Except Thrown α} {sent : α → α} {values : List α}
    (h : ∀ value ∈ values, ∃ json, encode value = .ok json ∧ decode json = .ok (sent value)) :
    ∃ json, values.mapM encode = .ok json ∧ json.mapM decode = .ok (values.map sent) := by
  induction values with
  | nil => exact ⟨[], rfl, rfl⟩
  | cons value values ih =>
      obtain ⟨first, hfirst, hread⟩ := h value (by simp)
      obtain ⟨rest, hrest, hothers⟩ := ih fun other hmem => h other (by simp [hmem])
      refine ⟨first :: rest, ?_, ?_⟩
      · rw [List.mapM_cons, hfirst, hrest]
        rfl
      · rw [List.mapM_cons, hread, hothers]
        rfl

theorem distinct_structure {fields : FieldLayouts}
    (h : (TypeLayout.structure fields).distinct) :
    (fields.names.map asciiText).Nodup ∧ fields.distinct :=
  ((Bool.and_eq_true _ _).mp h).imp_left of_decide_eq_true

mutual

theorem TypeLayout.json_returns : (type : TypeLayout) → type.distinct →
    (value : type.Carrier) → type.JsonFits texts value →
      ∃ json, type.encodeJson texts value = .ok json ∧
        type.decodeJson texts json = .ok (type.asJson value)
  | .builtIn (.plain type), _, value, h => ⟨encodeElement texts type value, rfl, h⟩
  | .builtIn .dataValue, _, value, h => h
  | .builtIn .variant, _, value, h => h
  | .enumeration underlying, _, value, _ =>
      ⟨encodeElement texts underlying.plain value, rfl, leafReturns_underlying underlying value⟩
  | .structure fields, hdistinct, value, h => by
      obtain ⟨hnames, hfields⟩ := distinct_structure hdistinct
      obtain ⟨members, hwritten, -, hread⟩ := fields.json_returns hnames hfields value h
      refine ⟨.object members, ?_, ?_⟩
      · rw [TypeLayout.encodeJson, hwritten]
        rfl
      · rw [TypeLayout.decodeJson]
        cases fields with
        | nil => exact hread [] (by simp [SameUnder, FieldLayouts.names])
        | single _ _ _ => exact hread members fun _ _ => rfl
        | array _ _ _ => exact hread members fun _ _ => rfl

theorem FieldLayouts.json_returns : (fields : FieldLayouts) →
    (fields.names.map asciiText).Nodup → fields.distinct →
      (value : fields.Carrier) → fields.JsonFits texts value →
        ∃ members, fields.encodeJson texts value = .ok members ∧
          OnlyOf fields.names members ∧
            ∀ all, SameUnder fields.names all members →
              fields.decodeJson texts all = .ok (fields.asJson value)
  | .nil, _, _, _, _ => ⟨[], rfl, fun _ _ => rfl, fun _ _ => rfl⟩
  | .single name type rest, hnames, hdistinct, value, h => by
      obtain ⟨hnew, hnames⟩ := List.nodup_cons.mp hnames
      obtain ⟨htype, hfields⟩ := (Bool.and_eq_true _ _).mp hdistinct
      obtain ⟨others, hothers, honly, hrest⟩ := rest.json_returns hnames hfields value.2 h.2
      obtain ⟨json, hwritten, hread⟩ : ∃ json,
          (type.omits value.1 = false → type.encodeJson texts value.1 = .ok json) ∧
            (type.omits value.1 = false →
              type.decodeJson texts json = .ok (type.asJson value.1)) := by
        cases homits : type.omits value.1 with
        | true => exact ⟨.null, nofun, nofun⟩
        | false =>
            obtain ⟨json, hwritten, hread⟩ :=
              type.json_returns htype value.1 (h.1 homits)
            exact ⟨json, fun _ => hwritten, fun _ => hread⟩
      refine ⟨_, ?_, honly.cons name (omittedIf (type.omits value.1) json), ?_⟩
      · rw [FieldLayouts.encodeJson, encodeJsonMember_ok hwritten, hothers]
        rfl
      · intro all hall
        rw [FieldLayouts.decodeJson, readMember_written (hall.head honly hnew) hread,
          hrest all (hall.tail hnew)]
        rfl
  | .array name type rest, hnames, hdistinct, value, h => by
      obtain ⟨hnew, hnames⟩ := List.nodup_cons.mp hnames
      obtain ⟨htype, hfields⟩ := (Bool.and_eq_true _ _).mp hdistinct
      obtain ⟨others, hothers, honly, hrest⟩ := rest.json_returns hnames hfields value.2 h.2
      obtain ⟨elements, hwritten, hread⟩ := mapM_returns fun element hmem =>
        type.json_returns htype element (h.1 element hmem)
      have harray : encodeJsonArray (type.encodeJson texts) value.1 = .ok (.array elements) := by
        rw [encodeJsonArray, hwritten]
        rfl
      refine ⟨_, ?_, honly.cons name (omittedIf value.1.isEmpty (.array elements)), ?_⟩
      · rw [FieldLayouts.encodeJson, encodeJsonMember_ok fun _ => harray, hothers]
        rfl
      · intro all hall
        have hmember : readArray name (type.decodeJson texts) all =
            .ok (value.1.map type.asJson) := by
          have hvalues : readMember name (decodeJsonArray (type.decodeJson texts)) [] all =
              .ok (if value.1.isEmpty then [] else value.1.map type.asJson) :=
            readMember_written (hall.head honly hnew) fun _ => hread
          rw [readArray, hvalues]
          cases hempty : value.1 <;> simp
        rw [FieldLayouts.decodeJson, hmember, hrest all (hall.tail hnew)]
        rfl

end

/-! ## Values which arrive as they were -/

/-- The value is told from the default by `IsDefault`. -/
def BuiltInType.told : BuiltInType → Bool
  | .plain type => type != .extensionObject
  | .dataValue => false
  | .variant => true

mutual

/-- No field is a single ExtensionObject or DataValue. -/
def TypeLayout.told : TypeLayout → Bool
  | .builtIn _ => true
  | .enumeration _ => true
  | .structure fields => fields.told

def FieldLayouts.told : FieldLayouts → Bool
  | .nil => true
  | .single _ (.builtIn type) rest => BuiltInType.told type && rest.told
  | .single _ type rest => type.told && rest.told
  | .array _ type rest => type.told && rest.told

end

theorem eq_defaultElement {type : PlainType} (htype : type ≠ .extensionObject)
    {value : type.Carrier} (h : isDefaultElement type value) : value = defaultElement type := by
  cases type with
  | extensionObject => exact absurd rfl htype
  | diagnosticInfo =>
      change DiagnosticInfo at value
      simp only [isDefaultElement] at h
      split at h
      · rfl
      · cases h
  | dateTime => exact congrArg DateTime.mk (beq_iff_eq.mp h)
  | statusCode => exact congrArg Status.mk (beq_iff_eq.mp h)
  | string | byteString | xmlElement => exact List.isEmpty_iff.mp h
  | empty => rfl
  | bool =>
      change Bool at value
      cases value with
      | false => rfl
      | true => cases h
  | guid => exact @eq_of_beq Guid _ _ _ _ h
  | nodeId => exact @eq_of_beq NodeId _ _ _ _ h
  | int8 => exact @eq_of_beq Int8 _ _ _ _ h
  | uint8 => exact @eq_of_beq UInt8 _ _ _ _ h
  | int16 => exact @eq_of_beq Int16 _ _ _ _ h
  | uint16 => exact @eq_of_beq UInt16 _ _ _ _ h
  | int32 => exact @eq_of_beq Int32 _ _ _ _ h
  | uint32 => exact @eq_of_beq UInt32 _ _ _ _ h
  | int64 => exact @eq_of_beq Int64 _ _ _ _ h
  | uint64 => exact @eq_of_beq UInt64 _ _ _ _ h
  | float | double => exact @eq_of_beq Double _ _ _ _ h
  | expandedNodeId =>
      change ExpandedNodeId at value
      simp only [isDefaultElement, Bool.and_eq_true, beq_iff_eq, List.isEmpty_iff] at h
      exact (ExpandedNodeId.mk.injEq ..).mpr ⟨h.1.1, h.1.2, h.2⟩
  | qualifiedName =>
      change QualifiedName at value
      simp only [isDefaultElement, Bool.and_eq_true, beq_iff_eq, List.isEmpty_iff] at h
      exact (QualifiedName.mk.injEq ..).mpr ⟨h.2, h.1⟩
  | localizedText =>
      change LocalizedText at value
      simp only [isDefaultElement, Bool.and_eq_true, List.isEmpty_iff] at h
      exact (LocalizedText.mk.injEq ..).mpr h

theorem eq_default_of_omits {type : BuiltInType} (htold : BuiltInType.told type)
    {value : type.Carrier} (h : isDefaultBuiltIn type value) : value = defaultBuiltIn type := by
  cases type with
  | plain type => exact eq_defaultElement (bne_iff_ne.mp htold) h
  | dataValue => cases htold
  | variant => exact eq_null_of_isNullScalar h

mutual

theorem TypeLayout.asJson_of_told : (type : TypeLayout) → type.told →
    (value : type.Carrier) → type.asJson value = value
  | .builtIn _, _, _ => rfl
  | .enumeration _, _, _ => rfl
  | .structure fields, htold, value => fields.asJson_of_told htold value

theorem FieldLayouts.asJson_of_told : (fields : FieldLayouts) → fields.told →
    (value : fields.Carrier) → fields.asJson value = value
  | .nil, _, _ => rfl
  | .single name (.builtIn type) rest, htold, value => by
      obtain ⟨htype, hrest⟩ := (Bool.and_eq_true _ _).mp htold
      rw [FieldLayouts.asJson, rest.asJson_of_told hrest]
      cases homits : (TypeLayout.builtIn type).omits value.1 with
      | true => exact Prod.ext (eq_default_of_omits htype homits).symm rfl
      | false => rfl
  | .single name (.enumeration underlying) rest, htold, value => by
      rw [FieldLayouts.asJson, rest.asJson_of_told htold]
      rfl
  | .single name (.structure fields) rest, htold, value => by
      obtain ⟨htype, hrest⟩ := (Bool.and_eq_true _ _).mp htold
      rw [FieldLayouts.asJson, rest.asJson_of_told hrest,
        (TypeLayout.structure fields).asJson_of_told htype]
      rfl
  | .array name type rest, htold, value => by
      obtain ⟨htype, hrest⟩ := (Bool.and_eq_true _ _).mp htold
      have helements : value.1.map type.asJson = value.1 :=
        List.map_id'' (type.asJson_of_told htype) value.1
      rw [FieldLayouts.asJson, rest.asJson_of_told hrest, helements]
      rfl

end

/-! ## Objects -/

/-- A structure is read from its members in any order, with others between them.  It
arrives with its defaults where members were left out, and as it was where `IsDefault`
tells the default from all other values. -/
theorem TypeLayout.decodeJson_encodeJson {fields : FieldLayouts}
    (hdistinct : (TypeLayout.structure fields).distinct)
    {value : (TypeLayout.structure fields).Carrier}
    (h : (TypeLayout.structure fields).JsonFits texts value) :
    ∃ members, (TypeLayout.structure fields).encodeJson texts value = .ok (.object members) ∧
      (∀ all, SameUnder fields.names all members →
        (TypeLayout.structure fields).decodeJson texts (.object all) =
          .ok ((TypeLayout.structure fields).asJson value)) ∧
        ((TypeLayout.structure fields).told →
          (TypeLayout.structure fields).asJson value = value) := by
  obtain ⟨hnames, hfields⟩ := distinct_structure hdistinct
  obtain ⟨members, hwritten, -, hread⟩ := fields.json_returns hnames hfields value h
  refine ⟨members, ?_, fun all hall => ?_, fun htold => fields.asJson_of_told htold value⟩
  · rw [TypeLayout.encodeJson, hwritten]
    rfl
  · rw [TypeLayout.decodeJson]
    cases fields with
    | nil => exact hread [] (by simp [SameUnder, FieldLayouts.names])
    | single _ _ _ => exact hread all hall
    | array _ _ _ => exact hread all hall

namespace StandardTypes

/-- `ua::Range`. -/
def range : TypeLayout :=
  .structure (.single "Low" (.builtIn (.plain .double))
    (.single "High" (.builtIn (.plain .double)) .nil))

def percent : range.Carrier := ((0 : Double), (100 : Double), ())

theorem percent_returns :
    ∃ members, range.encodeJson sampleTexts percent = .ok (.object members) ∧
      (∀ all, SameUnder ["Low", "High"] all members →
        range.decodeJson sampleTexts (.object all) = .ok (range.asJson percent)) ∧
        (range.told → range.asJson percent = percent) :=
  TypeLayout.decodeJson_encodeJson (by decide)
    ⟨fun _ => rfl, fun _ => rfl, trivial⟩

end StandardTypes

end OpcuaStack
