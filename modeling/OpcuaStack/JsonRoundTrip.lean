import OpcuaStack.JsonVariants

/-!
# Which variants come back from their JSON

The payload of a Variant is written for its type, scalar or array, from one list of
types.  DataValue and Variant are not on that list: an array of them is not written
at all, and a null one is not told from an absent payload.
-/

namespace OpcuaStack
namespace Json

open Binary (BuiltInType variantType variantIsNull codeIsGood)

variable (texts : Texts)

/-! ## Members of an object -/

theorem ifContains_member {name key : String} {value : Option JsonValue}
    {rest : Members} (hname : asciiText key = asciiText name) :
    ifContains (member name value ++ rest) key =
      value.or (ifContains rest key) := by
  cases value with
  | none => rfl
  | some value =>
      simp [ifContains, member, hname]

theorem ifContains_other {name key : String} {value : Option JsonValue}
    {rest : Members} (hname : asciiText key ≠ asciiText name) :
    ifContains (member name value ++ rest) key = ifContains rest key := by
  cases value with
  | none => rfl
  | some value =>
      have hkey : (asciiText key == asciiText name) = false := by simpa using hname
      simp [ifContains, member, List.lookup_cons, hkey]

theorem decodeValueMember_eq (type : BuiltInType) (members : Members) :
    decodeValueMember texts type members =
      (ifContains members "Value").elim (.ok .null) fun payload =>
        if isNull payload then .ok .null
        else decodeVariantPayload texts type payload := by
  induction members with
  | nil => rfl
  | cons first rest ih =>
      obtain ⟨name, payload⟩ := first
      rw [decodeValueMember]
      cases hname : asciiText "Value" == name with
      | true =>
          simp only [ifContains, List.lookup_cons, hname, if_true, Option.elim_some]
      | false =>
          simp only [Bool.false_eq_true, if_false, ih, ifContains, List.lookup_cons,
            hname]

/-! ## Leaves -/

/-- The JSON codec of the type returns the value. -/
def LeafReturns (type : PlainType) (value : type.Carrier) : Prop :=
  decodeElement texts type (encodeElement texts type value) = .ok value

/-- Neither `null` nor an array: what is read as a scalar. -/
def IsScalarJson : JsonValue → Prop
  | .null | .array _ => False
  | _ => True

theorem isScalarJson_encodeElement {type : PlainType} (htype : type ≠ .empty)
    (value : type.Carrier) : IsScalarJson (encodeElement texts type value) := by
  cases type with
  | empty => exact absurd rfl htype
  | diagnosticInfo =>
      obtain ⟨_, _, _, _, _, _, inner⟩ :=
        (show DiagnosticInfo from value)
      cases inner <;> exact trivial
  | _ => exact trivial

theorem decodeVariantPayload_scalar {type : PlainType} (htype : type ≠ .empty)
    {json : JsonValue} (hjson : IsScalarJson json) :
    decodeVariantPayload texts (.plain type) json =
      .scalar type <$> decodeElement texts type json := by
  cases json with
  | null | array _ => exact hjson.elim
  | _ =>
      cases type with
      | empty => exact absurd rfl htype
      | _ => rfl

theorem decodeVariantPayload_array {type : PlainType} (htype : type ≠ .empty)
    (elements : List JsonValue) :
    decodeVariantPayload texts (.plain type) (.array elements) =
      .array type <$> elements.mapM (decodeElement texts type) := by
  cases type with
  | empty => exact absurd rfl htype
  | _ => rfl

theorem decodeVariantPayload_variant (json : JsonValue) :
    decodeVariantPayload texts .variant json =
      (fun value => .variant (some value)) <$> decodeVariant texts json := by
  cases json <;> rfl

theorem decodeVariantPayload_dataValue (json : JsonValue) :
    decodeVariantPayload texts .dataValue json =
      (fun value => .dataValue (some value)) <$> decodeDataValue texts json := by
  cases json <;> rfl

theorem mapM_map_eq_pure {m : Type → Type} [Monad m] [LawfulMonad m] {α β γ : Type}
    {write : α → γ} {read : γ → m β} {back : α → β} {values : List α}
    (h : ∀ value ∈ values, read (write value) = pure (back value)) :
    (values.map write).mapM read = pure (values.map back) := by
  induction values with
  | nil => rfl
  | cons value rest ih =>
      rw [List.map_cons, List.mapM_cons, h value List.mem_cons_self,
        ih fun other hother => h other (List.mem_cons_of_mem _ hother)]
      simp only [pure_bind, List.map_cons]

theorem forall₂_of_mapM {α β : Type} {step : α → Except Thrown β} {related : α → β → Prop}
    {values : List α} {results : List β} (h : values.mapM step = .ok results)
    (hstep : ∀ value ∈ values, ∀ result, step value = .ok result → related value result) :
    List.Forall₂ related values results := by
  induction values generalizing results with
  | nil =>
      obtain rfl := Except.ok.inj h
      exact .nil
  | cons value values ih =>
      rw [List.mapM_cons] at h
      cases hfirst : step value with
      | error thrown =>
          rw [hfirst] at h
          cases h
      | ok first =>
          cases hrest : values.mapM step with
          | error thrown =>
              rw [hfirst, hrest] at h
              cases h
          | ok rest =>
              rw [hfirst, hrest] at h
              obtain rfl := Except.ok.inj h
              exact .cons (hstep value (by simp) first hfirst)
                (ih hrest fun other hmem => hstep other (by simp [hmem]))

theorem mapM_encoded {T J : Type} {encode : T → J} {decode : J → Except Thrown T}
    {values : List T} (h : ∀ value ∈ values, decode (encode value) = .ok value) :
    (values.map encode).mapM decode = .ok values :=
  (mapM_map_eq_pure h).trans (congrArg Except.ok (List.map_id' values))

theorem mapM_decodeElement {type : PlainType} {elements : List type.Carrier}
    (h : ∀ element ∈ elements, LeafReturns texts type element) :
    (elements.map (encodeElement texts type)).mapM (decodeElement texts type) =
      .ok elements :=
  mapM_encoded h

theorem decodeStatus_encodeStatus (value : Status) :
    decodeStatus (encodeStatus texts value) = .ok value := by
  obtain ⟨fullCode⟩ := value
  have hcode :
      ifContains
          (member "Code" (omittedIf (fullCode == 0) (.uint64 fullCode.toUInt64)) ++
            member "Symbol"
              (omittedIf (fullCode == 0)
                (.string (texts.symbol (Status.code ⟨fullCode⟩)))))
          "Code" =
        omittedIf (fullCode == 0) (.uint64 fullCode.toUInt64) := by
    rw [ifContains_member rfl]
    cases fullCode == 0 <;> rfl
  have hrun : decodeStatus (encodeStatus texts ⟨fullCode⟩) =
      (omittedIf (fullCode == 0) (.uint64 fullCode.toUInt64)).elim
        (.ok .good) statusOfNumber := by
    rw [← hcode]
    rfl
  rw [hrun]
  by_cases hzero : fullCode = 0
  · subst hzero
    rfl
  · have hset : (fullCode == 0) = false := by simpa using hzero
    rw [hset, omittedIf, if_neg (by simp), Option.elim_some]
    change Except.ok ({ fullCode := .ofNat fullCode.toUInt64.toNat } : Status) = _
    rw [UInt32.toNat_toUInt64, UInt32.ofNat_toNat]

/-! ## What can be expressed -/

/-- `Encode` does not throw, and `Decode` of what it gives is the value. -/
def RoundTrips (value : Variant) : Prop :=
  ∃ json, encodeVariant texts value = .ok json ∧
    decodeVariant texts json = .ok value

def DataValueRoundTrips (value : DataValue) : Prop :=
  ∃ json, encodeDataValue texts value = .ok json ∧
    decodeDataValue texts json = .ok value

def isNullScalar : Variant → Bool
  | .scalar .empty _ => true
  | _ => false

/-- No array of DataValues, of Variants or of null elements, and no Variant which
holds a null Variant, at any depth. -/
def Expressible : Variant → Prop
  | .scalar _ _ => True
  | .array type _ => type ≠ .empty
  | .dataValueArray _ | .variantArray _ => False
  | .dataValue none | .variant none => True
  | .dataValue (some ⟨value, _, _, _, _⟩) => Expressible value
  | .variant (some value) => isNullScalar value = false ∧ Expressible value

mutual

/-- A variant whose pointers are not null and whose leaves return; the DataValues in
it have no qualifier, a status which has a wire form, and times which return. -/
def LeavesReturn : Variant → Prop
  | .scalar type value => LeafReturns texts type value
  | .array type elements => ∀ element ∈ elements, LeafReturns texts type element
  | .dataValue value => SharedDataValueLeavesReturn value
  | .variant none => False
  | .variant (some value) => LeavesReturn value
  | .dataValueArray elements => DataValuesLeavesReturn elements
  | .variantArray elements => VariantsLeavesReturn elements

def DataValueLeavesReturn : DataValue → Prop
  | ⟨value, qualifier, sourceTimestamp, serverTimestamp, statusCode⟩ =>
      LeavesReturn value ∧ qualifier = 0 ∧
        decodeDateTime texts (encodeDateTime texts sourceTimestamp) =
          .ok sourceTimestamp ∧
        decodeDateTime texts (encodeDateTime texts serverTimestamp) =
          .ok serverTimestamp ∧
        (codeIsGood statusCode → statusCode = .good) ∧
        (Status.ofCode statusCode).code = statusCode

def SharedDataValueLeavesReturn : Option DataValue → Prop
  | none => False
  | some value => DataValueLeavesReturn value

def DataValuesLeavesReturn : List (Option DataValue) → Prop
  | [] => True
  | value :: values =>
      SharedDataValueLeavesReturn value ∧ DataValuesLeavesReturn values

def VariantsLeavesReturn : List Variant → Prop
  | [] => True
  | value :: values => LeavesReturn value ∧ VariantsLeavesReturn values

end

/-! ## Objects around a payload -/

theorem ofNumber_id (type : BuiltInType) :
    BuiltInType.ofNumber (type.id.toUInt64.toNat % 2 ^ 32) = some type := by
  rcases type with type | _ | _
  · cases type <;> rfl
  · rfl
  · rfl

theorem variantObject_eq {value : Variant} (hvalue : isNullScalar value = false)
    (payload : JsonValue) :
    variantObject value (.ok payload) =
      .ok (.object (member "UaType" (some (typeMember value)) ++
        (member "Value" (some payload) ++ []))) := by
  rcases value with ⟨type, value⟩ | _ | _ | _ | _ | _
  · cases type with
    | empty => simp [isNullScalar] at hvalue
    | _ => rfl
  all_goals rfl

/-- The members of a Variant read as its payload does, but for a null payload. -/
theorem variantOfMembers_object (message : String) (value : Variant)
    (payload : JsonValue) (rest : Members) :
    variantOfMembers message
        (member "UaType" (some (typeMember value)) ++
          (member "Value" (some payload) ++ rest))
        (fun type => decodeValueMember texts type
          (member "UaType" (some (typeMember value)) ++
            (member "Value" (some payload) ++ rest))) =
      if isNull payload then .ok .null
      else decodeVariantPayload texts (variantType value) payload := by
  have htype :
      ifContains
          (member "UaType" (some (typeMember value)) ++
            (member "Value" (some payload) ++ rest))
          "UaType" =
        some (typeMember value) := by
    rw [ifContains_member rfl]
    rfl
  have hpayload :
      ifContains
          (member "UaType" (some (typeMember value)) ++
            (member "Value" (some payload) ++ rest))
          "Value" =
        some payload := by
    rw [ifContains_other (by decide), ifContains_member rfl]
    rfl
  rw [variantOfMembers, htype, Option.elim_some]
  have hnumber : requireUInt64 (typeMember value) =
      .ok (variantType value).id.toUInt64.toNat := rfl
  rw [hnumber]
  change (BuiltInType.ofNumber _).elim _ _ = _
  rw [ofNumber_id, Option.elim_some, decodeValueMember_eq, hpayload,
    Option.elim_some]

theorem decodeVariant_object (members : Members) :
    decodeVariant texts (.object members) =
      variantOfMembers "unsupported Variant UaType" members
        fun type => decodeValueMember texts type members := rfl

theorem decodeVariant_variantObject {value : Variant}
    (hvalue : isNullScalar value = false) (payload : JsonValue) :
    ∃ json, variantObject value (.ok payload) = .ok json ∧
      isNull json = false ∧
      decodeVariant texts json =
        if isNull payload then .ok .null
        else decodeVariantPayload texts (variantType value) payload := by
  refine ⟨_, variantObject_eq hvalue payload, rfl, ?_⟩
  rw [decodeVariant_object, variantOfMembers_object]

/-! ### DataValues -/

def statusField (value : DataValue) : Option JsonValue :=
  omittedIf (codeIsGood value.statusCode)
    (encodeStatus texts (.ofCode value.statusCode))

def timeField (time : DateTime) : Option JsonValue :=
  omittedIf (time.ticks == 0) (encodeDateTime texts time)

/-- The members which follow the value. -/
def fieldsAfterValue (value : DataValue) : Members :=
  member "StatusCode" (statusField texts value) ++
    (member "SourceTimestamp" (timeField texts value.sourceTimestamp) ++
      (member "ServerTimestamp" (timeField texts value.serverTimestamp) ++ []))

theorem dataValueObject_of_null {value : DataValue}
    (hnull : variantIsNull value.value) (payload : Except Thrown JsonValue) :
    dataValueObject texts value payload =
      .ok (.object (fieldsAfterValue texts value)) := by
  simp [dataValueObject, hnull, fieldsAfterValue, statusField, timeField, pure,
    Except.pure, bind, Except.bind]

theorem dataValueObject_of_payload {value : DataValue}
    (hnull : variantIsNull value.value = false) (payload : JsonValue) :
    dataValueObject texts value (.ok payload) =
      .ok (.object (member "UaType" (some (typeMember value.value)) ++
        (member "Value" (some payload) ++ fieldsAfterValue texts value))) := by
  simp [dataValueObject, hnull, fieldsAfterValue, statusField, timeField, pure,
    Except.pure, bind, Except.bind]

theorem dataValueObject_error {value : DataValue}
    (hnull : variantIsNull value.value = false) (thrown : Thrown) :
    dataValueObject texts value (.error thrown) = .error thrown := by
  simp [dataValueObject, hnull, bind, Except.bind]

section Fields

variable {value : DataValue} {members : Members}

/-- The members hold what follows the value. -/
structure HoldsFields (members : Members) (value : DataValue) : Prop where
  status : ifContains members "StatusCode" = statusField texts value
  source :
    ifContains members "SourceTimestamp" = timeField texts value.sourceTimestamp
  server :
    ifContains members "ServerTimestamp" = timeField texts value.serverTimestamp

theorem holdsFields_after (value : DataValue) :
    HoldsFields texts (fieldsAfterValue texts value) value := by
  unfold fieldsAfterValue
  constructor
  · rw [ifContains_member rfl, ifContains_other (by decide),
      ifContains_other (by decide)]
    exact Option.or_none
  · rw [ifContains_other (by decide), ifContains_member rfl,
      ifContains_other (by decide)]
    exact Option.or_none
  · rw [ifContains_other (by decide), ifContains_other (by decide),
      ifContains_member rfl]
    exact Option.or_none

theorem holdsFields_with_value (value : DataValue) (type payload : JsonValue) :
    HoldsFields texts
      (member "UaType" (some type) ++
        (member "Value" (some payload) ++ fieldsAfterValue texts value))
      value := by
  have hafter := holdsFields_after texts value
  constructor
  · rw [ifContains_other (by decide), ifContains_other (by decide), hafter.status]
  · rw [ifContains_other (by decide), ifContains_other (by decide), hafter.source]
  · rw [ifContains_other (by decide), ifContains_other (by decide), hafter.server]

theorem decodeMember_time {name : String} {time : DateTime}
    (hmember : ifContains members name = timeField texts time)
    (htime : decodeDateTime texts (encodeDateTime texts time) = .ok time) :
    ∃ read, decodeMember members name (decodeDateTime texts) = .ok read ∧
      read.getD {} = time := by
  rw [decodeMember, hmember, timeField, omittedIf]
  by_cases hzero : time.ticks = 0
  · refine ⟨none, by simp [hzero], ?_⟩
    rw [Option.getD_none, ← hzero]
  · refine ⟨some time, ?_, rfl⟩
    have hset : (time.ticks == 0) = false := by simpa using hzero
    rw [hset, if_neg (by simp), Option.elim_some, htime]
    rfl

theorem decodeMember_status (hfields : HoldsFields texts members value)
    (hgood : codeIsGood value.statusCode → value.statusCode = .good)
    (hcode : (Status.ofCode value.statusCode).code = value.statusCode) :
    ∃ read, decodeMember members "StatusCode" decodeStatus = .ok read ∧
      read.elim .good Status.code = value.statusCode := by
  rw [decodeMember, hfields.status, statusField, omittedIf]
  cases hgoodCode : codeIsGood value.statusCode with
  | true =>
      refine ⟨none, by simp, ?_⟩
      rw [Option.elim_none, hgood hgoodCode]
  | false =>
      refine ⟨some (.ofCode value.statusCode), ?_, hcode⟩
      rw [if_neg (by simp), Option.elim_some, decodeStatus_encodeStatus]
      rfl

theorem dataValueOfMembers_eq (hfields : HoldsFields texts members value)
    (hleaves : DataValueLeavesReturn texts value) :
    dataValueOfMembers texts members (.ok value.value) = .ok value := by
  obtain ⟨content, qualifier, source, server, code⟩ := value
  obtain ⟨-, hqualifier, hsource, hserver, hgood, hcode⟩ := hleaves
  obtain ⟨status, hstatusRead, hstatus⟩ :=
    decodeMember_status texts hfields hgood hcode
  obtain ⟨first, hfirstRead, hfirst⟩ :=
    decodeMember_time texts hfields.source hsource
  obtain ⟨second, hsecondRead, hsecond⟩ :=
    decodeMember_time texts hfields.server hserver
  have hrun : dataValueOfMembers texts members (.ok content) =
      .ok
        { value := content
          qualifier := 0
          sourceTimestamp := first.getD {}
          serverTimestamp := second.getD {}
          statusCode := status.elim .good Status.code } := by
    simp only [dataValueOfMembers, hstatusRead, hfirstRead, hsecondRead]
    rfl
  rw [hrun, hfirst, hsecond, hstatus, hqualifier]

end Fields

/-! ## Expressible variants return -/

theorem decodeDataValue_object (members : Members) :
    decodeDataValue texts (.object members) =
      dataValueOfMembers texts members
        (variantOfMembers "unsupported DataValue UaType" members
          fun type => decodeValueMember texts type members) := rfl

/-- The payload is written, is not `null`, and reads back. -/
def PayloadReturns (value : Variant) : Prop :=
  ∃ payload, encodeVariantPayload texts value = .ok payload ∧
    isNull payload = false ∧
    decodeVariantPayload texts (variantType value) payload = .ok value

theorem isNull_of_isScalarJson {json : JsonValue} (h : IsScalarJson json) :
    isNull json = false := by
  cases json with
  | null => exact h.elim
  | _ => rfl

theorem eq_of_variantIsNull {value : Variant} (hnull : variantIsNull value) :
    value = .null ∨ ∃ elements, value = .array .empty elements := by
  have htype : variantType value = .plain .empty := by
    simpa [variantIsNull] using hnull
  rcases value with ⟨type, value⟩ | _ | _ | ⟨type, elements⟩ | _ | _
  · cases htype
    exact Or.inl rfl
  · cases htype
  · cases htype
  · cases htype
    exact Or.inr ⟨elements, rfl⟩
  · cases htype
  · cases htype

theorem eq_null_of_expressible {value : Variant} (hexpressible : Expressible value)
    (hnull : variantIsNull value) : value = .null := by
  obtain rfl | ⟨elements, rfl⟩ := eq_of_variantIsNull hnull
  · rfl
  · exact absurd rfl hexpressible

theorem eq_null_of_isNullScalar {value : Variant}
    (hscalar : isNullScalar value = true) : value = .null := by
  rcases value with ⟨type, value⟩ | _ | _ | _ | _ | _
  · cases type with
    | empty => rfl
    | _ => simp [isNullScalar] at hscalar
  all_goals simp [isNullScalar] at hscalar

theorem isNullScalar_of_not_null {value : Variant}
    (hnull : variantIsNull value = false) : isNullScalar value = false := by
  cases hscalar : isNullScalar value with
  | true =>
      rw [eq_null_of_isNullScalar hscalar] at hnull
      exact absurd hnull (by decide)
  | false => rfl

theorem fieldsAfterValue_uaType (value : DataValue) :
    ifContains (fieldsAfterValue texts value) "UaType" = none := by
  rw [fieldsAfterValue, ifContains_other (by decide), ifContains_other (by decide),
    ifContains_other (by decide)]
  rfl

theorem dataValue_returns {value : DataValue}
    (hleaves : DataValueLeavesReturn texts value)
    (hexpressible : Expressible value.value)
    (hpayload : isNullScalar value.value = false →
      PayloadReturns texts value.value) :
    ∃ json, encodeDataValue texts value = .ok json ∧ isNull json = false ∧
      decodeDataValue texts json = .ok value := by
  cases hnull : variantIsNull value.value with
  | true =>
      refine ⟨.object _, dataValueObject_of_null texts hnull _, rfl, ?_⟩
      rw [decodeDataValue_object, variantOfMembers, fieldsAfterValue_uaType, Option.elim_none,
        ← eq_null_of_expressible hexpressible hnull,
        dataValueOfMembers_eq texts (holdsFields_after texts value) hleaves]
  | false =>
      obtain ⟨payload, hwritten, hsome, hread⟩ :=
        hpayload (isNullScalar_of_not_null hnull)
      have hobject :=
        (congrArg (dataValueObject texts value) hwritten).trans
          (dataValueObject_of_payload texts hnull payload)
      refine ⟨.object _, hobject, rfl, ?_⟩
      · rw [decodeDataValue_object, variantOfMembers_object, hsome,
          if_neg (by simp), hread,
          dataValueOfMembers_eq texts (holdsFields_with_value texts value _ _)
            hleaves]

/-- By recursion on the variant. -/
theorem payload_returns : (value : Variant) → isNullScalar value = false →
    Expressible value → LeavesReturn texts value → PayloadReturns texts value
  | .scalar type value, hscalar, _, hleaves => by
      have htype : type ≠ .empty := by
        rintro rfl
        simp [isNullScalar] at hscalar
      have hjson := isScalarJson_encodeElement texts htype value
      have hleaf : decodeElement texts type (encodeElement texts type value) =
          .ok value := hleaves
      refine ⟨encodeElement texts type value, rfl, isNull_of_isScalarJson hjson,
        ?_⟩
      rw [variantType, decodeVariantPayload_scalar texts htype hjson, hleaf]
      rfl
  | .array type elements, _, hexpressible, hleaves => by
      have htype : type ≠ .empty := hexpressible
      refine ⟨.array (elements.map (encodeElement texts type)), ?_, rfl, ?_⟩
      · cases type with
        | empty => exact absurd rfl htype
        | _ => rfl
      · rw [variantType, decodeVariantPayload_array texts htype,
          mapM_decodeElement texts hleaves]
        rfl
  | .dataValue none, _, _, hleaves => hleaves.elim
  | .dataValue (some ⟨value, qualifier, source, server, code⟩), _,
      hexpressible, hleaves => by
      obtain ⟨json, hwritten, hsome, hread⟩ :=
        dataValue_returns texts hleaves hexpressible
          fun hscalar => payload_returns value hscalar hexpressible hleaves.1
      refine ⟨json, hwritten, hsome, ?_⟩
      rw [variantType, decodeVariantPayload_dataValue, hread]
      rfl
  | .variant none, _, _, hleaves => hleaves.elim
  | .variant (some value), _, hexpressible, hleaves => by
      obtain ⟨payload, hwritten, hsome, hread⟩ :=
        payload_returns value hexpressible.1 hexpressible.2 hleaves
      obtain ⟨json, hobject, hjson, hdecoded⟩ :=
        decodeVariant_variantObject texts hexpressible.1 payload
      refine ⟨json, ?_, hjson, ?_⟩
      · rw [encodeVariantPayload, hwritten]
        exact hobject
      · rw [variantType, decodeVariantPayload_variant, hdecoded, hsome,
          if_neg (by simp), hread]
        rfl
  | .dataValueArray _, _, hexpressible, _ => hexpressible.elim
  | .variantArray _, _, hexpressible, _ => hexpressible.elim

theorem roundTrips_of_expressible {value : Variant}
    (hexpressible : Expressible value) (hleaves : LeavesReturn texts value) :
    RoundTrips texts value := by
  cases hscalar : isNullScalar value with
  | true =>
      rw [eq_null_of_isNullScalar hscalar]
      exact ⟨.null, rfl, rfl⟩
  | false =>
      obtain ⟨payload, hwritten, hsome, hread⟩ :=
        payload_returns texts value hscalar hexpressible hleaves
      obtain ⟨json, hobject, -, hdecoded⟩ :=
        decodeVariant_variantObject texts hscalar payload
      refine ⟨json, ?_, ?_⟩
      · rw [encodeVariant, hwritten]
        exact hobject
      · rw [hdecoded, hsome, if_neg (by simp), hread]

/-! ## Only expressible variants return -/

theorem variantObject_error {value : Variant} {thrown : Thrown}
    (hscalar : isNullScalar value = false) :
    variantObject value (.error thrown) = .error thrown := by
  rcases value with ⟨type, value⟩ | _ | _ | _ | _ | _
  · cases type with
    | empty => simp [isNullScalar] at hscalar
    | _ => rfl
  all_goals rfl

theorem payload_of_roundTrips {value : Variant} (h : RoundTrips texts value) :
    isNullScalar value ∨ PayloadReturns texts value := by
  obtain ⟨json, hwritten, hread⟩ := h
  cases hscalar : isNullScalar value with
  | true => exact Or.inl rfl
  | false =>
      right
      rw [encodeVariant] at hwritten
      cases hpayload : encodeVariantPayload texts value with
      | error thrown =>
          rw [hpayload, variantObject_error hscalar] at hwritten
          cases hwritten
      | ok payload =>
          obtain ⟨object, hobject, -, hdecoded⟩ :=
            decodeVariant_variantObject texts hscalar payload
          rw [hpayload, hobject] at hwritten
          obtain rfl := Except.ok.inj hwritten
          rw [hdecoded] at hread
          cases hnull : isNull payload with
          | true =>
              rw [hnull, if_pos rfl] at hread
              rw [← Except.ok.inj hread] at hscalar
              simp [Variant.null, isNullScalar] at hscalar
          | false =>
              rw [hnull, if_neg (by simp)] at hread
              exact ⟨payload, hpayload, hnull, hread⟩

theorem roundTrips_inner {value : Variant}
    (h : RoundTrips texts (.variant (some value))) :
    isNullScalar value = false ∧ RoundTrips texts value := by
  obtain hnull | ⟨payload, hwritten, hsome, hread⟩ :=
    payload_of_roundTrips texts h
  · simp [isNullScalar] at hnull
  · rw [encodeVariantPayload] at hwritten
    rw [variantType, decodeVariantPayload_variant] at hread
    cases hinner : decodeVariant texts payload with
    | error thrown =>
        rw [hinner] at hread
        cases hread
    | ok inner =>
        rw [hinner] at hread
        have hsame : inner = value := by
          simpa using Except.ok.inj hread
        subst hsame
        refine ⟨?_, payload, hwritten, hinner⟩
        cases hscalar : isNullScalar inner with
        | true =>
            rw [eq_null_of_isNullScalar hscalar] at hwritten
            obtain rfl := Except.ok.inj hwritten
            simp [isNull] at hsome
        | false => rfl

theorem dataValueRoundTrips_inner {value : DataValue}
    (h : RoundTrips texts (.dataValue (some value))) :
    DataValueRoundTrips texts value := by
  obtain ⟨content, qualifier, source, server, code⟩ := value
  obtain hnull | ⟨payload, hwritten, hsome, hread⟩ :=
    payload_of_roundTrips texts h
  · simp [isNullScalar] at hnull
  · rw [encodeVariantPayload] at hwritten
    rw [variantType, decodeVariantPayload_dataValue] at hread
    cases hinner : decodeDataValue texts payload with
    | error thrown =>
        rw [hinner] at hread
        cases hread
    | ok inner =>
        rw [hinner] at hread
        have hsame : inner = ⟨content, qualifier, source, server, code⟩ := by
          simpa using Except.ok.inj hread
        subst hsame
        exact ⟨payload, hwritten, hinner⟩

theorem dataValueOfMembers_value {members : Members}
    {content : Except Thrown Variant} {value : DataValue}
    (h : dataValueOfMembers texts members content = .ok value) :
    content = .ok value.value := by
  cases content with
  | error thrown => cases h
  | ok read =>
      simp only [dataValueOfMembers, bind, Except.bind] at h
      split at h
      · cases h
      · split at h
        · cases h
        · split at h
          · cases h
          · obtain rfl := Except.ok.inj h
            rfl

theorem roundTrips_value {value : DataValue}
    (h : DataValueRoundTrips texts value) : RoundTrips texts value.value := by
  obtain ⟨json, hwritten, hread⟩ := h
  rw [encodeDataValue] at hwritten
  cases hnull : variantIsNull value.value with
  | true =>
      obtain hvalue | ⟨elements, hvalue⟩ := eq_of_variantIsNull hnull
      · rw [hvalue]
        exact ⟨.null, rfl, rfl⟩
      · rw [dataValueObject_of_null texts hnull] at hwritten
        obtain rfl := Except.ok.inj hwritten
        rw [decodeDataValue_object, variantOfMembers, fieldsAfterValue_uaType,
          Option.elim_none] at hread
        have hlost := dataValueOfMembers_value texts hread
        rw [hvalue] at hlost
        cases hlost
  | false =>
      cases hpayload : encodeVariantPayload texts value.value with
      | error thrown =>
          rw [hpayload, dataValueObject_error texts hnull] at hwritten
          cases hwritten
      | ok payload =>
          rw [hpayload, dataValueObject_of_payload texts hnull] at hwritten
          obtain rfl := Except.ok.inj hwritten
          rw [decodeDataValue_object] at hread
          have hcontent := dataValueOfMembers_value texts hread
          rw [variantOfMembers_object] at hcontent
          obtain ⟨json, hobject, -, hdecoded⟩ :=
            decodeVariant_variantObject texts
              (isNullScalar_of_not_null hnull) payload
          refine ⟨json, ?_, hdecoded.trans hcontent⟩
          rw [encodeVariant, hpayload]
          exact hobject

/-- By recursion on the variant: what holds no place for a payload is lost. -/
theorem expressible_of_roundTrips : (value : Variant) →
    LeavesReturn texts value → RoundTrips texts value → Expressible value
  | .scalar _ _, _, _ => trivial
  | .array type elements, _, h => by
      rintro rfl
      obtain hnull | ⟨payload, hwritten, hsome, -⟩ :=
        payload_of_roundTrips texts h
      · simp [isNullScalar] at hnull
      · obtain rfl := Except.ok.inj hwritten
        simp [isNull] at hsome
  | .dataValue none, _, _ => trivial
  | .dataValue (some ⟨value, _, _, _, _⟩), hleaves, h =>
      expressible_of_roundTrips value hleaves.1
        (roundTrips_value texts (dataValueRoundTrips_inner texts h))
  | .variant none, _, _ => trivial
  | .variant (some value), hleaves, h =>
      have hinner := roundTrips_inner texts h
      ⟨hinner.1, expressible_of_roundTrips value hleaves hinner.2⟩
  | .dataValueArray elements, _, h => by
      obtain hnull | ⟨payload, hwritten, -, -⟩ := payload_of_roundTrips texts h
      · simp [isNullScalar] at hnull
      · cases hwritten
  | .variantArray elements, _, h => by
      obtain hnull | ⟨payload, hwritten, -, -⟩ := payload_of_roundTrips texts h
      · simp [isNullScalar] at hnull
      · cases hwritten

/-- A Variant, and a DataValue, comes back from its JSON exactly when it is
expressible. -/
theorem json_returns_iff :
    (∀ value : Variant, LeavesReturn texts value →
      (RoundTrips texts value ↔ Expressible value)) ∧
      ∀ value : DataValue, DataValueLeavesReturn texts value →
        (DataValueRoundTrips texts value ↔ Expressible value.value) := by
  constructor
  · intro value hleaves
    constructor
    · exact expressible_of_roundTrips texts value hleaves
    · intro hexpressible
      exact roundTrips_of_expressible texts hexpressible hleaves
  · intro value hleaves
    have hvalue : LeavesReturn texts value.value := by
      obtain ⟨content, qualifier, source, server, code⟩ := value
      exact hleaves.1
    constructor
    · intro h
      exact expressible_of_roundTrips texts value.value hvalue
        (roundTrips_value texts h)
    · intro hexpressible
      obtain ⟨json, hwritten, -, hread⟩ :=
        dataValue_returns texts hleaves hexpressible
          fun hscalar =>
            payload_returns texts value.value hscalar hexpressible hvalue
      exact ⟨json, hwritten, hread⟩

/-! ## An array of Variants -/

def sampleTexts : Texts where
  dateTime := fun _ => nullDateTimeText
  ofDateTime := fun _ => none
  guid := fun _ => []
  ofGuid := fun _ => none
  base64 := fun bytes => bytes
  ofBase64 := some
  nodeId := fun _ => asciiText "i=0"
  ofNodeId := fun _ => {}
  symbol := fun _ => asciiText "Bad"
  narrow := fun text => text.map UInt16.toUInt8
  widen := fun text => text.map UInt8.toUInt16
  float := fun value => value
  double := fun value => value

/-- A Variant in a DataValue in a Variant. -/
def nestedVariant : Variant :=
  .dataValue
    (some
      { value := .variant (some (.array .int32 [(7 : Int32), (8 : Int32)]))
        qualifier := 0
        sourceTimestamp := {}
        serverTimestamp := {}
        statusCode := .bad })

theorem nestedVariant_returns : RoundTrips sampleTexts nestedVariant := by
  refine ((json_returns_iff sampleTexts).1 nestedVariant ?_).mpr ?_
  · refine ⟨?_, rfl, rfl, rfl, by decide, by decide⟩
    refine List.forall_mem_cons.mpr ⟨rfl, List.forall_mem_cons.mpr ⟨rfl, ?_⟩⟩
    exact fun _ helement => absurd helement List.not_mem_nil
  · exact ⟨rfl, fun h => nomatch h⟩

theorem variantArray_not_returned :
    LeavesReturn sampleTexts (.variantArray [.scalar .bool true]) ∧
      ¬ RoundTrips sampleTexts (.variantArray [.scalar .bool true]) := by
  refine ⟨⟨rfl, trivial⟩, ?_⟩
  rintro ⟨json, hwritten, -⟩
  cases hwritten

end Json
end OpcuaStack
