import OpcuaStack.GeneratedJson

/-!
# Structures which cross from the binary to the JSON transport

`WithJsonBodies` of `transport/websocket/json_codec.cpp`.  A structure that was wrapped
with its binary encoding is wrapped again with its JSON encoding if its type is one of
those which the response may hold; "an unrecognised body" is left as it is.
-/

namespace OpcuaStack

open Json

/-! ## Types with ids -/

/-- A generated type and the ids of its two encodings. -/
structure GeneratedType where
  layout : TypeLayout
  binaryEncodingId : UInt32
  jsonEncodingId : UInt32

variable (forms : Binary.Representations) (texts : Texts)

def GeneratedType.wire (type : GeneratedType) : WireType type.layout.Carrier where
  encode value := (type.layout.encode forms value).getD []
  decode := WireType.decodeBody (type.layout.decode forms)
  decodeJson json := (type.layout.decodeJson texts json).toOption
  binaryEncodingId := type.binaryEncodingId
  jsonEncodingId := type.jsonEncodingId

/-- `ToJsonExtensionObject`. -/
def GeneratedType.toJsonExtensionObject (type : GeneratedType) (value : type.layout.Carrier) :
    Except Thrown ExtensionObject :=
  (fun json => { dataTypeId := encodingId type.jsonEncodingId, value := .json json }) <$>
    type.layout.encodeJson texts value

/-! ## Transcoding -/

/-- `TranscodeBodyToJson`: the object that takes the place of the given one, if any. -/
def transcodeBodyToJson (type : GeneratedType) (extensionObject : ExtensionObject) :
    Except Thrown (Option ExtensionObject) :=
  match (type.wire forms texts).fromExtensionObject extensionObject with
  | none => .ok none
  | some value => some <$> type.toJsonExtensionObject texts value

/-- The alternatives of a `||` chain: the first type which reads the body is taken. -/
def transcodeAnyToJson : List GeneratedType → ExtensionObject →
    Except Thrown (Option ExtensionObject)
  | [], _ => .ok none
  | type :: types, extensionObject => do
      match ← transcodeBodyToJson forms texts type extensionObject with
      | some transcoded => return some transcoded
      | none => transcodeAnyToJson types extensionObject

def withJsonBody (types : List GeneratedType) (extensionObject : ExtensionObject) :
    Except Thrown ExtensionObject :=
  (·.getD extensionObject) <$> transcodeAnyToJson forms texts types extensionObject

/-- `WithJsonBodies` of a Variant.  It is rebuilt if one of its bodies was transcoded. -/
def withJsonBodies (types : List GeneratedType) : Variant → Except Thrown Variant
  | .scalar .extensionObject (value : ExtensionObject) => do
      match ← transcodeAnyToJson forms texts types value with
      | some transcoded => return .scalar .extensionObject transcoded
      | none => return .scalar .extensionObject value
  | .array .extensionObject (values : List ExtensionObject) => do
      let transcoded ← values.mapM (transcodeAnyToJson forms texts types)
      if transcoded.any (·.isSome) then
        return .array .extensionObject
          (List.zipWith (fun (value : ExtensionObject) (other : Option ExtensionObject) =>
            other.getD value) values transcoded)
      else
        return .array .extensionObject values
  | variant => .ok variant

/-! ## One object -/

def encodingIds (types : List GeneratedType) : List UInt32 :=
  types.flatMap fun type => [type.binaryEncodingId, type.jsonEncodingId]

/-- Types which are told apart by their ids, and whose values JSON can carry. -/
structure Transcodable (types : List GeneratedType) : Prop where
  ids : (encodingIds types).Nodup
  distinct : ∀ type ∈ types, type.layout.distinct
  told : ∀ type ∈ types, type.layout.told

/-- What is read from the body in the binary encoding is read back from JSON. -/
def BodiesReturn (types : List GeneratedType) (extensionObject : ExtensionObject) : Prop :=
  ∀ type ∈ types, ∀ value,
    (type.wire forms texts).fromExtensionObject extensionObject = some value →
      type.layout.JsonFits texts value

variable {forms texts} {types : List GeneratedType}

theorem transcodeAnyToJson_cases {extensionObject : ExtensionObject}
    {result : Option ExtensionObject}
    (h : transcodeAnyToJson forms texts types extensionObject = .ok result) :
    (result = none ∧ ∀ type ∈ types,
        (type.wire forms texts).fromExtensionObject extensionObject = none) ∨
      ∃ type ∈ types, ∃ value transcoded, result = some transcoded ∧
        (type.wire forms texts).fromExtensionObject extensionObject = some value ∧
          type.toJsonExtensionObject texts value = .ok transcoded := by
  induction types with
  | nil => exact .inl ⟨(Except.ok.inj h).symm, by simp⟩
  | cons type types ih =>
      rw [transcodeAnyToJson, transcodeBodyToJson] at h
      cases hread : (type.wire forms texts).fromExtensionObject extensionObject with
      | none =>
          rw [hread] at h
          rcases ih h with ⟨hnone, hothers⟩ | ⟨other, hmem, hrest⟩
          · refine .inl ⟨hnone, ?_⟩
            intro other hmem
            rcases List.mem_cons.mp hmem with rfl | hmem
            · exact hread
            · exact hothers other hmem
          · exact .inr ⟨other, List.mem_cons_of_mem _ hmem, hrest⟩
      | some value =>
          simp only [hread] at h
          cases hwritten : type.toJsonExtensionObject texts value with
          | error thrown =>
              rw [hwritten] at h
              cases h
          | ok transcoded =>
              rw [hwritten] at h
              exact .inr ⟨type, List.mem_cons_self, value, transcoded,
                (Except.ok.inj h).symm, hread, hwritten⟩

theorem Transcodable.ids_ne (h : Transcodable types) {type other : GeneratedType}
    (htype : type ∈ types) (hother : other ∈ types) (hne : type ≠ other) :
    type.binaryEncodingId ≠ other.binaryEncodingId ∧
      type.jsonEncodingId ≠ other.binaryEncodingId ∧
        type.jsonEncodingId ≠ other.jsonEncodingId := by
  have hpairs := (List.nodup_flatMap.mp h.ids).2
  have hsymm : Std.Symm (Function.onFun List.Disjoint fun type : GeneratedType =>
      [type.binaryEncodingId, type.jsonEncodingId]) :=
    ⟨fun first second hdisjoint => List.Disjoint.symm hdisjoint⟩
  have hdisjoint := hpairs.forall htype hother hne
  simp only [Function.onFun, List.disjoint_cons_left, List.mem_cons, List.not_mem_nil,
    or_false, not_or] at hdisjoint
  exact ⟨hdisjoint.1.1, hdisjoint.2.1.1, hdisjoint.2.1.2⟩

/-- What `ToJsonExtensionObject` gives is read as the value by its type alone. -/
theorem Transcodable.reads (h : Transcodable types) {type : GeneratedType}
    (htype : type ∈ types) {value : type.layout.Carrier} {transcoded : ExtensionObject}
    (hwritten : type.toJsonExtensionObject texts value = .ok transcoded)
    (hfits : type.layout.JsonFits texts value) :
    (type.wire forms texts).fromAnyExtensionObject transcoded = some value ∧
      ∀ other ∈ types, other ≠ type →
        (other.wire forms texts).fromAnyExtensionObject transcoded = none := by
  obtain ⟨json, hjson, hread⟩ :=
    type.layout.json_returns (h.distinct type htype) value hfits
  have htold : type.layout.asJson value = value :=
    type.layout.asJson_of_told (h.told type htype) value
  rw [GeneratedType.toJsonExtensionObject, hjson] at hwritten
  obtain rfl := Except.ok.inj hwritten
  constructor
  · rw [WireType.fromAnyExtensionObject, WireType.fromExtensionObject_json rfl, Option.none_or,
      WireType.fromJsonExtensionObject, if_pos (.inl rfl)]
    change (type.layout.decodeJson texts json).toOption = _
    rw [hread, htold]
    rfl
  · intro other hother hne
    obtain ⟨-, hbinary, hids⟩ := h.ids_ne htype hother hne.symm
    rw [WireType.fromAnyExtensionObject, WireType.fromExtensionObject_json rfl, Option.none_or,
      WireType.fromJsonExtensionObject, if_neg]
    rintro (hid | hid)
    · exact hids (Option.some.inj hid)
    · exact hbinary (Option.some.inj hid)

/-- An object and what takes its place. -/
structure Transcoded (forms : Binary.Representations) (texts : Texts)
    (types : List GeneratedType) (extensionObject transcoded : ExtensionObject) : Prop where
  /-- Each type reads the same value from both. -/
  reads : ∀ type ∈ types, (type.wire forms texts).fromAnyExtensionObject transcoded =
    (type.wire forms texts).fromAnyExtensionObject extensionObject
  /-- No body of a type is binary any more. -/
  done : ∀ type ∈ types, (type.wire forms texts).fromExtensionObject transcoded = none
  unrecognised : (∀ type ∈ types,
    (type.wire forms texts).fromExtensionObject extensionObject = none) →
      transcoded = extensionObject

theorem transcoded_of_none {extensionObject : ExtensionObject}
    (h : ∀ type ∈ types, (type.wire forms texts).fromExtensionObject extensionObject = none) :
    Transcoded forms texts types extensionObject extensionObject :=
  ⟨fun _ _ => rfl, h, fun _ => rfl⟩

theorem exists_binary_of_read {T : Type} {wire : WireType T}
    {extensionObject : ExtensionObject} {value : T}
    (h : wire.fromExtensionObject extensionObject = some value) :
    extensionObject.standardId? = some wire.binaryEncodingId ∧
      ∃ body, extensionObject.value = .binary body := by
  rw [WireType.fromExtensionObject] at h
  split at h
  · refine ⟨‹_›, ?_⟩
    cases hvalue : extensionObject.value with
    | binary body => exact ⟨body, rfl⟩
    | _ => simp [hvalue] at h
  · cases h

theorem Transcodable.reads_other (h : Transcodable types) {type other : GeneratedType}
    (htype : type ∈ types) (hother : other ∈ types) (hne : other ≠ type)
    {extensionObject : ExtensionObject} {value : type.layout.Carrier}
    (hread : (type.wire forms texts).fromExtensionObject extensionObject = some value) :
    (other.wire forms texts).fromAnyExtensionObject extensionObject = none := by
  obtain ⟨hid, body, hbody⟩ := exists_binary_of_read hread
  rw [WireType.fromAnyExtensionObject, WireType.fromJsonExtensionObject_binary hbody,
    Option.or_none, WireType.fromExtensionObject, if_neg]
  intro hsame
  rw [hid] at hsame
  exact (h.ids_ne htype hother hne.symm).1 (Option.some.inj hsame)

theorem json_of_written {type : GeneratedType} {value : type.layout.Carrier}
    {transcoded : ExtensionObject}
    (h : type.toJsonExtensionObject texts value = .ok transcoded) :
    ∃ json, transcoded.value = .json json := by
  rw [GeneratedType.toJsonExtensionObject] at h
  cases hjson : type.layout.encodeJson texts value with
  | error thrown =>
      rw [hjson] at h
      cases h
  | ok json =>
      rw [hjson] at h
      exact ⟨json, congrArg ExtensionObject.value (Except.ok.inj h).symm⟩

theorem Transcodable.transcoded (h : Transcodable types) {type : GeneratedType}
    (htype : type ∈ types) {extensionObject transcoded : ExtensionObject}
    {value : type.layout.Carrier}
    (hread : (type.wire forms texts).fromExtensionObject extensionObject = some value)
    (hwritten : type.toJsonExtensionObject texts value = .ok transcoded)
    (hfits : type.layout.JsonFits texts value) :
    Transcoded forms texts types extensionObject transcoded := by
  obtain ⟨hsame, hothers⟩ := @Transcodable.reads forms texts _ h _ htype _ _ hwritten hfits
  obtain ⟨json, hjson⟩ := json_of_written hwritten
  constructor
  · intro reader hreader
    by_cases heq : reader = type
    · subst heq
      rw [hsame, WireType.fromAnyExtensionObject, hread, Option.some_or]
    · rw [hothers reader hreader heq, h.reads_other htype hreader heq hread]
  · exact fun _ _ => WireType.fromExtensionObject_json hjson
  · intro hnone
    rw [hnone type htype] at hread
    cases hread

theorem transcoded_withJsonBody (htypes : Transcodable types)
    {extensionObject transcoded : ExtensionObject}
    (hreturn : BodiesReturn forms texts types extensionObject)
    (h : withJsonBody forms texts types extensionObject = .ok transcoded) :
    Transcoded forms texts types extensionObject transcoded := by
  rw [withJsonBody] at h
  cases hresult : transcodeAnyToJson forms texts types extensionObject with
  | error thrown =>
      rw [hresult] at h
      cases h
  | ok result =>
      rw [hresult] at h
      obtain rfl := Except.ok.inj h
      rcases transcodeAnyToJson_cases hresult with
        ⟨rfl, hnone⟩ | ⟨type, htype, value, other, rfl, hread, hwritten⟩
      · exact transcoded_of_none hnone
      · exact htypes.transcoded htype hread hwritten (hreturn type htype value hread)

/-! ## Variants -/

/-- The objects a Variant holds. -/
def Variant.extensionObjects : Variant → List ExtensionObject
  | .scalar .extensionObject (value : ExtensionObject) => [value]
  | .array .extensionObject (values : List ExtensionObject) => values
  | _ => []

/-- The Variant with other objects in their place. -/
def Variant.rewrap : Variant → List ExtensionObject → Variant
  | .scalar .extensionObject (value : ExtensionObject), objects =>
      .scalar .extensionObject (objects.headD value)
  | .array .extensionObject _, objects => .array .extensionObject objects
  | value, _ => value

theorem withJsonBodies_scalar (value : ExtensionObject) :
    withJsonBodies forms texts types (.scalar .extensionObject value) =
      .scalar .extensionObject <$> withJsonBody forms texts types value := by
  rw [withJsonBodies, withJsonBody]
  cases transcodeAnyToJson forms texts types value with
  | error thrown => rfl
  | ok result => cases result <;> rfl

theorem mapM_withJsonBody (values : List ExtensionObject) :
    values.mapM (withJsonBody forms texts types) =
      (fun transcoded => List.zipWith (fun value (other : Option ExtensionObject) =>
        other.getD value) values transcoded) <$>
          values.mapM (transcodeAnyToJson forms texts types) := by
  induction values with
  | nil => rfl
  | cons value values ih =>
      rw [List.mapM_cons, List.mapM_cons, ih, withJsonBody]
      cases transcodeAnyToJson forms texts types value with
      | error thrown => rfl
      | ok first =>
          cases values.mapM (transcodeAnyToJson forms texts types) <;> rfl

theorem zipWith_getD_of_none {values : List ExtensionObject}
    {transcoded : List (Option ExtensionObject)}
    (h : values.mapM (transcodeAnyToJson forms texts types) = .ok transcoded)
    (hnone : transcoded.any (·.isSome) = false) :
    List.zipWith (fun value (other : Option ExtensionObject) => other.getD value)
      values transcoded = values := by
  induction values generalizing transcoded with
  | nil => simp
  | cons value values ih =>
      rw [List.mapM_cons] at h
      cases hfirst : transcodeAnyToJson forms texts types value with
      | error thrown =>
          rw [hfirst] at h
          cases h
      | ok first =>
          cases hrest : values.mapM (transcodeAnyToJson forms texts types) with
          | error thrown =>
              rw [hfirst, hrest] at h
              cases h
          | ok rest =>
              rw [hfirst, hrest] at h
              obtain rfl := Except.ok.inj h
              rw [List.any_cons, Bool.or_eq_false_iff] at hnone
              rw [List.zipWith_cons_cons, ih hrest hnone.2]
              cases first with
              | none => rfl
              | some other => simp at hnone

theorem withJsonBodies_array (values : List ExtensionObject) :
    withJsonBodies forms texts types (.array .extensionObject values) =
      .array .extensionObject <$> values.mapM (withJsonBody forms texts types) := by
  rw [withJsonBodies, mapM_withJsonBody]
  cases hresult : values.mapM (transcodeAnyToJson forms texts types) with
  | error thrown => rfl
  | ok transcoded =>
      cases hany : transcoded.any (·.isSome) with
      | true =>
          simp [hany, bind, Except.bind, pure, Except.pure, Functor.map, Except.map]
          rfl
      | false =>
          have hsame := zipWith_getD_of_none hresult hany
          simp [hany, hsame, bind, Except.bind, pure, Except.pure, Functor.map, Except.map]

theorem withJsonBody_of_done {extensionObject : ExtensionObject}
    (h : ∀ type ∈ types, (type.wire forms texts).fromExtensionObject extensionObject = none) :
    withJsonBody forms texts types extensionObject = .ok extensionObject := by
  have hnone : transcodeAnyToJson forms texts types extensionObject = .ok none := by
    induction types with
    | nil => rfl
    | cons type types ih =>
        rw [transcodeAnyToJson, transcodeBodyToJson, h type List.mem_cons_self]
        exact ih fun other hmem => h other (List.mem_cons_of_mem _ hmem)
  rw [withJsonBody, hnone]
  rfl

theorem transcoded_all (htypes : Transcodable types) {values objects : List ExtensionObject}
    (hreturn : ∀ value ∈ values, BodiesReturn forms texts types value)
    (h : values.mapM (withJsonBody forms texts types) = .ok objects) :
    List.Forall₂ (Transcoded forms texts types) values objects ∧
      objects.mapM (withJsonBody forms texts types) = .ok objects := by
  induction values generalizing objects with
  | nil =>
      obtain rfl := Except.ok.inj h
      exact ⟨.nil, rfl⟩
  | cons value values ih =>
      rw [List.mapM_cons] at h
      cases hfirst : withJsonBody forms texts types value with
      | error thrown =>
          rw [hfirst] at h
          cases h
      | ok first =>
          cases hrest : values.mapM (withJsonBody forms texts types) with
          | error thrown =>
              rw [hfirst, hrest] at h
              cases h
          | ok rest =>
              rw [hfirst, hrest] at h
              obtain rfl := Except.ok.inj h
              have htranscoded := transcoded_withJsonBody htypes (hreturn value (by simp)) hfirst
              obtain ⟨hothers, hagain⟩ :=
                ih (fun other hmem => hreturn other (by simp [hmem])) hrest
              refine ⟨.cons htranscoded hothers, ?_⟩
              rw [List.mapM_cons, withJsonBody_of_done htranscoded.done, hagain]
              rfl

/-- What a Variant becomes. -/
structure VariantTranscoded (forms : Binary.Representations) (texts : Texts)
    (types : List GeneratedType) (variant sent : Variant) : Prop where
  /-- Only the objects are others. -/
  rewrapped : sent = variant.rewrap sent.extensionObjects
  objects : List.Forall₂ (Transcoded forms texts types) variant.extensionObjects
    sent.extensionObjects
  again : withJsonBodies forms texts types sent = .ok sent

theorem transcoded_withJsonBodies (htypes : Transcodable types) {variant sent : Variant}
    (hreturn : ∀ value ∈ variant.extensionObjects, BodiesReturn forms texts types value)
    (h : withJsonBodies forms texts types variant = .ok sent) :
    VariantTranscoded forms texts types variant sent := by
  have hkept : ∀ other : Variant, withJsonBodies forms texts types other = .ok other →
      other.extensionObjects = [] → (∀ objects, other.rewrap objects = other) →
        other = variant → VariantTranscoded forms texts types variant sent := by
    rintro other hsame hnone hrewrap rfl
    obtain rfl := Except.ok.inj (hsame.symm.trans h)
    refine ⟨(hrewrap _).symm, ?_, hsame⟩
    rw [hnone]
    exact .nil
  rcases variant with ⟨type, value⟩ | _ | _ | ⟨type, values⟩ | _ | _
  · cases type with
    | extensionObject =>
        have hsent := (withJsonBodies_scalar value).symm.trans h
        cases hobject : withJsonBody forms texts types value with
        | error thrown =>
            rw [hobject] at hsent
            cases hsent
        | ok object =>
            rw [hobject] at hsent
            obtain rfl := Except.ok.inj hsent
            have htranscoded :=
              transcoded_withJsonBody htypes (hreturn value List.mem_cons_self) hobject
            refine ⟨rfl, .cons htranscoded .nil, ?_⟩
            rw [withJsonBodies_scalar, withJsonBody_of_done htranscoded.done]
            rfl
    | _ => exact hkept _ rfl rfl (fun _ => rfl) rfl
  · exact hkept _ rfl rfl (fun _ => rfl) rfl
  · exact hkept _ rfl rfl (fun _ => rfl) rfl
  · cases type with
    | extensionObject =>
        have hsent := (withJsonBodies_array values).symm.trans h
        cases hobjects : List.mapM (withJsonBody forms texts types) values with
        | error thrown =>
            rw [hobjects] at hsent
            cases hsent
        | ok objects =>
            rw [hobjects] at hsent
            obtain rfl := Except.ok.inj hsent
            obtain ⟨htranscoded, hagain⟩ := transcoded_all htypes hreturn hobjects
            refine ⟨rfl, htranscoded, (withJsonBodies_array objects).trans ?_⟩
            exact congrArg (fun result : Except Thrown (List ExtensionObject) =>
              Variant.array PlainType.extensionObject <$> result) hagain
    | _ => exact hkept _ rfl rfl (fun _ => rfl) rfl
  · exact hkept _ rfl rfl (fun _ => rfl) rfl
  · exact hkept _ rfl rfl (fun _ => rfl) rfl

/-! ## The responses and the requests -/

namespace StandardTypes

def userManagementDataType : GeneratedType where
  layout := .structure (.single "UserName" (.builtIn (.plain .string))
    (.single "UserConfiguration" (.enumeration .int32)
      (.single "Description" (.builtIn (.plain .string)) .nil)))
  binaryEncodingId := 24292
  jsonEncodingId := 24300

def rolePermissionType : GeneratedType where
  layout := .structure (.single "RoleId" (.builtIn (.plain .nodeId))
    (.single "Permissions" (.enumeration .int32) .nil))
  binaryEncodingId := 128
  jsonEncodingId := 15062

def identityMappingRuleType : GeneratedType where
  layout := .structure (.single "CriteriaType" (.enumeration .int32)
    (.single "Criteria" (.builtIn (.plain .string)) .nil))
  binaryEncodingId := 15736
  jsonEncodingId := 15042

def rangeType : GeneratedType where
  layout := range
  binaryEncodingId := 886
  jsonEncodingId := 15375

/-- The types of `TranscodeKnownBodyToJson`. -/
def knownTypes : List GeneratedType :=
  [userManagementDataType, rolePermissionType, identityMappingRuleType, rangeType]

def dateTimeField (name : String) (rest : FieldLayouts) : FieldLayouts :=
  .single name (.builtIn (.plain .dateTime)) rest

def boolField (name : String) (rest : FieldLayouts) : FieldLayouts :=
  .single name (.builtIn (.plain .bool)) rest

def uint32Field (name : String) (rest : FieldLayouts) : FieldLayouts :=
  .single name (.builtIn (.plain .uint32)) rest

def nodeIdField (name : String) (rest : FieldLayouts) : FieldLayouts :=
  .single name (.builtIn (.plain .nodeId)) rest

def simpleAttributeOperand : TypeLayout :=
  .structure (nodeIdField "TypeDefinitionId"
    (.array "BrowsePath" (.builtIn (.plain .qualifiedName))
      (uint32Field "AttributeId" (.single "IndexRange" (.builtIn (.plain .string)) .nil))))

def contentFilter : TypeLayout :=
  .structure (.array "Elements"
    (.structure (.single "FilterOperator" (.enumeration .int32)
      (.array "FilterOperands" (.builtIn (.plain .extensionObject)) .nil))) .nil)

def eventFilter : TypeLayout :=
  .structure (.array "SelectClauses" simpleAttributeOperand
    (.single "WhereClause" contentFilter .nil))

def historyEventFieldList : TypeLayout :=
  .structure (.array "EventFields" (.builtIn .variant) .nil)

def aggregateConfiguration : TypeLayout :=
  .structure (boolField "UseServerCapabilitiesDefaults" (boolField "TreatUncertainAsBad"
    (.single "PercentDataBad" (.builtIn (.plain .uint8))
      (.single "PercentDataGood" (.builtIn (.plain .uint8))
        (boolField "UseSlopedExtrapolation" .nil)))))

def readRawModifiedDetails : GeneratedType where
  layout := .structure (boolField "IsReadModified" (dateTimeField "StartTime"
    (dateTimeField "EndTime" (uint32Field "NumValuesPerNode"
      (boolField "ReturnBounds" .nil)))))
  binaryEncodingId := 649
  jsonEncodingId := 15263

def readProcessedDetails : GeneratedType where
  layout := .structure (dateTimeField "StartTime" (dateTimeField "EndTime"
    (.single "ProcessingInterval" (.builtIn (.plain .double))
      (.array "AggregateType" (.builtIn (.plain .nodeId))
        (.single "AggregateConfiguration" aggregateConfiguration .nil)))))
  binaryEncodingId := 652
  jsonEncodingId := 15264

def readEventDetails : GeneratedType where
  layout := .structure (uint32Field "NumValuesPerNode" (dateTimeField "StartTime"
    (dateTimeField "EndTime" (.single "Filter" eventFilter .nil))))
  binaryEncodingId := 646
  jsonEncodingId := 15262

def historyData : GeneratedType where
  layout := .structure (.array "DataValues" (.builtIn .dataValue) .nil)
  binaryEncodingId := 658
  jsonEncodingId := 15270

def historyEvent : GeneratedType where
  layout := .structure (.array "Events" historyEventFieldList .nil)
  binaryEncodingId := 661
  jsonEncodingId := 15273

def updateDataDetails : GeneratedType where
  layout := .structure (nodeIdField "NodeId"
    (.single "PerformInsertReplace" (.enumeration .int32)
      (.array "UpdateValues" (.builtIn .dataValue) .nil)))
  binaryEncodingId := 682
  jsonEncodingId := 15280

def updateEventDetails : GeneratedType where
  layout := .structure (nodeIdField "NodeId"
    (.single "PerformInsertReplace" (.enumeration .int32) (.single "Filter" eventFilter
      (.array "EventData" historyEventFieldList .nil))))
  binaryEncodingId := 685
  jsonEncodingId := 15282

def historyReadDetails : List GeneratedType :=
  [readRawModifiedDetails, readProcessedDetails, readEventDetails]

def historyResults : List GeneratedType := [historyData, historyEvent]

def historyUpdateDetails : List GeneratedType := [updateDataDetails, updateEventDetails]

theorem transcodable_knownTypes : Transcodable knownTypes :=
  ⟨by decide, by decide, by decide⟩

theorem transcodable_historyReadDetails : Transcodable historyReadDetails :=
  ⟨by decide, by decide, by decide⟩

theorem transcodable_historyResults : Transcodable historyResults :=
  ⟨by decide, by decide, by decide⟩

theorem transcodable_historyUpdateDetails : Transcodable historyUpdateDetails :=
  ⟨by decide, by decide, by decide⟩

end StandardTypes

/-! ## Responses and requests -/

section Messages

open StandardTypes

variable (forms texts)

/-- `WithJsonBodies(ua::ReadResponse)`, of its results. -/
def readResultsWithJsonBodies (results : List DataValue) : Except Thrown (List DataValue) :=
  results.mapM fun result => do
    let value ← withJsonBodies forms texts knownTypes result.value
    return { result with value }

/-- `WithJsonBodies(ua::HistoryReadRequest)`, of its details. -/
def historyReadDetailsWithJsonBody (details : ExtensionObject) :
    Except Thrown ExtensionObject :=
  withJsonBody forms texts historyReadDetails details

/-- `WithJsonBodies(ua::HistoryReadResponse)`, of the data of its results. -/
def historyDataWithJsonBodies (results : List ExtensionObject) :
    Except Thrown (List ExtensionObject) :=
  results.mapM (withJsonBody forms texts historyResults)

/-- `WithJsonBodies(ua::HistoryUpdateRequest)`, of its details. -/
def historyUpdateDetailsWithJsonBodies (details : List ExtensionObject) :
    Except Thrown (List ExtensionObject) :=
  details.mapM (withJsonBody forms texts historyUpdateDetails)

variable {forms texts}

/-- The data of the results of a HistoryRead keep their order, and a history reads from
each of them what it would have read from the one that was built. -/
theorem historyData_transcoded {data sent : List ExtensionObject}
    (hreturn : ∀ object ∈ data, BodiesReturn forms texts historyResults object)
    (h : historyDataWithJsonBodies forms texts data = .ok sent) :
    List.Forall₂ (Transcoded forms texts historyResults) data sent :=
  (transcoded_all transcodable_historyResults hreturn h).1

theorem readResult_transcoded {result other : DataValue}
    (hreturn : ∀ object ∈ result.value.extensionObjects,
      BodiesReturn forms texts knownTypes object)
    (h : (do
      let value ← withJsonBodies forms texts knownTypes result.value
      return { result with value }) = Except.ok other) :
    other = { result with value := other.value } ∧
      VariantTranscoded forms texts knownTypes result.value other.value := by
  cases hvalue : withJsonBodies forms texts knownTypes result.value with
  | error thrown =>
      rw [hvalue] at h
      cases h
  | ok value =>
      rw [hvalue] at h
      obtain rfl := Except.ok.inj h
      exact ⟨rfl, transcoded_withJsonBodies transcodable_knownTypes hreturn hvalue⟩

/-- The results of a Read keep their order and all but their bodies, and every known type
reads from each body what it would have read from the one that was built. -/
theorem readResults_transcoded {results sent : List DataValue}
    (hreturn : ∀ result ∈ results, ∀ object ∈ result.value.extensionObjects,
      BodiesReturn forms texts knownTypes object)
    (h : readResultsWithJsonBodies forms texts results = .ok sent) :
    List.Forall₂ (fun result other => other = { result with value := other.value } ∧
      VariantTranscoded forms texts knownTypes result.value other.value) results sent :=
  forall₂_of_mapM h fun result hmem _ hother => readResult_transcoded (hreturn result hmem) hother

/-- A user in the result of a Read. -/
def userObject : ExtensionObject :=
  (userManagementDataType.wire Binary.Bounded.sampleForms sampleTexts).toExtensionObject
    (([0x61] : ByteText), (1 : Int32), ([] : ByteText), ())

def userResult : DataValue :=
  { noDataValue with value := .scalar .extensionObject userObject }

/-- The user with the body `{"UserName": "a", "UserConfiguration": 1}`. -/
def userSent : DataValue :=
  { noDataValue with
    value := .scalar .extensionObject
      { dataTypeId := encodingId 24300
        value := .json (.object [(asciiText "UserName", .string [0x61]),
          (asciiText "UserConfiguration", .int64 1)]) } }

theorem bodiesReturn_userObject :
    BodiesReturn Binary.Bounded.sampleForms sampleTexts knownTypes userObject := by
  have hother : ∀ type : GeneratedType, type.binaryEncodingId ≠ 24292 →
      (type.wire Binary.Bounded.sampleForms sampleTexts).fromExtensionObject userObject = none :=
    fun type hid => if_neg fun hsame => hid (Option.some.inj hsame).symm
  intro type htype value hread
  simp only [knownTypes, List.mem_cons, List.not_mem_nil, or_false] at htype
  rcases htype with rfl | rfl | rfl | rfl
  · exact ⟨fun _ => rfl, fun _ => trivial, fun _ => rfl, trivial⟩
  all_goals
    rw [hother _ (by decide)] at hread
    cases hread

theorem userResult_transcoded :
    List.Forall₂ (fun result other => other = { result with value := other.value } ∧
      VariantTranscoded Binary.Bounded.sampleForms sampleTexts knownTypes result.value
        other.value) [userResult] [userSent] := by
  apply readResults_transcoded
  · intro result hresult object hobject
    obtain rfl := List.mem_singleton.mp hresult
    obtain rfl := List.mem_singleton.mp hobject
    exact bodiesReturn_userObject
  · rfl

end Messages

end OpcuaStack
