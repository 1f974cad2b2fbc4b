import OpcuaStack.EventFilterRoundTrip
import OpcuaStack.SubscriptionMessages

/-!
# Filters of monitored items

`FilterToExtensionObject` and `FilterFromExtensionObject` of
`session/subscription_conversion.cpp`.  An event filter is kept as JSON, and what is read
of it is sent in the structure of the standard.
-/

namespace OpcuaStack

open Json

/-- `read_ids`. -/
def readId (base64 : Base64) : JsonValue → Option NodeId
  | .string text => some (NodeId.ofText base64 (cString text))
  | _ => none

def readIds (base64 : Base64) (ids : Option JsonValue) : List NodeId :=
  match ids with
  | some (.array elements) => elements.filterMap (readId base64)
  | _ => []

/-- `to_number<unsigned>()`, where there is a number at all. -/
def readTypes : Option JsonValue → Except Thrown UInt32
  | some (.int64 value) =>
      if 0 ≤ value ∧ value < 2 ^ 32 then .ok (.ofNat value.toNat)
      else .error (.error "not exact")
  | some (.uint64 value) =>
      if value.toNat < 2 ^ 32 then .ok value.toUInt32 else .error (.error "not exact")
  | some (.double value) =>
      if 0 ≤ value ∧ value < 2 ^ 32 ∧ value.den = 1 then .ok (.ofNat value.num.toNat)
      else .error (.error "not exact")
  | _ => .ok 0

/-- What the JSON filter selects besides its field paths. -/
def jsonSelection (base64 : Base64) : JsonValue → Except Thrown EventFilter
  | .object members => do
      let types ← readTypes (ifContains members "types")
      return {
        types
        ofType := readIds base64 (ifContains members "of_type")
        childOf := readIds base64 (ifContains members "child_of") }
  | _ => .ok {}

/-- The generated codecs of the filters.  Trigger and deadband type are the same numbers
in both of their enumerations. -/
structure FilterCodec extends OperandCodec where
  dataChange : BodyCodec DataChangeFilter
  event : BodyCodec WireEventFilter

namespace FilterCodec

variable (codec : FilterCodec)

def dataChangeFilter : WireType DataChangeFilter :=
  { codec.dataChange with binaryEncodingId := 724, jsonEncodingId := 15294 }

def eventFilter : WireType WireEventFilter :=
  { codec.event with binaryEncodingId := 727, jsonEncodingId := 15295 }

def filterToExtensionObject (base64 : Base64) :
    Option MonitoringFilter → Except Thrown ExtensionObject
  | none => .ok {}
  | some (.dataChange filter) => .ok (codec.dataChangeFilter.toExtensionObject filter)
  | some (.json json) => do
      let selection ← jsonSelection base64 json
      return codec.eventFilter.toExtensionObject
        (codec.toUaEventFilter (parseEventFilterFieldPaths json) selection)

/-- A JSON body, by the id in front of it; `none` where its decoder throws. -/
def filterFromJson (base64 : Base64) (id : Option UInt32) (body : JsonValue) :
    Option (Option MonitoringFilter) :=
  if id = some 15296 then
    (codec.dataChange.decodeJson body).map fun filter => some (.dataChange filter)
  else if id = some 15295 then
    (codec.event.decodeJson body).map fun filter =>
      some (.json (toJsonEventFilter codec.toOperandCodec base64 filter))
  else some none

def filterFromExtensionObject (base64 : Base64) (extensionObject : ExtensionObject) :
    Option (Option MonitoringFilter) :=
  match codec.dataChangeFilter.fromExtensionObject extensionObject with
  | some filter => some (some (.dataChange filter))
  | none =>
      match codec.eventFilter.fromExtensionObject extensionObject with
      | some filter =>
          some (some (.json (toJsonEventFilter codec.toOperandCodec base64 filter)))
      | none =>
          match extensionObject.value with
          | .json body => codec.filterFromJson base64 extensionObject.standardId? body
          | _ => some none

end FilterCodec

/-! ## What is read of the JSON -/

section Reading

theorem cString_of_not_mem {text : ByteText} (h : 0 ∉ text) : cString text = text :=
  List.takeWhile_eq_self_iff.mpr fun character hmem =>
    decide_eq_true fun heq : character = 0 => h (heq ▸ hmem)

theorem not_mem_cString (text : ByteText) : 0 ∉ cString text := by
  intro hmem
  unfold cString at hmem
  have hne := List.mem_takeWhile_imp hmem
  simp at hne

theorem not_mem_hexUpper (width value : ℕ) : 0 ∉ hexUpper width value := by
  intro hmem
  obtain ⟨digit, hdigit, hzero⟩ := HexText.exists_of_mem_digits hmem
  have hall : ∀ digit < 16, (0 : UInt8) ≠ upperHexDigit digit := by decide
  exact hall digit hdigit hzero

theorem not_mem_guidText (guid : Guid) : 0 ∉ guid.toText := by
  have hcons : ∀ {rest : ByteText}, 0 ∉ rest → 0 ∉ hyphen :: rest := fun hrest =>
    List.not_mem_cons_of_ne_of_not_mem (by decide) hrest
  have hhex := not_mem_hexUpper
  unfold Guid.toText
  refine List.not_mem_append (hhex _ _) (hcons ?_)
  refine List.not_mem_append (hhex _ _) (hcons ?_)
  refine List.not_mem_append (hhex _ _) (hcons ?_)
  refine List.not_mem_append (List.not_mem_append (hhex _ _) (hhex _ _)) (hcons ?_)
  simp only [List.mem_append, hhex, or_self, not_false_eq_true]

theorem not_mem_toText {base64 : Base64} (halphabet : ∀ bytes, 0 ∉ base64.encode bytes)
    {nodeId : NodeId} (h : ∀ text, nodeId.identifier = .string text → 0 ∉ text) :
    0 ∉ nodeId.toText base64 := by
  have hdecimal : ∀ number : ℕ, 0 ∉ decimalText number := fun number =>
    not_mem_decimalText (by decide)
  have hidentifier : 0 ∉ identifierText base64 nodeId.identifier := by
    cases hkind : nodeId.identifier with
    | numeric id =>
        rw [identifierText, List.mem_append, not_or]
        exact ⟨by decide, hdecimal _⟩
    | string id =>
        rw [identifierText, List.mem_append, not_or]
        exact ⟨by decide, h id hkind⟩
    | guid id =>
        rw [identifierText, List.mem_append, not_or]
        exact ⟨by decide, not_mem_guidText id⟩
    | byteString id =>
        rw [identifierText, List.mem_append, not_or]
        exact ⟨by decide, halphabet id⟩
  rw [NodeId.toText, List.mem_append, not_or]
  refine ⟨?_, hidentifier⟩
  split
  · rw [List.mem_append, List.mem_append, not_or, not_or]
    exact ⟨by decide, hdecimal _, by decide⟩
  · exact List.not_mem_nil

theorem exists_of_elim {α : Type} {found : Option α} {make : α → NodeId} {id : ByteText}
    (h : (found.elim {} make).identifier = .string id) :
    ∃ value, found = some value ∧ (make value).identifier = .string id := by
  cases found with
  | none => exact NodeIdentifier.noConfusion h
  | some value => exact ⟨value, rfl, h⟩

theorem not_mem_ofIdentifierText {base64 : Base64} {ns : UInt16} {text id : ByteText}
    (htext : 0 ∉ text)
    (h : (NodeId.ofIdentifierText base64 ns text).identifier = .string id) : 0 ∉ id := by
  unfold NodeId.ofIdentifierText at h
  split at h
  next =>
    obtain ⟨number, -, hnumeric⟩ := exists_of_elim h
    cases hnumeric
  next =>
    split at h
    next =>
      injection h with h
      exact h ▸ fun hmem => htext (List.mem_of_mem_drop hmem)
    next =>
      split at h
      next =>
        obtain ⟨guid, -, hguid⟩ := exists_of_elim h
        cases hguid
      next =>
        split at h
        next =>
          obtain ⟨bytes, -, hbytes⟩ := exists_of_elim h
          cases hbytes
        next =>
          injection h with h
          exact h ▸ htext

theorem not_mem_ofText {base64 : Base64} {text id : ByteText} (htext : 0 ∉ text)
    (h : (NodeId.ofText base64 text).identifier = .string id) : 0 ∉ id := by
  unfold NodeId.ofText at h
  split at h
  next => exact NodeIdentifier.noConfusion h
  next =>
    split at h
    next =>
      obtain ⟨index, -, hindex⟩ := exists_of_elim h
      obtain ⟨ns, -, hns⟩ := exists_of_elim hindex
      exact not_mem_ofIdentifierText (fun hmem => htext (List.mem_of_mem_drop hmem)) hns
    next => exact not_mem_ofIdentifierText htext h

theorem readId_text {base64 : Base64} (h : ∀ bytes, base64.Inverts bytes)
    (halphabet : ∀ bytes, 0 ∉ base64.encode bytes) {json : JsonValue} {nodeId : NodeId}
    (hread : readId base64 json = some nodeId) :
    readId base64 (.string (nodeId.toText base64)) = some nodeId := by
  cases json with
  | string text =>
      obtain rfl := Option.some.inj hread
      have hplain : 0 ∉ (NodeId.ofText base64 (cString text)).toText base64 :=
        not_mem_toText halphabet fun id hid => not_mem_ofText (not_mem_cString text) hid
      rw [readId, cString_of_not_mem hplain, NodeId.ofText_toText h]
  | _ => cases hread

theorem readIds_nodeIdTexts {base64 : Base64} {nodeIds : List NodeId}
    (h : ∀ nodeId ∈ nodeIds,
      readId base64 (.string (nodeId.toText base64)) = some nodeId) :
    readIds base64 (some (nodeIdTexts base64 nodeIds)) = nodeIds := by
  rw [nodeIdTexts, readIds]
  induction nodeIds with
  | nil => rfl
  | cons nodeId rest ih =>
      rw [List.map_cons, List.filterMap_cons_some (h nodeId List.mem_cons_self),
        ih fun other hmem => h other (List.mem_cons_of_mem _ hmem)]

theorem forall_mem_readIds {base64 : Base64} (h : ∀ bytes, base64.Inverts bytes)
    (halphabet : ∀ bytes, 0 ∉ base64.encode bytes) (ids : Option JsonValue) :
    ∀ nodeId ∈ readIds base64 ids,
      readId base64 (.string (nodeId.toText base64)) = some nodeId := by
  intro nodeId hmem
  unfold readIds at hmem
  split at hmem
  next =>
    obtain ⟨json, -, hread⟩ := List.mem_filterMap.mp hmem
    exact readId_text h halphabet hread
  next => cases hmem

theorem jsonSelection_jsonFilter {base64 : Base64} (fieldPaths : List (List ByteText))
    {filter : EventFilter}
    (h : ∀ nodeId ∈ filter.ofType ++ filter.childOf,
      readId base64 (.string (nodeId.toText base64)) = some nodeId) :
    jsonSelection base64 (jsonFilter base64 fieldPaths filter) = .ok filter := by
  have hofType := readIds_nodeIdTexts fun nodeId hmem =>
    h nodeId (List.mem_append_left _ hmem)
  have hchildOf := readIds_nodeIdTexts fun nodeId hmem =>
    h nodeId (List.mem_append_right _ hmem)
  have htypes : readTypes (some (.uint64 filter.types.toUInt64)) = .ok filter.types := by
    have hfits : filter.types.toUInt64.toNat < 2 ^ 32 := filter.types.toNat_lt
    rw [readTypes, if_pos hfits]
    exact congrArg Except.ok (UInt32.toUInt32_toUInt64 filter.types)
  have hlookup : ∀ name ∈ ["types", "of_type", "child_of"], ∀ members : Members,
      ifContains (pathMembers fieldPaths ++
          (asciiText "_scada", .string (asciiText "event")) :: members) name =
        ifContains members name := by
    intro name hname members
    fin_cases hname <;> rfl
  rw [jsonFilter, jsonSelection, hlookup "types" (by simp), hlookup "of_type" (by simp),
    hlookup "child_of" (by simp)]
  change (readTypes (some (.uint64 filter.types.toUInt64)) >>= fun types =>
    pure (EventFilter.mk types (readIds base64 (some (nodeIdTexts base64 filter.ofType)))
      (readIds base64 (some (nodeIdTexts base64 filter.childOf))))) = _
  rw [htypes, hofType, hchildOf]
  rfl

theorem jsonSelection_ids {base64 : Base64} (h : ∀ bytes, base64.Inverts bytes)
    (halphabet : ∀ bytes, 0 ∉ base64.encode bytes) {json : JsonValue} {found : EventFilter}
    (hfound : jsonSelection base64 json = .ok found) :
    ∀ nodeId ∈ found.ofType ++ found.childOf,
      readId base64 (.string (nodeId.toText base64)) = some nodeId := by
  have hread := forall_mem_readIds h halphabet
  cases json with
  | object members =>
      rw [jsonSelection] at hfound
      cases htypes : readTypes (ifContains members "types") with
      | error thrown =>
          rw [htypes] at hfound
          cases hfound
      | ok types =>
          rw [htypes] at hfound
          obtain rfl := Except.ok.inj hfound
          exact List.forall_mem_append.mpr ⟨hread _, hread _⟩
  | _ =>
      obtain rfl := Except.ok.inj hfound
      exact List.forall_mem_nil _

/-- The paths which are read of a filter have names, and are read the same again. -/
def Plain (fieldPaths : List (List ByteText)) : Prop :=
  fieldPaths ≠ [] ∧ ∀ path ∈ fieldPaths, path ≠ [] ∧ ∀ name ∈ path, 0 ∉ name

theorem plain_normalizeEventFieldPaths {fieldPaths : List (List ByteText)}
    (h : ∀ path ∈ fieldPaths, path ≠ [] ∧ ∀ name ∈ path, 0 ∉ name) :
    Plain (normalizeEventFieldPaths fieldPaths) := by
  refine ⟨normalizeEventFieldPaths_ne_nil fieldPaths, ?_⟩
  unfold normalizeEventFieldPaths
  split
  next => decide
  next => exact h

theorem plain_parseEventFilterFieldPaths (json : JsonValue) :
    Plain (parseEventFilterFieldPaths json) := by
  have hnone : Plain (normalizeEventFieldPaths []) :=
    plain_normalizeEventFieldPaths (List.forall_mem_nil _)
  have hsegment : ∀ {segment : JsonValue} {name : ByteText},
      parseSegment segment = some name → 0 ∉ name := by
    intro segment name h
    unfold parseSegment at h
    split at h
    · split at h
      · exact Option.some.inj h ▸ not_mem_cString _
      · cases h
    · cases h
  have hclause : ∀ {clause : JsonValue} {path : List ByteText},
      parseClause clause = some path → path ≠ [] ∧ ∀ name ∈ path, 0 ∉ name := by
    intro clause path h
    unfold parseClause at h
    split at h
    · split at h
      · dsimp only at h
        split at h
        · cases h
        next hempty =>
          obtain rfl := Option.some.inj h
          refine ⟨fun hnil => hempty (List.isEmpty_iff.mpr hnil), fun name hmem => ?_⟩
          obtain ⟨segment, -, hname⟩ := List.mem_filterMap.mp hmem
          exact hsegment hname
      · cases h
    · cases h
  unfold parseEventFilterFieldPaths
  split
  · unfold parseSelectClauses
    split
    · refine plain_normalizeEventFieldPaths fun path hmem => ?_
      obtain ⟨clause, -, hpath⟩ := List.mem_filterMap.mp hmem
      exact hclause hpath
    · exact hnone
  · exact hnone

theorem parseEventFilterFieldPaths_of_plain {base64 : Base64}
    {fieldPaths : List (List ByteText)} (h : Plain fieldPaths) (filter : EventFilter) :
    parseEventFilterFieldPaths (jsonFilter base64 fieldPaths filter) = fieldPaths := by
  have hkept : fieldPaths.filter (!·.isEmpty) = fieldPaths := by
    refine List.filter_eq_self.mpr fun path hmem => ?_
    rw [List.isEmpty_eq_false_iff.mpr (h.2 path hmem).1]
    rfl
  have hnames : fieldPaths.map (List.map cString) = fieldPaths := by
    refine (List.map_congr_left fun path hmem => ?_).trans (List.map_id _)
    exact (List.map_congr_left fun name hname =>
      cString_of_not_mem ((h.2 path hmem).2 name hname)).trans (List.map_id _)
  rw [parseEventFilterFieldPaths_jsonFilter, hkept, hnames,
    normalizeEventFieldPaths_of_ne_nil h.1]

end Reading

/-! ## There and back -/

namespace FilterCodec

variable {codec : FilterCodec} {base64 : Base64}

theorem filterFromExtensionObject_event {filter : WireEventFilter}
    (h : codec.eventFilter.RoundTrips filter) :
    codec.filterFromExtensionObject base64 (codec.eventFilter.toExtensionObject filter) =
      some (some (.json (toJsonEventFilter codec.toOperandCodec base64 filter))) := by
  have hother : codec.dataChangeFilter.fromExtensionObject
      (codec.eventFilter.toExtensionObject filter) = none :=
    WireType.fromExtensionObject_other (by decide : (727 : UInt32) ≠ 724) filter
  rw [filterFromExtensionObject, hother, h.fromExtensionObject]

theorem filterToExtensionObject_json {json : JsonValue} {found : EventFilter}
    (hfound : jsonSelection base64 json = .ok found) :
    codec.filterToExtensionObject base64 (some (.json json)) =
      .ok (codec.eventFilter.toExtensionObject
        (codec.toUaEventFilter (parseEventFilterFieldPaths json) found)) := by
  rw [filterToExtensionObject, hfound]
  rfl

/-- What the JSON form of a filter says of its paths and of its selection is kept, up to
the bits which are not sent. -/
theorem monitoringFilter_returns (h : ∀ bytes, base64.Inverts bytes)
    (halphabet : ∀ bytes, 0 ∉ base64.encode bytes) {json : JsonValue} {found : EventFilter}
    (hfound : jsonSelection base64 json = .ok found) (hreads : codec.ReadsBack found)
    (hwire : codec.eventFilter.RoundTrips
      (codec.toUaEventFilter (parseEventFilterFieldPaths json) found)) :
    ∃ sent json', codec.filterToExtensionObject base64 (some (.json json)) = .ok sent ∧
      codec.filterFromExtensionObject base64 sent = some (some (.json json')) ∧
      parseEventFilterFieldPaths json' = parseEventFilterFieldPaths json ∧
      jsonSelection base64 json' = .ok found.sent := by
  have hplain := plain_parseEventFilterFieldPaths json
  have hids := jsonSelection_ids h halphabet hfound
  have hform : toJsonEventFilter codec.toOperandCodec base64
      (codec.toUaEventFilter (parseEventFilterFieldPaths json) found) =
        jsonFilter base64 (parseEventFilterFieldPaths json) found.sent := by
    rw [toJsonEventFilter, OperandCodec.fieldPaths_toUaEventFilter,
      normalizeEventFieldPaths_of_ne_nil hplain.1,
      OperandCodec.whereClause_toUaEventFilter hreads]
  refine ⟨_, _, filterToExtensionObject_json hfound,
    filterFromExtensionObject_event hwire, ?_, ?_⟩
  · rw [hform, parseEventFilterFieldPaths_of_plain hplain]
  · rw [hform]
    exact jsonSelection_jsonFilter _ hids

/-- Filters come back from the history services and from monitored items. -/
theorem eventFilters_come_back (h : ∀ bytes, base64.Inverts bytes)
    (halphabet : ∀ bytes, 0 ∉ base64.encode bytes) :
    (∀ fieldPaths filter, codec.ReadsBack filter →
      codec.toManagedEventFilter (codec.toUaEventFilter fieldPaths filter) =
        .ok (fieldPaths, filter.sent)) ∧
      ∀ json found, jsonSelection base64 json = .ok found → codec.ReadsBack found →
        codec.eventFilter.RoundTrips
          (codec.toUaEventFilter (parseEventFilterFieldPaths json) found) →
        ∃ sent json', codec.filterToExtensionObject base64 (some (.json json)) = .ok sent ∧
          codec.filterFromExtensionObject base64 sent = some (some (.json json')) ∧
          parseEventFilterFieldPaths json' = parseEventFilterFieldPaths json ∧
          jsonSelection base64 json' = .ok found.sent :=
  ⟨fun fieldPaths _ hreads =>
      OperandCodec.toManagedEventFilter_toUaEventFilter hreads fieldPaths,
    fun _ _ hfound hreads hwire => monitoringFilter_returns h halphabet hfound hreads hwire⟩

end FilterCodec

/-! ## The binary body of a filter -/

section Binary

open Binary Binary.Bounded

def encodeOperand (operand : ExtensionObject) : ByteString :=
  (encodeExtensionObject operand).getD []

def encodeFilterElement (element : ContentFilterElement) : ByteString :=
  encodeUInt32 element.filterOperator ++
    WireType.encodeArray encodeOperand element.filterOperands

def decodeFilterElement : Bounded.Decoder ContentFilterElement := do
  let filterOperator ← Bounded.decodeUInt32
  let filterOperands ← WireType.decodeArray decodeExtensionObject
  return { filterOperator, filterOperands }

def encodeEventFilter (filter : WireEventFilter) : ByteString :=
  WireType.encodeArray encodeAttribute filter.selectClauses ++
    WireType.encodeArray encodeFilterElement filter.elements

def decodeEventFilter : Bounded.Decoder WireEventFilter := do
  let selectClauses ← WireType.decodeArray decodeAttribute
  let elements ← WireType.decodeArray decodeFilterElement
  return { selectClauses, elements }

def binaryEventFilter : BodyCodec WireEventFilter where
  encode := encodeEventFilter
  decode := WireType.decodeBody decodeEventFilter
  decodeJson := fun _ => none

theorem encodeAttribute_ne_nil (operand : SimpleAttributeOperand) :
    encodeAttribute operand ≠ [] :=
  List.append_ne_nil_of_left_ne_nil (encodeNodeId_ne_nil operand.typeDefinitionId) _

theorem encodeFilterElement_ne_nil (element : ContentFilterElement) :
    encodeFilterElement element ≠ [] :=
  List.append_ne_nil_of_left_ne_nil
    (by simp [encodeUInt32, littleEndian] : encodeUInt32 element.filterOperator ≠ []) _

theorem yields_operand {operand : ExtensionObject} (h : HasBytes operand) :
    encodeOperand operand ≠ [] ∧
      decodeExtensionObject.Yields (encodeOperand operand) operand := by
  obtain ⟨written, hwritten, hyields⟩ := returns_extensionObject h
  rw [encodeOperand, hwritten, Option.getD_some]
  exact ⟨encodeExtensionObject_ne_nil hwritten, hyields⟩

/-- An element whose operands have bodies that can be written. -/
structure ContentFilterElement.Encodable (element : ContentFilterElement) : Prop where
  count : element.filterOperands.length < 2 ^ 31
  operands : ∀ operand ∈ element.filterOperands, HasBytes operand

theorem yields_filterElement {element : ContentFilterElement} (h : element.Encodable) :
    decodeFilterElement.Yields (encodeFilterElement element) element :=
  (follows_uInt32.yields (reads_uInt32 _)).bind
    ((WireType.yields_array h.count (fun _ hmem => (yields_operand (h.operands _ hmem)).1)
      fun _ hmem => (yields_operand (h.operands _ hmem)).2).bind_pure
        fun filterOperands => ({ element with filterOperands } : ContentFilterElement))

theorem yields_eventFilter {filter : WireEventFilter}
    (hclauses : filter.selectClauses.length < 2 ^ 31)
    (hclause : ∀ clause ∈ filter.selectClauses, clause.Encodable)
    (helements : filter.elements.length < 2 ^ 31)
    (helement : ∀ element ∈ filter.elements, element.Encodable) :
    decodeEventFilter.Yields (encodeEventFilter filter) filter :=
  (WireType.yields_array hclauses (fun clause _ => encodeAttribute_ne_nil clause)
    fun clause hmem => yields_attribute (hclause clause hmem)).bind
      ((WireType.yields_array helements (fun element _ => encodeFilterElement_ne_nil element)
        fun element hmem => yields_filterElement (helement element hmem)).bind_pure
          fun elements => ({ filter with elements } : WireEventFilter))

theorem binaryEventFilter_returns {filter : WireEventFilter}
    (hfits : (encodeEventFilter filter).length < 2 ^ 63)
    (hclauses : filter.selectClauses.length < 2 ^ 31)
    (hclause : ∀ clause ∈ filter.selectClauses, clause.Encodable)
    (helements : filter.elements.length < 2 ^ 31)
    (helement : ∀ element ∈ filter.elements, element.Encodable) :
    binaryEventFilter.decode (binaryEventFilter.encode filter) = some filter :=
  WireType.decodeBody_of_yields hfits
    (yields_eventFilter hclauses hclause helements helement)

end Binary

/-! ## A filter of a client -/

namespace FilterCodec

open Binary Binary.Bounded OperandCodec

def sampleFilterCodec : FilterCodec where
  toOperandCodec := sampleOperandCodec
  dataChange := { encode := fun _ => [], decode := fun _ => none, decodeJson := fun _ => none }
  event := binaryEventFilter

/-- A selection with a bit which is not sent. -/
def sampleSelection : EventFilter := { types := 7, ofType := [alarmType] }

def sampleJson : JsonValue :=
  .object [(asciiText "SelectClauses", .array [selectClause [asciiText "Severity"]]),
    (asciiText "types", .int64 7),
    (asciiText "of_type", .array [.string (asciiText "i=2915"), .null])]

theorem sampleJson_selection :
    jsonSelection Base64.standard sampleJson = .ok sampleSelection := rfl

theorem literal_roundTrips {value : Variant}
    (hfits : ((encodeVariant sampleForms value).getD []).length < 2 ^ 63)
    (h : (decodeVariant sampleForms).Returns (encodeVariant sampleForms value) value) :
    sampleFilterCodec.literalOperand.RoundTrips { value } :=
  literalOperand_roundTrips hfits h

theorem toSelectClause_encodable {path : List ByteText} (hpath : path.length < 2 ^ 31)
    (hnames : ∀ name ∈ path, name.length < 2 ^ 31) : (toSelectClause path).Encodable where
  type := trivial
  path := (List.length_map _).trans_lt hpath
  names := by
    intro name hmem
    obtain ⟨segment, hsegment, rfl⟩ := List.mem_map.mp hmem
    exact hnames segment hsegment
  range := Nat.two_pow_pos 31

theorem sampleSelection_readsBack : sampleFilterCodec.ReadsBack sampleSelection where
  nodeIds := by
    intro nodeId hmem
    obtain rfl := List.mem_singleton.mp hmem
    exact literal_roundTrips (by decide) (returns_variant sampleForms (.scalar .nodeId alarmType)
      fun _ => .of_yields (yields_nodeId trivial))
  bools := by
    intro acked
    refine literal_roundTrips (by cases acked <;> decide)
      (returns_variant sampleForms (.scalar .bool acked) fun _ => .of_yields ?_)
    cases acked
    · exact (yields_uInt8 0).bind_pure fun raw => decide (raw ≠ 0)
    · exact (yields_uInt8 1).bind_pure fun raw => decide (raw ≠ 0)
  leaf := simpleAttributeOperand_roundTrips
    (toSelectClause_encodable (by decide) (by decide)) (by decide)

theorem hasBytes_toExtensionObject {T : Type} {type : WireType T} {value : T}
    (h : (type.encode value).length < 2 ^ 31) : HasBytes (type.toExtensionObject value) where
  typeId := ⟨fun _ => NodeIdentifier.noConfusion, trivial, Nat.two_pow_pos 31⟩
  body := ⟨_, rfl, h⟩

theorem sampleFilter_roundTrips : sampleFilterCodec.eventFilter.RoundTrips
    (sampleFilterCodec.toUaEventFilter [[asciiText "Severity"]] sampleSelection) := by
  have hacked : ∀ acked, (sampleFilterCodec.toAckedClause acked).Encodable := by
    intro acked
    refine ⟨by cases acked <;> decide,
      List.forall_mem_cons.mpr ⟨?_, List.forall_mem_singleton.mpr ?_⟩⟩
    · exact hasBytes_toExtensionObject (by decide)
    · exact hasBytes_toExtensionObject (by cases acked <;> decide)
  have hofType : (sampleFilterCodec.toWhereClauseElement FilterOperator.ofType
      alarmType).Encodable :=
    ⟨by decide, List.forall_mem_singleton.mpr (hasBytes_toExtensionObject (by decide))⟩
  refine binaryEventFilter_returns (by decide +kernel) (by decide)
    (List.forall_mem_singleton.mpr ?_) (by decide) ?_
  · exact toSelectClause_encodable (by decide) (by decide)
  · exact List.forall_mem_cons.mpr ⟨hofType, List.forall_mem_cons.mpr ⟨hacked true,
      List.forall_mem_singleton.mpr (hacked false)⟩⟩

theorem sampleJson_returns :
    sampleFilterCodec.toManagedEventFilter
        (sampleFilterCodec.toUaEventFilter [] sampleSelection) =
          .ok ([], sampleSelection.sent) ∧
      ∃ sent json', sampleFilterCodec.filterToExtensionObject Base64.standard
          (some (.json sampleJson)) = .ok sent ∧
        sampleFilterCodec.filterFromExtensionObject Base64.standard sent =
          some (some (.json json')) ∧
        parseEventFilterFieldPaths json' = [[asciiText "Severity"]] ∧
        jsonSelection Base64.standard json' = .ok sampleSelection.sent := by
  obtain ⟨hmanaged, hitem⟩ := eventFilters_come_back Base64.standard_inverts
    Base64.not_mem_standard
  exact ⟨hmanaged [] sampleSelection sampleSelection_readsBack,
    hitem sampleJson sampleSelection sampleJson_selection sampleSelection_readsBack
      sampleFilter_roundTrips⟩

end FilterCodec

end OpcuaStack
