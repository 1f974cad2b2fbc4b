import OpcuaStack.DataValueRoundTrip
import OpcuaStack.JsonRoundTrip
import OpcuaStack.SubscriptionMessages
import OpcuaStack.WireTypes

/-!
# Bodies of notifications

The three notifications of the standard, in the binary and in the JSON encoding which
`tools/gen_ua_types.py` writes for them.  In JSON a member which holds its default is
left out.
-/

namespace OpcuaStack

/-! ## The generated structures -/

structure WireDataChangeNotification where
  monitoredItems : List MonitoredItemNotification := []

structure WireEventNotificationList where
  events : List EventFieldList := []

structure WireStatusChangeNotification where
  status : Status := .good

/-- The generated codecs of a type which is also written as JSON. -/
structure NotificationBody (T : Type) extends BodyCodec T where
  encodeJson : T → JsonValue

/-- Both forms of a body are read back. -/
def NotificationBody.Returns {T : Type} (body : NotificationBody T) (value : T) : Prop :=
  body.decode (body.encode value) = some value ∧
    body.decodeJson (body.encodeJson value) = some value

structure NotificationCodec where
  dataChange : NotificationBody WireDataChangeNotification
  events : NotificationBody WireEventNotificationList
  statusChange : NotificationBody WireStatusChangeNotification

/-! ## Binary bodies -/

section Binary

open Binary Binary.Bounded

variable (forms : Representations)

def encodeItem (item : MonitoredItemNotification) : ByteString :=
  encodeUInt32 item.clientHandle ++ (encodeDataValue forms item.value).getD []

def decodeItem : Bounded.Decoder MonitoredItemNotification := do
  let clientHandle ← Bounded.decodeUInt32
  let value ← decodeDataValue forms
  return { clientHandle, value }

def encodeFieldList (list : EventFieldList) : ByteString :=
  encodeUInt32 list.clientHandle ++
    WireType.encodeArray (fun field => (encodeVariant forms field).getD []) list.eventFields

def decodeFieldList : Bounded.Decoder EventFieldList := do
  let clientHandle ← Bounded.decodeUInt32
  let eventFields ← WireType.decodeArray (decodeVariant forms)
  return { clientHandle, eventFields }

def noDiagnosticInfo : DiagnosticInfo := .mk none none none none none none none

def encodeDataChange (wire : WireDataChangeNotification) : ByteString :=
  WireType.encodeArray (encodeItem forms) wire.monitoredItems ++
    WireType.encodeArray encodeDiagnosticInfo []

def decodeDataChange : Bounded.Decoder WireDataChangeNotification := do
  let monitoredItems ← WireType.decodeArray (decodeItem forms)
  let _ ← WireType.decodeArray (decodeDiagnosticInfo forms)
  return { monitoredItems }

def encodeEvents (wire : WireEventNotificationList) : ByteString :=
  WireType.encodeArray (encodeFieldList forms) wire.events

def decodeEvents : Bounded.Decoder WireEventNotificationList := do
  let events ← WireType.decodeArray (decodeFieldList forms)
  return { events }

def encodeStatusChange (wire : WireStatusChangeNotification) : ByteString :=
  encodeStatus wire.status ++ encodeDiagnosticInfo noDiagnosticInfo

def decodeStatusChange : Bounded.Decoder WireStatusChangeNotification := do
  let status ← decodeStatus
  let _ ← decodeDiagnosticInfo forms
  return { status }

variable {forms}

theorem encodeUInt32_append_ne_nil (number : UInt32) (rest : ByteString) :
    encodeUInt32 number ++ rest ≠ [] :=
  List.append_ne_nil_of_left_ne_nil (by simp [encodeUInt32, littleEndian]) rest

theorem yields_item {item : MonitoredItemNotification}
    (h : (decodeDataValue forms).Returns (encodeDataValue forms item.value) item.value) :
    (decodeItem forms).Yields (encodeItem forms item) item := by
  obtain ⟨written, hwritten, hyields⟩ := h
  rw [encodeItem, hwritten, Option.getD_some]
  exact (follows_uInt32.yields (reads_uInt32 _)).bind (hyields.bind_pure fun value =>
    ({ item with value } : MonitoredItemNotification))

theorem yields_fieldList {list : EventFieldList} (hcount : list.eventFields.length < 2 ^ 31)
    (h : ∀ field ∈ list.eventFields, (encodeVariant forms field).getD [] ≠ [] ∧
      (decodeVariant forms).Returns (encodeVariant forms field) field) :
    (decodeFieldList forms).Yields (encodeFieldList forms list) list := by
  refine (follows_uInt32.yields (reads_uInt32 _)).bind ?_
  refine (WireType.yields_array hcount (fun field hmem => (h field hmem).1) ?_).bind_pure
    fun eventFields => ({ list with eventFields } : EventFieldList)
  intro field hmem
  obtain ⟨written, hwritten, hyields⟩ := (h field hmem).2
  rw [hwritten, Option.getD_some]
  exact hyields

theorem yields_dataChange {wire : WireDataChangeNotification}
    (hcount : wire.monitoredItems.length < 2 ^ 31)
    (h : ∀ item ∈ wire.monitoredItems,
      (decodeDataValue forms).Returns (encodeDataValue forms item.value) item.value) :
    (decodeDataChange forms).Yields (encodeDataChange forms wire) wire := by
  have hnone : (WireType.decodeArray (decodeDiagnosticInfo forms)).Yields
      (WireType.encodeArray encodeDiagnosticInfo []) [] :=
    WireType.yields_array (by norm_num) (List.forall_mem_nil _) (List.forall_mem_nil _)
  exact (WireType.yields_array hcount (fun _ _ => encodeUInt32_append_ne_nil _ _)
    fun item hmem => yields_item (h item hmem)).bind (hnone.bind_pure fun _ => wire)

theorem yields_events {wire : WireEventNotificationList} (hcount : wire.events.length < 2 ^ 31)
    (h : ∀ list ∈ wire.events,
      (decodeFieldList forms).Yields (encodeFieldList forms list) list) :
    (decodeEvents forms).Yields (encodeEvents forms wire) wire :=
  (WireType.yields_array hcount (fun _ _ => encodeUInt32_append_ne_nil _ _) h).bind_pure
    fun events => ({ events } : WireEventNotificationList)

theorem yields_statusChange (wire : WireStatusChangeNotification) :
    (decodeStatusChange forms).Yields (encodeStatusChange wire) wire := by
  have hnone : TextsReturn noDiagnosticInfo := by
    refine ⟨fun text hmem => ?_, trivial⟩
    cases hmem
  exact (yields_status wire.status).bind
    ((yields_diagnosticInfo forms noDiagnosticInfo hnone).bind_pure fun _ => wire)

theorem length_encodeStatusChange (wire : WireStatusChangeNotification) :
    (encodeStatusChange wire).length = 5 := by
  simp [encodeStatusChange, encodeStatus, encodeUInt32, littleEndian, noDiagnosticInfo,
    encodeDiagnosticInfo, encodeUInt8, encodePresent]

end Binary

/-! ## JSON bodies -/

section Json

open Json

/-- A member with an array, unless it is empty. -/
def arrayMember {T : Type} (name : String) (encode : T → JsonValue) (values : List T) :
    Members :=
  member name (omittedIf values.isEmpty (.array (values.map encode)))

/-- `DecodeJsonArray`: a null array is empty. -/
def decodeJsonArray {T : Type} (decode : JsonValue → Except Thrown T) :
    JsonValue → Except Thrown (List T)
  | .null => .ok []
  | json => requireArray json >>= List.mapM decode

/-- A field, which holds its default where the member is left out. -/
def readMember {T : Type} (name : String) (decode : JsonValue → Except Thrown T)
    (default : T) (members : Members) : Except Thrown T :=
  (·.getD default) <$> decodeMember members name decode

def readArray {T : Type} (name : String) (decode : JsonValue → Except Thrown T)
    (members : Members) : Except Thrown (List T) :=
  readMember name (decodeJsonArray decode) [] members

def clientHandleMember (clientHandle : UInt32) : Members :=
  member "ClientHandle" (omittedIf (clientHandle == 0) (.uint64 clientHandle.toUInt64))

def readClientHandle (members : Members) : Except Thrown UInt32 :=
  readMember "ClientHandle" (fun json => UInt32.ofNat <$> narrowUnsigned 32 json) 0 members

/-- `IsDefault(const DataValue&)`. -/
def dataValueIsDefault (value : DataValue) : Bool :=
  Binary.variantIsNull value.value && value.qualifier == 0 &&
    Binary.codeIsGood value.statusCode && value.sourceTimestamp.ticks == 0 &&
      value.serverTimestamp.ticks == 0

def noDataValue : DataValue where
  value := .null
  qualifier := 0
  sourceTimestamp := {}
  serverTimestamp := {}
  statusCode := .good

variable (texts : Texts)

/-- What an encoder writes; the ones here throw for no value that returns. -/
def written (json : Except Thrown JsonValue) : JsonValue := json.toOption.getD .null

def encodeItemJson (item : MonitoredItemNotification) : JsonValue :=
  .object (clientHandleMember item.clientHandle ++
    member "Value" (omittedIf (dataValueIsDefault item.value)
      (written (encodeDataValue texts item.value))))

def decodeItemJson (json : JsonValue) : Except Thrown MonitoredItemNotification := do
  let members ← requireObject json
  let clientHandle ← readClientHandle members
  let value ← readMember "Value" (decodeDataValue texts) noDataValue members
  return { clientHandle, value }

def encodeFieldListJson (list : EventFieldList) : JsonValue :=
  .object (clientHandleMember list.clientHandle ++
    arrayMember "EventFields" (fun field => written (encodeVariant texts field))
      list.eventFields)

def decodeFieldListJson (json : JsonValue) : Except Thrown EventFieldList := do
  let members ← requireObject json
  let clientHandle ← readClientHandle members
  let eventFields ← readArray "EventFields" (decodeVariant texts) members
  return { clientHandle, eventFields }

def encodeDataChangeJson (wire : WireDataChangeNotification) : JsonValue :=
  .object (arrayMember "MonitoredItems" (encodeItemJson texts) wire.monitoredItems)

def decodeDataChangeJson (json : JsonValue) :
    Except Thrown WireDataChangeNotification := do
  let members ← requireObject json
  let monitoredItems ← readArray "MonitoredItems" (decodeItemJson texts) members
  return { monitoredItems }

def encodeEventsJson (wire : WireEventNotificationList) : JsonValue :=
  .object (arrayMember "Events" (encodeFieldListJson texts) wire.events)

def decodeEventsJson (json : JsonValue) : Except Thrown WireEventNotificationList := do
  let members ← requireObject json
  let events ← readArray "Events" (decodeFieldListJson texts) members
  return { events }

def encodeStatusChangeJson (wire : WireStatusChangeNotification) : JsonValue :=
  .object (member "Status" (omittedIf (wire.status.fullCode == 0)
    (encodeStatus texts wire.status)))

def decodeStatusChangeJson (json : JsonValue) :
    Except Thrown WireStatusChangeNotification := do
  let members ← requireObject json
  let status ← readMember "Status" decodeStatus .good members
  return { status }

variable {texts}

theorem readMember_encoded {T : Type} {name : String} (encode : T → JsonValue)
    {decode : JsonValue → Except Thrown T} {omitted : Bool} {value default : T}
    {members : Members}
    (hmember : ifContains members name = omittedIf omitted (encode value))
    (h : decode (encode value) = .ok value) (hdefault : omitted → value = default) :
    readMember name decode default members = .ok value := by
  rw [readMember, decodeMember, hmember]
  cases omitted with
  | true =>
      rw [hdefault rfl]
      rfl
  | false =>
      change (·.getD default) <$> (some <$> decode (encode value)) = _
      rw [h]
      rfl

theorem ifContains_last {name : String} {value : Option JsonValue} :
    ifContains (member name value) name = value := by
  cases value with
  | none => rfl
  | some value => exact List.lookup_cons_self

theorem readArray_encoded {T : Type} {name : String} {encode : T → JsonValue}
    {decode : JsonValue → Except Thrown T} {values : List T} {members : Members}
    (hmember : ifContains members name =
      omittedIf values.isEmpty (.array (values.map encode)))
    (h : ∀ value ∈ values, decode (encode value) = .ok value) :
    readArray name decode members = .ok values :=
  readMember_encoded (fun values => .array (values.map encode)) hmember
    (show List.mapM decode _ = _ from mapM_encoded h) List.isEmpty_iff.mp

theorem readClientHandle_encoded {clientHandle : UInt32} {members : Members}
    (hmember : ifContains members "ClientHandle" =
      omittedIf (clientHandle == 0) (.uint64 clientHandle.toUInt64)) :
    readClientHandle members = .ok clientHandle := by
  refine readMember_encoded (fun handle => .uint64 handle.toUInt64) hmember ?_
    beq_iff_eq.mp
  have hread : narrowUnsigned 32 (.uint64 clientHandle.toUInt64) = .ok clientHandle.toNat :=
    if_neg (not_le.mpr clientHandle.toNat_lt)
  rw [hread]
  exact congrArg Except.ok (UInt32.ofNat_toNat)

theorem decodeItemJson_encoded {item : MonitoredItemNotification}
    (h : DataValueRoundTrips texts item.value)
    (hdefault : dataValueIsDefault item.value → item.value = noDataValue) :
    decodeItemJson texts (encodeItemJson texts item) = .ok item := by
  obtain ⟨json, hwritten, hread⟩ := h
  have hjson : written (encodeDataValue texts item.value) = json := by
    rw [hwritten]
    rfl
  have hhandle : ifContains (clientHandleMember item.clientHandle ++
      member "Value" (omittedIf (dataValueIsDefault item.value) json)) "ClientHandle" =
        omittedIf (item.clientHandle == 0) (.uint64 item.clientHandle.toUInt64) := by
    rw [clientHandleMember, ifContains_member rfl]
    cases dataValueIsDefault item.value <;> exact Option.or_none
  have hvalue : ifContains (clientHandleMember item.clientHandle ++
      member "Value" (omittedIf (dataValueIsDefault item.value) json)) "Value" =
        omittedIf (dataValueIsDefault item.value) json := by
    rw [clientHandleMember, ifContains_other (by decide), ifContains_last]
  rw [encodeItemJson, hjson, decodeItemJson]
  change (readClientHandle _ >>= fun clientHandle => _) = _
  rw [readClientHandle_encoded hhandle]
  change (readMember "Value" (decodeDataValue texts) noDataValue _ >>= fun value => _) = _
  rw [readMember_encoded (fun _ => json) hvalue hread hdefault]
  rfl

theorem decodeFieldListJson_encoded {list : EventFieldList}
    (h : ∀ field ∈ list.eventFields, RoundTrips texts field) :
    decodeFieldListJson texts (encodeFieldListJson texts list) = .ok list := by
  have hfields : ∀ field ∈ list.eventFields,
      decodeVariant texts (written (encodeVariant texts field)) = .ok field := by
    intro field hmem
    obtain ⟨json, hwritten, hread⟩ := h field hmem
    rw [hwritten]
    exact hread
  have hhandle : ∀ value, ifContains (clientHandleMember list.clientHandle ++
      member "EventFields" value) "ClientHandle" =
        omittedIf (list.clientHandle == 0) (.uint64 list.clientHandle.toUInt64) := by
    intro value
    rw [clientHandleMember, ifContains_member rfl]
    cases value <;> exact Option.or_none
  have harray : ∀ value, ifContains (clientHandleMember list.clientHandle ++
      member "EventFields" value) "EventFields" = value := by
    intro value
    rw [clientHandleMember, ifContains_other (by decide), ifContains_last]
  rw [encodeFieldListJson, decodeFieldListJson]
  change (readClientHandle _ >>= fun clientHandle => _) = _
  rw [arrayMember, readClientHandle_encoded (hhandle _)]
  change (readArray "EventFields" (decodeVariant texts) _ >>= fun eventFields => _) = _
  rw [readArray_encoded (harray _) hfields]
  rfl

theorem decodeDataChangeJson_encoded {wire : WireDataChangeNotification}
    (h : ∀ item ∈ wire.monitoredItems,
      decodeItemJson texts (encodeItemJson texts item) = .ok item) :
    decodeDataChangeJson texts (encodeDataChangeJson texts wire) = .ok wire := by
  change (readArray "MonitoredItems" (decodeItemJson texts)
    (arrayMember "MonitoredItems" (encodeItemJson texts) wire.monitoredItems) >>=
      fun monitoredItems => _) = _
  rw [arrayMember, readArray_encoded ifContains_last h]
  rfl

theorem decodeEventsJson_encoded {wire : WireEventNotificationList}
    (h : ∀ list ∈ wire.events,
      decodeFieldListJson texts (encodeFieldListJson texts list) = .ok list) :
    decodeEventsJson texts (encodeEventsJson texts wire) = .ok wire := by
  change (readArray "Events" (decodeFieldListJson texts)
    (arrayMember "Events" (encodeFieldListJson texts) wire.events) >>= fun events => _) = _
  rw [arrayMember, readArray_encoded ifContains_last h]
  rfl

theorem decodeStatusChangeJson_encoded (wire : WireStatusChangeNotification) :
    decodeStatusChangeJson (encodeStatusChangeJson texts wire) = .ok wire := by
  have hdefault : wire.status.fullCode == 0 → wire.status = .good := by
    intro hzero
    rw [Status.good, Status.ofCode, Status.mk.injEq]
    exact beq_iff_eq.mp hzero
  change (readMember "Status" decodeStatus .good
    (member "Status" (omittedIf (wire.status.fullCode == 0)
      (encodeStatus texts wire.status))) >>= fun status => _) = _
  rw [readMember_encoded (encodeStatus texts) ifContains_last
    (decodeStatus_encodeStatus texts wire.status) hdefault]
  rfl

end Json

/-! ## The codecs of the notifications -/

section Codecs

open Binary Binary.Bounded Json

/-- A body which is not consumed is refused, and what the JSON decoder throws is not kept
apart. -/
def generatedBody {T : Type} (encode : T → ByteString) (decode : Bounded.Decoder T)
    (encodeJson : T → JsonValue) (decodeJson : JsonValue → Except Thrown T) :
    NotificationBody T where
  encode := encode
  decode := WireType.decodeBody decode
  encodeJson := encodeJson
  decodeJson := fun body => (decodeJson body).toOption

theorem generatedBody_returns {T : Type} {encode : T → ByteString} {decode : Bounded.Decoder T}
    {encodeJson : T → JsonValue} {decodeJson : JsonValue → Except Thrown T} {value : T}
    (hfits : (encode value).length < 2 ^ 63) (hbinary : decode.Yields (encode value) value)
    (hjson : decodeJson (encodeJson value) = .ok value) :
    (generatedBody encode decode encodeJson decodeJson).Returns value :=
  ⟨WireType.decodeBody_of_yields hfits hbinary, congrArg Except.toOption hjson⟩

variable (forms : Representations) (texts : Texts)

def generatedCodec : NotificationCodec where
  dataChange := generatedBody (encodeDataChange forms) (decodeDataChange forms)
    (encodeDataChangeJson texts) (decodeDataChangeJson texts)
  events := generatedBody (encodeEvents forms) (decodeEvents forms)
    (encodeEventsJson texts) (decodeEventsJson texts)
  statusChange := generatedBody encodeStatusChange (decodeStatusChange forms)
    (encodeStatusChangeJson texts) decodeStatusChangeJson

end Codecs

end OpcuaStack
