import OpcuaStack.NotificationBodies

/-!
# Notifications on the wire

The notifications of `session/subscription_conversion.cpp`.  Each one is wrapped in an
extension object, with a binary body or with one in JSON, and is recognised on the way
back by decoding it as each type in turn.  A status code is sent as the high half of a
status.
-/

namespace OpcuaStack

/-! ## The generated messages -/

structure WireNotificationMessage where
  sequenceNumber : UInt32 := 0
  publishTime : DateTime := {}
  notificationData : List ExtensionObject := []

structure WirePublishResponse where
  serviceResult : Status := .good
  subscriptionId : SubscriptionId := 0
  availableSequenceNumbers : List UInt32 := []
  moreNotifications : Bool := false
  notificationMessage : WireNotificationMessage := {}
  results : List Status := []

structure WireRepublishResponse where
  serviceResult : Status := .good
  notificationMessage : WireNotificationMessage := {}

namespace NotificationCodec

def dataChangeJsonId : UInt32 := 15345

def eventListJsonId : UInt32 := 15347

def statusChangeJsonId : UInt32 := 15350

variable (codec : NotificationCodec)

def dataChangeNotification : WireType WireDataChangeNotification :=
  { codec.dataChange with binaryEncodingId := 811, jsonEncodingId := 15345 }

def eventNotificationList : WireType WireEventNotificationList :=
  { codec.events with binaryEncodingId := 916, jsonEncodingId := 15347 }

def statusChangeNotification : WireType WireStatusChangeNotification :=
  { codec.statusChange with binaryEncodingId := 820, jsonEncodingId := 15350 }

/-! ## To the wire -/

def wrapNotification {T : Type} (type : WireType T) (encodeJson : T → JsonValue) (wire : T)
    (jsonId : UInt32) (jsonBody : Bool) : ExtensionObject :=
  if jsonBody then { dataTypeId := encodingId jsonId, value := .json (encodeJson wire) }
  else type.toExtensionObject wire

def toExtensionObject (notification : NotificationData) (jsonBody : Bool) :
    ExtensionObject :=
  match notification with
  | .dataChange monitoredItems =>
      wrapNotification codec.dataChangeNotification codec.dataChange.encodeJson
        { monitoredItems } dataChangeJsonId jsonBody
  | .events events =>
      wrapNotification codec.eventNotificationList codec.events.encodeJson { events }
        eventListJsonId jsonBody
  | .statusChange status =>
      wrapNotification codec.statusChangeNotification codec.statusChange.encodeJson
        { status := .ofCode status } statusChangeJsonId jsonBody

def toUa (message : NotificationMessage) (jsonBody : Bool) : WireNotificationMessage where
  sequenceNumber := message.sequenceNumber
  publishTime := message.publishTime
  notificationData := message.notificationData.map fun notification =>
    codec.toExtensionObject notification jsonBody

/-- `ToWire` of a `PublishResponse`. -/
def publishToWire (managed : PublishResponse) (jsonBody : Bool) : WirePublishResponse where
  serviceResult := managed.status
  subscriptionId := managed.subscriptionId
  availableSequenceNumbers := managed.availableSequenceNumbers
  moreNotifications := managed.moreNotifications
  notificationMessage := codec.toUa managed.notificationMessage jsonBody
  results := managed.results.map Status.ofCode

/-- `ToWire` of a `RepublishResponse`. -/
def republishToWire (managed : RepublishResponse) (jsonBody : Bool) :
    WireRepublishResponse where
  serviceResult := managed.status
  notificationMessage := codec.toUa managed.notificationMessage jsonBody

/-! ## From the wire -/

/-- The binary trials in their order. -/
def fromBinary (extensionObject : ExtensionObject) : Option NotificationData :=
  ((codec.dataChangeNotification.fromExtensionObject extensionObject).map fun wire =>
    NotificationData.dataChange wire.monitoredItems).or
  (((codec.eventNotificationList.fromExtensionObject extensionObject).map fun wire =>
    NotificationData.events wire.events).or
  ((codec.statusChangeNotification.fromExtensionObject extensionObject).map fun wire =>
    NotificationData.statusChange wire.status.code))

/-- An inline JSON body, by the id in front of it; `none` where its decoder throws. -/
def fromJson (id : Option UInt32) (body : JsonValue) : Option (Option NotificationData) :=
  if id = some dataChangeJsonId then
    (codec.dataChange.decodeJson body).map fun wire => some (.dataChange wire.monitoredItems)
  else if id = some eventListJsonId then
    (codec.events.decodeJson body).map fun wire => some (.events wire.events)
  else if id = some statusChangeJsonId then
    (codec.statusChange.decodeJson body).map fun wire => some (.statusChange wire.status.code)
  else some none

/-- What is not recognised is `some none`, and its caller drops it. -/
def fromExtensionObject (extensionObject : ExtensionObject) :
    Option (Option NotificationData) :=
  match codec.fromBinary extensionObject with
  | some notification => some (some notification)
  | none =>
      match extensionObject.value with
      | .json body => codec.fromJson extensionObject.standardId? body
      | _ => some none

def fromUa (wire : WireNotificationMessage) : Option NotificationMessage := do
  let notifications ← wire.notificationData.mapM codec.fromExtensionObject
  return {
    sequenceNumber := wire.sequenceNumber
    publishTime := wire.publishTime
    notificationData := notifications.filterMap id }

/-- `ToManaged` of a `PublishResponse`. -/
def publishToManaged (wire : WirePublishResponse) : Option PublishResponse := do
  let notificationMessage ← codec.fromUa wire.notificationMessage
  return {
    status := wire.serviceResult
    subscriptionId := wire.subscriptionId
    results := wire.results.map Status.code
    moreNotifications := wire.moreNotifications
    notificationMessage
    availableSequenceNumbers := wire.availableSequenceNumbers }

/-- `ToManaged` of a `RepublishResponse`. -/
def republishToManaged (wire : WireRepublishResponse) : Option RepublishResponse := do
  let notificationMessage ← codec.fromUa wire.notificationMessage
  return { status := wire.serviceResult, notificationMessage }

end NotificationCodec

/-! ## Status codes -/

/-- A code as its status gives it back. -/
def StatusCode.onWire (code : StatusCode) : StatusCode := (Status.ofCode code).code

/-- The half of a status that a code has room in. -/
def StatusCode.Fits (code : StatusCode) : Prop := code.raw.toNat < 2 ^ 16

theorem StatusCode.onWire_eq_iff (code : StatusCode) : code.onWire = code ↔ code.Fits :=
  Binary.Bounded.code_ofCode_iff code

namespace NotificationData

def onWire : NotificationData → NotificationData
  | .statusChange status => .statusChange status.onWire
  | notification => notification

def Fits : NotificationData → Prop
  | .statusChange status => status.Fits
  | _ => True

theorem onWire_eq_iff (notification : NotificationData) :
    notification.onWire = notification ↔ notification.Fits := by
  cases notification with
  | statusChange status =>
      rw [onWire, NotificationData.statusChange.injEq, Fits, status.onWire_eq_iff]
  | _ => exact iff_of_true rfl trivial

end NotificationData

/-! ## There and back -/

namespace NotificationCodec

variable {codec : NotificationCodec}

/-- The codecs read back what they write of a notification. -/
def Returns (codec : NotificationCodec) : NotificationData → Prop
  | .dataChange monitoredItems => codec.dataChange.Returns { monitoredItems }
  | .events events => codec.events.Returns { events }
  | .statusChange status => codec.statusChange.Returns { status := .ofCode status }

theorem fromBinary_json {extensionObject : ExtensionObject} {body : JsonValue}
    (hbody : extensionObject.value = .json body) : codec.fromBinary extensionObject = none := by
  simp only [fromBinary, WireType.fromExtensionObject_json hbody, Option.map_none,
    Option.or_none]

theorem fromExtensionObject_jsonBody (id : UInt32) (body : JsonValue) :
    codec.fromExtensionObject { dataTypeId := encodingId id, value := .json body } =
      codec.fromJson (some id) body := by
  rw [fromExtensionObject, fromBinary_json rfl]
  rfl

theorem fromBinary_toExtensionObject {notification : NotificationData}
    (h : codec.Returns notification) :
    codec.fromBinary (codec.toExtensionObject notification false) =
      some notification.onWire := by
  cases notification with
  | dataChange monitoredItems =>
      have hfirst : codec.dataChangeNotification.fromExtensionObject
          (codec.dataChangeNotification.toExtensionObject { monitoredItems }) =
            some { monitoredItems } := WireType.RoundTrips.fromExtensionObject h.1
      change codec.fromBinary (codec.dataChangeNotification.toExtensionObject _) = _
      rw [fromBinary, hfirst]
      rfl
  | events events =>
      have hother : codec.dataChangeNotification.fromExtensionObject
          (codec.eventNotificationList.toExtensionObject { events }) = none :=
        WireType.fromExtensionObject_other (by decide : (916 : UInt32) ≠ 811) _
      have hsecond : codec.eventNotificationList.fromExtensionObject
          (codec.eventNotificationList.toExtensionObject { events }) = some { events } :=
        WireType.RoundTrips.fromExtensionObject h.1
      change codec.fromBinary (codec.eventNotificationList.toExtensionObject _) = _
      rw [fromBinary, hother, hsecond]
      rfl
  | statusChange status =>
      have hother : codec.dataChangeNotification.fromExtensionObject
          (codec.statusChangeNotification.toExtensionObject
            { status := .ofCode status }) = none :=
        WireType.fromExtensionObject_other (by decide : (820 : UInt32) ≠ 811) _
      have hother' : codec.eventNotificationList.fromExtensionObject
          (codec.statusChangeNotification.toExtensionObject
            { status := .ofCode status }) = none :=
        WireType.fromExtensionObject_other (by decide : (820 : UInt32) ≠ 916) _
      have hthird : codec.statusChangeNotification.fromExtensionObject
          (codec.statusChangeNotification.toExtensionObject { status := .ofCode status }) =
            some { status := .ofCode status } := WireType.RoundTrips.fromExtensionObject h.1
      change codec.fromBinary (codec.statusChangeNotification.toExtensionObject _) = _
      rw [fromBinary, hother, hother', hthird]
      rfl

theorem fromExtensionObject_toExtensionObject {notification : NotificationData}
    (h : codec.Returns notification) (jsonBody : Bool) :
    codec.fromExtensionObject (codec.toExtensionObject notification jsonBody) =
      some (some notification.onWire) := by
  cases jsonBody with
  | false => rw [fromExtensionObject, fromBinary_toExtensionObject h]
  | true =>
      cases notification with
      | dataChange monitoredItems =>
          change codec.fromExtensionObject
            { dataTypeId := encodingId dataChangeJsonId, value := .json _ } = _
          rw [fromExtensionObject_jsonBody, fromJson, if_pos rfl, h.2]
          rfl
      | events events =>
          change codec.fromExtensionObject
            { dataTypeId := encodingId eventListJsonId, value := .json _ } = _
          rw [fromExtensionObject_jsonBody, fromJson, if_neg (by decide), if_pos rfl, h.2]
          rfl
      | statusChange status =>
          change codec.fromExtensionObject
            { dataTypeId := encodingId statusChangeJsonId, value := .json _ } = _
          rw [fromExtensionObject_jsonBody, fromJson, if_neg (by decide), if_neg (by decide),
            if_pos rfl, h.2]
          rfl

theorem mapM_fromExtensionObject {notifications : List NotificationData}
    (h : ∀ notification ∈ notifications, codec.Returns notification) (jsonBody : Bool) :
    (notifications.map fun notification =>
        codec.toExtensionObject notification jsonBody).mapM codec.fromExtensionObject =
      some (notifications.map fun notification => some notification.onWire) :=
  Json.mapM_map_eq_pure fun notification hmem =>
    fromExtensionObject_toExtensionObject (h notification hmem) jsonBody

theorem fromUa_toUa {message : NotificationMessage}
    (h : ∀ notification ∈ message.notificationData, codec.Returns notification)
    (jsonBody : Bool) :
    codec.fromUa (codec.toUa message jsonBody) =
      some { message with
        notificationData := message.notificationData.map NotificationData.onWire } := by
  have hkept : (message.notificationData.map fun notification =>
      some notification.onWire).filterMap id =
        message.notificationData.map NotificationData.onWire := by
    rw [List.filterMap_map]
    exact congrFun List.filterMap_eq_map _
  have hall := mapM_fromExtensionObject h jsonBody
  change ((message.notificationData.map fun notification =>
    codec.toExtensionObject notification jsonBody).mapM codec.fromExtensionObject >>= _) = _
  rw [hall, Option.bind_eq_bind, Option.bind_some, hkept]
  rfl

theorem map_eq_self_iff {α : Type} {f : α → α} {fits : α → Prop}
    (h : ∀ value, f value = value ↔ fits value) (values : List α) :
    values.map f = values ↔ ∀ value ∈ values, fits value := by
  induction values with
  | nil => exact iff_of_true rfl (List.forall_mem_nil _)
  | cons value rest ih =>
      rw [List.map_cons, List.cons.injEq, h value, ih, List.forall_mem_cons]

theorem message_onWire_iff (message : NotificationMessage) :
    { message with
        notificationData := message.notificationData.map NotificationData.onWire } = message ↔
      ∀ notification ∈ message.notificationData, notification.Fits := by
  rw [← map_eq_self_iff NotificationData.onWire_eq_iff]
  obtain ⟨sequenceNumber, publishTime, notifications⟩ := message
  simp only [NotificationMessage.mk.injEq, true_and]

/-- In both forms of its body a response comes back whole, exactly if its status codes
have room in a status. -/
theorem notifications_return_iff {message : NotificationMessage}
    (h : ∀ notification ∈ message.notificationData, codec.Returns notification)
    (jsonBody : Bool) :
    (∀ response : PublishResponse, response.notificationMessage = message →
      (codec.publishToManaged (codec.publishToWire response jsonBody) = some response ↔
        (∀ notification ∈ message.notificationData, notification.Fits) ∧
          ∀ result ∈ response.results, result.Fits)) ∧
      ∀ response : RepublishResponse, response.notificationMessage = message →
        (codec.republishToManaged (codec.republishToWire response jsonBody) = some response ↔
          ∀ notification ∈ message.notificationData, notification.Fits) := by
  have hmessage := fromUa_toUa h jsonBody
  constructor
  · rintro response rfl
    have hresults : (response.results.map Status.ofCode).map Status.code =
        response.results.map StatusCode.onWire := List.map_map
    rw [← message_onWire_iff, ← map_eq_self_iff StatusCode.onWire_eq_iff, ← hresults]
    change (codec.fromUa (codec.toUa response.notificationMessage jsonBody) >>= _) = _ ↔ _
    rw [hmessage, Option.bind_eq_bind, Option.bind_some]
    obtain ⟨status, subscriptionId, results, more, message, available⟩ := response
    simp only [publishToWire, Option.pure_def, Option.some.injEq, PublishResponse.mk.injEq,
      true_and, and_comm]
  · rintro response rfl
    rw [← message_onWire_iff]
    change (codec.fromUa (codec.toUa response.notificationMessage jsonBody) >>= _) = _ ↔ _
    rw [hmessage, Option.bind_eq_bind, Option.bind_some]
    obtain ⟨status, message⟩ := response
    simp only [republishToWire, Option.pure_def, Option.some.injEq, RepublishResponse.mk.injEq,
      true_and]

/-! ## A message with each kind -/

open Binary Binary.Bounded Json

def sampleCodec : NotificationCodec := generatedCodec sampleForms sampleTexts

def sampleItem : MonitoredItemNotification where
  clientHandle := 5
  value := unstamped .null .bad

def sampleFields : EventFieldList where
  clientHandle := 7
  eventFields := [.scalar .bool true]

def sampleMessage : NotificationMessage where
  sequenceNumber := 9
  notificationData := [.dataChange [sampleItem], .events [sampleFields], .statusChange .bad]

theorem sampleCodec_returns_status (status : StatusCode) :
    sampleCodec.Returns (.statusChange status) :=
  generatedBody_returns ((length_encodeStatusChange _).trans_lt (by norm_num))
    (yields_statusChange _) (decodeStatusChangeJson_encoded _)

theorem sampleMessage_returns :
    ∀ notification ∈ sampleMessage.notificationData, sampleCodec.Returns notification := by
  have hvalue : (decodeDataValue sampleForms).Returns
      (encodeDataValue sampleForms sampleItem.value) sampleItem.value :=
    (returns_iff_onWire sampleForms (by decide) (by decide) null_returns
      (unstamped_fits 5 (by decide) (by norm_num))).mpr rfl
  have hfield : ∀ field ∈ sampleFields.eventFields,
      (encodeVariant sampleForms field).getD [] ≠ [] ∧
        (decodeVariant sampleForms).Returns (encodeVariant sampleForms field) field :=
    List.forall_mem_singleton.mpr ⟨by decide, returns_variant sampleForms (.scalar .bool true)
      fun _ => .of_yields ((yields_uInt8 1).bind_pure fun raw => decide (raw ≠ 0))⟩
  refine List.forall_mem_cons.mpr ⟨?_, List.forall_mem_cons.mpr ⟨?_,
    List.forall_mem_singleton.mpr (sampleCodec_returns_status _)⟩⟩
  · refine generatedBody_returns (by decide)
      (yields_dataChange (by decide) (List.forall_mem_singleton.mpr hvalue))
      (decodeDataChangeJson_encoded (List.forall_mem_singleton.mpr ?_))
    exact decodeItemJson_encoded ⟨_, rfl, rfl⟩ fun hdefault => absurd hdefault (by decide)
  · refine generatedBody_returns (by decide)
      (yields_events (by decide) (List.forall_mem_singleton.mpr
        (yields_fieldList (by decide) hfield)))
      (decodeEventsJson_encoded (List.forall_mem_singleton.mpr ?_))
    exact decodeFieldListJson_encoded (List.forall_mem_singleton.mpr ⟨_, rfl, rfl⟩)

def sampleResponse : PublishResponse where
  results := [.badSequenceNumberUnknown]
  notificationMessage := sampleMessage

theorem sampleMessage_comes_back :
    sampleCodec.publishToManaged (sampleCodec.publishToWire sampleResponse false) =
        some sampleResponse ∧
      sampleCodec.publishToManaged (sampleCodec.publishToWire sampleResponse true) =
        some sampleResponse := by
  have hfits : (∀ notification ∈ sampleMessage.notificationData, notification.Fits) ∧
      ∀ result ∈ sampleResponse.results, result.Fits := by
    refine ⟨?_, List.forall_mem_singleton.mpr (by unfold StatusCode.Fits; decide)⟩
    exact List.forall_mem_cons.mpr ⟨trivial, List.forall_mem_cons.mpr ⟨trivial,
      List.forall_mem_singleton.mpr (by unfold NotificationData.Fits StatusCode.Fits; decide)⟩⟩
  exact ⟨((notifications_return_iff sampleMessage_returns false).1 _ rfl).mpr hfits,
    ((notifications_return_iff sampleMessage_returns true).1 _ rfl).mpr hfits⟩

/-- A status of more than 16 bits, which comes back as `Good`. -/
def wideStatus : StatusCode := ⟨0x10000⟩

def wideResponse : PublishResponse where
  notificationMessage := { notificationData := [.statusChange wideStatus] }

theorem wideStatus_not_returned :
    (∀ notification ∈ wideResponse.notificationMessage.notificationData,
        sampleCodec.Returns notification) ∧
      ∃ response, sampleCodec.publishToManaged (sampleCodec.publishToWire wideResponse false) =
          some response ∧
        response.notificationMessage.notificationData = [.statusChange .good] ∧
        response.notificationMessage.notificationData ≠
          wideResponse.notificationMessage.notificationData := by
  have hreturns : ∀ notification ∈ wideResponse.notificationMessage.notificationData,
      sampleCodec.Returns notification :=
    List.forall_mem_singleton.mpr (sampleCodec_returns_status wideStatus)
  have hmessage := fromUa_toUa hreturns false
  refine ⟨hreturns,
    { wideResponse with notificationMessage := { notificationData := [.statusChange .good] } },
    ?_, rfl, ?_⟩
  · change (sampleCodec.fromUa (sampleCodec.toUa _ false) >>= _) = _
    rw [hmessage]
    rfl
  · intro hsame
    injection hsame with hsame
    injection hsame with hsame
    exact absurd hsame (by decide)

end NotificationCodec

end OpcuaStack
