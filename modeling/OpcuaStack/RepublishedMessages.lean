import OpcuaStack.NotificationConversion
import OpcuaStack.RetransmissionQueue

/-!
# Messages which are republished

A message is sent by a `PublishResponse` and again by a `RepublishResponse`.  The binary
codec converts both alike.  `transport/websocket/publish_message_codec.cpp` asks for JSON
bodies when it publishes, and leaves the default, binary bodies, when it republishes.
-/

namespace OpcuaStack

open Json

namespace NotificationCodec

/-! ## On the binary transport -/

/-- The generated binary encoding of a message. -/
def encodeMessage (wire : WireNotificationMessage) : Option ByteString :=
  joined (some (Binary.encodeUInt32 wire.sequenceNumber ++
      (Binary.encodeDateTime wire.publishTime ++
        Binary.encodeInt32 (.ofNat wire.notificationData.length))))
    (joinedMap Binary.encodeExtensionObject wire.notificationData)

variable (codec : NotificationCodec)

/-- The message in the body that `EncodeServiceResponse` writes. -/
def publishedBytes (response : PublishResponse) : Option ByteString :=
  encodeMessage (codec.publishToWire response false).notificationMessage

def republishedBytes (response : RepublishResponse) : Option ByteString :=
  encodeMessage (codec.republishToWire response false).notificationMessage

/-! ## On the WebSocket -/

variable (texts : Texts)

/-- The generated JSON encoding of a message. -/
def encodeMessageJson (wire : WireNotificationMessage) : JsonValue :=
  .object (member "SequenceNumber"
      (omittedIf (wire.sequenceNumber == 0) (.uint64 wire.sequenceNumber.toUInt64)) ++
    (member "PublishTime"
      (omittedIf (wire.publishTime.ticks == 0) (encodeDateTime texts wire.publishTime)) ++
    arrayMember "NotificationData" (encodeExtensionObject texts) wire.notificationData))

def encodeResponseHeader (serviceResult : Status) : JsonValue :=
  .object (member "ServiceResult"
    (omittedIf (serviceResult.fullCode == 0) (encodeStatus texts serviceResult)))

def encodePublishResponse (response : PublishResponse) : JsonValue :=
  let wire := codec.publishToWire response true
  .object (member "ResponseHeader" (some (encodeResponseHeader texts wire.serviceResult)) ++
    (member "SubscriptionId"
      (omittedIf (wire.subscriptionId == 0) (.uint64 wire.subscriptionId.toUInt64)) ++
    (arrayMember "AvailableSequenceNumbers" (fun number => .uint64 number.toUInt64)
      wire.availableSequenceNumbers ++
    (member "MoreNotifications"
      (omittedIf (!wire.moreNotifications) (.bool wire.moreNotifications)) ++
    (member "NotificationMessage"
      (some (encodeMessageJson texts wire.notificationMessage)) ++
    arrayMember "Results" (encodeStatus texts) wire.results)))))

/-- `ToWire` is left its default here. -/
def encodeRepublishResponse (response : RepublishResponse) : JsonValue :=
  let wire := codec.republishToWire response false
  .object (member "ResponseHeader" (some (encodeResponseHeader texts wire.serviceResult)) ++
    member "NotificationMessage" (some (encodeMessageJson texts wire.notificationMessage)))

/-- The message inside of a response. -/
def messageOf : JsonValue → Option JsonValue
  | .object members => ifContains members "NotificationMessage"
  | _ => none

/-! ## The messages compared -/

variable {codec texts}

theorem messageOf_publishResponse (response : PublishResponse) :
    messageOf (codec.encodePublishResponse texts response) =
      some (encodeMessageJson texts (codec.toUa response.notificationMessage true)) := by
  unfold encodePublishResponse messageOf arrayMember
  dsimp only
  rw [ifContains_other (by decide), ifContains_other (by decide),
    ifContains_other (by decide), ifContains_other (by decide), ifContains_member rfl]
  rfl

theorem messageOf_republishResponse (response : RepublishResponse) :
    messageOf (codec.encodeRepublishResponse texts response) =
      some (encodeMessageJson texts (codec.toUa response.notificationMessage false)) := by
  unfold encodeRepublishResponse messageOf
  dsimp only
  rw [ifContains_other (by decide), ifContains_last]
  rfl

theorem encodeExtensionObject_forms (notification : NotificationData) :
    encodeExtensionObject texts (codec.toExtensionObject notification false) ≠
      encodeExtensionObject texts (codec.toExtensionObject notification true) := by
  intro hsame
  cases notification <;>
    · injection hsame with hmembers
      exact absurd (congrArg List.length hmembers) (by
        simp [toExtensionObject, wrapNotification, WireType.toExtensionObject, member])

theorem encodeMessageJson_eq_iff (message : NotificationMessage) :
    encodeMessageJson texts (codec.toUa message false) =
        encodeMessageJson texts (codec.toUa message true) ↔
      message.notificationData = [] := by
  constructor
  · intro hsame
    injection hsame with hmembers
    have hdata := List.append_cancel_left (List.append_cancel_left hmembers)
    cases hnotifications : message.notificationData with
    | nil => rfl
    | cons notification rest =>
        simp only [toUa, hnotifications] at hdata
        injection hdata with hmember _
        injection hmember with _ hvalue
        injection hvalue with hvalues
        injection hvalues with hfirst _
        exact absurd hfirst (encodeExtensionObject_forms notification)
  · intro hnone
    rw [toUa, toUa, hnone]
    rfl

/-- On the binary transport a message is always repeated, and on the WebSocket only if
there is nothing in it. -/
theorem republished_repeats_iff {response : PublishResponse} {repeated : RepublishResponse}
    (h : repeated.notificationMessage = response.notificationMessage) :
    (codec.republishedBytes repeated = codec.publishedBytes response ∧
        messageOf (codec.encodeRepublishResponse texts repeated) =
          messageOf (codec.encodePublishResponse texts response)) ↔
      response.notificationMessage.notificationData = [] := by
  have hbytes : codec.republishedBytes repeated = codec.publishedBytes response := by
    rw [republishedBytes, publishedBytes, republishToWire, publishToWire, h]
  rw [messageOf_publishResponse, messageOf_republishResponse, h, Option.some.injEq,
    encodeMessageJson_eq_iff]
  exact and_iff_right hbytes

theorem keepAlive_repeated :
    sampleCodec.republishedBytes {} = sampleCodec.publishedBytes {} ∧
      messageOf (sampleCodec.encodeRepublishResponse sampleTexts {}) =
        messageOf (sampleCodec.encodePublishResponse sampleTexts {}) :=
  (republished_repeats_iff rfl).mpr rfl

/-- A message with a data change, an event and a status change. -/
theorem sampleMessage_not_repeated :
    messageOf (sampleCodec.encodeRepublishResponse sampleTexts
        { notificationMessage := sampleMessage }) ≠
      messageOf (sampleCodec.encodePublishResponse sampleTexts
        { notificationMessage := sampleMessage }) := by
  rw [messageOf_publishResponse, messageOf_republishResponse]
  intro hsame
  cases encodeMessageJson_eq_iff sampleMessage |>.mp (Option.some.inj hsame)

/-- Every message that a subscription retains is one which is not repeated. -/
theorem retained_not_repeated {s : ServerSubscription} {published : List NotificationMessage}
    {retired : List UInt32} (h : s.Retains published retired) :
    ∀ message ∈ s.retransmitQueue,
      encodeMessageJson texts (codec.toUa message false) ≠
        encodeMessageJson texts (codec.toUa message true) := by
  intro message hmem hsame
  have hpublished : message ∈ published := by
    rw [h.queue] at hmem
    exact (liveEntries_sublist _ _ _).mem hmem
  have hsize := (h.sizes message hpublished).1
  rw [(encodeMessageJson_eq_iff message).mp hsame] at hsize
  exact absurd hsize (by decide)

end NotificationCodec

end OpcuaStack
