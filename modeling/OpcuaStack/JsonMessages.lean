import OpcuaStack.ExpandedNodeIdText
import OpcuaStack.JsonTranscoding
import OpcuaStack.ServiceMessages
import OpcuaStack.WebSocketServer

/-!
# The same messages as JSON

The envelopes `{requestHandle, service, body}` of `transport/websocket/message_codec.cpp`
and the bodies of `json_codec.cpp` and `subscription_message_codec.cpp`, for the services
whose messages are their own wire types.
-/

namespace OpcuaStack

open Json StandardTypes

/-! ## Names -/

namespace GeneratedService

/-- `kServiceName`. -/
def name : GeneratedService → String
  | read => "Read"
  | write => "Write"
  | browse => "Browse"
  | browseNext => "BrowseNext"
  | translateBrowsePathsToNodeIds => "TranslateBrowsePathsToNodeIds"
  | call => "Call"
  | historyRead => "HistoryRead"
  | historyUpdate => "HistoryUpdate"
  | addNodes => "AddNodes"
  | deleteNodes => "DeleteNodes"
  | addReferences => "AddReferences"
  | deleteReferences => "DeleteReferences"
  | registerNodes => "RegisterNodes"
  | unregisterNodes => "UnregisterNodes"
  | setPublishingMode => "SetPublishingMode"
  | deleteSubscriptions => "DeleteSubscriptions"
  | deleteMonitoredItems => "DeleteMonitoredItems"
  | setMonitoringMode => "SetMonitoringMode"
  | transferSubscriptions => "TransferSubscriptions"

/-- "RegisterNodes / UnregisterNodes are exposed only over UA-TCP binary". -/
def exposed : GeneratedService → Bool
  | registerNodes | unregisterNodes => false
  | _ => true

def exposedServices : List GeneratedService := all.filter exposed

def ofName (text : ByteText) : Option GeneratedService :=
  exposedServices.find? fun service => asciiText service.name == text

@[simp] theorem ofName_name {service : GeneratedService} (h : service.exposed) :
    ofName (asciiText service.name) = some service := by
  apply find?_of_nodup
  · decide
  · simp [exposedServices, h]

theorem request_distinct (service : GeneratedService) : service.request.distinct := by
  cases service <;> decide

theorem response_distinct (service : GeneratedService) : service.response.distinct := by
  cases service <;> decide

end GeneratedService

namespace JsonMessages

variable (forms : Binary.Representations) (texts : Texts)

/-! ## Envelopes -/

def encodeEnvelope (requestHandle : UInt32) (service : GeneratedService)
    (body : Except Thrown JsonValue) : Except Thrown JsonValue :=
  let handle := member "requestHandle" (some (.uint64 requestHandle.toUInt64))
  if service.exposed then
    (fun body => .object (handle ++
      (member "service" (some (.string (asciiText service.name))) ++
        member "body" (some body)))) <$> body
  else
    .ok (.object (handle ++ member "service" (some (.string (asciiText "Unsupported")))))

structure Envelope where
  requestHandle : UInt32
  service : GeneratedService
  body : JsonValue

/-- The fields that both decoders require, and the arms of the services which are here. -/
def decodeEnvelope (json : JsonValue) : Option Envelope := do
  let members ← json.requireObject
  let body ← ifContains members "body"
  let service ← (← ifContains members "service").requireString
  let requestHandle ← (← ifContains members "requestHandle").requireUInt64
  let service ← GeneratedService.ofName service
  return { requestHandle := requestHandle.toUInt32, service, body }

/-! ## Requests -/

/-- `WithJsonBodies` of a HistoryRead or HistoryUpdate request. -/
def requestWithJsonBodies : (service : GeneratedService) → service.requestFields.Carrier →
    Except Thrown service.requestFields.Carrier
  | .historyRead, fields =>
      (fun details => (details, fields.2)) <$> historyReadDetailsWithJsonBody forms texts fields.1
  | .historyUpdate, fields =>
      (fun details => (details, fields.2)) <$>
        historyUpdateDetailsWithJsonBodies forms texts fields.1
  | _, fields => .ok fields

/-- `EncodeJson` of a RequestMessage. -/
def encodeRequestMessage (requestHandle : UInt32) (service : GeneratedService)
    (header : RequestHeader) (fields : service.requestFields.Carrier) :
    Except Thrown JsonValue :=
  encodeEnvelope requestHandle service do
    let fields ← requestWithJsonBodies forms texts service fields
    service.request.encodeJson texts (header.toUa, fields)

structure DecodedRequestMessage where
  requestHandle : UInt32
  service : GeneratedService
  requestHeader : RequestHeader
  fields : service.requestFields.Carrier
  traceParent : ByteText

/-- `ReadTraceParent`: "a request must never fail over an optional header". -/
def readTraceParent : JsonValue → ByteText
  | .object members =>
      ((ifContains members "RequestHeader").bind fun header =>
        (requestHeader.decodeJson texts header).toOption).elim [] fun header =>
          (generatedHeaderCodec forms texts).getTraceParent (.fromUa header)
  | _ => []

/-- `DecodeRequestMessage`; every failure is `Bad_TypeMismatch`. -/
def decodeRequestMessage (json : JsonValue) : Option DecodedRequestMessage :=
  (decodeEnvelope json).bind fun envelope =>
    (envelope.service.request.decodeJson texts envelope.body).toOption.map fun wire =>
      { requestHandle := envelope.requestHandle
        service := envelope.service
        requestHeader := .fromUa wire.1
        fields := wire.2
        traceParent := readTraceParent forms texts envelope.body }

/-! ## Responses -/

/-- `WithJsonBodies` of a Read or HistoryRead response. -/
def responseWithJsonBodies : (service : GeneratedService) → service.responseFields.Carrier →
    Except Thrown service.responseFields.Carrier
  | .read, fields =>
      (fun results => (results, fields.2)) <$> readResultsWithJsonBodies forms texts fields.1
  | .historyRead, fields => do
      let data ← historyDataWithJsonBodies forms texts (fields.1.map fun result => result.2.2.1)
      return (List.zipWith (fun result data => (result.1, result.2.1, data, result.2.2.2))
        fields.1 data, fields.2)
  | _, fields => .ok fields

/-- `EncodeJson` of a ResponseMessage; the response has its own header. -/
def encodeResponseMessage (requestHandle : UInt32) (service : GeneratedService)
    (header : responseHeader.Carrier) (fields : service.responseFields.Carrier) :
    Except Thrown JsonValue :=
  encodeEnvelope requestHandle service do
    let fields ← responseWithJsonBodies forms texts service fields
    service.response.encodeJson texts (header, fields)

structure DecodedResponseMessage where
  requestHandle : UInt32
  service : GeneratedService
  responseHeader : responseHeader.Carrier
  fields : service.responseFields.Carrier

/-- `DecodeResponseMessage`. -/
def decodeResponseMessage (json : JsonValue) : Option DecodedResponseMessage :=
  (decodeEnvelope json).bind fun envelope =>
    (envelope.service.response.decodeJson texts envelope.body).toOption.map fun wire =>
      { requestHandle := envelope.requestHandle
        service := envelope.service
        responseHeader := wire.1
        fields := wire.2 }

/-! ## Envelopes are read back -/

section Envelopes

variable {requestHandle : UInt32} {service : GeneratedService}

theorem ifContains_own (name : String) (value : JsonValue) :
    ifContains (member name (some value)) name = some value := by
  simpa using @ifContains_member name name (some value) [] rfl

/-- What is behind an envelope arrives, unless its service is not exposed. -/
theorem exists_envelope (body : JsonValue) :
    ∃ json, encodeEnvelope requestHandle service (.ok body) = .ok json ∧
      decodeEnvelope json =
        if service.exposed then some { requestHandle, service, body } else none := by
  by_cases hexposed : service.exposed
  · refine ⟨_, if_pos hexposed, ?_⟩
    have hservice : asciiText "service" ≠ asciiText "requestHandle" := by decide
    have hbody : asciiText "body" ≠ asciiText "requestHandle" := by decide
    have hother : asciiText "body" ≠ asciiText "service" := by decide
    simp [decodeEnvelope, JsonValue.requireObject, JsonValue.requireString,
      JsonValue.requireUInt64, ifContains_member, ifContains_own, ifContains_other hservice,
      ifContains_other hbody, ifContains_other hother, hexposed]
  · -- there is no body to be read
    refine ⟨_, if_neg hexposed, ?_⟩
    rw [if_neg hexposed]
    simp only [decodeEnvelope, JsonValue.requireObject]
    rfl

end Envelopes

/-! ## Bodies behind a header -/

section Bodies

variable {forms texts}

theorem exists_messageJson (name : String) {header fields : FieldLayouts}
    (hdistinct : (TypeLayout.structure (.single name (.structure header) fields)).distinct)
    {sent : header.Carrier} {value : fields.Carrier}
    (hheader : header.JsonFits texts sent) (hfits : fields.JsonFits texts value) :
    ∃ json members,
      (TypeLayout.structure (.single name (.structure header) fields)).encodeJson texts
          (sent, value) = .ok (.object members) ∧
        ifContains members name = some json ∧
        (TypeLayout.structure header).decodeJson texts json = .ok (header.asJson sent) ∧
        (TypeLayout.structure (.single name (.structure header) fields)).decodeJson texts
          (.object members) = .ok (header.asJson sent, fields.asJson value) := by
  obtain ⟨hnames, hfields⟩ := distinct_structure hdistinct
  obtain ⟨hheaderDistinct, -⟩ := (Bool.and_eq_true _ _).mp hfields
  obtain ⟨whole, hwhole, hread⟩ :=
    TypeLayout.json_returns _ hdistinct (sent, value) ⟨fun _ => hheader, hfits⟩
  obtain ⟨json, hjson, hheaderRead⟩ :=
    TypeLayout.json_returns _ hheaderDistinct sent hheader
  obtain ⟨hnew, hnames⟩ := List.nodup_cons.mp hnames
  obtain ⟨others, hothers, -⟩ :=
    fields.json_returns hnames ((Bool.and_eq_true _ _).mp hfields).2 value hfits
  have hmembers : (TypeLayout.structure (.single name (.structure header) fields)).encodeJson
      texts (sent, value) = .ok (.object (member name (some json) ++ others)) := by
    change JsonValue.object <$> (do
      let first ← encodeJsonMember name false
        ((TypeLayout.structure header).encodeJson texts sent)
      let others ← fields.encodeJson texts value
      return first ++ others) = _
    rw [encodeJsonMember_ok fun _ => hjson, hothers]
    rfl
  obtain rfl := Except.ok.inj (hwhole.symm.trans hmembers)
  refine ⟨json, _, hmembers, ?_, hheaderRead, hread⟩
  rw [ifContains_member rfl, Option.some_or]

theorem fromAnyExtensionObject_asJson {T : Type} (wire : WireType T)
    (object : ExtensionObject) :
    wire.fromAnyExtensionObject
        (if isDefaultElement .extensionObject object then {} else object) =
      wire.fromAnyExtensionObject object := by
  split
  next hdefault =>
    have hempty : object.value = .empty := by
      cases hvalue : object.value with
      | empty => rfl
      | _ => simp [isDefaultElement, hvalue] at hdefault
    rw [WireType.fromAnyExtensionObject_empty hempty,
      WireType.fromAnyExtensionObject_empty (by rfl)]
  next => rfl

theorem getTraceParent_asJson (header : RequestHeader) :
    (generatedHeaderCodec forms texts).getTraceParent
        (.fromUa (requestHeader.asJson header.toUa)) =
      (generatedHeaderCodec forms texts).getTraceParent header := by
  have hobject : (RequestHeader.fromUa (requestHeader.asJson header.toUa)).additionalHeader =
      if isDefaultElement .extensionObject header.additionalHeader then {}
      else header.additionalHeader := rfl
  have hsame : (generatedHeaderCodec forms texts).getAdditionalParameters
      (.fromUa (requestHeader.asJson header.toUa)) =
        (generatedHeaderCodec forms texts).getAdditionalParameters header := by
    rw [HeaderCodec.getAdditionalParameters, HeaderCodec.getAdditionalParameters, hobject,
      fromAnyExtensionObject_asJson]
  simp only [HeaderCodec.getTraceParent, hsame]

end Bodies

/-! ## Details of a history request -/

/-- The objects which `WithJsonBodies` looks at. -/
def historyDetails : (service : GeneratedService) → service.requestFields.Carrier →
    List ExtensionObject
  | .historyRead, fields => [fields.1]
  | .historyUpdate, fields => fields.1
  | _, _ => []

def withHistoryDetails : (service : GeneratedService) → service.requestFields.Carrier →
    List ExtensionObject → service.requestFields.Carrier
  | .historyRead, fields, details => (details.headD {}, fields.2)
  | .historyUpdate, fields, details => (details, fields.2)
  | _, fields, _ => fields

def knownDetails : GeneratedService → List GeneratedType
  | .historyRead => historyReadDetails
  | .historyUpdate => historyUpdateDetails
  | _ => []

section Details

variable {forms texts} {service : GeneratedService}
  {fields sent : service.requestFields.Carrier}

/-- Only the details are others, and each known type reads from them what it would have
read from those of the request. -/
structure DetailsTranscoded (forms : Binary.Representations) (texts : Texts)
    (fields sent : service.requestFields.Carrier) : Prop where
  kept : sent = withHistoryDetails service fields (historyDetails service sent)
  details : List.Forall₂ (Transcoded forms texts (knownDetails service))
    (historyDetails service fields) (historyDetails service sent)

theorem requestWithJsonBodies_transcoded
    (hreturn : ∀ object ∈ historyDetails service fields,
      BodiesReturn forms texts (knownDetails service) object)
    (h : requestWithJsonBodies forms texts service fields = .ok sent) :
    DetailsTranscoded forms texts fields sent := by
  cases service with
  | historyRead =>
      change (fun details => (details, fields.2)) <$>
        withJsonBody forms texts historyReadDetails fields.1 = .ok sent at h
      cases hdetails : withJsonBody forms texts historyReadDetails fields.1 with
      | error thrown =>
          rw [hdetails] at h
          cases h
      | ok details =>
          rw [hdetails] at h
          obtain rfl := Except.ok.inj h
          exact ⟨rfl, .cons (transcoded_withJsonBody transcodable_historyReadDetails
            (hreturn _ List.mem_cons_self) hdetails) .nil⟩
  | historyUpdate =>
      change (fun details => (details, fields.2)) <$>
        List.mapM (withJsonBody forms texts historyUpdateDetails) fields.1 = .ok sent at h
      cases hdetails : List.mapM (withJsonBody forms texts historyUpdateDetails) fields.1 with
      | error thrown =>
          rw [hdetails] at h
          cases h
      | ok details =>
          rw [hdetails] at h
          obtain rfl := Except.ok.inj h
          exact ⟨rfl, (transcoded_all transcodable_historyUpdateDetails hreturn hdetails).1⟩
  | _ =>
      obtain rfl := Except.ok.inj h
      exact ⟨rfl, .nil⟩

end Details

/-! ## Results of a HistoryRead -/

section Results

variable {forms texts} {fields sent : GeneratedService.historyRead.responseFields.Carrier}

theorem forall₂_zipWith {α β γ : Type} {related : α → β → Prop} {kept : α → γ → Prop}
    {join : α → β → γ} (hjoin : ∀ value part, related value part → kept value (join value part))
    {values : List α} {parts : List β} (h : List.Forall₂ related values parts) :
    List.Forall₂ kept values (List.zipWith join values parts) := by
  induction h with
  | nil => exact .nil
  | cons hfirst _ ih => exact .cons (hjoin _ _ hfirst) ih

/-- Only the data of the results are others, and each known type reads from them what it
would have read from those of the response. -/
theorem historyResults_transcoded
    (hreturn : ∀ result ∈ fields.1, BodiesReturn forms texts historyResults result.2.2.1)
    (h : responseWithJsonBodies forms texts .historyRead fields = .ok sent) :
    sent.2 = fields.2 ∧ List.Forall₂ (fun result other =>
      other = (result.1, result.2.1, other.2.2.1, result.2.2.2) ∧
        Transcoded forms texts historyResults result.2.2.1 other.2.2.1) fields.1 sent.1 := by
  change (do
    let data ← historyDataWithJsonBodies forms texts
      (fields.1.map fun result => result.2.2.1)
    return (List.zipWith (fun result data => (result.1, result.2.1, data, result.2.2.2))
      fields.1 data, fields.2)) = Except.ok sent at h
  cases hdata : historyDataWithJsonBodies forms texts
    (fields.1.map fun result => result.2.2.1) with
  | error thrown =>
      rw [hdata] at h
      cases h
  | ok data =>
      rw [hdata] at h
      obtain rfl := Except.ok.inj h
      have hobjects : ∀ object ∈ fields.1.map fun result => result.2.2.1,
          BodiesReturn forms texts historyResults object := by
        intro object hmem
        obtain ⟨result, hresult, rfl⟩ := List.mem_map.mp hmem
        exact hreturn result hresult
      have htranscoded := List.forall₂_map_left_iff.mp (historyData_transcoded hobjects hdata)
      exact ⟨rfl, forall₂_zipWith (fun _ _ hpart => ⟨rfl, hpart⟩) htranscoded⟩

/-- A peer reads from a result what its server put there. -/
def SameHistory (forms : Binary.Representations) (texts : Texts)
    (result received : historyReadResult.Carrier) : Prop :=
  received.1 = result.1 ∧ received.2.1 = result.2.1 ∧
    ∀ type ∈ historyResults,
      (type.wire forms texts).fromAnyExtensionObject received.2.2.1 =
        (type.wire forms texts).fromAnyExtensionObject result.2.2.1

theorem status_asJson (status : Status) :
    (if isDefaultElement .statusCode status then Status.good else status) = status := by
  split
  next hgood =>
    obtain ⟨fullCode⟩ := status
    obtain rfl : fullCode = 0 := eq_of_beq hgood
    rfl
  next => rfl

theorem byteString_asJson (bytes : ByteString) :
    (if isDefaultElement .byteString bytes then [] else bytes) = bytes := by
  split
  next hempty => exact (List.isEmpty_iff.mp hempty).symm
  next => rfl

theorem sameHistory_asJson (result : historyReadResult.Carrier) :
    SameHistory forms texts result (historyReadResult.asJson result) :=
  ⟨status_asJson _, byteString_asJson _, fun _ _ => fromAnyExtensionObject_asJson _ _⟩

end Results

/-! ## Messages are read back -/

section Messages

variable {forms texts} {service : GeneratedService} {requestHandle : UInt32}

/-- A request reaches its service with the handle of its envelope and the trace context of
its header, and in its details each known type reads what the request held.  A service
which is not exposed is refused. -/
theorem jsonRequest_arrives {header : RequestHeader}
    {fields sent : service.requestFields.Carrier}
    (hsent : requestWithJsonBodies forms texts service fields = .ok sent)
    (hheader : requestHeader.JsonFits texts header.toUa)
    (hfits : service.requestFields.JsonFits texts sent) :
    ∃ json, encodeRequestMessage forms texts requestHandle service header fields = .ok json ∧
      decodeRequestMessage forms texts json =
        (if service.exposed then
          some
            { requestHandle, service
              requestHeader := .fromUa (requestHeader.asJson header.toUa)
              fields := service.requestFields.asJson sent
              traceParent := (generatedHeaderCodec forms texts).getTraceParent header }
        else none) ∧
      ((∀ object ∈ historyDetails service fields,
          BodiesReturn forms texts (knownDetails service) object) →
        DetailsTranscoded forms texts fields sent) := by
  obtain ⟨json, members, hbody, hmember, hread, hwhole⟩ :=
    exists_messageJson "RequestHeader" service.request_distinct hheader hfits
  have hencoded : encodeRequestMessage forms texts requestHandle service header fields =
      encodeEnvelope requestHandle service (.ok (.object members)) := by
    change encodeEnvelope requestHandle service (do
      let sent ← requestWithJsonBodies forms texts service fields
      service.request.encodeJson texts (header.toUa, sent)) = _
    rw [hsent]
    exact congrArg (encodeEnvelope requestHandle service) hbody
  have htrace : readTraceParent forms texts (.object members) =
      (generatedHeaderCodec forms texts).getTraceParent header := by
    rw [← getTraceParent_asJson, readTraceParent, hmember]
    change ((requestHeader.decodeJson texts json).toOption).elim [] _ = _
    have hheaderRead : requestHeader.decodeJson texts json =
        .ok (requestHeader.asJson header.toUa) := hread
    rw [hheaderRead]
    rfl
  obtain ⟨written, hwritten, harrived⟩ :=
    @exists_envelope requestHandle service (.object members)
  refine ⟨written, hencoded.trans hwritten, ?_,
    fun hreturn => requestWithJsonBodies_transcoded hreturn hsent⟩
  rw [decodeRequestMessage, harrived]
  by_cases hexposed : service.exposed
  · have hrequest : service.request.decodeJson texts (.object members) =
        .ok (requestHeader.asJson header.toUa, service.requestFields.asJson sent) := hwhole
    rw [if_pos hexposed, if_pos hexposed, Option.bind_some]
    simp only [hrequest, htrace]
    rfl
  · rw [if_neg hexposed, if_neg hexposed, Option.bind_none]

open Binary.Bounded (sampleForms)
open ServiceMessages (sampleFields sampleResults)

def sampleHeader : RequestHeader where
  authenticationToken := { identifier := .numeric 1, namespaceIndex := 3 }
  requestHandle := 7

/-- The start of the year 2024. -/
def historyStart : DateTime where
  ticks := 133485408000000000

def datedTexts : Texts :=
  { standardTexts with
    dateTime := fun _ => asciiText "2024-01-01T00:00:00Z"
    ofDateTime := fun _ => some historyStart }

/-- Ten values from the start of the year on. -/
def rawDetails : readRawModifiedDetails.layout.Carrier :=
  (false, historyStart, ({} : DateTime), (10 : UInt32), true, ())

def rawFields : GeneratedService.historyRead.requestFields.Carrier :=
  ((readRawModifiedDetails.wire sampleForms datedTexts).toExtensionObject rawDetails,
    (0 : Int32), false,
    [(({ identifier := .numeric 42, namespaceIndex := 2 } : NodeId), ([] : ByteText),
      ({} : QualifiedName), ([] : ByteString), ())], ())

def rawSent : GeneratedService.historyRead.requestFields.Carrier :=
  (({ dataTypeId := encodingId 15263
      value := .json (.object
        [(asciiText "StartTime", .string (asciiText "2024-01-01T00:00:00Z")),
          (asciiText "NumValuesPerNode", .uint64 10),
          (asciiText "ReturnBounds", .bool true)]) } : ExtensionObject), rawFields.2)

/-- The details of a HistoryRead arrive as JSON, and are read as they were given. -/
theorem sampleJsonRequest_arrives :
    ∃ json, encodeRequestMessage sampleForms datedTexts 7 .historyRead sampleHeader rawFields =
        .ok json ∧
      decodeRequestMessage sampleForms datedTexts json =
        some
          { requestHandle := 7
            service := .historyRead
            requestHeader := sampleHeader
            fields := rawSent
            traceParent := [] } ∧
      (readRawModifiedDetails.wire sampleForms datedTexts).fromAnyExtensionObject rawSent.1 =
        some rawDetails := by
  have hheader : requestHeader.JsonFits datedTexts sampleHeader.toUa := by
    refine ⟨fun _ => rfl, fun h => ?_, fun _ => rfl, fun h => ?_, fun h => ?_, fun h => ?_,
      fun h => ?_, trivial⟩
    all_goals cases h
  have hnode : historyReadValueId.JsonFits datedTexts
      (({ identifier := .numeric 42, namespaceIndex := 2 } : NodeId), ([] : ByteText),
        ({} : QualifiedName), ([] : ByteString), ()) := by
    refine ⟨fun _ => rfl, fun h => ?_, fun h => ?_, fun h => ?_, trivial⟩
    all_goals cases h
  have hfits : GeneratedService.historyRead.requestFields.JsonFits datedTexts rawSent := by
    refine ⟨fun _ => rfl, fun _ => trivial, fun h => ?_,
      List.forall_mem_cons.mpr ⟨hnode, fun _ h => absurd h List.not_mem_nil⟩, trivial⟩
    cases h
  have hother : ∀ type : GeneratedType, type.binaryEncodingId ≠ 649 →
      (type.wire sampleForms datedTexts).fromExtensionObject rawFields.1 = none :=
    fun type hid => if_neg fun hsame => hid (Option.some.inj hsame).symm
  have hread : (readRawModifiedDetails.wire sampleForms datedTexts).fromExtensionObject
      rawFields.1 = some rawDetails := by rfl
  have hreturn : ∀ object ∈ historyDetails .historyRead rawFields,
      BodiesReturn sampleForms datedTexts (knownDetails .historyRead) object := by
    intro object hobject type htype value hvalue
    obtain rfl := List.mem_singleton.mp hobject
    simp only [knownDetails, historyReadDetails, List.mem_cons, List.not_mem_nil,
      or_false] at htype
    rcases htype with rfl | rfl | rfl
    · obtain rfl := Option.some.inj (hread.symm.trans hvalue)
      refine ⟨fun h => ?_, fun _ => rfl, fun h => ?_, fun _ => rfl, fun _ => rfl, trivial⟩
      all_goals cases h
    all_goals
      rw [hother _ (by decide)] at hvalue
      cases hvalue
  obtain ⟨json, hjson, harrived, htranscoded⟩ :=
    @jsonRequest_arrives sampleForms datedTexts .historyRead 7 sampleHeader rawFields rawSent
      rfl hheader hfits
  refine ⟨json, hjson, harrived, ?_⟩
  have hdetails := (List.forall₂_cons.mp (htranscoded hreturn).details).1.reads
    readRawModifiedDetails List.mem_cons_self
  have hgiven : (readRawModifiedDetails.wire sampleForms datedTexts).fromAnyExtensionObject
      rawFields.1 = some rawDetails := by rfl
  exact hdetails.trans hgiven

theorem exists_responseBody {header : responseHeader.Carrier}
    {fields sent : service.responseFields.Carrier}
    (hsent : responseWithJsonBodies forms texts service fields = .ok sent)
    (hheader : responseHeader.JsonFits texts header)
    (hfits : service.responseFields.JsonFits texts sent) :
    ∃ body, encodeResponseMessage forms texts requestHandle service header fields =
        encodeEnvelope requestHandle service (.ok body) ∧
      service.response.decodeJson texts body =
        .ok (responseHeader.asJson header, service.responseFields.asJson sent) := by
  obtain ⟨json, members, hbody, -, -, hwhole⟩ :=
    exists_messageJson "ResponseHeader" service.response_distinct hheader hfits
  refine ⟨.object members, ?_, hwhole⟩
  change encodeEnvelope requestHandle service (do
    let sent ← responseWithJsonBodies forms texts service fields
    service.response.encodeJson texts (header, sent)) = _
  rw [hsent]
  exact congrArg (encodeEnvelope requestHandle service) hbody

/-- A response reaches its peer as that of its service. -/
theorem jsonResponse_arrives {header : responseHeader.Carrier}
    {fields sent : service.responseFields.Carrier}
    (hsent : responseWithJsonBodies forms texts service fields = .ok sent)
    (hheader : responseHeader.JsonFits texts header)
    (hfits : service.responseFields.JsonFits texts sent) :
    ∃ json, encodeResponseMessage forms texts requestHandle service header fields = .ok json ∧
      decodeResponseMessage texts json =
        if service.exposed then
          some
            { requestHandle, service
              responseHeader := responseHeader.asJson header
              fields := service.responseFields.asJson sent }
        else none := by
  obtain ⟨body, hencoded, hread⟩ :=
    @exists_responseBody forms texts service requestHandle _ _ _ hsent hheader hfits
  obtain ⟨written, hwritten, harrived⟩ := @exists_envelope requestHandle service body
  refine ⟨written, hencoded.trans hwritten, ?_⟩
  rw [decodeResponseMessage, harrived]
  by_cases hexposed : service.exposed
  · rw [if_pos hexposed, if_pos hexposed, Option.bind_some]
    simp only [hread]
    rfl
  · rw [if_neg hexposed, if_neg hexposed, Option.bind_none]

/-- One of the two items is not known. -/
theorem sampleJsonResponse_arrives :
    ∃ json, encodeResponseMessage sampleForms standardTexts 7 .deleteMonitoredItems
        (makeResponseHeader 7 .good) sampleResults = .ok json ∧
      decodeResponseMessage standardTexts json =
        some
          { requestHandle := 7
            service := .deleteMonitoredItems
            responseHeader := makeResponseHeader 7 .good
            fields := sampleResults } := by
  have hheader : responseHeader.JsonFits standardTexts (makeResponseHeader 7 .good) := by
    refine ⟨fun h => ?_, fun _ => rfl, fun h => ?_, fun h => ?_, fun _ h => ?_, fun h => ?_,
      trivial⟩
    all_goals cases h
  have hfits : GeneratedService.deleteMonitoredItems.responseFields.JsonFits standardTexts
      sampleResults := by
    refine ⟨List.forall_mem_cons.mpr ⟨rfl, List.forall_mem_cons.mpr ⟨rfl, ?_⟩⟩, ?_, trivial⟩
    · exact fun _ h => absurd h List.not_mem_nil
    · exact fun _ h => absurd h List.not_mem_nil
  obtain ⟨json, hjson, hread⟩ :=
    @jsonResponse_arrives sampleForms standardTexts .deleteMonitoredItems 7
      (makeResponseHeader 7 .good) sampleResults sampleResults rfl hheader hfits
  exact ⟨json, hjson, hread⟩

/-- A HistoryRead is answered: the results reach the client in their order, each with its
status and continuation point, and each known type reads from its data what the server put
there. -/
theorem historyRead_answered {header : responseHeader.Carrier}
    {fields sent : GeneratedService.historyRead.responseFields.Carrier}
    (hreturn : ∀ result ∈ fields.1, BodiesReturn forms texts historyResults result.2.2.1)
    (hsent : responseWithJsonBodies forms texts .historyRead fields = .ok sent)
    (hheader : responseHeader.JsonFits texts header)
    (hfits : GeneratedService.historyRead.responseFields.JsonFits texts sent) :
    ∃ json received,
      encodeResponseMessage forms texts requestHandle .historyRead header fields = .ok json ∧
        decodeResponseMessage texts json =
          some
            { requestHandle
              service := .historyRead
              responseHeader := responseHeader.asJson header
              fields := received } ∧
          List.Forall₂ (SameHistory forms texts) fields.1 received.1 := by
  obtain ⟨body, hencoded, hbody⟩ :=
    @exists_responseBody forms texts .historyRead requestHandle _ _ _ hsent hheader hfits
  obtain ⟨json, hjson, harrived⟩ := @exists_envelope requestHandle .historyRead body
  have hmessage : decodeResponseMessage texts json =
      some
        { requestHandle
          service := .historyRead
          responseHeader := responseHeader.asJson header
          fields := GeneratedService.historyRead.responseFields.asJson sent } := by
    have hexposed : GeneratedService.historyRead.exposed = true := rfl
    rw [decodeResponseMessage, harrived, if_pos hexposed, Option.bind_some]
    simp only [hbody]
    rfl
  refine ⟨json, _, hencoded.trans hjson, hmessage, ?_⟩
  have hresults := (historyResults_transcoded hreturn hsent).2
  refine List.forall₂_map_right_iff.mpr (hresults.imp fun result other hpart => ?_)
  obtain ⟨hstatus, hpoint, hread⟩ := @sameHistory_asJson forms texts other
  obtain ⟨hother, htranscoded⟩ := hpart
  refine ⟨hstatus.trans ?_, hpoint.trans ?_, fun type htype =>
    (hread type htype).trans (htranscoded.reads type htype)⟩
  · rw [hother]
  · rw [hother]

/-- A value and the time it is from. -/
def historyValue : DataValue :=
  { noDataValue with value := .scalar .int32 (7 : Int32), sourceTimestamp := historyStart }

def historyObject : ExtensionObject :=
  (historyData.wire sampleForms datedTexts).toExtensionObject ([historyValue], ())

def historyFields : GeneratedService.historyRead.responseFields.Carrier :=
  ([(Status.good, ([] : ByteString), historyObject, ())], ([] : List DiagnosticInfo), ())

def historySent : GeneratedService.historyRead.responseFields.Carrier :=
  ([(Status.good, ([] : ByteString),
      ({ dataTypeId := encodingId 15270
         value := .json (.object
          [(asciiText "DataValues",
            .array
              [.object
                [(asciiText "UaType", .uint64 6), (asciiText "Value", .int64 7),
                  (asciiText "SourceTimestamp",
                    .string (asciiText "2024-01-01T00:00:00Z"))]])]) } : ExtensionObject), ())],
    ([] : List DiagnosticInfo), ())

theorem bodiesReturn_historyObject :
    BodiesReturn sampleForms datedTexts historyResults historyObject := by
  have hread : (historyData.wire sampleForms datedTexts).fromExtensionObject historyObject =
      some ([historyValue], ()) := by rfl
  intro type htype value hvalue
  simp only [historyResults, List.mem_cons, List.not_mem_nil, or_false] at htype
  rcases htype with rfl | rfl
  · obtain rfl := Option.some.inj (hread.symm.trans hvalue)
    refine ⟨List.forall_mem_cons.mpr ⟨⟨_, rfl, rfl⟩, ?_⟩, trivial⟩
    exact fun _ h => absurd h List.not_mem_nil
  · have hother : (historyEvent.wire sampleForms datedTexts).fromExtensionObject
        historyObject = none := if_neg (by decide)
    rw [hother] at hvalue
    cases hvalue

/-- One value is read, and the answer is sent with a JSON body. -/
theorem historyValue_answered :
    ∃ json received,
      encodeResponseMessage sampleForms datedTexts 7 .historyRead (makeResponseHeader 7 .good)
          historyFields = .ok json ∧
        decodeResponseMessage datedTexts json =
          some
            { requestHandle := 7
              service := .historyRead
              responseHeader := makeResponseHeader 7 .good
              fields := received } ∧
          List.Forall₂ (SameHistory sampleForms datedTexts) historyFields.1 received.1 := by
  have hreturn : ∀ result ∈ historyFields.1,
      BodiesReturn sampleForms datedTexts historyResults result.2.2.1 := by
    intro result hmem
    obtain rfl := List.mem_singleton.mp hmem
    exact bodiesReturn_historyObject
  have hheader : responseHeader.JsonFits datedTexts (makeResponseHeader 7 .good) := by
    refine ⟨fun h => ?_, fun _ => rfl, fun h => ?_, fun h => ?_, fun _ h => ?_, fun h => ?_,
      trivial⟩
    all_goals cases h
  have hfits : GeneratedService.historyRead.responseFields.JsonFits datedTexts historySent := by
    refine ⟨List.forall_mem_cons.mpr ⟨⟨fun h => ?_, fun h => ?_, fun _ => rfl, trivial⟩, ?_⟩,
      fun _ h => absurd h List.not_mem_nil, trivial⟩
    · cases h
    · cases h
    · exact fun _ h => absurd h List.not_mem_nil
  exact @historyRead_answered sampleForms datedTexts 7 (makeResponseHeader 7 .good)
    historyFields historySent hreturn rfl hheader hfits

end Messages

end JsonMessages

end OpcuaStack
