import OpcuaStack.PayloadAnswers
import OpcuaStack.RequestEnvelope
import OpcuaStack.ServiceLayouts

/-!
# Requests and responses between client and server

`EncodeServiceRequest` and `EncodeServiceResponse` of `transport/binary/service_codec.cpp`
against `DecodeServiceRequest`, `DecodeRequestHandle` and `DecodeServiceResponse`, for the
services whose messages are their own wire types.
-/

namespace OpcuaStack

/-! ## Headers -/

namespace StandardTypes

def keyValuePair : TypeLayout :=
  .structure (plainField "Key" .qualifiedName (.single "Value" (.builtIn .variant) .nil))

def additionalParametersType : GeneratedType where
  layout := .structure (.array "Parameters" keyValuePair .nil)
  binaryEncodingId := 17537
  jsonEncodingId := 17547

def spanContextDataType : GeneratedType where
  layout := .structure (plainField "TraceId" .guid (plainField "SpanId" .uint64 .nil))
  binaryEncodingId := 19754
  jsonEncodingId := 19804

end StandardTypes

open StandardTypes

def RequestHeader.toUa (header : RequestHeader) : requestHeader.Carrier :=
  (header.authenticationToken, header.timestamp, header.requestHandle, header.returnDiagnostics,
    header.auditEntryId, header.timeoutHint, header.additionalHeader, ())

def RequestHeader.fromUa : requestHeader.Carrier → RequestHeader
  | (authenticationToken, timestamp, requestHandle, returnDiagnostics, auditEntryId,
      timeoutHint, additionalHeader, _) =>
    { authenticationToken, timestamp, requestHandle, returnDiagnostics, auditEntryId,
      timeoutHint, additionalHeader }

@[simp] theorem RequestHeader.fromUa_toUa (header : RequestHeader) :
    RequestHeader.fromUa header.toUa = header := rfl

def KeyValuePair.toUa (parameter : KeyValuePair) : keyValuePair.Carrier :=
  (parameter.key, parameter.value, ())

def KeyValuePair.fromUa : keyValuePair.Carrier → KeyValuePair
  | (key, value, _) => { key, value }

/-- A wire type under the names of its fields. -/
def WireType.named {S T : Type} (type : WireType S) (toUa : T → S) (fromUa : S → T) :
    WireType T where
  encode value := type.encode (toUa value)
  decode body := (type.decode body).map fromUa
  decodeJson json := (type.decodeJson json).map fromUa
  binaryEncodingId := type.binaryEncodingId
  jsonEncodingId := type.jsonEncodingId

theorem WireType.fromAnyExtensionObject_empty {T : Type} {type : WireType T}
    {object : ExtensionObject} (h : object.value = .empty) :
    type.fromAnyExtensionObject object = none := by
  simp [WireType.fromAnyExtensionObject, WireType.fromExtensionObject,
    WireType.fromJsonExtensionObject, h]

variable (forms : Binary.Representations) (texts : Json.Texts)

/-- The codecs which the generator writes for the types of the extension slot. -/
def generatedHeaderCodec : HeaderCodec where
  parameters := (additionalParametersType.wire forms texts).named
    (fun parameters => (parameters.map KeyValuePair.toUa, ()))
    fun wire => wire.1.map KeyValuePair.fromUa
  spanContext := (spanContextDataType.wire forms texts).named
    (fun spanContext => (spanContext.traceId, spanContext.spanId, ()))
    fun (traceId, spanId, _) => { traceId, spanId }

namespace ServiceMessages

/-! ## Requests -/

/-- `EncodeServiceRequest`; the header is the one that the service has put into its message. -/
def encodeServiceRequest (service : GeneratedService) (envelope : ServiceRequestHeader)
    (header : RequestHeader) (fields : service.requestFields.Carrier) : Option ByteString :=
  let stamped := (generatedHeaderCodec forms texts).applyRequestEnvelope header
    envelope.authenticationToken envelope.requestHandle envelope.traceParent
  (service.request.encode forms (stamped.toUa, fields)).map
    (Binary.appendMessage service.requestEncodingId)

structure DecodedServiceRequest where
  header : ServiceRequestHeader
  service : GeneratedService
  requestHeader : RequestHeader
  fields : service.requestFields.Carrier

/-- `DecodeGeneratedRequest`. -/
def decodeGeneratedRequest (service : GeneratedService) (body : ByteString) :
    Option DecodedServiceRequest :=
  (WireType.decodeBody (service.request.decode forms) body).map fun wire =>
    let requestHeader := RequestHeader.fromUa wire.1
    { header :=
        { authenticationToken := requestHeader.authenticationToken
          requestHandle := requestHeader.requestHandle
          traceParent := (generatedHeaderCodec forms texts).getTraceParent requestHeader }
      service, requestHeader, fields := wire.2 }

/-- The arms of `DecodeServiceRequest` which call `DecodeGeneratedRequest`. -/
def decodeServiceRequest (payload : ByteString) : Option DecodedServiceRequest := do
  let (typeId, body) ← Binary.readMessage.start payload
  let service ← GeneratedService.ofEncodingId GeneratedService.requestEncodingId typeId
  decodeGeneratedRequest forms texts service body

/-! ## Responses -/

def encodeServiceResponse (service : GeneratedService) (requestHandle : UInt32)
    (serviceResult : Status) (fields : service.responseFields.Carrier) : Option ByteString :=
  (service.response.encode forms (makeResponseHeader requestHandle serviceResult, fields)).map
    (Binary.appendMessage service.responseEncodingId)

structure DecodedServiceResponse where
  requestHandle : UInt32
  service : GeneratedService
  serviceResult : Status
  fields : service.responseFields.Carrier

/-- `DecodeGeneratedResponse`. -/
def decodeGeneratedResponse (service : GeneratedService) (body : ByteString) :
    Option DecodedServiceResponse :=
  (WireType.decodeBody (service.response.decode forms) body).map fun wire =>
    { requestHandle := wire.1.2.1, service, serviceResult := wire.1.2.2.1, fields := wire.2 }

/-- The arms of `DecodeServiceResponse` which call `DecodeGeneratedResponse`. -/
def decodeServiceResponse (payload : ByteString) : Option DecodedServiceResponse := do
  let (typeId, body) ← Binary.readMessage.start payload
  let service ← GeneratedService.ofEncodingId GeneratedService.responseEncodingId typeId
  decodeGeneratedResponse forms service body

end ServiceMessages

/-! ## Headers over the wire -/

/-- An object without a body arrives with one of no bytes. -/
def ExtensionObject.received (object : ExtensionObject) : ExtensionObject :=
  match object.value with
  | .empty => { object with value := .binary [] }
  | _ => object

def RequestHeader.received (header : RequestHeader) : RequestHeader :=
  { header with additionalHeader := header.additionalHeader.received }

/-- An object of a standard type, without a body or with one of bytes. -/
inductive ExtensionObject.Slot : ExtensionObject → Prop
  | empty (id : UInt32) : Slot { dataTypeId := encodingId id }
  | bytes (id : UInt32) {body : ByteString} (hlength : body.length < 2 ^ 31) :
      Slot { dataTypeId := encodingId id, value := .binary body }

structure RequestHeader.Sendable (header : RequestHeader) : Prop where
  token : Binary.NodeIdentifier.Encodable header.authenticationToken.identifier
  timestamp : int64Min ≤ header.timestamp.ticks ∧ header.timestamp.ticks ≤ int64Max
  auditEntryId : header.auditEntryId.length < 2 ^ 31
  additionalHeader : header.additionalHeader.Slot

section Headers

open Binary Binary.Bounded

variable {forms texts} {header : RequestHeader}

theorem encodeExpandedNodeId_encodingId (id : UInt32) :
    Binary.encodeExpandedNodeId (encodingId id) =
      some (encodeNodeId { identifier := .numeric id }) := by
  by_cases hbyte : id ≤ 0xff
  · simp [Binary.encodeExpandedNodeId, encodingId, expandedNodeIdFormat, encodeExpandedBody,
      maskBit, joined, encodeNodeId, hbyte]
  · by_cases hword : id ≤ 0xffff
    · simp [Binary.encodeExpandedNodeId, encodingId, expandedNodeIdFormat, encodeExpandedBody,
        maskBit, joined, encodeNodeId, hbyte, hword,
        (by decide : (1 : UInt8) &&& 128 = 0), (by decide : (1 : UInt8) &&& 64 = 0)]
    · simp [Binary.encodeExpandedNodeId, encodingId, expandedNodeIdFormat, encodeExpandedBody,
        maskBit, joined, encodeNodeId, hbyte, hword,
        (by decide : (2 : UInt8) &&& 128 = 0), (by decide : (2 : UInt8) &&& 64 = 0)]

theorem returns_slot {object : ExtensionObject} (h : object.Slot) :
    ((TypeLayout.builtIn (.plain .extensionObject)).decode forms).Returns
      ((TypeLayout.builtIn (.plain .extensionObject)).encode forms object) object.received := by
  cases h with
  | empty id => exact returns_noBody (carried_encodingId id)
  | bytes id hlength =>
      exact returns_plain .extensionObject ⟨carried_encodingId id, _, rfl, hlength⟩

theorem returns_requestHeader (h : header.Sendable) :
    (requestHeader.decode forms).Returns (requestHeader.encode forms header.toUa)
      header.received.toUa := by
  apply FieldLayouts.returns_cons "AuthenticationToken" (returns_plain .nodeId h.token)
  apply FieldLayouts.returns_cons "Timestamp" (returns_plain .dateTime h.timestamp)
  apply FieldLayouts.returns_cons "RequestHandle" (returns_plain .uint32 trivial)
  apply FieldLayouts.returns_cons "ReturnDiagnostics" (returns_plain .uint32 trivial)
  apply FieldLayouts.returns_cons "AuditEntryId" (returns_plain .string h.auditEntryId)
  apply FieldLayouts.returns_cons "TimeoutHint" (returns_plain .uint32 trivial)
  apply FieldLayouts.returns_cons "AdditionalHeader" (returns_slot h.additionalHeader)
  exact FieldLayouts.returns_nil

theorem reads_body {body : ByteString} (h : body.length < 2 ^ 31) {α : Type}
    (make : ByteString → α) :
    Reads (do
      let length ← Binary.decodeInt32
      if length < 0 then
        failure
      let body ← Reader.take length.toNatClampNeg
      return make body) (encodeInt32 (Int32.ofNat body.length) ++ body) (make body) := by
  obtain ⟨hnonneg, hlength⟩ := toNatClampNeg_ofNat h
  apply (reads_int32 _).bind
  rw [if_neg hnonneg, hlength]
  exact (Reads.take body).bind_pure (Reads.pure _)

theorem reads_slot {object : ExtensionObject} (h : object.Slot) :
    ∃ piece value, Binary.encodeExtensionObject object = some piece ∧
      Reads Binary.decodeExtensionObject piece value := by
  cases h with
  | empty id =>
      refine ⟨_, { typeId := id }, ?_, (reads_numericNodeId id).bind
        ((reads_uInt8 0x00).bind_pure (Reads.pure _))⟩
      rw [Binary.encodeExtensionObject, encodeExpandedNodeId_encodingId]
      rfl
  | bytes id hlength =>
      have hbody := reads_body hlength fun body =>
        ({ typeId := id, encoding := 0x01, body } : DecodedExtensionObject)
      refine ⟨_, _, ?_, (reads_numericNodeId id).bind ((reads_uInt8 0x01).bind hbody)⟩
      rw [Binary.encodeExtensionObject, encodeExpandedNodeId_encodingId]
      rfl

theorem reads_requestHandle (h : header.Sendable) :
    ∃ piece, requestHeader.encode forms header.toUa = some piece ∧
      Reads Binary.readRequestHandle piece header.requestHandle := by
  obtain ⟨slot, value, hslot, hreads⟩ := reads_slot h.additionalHeader
  refine ⟨_, ?_, (reads_nodeId h.token).bind
    ((reads_int64 (Int64.ofInt header.timestamp.ticks)).bind
      ((reads_uInt32 header.requestHandle).bind ((reads_uInt32 header.returnDiagnostics).bind
        ((reads_byteString h.auditEntryId).bind ((reads_uInt32 header.timeoutHint).bind
          (hreads.bind (Reads.pure _)))))))⟩
  change joined _ (joined _ (joined _ (joined _ (joined _ (joined _
    (joined (Binary.encodeExtensionObject header.additionalHeader) _)))))) = _
  rw [hslot]
  rfl

theorem decodeParameters_nil :
    (generatedHeaderCodec forms texts).parameters.decode [] = none := rfl

theorem getAdditionalParameters_received (h : header.additionalHeader.Slot) :
    (generatedHeaderCodec forms texts).getAdditionalParameters header.received =
      (generatedHeaderCodec forms texts).getAdditionalParameters header := by
  obtain ⟨token, timestamp, handle, diagnostics, audit, hint, object⟩ := header
  cases h with
  | empty id =>
      have hnone : (generatedHeaderCodec forms texts).parameters.fromAnyExtensionObject
          { dataTypeId := encodingId id, value := .binary [] } = none := by
        simp [WireType.fromAnyExtensionObject, WireType.fromExtensionObject,
          WireType.fromJsonExtensionObject, decodeParameters_nil]
      simp only [HeaderCodec.getAdditionalParameters, RequestHeader.received,
        ExtensionObject.received, hnone, WireType.fromAnyExtensionObject_empty]
  | bytes id hlength => rfl

theorem getTraceParent_received (h : header.additionalHeader.Slot) :
    (generatedHeaderCodec forms texts).getTraceParent header.received =
      (generatedHeaderCodec forms texts).getTraceParent header := by
  simp only [HeaderCodec.getTraceParent, getAdditionalParameters_received h]

end Headers

namespace ServiceMessages

open Binary Binary.Bounded

section Requests

variable {forms texts}

/-- A message is read behind its header, and the decoder which reads only the header finds
the handle in it. -/
theorem exists_requestBody {service : GeneratedService} {header : RequestHeader}
    {fields : service.requestFields.Carrier} (hheader : header.Sendable)
    (hfits : service.requestFields.Fits forms fields) :
    ∃ body, service.request.encode forms (header.toUa, fields) = some body ∧
      readRequestHandle.start body = some header.requestHandle ∧
      (body.length < 2 ^ 63 → WireType.decodeBody (service.request.decode forms) body =
        some (header.received.toUa, service.requestFields.asSent fields)) := by
  obtain ⟨first, hfirst, hreads⟩ := @reads_requestHandle forms header hheader
  obtain ⟨rest, hrest, -⟩ := service.requestFields.returns fields hfits
  obtain ⟨body, hbody, hyields⟩ := FieldLayouts.returns_cons "RequestHeader"
    (returns_requestHeader hheader) (service.requestFields.returns fields hfits)
  have hwritten : service.request.encode forms (header.toUa, fields) = some body := hbody
  have hjoined : service.request.encode forms (header.toUa, fields) = some (first ++ rest) := by
    change joined (requestHeader.encode forms header.toUa)
      (service.requestFields.encode forms fields) = _
    rw [hfirst, hrest, joined_some]
  obtain rfl : first ++ rest = body := Option.some.inj (hjoined.symm.trans hwritten)
  refine ⟨first ++ rest, hjoined, hreads.start rest, fun hlength => ?_⟩
  exact WireType.decodeBody_of_yields hlength hyields

theorem decodeRequestHandle_appendMessage (typeId : UInt32) (body : ByteString) :
    decodeRequestHandle (appendMessage typeId body) = readRequestHandle.start body := by
  rw [decodeRequestHandle, readMessage_appendMessage]
  rfl

theorem decodeServiceRequest_appendMessage (service : GeneratedService) (body : ByteString) :
    decodeServiceRequest forms texts (appendMessage service.requestEncodingId body) =
      decodeGeneratedRequest forms texts service body := by
  rw [decodeServiceRequest, readMessage_appendMessage]
  change (GeneratedService.ofEncodingId _ _).bind _ = _
  rw [GeneratedService.ofEncodingId_request, Option.bind_some]

theorem token_and_handle_stamped {codec : HeaderCodec} {header : RequestHeader}
    {authenticationToken : NodeId} {requestHandle : UInt32} {traceParent : ByteText} :
    (codec.applyRequestEnvelope header authenticationToken requestHandle
        traceParent).authenticationToken = authenticationToken ∧
      (codec.applyRequestEnvelope header authenticationToken requestHandle
        traceParent).requestHandle = requestHandle := by
  simp only [HeaderCodec.applyRequestEnvelope]
  split
  · simp
  · split <;> simp [HeaderCodec.setAdditionalParameter, HeaderCodec.setAdditionalParameters]

theorem getTraceParent_stamped {header : RequestHeader} {traceParent : ByteText}
    (hform : TraceContext.isW3CTraceParent traceParent)
    (hcodec : (generatedHeaderCodec forms texts).ReadsBack
      ((generatedHeaderCodec forms texts).getAdditionalParameters header) traceParent)
    (authenticationToken : NodeId) (requestHandle : UInt32) :
    (generatedHeaderCodec forms texts).getTraceParent
      ((generatedHeaderCodec forms texts).applyRequestEnvelope header authenticationToken
        requestHandle traceParent) = traceParent := by
  have htrace : traceParent ≠ [] := by
    rintro rfl
    exact absurd hform (by decide)
  have hstamped := (generatedHeaderCodec forms texts).withTraceContext_stamped
    ((generatedHeaderCodec forms texts).getAdditionalParameters header) traceParent
  have htext : (some (Variant.scalar .string traceParent)).bind RequestEnvelope.stringOf =
      some traceParent := rfl
  simp only [HeaderCodec.getTraceParent,
    HeaderCodec.getAdditionalParameters_applyRequestEnvelope htrace hcodec, hstamped.text, htext,
    Option.any_some, hform, if_true, Option.getD_some]

/-- A request reaches the service it was written for, with the header of its envelope and
all that its own header carried, its Variants as they are sent.  A server which does not
know the service finds the same handle, and a W3C trace context is the one that was sent. -/
theorem request_arrives {service : GeneratedService} {envelope : ServiceRequestHeader}
    {header stamped : RequestHeader} {fields : service.requestFields.Carrier}
    (hstamped : (generatedHeaderCodec forms texts).applyRequestEnvelope header
      envelope.authenticationToken envelope.requestHandle envelope.traceParent = stamped)
    (hheader : stamped.Sendable) (hfits : service.requestFields.Fits forms fields)
    (hlength : ∀ body, service.request.encode forms (stamped.toUa, fields) = some body →
      body.length < 2 ^ 63) :
    ∃ payload, encodeServiceRequest forms texts service envelope header fields = some payload ∧
      decodeRequestHandle payload = some envelope.requestHandle ∧
      decodeServiceRequest forms texts payload =
        some
          { header :=
              { envelope with
                traceParent := (generatedHeaderCodec forms texts).getTraceParent stamped }
            service
            requestHeader := stamped.received
            fields := service.requestFields.asSent fields } ∧
      (TraceContext.isW3CTraceParent envelope.traceParent →
        (generatedHeaderCodec forms texts).ReadsBack
          ((generatedHeaderCodec forms texts).getAdditionalParameters header)
          envelope.traceParent →
        (generatedHeaderCodec forms texts).getTraceParent stamped = envelope.traceParent) := by
  obtain ⟨body, hbody, hhandle, hread⟩ := exists_requestBody hheader hfits
  have henvelope : stamped.authenticationToken = envelope.authenticationToken ∧
      stamped.requestHandle = envelope.requestHandle := by
    rw [← hstamped]
    exact token_and_handle_stamped
  refine ⟨appendMessage service.requestEncodingId body, ?_, ?_, ?_, ?_⟩
  · change (service.request.encode forms (RequestHeader.toUa
      ((generatedHeaderCodec forms texts).applyRequestEnvelope header _ _ _), fields)).map _ = _
    rw [hstamped, hbody, Option.map_some]
  · rw [decodeRequestHandle_appendMessage, hhandle, henvelope.2]
  · rw [decodeServiceRequest_appendMessage, decodeGeneratedRequest, hread (hlength body hbody)]
    change some ({
      header :=
        { authenticationToken := stamped.authenticationToken
          requestHandle := stamped.requestHandle
          traceParent := (generatedHeaderCodec forms texts).getTraceParent stamped.received }
      service, requestHeader := stamped.received
      fields := service.requestFields.asSent fields } : DecodedServiceRequest) = _
    rw [henvelope.1, henvelope.2, getTraceParent_received hheader.additionalHeader]
  · intro hform hcodec
    rw [← hstamped]
    exact getTraceParent_stamped hform hcodec _ _

end Requests

section Responses

variable {forms} {service : GeneratedService} {requestHandle : UInt32} {serviceResult : Status}
  {fields : service.responseFields.Carrier}

theorem decodeServiceResponse_appendMessage (service : GeneratedService) (body : ByteString) :
    decodeServiceResponse forms (appendMessage service.responseEncodingId body) =
      decodeGeneratedResponse forms service body := by
  rw [decodeServiceResponse, readMessage_appendMessage]
  change (GeneratedService.ofEncodingId _ _).bind _ = _
  rw [GeneratedService.ofEncodingId_response, Option.bind_some]

/-- A response reaches the client as that of its service, with the handle and the service
result of its header and its Variants as they are sent. -/
theorem response_arrives (hfits : service.responseFields.Fits forms fields)
    (hlength : ∀ body, service.response.encode forms
      (makeResponseHeader requestHandle serviceResult, fields) = some body →
        body.length < 2 ^ 63) :
    ∃ payload, encodeServiceResponse forms service requestHandle serviceResult fields =
        some payload ∧
      decodeServiceResponse forms payload =
        some
          { requestHandle, service, serviceResult
            fields := service.responseFields.asSent fields } := by
  obtain ⟨body, hbody, hyields⟩ := FieldLayouts.returns_cons "ResponseHeader"
    (returns_responseHeader requestHandle serviceResult)
    (service.responseFields.returns fields hfits)
  have hwritten : service.response.encode forms
      (makeResponseHeader requestHandle serviceResult, fields) = some body := hbody
  have hread : WireType.decodeBody (service.response.decode forms) body =
      some (receivedResponseHeader requestHandle serviceResult,
        service.responseFields.asSent fields) :=
    WireType.decodeBody_of_yields (hlength body hwritten) hyields
  refine ⟨appendMessage service.responseEncodingId body, ?_, ?_⟩
  · rw [encodeServiceResponse, hwritten, Option.map_some]
  · rw [decodeServiceResponse_appendMessage, decodeGeneratedResponse, hread]
    rfl

end Responses

/-! ## A stamped request -/

section Samples

variable {forms texts}

theorem parameters_roundTrip {parameters : List KeyValuePair}
    (hcount : parameters.length < 2 ^ 31)
    (h : ∀ parameter ∈ parameters, parameter.key.name.length < 2 ^ 31 ∧
      Bounded.Sendable forms parameter.value ∧ asSent parameter.value = parameter.value)
    (hlength : ((generatedHeaderCodec forms texts).parameters.encode parameters).length <
      2 ^ 63) :
    (generatedHeaderCodec forms texts).parameters.RoundTrips parameters := by
  have hfits : additionalParametersType.layout.Fits forms
      (parameters.map KeyValuePair.toUa, ()) := by
    refine ⟨⟨?_, .inr rfl, ?_⟩, trivial⟩
    · rwa [List.length_map]
    · intro element hmem
      obtain ⟨parameter, hparameter, rfl⟩ := List.mem_map.mp hmem
      obtain ⟨hname, hvalue, -⟩ := h parameter hparameter
      exact ⟨hname, hvalue, trivial⟩
  have hsent : (parameters.map KeyValuePair.toUa).map keyValuePair.asSent =
      parameters.map KeyValuePair.toUa := by
    rw [List.map_map]
    apply List.map_congr_left
    intro parameter hparameter
    exact Prod.ext rfl (Prod.ext (h parameter hparameter).2.2 rfl)
  obtain ⟨body, hbody, hyields⟩ := additionalParametersType.layout.returns _ hfits
  have hencoded : (generatedHeaderCodec forms texts).parameters.encode parameters = body := by
    change (additionalParametersType.layout.encode forms _).getD [] = _
    rw [hbody, Option.getD_some]
  have hdecoded : WireType.decodeBody (additionalParametersType.layout.decode forms) body =
      some ((parameters.map KeyValuePair.toUa).map keyValuePair.asSent, ()) := by
    apply WireType.decodeBody_of_yields _ hyields
    rwa [← hencoded]
  rw [WireType.RoundTrips, hencoded]
  change (WireType.decodeBody (additionalParametersType.layout.decode forms) body).map _ = _
  rw [hdecoded, hsent]
  change some ((parameters.map KeyValuePair.toUa).map KeyValuePair.fromUa) = _
  rw [List.map_map]
  exact congrArg some (List.map_id _)

end Samples

def sampleCodec : HeaderCodec := generatedHeaderCodec sampleForms Json.sampleTexts

def sampleEnvelope : ServiceRequestHeader where
  authenticationToken := { identifier := .numeric 1, namespaceIndex := 3 }
  requestHandle := 7
  traceParent := HeaderCodec.sampleTraceParent

def sampleStamped : RequestHeader :=
  sampleCodec.applyRequestEnvelope {} sampleEnvelope.authenticationToken
    sampleEnvelope.requestHandle sampleEnvelope.traceParent

def sampleParameters : List KeyValuePair :=
  [HeaderCodec.traceParentEntry HeaderCodec.sampleTraceParent,
    { key := { name := RequestEnvelope.spanContextParameterName }
      value := .scalar .extensionObject
        (sampleCodec.spanContext.toExtensionObject TraceContext.sampleContext) }]

theorem sampleParameters_fit : ∀ parameter ∈ sampleParameters,
    parameter.key.name.length < 2 ^ 31 ∧ Bounded.Sendable sampleForms parameter.value ∧
      asSent parameter.value = parameter.value := by
  intro parameter hmem
  rcases List.mem_cons.mp hmem with rfl | hmem
  · refine ⟨by decide, @leafReturns_of_fits sampleForms .string _ ?_, rfl⟩
    exact (by decide : HeaderCodec.sampleTraceParent.length < 2 ^ 31)
  · obtain rfl := List.mem_singleton.mp hmem
    refine ⟨by decide, @leafReturns_of_fits sampleForms .extensionObject _ ?_, rfl⟩
    exact ⟨carried_encodingId _, _, rfl, by decide⟩

theorem withTraceContext_sample :
    sampleCodec.withTraceContext [] HeaderCodec.sampleTraceParent = sampleParameters := by
  rw [HeaderCodec.withTraceContext, HeaderCodec.traceParentToSpanContext_sample, Option.elim_some]
  rfl

theorem sampleHeader_readsBack :
    sampleCodec.ReadsBack (sampleCodec.getAdditionalParameters {})
      HeaderCodec.sampleTraceParent := by
  constructor
  · apply parameters_roundTrip
    · decide
    · intro parameter hmem
      obtain rfl := List.mem_singleton.mp hmem
      exact sampleParameters_fit _ List.mem_cons_self
    · decide +kernel
  · change WireType.RoundTrips _ (sampleCodec.withTraceContext [] _)
    rw [withTraceContext_sample]
    apply parameters_roundTrip
    · decide
    · exact sampleParameters_fit
    · decide +kernel

theorem sampleStamped_eq :
    sampleStamped =
      { authenticationToken := sampleEnvelope.authenticationToken
        requestHandle := sampleEnvelope.requestHandle
        additionalHeader := sampleCodec.parameters.toExtensionObject sampleParameters } := by
  have hfirst : sampleCodec.getAdditionalParameters
      (sampleCodec.setAdditionalParameter
        { authenticationToken := sampleEnvelope.authenticationToken
          requestHandle := sampleEnvelope.requestHandle }
        RequestEnvelope.traceParentParameterName
        (.scalar .string HeaderCodec.sampleTraceParent)) =
          HeaderCodec.withTraceParent [] HeaderCodec.sampleTraceParent :=
    HeaderCodec.getAdditionalParameters_setAdditionalParameter rfl
      sampleHeader_readsBack.withTraceParent
  have htrace : ¬HeaderCodec.sampleTraceParent = [] := by decide
  rw [sampleStamped, HeaderCodec.applyRequestEnvelope]
  simp only [sampleEnvelope, htrace, if_false, HeaderCodec.traceParentToSpanContext_sample]
  simp only [sampleEnvelope] at hfirst
  rw [HeaderCodec.setAdditionalParameter, hfirst]
  rfl

theorem sampleStamped_sendable : sampleStamped.Sendable := by
  rw [sampleStamped_eq]
  exact ⟨trivial, ⟨by decide, by decide⟩, by decide, .bytes _ (by decide +kernel)⟩

def sampleFields : GeneratedService.deleteMonitoredItems.requestFields.Carrier :=
  ((3 : UInt32), ([5, 6] : List UInt32), ())

theorem sampleFields_fit :
    GeneratedService.deleteMonitoredItems.requestFields.Fits sampleForms sampleFields :=
  ⟨trivial, ⟨by decide, .inr rfl, fun _ _ => trivial⟩, trivial⟩

/-- The items 5 and 6 of subscription 3 are to be deleted. -/
theorem sampleRequest_arrives :
    ∃ payload,
      encodeServiceRequest sampleForms Json.sampleTexts .deleteMonitoredItems sampleEnvelope {}
          sampleFields = some payload ∧
        Binary.decodeRequestHandle payload = some 7 ∧
        decodeServiceRequest sampleForms Json.sampleTexts payload =
          some
            { header := sampleEnvelope
              service := .deleteMonitoredItems
              requestHeader := sampleStamped.received
              fields := sampleFields } := by
  have hlength : ∀ body, GeneratedService.deleteMonitoredItems.request.encode sampleForms
      (sampleStamped.toUa, sampleFields) = some body → body.length < 2 ^ 63 := by
    rw [sampleStamped_eq]
    intro body hbody
    obtain rfl := Option.some.inj hbody
    decide +kernel
  obtain ⟨payload, hpayload, hhandle, hrequest, htrace⟩ :=
    @request_arrives sampleForms Json.sampleTexts .deleteMonitoredItems sampleEnvelope {} _
      sampleFields rfl sampleStamped_sendable sampleFields_fit hlength
  refine ⟨payload, hpayload, hhandle, ?_⟩
  rw [hrequest]
  rw [htrace (by decide) sampleHeader_readsBack]
  rfl

/-- One of the two items is not known. -/
def sampleResults : GeneratedService.deleteMonitoredItems.responseFields.Carrier :=
  ([Status.good, Status.ofCode .badMonitoredItemIdInvalid], ([] : List DiagnosticInfo), ())

theorem sampleResponse_arrives :
    ∃ payload, encodeServiceResponse sampleForms .deleteMonitoredItems 7 .good sampleResults =
        some payload ∧
      decodeServiceResponse sampleForms payload =
        some
          { requestHandle := 7
            service := .deleteMonitoredItems
            serviceResult := .good
            fields := sampleResults } := by
  have hfits : GeneratedService.deleteMonitoredItems.responseFields.Fits sampleForms
      sampleResults := by
    refine ⟨⟨by decide, .inr rfl, fun _ _ => trivial⟩, ⟨by decide, .inr rfl, ?_⟩, trivial⟩
    intro info hinfo
    exact absurd hinfo List.not_mem_nil
  apply response_arrives hfits
  intro body hbody
  obtain rfl := Option.some.inj hbody
  decide

end ServiceMessages

end OpcuaStack
