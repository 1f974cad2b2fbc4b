import OpcuaStack.ServiceHandler

/-!
# From a client to an application and back

An operation of `client/client_protocol_session.cpp` against the handler of a server: the
request which the client makes, the callback which the handler makes of it, the response
which it makes of the reply, and what the client makes of the response.
-/

namespace OpcuaStack.Services

open Dialogue

/-- The generated codecs, which both sides use. -/
structure ServiceCodecs where
  attributes : AttributesBodyCodec
  historyReads : HistoryReadCodec
  historyUpdates : HistoryUpdateCodec
  base64 : Base64 := .standard

/-- The handler of a server with these codecs. -/
def ServiceCodecs.handler (codecs : ServiceCodecs) (context : ServiceContext)
    (limits : OperationLimits) : ServiceHandler where
  serviceContext := context
  operationLimits := limits
  attributes := codecs.attributes.reader
  historyReads := codecs.historyReads
  historyUpdates := codecs.historyUpdates
  base64 := codecs.base64

/-! ## The operations of a client -/

/-- The operations that become service requests, with what their callers give them. -/
inductive ClientOperation where
  | read (inputs : List ReadValueId)
  | write (inputs : List WriteValue)
  | browse (inputs : List BrowseDescription)
  | translateBrowsePaths (inputs : List BrowsePath)
  | call (objectId methodId : NodeId) (arguments : List Variant)
  | historyReadRaw (details : HistoryReadRawDetails)
  | historyReadEvents (details : HistoryReadEventsDetails)
  | historyUpdateData (details : UpdateDataDetails)
  | historyUpdateEvent (details : UpdateEventDetails)
  | addNodes (inputs : List ManagedAddNodesItem)
  | deleteNodes (inputs : List DeleteNodesItem)
  | addReferences (inputs : List AddReferencesItem)
  | deleteReferences (inputs : List DeleteReferencesItem)

namespace ClientOperation

/-- What an operation returns to its caller. -/
def Result : ClientOperation → Type
  | read _ => List DataValue
  | write _ => List StatusCode
  | browse _ => List ManagedBrowseResult
  | translateBrowsePaths _ => List ManagedPathResult
  | call _ _ _ => CallResult
  | historyReadRaw _ => HistoryReadRawResult
  | historyReadEvents _ => List Event
  | historyUpdateData _ => List StatusCode
  | historyUpdateEvent _ => List StatusCode
  | addNodes _ => List (StatusCode × NodeId)
  | deleteNodes _ => List StatusCode
  | addReferences _ => List StatusCode
  | deleteReferences _ => List StatusCode

variable (codecs : ServiceCodecs)

/-- The request of an operation.  A client asks for both timestamps. -/
def request : ClientOperation → ServiceRequest
  | read inputs =>
      .read { timestampsToReturn := timestampsBoth, nodesToRead := inputs.map wireReadValueId }
  | write inputs => .write { nodesToWrite := inputs.map wireWriteValue }
  | browse inputs => .browse { nodesToBrowse := inputs.map wireDescription }
  | translateBrowsePaths inputs =>
      .translateBrowsePaths { browsePaths := inputs.map wirePath }
  | call objectId methodId arguments =>
      .call { methodsToCall := [{ objectId, methodId, inputArguments := arguments }] }
  | historyReadRaw details => .historyRead (codecs.historyReads.toWireRawRequest details)
  | historyReadEvents details =>
      .historyRead (codecs.historyReads.toWireEventsRequest details)
  | historyUpdateData details =>
      .historyUpdate (codecs.historyUpdates.toWire codecs.base64 (.data details))
  | historyUpdateEvent details =>
      .historyUpdate (codecs.historyUpdates.toWire codecs.base64 (.events details))
  | addNodes inputs => .addNodes { nodesToAdd := inputs.map (wireAddNode codecs.attributes) }
  | deleteNodes inputs => .deleteNodes { nodesToDelete := inputs }
  | addReferences inputs =>
      .addReferences { referencesToAdd := inputs.map wireAddReference }
  | deleteReferences inputs =>
      .deleteReferences { referencesToDelete := inputs.map wireDeleteReference }

end ClientOperation

open ClientCall ClientDialogue ClientProtocolSession in
/-- `Browse`, with `ToHandWritten` of each result. -/
def browse : ClientDialogue (StatusOr (List ManagedBrowseResult)) :=
  results .browse (fun body =>
    match body with
    | .browse response => some response
    | _ => none) managedBrowseResult

open ClientCall ClientDialogue ClientProtocolSession in
/-- `TranslateBrowsePathsToNodeIds`, with `ToHandWritten` of each result. -/
def translateBrowsePathsToNodeIds : ClientDialogue (StatusOr (List ManagedPathResult)) :=
  results .translateBrowsePathsToNodeIds (fun body =>
    match body with
    | .translateBrowsePathsToNodeIds response => some response
    | _ => none) managedPathResult

open ClientCall ClientDialogue ClientProtocolSession in
/-- `HistoryReadEvents`, with its events. -/
def historyReadEvents (codec : HistoryReadCodec) :
    ClientDialogue (StatusOr (List Event)) := do
  let result ← callTyped .historyRead pickHistoryRead
  onValue result codec.toManagedEvents

def pickCall : ClientResponseBody → Option (WireResponse CallMethodResult)
  | .call response => some response
  | _ => none

/-- The dialogue of an operation with its connection. -/
def ClientOperation.perform (codecs : ServiceCodecs) :
    (operation : ClientOperation) → ClientDialogue (StatusOr operation.Result)
  | read _ => ClientProtocolSession.read
  | write _ => ClientProtocolSession.write
  | browse _ => Services.browse
  | translateBrowsePaths _ => Services.translateBrowsePathsToNodeIds
  | call _ _ _ => ClientProtocolSession.call
  | historyReadRaw _ =>
      ClientProtocolSession.historyReadRaw codecs.historyReads.resultDecoders
  | historyReadEvents _ => Services.historyReadEvents codecs.historyReads
  | historyUpdateData _ => ClientProtocolSession.historyUpdate
  | historyUpdateEvent _ => ClientProtocolSession.historyUpdate
  | addNodes _ => ClientProtocolSession.addNodes
  | deleteNodes _ => ClientProtocolSession.deleteNodes
  | addReferences _ => ClientProtocolSession.addReferences
  | deleteReferences _ => ClientProtocolSession.deleteReferences

/-- The body which a client gets of a response. -/
def ServiceResponse.body : ServiceResponse → ClientResponseBody
  | read response => .read response
  | write response => .write response
  | browse response => .browse response
  | browseNext response => .browseNext response
  | translateBrowsePaths response => .translateBrowsePathsToNodeIds response
  | call response => .call response
  | historyRead response => .historyRead response
  | historyUpdate response => .historyUpdate response
  | addNodes response => .addNodes response
  | deleteNodes response => .deleteNodes response
  | addReferences response => .addReferences response
  | deleteReferences response => .deleteReferences response

/-- A connection which carries the request and delivers this body. -/
def delivering (body : ClientResponseBody) : (question : ClientQuestion) → question.Reply
  | .openConnection => Status.good
  | .renewSecurityToken => none
  | .sendRequest => Status.good
  | .receive _ => StatusOr.ok body
  | .closeConnection => ()
  | .sign => StatusOr.ok {}
  | .prepareTransport => StatusOr.ok ()
  | .buildSecurity _ => StatusOr.ok ()

/-! ## What should arrive -/

namespace ClientOperation

/-- The callback which stands for an operation at the server. -/
def callback (context : ServiceContext) : ClientOperation → Callback
  | read inputs => .read context inputs
  | write inputs => .write context (inputs.map WriteValue.sent)
  | browse inputs => .browse context inputs
  | translateBrowsePaths inputs => .translateBrowsePaths inputs
  | call objectId methodId arguments => .call objectId methodId arguments context
  | historyReadRaw details => .historyReadRaw details.sent
  | historyReadEvents details =>
      .historyReadEvents details.nodeId details.fromTime details.toTime details.filter.sent
  | historyUpdateData details => .historyUpdate context details
  | historyUpdateEvent details => .historyUpdateEvent context details
  | addNodes inputs => .addNodes context inputs
  | deleteNodes inputs => .deleteNodes context inputs
  | addReferences inputs => .addReferences context inputs
  | deleteReferences inputs => .deleteReferences context inputs

/-- The answer to a call: a failure is the status of its result. -/
def calledResult : StatusOr (List Variant) → CallResult
  | .ok outputArguments => { outputArguments := outputArguments }
  | .error status _ => { status := status }

/-- What the caller gets for a reply of the application. -/
def outcome (context : ServiceContext) :
    (operation : ClientOperation) → (operation.callback context).Reply →
      StatusOr operation.Result
  | read _, reply => reply
  | write _, reply => reply
  | browse _, reply => reply
  | translateBrowsePaths _, reply => reply
  | call _ _ _, reply => .ok (calledResult reply)
  | historyReadRaw _, reply => reply
  | historyReadEvents _, reply => reply
  | historyUpdateData _, reply => reply
  | historyUpdateEvent _, reply => reply
  | addNodes _, reply => reply
  | deleteNodes _, reply => reply
  | addReferences _, reply => reply
  | deleteReferences _, reply => reply

end ClientOperation

/-- Something of a list, and not more than the limit. -/
def Within {α : Type} (limit : UInt32) (inputs : List α) : Prop :=
  inputs ≠ [] ∧ inputs.length ≤ limit.toNat

/-- The attributes of a new node arrive as they are. -/
structure Survives (codec : AttributesBodyCodec) (item : ManagedAddNodesItem) : Prop where
  belong : item.attributes.BelongTo (.ofNodeClass item.nodeClass)
  roundTrips : (codec.wireType (.ofNodeClass item.nodeClass)).RoundTrips
    (buildAttributes (.ofNodeClass item.nodeClass) item.attributes)
  present : ∀ value, item.attributes.value = some value → Binary.variantIsNull value = false

namespace ClientOperation

variable (codecs : ServiceCodecs) (limits : OperationLimits)

/-- The operation is one that the server accepts, and what has a body of its own can be
read back. -/
def Travels : ClientOperation → Prop
  | read inputs =>
      Within limits.maxNodesPerRead inputs ∧ ∀ input ∈ inputs, IsProper input.attributeId
  | write inputs =>
      Within limits.maxNodesPerWrite inputs ∧ ∀ input ∈ inputs, IsProper input.attributeId
  | browse inputs => Within limits.maxNodesPerBrowse inputs
  | translateBrowsePaths inputs =>
      Within limits.maxNodesPerTranslateBrowsePathsToNodeIds inputs
  | call _ _ _ => limits.maxNodesPerMethodCall ≠ 0
  | historyReadRaw details =>
      codecs.historyReads.RawReturns details ∧
        ServiceHandler.isUnbounded details = false
  | historyReadEvents details =>
      codecs.historyReads.readEventDetails.RoundTrips
          (codecs.historyReads.wireEvents details) ∧
        codecs.historyReads.operands.ReadsBack details.filter
  | historyUpdateData details =>
      codecs.historyUpdates.updateDataDetails.RoundTrips
        (HistoryUpdateCodec.wireDataDetails details)
  | historyUpdateEvent details =>
      codecs.historyUpdates.updateEventDetails.RoundTrips
          (HistoryUpdateCodec.wireEventDetails codecs.base64 details) ∧
        ∀ event ∈ details.events, event.Carried
  | addNodes inputs =>
      Within limits.maxNodesPerNodeManagement inputs ∧
        ∀ item ∈ inputs, Survives codecs.attributes item
  | deleteNodes inputs => Within limits.maxNodesPerNodeManagement inputs
  | addReferences inputs => Within limits.maxNodesPerNodeManagement inputs
  | deleteReferences inputs => Within limits.maxNodesPerNodeManagement inputs

/-- The reply is one that a response has room for. -/
def Returns (context : ServiceContext) :
    (operation : ClientOperation) → (operation.callback context).Reply → Prop
  | read _, _ => True
  | write _, reply => ∀ codes, reply = .ok codes → ∀ code ∈ codes, code.Fits
  | browse _, reply =>
      ∀ results, reply = .ok results → ∀ result ∈ results, result.statusCode.Fits
  | translateBrowsePaths _, reply =>
      ∀ results, reply = .ok results → ∀ result ∈ results, result.Fits
  | call _ _ _, _ => True
  | historyReadRaw _, reply =>
      ∀ value, reply = .ok value → codecs.historyReads.historyData.RoundTrips value.values
  | historyReadEvents _, reply =>
      ∀ events, reply = .ok events →
        codecs.historyReads.historyEvent.RoundTrips
            (events.map (projectEventFields codecs.base64 defaultEventFieldPaths)) ∧
          ∀ event ∈ events, event.Carried
  | historyUpdateData _, reply => ∀ codes, reply = .ok codes → ∀ code ∈ codes, code.Fits
  | historyUpdateEvent _, reply => ∀ codes, reply = .ok codes → ∀ code ∈ codes, code.Fits
  | addNodes _, reply =>
      ∀ results, reply = .ok results → ∀ result ∈ results, result.1.Fits
  | deleteNodes _, reply => ∀ codes, reply = .ok codes → ∀ code ∈ codes, code.Fits
  | addReferences _, reply => ∀ codes, reply = .ok codes → ∀ code ∈ codes, code.Fits
  | deleteReferences _, reply => ∀ codes, reply = .ok codes → ∀ code ∈ codes, code.Fits

end ClientOperation

/-! ## The way back -/

section Client

open ClientCall ClientDialogue ClientProtocolSession

variable {ρ σ α : Type} {awaited : AwaitedResponse} {body : ClientResponseBody}

theorem isBad_good : Status.good.isBad = false := rfl

theorem run_send : send.run (steady (delivering body)) = some (.ok ()) := by
  have hsent : send.sendRequest.run (steady (delivering body)) = some (.ok ()) := by
    rw [send.sendRequest, ClientDialogue.ask, question_bind, run]
    change (if Status.good.isBad = true then fromStatus Status.good else _).run _ = _
    simp only [isBad_good, Bool.false_eq_true, if_false]
    rfl
  rw [send, ClientDialogue.ask, question_bind, run]
  exact hsent

theorem run_callTyped {pick : ClientResponseBody → Option ρ} {typed : ρ}
    (hpick : pick body = some typed) (hfault : ∀ status, body ≠ .serviceFault status) :
    (callTyped awaited pick).run (steady (delivering body)) = some (.ok typed) := by
  have hcall : (ClientCall.call awaited).run (steady (delivering body)) = some (.ok body) := by
    rw [ClientCall.call, run_steady_bind, run_send]
    rfl
  have hnarrow : narrowResponse pick (.ok body) = pure (.ok typed) := by
    rw [narrowResponse, onValue]
    cases body with
    | serviceFault status => exact absurd rfl (hfault status)
    | _ => simp only [hpick]
  rw [callTyped, run_steady_bind, hcall, Option.bind_some, hnarrow, run_pure]

theorem run_onValue {pick : ClientResponseBody → Option ρ} {typed : ρ}
    {next : ρ → ClientDialogue (StatusOr σ)} (hpick : pick body = some typed)
    (hfault : ∀ status, body ≠ .serviceFault status) :
    (callTyped awaited pick >>= fun result => onValue result next).run
        (steady (delivering body)) =
      (next typed).run (steady (delivering body)) := by
  rw [run_steady_bind, run_callTyped hpick hfault]
  rfl

theorem run_results {pick : ClientResponseBody → Option (WireResponse ρ)}
    {convert : ρ → σ} {result : StatusOr (List σ)} {wire : σ → ρ}
    (hpick : pick body = some (respond result wire))
    (hfault : ∀ status, body ≠ .serviceFault status)
    (hback : ∀ values, result = .ok values → ∀ value ∈ values,
      convert (wire value) = value) :
    (results awaited pick convert).run (steady (delivering body)) = some result := by
  rw [results, run_onValue hpick hfault]
  cases result with
  | error status hbad =>
      have hstatus : (respond (.error status hbad) wire).serviceResult = status := rfl
      simp only [hstatus, hbad, if_true, fromStatus_of_bad, run_pure]
  | ok values =>
      have hgood : (respond (.ok values) wire).serviceResult = .good := rfl
      have hvalues : ((respond (.ok values) wire).results).map convert = values := by
        rw [respond, StatusOr.valueOr, List.map_map]
        refine (List.map_congr_left fun value hmem => ?_).trans (List.map_id values)
        exact hback values rfl value hmem
      simp only [hgood, isBad_good, hvalues, Bool.false_eq_true, if_false, run_pure]

theorem toManaged_wireUpdateResult {reply : StatusOr (List StatusCode)}
    (h : ∀ codes, reply = .ok codes → ∀ code ∈ codes, code.Fits) :
    toManaged { results := [ServiceHandler.wireUpdateResult reply] } = pure reply := by
  rw [toManaged, firstResult]
  cases reply with
  | error status hbad =>
      simp only [ServiceHandler.wireUpdateResult, hbad, if_true, fromStatus_of_bad]
  | ok codes =>
      have hcodes : (codes.map Status.ofCode).map Status.code = codes := by
        rw [List.map_map]
        refine (List.map_congr_left fun code hmem => ?_).trans (List.map_id codes)
        exact (StatusCode.onWire_eq_iff code).mpr (h codes rfl code hmem)
      simp only [ServiceHandler.wireUpdateResult, isBad_good, hcodes, Bool.false_eq_true,
        if_false]

theorem run_historyUpdate {reply : StatusOr (List StatusCode)}
    (h : ∀ codes, reply = .ok codes → ∀ code ∈ codes, code.Fits) :
    ClientProtocolSession.historyUpdate.run (steady (delivering
        (.historyUpdate { results := [ServiceHandler.wireUpdateResult reply] }))) =
      some reply := by
  have hpick : pickHistoryUpdate (.historyUpdate
      { results := [ServiceHandler.wireUpdateResult reply] }) = some _ := rfl
  rw [ClientProtocolSession.historyUpdate, run_onValue hpick fun _ => nofun,
    toManaged_wireUpdateResult h, run_pure]

theorem run_call (reply : StatusOr (List Variant)) :
    ClientProtocolSession.call.run (steady (delivering
        (.call { results := [ServiceHandler.callMethodResult reply] }))) =
      some (.ok (ClientOperation.calledResult reply)) := by
  have hpick : pickCall (.call { results := [ServiceHandler.callMethodResult reply] }) =
      some _ := rfl
  change (callTyped .call pickCall >>= fun result => onValue result _).run _ = _
  rw [run_onValue hpick fun _ => nofun]
  cases reply with
  | ok outputArguments => rfl
  | error status hbad => rfl

end Client

/-! ## The way there -/

theorem withinLimit_eq {α ρ : Type} {inputs : List α} {count : ℕ} {limit : UInt32}
    (h : Within limit inputs) (hcount : count = inputs.length)
    (make : WireResponse ρ → ServiceResponse) (run : HandlerDialogue ServiceResponse) :
    withinLimit count limit make run = run := by
  have hsome : count ≠ 0 := by
    rw [hcount]
    exact fun hzero => h.1 (List.length_eq_zero_iff.mp hzero)
  have hfew : ¬limit.toNat < count := by
    rw [hcount]
    exact Nat.not_lt.mpr h.2
  rw [withinLimit, validateOperationCount, if_neg hsome, if_neg hfew]

theorem map_managed {α β : Type} {wire : α → β} {managed : β → α} {inputs : List α}
    (h : ∀ input ∈ inputs, managed (wire input) = input) :
    (inputs.map wire).map managed = inputs := by
  rw [List.map_map]
  exact (List.map_congr_left h).trans (List.map_id inputs)

theorem managed_wireAddNode {codec : AttributesBodyCodec} {item : ManagedAddNodesItem}
    (h : Survives codec item) :
    codec.reader.toManaged (wireAddNode codec item) = .ok item := by
  have hattributes : codec.reader.extensionObjectToNodeAttributes item.nodeClass
      (codec.nodeAttributesToExtensionObject item.nodeClass item.attributes) =
      .ok { item.attributes with browseName := {} } := by
    have hvalue : (item.attributes.value.filter fun value => !Binary.variantIsNull value) =
        item.attributes.value := by
      cases hfound : item.attributes.value with
      | none => rfl
      | some value => simp [Option.filter, h.present value hfound]
    rw [AttributesBodyCodec.nodeAttributesToExtensionObject,
      AttributesBodyCodec.attributes_of_extractWire
        (AttributesBodyCodec.extractWire_toExtensionObject h.roundTrips),
      attributesOf_buildAttributes h.belong, hvalue]
  simp only [AttributesCodec.toManaged, wireAddNode, hattributes]
  rfl

theorem mapM_managed_wireAddNode {codec : AttributesBodyCodec}
    {inputs : List ManagedAddNodesItem} (h : ∀ item ∈ inputs, Survives codec item) :
    (inputs.map (wireAddNode codec)).mapM codec.reader.toManaged = .ok inputs := by
  induction inputs with
  | nil => rfl
  | cons item rest ih =>
      have hfirst := managed_wireAddNode (h item (by simp))
      have hrest := ih fun other hmem => h other (by simp [hmem])
      rw [List.map_cons, List.mapM_cons, hfirst, hrest]
      rfl

theorem timestamps_both (value : DataValue) :
    applyTimestampsToReturn timestampsBoth (normalizeReadResult value) = value := by
  have hserver : ¬(timestampsBoth = kTimestampsServer ∨ timestampsBoth = kTimestampsNeither) := by
    decide
  have hsource : ¬(timestampsBoth = kTimestampsSource ∨ timestampsBoth = kTimestampsNeither) := by
    decide
  have hcode : Status.code ⟨0x80340000⟩ = .badNodeIdUnknown := by decide
  have hnormalized : normalizeReadResult value = value := by
    rw [normalizeReadResult]
    split
    next hunknown =>
      rw [hcode, ← hunknown]
      cases value
      rfl
    next => rfl
  rw [hnormalized, applyTimestampsToReturn, if_neg hserver, if_neg hsource]
  cases value
  rfl

theorem isUnbounded_sent (details : HistoryReadRawDetails) :
    ServiceHandler.isUnbounded details.sent = ServiceHandler.isUnbounded details := by
  rw [HistoryReadRawDetails.sent]
  split <;> rfl

theorem toManaged_data {codec : HistoryUpdateCodec} {base64 : Base64}
    {details : UpdateDataDetails}
    (h : codec.updateDataDetails.RoundTrips (HistoryUpdateCodec.wireDataDetails details)) :
    codec.toManaged (codec.toWire base64 (.data details)) = some (.data details) := by
  change codec.toManagedDetail (codec.updateDataDetails.toExtensionObject
    (HistoryUpdateCodec.wireDataDetails details)) = _
  rw [HistoryUpdateCodec.toManagedDetail, h.fromAnyExtensionObject]
  rfl

theorem ServiceHandler.handleHistoryRead_of_toManaged {handler : ServiceHandler}
    {request : HistoryReadRequest} {decoded : DecodedHistoryRead}
    (h : handler.historyReads.toManaged request = .ok (some decoded)) :
    handler.handleHistoryRead request = handler.readHistory decoded := by
  rw [handleHistoryRead, h]
  rfl

theorem ServiceHandler.handleHistoryUpdate_of_toManaged {handler : ServiceHandler}
    {request : HistoryUpdateRequest} {details : HistoryUpdateDetails}
    (h : handler.historyUpdates.toManaged request = some details) :
    handler.handleHistoryUpdate request = handler.updateHistory details >>= fun result =>
      pure (.historyUpdate { results := [wireUpdateResult result] }) := by
  rw [handleHistoryUpdate, h]

namespace ClientOperation

variable (codecs : ServiceCodecs) (context : ServiceContext)

/-- The response of the handler to the reply of its callback. -/
def response : (operation : ClientOperation) → (operation.callback context).Reply →
    ServiceResponse
  | read _, reply => .read (respond reply fun value =>
      applyTimestampsToReturn timestampsBoth (normalizeReadResult value))
  | write _, reply => .write (respond reply Status.ofCode)
  | browse _, reply => .browse (respond reply wireBrowseResult)
  | translateBrowsePaths _, reply => .translateBrowsePaths (respond reply wirePathResult)
  | call _ _ _, reply => .call { results := [ServiceHandler.callMethodResult reply] }
  | historyReadRaw _, reply =>
      .historyRead (codecs.historyReads.toWireRawResponse reply)
  | historyReadEvents _, reply =>
      .historyRead (codecs.historyReads.toWireEventsResponse codecs.base64 reply
        defaultEventFieldPaths)
  | historyUpdateData _, reply =>
      .historyUpdate { results := [ServiceHandler.wireUpdateResult reply] }
  | historyUpdateEvent _, reply =>
      .historyUpdate { results := [ServiceHandler.wireUpdateResult reply] }
  | addNodes _, reply => .addNodes (respond reply fun added =>
      { statusCode := .ofCode added.1, addedNodeId := added.2 })
  | deleteNodes _, reply => .deleteNodes (respond reply Status.ofCode)
  | addReferences _, reply => .addReferences (respond reply Status.ofCode)
  | deleteReferences _, reply => .deleteReferences (respond reply Status.ofCode)

variable {codecs context} {limits : OperationLimits}

/-- An operation that travels is one question of the handler. -/
theorem handle_request {operation : ClientOperation} (h : operation.Travels codecs limits) :
    (codecs.handler context limits).handle (operation.request codecs) =
      Services.ask (operation.callback context) >>= fun reply =>
        pure (operation.response codecs context reply) := by
  cases operation with
  | read inputs =>
      have hinputs : (inputs.map wireReadValueId).map managedReadValueId = inputs :=
        map_managed fun input hmem => managed_wireReadValueId (h.2 input hmem)
      have hboth : ¬((0 : Double) < 0 ∨ kTimestampsNeither < timestampsBoth) := by decide
      refine (withinLimit_eq h.1 (by simp) _ _).trans ((if_neg hboth).trans ?_)
      rw [hinputs]
      rfl
  | write inputs =>
      have hinputs : (inputs.map wireWriteValue).map managedWriteValue =
          inputs.map WriteValue.sent := by
        rw [List.map_map]
        exact List.map_congr_left fun input hmem => managed_wireWriteValue (h.2 input hmem)
      refine (withinLimit_eq h.1 (by simp) _ _).trans ?_
      rw [hinputs]
      rfl
  | browse inputs =>
      have hinputs : (inputs.map wireDescription).map managedDescription = inputs :=
        map_managed fun input _ => managed_wireDescription input
      have hview : ¬¬(({} : NodeId).isNull = true) := by decide
      refine (withinLimit_eq h (by simp) _ _).trans ((if_neg hview).trans ?_)
      rw [hinputs]
      rfl
  | translateBrowsePaths inputs =>
      have hinputs : (inputs.map wirePath).map managedPath = inputs :=
        map_managed fun input _ => managed_wirePath input
      refine (withinLimit_eq h (by simp) _ _).trans ?_
      rw [hinputs]
      rfl
  | call objectId methodId arguments =>
      have hone : Within limits.maxNodesPerMethodCall [objectId] := by
        constructor
        · exact List.cons_ne_nil _ _
        · exact Nat.one_le_iff_ne_zero.mpr fun hzero => h (UInt32.toNat_inj.mp hzero)
      exact withinLimit_eq hone rfl _ _
  | historyReadRaw details =>
      have hbounded : ¬ServiceHandler.isUnbounded details.sent = true := by
        rw [isUnbounded_sent, h.2]
        exact Bool.false_ne_true
      exact (ServiceHandler.handleHistoryRead_of_toManaged
        (HistoryReadCodec.toManaged_toWireRawRequest h.1)).trans (if_neg hbounded)
  | historyReadEvents details =>
      exact ServiceHandler.handleHistoryRead_of_toManaged
        (HistoryReadCodec.toManaged_toWireEventsRequest h.1 h.2)
  | historyUpdateData details =>
      have hdecoded : (codecs.handler context limits).historyUpdates.toManaged
          (codecs.historyUpdates.toWire codecs.base64 (.data details)) =
          some (.data details) :=
        toManaged_data h
      exact ServiceHandler.handleHistoryUpdate_of_toManaged hdecoded
  | historyUpdateEvent details =>
      exact ServiceHandler.handleHistoryUpdate_of_toManaged
        (HistoryUpdateCodec.toManaged_events h.2 h.1)
  | addNodes inputs =>
      have hitems : (inputs.map (wireAddNode codecs.attributes)).mapM
          (codecs.handler context limits).attributes.toManaged = .ok inputs :=
        mapM_managed_wireAddNode h.2
      refine (withinLimit_eq h.1 (by simp) _ _).trans ?_
      rw [hitems]
      rfl
  | deleteNodes inputs =>
      exact withinLimit_eq h rfl _ _
  | addReferences inputs =>
      have hinputs : (inputs.map wireAddReference).map managedAddReference = inputs :=
        map_managed fun input _ => managed_wireAddReference input
      refine (withinLimit_eq h (by simp) _ _).trans ?_
      rw [hinputs]
      rfl
  | deleteReferences inputs =>
      have hinputs : (inputs.map wireDeleteReference).map managedDeleteReference = inputs :=
        map_managed fun input _ => managed_wireDeleteReference input
      refine (withinLimit_eq h (by simp) _ _).trans ?_
      rw [hinputs]
      rfl

/-- What the client makes of the response is what the application replied. -/
theorem perform_response {operation : ClientOperation}
    {reply : (operation.callback context).Reply}
    (h : operation.Returns codecs context reply) :
    (operation.perform codecs).run
        (steady (delivering (operation.response codecs context reply).body)) =
      some (operation.outcome context reply) := by
  cases operation with
  | read inputs =>
      exact run_results rfl (fun _ => nofun) fun _ _ value _ => timestamps_both value
  | write inputs =>
      exact run_results rfl (fun _ => nofun) fun codes hcodes code hmem =>
        (StatusCode.onWire_eq_iff code).mpr (h codes hcodes code hmem)
  | browse inputs =>
      exact run_results rfl (fun _ => nofun) fun results hresults result hmem =>
        managed_wireBrowseResult (h results hresults result hmem)
  | translateBrowsePaths inputs =>
      exact run_results rfl (fun _ => nofun) fun results hresults result hmem =>
        managed_wirePathResult (h results hresults result hmem)
  | call objectId methodId arguments =>
      exact run_call reply
  | historyReadRaw details =>
      change (ClientProtocolSession.historyReadRaw _).run
        (steady (delivering (.historyRead (codecs.historyReads.toWireRawResponse reply)))) = _
      have hpick : ClientProtocolSession.pickHistoryRead
          (.historyRead (codecs.historyReads.toWireRawResponse reply)) = some _ := rfl
      rw [ClientProtocolSession.historyReadRaw, run_onValue hpick fun _ => nofun,
        HistoryReadCodec.toManagedRawResult_toWireRawResponse h]
      rfl
  | historyReadEvents details =>
      change (Services.historyReadEvents _).run (steady (delivering (.historyRead
        (codecs.historyReads.toWireEventsResponse codecs.base64 reply
          defaultEventFieldPaths)))) = _
      have hpick : ClientProtocolSession.pickHistoryRead (.historyRead
          (codecs.historyReads.toWireEventsResponse codecs.base64 reply
            defaultEventFieldPaths)) = some _ := rfl
      rw [Services.historyReadEvents, run_onValue hpick fun _ => nofun,
        HistoryReadCodec.toManagedEvents_toWireEventsResponse h]
      rfl
  | historyUpdateData details | historyUpdateEvent details =>
      exact run_historyUpdate h
  | addNodes inputs =>
      refine run_results rfl (fun _ => nofun) fun results hresults result hmem => ?_
      exact Prod.ext ((StatusCode.onWire_eq_iff _).mpr (h results hresults result hmem)) rfl
  | deleteNodes inputs | addReferences inputs | deleteReferences inputs =>
      exact run_results rfl (fun _ => nofun) fun codes hcodes code hmem =>
        (StatusCode.onWire_eq_iff code).mpr (h codes hcodes code hmem)

end ClientOperation

/-- The application is asked for what the client was asked for, and for nothing else, and
the client returns what the application replied. -/
theorem operation_travels {codecs : ServiceCodecs} {context : ServiceContext}
    {limits : OperationLimits} {operation : ClientOperation}
    (h : operation.Travels codecs limits)
    (application : (callback : Callback) → callback.Reply)
    (hreply : operation.Returns codecs context (application (operation.callback context))) :
    ∃ response,
      ((codecs.handler context limits).handle (operation.request codecs)).transcript
          (steady application) =
        [⟨operation.callback context, application (operation.callback context)⟩] ∧
      ((codecs.handler context limits).handle (operation.request codecs)).run
          (steady application) = some response ∧
      (operation.perform codecs).run (steady (delivering response.body)) =
        some (operation.outcome context (application (operation.callback context))) := by
  have hhandle : (codecs.handler context limits).handle (operation.request codecs) =
      Services.ask (operation.callback context) >>= fun reply =>
        pure (operation.response codecs context reply) :=
    ClientOperation.handle_request h
  refine ⟨operation.response codecs context (application (operation.callback context)),
    ?_, ?_, ClientOperation.perform_response hreply⟩
  · rw [hhandle]
    rfl
  · rw [hhandle]
    rfl

/-! ## An update with one event -/

def unreadBody (T : Type) : BodyCodec T where
  encode := fun _ => []
  decode := fun _ => none
  decodeJson := fun _ => none

/-- Codecs which know updates of events alone. -/
def sampleCodecs : ServiceCodecs where
  attributes :=
    { encode := fun _ _ => []
      decode := fun _ _ => none
      decodeJson := fun _ _ => .error .badVariantAccess }
  historyReads :=
    { raw := unreadBody _
      processed := unreadBody _
      events := unreadBody _
      data := unreadBody _
      event := unreadBody _
      operands := { literal := unreadBody _, simpleAttribute := unreadBody _ } }
  historyUpdates := sampleUpdateCodec

/-- An application for which every code is good, and which has nothing to tell. -/
def sampleApplication : (callback : Callback) → callback.Reply
  | .read _ _ => StatusOr.ok []
  | .write _ inputs => StatusOr.ok (inputs.map fun _ => .good)
  | .browse _ _ => StatusOr.ok []
  | .translateBrowsePaths _ => StatusOr.ok []
  | .call _ _ _ _ => StatusOr.ok []
  | .historyReadRaw _ => StatusOr.ok {}
  | .historyReadEvents _ _ _ _ => StatusOr.ok []
  | .historyUpdate _ details => StatusOr.ok (details.values.map fun _ => .good)
  | .historyUpdateEvent _ details => StatusOr.ok (details.events.map fun _ => .good)
  | .addNodes _ _ => StatusOr.ok []
  | .deleteNodes _ items => StatusOr.ok (items.map fun _ => .good)
  | .addReferences _ items => StatusOr.ok (items.map fun _ => .good)
  | .deleteReferences _ items => StatusOr.ok (items.map fun _ => .good)

theorem good_fits : StatusCode.good.Fits := Nat.two_pow_pos 16

/-- An inserted event reaches the application, and the code for it the client. -/
theorem sampleUpdate_travels :
    ∃ response,
      ((sampleCodecs.handler {} {}).handle
          ((ClientOperation.historyUpdateEvent sampleEventUpdate).request
            sampleCodecs)).transcript (steady sampleApplication) =
        [⟨.historyUpdateEvent {} sampleEventUpdate, StatusOr.ok [.good]⟩] ∧
      ((sampleCodecs.handler {} {}).handle
          ((ClientOperation.historyUpdateEvent sampleEventUpdate).request
            sampleCodecs)).run (steady sampleApplication) = some response ∧
      ((ClientOperation.historyUpdateEvent sampleEventUpdate).perform sampleCodecs).run
          (steady (delivering response.body)) =
        some (StatusOr.ok [StatusCode.good]) := by
  apply operation_travels
  case h =>
    constructor
    · exact sampleEventUpdate_roundTrips
    · exact List.forall_mem_singleton.mpr sampleEvent_carried
  case hreply =>
    intro codes hcodes
    cases hcodes
    exact List.forall_mem_singleton.mpr good_fits

end OpcuaStack.Services
