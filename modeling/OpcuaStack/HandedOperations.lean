import OpcuaStack.ServiceHandler

/-!
# What an application gets of a request

A request is a list of operations.  The application gets all of them, once and in their
order, or none; a request of which it got none was refused, and the response to any other
has a result for each operation if the application gave one.
-/

namespace OpcuaStack.Services

/-- One operation, as the application knows it. -/
inductive Operation where
  | read (input : ReadValueId)
  | write (input : WriteValue)
  | browse (input : BrowseDescription)
  | translateBrowsePath (input : BrowsePath)
  | call (objectId methodId : NodeId) (inputArguments : List Variant)
  | historyReadRaw (details : HistoryReadRawDetails)
  | historyReadEvents (nodeId : NodeId) (fromTime toTime : DateTime) (filter : EventFilter)
  | historyUpdate (details : HistoryUpdateDetails)
  | addNode (item : ManagedAddNodesItem)
  | deleteNode (item : DeleteNodesItem)
  | addReference (item : AddReferencesItem)
  | deleteReference (item : DeleteReferencesItem)

namespace Callback

def operations : Callback → List Operation
  | read _ inputs => inputs.map .read
  | write _ inputs => inputs.map .write
  | browse _ inputs => inputs.map .browse
  | translateBrowsePaths inputs => inputs.map .translateBrowsePath
  | call objectId methodId inputArguments _ => [.call objectId methodId inputArguments]
  | historyReadRaw details => [.historyReadRaw details]
  | historyReadEvents nodeId fromTime toTime filter =>
      [.historyReadEvents nodeId fromTime toTime filter]
  | historyUpdate _ details => [.historyUpdate (.data details)]
  | historyUpdateEvent _ details => [.historyUpdate (.events details)]
  | addNodes _ items => items.map .addNode
  | deleteNodes _ items => items.map .deleteNode
  | addReferences _ items => items.map .addReference
  | deleteReferences _ items => items.map .deleteReference

def context : Callback → Option ServiceContext
  | read context _ | write context _ | browse context _ | call _ _ _ context
  | historyUpdate context _ | historyUpdateEvent context _ | addNodes context _
  | deleteNodes context _ | addReferences context _ | deleteReferences context _ =>
      some context
  | translateBrowsePaths _ | historyReadRaw _ | historyReadEvents _ _ _ _ => none

/-- A list of answers has one for each operation. -/
def AnswersEach : (callback : Callback) → callback.Reply → Prop
  | read _ inputs, reply => ∀ values, reply = .ok values → values.length = inputs.length
  | write _ inputs, reply => ∀ values, reply = .ok values → values.length = inputs.length
  | browse _ inputs, reply => ∀ values, reply = .ok values → values.length = inputs.length
  | translateBrowsePaths inputs, reply =>
      ∀ values, reply = .ok values → values.length = inputs.length
  | addNodes _ items, reply => ∀ values, reply = .ok values → values.length = items.length
  | deleteNodes _ items, reply => ∀ values, reply = .ok values → values.length = items.length
  | addReferences _ items, reply =>
      ∀ values, reply = .ok values → values.length = items.length
  | deleteReferences _ items, reply =>
      ∀ values, reply = .ok values → values.length = items.length
  | _, _ => True

end Callback

namespace ServiceResponse

def serviceResult : ServiceResponse → Status
  | read response => response.serviceResult
  | write response => response.serviceResult
  | browse response => response.serviceResult
  | browseNext response => response.serviceResult
  | translateBrowsePaths response => response.serviceResult
  | call response => response.serviceResult
  | historyRead response => response.serviceResult
  | historyUpdate response => response.serviceResult
  | addNodes response => response.serviceResult
  | deleteNodes response => response.serviceResult
  | addReferences response => response.serviceResult
  | deleteReferences response => response.serviceResult

def count : ServiceResponse → ℕ
  | read response => response.results.length
  | write response => response.results.length
  | browse response => response.results.length
  | browseNext response => response.results.length
  | translateBrowsePaths response => response.results.length
  | call response => response.results.length
  | historyRead response => response.results.length
  | historyUpdate response => response.results.length
  | addNodes response => response.results.length
  | deleteNodes response => response.results.length
  | addReferences response => response.results.length
  | deleteReferences response => response.results.length

/-- A bad service result without results, or one bad result of a read of history. -/
def Refuses (response : ServiceResponse) : Prop :=
  response.serviceResult.isBad = true ∧ response.count = 0 ∨
    ∃ result : HistoryReadResult, result.statusCode.isBad = true ∧
      response = .historyRead { results := [result] }

end ServiceResponse

namespace ServiceHandler

variable (handler : ServiceHandler)

def historyOperation (decoded : DecodedHistoryRead) : Operation :=
  match decoded.details with
  | .raw details => .historyReadRaw details
  | .events details =>
      .historyReadEvents details.nodeId details.fromTime details.toTime details.filter

/-- The operations of a request, unless decoding them throws. -/
def operations : ServiceRequest → Except Json.Thrown (List Operation)
  | .read request => .ok (request.nodesToRead.map fun value => .read (managedReadValueId value))
  | .write request =>
      .ok (request.nodesToWrite.map fun value => .write (managedWriteValue value))
  | .browse request =>
      .ok (request.nodesToBrowse.map fun description =>
        .browse (managedDescription description))
  | .browseNext _ => .ok []
  | .translateBrowsePaths request =>
      .ok (request.browsePaths.map fun path => .translateBrowsePath (managedPath path))
  | .call request =>
      .ok (request.methodsToCall.map fun method =>
        .call method.objectId method.methodId method.inputArguments)
  | .historyRead request => do
      let decoded ← handler.historyReads.toManaged request
      return (decoded.map historyOperation).toList
  | .historyUpdate request =>
      .ok ((handler.historyUpdates.toManaged request).map .historyUpdate).toList
  | .addNodes request => do
      let items ← request.nodesToAdd.mapM handler.attributes.toManaged
      return items.map .addNode
  | .deleteNodes request => .ok (request.nodesToDelete.map .deleteNode)
  | .addReferences request =>
      .ok (request.referencesToAdd.map fun item => .addReference (managedAddReference item))
  | .deleteReferences request =>
      .ok (request.referencesToDelete.map fun item =>
        .deleteReference (managedDeleteReference item))

/-- How many operations of a request an application may get. -/
def limit : ServiceRequest → ℕ
  | .read _ => handler.operationLimits.maxNodesPerRead.toNat
  | .write _ => handler.operationLimits.maxNodesPerWrite.toNat
  | .browse _ => handler.operationLimits.maxNodesPerBrowse.toNat
  | .browseNext _ => 0
  | .translateBrowsePaths _ =>
      handler.operationLimits.maxNodesPerTranslateBrowsePathsToNodeIds.toNat
  | .call _ => handler.operationLimits.maxNodesPerMethodCall.toNat
  | .historyRead _ | .historyUpdate _ => 1
  | .addNodes _ | .deleteNodes _ | .addReferences _ | .deleteReferences _ =>
      handler.operationLimits.maxNodesPerNodeManagement.toNat

/-- What was asked of an application, and what it replied. -/
abbrev Exchanges := List ((callback : Callback) × callback.Reply)

def handed (exchanges : Exchanges) : List Operation :=
  exchanges.flatMap fun exchange => exchange.1.operations

/-- A request has been dealt with: `response` is missing if something was thrown. -/
structure DealtWith (request : ServiceRequest) (exchanges : Exchanges)
    (response : Option ServiceResponse) : Prop where
  all : handed exchanges = [] ∨ handler.operations request = .ok (handed exchanges)
  bounded : (handed exchanges).length ≤ handler.limit request
  context : ∀ exchange ∈ exchanges, ∀ context, exchange.1.context = some context →
    context = handler.serviceContext
  index : ∀ answer ∈ response, answer.index = request.index
  refused : exchanges = [] → ∀ answer ∈ response, answer.Refuses
  complete : exchanges ≠ [] → (∀ exchange ∈ exchanges, exchange.1.AnswersEach exchange.2) →
    ∀ answer ∈ response, answer.serviceResult.isBad = false →
      answer.count = (handed exchanges).length

variable {handler} {request : ServiceRequest}

/-! ## Nothing is handed over -/

theorem ends_refused {response : ServiceResponse} (hindex : response.index = request.index)
    (h : response.Refuses) :
    (pure response : HandlerDialogue ServiceResponse).Ends (handler.DealtWith request) := by
  apply Dialogue.ends_pure
  constructor
  case all => exact .inl rfl
  case bounded => simp [handed]
  case context => simp
  case index => simpa using hindex
  case refused => simpa using h
  case complete => simp

theorem refuses {response : ServiceResponse} {status : Status}
    (hstatus : response.serviceResult = status) (hbad : status.isBad = true)
    (hcount : response.count = 0) : response.Refuses :=
  .inl ⟨by rwa [hstatus], hcount⟩

theorem ends_thrown : (Dialogue.aborted : HandlerDialogue ServiceResponse).Ends
    (handler.DealtWith request) := by
  constructor <;> simp [handed]

theorem isBad_of_validate {count : ℕ} {limit : UInt32} {status : Status}
    (h : validateOperationCount count limit = some status) : status.isBad = true := by
  unfold validateOperationCount at h
  split at h
  · cases h
    rfl
  · split at h
    · cases h
      rfl
    · cases h

theorem le_of_validate {count : ℕ} {limit : UInt32}
    (h : validateOperationCount count limit = none) : count ≤ limit.toNat ∧ count ≠ 0 := by
  unfold validateOperationCount at h
  split at h
  · cases h
  · split at h
    · cases h
    · omega

theorem ends_withinLimit {ρ : Type} {count : ℕ} {limit : UInt32}
    {make : WireResponse ρ → ServiceResponse} {run : HandlerDialogue ServiceResponse}
    (hindex : ∀ response, (make response).index = request.index)
    (hrefuses : ∀ status : Status, status.isBad = true →
      (make { serviceResult := status }).Refuses)
    (hrun : count ≤ limit.toNat → count ≠ 0 → run.Ends (handler.DealtWith request)) :
    (withinLimit count limit make run).Ends (handler.DealtWith request) := by
  rw [withinLimit]
  cases hcount : validateOperationCount count limit with
  | some status => exact ends_refused (hindex _) (hrefuses _ (isBad_of_validate hcount))
  | none => exact hrun (le_of_validate hcount).1 (le_of_validate hcount).2

/-! ## One callback -/

theorem ends_asked {callback : Callback} {respondWith : callback.Reply → ServiceResponse}
    (hall : handler.operations request = .ok callback.operations)
    (hbounded : callback.operations.length ≤ handler.limit request)
    (hcontext : ∀ context, callback.context = some context →
      context = handler.serviceContext)
    (hindex : ∀ reply, (respondWith reply).index = request.index)
    (hcomplete : ∀ reply, callback.AnswersEach reply →
      (respondWith reply).serviceResult.isBad = false →
        (respondWith reply).count = callback.operations.length) :
    (ask callback >>= fun reply => pure (respondWith reply)).Ends
      (handler.DealtWith request) := by
  apply Dialogue.ends_question
  intro reply
  apply Dialogue.ends_pure
  have hhanded : handed [⟨callback, reply⟩] = callback.operations := by simp [handed]
  constructor
  case all => exact .inr (hhanded ▸ hall)
  case bounded => rwa [hhanded]
  case context => simpa using hcontext
  case index => simpa using hindex reply
  case refused => simp
  case complete =>
    intro _ hanswers answer hanswer hgood
    obtain rfl := Option.mem_some.mp hanswer
    rw [hhanded]
    exact hcomplete reply (hanswers _ (List.mem_singleton_self _)) hgood

theorem length_respond {α ρ : Type} {result : StatusOr (List α)} {convert : α → ρ} {count : ℕ}
    (h : ∀ values, result = .ok values → values.length = count)
    (hgood : (respond result convert).serviceResult.isBad = false) :
    (respond result convert).results.length = count := by
  cases result with
  | ok values => simpa [respond, StatusOr.valueOr] using h values rfl
  | error status hbad =>
      simp only [respond, StatusOr.status, hbad] at hgood
      cases hgood

/-! ## The services -/

variable (handler)

theorem ends_handleRead (request : ReadRequest) :
    (handler.handleRead request).Ends (handler.DealtWith (.read request)) := by
  rw [handleRead]
  refine ends_withinLimit (fun _ => rfl) (fun _ hbad => refuses rfl hbad rfl) ?_
  intro hcount _
  split
  · exact ends_refused rfl (.inl ⟨rfl, rfl⟩)
  · apply ends_asked
    case hall => simp [operations, Callback.operations, Function.comp_def]
    case hbounded => simpa [Callback.operations, limit] using hcount
    case hcontext => simp [Callback.context, eq_comm]
    case hindex => exact fun _ => rfl
    case hcomplete =>
      intro reply hreply hgood
      simpa [Callback.operations, ServiceResponse.count] using length_respond hreply hgood

theorem ends_handleWrite (request : WriteRequest) :
    (handler.handleWrite request).Ends (handler.DealtWith (.write request)) := by
  rw [handleWrite]
  refine ends_withinLimit (fun _ => rfl) (fun _ hbad => refuses rfl hbad rfl) ?_
  intro hcount _
  apply ends_asked
  case hall => simp [operations, Callback.operations, Function.comp_def]
  case hbounded => simpa [Callback.operations, limit] using hcount
  case hcontext => simp [Callback.context, eq_comm]
  case hindex => exact fun _ => rfl
  case hcomplete =>
    intro reply hreply hgood
    simpa [Callback.operations, ServiceResponse.count] using length_respond hreply hgood

theorem ends_handleBrowse (request : BrowseRequest) :
    (handler.handleBrowse request).Ends (handler.DealtWith (.browse request)) := by
  rw [handleBrowse]
  refine ends_withinLimit (fun _ => rfl) (fun _ hbad => refuses rfl hbad rfl) ?_
  intro hcount _
  split
  · exact ends_refused rfl (.inl ⟨rfl, rfl⟩)
  · apply ends_asked
    case hall => simp [operations, Callback.operations, Function.comp_def]
    case hbounded => simpa [Callback.operations, limit] using hcount
    case hcontext => simp [Callback.context, eq_comm]
    case hindex => exact fun _ => rfl
    case hcomplete =>
      intro reply hreply hgood
      simpa [Callback.operations, ServiceResponse.count] using length_respond hreply hgood

theorem ends_handleTranslateBrowsePaths (request : TranslateBrowsePathsRequest) :
    (handler.handleTranslateBrowsePaths request).Ends
      (handler.DealtWith (.translateBrowsePaths request)) := by
  rw [handleTranslateBrowsePaths]
  refine ends_withinLimit (fun _ => rfl) (fun _ hbad => refuses rfl hbad rfl) ?_
  intro hcount _
  apply ends_asked
  case hall => simp [operations, Callback.operations, Function.comp_def]
  case hbounded => simpa [Callback.operations, limit] using hcount
  case hcontext => simp [Callback.context]
  case hindex => exact fun _ => rfl
  case hcomplete =>
    intro reply hreply hgood
    simpa [Callback.operations, ServiceResponse.count] using length_respond hreply hgood

theorem ends_callMethods (methods : List CallMethodRequest) :
    (handler.callMethods methods).Ends fun exchanges results =>
      handed exchanges = methods.map (fun method =>
          .call method.objectId method.methodId method.inputArguments) ∧
        (∀ exchange ∈ exchanges, ∀ context, exchange.1.context = some context →
          context = handler.serviceContext) ∧
        (exchanges = [] → methods = []) ∧
        ∃ found, results = some found ∧ found.length = methods.length := by
  induction methods with
  | nil => exact ⟨rfl, by simp, fun _ => rfl, [], rfl, rfl⟩
  | cons method methods ih =>
      apply Dialogue.ends_question
      intro reply
      apply Dialogue.Ends.bind
      apply ih.imp
      rintro exchanges _ ⟨hhanded, hcontext, -, found, rfl, hlength⟩
      rw [Option.elim_some]
      apply Dialogue.ends_pure
      constructor
      · simpa [handed, Callback.operations] using hhanded
      constructor
      · simpa [Callback.context, eq_comm] using hcontext
      constructor
      · simp
      · exact ⟨_, rfl, by simp [hlength]⟩

theorem ends_handleCall (request : CallRequest) :
    (handler.handleCall request).Ends (handler.DealtWith (.call request)) := by
  rw [handleCall]
  refine ends_withinLimit (fun _ => rfl) (fun _ hbad => refuses rfl hbad rfl) ?_
  intro hcount hsome
  apply Dialogue.Ends.bind
  apply (ends_callMethods handler request.methodsToCall).imp
  rintro exchanges _ ⟨hhanded, hcontext, hasked, found, rfl, hlength⟩
  rw [Option.elim_some]
  apply Dialogue.ends_pure
  simp only [List.append_nil]
  have hcounted : (handed exchanges).length = request.methodsToCall.length := by
    rw [hhanded, List.length_map]
  constructor
  case all => exact .inr (hhanded ▸ rfl)
  case bounded => rwa [hcounted]
  case context => exact hcontext
  case index => simp [ServiceResponse.index, ServiceRequest.index]
  case refused =>
    intro hnone
    exact absurd (List.length_eq_zero_iff.mpr (hasked hnone)) hsome
  case complete =>
    intro _ _ answer hanswer _
    obtain rfl := Option.mem_some.mp hanswer
    rw [hcounted]
    exact hlength

theorem ends_readHistory {request : HistoryReadRequest} {decoded : DecodedHistoryRead}
    (h : handler.historyReads.toManaged request = .ok (some decoded)) :
    (handler.readHistory decoded).Ends (handler.DealtWith (.historyRead request)) := by
  have hall : handler.operations (.historyRead request) =
      .ok [historyOperation decoded] := by
    simp [operations, h, bind, Except.bind, pure, Except.pure]
  rw [readHistory]
  cases hdetails : decoded.details with
  | raw details =>
      have hoperation : historyOperation decoded = .historyReadRaw details := by
        rw [historyOperation, hdetails]
      simp only
      split
      · exact ends_refused rfl (.inr ⟨{ statusCode := .ofCode .badHistoryOperationInvalid },
          Status.isBad_badHistoryOperationInvalid, rfl⟩)
      · apply ends_asked
        case hall => rw [hall, hoperation, Callback.operations]
        case hbounded => simp [Callback.operations, limit]
        case hcontext => simp [Callback.context]
        case hindex => exact fun _ => rfl
        case hcomplete => exact fun _ _ _ => rfl
  | events details =>
      have hoperation : historyOperation decoded =
          .historyReadEvents details.nodeId details.fromTime details.toTime
            details.filter := by
        rw [historyOperation, hdetails]
      apply ends_asked
      case hall => rw [hall, hoperation, Callback.operations]
      case hbounded => simp [Callback.operations, limit]
      case hcontext => simp [Callback.context]
      case hindex => exact fun _ => rfl
      case hcomplete => exact fun _ _ _ => rfl

theorem ends_handleHistoryRead (request : HistoryReadRequest) :
    (handler.handleHistoryRead request).Ends (handler.DealtWith (.historyRead request)) := by
  rw [handleHistoryRead]
  cases hdecoded : handler.historyReads.toManaged request with
  | error thrown => exact ends_thrown
  | ok decoded =>
      cases decoded with
      | none => exact ends_refused rfl (.inl ⟨rfl, rfl⟩)
      | some decoded => exact ends_readHistory handler hdecoded

theorem ends_handleHistoryUpdate (request : HistoryUpdateRequest) :
    (handler.handleHistoryUpdate request).Ends
      (handler.DealtWith (.historyUpdate request)) := by
  rw [handleHistoryUpdate]
  cases hdecoded : handler.historyUpdates.toManaged request with
  | none => exact ends_refused rfl (.inl ⟨rfl, rfl⟩)
  | some details =>
      cases details with
      | data details | events details =>
          apply ends_asked
          case hall => simp [operations, hdecoded, Callback.operations]
          case hbounded => simp [Callback.operations, limit]
          case hcontext => simp [Callback.context, eq_comm]
          case hindex => exact fun _ => rfl
          case hcomplete => exact fun _ _ _ => rfl

theorem ends_handleAddNodes (request : AddNodesRequest) :
    (handler.handleAddNodes request).Ends (handler.DealtWith (.addNodes request)) := by
  rw [handleAddNodes]
  refine ends_withinLimit (fun _ => rfl) (fun _ hbad => refuses rfl hbad rfl) ?_
  intro hcount _
  cases hitems : request.nodesToAdd.mapM handler.attributes.toManaged with
  | error thrown => exact ends_thrown
  | ok items =>
      have hlength : request.nodesToAdd.length = items.length :=
        List.Forall₂.length_eq (R := fun _ _ => True)
          (Json.forall₂_of_mapM hitems fun _ _ _ _ => trivial)
      apply ends_asked
      case hall =>
        simp [operations, hitems, Callback.operations, bind, Except.bind, pure, Except.pure]
      case hbounded =>
        simpa [Callback.operations, limit, hlength] using hcount
      case hcontext => simp [Callback.context, eq_comm]
      case hindex => exact fun _ => rfl
      case hcomplete =>
        intro reply hreply hgood
        simpa [Callback.operations, ServiceResponse.count] using length_respond hreply hgood

theorem ends_handleDeleteNodes (request : DeleteNodesRequest) :
    (handler.handleDeleteNodes request).Ends (handler.DealtWith (.deleteNodes request)) := by
  rw [handleDeleteNodes]
  refine ends_withinLimit (fun _ => rfl) (fun _ hbad => refuses rfl hbad rfl) ?_
  intro hcount _
  apply ends_asked
  case hall => rfl
  case hbounded => simpa [Callback.operations, limit] using hcount
  case hcontext => simp [Callback.context, eq_comm]
  case hindex => exact fun _ => rfl
  case hcomplete =>
    intro reply hreply hgood
    simpa [Callback.operations, ServiceResponse.count] using length_respond hreply hgood

theorem ends_handleAddReferences (request : AddReferencesRequest) :
    (handler.handleAddReferences request).Ends
      (handler.DealtWith (.addReferences request)) := by
  rw [handleAddReferences]
  refine ends_withinLimit (fun _ => rfl) (fun _ hbad => refuses rfl hbad rfl) ?_
  intro hcount _
  apply ends_asked
  case hall => simp [operations, Callback.operations, Function.comp_def]
  case hbounded => simpa [Callback.operations, limit] using hcount
  case hcontext => simp [Callback.context, eq_comm]
  case hindex => exact fun _ => rfl
  case hcomplete =>
    intro reply hreply hgood
    simpa [Callback.operations, ServiceResponse.count] using length_respond hreply hgood

theorem ends_handleDeleteReferences (request : DeleteReferencesRequest) :
    (handler.handleDeleteReferences request).Ends
      (handler.DealtWith (.deleteReferences request)) := by
  rw [handleDeleteReferences]
  refine ends_withinLimit (fun _ => rfl) (fun _ hbad => refuses rfl hbad rfl) ?_
  intro hcount _
  apply ends_asked
  case hall => simp [operations, Callback.operations, Function.comp_def]
  case hbounded => simpa [Callback.operations, limit] using hcount
  case hcontext => simp [Callback.context, eq_comm]
  case hindex => exact fun _ => rfl
  case hcomplete =>
    intro reply hreply hgood
    simpa [Callback.operations, ServiceResponse.count] using length_respond hreply hgood

theorem ends_handle (request : ServiceRequest) :
    (handler.handle request).Ends (handler.DealtWith request) := by
  cases request with
  | read request => exact handler.ends_handleRead request
  | write request => exact handler.ends_handleWrite request
  | browse request => exact handler.ends_handleBrowse request
  | browseNext request => exact ends_refused rfl (.inl ⟨rfl, rfl⟩)
  | translateBrowsePaths request => exact handler.ends_handleTranslateBrowsePaths request
  | call request => exact handler.ends_handleCall request
  | historyRead request => exact handler.ends_handleHistoryRead request
  | historyUpdate request => exact handler.ends_handleHistoryUpdate request
  | addNodes request => exact handler.ends_handleAddNodes request
  | deleteNodes request => exact handler.ends_handleDeleteNodes request
  | addReferences request => exact handler.ends_handleAddReferences request
  | deleteReferences request => exact handler.ends_handleDeleteReferences request

/-- An application gets all the operations of a request in their order, or none, however it
replies; of none it hears, the request was refused, and it gets no more than the limit. -/
theorem handle_dealtWith (request : ServiceRequest)
    (replies : Dialogue.Replies Callback Callback.Reply) :
    handler.DealtWith request ((handler.handle request).transcript replies)
      ((handler.handle request).run replies) :=
  (handler.ends_handle request).holds replies

end ServiceHandler

end OpcuaStack.Services
