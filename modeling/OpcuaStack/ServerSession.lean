import OpcuaStack.ServerSubscription
import OpcuaStack.SessionMessages

/-!
# The server session

`session/server_session.cpp`.  A session owns subscriptions, the round-robin
order in which they publish, and the continuation points of paged browses.
Sessions are shared objects; `address` is the identity which a raw pointer to
one of them keeps.
-/

namespace OpcuaStack

structure ServerSession where
  address : ℕ
  sessionId : NodeId
  serviceContext : ServiceContext
  operationLimits : OperationLimits
  subscriptions : KeyedMap SubscriptionId ServerSubscription := ∅
  browseContinuations : KeyedMap ByteString (List ReferenceDescription) := ∅
  publishOrder : List SubscriptionId := []
  nextSubscriptionId : SubscriptionId := 1
  nextPublishIndex : ℕ := 0
  nextBrowseContinuationId : UInt32 := 1

inductive PublishPollResult where
  | response (response : PublishResponse)
  | waitFor (duration : Duration)

namespace ServerSession

def hasSubscription (session : ServerSession) (id : SubscriptionId) : Bool :=
  (session.subscriptions.lookup id).isSome

/-- Write a subscription back through the pointer found for its id. -/
def writeSubscription (session : ServerSession) (id : SubscriptionId)
    (subscription : ServerSubscription) : ServerSession :=
  { session with subscriptions := session.subscriptions.insert id subscription }

/-- `CreateSubscriptionWithId`.  `emplace` keeps a subscription which already
has the id. -/
def createSubscriptionWithId (session : ServerSession) (id : SubscriptionId)
    (request : CreateSubscriptionRequest) (traceParent : ByteText)
    (now : DateTime) : ServerSession × CreateSubscriptionResponse :=
  let subscription :=
    ServerSubscription.create id request.parameters now traceParent
  let revised := subscription.parameters
  ({ session with
      nextSubscriptionId := max session.nextSubscriptionId (id + 1)
      subscriptions :=
        if session.hasSubscription id then session.subscriptions
        else session.subscriptions.insert id subscription
      publishOrder := session.publishOrder ++ [id] },
    { status := .good
      subscriptionId := id
      revisedPublishingIntervalMs := revised.publishingIntervalMs
      revisedLifetimeCount := revised.lifetimeCount
      revisedMaxKeepAliveCount := revised.maxKeepAliveCount })

def eraseSubscription (session : ServerSession) (id : SubscriptionId) :
    ServerSession :=
  let session := { session with subscriptions := session.subscriptions.erase id }
  match session.publishOrder.findIdx? (· == id) with
  | none => session
  | some index =>
      let publishOrder := session.publishOrder.eraseIdx index
      if publishOrder.isEmpty then
        { session with publishOrder := publishOrder, nextPublishIndex := 0 }
      else
        let next :=
          if index < session.nextPublishIndex then session.nextPublishIndex - 1
          else session.nextPublishIndex
        { session with
          publishOrder := publishOrder
          nextPublishIndex := if publishOrder.length ≤ next then 0 else next }

def deleteSubscription (session : ServerSession) (id : SubscriptionId) :
    ServerSession × Status :=
  if session.hasSubscription id then (session.eraseSubscription id, .good)
  else (session, .ofCode .badSubscriptionIdInvalid)

def deleteSubscriptions (session : ServerSession)
    (request : DeleteSubscriptionsRequest) :
    ServerSession × StatusListResponse :=
  let (session, results) :=
    collectResults deleteSubscription session request.subscriptionIds
  (session, { results := results })

/-- One round of the loop of `TransferSubscriptionsFrom`, on the receiving and
the giving session. -/
def transferSubscription (sessions : ServerSession × ServerSession)
    (id : SubscriptionId) : (ServerSession × ServerSession) × TransferResult :=
  let (target, source) := sessions
  if target.hasSubscription id then
    (sessions, { statusCode := .ofCode .bad })
  else
    match source.subscriptions.lookup id with
    | none => (sessions, { statusCode := .ofCode .badSubscriptionIdInvalid })
    | some subscription =>
        (({ target with
            subscriptions := target.subscriptions.insert id subscription
            publishOrder := target.publishOrder ++ [id] },
          source.eraseSubscription id), { statusCode := .good })

def refreshNextSubscriptionId (session : ServerSession) : ServerSession :=
  { session with
    nextSubscriptionId := session.subscriptions.keys.foldl
      (fun next id => max next (id + 1)) session.nextSubscriptionId }

def transferSubscriptionsFrom (target source : ServerSession)
    (ids : List SubscriptionId) :
    (ServerSession × ServerSession) × List TransferResult :=
  let ((target, source), results) :=
    collectResults transferSubscription (target, source) ids
  ((target.refreshNextSubscriptionId, source), results)

/-! ## Services on one subscription -/

/-- `FindSubscription`, then an operation on the subscription found. -/
def onSubscription {ρ : Type} (session : ServerSession) (id : SubscriptionId)
    (missing : ρ) (operation : ServerSubscription → ServerSubscription × ρ) :
    ServerSession × ρ :=
  match session.subscriptions.lookup id with
  | none => (session, missing)
  | some subscription =>
      let (subscription, response) := operation subscription
      (session.writeSubscription id subscription, response)

def modifySubscription (session : ServerSession)
    (request : ModifySubscriptionRequest) :
    ServerSession × ModifySubscriptionResponse :=
  session.onSubscription request.subscriptionId
    { status := .ofCode .badSubscriptionIdInvalid } (·.modify request)

def setPublishingMode (session : ServerSession)
    (request : SetPublishingModeRequest) : ServerSession × StatusListResponse :=
  let (session, results) := collectResults
    (fun session id => session.onSubscription id
      (Status.ofCode .badSubscriptionIdInvalid)
      fun subscription =>
        (subscription.setPublishingEnabled request.publishingEnabled, .good))
    session request.subscriptionIds
  (session, { results := results })

def createMonitoredItems (session : ServerSession)
    (request : CreateMonitoredItemsRequest) (envs : ℕ → BindEnvironment) :
    ServerSession × CreateMonitoredItemsResponse :=
  if session.operationLimits.maxMonitoredItemsPerCall.toNat <
      request.itemsToCreate.length then
    (session, { status := .ofCode .badTooManyMonitoredItems })
  else
    session.onSubscription request.subscriptionId
      { status := .ofCode .badSubscriptionIdInvalid }
      (·.createMonitoredItems request envs)

def modifyMonitoredItems (session : ServerSession)
    (request : ModifyMonitoredItemsRequest) (envs : ℕ → BindEnvironment) :
    ServerSession × ModifyMonitoredItemsResponse :=
  session.onSubscription request.subscriptionId
    { status := .ofCode .badSubscriptionIdInvalid }
    (·.modifyMonitoredItems request envs)

def deleteMonitoredItems (session : ServerSession)
    (request : DeleteMonitoredItemsRequest) :
    ServerSession × StatusListResponse :=
  session.onSubscription request.subscriptionId
    { serviceResult := .ofCode .badSubscriptionIdInvalid }
    (·.deleteMonitoredItems request)

def setMonitoringMode (session : ServerSession)
    (request : SetMonitoringModeRequest) : ServerSession × StatusListResponse :=
  session.onSubscription request.subscriptionId
    { serviceResult := .ofCode .badSubscriptionIdInvalid }
    (·.setMonitoringMode request)

def republish (session : ServerSession) (request : RepublishRequest) :
    RepublishResponse :=
  match session.subscriptions.lookup request.subscriptionId with
  | none => { status := .ofCode .badSubscriptionIdInvalid }
  | some subscription => subscription.republish request.retransmitSequenceNumber

/-! ## Publishing -/

/-- `AcknowledgePublishRequest`.  The source groups the acknowledgements by
subscription; each subscription receives its own in request order, so taking
them one by one gives the same results and the same subscriptions. -/
def acknowledgePublishRequest (session : ServerSession)
    (request : PublishRequest) : ServerSession × List StatusCode :=
  collectResults
    (fun session acknowledgement =>
      session.onSubscription acknowledgement.subscriptionId
        StatusCode.badSubscriptionIdInvalid
        (·.acknowledgeOne acknowledgement.sequenceNumber))
    session request.subscriptionAcknowledgements

def findNextReadySubscription (session : ServerSession) (now : DateTime)
    (requirePending : Bool) : Option ℕ :=
  ((List.range session.publishOrder.length).map fun offset =>
      (session.nextPublishIndex + offset) % session.publishOrder.length).find?
    fun index =>
      (session.publishOrder[index]?.bind session.subscriptions.lookup).any
        fun subscription =>
          (!requirePending || subscription.hasPendingNotifications) &&
            subscription.isPublishReady now

def advancePublishCursorAfter (session : ServerSession) (index : ℕ) :
    ServerSession :=
  if session.publishOrder.isEmpty then { session with nextPublishIndex := 0 }
  else
    { session with
      nextPublishIndex := (index + 1) % session.publishOrder.length }

/-- The earliest deadline and the shortest interval which the waiting branch of
`PollPublish` collects. -/
structure PublishSchedule where
  earliestDeadline : Option DateTime := none
  maxWaitBeforeRecheck : Option Duration := none

def primeSubscription (now : DateTime)
    (state : ServerSession × PublishSchedule) (id : SubscriptionId) :
    ServerSession × PublishSchedule :=
  let (session, schedule) := state
  match session.subscriptions.lookup id with
  | none => state
  | some subscription =>
      let subscription := subscription.primePublishCycle now
      let session := session.writeSubscription id subscription
      match subscription.nextPublishDeadline with
      | none => (session, schedule)
      | some deadline =>
          (session,
            { earliestDeadline :=
                match schedule.earliestDeadline with
                | none => some deadline
                | some earliest =>
                    if deadline.ticks < earliest.ticks then some deadline
                    else some earliest
              maxWaitBeforeRecheck :=
                match schedule.maxWaitBeforeRecheck with
                | none => some subscription.publishingInterval
                | some wait =>
                    if subscription.publishingInterval.milliseconds <
                        wait.milliseconds then
                      some subscription.publishingInterval
                    else some wait })

/-- The branch of `PollPublish` in which no subscription is ready. -/
def pollWait (session : ServerSession) (now : DateTime) :
    ServerSession × PublishPollResult :=
  if session.subscriptions.entries.isEmpty then
    (session, .response { status := .ofCode .badNoSubscription })
  else
    let (session, schedule) :=
      session.publishOrder.foldl (primeSubscription now) (session, {})
    match schedule.earliestDeadline with
    | none => (session, .response { status := .good })
    | some deadline =>
        let wait : Duration := ⟨max 0 (deadline.sub now).milliseconds⟩
        (session, .waitFor
          (match schedule.maxWaitBeforeRecheck with
          | none => wait
          | some recheck => ⟨min wait.milliseconds recheck.milliseconds⟩))

/-- The branch of `PollPublish` in which a subscription is ready. -/
def pollReady (session : ServerSession) (index : ℕ) (now : DateTime) :
    ServerSession × PublishPollResult :=
  match session.publishOrder[index]? with
  | none => (session, .response { status := .ofCode .bad })
  | some id =>
      match session.subscriptions.lookup id with
      | none => (session, .response { status := .ofCode .bad })
      | some subscription =>
          let (subscription, published) := subscription.tryPublish now
          let session := session.writeSubscription id subscription
          match published with
          | none => (session, .response { status := .good })
          | some response =>
              (session.advancePublishCursorAfter index, .response response)

def pollPublish (session : ServerSession) (now : DateTime) :
    ServerSession × PublishPollResult :=
  match (session.findNextReadySubscription now true).or
      (session.findNextReadySubscription now false) with
  | none => session.pollWait now
  | some index => session.pollReady index now

/-! ## Browsing -/

/-- `MakeBrowseContinuationPoint`: the bytes of the counter, little-endian. -/
def makeBrowseContinuationPoint (session : ServerSession) : ByteString :=
  let raw := session.nextBrowseContinuationId
  [raw.toUInt8, (raw >>> 8).toUInt8, (raw >>> 16).toUInt8, (raw >>> 24).toUInt8]

def exceedsPage (requestedMax : ℕ) (result : BrowseResult) : Bool :=
  requestedMax ≠ 0 && decide (requestedMax < result.references.length)

def pageBrowseResult (requestedMax : ℕ) (session : ServerSession)
    (result : BrowseResult) : ServerSession × BrowseResult :=
  let result := { result with continuationPoint := [] }
  if !exceedsPage requestedMax result then (session, result)
  else if kMaxBrowseContinuationPoints ≤
      session.browseContinuations.entries.length then
    (session, { statusCode := .ofCode .badNoContinuationPoints })
  else
    let continuationPoint := session.makeBrowseContinuationPoint
    ({ session with
        nextBrowseContinuationId := session.nextBrowseContinuationId + 1
        browseContinuations :=
          if (session.browseContinuations.lookup continuationPoint).isSome then
            session.browseContinuations
          else
            session.browseContinuations.insert continuationPoint
              (result.references.drop requestedMax) },
      { result with
        references := result.references.take requestedMax
        continuationPoint := continuationPoint })

def storeBrowseResults (session : ServerSession) (response : BrowseResponse)
    (requestedMax : ℕ) : ServerSession × BrowseResponse :=
  if requestedMax = 0 then (session, response)
  else
    let (session, results) :=
      collectResults (pageBrowseResult requestedMax) session response.results
    (session, { response with results := results })

/-- One round of the loop of `BrowseNext`, with `ResumeBrowseResult`. -/
def browseNextPoint (releaseContinuationPoints : Bool)
    (session : ServerSession) (continuationPoint : ByteString) :
    ServerSession × BrowseResult :=
  match session.browseContinuations.lookup continuationPoint with
  | none =>
      (session, { statusCode := .ofCode .badContinuationPointInvalid })
  | some references =>
      let session := { session with
        browseContinuations :=
          session.browseContinuations.erase continuationPoint }
      if releaseContinuationPoints then (session, { statusCode := .good })
      else (session, { statusCode := .good, references := references })

def browseNext (session : ServerSession) (request : BrowseNextRequest) :
    ServerSession × BrowseResponse :=
  let (session, results) := collectResults
    (browseNextPoint request.releaseContinuationPoints)
    session request.continuationPoints
  (session, { serviceResult := .good, results := results })

/-- The runtime's dispatch of the requests served from one session. -/
def serve (session : ServerSession) (request : SessionRequest)
    (envs : ℕ → BindEnvironment) : ServerSession × ResponseBody :=
  match request with
  | .modifySubscription request =>
      let (session, response) := session.modifySubscription request
      (session, .modifySubscription response)
  | .setPublishingMode request =>
      let (session, response) := session.setPublishingMode request
      (session, .setPublishingMode response)
  | .republish request => (session, .republish (session.republish request))
  | .createMonitoredItems request =>
      let (session, response) := session.createMonitoredItems request envs
      (session, .createMonitoredItems response)
  | .modifyMonitoredItems request =>
      let (session, response) := session.modifyMonitoredItems request envs
      (session, .modifyMonitoredItems response)
  | .deleteMonitoredItems request =>
      let (session, response) := session.deleteMonitoredItems request
      (session, .deleteMonitoredItems response)
  | .setMonitoringMode request =>
      let (session, response) := session.setMonitoringMode request
      (session, .setMonitoringMode response)
  | .browseNext request =>
      let (session, response) := session.browseNext request
      (session, .browseNext response)
  | .registerNodes nodesToRegister => (session, .registerNodes nodesToRegister)
  | .unregisterNodes _ => (session, .unregisterNodes)

end ServerSession

end OpcuaStack
