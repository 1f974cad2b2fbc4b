import OpcuaStack.ServerSession
import OpcuaStack.ServerSessionManager

/-!
# The server runtime

`session/server_runtime.cpp`.  The runtime owns what hangs off a session: the
`ServerSession` objects and the index of subscription owners.  It hears of every
session the manager drops, and forgets it.

A handler runs until it answers or suspends.  It suspends in the authenticator,
in the address space, or in a delay; the work it then still has to do is a value
of `SuspendedWork`, and the functions named `resume…` and `complete…` are what
runs when the awaited answer arrives.
-/

namespace OpcuaStack

structure ConnectionState where
  authenticationToken : Option NodeId := none
  closed : Bool := false
  secureChannel : Bool := false
  clientCertificate : ByteString := []
  peer : ByteText := []

structure ServerRuntime where
  manager : ServerSessionManager
  sessions : KeyedMap NodeId ServerSession := ∅
  subscriptionOwners : KeyedMap SubscriptionId NodeId := ∅
  nextSubscriptionId : SubscriptionId := 1
  /-- The identity of the next `ServerSession` object. -/
  nextSessionAddress : ℕ := 0
  operationLimits : OperationLimits := {}

/-- What a request meets outside the server: the channel it arrived on, the
clock when the manager prunes and when it or a session reads the time, the
generated nonce, the backing subscriptions, and the order in which a hash map
of sessions is visited. -/
structure RequestEnvironment where
  secureChannel : Bool := false
  clientCertificate : ByteString := []
  peer : ByteText := []
  traceParent : ByteText := []
  pruneTime : DateTime := {}
  now : DateTime := {}
  nonce : StatusOr ByteString := .ok (List.replicate 32 0)
  binds : ℕ → BindEnvironment := fun _ => {}
  groupOrder : List NodeId := []

/-- What is left of a handler when it suspends.  A browse keeps the raw pointer
to its session. -/
inductive SuspendedWork where
  | activating (pending : PendingActivation)
  | browsing (session : ℕ) (requestedMax : ℕ)
  | publishing (ackResults : List StatusCode)
  | serving (kind : ServiceKind)

inductive Progress where
  | answered (response : ResponseBody)
  | suspended (work : SuspendedWork)

/-- How a request affected a session: it created, activated, resumed or closed
it, or was served under it. -/
inductive SessionUse where
  | created
  | activated
  | resumed
  | closed
  | served
deriving DecidableEq, Repr

/-- The effect of one stretch of a handler.  `use` names the session the request
affected, and `touched` the `ServerSession` objects which a resumed request
read or wrote; both only report. -/
structure HandlerOutcome where
  runtime : ServerRuntime
  connection : ConnectionState
  progress : Progress
  use : Option (NodeId × SessionUse) := none
  touched : List ℕ := []

namespace ServerRuntime

def findAttachedSession (r : ServerRuntime) (connection : ConnectionState) :
    Option (NodeId × ServerSession) :=
  connection.authenticationToken.bind fun token =>
    (r.sessions.lookup token).map fun session => (token, session)

/-- `ForgetSession`, with `RemoveSessionSubscriptions`. -/
def forgetSession (r : ServerRuntime) (token : NodeId) : ServerRuntime :=
  { r with
    subscriptionOwners := r.subscriptionOwners.eraseIf fun _ owner =>
      owner == token
    sessions := r.sessions.erase token }

/-- Take over the manager after a call, forgetting the sessions it removed. -/
def adopt (r : ServerRuntime) (manager : ServerSessionManager)
    (removed : List NodeId) : ServerRuntime :=
  { removed.foldl forgetSession r with manager := manager }

/-- Write a session back through the pointer found for its token. -/
def writeSession (r : ServerRuntime) (token : NodeId) (session : ServerSession) :
    ServerRuntime :=
  { r with sessions := r.sessions.insert token session }

/-! ## Session services -/

def handleCreateSession (r : ServerRuntime) (connection : ConnectionState)
    (request : CreateSessionRequest) (env : RequestEnvironment) :
    HandlerOutcome :=
  let outcome := r.manager.createSession
    { request with
      channelSecure := connection.secureChannel
      channelCertificate := connection.clientCertificate
      peer := connection.peer }
    env.nonce env.pruneTime env.now
  { runtime := r.adopt outcome.manager outcome.removed
    connection := connection
    progress := .answered (.createSession outcome.result)
    use :=
      if outcome.result.status.isBad then none
      else some (outcome.result.authenticationToken, .created) }

/-- The part of `HandleActivateSession` after the manager's answer. -/
def finishActivateSession (r : ServerRuntime) (connection : ConnectionState)
    (request : ActivateSessionRequest) (response : ActivateSessionResponse) :
    HandlerOutcome :=
  let token := request.authenticationToken
  let attached := { connection with authenticationToken := some token }
  if response.status.isBad then
    { runtime := r
      connection := connection
      progress := .answered (.activateSession response) }
  else if response.resumed then
    match r.sessions.lookup token with
    | none =>
        { runtime := r
          connection := connection
          progress := .answered (.activateSession
            { status := .ofCode .badSessionIdInvalid }) }
    | some session =>
        { runtime := r.writeSession token
            { session with serviceContext := response.serviceContext }
          connection := attached
          progress := .answered (.activateSession response)
          use := some (token, .resumed) }
  else
    let session : ServerSession :=
      { address := r.nextSessionAddress
        sessionId := request.sessionId
        serviceContext := response.serviceContext
        operationLimits := r.operationLimits }
    { runtime := { r.writeSession token session with
        nextSessionAddress := r.nextSessionAddress + 1 }
      connection := attached
      progress := .answered (.activateSession response)
      use := some (token, .activated) }

def handleActivateSession (r : ServerRuntime) (connection : ConnectionState)
    (request : ActivateSessionRequest) (env : RequestEnvironment) :
    HandlerOutcome :=
  let request := { request with
    channelSecure := connection.secureChannel
    peer := connection.peer }
  let outcome := r.manager.activateSession request env.pruneTime env.now
  let r := r.adopt outcome.manager outcome.removed
  match outcome.result with
  | .answered response => r.finishActivateSession connection request response
  | .authenticating pending =>
      { runtime := r
        connection := connection
        progress := .suspended (.activating pending) }

/-- `HandleActivateSession` from the authenticator's answer on. -/
def completeActivateSession (r : ServerRuntime) (connection : ConnectionState)
    (pending : PendingActivation) (reply : StatusOr AuthenticationResult)
    (now : DateTime) : HandlerOutcome :=
  let outcome := r.manager.completeActivation pending reply now
  (r.adopt outcome.manager outcome.removed).finishActivateSession connection
    pending.request outcome.result

def handleCloseSession (r : ServerRuntime) (connection : ConnectionState)
    (request : CloseSessionRequest) : HandlerOutcome :=
  let outcome := r.manager.closeSession request
  { runtime := r.adopt outcome.manager outcome.removed
    connection :=
      if connection.authenticationToken = some request.authenticationToken then
        { connection with authenticationToken := none }
      else connection
    progress := .answered (.closeSession outcome.result)
    use :=
      if outcome.result.status.isBad then none
      else some (request.authenticationToken, .closed) }

/-! ## Requests under an attached session -/

/-- A handler which starts with `FindAttachedSession`. -/
def withAttachedSession (r : ServerRuntime) (connection : ConnectionState)
    (missing : ResponseBody)
    (body : NodeId → ServerSession → ServerRuntime × Progress) :
    HandlerOutcome :=
  match r.findAttachedSession connection with
  | none =>
      { runtime := r, connection := connection, progress := .answered missing }
  | some (token, session) =>
      let (runtime, progress) := body token session
      { runtime := runtime
        connection := connection
        progress := progress
        use := some (token, .served) }

def createSubscription (r : ServerRuntime) (token : NodeId)
    (session : ServerSession) (request : CreateSubscriptionRequest)
    (env : RequestEnvironment) : ServerRuntime × CreateSubscriptionResponse :=
  let (session, response) := session.createSubscriptionWithId
    r.nextSubscriptionId request env.traceParent env.now
  ({ r.writeSession token session with
      nextSubscriptionId := r.nextSubscriptionId + 1
      subscriptionOwners :=
        r.subscriptionOwners.insert response.subscriptionId token },
    response)

def eraseOwners (owners : KeyedMap SubscriptionId NodeId)
    (results : List (SubscriptionId × Status)) : KeyedMap SubscriptionId NodeId :=
  results.foldl
    (fun owners (id, status) => if status.isGood then owners.erase id else owners)
    owners

def deleteSubscriptions (r : ServerRuntime) (token : NodeId)
    (session : ServerSession) (request : DeleteSubscriptionsRequest) :
    ServerRuntime × StatusListResponse :=
  let (session, response) := session.deleteSubscriptions request
  ({ r.writeSession token session with
      subscriptionOwners := eraseOwners r.subscriptionOwners
        (request.subscriptionIds.zip response.results) },
    response)

/-! ### Transfer -/

/-- The ids of the request which the given session owns, with their places. -/
def transferGroup (owners : KeyedMap SubscriptionId NodeId)
    (ids : List SubscriptionId) (source : NodeId) : List (SubscriptionId × ℕ) :=
  ids.zipIdx.filter fun (id, _) => owners.lookup id == some source

def moveOwners (token : NodeId) (owners : KeyedMap SubscriptionId NodeId)
    (results : List (SubscriptionId × TransferResult)) :
    KeyedMap SubscriptionId NodeId :=
  results.foldl
    (fun owners (id, result) =>
      if result.statusCode.isGood then owners.insert id token else owners)
    owners

/-- One round of the second loop of `TransferSubscriptions`. -/
def transferFrom (token : NodeId)
    (groups : NodeId → List (SubscriptionId × ℕ))
    (state : ServerRuntime × List TransferResult) (source : NodeId) :
    ServerRuntime × List TransferResult :=
  let (r, results) := state
  let group := groups source
  match r.sessions.lookup token, r.sessions.lookup source with
  | some targetSession, some sourceSession =>
      let ((targetSession, sourceSession), groupResults) :=
        targetSession.transferSubscriptionsFrom sourceSession
          (group.map Prod.fst)
      ({ (r.writeSession source sourceSession).writeSession token
            targetSession with
          subscriptionOwners := moveOwners token r.subscriptionOwners
            ((group.map Prod.fst).zip groupResults) },
        ((group.map Prod.snd).zip groupResults).foldl
          (fun results (index, result) => results.set index result) results)
  | _, _ =>
      (r, (group.map Prod.snd).foldl
        (fun results index =>
          results.set index { statusCode := .ofCode .badSessionIdInvalid })
        results)

/-- The sessions other than the receiving one which own a requested
subscription, in the order in which they are visited. -/
def transferSources (owners : KeyedMap SubscriptionId NodeId) (token : NodeId)
    (ids : List SubscriptionId) (order : List NodeId) : List NodeId :=
  let sources := ((ids.filterMap owners.lookup).filter (· ≠ token)).dedup
  (order.filter (· ∈ sources)).dedup ++ sources.filter (· ∉ order)

def transferSubscriptions (r : ServerRuntime) (token : NodeId)
    (request : TransferSubscriptionsRequest) (env : RequestEnvironment) :
    ServerRuntime × TransferSubscriptionsResponse :=
  let owners := r.subscriptionOwners
  let ids := request.subscriptionIds
  let initial := ids.map fun id =>
    if owners.lookup id = some token then { statusCode := .good }
    else
      ({ statusCode := .ofCode .badSubscriptionIdInvalid } : TransferResult)
  let (r, results) :=
    (transferSources owners token ids env.groupOrder).foldl
      (transferFrom token (transferGroup owners ids)) (r, initial)
  (r, { results := results })

/-! ### Publish -/

/-- One round of the loop of `Publish`.  A delay which is not positive does not
suspend in the source; here the next round is a stretch of its own all the
same, which only adds interleavings. -/
def pollPublish (r : ServerRuntime) (token : NodeId) (session : ServerSession)
    (ackResults : List StatusCode) (now : DateTime) :
    ServerRuntime × Progress :=
  let (session, poll) := session.pollPublish now
  (r.writeSession token session,
    match poll with
    | .response response =>
        .answered (.publish { response with results := ackResults })
    | .waitFor _ => .suspended (.publishing ackResults))

def publish (r : ServerRuntime) (connection : ConnectionState) (token : NodeId)
    (session : ServerSession) (request : PublishRequest) (now : DateTime) :
    ServerRuntime × Progress :=
  let (session, ackResults) := session.acknowledgePublishRequest request
  if connection.closed then
    (r.writeSession token session,
      .answered (.publish { status := .ofCode .badSessionIdInvalid }))
  else r.pollPublish token session ackResults now

/-- The loop of `Publish` after a delay. -/
def resumePublish (r : ServerRuntime) (connection : ConnectionState)
    (ackResults : List StatusCode) (now : DateTime) : HandlerOutcome :=
  let missing : HandlerOutcome :=
    { runtime := r
      connection := connection
      progress := .answered (.publish { status := .ofCode .badSessionIdInvalid }) }
  if connection.closed then missing
  else
    match r.findAttachedSession connection with
    | none => missing
    | some (token, session) =>
        let (runtime, progress) := r.pollPublish token session ackResults now
        { runtime := runtime
          connection := connection
          progress := progress
          use := some (token, .served)
          touched := [session.address] }

/-! ### Browse -/

def sessionMissingFault : ResponseBody :=
  .serviceFault (.ofCode .badSessionIdInvalid)

/-- The session object at an address, if a token still holds it. -/
def sessionAt (r : ServerRuntime) (address : ℕ) :
    Option (NodeId × ServerSession) :=
  (r.sessions.entries.find? fun entry => entry.2.address == address).map
    fun entry => (entry.1, entry.2)

/-- Paging does not read the session unless some result needs a page. -/
def needsPaging (requestedMax : ℕ) (response : BrowseResponse) : Bool :=
  response.results.any (ServerSession.exceedsPage requestedMax)

/-- `Browse` after the address space has answered.  The session is reached
through the pointer kept across the suspension.  If it has been destroyed and
paging reads it, what follows is undefined; the outcome then reports the access
and answers as if the session were empty. -/
def resumeBrowse (r : ServerRuntime) (connection : ConnectionState)
    (address requestedMax : ℕ) (reply : ResponseBody) : HandlerOutcome :=
  match reply with
  | .browse response =>
      let touched := if needsPaging requestedMax response then [address] else []
      match r.sessionAt address with
      | some (token, session) =>
          let (session, response) :=
            session.storeBrowseResults response requestedMax
          { runtime := r.writeSession token session
            connection := connection
            progress := .answered (.browse response)
            touched := touched }
      | none =>
          let destroyed : ServerSession :=
            { address := address
              sessionId := {}
              serviceContext := {}
              operationLimits := {} }
          { runtime := r
            connection := connection
            progress := .answered
              (.browse (destroyed.storeBrowseResults response requestedMax).2)
            touched := touched }
  | _ =>
      { runtime := r
        connection := connection
        progress := .answered sessionMissingFault }

/-! ## Dispatch -/

/-- The answer of the requests served from one session when there is none. -/
def sessionMissing : SessionRequest → ResponseBody
  | .modifySubscription _ =>
      .modifySubscription { status := .ofCode .badSessionIdInvalid }
  | .setPublishingMode _ =>
      .setPublishingMode { serviceResult := .ofCode .badSessionIdInvalid }
  | .republish _ => .republish { status := .ofCode .badSessionIdInvalid }
  | .createMonitoredItems _ =>
      .createMonitoredItems { status := .ofCode .badSessionIdInvalid }
  | .modifyMonitoredItems _ =>
      .modifyMonitoredItems { status := .ofCode .badSessionIdInvalid }
  | .deleteMonitoredItems _ =>
      .deleteMonitoredItems { serviceResult := .ofCode .badSessionIdInvalid }
  | .setMonitoringMode _ =>
      .setMonitoringMode { serviceResult := .ofCode .badSessionIdInvalid }
  | .browseNext _ => sessionMissingFault
  | .registerNodes _ => sessionMissingFault
  | .unregisterNodes _ => sessionMissingFault

/-- `Handle`, up to its first suspension. -/
def handle (r : ServerRuntime) (connection : ConnectionState)
    (request : RequestBody) (env : RequestEnvironment) : HandlerOutcome :=
  match request with
  | .createSession request => r.handleCreateSession connection request env
  | .activateSession request => r.handleActivateSession connection request env
  | .closeSession request => r.handleCloseSession connection request
  | .createSubscription request =>
      r.withAttachedSession connection
        (.createSubscription { status := .ofCode .badSessionIdInvalid })
        fun token session =>
          let (r, response) := r.createSubscription token session request env
          (r, .answered (.createSubscription response))
  | .deleteSubscriptions request =>
      r.withAttachedSession connection
        (.deleteSubscriptions { serviceResult := .ofCode .badSessionIdInvalid })
        fun token session =>
          let (r, response) := r.deleteSubscriptions token session request
          (r, .answered (.deleteSubscriptions response))
  | .transferSubscriptions request =>
      r.withAttachedSession connection
        (.transferSubscriptions { serviceResult := .ofCode .badSessionIdInvalid })
        fun token _ =>
          let (r, response) := r.transferSubscriptions token request env
          (r, .answered (.transferSubscriptions response))
  | .publish request =>
      r.withAttachedSession connection
        (.publish { status := .ofCode .badSessionIdInvalid })
        fun token session => r.publish connection token session request env.now
  | .browse request =>
      r.withAttachedSession connection sessionMissingFault
        fun _ session => (r, .suspended
          (.browsing session.address request.requestedMaxReferencesPerNode.toNat))
  | .session request =>
      r.withAttachedSession connection (sessionMissing request)
        fun token session =>
          let (session, response) := session.serve request env.binds
          (r.writeSession token session, .answered response)
  | .service kind _ =>
      r.withAttachedSession connection sessionMissingFault
        fun _ _ => (r, .suspended (.serving kind))

def detach (r : ServerRuntime) (connection : ConnectionState) :
    ServerRuntime × ConnectionState :=
  match connection.authenticationToken with
  | none => (r, connection)
  | some token =>
      ({ r with manager := r.manager.detachSession token },
        { connection with authenticationToken := none })

end ServerRuntime

end OpcuaStack
