import OpcuaStack.RuntimeTransitions

/-!
# What the session services do to the runtime

`CreateSession`, `ActivateSession` and `CloseSession` are compositions of a few
moves on the manager and the runtime together: sessions are dropped from both,
a session is admitted to the manager, a session is resumed, or a new session is
registered.  The two halves of `ActivateSession` are given by the complete list
of their outcomes.
-/

namespace OpcuaStack
namespace ServerSessionManager

/-- The manager drops the given sessions and changes nothing else. -/
structure Drops (before after : ServerSessionManager) (removed : List NodeId) :
    Prop where
  lookup : ∀ token, after.sessions.lookup token =
    if token ∈ removed then none else before.sessions.lookup token
  context : after.context = before.context
  nextTokenId : after.nextTokenId = before.nextTokenId

theorem Drops.refl (m : ServerSessionManager) : Drops m m [] :=
  ⟨fun _ => by simp, rfl, rfl⟩

theorem Drops.lookup_before {before after : ServerSessionManager}
    {removed : List NodeId} (h : Drops before after removed) {token : NodeId}
    {session : SessionState}
    (hlookup : after.sessions.lookup token = some session) :
    before.sessions.lookup token = some session := by
  rw [h.lookup] at hlookup
  split at hlookup
  · simp at hlookup
  · exact hlookup

theorem Drops.of_filter {before after : ServerSessionManager}
    {removed : List NodeId} {dropped : SessionState → Bool}
    (hlookup : ∀ token, after.sessions.lookup token =
      (before.sessions.lookup token).filter fun session => !dropped session)
    (hremoved : ∀ token, token ∈ removed ↔
      ∃ session, before.sessions.lookup token = some session ∧
        dropped session = true)
    (hcontext : after.context = before.context)
    (htoken : after.nextTokenId = before.nextTokenId) :
    Drops before after removed := by
  refine ⟨fun token => ?_, hcontext, htoken⟩
  rw [hlookup]
  cases hsession : before.sessions.lookup token with
  | none => simp
  | some session =>
      have hmem := hremoved token
      rw [hsession] at hmem
      cases hdropped : dropped session with
      | true => simp [Option.filter, hdropped, hmem]
      | false => simp [Option.filter, hdropped, hmem]

theorem pruneExpiredSessions_drops (m : ServerSessionManager) (now : DateTime) :
    Drops m (m.pruneExpiredSessions now).manager
      (m.pruneExpiredSessions now).removed :=
  .of_filter (m.pruneExpiredSessions_lookup now)
    (m.mem_pruneExpiredSessions_removed now) rfl rfl

theorem evict_drops (m : ServerSessionManager) (auth : AuthenticationResult) :
    Drops m (m.evict auth).manager (m.evict auth).removed := by
  have hframe : (m.evict auth).manager.context = m.context ∧
      (m.evict auth).manager.nextTokenId = m.nextTokenId := by
    unfold evict
    split <;> exact ⟨rfl, rfl⟩
  have hlookup : ∀ token, (m.evict auth).manager.sessions.lookup token =
      (m.sessions.lookup token).filter fun session =>
        !(!auth.multiSessions && session.belongsTo auth.userId) := by
    intro token
    rw [evict_lookup]
    congr 1
    funext session
    cases auth.multiSessions <;> simp
  refine .of_filter hlookup (fun token => ?_) hframe.1 hframe.2
  rw [mem_evict_removed]
  simp

end ServerSessionManager

namespace ServerRuntime

/-- The runtime after the manager has dropped the expired sessions. -/
def pruned (r : ServerRuntime) (now : DateTime) : ServerRuntime :=
  r.adopt (r.manager.pruneExpiredSessions now).manager
    (r.manager.pruneExpiredSessions now).removed

/-- The runtime after the manager has evicted a single-session user. -/
def evicted (r : ServerRuntime) (auth : AuthenticationResult) : ServerRuntime :=
  r.adopt (r.manager.evict auth).manager (r.manager.evict auth).removed

def withState (r : ServerRuntime) (token : NodeId) (session : SessionState) :
    ServerRuntime :=
  { r with manager := r.manager.withSession token session }

def newSession (r : ServerRuntime) (request : ActivateSessionRequest)
    (context : ServiceContext) : ServerSession :=
  { address := r.nextSessionAddress
    sessionId := request.sessionId
    serviceContext := context
    operationLimits := r.operationLimits }

def register (r : ServerRuntime) (request : ActivateSessionRequest)
    (context : ServiceContext) : ServerRuntime :=
  { r.writeSession request.authenticationToken (r.newSession request context) with
    nextSessionAddress := r.nextSessionAddress + 1 }

theorem withState_state_lookup (r : ServerRuntime) (token : NodeId)
    (session : SessionState) (other : NodeId) :
    (r.withState token session).manager.sessions.lookup other =
      if other = token then some session else r.manager.sessions.lookup other :=
  KeyedMap.lookup_insert_eq _ _ _ _

theorem register_lookup (r : ServerRuntime) (request : ActivateSessionRequest)
    (context : ServiceContext) (other : NodeId) :
    (r.register request context).sessions.lookup other =
      if other = request.authenticationToken then
        some (r.newSession request context)
      else r.sessions.lookup other :=
  KeyedMap.lookup_insert_eq _ _ _ _

variable (r : ServerRuntime) (connection : ConnectionState)

def attachedTo (token : NodeId) : ConnectionState :=
  { connection with authenticationToken := some token }

/-! ## Activation -/

/-- The outcomes of an activation after pruning, up to the authenticator.  The
outcome `lost` is the branch which finds no session to resume. -/
inductive BeginsActivation (request : ActivateSessionRequest) (now : DateTime) :
    HandlerOutcome → Prop where
  | rejected (response : ActivateSessionResponse)
      (hbad : response.status.isBad = true) :
      BeginsActivation request now
        { runtime := r
          connection := connection
          progress := .answered (.activateSession response) }
  | lost (session : SessionState)
      (hlookup : r.manager.sessions.lookup request.authenticationToken =
        some session)
      (hsigned : r.manager.signatureAccepted session request = true)
      (hactivated : session.activated = true)
      (hlost : r.sessions.lookup request.authenticationToken = none) :
      BeginsActivation request now
        { runtime := r.withState request.authenticationToken
            (ServerSessionManager.resumedState session request now)
          connection := connection
          progress := .answered (.activateSession
            { status := .ofCode .badSessionIdInvalid }) }
  | resumed (session : SessionState) (object : ServerSession)
      (hlookup : r.manager.sessions.lookup request.authenticationToken =
        some session)
      (hsigned : r.manager.signatureAccepted session request = true)
      (hactivated : session.activated = true)
      (hobject : r.sessions.lookup request.authenticationToken = some object) :
      BeginsActivation request now
        { runtime := (r.withState request.authenticationToken
              (ServerSessionManager.resumedState session request
                now)).writeSession request.authenticationToken
            { object with
              serviceContext := (ServerSessionManager.resumedState session
                request now).serviceContext }
          connection := attachedTo connection request.authenticationToken
          progress := .answered (.activateSession
            { serviceContext := (ServerSessionManager.resumedState session
                request now).serviceContext
              authenticationResult := session.authenticationResult
              resumed := true })
          use := some (request.authenticationToken, .resumed) }
  | anonymous (session : SessionState)
      (hlookup : r.manager.sessions.lookup request.authenticationToken =
        some session)
      (hsigned : r.manager.signatureAccepted session request = true)
      (hfresh : session.activated = false)
      (hanonymous : request.allowAnonymous = true) :
      BeginsActivation request now
        { runtime := (r.withState request.authenticationToken
              (ServerSessionManager.activatedState session request none
                now)).register request { peer := request.peer }
          connection := attachedTo connection request.authenticationToken
          progress := .answered (.activateSession
            { serviceContext := { peer := request.peer }
              authenticationResult := session.authenticationResult })
          use := some (request.authenticationToken, .activated) }
  | authenticating (session : SessionState) (pending : PendingActivation)
      (hlookup : r.manager.sessions.lookup request.authenticationToken =
        some session)
      (hfresh : session.activated = false)
      (hnamed : request.allowAnonymous = false)
      (hrequest : pending.request = request)
      (huserName : request.userName = some pending.userName)
      (hpassword : r.manager.PresentsPassword session.serverNonce request
        pending.password) :
      BeginsActivation request now
        { runtime := r
          connection := connection
          progress := .suspended (.activating pending) }

/-- The request as `HandleActivateSession` hands it on. -/
def channelRequest (request : ActivateSessionRequest) : ActivateSessionRequest :=
  { request with
    channelSecure := connection.secureChannel
    peer := connection.peer }

theorem BeginsActivation.of_begins {r : ServerRuntime}
    {connection : ConnectionState} {request : ActivateSessionRequest}
    {now : DateTime} {outcome : ManagerOutcome ActivationProgress}
    (h : r.manager.Begins request now outcome) :
    r.BeginsActivation connection request now
      (match outcome.result with
      | .answered response =>
          finishActivateSession { r with manager := outcome.manager } connection
            request response
      | .authenticating pending =>
          { runtime := { r with manager := outcome.manager }
            connection := connection
            progress := .suspended (.activating pending) }) := by
  cases h with
  | rejected response audits hstatus =>
      simp only [finishActivateSession, hstatus.isBad, if_true]
      exact .rejected response hstatus.isBad
  | resumed session hlookup hsigned hactivated =>
      simp only [finishActivateSession, Status.isBad_good, Bool.false_eq_true,
        if_false, if_true]
      split
      next hlost => exact .lost session hlookup hsigned hactivated hlost
      next object hobject =>
        exact .resumed session object hlookup hsigned hactivated hobject
  | anonymous session audits hlookup hsigned hfresh hanonymous =>
      simp only [finishActivateSession, Status.isBad_good, Bool.false_eq_true,
        if_false]
      exact .anonymous session hlookup hsigned hfresh hanonymous
  | authenticating session pending hlookup hfresh hnamed hrequest huserName
      hpassword =>
      exact .authenticating session pending hlookup hfresh hnamed hrequest
        huserName hpassword

theorem handleActivateSession_begins (request : ActivateSessionRequest)
    (env : RequestEnvironment) :
    (r.pruned env.pruneTime).BeginsActivation connection
      (channelRequest connection request) env.now
      (r.handleActivateSession connection request env) := by
  have hbegins := (r.manager.pruneExpiredSessions
    env.pruneTime).manager.beginActivation_begins
      (channelRequest connection request) env.now
  have hremoved := hbegins.removed_eq
  simp only [channelRequest] at hbegins hremoved ⊢
  unfold handleActivateSession ServerSessionManager.activateSession
  simp only [hremoved, List.append_nil]
  exact BeginsActivation.of_begins (r := r.pruned env.pruneTime) hbegins

theorem BeginsActivation.lookup_of_ne {r : ServerRuntime}
    {connection : ConnectionState} {request : ActivateSessionRequest}
    {now : DateTime} {outcome : HandlerOutcome}
    (h : r.BeginsActivation connection request now outcome) {token : NodeId}
    (hne : token ≠ request.authenticationToken) :
    outcome.runtime.manager.sessions.lookup token =
      r.manager.sessions.lookup token := by
  have hrewritten : ∀ session,
      (r.withState request.authenticationToken
        session).manager.sessions.lookup token =
          r.manager.sessions.lookup token := by
    intro session
    rw [withState_state_lookup, if_neg hne]
  cases h with
  | rejected response hbad => rfl
  | lost session hlookup hsigned hactivated hlost => exact hrewritten _
  | resumed session object hlookup hsigned hactivated hobject =>
      exact hrewritten _
  | anonymous session hlookup hsigned hfresh hanonymous => exact hrewritten _
  | authenticating session pending hlookup hfresh hnamed hrequest huserName
      hpassword => rfl

/-- The outcomes of an activation from the authenticator's answer on. -/
inductive CompletesActivation (pending : PendingActivation)
    (reply : StatusOr AuthenticationResult) (now : DateTime) :
    HandlerOutcome → Prop where
  | refused (status : Status) (hbad : status.isBad = true)
      (hreply : reply = .error status hbad) :
      CompletesActivation pending reply now
        { runtime := r
          connection := connection
          progress := .answered (.activateSession { status := status }) }
  | alreadyLoggedOn (auth : AuthenticationResult) (hreply : reply = .ok auth)
      (hgate : ¬r.manager.Admits pending.request auth) :
      CompletesActivation pending reply now
        { runtime := r
          connection := connection
          progress := .answered (.activateSession
            { status := .ofCode .badUserIsAlreadyLoggedOn }) }
  | missing (auth : AuthenticationResult) (hreply : reply = .ok auth)
      (hgate : r.manager.Admits pending.request auth)
      (hlookup : (r.evicted auth).manager.sessions.lookup
        pending.request.authenticationToken = none) :
      CompletesActivation pending reply now
        { runtime := r.evicted auth
          connection := connection
          progress := .answered (.activateSession
            { status := .ofCode .badSessionIdInvalid }) }
  | activated (auth : AuthenticationResult) (hreply : reply = .ok auth)
      (hgate : r.manager.Admits pending.request auth) (session : SessionState)
      (hlookup : (r.evicted auth).manager.sessions.lookup
        pending.request.authenticationToken = some session) :
      CompletesActivation pending reply now
        { runtime := ((r.evicted auth).withState
              pending.request.authenticationToken
              (ServerSessionManager.activatedState session pending.request
                (some auth) now)).register pending.request
            { userId := auth.userId
              userRights := auth.userRights
              peer := pending.request.peer }
          connection := attachedTo connection pending.request.authenticationToken
          progress := .answered (.activateSession
            { serviceContext :=
                { userId := auth.userId
                  userRights := auth.userRights
                  peer := pending.request.peer }
              authenticationResult := some auth })
          use := some (pending.request.authenticationToken, .activated) }

theorem CompletesActivation.of_completes {r : ServerRuntime}
    {connection : ConnectionState} {pending : PendingActivation}
    {reply : StatusOr AuthenticationResult} {now : DateTime}
    {outcome : ManagerOutcome ActivateSessionResponse}
    (h : r.manager.Completes pending reply now outcome) :
    r.CompletesActivation connection pending reply now
      ((r.adopt outcome.manager outcome.removed).finishActivateSession
        connection pending.request outcome.result) := by
  cases h with
  | refused status hbad hreply audits =>
      simp only [finishActivateSession, hbad, if_true]
      exact .refused status hbad hreply
  | alreadyLoggedOn auth hreply hgate audits =>
      simp only [finishActivateSession, Status.isBad_badUserIsAlreadyLoggedOn,
        if_true]
      exact .alreadyLoggedOn auth hreply hgate
  | missing auth hreply hgate hlookup =>
      simp only [finishActivateSession, Status.isBad_badSessionIdInvalid,
        if_true]
      exact .missing auth hreply hgate hlookup
  | activated auth hreply hgate session hlookup audits =>
      simp only [finishActivateSession, Status.isBad_good, Bool.false_eq_true,
        if_false]
      exact .activated auth hreply hgate session hlookup

theorem completeActivateSession_completes (pending : PendingActivation)
    (reply : StatusOr AuthenticationResult) (now : DateTime) :
    r.CompletesActivation connection pending reply now
      (r.completeActivateSession connection pending reply now) :=
  .of_completes (r.manager.completeActivation_completes pending reply now)

theorem CompletesActivation.lookup_of_ne {r : ServerRuntime}
    {connection : ConnectionState} {pending : PendingActivation}
    {reply : StatusOr AuthenticationResult} {now : DateTime}
    {outcome : HandlerOutcome}
    (h : r.CompletesActivation connection pending reply now outcome)
    {token : NodeId} (hne : token ≠ pending.request.authenticationToken)
    (hkept : ∀ auth, reply = .ok auth → r.manager.Admits pending.request auth →
      token ∉ (r.manager.evict auth).removed) :
    outcome.runtime.manager.sessions.lookup token =
      r.manager.sessions.lookup token := by
  have hevicted : ∀ auth, reply = .ok auth →
      r.manager.Admits pending.request auth →
        (r.evicted auth).manager.sessions.lookup token =
          r.manager.sessions.lookup token := by
    intro auth hreply hgate
    rw [evicted, adopt_manager, (r.manager.evict_drops auth).lookup,
      if_neg (hkept auth hreply hgate)]
  cases h with
  | refused status hbad hreply => rfl
  | alreadyLoggedOn auth hreply hgate => rfl
  | missing auth hreply hgate hlookup => exact hevicted auth hreply hgate
  | activated auth hreply hgate session hlookup =>
      refine ((r.evicted auth).withState_state_lookup _ _ token).trans ?_
      rw [if_neg hne, hevicted auth hreply hgate]

/-! ## Creation and closing -/

def admitted (session : SessionState) : ServerRuntime :=
  { r with manager :=
      { r.manager with
        nextSessionId := r.manager.nextSessionId + 1
        nextTokenId := r.manager.nextTokenId + 1
        sessions := r.manager.sessions.insert r.manager.nextToken session } }

theorem admitted_state_lookup (session : SessionState) (token : NodeId) :
    (r.admitted session).manager.sessions.lookup token =
      if token = r.manager.nextToken then some session
      else r.manager.sessions.lookup token :=
  KeyedMap.lookup_insert_eq _ _ _ _

/-- The request as `HandleCreateSession` hands it on. -/
def channelCreateRequest (request : CreateSessionRequest) :
    CreateSessionRequest :=
  { request with
    channelSecure := connection.secureChannel
    channelCertificate := connection.clientCertificate
    peer := connection.peer }

inductive Creates (request : CreateSessionRequest) (now : DateTime) :
    HandlerOutcome → Prop where
  | rejected (response : CreateSessionResponse)
      (hrefused : ServerSessionManager.certificateAccepted request = false)
      (hbad : response.status.isBad = true) :
      Creates request now
        { runtime := r
          connection := connection
          progress := .answered (.createSession response) }
  | created (session : SessionState)
      (haccepted : ServerSessionManager.certificateAccepted request = true)
      (hnew : ServerSessionManager.IsNew session now)
      (response : CreateSessionResponse)
      (hgood : response.status.isBad = false)
      (htoken : response.authenticationToken = r.manager.nextToken) :
      Creates request now
        { runtime := r.admitted session
          connection := connection
          progress := .answered (.createSession response)
          use := some (r.manager.nextToken, .created) }

theorem handleCreateSession_creates (request : CreateSessionRequest)
    (env : RequestEnvironment) :
    (r.pruned env.pruneTime).Creates connection
      (channelCreateRequest connection request) env.now
      (r.handleCreateSession connection request env) := by
  rcases (r.pruned env.pruneTime).manager.admitSession_cases
    (channelCreateRequest connection request) env.nonce env.now with
    ⟨hrefused, hsame, hbad⟩ | ⟨session, haccepted, hnew, hmanager, hgood, htoken⟩
  · unfold handleCreateSession ServerSessionManager.createSession
    simp only [pruned, adopt_manager, channelCreateRequest] at hsame hbad
    simp only [hsame, hbad, if_true]
    exact .rejected _ hrefused hbad
  · unfold handleCreateSession ServerSessionManager.createSession
    simp only [pruned, adopt_manager, channelCreateRequest]
      at hmanager hgood htoken
    simp only [hmanager, hgood, Status.isBad_good, Bool.false_eq_true, if_false,
      htoken]
    exact .created session haccepted hnew _ (by rw [hgood]; rfl) htoken

inductive Closes (request : CloseSessionRequest) : HandlerOutcome → Prop where
  | missing (hlookup : r.manager.sessions.lookup request.authenticationToken =
        none) :
      Closes request
        { runtime := r
          connection :=
            if connection.authenticationToken =
                some request.authenticationToken then
              { connection with authenticationToken := none }
            else connection
          progress := .answered (.closeSession
            { status := .ofCode .badSessionIdInvalid }) }
  | closed (manager : ServerSessionManager)
      (hdrops : r.manager.Drops manager [request.authenticationToken])
      (session : SessionState)
      (hlookup : r.manager.sessions.lookup request.authenticationToken =
        some session) :
      Closes request
        { runtime := r.adopt manager [request.authenticationToken]
          connection :=
            if connection.authenticationToken =
                some request.authenticationToken then
              { connection with authenticationToken := none }
            else connection
          progress := .answered (.closeSession {})
          use := some (request.authenticationToken, .closed) }

theorem Closes.lookup_of_ne {r : ServerRuntime} {connection : ConnectionState}
    {request : CloseSessionRequest} {outcome : HandlerOutcome}
    (h : r.Closes connection request outcome) {token : NodeId}
    (hne : token ≠ request.authenticationToken) :
    outcome.runtime.manager.sessions.lookup token =
      r.manager.sessions.lookup token := by
  cases h with
  | missing hlookup => rfl
  | closed manager hdrops session hlookup =>
      change manager.sessions.lookup token = _
      rw [hdrops.lookup, if_neg (by simpa using hne)]

theorem handleCloseSession_closes (request : CloseSessionRequest) :
    r.Closes connection request (r.handleCloseSession connection request) := by
  unfold handleCloseSession ServerSessionManager.closeSession
  cases hlookup : r.manager.sessions.lookup request.authenticationToken with
  | none =>
      simp only [Status.isBad_badSessionIdInvalid, if_true]
      exact .missing hlookup
  | some session =>
      have hdrops : r.manager.Drops
          { r.manager with
            sessions := r.manager.sessions.erase request.authenticationToken }
          [request.authenticationToken] := by
        refine ⟨fun token => ?_, rfl, rfl⟩
        rw [KeyedMap.lookup_erase_eq]
        simp
      simp only [Status.isBad_good, Bool.false_eq_true, if_false]
      exact .closed _ hdrops session hlookup

end ServerRuntime

namespace ServerState

open ServerRuntime

/-! ## The list of steps -/

/-- The steps of the server.  Six kinds of step change which sessions there are
or who is attached to them: the three session services, the answer of an
authenticator, a closing connection, and expiry. -/
inductive Transition (state : ServerState) :
    ServerAction → ServerState × Option StepReport → Prop where
  | quiet {action : ServerAction} {result : ServerState × Option StepReport}
      (hquiet : Quiet state result.1) (hedits : Edits state action result.1.runtime)
      (hreport : ServesAttached state result.2) : Transition state action result
  | createSession (connection : ℕ) (request : CreateSessionRequest)
      (env : RequestEnvironment) (outcome : HandlerOutcome)
      (hcreates : (state.runtime.pruned env.pruneTime).Creates
        (state.connectionFor connection env)
        (channelCreateRequest (state.connectionFor connection env) request)
        env.now outcome) :
      Transition state (.request connection (.createSession request) env)
        (state.settle connection outcome)
  | activateSession (connection : ℕ) (request : ActivateSessionRequest)
      (env : RequestEnvironment) (outcome : HandlerOutcome)
      (hbegins : (state.runtime.pruned env.pruneTime).BeginsActivation
        (state.connectionFor connection env)
        (channelRequest (state.connectionFor connection env) request)
        env.now outcome) :
      Transition state (.request connection (.activateSession request) env)
        (state.settle connection outcome)
  | authenticated (task connection : ℕ) (pending : PendingActivation)
      (reply : StatusOr AuthenticationResult) (now : DateTime)
      (outcome : HandlerOutcome)
      (htask : state.suspended task = some ⟨connection, .activating pending⟩)
      (hcompletes : state.runtime.CompletesActivation
        (state.connections connection) pending reply now outcome) :
      Transition state (.authenticated task reply now)
        ((state.takeTask task).settle connection outcome)
  | closeSession (connection : ℕ) (request : CloseSessionRequest)
      (env : RequestEnvironment) (outcome : HandlerOutcome)
      (hcloses : state.runtime.Closes (state.connectionFor connection env)
        request outcome) :
      Transition state (.request connection (.closeSession request) env)
        (state.settle connection outcome)
  | closeConnection (connection : ℕ) :
      Transition state (.closeConnection connection)
        (state.closeConnection connection, none)
  | prune (now : DateTime) :
      Transition state (.prune now) (state.prune now, none)

theorem resume_transition {state : ServerState} {task connection : ℕ}
    {outcome : HandlerOutcome} {action : ServerAction}
    (hserved : Served state.runtime (state.connections connection) outcome)
    (hsame : SameHoldings state.runtime outcome.runtime) :
    state.Transition action
      ((state.takeTask task).settle connection outcome) := by
  obtain ⟨hquiet, hreport⟩ := settle_quiet state (state.takeTask task)
    hserved rfl (fun _ _ h => state.takeTask_suspended h) rfl rfl
  refine .quiet hquiet ?_ hreport
  rw [settle_runtime]
  exact .none hsame

theorem step_transition (state : ServerState) (action : ServerAction) :
    state.Transition action (state.step action) := by
  have hidle : ∀ action, state.Transition action (state, none) :=
    fun action => .quiet (.refl state) (.none (.refl _)) (by simp [ServesAttached])
  cases action with
  | request connection body env =>
      by_cases hbody : RequestsSessionService body
      · cases body with
        | createSession request =>
            exact .createSession connection request env _
              (state.runtime.handleCreateSession_creates _ request env)
        | activateSession request =>
            exact .activateSession connection request env _
              (state.runtime.handleActivateSession_begins _ request env)
        | closeSession request =>
            exact .closeSession connection request env _
              (state.runtime.handleCloseSession_closes _ request)
        | _ => exact hbody.elim
      · obtain ⟨hquiet, hreport⟩ := settle_quiet state state
          (handle_served state.runtime (state.connectionFor connection env) body
            env hbody) rfl (fun _ _ h => h) rfl rfl
        refine .quiet hquiet ?_ hreport
        simp only [step, settle_runtime]
        exact state.handle_edits connection body env hbody
  | authenticated task reply now =>
      unfold step
      simp only
      split
      next connection pending htask =>
        exact .authenticated task connection pending reply now _ htask
          (state.runtime.completeActivateSession_completes _ pending reply now)
      next => exact hidle _
  | served task reply =>
      unfold step
      simp only
      split
      next connection address requestedMax htask =>
        obtain ⟨hserved, hsame⟩ := state.runtime.resumeBrowse_cases
          (state.connections connection) address requestedMax reply
        exact resume_transition hserved hsame
      next connection kind htask =>
        exact resume_transition (.of_answer _ _ reply) (.refl _)
      next => exact hidle _
  | delayElapsed task now =>
      unfold step
      simp only
      split
      next connection ackResults htask =>
        obtain ⟨hserved, hsame⟩ := state.runtime.resumePublish_cases
          (state.connections connection) ackResults now
        exact resume_transition hserved hsame
      next => exact hidle _
  | closeConnection connection => exact .closeConnection connection
  | prune now => exact .prune now
  | backing token id event =>
      have hsame := state.backingEvent_sameHoldings token id event
      have hframe : ∀ next, next = state.backingEvent token id event →
          next.connections = state.connections ∧
            next.suspended = state.suspended := by
        rintro next rfl
        unfold backingEvent
        split <;> exact ⟨rfl, rfl⟩
      obtain ⟨hconnections, hsuspended⟩ := hframe _ rfl
      refine .quiet ⟨hsame.toServes, ?_, ?_, ?_⟩ (.none hsame)
        (by simp [step, ServesAttached])
      · simp [step, hconnections]
      · simp [step, hconnections]
      · simp [step, hsuspended]

end ServerState
end OpcuaStack
