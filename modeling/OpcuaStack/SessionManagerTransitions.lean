import OpcuaStack.ServerSessionManager

/-!
# What a call of the session manager can do

Each operation is described by its effect on the look-up of sessions, and the
two halves of `ActivateSession` by the complete list of their outcomes.  The
invariants of the manager and of the runtime are read off these lists.
-/

namespace OpcuaStack

@[simp] theorem Status.isBad_good : Status.good.isBad = false := by decide

@[simp] theorem Status.isBad_badSessionIdInvalid :
    (Status.ofCode .badSessionIdInvalid).isBad = true := by decide

@[simp] theorem Status.isBad_badApplicationSignatureInvalid :
    (Status.ofCode .badApplicationSignatureInvalid).isBad = true := by decide

@[simp] theorem Status.isBad_badUserIsAlreadyLoggedOn :
    (Status.ofCode .badUserIsAlreadyLoggedOn).isBad = true := by decide

/-- The statuses with which `ActivateSession` answers before it authenticates. -/
inductive Status.RejectsActivation : Status → Prop where
  | sessionIdInvalid : RejectsActivation (.ofCode .badSessionIdInvalid)
  | applicationSignatureInvalid :
      RejectsActivation (.ofCode .badApplicationSignatureInvalid)
  | identityTokenRejected :
      RejectsActivation (.ofCode .badIdentityTokenRejected)

theorem Status.RejectsActivation.isBad {status : Status}
    (h : status.RejectsActivation) : status.isBad = true := by
  cases h <;> decide

theorem Status.RejectsActivation.ne_alreadyLoggedOn {status : Status}
    (h : status.RejectsActivation) :
    status ≠ .ofCode .badUserIsAlreadyLoggedOn := by
  cases h <;> decide

namespace ServerSessionManager

variable (m : ServerSessionManager)

/-! ## Removals -/

theorem pruneExpiredSessions_lookup (now : DateTime) (token : NodeId) :
    (m.pruneExpiredSessions now).manager.sessions.lookup token =
      (m.sessions.lookup token).filter fun session =>
        !session.expiredAt now :=
  KeyedMap.lookup_eraseIf _ _ _

theorem mem_pruneExpiredSessions_removed (now : DateTime) (token : NodeId) :
    token ∈ (m.pruneExpiredSessions now).removed ↔
      ∃ session, m.sessions.lookup token = some session ∧
        session.expiredAt now = true :=
  KeyedMap.mem_keysWhere (m := m.sessions)
    (p := fun _ session => session.expiredAt now)

theorem removeSessionsByUser_lookup (userId token : NodeId) :
    (m.removeSessionsByUser userId).manager.sessions.lookup token =
      (m.sessions.lookup token).filter fun session =>
        !session.belongsTo userId :=
  KeyedMap.lookup_eraseIf _ _ _

theorem mem_removeSessionsByUser_removed (userId token : NodeId) :
    token ∈ (m.removeSessionsByUser userId).removed ↔
      ∃ session, m.sessions.lookup token = some session ∧
        session.belongsTo userId = true :=
  KeyedMap.mem_keysWhere (m := m.sessions)
    (p := fun _ session => session.belongsTo userId)

theorem detachSession_lookup (token other : NodeId) :
    (m.detachSession token).sessions.lookup other =
      if other = token then
        (m.sessions.lookup token).map fun session =>
          { session with attached := false }
      else m.sessions.lookup other :=
  KeyedMap.lookup_modify _ _ _ _

/-! ## Creation -/

/-- A session as `CreateSession` writes it. -/
structure IsNew (session : SessionState) (now : DateTime) : Prop where
  activated : session.activated = false
  attached : session.attached = false
  authenticationResult : session.authenticationResult = none
  expiresAt : session.expiresAt = now.add session.revisedTimeout

/-- On a secure channel the request names the channel's certificate. -/
def certificateAccepted (request : CreateSessionRequest) : Bool :=
  !(request.channelSecure && (request.clientCertificate.isEmpty ||
    request.clientCertificate != request.channelCertificate))

theorem admitSession_cases (request : CreateSessionRequest)
    (generated : StatusOr ByteString) (now : DateTime) :
    (certificateAccepted request = false ∧
        (m.admitSession request generated now).1 = m ∧
        (m.admitSession request generated now).2.status.isBad = true) ∨
      ∃ session, certificateAccepted request = true ∧ IsNew session now ∧
        (m.admitSession request generated now).1 =
          { m with
            nextSessionId := m.nextSessionId + 1
            nextTokenId := m.nextTokenId + 1
            sessions := m.sessions.insert m.nextToken session } ∧
        (m.admitSession request generated now).2.status = .good ∧
        (m.admitSession request generated now).2.authenticationToken =
          m.nextToken := by
  unfold admitSession certificateAccepted
  split
  next hrefused =>
    exact .inl ⟨by rw [hrefused, Bool.not_true], rfl,
      Status.isBad_badApplicationSignatureInvalid⟩
  next haccepted =>
    rw [Bool.not_eq_true] at haccepted
    exact .inr ⟨_, by rw [haccepted, Bool.not_false], ⟨rfl, rfl, rfl, rfl⟩, rfl,
      rfl, rfl⟩

/-! ## Activation -/

/-- The manager with one session rewritten. -/
def withSession (token : NodeId) (session : SessionState) :
    ServerSessionManager :=
  { m with sessions := m.sessions.insert token session }

/-- A session as the resuming branch of `ActivateSession` writes it. -/
def resumedState (session : SessionState) (request : ActivateSessionRequest)
    (now : DateTime) : SessionState :=
  { session with
    attached := true
    expiresAt := now.add session.revisedTimeout
    peer := request.peer
    serviceContext := { session.serviceContext with peer := request.peer } }

/-- The password which a request presents to a session with the given nonce: in
the clear, or recovered from its encryption. -/
def PresentsPassword (serverNonce : ByteString)
    (request : ActivateSessionRequest) (password : LocalizedText) : Prop :=
  if request.passwordEncryptionAlgorithm.isEmpty then
    request.password = some password
  else
    ∃ text, m.recoverEncryptedPassword request.encryptedPassword serverNonce =
        some text ∧
      password = { text := m.context.utf8ToWide text }

/-- The outcomes of `ActivateSession` after pruning, up to the authenticator. -/
inductive Begins (request : ActivateSessionRequest) (now : DateTime) :
    ManagerOutcome ActivationProgress → Prop where
  | rejected (response : ActivateSessionResponse)
      (audits : List SessionAuditEvent)
      (hstatus : response.status.RejectsActivation) :
      Begins request now
        { manager := m, audits := audits, result := .answered response }
  | resumed (session : SessionState)
      (hlookup : m.sessions.lookup request.authenticationToken = some session)
      (hsigned : m.signatureAccepted session request = true)
      (hactivated : session.activated = true) :
      Begins request now
        { manager := m.withSession request.authenticationToken
            (resumedState session request now)
          result := .answered
            { serviceContext := (resumedState session request now).serviceContext
              authenticationResult := session.authenticationResult
              resumed := true } }
  | anonymous (session : SessionState) (audits : List SessionAuditEvent)
      (hlookup : m.sessions.lookup request.authenticationToken = some session)
      (hsigned : m.signatureAccepted session request = true)
      (hfresh : session.activated = false)
      (hanonymous : request.allowAnonymous = true) :
      Begins request now
        { manager := m.withSession request.authenticationToken
            (activatedState session request none now)
          audits := audits
          result := .answered
            { serviceContext := { peer := request.peer }
              authenticationResult := session.authenticationResult } }
  | authenticating (session : SessionState) (pending : PendingActivation)
      (hlookup : m.sessions.lookup request.authenticationToken = some session)
      (hfresh : session.activated = false)
      (hnamed : request.allowAnonymous = false)
      (hrequest : pending.request = request)
      (huserName : request.userName = some pending.userName)
      (hpassword : m.PresentsPassword session.serverNonce request
        pending.password) :
      Begins request now
        { manager := m, result := .authenticating pending }

theorem Begins.removed_eq {m : ServerSessionManager}
    {request : ActivateSessionRequest} {now : DateTime}
    {outcome : ManagerOutcome ActivationProgress}
    (h : m.Begins request now outcome) : outcome.removed = [] := by
  cases h <;> rfl

theorem requestAuthentication_begins (session : SessionState)
    (request : ActivateSessionRequest) (now : DateTime)
    (hlookup : m.sessions.lookup request.authenticationToken = some session)
    (hfresh : session.activated = false)
    (hnamed : request.allowAnonymous = false) :
    m.Begins request now (m.requestAuthentication session request) := by
  unfold requestAuthentication
  split
  · exact .rejected _ _ .identityTokenRejected
  · simp only
    split
    · exact .rejected _ _ .identityTokenRejected
    next password hpassword =>
      split
      next userName text huserName =>
        refine .authenticating session _ hlookup hfresh hnamed rfl huserName ?_
        unfold PresentsPassword
        split at hpassword
        next hplain =>
          rw [if_pos hplain]
          exact Option.some.inj hpassword
        next hplain =>
          rw [if_neg hplain]
          obtain ⟨recovered, hrecovered, heq⟩ :=
            Option.map_eq_some_iff.mp hpassword
          exact ⟨recovered, hrecovered, (Option.some.inj heq).symm⟩
      next => exact .rejected _ _ .identityTokenRejected

theorem beginActivation_begins (request : ActivateSessionRequest)
    (now : DateTime) : m.Begins request now (m.beginActivation request now) := by
  unfold beginActivation
  split
  · exact .rejected _ _ .sessionIdInvalid
  next session hlookup =>
    split
    · exact .rejected _ _ .applicationSignatureInvalid
    next hsigned =>
      have hsigned : m.signatureAccepted session request = true := by
        simpa using hsigned
      split
      next hactivated => exact .resumed session hlookup hsigned hactivated
      next hfresh =>
        have hfresh : session.activated = false := by simpa using hfresh
        split
        next hanonymous =>
          unfold finishActivation
          rw [hlookup]
          exact .anonymous session _ hlookup hsigned hfresh hanonymous
        next hnamed =>
          exact m.requestAuthentication_begins session request now hlookup
            hfresh (by simpa using hnamed)

/-- The manager from which a single-session user's other sessions are evicted. -/
def evict (auth : AuthenticationResult) : ManagerOutcome Unit :=
  if auth.multiSessions then { manager := m, result := () }
  else m.removeSessionsByUser auth.userId

theorem evict_lookup (auth : AuthenticationResult) (token : NodeId) :
    (m.evict auth).manager.sessions.lookup token =
      (m.sessions.lookup token).filter fun session =>
        auth.multiSessions || !session.belongsTo auth.userId := by
  unfold evict
  split
  next hmulti =>
    cases m.sessions.lookup token <;> simp [Option.filter, hmulti]
  next hsingle =>
    rw [removeSessionsByUser_lookup]
    simp [hsingle]

theorem mem_evict_removed (auth : AuthenticationResult) (token : NodeId) :
    token ∈ (m.evict auth).removed ↔
      ∃ session, m.sessions.lookup token = some session ∧
        auth.multiSessions = false ∧ session.belongsTo auth.userId = true := by
  unfold evict
  split
  next hmulti => simp [hmulti]
  next hsingle =>
    rw [mem_removeSessionsByUser_removed]
    simp [hsingle]

/-- The gate for single-session users lets the activation through. -/
def Admits (request : ActivateSessionRequest) (auth : AuthenticationResult) :
    Prop :=
  auth.multiSessions = true ∨ request.deleteExisting = true ∨
    m.hasAttachedSessionForUser auth.userId = false

/-- The outcomes of `ActivateSession` from the authenticator's answer on. -/
inductive Completes (pending : PendingActivation)
    (reply : StatusOr AuthenticationResult) (now : DateTime) :
    ManagerOutcome ActivateSessionResponse → Prop where
  | refused (status : Status) (hbad : status.isBad = true)
      (hreply : reply = .error status hbad) (audits : List SessionAuditEvent) :
      Completes pending reply now
        { manager := m, audits := audits, result := { status := status } }
  | alreadyLoggedOn (auth : AuthenticationResult) (hreply : reply = .ok auth)
      (hgate : ¬m.Admits pending.request auth)
      (audits : List SessionAuditEvent) :
      Completes pending reply now
        { manager := m
          audits := audits
          result := { status := .ofCode .badUserIsAlreadyLoggedOn } }
  | missing (auth : AuthenticationResult) (hreply : reply = .ok auth)
      (hgate : m.Admits pending.request auth)
      (hlookup : (m.evict auth).manager.sessions.lookup
        pending.request.authenticationToken = none) :
      Completes pending reply now
        { manager := (m.evict auth).manager
          removed := (m.evict auth).removed
          result := { status := .ofCode .badSessionIdInvalid } }
  | activated (auth : AuthenticationResult) (hreply : reply = .ok auth)
      (hgate : m.Admits pending.request auth) (session : SessionState)
      (hlookup : (m.evict auth).manager.sessions.lookup
        pending.request.authenticationToken = some session)
      (audits : List SessionAuditEvent) :
      Completes pending reply now
        { manager := (m.evict auth).manager.withSession
            pending.request.authenticationToken
            (activatedState session pending.request (some auth) now)
          removed := (m.evict auth).removed
          audits := audits
          result :=
            { serviceContext :=
                { userId := auth.userId
                  userRights := auth.userRights
                  peer := pending.request.peer }
              authenticationResult := some auth } }

theorem completeActivation_completes (pending : PendingActivation)
    (reply : StatusOr AuthenticationResult) (now : DateTime) :
    m.Completes pending reply now
      (m.completeActivation pending reply now) := by
  have hadmitted : ∀ auth, reply = .ok auth → m.Admits pending.request auth →
      m.Completes pending reply now
        { (m.evict auth).manager.finishActivation pending.request auth now with
          removed := (m.evict auth).removed ++
            ((m.evict auth).manager.finishActivation pending.request auth
              now).removed } := by
    intro auth hreply hgate
    unfold finishActivation
    split
    next hlookup =>
      rw [List.append_nil]
      exact .missing auth hreply hgate hlookup
    next session hlookup =>
      rw [List.append_nil]
      exact .activated auth hreply hgate session hlookup _
  unfold completeActivation
  split
  next status hbad => exact .refused status hbad rfl _
  next auth =>
    split
    next hmulti =>
      have h := hadmitted auth rfl (.inl hmulti)
      simpa [evict, hmulti] using h
    next hsingle =>
      split
      next hgate =>
        refine .alreadyLoggedOn auth rfl ?_ _
        simp only [Bool.and_eq_true, Bool.not_eq_true'] at hgate
        simp [Admits, hsingle, hgate.1, hgate.2]
      next hgate =>
        have hadmits : m.Admits pending.request auth := by
          by_cases hdelete : pending.request.deleteExisting = true
          · exact .inr (.inl hdelete)
          · exact .inr (.inr (by simpa [hdelete] using hgate))
        have h := hadmitted auth rfl hadmits
        simpa [evict, hsingle] using h

end ServerSessionManager

end OpcuaStack
