import OpcuaStack.KeyedMap
import OpcuaStack.SessionMessages

/-!
# The session manager

`session/server_session_manager.cpp`.  The manager owns session identity and
lifetime.  `ActivateSession` suspends in the authenticator, so it is two
functions here: one up to the call of `Authenticate`, one from its answer on.
Everything a call reads from outside (the two clock readings, the generated
nonce, the authenticator's answer) is an argument; everything it hands to a
callback (removed tokens, audit events) is returned.
-/

namespace OpcuaStack

/-- The part of `ServerSessionManagerContext` which decides anything, with the
cryptography the manager calls. -/
structure ServerSessionManagerContext where
  serverCertificate : ByteString := []
  /-- Whether a signature over the data verifies under the public key of a DER
  certificate; false if the certificate does not load. -/
  verifySignature : (certificate data signature : ByteString) → Bool :=
    fun _ _ _ => false
  decryptUserToken : Option (ByteString → StatusOr ByteString) := none
  /-- UTF-8 to UTF-16, as `ToLocalizedText` converts. -/
  utf8ToWide : ByteText → WideText := List.map UInt8.toUInt16
  requireEncryptionForPassword : Bool := false
  defaultTimeout : Duration := ⟨10 * 60 * 1000⟩
  minTimeout : Duration := ⟨30 * 1000⟩
  maxTimeout : Duration := ⟨60 * 60 * 1000⟩
  sessionNamespaceIndex : UInt16 := 2
  tokenNamespaceIndex : UInt16 := 3

/-- `ServerSessionManager::SessionState`.  The authentication token is the key
under which the manager holds the state. -/
structure SessionState where
  sessionId : NodeId
  serverNonce : ByteString
  clientCertificate : ByteString
  revisedTimeout : Duration
  expiresAt : DateTime
  serviceContext : ServiceContext := {}
  authenticationResult : Option AuthenticationResult := none
  activated : Bool := false
  attached : Bool := false
  peer : ByteText := []

inductive SessionAuditKind where
  | activateSuccess
  | activateFailure
deriving DecidableEq, Repr

structure SessionAuditEvent where
  kind : SessionAuditKind
  sessionId : NodeId
  userId : NodeId
  status : Status
  message : String
  peer : ByteText

structure ServerSessionManager where
  context : ServerSessionManagerContext
  sessions : KeyedMap NodeId SessionState := ∅
  nextSessionId : UInt32 := 1
  nextTokenId : UInt32 := 1

/-- What a call does: the manager afterwards, the tokens handed to the
session-removed callback, the audit events, and the result. -/
structure ManagerOutcome (ρ : Type) where
  manager : ServerSessionManager
  removed : List NodeId := []
  audits : List SessionAuditEvent := []
  result : ρ

structure PendingActivation where
  request : ActivateSessionRequest
  sessionId : NodeId
  userName : LocalizedText
  password : LocalizedText

/-- How far `ActivateSession` gets without the authenticator. -/
inductive ActivationProgress where
  | answered (response : ActivateSessionResponse)
  | authenticating (pending : PendingActivation)

def ManagerOutcome.answered (outcome : ManagerOutcome ActivateSessionResponse) :
    ManagerOutcome ActivationProgress :=
  { manager := outcome.manager
    removed := outcome.removed
    audits := outcome.audits
    result := .answered outcome.result }

def SessionState.belongsTo (session : SessionState) (userId : NodeId) : Bool :=
  session.authenticationResult.any fun result => result.userId == userId

def SessionState.expiredAt (session : SessionState) (now : DateTime) : Bool :=
  decide (session.expiresAt.ticks ≤ now.ticks)

namespace ServerSessionManager

def reviseTimeout (m : ServerSessionManager) (requested : Duration) : Duration :=
  if requested.milliseconds = 0 then m.context.defaultTimeout
  else if requested.milliseconds < m.context.minTimeout.milliseconds then
    m.context.minTimeout
  else if m.context.maxTimeout.milliseconds < requested.milliseconds then
    m.context.maxTimeout
  else requested

def nextToken (m : ServerSessionManager) : NodeId :=
  ⟨.numeric m.nextTokenId, m.context.tokenNamespaceIndex⟩

/-- `MakeServerNonce`; `generated` is the answer of `GenerateNonce`. -/
def makeServerNonce (generated : StatusOr ByteString) : ByteString :=
  match generated with
  | .ok nonce => nonce
  | .error _ _ => List.replicate 32 0

def pruneExpiredSessions (m : ServerSessionManager) (now : DateTime) :
    ManagerOutcome Unit :=
  { manager := { m with
      sessions := m.sessions.eraseIf fun _ session => session.expiredAt now }
    removed := m.sessions.keysWhere fun _ session => session.expiredAt now
    result := () }

def removeSessionsByUser (m : ServerSessionManager) (userId : NodeId) :
    ManagerOutcome Unit :=
  { manager := { m with
      sessions := m.sessions.eraseIf fun _ session => session.belongsTo userId }
    removed := m.sessions.keysWhere fun _ session => session.belongsTo userId
    result := () }

def hasAttachedSessionForUser (m : ServerSessionManager) (userId : NodeId) :
    Bool :=
  m.sessions.anyValue fun session =>
    session.attached && session.belongsTo userId

/-- `CreateSession` after pruning. -/
def admitSession (m : ServerSessionManager) (request : CreateSessionRequest)
    (generated : StatusOr ByteString) (now : DateTime) :
    ServerSessionManager × CreateSessionResponse :=
  if request.channelSecure && (request.clientCertificate.isEmpty ||
      request.clientCertificate != request.channelCertificate) then
    (m, { status := .ofCode .badApplicationSignatureInvalid })
  else
    let revisedTimeout := m.reviseTimeout request.requestedTimeout
    let sessionId : NodeId :=
      ⟨.numeric m.nextSessionId, m.context.sessionNamespaceIndex⟩
    let session : SessionState :=
      { sessionId := sessionId
        serverNonce := makeServerNonce generated
        clientCertificate := request.clientCertificate
        revisedTimeout := revisedTimeout
        expiresAt := now.add revisedTimeout
        peer := request.peer }
    ({ m with
        nextSessionId := m.nextSessionId + 1
        nextTokenId := m.nextTokenId + 1
        sessions := m.sessions.insert m.nextToken session },
      { status := .good
        sessionId := sessionId
        authenticationToken := m.nextToken
        serverNonce := session.serverNonce
        serverCertificate := m.context.serverCertificate
        revisedTimeout := revisedTimeout })

def createSession (m : ServerSessionManager) (request : CreateSessionRequest)
    (generated : StatusOr ByteString) (pruneTime now : DateTime) :
    ManagerOutcome CreateSessionResponse :=
  let pruned := m.pruneExpiredSessions pruneTime
  let (manager, response) := pruned.manager.admitSession request generated now
  { manager := manager, removed := pruned.removed, result := response }

/-! ## Activation -/

/-- The client signature check of `ActivateSession`. -/
def signatureAccepted (m : ServerSessionManager) (session : SessionState)
    (request : ActivateSessionRequest) : Bool :=
  session.clientCertificate.isEmpty ||
    (!request.clientSignature.isEmpty &&
      m.context.verifySignature session.clientCertificate
        (m.context.serverCertificate ++ session.serverNonce)
        request.clientSignature)

def recoverEncryptedPassword (m : ServerSessionManager)
    (ciphertext serverNonce : ByteString) : Option ByteText :=
  match m.context.decryptUserToken with
  | none => none
  | some decrypt =>
      match decrypt ciphertext with
      | .error _ _ => none
      | .ok plaintext =>
          match plaintext with
          | b0 :: b1 :: b2 :: b3 :: secret =>
              let length := b0.toNat + b1.toNat * 2 ^ 8 + b2.toNat * 2 ^ 16 +
                b3.toNat * 2 ^ 24
              if secret.length < length ∨ length < serverNonce.length then none
              else
                let passwordLength := length - serverNonce.length
                if (secret.drop passwordLength).take serverNonce.length =
                    serverNonce then
                  some (secret.take passwordLength)
                else none
          | _ => none

/-- The branch of `ActivateSession` for a session activated before. -/
def resumeSession (m : ServerSessionManager) (session : SessionState)
    (request : ActivateSessionRequest) (now : DateTime) :
    ServerSessionManager × ActivateSessionResponse :=
  let session := { session with
    attached := true
    expiresAt := now.add session.revisedTimeout
    peer := request.peer
    serviceContext := { session.serviceContext with peer := request.peer } }
  ({ m with sessions := m.sessions.insert request.authenticationToken session },
    { status := .good
      serviceContext := session.serviceContext
      authenticationResult := session.authenticationResult
      resumed := true })

/-- The session as the last part of `ActivateSession` writes it. -/
def activatedState (session : SessionState) (request : ActivateSessionRequest)
    (authResult : Option AuthenticationResult) (now : DateTime) : SessionState :=
  { session with
    authenticationResult := authResult.or session.authenticationResult
    serviceContext :=
      match authResult with
      | some auth =>
          { userId := auth.userId
            userRights := auth.userRights
            peer := request.peer }
      | none => { peer := request.peer }
    peer := request.peer
    activated := true
    attached := true
    expiresAt := now.add session.revisedTimeout }

/-- The last part of `ActivateSession`, from the second look-up on. -/
def finishActivation (m : ServerSessionManager) (request : ActivateSessionRequest)
    (authResult : Option AuthenticationResult) (now : DateTime) :
    ManagerOutcome ActivateSessionResponse :=
  match m.sessions.lookup request.authenticationToken with
  | none =>
      { manager := m, result := { status := .ofCode .badSessionIdInvalid } }
  | some session =>
      let session := activatedState session request authResult now
      { manager := { m with
          sessions := m.sessions.insert request.authenticationToken session }
        audits := [
          { kind := .activateSuccess
            sessionId := session.sessionId
            userId := (authResult.map (·.userId)).getD {}
            status := .good
            message :=
              if authResult.isSome then "session activated"
              else "anonymous session activated"
            peer := session.peer }]
        result :=
          { status := .good
            serviceContext := session.serviceContext
            authenticationResult := session.authenticationResult
            resumed := false } }

/-- A rejection of an activation, with its audit event. -/
def rejectActivation (m : ServerSessionManager) (sessionId userId : NodeId)
    (status : Status) (message : String) (peer : ByteText) :
    ManagerOutcome ActivateSessionResponse :=
  { manager := m
    audits := [
      { kind := .activateFailure
        sessionId := sessionId
        userId := userId
        status := status
        message := message
        peer := peer }]
    result := { status := status } }

/-- The part of `ActivateSession` which prepares the credentials of a session
not activated before. -/
def requestAuthentication (m : ServerSessionManager) (session : SessionState)
    (request : ActivateSessionRequest) : ManagerOutcome ActivationProgress :=
  if m.context.requireEncryptionForPassword && !request.channelSecure &&
      request.passwordEncryptionAlgorithm.isEmpty then
    (m.rejectActivation session.sessionId {}
      (.ofCode .badIdentityTokenRejected)
      "password token on unsecured channel" request.peer).answered
  else
    let password : Option (Option LocalizedText) :=
      if request.passwordEncryptionAlgorithm.isEmpty then some request.password
      else
        (m.recoverEncryptedPassword request.encryptedPassword
          session.serverNonce).map fun text =>
            some { text := m.context.utf8ToWide text }
    match password with
    | none =>
        { manager := m
          result := .answered { status := .ofCode .badIdentityTokenRejected } }
    | some password =>
        match request.userName, password with
        | some userName, some password =>
            { manager := m
              result := .authenticating
                { request := request
                  sessionId := session.sessionId
                  userName := userName
                  password := password } }
        | _, _ =>
            (m.rejectActivation session.sessionId {}
              (.ofCode .badIdentityTokenRejected) "missing credentials"
              request.peer).answered

/-- `ActivateSession` after pruning, up to the call of `Authenticate`. -/
def beginActivation (m : ServerSessionManager) (request : ActivateSessionRequest)
    (now : DateTime) : ManagerOutcome ActivationProgress :=
  match m.sessions.lookup request.authenticationToken with
  | none =>
      { manager := m
        result := .answered { status := .ofCode .badSessionIdInvalid } }
  | some session =>
      if !m.signatureAccepted session request then
        { manager := m
          result := .answered
            { status := .ofCode .badApplicationSignatureInvalid } }
      else if session.activated then
        let (manager, response) := m.resumeSession session request now
        { manager := manager, result := .answered response }
      else if request.allowAnonymous then
        (m.finishActivation request none now).answered
      else m.requestAuthentication session request

/-- `ActivateSession` up to the call of `Authenticate`. -/
def activateSession (m : ServerSessionManager) (request : ActivateSessionRequest)
    (pruneTime now : DateTime) : ManagerOutcome ActivationProgress :=
  let pruned := m.pruneExpiredSessions pruneTime
  let outcome := pruned.manager.beginActivation request now
  { outcome with removed := pruned.removed ++ outcome.removed }

/-- `ActivateSession` from the authenticator's answer on. -/
def completeActivation (m : ServerSessionManager) (pending : PendingActivation)
    (reply : StatusOr AuthenticationResult) (now : DateTime) :
    ManagerOutcome ActivateSessionResponse :=
  match reply with
  | .error status _ =>
      m.rejectActivation pending.sessionId {} status "authentication failed"
        pending.request.peer
  | .ok auth =>
      if auth.multiSessions then m.finishActivation pending.request auth now
      else if m.hasAttachedSessionForUser auth.userId &&
          !pending.request.deleteExisting then
        m.rejectActivation pending.sessionId auth.userId
          (.ofCode .badUserIsAlreadyLoggedOn) "user already logged on"
          pending.request.peer
      else
        let evicted := m.removeSessionsByUser auth.userId
        let outcome := evicted.manager.finishActivation pending.request auth now
        { outcome with removed := evicted.removed ++ outcome.removed }

/-! ## Closing and detaching -/

def closeSession (m : ServerSessionManager) (request : CloseSessionRequest) :
    ManagerOutcome CloseSessionResponse :=
  match m.sessions.lookup request.authenticationToken with
  | none =>
      { manager := m, result := { status := .ofCode .badSessionIdInvalid } }
  | some _ =>
      { manager := { m with
          sessions := m.sessions.erase request.authenticationToken }
        removed := [request.authenticationToken]
        result := { status := .good } }

def detachSession (m : ServerSessionManager) (token : NodeId) :
    ServerSessionManager :=
  { m with
    sessions := m.sessions.modify token fun session =>
      { session with attached := false } }

end ServerSessionManager

end OpcuaStack
