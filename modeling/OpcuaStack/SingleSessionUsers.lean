import OpcuaStack.GuardedRun
import OpcuaStack.SessionManagerTransitions

/-!
# Single-session users

Runs of the session manager alone, with any number of activations suspended in
the authenticator.  A user whom the authenticator reports without
`multi_sessions` never has two sessions, in whichever order the suspended
activations complete.
-/

namespace OpcuaStack

/-- The manager and the activations suspended in its authenticator. -/
structure ManagerState where
  manager : ServerSessionManager
  activations : ℕ → Option PendingActivation := fun _ => none
  nextActivation : ℕ := 0

inductive ManagerCall where
  | createSession (request : CreateSessionRequest)
      (generated : StatusOr ByteString) (pruneTime now : DateTime)
  | activateSession (request : ActivateSessionRequest) (pruneTime now : DateTime)
  | authenticated (activation : ℕ) (reply : StatusOr AuthenticationResult)
      (now : DateTime)
  | closeSession (request : CloseSessionRequest)
  | detachSession (token : NodeId)
  | pruneExpiredSessions (now : DateTime)

namespace ManagerState

/-- The manager after a call, and the response if the call answers an
activation. -/
def step (state : ManagerState) (call : ManagerCall) :
    ManagerState × Option ActivateSessionResponse :=
  match call with
  | .createSession request generated pruneTime now =>
      ({ state with manager :=
          (state.manager.createSession request generated pruneTime now).manager },
        none)
  | .activateSession request pruneTime now =>
      let outcome := state.manager.activateSession request pruneTime now
      match outcome.result with
      | .answered response =>
          ({ state with manager := outcome.manager }, some response)
      | .authenticating pending =>
          ({ manager := outcome.manager
             activations := Function.update state.activations
               state.nextActivation (some pending)
             nextActivation := state.nextActivation + 1 },
            none)
  | .authenticated activation reply now =>
      match state.activations activation with
      | none => (state, none)
      | some pending =>
          let outcome := state.manager.completeActivation pending reply now
          ({ state with
              manager := outcome.manager
              activations := Function.update state.activations activation none },
            some outcome.result)
  | .closeSession request =>
      ({ state with manager := (state.manager.closeSession request).manager },
        none)
  | .detachSession token =>
      ({ state with manager := state.manager.detachSession token }, none)
  | .pruneExpiredSessions now =>
      ({ state with
          manager := (state.manager.pruneExpiredSessions now).manager },
        none)

/-- The authenticator reports the user without `multi_sessions`. -/
def ReportsSingle (userId : NodeId) : ManagerCall → Prop
  | .authenticated _ (.ok auth) _ =>
      auth.userId = userId → auth.multiSessions = false
  | _ => True

end ManagerState

namespace ServerSessionManager

def SingleSession (userId : NodeId) (m : ServerSessionManager) : Prop :=
  ∀ token session other session',
    m.sessions.lookup token = some session → session.belongsTo userId = true →
      m.sessions.lookup other = some session' →
        session'.belongsTo userId = true → token = other

theorem SingleSession.shrink {userId : NodeId} {m m' : ServerSessionManager}
    (h : SingleSession userId m)
    (hshrink : ∀ token session, m'.sessions.lookup token = some session →
      session.belongsTo userId = true →
        ∃ old, m.sessions.lookup token = some old ∧
          old.belongsTo userId = true) : SingleSession userId m' := by
  intro token session other session' hsession huser hsession' huser'
  obtain ⟨old, hold, holdUser⟩ := hshrink token session hsession huser
  obtain ⟨old', hold', holdUser'⟩ := hshrink other session' hsession' huser'
  exact h token old other old' hold holdUser hold' holdUser'

theorem SingleSession.filter {userId : NodeId} {m m' : ServerSessionManager}
    (h : SingleSession userId m) {keep : SessionState → Bool}
    (hlookup : ∀ token, m'.sessions.lookup token =
      (m.sessions.lookup token).filter keep) : SingleSession userId m' := by
  apply h.shrink
  intro token session hsession huser
  rw [hlookup, Option.filter_eq_some_iff] at hsession
  exact ⟨session, hsession.1, huser⟩

theorem SingleSession.withSession {userId : NodeId} {m : ServerSessionManager}
    (h : SingleSession userId m) {token : NodeId} {session : SessionState}
    (hsession : session.belongsTo userId = true →
      ∃ old, m.sessions.lookup token = some old ∧
        old.belongsTo userId = true) :
    SingleSession userId (m.withSession token session) := by
  apply h.shrink
  intro other session' hlookup huser
  rw [ServerSessionManager.withSession, KeyedMap.lookup_insert_eq] at hlookup
  split at hlookup
  next heq =>
    subst heq
    simp only [Option.some.injEq] at hlookup
    subst hlookup
    exact hsession huser
  next => exact ⟨session', hlookup, huser⟩

theorem createSession_singleSession {userId : NodeId} {m : ServerSessionManager}
    (h : SingleSession userId m) (request : CreateSessionRequest)
    (generated : StatusOr ByteString) (pruneTime now : DateTime) :
    SingleSession userId
      (m.createSession request generated pruneTime now).manager := by
  have hpruned := h.filter (m.pruneExpiredSessions_lookup pruneTime)
  unfold createSession
  rcases admitSession_cases (m.pruneExpiredSessions pruneTime).manager request
    generated now with ⟨_, hsame, _⟩ | ⟨session, _, hnew, hmanager, _⟩
  · simp only [hsame]
    exact hpruned
  · simp only [hmanager]
    refine SingleSession.withSession hpruned fun huser => ?_
    simp [SessionState.belongsTo, hnew.authenticationResult] at huser

theorem Begins.singleSession {userId : NodeId} {m : ServerSessionManager}
    (h : SingleSession userId m) {request : ActivateSessionRequest}
    {now : DateTime} {outcome : ManagerOutcome ActivationProgress}
    (hbegins : m.Begins request now outcome) :
    SingleSession userId outcome.manager := by
  cases hbegins with
  | rejected response audits hstatus => exact h
  | resumed session hlookup hsigned hactivated =>
      exact h.withSession fun huser => ⟨session, hlookup, huser⟩
  | anonymous session audits hlookup hsigned hfresh hanonymous =>
      exact h.withSession fun huser => ⟨session, hlookup, huser⟩
  | authenticating session pending hlookup hfresh hnamed hrequest huserName
      hpassword => exact h

/-- After eviction the user holds no session, so the one being activated is the
only one. -/
theorem Completes.singleSession {userId : NodeId} {m : ServerSessionManager}
    (h : SingleSession userId m) {pending : PendingActivation}
    {reply : StatusOr AuthenticationResult} {now : DateTime}
    {outcome : ManagerOutcome ActivateSessionResponse}
    (hcompletes : m.Completes pending reply now outcome)
    (hsingle : ∀ auth, reply = .ok auth → auth.userId = userId →
      auth.multiSessions = false) :
    SingleSession userId outcome.manager := by
  have hevicted : ∀ auth, SingleSession userId (m.evict auth).manager :=
    fun auth => h.filter (m.evict_lookup auth)
  cases hcompletes with
  | refused status hbad hreply audits => exact h
  | alreadyLoggedOn auth hreply hgate audits => exact h
  | missing auth hreply hgate hlookup => exact hevicted auth
  | activated auth hreply hgate session hlookup audits =>
      by_cases huser : auth.userId = userId
      · have hnone : ∀ token session,
            (m.evict auth).manager.sessions.lookup token = some session →
              session.belongsTo userId = false := by
          intro token session hsession
          rw [evict_lookup, Option.filter_eq_some_iff] at hsession
          simpa [hsingle auth hreply huser, huser] using hsession.2
        -- only the token being activated can hold the user now
        have honly : ∀ token session',
            ((m.evict auth).manager.withSession
              pending.request.authenticationToken
              (activatedState session pending.request (some auth)
                now)).sessions.lookup token = some session' →
              session'.belongsTo userId = true →
                token = pending.request.authenticationToken := by
          intro token session' hsession' huser'
          rw [withSession, KeyedMap.lookup_insert_eq] at hsession'
          split at hsession'
          next heq => exact heq
          next =>
            rw [hnone token session' hsession'] at huser'
            contradiction
        intro token session₁ other session₂ h₁ huser₁ h₂ huser₂
        rw [honly token session₁ h₁ huser₁, honly other session₂ h₂ huser₂]
      · apply (hevicted auth).withSession
        intro hbelongs
        simp [SessionState.belongsTo, activatedState, huser] at hbelongs

theorem Begins.ne_alreadyLoggedOn {m : ServerSessionManager}
    {request : ActivateSessionRequest} {now : DateTime}
    {outcome : ManagerOutcome ActivationProgress}
    (hbegins : m.Begins request now outcome)
    {response : ActivateSessionResponse}
    (hresult : outcome.result = .answered response) :
    response.status ≠ .ofCode .badUserIsAlreadyLoggedOn := by
  have hgood : Status.good ≠ .ofCode .badUserIsAlreadyLoggedOn := by decide
  cases hbegins with
  | rejected other audits hrejects =>
      cases hresult
      exact hrejects.ne_alreadyLoggedOn
  | resumed session hlookup hsigned hactivated =>
      cases hresult
      exact hgood
  | anonymous session audits hlookup hsigned hfresh hanonymous =>
      cases hresult
      exact hgood
  | authenticating session pending hlookup hfresh hnamed hrequest huserName
      hpassword => simp at hresult

theorem Completes.manager_of_alreadyLoggedOn {m : ServerSessionManager}
    {pending : PendingActivation} {reply : StatusOr AuthenticationResult}
    {now : DateTime} {outcome : ManagerOutcome ActivateSessionResponse}
    (hcompletes : m.Completes pending reply now outcome)
    (hstatus : outcome.result.status = .ofCode .badUserIsAlreadyLoggedOn) :
    outcome.manager = m := by
  cases hcompletes with
  | refused status hbad hreply audits => rfl
  | alreadyLoggedOn auth hreply hgate audits => rfl
  | missing auth hreply hgate hlookup =>
      have hne : Status.ofCode .badSessionIdInvalid ≠
          .ofCode .badUserIsAlreadyLoggedOn := by decide
      exact absurd hstatus hne
  | activated auth hreply hgate session hlookup audits =>
      have hne : Status.good ≠ .ofCode .badUserIsAlreadyLoggedOn := by decide
      exact absurd hstatus hne

end ServerSessionManager

namespace ManagerState

open ServerSessionManager

theorem step_singleSession {userId : NodeId} {state : ManagerState}
    (h : SingleSession userId state.manager) (call : ManagerCall)
    (hcall : ReportsSingle userId call) :
    SingleSession userId (state.step call).1.manager := by
  cases call with
  | createSession request generated pruneTime now =>
      exact createSession_singleSession h request generated pruneTime now
  | activateSession request pruneTime now =>
      have hbegun := Begins.singleSession
        (h.filter (state.manager.pruneExpiredSessions_lookup pruneTime))
        (beginActivation_begins _ request now)
      unfold step
      simp only
      split <;> exact hbegun
  | authenticated activation reply now =>
      unfold step
      simp only
      split
      · exact h
      · apply Completes.singleSession h
          (completeActivation_completes _ _ reply now)
        intro auth hreply huser
        subst hreply
        exact hcall huser
  | closeSession request =>
      unfold step ServerSessionManager.closeSession
      simp only
      split
      · exact h
      · apply h.shrink
        intro token session hsession huser
        rw [KeyedMap.lookup_erase_eq] at hsession
        split at hsession
        · contradiction
        · exact ⟨session, hsession, huser⟩
  | detachSession token =>
      apply h.shrink
      intro other session hsession huser
      have hlookup := state.manager.detachSession_lookup token other
      rw [step] at hsession
      simp only at hsession
      rw [hlookup] at hsession
      split at hsession
      next heq =>
        obtain ⟨old, hold, rfl⟩ := Option.map_eq_some_iff.mp hsession
        exact ⟨old, heq ▸ hold, huser⟩
      next => exact ⟨session, hsession, huser⟩
  | pruneExpiredSessions now =>
      exact h.filter (state.manager.pruneExpiredSessions_lookup now)

/-- The call which answers an activation with Bad_UserIsAlreadyLoggedOn leaves
the manager as it was. -/
theorem step_alreadyLoggedOn {state : ManagerState} {call : ManagerCall}
    {response : ActivateSessionResponse}
    (hanswer : (state.step call).2 = some response)
    (hstatus : response.status = .ofCode .badUserIsAlreadyLoggedOn) :
    (state.step call).1.manager = state.manager := by
  cases call with
  | activateSession request pruneTime now =>
      unfold step at hanswer
      simp only at hanswer
      split at hanswer
      next other hresult =>
        cases hanswer
        exact absurd hstatus
          (Begins.ne_alreadyLoggedOn (beginActivation_begins _ request now)
            hresult)
      next => simp at hanswer
  | authenticated activation reply now =>
      cases hpending : state.activations activation with
      | none => simp [step, hpending] at hanswer
      | some pending =>
          simp only [step, hpending, Option.some.injEq] at hanswer ⊢
          subst hanswer
          exact Completes.manager_of_alreadyLoggedOn
            (completeActivation_completes _ pending reply now) hstatus
  | createSession request generated pruneTime now => simp [step] at hanswer
  | closeSession request => simp [step] at hanswer
  | detachSession token => simp [step] at hanswer
  | pruneExpiredSessions now => simp [step] at hanswer

/-- Suspending in the authenticator has removed the expired sessions and changed
no other. -/
theorem step_suspended {state : ManagerState} {request : ActivateSessionRequest}
    {pruneTime now : DateTime}
    (hanswer : (state.step (.activateSession request pruneTime now)).2 = none)
    (token : NodeId) :
    (state.step (.activateSession request pruneTime
        now)).1.manager.sessions.lookup token =
      (state.manager.sessions.lookup token).filter fun session =>
        !session.expiredAt pruneTime := by
  rw [← pruneExpiredSessions_lookup]
  have hbegins := (state.manager.pruneExpiredSessions
    pruneTime).manager.beginActivation_begins request now
  unfold step activateSession at hanswer ⊢
  simp only at hanswer ⊢
  generalize (state.manager.pruneExpiredSessions
    pruneTime).manager.beginActivation request now = outcome at *
  cases hbegins with
  | rejected other audits hrejects => simp at hanswer
  | resumed session hlookup hsigned hactivated => simp at hanswer
  | anonymous session audits hlookup hsigned hfresh hanonymous => simp at hanswer
  | authenticating session pending hlookup hfresh hnamed hrequest huserName
      hpassword => rfl

/-- The state after some calls on a manager without sessions. -/
def after (context : ServerSessionManagerContext) (calls : List ManagerCall) :
    ManagerState :=
  runFrom (fun state call => (state.step call).1)
    { manager := { context := context } } calls

/-- In every run in which the authenticator reports the user without
`multi_sessions`, the user holds at most one session.  An activation answered
with Bad_UserIsAlreadyLoggedOn removes at its start what had expired by then,
and its answer changes nothing at all. -/
theorem user_holds_at_most_one_session (context : ServerSessionManagerContext)
    (userId : NodeId) (calls : List ManagerCall)
    (hcalls : ∀ call ∈ calls, ReportsSingle userId call) :
    let state := after context calls
    SingleSession userId state.manager ∧
      (∀ call response, (state.step call).2 = some response →
        response.status = .ofCode .badUserIsAlreadyLoggedOn →
          (state.step call).1.manager = state.manager) ∧
      (∀ request pruneTime now,
        (state.step (.activateSession request pruneTime now)).2 = none →
          ∀ token, (state.step (.activateSession request pruneTime
              now)).1.manager.sessions.lookup token =
            (state.manager.sessions.lookup token).filter fun session =>
              !session.expiredAt pruneTime) := by
  refine ⟨?_, fun call response => step_alreadyLoggedOn,
    fun request pruneTime now => step_suspended⟩
  refine runFrom_invariant
    (P := fun state : ManagerState =>
      SingleSession userId state.manager)
    (fun state call h hcall => step_singleSession h call hcall) ?_
    (AllMeet.of_forall hcalls _)
  intro token session other session' hsession
  simp at hsession

/-- The user of the runs below, and the tokens their sessions get. -/
def operatorId : NodeId := ⟨.string [0x6f, 0x70], 1⟩

def tokenNumber (number : UInt32) : NodeId := ⟨.numeric number, 3⟩

def operatorActivates (token : NodeId) (time : DateTime) : ManagerCall :=
  .activateSession
    { authenticationToken := token
      userName := some { text := [0x6f, 0x70] }
      password := some { text := [0x70, 0x77] } } time time

/-- The operator logs on to a session of an hour.  Two more sessions are
created, the second of them for 30 seconds. -/
def operatorLogsOn : List ManagerCall :=
  [.createSession { requestedTimeout := ⟨3600000⟩ } (.ok []) {} {},
    operatorActivates (tokenNumber 1) {},
    .authenticated 0 (.ok { userId := operatorId }) {},
    .createSession { requestedTimeout := ⟨3600000⟩ } (.ok []) {} {},
    .createSession { requestedTimeout := ⟨30000⟩ } (.ok []) {} {}]

theorem operator_holds_at_most_one_session :
    (∀ call ∈ operatorLogsOn, ReportsSingle operatorId call) ∧
      SingleSession operatorId (after {} operatorLogsOn).manager := by
  have hcalls : ∀ call ∈ operatorLogsOn, ReportsSingle operatorId call := by
    simp [operatorLogsOn, operatorActivates, ReportsSingle]
  exact ⟨hcalls,
    (user_holds_at_most_one_session {} operatorId operatorLogsOn hcalls).1⟩

/-- A minute later the operator activates the second session and is told to be
logged on already, but the activation has removed the third session. -/
theorem rejected_activation_removes_expired_session :
    let minute : DateTime := ⟨600000000⟩
    let before := after {} operatorLogsOn
    let suspended := (before.step (operatorActivates (tokenNumber 2) minute)).1
    let answered := suspended.step
      (.authenticated 1 (.ok { userId := operatorId }) minute)
    answered.2.map (·.status) = some (.ofCode .badUserIsAlreadyLoggedOn) ∧
      (before.manager.sessions.lookup (tokenNumber 3)).isSome = true ∧
      (answered.1.manager.sessions.lookup (tokenNumber 3)).isSome = false := by
  decide +kernel

end ManagerState

end OpcuaStack
