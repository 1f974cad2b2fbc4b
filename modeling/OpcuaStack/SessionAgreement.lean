import OpcuaStack.SessionServiceTransitions

/-!
# Agreement between the runtime and the session manager

A token is activated in the manager, and it is registered in the runtime.  One
argument, with the relation between the two facts as a parameter, shows both
that every activated token is registered in every run, and that the two sets
are equal in every run in which no token is issued again while its session
lives.
-/

namespace OpcuaStack

def ServerSessionManager.Activated (m : ServerSessionManager) (token : NodeId) :
    Prop :=
  ∃ session, m.sessions.lookup token = some session ∧ session.activated = true

def ServerRuntime.Registered (r : ServerRuntime) (token : NodeId) : Prop :=
  (r.sessions.lookup token).isSome = true

namespace ServerRuntime

open ServerSessionManager

/-! ## The moves of the session services -/

theorem Serves.registered_iff {before after : ServerRuntime}
    (h : Serves before after) (token : NodeId) :
    after.Registered token ↔ before.Registered token := by
  rw [Registered, Registered, h.isSome_lookup]

theorem adopt_registered_iff (r : ServerRuntime) (manager : ServerSessionManager)
    (removed : List NodeId) (token : NodeId) :
    (r.adopt manager removed).Registered token ↔
      token ∉ removed ∧ r.Registered token := by
  rw [Registered, adopt_lookup, Registered]
  split
  next hmem => simp [hmem]
  next hmem => simp [hmem]

theorem register_registered_iff (r : ServerRuntime)
    (request : ActivateSessionRequest) (context : ServiceContext)
    (token : NodeId) :
    (r.register request context).Registered token ↔
      token = request.authenticationToken ∨ r.Registered token := by
  rw [Registered, register_lookup, Registered]
  split
  next heq => simp [heq]
  next hne => simp [hne]

@[simp] theorem withState_registered_iff (r : ServerRuntime) (token : NodeId)
    (session : SessionState) (other : NodeId) :
    (r.withState token session).Registered other ↔ r.Registered other :=
  Iff.rfl

@[simp] theorem admitted_registered_iff (r : ServerRuntime)
    (session : SessionState) (token : NodeId) :
    (r.admitted session).Registered token ↔ r.Registered token :=
  Iff.rfl

theorem withState_activated_iff (r : ServerRuntime) (token : NodeId)
    {session : SessionState} (hactivated : session.activated = true)
    (other : NodeId) :
    (r.withState token session).manager.Activated other ↔
      other = token ∨ r.manager.Activated other := by
  simp only [Activated, withState_state_lookup]
  split
  next heq => simp [heq, hactivated]
  next hne => simp [hne]

theorem admitted_activated_iff (r : ServerRuntime) {session : SessionState}
    (hfresh : session.activated = false) (token : NodeId) :
    (r.admitted session).manager.Activated token ↔
      token ≠ r.manager.nextToken ∧ r.manager.Activated token := by
  simp only [Activated, admitted_state_lookup]
  split
  next heq => simp [heq, hfresh]
  next hne => simp [hne]

end ServerRuntime

namespace ServerSessionManager

theorem Drops.activated_iff {before after : ServerSessionManager}
    {removed : List NodeId} (h : Drops before after removed) (token : NodeId) :
    after.Activated token ↔ token ∉ removed ∧ before.Activated token := by
  rw [Activated, h.lookup, Activated]
  split
  next hmem => simp [hmem]
  next hmem => simp [hmem]

theorem detachSession_activated_iff (m : ServerSessionManager)
    (token other : NodeId) :
    (m.detachSession token).Activated other ↔ m.Activated other := by
  rw [Activated, detachSession_lookup, Activated]
  split
  next heq =>
    subst heq
    cases m.sessions.lookup other <;> simp
  next => rfl

end ServerSessionManager

/-! ## Coupled sets -/

namespace ServerRuntime

open ServerSessionManager

/-- A token is activated in the manager and registered in the runtime as the
relation allows. -/
def Couples (rel : Prop → Prop → Prop) (r : ServerRuntime) : Prop :=
  ∀ token, rel (r.manager.Activated token) (r.Registered token)

def Covers : ServerRuntime → Prop :=
  Couples fun activated registered => activated → registered

theorem Covers.lookup_ne_none {r : ServerRuntime} (h : r.Covers)
    {token : NodeId} {session : SessionState}
    (hlookup : r.manager.sessions.lookup token = some session)
    (hactivated : session.activated = true) : r.sessions.lookup token ≠ none := by
  intro hlost
  have hregistered := h token ⟨session, hlookup, hactivated⟩
  simp [Registered, hlost] at hregistered

section Couples

variable {rel : Prop → Prop → Prop} {r : ServerRuntime}

theorem Couples.serves {after : ServerRuntime} (h : Couples rel r)
    (hserves : Serves r after) : Couples rel after := by
  intro token
  rw [hserves.manager, hserves.registered_iff]
  exact h token

theorem Couples.adopt (hfalse : rel False False) (h : Couples rel r)
    {manager : ServerSessionManager} {removed : List NodeId}
    (hdrops : r.manager.Drops manager removed) :
    Couples rel (r.adopt manager removed) := by
  intro token
  rw [adopt_manager, hdrops.activated_iff, adopt_registered_iff]
  by_cases hmem : token ∈ removed
  · simpa [hmem] using hfalse
  · simpa [hmem] using h token

theorem Couples.pruned (hfalse : rel False False) (h : Couples rel r)
    (now : DateTime) : Couples rel (r.pruned now) :=
  h.adopt hfalse (r.manager.pruneExpiredSessions_drops now)

theorem Couples.evicted (hfalse : rel False False) (h : Couples rel r)
    (auth : AuthenticationResult) : Couples rel (r.evicted auth) :=
  h.adopt hfalse (r.manager.evict_drops auth)

theorem Couples.resumed (h : Couples rel r) {request : ActivateSessionRequest}
    {session : SessionState}
    (hlookup : r.manager.sessions.lookup request.authenticationToken =
      some session)
    (hactivated : session.activated = true) (now : DateTime) :
    Couples rel (r.withState request.authenticationToken
      (resumedState session request now)) := by
  intro other
  have hother := h other
  have hbefore : r.manager.Activated request.authenticationToken :=
    ⟨session, hlookup, hactivated⟩
  have hkept : (resumedState session request now).activated = true := hactivated
  rw [r.withState_activated_iff _ hkept, withState_registered_iff]
  by_cases heq : other = request.authenticationToken
  · subst heq
    simpa [hbefore] using hother
  · simpa [heq] using hother

theorem Couples.writeSession (h : Couples rel r) {token : NodeId}
    (hregistered : r.Registered token) (session : ServerSession) :
    Couples rel (r.writeSession token session) := by
  intro other
  have hother := h other
  have hsame : (r.writeSession token session).Registered other ↔
      r.Registered other := by
    rw [Registered, ServerRuntime.writeSession, KeyedMap.lookup_insert_eq]
    split
    next heq => simp [heq, hregistered]
    next => rfl
  rw [hsame]
  exact hother

theorem Couples.register (htrue : rel True True) (h : Couples rel r)
    {request : ActivateSessionRequest} {session : SessionState}
    (hactivated : session.activated = true) (context : ServiceContext) :
    Couples rel ((r.withState request.authenticationToken session).register
      request context) := by
  intro token
  have hmanager := r.withState_activated_iff request.authenticationToken
    hactivated token
  rw [register_registered_iff]
  change rel ((r.withState request.authenticationToken
    session).manager.Activated token) _
  rw [hmanager]
  by_cases heq : token = request.authenticationToken
  · simpa [heq] using htrue
  · simpa [heq] using h token

theorem Couples.admitted (h : Couples rel r) {session : SessionState}
    (hfresh : session.activated = false)
    (hnext : rel False (r.Registered r.manager.nextToken)) :
    Couples rel (r.admitted session) := by
  intro token
  rw [r.admitted_activated_iff hfresh]
  by_cases heq : token = r.manager.nextToken
  · subst heq
    simpa using hnext
  · simpa [heq] using h token

theorem Couples.detach (h : Couples rel r) (connection : ConnectionState) :
    Couples rel (r.detach connection).1 := by
  unfold ServerRuntime.detach
  split
  · exact h
  · intro token
    rw [detachSession_activated_iff]
    exact h token

end Couples

end ServerRuntime

namespace ServerState

open ServerRuntime ServerSessionManager

/-- A session admitted by the action gets a token which the relation allows to
be registered already. -/
def AdmitsToken (rel : Prop → Prop → Prop) (state : ServerState) :
    ServerAction → Prop
  | .request connection (.createSession request) env =>
      certificateAccepted (channelCreateRequest
          (state.connectionFor connection env) request) = true →
        rel False ((state.runtime.pruned env.pruneTime).Registered
          state.runtime.manager.nextToken)
  | _ => True

theorem step_couples {rel : Prop → Prop → Prop} (htrue : rel True True)
    (hfalse : rel False False) {state : ServerState} {action : ServerAction}
    (h : Couples rel state.runtime) (hadmits : state.AdmitsToken rel action) :
    Couples rel (state.step action).1.runtime := by
  have htransition := state.step_transition action
  generalize state.step action = result at htransition ⊢
  cases htransition with
  | quiet hquiet hedits hreport => exact h.serves hquiet.serves
  | createSession connection request env outcome hcreates =>
      rw [settle_runtime]
      have hpruned := h.pruned hfalse env.pruneTime
      cases hcreates with
      | rejected response hrefused hbad => exact hpruned
      | created session haccepted hnew response hgood htoken =>
          exact hpruned.admitted hnew.activated (hadmits haccepted)
  | activateSession connection request env outcome hbegins =>
      rw [settle_runtime]
      have hpruned := h.pruned hfalse env.pruneTime
      cases hbegins with
      | rejected response hbad => exact hpruned
      | lost session hlookup hsigned hactivated hlost =>
          exact hpruned.resumed hlookup hactivated env.now
      | resumed session object hlookup hsigned hactivated hobject =>
          refine (hpruned.resumed hlookup hactivated env.now).writeSession ?_ _
          rw [withState_registered_iff, Registered, hobject]
          rfl
      | anonymous session hlookup hsigned hfresh hanonymous =>
          exact hpruned.register htrue rfl _
      | authenticating session pending hlookup hfresh hnamed hrequest huserName
          hpassword => exact hpruned
  | authenticated task connection pending reply now outcome htask hcompletes =>
      rw [settle_runtime]
      cases hcompletes with
      | refused status hbad hreply => exact h
      | alreadyLoggedOn auth hreply hgate => exact h
      | missing auth hreply hgate hlookup => exact h.evicted hfalse auth
      | activated auth hreply hgate session hlookup =>
          exact (h.evicted hfalse auth).register htrue rfl _
  | closeSession connection request env outcome hcloses =>
      rw [settle_runtime]
      cases hcloses with
      | missing hlookup => exact h
      | closed manager hdrops session hlookup => exact h.adopt hfalse hdrops
  | closeConnection connection => exact h.detach _
  | prune now => exact h.pruned hfalse now

theorem step_covers {state : ServerState} (h : state.runtime.Covers)
    (action : ServerAction) : (state.step action).1.runtime.Covers := by
  refine step_couples id id h ?_
  unfold AdmitsToken
  split <;> simp

end ServerState

namespace ServerRun

open ServerRuntime ServerSessionManager

/-- In every run, a token activated in the manager is registered. -/
theorem activated_registered (context : ServerSessionManagerContext)
    (operationLimits : OperationLimits) (actions : List ServerAction) :
    (runFrom step (start context operationLimits)
      actions).state.runtime.Covers := by
  refine runFrom_invariant_of_step
    (P := fun run : ServerRun => run.state.runtime.Covers)
    (fun run action h => ServerState.step_covers h action) ?_ actions
  rintro token ⟨session, hlookup, hactivated⟩
  simp [start] at hlookup

/-- No session which the action admits is given the token of an activated
session that is still alive. -/
def IssuesFreeToken (state : ServerState) : ServerAction → Prop
  | .request connection (.createSession request) env =>
      certificateAccepted (channelCreateRequest
          (state.connectionFor connection env) request) = true →
        ¬(state.runtime.pruned env.pruneTime).manager.Activated
          state.runtime.manager.nextToken
  | _ => True

/-- The branch of a resumed activation which finds no session. -/
def ResumesLost (r : ServerRuntime) (request : ActivateSessionRequest)
    (response : ActivateSessionResponse) : Prop :=
  response.status.isBad = false ∧ response.resumed = true ∧
    r.sessions.lookup request.authenticationToken = none

theorem begins_not_lost {r : ServerRuntime}
    (h : r.Covers)
    {request : ActivateSessionRequest} {now : DateTime}
    {outcome : ManagerOutcome ActivationProgress}
    (hbegins : r.manager.Begins request now outcome)
    {response : ActivateSessionResponse}
    (hresult : outcome.result = .answered response) :
    ¬ResumesLost r request response := by
  rintro ⟨hgood, hresumed, hlost⟩
  cases hbegins with
  | rejected rejected audits hstatus =>
      obtain rfl : rejected = response := ActivationProgress.answered.inj hresult
      rw [hstatus.isBad] at hgood
      exact Bool.noConfusion hgood
  | resumed session hlookup hsigned hactivated =>
      exact absurd hlost (h.lookup_ne_none hlookup hactivated)
  | anonymous session audits hlookup hsigned hfresh hanonymous =>
      rw [← ActivationProgress.answered.inj hresult] at hresumed
      exact Bool.noConfusion hresumed
  | authenticating session pending hlookup hfresh hnamed hrequest huserName
      hpassword => exact ActivationProgress.noConfusion hresult

theorem activateSession_not_lost {r : ServerRuntime}
    (h : r.Covers)
    {request : ActivateSessionRequest} {pruneTime now : DateTime}
    {response : ActivateSessionResponse}
    (hresult : (r.manager.activateSession request pruneTime now).result =
      .answered response) :
    ¬ResumesLost (r.adopt
      (r.manager.activateSession request pruneTime now).manager
      (r.manager.activateSession request pruneTime now).removed)
      request response := by
  have hbegins := (r.pruned pruneTime).manager.beginActivation_begins request now
  have hnot := begins_not_lost (Couples.pruned id h pruneTime) hbegins hresult
  rintro ⟨hgood, hresumed, hlost⟩
  refine hnot ⟨hgood, hresumed, ?_⟩
  simp only [pruned, adopt_manager] at hbegins
  rw [adopt_lookup, ServerSessionManager.activateSession,
    hbegins.removed_eq, List.append_nil] at hlost
  rw [pruned, adopt_lookup]
  exact hlost

theorem completes_not_lost {m : ServerSessionManager}
    {pending : PendingActivation} {reply : StatusOr AuthenticationResult}
    {now : DateTime} {outcome : ManagerOutcome ActivateSessionResponse}
    (hcompletes : m.Completes pending reply now outcome) (r : ServerRuntime) :
    ¬ResumesLost r pending.request outcome.result := by
  rintro ⟨_, hresumed, _⟩
  cases hcompletes <;> exact Bool.noConfusion hresumed

/-- If no token is issued while an activated session still has it, the tokens
registered in the runtime are the tokens activated in the manager.  In every
such run the manager never resumes a session which the runtime lacks. -/
theorem registered_iff_activated (context : ServerSessionManagerContext)
    (operationLimits : OperationLimits) (actions : List ServerAction)
    (hfree : AllMeet step (fun run action => IssuesFreeToken run.state action)
      (start context operationLimits) actions) :
    let r := (runFrom step (start context operationLimits)
      actions).state.runtime
    (∀ token, r.Registered token ↔ r.manager.Activated token) ∧
      (∀ request pruneTime now response,
        (r.manager.activateSession request pruneTime now).result =
            .answered response →
          ¬ResumesLost (r.adopt
            (r.manager.activateSession request pruneTime now).manager
            (r.manager.activateSession request pruneTime now).removed)
            request response) ∧
      (∀ pending reply now,
        ¬ResumesLost (r.adopt
          (r.manager.completeActivation pending reply now).manager
          (r.manager.completeActivation pending reply now).removed)
          pending.request
          (r.manager.completeActivation pending reply now).result) := by
  refine ⟨fun token => ?_, fun request pruneTime now response hresult => ?_,
    fun pending reply now => ?_⟩
  · have hagree := runFrom_invariant
      (P := fun run : ServerRun => Couples Iff run.state.runtime)
      (fun run action h hfree => ?_) ?_ hfree
    · exact (hagree token).symm
    · refine ServerState.step_couples Iff.rfl Iff.rfl h ?_
      unfold ServerState.AdmitsToken
      split
      next connection request env =>
        intro haccepted
        have hpruned := h.pruned Iff.rfl env.pruneTime
        rw [← hpruned]
        exact (iff_false_intro (hfree haccepted)).symm
      next => trivial
    · intro token
      simp [start, Activated, Registered]
  · exact activateSession_not_lost
      (activated_registered context operationLimits actions) hresult
  · exact completes_not_lost
      (ServerSessionManager.completeActivation_completes _ pending reply now) _

/-! ## A token issued again -/

/-- The tokens of a server with the default configuration. -/
def defaultToken (number : UInt32) : NodeId := ⟨.numeric number, 3⟩

def atMillisecond (time : ℕ) : DateTime := ⟨time * 10000⟩

def creates (connection : ℕ) (time : DateTime) : ServerAction :=
  .request connection (.createSession {}) { pruneTime := time, now := time }

def activates (connection : ℕ) (token : NodeId) (time : DateTime) :
    ServerAction :=
  .request connection
    (.activateSession { authenticationToken := token, allowAnonymous := true })
    { pruneTime := time, now := time }

/-- The activation of a session as the user `op` with the given password. -/
def operatorRequest (token : NodeId) (password : WideText) :
    ActivateSessionRequest :=
  { authenticationToken := token
    userName := some { text := [0x6f, 0x70] }
    password := some { text := password } }

def logsOn (connection : ℕ) (token : NodeId) : ServerAction :=
  .request connection (.activateSession (operatorRequest token [0x70, 0x77])) {}

/-- The user the authenticator reports, who may have several sessions. -/
def operator : AuthenticationResult :=
  { userId := ⟨.string [0x6f, 0x70], 1⟩, multiSessions := true }

theorem first_session_registered_iff_activated :
    let r := (runFrom step (start {} {})
      [creates 0 {}, activates 0 (defaultToken 1) {}]).state.runtime
    (r.sessions.lookup (defaultToken 1)).isSome = true ∧
      ∀ token, r.Registered token ↔ r.manager.Activated token := by
  refine ⟨by decide +kernel, (registered_iff_activated {} {} _ ?_).1⟩
  refine ⟨fun _ => ?_, trivial, trivial⟩
  rintro ⟨session, hlookup, _⟩
  rw [pruned, adopt_manager, pruneExpiredSessions_lookup] at hlookup
  simp [start] at hlookup

theorem step_creates (state : ServerState) (connection : ℕ) (time : DateTime) :
    ∃ session, IsNew session time ∧
      (state.step (creates connection time)).1.runtime =
        (state.runtime.pruned time).admitted session := by
  have hcreates := state.runtime.handleCreateSession_creates
    (state.connectionFor connection { pruneTime := time, now := time }) {}
    { pruneTime := time, now := time }
  unfold creates ServerState.step
  simp only [ServerState.settle_runtime, handle]
  generalize state.runtime.handleCreateSession _ _ _ = outcome at hcreates ⊢
  cases hcreates with
  | rejected response hrefused hbad => exact Bool.noConfusion hrefused
  | created session haccepted hnew response hgood htoken =>
      exact ⟨session, hnew, rfl⟩

theorem step_activates_again (state : ServerState) (connection : ℕ)
    (token : NodeId) (time : DateTime) {session : SessionState}
    {object : ServerSession}
    (hlookup : (state.runtime.pruned time).manager.sessions.lookup token =
      some session)
    (hactivated : session.activated = true)
    (hcertificate : session.clientCertificate = [])
    (hobject : (state.runtime.pruned time).sessions.lookup token = some object) :
    ∃ context,
      (state.step (activates connection token time)).1.runtime =
        ((state.runtime.pruned time).withState token
          (resumedState session { peer := [] } time)).writeSession token
            { object with serviceContext := context } := by
  rw [pruned, adopt_manager] at hlookup
  refine ⟨(resumedState session { peer := [] } time).serviceContext, ?_⟩
  unfold activates ServerState.step
  simp only [ServerState.settle_runtime, handle, handleActivateSession,
    ServerSessionManager.activateSession, beginActivation, hlookup,
    signatureAccepted, hcertificate, hactivated, List.isEmpty_nil,
    Bool.true_or, Bool.not_true, Bool.false_eq_true, if_false, if_true,
    resumeSession, finishActivateSession, Status.isBad_good, List.append_nil]
  rw [adopt_lookup]
  rw [pruned, adopt_lookup] at hobject
  simp only [hobject, resumedState, hcertificate, hactivated]
  rfl

/-- The first session is alive and activated, so many sessions have been
created, and the first one was last activated at that millisecond. -/
structure KeepsFirst (created renewed : ℕ) (run : ServerRun) : Prop where
  namespaceIndex :
    run.state.runtime.manager.context.tokenNamespaceIndex = 3
  nextTokenId : run.state.runtime.manager.nextTokenId = .ofNat (created + 1)
  registered : ∃ object,
    run.state.runtime.sessions.lookup (defaultToken 1) = some object
  session : ∃ session,
    run.state.runtime.manager.sessions.lookup (defaultToken 1) = some session ∧
      session.activated = true ∧ session.clientCertificate = [] ∧
      session.revisedTimeout = ⟨600000⟩ ∧
      session.expiresAt = ⟨renewed * 10000 + 6000000000⟩

theorem add_ten_minutes (time : ℕ) (htime : time ≤ 2 ^ 32) :
    (atMillisecond time).add ⟨600000⟩ = ⟨time * 10000 + 6000000000⟩ := by
  have hdelta : saturatingTrunc ((600000 : ℚ) * 10 * 1000) = 6000000000 := by
    decide +kernel
  unfold DateTime.add atMillisecond
  simp only [hdelta]
  simp only [saturatedAdd, int64Max, int64Min]
  congr 1
  omega

theorem pruned_lookup_of_live {r : ServerRuntime} {token : NodeId}
    {session : SessionState} {now : DateTime}
    (hlookup : r.manager.sessions.lookup token = some session)
    (hlive : session.expiredAt now = false) :
    (r.pruned now).manager.sessions.lookup token = some session ∧
      (r.pruned now).sessions.lookup token = r.sessions.lookup token := by
  have hkept : token ∉ (r.manager.pruneExpiredSessions now).removed := by
    rw [mem_pruneExpiredSessions_removed]
    rintro ⟨other, hother, hexpired⟩
    rw [hlookup, Option.some.injEq] at hother
    rw [← hother, hlive] at hexpired
    exact Bool.noConfusion hexpired
  constructor
  · rw [pruned, adopt_manager, pruneExpiredSessions_lookup, hlookup]
    simp [Option.filter, hlive]
  · rw [pruned, adopt_lookup, if_neg hkept]

theorem KeepsFirst.live {created renewed : ℕ} {run : ServerRun}
    (h : KeepsFirst created renewed run) :
    ∃ session object,
      (run.state.runtime.pruned
        (atMillisecond (renewed + 1))).manager.sessions.lookup
          (defaultToken 1) = some session ∧
      (run.state.runtime.pruned (atMillisecond (renewed + 1))).sessions.lookup
          (defaultToken 1) = some object ∧
      session.activated = true ∧ session.clientCertificate = [] ∧
      session.revisedTimeout = ⟨600000⟩ ∧
      session.expiresAt = ⟨renewed * 10000 + 6000000000⟩ := by
  obtain ⟨session, hlookup, hactivated, hcertificate, htimeout, hexpires⟩ :=
    h.session
  obtain ⟨object, hobject⟩ := h.registered
  have hlive : session.expiredAt (atMillisecond (renewed + 1)) = false := by
    simp only [SessionState.expiredAt, hexpires, atMillisecond,
      decide_eq_false_iff_not]
    push_cast
    omega
  obtain ⟨hstate, hkept⟩ := pruned_lookup_of_live hlookup hlive
  exact ⟨session, object, hstate, hkept.trans hobject, hactivated, hcertificate,
    htimeout, hexpires⟩

theorem KeepsFirst.create {created renewed : ℕ} {run : ServerRun}
    (h : KeepsFirst created renewed run)
    (hother : UInt32.ofNat (created + 1) ≠ 1) :
    KeepsFirst (created + 1) renewed
      (run.step (creates 1 (atMillisecond (renewed + 1)))) := by
  obtain ⟨session, object, hstate, hobject, hfacts⟩ := h.live
  obtain ⟨admittedSession, hnew, hruntime⟩ :=
    step_creates run.state 1 (atMillisecond (renewed + 1))
  have hnamespace : (run.state.runtime.pruned
      (atMillisecond (renewed + 1))).manager.context.tokenNamespaceIndex = 3 :=
    h.namespaceIndex
  have hnext : (run.state.runtime.pruned
      (atMillisecond (renewed + 1))).manager.nextTokenId =
        .ofNat (created + 1) := h.nextTokenId
  have hdifferent : defaultToken 1 ≠ (run.state.runtime.pruned
      (atMillisecond (renewed + 1))).manager.nextToken := by
    unfold nextToken defaultToken
    rw [hnext]
    intro heq
    simp only [NodeId.mk.injEq, NodeIdentifier.numeric.injEq] at heq
    exact hother heq.1.symm
  constructor
  · rw [step_state, hruntime]
    exact hnamespace
  · rw [step_state, hruntime]
    change _ + 1 = _
    rw [hnext]
    simp
  · rw [step_state, hruntime]
    exact ⟨object, hobject⟩
  · rw [step_state, hruntime]
    refine ⟨session, ?_, hfacts⟩
    rw [admitted_state_lookup, if_neg hdifferent]
    exact hstate

theorem KeepsFirst.renew {created renewed : ℕ} {run : ServerRun}
    (h : KeepsFirst created renewed run) (htime : renewed + 1 ≤ 2 ^ 32) :
    KeepsFirst created (renewed + 1)
      (run.step (activates 0 (defaultToken 1) (atMillisecond (renewed + 1)))) := by
  obtain ⟨session, object, hstate, hobject, hactivated, hcertificate, htimeout,
    hexpires⟩ := h.live
  obtain ⟨context, hruntime⟩ := step_activates_again run.state 0
    (defaultToken 1) (atMillisecond (renewed + 1)) hstate hactivated hcertificate
    hobject
  constructor
  · rw [step_state, hruntime]
    exact h.namespaceIndex
  · rw [step_state, hruntime]
    exact h.nextTokenId
  · rw [step_state, hruntime]
    exact ⟨_, AList.lookup_insert _⟩
  · rw [step_state, hruntime]
    refine ⟨_, AList.lookup_insert _, hactivated, hcertificate, htimeout, ?_⟩
    simp only [resumedState, htimeout]
    exact_mod_cast add_ten_minutes (renewed + 1) htime

/-- The client of the first session keeps it alive while another client creates
one session each millisecond. -/
def round (time : ℕ) : List ServerAction :=
  [creates 1 (atMillisecond (time + 1)),
    activates 0 (defaultToken 1) (atMillisecond (time + 1))]

def rounds (count : ℕ) : List ServerAction :=
  [creates 0 (atMillisecond 0),
    activates 0 (defaultToken 1) (atMillisecond 0)] ++
    (List.range count).flatMap round

theorem keepsFirst_rounds (count : ℕ) (hcount : count < 2 ^ 32) :
    KeepsFirst (count + 1) count (runFrom step (start {} {}) (rounds count)) := by
  induction count with
  | zero =>
      constructor
      · decide +kernel
      · decide +kernel
      · exact Option.isSome_iff_exists.mp (by decide +kernel)
      · have hfacts : ((runFrom step (start {} {})
            (rounds 0)).state.runtime.manager.sessions.lookup
              (defaultToken 1)).any (fun session =>
                session.activated && session.clientCertificate.isEmpty &&
                  decide (session.revisedTimeout = ⟨600000⟩) &&
                  decide (session.expiresAt = ⟨6000000000⟩)) = true := by
          decide +kernel
        obtain ⟨session, hlookup, hsession⟩ :=
          (Option.any_eq_true _ _).mp hfacts
        refine ⟨session, hlookup, ?_⟩
        simpa [and_assoc] using hsession
  | succ count ih =>
      have hround := ih (by omega)
      have hother : UInt32.ofNat (count + 1 + 1) ≠ 1 := by
        intro heq
        have hnat := congrArg UInt32.toNat heq
        rw [UInt32.toNat_ofNat'] at hnat
        change (count + 1 + 1) % 2 ^ 32 = 1 at hnat
        omega
      have hnext := (hround.create hother).renew (by omega)
      have hsplit : runFrom step (start {} {}) (rounds (count + 1)) =
          runFrom step (runFrom step (start {} {}) (rounds count))
            (round count) := by
        rw [← runFrom_append]
        simp [rounds, List.range_succ]
      rw [hsplit]
      exact hnext

/-- Once the counter has gone round, the session created next replaces the
first one in the manager, while the runtime keeps it. -/
theorem rounds_registered_not_activated (count : ℕ) (hcount : count + 1 = 2 ^ 32) :
    let r := (runFrom step (start {} {})
      (rounds count ++ [creates 1 (atMillisecond (count + 1))])).state.runtime
    r.Registered (defaultToken 1) ∧ ¬r.manager.Activated (defaultToken 1) := by
  have hkeeps := keepsFirst_rounds count (by omega)
  generalize hrun : runFrom step (start {} {}) (rounds count) = run at hkeeps
  obtain ⟨session, object, _, hobject, _⟩ := hkeeps.live
  obtain ⟨admittedSession, hnew, hruntime⟩ :=
    step_creates run.state 1 (atMillisecond (count + 1))
  have hnext : (run.state.runtime.pruned
      (atMillisecond (count + 1))).manager.nextToken = defaultToken 1 := by
    change (⟨.numeric run.state.runtime.manager.nextTokenId,
      run.state.runtime.manager.context.tokenNamespaceIndex⟩ : NodeId) = _
    rw [hkeeps.nextTokenId, hkeeps.namespaceIndex, hcount]
    decide
  rw [runFrom_append, hrun, runFrom_cons, runFrom_nil, step_state, hruntime]
  constructor
  · exact Option.isSome_iff_exists.mpr ⟨object, hobject⟩
  · rw [admitted_activated_iff _ hnew.activated, hnext]
    simp

/-- After 49 days of a busy server an activated session is replaced. -/
theorem reissued_token_registered_not_activated :
    let r := (runFrom step (start {} {})
      (rounds 4294967295 ++
        [creates 1 (atMillisecond (4294967295 + 1))])).state.runtime
    r.Registered (defaultToken 1) ∧ ¬r.manager.Activated (defaultToken 1) :=
  rounds_registered_not_activated 4294967295 (by norm_num)

end ServerRun
end OpcuaStack
