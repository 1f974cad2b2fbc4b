import OpcuaStack.SessionAgreement

/-!
# When an activation is answered Good

A request with a user name is answered Good on two ways out.  Either the session
was activated before, and it is resumed with the identity it has; or the
authenticator has accepted, in this call, the credentials which the request
presented, and the session runs under the identity it returned.
-/

namespace OpcuaStack
namespace ServerState

open ServerRuntime ServerSessionManager

def activationAnswer (report : Option StepReport) :
    Option ActivateSessionResponse :=
  match report.bind StepReport.answer with
  | some (.activateSession response) => some response
  | _ => none

/-- The step resumed a session which was activated before, with its identity. -/
structure ResumesIdentity (r : ServerRuntime) (after : ServerRuntime)
    (token : NodeId) (response : ActivateSessionResponse) : Prop where
  resumed : response.resumed = true
  sessions : ∃ before session object,
    r.manager.sessions.lookup token = some before ∧ before.activated = true ∧
      after.manager.sessions.lookup token = some session ∧
      after.sessions.lookup token = some object ∧
      session.authenticationResult = before.authenticationResult ∧
      session.serviceContext.userId = before.serviceContext.userId ∧
      session.serviceContext.userRights = before.serviceContext.userRights ∧
      object.serviceContext = session.serviceContext

/-- The session runs under the identity which the authenticator returned. -/
def RunsUnder (r : ServerRuntime) (token : NodeId)
    (auth : AuthenticationResult) : Prop :=
  ∃ session object, r.manager.sessions.lookup token = some session ∧
    r.sessions.lookup token = some object ∧
    session.authenticationResult = some auth ∧
    session.serviceContext.userId = auth.userId ∧
    session.serviceContext.userRights = auth.userRights ∧
    object.serviceContext = session.serviceContext

/-- The credentials of the suspended activation are those which the request
presents to its session. -/
structure PresentsCredentials (r : ServerRuntime)
    (request : ActivateSessionRequest) (pending : PendingActivation) : Prop where
  token : pending.request.authenticationToken = request.authenticationToken
  userName : request.userName = some pending.userName
  password : ∃ session,
    r.manager.sessions.lookup request.authenticationToken = some session ∧
      r.manager.PresentsPassword session.serverNonce request pending.password

theorem begins_good {state : ServerState} {connection : ℕ}
    {r : ServerRuntime} {current : ConnectionState}
    {request : ActivateSessionRequest} {now : DateTime}
    {outcome : HandlerOutcome}
    (hbegins : r.BeginsActivation current request now outcome)
    (hnamed : request.allowAnonymous = false)
    {response : ActivateSessionResponse}
    (hanswer : activationAnswer (state.settle connection outcome).2 =
      some response)
    (hgood : response.status.isBad = false) :
    ResumesIdentity r outcome.runtime request.authenticationToken response := by
  rw [settle_report] at hanswer
  cases hbegins with
  | rejected rejected hbad =>
      obtain rfl := Option.some.inj hanswer
      rw [hbad] at hgood
      exact Bool.noConfusion hgood
  | lost session hlookup hsigned hactivated hlost =>
      obtain rfl := Option.some.inj hanswer
      simp at hgood
  | resumed session object hlookup hsigned hactivated hobject =>
      obtain rfl := Option.some.inj hanswer
      refine ⟨rfl, session, resumedState session request now, _, hlookup,
        hactivated, ?_, AList.lookup_insert _, rfl, rfl, rfl, rfl⟩
      exact AList.lookup_insert _
  | anonymous session hlookup hsigned hfresh hanonymous =>
      rw [hnamed] at hanonymous
      exact Bool.noConfusion hanonymous
  | authenticating session pending hlookup hfresh hnamed hrequest huserName
      hpassword => simp [activationAnswer, Progress.answer] at hanswer

/-- A request which is not answered at once waits for the authenticator, with
the credentials it presents. -/
theorem begins_suspended {state : ServerState} {connection : ℕ}
    {r : ServerRuntime} {current : ConnectionState}
    {request : ActivateSessionRequest} {now : DateTime}
    {outcome : HandlerOutcome}
    (hbegins : r.BeginsActivation current request now outcome)
    (hanswer : activationAnswer (state.settle connection outcome).2 = none) :
    ∃ pending, PresentsCredentials r request pending ∧
      (state.settle connection outcome).1.suspended state.nextTask =
        some ⟨connection, .activating pending⟩ ∧
      state.nextTask < (state.settle connection outcome).1.nextTask := by
  rw [settle_report] at hanswer
  cases hbegins with
  | rejected rejected hbad => simp [activationAnswer, Progress.answer] at hanswer
  | lost session hlookup hsigned hactivated hlost =>
      simp [activationAnswer, Progress.answer] at hanswer
  | resumed session object hlookup hsigned hactivated hobject =>
      simp [activationAnswer, Progress.answer] at hanswer
  | anonymous session hlookup hsigned hfresh hanonymous =>
      simp [activationAnswer, Progress.answer] at hanswer
  | authenticating session pending hlookup hfresh hnamed hrequest huserName
      hpassword =>
      refine ⟨pending, ⟨by rw [hrequest], huserName, session, hlookup, hpassword⟩,
        ?_, ?_⟩
      · simp [settle]
      · simp [settle]

theorem authenticated_answer {state : ServerState} {task connection : ℕ}
    {pending : PendingActivation}
    (htask : state.suspended task = some ⟨connection, .activating pending⟩)
    (reply : StatusOr AuthenticationResult) (now : DateTime) :
    ∃ response,
      activationAnswer (state.step (.authenticated task reply now)).2 =
          some response ∧
        (∀ status hbad, reply = .error status hbad → response.status = status) ∧
        (response.status.isBad = false → ∃ auth, reply = .ok auth ∧
          RunsUnder (state.step (.authenticated task reply now)).1.runtime
            pending.request.authenticationToken auth) := by
  have hcompletes := state.runtime.completeActivateSession_completes
    (state.connections connection) pending reply now
  simp only [step, htask, settle_report, settle_runtime]
  generalize state.runtime.completeActivateSession
    (state.connections connection) pending reply now = outcome at hcompletes ⊢
  cases hcompletes with
  | refused status hbad hreply =>
      refine ⟨_, rfl, fun other hother heq => ?_, fun hgood => ?_⟩
      · rw [hreply] at heq
        exact (StatusOr.error.inj heq)
      · rw [hbad] at hgood
        exact Bool.noConfusion hgood
  | alreadyLoggedOn auth hreply hgate =>
      refine ⟨_, rfl, fun status hbad heq => ?_, fun hgood => ?_⟩
      · rw [hreply] at heq
        simp at heq
      · simp at hgood
  | missing auth hreply hgate hlookup =>
      refine ⟨_, rfl, fun status hbad heq => ?_, fun hgood => ?_⟩
      · rw [hreply] at heq
        simp at heq
      · simp at hgood
  | activated auth hreply hgate session hlookup =>
      refine ⟨_, rfl, fun status hbad heq => ?_, fun _ => ⟨auth, hreply, ?_⟩⟩
      · rw [hreply] at heq
        simp at heq
      · exact ⟨activatedState session pending.request (some auth) now, _,
          AList.lookup_insert _, AList.lookup_insert _, rfl, rfl, rfl, rfl⟩

end ServerState

namespace ServerRun

open ServerState ServerRuntime ServerSessionManager

theorem run_suspended_of_lt (run : ServerRun) (actions : List ServerAction)
    {task : ℕ} (htask : task < run.state.nextTask) :
    (runFrom step run actions).state.suspended task =
        run.state.suspended task ∨
      (runFrom step run actions).state.suspended task = none := by
  have hstep : ∀ (later : ServerRun) (action : ServerAction),
      ((later.state.suspended task = run.state.suspended task ∨
        later.state.suspended task = none) ∧ task < later.state.nextTask) →
      (((later.step action).state.suspended task = run.state.suspended task ∨
        (later.step action).state.suspended task = none) ∧
          task < (later.step action).state.nextTask) := by
    rintro later action ⟨hlater, hlt⟩
    obtain ⟨hsame, hlt'⟩ := later.state.step_suspended_of_lt action hlt
    refine ⟨?_, hlt'⟩
    rcases hsame with hkept | hnone
    · rw [step_state, hkept]
      exact hlater
    · exact .inr hnone
  exact (runFrom_invariant_of_step hstep ⟨.inl rfl, htask⟩ actions).1

/-- A request with a user name, in any run.  If it is answered Good at once, it
has resumed a session activated before, under its identity.  If it suspends,
then whatever runs before the authenticator answers, the credentials given to
the authenticator are those presented, its refusal is the answer, and after an
answer Good the session runs under the identity it returned. -/
theorem good_activation_resumes_or_authenticates
    (context : ServerSessionManagerContext) (operationLimits : OperationLimits)
    (before : List ServerAction) (connection : ℕ)
    (request : ActivateSessionRequest) (env : RequestEnvironment)
    (hnamed : request.allowAnonymous = false) :
    let run := runFrom step (start context operationLimits) before
    let action := .request connection (.activateSession request) env
    let r := run.state.runtime.pruned env.pruneTime
    (∀ response,
        activationAnswer (run.state.step action).2 = some response →
          response.status.isBad = false →
            ResumesIdentity r (run.step action).state.runtime
              request.authenticationToken response) ∧
      (activationAnswer (run.state.step action).2 = none →
        ∃ pending, PresentsCredentials r request pending ∧
          ∀ between,
            let later := (runFrom step (run.step action) between).state
            later.suspended run.state.nextTask = none ∨
              later.suspended run.state.nextTask =
                  some ⟨connection, .activating pending⟩ ∧
                ∀ reply now,
                  let completed :=
                    later.step (.authenticated run.state.nextTask reply now)
                  ∃ response, activationAnswer completed.2 = some response ∧
                    (∀ status hbad, reply = .error status hbad →
                      response.status = status) ∧
                    (response.status.isBad = false →
                      ∃ auth, reply = .ok auth ∧
                        RunsUnder completed.1.runtime
                          request.authenticationToken auth)) := by
  intro run action r
  have hbegins := run.state.runtime.handleActivateSession_begins
    (run.state.connectionFor connection env) request env
  constructor
  · intro response hanswer hgood
    have hresumes := begins_good hbegins hnamed hanswer hgood
    have hruntime : (run.step action).state.runtime =
        (run.state.runtime.handleActivateSession
          (run.state.connectionFor connection env) request env).runtime := by
      simp only [step_state, ServerState.step, handle, settle_runtime, action]
    rw [hruntime]
    exact hresumes
  · intro hanswer
    obtain ⟨pending, hpresents, hsuspended, hlt⟩ :=
      begins_suspended hbegins hanswer
    have hcredentials : PresentsCredentials r request pending :=
      ⟨hpresents.token, hpresents.userName, hpresents.password⟩
    refine ⟨pending, hcredentials, fun between => ?_⟩
    rcases run_suspended_of_lt (run.step action) between hlt with hsame | hnone
    · refine .inr ⟨hsame.trans hsuspended, fun reply now => ?_⟩
      have hcompleted :=
        authenticated_answer (hsame.trans hsuspended) reply now
      rw [hpresents.token] at hcompleted
      exact hcompleted
    · exact .inl hnone

theorem operator_activation_authenticates :
    let run := runFrom step (start {} {}) [creates 0 {}]
    let request := operatorRequest (defaultToken 1) [0x70, 0x77]
    request.allowAnonymous = false ∧
      ∃ pending,
        PresentsCredentials (run.state.runtime.pruned {}) request pending := by
  intro run request
  have hnone : (activationAnswer (run.state.step
      (logsOn 0 (defaultToken 1))).2).isNone = true := by decide +kernel
  obtain ⟨pending, hpresents, _⟩ :=
    (good_activation_resumes_or_authenticates {} {} [creates 0 {}] 0 request {}
      rfl).2 (Option.isNone_iff_eq_none.mp hnone)
  exact ⟨rfl, pending, hpresents⟩

/-- A session has been activated by the operator.  On another connection its
activation with a wrong password is answered Good, and no authenticator is
asked. -/
theorem wrong_password_resumes_session :
    let run := runFrom step (start {} {})
      [creates 0 {}, logsOn 0 (defaultToken 1),
        .authenticated 0 (.ok operator) {}]
    let result := run.state.step (.request 1
      (.activateSession (operatorRequest (defaultToken 1) [0x6e, 0x6f])) {})
    (activationAnswer result.2).any
        (fun response => !response.status.isBad && response.resumed) = true ∧
      result.1.nextTask = run.state.nextTask := by
  decide +kernel

end ServerRun
end OpcuaStack
