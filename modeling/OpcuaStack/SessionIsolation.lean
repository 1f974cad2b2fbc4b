import OpcuaStack.SessionAgreement

/-!
# What a client can do to the sessions of others

A client knows the tokens which the server has sent it.  As long as it activates
and closes only sessions under tokens it knows, or under tokens which no session
has, its requests affect no other session, apart from sessions which have
expired.  Nothing more can be said: the tokens are consecutive numbers.
-/

namespace OpcuaStack
namespace ServerState

open ServerRuntime ServerSessionManager

/-- The token which a step sends to the connection. -/
def sentToken (connection : ℕ) (report : Option StepReport) : Option NodeId :=
  match report with
  | some ⟨receiver, some (.createSession response), _, _⟩ =>
      if receiver = connection ∧ response.status.isBad = false then
        some response.authenticationToken
      else none
  | _ => none

/-- The action is a stretch of a request of the connection, or its closing. -/
def ByConnection (connection : ℕ) (state : ServerState) : ServerAction → Prop
  | .request sender _ _ => sender = connection
  | .authenticated task _ _ | .served task _ | .delayElapsed task _ =>
      ∃ work, state.suspended task = some ⟨connection, work⟩
  | .closeConnection closing => closing = connection
  | .prune _ | .backing _ _ _ => False

/-- The time at which the action lets expired sessions go. -/
def pruneTime : ServerAction → Option DateTime
  | .request _ (.createSession _) env => some env.pruneTime
  | .request _ (.activateSession _) env => some env.pruneTime
  | .prune now => some now
  | _ => none

/-- The connection activates and closes sessions only under tokens it knows or
which no session has, and no activation of it evicts a session which it does not
know. -/
def NamesKnown (known : NodeId → Prop) (connection : ℕ) (state : ServerState) :
    ServerAction → Prop
  | .request sender (.activateSession request) env =>
      sender = connection → known request.authenticationToken ∨
        (state.runtime.pruned env.pruneTime).manager.sessions.lookup
          request.authenticationToken = none
  | .request sender (.closeSession request) _ =>
      sender = connection → known request.authenticationToken ∨
        state.runtime.manager.sessions.lookup
          request.authenticationToken = none
  | .authenticated task reply _ =>
      ∀ pending auth,
        state.suspended task = some ⟨connection, .activating pending⟩ →
          reply = .ok auth →
            state.runtime.manager.Admits pending.request auth →
              ∀ token, token ∈ (state.runtime.manager.evict auth).removed →
                known token
  | _ => True

/-- Everything the connection holds on to in the server is known to it. -/
structure Confined (known : NodeId → Prop) (connection : ℕ)
    (state : ServerState) : Prop where
  attached : ∀ token,
    (state.connections connection).authenticationToken = some token → known token
  activating : ∀ task pending,
    state.suspended task = some ⟨connection, .activating pending⟩ →
      known pending.request.authenticationToken

theorem Confined.mono {known known' : NodeId → Prop} {connection : ℕ}
    {state : ServerState} (h : Confined known connection state)
    (hknown : ∀ token, known token → known' token) :
    Confined known' connection state :=
  ⟨fun token htoken => hknown token (h.attached token htoken),
    fun task pending htask => hknown _ (h.activating task pending htask)⟩

/-- The session the step used for the connection is known to it. -/
def UsesKnown (known : NodeId → Prop) (connection : ℕ)
    (report : Option StepReport) : Prop :=
  ∀ entry token use, report = some entry → entry.connection = connection →
    entry.use = some (token, use) → known token

section Settle

variable {known : NodeId → Prop} {connection sender : ℕ} {state taken : ServerState}
    {outcome : HandlerOutcome}

/-- Settling a stretch keeps a connection confined, if the stretch is another
connection's or holds on to what is known. -/
theorem Confined.settle (h : Confined known connection state)
    (hconnections : taken.connections = state.connections)
    (hsuspended : ∀ task suspended, taken.suspended task = some suspended →
      state.suspended task = some suspended)
    (hattached : sender = connection → ∀ token,
      outcome.connection.authenticationToken = some token → known token)
    (hactivating : sender = connection → ∀ pending,
      outcome.progress = .suspended (.activating pending) →
        known pending.request.authenticationToken) :
    Confined known connection (taken.settle sender outcome).1 := by
  constructor
  · intro token htoken
    rw [settle_connections, hconnections] at htoken
    by_cases heq : connection = sender
    · subst heq
      rw [Function.update_self] at htoken
      exact hattached rfl token htoken
    · rw [Function.update_of_ne heq] at htoken
      exact h.attached token htoken
  · intro task pending htask
    rcases taken.settle_suspended sender outcome htask with hold | ⟨heq, hnew⟩
    · exact h.activating task pending (hsuspended task _ hold)
    · exact hactivating heq.symm pending hnew

theorem usesKnown_settle
    (huse : sender = connection → ∀ token use,
      outcome.use = some (token, use) → known token) :
    UsesKnown known connection (taken.settle sender outcome).2 := by
  intro entry token use hentry hsender hused
  rw [settle_report, Option.some.injEq] at hentry
  subst hentry
  exact huse hsender token use hused

theorem Confined.settle_unused (h : Confined known connection state)
    (hconnections : taken.connections = state.connections)
    (hsuspended : ∀ task suspended, taken.suspended task = some suspended →
      state.suspended task = some suspended)
    (htoken : outcome.connection.authenticationToken =
      (state.connections sender).authenticationToken)
    (huse : outcome.use = none)
    (hactivating : sender = connection → ∀ pending,
      outcome.progress = .suspended (.activating pending) →
        known pending.request.authenticationToken) :
    Confined known connection (taken.settle sender outcome).1 ∧
      UsesKnown known connection (taken.settle sender outcome).2 := by
  refine ⟨h.settle hconnections hsuspended ?_ hactivating, usesKnown_settle ?_⟩
  · rintro rfl token hattached
    exact h.attached token (htoken ▸ hattached)
  · intro _ token use hused
    simp [huse] at hused

theorem Confined.settle_attached (h : Confined known connection state)
    (hconnections : taken.connections = state.connections)
    (hsuspended : ∀ task suspended, taken.suspended task = some suspended →
      state.suspended task = some suspended)
    {token : NodeId} {use : SessionUse} {response : ResponseBody}
    (hknown : sender = connection → known token)
    (htoken : outcome.connection.authenticationToken = some token)
    (huse : outcome.use = some (token, use))
    (hanswered : outcome.progress = .answered response) :
    Confined known connection (taken.settle sender outcome).1 ∧
      UsesKnown known connection (taken.settle sender outcome).2 := by
  refine ⟨h.settle hconnections hsuspended ?_ ?_, usesKnown_settle ?_⟩
  · intro hsender other hattached
    rw [htoken, Option.some.injEq] at hattached
    exact hattached ▸ hknown hsender
  · intro _ pending hsuspends
    simp [hanswered] at hsuspends
  · intro hsender other otherUse hused
    rw [huse, Option.some.injEq, Prod.mk.injEq] at hused
    exact hused.1 ▸ hknown hsender

end Settle

/-! ## One step -/

section Step

variable {known : NodeId → Prop} {connection : ℕ} {state : ServerState}

theorem NamesKnown.of_live {sender : ℕ} {request : ActivateSessionRequest}
    {env : RequestEnvironment} {session : SessionState}
    (hnames : state.NamesKnown known connection
      (.request sender (.activateSession request) env))
    (hlookup : (state.runtime.pruned env.pruneTime).manager.sessions.lookup
      request.authenticationToken = some session)
    (hsender : sender = connection) : known request.authenticationToken := by
  rcases hnames hsender with hknown | hnone
  · exact hknown
  · rw [hlookup] at hnone
    simp at hnone

theorem begins_confined {sender : ℕ} {request : ActivateSessionRequest}
    {env : RequestEnvironment} {outcome : HandlerOutcome}
    (h : Confined known connection state)
    (hnames : state.NamesKnown known connection
      (.request sender (.activateSession request) env))
    (hbegins : (state.runtime.pruned env.pruneTime).BeginsActivation
      (state.connectionFor sender env)
      (channelRequest (state.connectionFor sender env) request) env.now
      outcome) :
    Confined known connection (state.settle sender outcome).1 ∧
      UsesKnown known connection (state.settle sender outcome).2 := by
  cases hbegins with
  | rejected response hbad =>
      exact h.settle_unused rfl (fun _ _ htask => htask) rfl rfl (by simp)
  | lost session hlookup hsigned hactivated hlost =>
      exact h.settle_unused rfl (fun _ _ htask => htask) rfl rfl (by simp)
  | resumed session object hlookup hsigned hactivated hobject =>
      exact h.settle_attached rfl (fun _ _ htask => htask)
        (hnames.of_live hlookup) rfl rfl rfl
  | anonymous session hlookup hsigned hfresh hanonymous =>
      exact h.settle_attached rfl (fun _ _ htask => htask)
        (hnames.of_live hlookup) rfl rfl rfl
  | authenticating session pending hlookup hfresh hnamed hrequest huserName
      hpassword =>
      refine h.settle_unused rfl (fun _ _ htask => htask) rfl rfl ?_
      intro hsender other hother
      simp only [Progress.suspended.injEq, SuspendedWork.activating.injEq]
        at hother
      rw [← hother, hrequest]
      exact hnames.of_live hlookup hsender

theorem completes_confined {task sender : ℕ} {pending : PendingActivation}
    {reply : StatusOr AuthenticationResult} {now : DateTime}
    {outcome : HandlerOutcome} (h : Confined known connection state)
    (htask : state.suspended task = some ⟨sender, .activating pending⟩)
    (hcompletes : state.runtime.CompletesActivation (state.connections sender)
      pending reply now outcome) :
    Confined known connection
        ((state.takeTask task).settle sender outcome).1 ∧
      UsesKnown known connection
        ((state.takeTask task).settle sender outcome).2 := by
  have htaken : ∀ other suspended,
      (state.takeTask task).suspended other = some suspended →
        state.suspended other = some suspended :=
    fun _ _ => state.takeTask_suspended
  have hknown : sender = connection →
      known pending.request.authenticationToken := by
    rintro rfl
    exact h.activating task pending htask
  cases hcompletes with
  | refused status hbad hreply =>
      exact h.settle_unused rfl htaken rfl rfl (by simp)
  | alreadyLoggedOn auth hreply hgate =>
      exact h.settle_unused rfl htaken rfl rfl (by simp)
  | missing auth hreply hgate hlookup =>
      exact h.settle_unused rfl htaken rfl rfl (by simp)
  | activated auth hreply hgate session hlookup =>
      exact h.settle_attached rfl htaken hknown rfl rfl rfl

theorem closes_confined {sender : ℕ} {request : CloseSessionRequest}
    {env : RequestEnvironment} {outcome : HandlerOutcome}
    (h : Confined known connection state)
    (hnames : state.NamesKnown known connection
      (.request sender (.closeSession request) env))
    (hcloses : state.runtime.Closes (state.connectionFor sender env) request
      outcome) :
    Confined known connection (state.settle sender outcome).1 ∧
      UsesKnown known connection (state.settle sender outcome).2 := by
  have hattached : sender = connection → ∀ token,
      outcome.connection.authenticationToken = some token → known token := by
    rintro rfl token htoken
    have hconnection : outcome.connection =
        if (state.connections sender).authenticationToken =
            some request.authenticationToken then
          { state.connectionFor sender env with authenticationToken := none }
        else state.connectionFor sender env := by
      cases hcloses <;> rfl
    rw [hconnection] at htoken
    split at htoken
    · simp at htoken
    · exact h.attached token htoken
  have hanswered : ∀ pending,
      outcome.progress ≠ .suspended (.activating pending) := by
    cases hcloses <;> simp
  refine ⟨h.settle rfl (fun _ _ htask => htask) hattached
    fun _ pending hsuspends => absurd hsuspends (hanswered pending),
    usesKnown_settle ?_⟩
  intro hsender token use hused
  cases hcloses with
  | missing hlookup => simp at hused
  | closed manager hdrops session hlookup =>
      simp only [Option.some.injEq, Prod.mk.injEq] at hused
      rcases hnames hsender with hknown | hnone
      · exact hused.1 ▸ hknown
      · rw [hlookup] at hnone
        simp at hnone

def KnownAfter (known : NodeId → Prop) (connection : ℕ)
    (report : Option StepReport) (token : NodeId) : Prop :=
  known token ∨ sentToken connection report = some token

theorem step_confined {action : ServerAction}
    (h : Confined known connection state)
    (hnames : state.NamesKnown known connection action) :
    Confined (KnownAfter known connection (state.step action).2) connection
        (state.step action).1 ∧
      UsesKnown (KnownAfter known connection (state.step action).2) connection
        (state.step action).2 := by
  have hlater : ∀ {result : ServerState × Option StepReport},
      Confined known connection result.1 ∧ UsesKnown known connection result.2 →
        Confined (KnownAfter known connection result.2) connection result.1 ∧
          UsesKnown (KnownAfter known connection result.2) connection
            result.2 := by
    rintro result ⟨hconfined, huses⟩
    exact ⟨hconfined.mono fun _ => .inl,
      fun entry token use hentry hsender hused =>
        .inl (huses entry token use hentry hsender hused)⟩
  have htransition := state.step_transition action
  generalize state.step action = result at htransition ⊢
  cases htransition with
  | quiet hquiet hedits hreport =>
      refine hlater ⟨⟨fun token htoken => ?_, fun task pending htask => ?_⟩, ?_⟩
      · rw [hquiet.authenticationToken] at htoken
        exact h.attached token htoken
      · exact h.activating task pending
          (hquiet.activating task connection pending htask)
      · rintro entry token use hentry rfl hused
        exact h.attached token (hreport entry hentry token use hused).2
  | createSession sender request env outcome hcreates =>
      cases hcreates with
      | rejected response hrefused hbad =>
          exact hlater (h.settle_unused rfl (fun _ _ htask => htask) rfl rfl
            (by simp))
      | created session haccepted hnew response hgood htoken =>
          refine ⟨(h.settle rfl (fun _ _ htask => htask) ?_
            (by simp)).mono fun _ => .inl, ?_⟩
          · rintro rfl token hattached
            exact h.attached token hattached
          · refine usesKnown_settle fun hsender token use hused => .inr ?_
            simp only [Option.some.injEq, Prod.mk.injEq] at hused
            rw [settle_report, ← hused.1]
            simp [sentToken, Progress.answer, hsender, hgood, htoken]
  | activateSession sender request env outcome hbegins =>
      exact hlater (begins_confined h hnames hbegins)
  | authenticated task sender pending reply now outcome htask hcompletes =>
      exact hlater (completes_confined h htask hcompletes)
  | closeSession sender request env outcome hcloses =>
      exact hlater (closes_confined h hnames hcloses)
  | closeConnection closing =>
      refine hlater ⟨⟨fun token htoken => ?_, h.activating⟩, by simp [UsesKnown]⟩
      rw [closeConnection_connections] at htoken
      by_cases heq : connection = closing
      · subst heq
        simp at htoken
      · rw [Function.update_of_ne heq] at htoken
        exact h.attached token htoken
  | prune now => exact hlater ⟨⟨h.attached, h.activating⟩, by simp [UsesKnown]⟩

theorem pruned_lookup_or_expired {r : ServerRuntime} {token : NodeId}
    {session : SessionState}
    (hlookup : r.manager.sessions.lookup token = some session) (now : DateTime) :
    (r.pruned now).manager.sessions.lookup token = some session ∨
      session.expiredAt now = true := by
  cases hexpired : session.expiredAt now with
  | true => exact .inr rfl
  | false =>
      refine .inl ?_
      rw [pruned, adopt_manager, pruneExpiredSessions_lookup, hlookup]
      simp [Option.filter, hexpired]

/-- A step of the connection leaves alone a session whose token it does not know,
unless the session has expired. -/
theorem step_keeps_unknown {action : ServerAction}
    (h : Confined known connection state)
    (hnames : state.NamesKnown known connection action)
    (hby : ByConnection connection state action) {token : NodeId}
    {session : SessionState}
    (hunknown : ¬KnownAfter known connection (state.step action).2 token)
    (hlookup : state.runtime.manager.sessions.lookup token = some session) :
    (state.step action).1.runtime.manager.sessions.lookup token = some session ∨
      ∃ now, pruneTime action = some now ∧ session.expiredAt now = true := by
  have hnot : ¬known token := fun hknown => hunknown (.inl hknown)
  have htransition := state.step_transition action
  generalize state.step action = result at htransition hunknown ⊢
  cases htransition with
  | quiet hquiet hedits hreport =>
      rw [hquiet.serves.manager]
      exact .inl hlookup
  | createSession sender request env outcome hcreates =>
      rcases pruned_lookup_or_expired hlookup env.pruneTime with
        hpruned | hexpired
      · refine .inl ?_
        rw [settle_runtime]
        cases hcreates with
        | rejected response hrefused hbad => exact hpruned
        | created session' haccepted hnew response hgood htoken =>
            rw [admitted_state_lookup, if_neg, hpruned]
            rintro rfl
            refine hunknown (.inr ?_)
            rw [settle_report]
            simp [sentToken, Progress.answer, show sender = connection from hby,
              hgood, htoken]
      · exact .inr ⟨env.pruneTime, rfl, hexpired⟩
  | activateSession sender request env outcome hbegins =>
      rcases pruned_lookup_or_expired hlookup env.pruneTime with
        hpruned | hexpired
      · have hne : token ≠ request.authenticationToken := by
          rintro rfl
          exact hnot (hnames.of_live hpruned hby)
        rw [settle_runtime, hbegins.lookup_of_ne hne]
        exact .inl hpruned
      · exact .inr ⟨env.pruneTime, rfl, hexpired⟩
  | authenticated task sender pending reply now outcome htask hcompletes =>
      obtain ⟨work, hwork⟩ := hby
      rw [htask, Option.some.injEq, SuspendedRequest.mk.injEq] at hwork
      obtain ⟨rfl, rfl⟩ := hwork
      have hne : token ≠ pending.request.authenticationToken := by
        rintro rfl
        exact hnot (h.activating task pending htask)
      rw [settle_runtime, hcompletes.lookup_of_ne hne]
      · exact .inl hlookup
      · intro auth hreply hgate hmem
        exact hnot (hnames pending auth htask hreply hgate token hmem)
  | closeSession sender request env outcome hcloses =>
      have hne : token ≠ request.authenticationToken := by
        rintro rfl
        rcases hnames hby with hknown | hnone
        · exact hnot hknown
        · rw [hlookup] at hnone
          simp at hnone
      rw [settle_runtime, hcloses.lookup_of_ne hne]
      exact .inl hlookup
  | closeConnection closing =>
      refine .inl ?_
      obtain rfl : closing = connection := hby
      cases hheld : (state.connections closing).authenticationToken with
      | none => simpa [closeConnection, detach, hheld] using hlookup
      | some held =>
          have hne : token ≠ held := by
            rintro rfl
            exact hnot (h.attached token hheld)
          simp only [closeConnection, detach, hheld]
          rw [detachSession_lookup, if_neg hne, hlookup]
  | prune now => exact hby.elim

end Step

end ServerState

namespace ServerRun

open ServerState ServerRuntime ServerSessionManager

def sentTokens (log : List (ServerAction × Option StepReport))
    (connection : ℕ) : List NodeId :=
  log.filterMap fun entry => sentToken connection entry.2

theorem mem_sentTokens_step {run : ServerRun} {action : ServerAction}
    {connection : ℕ} {token : NodeId} :
    token ∈ sentTokens (run.step action).log connection ↔
      KnownAfter (· ∈ sentTokens run.log connection) connection
        (run.state.step action).2 token := by
  simp [sentTokens, KnownAfter]

def NamesSentTokens (connection : ℕ) (run : ServerRun) (action : ServerAction) :
    Prop :=
  run.state.NamesKnown (· ∈ sentTokens run.log connection) connection action

/-- In every run in which a connection names only tokens sent to it or which no
session has, and evicts no session whose token was not sent to it, each step
uses for that connection only sessions whose tokens were sent to it, and leaves
every other session as it is, unless it has expired. -/
theorem connection_affects_own_sessions_only
    (context : ServerSessionManagerContext) (operationLimits : OperationLimits)
    (connection : ℕ) (actions : List ServerAction) (action : ServerAction)
    (hnames : AllMeet step (NamesSentTokens connection)
      (start context operationLimits) (actions ++ [action])) :
    let run := runFrom step (start context operationLimits) actions
    let sent := sentTokens (run.step action).log connection
    (∀ report token use, (run.state.step action).2 = some report →
        report.connection = connection → report.use = some (token, use) →
          token ∈ sent) ∧
      (run.state.ByConnection connection action →
        ∀ token session, token ∉ sent →
          run.state.runtime.manager.sessions.lookup token = some session →
            (run.step action).state.runtime.manager.sessions.lookup token =
                some session ∨
              ∃ now, pruneTime action = some now ∧
                session.expiredAt now = true) := by
  intro run sent
  obtain ⟨hbefore, hlast, _⟩ := AllMeet.append_iff.mp hnames
  have hconfined : Confined (· ∈ sentTokens run.log connection) connection
      run.state := by
    refine runFrom_invariant
      (P := fun run : ServerRun => Confined
        (· ∈ sentTokens run.log connection) connection run.state)
      (fun run action h hnames => ?_) ?_ hbefore
    · exact (step_confined h hnames).1.mono fun _ => mem_sentTokens_step.mpr
    · exact ⟨by simp [start], by simp [start]⟩
  constructor
  · intro report token use hreport hsender hused
    exact mem_sentTokens_step.mpr
      ((step_confined hconfined hlast).2 report token use hreport hsender hused)
  · intro hby token session hunsent hlookup
    exact step_keeps_unknown hconfined hlast hby
      (fun hknown => hunsent (mem_sentTokens_step.mpr hknown)) hlookup

theorem second_client_leaves_first_session :
    let run := runFrom step (start {} {}) [creates 0 {}, creates 1 {}]
    let action := activates 1 (defaultToken 2) {}
    defaultToken 1 ∉ sentTokens (run.step action).log 1 ∧
      ∀ session,
        run.state.runtime.manager.sessions.lookup (defaultToken 1) =
            some session →
          (run.step action).state.runtime.manager.sessions.lookup
                (defaultToken 1) = some session ∨
            ∃ now, pruneTime action = some now ∧
              session.expiredAt now = true := by
  have hunsent : defaultToken 1 ∉ sentTokens
      ((runFrom step (start {} {}) [creates 0 {}, creates 1 {}]).step
        (activates 1 (defaultToken 2) {})).log 1 := by decide +kernel
  have hsent : defaultToken 2 ∈ sentTokens
      (runFrom step (start {} {}) [creates 0 {}, creates 1 {}]).log 1 := by
    decide
  have hisolated := connection_affects_own_sessions_only {} {} 1
    [creates 0 {}, creates 1 {}] (activates 1 (defaultToken 2) {})
    ⟨trivial, trivial, fun _ => .inl hsent, trivial⟩
  exact ⟨hunsent, fun session => hisolated.2 rfl (defaultToken 1) session
    hunsent⟩

/-- The token issued before the given one. -/
def previousToken (token : NodeId) : NodeId :=
  match token.identifier with
  | .numeric number => { token with identifier := .numeric (number - 1) }
  | _ => token

/-- A client closes the session under the token before its own.  The token was
sent to another client only, and its session is gone. -/
theorem guessed_token_closes_session :
    let run := runFrom step (start {} {})
      [creates 0 {}, activates 0 (defaultToken 1) {}, creates 1 {}]
    let guess := ((sentTokens run.log 1).map previousToken).headD {}
    let closing := .request 1 (.closeSession { authenticationToken := guess }) {}
    sentTokens (run.step closing).log 1 = [defaultToken 2] ∧
      (run.state.step closing).2.bind StepReport.use =
        some (defaultToken 1, .closed) ∧
      (run.state.runtime.manager.sessions.lookup
        (defaultToken 1)).isSome = true ∧
      ((run.step closing).state.runtime.manager.sessions.lookup
        (defaultToken 1)).isNone = true := by
  decide +kernel

end ServerRun
end OpcuaStack
