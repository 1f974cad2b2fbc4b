import OpcuaStack.SessionAgreement

/-!
# Attachment

The manager keeps one flag for each session; the connections which have the
session's token are kept elsewhere.  A step keeps the two in accord if it
attaches open connections only, and if a connection which leaves a session is
not the last of its connections, or, when it closes, is the only one.
-/

namespace OpcuaStack
namespace ServerState

open ServerRuntime ServerSessionManager

def OpenOn (state : ServerState) (connection : ℕ) (token : NodeId) : Prop :=
  (state.connections connection).closed = false ∧
    (state.connections connection).authenticationToken = some token

/-- A session is marked attached if and only if an open connection has its
token. -/
def AttachmentExact (state : ServerState) : Prop :=
  ∀ token session, state.runtime.manager.sessions.lookup token = some session →
    (session.attached = true ↔ ∃ connection, state.OpenOn connection token)

/-- Attaching the connection leaves every session which stays in the manager
with the connections its flag tells of. -/
structure MayAttach (state : ServerState) (m : ServerSessionManager)
    (connection : ℕ) (token : NodeId) : Prop where
  reached : (state.connections connection).closed = false ∨
    ∃ other, other ≠ connection ∧ state.OpenOn other token
  left : ∀ old, state.OpenOn connection old → old ≠ token →
    (m.sessions.lookup old).isSome = true →
      ∃ other, other ≠ connection ∧ state.OpenOn other old

/-- The steps which keep attachment exact. -/
def KeepsAttachment (state : ServerState) : ServerAction → Prop
  | .request connection (.createSession request) env =>
      certificateAccepted (channelCreateRequest
          (state.connectionFor connection env) request) = true →
        ∀ other, ¬state.OpenOn other state.runtime.manager.nextToken
  | .request connection (.activateSession request) env =>
      let m := (state.runtime.pruned env.pruneTime).manager
      ∀ session, m.sessions.lookup request.authenticationToken = some session →
        m.signatureAccepted session (channelRequest
            (state.connectionFor connection env) request) = true →
          (session.activated = true ∨ request.allowAnonymous = true) →
            state.MayAttach m connection request.authenticationToken
  | .authenticated task reply _ =>
      ∀ connection pending auth,
        state.suspended task = some ⟨connection, .activating pending⟩ →
          reply = .ok auth →
            state.runtime.manager.Admits pending.request auth →
              ((state.runtime.evicted auth).manager.sessions.lookup
                pending.request.authenticationToken).isSome = true →
                state.MayAttach (state.runtime.evicted auth).manager connection
                  pending.request.authenticationToken
  | .closeConnection connection =>
      ∀ token,
        (state.connections connection).authenticationToken = some token →
          (state.runtime.manager.sessions.lookup token).isSome = true →
            ∀ other, other ≠ connection → ¬state.OpenOn other token
  | _ => True

section Moves

variable {state next : ServerState}

/-- The sessions of the next state, with their flags, are among those of the
state, and the connections are the same. -/
theorem AttachmentExact.shrink (h : AttachmentExact state)
    (hsessions : ∀ token session,
      next.runtime.manager.sessions.lookup token = some session →
        state.runtime.manager.sessions.lookup token = some session)
    (hopen : ∀ token session,
      next.runtime.manager.sessions.lookup token = some session →
        ∀ connection, next.OpenOn connection token ↔
          state.OpenOn connection token) : AttachmentExact next := by
  intro token session hlookup
  rw [h token session (hsessions token session hlookup)]
  exact exists_congr fun connection => (hopen token session hlookup connection).symm

theorem AttachmentExact.attach (h : AttachmentExact state)
    {m : ServerSessionManager} {connection : ℕ} {token : NodeId}
    {session : SessionState} (hmay : state.MayAttach m connection token)
    (hkept : ∀ other session, m.sessions.lookup other = some session →
      state.runtime.manager.sessions.lookup other = some session)
    (hlookup : ∀ other, next.runtime.manager.sessions.lookup other =
      if other = token then some session else m.sessions.lookup other)
    (hattached : session.attached = true)
    (hsame : ∀ other, other ≠ connection → ∀ t,
      next.OpenOn other t ↔ state.OpenOn other t)
    (hclosed : (next.connections connection).closed =
      (state.connections connection).closed)
    (htoken : (next.connections connection).authenticationToken = some token) :
    AttachmentExact next := by
  intro found foundSession hfound
  rw [hlookup] at hfound
  split at hfound
  next heq =>
    subst heq
    obtain rfl := Option.some.inj hfound
    refine iff_of_true hattached ?_
    rcases hmay.reached with hopen | ⟨other, hne, hopen⟩
    · exact ⟨connection, hclosed.trans hopen, htoken⟩
    · exact ⟨other, (hsame other hne found).mpr hopen⟩
  next hne =>
    rw [h found foundSession (hkept found foundSession hfound)]
    constructor
    · rintro ⟨holder, hopen⟩
      by_cases hholder : holder = connection
      · -- the connection leaves this session, which another one still has
        subst hholder
        obtain ⟨other, hother, hopen'⟩ := hmay.left found hopen hne
          (Option.isSome_iff_exists.mpr ⟨foundSession, hfound⟩)
        exact ⟨other, (hsame other hother found).mpr hopen'⟩
      · exact ⟨holder, (hsame holder hholder found).mpr hopen⟩
    · rintro ⟨holder, hopen⟩
      by_cases hholder : holder = connection
      · subst hholder
        rw [OpenOn, htoken, Option.some.injEq] at hopen
        exact absurd hopen.2.symm hne
      · exact ⟨holder, (hsame holder hholder found).mp hopen⟩

end Moves

section Settle

variable (state : ServerState) (connection : ℕ) (outcome : HandlerOutcome)

theorem settle_openOn_of_ne {other : ℕ} (hne : other ≠ connection)
    (token : NodeId) :
    (state.settle connection outcome).1.OpenOn other token ↔
      state.OpenOn other token := by
  rw [OpenOn, settle_connections, Function.update_of_ne hne, OpenOn]

theorem settle_openOn_of_same
    (htoken : outcome.connection.authenticationToken =
      (state.connections connection).authenticationToken)
    (hclosed : outcome.connection.closed =
      (state.connections connection).closed) (other : ℕ) (token : NodeId) :
    (state.settle connection outcome).1.OpenOn other token ↔
      state.OpenOn other token := by
  by_cases heq : other = connection
  · subst heq
    rw [OpenOn, settle_connections, Function.update_self, htoken, hclosed, OpenOn]
  · exact state.settle_openOn_of_ne connection outcome heq token

end Settle

/-! ## The session services -/

section Services

variable {state : ServerState} {connection : ℕ} {outcome : HandlerOutcome}
    {env : RequestEnvironment}

theorem AttachmentExact.creates (h : AttachmentExact state)
    {request : CreateSessionRequest}
    (hcreates : (state.runtime.pruned env.pruneTime).Creates
      (state.connectionFor connection env) request env.now outcome)
    (hfree : certificateAccepted request = true →
      ∀ other, ¬state.OpenOn other state.runtime.manager.nextToken) :
    AttachmentExact (state.settle connection outcome).1 := by
  have hdrops := state.runtime.manager.pruneExpiredSessions_drops env.pruneTime
  cases hcreates with
  | rejected response hrefused hbad =>
      refine h.shrink (fun token session hlookup => ?_)
        fun token _ _ other => settle_openOn_of_same _ _ _ rfl rfl other token
      rw [settle_runtime] at hlookup
      exact hdrops.lookup_before hlookup
  | created session haccepted hnew response hgood htoken =>
      intro token found hfound
      rw [settle_runtime, admitted_state_lookup] at hfound
      have hopen : (∃ other, (state.settle connection
          { runtime := (state.runtime.pruned env.pruneTime).admitted session
            connection := state.connectionFor connection env
            progress := .answered (.createSession response)
            use := some ((state.runtime.pruned env.pruneTime).manager.nextToken,
              .created) }).1.OpenOn other token) ↔
            ∃ other, state.OpenOn other token :=
        exists_congr fun other =>
          settle_openOn_of_same _ _ _ rfl rfl other token
      rw [hopen]
      split at hfound
      next heq =>
        subst heq
        obtain rfl := Option.some.inj hfound
        rw [hnew.attached]
        simp only [Bool.false_eq_true, false_iff, not_exists]
        exact hfree haccepted
      next => exact h token found (hdrops.lookup_before hfound)

theorem AttachmentExact.settle_attached (h : AttachmentExact state)
    {taken : ServerState} (htaken : taken.connections = state.connections)
    {m : ServerSessionManager} {removed : List NodeId}
    (hdrops : state.runtime.manager.Drops m removed)
    {token : NodeId} {session : SessionState}
    (hmay : state.MayAttach m connection token)
    (hlookup : ∀ other, outcome.runtime.manager.sessions.lookup other =
      if other = token then some session else m.sessions.lookup other)
    (hattached : session.attached = true)
    (hclosed : outcome.connection.closed = (state.connections connection).closed)
    (htoken : outcome.connection.authenticationToken = some token) :
    AttachmentExact (taken.settle connection outcome).1 := by
  refine h.attach hmay (fun other session => hdrops.lookup_before) ?_ hattached
    ?_ ?_ ?_
  · intro other
    rw [settle_runtime, hlookup]
  · intro other hne t
    rw [settle_openOn_of_ne _ _ _ hne, OpenOn, htaken, OpenOn]
  · rw [settle_connections, Function.update_self, hclosed]
  · rw [settle_connections, Function.update_self, htoken]

theorem AttachmentExact.settle_refused (h : AttachmentExact state)
    {taken : ServerState} (htaken : taken.connections = state.connections)
    {removed : List NodeId}
    (hdrops : state.runtime.manager.Drops outcome.runtime.manager removed)
    (htoken : outcome.connection.authenticationToken =
      (state.connections connection).authenticationToken)
    (hclosed : outcome.connection.closed =
      (state.connections connection).closed) :
    AttachmentExact (taken.settle connection outcome).1 := by
  refine h.shrink (fun token session hlookup => ?_) fun token _ _ other => ?_
  · rw [settle_runtime] at hlookup
    exact hdrops.lookup_before hlookup
  · rw [settle_openOn_of_same taken connection outcome (by rw [htoken, htaken])
      (by rw [hclosed, htaken]), OpenOn, htaken, OpenOn]

theorem AttachmentExact.begins (h : AttachmentExact state)
    (hcovers : state.runtime.Covers) {request : ActivateSessionRequest}
    (hbegins : (state.runtime.pruned env.pruneTime).BeginsActivation
      (state.connectionFor connection env) request env.now outcome)
    (hmay : ∀ session,
      (state.runtime.pruned env.pruneTime).manager.sessions.lookup
          request.authenticationToken = some session →
        (state.runtime.pruned env.pruneTime).manager.signatureAccepted session
            request = true →
          (session.activated = true ∨ request.allowAnonymous = true) →
            state.MayAttach (state.runtime.pruned env.pruneTime).manager
              connection request.authenticationToken) :
    AttachmentExact (state.settle connection outcome).1 := by
  have hdrops := state.runtime.manager.pruneExpiredSessions_drops env.pruneTime
  cases hbegins with
  | rejected response hbad => exact h.settle_refused rfl hdrops rfl rfl
  | lost session hlookup hsigned hactivated hlost =>
      have hpruned : (state.runtime.pruned env.pruneTime).Covers :=
        Couples.pruned id hcovers env.pruneTime
      exact absurd hlost (hpruned.lookup_ne_none hlookup hactivated)
  | resumed session object hlookup hsigned hactivated hobject =>
      exact h.settle_attached rfl hdrops
        (hmay session hlookup hsigned (.inl hactivated))
        ((state.runtime.pruned env.pruneTime).withState_state_lookup _ _)
        rfl rfl rfl
  | anonymous session hlookup hsigned hfresh hanonymous =>
      exact h.settle_attached rfl hdrops
        (hmay session hlookup hsigned (.inr hanonymous))
        ((state.runtime.pruned env.pruneTime).withState_state_lookup _ _)
        rfl rfl rfl
  | authenticating session pending hlookup hfresh hnamed hrequest huserName
      hpassword => exact h.settle_refused rfl hdrops rfl rfl

theorem AttachmentExact.completes (h : AttachmentExact state)
    {taken : ServerState} (htaken : taken.connections = state.connections)
    {pending : PendingActivation} {reply : StatusOr AuthenticationResult}
    {now : DateTime}
    (hcompletes : state.runtime.CompletesActivation
      (state.connections connection) pending reply now outcome)
    (hmay : ∀ auth, reply = .ok auth →
      state.runtime.manager.Admits pending.request auth →
        ((state.runtime.evicted auth).manager.sessions.lookup
          pending.request.authenticationToken).isSome = true →
          state.MayAttach (state.runtime.evicted auth).manager connection
            pending.request.authenticationToken) :
    AttachmentExact (taken.settle connection outcome).1 := by
  cases hcompletes with
  | refused status hbad hreply =>
      exact h.settle_refused htaken (.refl _) rfl rfl
  | alreadyLoggedOn auth hreply hgate =>
      exact h.settle_refused htaken (.refl _) rfl rfl
  | missing auth hreply hgate hlookup =>
      exact h.settle_refused htaken (state.runtime.manager.evict_drops auth)
        rfl rfl
  | activated auth hreply hgate session hlookup =>
      have hlive := Option.isSome_iff_exists.mpr ⟨session, hlookup⟩
      exact h.settle_attached htaken (state.runtime.manager.evict_drops auth)
        (hmay auth hreply hgate hlive)
        ((state.runtime.evicted auth).withState_state_lookup _ _) rfl rfl rfl

/-- A closed session is gone from the manager, so the connection which drops its
token does not matter. -/
theorem AttachmentExact.closes (h : AttachmentExact state)
    {request : CloseSessionRequest}
    (hcloses : state.runtime.Closes (state.connectionFor connection env) request
      outcome) :
    AttachmentExact (state.settle connection outcome).1 := by
  have hgone : outcome.runtime.manager.sessions.lookup
      request.authenticationToken = none := by
    cases hcloses with
    | missing hlookup => exact hlookup
    | closed manager hdrops session hlookup =>
        change manager.sessions.lookup _ = none
        rw [hdrops.lookup]
        simp
  have hconnection : outcome.connection =
      if (state.connections connection).authenticationToken =
          some request.authenticationToken then
        { state.connectionFor connection env with authenticationToken := none }
      else state.connectionFor connection env := by
    cases hcloses <;> rfl
  refine h.shrink (fun token session hlookup => ?_)
    fun token session hlookup other => ?_
  · rw [settle_runtime] at hlookup
    cases hcloses with
    | missing hmissing => exact hlookup
    | closed manager hdrops closed hclosed => exact hdrops.lookup_before hlookup
  · rw [settle_runtime] at hlookup
    have hne : token ≠ request.authenticationToken := by
      rintro rfl
      simp [hgone] at hlookup
    by_cases heq : other = connection
    · subst heq
      rw [OpenOn, settle_connections, Function.update_self, hconnection, OpenOn]
      split
      next hheld => simp [hheld, hne.symm]
      next => rfl
    · exact settle_openOn_of_ne _ _ _ heq token

end Services

theorem AttachmentExact.closeConnection {state : ServerState}
    (h : AttachmentExact state) {connection : ℕ}
    (honly : ∀ token,
      (state.connections connection).authenticationToken = some token →
        (state.runtime.manager.sessions.lookup token).isSome = true →
          ∀ other, other ≠ connection → ¬state.OpenOn other token) :
    AttachmentExact (state.closeConnection connection) := by
  have hself : ∀ token, ¬(state.closeConnection connection).OpenOn connection
      token := by
    rintro token ⟨hclosed, _⟩
    simp [closeConnection_connections] at hclosed
  have hother : ∀ other, other ≠ connection → ∀ token,
      (state.closeConnection connection).OpenOn other token ↔
        state.OpenOn other token := by
    intro other hne token
    rw [OpenOn, closeConnection_connections, Function.update_of_ne hne, OpenOn]
  -- the closed connection counts for no token it did not have
  have hopen : ∀ token, ¬state.OpenOn connection token →
      ((∃ other, (state.closeConnection connection).OpenOn other token) ↔
        ∃ other, state.OpenOn other token) := by
    intro token hnot
    refine exists_congr fun other => ?_
    by_cases heq : other = connection
    · subst heq
      exact iff_of_false (hself token) hnot
    · exact hother other heq token
  intro token session hlookup
  cases hheld : (state.connections connection).authenticationToken with
  | none =>
      rw [hopen token (by simp [OpenOn, hheld])]
      apply h token session
      simpa [ServerState.closeConnection, ServerRuntime.detach, hheld]
        using hlookup
  | some held =>
      have hdetached : (state.closeConnection connection).runtime.manager =
          state.runtime.manager.detachSession held := by
        simp [ServerState.closeConnection, ServerRuntime.detach, hheld]
      rw [hdetached, detachSession_lookup] at hlookup
      split at hlookup
      next heq =>
        subst heq
        obtain ⟨old, hold, rfl⟩ := Option.map_eq_some_iff.mp hlookup
        have hlive := Option.isSome_iff_exists.mpr ⟨old, hold⟩
        simp only [Bool.false_eq_true, false_iff, not_exists]
        intro other
        by_cases hsame : other = connection
        · subst hsame
          exact hself token
        · rw [hother other hsame]
          exact honly token hheld hlive other hsame
      next hne =>
        rw [hopen token (by simp [OpenOn, hheld, Ne.symm hne])]
        exact h token session hlookup

theorem step_attachmentExact {state : ServerState} {action : ServerAction}
    (h : AttachmentExact state)
    (hcovers : state.runtime.Covers)
    (hkeeps : state.KeepsAttachment action) :
    AttachmentExact (state.step action).1 := by
  have htransition := state.step_transition action
  generalize state.step action = result at htransition ⊢
  cases htransition with
  | quiet hquiet hedits hreport =>
      refine h.shrink (fun token session hlookup => ?_) fun token _ _ other => ?_
      · rwa [hquiet.serves.manager] at hlookup
      · rw [OpenOn, hquiet.closed, hquiet.authenticationToken, OpenOn]
  | createSession connection request env outcome hcreates =>
      exact h.creates hcreates hkeeps
  | activateSession connection request env outcome hbegins =>
      exact h.begins hcovers hbegins hkeeps
  | authenticated task connection pending reply now outcome htask hcompletes =>
      exact h.completes rfl hcompletes fun auth =>
        hkeeps connection pending auth htask
  | closeSession connection request env outcome hcloses =>
      exact h.closes hcloses
  | closeConnection connection => exact h.closeConnection hkeeps
  | prune now =>
      have hdrops := state.runtime.manager.pruneExpiredSessions_drops now
      exact h.shrink (fun token session hlookup => hdrops.lookup_before hlookup)
        fun token _ _ other => Iff.rfl

end ServerState

namespace ServerRun

open ServerState ServerRuntime ServerSessionManager

/-- In every run whose steps meet the condition, a session is marked attached if
and only if an open connection has its token. -/
theorem attached_iff_open_connection (context : ServerSessionManagerContext)
    (operationLimits : OperationLimits) (actions : List ServerAction)
    (hkeeps : AllMeet step (fun run action => run.state.KeepsAttachment action)
      (start context operationLimits) actions) :
    (runFrom step (start context operationLimits)
      actions).state.AttachmentExact := by
  have hexact := runFrom_invariant
    (P := fun run : ServerRun =>
      run.state.AttachmentExact ∧ run.state.runtime.Covers)
    (fun run action h hkeeps => ⟨?_, ?_⟩) ⟨?_, ?_⟩ hkeeps
  · exact hexact.1
  · exact step_attachmentExact h.1 h.2 hkeeps
  · exact step_covers h.2 action
  · intro token session hlookup
    simp [start] at hlookup
  · exact activated_registered context operationLimits []

theorem first_session_attached_iff_open_connection :
    let state := (runFrom step (start {} {})
      [creates 0 {}, activates 0 (defaultToken 1) {}]).state
    (state.connections 0).authenticationToken = some (defaultToken 1) ∧
      state.AttachmentExact := by
  refine ⟨by decide +kernel, attached_iff_open_connection {} {} _ ?_⟩
  refine ⟨fun _ other hopen => ?_, fun session _ _ _ => ⟨.inl ?_, ?_⟩, trivial⟩
  · simp [OpenOn, start] at hopen
  · decide
  · rintro old ⟨_, hold⟩
    have hnone : ((step (start {} {}) (creates 0 {})).state.connections
        0).authenticationToken = none := by decide
    rw [hnone] at hold
    exact absurd hold (by simp)

/-- A session is resumed on a second connection, and then the first one closes:
the session is no longer marked attached, though the second connection is open
and has its token. -/
theorem resumed_session_detached_by_first_connection :
    let state := (runFrom step (start {} {})
      [creates 0 {}, activates 0 (defaultToken 1) {},
        activates 1 (defaultToken 1) {}, .closeConnection 0]).state
    (state.runtime.manager.sessions.lookup (defaultToken 1)).map
        SessionState.attached = some false ∧
      (state.connections 1).closed = false ∧
      (state.connections 1).authenticationToken = some (defaultToken 1) := by
  decide +kernel

end ServerRun
end OpcuaStack
