import OpcuaStack.SessionAgreement

/-!
# How long a session lives

A session expires its revised timeout after it was created or last activated.
The log of a run tells when that was, so the expiry of every live session can be
read off the log.  Requests served under the session do not enter.
-/

namespace OpcuaStack

/-- The uses which set the expiry of a session. -/
def SessionUse.renews : SessionUse → Bool
  | .created | .activated | .resumed => true
  | .closed | .served => false

/-- When the action reads the clock for a session's expiry. -/
def ServerAction.time : ServerAction → DateTime
  | .request _ _ env => env.now
  | .authenticated _ _ now => now
  | _ => {}

/-- The time at which a logged action created, activated or resumed the session. -/
def renewal (token : NodeId) (entry : ServerAction × Option StepReport) :
    Option DateTime :=
  match entry.2.bind StepReport.use with
  | some (used, use) =>
      if used = token ∧ use.renews = true then some entry.1.time else none
  | none => none

def lastRenewal (log : List (ServerAction × Option StepReport))
    (token : NodeId) : Option DateTime :=
  (log.filterMap (renewal token)).getLast?

theorem lastRenewal_append (log : List (ServerAction × Option StepReport))
    (entry : ServerAction × Option StepReport) (token : NodeId) :
    lastRenewal (log ++ [entry]) token =
      (renewal token entry).or (lastRenewal log token) := by
  unfold lastRenewal
  rw [List.filterMap_append]
  cases hentry : renewal token entry with
  | none => simp [hentry]
  | some time => simp [hentry]

/-- The expiry of a session, and what it was computed with. -/
def SessionState.SameExpiry (before after : SessionState) : Prop :=
  after.expiresAt = before.expiresAt ∧
    after.revisedTimeout = before.revisedTimeout

namespace ServerSessionManager

/-- Between the two managers a session was renewed at the given time, if the
use says so; the expiry of every other session is unchanged. -/
def Renews (before after : ServerSessionManager)
    (used : Option (NodeId × SessionUse)) (time : DateTime) : Prop :=
  ∀ token session, after.sessions.lookup token = some session →
    (∃ use, used = some (token, use) ∧ use.renews = true ∧
        session.expiresAt = time.add session.revisedTimeout) ∨
      ((∀ use, used = some (token, use) → use.renews = false) ∧
        ∃ old, before.sessions.lookup token = some old ∧
          old.SameExpiry session)

/-- Every session of the second manager is one of the first, with its expiry. -/
def KeepsExpiry (before after : ServerSessionManager) : Prop :=
  ∀ token session, after.sessions.lookup token = some session →
    ∃ old, before.sessions.lookup token = some old ∧ old.SameExpiry session

theorem KeepsExpiry.refl (m : ServerSessionManager) : KeepsExpiry m m :=
  fun _ session hlookup => ⟨session, hlookup, rfl, rfl⟩

theorem Drops.keepsExpiry {before after : ServerSessionManager}
    {removed : List NodeId} (h : Drops before after removed) :
    KeepsExpiry before after := by
  intro token session hlookup
  exact ⟨session, h.lookup_before hlookup, rfl, rfl⟩

theorem KeepsExpiry.detachSession (m : ServerSessionManager) (token : NodeId) :
    KeepsExpiry m (m.detachSession token) := by
  intro other session hlookup
  rw [detachSession_lookup] at hlookup
  split at hlookup
  next heq =>
    obtain ⟨old, hold, hsession⟩ := Option.map_eq_some_iff.mp hlookup
    subst heq hsession
    exact ⟨old, hold, rfl, rfl⟩
  next => exact ⟨session, hlookup, rfl, rfl⟩

theorem KeepsExpiry.renews {before after : ServerSessionManager}
    (h : KeepsExpiry before after) {used : Option (NodeId × SessionUse)}
    (hused : ∀ token use, used = some (token, use) → use.renews = false)
    (time : DateTime) : Renews before after used time :=
  fun token session hlookup =>
    .inr ⟨hused token, h token session hlookup⟩

theorem KeepsExpiry.renews_insert {before after renewed : ServerSessionManager}
    (h : KeepsExpiry before after) {token : NodeId} {session : SessionState}
    {use : SessionUse} {time : DateTime}
    (hlookup : ∀ other, renewed.sessions.lookup other =
      if other = token then some session else after.sessions.lookup other)
    (huse : use.renews = true)
    (hexpires : session.expiresAt = time.add session.revisedTimeout) :
    Renews before renewed (some (token, use)) time := by
  intro other found hfound
  rw [hlookup] at hfound
  split at hfound
  next heq =>
    subst heq
    obtain rfl := Option.some.inj hfound
    exact .inl ⟨use, rfl, huse, hexpires⟩
  next hne =>
    refine .inr ⟨fun other heq => ?_, h other found hfound⟩
    simp only [Option.some.injEq, Prod.mk.injEq] at heq
    exact absurd heq.1.symm hne

end ServerSessionManager

namespace ServerState

open ServerRuntime ServerSessionManager

theorem step_renews {state : ServerState} (action : ServerAction)
    (hcovers : state.runtime.Covers) :
    Renews state.runtime.manager (state.step action).1.runtime.manager
      ((state.step action).2.bind StepReport.use) action.time := by
  have htransition := state.step_transition action
  generalize state.step action = result at htransition ⊢
  cases htransition with
  | quiet hquiet hedits hreport =>
      rw [hquiet.serves.manager]
      refine (KeepsExpiry.refl _).renews (fun token use hused => ?_) _
      obtain ⟨report, hentry, huse⟩ := Option.bind_eq_some_iff.mp hused
      rw [(hreport report hentry token use huse).1]
      rfl
  | createSession connection request env outcome hcreates =>
      rw [settle_runtime, settle_report, Option.bind_some]
      have hkept :=
        (state.runtime.manager.pruneExpiredSessions_drops
          env.pruneTime).keepsExpiry
      cases hcreates with
      | rejected response hrefused hbad => exact hkept.renews (by simp) _
      | created session haccepted hnew response hgood htoken =>
          exact hkept.renews_insert
            ((state.runtime.pruned env.pruneTime).admitted_state_lookup session)
            rfl hnew.expiresAt
  | activateSession connection request env outcome hbegins =>
      rw [settle_runtime, settle_report, Option.bind_some]
      have hpruned : (state.runtime.pruned env.pruneTime).Covers :=
        Couples.pruned id hcovers env.pruneTime
      have hkept :=
        (state.runtime.manager.pruneExpiredSessions_drops
          env.pruneTime).keepsExpiry
      cases hbegins with
      | rejected response hbad => exact hkept.renews (by simp) _
      | lost session hlookup hsigned hactivated hlost =>
          exact absurd hlost (hpruned.lookup_ne_none hlookup hactivated)
      | resumed session object hlookup hsigned hactivated hobject =>
          exact hkept.renews_insert
            ((state.runtime.pruned env.pruneTime).withState_state_lookup _ _)
            rfl rfl
      | anonymous session hlookup hsigned hfresh hanonymous =>
          exact hkept.renews_insert
            ((state.runtime.pruned env.pruneTime).withState_state_lookup _ _)
            rfl rfl
      | authenticating session pending hlookup hfresh hnamed hrequest huserName
          hpassword => exact hkept.renews (by simp) _
  | authenticated task connection pending reply now outcome htask hcompletes =>
      rw [settle_runtime, settle_report, Option.bind_some]
      cases hcompletes with
      | refused status hbad hreply =>
          exact (KeepsExpiry.refl _).renews (by simp) _
      | alreadyLoggedOn auth hreply hgate =>
          exact (KeepsExpiry.refl _).renews (by simp) _
      | missing auth hreply hgate hlookup =>
          exact (state.runtime.manager.evict_drops auth).keepsExpiry.renews
            (by simp) _
      | activated auth hreply hgate session hlookup =>
          exact (state.runtime.manager.evict_drops
            auth).keepsExpiry.renews_insert
              ((state.runtime.evicted auth).withState_state_lookup _ _) rfl rfl
  | closeSession connection request env outcome hcloses =>
      rw [settle_runtime, settle_report, Option.bind_some]
      cases hcloses with
      | missing hlookup => exact (KeepsExpiry.refl _).renews (by simp) _
      | closed manager hdrops session hlookup =>
          refine hdrops.keepsExpiry.renews (fun token use hused => ?_) _
          simp only [Option.some.injEq, Prod.mk.injEq] at hused
          rw [← hused.2]
          rfl
  | closeConnection connection =>
      have hkept : KeepsExpiry state.runtime.manager
          (state.closeConnection connection).runtime.manager := by
        simp only [closeConnection, detach]
        split
        · exact KeepsExpiry.refl _
        · exact KeepsExpiry.detachSession _ _
      exact hkept.renews (by simp) _
  | prune now =>
      exact (state.runtime.manager.pruneExpiredSessions_drops
        now).keepsExpiry.renews (by simp) _

end ServerState

namespace ServerRun

open ServerRuntime ServerSessionManager

/-- The expiry of every live session is its last renewal plus its timeout. -/
def ExpiryLogged (run : ServerRun) : Prop :=
  ∀ token session,
    run.state.runtime.manager.sessions.lookup token = some session →
      ∃ time, lastRenewal run.log token = some time ∧
        session.expiresAt = time.add session.revisedTimeout

theorem ExpiryLogged.step {run : ServerRun} (h : ExpiryLogged run)
    (hcovers : run.state.runtime.Covers) (action : ServerAction) :
    ExpiryLogged (run.step action) := by
  intro token session hlookup
  rw [step_log, lastRenewal_append]
  rcases ServerState.step_renews action hcovers token session hlookup with
    ⟨use, hused, hrenews, hexpires⟩ | ⟨hnot, old, hold, hsame⟩
  · refine ⟨action.time, ?_, hexpires⟩
    simp [renewal, hused, hrenews]
  · obtain ⟨time, htime, hexpires⟩ := h token old hold
    refine ⟨time, ?_, by rw [hsame.1, hsame.2, hexpires]⟩
    have hnone : renewal token (action, (run.state.step action).2) = none := by
      unfold renewal
      split
      next used use hused =>
        rw [if_neg]
        rintro ⟨rfl, hrenews⟩
        rw [hnot use hused] at hrenews
        exact Bool.noConfusion hrenews
      next => rfl
    rw [hnone, Option.none_or, htime]

/-- In every run a live session has been renewed, by its creation or by a
successful activation, and expiry removes it exactly when its revised timeout
has passed since the last time. -/
theorem expires_timeout_after_last_renewal
    (context : ServerSessionManagerContext) (operationLimits : OperationLimits)
    (actions : List ServerAction) (token : NodeId) (session : SessionState) :
    let run := runFrom step (start context operationLimits) actions
    run.state.runtime.manager.sessions.lookup token = some session →
      ∃ renewed, lastRenewal run.log token = some renewed ∧
        ∀ now,
          token ∈ (run.state.runtime.manager.pruneExpiredSessions now).removed ↔
            (renewed.add session.revisedTimeout).ticks ≤ now.ticks := by
  intro run hlookup
  have hlogged : ExpiryLogged run ∧ run.state.runtime.Covers := by
    refine runFrom_invariant_of_step (P := fun run : ServerRun =>
      ExpiryLogged run ∧ run.state.runtime.Covers) ?_ ?_ actions
    · rintro run action ⟨hlogged, hcovers⟩
      exact ⟨hlogged.step hcovers action,
        ServerState.step_covers hcovers action⟩
    · refine ⟨?_, activated_registered context operationLimits []⟩
      intro token session hlookup
      simp [start] at hlookup
  obtain ⟨renewed, hrenewed, hexpires⟩ := hlogged.1 token session hlookup
  refine ⟨renewed, hrenewed, fun now => ?_⟩
  rw [mem_pruneExpiredSessions_removed, ← hexpires]
  simp [hlookup, SessionState.expiredAt]

theorem first_session_expires_after_timeout :
    let run := runFrom step (start {} {})
      [creates 0 {}, activates 0 (defaultToken 1) {}]
    ∃ session renewed,
      run.state.runtime.manager.sessions.lookup (defaultToken 1) = some session ∧
        lastRenewal run.log (defaultToken 1) = some renewed ∧
        ∀ now, defaultToken 1 ∈
            (run.state.runtime.manager.pruneExpiredSessions now).removed ↔
          (renewed.add session.revisedTimeout).ticks ≤ now.ticks := by
  intro run
  have hlive : (run.state.runtime.manager.sessions.lookup
      (defaultToken 1)).isSome = true := by decide +kernel
  obtain ⟨session, hlookup⟩ := Option.isSome_iff_exists.mp hlive
  obtain ⟨renewed, hrenewed, hexpires⟩ := expires_timeout_after_last_renewal {} {}
    [creates 0 {}, activates 0 (defaultToken 1) {}] (defaultToken 1) session
    hlookup
  exact ⟨session, renewed, hlookup, hrenewed, hexpires⟩

def reads (connection : ℕ) (time : DateTime) : ServerAction :=
  .request connection (.service .read []) { pruneTime := time, now := time }

/-- A client with a session of 30 seconds reads every ten seconds. -/
def keepsReading : List ServerAction :=
  [.request 0 (.createSession { requestedTimeout := ⟨30000⟩ }) {},
    activates 0 (defaultToken 1) {},
    reads 0 (atMillisecond 10000),
    .served 0 (.service .read .good []),
    reads 0 (atMillisecond 20000),
    .served 1 (.service .read .good [])]

/-- Every read is served under the session, and ten seconds after the last one
the session expires. -/
theorem session_of_active_client_expires :
    let run := runFrom step (start {} {}) keepsReading
    (run.state.runtime.manager.sessions.lookup (defaultToken 1)).map
        SessionState.revisedTimeout = some ⟨30000⟩ ∧
      run.log.filterMap (fun entry => (entry.2.bind StepReport.use).map
          fun use => (entry.1.time, use)) =
        [({}, (defaultToken 1, .created)), ({}, (defaultToken 1, .activated)),
          (atMillisecond 10000, (defaultToken 1, .served)),
          (atMillisecond 20000, (defaultToken 1, .served))] ∧
      ((run.step (.prune
        (atMillisecond 30000))).state.runtime.manager.sessions.lookup
          (defaultToken 1)).isNone = true := by
  decide +kernel

end ServerRun
end OpcuaStack
