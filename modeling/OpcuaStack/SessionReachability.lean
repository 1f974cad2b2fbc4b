import OpcuaStack.SessionServiceTransitions

/-!
# Reachable sessions

A session starts without subscriptions and is changed by the calls of the
runtime and by its backing subscriptions only.  The reachable sessions are
those which some sequence of these brings about; every session registered in a
run of the server is one of them.
-/

namespace OpcuaStack

namespace ServerSession

/-- The sessions which the operations bring about from new ones. -/
inductive Reachable : ServerSession → Prop where
  | new (address : ℕ) (sessionId : NodeId) (serviceContext : ServiceContext)
      (operationLimits : OperationLimits) :
      Reachable
        { address := address
          sessionId := sessionId
          serviceContext := serviceContext
          operationLimits := operationLimits }
  | resumed {session : ServerSession} (h : Reachable session)
      (serviceContext : ServiceContext) :
      Reachable { session with serviceContext := serviceContext }
  | created {session : ServerSession} (h : Reachable session)
      (id : SubscriptionId) (request : CreateSubscriptionRequest)
      (traceParent : ByteText) (now : DateTime) :
      Reachable (session.createSubscriptionWithId id request traceParent now).1
  | deleted {session : ServerSession} (h : Reachable session)
      (request : DeleteSubscriptionsRequest) :
      Reachable (session.deleteSubscriptions request).1
  | received {target source : ServerSession} (htarget : Reachable target)
      (hsource : Reachable source) (ids : List SubscriptionId) :
      Reachable (target.transferSubscriptionsFrom source ids).1.1
  | gave {target source : ServerSession} (htarget : Reachable target)
      (hsource : Reachable source) (ids : List SubscriptionId) :
      Reachable (target.transferSubscriptionsFrom source ids).1.2
  | acknowledged {session : ServerSession} (h : Reachable session)
      (request : PublishRequest) :
      Reachable (session.acknowledgePublishRequest request).1
  | polled {session : ServerSession} (h : Reachable session) (now : DateTime) :
      Reachable (session.pollPublish now).1
  | served {session : ServerSession} (h : Reachable session)
      (request : SessionRequest) (envs : ℕ → BindEnvironment) :
      Reachable (session.serve request envs).1
  | browsed {session : ServerSession} (h : Reachable session)
      (response : BrowseResponse) (requestedMax : ℕ) :
      Reachable (session.storeBrowseResults response requestedMax).1
  | backing {session : ServerSession} (h : Reachable session)
      (id : SubscriptionId) (event : ServerSubscription.BackingEvent) :
      Reachable (session.onSubscription id () fun subscription =>
        (subscription.onBackingEvent event, ())).1

end ServerSession

/-! ## Sessions of the runtime -/

namespace ServerRuntime

open ServerSession

def HoldsReachable (r : ServerRuntime) : Prop :=
  ∀ token session, r.sessions.lookup token = some session → session.Reachable

namespace HoldsReachable

variable {r : ServerRuntime} (h : r.HoldsReachable)
include h

theorem write {token : NodeId} {session : ServerSession}
    (hsession : session.Reachable) :
    (r.writeSession token session).HoldsReachable := by
  intro other found hfound
  rw [writeSession, KeyedMap.lookup_insert_eq] at hfound
  split at hfound
  · cases hfound
    exact hsession
  · exact h other found hfound

theorem adopt (manager : ServerSessionManager) (removed : List NodeId) :
    (r.adopt manager removed).HoldsReachable := by
  intro token session hlookup
  rw [adopt_lookup] at hlookup
  split at hlookup
  · simp at hlookup
  · exact h token session hlookup

theorem register (request : ActivateSessionRequest)
    (context : ServiceContext) : (r.register request context).HoldsReachable :=
  h.write (.new _ _ _ _)

theorem transferFrom (token source : NodeId)
    (groups : NodeId → List (SubscriptionId × ℕ))
    (results : List TransferResult) :
    (ServerRuntime.transferFrom token groups
      (r, results) source).1.HoldsReachable := by
  unfold ServerRuntime.transferFrom
  simp only
  split
  next target giving htarget hgiving =>
    have hreceived := h token target htarget
    have hgave := h source giving hgiving
    exact (h.write (.gave hreceived hgave _)).write (.received hreceived hgave _)
  next => exact h

theorem withAttachedSession {connection : ConnectionState}
    {missing : ResponseBody}
    {body : NodeId → ServerSession → ServerRuntime × Progress}
    (hbody : ∀ token session, session.Reachable →
      (body token session).1.HoldsReachable) :
    (r.withAttachedSession connection missing body).runtime.HoldsReachable := by
  unfold ServerRuntime.withAttachedSession
  split
  · exact h
  next token session hfound =>
    exact hbody token session
      (h token session (findAttachedSession_eq_some.mp hfound).2)

theorem publish {connection : ConnectionState} {token : NodeId}
    {session : ServerSession} (hsession : session.Reachable)
    (request : PublishRequest) (now : DateTime) :
    (r.publish connection token session request now).1.HoldsReachable := by
  have hacknowledged := hsession.acknowledged request
  unfold ServerRuntime.publish
  simp only
  split
  · exact h.write hacknowledged
  · exact h.write (hacknowledged.polled now)

theorem handle (connection : ConnectionState) (body : RequestBody)
    (env : RequestEnvironment) (hbody : ¬RequestsSessionService body) :
    (r.handle connection body env).runtime.HoldsReachable := by
  cases body with
  | createSession request => exact absurd trivial hbody
  | activateSession request => exact absurd trivial hbody
  | closeSession request => exact absurd trivial hbody
  | createSubscription request =>
      refine h.withAttachedSession fun token session hsession => ?_
      exact h.write (hsession.created _ _ _ _)
  | deleteSubscriptions request =>
      refine h.withAttachedSession fun token session hsession => ?_
      exact h.write (hsession.deleted _)
  | transferSubscriptions request =>
      refine h.withAttachedSession fun token session _ => ?_
      exact transferSubscriptions_invariant (P := HoldsReachable)
        (fun source _ state hstate => hstate.transferFrom token source _ state.2)
        h env
  | publish request =>
      refine h.withAttachedSession fun token session hsession => ?_
      exact h.publish hsession request env.now
  | browse request => exact h.withAttachedSession fun _ _ _ => h
  | session request =>
      refine h.withAttachedSession fun token session hsession => ?_
      exact h.write (hsession.served request env.binds)
  | service kind parameters => exact h.withAttachedSession fun _ _ _ => h

theorem resumePublish (connection : ConnectionState)
    (ackResults : List StatusCode) (now : DateTime) :
    (r.resumePublish connection ackResults now).runtime.HoldsReachable := by
  unfold ServerRuntime.resumePublish
  simp only
  split
  · exact h
  · split
    · exact h
    next token session hfound =>
      have hsession := h token session (findAttachedSession_eq_some.mp hfound).2
      exact h.write (hsession.polled now)

theorem resumeBrowse (connection : ConnectionState)
    (address requestedMax : ℕ) (reply : ResponseBody) :
    (r.resumeBrowse connection address requestedMax
      reply).runtime.HoldsReachable := by
  unfold ServerRuntime.resumeBrowse
  split
  · simp only
    split
    next token session hfound =>
      have hsession := h token session (sessionAt_eq_some hfound).1
      exact h.write (hsession.browsed _ _)
    next => exact h
  · exact h

theorem beginsActivation {connection : ConnectionState}
    {request : ActivateSessionRequest} {now : DateTime}
    {outcome : HandlerOutcome}
    (hbegins : r.BeginsActivation connection request now outcome) :
    outcome.runtime.HoldsReachable := by
  cases hbegins with
  | rejected response hbad => exact h
  | lost session hlookup hsigned hactivated hlost => exact h
  | resumed session object hlookup hsigned hactivated hobject =>
      exact HoldsReachable.write (r := r.withState _ _) h
        ((h _ object hobject).resumed _)
  | anonymous session hlookup hsigned hfresh hanonymous =>
      exact HoldsReachable.register (r := r.withState _ _) h request _
  | authenticating session pending hlookup hfresh hnamed hrequest huserName
      hpassword => exact h

theorem completesActivation {connection : ConnectionState}
    {pending : PendingActivation} {reply : StatusOr AuthenticationResult}
    {now : DateTime} {outcome : HandlerOutcome}
    (hcompletes : r.CompletesActivation connection pending reply now outcome) :
    outcome.runtime.HoldsReachable := by
  cases hcompletes with
  | refused status hbad hreply => exact h
  | alreadyLoggedOn auth hreply hgate => exact h
  | missing auth hreply hgate hlookup => exact h.adopt _ _
  | activated auth hreply hgate session hlookup =>
      have hevicted : (r.evicted auth).HoldsReachable := h.adopt _ _
      exact HoldsReachable.register (r := (r.evicted auth).withState _ _)
        hevicted pending.request _

end HoldsReachable

end ServerRuntime

/-! ## Runs of the server -/

namespace ServerState

open ServerRuntime

theorem settle_holdsReachable (state : ServerState) (connection : ℕ)
    {outcome : HandlerOutcome} (h : outcome.runtime.HoldsReachable) :
    (state.settle connection outcome).1.runtime.HoldsReachable := by
  rw [settle_runtime]
  exact h

theorem step_holdsReachable (state : ServerState) (action : ServerAction)
    (h : state.runtime.HoldsReachable) :
    (state.step action).1.runtime.HoldsReachable := by
  cases action with
  | request connection body env =>
      apply settle_holdsReachable
      by_cases hbody : RequestsSessionService body
      · have hpruned : (state.runtime.pruned env.pruneTime).HoldsReachable :=
          h.adopt _ _
        cases body with
        | createSession request => exact h.adopt _ _
        | activateSession request =>
            exact hpruned.beginsActivation
              (state.runtime.handleActivateSession_begins _ request env)
        | closeSession request => exact h.adopt _ _
        | _ => exact hbody.elim
      · exact h.handle _ body env hbody
  | authenticated task reply now =>
      unfold step
      simp only
      split
      next connection pending htask =>
        apply settle_holdsReachable
        exact h.completesActivation
          (state.runtime.completeActivateSession_completes _ pending reply now)
      next => exact h
  | served task reply =>
      unfold step
      simp only
      split
      · apply settle_holdsReachable
        exact h.resumeBrowse _ _ _ reply
      · apply settle_holdsReachable
        exact h
      · exact h
  | delayElapsed task now =>
      unfold step
      simp only
      split
      · apply settle_holdsReachable
        exact h.resumePublish _ _ now
      · exact h
  | closeConnection connection =>
      simp only [step, closeConnection, detach]
      split <;> exact h
  | prune now => exact h.adopt _ _
  | backing token id event =>
      simp only [step, backingEvent]
      split
      · exact h
      next session hlookup =>
        exact h.write ((h token session hlookup).backing id event)

end ServerState

/-- Every session registered in a run of the server is reachable. -/
theorem ServerRun.registered_reachable (context : ServerSessionManagerContext)
    (operationLimits : OperationLimits) (actions : List ServerAction) :
    (runFrom ServerRun.step (ServerRun.start context operationLimits)
      actions).state.runtime.HoldsReachable := by
  refine runFrom_invariant_of_step
    (P := fun run : ServerRun => run.state.runtime.HoldsReachable)
    (fun run action h => run.state.step_holdsReachable action h) ?_ actions
  intro token session hlookup
  simp [ServerRun.start] at hlookup

end OpcuaStack
