import OpcuaStack.ServerSystem
import OpcuaStack.SessionManagerTransitions
import OpcuaStack.SessionTransitions

/-!
# What serving a request does to the runtime

A request other than a session service, and a request taken up again, only
serves sessions: they stay the same objects, with the same tokens, and the
connections stay attached to them.  A few of these requests create, delete or
move subscriptions.
-/

namespace OpcuaStack

/-- The parts of a session by which the runtime tells sessions apart. -/
def ServerSession.identity (session : ServerSession) : ℕ × ServiceContext :=
  (session.address, session.serviceContext)

theorem ServerSession.SameObject.identity_eq {before after : ServerSession}
    (h : SameObject before after) : after.identity = before.identity := by
  simp only [identity, h.address, h.serviceContext]

namespace ServerRuntime

/-- Sessions are served, and none comes or goes. -/
structure Serves (before after : ServerRuntime) : Prop where
  manager : after.manager = before.manager
  identity : ∀ token, (after.sessions.lookup token).map ServerSession.identity =
    (before.sessions.lookup token).map ServerSession.identity
  nextSessionAddress : after.nextSessionAddress = before.nextSessionAddress

theorem Serves.refl (r : ServerRuntime) : Serves r r :=
  ⟨rfl, fun _ => rfl, rfl⟩

theorem Serves.trans {a b c : ServerRuntime} (hab : Serves a b)
    (hbc : Serves b c) : Serves a c where
  manager := hbc.manager.trans hab.manager
  identity token := (hbc.identity token).trans (hab.identity token)
  nextSessionAddress := hbc.nextSessionAddress.trans hab.nextSessionAddress

theorem Serves.exists_before {before after : ServerRuntime}
    (h : Serves before after) {token : NodeId} {session : ServerSession}
    (hlookup : after.sessions.lookup token = some session) :
    ∃ old, before.sessions.lookup token = some old ∧
      old.identity = session.identity := by
  have hidentity := h.identity token
  rw [hlookup, Option.map_some, eq_comm, Option.map_eq_some_iff] at hidentity
  exact hidentity

theorem Serves.isSome_lookup {before after : ServerRuntime}
    (h : Serves before after) (token : NodeId) :
    (after.sessions.lookup token).isSome =
      (before.sessions.lookup token).isSome := by
  have hidentity := congrArg Option.isSome (h.identity token)
  simpa using hidentity

theorem writeSession_serves {r : ServerRuntime} {token : NodeId}
    {old session : ServerSession} (hlookup : r.sessions.lookup token = some old)
    (hsame : ServerSession.SameObject old session) :
    Serves r (r.writeSession token session) where
  manager := rfl
  identity other := by
    rw [writeSession, KeyedMap.lookup_insert_eq]
    split
    next heq =>
      subst heq
      rw [hlookup, Option.map_some, Option.map_some, hsame.identity_eq]
    next => rfl
  nextSessionAddress := rfl

def Holds (r : ServerRuntime) (token : NodeId) (id : SubscriptionId) : Prop :=
  ∃ session, r.sessions.lookup token = some session ∧
    session.hasSubscription id = true

/-- Sessions are served, and no subscription comes, goes or moves. -/
structure SameHoldings (before after : ServerRuntime) : Prop
    extends Serves before after where
  holds : ∀ token id, after.Holds token id ↔ before.Holds token id
  subscriptionOwners : after.subscriptionOwners = before.subscriptionOwners

theorem SameHoldings.refl (r : ServerRuntime) : SameHoldings r r :=
  ⟨.refl r, fun _ _ => Iff.rfl, rfl⟩

theorem holds_writeSession {r : ServerRuntime} {token : NodeId}
    {session : ServerSession} {other : NodeId} {id : SubscriptionId} :
    (r.writeSession token session).Holds other id ↔
      if other = token then session.hasSubscription id = true
      else r.Holds other id := by
  simp only [Holds, writeSession, KeyedMap.lookup_insert_eq]
  split
  · constructor
    · rintro ⟨found, hfound, hholds⟩
      rw [Option.some.inj hfound]
      exact hholds
    · intro hholds
      exact ⟨session, rfl, hholds⟩
  · rfl

theorem holds_iff_of_lookup {r : ServerRuntime} {token : NodeId}
    {session : ServerSession} (hlookup : r.sessions.lookup token = some session)
    {id : SubscriptionId} :
    r.Holds token id ↔ session.hasSubscription id = true := by
  simp [Holds, hlookup]

theorem writeSession_sameHoldings {r : ServerRuntime} {token : NodeId}
    {old session : ServerSession} (hlookup : r.sessions.lookup token = some old)
    (hsame : ServerSession.SameOutline old session) :
    SameHoldings r (r.writeSession token session) where
  toServes := writeSession_serves hlookup hsame.toSameObject
  holds other id := by
    rw [holds_writeSession]
    split
    next heq =>
      subst heq
      rw [holds_iff_of_lookup hlookup, hsame.hasSubscription id]
    next => exact Iff.rfl
  subscriptionOwners := rfl

/-! ## Forgetting sessions -/

theorem forgetSession_lookup (r : ServerRuntime) (token other : NodeId) :
    (r.forgetSession token).sessions.lookup other =
      if other = token then none else r.sessions.lookup other :=
  KeyedMap.lookup_erase_eq _ _ _

theorem forgetSession_owner (r : ServerRuntime) (token : NodeId)
    (id : SubscriptionId) :
    (r.forgetSession token).subscriptionOwners.lookup id =
      (r.subscriptionOwners.lookup id).filter fun owner => owner ≠ token := by
  rw [forgetSession, KeyedMap.lookup_eraseIf]
  congr 1
  funext owner
  rw [Bool.eq_iff_iff]
  simp

@[simp] theorem adopt_manager (r : ServerRuntime)
    (manager : ServerSessionManager) (removed : List NodeId) :
    (r.adopt manager removed).manager = manager := rfl

@[simp] theorem adopt_nextSessionAddress (r : ServerRuntime)
    (manager : ServerSessionManager) (removed : List NodeId) :
    (r.adopt manager removed).nextSessionAddress = r.nextSessionAddress := by
  unfold adopt
  induction removed generalizing r with
  | nil => rfl
  | cons token rest ih => exact ih (r.forgetSession token)

theorem adopt_lookup (r : ServerRuntime) (manager : ServerSessionManager)
    (removed : List NodeId) (token : NodeId) :
    (r.adopt manager removed).sessions.lookup token =
      if token ∈ removed then none else r.sessions.lookup token := by
  unfold adopt
  induction removed generalizing r with
  | nil => simp
  | cons first rest ih =>
      simp only [List.foldl_cons]
      rw [ih (r.forgetSession first), forgetSession_lookup]
      by_cases hrest : token ∈ rest
      · simp [hrest]
      · by_cases hfirst : token = first <;> simp [hrest, hfirst]

theorem adopt_owner (r : ServerRuntime) (manager : ServerSessionManager)
    (removed : List NodeId) (id : SubscriptionId) :
    (r.adopt manager removed).subscriptionOwners.lookup id =
      (r.subscriptionOwners.lookup id).filter fun owner => owner ∉ removed := by
  unfold adopt
  induction removed generalizing r with
  | nil =>
      simp only [List.foldl_nil, List.not_mem_nil, not_false_eq_true,
        decide_true]
      cases r.subscriptionOwners.lookup id with
      | none => rfl
      | some owner => rfl
  | cons first rest ih =>
      simp only [List.foldl_cons]
      rw [ih (r.forgetSession first), forgetSession_owner, Option.filter_filter]
      congr 1
      funext owner
      by_cases hfirst : owner = first <;> simp [hfirst]

/-! ## Requests which create, delete and transfer subscriptions -/

theorem createSubscription_serves {r : ServerRuntime} {token : NodeId}
    {session : ServerSession} (hlookup : r.sessions.lookup token = some session)
    (request : CreateSubscriptionRequest) (env : RequestEnvironment) :
    Serves r (r.createSubscription token session request env).1 := by
  have hwrite := writeSession_serves hlookup
    (session.createSubscriptionWithId_sameObject r.nextSubscriptionId request
      env.traceParent env.now)
  exact ⟨hwrite.manager, hwrite.identity, hwrite.nextSessionAddress⟩

theorem deleteSubscriptions_serves {r : ServerRuntime} {token : NodeId}
    {session : ServerSession} (hlookup : r.sessions.lookup token = some session)
    (request : DeleteSubscriptionsRequest) :
    Serves r (r.deleteSubscriptions token session request).1 := by
  have hwrite := writeSession_serves hlookup
    (session.deleteSubscriptions_sameObject request)
  exact ⟨hwrite.manager, hwrite.identity, hwrite.nextSessionAddress⟩

theorem transferFrom_serves {token source : NodeId} (hne : source ≠ token)
    (groups : NodeId → List (SubscriptionId × ℕ))
    (state : ServerRuntime × List TransferResult) :
    Serves state.1 (transferFrom token groups state source).1 := by
  obtain ⟨r, results⟩ := state
  unfold transferFrom
  simp only
  split
  next target sourceSession htarget hsource =>
    have hsame := target.transferSubscriptionsFrom_sameObject sourceSession
      ((groups source).map Prod.fst)
    have hgiven := writeSession_serves hsource hsame.2
    have htarget' : (r.writeSession source
        (target.transferSubscriptionsFrom sourceSession
          ((groups source).map Prod.fst)).1.2).sessions.lookup token =
          some target := by
      rw [writeSession, KeyedMap.lookup_insert_eq, if_neg hne.symm, htarget]
    have htaken := hgiven.trans (writeSession_serves htarget' hsame.1)
    exact ⟨htaken.manager, htaken.identity, htaken.nextSessionAddress⟩
  next => exact .refl r

theorem mem_transferSources {owners : KeyedMap SubscriptionId NodeId}
    {token source : NodeId} {ids : List SubscriptionId} {order : List NodeId} :
    source ∈ transferSources owners token ids order ↔
      source ≠ token ∧ ∃ id ∈ ids, owners.lookup id = some source := by
  simp only [transferSources, List.mem_append, List.mem_dedup, List.mem_filter,
    List.mem_filterMap, decide_eq_true_eq]
  by_cases hvisited : source ∈ order <;> simp [hvisited, and_comm]

theorem transferSubscriptions_invariant {P : ServerRuntime → Prop}
    {r : ServerRuntime} {token : NodeId} {request : TransferSubscriptionsRequest}
    (hround : ∀ source, source ≠ token →
      ∀ state : ServerRuntime × List TransferResult, P state.1 →
        P (transferFrom token (transferGroup r.subscriptionOwners
          request.subscriptionIds) state source).1)
    (h : P r) (env : RequestEnvironment) :
    P (r.transferSubscriptions token request env).1 := by
  have hloop : ∀ (sources : List NodeId)
      (state : ServerRuntime × List TransferResult),
      (∀ source ∈ sources, source ≠ token) → P state.1 →
        P (sources.foldl (transferFrom token
          (transferGroup r.subscriptionOwners request.subscriptionIds))
          state).1 := by
    intro sources
    induction sources with
    | nil => exact fun state _ hstate => hstate
    | cons source rest ih =>
        intro state hne hstate
        exact ih _ (fun other hmem => hne other (List.mem_cons_of_mem _ hmem))
          (hround source (hne source List.mem_cons_self) state hstate)
  unfold transferSubscriptions
  exact hloop (transferSources _ _ _ _) (r, _)
    (fun source hmem => (mem_transferSources.mp hmem).1) h

theorem transferSubscriptions_serves (r : ServerRuntime) (token : NodeId)
    (request : TransferSubscriptionsRequest) (env : RequestEnvironment) :
    Serves r (r.transferSubscriptions token request env).1 :=
  transferSubscriptions_invariant (P := Serves r)
    (fun _ hne state hstate =>
      hstate.trans (transferFrom_serves hne _ state)) (.refl r) env

/-! ## Requests under an attached session -/

theorem findAttachedSession_eq_some {r : ServerRuntime}
    {connection : ConnectionState} {token : NodeId} {session : ServerSession} :
    r.findAttachedSession connection = some (token, session) ↔
      connection.authenticationToken = some token ∧
        r.sessions.lookup token = some session := by
  unfold findAttachedSession
  cases connection.authenticationToken with
  | none => simp
  | some current =>
      simp only [Option.bind_some, Option.map_eq_some_iff, Prod.mk.injEq,
        Option.some.injEq]
      constructor
      · rintro ⟨found, hfound, rfl, rfl⟩
        exact ⟨rfl, hfound⟩
      · rintro ⟨rfl, hfound⟩
        exact ⟨session, hfound, rfl, rfl⟩

/-- A stretch of a handler which only serves sessions. -/
structure Served (r : ServerRuntime) (connection : ConnectionState)
    (outcome : HandlerOutcome) : Prop where
  serves : Serves r outcome.runtime
  connection_eq : outcome.connection = connection
  use : ∀ token use, outcome.use = some (token, use) →
    use = .served ∧ connection.authenticationToken = some token
  activating : ∀ pending, outcome.progress ≠ .suspended (.activating pending)

theorem Served.of_answer (r : ServerRuntime) (connection : ConnectionState)
    (response : ResponseBody) :
    Served r connection
      { runtime := r
        connection := connection
        progress := .answered response } where
  serves := .refl r
  connection_eq := rfl
  use := by simp
  activating := by simp

theorem withAttachedSession_served {r : ServerRuntime}
    {connection : ConnectionState} {missing : ResponseBody}
    {body : NodeId → ServerSession → ServerRuntime × Progress}
    (hserves : ∀ token session, r.sessions.lookup token = some session →
      Serves r (body token session).1)
    (hactivating : ∀ token session pending,
      (body token session).2 ≠ .suspended (.activating pending)) :
    Served r connection (r.withAttachedSession connection missing body) := by
  unfold withAttachedSession
  split
  · exact .of_answer r connection missing
  next token session hfound =>
    obtain ⟨htoken, hlookup⟩ := findAttachedSession_eq_some.mp hfound
    constructor
    · exact hserves token session hlookup
    · rfl
    · rintro used use heq
      simp only [Option.some.injEq, Prod.mk.injEq] at heq
      exact ⟨heq.2.symm, heq.1 ▸ htoken⟩
    · exact hactivating token session

theorem pollPublish_sameHoldings {r : ServerRuntime} {token : NodeId}
    {old session : ServerSession} (hlookup : r.sessions.lookup token = some old)
    (hsame : ServerSession.SameOutline old session)
    (ackResults : List StatusCode) (now : DateTime) :
    SameHoldings r (r.pollPublish token session ackResults now).1 :=
  writeSession_sameHoldings hlookup
    (hsame.trans (session.pollPublish_sameOutline now))

theorem publish_sameHoldings {r : ServerRuntime} {token : NodeId}
    {session : ServerSession} (hlookup : r.sessions.lookup token = some session)
    (connection : ConnectionState) (request : PublishRequest) (now : DateTime) :
    SameHoldings r (r.publish connection token session request now).1 := by
  have hsame := session.acknowledgePublishRequest_sameOutline request
  unfold publish
  simp only
  split
  · exact writeSession_sameHoldings hlookup hsame
  · exact pollPublish_sameHoldings hlookup hsame _ now

theorem pollPublish_suspended {r : ServerRuntime} {token : NodeId}
    {session : ServerSession} {ackResults : List StatusCode} {now : DateTime}
    {work : SuspendedWork}
    (h : (r.pollPublish token session ackResults now).2 = .suspended work) :
    work = .publishing ackResults := by
  unfold pollPublish at h
  simp only at h
  split at h
  · simp at h
  · exact (Progress.suspended.inj h).symm

theorem publish_suspended {r : ServerRuntime} {connection : ConnectionState}
    {token : NodeId} {session : ServerSession} {request : PublishRequest}
    {now : DateTime} {work : SuspendedWork}
    (h : (r.publish connection token session request now).2 =
      .suspended work) : ∃ ackResults, work = .publishing ackResults := by
  unfold publish at h
  simp only at h
  split at h
  · simp at h
  · exact ⟨_, pollPublish_suspended h⟩

/-- The requests on which the runtime calls the session manager. -/
def RequestsSessionService : RequestBody → Prop
  | .createSession _ | .activateSession _ | .closeSession _ => True
  | _ => False

theorem handle_served (r : ServerRuntime) (connection : ConnectionState)
    (body : RequestBody) (env : RequestEnvironment)
    (hbody : ¬RequestsSessionService body) :
    Served r connection (r.handle connection body env) := by
  cases body with
  | createSession request => exact absurd trivial hbody
  | activateSession request => exact absurd trivial hbody
  | closeSession request => exact absurd trivial hbody
  | createSubscription request =>
      unfold handle
      apply withAttachedSession_served
      · intro token session hlookup
        exact createSubscription_serves hlookup request env
      · simp
  | deleteSubscriptions request =>
      unfold handle
      apply withAttachedSession_served
      · intro token session hlookup
        exact deleteSubscriptions_serves hlookup request
      · simp
  | transferSubscriptions request =>
      unfold handle
      apply withAttachedSession_served
      · intro token session hlookup
        exact r.transferSubscriptions_serves token request env
      · simp
  | publish request =>
      unfold handle
      apply withAttachedSession_served
      · intro token session hlookup
        exact (publish_sameHoldings hlookup connection request env.now).toServes
      · intro token session pending hprogress
        obtain ⟨ackResults, heq⟩ := publish_suspended hprogress
        simp at heq
  | browse request =>
      unfold handle
      apply withAttachedSession_served
      · intro token session hlookup
        exact .refl r
      · simp
  | session request =>
      unfold handle
      apply withAttachedSession_served
      · intro token session hlookup
        exact writeSession_serves hlookup
          (session.serve_sameOutline request env.binds).toSameObject
      · simp
  | service kind parameters =>
      unfold handle
      apply withAttachedSession_served
      · intro token session hlookup
        exact .refl r
      · simp

/-! ## Requests taken up again -/

theorem resumePublish_cases (r : ServerRuntime) (connection : ConnectionState)
    (ackResults : List StatusCode) (now : DateTime) :
    Served r connection (r.resumePublish connection ackResults now) ∧
      SameHoldings r (r.resumePublish connection ackResults now).runtime := by
  have hmissing := Served.of_answer r connection
    (.publish { status := .ofCode .badSessionIdInvalid })
  unfold resumePublish
  simp only
  split
  · exact ⟨hmissing, .refl r⟩
  · split
    · exact ⟨hmissing, .refl r⟩
    next token session hfound =>
      obtain ⟨htoken, hlookup⟩ := findAttachedSession_eq_some.mp hfound
      have hsame :=
        pollPublish_sameHoldings hlookup (.refl session) ackResults now
      have hdelayed : ∀ work,
          (r.pollPublish token session ackResults now).2 = .suspended work →
            work = .publishing ackResults :=
        fun work => pollPublish_suspended
      refine ⟨⟨hsame.toServes, rfl, ?_, ?_⟩, hsame⟩
      · intro used use heq
        simp only [Option.some.injEq, Prod.mk.injEq] at heq
        exact ⟨heq.2.symm, heq.1 ▸ htoken⟩
      · intro pending hprogress
        have heq := hdelayed _ hprogress
        simp at heq

theorem sessionAt_eq_some {r : ServerRuntime} {address : ℕ} {token : NodeId}
    {session : ServerSession} (h : r.sessionAt address = some (token, session)) :
    r.sessions.lookup token = some session ∧ session.address = address := by
  unfold sessionAt at h
  obtain ⟨entry, hfound, heq⟩ := Option.map_eq_some_iff.mp h
  simp only [Prod.mk.injEq] at heq
  obtain ⟨rfl, rfl⟩ := heq
  have hmem := List.mem_of_find?_eq_some hfound
  have haddress := List.find?_some hfound
  exact ⟨KeyedMap.mem_entries_iff.mp hmem, by simpa using haddress⟩

theorem resumeBrowse_cases (r : ServerRuntime) (connection : ConnectionState)
    (address requestedMax : ℕ) (reply : ResponseBody) :
    Served r connection
        (r.resumeBrowse connection address requestedMax reply) ∧
      SameHoldings r
        (r.resumeBrowse connection address requestedMax reply).runtime := by
  unfold resumeBrowse
  split
  next response =>
    simp only
    split
    next token session hfound =>
      have hsame := writeSession_sameHoldings (sessionAt_eq_some hfound).1
        (session.storeBrowseResults_sameOutline response requestedMax)
      exact ⟨⟨hsame.toServes, rfl, by simp, by simp⟩, hsame⟩
    next => exact ⟨⟨.refl r, rfl, by simp, by simp⟩, .refl r⟩
  next => exact ⟨.of_answer r connection _, .refl r⟩

end ServerRuntime

namespace ServerState

open ServerRuntime

/-! ## Settling a stretch of a handler -/

variable (state : ServerState) (connection : ℕ) (outcome : HandlerOutcome)

@[simp] theorem settle_runtime :
    (state.settle connection outcome).1.runtime = outcome.runtime := by
  unfold settle
  simp only
  split <;> rfl

@[simp] theorem settle_connections :
    (state.settle connection outcome).1.connections =
      Function.update state.connections connection outcome.connection := by
  unfold settle
  simp only
  split <;> rfl

@[simp] theorem settle_report :
    (state.settle connection outcome).2 =
      some
        { connection := connection
          answer := outcome.progress.answer
          use := outcome.use
          touched := outcome.touched } := by
  unfold settle
  simp only
  split <;> rfl

theorem settle_suspended {task other : ℕ} {work : SuspendedWork}
    (h : (state.settle connection outcome).1.suspended task =
      some ⟨other, work⟩) :
    state.suspended task = some ⟨other, work⟩ ∨
      other = connection ∧ outcome.progress = .suspended work := by
  unfold settle at h
  simp only at h
  split at h
  · exact .inl h
  next work' hprogress =>
    by_cases htask : task = state.nextTask
    · subst htask
      simp only [Function.update_self, Option.some.injEq,
        SuspendedRequest.mk.injEq] at h
      exact .inr ⟨h.1.symm, h.2 ▸ hprogress⟩
    · simp only [Function.update_of_ne htask] at h
      exact .inl h

theorem takeTask_suspended {task other : ℕ} {suspended : SuspendedRequest}
    (h : (state.takeTask task).suspended other = some suspended) :
    state.suspended other = some suspended := by
  unfold takeTask at h
  by_cases heq : other = task
  · subst heq
    simp at h
  · simpa [Function.update_of_ne heq] using h

theorem settle_suspended_of_lt {task : ℕ} (htask : task < state.nextTask) :
    (state.settle connection outcome).1.suspended task = state.suspended task ∧
      task < (state.settle connection outcome).1.nextTask := by
  unfold settle
  simp only
  split
  · exact ⟨rfl, htask⟩
  · refine ⟨Function.update_of_ne htask.ne _ _, ?_⟩
    simp only
    omega

theorem takeTask_suspended_or {task other : ℕ} :
    (state.takeTask other).suspended task = state.suspended task ∨
      (state.takeTask other).suspended task = none := by
  unfold takeTask
  by_cases heq : task = other
  · subst heq
    exact .inr (Function.update_self _ _ _)
  · exact .inl (Function.update_of_ne heq _ _)

theorem step_suspended_of_lt (action : ServerAction) {task : ℕ}
    (htask : task < state.nextTask) :
    ((state.step action).1.suspended task = state.suspended task ∨
        (state.step action).1.suspended task = none) ∧
      task < (state.step action).1.nextTask := by
  have htaken : ∀ other connection outcome,
      (((state.takeTask other).settle connection outcome).1.suspended task =
            state.suspended task ∨
          ((state.takeTask other).settle connection outcome).1.suspended task =
            none) ∧
        task < ((state.takeTask other).settle connection outcome).1.nextTask := by
    intro other connection outcome
    obtain ⟨hsame, hlt⟩ := settle_suspended_of_lt (state.takeTask other)
      connection outcome htask
    rw [hsame]
    exact ⟨state.takeTask_suspended_or, hlt⟩
  cases action with
  | request connection body env =>
      obtain ⟨hsame, hlt⟩ := settle_suspended_of_lt state connection
        (state.runtime.handle (state.connectionFor connection env) body env)
        htask
      exact ⟨.inl hsame, hlt⟩
  | authenticated other reply now =>
      unfold step
      simp only
      split
      · exact htaken _ _ _
      · exact ⟨.inl rfl, htask⟩
  | served other reply =>
      unfold step
      simp only
      split
      · exact htaken _ _ _
      · exact htaken _ _ _
      · exact ⟨.inl rfl, htask⟩
  | delayElapsed other now =>
      unfold step
      simp only
      split
      · exact htaken _ _ _
      · exact ⟨.inl rfl, htask⟩
  | closeConnection connection => exact ⟨.inl rfl, htask⟩
  | prune now => exact ⟨.inl rfl, htask⟩
  | backing token id event =>
      unfold step backingEvent
      simp only
      split <;> exact ⟨.inl rfl, htask⟩

theorem closeConnection_connections :
    (state.closeConnection connection).connections =
      Function.update state.connections connection
        { state.connections connection with
          closed := true
          authenticationToken := none } := by
  cases htoken : (state.connections connection).authenticationToken with
  | none => simp [closeConnection, detach, htoken]
  | some token => simp [closeConnection, detach, htoken]

/-! ## The list of steps -/

/-- A step which only serves sessions. -/
structure Quiet (before after : ServerState) : Prop where
  serves : Serves before.runtime after.runtime
  authenticationToken : ∀ connection,
    (after.connections connection).authenticationToken =
      (before.connections connection).authenticationToken
  closed : ∀ connection,
    (after.connections connection).closed =
      (before.connections connection).closed
  activating : ∀ task connection pending,
    after.suspended task = some ⟨connection, .activating pending⟩ →
      before.suspended task = some ⟨connection, .activating pending⟩

/-- What a quiet step does to the subscriptions and their owners. -/
inductive Edits (state : ServerState) : ServerAction → ServerRuntime → Prop where
  | none {action : ServerAction} {r : ServerRuntime}
      (hsame : SameHoldings state.runtime r) : Edits state action r
  | create (connection : ℕ) (request : CreateSubscriptionRequest)
      (env : RequestEnvironment) (token : NodeId) (session : ServerSession)
      (htoken : (state.connections connection).authenticationToken = some token)
      (hlookup : state.runtime.sessions.lookup token = some session) :
      Edits state (.request connection (.createSubscription request) env)
        (state.runtime.createSubscription token session request env).1
  | delete (connection : ℕ) (request : DeleteSubscriptionsRequest)
      (env : RequestEnvironment) (token : NodeId) (session : ServerSession)
      (htoken : (state.connections connection).authenticationToken = some token)
      (hlookup : state.runtime.sessions.lookup token = some session) :
      Edits state (.request connection (.deleteSubscriptions request) env)
        (state.runtime.deleteSubscriptions token session request).1
  | transfer (connection : ℕ) (request : TransferSubscriptionsRequest)
      (env : RequestEnvironment) (token : NodeId) (session : ServerSession)
      (htoken : (state.connections connection).authenticationToken = some token)
      (hlookup : state.runtime.sessions.lookup token = some session) :
      Edits state (.request connection (.transferSubscriptions request) env)
        (state.runtime.transferSubscriptions token request env).1

/-- The report of a quiet step names at most the session attached to the
connection, as served. -/
def ServesAttached (state : ServerState) (report : Option StepReport) : Prop :=
  ∀ entry, report = some entry → ∀ token use, entry.use = some (token, use) →
    use = .served ∧
      (state.connections entry.connection).authenticationToken = some token

theorem Quiet.refl (state : ServerState) : Quiet state state :=
  ⟨.refl _, fun _ => rfl, fun _ => rfl, fun _ _ _ h => h⟩

theorem settle_quiet (state taken : ServerState) {connection : ℕ}
    {current : ConnectionState} {outcome : HandlerOutcome}
    (hserved : Served state.runtime current outcome)
    (hconnections : taken.connections = state.connections)
    (hsuspended : ∀ task suspended, taken.suspended task = some suspended →
      state.suspended task = some suspended)
    (htoken : current.authenticationToken =
      (state.connections connection).authenticationToken)
    (hclosed : current.closed = (state.connections connection).closed) :
    Quiet state (taken.settle connection outcome).1 ∧
      ServesAttached state (taken.settle connection outcome).2 := by
  refine ⟨⟨?_, ?_, ?_, ?_⟩, ?_⟩
  · rw [settle_runtime]
    exact hserved.serves
  · intro other
    rw [settle_connections, hserved.connection_eq, hconnections]
    by_cases heq : other = connection
    · subst heq
      rw [Function.update_self, htoken]
    · rw [Function.update_of_ne heq]
  · intro other
    rw [settle_connections, hserved.connection_eq, hconnections]
    by_cases heq : other = connection
    · subst heq
      rw [Function.update_self, hclosed]
    · rw [Function.update_of_ne heq]
  · intro task other pending h
    rcases taken.settle_suspended connection outcome h with hold | ⟨_, hnew⟩
    · exact hsuspended task _ hold
    · exact absurd hnew (hserved.activating pending)
  · intro entry hentry token use huse
    rw [settle_report, Option.some.injEq] at hentry
    subst hentry
    obtain ⟨hserves, hattached⟩ := hserved.use token use huse
    exact ⟨hserves, htoken ▸ hattached⟩

theorem handle_edits (state : ServerState) (connection : ℕ) (body : RequestBody)
    (env : RequestEnvironment) (hbody : ¬RequestsSessionService body) :
    Edits state (.request connection body env)
      (state.runtime.handle (state.connectionFor connection env) body
        env).runtime := by
  cases hfound :
      state.runtime.findAttachedSession (state.connectionFor connection env) with
  | none =>
      have hsame : (state.runtime.handle (state.connectionFor connection env)
          body env).runtime = state.runtime := by
        cases body <;>
          first
          | exact absurd trivial hbody
          | simp [handle, withAttachedSession, hfound]
      rw [hsame]
      exact .none (.refl _)
  | some found =>
      obtain ⟨token, session⟩ := found
      obtain ⟨htoken, hlookup⟩ := findAttachedSession_eq_some.mp hfound
      cases body with
      | createSession request => exact absurd trivial hbody
      | activateSession request => exact absurd trivial hbody
      | closeSession request => exact absurd trivial hbody
      | createSubscription request =>
          simp only [handle, withAttachedSession, hfound]
          exact .create connection request env token session htoken hlookup
      | deleteSubscriptions request =>
          simp only [handle, withAttachedSession, hfound]
          exact .delete connection request env token session htoken hlookup
      | transferSubscriptions request =>
          simp only [handle, withAttachedSession, hfound]
          exact .transfer connection request env token session htoken hlookup
      | publish request =>
          simp only [handle, withAttachedSession, hfound]
          exact .none (publish_sameHoldings hlookup _ request env.now)
      | browse request =>
          simp only [handle, withAttachedSession, hfound]
          exact .none (.refl _)
      | session request =>
          simp only [handle, withAttachedSession, hfound]
          exact .none (writeSession_sameHoldings hlookup
            (session.serve_sameOutline request env.binds))
      | service kind parameters =>
          simp only [handle, withAttachedSession, hfound]
          exact .none (.refl _)

theorem backingEvent_sameHoldings (state : ServerState) (token : NodeId)
    (id : SubscriptionId) (event : ServerSubscription.BackingEvent) :
    SameHoldings state.runtime (state.backingEvent token id event).runtime := by
  unfold backingEvent
  split
  · exact .refl _
  next session hlookup =>
    exact writeSession_sameHoldings hlookup
      (session.onBackingEvent_quiet id event).sameOutline

end ServerState
end OpcuaStack
