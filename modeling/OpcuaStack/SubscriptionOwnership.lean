import OpcuaStack.OwnerIndex
import OpcuaStack.SessionAgreement

/-!
# Who owns a subscription

The runtime keeps, beside its sessions, an index from subscriptions to the
sessions which own them.  Deleting and transferring subscriptions keeps the
index true whatever the sessions hold and in whichever order they are visited.
Two steps need a condition: a subscription id handed out again, and an
activation which registers a new session in place of one with subscriptions.
-/

namespace OpcuaStack

@[simp] theorem Status.isGood_good : Status.good.isGood = true := by decide

@[simp] theorem Status.isGood_badSubscriptionIdInvalid :
    (Status.ofCode .badSubscriptionIdInvalid).isGood = false := by decide

@[simp] theorem Status.isGood_bad : (Status.ofCode .bad).isGood = false := by
  decide

namespace ServerRuntime

open ServerSession ServerSessionManager

def OwnersAgree (r : ServerRuntime) : Prop :=
  Indexes r.subscriptionOwners r.Holds

/-- The holdings with those of one session replaced. -/
def holdings (token : NodeId) (session : ServerSession)
    (rest : NodeId → SubscriptionId → Prop) (other : NodeId)
    (id : SubscriptionId) : Prop :=
  if other = token then session.hasSubscription id = true else rest other id

/-! ## Creating and deleting -/

theorem createSubscription_ownersAgree {r : ServerRuntime} (h : r.OwnersAgree)
    {token : NodeId} {session : ServerSession}
    (hlookup : r.sessions.lookup token = some session)
    (hfree : ∀ owner, r.subscriptionOwners.lookup r.nextSubscriptionId =
      some owner → owner = token)
    (request : CreateSubscriptionRequest) (env : RequestEnvironment) :
    (r.createSubscription token session request env).1.OwnersAgree := by
  refine Indexes.acquire h (fun owner hheld => ?_) fun other id => ?_
  · exact hfree owner ((h _ owner).mpr hheld)
  · change (r.writeSession token (session.createSubscriptionWithId
      r.nextSubscriptionId request env.traceParent env.now).1).Holds other id ↔ _
    rw [holds_writeSession, createSubscriptionWithId_hasSubscription]
    split
    next heq =>
      subst heq
      rw [holds_iff_of_lookup hlookup]
      simp
    next hne => simp [hne]

theorem deleteSubscription_cases (session : ServerSession) (id : SubscriptionId) :
    (session.hasSubscription id = true ∧
        session.deleteSubscription id =
          (session.eraseSubscription id, .good)) ∨
      session.deleteSubscription id =
        (session, .ofCode .badSubscriptionIdInvalid) := by
  unfold deleteSubscription
  split
  next hheld => exact .inl ⟨hheld, rfl⟩
  next => exact .inr rfl

/-- The loop which deletes subscriptions and the loop which drops their owners,
taken together. -/
theorem eraseOwners_indexes {token : NodeId}
    {rest : NodeId → SubscriptionId → Prop} (ids : List SubscriptionId)
    (session : ServerSession) (owners : KeyedMap SubscriptionId NodeId)
    (h : Indexes owners (holdings token session rest)) :
    Indexes
      (eraseOwners owners
        (ids.zip (collectResults deleteSubscription session ids).2))
      (holdings token (collectResults deleteSubscription session ids).1
        rest) := by
  induction ids generalizing session owners with
  | nil => exact h
  | cons id ids ih =>
      rcases deleteSubscription_cases session id with ⟨hheld, heq⟩ | heq
      · have hreleased : Indexes (owners.erase id)
            (holdings token (session.eraseSubscription id) rest) := by
          have hholds : holdings token session rest token id := by
            simpa [holdings] using hheld
          refine h.release hholds fun other another => ?_
          simp only [holdings, eraseSubscription_hasSubscription]
          split
          next hother => simp [hother, and_comm]
          next hother => simp [hother]
        have hrest := ih (session.eraseSubscription id) (owners.erase id)
          hreleased
        simpa [collectResults, heq, eraseOwners] using hrest
      · have hrest := ih session owners h
        simpa [collectResults, heq, eraseOwners] using hrest

theorem holds_iff_holdings {r : ServerRuntime} {token : NodeId}
    {session : ServerSession} (hlookup : r.sessions.lookup token = some session)
    (other : NodeId) (id : SubscriptionId) :
    r.Holds other id ↔ holdings token session r.Holds other id := by
  unfold holdings
  split
  next heq =>
    subst heq
    exact holds_iff_of_lookup hlookup
  next => rfl

theorem deleteSubscriptions_ownersAgree {r : ServerRuntime} (h : r.OwnersAgree)
    {token : NodeId} {session : ServerSession}
    (hlookup : r.sessions.lookup token = some session)
    (request : DeleteSubscriptionsRequest) :
    (r.deleteSubscriptions token session request).1.OwnersAgree := by
  have hbefore : Indexes r.subscriptionOwners
      (holdings token session r.Holds) :=
    Indexes.congr h fun other id => (holds_iff_holdings hlookup other id).symm
  have hafter := eraseOwners_indexes request.subscriptionIds session _ hbefore
  refine Indexes.congr hafter fun other id => ?_
  exact holds_writeSession

/-! ## Transferring -/

theorem transferSubscription_cases (sessions : ServerSession × ServerSession)
    (id : SubscriptionId) :
    (∃ status, transferSubscription sessions id =
        (sessions, { statusCode := status }) ∧ status.isGood = false) ∨
      ∃ target source, sessions.2.hasSubscription id = true ∧
        transferSubscription sessions id =
          ((target, source), { statusCode := .good }) ∧
        (∀ other, target.hasSubscription other =
          (decide (other = id) || sessions.1.hasSubscription other)) ∧
        ∀ other, source.hasSubscription other =
          (decide (other ≠ id) && sessions.2.hasSubscription other) := by
  obtain ⟨target, source⟩ := sessions
  unfold transferSubscription
  simp only
  split
  · exact .inl ⟨_, rfl, Status.isGood_bad⟩
  · split
    · exact .inl ⟨_, rfl, Status.isGood_badSubscriptionIdInvalid⟩
    next subscription hlookup =>
      refine .inr ⟨_, _, by simp [hasSubscription, hlookup], rfl, ?_, ?_⟩
      · intro other
        simp only [hasSubscription, KeyedMap.lookup_insert_eq]
        split
        next heq => simp [heq]
        next hne => simp [hne]
      · exact eraseSubscription_hasSubscription source id

/-- The loop which transfers subscriptions between two sessions and the loop
which moves their owners, taken together. -/
theorem moveOwners_indexes {token source : NodeId} (hne : source ≠ token)
    {rest : NodeId → SubscriptionId → Prop} (ids : List SubscriptionId)
    (sessions : ServerSession × ServerSession)
    (owners : KeyedMap SubscriptionId NodeId)
    (h : Indexes owners
      (holdings token sessions.1 (holdings source sessions.2 rest))) :
    Indexes
      (moveOwners token owners
        (ids.zip (collectResults transferSubscription sessions ids).2))
      (holdings token (collectResults transferSubscription sessions ids).1.1
        (holdings source
          (collectResults transferSubscription sessions ids).1.2 rest)) := by
  induction ids generalizing sessions owners with
  | nil => exact h
  | cons id ids ih =>
      rcases transferSubscription_cases sessions id with
        ⟨status, heq, hbad⟩ |
          ⟨target, giving, hheld, heq, htarget, hgiving⟩
      · have hrest := ih sessions owners h
        simpa [collectResults, heq, moveOwners, hbad] using hrest
      · have hmoved : Indexes (owners.insert id token)
            (holdings token target (holdings source giving rest)) := by
          have hholds : holdings token sessions.1
              (holdings source sessions.2 rest) source id := by
            simpa [holdings, hne] using hheld
          refine h.move hholds fun other another => ?_
          simp only [holdings, htarget, hgiving]
          by_cases hother : other = token
          · simp [hother, hne.symm]
          · by_cases hsource : other = source
            · simp [hsource, hne, and_comm]
            · simp [hother, hsource]
        have hrest := ih (target, giving) (owners.insert id token) hmoved
        simpa [collectResults, heq, moveOwners] using hrest

theorem transferFrom_ownersAgree {token source : NodeId} (hne : source ≠ token)
    (groups : NodeId → List (SubscriptionId × ℕ))
    (state : ServerRuntime × List TransferResult) (h : state.1.OwnersAgree) :
    (transferFrom token groups state source).1.OwnersAgree := by
  obtain ⟨r, results⟩ := state
  unfold transferFrom
  simp only
  split
  next target giving htarget hgiving =>
    have hbefore : Indexes r.subscriptionOwners
        (holdings token target (holdings source giving r.Holds)) := by
      refine Indexes.congr h fun other id => ?_
      rw [holds_iff_holdings htarget other id]
      unfold holdings
      split
      · rfl
      · exact (holds_iff_holdings hgiving other id).symm
    have hafter := moveOwners_indexes hne ((groups source).map Prod.fst)
      (target, giving) _ hbefore
    refine Indexes.congr hafter fun other id => ?_
    refine Iff.trans holds_writeSession ?_
    unfold holdings
    split
    · rfl
    · exact holds_writeSession
  next => exact h

theorem transferSubscriptions_ownersAgree {r : ServerRuntime}
    (h : r.OwnersAgree) (token : NodeId)
    (request : TransferSubscriptionsRequest) (env : RequestEnvironment) :
    (r.transferSubscriptions token request env).1.OwnersAgree :=
  transferSubscriptions_invariant (P := OwnersAgree)
    (fun _ hne state hstate => transferFrom_ownersAgree hne _ state hstate) h env

/-! ## The session services -/

theorem OwnersAgree.sameHoldings {r after : ServerRuntime} (h : r.OwnersAgree)
    (hsame : SameHoldings r after) : after.OwnersAgree := by
  unfold OwnersAgree
  rw [hsame.subscriptionOwners]
  exact Indexes.congr h hsame.holds

theorem holds_adopt {r : ServerRuntime} {manager : ServerSessionManager}
    {removed : List NodeId} {token : NodeId} {id : SubscriptionId} :
    (r.adopt manager removed).Holds token id ↔
      token ∉ removed ∧ r.Holds token id := by
  rw [Holds, adopt_lookup, Holds]
  split
  next hmem => simp [hmem]
  next hmem => simp [hmem]

theorem OwnersAgree.adopt {r : ServerRuntime} (h : r.OwnersAgree)
    (manager : ServerSessionManager) (removed : List NodeId) :
    (r.adopt manager removed).OwnersAgree := by
  refine Indexes.forget h (adopt_owner r manager removed) fun token id => ?_
  rw [holds_adopt]
  simp

theorem OwnersAgree.register {r : ServerRuntime} (h : r.OwnersAgree)
    {request : ActivateSessionRequest}
    (hempty : ∀ id, ¬r.Holds request.authenticationToken id)
    (context : ServiceContext) : (r.register request context).OwnersAgree := by
  refine Indexes.congr h fun token id => ?_
  change (r.writeSession request.authenticationToken
    (r.newSession request context)).Holds token id ↔ _
  rw [holds_writeSession]
  split
  next heq =>
    subst heq
    refine iff_of_false ?_ (hempty id)
    simp [newSession, hasSubscription]
  next => rfl

theorem OwnersAgree.resumed {r : ServerRuntime} (h : r.OwnersAgree)
    {token : NodeId} {object : ServerSession}
    (hobject : r.sessions.lookup token = some object)
    (context : ServiceContext) :
    (r.writeSession token
      { object with serviceContext := context }).OwnersAgree := by
  refine Indexes.congr h fun other id => ?_
  rw [holds_writeSession]
  split
  next heq =>
    subst heq
    rw [holds_iff_of_lookup hobject]
    rfl
  next => rfl

end ServerRuntime

namespace ServerState

open ServerRuntime ServerSessionManager

/-- The steps which keep the index of owners true.  The first case is a
subscription id handed out again, the other two are the activations which
register a new session. -/
def KeepsOwnership (state : ServerState) : ServerAction → Prop
  | .request connection (.createSubscription _) _ =>
      ∀ token owner,
        (state.connections connection).authenticationToken = some token →
          state.runtime.Registered token →
            state.runtime.subscriptionOwners.lookup
                state.runtime.nextSubscriptionId = some owner →
              owner = token
  | .request connection (.activateSession request) env =>
      let r := state.runtime.pruned env.pruneTime
      ∀ session,
        r.manager.sessions.lookup request.authenticationToken = some session →
          r.manager.signatureAccepted session (channelRequest
              (state.connectionFor connection env) request) = true →
            session.activated = false → request.allowAnonymous = true →
              ∀ id, ¬r.Holds request.authenticationToken id
  | .authenticated task reply _ =>
      ∀ connection pending auth,
        state.suspended task = some ⟨connection, .activating pending⟩ →
          reply = .ok auth →
            state.runtime.manager.Admits pending.request auth →
              ((state.runtime.evicted auth).manager.sessions.lookup
                pending.request.authenticationToken).isSome = true →
                ∀ id, ¬(state.runtime.evicted auth).Holds
                  pending.request.authenticationToken id
  | _ => True

theorem edits_ownersAgree {state : ServerState} {action : ServerAction}
    {r : ServerRuntime} (h : state.runtime.OwnersAgree)
    (hedits : state.Edits action r) (hkeeps : state.KeepsOwnership action) :
    r.OwnersAgree := by
  cases hedits with
  | none hsame => exact h.sameHoldings hsame
  | create connection request env token session htoken hlookup =>
      refine createSubscription_ownersAgree h hlookup (fun owner howner => ?_)
        request env
      have hregistered : state.runtime.Registered token :=
        Option.isSome_iff_exists.mpr ⟨session, hlookup⟩
      exact hkeeps token owner htoken hregistered howner
  | delete connection request env token session htoken hlookup =>
      exact deleteSubscriptions_ownersAgree h hlookup request
  | transfer connection request env token session htoken hlookup =>
      exact transferSubscriptions_ownersAgree h token request env

theorem step_ownersAgree {state : ServerState} {action : ServerAction}
    (h : state.runtime.OwnersAgree) (hkeeps : state.KeepsOwnership action) :
    (state.step action).1.runtime.OwnersAgree := by
  have htransition := state.step_transition action
  generalize state.step action = result at htransition ⊢
  cases htransition with
  | quiet hquiet hedits hreport => exact edits_ownersAgree h hedits hkeeps
  | createSession connection request env outcome hcreates =>
      rw [settle_runtime]
      have hpruned : (state.runtime.pruned env.pruneTime).OwnersAgree :=
        h.adopt _ _
      cases hcreates with
      | rejected response hrefused hbad => exact hpruned
      | created session haccepted hnew response hgood htoken => exact hpruned
  | activateSession connection request env outcome hbegins =>
      rw [settle_runtime]
      have hpruned : (state.runtime.pruned env.pruneTime).OwnersAgree :=
        h.adopt _ _
      cases hbegins with
      | rejected response hbad => exact hpruned
      | lost session hlookup hsigned hactivated hlost => exact hpruned
      | resumed session object hlookup hsigned hactivated hobject =>
          exact OwnersAgree.resumed (r := (state.runtime.pruned
            env.pruneTime).withState _ _) hpruned hobject _
      | anonymous session hlookup hsigned hfresh hanonymous =>
          exact OwnersAgree.register (r := (state.runtime.pruned
            env.pruneTime).withState _ _) hpruned
            (hkeeps session hlookup hsigned hfresh hanonymous) _
      | authenticating session pending hlookup hfresh hnamed hrequest huserName
          hpassword => exact hpruned
  | authenticated task connection pending reply now outcome htask hcompletes =>
      rw [settle_runtime]
      cases hcompletes with
      | refused status hbad hreply => exact h
      | alreadyLoggedOn auth hreply hgate => exact h
      | missing auth hreply hgate hlookup => exact h.adopt _ _
      | activated auth hreply hgate session hlookup =>
          have hevicted : (state.runtime.evicted auth).OwnersAgree :=
            h.adopt _ _
          have hlive := Option.isSome_iff_exists.mpr ⟨session, hlookup⟩
          exact OwnersAgree.register (r := (state.runtime.evicted auth).withState
            _ _) hevicted (hkeeps connection pending auth htask hreply hgate
              hlive) _
  | closeSession connection request env outcome hcloses =>
      rw [settle_runtime]
      cases hcloses with
      | missing hlookup => exact h
      | closed manager hdrops session hlookup => exact h.adopt _ _
  | closeConnection connection =>
      unfold closeConnection detach
      simp only
      split <;> exact h
  | prune now => exact h.adopt _ _

end ServerState

namespace ServerRun

open ServerState ServerRuntime ServerSessionManager

/-- In every run whose steps meet the condition, the owner of a subscription is
the session which holds it, and no two sessions hold one subscription. -/
theorem owner_iff_holds (context : ServerSessionManagerContext)
    (operationLimits : OperationLimits) (actions : List ServerAction)
    (hkeeps : AllMeet step (fun run action => run.state.KeepsOwnership action)
      (start context operationLimits) actions) :
    let r := (runFrom step (start context operationLimits)
      actions).state.runtime
    (∀ id token, r.subscriptionOwners.lookup id = some token ↔
        ∃ session, r.sessions.lookup token = some session ∧
          session.hasSubscription id = true) ∧
      ∀ id first second, r.Holds first id → r.Holds second id →
        first = second := by
  have hagree : (runFrom step (start context operationLimits)
      actions).state.runtime.OwnersAgree := by
    refine runFrom_invariant
      (P := fun run : ServerRun => run.state.runtime.OwnersAgree)
      (fun run action h hkeeps => step_ownersAgree h hkeeps) ?_ hkeeps
    intro id token
    simp [start, Holds]
  exact ⟨hagree, fun id first second => hagree.holder_unique⟩

def subscribes (connection : ℕ) : ServerAction :=
  .request connection (.createSubscription {}) {}

theorem first_subscription_owner_iff_holds :
    let r := (runFrom step (start {} {})
      [creates 0 {}, activates 0 (defaultToken 1) {},
        subscribes 0]).state.runtime
    r.subscriptionOwners.lookup 1 = some (defaultToken 1) ∧
      ∀ id token, r.subscriptionOwners.lookup id = some token ↔
        ∃ session, r.sessions.lookup token = some session ∧
          session.hasSubscription id = true := by
  refine ⟨by decide +kernel, (owner_iff_holds {} {} _ ?_).1⟩
  refine ⟨trivial, fun session _ _ _ _ id => ?_, fun token owner _ _ howner => ?_,
    trivial⟩
  · rintro ⟨object, hobject, _⟩
    have hnone : (((step (start {} {}) (creates 0 {})).state.runtime.pruned
        {}).sessions.lookup (defaultToken 1)).isNone = true := by
      decide +kernel
    rw [hobject] at hnone
    exact Bool.noConfusion hnone
  · have hnone : ((step (step (start {} {}) (creates 0 {}))
        (activates 0 (defaultToken 1)
          {})).state.runtime.subscriptionOwners.lookup 1).isNone = true := by
      decide +kernel
    have hnext : (step (step (start {} {}) (creates 0 {}))
        (activates 0 (defaultToken 1)
          {})).state.runtime.nextSubscriptionId = 1 := by
      decide +kernel
    rw [hnext] at howner
    rw [howner] at hnone
    exact Bool.noConfusion hnone

/-- Two activations of one session are suspended in the authenticator.  The
first completes and a subscription is created; then the second completes, and
the owner entry points at a session without the subscription. -/
theorem late_activation_loses_subscription :
    let r := (runFrom step (start {} {})
      [creates 0 {}, logsOn 0 (defaultToken 1), logsOn 0 (defaultToken 1),
        .authenticated 0 (.ok operator) {}, subscribes 0,
        .authenticated 1 (.ok operator) {}]).state.runtime
    r.subscriptionOwners.lookup 1 = some (defaultToken 1) ∧
      (r.sessions.lookup (defaultToken 1)).map
        (·.hasSubscription 1) = some false := by
  decide +kernel

end ServerRun
end OpcuaStack
