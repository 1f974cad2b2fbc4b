import OpcuaStack.SubscriptionStore

/-!
# The representation of the subscription store

Over any run in which the ids of new subscriptions are unused, the map, the
publish order and the cursor of every session fit together, and a transfer
moves exactly the subscriptions for which it answers `Good`.
-/

namespace OpcuaStack

/-- The publish order lists the keys of the map once each, every entry holds a
subscription, and the cursor points into the order. -/
structure SubscriptionStore.Represents (store : SubscriptionStore) : Prop where
  nodup : store.publishOrder.Nodup
  keys : ∀ id, id ∈ store.publishOrder ↔ id ∈ store.subscriptions
  nonNull : ∀ id pointer, store.subscriptions.lookup id = some pointer →
    pointer.isSome = true
  cursor : store.nextPublishIndex < store.publishOrder.length ∨
    (store.nextPublishIndex = 0 ∧ store.publishOrder = [])

/-- The ids which a transfer answers with `Good`, in request order. -/
def goodAnswered (ids : List SubscriptionId) (results : List TransferResult) :
    List SubscriptionId :=
  ((ids.zip results).filter fun answered =>
    answered.2.statusCode = Status.good).map Prod.fst

/-- The subscriptions answered with `Good` have gone from the source to the
target as they were, and nothing else has changed. -/
structure SubscriptionStore.TransferMoves (target source : SubscriptionStore)
    (ids : List SubscriptionId) : Prop where
  moved : ∀ id ∈ goodAnswered ids
      (target.transferSubscriptionsFrom source ids).2,
    ∃ subscription, source.subscriptions.lookup id = some (some subscription) ∧
      target.subscriptions.lookup id = none ∧
      (target.transferSubscriptionsFrom source ids).1.1.subscriptions.lookup
        id = some (some subscription) ∧
      (target.transferSubscriptionsFrom source ids).1.2.subscriptions.lookup
        id = none
  refused : ∀ id ∉ goodAnswered ids
      (target.transferSubscriptionsFrom source ids).2,
    (target.transferSubscriptionsFrom source ids).1.1.subscriptions.lookup id =
        target.subscriptions.lookup id ∧
      (target.transferSubscriptionsFrom source ids).1.2.subscriptions.lookup
        id = source.subscriptions.lookup id
  targetOrder :
    (target.transferSubscriptionsFrom source ids).1.1.publishOrder =
      target.publishOrder ++ goodAnswered ids
        (target.transferSubscriptionsFrom source ids).2
  sourceOrder :
    (target.transferSubscriptionsFrom source ids).1.2.publishOrder =
      source.publishOrder.diff (goodAnswered ids
        (target.transferSubscriptionsFrom source ids).2)

namespace ServerSession

/-! ## What a transfer moves -/

theorem eraseSubscription_publishOrder (session : ServerSession)
    (id : SubscriptionId) :
    (session.eraseSubscription id).publishOrder =
      session.publishOrder.erase id := by
  rw [List.erase_eq_eraseP', List.eraseP_eq_eraseIdx]
  unfold eraseSubscription
  cases hindex : session.publishOrder.findIdx? (· == id) with
  | none => simp only [hindex]
  | some index =>
      simp only [hindex]
      split <;> rfl

theorem lookup_eraseSubscription (session : ServerSession)
    (id other : SubscriptionId) :
    (session.eraseSubscription id).subscriptions.lookup other =
      if other = id then none else session.subscriptions.lookup other := by
  rw [eraseSubscription_subscriptions, KeyedMap.lookup_erase_eq]

theorem transferSubscription_moves (sessions : ServerSession × ServerSession)
    (id : SubscriptionId) :
    (∃ status, status ≠ Status.good ∧ transferSubscription sessions id =
        (sessions, { statusCode := status })) ∨
      ∃ subscription, sessions.2.subscriptions.lookup id = some subscription ∧
        sessions.1.subscriptions.lookup id = none ∧
        transferSubscription sessions id =
          (({ sessions.1 with
              subscriptions := sessions.1.subscriptions.insert id subscription
              publishOrder := sessions.1.publishOrder ++ [id] },
            sessions.2.eraseSubscription id), { statusCode := .good }) := by
  obtain ⟨target, source⟩ := sessions
  unfold transferSubscription hasSubscription
  cases hheld : target.subscriptions.lookup id with
  | some held =>
      refine .inl ⟨.ofCode .bad, by decide, ?_⟩
      simp only [hheld, Option.isSome_some, if_true]
  | none =>
      cases hlookup : source.subscriptions.lookup id with
      | none =>
          refine .inl ⟨.ofCode .badSubscriptionIdInvalid, by decide, ?_⟩
          simp only [hheld, hlookup, Option.isSome_none, Bool.false_eq_true,
            if_false]
      | some subscription =>
          refine .inr ⟨subscription, rfl, rfl, ?_⟩
          simp only [hheld, hlookup, Option.isSome_none, Bool.false_eq_true,
            if_false]

theorem goodAnswered_cons (id : SubscriptionId) (ids : List SubscriptionId)
    (result : TransferResult) (results : List TransferResult) :
    goodAnswered (id :: ids) (result :: results) =
      (if result.statusCode = Status.good then [id] else []) ++
        goodAnswered ids results := by
  unfold goodAnswered
  rw [List.zip_cons_cons, List.filter_cons]
  by_cases hgood : result.statusCode = Status.good
  · simp [hgood]
  · simp [hgood]

/-- By induction on the ids: a subscription which has moved is refused from then
on, and one which has not is where it was. -/
theorem transferLoop_moves (ids : List SubscriptionId)
    (sessions : ServerSession × ServerSession) :
    let after := (collectResults transferSubscription sessions ids).1
    let good := goodAnswered ids
      (collectResults transferSubscription sessions ids).2
    (∀ id ∈ good, ∃ subscription,
        sessions.2.subscriptions.lookup id = some subscription ∧
        sessions.1.subscriptions.lookup id = none ∧
        after.1.subscriptions.lookup id = some subscription ∧
        after.2.subscriptions.lookup id = none) ∧
      (∀ id ∉ good,
        after.1.subscriptions.lookup id =
            sessions.1.subscriptions.lookup id ∧
          after.2.subscriptions.lookup id =
            sessions.2.subscriptions.lookup id) ∧
      after.1.publishOrder = sessions.1.publishOrder ++ good ∧
      after.2.publishOrder = sessions.2.publishOrder.diff good := by
  induction ids generalizing sessions with
  | nil =>
      refine ⟨fun id hmem => ?_, fun id _ => ⟨rfl, rfl⟩, ?_, rfl⟩
      · simp [goodAnswered] at hmem
      · simp [collectResults, goodAnswered]
  | cons first ids ih =>
      simp only [collectResults]
      rcases transferSubscription_moves sessions first with
        ⟨status, hbad, heq⟩ | ⟨subscription, hsource, htarget, heq⟩
      · have hrest := ih sessions
        simp only [heq, goodAnswered_cons, if_neg hbad, List.nil_append]
        exact hrest
      · have hrest := ih (transferSubscription sessions first).1
        simp only [heq, goodAnswered_cons, if_pos] at hrest ⊢
        obtain ⟨hmoved, hstay, horder, horder'⟩ := hrest
        have hgone : first ∉ goodAnswered ids (collectResults
            transferSubscription
            ({ sessions.1 with
                subscriptions :=
                  sessions.1.subscriptions.insert first subscription
                publishOrder := sessions.1.publishOrder ++ [first] },
              sessions.2.eraseSubscription first) ids).2 := by
          intro hmem
          obtain ⟨other, -, hnone, -⟩ := hmoved first hmem
          rw [KeyedMap.lookup_insert_eq, if_pos rfl] at hnone
          cases hnone
        refine ⟨fun id hmem => ?_, fun id hnot => ?_, ?_, ?_⟩
        · rcases List.mem_append.mp hmem with hfirst | hlater
          · obtain rfl := List.mem_singleton.mp hfirst
            obtain ⟨hafter, hafter'⟩ := hstay id hgone
            refine ⟨subscription, hsource, htarget, ?_, ?_⟩
            · rw [hafter, KeyedMap.lookup_insert_eq, if_pos rfl]
            · rw [hafter', lookup_eraseSubscription, if_pos rfl]
          · have hne : id ≠ first := fun h => hgone (h ▸ hlater)
            obtain ⟨other, hfound, hnone, hafter⟩ := hmoved id hlater
            rw [KeyedMap.lookup_insert_eq, if_neg hne] at hnone
            rw [lookup_eraseSubscription, if_neg hne] at hfound
            exact ⟨other, hfound, hnone, hafter⟩
        · have hnotMem : id ∉ [first] ∧ id ∉ _ :=
            not_or.mp fun h => hnot (List.mem_append.mpr h)
          have hne : id ≠ first := fun h => hnotMem.1 (by simp [h])
          obtain ⟨hafter, hafter'⟩ := hstay id hnotMem.2
          rw [KeyedMap.lookup_insert_eq, if_neg hne] at hafter
          rw [lookup_eraseSubscription, if_neg hne] at hafter'
          exact ⟨hafter, hafter'⟩
        · rw [horder, List.append_assoc]
        · rw [horder', eraseSubscription_publishOrder, List.singleton_append,
            List.diff_cons]

end ServerSession

namespace SubscriptionStore

theorem Stores.transferMoves {target source : SubscriptionStore}
    {session sourceSession : ServerSession} (htarget : Stores target session)
    (hsource : Stores source sourceSession) (ids : List SubscriptionId) :
    TransferMoves target source ids := by
  obtain ⟨⟨hafter, hafter'⟩, hresults⟩ := htarget.transfer hsource ids
  obtain ⟨hmoved, hstay, horder, horder'⟩ :=
    ServerSession.transferLoop_moves ids (session, sourceSession)
  have hgood : goodAnswered ids (target.transferSubscriptionsFrom source ids).2 =
      goodAnswered ids (collectResults ServerSession.transferSubscription
        (session, sourceSession) ids).2 := by
    rw [hresults]
    rfl
  refine ⟨fun id hmem => ?_, fun id hnot => ?_, ?_, ?_⟩
  · rw [hgood] at hmem
    obtain ⟨subscription, hfrom, hnone, hto, hgone⟩ := hmoved id hmem
    refine ⟨subscription, ?_, ?_, ?_, ?_⟩
    · rw [hsource.lookup]
      exact congrArg (Option.map some) hfrom
    · rw [htarget.lookup]
      exact congrArg (Option.map some) hnone
    · rw [hafter.lookup]
      exact congrArg (Option.map some) hto
    · rw [hafter'.lookup]
      exact congrArg (Option.map some) hgone
  · rw [hgood] at hnot
    obtain ⟨hto, hfrom⟩ := hstay id hnot
    rw [hafter.lookup, hafter'.lookup, htarget.lookup, hsource.lookup]
    exact ⟨congrArg (Option.map some) hto, congrArg (Option.map some) hfrom⟩
  · rw [hgood, hafter.publishOrder, htarget.publishOrder]
    exact horder
  · rw [hgood, hafter'.publishOrder, hsource.publishOrder]
    exact horder'

/-- A store of a session in order represents its subscriptions. -/
theorem Stores.represents {store : SubscriptionStore} {session : ServerSession}
    (h : Stores store session) (horder : session.InOrder) :
    store.Represents where
  nodup := by
    rw [h.publishOrder]
    exact horder.nodup
  keys id := by
    rw [h.publishOrder, horder.held, ServerSession.hasSubscription,
      ← AList.lookup_isSome, h.lookup, Option.isSome_map]
  nonNull id pointer hlookup := by
    rw [h.lookup, Option.map_eq_some_iff] at hlookup
    obtain ⟨subscription, -, rfl⟩ := hlookup
    rfl
  cursor := by
    rw [h.publishOrder, h.nextPublishIndex]
    rcases horder.cursor with hzero | hlt
    · cases hnil : session.publishOrder with
      | nil => exact .inr ⟨hzero, rfl⟩
      | cons first rest =>
          left
          rw [hzero]
          exact Nat.succ_pos _
    · exact .inl hlt

end SubscriptionStore

/-! ## Runs -/

/-- The stores of some sessions, and every id under which a subscription was
ever created. -/
structure StoreSystem (ι : Type) where
  stores : ι → SubscriptionStore
  used : List SubscriptionId

/-- A service on one subscription, or a notification for it, changes it through
its pointer. -/
inductive StoreEvent (ι : Type) where
  | create (owner : ι) (id : SubscriptionId) (request : CreateSubscriptionRequest)
      (traceParent : ByteText) (now : DateTime)
  | delete (owner : ι) (request : DeleteSubscriptionsRequest)
  | transfer (target source : ι) (ids : List SubscriptionId)
  | poll (owner : ι) (now : DateTime)
  | change (owner : ι) (id : SubscriptionId)
      (operation : ServerSubscription → ServerSubscription)

namespace StoreSystem

variable {ι : Type} [DecidableEq ι]

def start : StoreSystem ι where
  stores _ := {}
  used := []

def write (s : StoreSystem ι) (i : ι) (store : SubscriptionStore) :
    StoreSystem ι :=
  { s with stores := Function.update s.stores i store }

def step (s : StoreSystem ι) : StoreEvent ι → StoreSystem ι
  | .create i id request traceParent now =>
      { s.write i ((s.stores i).createSubscriptionWithId id request traceParent
          now) with
        used := id :: s.used }
  | .delete i request => s.write i ((s.stores i).deleteSubscriptions request).1
  | .transfer target source ids =>
      let moved := (s.stores target).transferSubscriptionsFrom (s.stores source)
        ids
      (s.write source moved.1.2).write target moved.1.1
  | .poll i now => s.write i ((s.stores i).pollPublish now).1
  | .change i id operation =>
      match (s.stores i).findSubscription id with
      | none => s
      | some subscription =>
          s.write i ((s.stores i).writeSubscription id (operation subscription))

/-- New subscriptions get ids which no subscription ever had. -/
def CreatesUnused (s : StoreSystem ι) : StoreEvent ι → Prop
  | .create _ id _ _ _ => id ∉ s.used
  | _ => True

/-- The store is that of a session in order, all of whose ids were used. -/
def Sound (used : List SubscriptionId) (store : SubscriptionStore) : Prop :=
  ∃ session : ServerSession, store.Stores session ∧ session.InOrder ∧
    ∀ id, session.hasSubscription id = true → id ∈ used

theorem Sound.used_cons {used : List SubscriptionId} {store : SubscriptionStore}
    (h : Sound used store) (id : SubscriptionId) : Sound (id :: used) store := by
  obtain ⟨session, hstores, horder, hused⟩ := h
  exact ⟨session, hstores, horder, fun other hother =>
    List.mem_cons_of_mem _ (hused other hother)⟩

theorem sound_write {s : StoreSystem ι} (h : ∀ i, Sound s.used (s.stores i))
    {i : ι} {store : SubscriptionStore} (hstore : Sound s.used store) (j : ι) :
    Sound (s.write i store).used ((s.write i store).stores j) := by
  unfold write
  dsimp only
  by_cases hij : j = i
  · subst hij
    rw [Function.update_self]
    exact hstore
  · rw [Function.update_of_ne hij]
    exact h j

theorem Sound.create {used : List SubscriptionId} {store : SubscriptionStore}
    (h : Sound used store) {id : SubscriptionId} (hunused : id ∉ used)
    (request : CreateSubscriptionRequest) (traceParent : ByteText)
    (now : DateTime) :
    Sound (id :: used)
      (store.createSubscriptionWithId id request traceParent now) := by
  obtain ⟨session, hstores, horder, hused⟩ := h
  have hnew : session.hasSubscription id = false := by
    by_contra hheld
    exact hunused (hused id (Bool.not_eq_false _ ▸ hheld))
  refine ⟨_, hstores.create hnew request traceParent now, ?_, ?_⟩
  · have hfresh : session.CreatesFresh (.create id request traceParent now) :=
      hnew
    exact horder.apply hfresh
  · intro other hother
    rw [ServerSession.createSubscriptionWithId_hasSubscription,
      Bool.or_eq_true_iff] at hother
    rcases hother with heq | hheld
    · rw [of_decide_eq_true heq]
      exact List.mem_cons_self
    · exact List.mem_cons_of_mem _ (hused other hheld)

theorem Sound.delete {used : List SubscriptionId} {store : SubscriptionStore}
    (h : Sound used store) (request : DeleteSubscriptionsRequest) :
    Sound used (store.deleteSubscriptions request).1 := by
  obtain ⟨session, hstores, horder, hused⟩ := h
  refine ⟨_, (hstores.deleteAll request).1,
    (horder.keepsOrder_delete request).inOrder, ?_⟩
  refine collectResults_invariant
    (P := fun current : ServerSession =>
      ∀ id, current.hasSubscription id = true → id ∈ used)
    (fun current id hcurrent other hother => ?_) hused request.subscriptionIds
  unfold ServerSession.deleteSubscription at hother
  split at hother
  next =>
    rw [ServerSession.eraseSubscription_hasSubscription] at hother
    exact hcurrent other (Bool.and_eq_true_iff.mp hother).2
  next => exact hcurrent other hother

theorem transfer_used {used : List SubscriptionId}
    {target source : ServerSession}
    (htarget : ∀ id, target.hasSubscription id = true → id ∈ used)
    (hsource : ∀ id, source.hasSubscription id = true → id ∈ used)
    (ids : List SubscriptionId) (id : SubscriptionId) :
    ((target.transferSubscriptionsFrom source ids).1.1.hasSubscription id =
        true → id ∈ used) ∧
      ((target.transferSubscriptionsFrom source ids).1.2.hasSubscription id =
        true → id ∈ used) := by
  have hround : ∀ (sessions : ServerSession × ServerSession)
      (moved : SubscriptionId),
      (∀ other, (sessions.1.hasSubscription other = true → other ∈ used) ∧
        (sessions.2.hasSubscription other = true → other ∈ used)) →
      ∀ other,
        ((ServerSession.transferSubscription sessions moved).1.1.hasSubscription
            other = true → other ∈ used) ∧
          ((ServerSession.transferSubscription sessions
            moved).1.2.hasSubscription other = true → other ∈ used) := by
    intro sessions moved hsessions other
    rcases ServerSession.transferSubscription_moves sessions moved with
      ⟨status, -, heq⟩ | ⟨subscription, hsource, -, heq⟩
    · rw [heq]
      exact hsessions other
    · rw [heq]
      refine ⟨fun hother => ?_, fun hother => ?_⟩
      · rw [ServerSession.hasSubscription, KeyedMap.lookup_insert_eq] at hother
        split at hother
        next hmoved =>
          rw [hmoved]
          refine (hsessions moved).2 ?_
          rw [ServerSession.hasSubscription, hsource]
          rfl
        next => exact (hsessions other).1 hother
      · rw [ServerSession.eraseSubscription_hasSubscription] at hother
        exact (hsessions other).2 (Bool.and_eq_true_iff.mp hother).2
  have hstart : ∀ other,
      ((target, source).1.hasSubscription other = true → other ∈ used) ∧
        ((target, source).2.hasSubscription other = true → other ∈ used) :=
    fun other => ⟨htarget other, hsource other⟩
  exact collectResults_invariant hround hstart ids id

theorem Sound.transfer {used : List SubscriptionId}
    {target source : SubscriptionStore} (htarget : Sound used target)
    (hsource : Sound used source) (ids : List SubscriptionId) :
    Sound used (target.transferSubscriptionsFrom source ids).1.1 ∧
      Sound used (target.transferSubscriptionsFrom source ids).1.2 := by
  obtain ⟨session, hstores, horder, hused⟩ := htarget
  obtain ⟨sourceSession, hstores', horder', hused'⟩ := hsource
  obtain ⟨⟨hafter, hafter'⟩, -⟩ := hstores.transfer hstores' ids
  exact ⟨⟨_, hafter, (horder.keepsOrder_transferIn sourceSession ids).inOrder,
      fun id => (transfer_used hused hused' ids id).1⟩,
    ⟨_, hafter', (horder'.keepsOrder_transferOut session ids).inOrder,
      fun id => (transfer_used hused hused' ids id).2⟩⟩

theorem Sound.poll {used : List SubscriptionId} {store : SubscriptionStore}
    (h : Sound used store) (now : DateTime) :
    Sound used (store.pollPublish now).1 := by
  obtain ⟨session, hstores, horder, hused⟩ := h
  refine ⟨_, (hstores.poll now).1, horder.poll_inOrder now, fun id hheld => ?_⟩
  rw [(session.pollPublish_sameOutline now).hasSubscription] at hheld
  exact hused id hheld

theorem Sound.change {used : List SubscriptionId} {store : SubscriptionStore}
    (h : Sound used store) {id : SubscriptionId}
    {subscription : ServerSubscription}
    (hfound : store.findSubscription id = some subscription)
    (changed : ServerSubscription) :
    Sound used (store.writeSubscription id changed) := by
  obtain ⟨session, hstores, horder, hused⟩ := h
  have hlookup : session.subscriptions.lookup id = some subscription := by
    rw [hstores.findSubscription_eq] at hfound
    exact hfound
  have hsame : ∀ other,
      (session.writeSubscription id changed).hasSubscription other =
        session.hasSubscription other := by
    intro other
    rw [ServerSession.hasSubscription, ServerSession.writeSubscription,
      KeyedMap.lookup_insert_eq]
    by_cases heq : other = id
    · subst heq
      rw [if_pos rfl, ServerSession.hasSubscription, hlookup]
      rfl
    · rw [if_neg heq, ServerSession.hasSubscription]
  refine ⟨_, hstores.write id changed, ⟨horder.nodup, fun other => ?_,
    horder.cursor⟩, fun other hother => ?_⟩
  · rw [hsame]
    exact horder.held other
  · rw [hsame] at hother
    exact hused other hother

theorem step_sound {s : StoreSystem ι} (h : ∀ i, Sound s.used (s.stores i))
    {event : StoreEvent ι} (hevent : s.CreatesUnused event) (i : ι) :
    Sound (s.step event).used ((s.step event).stores i) := by
  cases event with
  | create owner id request traceParent now =>
      have hcreated := (h owner).create hevent request traceParent now
      change Sound (id :: s.used) (Function.update s.stores owner _ i)
      by_cases hio : i = owner
      · subst hio
        rw [Function.update_self]
        exact hcreated
      · rw [Function.update_of_ne hio]
        exact (h i).used_cons id
  | delete owner request => exact sound_write h ((h owner).delete request) i
  | transfer target source ids =>
      obtain ⟨htarget, hsource⟩ := (h target).transfer (h source) ids
      exact sound_write (sound_write h hsource) htarget i
  | poll owner now => exact sound_write h ((h owner).poll now) i
  | change owner id operation =>
      cases hfound : (s.stores owner).findSubscription id with
      | none =>
          simp only [step, hfound]
          exact h i
      | some subscription =>
          simp only [step, hfound]
          exact sound_write h ((h owner).change hfound _) i

omit [DecidableEq ι] in
theorem start_sound (i : ι) :
    Sound (start : StoreSystem ι).used ((start : StoreSystem ι).stores i) := by
  let session : ServerSession :=
    { address := 0, sessionId := {}, serviceContext := {}, operationLimits := {} }
  refine ⟨session, ⟨fun id => rfl, rfl, rfl⟩,
    ⟨List.nodup_nil, fun id => ?_, .inl rfl⟩, fun id hheld => ?_⟩
  · simp [session, ServerSession.hasSubscription]
  · simp [session, ServerSession.hasSubscription] at hheld

/-- In every state of a run, the parts of every store fit together, and a
transfer between any two sessions moves what it answers with `Good` and leaves
the rest alone. -/
theorem stores_represent (events : List (StoreEvent ι))
    (hunused : AllMeet step CreatesUnused (start : StoreSystem ι) events) :
    (∀ i, ((runFrom step start events).stores i).Represents) ∧
      ∀ target source ids,
        ((runFrom step start events).stores target).TransferMoves
          ((runFrom step start events).stores source) ids := by
  have hsound := runFrom_invariant
    (P := fun s : StoreSystem ι => ∀ i, Sound s.used (s.stores i))
    (fun s event hs hevent => step_sound hs hevent) start_sound hunused
  refine ⟨fun i => ?_, fun target source ids => ?_⟩
  · obtain ⟨session, hstores, horder, -⟩ := hsound i
    exact hstores.represents horder
  · obtain ⟨session, hstores, -⟩ := hsound target
    obtain ⟨sourceSession, hstores', -⟩ := hsound source
    exact hstores.transferMoves hstores' ids

/-- Two subscriptions are created, one of them moves to another session and
back, and both are deleted. -/
theorem moved_subscription_represented :
    let events : List (StoreEvent Bool) :=
      [.create true 1 { parameters := {} } [] {},
        .create true 2 { parameters := {} } [] {},
        .transfer false true [2, 9, 2], .poll false {},
        .transfer true false [2], .delete true { subscriptionIds := [1, 1, 2] }]
    (∀ i, ((runFrom step start events).stores i).Represents) ∧
      ∀ target source ids,
        ((runFrom step start events).stores target).TransferMoves
          ((runFrom step start events).stores source) ids := by
  refine stores_represent _ ⟨?_, ?_, trivial, trivial, trivial, trivial, trivial⟩
  · exact List.not_mem_nil
  · change (2 : SubscriptionId) ∉ [1]
    decide

end StoreSystem
end OpcuaStack
