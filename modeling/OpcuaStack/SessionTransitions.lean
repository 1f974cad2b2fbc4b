import OpcuaStack.ServerSession
import OpcuaStack.SubscriptionEdits

/-!
# What a request does to its session

A session served keeps its identity and its service context.  Most requests
also keep its set of subscriptions; the exceptions create, delete and transfer
subscriptions, and are described by their effect on that set.
-/

namespace OpcuaStack
namespace ServerSession

open ServerSubscription (Change QuietChange Edits modify_edits)
open Relation (ReflTransGen)

/-- The same object, under the same identity. -/
structure SameObject (before after : ServerSession) : Prop where
  address : after.address = before.address
  serviceContext : after.serviceContext = before.serviceContext

/-- The same object with the same set of subscriptions. -/
structure SameOutline (before after : ServerSession) : Prop
    extends SameObject before after where
  hasSubscription : ∀ id, after.hasSubscription id = before.hasSubscription id

theorem SameObject.refl (session : ServerSession) : SameObject session session :=
  ⟨rfl, rfl⟩

theorem SameObject.trans {a b c : ServerSession}
    (hab : SameObject a b) (hbc : SameObject b c) : SameObject a c where
  address := hbc.address.trans hab.address
  serviceContext := hbc.serviceContext.trans hab.serviceContext

theorem SameOutline.refl (session : ServerSession) :
    SameOutline session session :=
  ⟨.refl session, fun _ => rfl⟩

theorem SameOutline.trans {a b c : ServerSession}
    (hab : SameOutline a b) (hbc : SameOutline b c) : SameOutline a c where
  toSameObject := hab.toSameObject.trans hbc.toSameObject
  hasSubscription id := (hbc.hasSubscription id).trans (hab.hasSubscription id)

/-- Every subscription keeps its place, and goes only through changes of the
given kind. -/
structure InPlaceBy (change : ServerSubscription → ServerSubscription → Prop)
    (before after : ServerSession) : Prop extends SameObject before after where
  publishOrder : after.publishOrder = before.publishOrder
  nextPublishIndex : after.nextPublishIndex = before.nextPublishIndex
  subscriptions : ∀ id, Option.Rel (ReflTransGen change)
    (before.subscriptions.lookup id) (after.subscriptions.lookup id)

/-- Every subscription keeps its place and changes only by itself. -/
abbrev InPlace := InPlaceBy Change

/-- No subscription publishes or gets an acknowledgement. -/
abbrev QuietInPlace := InPlaceBy QuietChange

namespace InPlaceBy

variable {change : ServerSubscription → ServerSubscription → Prop}

theorem of_subscriptions_eq {before after : ServerSession}
    (hobject : SameObject before after)
    (horder : after.publishOrder = before.publishOrder)
    (hindex : after.nextPublishIndex = before.nextPublishIndex)
    (hsubscriptions : after.subscriptions = before.subscriptions) :
    InPlaceBy change before after where
  toSameObject := hobject
  publishOrder := horder
  nextPublishIndex := hindex
  subscriptions id := by
    rw [hsubscriptions]
    cases before.subscriptions.lookup id with
    | none => exact .none
    | some subscription => exact .some .refl

theorem refl (session : ServerSession) : InPlaceBy change session session :=
  of_subscriptions_eq (.refl session) rfl rfl rfl

theorem trans {a b c : ServerSession} (hab : InPlaceBy change a b)
    (hbc : InPlaceBy change b c) : InPlaceBy change a c where
  toSameObject := hab.toSameObject.trans hbc.toSameObject
  publishOrder := hbc.publishOrder.trans hab.publishOrder
  nextPublishIndex := hbc.nextPublishIndex.trans hab.nextPublishIndex
  subscriptions id := by
    have hfirst := hab.subscriptions id
    have hsecond := hbc.subscriptions id
    generalize a.subscriptions.lookup id = s at hfirst
    generalize b.subscriptions.lookup id = t at hfirst hsecond
    generalize c.subscriptions.lookup id = r at hsecond
    cases hfirst with
    | none => exact hsecond
    | some hst =>
        cases hsecond with
        | some htr => exact .some (hst.trans htr)

theorem exists_before {before after : ServerSession}
    (h : InPlaceBy change before after) {id : SubscriptionId}
    {t : ServerSubscription}
    (hlookup : after.subscriptions.lookup id = some t) :
    ∃ s, before.subscriptions.lookup id = some s ∧ ReflTransGen change s t := by
  have hrel := h.subscriptions id
  rw [hlookup] at hrel
  generalize hbefore : before.subscriptions.lookup id = held at hrel
  cases hrel with
  | some hchanges => exact ⟨_, rfl, hchanges⟩

theorem sameOutline {before after : ServerSession}
    (h : InPlaceBy change before after) : SameOutline before after where
  toSameObject := h.toSameObject
  hasSubscription id := by
    have hrel := h.subscriptions id
    unfold ServerSession.hasSubscription
    generalize before.subscriptions.lookup id = held at hrel
    generalize after.subscriptions.lookup id = holds at hrel
    cases hrel with
    | none => rfl
    | some _ => rfl

end InPlaceBy

theorem QuietInPlace.inPlace {before after : ServerSession}
    (h : QuietInPlace before after) : InPlace before after where
  toSameObject := h.toSameObject
  publishOrder := h.publishOrder
  nextPublishIndex := h.nextPublishIndex
  subscriptions id := by
    have hrel := h.subscriptions id
    generalize before.subscriptions.lookup id = s at hrel
    generalize after.subscriptions.lookup id = t at hrel
    cases hrel with
    | none => exact .none
    | some hquiet =>
        exact .some (reflTransGen_preserves (P := ReflTransGen Change _)
          (fun _ _ hlast hbefore => hbefore.tail hlast.change) hquiet .refl)

section InPlaceBy

variable {change : ServerSubscription → ServerSubscription → Prop}

theorem collectResults_inPlaceBy {α β : Type}
    {body : ServerSession → α → ServerSession × β}
    (hbody : ∀ session element, InPlaceBy change session (body session element).1)
    (session : ServerSession) (elements : List α) :
    InPlaceBy change session (collectResults body session elements).1 :=
  collectResults_invariant (P := InPlaceBy change session)
    (fun current element h => h.trans (hbody current element))
    (.refl session) elements

/-! ## Requests on one subscription -/

theorem writeSubscription_inPlaceBy {session : ServerSession}
    {id : SubscriptionId} {old : ServerSubscription}
    (hlookup : session.subscriptions.lookup id = some old)
    {subscription : ServerSubscription}
    (hchange : change old subscription) :
    InPlaceBy change session (session.writeSubscription id subscription) where
  address := rfl
  serviceContext := rfl
  publishOrder := rfl
  nextPublishIndex := rfl
  subscriptions other := by
    simp only [writeSubscription, KeyedMap.lookup_insert_eq]
    split
    next heq =>
      subst heq
      rw [hlookup]
      exact .some (.single hchange)
    next =>
      exact (InPlaceBy.refl session).subscriptions other

theorem onSubscription_inPlaceBy {ρ : Type} (session : ServerSession)
    (id : SubscriptionId) (missing : ρ)
    {operation : ServerSubscription → ServerSubscription × ρ}
    (hoperation : ∀ s, change s (operation s).1) :
    InPlaceBy change session
      (session.onSubscription id missing operation).1 := by
  unfold onSubscription
  cases hlookup : session.subscriptions.lookup id with
  | none => exact .refl session
  | some subscription =>
      exact writeSubscription_inPlaceBy hlookup (hoperation subscription)

end InPlaceBy

theorem onSubscription_edits_quiet {ρ : Type} (session : ServerSession)
    (id : SubscriptionId) (missing : ρ)
    {operation : ServerSubscription → ServerSubscription × ρ}
    (hoperation : ∀ s, Edits s (operation s).1) :
    QuietInPlace session (session.onSubscription id missing operation).1 :=
  session.onSubscription_inPlaceBy id missing fun s => .edits (hoperation s)

theorem acknowledgePublishRequest_inPlace (session : ServerSession)
    (request : PublishRequest) :
    InPlace session (session.acknowledgePublishRequest request).1 :=
  collectResults_inPlaceBy
    (fun session _ => session.onSubscription_inPlaceBy _ _
      fun _ => .acknowledges _) _ _

theorem acknowledgePublishRequest_sameOutline (session : ServerSession)
    (request : PublishRequest) :
    SameOutline session (session.acknowledgePublishRequest request).1 :=
  (session.acknowledgePublishRequest_inPlace request).sameOutline

/-! ## Publishing -/

theorem primeSubscription_quiet (now : DateTime)
    (state : ServerSession × PublishSchedule) (id : SubscriptionId) :
    QuietInPlace state.1 (primeSubscription now state id).1 := by
  obtain ⟨session, schedule⟩ := state
  unfold primeSubscription
  simp only
  split
  · exact .refl session
  next subscription hlookup =>
    have hwritten : QuietInPlace session (session.writeSubscription id
        (subscription.primePublishCycle now)) :=
      writeSubscription_inPlaceBy hlookup (.primes now)
    split <;> exact hwritten

theorem pollWait_quiet (session : ServerSession) (now : DateTime) :
    QuietInPlace session (session.pollWait now).1 := by
  have hprimed : QuietInPlace session
      (runFrom (primeSubscription now) (session, {}) session.publishOrder).1 :=
    runFrom_invariant_of_step (P := fun state => QuietInPlace session state.1)
      (fun state id h => h.trans (primeSubscription_quiet now state id))
      (.refl session) session.publishOrder
  unfold pollWait
  split
  · exact .refl session
  · simp only
    split <;> exact hprimed

theorem pollReady_inPlace (session : ServerSession) (index : ℕ)
    (now : DateTime) :
    ∃ served, InPlace session served ∧
      ((session.pollReady index now).1 = served ∨
        (session.pollReady index now).1 =
          served.advancePublishCursorAfter index) := by
  unfold pollReady
  split
  · exact ⟨session, .refl session, .inl rfl⟩
  next id hid =>
    cases hlookup : session.subscriptions.lookup id with
    | none => exact ⟨session, .refl session, .inl rfl⟩
    | some subscription =>
        have hwritten : InPlace session (session.writeSubscription id
            (subscription.tryPublish now).1) :=
          writeSubscription_inPlaceBy hlookup (.publishes now)
        simp only
        split
        · exact ⟨_, hwritten, .inl rfl⟩
        · exact ⟨_, hwritten, .inr rfl⟩

theorem advancePublishCursorAfter_sameOutline (session : ServerSession)
    (index : ℕ) :
    SameOutline session (session.advancePublishCursorAfter index) := by
  unfold advancePublishCursorAfter
  split <;> exact ⟨⟨rfl, rfl⟩, fun _ => rfl⟩

theorem pollPublish_sameOutline (session : ServerSession) (now : DateTime) :
    SameOutline session (session.pollPublish now).1 := by
  unfold pollPublish
  split
  · exact (session.pollWait_quiet now).sameOutline
  next index _ =>
    obtain ⟨served, hserved, heq | heq⟩ := session.pollReady_inPlace index now
    · rw [heq]
      exact hserved.sameOutline
    · rw [heq]
      exact hserved.sameOutline.trans
        (served.advancePublishCursorAfter_sameOutline index)

/-! ## Browsing -/

theorem pageBrowseResult_quiet (requestedMax : ℕ)
    (session : ServerSession) (result : BrowseResult) :
    QuietInPlace session (pageBrowseResult requestedMax session result).1 := by
  unfold pageBrowseResult
  simp only
  split
  · exact .refl session
  · split
    · exact .refl session
    · exact .of_subscriptions_eq ⟨rfl, rfl⟩ rfl rfl rfl

theorem storeBrowseResults_quiet (session : ServerSession)
    (response : BrowseResponse) (requestedMax : ℕ) :
    QuietInPlace session (session.storeBrowseResults response requestedMax).1 := by
  unfold storeBrowseResults
  split
  · exact .refl session
  · exact collectResults_inPlaceBy (pageBrowseResult_quiet _) _ _

theorem storeBrowseResults_sameOutline (session : ServerSession)
    (response : BrowseResponse) (requestedMax : ℕ) :
    SameOutline session (session.storeBrowseResults response requestedMax).1 :=
  (session.storeBrowseResults_quiet response requestedMax).sameOutline

theorem browseNextPoint_quiet (release : Bool) (session : ServerSession)
    (continuationPoint : ByteString) :
    QuietInPlace session
      (browseNextPoint release session continuationPoint).1 := by
  unfold browseNextPoint
  split
  · exact .refl session
  · simp only
    split <;> exact .of_subscriptions_eq ⟨rfl, rfl⟩ rfl rfl rfl

theorem serve_quiet (session : ServerSession) (request : SessionRequest)
    (envs : ℕ → BindEnvironment) :
    QuietInPlace session (session.serve request envs).1 := by
  cases request with
  | modifySubscription request =>
      simp only [serve, modifySubscription]
      exact session.onSubscription_edits_quiet _ _ (modify_edits · request)
  | setPublishingMode request =>
      exact collectResults_inPlaceBy
        (fun session _ => session.onSubscription_edits_quiet _ _
          fun s => s.setPublishingEnabled_edits _) _ _
  | republish request => exact .refl session
  | createMonitoredItems request =>
      have hcreate :
          QuietInPlace session (session.createMonitoredItems request envs).1 := by
        unfold createMonitoredItems
        split
        · exact .refl session
        · exact session.onSubscription_edits_quiet _ _
            fun s => (s.createMonitoredItems_edits request envs).edits
      exact hcreate
  | modifyMonitoredItems request =>
      simp only [serve, modifyMonitoredItems]
      exact session.onSubscription_edits_quiet _ _
        fun s => (s.modifyMonitoredItems_edits request envs).edits
  | deleteMonitoredItems request =>
      simp only [serve, deleteMonitoredItems]
      exact session.onSubscription_inPlaceBy _ _
        fun _ => .deletes request
  | setMonitoringMode request =>
      simp only [serve, setMonitoringMode]
      exact session.onSubscription_edits_quiet _ _
        fun s => (s.setMonitoringMode_edits request).edits
  | browseNext request =>
      exact collectResults_inPlaceBy (browseNextPoint_quiet _) _ _
  | registerNodes nodesToRegister => exact .refl session
  | unregisterNodes nodesToUnregister => exact .refl session

theorem serve_sameOutline (session : ServerSession) (request : SessionRequest)
    (envs : ℕ → BindEnvironment) :
    SameOutline session (session.serve request envs).1 :=
  (session.serve_quiet request envs).sameOutline

theorem onBackingEvent_quiet (session : ServerSession) (id : SubscriptionId)
    (event : ServerSubscription.BackingEvent) :
    QuietInPlace session (session.onSubscription id () fun subscription =>
      (subscription.onBackingEvent event, ())).1 :=
  session.onSubscription_edits_quiet _ _
    fun s => (s.onBackingEvent_edits event).edits

/-! ## Creating, deleting and transferring subscriptions -/

theorem createSubscriptionWithId_sameObject (session : ServerSession)
    (id : SubscriptionId) (request : CreateSubscriptionRequest)
    (traceParent : ByteText) (now : DateTime) :
    SameObject session
      (session.createSubscriptionWithId id request traceParent now).1 :=
  ⟨rfl, rfl⟩

theorem createSubscriptionWithId_hasSubscription (session : ServerSession)
    (id : SubscriptionId) (request : CreateSubscriptionRequest)
    (traceParent : ByteText) (now : DateTime) (other : SubscriptionId) :
    (session.createSubscriptionWithId id request traceParent
        now).1.hasSubscription other =
      (decide (other = id) || session.hasSubscription other) := by
  unfold createSubscriptionWithId
  by_cases hheld : session.hasSubscription id = true
  · simp only [hheld, if_true]
    by_cases heq : other = id
    · subst heq
      simpa [hasSubscription] using hheld
    · simp [hasSubscription, heq]
  · simp only [hheld]
    rw [if_neg Bool.false_ne_true, hasSubscription, KeyedMap.lookup_insert_eq,
      hasSubscription]
    split
    next heq => simp [heq]
    next hne => simp [hne]

theorem eraseSubscription_sameObject (session : ServerSession)
    (id : SubscriptionId) : SameObject session (session.eraseSubscription id) := by
  unfold eraseSubscription
  simp only
  split
  · exact ⟨rfl, rfl⟩
  · split <;> exact ⟨rfl, rfl⟩

theorem eraseSubscription_subscriptions (session : ServerSession)
    (id : SubscriptionId) :
    (session.eraseSubscription id).subscriptions =
      session.subscriptions.erase id := by
  unfold eraseSubscription
  simp only
  split
  · rfl
  · split <;> rfl

theorem eraseSubscription_hasSubscription (session : ServerSession)
    (id other : SubscriptionId) :
    (session.eraseSubscription id).hasSubscription other =
      (decide (other ≠ id) && session.hasSubscription other) := by
  rw [hasSubscription, eraseSubscription_subscriptions,
    KeyedMap.lookup_erase_eq]
  split
  next heq => simp [heq]
  next hne => simp [hne, hasSubscription]

theorem deleteSubscriptions_sameObject (session : ServerSession)
    (request : DeleteSubscriptionsRequest) :
    SameObject session (session.deleteSubscriptions request).1 := by
  refine collectResults_invariant (P := SameObject session)
    (fun current id h => h.trans ?_) (.refl session) request.subscriptionIds
  unfold deleteSubscription
  split
  · exact eraseSubscription_sameObject _ _
  · exact .refl _

theorem transferSubscription_sameObject
    (sessions : ServerSession × ServerSession) (id : SubscriptionId) :
    SameObject sessions.1 (transferSubscription sessions id).1.1 ∧
      SameObject sessions.2 (transferSubscription sessions id).1.2 := by
  unfold transferSubscription
  simp only
  split
  · exact ⟨.refl _, .refl _⟩
  · split
    · exact ⟨.refl _, .refl _⟩
    · exact ⟨⟨rfl, rfl⟩, eraseSubscription_sameObject _ _⟩

theorem transferSubscriptionsFrom_sameObject (target source : ServerSession)
    (ids : List SubscriptionId) :
    SameObject target (target.transferSubscriptionsFrom source ids).1.1 ∧
      SameObject source (target.transferSubscriptionsFrom source ids).1.2 := by
  have hloop : SameObject target
        (collectResults transferSubscription (target, source) ids).1.1 ∧
      SameObject source
        (collectResults transferSubscription (target, source) ids).1.2 :=
    collectResults_invariant
      (P := fun sessions : ServerSession × ServerSession =>
        SameObject target sessions.1 ∧ SameObject source sessions.2)
      (fun sessions id h =>
        ⟨h.1.trans (transferSubscription_sameObject sessions id).1,
          h.2.trans (transferSubscription_sameObject sessions id).2⟩)
      ⟨.refl target, .refl source⟩ ids
  exact ⟨hloop.1.trans ⟨rfl, rfl⟩, hloop.2⟩

end ServerSession
end OpcuaStack
