import OpcuaStack.ItemOrigins
import OpcuaStack.NotificationQueues

/-!
# Where the notifications of a client subscription go

A monitored item has a handle which the protocol subscription gives it and the
handle which the view has passed.  A notification of the server names the first
and reaches the queue of the view under the second.
-/

namespace OpcuaStack

/-! ## Items of the protocol subscription -/

/-- An item which is created, or whose create is in flight. -/
structure TrackedItem where
  handle : UInt32
  view : ViewId
  clientHandle : UInt32
  itemId : Option MonitoredItemId := none

/-- A subscription with its items, and every item a create was requested for. -/
structure TrackedSubscription where
  subscription : ClientSubscription := {}
  items : List TrackedItem := []
  requested : List TrackedItem := []

namespace TrackedSubscription

/-- The item whose request goes out with the event. -/
def requestedBy (t : TrackedSubscription) :
    ClientSubscriptionEvent → List TrackedItem
  | .createStarts index =>
      match t.subscription.creates[index]?, t.subscription.impl with
      | some { item, requested := none }, some handlers =>
          if handlers.publishing.isCreated then
            [{ handle := handlers.nextClientHandle
               view := item.view
               clientHandle := item.clientHandle }]
          else []
      | _, _ => []
  | _ => []

/-- An item is there from its request until the request fails, or the deletion of
its id has been answered. -/
def track (t : TrackedSubscription) : ClientSubscriptionEvent → List TrackedItem
  | .createFinished index response =>
      match t.subscription.creates[index]? with
      | some { item := _, requested := some clientHandle } =>
          match createdItem response with
          | .ok itemId =>
              t.items.map fun item =>
                if item.handle = clientHandle then { item with itemId := some itemId }
                else item
          | .error _ _ => t.items.filter (·.handle ≠ clientHandle)
      | _ => t.items
  | .deleteFinished index true =>
      match t.subscription.deletes[index]? with
      | some { serverId, issued := true } =>
          t.items.filter (·.itemId ≠ some serverId)
      | _ => t.items
  | event => t.items ++ t.requestedBy event

def step (t : TrackedSubscription) (event : ClientSubscriptionEvent) :
    TrackedSubscription where
  subscription := t.subscription.step event
  items := t.track event
  requested := t.requested ++ t.requestedBy event

/-- The handle which the protocol subscription gives next is new. -/
def NewClientHandle (t : TrackedSubscription) (event : ClientSubscriptionEvent) :
    Prop :=
  ∀ item ∈ t.requestedBy event, item.handle ∉ t.requested.map (·.handle)

instance (t : TrackedSubscription) (event : ClientSubscriptionEvent) :
    Decidable (t.NewClientHandle event) :=
  inferInstanceAs (Decidable (∀ item ∈ t.requestedBy event, _))

end TrackedSubscription

/-! ## The handlers know the items -/

namespace TrackedSubscription

variable {t : TrackedSubscription}

structure HandlersKnow (t : TrackedSubscription) (h : MonitoredItemHandlers) :
    Prop where
  events : h.eventHandlers = h.handlers
  tracked : ∀ item ∈ t.items, h.handlers.lookup item.handle =
    some { view := item.view, clientHandle := item.clientHandle }
  asked : ∀ handle handler, h.handlers.lookup handle = some handler →
    ∃ item ∈ t.requested, item.handle = handle ∧ item.view = handler.view ∧
      item.clientHandle = handler.clientHandle
  ids : ∀ itemId handle, h.clientHandleByItemId.lookup itemId = some handle →
    handle ∉ t.subscription.inFlight ∧ handle ∈ t.requested.map (·.handle) ∧
      ∀ item ∈ t.items, item.handle = handle → item.itemId = some itemId

structure Knows (t : TrackedSubscription) : Prop where
  absent : t.subscription.issuesDeletes = false → t.requested = []
  known : ∀ item ∈ t.items, item.handle ∈ t.requested.map (·.handle)
  inFlight : t.subscription.inFlight.Nodup
  asked : ∀ handle ∈ t.subscription.inFlight,
    handle ∈ t.requested.map (·.handle)
  handlers : ∀ h, t.subscription.impl = some h → t.HandlersKnow h

theorem Knows.items_nil (h : t.Knows) (hnone : t.requested = []) :
    t.items = [] := by
  rw [List.eq_nil_iff_forall_not_mem]
  intro item hitem
  have hknown := h.known item hitem
  simp [hnone] at hknown

/-- The maps of the handlers agree. -/
structure SameMaps (h k : MonitoredItemHandlers) : Prop where
  handlers : k.handlers = h.handlers
  eventHandlers : k.eventHandlers = h.eventHandlers
  clientHandleByItemId : k.clientHandleByItemId = h.clientHandleByItemId

theorem HandlersKnow.of_same {u : TrackedSubscription}
    {h k : MonitoredItemHandlers} (hknow : t.HandlersKnow h)
    (hmaps : SameMaps h k) (hitems : u.items = t.items)
    (hrequested : u.requested = t.requested)
    (hflight : u.subscription.inFlight = t.subscription.inFlight) :
    u.HandlersKnow k where
  events := by
    rw [hmaps.handlers, hmaps.eventHandlers]
    exact hknow.events
  tracked := by
    rw [hmaps.handlers, hitems]
    exact hknow.tracked
  asked := by
    rw [hmaps.handlers, hrequested]
    exact hknow.asked
  ids := by
    rw [hmaps.clientHandleByItemId, hitems, hrequested, hflight]
    exact hknow.ids

/-- An event which sends no create, ends none and forgets no handle. -/
structure Quiet (t : TrackedSubscription) (event : ClientSubscriptionEvent) :
    Prop where
  items : t.track event = t.items
  requested : t.requestedBy event = []
  inFlight : (t.subscription.step event).inFlight = t.subscription.inFlight
  absent : (t.subscription.step event).issuesDeletes = false →
    t.subscription.issuesDeletes = false
  impl : ∀ k, (t.subscription.step event).impl = some k →
    (t.subscription.issuesDeletes = false ∧ SameMaps {} k) ∨
      ∃ h, t.subscription.impl = some h ∧ SameMaps h k

theorem Knows.quiet (h : t.Knows) {event : ClientSubscriptionEvent}
    (hquiet : t.Quiet event) : (t.step event).Knows := by
  have hitems : (t.step event).items = t.items := hquiet.items
  have hrequested : (t.step event).requested = t.requested := by
    change t.requested ++ t.requestedBy event = t.requested
    rw [hquiet.requested, List.append_nil]
  have hflight : (t.step event).subscription.inFlight = t.subscription.inFlight :=
    hquiet.inFlight
  constructor
  case absent =>
    rw [hrequested]
    exact fun hissues => h.absent (hquiet.absent hissues)
  case known => rw [hitems, hrequested]; exact h.known
  case inFlight => rw [hflight]; exact h.inFlight
  case asked => rw [hflight, hrequested]; exact h.asked
  case handlers =>
    intro k hk
    rcases hquiet.impl k hk with ⟨hissues, hmaps⟩ | ⟨before, hbefore, hmaps⟩
    · have hnone := h.absent hissues
      have hempty : t.HandlersKnow {} :=
        { events := rfl
          tracked := by simp [h.items_nil hnone]
          asked := fun _ _ hlookup => absurd hlookup (by simp)
          ids := fun _ _ hlookup => absurd hlookup (by simp) }
      exact hempty.of_same hmaps hitems hrequested hflight
    · exact (h.handlers before hbefore).of_same hmaps hitems hrequested hflight

theorem quiet_of_same {event : ClientSubscriptionEvent}
    (hitems : t.track event = t.items) (hrequested : t.requestedBy event = [])
    (hsame : t.subscription.SameHandlers (t.subscription.step event)) :
    t.Quiet event where
  items := hitems
  requested := hrequested
  inFlight := hsame.inFlight
  absent := by
    unfold ClientSubscription.issuesDeletes
    rw [hsame.impl]
    exact id
  impl := by
    rw [hsame.impl]
    exact fun k hk => Or.inr ⟨k, hk, rfl, rfl, rfl⟩

theorem Knows.publishResponse (h : t.Knows) (response : PublishResponse) :
    (t.step (.publishResponse response)).Knows := by
  have hframe : (t.subscription.step (.publishResponse response)).inFlight =
        t.subscription.inFlight ∧
      ((t.subscription.step (.publishResponse response)).impl =
          t.subscription.impl ∨
        ∃ handlers, t.subscription.impl = some handlers ∧
          (t.subscription.step (.publishResponse response)).impl =
            some (handlers.handlePublishResponse response).1) := by
    obtain ⟨-, heq⟩ | ⟨handlers, himpl, heq⟩ :=
      t.subscription.publishResponse_cases response
    · change (t.subscription.publishResponse response).inFlight = _ ∧
        ((t.subscription.publishResponse response).impl = _ ∨ _)
      rw [heq]
      exact ⟨rfl, Or.inl rfl⟩
    · change (t.subscription.publishResponse response).inFlight = _ ∧
        (_ ∨ ∃ handlers, _ ∧ (t.subscription.publishResponse response).impl = _)
      rw [heq, ClientSubscription.pushNotifications_frame]
      exact ⟨rfl, Or.inr ⟨handlers, himpl, rfl⟩⟩
  obtain ⟨hflight, hsame | ⟨handlers, himpl, hafter⟩⟩ := hframe
  · exact h.quiet (quiet_of_same (List.append_nil _) rfl ⟨hsame, hflight⟩)
  · refine h.quiet
      { items := List.append_nil _, requested := rfl, inFlight := hflight,
        absent := ?_, impl := ?_ }
    · unfold ClientSubscription.issuesDeletes
      rw [hafter, himpl]
      exact (ClientSubscription.isCreated_handlePublishResponse handlers
        response).symm.trans
    · intro k hk
      obtain rfl := Option.some.inj (hafter.symm.trans hk)
      refine Or.inr ⟨handlers, himpl, ?_⟩
      unfold MonitoredItemHandlers.handlePublishResponse
      exact ⟨rfl, rfl, rfl⟩

theorem Knows.addItems (h : t.Knows) (view : ViewId)
    (requests : List MonitoredItemCreateRequest) :
    (t.step (.addItems view requests)).Knows := by
  have hframe : t.subscription.SameHandlers
        (t.subscription.addItems view requests) ∨
      (t.subscription.impl = none ∧
        (t.subscription.addItems view requests).impl = some {} ∧
        (t.subscription.addItems view requests).inFlight =
          t.subscription.inFlight) := by
    unfold ClientSubscription.addItems
    split
    case isFalse => exact Or.inl ⟨rfl, rfl⟩
    case isTrue =>
      unfold ClientSubscription.ensureCreated
      dsimp only
      split
      case isTrue => exact Or.inl ⟨rfl, rfl⟩
      case isFalse habsent =>
        refine Or.inr ⟨?_, rfl, rfl⟩
        cases himpl : t.subscription.impl with
        | none => rfl
        | some handlers => simp [himpl] at habsent
  obtain hsame | ⟨hnone, hafter, hflight⟩ := hframe
  · exact h.quiet (quiet_of_same (List.append_nil _) rfl hsame)
  · have hissues : t.subscription.issuesDeletes = false := by
      unfold ClientSubscription.issuesDeletes
      rw [hnone]
    refine h.quiet
      { items := List.append_nil _, requested := rfl, inFlight := hflight,
        absent := fun _ => hissues, impl := ?_ }
    intro k hk
    obtain rfl := Option.some.inj (hafter.symm.trans hk)
    exact Or.inl ⟨hissues, rfl, rfl, rfl⟩

theorem Knows.creationFinished (h : t.Knows) (hstage : t.subscription.Stage)
    (status : Status) : (t.step (.creationFinished status)).Knows := by
  by_cases hcreating : t.subscription.creation = some .creating
  case neg =>
    refine h.quiet (quiet_of_same (List.append_nil _) rfl ?_)
    change t.subscription.SameHandlers (t.subscription.creationFinished status)
    unfold ClientSubscription.creationFinished
    rw [if_neg hcreating]
    exact ⟨rfl, rfl⟩
  case pos =>
    have hissues := hstage.unready (hstage.creating.mpr hcreating)
    have himpl : ∀ k, (t.subscription.creationFinished status).impl = some k →
        ∃ before, t.subscription.impl = some before ∧ SameMaps before k := by
      intro k hk
      unfold ClientSubscription.creationFinished at hk
      rw [if_pos hcreating] at hk
      split at hk
      · exact absurd hk (by simp)
      · obtain ⟨before, hbefore, rfl⟩ := Option.map_eq_some_iff.mp hk
        exact ⟨before, hbefore, rfl, rfl, rfl⟩
    have hflight : (t.subscription.creationFinished status).inFlight =
        t.subscription.inFlight := by
      unfold ClientSubscription.creationFinished
      rw [if_pos hcreating]
      split <;> rfl
    exact h.quiet
      { items := List.append_nil _, requested := rfl, inFlight := hflight,
        absent := fun _ => hissues, impl := fun k hk => Or.inr (himpl k hk) }

/-! ## A create is requested -/

/-- The handlers with one more, under a handle which was never given. -/
theorem HandlersKnow.beginCreate {u : TrackedSubscription}
    {h : MonitoredItemHandlers} (hknow : t.HandlersKnow h) {added : TrackedItem}
    (hhandle : added.handle = h.nextClientHandle)
    (hitems : u.items = t.items ++ [added])
    (hrequested : u.requested = t.requested ++ [added])
    (hflight : u.subscription.inFlight ⊆ added.handle :: t.subscription.inFlight)
    (hknown : ∀ item ∈ t.items, item.handle ∈ t.requested.map (·.handle))
    (hfresh : added.handle ∉ t.requested.map (·.handle)) :
    u.HandlersKnow
      (h.beginCreate { view := added.view, clientHandle := added.clientHandle }).1 := by
  have hfree : h.handlers.lookup added.handle = none := by
    rw [Option.eq_none_iff_forall_ne_some]
    intro handler hlookup
    obtain ⟨asked, hasked, hsame, -⟩ := hknow.asked _ handler hlookup
    exact hfresh (List.mem_map.mpr ⟨asked, hasked, hsame⟩)
  have hlookup : ∀ other, (KeyedMap.emplace h.handlers h.nextClientHandle
      { view := added.view, clientHandle := added.clientHandle }).lookup other =
        if other = added.handle then
          some { view := added.view, clientHandle := added.clientHandle }
        else h.handlers.lookup other := by
    intro other
    rw [← hhandle, KeyedMap.lookup_emplace, hfree]
    rfl
  constructor
  case events =>
    change KeyedMap.emplace h.eventHandlers h.nextClientHandle _ =
      KeyedMap.emplace h.handlers h.nextClientHandle _
    rw [hknow.events]
  case tracked =>
    rw [hitems]
    intro item hitem
    refine (hlookup item.handle).trans ?_
    rcases List.mem_append.mp hitem with hold | hlast
    · have hne : item.handle ≠ added.handle := fun heq =>
        hfresh (heq ▸ hknown item hold)
      rw [if_neg hne]
      exact hknow.tracked item hold
    · rw [List.mem_singleton.mp hlast]
      exact if_pos rfl
  case asked =>
    intro other handler hfound
    have hfound' := (hlookup other).symm.trans hfound
    rw [hrequested]
    split at hfound'
    · next heq =>
      obtain rfl := Option.some.inj hfound'
      exact ⟨added, List.mem_append_right _ List.mem_cons_self, heq.symm, rfl, rfl⟩
    · obtain ⟨asked, hasked, hrest⟩ := hknow.asked other handler hfound'
      exact ⟨asked, List.mem_append_left _ hasked, hrest⟩
  case ids =>
    intro itemId other hfound
    obtain ⟨hlanded, hasked, hid⟩ := hknow.ids itemId other hfound
    have hne : other ≠ added.handle := fun heq => hfresh (heq ▸ hasked)
    refine ⟨?_, ?_, ?_⟩
    · intro hmem
      rcases List.mem_cons.mp (hflight hmem) with heq | hold
      · exact hne heq
      · exact hlanded hold
    · rw [hrequested, List.map_append]
      exact List.mem_append_left _ hasked
    · rw [hitems]
      intro item hitem hsame
      rcases List.mem_append.mp hitem with hold | hlast
      · exact hid item hold hsame
      · rw [List.mem_singleton.mp hlast] at hsame
        exact absurd hsame.symm hne

/-- What a create that starts does to the subscription and to what is tracked of it. -/
theorem step_createStarts {index : ℕ} {item : PendingSubscription}
    {handlers : MonitoredItemHandlers}
    (hcreate : t.subscription.creates[index]? = some { item })
    (himpl : t.subscription.impl = some handlers)
    (hcreated : handlers.publishing.isCreated = true) :
    t.requestedBy (.createStarts index) =
        [{ handle := handlers.nextClientHandle, view := item.view,
           clientHandle := item.clientHandle }] ∧
      (t.step (.createStarts index)).subscription =
        { t.subscription with
          impl := some (handlers.beginCreate
            { view := item.view, clientHandle := item.clientHandle }).1
          creates := t.subscription.creates.set index
            { item, requested := some handlers.nextClientHandle } } := by
  constructor
  · unfold requestedBy
    simp only [hcreate, himpl, hcreated, if_true]
  · change t.subscription.createStarts index = _
    unfold ClientSubscription.createStarts
    simp only [hcreate, himpl, hcreated, if_true]
    rfl

theorem Knows.createRequested (h : t.Knows) {index : ℕ}
    {item : PendingSubscription} {handlers : MonitoredItemHandlers}
    (hcreate : t.subscription.creates[index]? = some { item })
    (himpl : t.subscription.impl = some handlers)
    (hcreated : handlers.publishing.isCreated = true)
    (hnew : t.NewClientHandle (.createStarts index)) :
    (t.step (.createStarts index)).Knows := by
  obtain ⟨hrequestedBy, hafter⟩ := step_createStarts hcreate himpl hcreated
  have hitems : (t.step (.createStarts index)).items = t.items ++ [_] :=
    congrArg (t.items ++ ·) hrequestedBy
  have hrequested : (t.step (.createStarts index)).requested = t.requested ++ [_] :=
    congrArg (t.requested ++ ·) hrequestedBy
  have hfresh : handlers.nextClientHandle ∉ t.requested.map (·.handle) := by
    have hguard := hnew
    unfold NewClientHandle at hguard
    rw [hrequestedBy] at hguard
    exact hguard _ List.mem_cons_self
  have hflight : (t.step (.createStarts index)).subscription.inFlight.Perm
      (handlers.nextClientHandle :: t.subscription.inFlight) := by
    rw [hafter]
    exact ClientSubscription.inFlight_set hcreate _
  constructor
  case absent =>
    intro hissues
    rw [hafter] at hissues
    exact absurd (hcreated.symm.trans hissues) (by simp)
  case known =>
    rw [hitems, hrequested]
    intro known hknown
    rw [List.map_append]
    rcases List.mem_append.mp hknown with hold | hlast
    · exact List.mem_append_left _ (h.known known hold)
    · rw [List.mem_singleton.mp hlast]
      exact List.mem_append_right _ List.mem_cons_self
  case inFlight =>
    rw [hflight.nodup_iff, List.nodup_cons]
    exact ⟨fun hmem => hfresh (h.asked _ hmem), h.inFlight⟩
  case asked =>
    rw [hrequested]
    intro other hother
    rw [List.map_append]
    rcases List.mem_cons.mp (hflight.subset hother) with rfl | hold
    · exact List.mem_append_right _ List.mem_cons_self
    · exact List.mem_append_left _ (h.asked other hold)
  case handlers =>
    intro k hk
    rw [hafter] at hk
    obtain rfl := Option.some.inj hk
    exact (h.handlers handlers himpl).beginCreate rfl hitems hrequested hflight.subset
      h.known hfresh

theorem Knows.createStarts (h : t.Knows) (hstage : t.subscription.Stage)
    {index : ℕ} (hnew : t.NewClientHandle (.createStarts index)) :
    (t.step (.createStarts index)).Knows := by
  have hidle : (∀ item, t.subscription.creates[index]? ≠ some { item }) →
      (t.step (.createStarts index)).Knows := by
    intro hnone
    have hsame : t.subscription.createStarts index = t.subscription ∧
        t.requestedBy (.createStarts index) = [] := by
      unfold ClientSubscription.createStarts requestedBy
      dsimp only
      cases hcreate : t.subscription.creates[index]? with
      | none => exact ⟨rfl, rfl⟩
      | some create =>
          obtain ⟨item, requested⟩ := create
          cases requested with
          | none => exact absurd hcreate (hnone item)
          | some handle => exact ⟨rfl, rfl⟩
    refine h.quiet (quiet_of_same ?_ hsame.2 ?_)
    · change t.items ++ t.requestedBy (.createStarts index) = t.items
      rw [hsame.2, List.append_nil]
    · change t.subscription.SameHandlers (t.subscription.createStarts index)
      rw [hsame.1]
      exact ⟨rfl, rfl⟩
  by_cases hitem : ∃ item, t.subscription.creates[index]? = some { item }
  · obtain ⟨item, hcreate⟩ := hitem
    obtain ⟨handlers, himpl, hcreated⟩ :=
      ClientSubscription.issuesDeletes_iff.mp (hstage.issues_of_create hcreate)
    exact h.createRequested hcreate himpl hcreated hnew
  · exact hidle fun item hcreate => hitem ⟨item, hcreate⟩

/-! ## A create is answered -/

/-- What is tracked when the request with the handle has been answered. -/
def answered (t : TrackedSubscription) (handle : UInt32) :
    StatusOr MonitoredItemId → List TrackedItem
  | .ok itemId =>
      t.items.map fun item =>
        if item.handle = handle then { item with itemId := some itemId } else item
  | .error _ _ => t.items.filter (·.handle ≠ handle)

theorem known_of_answered {handle : UInt32} {result : StatusOr MonitoredItemId}
    {item : TrackedItem} (hitem : item ∈ t.answered handle result) :
    ∃ before ∈ t.items, before.handle = item.handle ∧ before.view = item.view ∧
      before.clientHandle = item.clientHandle ∧
      (item.handle ≠ handle → item = before) := by
  cases result with
  | ok itemId =>
      obtain ⟨before, hbefore, rfl⟩ := List.mem_map.mp hitem
      refine ⟨before, hbefore, ?_⟩
      split
      · next heq => exact ⟨rfl, rfl, rfl, fun hne => absurd heq hne⟩
      · exact ⟨rfl, rfl, rfl, fun _ => rfl⟩
  | error status hbad =>
      exact ⟨item, (List.mem_filter.mp hitem).1, rfl, rfl, rfl, fun _ => rfl⟩

theorem HandlersKnow.finishCreate {u : TrackedSubscription}
    {h : MonitoredItemHandlers} (hknow : t.HandlersKnow h) {handle : UInt32}
    {result : StatusOr MonitoredItemId}
    (hitems : u.items = t.answered handle result)
    (hrequested : u.requested = t.requested)
    (hasked : handle ∈ t.requested.map (·.handle))
    (hlanded : handle ∉ u.subscription.inFlight)
    (hflight : u.subscription.inFlight ⊆ t.subscription.inFlight)
    (hsent : handle ∈ t.subscription.inFlight) :
    u.HandlersKnow (h.finishCreate handle result) := by
  have hids : ∀ itemId other, h.clientHandleByItemId.lookup itemId = some other →
      other ∉ u.subscription.inFlight ∧ other ∈ u.requested.map (·.handle) ∧
        ∀ item ∈ u.items, item.handle = other → item.itemId = some itemId := by
    intro itemId other hlookup
    obtain ⟨hother, hrequest, hid⟩ := hknow.ids itemId other hlookup
    refine ⟨fun hmem => hother (hflight hmem), hrequested ▸ hrequest, ?_⟩
    intro item hitem hhandle
    rw [hitems] at hitem
    obtain ⟨before, hbefore, hsame, -, -, hold⟩ := known_of_answered hitem
    have hne : item.handle ≠ handle := by
      rintro heq
      exact hother (hhandle ▸ heq.symm ▸ hsent)
    rw [hold hne]
    exact hid before hbefore (hsame.trans hhandle)
  cases result with
  | ok itemId =>
      constructor
      case events => exact hknow.events
      case tracked =>
        intro item hitem
        rw [hitems] at hitem
        obtain ⟨before, hbefore, hhandle, hview, hclient, -⟩ :=
          known_of_answered hitem
        rw [← hhandle, ← hview, ← hclient]
        exact hknow.tracked before hbefore
      case asked => rw [hrequested]; exact hknow.asked
      case ids =>
        intro found other hlookup
        change (KeyedMap.emplace h.clientHandleByItemId itemId handle).lookup
          found = some other at hlookup
        rw [KeyedMap.lookup_emplace] at hlookup
        cases hbefore : h.clientHandleByItemId.lookup found with
        | some known =>
            -- The id was given before: its entry stays.
            have hkept : some known = some other := by
              split at hlookup
              · next heq =>
                rw [← heq, hbefore] at hlookup
                exact hlookup
              · exact hbefore.symm.trans hlookup
            exact hids found other (hbefore.trans hkept)
        | none =>
            split at hlookup
            · next heq =>
              rw [← heq, hbefore] at hlookup
              obtain rfl := Option.some.inj hlookup
              refine ⟨hlanded, hrequested ▸ hasked, ?_⟩
              intro item hitem hhandle
              rw [hitems] at hitem
              obtain ⟨before, -, rfl⟩ := List.mem_map.mp hitem
              by_cases hsame : before.handle = handle
              · rw [if_pos hsame, heq]
              · rw [if_neg hsame] at hhandle
                exact absurd hhandle hsame
            · exact absurd (hbefore.symm.trans hlookup) (by simp)
  | error status hbad =>
      have herased : ∀ other, (h.handlers.erase handle).lookup other =
          if other = handle then none else h.handlers.lookup other :=
        fun other => KeyedMap.lookup_erase_eq _ _ _
      constructor
      case events =>
        change h.eventHandlers.erase handle = h.handlers.erase handle
        rw [hknow.events]
      case tracked =>
        intro item hitem
        rw [hitems] at hitem
        obtain ⟨hold, hne⟩ := List.mem_filter.mp hitem
        refine (herased item.handle).trans ?_
        rw [if_neg (of_decide_eq_true hne)]
        exact hknow.tracked item hold
      case asked =>
        rw [hrequested]
        intro other handler hlookup
        have hfound := (herased other).symm.trans hlookup
        split at hfound
        · exact absurd hfound (by simp)
        · exact hknow.asked other handler hfound
      case ids => exact hids

theorem Knows.createAnswered (h : t.Knows) {index : ℕ}
    {item : PendingSubscription} {handle : UInt32}
    (hcreate : t.subscription.creates[index]? =
      some { item, requested := some handle })
    {event : ClientSubscriptionEvent} {result : StatusOr MonitoredItemId}
    (hitems : (t.step event).items = t.answered handle result)
    (hrequested : (t.step event).requested = t.requested)
    (hflight : (t.step event).subscription.inFlight =
      { t.subscription with
        creates := t.subscription.creates.eraseIdx index }.inFlight)
    (hissues : (t.step event).subscription.issuesDeletes =
      t.subscription.issuesDeletes)
    (himpl : (t.step event).subscription.impl =
      t.subscription.impl.map fun handlers =>
        handlers.finishCreate handle result) : (t.step event).Knows := by
  have hperm := ClientSubscription.inFlight_eraseIdx hcreate
  have hnodup := List.nodup_cons.mp (hperm.nodup_iff.mp h.inFlight)
  have hsubset : (t.step event).subscription.inFlight ⊆
      t.subscription.inFlight := by
    rw [hflight]
    exact fun other hother => hperm.symm.subset (List.mem_cons_of_mem _ hother)
  have hsent : handle ∈ t.subscription.inFlight :=
    hperm.symm.subset List.mem_cons_self
  constructor
  case absent =>
    rw [hissues, hrequested]
    exact h.absent
  case known =>
    rw [hitems, hrequested]
    intro known hknown
    obtain ⟨before, hbefore, hhandle, -⟩ := known_of_answered hknown
    rw [← hhandle]
    exact h.known before hbefore
  case inFlight => rw [hflight]; exact hnodup.2
  case asked =>
    rw [hrequested]
    exact fun other hother => h.asked other (hsubset hother)
  case handlers =>
    intro k hk
    obtain ⟨before, hbefore, rfl⟩ := Option.map_eq_some_iff.mp (himpl.symm.trans hk)
    exact (h.handlers before hbefore).finishCreate hitems hrequested
      (h.asked handle hsent) (hflight ▸ hnodup.1) hsubset hsent

theorem requested_createFinished (t : TrackedSubscription) (index : ℕ)
    (response : StatusOr CreateMonitoredItemsResponse) :
    (t.step (.createFinished index response)).requested = t.requested :=
  List.append_nil _

theorem track_createFinished {index : ℕ} {item : PendingSubscription}
    {handle : UInt32}
    (hcreate : t.subscription.creates[index]? =
      some { item, requested := some handle })
    (response : StatusOr CreateMonitoredItemsResponse) :
    t.track (.createFinished index response) =
      t.answered handle (createdItem response) := by
  unfold track
  simp only [hcreate]
  cases createdItem response <;> rfl

theorem Knows.createFinished (h : t.Knows) (index : ℕ)
    (response : StatusOr CreateMonitoredItemsResponse) :
    (t.step (.createFinished index response)).Knows := by
  have hrequested := t.requested_createFinished index response
  by_cases hsent : ∃ item handle, t.subscription.creates[index]? =
      some { item, requested := some handle }
  case neg =>
    have hsame : t.subscription.createFinished index response =
        t.subscription ∧ t.track (.createFinished index response) = t.items := by
      unfold ClientSubscription.createFinished track
      dsimp only
      cases hcreate : t.subscription.creates[index]? with
      | none => exact ⟨rfl, rfl⟩
      | some create =>
          obtain ⟨item, requested⟩ := create
          cases requested with
          | none => exact ⟨rfl, rfl⟩
          | some handle => exact absurd ⟨item, handle, hcreate⟩ hsent
    refine h.quiet (quiet_of_same hsame.2 rfl ?_)
    change t.subscription.SameHandlers
      (t.subscription.createFinished index response)
    rw [hsame.1]
    exact ⟨rfl, rfl⟩
  case pos =>
    obtain ⟨item, handle, hcreate⟩ := hsent
    have hitems := track_createFinished hcreate response
    have hsame : (t.subscription.createReturns index handle
          (createdItem response)).SameHandlers
        (t.subscription.createFinished index response) := by
      unfold ClientSubscription.createFinished
      simp only [hcreate]
      cases hresult : createdItem response with
      | ok serverId => exact ClientSubscription.sameHandlers_itemCreated _ _ _
      | error status hbad => exact ⟨rfl, rfl⟩
    refine h.createAnswered hcreate hitems hrequested hsame.inFlight ?_
      hsame.impl
    have hkept := ClientSubscription.SameStage.withImpl t.subscription
      (fun handlers => congrArg (·.isCreated)
        (ClientSubscription.isCreated_finishCreate handlers handle
          (createdItem response)))
    refine Eq.trans ?_ hkept.issuesDeletes
    change (t.subscription.createFinished index response).issuesDeletes = _
    unfold ClientSubscription.issuesDeletes
    rw [hsame.impl]
    rfl

/-! ## A deletion is answered -/

theorem HandlersKnow.finishDelete {u : TrackedSubscription}
    {h : MonitoredItemHandlers} (hknow : t.HandlersKnow h)
    (serverId : MonitoredItemId)
    (hitems : u.items = t.items.filter (·.itemId ≠ some serverId))
    (hrequested : u.requested = t.requested)
    (hflight : u.subscription.inFlight = t.subscription.inFlight) :
    u.HandlersKnow (h.finishDelete serverId) := by
  have hkept : ∀ item ∈ u.items, item ∈ t.items ∧ item.itemId ≠ some serverId := by
    intro item hitem
    rw [hitems] at hitem
    obtain ⟨hold, hne⟩ := List.mem_filter.mp hitem
    exact ⟨hold, of_decide_eq_true hne⟩
  have hids : ∀ itemId other, h.clientHandleByItemId.lookup itemId = some other →
      other ∉ u.subscription.inFlight ∧ other ∈ u.requested.map (·.handle) ∧
        ∀ item ∈ u.items, item.handle = other → item.itemId = some itemId := by
    intro itemId other hlookup
    rw [hflight, hrequested]
    obtain ⟨hlanded, hasked, hid⟩ := hknow.ids itemId other hlookup
    exact ⟨hlanded, hasked, fun item hitem => hid item (hkept item hitem).1⟩
  unfold MonitoredItemHandlers.finishDelete
  cases hfound : h.clientHandleByItemId.lookup serverId with
  | none =>
      exact
        { events := hknow.events
          tracked := fun item hitem => hknow.tracked item (hkept item hitem).1
          asked := by rw [hrequested]; exact hknow.asked
          ids := hids }
  | some handle =>
      have herased : ∀ other, (h.handlers.erase handle).lookup other =
          if other = handle then none else h.handlers.lookup other :=
        fun other => KeyedMap.lookup_erase_eq _ _ _
      constructor
      case events =>
        change h.eventHandlers.erase handle = h.handlers.erase handle
        rw [hknow.events]
      case tracked =>
        intro item hitem
        obtain ⟨hold, hid⟩ := hkept item hitem
        -- The handler which goes belongs to an item with this id.
        have hne : item.handle ≠ handle := fun heq =>
          hid ((hknow.ids serverId handle hfound).2.2 item hold heq)
        refine (herased item.handle).trans ?_
        rw [if_neg hne]
        exact hknow.tracked item hold
      case asked =>
        rw [hrequested]
        intro other handler hlookup
        have hbefore := (herased other).symm.trans hlookup
        split at hbefore
        · exact absurd hbefore (by simp)
        · exact hknow.asked other handler hbefore
      case ids =>
        intro itemId other hlookup
        change (h.clientHandleByItemId.erase serverId).lookup itemId =
          some other at hlookup
        rw [KeyedMap.lookup_erase_eq] at hlookup
        split at hlookup
        · exact absurd hlookup (by simp)
        · exact hids itemId other hlookup

theorem Knows.deleteFinished (h : t.Knows) (index : ℕ) (answered : Bool) :
    (t.step (.deleteFinished index answered)).Knows := by
  by_cases hissued : ∃ serverId, answered = true ∧
      t.subscription.deletes[index]? = some { serverId, issued := true }
  case pos =>
    obtain ⟨serverId, rfl, hdelete⟩ := hissued
    have hitems : (t.step (.deleteFinished index true)).items =
        t.items.filter (·.itemId ≠ some serverId) := by
      change t.track (.deleteFinished index true) = _
      unfold track
      simp only [hdelete]
    have hrequested : (t.step (.deleteFinished index true)).requested =
        t.requested := List.append_nil _
    have hafter : (t.step (.deleteFinished index true)).subscription =
        { t.subscription with
          impl := t.subscription.impl.map (·.finishDelete serverId)
          deletes := t.subscription.deletes.eraseIdx index } := by
      change t.subscription.deleteFinished index true = _
      unfold ClientSubscription.deleteFinished
      simp only [hdelete, if_true]
    have hkept := ClientSubscription.SameStage.withImpl t.subscription
      (fun handlers => congrArg (·.isCreated)
        (ClientSubscription.isCreated_finishDelete handlers serverId))
    constructor
    case absent =>
      rw [hrequested, hafter]
      exact fun hissues => h.absent (hkept.issuesDeletes ▸ hissues)
    case known =>
      rw [hitems, hrequested]
      exact fun item hitem => h.known item (List.mem_filter.mp hitem).1
    case inFlight => rw [hafter]; exact h.inFlight
    case asked => rw [hrequested, hafter]; exact h.asked
    case handlers =>
      intro k hk
      rw [hafter] at hk
      obtain ⟨before, hbefore, rfl⟩ := Option.map_eq_some_iff.mp hk
      exact (h.handlers before hbefore).finishDelete serverId hitems hrequested
        (by rw [hafter]; rfl)
  case neg =>
    have hsame : t.track (.deleteFinished index answered) = t.items ∧
        t.subscription.SameHandlers
          (t.subscription.deleteFinished index answered) := by
      unfold track ClientSubscription.deleteFinished
      cases answered with
      | false =>
          refine ⟨List.append_nil _, ?_⟩
          split <;> exact ⟨rfl, rfl⟩
      | true =>
          dsimp only
          cases hdelete : t.subscription.deletes[index]? with
          | none => exact ⟨rfl, rfl, rfl⟩
          | some delete =>
              obtain ⟨serverId, issued⟩ := delete
              cases issued with
              | false => exact ⟨rfl, rfl, rfl⟩
              | true => exact absurd ⟨serverId, rfl, hdelete⟩ hissued
    exact h.quiet (quiet_of_same hsame.1 rfl hsame.2)

/-! ## Runs -/

theorem Knows.step (h : t.Knows) (hstage : t.subscription.Stage)
    {event : ClientSubscriptionEvent} (hnew : t.NewClientHandle event) :
    (t.step event).Knows := by
  let s := t.subscription
  have hquiet : ∀ {event : ClientSubscriptionEvent},
      t.track event = t.items ++ [] → t.requestedBy event = [] →
      s.SameHandlers (s.step event) → (t.step event).Knows :=
    fun hitems hrequested hsame =>
      h.quiet (quiet_of_same (hitems.trans (List.append_nil _)) hrequested hsame)
  cases event with
  | createView => exact hquiet rfl rfl ⟨rfl, rfl⟩
  | addItems view requests => exact h.addItems view requests
  | addNext index => exact hquiet rfl rfl (s.sameHandlers_addNext index)
  | creationFinished status => exact h.creationFinished hstage status
  | flushPendingSubscriptions =>
      exact hquiet rfl rfl s.sameHandlers_flushPendingSubscriptions
  | createStarts index => exact h.createStarts hstage hnew
  | createFinished index response => exact h.createFinished index response
  | removeItems view itemIds => exact hquiet rfl rfl ⟨rfl, rfl⟩
  | removeNext index => exact hquiet rfl rfl (s.sameHandlers_removeNext index)
  | closeView view status =>
      exact hquiet rfl rfl (s.sameHandlers_closeView view status)
  | closeNext index => exact hquiet rfl rfl (s.sameHandlers_closeNext index)
  | deleteStarts index => exact hquiet rfl rfl (s.sameHandlers_deleteStarts index)
  | deleteFinished index answered => exact h.deleteFinished index answered
  | publishResponse response => exact h.publishResponse response
  | readNext view maxCount => exact hquiet rfl rfl (s.sameHandlers_readNext _)
  | readerWakes index => exact hquiet rfl rfl (s.sameHandlers_readerWakes index)

theorem knows_initial : ({} : TrackedSubscription).Knows where
  absent := fun _ => rfl
  known := fun _ hitem => absurd hitem List.not_mem_nil
  inFlight := List.nodup_nil
  asked := fun _ hhandle => absurd hhandle List.not_mem_nil
  handlers := fun _ himpl => absurd himpl (by simp)

/-- Every item which is there owns its handle, and what owns a handle has
requested it. -/
structure Owners (t : TrackedSubscription)
    (owner : UInt32 → Option (ViewId × UInt32)) : Prop where
  tracked : ∀ item ∈ t.items,
    owner item.handle = some (item.view, item.clientHandle)
  requested : ∀ handle view clientHandle,
    owner handle = some (view, clientHandle) →
      ∃ item ∈ t.requested, item.handle = handle ∧ item.view = view ∧
        item.clientHandle = clientHandle

theorem Knows.owners (h : t.Knows) : t.Owners t.subscription.owner := by
  constructor
  case tracked =>
    intro item hitem
    cases himpl : t.subscription.impl with
    | none =>
        have hissues : t.subscription.issuesDeletes = false := by
          unfold ClientSubscription.issuesDeletes
          rw [himpl]
        rw [h.items_nil (h.absent hissues)] at hitem
        exact absurd hitem List.not_mem_nil
    | some handlers =>
        unfold ClientSubscription.owner
        simp only [himpl, (h.handlers handlers himpl).tracked item hitem,
          Option.map_some]
  case requested =>
    intro handle view clientHandle howner
    unfold ClientSubscription.owner at howner
    cases himpl : t.subscription.impl with
    | none => simp [himpl] at howner
    | some handlers =>
        simp only [himpl] at howner
        obtain ⟨handler, hlookup, hpair⟩ := Option.map_eq_some_iff.mp howner
        obtain ⟨rfl, rfl⟩ := Prod.mk.inj hpair
        exact (h.handlers handlers himpl).asked handle handler hlookup

theorem requestedBy_asked {events : List ClientSubscriptionEvent}
    (h : t.subscription.Originates events) (event : ClientSubscriptionEvent) :
    ∀ item ∈ t.requestedBy event, AskedFor events item.view item.clientHandle := by
  unfold requestedBy
  split
  · split
    · next asked handlers hcreate _ =>
      split
      · intro item hitem
        rw [List.mem_singleton.mp hitem]
        refine h.waits asked (List.mem_append_right _ ?_)
        exact List.mem_map.mpr ⟨_, List.mem_of_getElem? hcreate, rfl⟩
      · simp
    · simp
  · simp

theorem requested_asked (events : List ClientSubscriptionEvent) :
    ∀ item ∈ (runFrom step ({} : TrackedSubscription) events).requested,
      AskedFor events item.view item.clientHandle := by
  have hstep : ∀ (t : TrackedSubscription) (event : ClientSubscriptionEvent),
      (t.subscription.Originates events ∧
        ∀ item ∈ t.requested, AskedFor events item.view item.clientHandle) →
        event ∈ events → (t.step event).subscription.Originates events ∧
          ∀ item ∈ (t.step event).requested,
            AskedFor events item.view item.clientHandle := by
    intro t event ⟨horigin, hasked⟩ hevent
    refine ⟨horigin.step hevent, fun item hitem => ?_⟩
    exact (List.mem_append.mp hitem).elim (hasked item)
      (requestedBy_asked horigin event item)
  have hinitial : ({} : ClientSubscription).Originates events :=
    ⟨fun _ hcall => absurd hcall List.not_mem_nil,
      fun _ hitem => absurd hitem List.not_mem_nil⟩
  exact (runFrom_invariant hstep
    ⟨hinitial, fun _ hitem => absurd hitem List.not_mem_nil⟩
    (AllMeet.of_forall (fun _ hevent => hevent) _)).2

/-- The notifications of the response which are for an open view go to the end
of its queue, each once and in order, and no others do. -/
def Delivers (t : TrackedSubscription)
    (owner : UInt32 → Option (ViewId × UInt32)) (response : PublishResponse) :
    Prop :=
  t.subscription.Pushes (.publishResponse response)
    (response.notificationMessage.notificationData.flatMap (routed owner))

/-- In every state of every run in which the client handles do not wrap around,
the notifications of a response which is not bad reach the views of their items,
which have passed the handles to `AddItems`, other events push refusals at most,
and `ReadNext` keeps the order. -/
theorem notifications_routed (events : List ClientSubscriptionEvent)
    (hnew : AllMeet step NewClientHandle {} events) :
    let t := runFrom step ({} : TrackedSubscription) events
    (∀ item ∈ t.requested, AskedFor events item.view item.clientHandle) ∧
    (∃ owner, t.Owners owner ∧
      (∀ response, response.status.isBad = false → t.Delivers owner response) ∧
      ∀ event, t.subscription.Pushes event
        (t.subscription.pushedBy owner event)) ∧
      t.subscription.QueuesInOrder := by
  intro t
  have hstep : ∀ (t : TrackedSubscription) (event : ClientSubscriptionEvent),
      (t.Knows ∧ t.subscription.Stage ∧ t.subscription.QueuesInOrder) →
        t.NewClientHandle event →
          (t.step event).Knows ∧ (t.step event).subscription.Stage ∧
            (t.step event).subscription.QueuesInOrder := by
    intro t event ⟨hknows, hstage, hqueues⟩ hguard
    exact ⟨hknows.step hstage hguard, hstage.step event,
      hqueues.step hstage event⟩
  have hqueues : ({} : ClientSubscription).QueuesInOrder :=
    fun _ _ hstate => absurd hstate (by simp)
  obtain ⟨hknows, hstage, hqueues⟩ := runFrom_invariant hstep
    ⟨knows_initial, ClientSubscription.stage_initial, hqueues⟩ hnew
  have hpushes := ClientSubscription.pushes_step hstage
    (fun handlers himpl => (hknows.handlers handlers himpl).events)
  refine ⟨requested_asked events,
    ⟨t.subscription.owner, hknows.owners, ?_, hpushes⟩, hqueues⟩
  intro response hstatus
  have hresponse := hpushes (.publishResponse response)
  unfold ClientSubscription.pushedBy at hresponse
  dsimp only at hresponse
  rw [hstatus, if_neg (by simp)] at hresponse
  exact hresponse

/-- Two views add an item each; the first value of the second item arrives
before its create has been answered. -/
def valueBeforeCreate : List ClientSubscriptionEvent :=
  [.createView, .createView, .addItems 0 [ClientSubscription.sampleRequest],
    .addItems 1 [ClientSubscription.sampleRequest], .addNext 0, .addNext 1,
    .creationFinished .good, .flushPendingSubscriptions, .createStarts 0,
    .createStarts 1, .createFinished 0 (ClientSubscription.createdWithId 7)]

def valueOfHandle (handle : UInt32) (status : Status) : PublishResponse :=
  { status
    notificationMessage := { notificationData :=
      [.dataChange [{ clientHandle := handle, value := .ofStatus .good {} }]] } }

theorem value_before_create_routed :
    ∃ owner, (runFrom step ({} : TrackedSubscription) valueBeforeCreate).Owners
        owner ∧
      (runFrom step ({} : TrackedSubscription) valueBeforeCreate).Delivers owner
        (valueOfHandle 2 .good) ∧
      owner 2 = some (1, 0) := by
  have hnew : AllMeet step NewClientHandle ({} : TrackedSubscription)
      valueBeforeCreate := by
    decide
  obtain ⟨-, ⟨owner, howners, hdelivers, -⟩, -⟩ :=
    notifications_routed valueBeforeCreate hnew
  refine ⟨owner, howners, hdelivers (valueOfHandle 2 .good) (by decide), ?_⟩
  exact howners.tracked
    { handle := 2, view := 1, clientHandle := 0 } (List.mem_of_getElem? (i := 1) rfl)

/-- A response with a bad status is not dispatched, whatever it holds. -/
theorem notifications_of_bad_response_dropped :
    ¬∃ owner, (runFrom step ({} : TrackedSubscription) valueBeforeCreate).Owners
        owner ∧
      ∀ response,
        (runFrom step ({} : TrackedSubscription) valueBeforeCreate).Delivers owner
          response := by
  rintro ⟨owner, howners, hdelivers⟩
  have howner := howners.tracked { handle := 2, view := 1, clientHandle := 0 }
    (List.mem_of_getElem? (i := 1) rfl)
  have hpushed := hdelivers (valueOfHandle 2 (.ofCode .bad)) 1
  have hrouted : (valueOfHandle 2
      (.ofCode .bad)).notificationMessage.notificationData.flatMap (routed owner) =
        [(1, .dataChange { clientHandle := 0, value := .ofStatus .good {} })] := by
    simp [valueOfHandle, routed, howner]
  rw [hrouted] at hpushed
  have hnothing : ((runFrom step ({} : TrackedSubscription)
      valueBeforeCreate).subscription.step
        (.publishResponse (valueOfHandle 2 (.ofCode .bad)))).pushedTo 1 = [] := rfl
  have hopen : (runFrom step ({} : TrackedSubscription)
      valueBeforeCreate).subscription.isOpen 1 = true := by
    decide
  rw [hnothing, hopen] at hpushed
  simp [forView] at hpushed

end TrackedSubscription
end OpcuaStack
