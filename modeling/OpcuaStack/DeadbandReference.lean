import OpcuaStack.ItemQueues

/-!
# What a deadband compares with

An absolute deadband passes a value which differs from the last one by the
deadband or more.  The last one is remembered when it is queued, and a full
queue which discards its newest entry gives it up at once.  The client then
never hears of the value the next ones are compared with.
-/

namespace OpcuaStack

/-- A subscription watched on behalf of one item: what it has published so far,
and the value which came in last for the item. -/
structure ItemFeed where
  subscription : ServerSubscription
  sent : List QueuedNotification := []
  lastIncoming : Option DataValue := none

/-- One notification of the backing subscription, or one publish. -/
inductive FeedEvent where
  | notification (notification : ItemNotification)
  | publish (now : DateTime)

namespace ServerSubscription

/-- The item `OnNotifications` finds for a notification. -/
def addressee (s : ServerSubscription) (notification : ItemNotification) :
    Option Item :=
  (s.items.entries.map Sigma.snd).find? fun item =>
    item.backingClientHandle == notification.clientHandle

/-- The value which a notification brings for an item. -/
def incoming (s : ServerSubscription) (id : MonitoredItemId) :
    ItemNotification → Option DataValue
  | .dataChange dataChange =>
      if (s.addressee (.dataChange dataChange)).any fun item =>
          item.monitoredItemId == id then some dataChange.value
      else none
  | .event _ => none

/-- The queued entries which a publish takes. -/
def published (s : ServerSubscription) (now : DateTime) :
    List QueuedNotification :=
  s.pendingNotifications.take
    (((s.tryPublish now).2.map fun response =>
      response.notificationMessage.notificationData.length).getD 0)

end ServerSubscription

def ItemFeed.step (id : MonitoredItemId) (feed : ItemFeed) :
    FeedEvent → ItemFeed
  | .notification notification =>
      { feed with
        subscription := feed.subscription.onNotification notification
        lastIncoming :=
          (feed.subscription.incoming id notification).or feed.lastIncoming }
  | .publish now =>
      { feed with
        subscription := (feed.subscription.tryPublish now).1
        sent := feed.sent ++ feed.subscription.published now }

namespace ServerSubscription

/-! ## Publishing -/

theorem published_append (s : ServerSubscription) (now : DateTime) :
    s.published now ++ (s.tryPublish now).1.pendingNotifications =
        s.pendingNotifications ∧
      (s.published now).map (·.notification) =
        ((s.tryPublish now).2.map fun response =>
          response.notificationMessage.notificationData).getD [] := by
  have hprime : (s.primePublishCycle now).pendingNotifications =
      s.pendingNotifications := by
    unfold primePublishCycle
    split <;> rfl
  have hpublishes := s.tryPublish_publishes now
  unfold published
  generalize s.tryPublish now = result at hpublishes ⊢
  cases hpublishes with
  | waits _ => simp [hprime]
  | keepAlive _ _ =>
      change _ ++ (s.primePublishCycle now).pendingNotifications = _ ∧ _
      simp [publishKeepAlive, hprime]
  | data _ _ =>
      have htaken : ((s.primePublishCycle now).pendingNotifications.take
          (s.primePublishCycle now).maxEntries).length =
            (s.primePublishCycle now).maxEntries := by
        rw [List.length_take, min_eq_left]
        exact (min_le_right _ _).trans (min_le_right _ _)
      rw [hprime] at htaken
      change s.pendingNotifications.take _ ++
        (s.primePublishCycle now).pendingNotifications.drop _ = _ ∧ _
      simp only [publishPending, Option.map_some, Option.getD_some,
        List.length_map, hprime, htaken]
      exact ⟨List.take_append_drop _ _, trivial⟩

theorem tryPublish_items (s : ServerSubscription) (now : DateTime) :
    (s.tryPublish now).1.items = s.items := by
  refine tryPublish_keeps (fun _ _ => rfl) (fun _ _ => rfl) ?_
  rw [s.primePublishCycle_eq now]

end ServerSubscription

/-! ## Values of one item -/

/-- The item with a value remembered as its last one. -/
def Item.reported (item : Item) (dataValue : DataValue) : Item :=
  { item with lastReportedValue := some dataValue }

namespace ServerSubscription

theorem onNotification_of_addressee_none {s : ServerSubscription}
    {notification : ItemNotification} (hnone : s.addressee notification = none) :
    s.onNotification notification = s := by
  unfold addressee at hnone
  unfold onNotification
  rw [hnone]

theorem onNotification_dataChange {s : ServerSubscription} {item : Item}
    {dataChange : MonitoredItemNotification}
    (hfound : s.addressee (.dataChange dataChange) = some item) :
    s.onNotification (.dataChange dataChange) =
      s.queueDataChange item dataChange.value := by
  unfold addressee at hfound
  unfold onNotification
  rw [hfound]

theorem onNotification_event {s : ServerSubscription} {item : Item}
    {event : EventFieldList} (hfound : s.addressee (.event event) = some item) :
    s.onNotification (.event event) =
      s.queueEventFields item event.eventFields := by
  unfold addressee at hfound
  unfold onNotification
  rw [hfound]

theorem writeItem_of_ne {s : ServerSubscription} (item : Item)
    {id : MonitoredItemId} (hne : id ≠ item.monitoredItemId) :
    (s.writeItem item).items.lookup id = s.items.lookup id ∧
      (s.writeItem item).entriesOf id = s.entriesOf id := by
  unfold writeItem
  split
  · split
    · refine ⟨?_, rfl⟩
      simp only [KeyedMap.lookup_insert_eq]
      exact if_neg hne
    · exact ⟨rfl, rfl⟩
  · exact ⟨rfl, rfl⟩

theorem queueDataChange_of_ne {s : ServerSubscription} {item : Item}
    {id : MonitoredItemId} (hne : id ≠ item.monitoredItemId)
    (dataValue : DataValue) :
    (s.queueDataChange item dataValue).items.lookup id = s.items.lookup id ∧
      (s.queueDataChange item dataValue).entriesOf id = s.entriesOf id := by
  unfold queueDataChange
  split
  · exact ⟨rfl, rfl⟩
  · split
    · exact ⟨rfl, rfl⟩
    · change ((s.writeItem (item.reported dataValue)).queueNotification
          (item.reported dataValue) _).items.lookup id = _ ∧
        ((s.writeItem (item.reported dataValue)).queueNotification
          (item.reported dataValue) _).entriesOf id = _
      rw [queueNotification_items,
        queueNotification_entriesOf_of_ne _ (item.reported dataValue) hne]
      exact writeItem_of_ne (item.reported dataValue) hne

theorem queueEventFields_of_ne {s : ServerSubscription} {item : Item}
    {id : MonitoredItemId} (hne : id ≠ item.monitoredItemId)
    (eventFields : List Variant) :
    (s.queueEventFields item eventFields).items.lookup id = s.items.lookup id ∧
      (s.queueEventFields item eventFields).entriesOf id = s.entriesOf id := by
  unfold queueEventFields
  split
  · exact ⟨rfl, rfl⟩
  · rw [queueNotification_items, queueNotification_entriesOf_of_ne _ _ hne]
    exact ⟨rfl, rfl⟩

theorem queueDataChange_of_passes {s : ServerSubscription} {item : Item}
    (hlookup : s.items.lookup item.monitoredItemId = some item)
    (hreporting : item.monitoringMode = .reporting) {dataValue : DataValue}
    (hpasses : passesDeadband item dataValue = true) :
    (s.queueDataChange item dataValue).items.lookup item.monitoredItemId =
        some (item.reported dataValue) ∧
      (s.queueDataChange item dataValue).entriesOf item.monitoredItemId =
        trim item.parameters.discardOldest item.parameters.queueLimit
          (s.entriesOf item.monitoredItemId ++
            [⟨item.monitoredItemId,
              .dataChange [⟨item.parameters.clientHandle, dataValue⟩]⟩]) := by
  have hwrite : s.writeItem (item.reported dataValue) =
      { s with items :=
          s.items.insert item.monitoredItemId (item.reported dataValue) } :=
    @writeItem_of_lookup s (item.reported dataValue) item hlookup rfl
  have hqueue : s.queueDataChange item dataValue =
      (s.writeItem (item.reported dataValue)).queueNotification
        (item.reported dataValue)
        (.dataChange [⟨item.parameters.clientHandle, dataValue⟩]) := by
    unfold queueDataChange
    rw [if_neg (not_not.mpr hreporting), hpasses]
    rfl
  rw [hqueue, hwrite]
  refine ⟨?_, queueNotification_entriesOf _ (item.reported dataValue) _⟩
  rw [queueNotification_items]
  exact AList.lookup_insert _

end ServerSubscription

/-! ## The item watched -/

/-- The value an entry reports. -/
def QueuedNotification.value (queued : QueuedNotification) : Option DataValue :=
  match queued.notification with
  | .dataChange [reported] => some reported.value
  | _ => none

/-- The value of the last entry in a list. -/
def lastReported (entries : List QueuedNotification) : Option DataValue :=
  entries.getLast?.bind QueuedNotification.value

/-- Both values are numeric and lie less than the deadband apart. -/
def CloserThan (deadband : Double) (value other : DataValue) : Prop :=
  ∃ x y, value.value.getDouble = some x ∧ other.value.getDouble = some y ∧
    |x - y| < deadband

namespace ItemFeed

/-- What the client has been sent for the item once everything pending is
published. -/
def entriesOf (feed : ItemFeed) (id : MonitoredItemId) :
    List QueuedNotification :=
  (feed.sent ++ feed.subscription.pendingNotifications).filter fun queued =>
    queued.sourceItemId == id

/-- The deadband compares with the last value the client gets, and that value is
close to the one which came in last. -/
structure InStep (id : MonitoredItemId) (deadband : Double) (feed : ItemFeed) :
    Prop where
  reference : ∀ item, feed.subscription.items.lookup id = some item →
    item.lastReportedValue = lastReported (feed.entriesOf id)
  fresh : ∀ incoming, feed.lastIncoming = some incoming →
    ∃ last, lastReported (feed.entriesOf id) = some last ∧
      CloserThan deadband incoming last

/-- What comes in for the item is a number of the given status. -/
def BringsNumbers (id : MonitoredItemId) (status : StatusCode)
    (feed : ItemFeed) : FeedEvent → Prop
  | .notification notification =>
      (∀ item, feed.subscription.addressee notification = some item →
          item.monitoredItemId = id →
            (feed.subscription.incoming id notification).isSome) ∧
        ∀ value, feed.subscription.incoming id notification = some value →
          value.statusCode = status ∧ value.value.getDouble.isSome
  | .publish _ => True

/-- A value which passes the deadband finds room in the item's queue, or the
queue makes room at its oldest end. -/
def KeepsNewest (id : MonitoredItemId) (feed : ItemFeed) : FeedEvent → Prop
  | .notification notification =>
      ∀ value, feed.subscription.incoming id notification = some value →
        ∀ item, feed.subscription.items.lookup id = some item →
          ServerSubscription.passesDeadband item value = true →
            item.parameters.discardOldest = true ∨
              (feed.subscription.entriesOf id).length <
                item.parameters.queueLimit
  | .publish _ => True

end ItemFeed

/-- The item reports under an absolute deadband. -/
structure Item.HasDeadband (item : Item) (deadband : Double) : Prop where
  reporting : item.monitoringMode = .reporting
  positive : 0 < deadband
  filter : ∃ filter, item.parameters.filter = some (.dataChange filter) ∧
    filter.deadbandType = .absolute ∧ filter.deadbandValue = deadband

namespace ServerSubscription

variable {item : Item} {deadband : Double} {value : DataValue}

theorem passesDeadband_first (h : item.HasDeadband deadband)
    (hfirst : item.lastReportedValue = none) :
    passesDeadband item value = true := by
  obtain ⟨filter, hfilter, -, -⟩ := h.filter
  unfold passesDeadband
  rw [hfilter]
  simp only [hfirst]
  split <;> rfl

theorem passesDeadband_eq (h : item.HasDeadband deadband) {last : DataValue}
    (hlast : item.lastReportedValue = some last)
    (hstatus : last.statusCode = value.statusCode) {previous current : Double}
    (hprevious : last.value.getDouble = some previous)
    (hcurrent : value.value.getDouble = some current) :
    passesDeadband item value = decide (deadband ≤ |current - previous|) := by
  obtain ⟨filter, hfilter, htype, hvalue⟩ := h.filter
  have happlies : ¬(¬filter.deadbandType = .absolute ∨ deadband ≤ 0) := by
    simpa [htype] using h.positive
  unfold passesDeadband
  rw [hfilter]
  simp only [hvalue, ne_eq, if_neg happlies, hlast, hstatus, not_true_eq_false,
    if_false, hprevious, hcurrent]

end ServerSubscription

namespace ItemFeed

open ServerSubscription

variable {id : MonitoredItemId} {deadband : Double} {status : StatusCode}
  {feed : ItemFeed}

theorem entriesOf_eq (feed : ItemFeed) (id : MonitoredItemId) :
    feed.entriesOf id =
      (feed.sent.filter fun queued => queued.sourceItemId == id) ++
        feed.subscription.entriesOf id :=
  List.filter_append ..

/-- What a run under the deadband keeps while the newest values are kept. -/
structure Tracks (id : MonitoredItemId) (deadband : Double)
    (status : StatusCode) (feed : ItemFeed) : Prop where
  sound : feed.subscription.ItemsSound
  held : ∃ item, feed.subscription.items.lookup id = some item ∧
    item.HasDeadband deadband
  inStep : feed.InStep id deadband
  numbers : ∀ value, lastReported (feed.entriesOf id) = some value →
    value.statusCode = status ∧ value.value.getDouble.isSome

theorem Tracks.of_same {after : ItemFeed} (h : feed.Tracks id deadband status)
    (hsound : after.subscription.ItemsSound)
    (hlookup : after.subscription.items.lookup id =
      feed.subscription.items.lookup id)
    (hlast : lastReported (after.entriesOf id) = lastReported (feed.entriesOf id))
    (hincoming : after.lastIncoming = feed.lastIncoming) :
    after.Tracks id deadband status := by
  refine ⟨hsound, hlookup ▸ h.held, ⟨fun item hitem => ?_, fun value hvalue => ?_⟩,
    fun value hvalue => h.numbers value (hlast ▸ hvalue)⟩
  · rw [hlast]
    exact h.inStep.reference item (hlookup ▸ hitem)
  · rw [hlast]
    exact h.inStep.fresh value (hincoming ▸ hvalue)

/-- A value close to what the deadband compares with is not queued. -/
theorem closerThan_of_not_passes {item : Item} {value : DataValue}
    (h : feed.Tracks id deadband status)
    (hlookup : feed.subscription.items.lookup id = some item)
    (hdeadband : item.HasDeadband deadband)
    (hstatus : value.statusCode = status)
    (hnumber : value.value.getDouble.isSome) :
    passesDeadband item value = false ↔
      ∃ last, lastReported (feed.entriesOf id) = some last ∧
        CloserThan deadband value last := by
  have hreference := h.inStep.reference item hlookup
  obtain ⟨current, hcurrent⟩ := Option.isSome_iff_exists.mp hnumber
  cases hlast : lastReported (feed.entriesOf id) with
  | none =>
      rw [passesDeadband_first hdeadband (hreference.trans hlast)]
      simp
  | some last =>
      obtain ⟨hsame, hprevious⟩ := h.numbers last hlast
      obtain ⟨previous, hprevious⟩ := Option.isSome_iff_exists.mp hprevious
      rw [passesDeadband_eq hdeadband (hreference.trans hlast)
        (hsame.trans hstatus.symm) hprevious hcurrent]
      simp [CloserThan, hprevious, hcurrent]

theorem Tracks.addressee {notification : ItemNotification}
    (h : feed.Tracks id deadband status) {value : DataValue}
    (hincoming : feed.subscription.incoming id notification = some value) :
    ∃ item, feed.subscription.items.lookup id = some item ∧
      item.monitoredItemId = id ∧ item.HasDeadband deadband ∧
        feed.subscription.onNotification notification =
          feed.subscription.queueDataChange item value := by
  cases notification with
  | event event => exact absurd hincoming nofun
  | dataChange dataChange =>
      simp only [incoming] at hincoming
      split at hincoming
      next hany =>
        obtain ⟨item, hfound, hid⟩ := (Option.any_eq_true _ _).mp hany
        have hid' : item.monitoredItemId = id := by simpa using hid
        have hlookup := h.sound.lookup_of_find hfound
        rw [hid'] at hlookup
        obtain ⟨held, hheld, hdeadband⟩ := h.held
        rw [hlookup, Option.some.injEq] at hheld
        subst hheld
        rw [Option.some.injEq] at hincoming
        subst hincoming
        exact ⟨item, hlookup, hid', hdeadband, onNotification_dataChange hfound⟩
      next => exact absurd hincoming nofun

theorem entriesOf_of_passes {notification : ItemNotification} {item : Item}
    {value : DataValue}
    (hlookup : feed.subscription.items.lookup id = some item)
    (hid : item.monitoredItemId = id)
    (hreporting : item.monitoringMode = .reporting)
    (hnotified : feed.subscription.onNotification notification =
      feed.subscription.queueDataChange item value)
    (hpasses : passesDeadband item value = true) :
    (feed.step id (.notification notification)).subscription.items.lookup id =
        some (item.reported value) ∧
      (feed.step id (.notification notification)).entriesOf id =
        (feed.sent.filter fun queued => queued.sourceItemId == id) ++
          trim item.parameters.discardOldest item.parameters.queueLimit
            (feed.subscription.entriesOf id ++
              [⟨id, .dataChange [⟨item.parameters.clientHandle, value⟩]⟩]) := by
  subst hid
  obtain ⟨hitem, hentries⟩ :=
    queueDataChange_of_passes hlookup hreporting hpasses
  rw [entriesOf_eq]
  change (feed.subscription.onNotification notification).items.lookup _ = _ ∧
    _ ++ (feed.subscription.onNotification notification).entriesOf
      item.monitoredItemId = _
  rw [hnotified, hentries]
  exact ⟨hitem, rfl⟩

theorem incoming_none {notification : ItemNotification}
    (hnumbers : feed.BringsNumbers id status (.notification notification))
    (hnone : feed.subscription.incoming id notification = none) :
    (feed.subscription.onNotification notification).items.lookup id =
        feed.subscription.items.lookup id ∧
      (feed.subscription.onNotification notification).entriesOf id =
        feed.subscription.entriesOf id := by
  cases hfound : feed.subscription.addressee notification with
  | none =>
      rw [onNotification_of_addressee_none hfound]
      exact ⟨rfl, rfl⟩
  | some item =>
      have hne : id ≠ item.monitoredItemId := by
        intro heq
        have hsome := hnumbers.1 item hfound heq.symm
        rw [hnone] at hsome
        exact absurd hsome Bool.false_ne_true
      cases notification with
      | dataChange dataChange =>
          rw [onNotification_dataChange hfound]
          exact queueDataChange_of_ne hne _
      | event event =>
          rw [onNotification_event hfound]
          exact queueEventFields_of_ne hne _

theorem notification_tracks {notification : ItemNotification}
    (h : feed.Tracks id deadband status)
    (hnumbers : feed.BringsNumbers id status (.notification notification))
    (hkeeps : feed.KeepsNewest id (.notification notification)) :
    (feed.step id (.notification notification)).Tracks id deadband status := by
  have hsound : (feed.step id
      (.notification notification)).subscription.ItemsSound :=
    (onNotification_within h.sound notification).sound h.sound
  cases hincoming : feed.subscription.incoming id notification with
  | none =>
      obtain ⟨hlookup, hentries⟩ := incoming_none hnumbers hincoming
      refine h.of_same hsound hlookup ?_ (by simp [step, hincoming])
      rw [entriesOf_eq, entriesOf_eq]
      exact congrArg (fun entries => lastReported (_ ++ entries)) hentries
  | some value =>
      obtain ⟨item, hlookup, hid, hdeadband, hnotified⟩ := h.addressee hincoming
      obtain ⟨hstatus, hnumber⟩ := hnumbers.2 value hincoming
      have hlast : (feed.step id (.notification notification)).lastIncoming =
          some value := by
        simp [step, hincoming]
      cases hpasses : passesDeadband item value with
      | false =>
          have hclose := (closerThan_of_not_passes h hlookup hdeadband hstatus
            hnumber).mp hpasses
          have hsame : (feed.step id (.notification notification)).subscription =
              feed.subscription := by
            change feed.subscription.onNotification notification = _
            rw [hnotified]
            unfold queueDataChange
            rw [hpasses, if_neg (not_not.mpr hdeadband.reporting)]
            rfl
          have hentries : (feed.step id (.notification notification)).entriesOf id =
              feed.entriesOf id := by
            rw [entriesOf_eq, entriesOf_eq, hsame]
            rfl
          refine ⟨hsound, hsame ▸ h.held, ⟨fun found hfound => ?_,
            fun incoming hcame => ?_⟩, fun found hfound => ?_⟩
          · rw [hentries]
            exact h.inStep.reference found (hsame ▸ hfound)
          · rw [hlast, Option.some.injEq] at hcame
            rw [hentries, ← hcame]
            exact hclose
          · exact h.numbers found (hentries ▸ hfound)
      | true =>
          obtain ⟨hitem, hentries⟩ := entriesOf_of_passes hlookup hid
            hdeadband.reporting hnotified hpasses
          have hvalue : lastReported
              ((feed.step id (.notification notification)).entriesOf id) =
                some value := by
            rw [hentries]
            unfold lastReported
            rw [List.getLast?_append, getLast?_trim_push
              item.parameters.queueLimit_pos
              (hkeeps value hincoming item hlookup hpasses)]
            rfl
          obtain ⟨number, hnumber'⟩ := Option.isSome_iff_exists.mp hnumber
          refine ⟨hsound, ⟨_, hitem, ?_⟩, ⟨fun found hfound => ?_,
            fun incoming hcame => ⟨value, hvalue, ?_⟩⟩, fun found hfound => ?_⟩
          · exact ⟨hdeadband.reporting, hdeadband.positive, hdeadband.filter⟩
          · rw [hitem, Option.some.injEq] at hfound
            rw [← hfound, hvalue]
            rfl
          · rw [hlast, Option.some.injEq] at hcame
            subst hcame
            refine ⟨number, number, hnumber', hnumber', ?_⟩
            rw [sub_self, abs_zero]
            exact hdeadband.positive
          · rw [hvalue, Option.some.injEq] at hfound
            subst hfound
            exact ⟨hstatus, hnumber⟩

theorem step_tracks {event : FeedEvent} (h : feed.Tracks id deadband status)
    (hnumbers : feed.BringsNumbers id status event)
    (hkeeps : feed.KeepsNewest id event) :
    (feed.step id event).Tracks id deadband status := by
  cases event with
  | publish now =>
      obtain ⟨happend, -⟩ := feed.subscription.published_append now
      refine h.of_same ((feed.subscription.tryPublish_within now).sound h.sound)
        (congrArg (AList.lookup id) (feed.subscription.tryPublish_items now))
        ?_ rfl
      unfold ItemFeed.entriesOf
      congr 2
      change (feed.sent ++ feed.subscription.published now) ++
        (feed.subscription.tryPublish now).1.pendingNotifications =
          feed.sent ++ feed.subscription.pendingNotifications
      rw [List.append_assoc, happend]
  | notification notification => exact notification_tracks h hnumbers hkeeps

/-- A value which is given up at once is one the client will not get, though it
came in last. -/
theorem not_inStep_of_gives_up {event : FeedEvent}
    (h : feed.Tracks id deadband status)
    (hnumbers : feed.BringsNumbers id status event)
    (hgives : ¬feed.KeepsNewest id event) :
    ¬(feed.step id event).InStep id deadband := by
  intro hinStep
  apply hgives
  cases event with
  | publish now => trivial
  | notification notification =>
      intro value hincoming found hfound hpasses
      by_contra hfull
      obtain ⟨item, hlookup, hid, hdeadband, hnotified⟩ := h.addressee hincoming
      rw [hlookup, Option.some.injEq] at hfound
      subst hfound
      have hnewest : item.parameters.discardOldest = false := by
        simpa using mt Or.inl hfull
      have hlimit : item.parameters.queueLimit ≤
          (feed.subscription.entriesOf id).length := not_lt.mp (mt Or.inr hfull)
      obtain ⟨hstatus, hnumber⟩ := hnumbers.2 value hincoming
      obtain ⟨-, hentries⟩ := entriesOf_of_passes hlookup hid
        hdeadband.reporting hnotified hpasses
      rw [hnewest, trim_push_newest hlimit, ← entriesOf_eq] at hentries
      have hlast : (feed.step id (.notification notification)).lastIncoming =
          some value := by
        simp [step, hincoming]
      have hclose := hinStep.fresh value hlast
      rw [hentries, ← closerThan_of_not_passes h hlookup hdeadband hstatus
        hnumber, hpasses] at hclose
      exact absurd hclose nofun

/-- An item which reports numbers under an absolute deadband stays in step with
what comes in for it exactly if no value which passes is given up for want of
room. -/
theorem in_step_iff_keeps_newest (subscriptionId : SubscriptionId)
    (parameters : SubscriptionParameters) (publishCycleStartTime : DateTime)
    (traceParent : ByteText) (before : List SubscriptionEvent)
    (id : MonitoredItemId) (item : Item) (deadband : Double)
    (status : StatusCode) (feed : ItemFeed)
    (hfeed : feed = { subscription := (runFrom SubscriptionRun.step
      (SubscriptionRun.start subscriptionId parameters publishCycleStartTime
        traceParent) before).subscription })
    (hlookup : feed.subscription.items.lookup id = some item)
    (hdeadband : item.HasDeadband deadband)
    (hunreported : item.lastReportedValue = none)
    (hunqueued : feed.subscription.entriesOf id = [])
    (events : List FeedEvent)
    (hnumbers : AllMeet (step id) (BringsNumbers id status) feed events) :
    (∀ before after, events = before ++ after →
        (runFrom (step id) feed before).InStep id deadband) ↔
      AllMeet (step id) (KeepsNewest id) feed events := by
  have hnothing : feed.entriesOf id = [] := by
    rw [entriesOf_eq, hunqueued, hfeed]
    rfl
  have htracks : feed.Tracks id deadband status := by
    refine ⟨?_, ⟨item, hlookup, hdeadband⟩, ⟨fun found hfound => ?_,
      fun incoming hincoming => ?_⟩, fun value hvalue => ?_⟩
    · rw [hfeed]
      exact SubscriptionRun.items_sound ..
    · rw [hlookup, Option.some.injEq] at hfound
      rw [← hfound, hunreported, hnothing]
      rfl
    · rw [hfeed] at hincoming
      exact absurd hincoming nofun
    · rw [hnothing] at hvalue
      exact absurd hvalue nofun
  exact forall_visited_iff_allMeet (P := Tracks id deadband status)
    (fun _ h => h.inStep) (fun _ _ h hnumbers hkeeps => step_tracks h hnumbers hkeeps)
    (fun _ _ h hnumbers hgives => not_inStep_of_gives_up h hnumbers hgives)
    htracks hnumbers

instance (id : MonitoredItemId) (status : StatusCode) (feed : ItemFeed) :
    ∀ event, Decidable (feed.BringsNumbers id status event)
  | .notification notification =>
      have : Decidable (∀ item ∈ feed.subscription.addressee notification,
          item.monitoredItemId = id →
            (feed.subscription.incoming id notification).isSome) :=
        Option.decidableForallMem _
      have : Decidable (∀ value ∈ feed.subscription.incoming id notification,
          value.statusCode = status ∧ value.value.getDouble.isSome) :=
        Option.decidableForallMem _
      show Decidable ((∀ item ∈ feed.subscription.addressee notification, _) ∧
        ∀ value ∈ feed.subscription.incoming id notification, _) from
      inferInstance
  | .publish _ => inferInstanceAs (Decidable True)

instance (id : MonitoredItemId) (feed : ItemFeed) :
    ∀ event, Decidable (feed.KeepsNewest id event)
  | .notification notification =>
      show Decidable (∀ value ∈ feed.subscription.incoming id notification,
        ∀ item ∈ feed.subscription.items.lookup id,
          passesDeadband item value = true →
            item.parameters.discardOldest = true ∨
              (feed.subscription.entriesOf id).length <
                item.parameters.queueLimit) from
      have : ∀ value, Decidable (∀ item ∈ feed.subscription.items.lookup id,
          passesDeadband item value = true →
            item.parameters.discardOldest = true ∨
              (feed.subscription.entriesOf id).length <
                item.parameters.queueLimit) :=
        fun _ => Option.decidableForallMem _
      Option.decidableForallMem _
  | .publish _ => inferInstanceAs (Decidable True)

/-- A subscription with one item, of queue size one and with a deadband of one. -/
def withDeadband (discardOldest : Bool) : ItemFeed where
  subscription := (runFrom SubscriptionRun.step (SubscriptionRun.start 1 {} {} [])
    [.createMonitoredItems
      { subscriptionId := 1
        itemsToCreate := [{ requestedParameters :=
          { filter := some (.dataChange
              { deadbandType := .absolute, deadbandValue := 1 })
            discardOldest := discardOldest } }] }
      fun _ => SubscriptionRun.granted]).subscription

def goodNumber (value : Double) : DataValue :=
  ⟨.scalar .double value, 0, {}, {}, .good⟩

def number (value : Double) : FeedEvent :=
  .notification (.dataChange ⟨1, goodNumber value⟩)

theorem oldest_discarded_in_step :
    (runFrom (step 1) (withDeadband true) [number 0, number 5]).InStep 1 1 := by
  have hnumbers : AllMeet (step 1) (BringsNumbers 1 .good) (withDeadband true)
      [number 0, number 5] := by
    decide
  have hkeeps : AllMeet (step 1) (KeepsNewest 1) (withDeadband true)
      [number 0, number 5] := by
    decide +kernel
  exact (in_step_iff_keeps_newest 1 {} {} [] _ 1 _ 1 .good (withDeadband true)
    rfl rfl ⟨rfl, by norm_num, _, rfl, rfl, rfl⟩ rfl rfl _ hnumbers).mpr hkeeps
      [number 0, number 5] [] rfl

/-- The value five is compared with, but not sent. -/
theorem newest_discarded_out_of_step :
    ¬(runFrom (step 1) (withDeadband false) [number 0, number 5]).InStep 1 1 := by
  intro h
  obtain ⟨last, hlast, x, y, hx, hy, hlt⟩ := h.fresh
    (goodNumber 5) rfl
  have hsent : (lastReported ((runFrom (step 1) (withDeadband false)
      [number 0, number 5]).entriesOf 1)).bind (fun value =>
        value.value.getDouble) = some 0 := by
    decide +kernel
  rw [hlast, Option.bind_some, hy, Option.some.injEq] at hsent
  cases hx
  rw [hsent] at hlt
  norm_num at hlt

end ItemFeed

end OpcuaStack
