import OpcuaStack.BindingLifecycle

/-!
# Runs of bindings

Each event of a subscription is a sequence of steps which bind at most one item
each.  A run of these steps keeps the record of grants and binds, and what holds
after every step holds after every event.
-/

namespace OpcuaStack

open ServerSubscription BindingView

/-- A part of an event which creates, modifies or deletes one item, or an event
which leaves the bindings alone. -/
inductive BindingEvent where
  | create (source : MonitoredItemCreateRequest) (env : BindEnvironment)
  | modify (source : MonitoredItemModifyRequest) (env : BindEnvironment)
  | delete (monitoredItemId : MonitoredItemId)
  | removePending (named : List MonitoredItemId)
  | bindFinished (index : ℕ) (results : List MonitoredItemCreateResult)
      (now : DateTime)
  | notifications (batch : List ItemNotification)
  | error (status : Status) (clock : MonitoredItemId → DateTime)
  | tryPublish (now : DateTime)
  | modifySubscription (request : ModifySubscriptionRequest)
  | setPublishingEnabled (publishingEnabled : Bool)
  | setMonitoringMode (request : SetMonitoringModeRequest)
  | acknowledge (sequenceNumbers : List UInt32)
  | iterateFirst (monitoredItemId : MonitoredItemId)

namespace BindingEvent

def apply (s : ServerSubscription) : BindingEvent → ServerSubscription
  | .create source env => (s.createMonitoredItem source env).1
  | .modify source env => (s.modifyMonitoredItem source env).1
  | .delete monitoredItemId => (s.deleteMonitoredItem monitoredItemId).1
  | .removePending named => s.removePending named
  | .bindFinished index results now => s.completeBind index results now
  | .notifications batch => s.onNotifications batch
  | .error status clock => s.onSubscriptionError status clock
  | .tryPublish now => (s.tryPublish now).1
  | .modifySubscription request => (s.modify request).1
  | .setPublishingEnabled publishingEnabled =>
      s.setPublishingEnabled publishingEnabled
  | .setMonitoringMode request => (s.setMonitoringMode request).1
  | .acknowledge sequenceNumbers => (s.acknowledge sequenceNumbers).1
  | .iterateFirst monitoredItemId =>
      { s with items := s.items.modify monitoredItemId id }

/-- Whether the step spawns a bind. -/
def spawns (s : ServerSubscription) : BindingEvent → Bool
  | .create source env => s.spawnsBind source.itemToMonitor.attributeId env
  | .modify source env =>
      (s.items.lookup source.monitoredItemId).any fun item =>
        s.spawnsBind item.itemToMonitor.attributeId env
  | _ => false

/-- The backing item ids which `AddItems` returns in the step, with a status
which is not bad. -/
def grants (s : ServerSubscription) (event : BindingEvent) :
    List MonitoredItemId :=
  match event with
  | .create _ env | .modify _ env =>
      if event.spawns s then grantedAtOnce env else []
  | .bindFinished index results _ =>
      if index < s.bindsInFlight.length then granted (firstResult results)
      else []
  | _ => []

end BindingEvent

/-- The steps of an event of the subscription with the given id. -/
def SubscriptionEvent.steps (subscriptionId : SubscriptionId) :
    SubscriptionEvent → List BindingEvent
  | .backing (.notifications batch) => [.notifications batch]
  | .backing (.error status clock) => [.error status clock]
  | .backing (.bindFinished index results now) =>
      [.bindFinished index results now]
  | .tryPublish now => [.tryPublish now]
  | .modify request => [.modifySubscription request]
  | .setPublishingEnabled publishingEnabled =>
      [.setPublishingEnabled publishingEnabled]
  | .createMonitoredItems request envs =>
      if request.subscriptionId ≠ subscriptionId then []
      else request.itemsToCreate.zipIdx.map fun (source, index) =>
        .create source (envs index)
  | .modifyMonitoredItems request envs =>
      if request.subscriptionId ≠ subscriptionId then []
      else request.itemsToModify.zipIdx.map fun (source, index) =>
        .modify source (envs index)
  | .deleteMonitoredItems request =>
      if request.subscriptionId ≠ subscriptionId then []
      else request.monitoredItemIds.map .delete ++
        [.removePending request.monitoredItemIds]
  | .setMonitoringMode request => [.setMonitoringMode request]
  | .acknowledge sequenceNumbers => [.acknowledge sequenceNumbers]
  | .iterateFirst monitoredItemId => [.iterateFirst monitoredItemId]

theorem SubscriptionEvent.steps_apply (run : SubscriptionRun)
    (event : SubscriptionEvent) :
    runFrom BindingEvent.apply run.subscription
        (event.steps run.subscription.subscriptionId) =
      (run.step event).subscription := by
  cases event with
  | backing event => cases event <;> rfl
  | createMonitoredItems request envs =>
      simp only [steps, SubscriptionRun.step,
        ServerSubscription.createMonitoredItems]
      split
      · rfl
      · rw [runFrom, List.foldl_map, collectResults_fst]
        rfl
  | modifyMonitoredItems request envs =>
      simp only [steps, SubscriptionRun.step,
        ServerSubscription.modifyMonitoredItems]
      split
      · rfl
      · rw [runFrom, List.foldl_map, collectResults_fst]
        rfl
  | deleteMonitoredItems request =>
      simp only [steps, SubscriptionRun.step,
        ServerSubscription.deleteMonitoredItems]
      split
      · rfl
      · rw [runFrom_append, collectResults_fst]
        simp only [runFrom, List.foldl_map]
        rfl
  | _ => rfl

/-- A subscription with the backing item ids granted to it and the number of
binds it has spawned. -/
structure BindingRun where
  subscription : ServerSubscription
  grants : List MonitoredItemId := []
  binds : ℕ := 0

namespace BindingRun

def step (run : BindingRun) (event : BindingEvent) : BindingRun where
  subscription := event.apply run.subscription
  grants := run.grants ++ event.grants run.subscription
  binds := run.binds + if event.spawns run.subscription then 1 else 0

/-- `AddItems` returns ids which it has not returned before; zero is none. -/
def GrantsFresh (run : BindingRun) (event : BindingEvent) : Prop :=
  ∀ id ∈ event.grants run.subscription, id ≠ 0 ∧ id ∉ run.grants

/-- An item is created under an id no live item has, and its bind is not
answered at once with a status which is neither bad nor plain `Good`. -/
def CreatesPlainly (run : BindingRun) : BindingEvent → Prop
  | .create _ env =>
      run.subscription.items.lookup run.subscription.nextMonitoredItemId =
          none ∧
        ∀ results ∈ env.immediateResults,
          (firstResult results).status.isBad = true ∨
            (firstResult results).status.code = .good
  | _ => True

instance (run : BindingRun) (event : BindingEvent) :
    Decidable (run.GrantsFresh event) :=
  List.decidableBAll (fun id => id ≠ 0 ∧ id ∉ run.grants)
    (event.grants run.subscription)

instance (run : BindingRun) :
    (event : BindingEvent) → Decidable (run.CreatesPlainly event)
  | .create _ _ => inferInstanceAs (Decidable (_ ∧ _))
  | .modify _ _ | .delete _ | .removePending _ | .bindFinished _ _ _
  | .notifications _ | .error _ _ | .tryPublish _ | .modifySubscription _
  | .setPublishingEnabled _ | .setMonitoringMode _ | .acknowledge _
  | .iterateFirst _ => inferInstanceAs (Decidable True)

/-- The record agrees with what the subscription shows. -/
def Sound (run : BindingRun) : Prop :=
  run.subscription.view.Sound run.grants run.binds

/-- The item `CreateMonitoredItems` makes of one element of the request. -/
def newItem (s : ServerSubscription) (source : MonitoredItemCreateRequest) :
    Item where
  address := s.nextItemAddress
  monitoredItemId := s.nextMonitoredItemId
  itemToMonitor := source.itemToMonitor
  indexRange := source.indexRange
  monitoringMode := source.monitoringMode
  parameters := source.requestedParameters

theorem createMonitoredItem_fst (s : ServerSubscription)
    (source : MonitoredItemCreateRequest) (env : BindEnvironment) :
    (s.createMonitoredItem source env).1 =
      let (t, item) :=
        (s.emplaceItem (newItem s source)).rebindItem (newItem s source) env
      if item.monitoredItemStatus ≠ .good then t.eraseItem item.monitoredItemId
      else t := by
  unfold createMonitoredItem newItem
  simp only
  split <;> rfl

/-- What a step keeps: the record stays sound, and handles given up stay given
up. -/
structure Keeps (run later : BindingRun) : Prop where
  sound : later.Sound
  handlesFrom : HandlesFrom run.subscription.view later.subscription.view
    run.binds

theorem create_keeps {run : BindingRun} (h : run.Sound)
    {source : MonitoredItemCreateRequest} {env : BindEnvironment}
    (hbinds : (run.step (.create source env)).binds < 2 ^ 32)
    (hfresh : run.GrantsFresh (.create source env))
    (hplain : run.CreatesPlainly (.create source env)) :
    Keeps run (run.step (.create source env)) := by
  obtain ⟨s, recorded, binds⟩ := run
  obtain ⟨hnew, hanswers⟩ := hplain
  have hemplaced := @emplaceItem_view s (newItem s source) hnew
  have hnone : s.view.bindingOf (newItem s source).binding.monitoredItemId =
      none := by
    change (s.items.lookup s.nextMonitoredItemId).map Item.binding = none
    rw [hnew]
    rfl
  have hsound : (s.emplaceItem (newItem s source)).view.Sound recorded binds := by
    rw [hemplaced]
    exact BindingView.Sound.emplace h hnone rfl rfl
  have hjoined : HandlesFrom s.view
      (s.emplaceItem (newItem s source)).view binds := by
    rw [hemplaced]
    refine .of_update rfl fun after hafter hne _ => ?_
    rw [← Option.some.inj hafter] at hne
    exact absurd rfl hne
  have hlookup : (s.emplaceItem (newItem s source)).items.lookup
      (newItem s source).monitoredItemId = some (newItem s source) := by
    have hmissing : s.items.lookup (newItem s source).monitoredItemId = none :=
      hnew
    simp [emplaceItem, hmissing]
  obtain ⟨hrebinds, hbinding⟩ := rebindItem_rebinds
    (fun id binding => hsound.keyed id binding) hlookup rfl env
  have hown : (s.emplaceItem (newItem s source)).view.bindingOf
      (newItem s source).binding.monitoredItemId =
        some (newItem s source).binding := by
    exact congrArg (Option.map Item.binding) hlookup
  have hspawns := spawnsBind_congr (s := s.emplaceItem (newItem s source))
    (t := s) rfl source.itemToMonitor.attributeId env
  change Rebinds _ _ env ((s.emplaceItem (newItem s source)).spawnsBind
    source.itemToMonitor.attributeId env) _ at hrebinds
  rw [hspawns] at hrebinds
  have hlimit : s.spawnsBind source.itemToMonitor.attributeId env = true →
      binds + 1 < 2 ^ 32 := by
    intro hspawn
    simpa [step, BindingEvent.spawns, hspawn] using hbinds
  have hafter := hsound.rebinds hown hlimit
    (fun hspawn id hmem => hfresh id (by
      simpa [BindingEvent.grants, BindingEvent.spawns, hspawn] using hmem))
    hrebinds
  have hfrom := hjoined.trans
    (HandlesFrom.rebinds hsound hown hlimit hrebinds) le_rfl
  have hunbound := unbound_of_rebinds rfl hanswers hrebinds hbinding
  suffices hstep : (s.createMonitoredItem source env).1.view.Sound
      (recorded ++ if s.spawnsBind source.itemToMonitor.attributeId env then
        grantedAtOnce env else [])
      (binds + if s.spawnsBind source.itemToMonitor.attributeId env then 1
        else 0) ∧
      HandlesFrom s.view (s.createMonitoredItem source env).1.view binds from
    ⟨hstep.1, hstep.2⟩
  rw [createMonitoredItem_fst]
  generalize (s.emplaceItem (newItem s source)).rebindItem (newItem s source)
    env = rebound at hbinding hunbound hafter hfrom ⊢
  obtain ⟨t, item⟩ := rebound
  have hid := hafter.keyed _ _ hbinding
  simp only
  split
  next hstatus =>
    rw [eraseItem_view, show item.monitoredItemId = _ from hid]
    have hdeleted := hafter.delete hbinding
    rw [if_pos (hunbound hstatus)] at hdeleted
    exact ⟨hdeleted, hfrom.trans (.erase _ _ binds) le_rfl⟩
  next => exact ⟨hafter, hfrom⟩

theorem modify_keeps {run : BindingRun} (h : run.Sound)
    {source : MonitoredItemModifyRequest} {env : BindEnvironment}
    (hbinds : (run.step (.modify source env)).binds < 2 ^ 32)
    (hfresh : run.GrantsFresh (.modify source env)) :
    Keeps run (run.step (.modify source env)) := by
  obtain ⟨s, recorded, binds⟩ := run
  unfold GrantsFresh at hfresh
  cases hlookup : s.items.lookup source.monitoredItemId with
  | none =>
      have hsame : (s.modifyMonitoredItem source env).1 = s := by
        simp [modifyMonitoredItem, hlookup]
      have hstep : BindingRun.step ⟨s, recorded, binds⟩ (.modify source env) =
          ⟨s, recorded, binds⟩ := by
        simp [step, BindingEvent.apply, BindingEvent.grants,
          BindingEvent.spawns, hlookup, hsame]
      rw [hstep]
      exact ⟨h, .refl _ _⟩
  | some item =>
      have hkeyed : s.Keyed := fun id binding => h.keyed id binding
      have hid := hkeyed.monitoredItemId_eq hlookup
      rw [← hid] at hlookup
      have hlookup' : s.items.lookup
          ({ item with parameters := source.requestedParameters } :
            Item).monitoredItemId = some item := hlookup
      obtain ⟨hrebinds, _⟩ := rebindItem_rebinds hkeyed hlookup' rfl env
      have hown : s.view.bindingOf item.binding.monitoredItemId =
          some item.binding := by
        exact congrArg (Option.map Item.binding) hlookup
      rw [hid] at hlookup
      have happly : (s.modifyMonitoredItem source env).1 =
          (s.rebindItem { item with parameters := source.requestedParameters }
            env).1 := by
        simp [modifyMonitoredItem, hlookup]
      have hspawns : BindingEvent.spawns s (.modify source env) =
          s.spawnsBind item.itemToMonitor.attributeId env := by
        simp [BindingEvent.spawns, hlookup]
      have hlimit : s.spawnsBind item.itemToMonitor.attributeId env = true →
          binds + 1 < 2 ^ 32 := by
        intro hspawn
        simpa [step, hspawns, hspawn] using hbinds
      simp only [BindingEvent.grants, hspawns] at hfresh
      have hafter := BindingView.Sound.rebinds h hown hlimit
        (fun hspawn id hmem => hfresh id (by simpa [hspawn] using hmem))
        hrebinds
      have hfrom := HandlesFrom.rebinds h hown hlimit hrebinds
      refine ⟨?_, ?_⟩
      · simpa only [Sound, step, BindingEvent.apply, BindingEvent.grants,
          hspawns, happly] using hafter
      · simpa only [step, BindingEvent.apply, happly] using hfrom

theorem delete_keeps {run : BindingRun} (h : run.Sound)
    (monitoredItemId : MonitoredItemId) :
    Keeps run (run.step (.delete monitoredItemId)) := by
  obtain ⟨s, recorded, binds⟩ := run
  suffices hstep : (s.deleteMonitoredItem monitoredItemId).1.view.Sound
      recorded binds ∧
      HandlesFrom s.view (s.deleteMonitoredItem monitoredItemId).1.view binds by
    refine ⟨?_, hstep.2⟩
    simpa [Sound, step, BindingEvent.apply, BindingEvent.grants,
      BindingEvent.spawns] using hstep.1
  unfold deleteMonitoredItem
  split
  · exact ⟨h, .refl _ _⟩
  next item hlookup =>
    have hbinding : s.view.bindingOf monitoredItemId = some item.binding := by
      exact congrArg (Option.map Item.binding) hlookup
    have hstarted : item.backingItemId ≠ 0 → s.backingStarted = true := by
      intro hne
      have hgranted := h.accounted.granted_of_held monitoredItemId
        item.backingItemId ⟨item.binding, hbinding, rfl, hne⟩
      exact h.granted_started (List.ne_nil_of_mem hgranted)
    have hdeleted := BindingView.Sound.delete h hbinding
    have hview : ((s.removeBackingItem item.backingItemId).eraseItem
        monitoredItemId).view =
          { s.view.erase monitoredItemId with
            removals :=
              if item.backingItemId = 0 then s.view.removals
              else s.view.removals ++ [item.backingItemId] } := by
      rw [eraseItem_view, removeBackingItem_view]
      by_cases hzero : item.backingItemId = 0
      · simp [hzero, BindingView.erase]
      · simp [hzero, hstarted hzero, BindingView.erase]
    simp only
    rw [hview]
    exact ⟨hdeleted, .of_update rfl (by simp)⟩

theorem bindFinished_keeps {run : BindingRun} (h : run.Sound) (index : ℕ)
    (results : List MonitoredItemCreateResult) (now : DateTime)
    (hfresh : run.GrantsFresh (.bindFinished index results now)) :
    Keeps run (run.step (.bindFinished index results now)) := by
  obtain ⟨s, recorded, binds⟩ := run
  unfold GrantsFresh at hfresh
  cases hbind : s.bindsInFlight[index]? with
  | none =>
      have hnot : ¬index < s.bindsInFlight.length := by
        simpa using hbind
      have hstep : BindingRun.step ⟨s, recorded, binds⟩
          (.bindFinished index results now) = ⟨s, recorded, binds⟩ := by
        simp [step, BindingEvent.apply, BindingEvent.grants,
          BindingEvent.spawns, completeBind, hnot]
      rw [hstep]
      exact ⟨h, .refl _ _⟩
  | some bind =>
      obtain ⟨hlt, hat⟩ := List.getElem?_eq_some_iff.mp hbind
      have hplace : index < s.view.inFlight.length := by
        simpa [view] using hlt
      have hhandle : s.view.inFlight[index] = bind.backingClientHandle := by
        simp [view, hat]
      have hmem : bind.backingClientHandle ∈ s.view.inFlight :=
        hhandle ▸ List.getElem_mem hplace
      have hstarted := h.inFlight_started (List.ne_nil_of_mem hmem)
      have hview : { s with
            bindsInFlight := s.bindsInFlight.eraseIdx index }.view =
          { s.view with inFlight := s.view.inFlight.eraseIdx index } := by
        simp [view, List.eraseIdx_map]
      have hlanded : BindingView.Sound
          { s.view with inFlight := s.view.inFlight.eraseIdx index }
          recorded binds :=
        { h with
          toHandlesSound := h.land index
          inFlight_started := fun _ => hstarted }
      have hgone : bind.backingClientHandle ∉
          s.view.inFlight.eraseIdx index := by
        intro hstill
        obtain ⟨other, hother, hne, heq⟩ :=
          List.mem_eraseIdx_iff_getElem.mp hstill
        rw [← hhandle] at heq
        exact hne ((h.inFlight_nodup.getElem_inj_iff).mp heq)
      have hkeyed : ({ s with
          bindsInFlight := s.bindsInFlight.eraseIdx index } :
            ServerSubscription).Keyed := fun id binding => h.keyed id binding
      have hsettles := onBindResult_settles hkeyed bind.weakItem
        bind.backingClientHandle (firstResult results) now
      rw [hview] at hsettles
      have happly : s.completeBind index results now =
          ServerSubscription.onBindResult
            { s with bindsInFlight := s.bindsInFlight.eraseIdx index }
            bind.weakItem bind.backingClientHandle (firstResult results)
            now := by
        unfold completeBind
        rw [hbind]
        rfl
      simp only [BindingEvent.grants, hlt, if_true] at hfresh
      have hafter := hlanded.settle hstarted hgone
        (h.inFlight_unbound _ hmem) hfresh hsettles
      rw [← happly] at hafter hsettles
      refine ⟨?_, HandlesFrom.settles hsettles binds⟩
      simpa [Sound, step, BindingEvent.apply, BindingEvent.grants,
        BindingEvent.spawns, hlt] using hafter

theorem keeps_of_view {run : BindingRun} (h : run.Sound) {event : BindingEvent}
    (hview : (event.apply run.subscription).view = run.subscription.view)
    (hspawns : event.spawns run.subscription = false)
    (hgrants : event.grants run.subscription = []) :
    Keeps run (run.step event) := by
  refine ⟨?_, ?_⟩
  · simp only [Sound, step, hview, hspawns, hgrants, List.append_nil]
    exact h
  · simp only [step, hview]
    exact .refl _ _

theorem step_keeps {run : BindingRun} (h : run.Sound) {event : BindingEvent}
    (hbinds : (run.step event).binds < 2 ^ 32)
    (hfresh : run.GrantsFresh event) (hplain : run.CreatesPlainly event) :
    Keeps run (run.step event) := by
  have hkeyed : run.subscription.Keyed := fun id binding => h.keyed id binding
  cases event with
  | create source env => exact create_keeps h hbinds hfresh hplain
  | modify source env => exact modify_keeps h hbinds hfresh
  | delete monitoredItemId => exact delete_keeps h monitoredItemId
  | bindFinished index results now =>
      exact bindFinished_keeps h index results now hfresh
  | removePending named => exact keeps_of_view h rfl rfl rfl
  | notifications batch =>
      exact keeps_of_view h (onNotifications_view hkeyed batch) rfl rfl
  | error status clock =>
      exact keeps_of_view h (onSubscriptionError_view hkeyed status clock)
        rfl rfl
  | tryPublish now => exact keeps_of_view h (tryPublish_view _ now) rfl rfl
  | modifySubscription request =>
      exact keeps_of_view h (modify_view _ request) rfl rfl
  | setPublishingEnabled publishingEnabled => exact keeps_of_view h rfl rfl rfl
  | setMonitoringMode request =>
      exact keeps_of_view h (setMonitoringMode_view _ request) rfl rfl
  | acknowledge sequenceNumbers =>
      exact keeps_of_view h (acknowledge_view _ sequenceNumbers) rfl rfl
  | iterateFirst monitoredItemId =>
      exact keeps_of_view h (iterateFirst_view _ monitoredItemId) rfl rfl

/-! ## Runs -/

theorem binds_le_step (run : BindingRun) (event : BindingEvent) :
    run.binds ≤ (run.step event).binds :=
  Nat.le_add_right _ _

theorem binds_le_run (run : BindingRun) (events : List BindingEvent) :
    run.binds ≤ (runFrom step run events).binds :=
  runFrom_invariant_of_step
    (P := fun later : BindingRun => run.binds ≤ later.binds)
    (fun later event hle => hle.trans (later.binds_le_step event)) le_rfl events

/-- A step whose grants are fresh and which creates its item plainly. -/
def Regular (run : BindingRun) (event : BindingEvent) : Prop :=
  run.GrantsFresh event ∧ run.CreatesPlainly event

instance (run : BindingRun) (event : BindingEvent) :
    Decidable (run.Regular event) :=
  inferInstanceAs (Decidable (_ ∧ _))

theorem run_keeps {run : BindingRun} (h : run.Sound) {events : List BindingEvent}
    (hregular : AllMeet step Regular run events)
    (hbinds : (runFrom step run events).binds < 2 ^ 32) :
    Keeps run (runFrom step run events) := by
  induction events using List.reverseRecOn with
  | nil => exact ⟨h, .refl _ _⟩
  | append_singleton events event ih =>
      obtain ⟨hearlier, ⟨hfresh, hplain⟩, _⟩ := AllMeet.append_iff.mp hregular
      rw [runFrom_append, runFrom_cons, runFrom_nil] at hbinds ⊢
      have hkept := ih hearlier ((binds_le_step _ event).trans_lt hbinds)
      have hlast := step_keeps hkept.sound hbinds hfresh hplain
      exact ⟨hlast.sound, hkept.handlesFrom.trans hlast.handlesFrom
        (binds_le_run run events)⟩

theorem runFrom_subscription (run : BindingRun) (events : List BindingEvent) :
    (runFrom step run events).subscription =
      runFrom BindingEvent.apply run.subscription events := by
  induction events generalizing run with
  | nil => rfl
  | cons event rest ih => exact ih (run.step event)

section Start

variable (subscriptionId : SubscriptionId) (parameters : SubscriptionParameters)
  (publishCycleStartTime : DateTime) (traceParent : ByteText)

/-- A subscription just created. -/
def start : BindingRun where
  subscription := ServerSubscription.create subscriptionId parameters
    publishCycleStartTime traceParent

theorem start_sound :
    (start subscriptionId parameters publishCycleStartTime traceParent).Sound :=
  { keyed := fun id binding hbinding => by simp [start, create, view] at hbinding
    handle_le := fun id binding hbinding => by
      simp [start, create, view] at hbinding
    handle_unique := fun id other binding found hbinding => by
      simp [start, create, view] at hbinding
    inFlight_le := by simp [start, create, view]
    inFlight_nodup := List.nodup_nil
    inFlight_unbound := by simp [start, create, view]
    nextHandle := rfl
    inFlight_started := fun hne => absurd rfl hne
    granted_started := fun hne => absurd rfl hne
    nonzero := by simp [start]
    accounted := .empty fun id g => by
      rintro ⟨binding, hbinding, _⟩
      simp [start, create, view] at hbinding }

theorem subscription_eq (events : List SubscriptionEvent) :
    (runFrom step
        (start subscriptionId parameters publishCycleStartTime traceParent)
        (events.flatMap (·.steps subscriptionId))).subscription =
      (runFrom SubscriptionRun.step
        (.start subscriptionId parameters publishCycleStartTime traceParent)
        events).subscription := by
  induction events using List.reverseRecOn with
  | nil => rfl
  | append_singleton events event ih =>
      have hconserves := (SubscriptionRun.start_conserves subscriptionId
        parameters publishCycleStartTime traceParent).run events
      have hevent := event.steps_apply (runFrom SubscriptionRun.step
        (.start subscriptionId parameters publishCycleStartTime traceParent)
        events)
      rw [hconserves.subscriptionId] at hevent
      rw [List.flatMap_append, List.flatMap_singleton, runFrom_append,
        runFrom_subscription, ih, hevent, runFrom_append, runFrom_cons,
        runFrom_nil]

/-- In a run in which `AddItems` returns new ids, items are created plainly and
fewer than `2 ^ 32` binds are spawned, every backing item id granted is the
`backing_item_id` of one live item or was released exactly once, and a client
handle which its item has given up delivers nothing any more. -/
theorem bindings_accounted (first second : List SubscriptionEvent) :
    let begin :=
      start subscriptionId parameters publishCycleStartTime traceParent
    let earlier :=
      runFrom step begin (first.flatMap (·.steps subscriptionId))
    let run :=
      runFrom step begin ((first ++ second).flatMap (·.steps subscriptionId))
    AllMeet step Regular begin
        ((first ++ second).flatMap (·.steps subscriptionId)) →
      run.binds < 2 ^ 32 →
        run.subscription =
            (runFrom SubscriptionRun.step
              (.start subscriptionId parameters publishCycleStartTime
                traceParent)
              (first ++ second)).subscription ∧
        (∀ g ∈ run.grants,
          (∃! id, ∃ item, run.subscription.items.lookup id = some item ∧
              item.backingItemId = g) ∧
            run.subscription.backingRemovals.count g = 0 ∨
          (∀ id item, run.subscription.items.lookup id = some item →
              item.backingItemId ≠ g) ∧
            run.subscription.backingRemovals.count g = 1) ∧
        ∀ handle, handle ≠ 0 → handle.toNat ≤ earlier.binds →
          (∀ id item, earlier.subscription.items.lookup id = some item →
            item.backingClientHandle = handle →
              ∀ later, run.subscription.items.lookup id = some later →
                later.backingClientHandle ≠ handle) →
            ∀ notification : ItemNotification,
              notification.clientHandle = handle →
                run.subscription.onNotification notification =
                  run.subscription := by
  intro begin earlier run hregular hbinds
  have hsound := run_keeps (start_sound subscriptionId parameters
    publishCycleStartTime traceParent) hregular hbinds
  refine ⟨subscription_eq subscriptionId parameters publishCycleStartTime
    traceParent (first ++ second), fun g hg => ?_, ?_⟩
  · have hholds : ∀ id, run.subscription.view.Holds id g ↔
        ∃ item, run.subscription.items.lookup id = some item ∧
          item.backingItemId = g := by
      intro id
      have hne : g ≠ 0 := fun hzero => hsound.sound.nonzero (hzero ▸ hg)
      constructor
      · rintro ⟨binding, hbinding, hheld, _⟩
        obtain ⟨item, hitem, rfl⟩ := Option.map_eq_some_iff.mp hbinding
        exact ⟨item, hitem, hheld⟩
      · rintro ⟨item, hitem, hheld⟩
        exact ⟨item.binding, Option.map_eq_some_iff.mpr ⟨item, hitem, rfl⟩,
          hheld, hne⟩
    rcases hsound.sound.accounted.exactly_once hg with
      ⟨hheld, hcount⟩ | ⟨hfree, hcount⟩
    · obtain ⟨id, hid, honly⟩ := hheld
      refine .inl ⟨⟨id, (hholds id).mp hid, fun other hother => ?_⟩, hcount⟩
      exact honly other ((hholds other).mpr hother)
    · refine .inr ⟨fun id item hitem heq => ?_, hcount⟩
      exact hfree id ((hholds id).mpr ⟨item, hitem, heq⟩)
  · intro handle hne hissued hgone notification hnotification
    have hsplit : run = runFrom step earlier
        (second.flatMap (·.steps subscriptionId)) := by
      simp only [run, earlier, List.flatMap_append, runFrom_append]
    rw [List.flatMap_append] at hregular
    obtain ⟨hfirst, hsecond⟩ := AllMeet.append_iff.mp hregular
    have hearlier : earlier.binds ≤ run.binds := by
      rw [hsplit]
      exact binds_le_run earlier _
    have hbefore := run_keeps (start_sound subscriptionId parameters
      publishCycleStartTime traceParent) hfirst (hearlier.trans_lt hbinds)
    have hlater := run_keeps hbefore.sound hsecond (hsplit ▸ hbinds)
    unfold onNotification
    cases hfound : (run.subscription.items.entries.map Sigma.snd).find?
        fun item => item.backingClientHandle == notification.clientHandle with
    | none => rfl
    | some item =>
        obtain ⟨entry, hentry, rfl⟩ :=
          List.mem_map.mp (List.mem_of_find?_eq_some hfound)
        have hlookup := KeyedMap.mem_entries_iff.mp hentry
        have hhandle : entry.2.backingClientHandle = handle := by
          rw [← hnotification]
          simpa using List.find?_some hfound
        have hshown : run.subscription.view.bindingOf entry.1 =
            some entry.2.binding := congrArg (Option.map Item.binding) hlookup
        rw [hsplit] at hshown
        have hbinding : entry.2.binding.clientHandle = handle := hhandle
        obtain ⟨before, hshownBefore, hsame⟩ := hlater.handlesFrom entry.1
          entry.2.binding hshown (hbinding ▸ hne) (hbinding ▸ hissued)
        obtain ⟨held, hheld, rfl⟩ := Option.map_eq_some_iff.mp hshownBefore
        exact absurd hhandle
          (hgone entry.1 held hheld (hsame.trans hhandle) entry.2 hlookup)

end Start

/-- One item is created, whose bind is answered later. -/
def createsItem : SubscriptionEvent :=
  .createMonitoredItems { subscriptionId := 1, itemsToCreate := [{}] } fun _ => {}

/-- The first bind in flight is answered with the given backing item id. -/
def grantsItem (id : MonitoredItemId) : SubscriptionEvent :=
  .backing (.bindFinished 0 [{ monitoredItemId := id }] {})

/-- The first item is modified, and so bound again. -/
def modifiesItem : SubscriptionEvent :=
  .modifyMonitoredItems
    { subscriptionId := 1, itemsToModify := [{ monitoredItemId := 1 }] }
    fun _ => {}

theorem rebound_item_released_once :
    let run := runFrom step (start 1 {} {} [])
      (([createsItem, grantsItem 7] ++ [modifiesItem, grantsItem 8]).flatMap
        (·.steps 1))
    7 ∈ run.grants ∧
      run.subscription.onNotification
          (.dataChange ⟨1, .ofStatus .good {}⟩) = run.subscription := by
  have haccounted := bindings_accounted 1 {} {} [] [createsItem, grantsItem 7]
    [modifiesItem, grantsItem 8] (by decide) (by decide)
  refine ⟨by decide, ?_⟩
  refine haccounted.2.2 1 (by decide) (by decide) ?_ _ rfl
  intro id item _ _ later hlater
  have hnone : ∀ entry ∈ (runFrom step (start 1 {} {} [])
      (([createsItem, grantsItem 7] ++ [modifiesItem, grantsItem 8]).flatMap
        (·.steps 1))).subscription.items.entries,
      entry.2.backingClientHandle ≠ 1 := by
    decide
  exact hnone _ (KeyedMap.mem_entries_iff.mpr hlater)

/-- `Good_Pending`. -/
def goodPending : StatusCode := ⟨1⟩

/-- One item is created, whose bind is answered at once. -/
def createsPending : SubscriptionEvent :=
  .createMonitoredItems { subscriptionId := 1, itemsToCreate := [{}] } fun _ =>
    { immediateResults :=
        some [{ status := .ofCode goodPending, monitoredItemId := 7 }] }

/-- The item of a bind answered at once with `Good_Pending` is dropped, and the
binding it was granted is not given back. -/
theorem pending_binding_leaks :
    let run := runFrom step (start 1 {} {} []) ([createsPending].flatMap
      (·.steps 1))
    AllMeet step GrantsFresh (start 1 {} {} [])
        ([createsPending].flatMap (·.steps 1)) ∧
      (Status.ofCode goodPending).isGood = true ∧
      run.binds = 1 ∧ run.grants = [7] ∧
      run.subscription.backingStarted = true ∧
      run.subscription.items.keys = [] ∧
      run.subscription.backingRemovals.count 7 = 0 := by
  decide

end BindingRun

end OpcuaStack
