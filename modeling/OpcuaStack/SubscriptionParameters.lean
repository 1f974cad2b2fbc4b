import OpcuaStack.SubscriptionConservation

/-!
# The parameters of a subscription

`ToManaged` of `session/subscription_conversion.cpp` turns the wire requests
into the structures the subscription works with, and `ReviseParameters` makes of
the requested timing the one the subscription keeps.  A modification carries no
publishing state on the wire, and the counts and intervals are multiplied in
integers of fixed width.
-/

namespace OpcuaStack

/-! ## Conversion from the wire -/

namespace Ua

/-- The generated `ua::CreateSubscriptionRequest`. -/
structure CreateSubscriptionRequest where
  requestedPublishingInterval : Double := 0
  requestedLifetimeCount : UInt32 := 0
  requestedMaxKeepAliveCount : UInt32 := 0
  maxNotificationsPerPublish : UInt32 := 0
  publishingEnabled : Bool := false
  priority : UInt8 := 0

/-- The generated `ua::ModifySubscriptionRequest`. -/
structure ModifySubscriptionRequest where
  subscriptionId : SubscriptionId := 0
  requestedPublishingInterval : Double := 0
  requestedLifetimeCount : UInt32 := 0
  requestedMaxKeepAliveCount : UInt32 := 0
  maxNotificationsPerPublish : UInt32 := 0
  priority : UInt8 := 0

def CreateSubscriptionRequest.toManaged (wire : CreateSubscriptionRequest) :
    OpcuaStack.CreateSubscriptionRequest where
  parameters :=
    { publishingIntervalMs := wire.requestedPublishingInterval
      lifetimeCount := wire.requestedLifetimeCount
      maxKeepAliveCount := wire.requestedMaxKeepAliveCount
      maxNotificationsPerPublish := wire.maxNotificationsPerPublish
      publishingEnabled := wire.publishingEnabled
      priority := wire.priority }

def ModifySubscriptionRequest.toManaged (wire : ModifySubscriptionRequest) :
    OpcuaStack.ModifySubscriptionRequest where
  subscriptionId := wire.subscriptionId
  parameters :=
    { publishingIntervalMs := wire.requestedPublishingInterval
      lifetimeCount := wire.requestedLifetimeCount
      maxKeepAliveCount := wire.requestedMaxKeepAliveCount
      maxNotificationsPerPublish := wire.maxNotificationsPerPublish
      priority := wire.priority }

end Ua

/-! ## Who writes the parameters -/

namespace ServerSubscription

theorem tryPublish_parameters (s : ServerSubscription) (now : DateTime) :
    (s.tryPublish now).1.parameters = s.parameters := by
  refine tryPublish_keeps (fun _ _ => rfl) (fun _ _ => rfl) ?_
  rw [s.primePublishCycle_eq now]

theorem deleteMonitoredItems_parameters (s : ServerSubscription)
    (request : DeleteMonitoredItemsRequest) :
    (s.deleteMonitoredItems request).1.parameters = s.parameters := by
  rcases s.deleteMonitoredItems_cases request with heq | ⟨_, edited, hedits, heq⟩
  · rw [heq]
  · rw [heq]
    exact hedits.parameters

theorem acknowledge_parameters (s : ServerSubscription)
    (sequenceNumbers : List UInt32) :
    (s.acknowledge sequenceNumbers).1.parameters = s.parameters := by
  refine collectResults_invariant
    (P := fun t : ServerSubscription => t.parameters = s.parameters)
    (fun t sequenceNumber ht => ?_) rfl sequenceNumbers
  unfold acknowledgeOne
  split <;> exact ht

end ServerSubscription

namespace SubscriptionRun

/-- Only `Modify` and `SetPublishingEnabled` write the parameters. -/
theorem step_parameters (run : SubscriptionRun) (event : SubscriptionEvent)
    (hmodify : ∀ request, event ≠ .modify request)
    (hmode : ∀ enabled, event ≠ .setPublishingEnabled enabled) :
    (run.step event).subscription.parameters = run.subscription.parameters := by
  cases event with
  | backing event => exact (run.subscription.onBackingEvent_edits event).parameters
  | tryPublish now => exact run.subscription.tryPublish_parameters now
  | modify request => exact absurd rfl (hmodify request)
  | setPublishingEnabled enabled => exact absurd rfl (hmode enabled)
  | createMonitoredItems request envs =>
      exact (run.subscription.createMonitoredItems_edits request envs).parameters
  | modifyMonitoredItems request envs =>
      exact (run.subscription.modifyMonitoredItems_edits request envs).parameters
  | deleteMonitoredItems request =>
      exact run.subscription.deleteMonitoredItems_parameters request
  | setMonitoringMode request =>
      exact (run.subscription.setMonitoringMode_edits request).parameters
  | acknowledge sequenceNumbers =>
      exact run.subscription.acknowledge_parameters sequenceNumbers
  | iterateFirst monitoredItemId => rfl

end SubscriptionRun

/-! ## The publishing state -/

namespace ServerSubscription

/-- Nothing differs but parameters, and the publishing state is not among them. -/
def OnlyTiming (s t : ServerSubscription) : Prop :=
  t = { s with parameters :=
    { t.parameters with publishingEnabled := s.parameters.publishingEnabled } }

/-- A modification which came over the wire enables publishing. -/
theorem modify_toManaged (s : ServerSubscription)
    (wire : Ua.ModifySubscriptionRequest) :
    (s.modify wire.toManaged).1 =
      if wire.subscriptionId = s.subscriptionId then
        { s with parameters := reviseParameters wire.toManaged.parameters }
      else s := by
  unfold modify
  change (if wire.subscriptionId ≠ s.subscriptionId then _ else _ :
    ServerSubscription × ModifySubscriptionResponse).1 = _
  by_cases heq : wire.subscriptionId = s.subscriptionId
  · rw [if_neg (not_not.mpr heq), if_pos heq]
  · rw [if_pos heq, if_neg heq]

theorem onlyTiming_modify_iff (s : ServerSubscription)
    (wire : Ua.ModifySubscriptionRequest) :
    s.OnlyTiming (s.modify wire.toManaged).1 ↔
      (wire.subscriptionId = s.subscriptionId →
        s.parameters.publishingEnabled = true) := by
  rw [modify_toManaged]
  split
  next heq =>
    simp only [heq, forall_const]
    constructor
    · intro honly
      have hsame := congrArg (fun t => t.parameters.publishingEnabled) honly
      exact hsame.symm
    · intro henabled
      unfold OnlyTiming
      rw [henabled]
      rfl
  next hne => exact iff_of_true rfl fun heq => absurd heq hne

end ServerSubscription

/-- A run of a subscription, with the publishing state which the last call to
set it asked for. -/
structure ModeRun where
  run : SubscriptionRun
  mode : Bool

def ModeRun.step (r : ModeRun) (event : SubscriptionEvent) : ModeRun where
  run := r.run.step event
  mode :=
    match event with
    | .setPublishingEnabled publishingEnabled => publishingEnabled
    | _ => r.mode

namespace ModeRun

/-- A subscription created by a request from the wire. -/
def start (subscriptionId : SubscriptionId) (wire : Ua.CreateSubscriptionRequest)
    (publishCycleStartTime : DateTime) (traceParent : ByteText) : ModeRun where
  run := SubscriptionRun.start subscriptionId wire.toManaged.parameters
    publishCycleStartTime traceParent
  mode := wire.publishingEnabled

/-- A modification is one which came over the wire. -/
def FromWire : SubscriptionEvent → Prop
  | .modify request =>
      ∃ wire : Ua.ModifySubscriptionRequest, request = wire.toManaged
  | _ => True

def KeepsMode (r : ModeRun) : Prop :=
  r.run.subscription.parameters.publishingEnabled = r.mode

/-- A modification meets the subscription with publishing enabled. -/
def ModifiesEnabled (r : ModeRun) : SubscriptionEvent → Prop
  | .modify request =>
      request.subscriptionId = r.run.subscription.subscriptionId →
        r.run.subscription.parameters.publishingEnabled = true
  | _ => True

theorem step_keepsMode_iff {r : ModeRun} {event : SubscriptionEvent}
    (h : r.KeepsMode) (hwire : FromWire event) :
    (r.step event).KeepsMode ↔ r.ModifiesEnabled event := by
  by_cases hmode : ∃ enabled, event = .setPublishingEnabled enabled
  · obtain ⟨enabled, rfl⟩ := hmode
    exact iff_of_true rfl trivial
  by_cases hmodify : ∃ request, event = .modify request
  · obtain ⟨request, rfl⟩ := hmodify
    obtain ⟨wire, rfl⟩ := hwire
    change (r.run.subscription.modify wire.toManaged).1.parameters.publishingEnabled =
        r.mode ↔ (wire.subscriptionId = r.run.subscription.subscriptionId → _)
    rw [ServerSubscription.modify_toManaged]
    unfold KeepsMode at h
    split
    next heq =>
      simp only [heq, forall_const, h]
      exact eq_comm
    next hne => exact iff_of_true h fun heq => absurd heq hne
  · have hsame := r.run.step_parameters event
      (fun request heq => hmodify ⟨request, heq⟩)
      (fun enabled heq => hmode ⟨enabled, heq⟩)
    have hkept : (r.step event).mode = r.mode := by
      cases event with
      | setPublishingEnabled enabled => exact absurd ⟨enabled, rfl⟩ hmode
      | _ => rfl
    have hmodifies : r.ModifiesEnabled event := by
      cases event with
      | modify request => exact absurd ⟨request, rfl⟩ hmodify
      | _ => trivial
    refine iff_of_true ?_ hmodifies
    unfold KeepsMode
    rw [hkept]
    exact (congrArg SubscriptionParameters.publishingEnabled hsame).trans h

/-- In any state a modification from the wire changes only the timing exactly if
publishing is enabled.  So the publishing state of a run is the one last asked
for exactly if no modification meets a subscription with publishing disabled. -/
theorem modification_frame_iff (subscriptionId : SubscriptionId)
    (create : Ua.CreateSubscriptionRequest) (publishCycleStartTime : DateTime)
    (traceParent : ByteText) (events : List SubscriptionEvent)
    (hwire : ∀ event ∈ events, FromWire event) :
    (∀ before after (wire : Ua.ModifySubscriptionRequest),
        events = before ++ after →
          let s := (runFrom step (start subscriptionId create
            publishCycleStartTime traceParent) before).run.subscription
          s.OnlyTiming (s.modify wire.toManaged).1 ↔
            (wire.subscriptionId = s.subscriptionId →
              s.parameters.publishingEnabled = true)) ∧
      ((∀ before after, events = before ++ after →
          (runFrom step (start subscriptionId create publishCycleStartTime
            traceParent) before).KeepsMode) ↔
        AllMeet step ModifiesEnabled
          (start subscriptionId create publishCycleStartTime traceParent)
          events) := by
  refine ⟨fun before after wire _ =>
    ServerSubscription.onlyTiming_modify_iff _ wire, ?_⟩
  have hstart : (start subscriptionId create publishCycleStartTime
      traceParent).KeepsMode := rfl
  exact forall_visited_iff_allMeet (P := KeepsMode) (fun _ h => h)
    (fun r event h hfrom hmodifies => (step_keepsMode_iff h hfrom).mpr hmodifies)
    (fun r event h hfrom hnot =>
      mt (step_keepsMode_iff h hfrom).mp hnot)
    hstart (AllMeet.of_forall hwire _)

def modifyNothing : Ua.ModifySubscriptionRequest where
  subscriptionId := 1

theorem enabled_mode_kept :
    AllMeet step ModifiesEnabled (start 1 { publishingEnabled := true } {} [])
      [.modify modifyNothing.toManaged] := by
  have hwire : ∀ event ∈ [SubscriptionEvent.modify modifyNothing.toManaged],
      FromWire event := by
    intro event hmem
    rw [List.mem_singleton.mp hmem]
    exact ⟨modifyNothing, rfl⟩
  refine (modification_frame_iff 1 { publishingEnabled := true } {} []
    _ hwire).2.mp fun before after heq => ?_
  rcases List.singleton_eq_append_iff.mp heq with ⟨rfl, rfl⟩ | ⟨rfl, rfl⟩ <;> rfl

/-- Publishing was disabled on creation, and a modification enables it. -/
theorem disabled_mode_lost :
    ¬(runFrom step (start 1 { publishingEnabled := false } {} [])
        [.modify modifyNothing.toManaged]).KeepsMode ∧
      ¬(start 1 { publishingEnabled := false } {} []).run.subscription.OnlyTiming
        ((start 1 { publishingEnabled := false } {} []).run.subscription.modify
          modifyNothing.toManaged).1 := by
  constructor
  · exact Bool.noConfusion
  · rw [ServerSubscription.onlyTiming_modify_iff]
    exact fun h => absurd (h rfl) Bool.false_ne_true

end ModeRun

end OpcuaStack
