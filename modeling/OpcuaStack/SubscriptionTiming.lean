import OpcuaStack.SubscriptionParameters

/-!
# The timing of a subscription

A subscription keeps alive after a number of publishing intervals, and lives for
at least three times that number of them.  The threefold count is computed in 32
bits and the keep-alive interval in 64, so both are what they should be as long
as the products fit.
-/

namespace OpcuaStack

theorem wrapInt64_eq_iff {value : Int} :
    wrapInt64 value = value ↔ int64Min ≤ value ∧ value ≤ int64Max := by
  unfold wrapInt64 int64Min int64Max Int.bmod
  simp only
  split <;> omega

theorem Double.truncate_intCast (value : Int) :
    Double.truncate (value : ℚ) = value := by
  simp [Double.truncate]

theorem Duration.inMilliseconds_fromMilliseconds {value : Int}
    (hmin : int64Min ≤ value) (hmax : value ≤ int64Max) :
    (Duration.fromMilliseconds value).inMilliseconds = value := by
  unfold inMilliseconds fromMilliseconds saturatingTrunc
  rw [Double.truncate_intCast, min_eq_right hmax, max_eq_right hmin]

namespace SubscriptionParameters

/-- The publishing interval in whole milliseconds. -/
def intervalMs (parameters : SubscriptionParameters) : Int :=
  max 1 (Double.truncate parameters.publishingIntervalMs)

/-- The publishing interval can be converted to an `int64_t`. -/
def Convertible (parameters : SubscriptionParameters) : Prop :=
  int64Min ≤ Double.truncate parameters.publishingIntervalMs ∧
    Double.truncate parameters.publishingIntervalMs ≤ int64Max

/-- The keep-alive count which is worked with. -/
def keepAliveCount (parameters : SubscriptionParameters) : ℕ :=
  if parameters.maxKeepAliveCount = 0 then kDefaultKeepAliveCount.toNat
  else parameters.maxKeepAliveCount.toNat

/-- Three times the keep-alive count fits 32 bits, and the keep-alive time in
milliseconds fits 64 bits with a sign. -/
def ProductsFit (parameters : SubscriptionParameters) : Prop :=
  3 * parameters.keepAliveCount < 2 ^ 32 ∧
    parameters.intervalMs * parameters.keepAliveCount ≤ int64Max

theorem intervalMs_pos (parameters : SubscriptionParameters) :
    1 ≤ parameters.intervalMs := le_max_left _ _

theorem keepAliveCount_pos (parameters : SubscriptionParameters) :
    1 ≤ parameters.keepAliveCount := by
  unfold keepAliveCount
  split
  · decide
  next hzero =>
    have hne : parameters.maxKeepAliveCount.toNat ≠ 0 :=
      fun heq => hzero (UInt32.toNat_inj.mp heq)
    omega

theorem reviseParameters_maxKeepAliveCount (parameters : SubscriptionParameters) :
    (reviseParameters parameters).maxKeepAliveCount.toNat =
      parameters.keepAliveCount := by
  unfold reviseParameters keepAliveCount
  simp only
  split <;> rfl

/-- The lifetime is long enough exactly if the threefold count does not wrap. -/
theorem lifetime_iff (parameters : SubscriptionParameters) :
    3 * (reviseParameters parameters).maxKeepAliveCount.toNat ≤
        (reviseParameters parameters).lifetimeCount.toNat ↔
      3 * parameters.keepAliveCount < 2 ^ 32 := by
  rw [reviseParameters_maxKeepAliveCount]
  have hcount := reviseParameters_maxKeepAliveCount parameters
  have hminimum : (3 * (reviseParameters parameters).maxKeepAliveCount).toNat =
      3 * parameters.keepAliveCount % 2 ^ 32 := by
    rw [UInt32.toNat_mul, hcount]
    rfl
  have hlifetime : (reviseParameters parameters).lifetimeCount =
      if parameters.lifetimeCount <
          3 * (reviseParameters parameters).maxKeepAliveCount then
        3 * (reviseParameters parameters).maxKeepAliveCount
      else parameters.lifetimeCount := rfl
  have hbound := (reviseParameters parameters).lifetimeCount.toNat_lt
  rw [hlifetime] at hbound ⊢
  split at hbound
  next hless =>
    rw [if_pos hless, hminimum]
    omega
  next hless =>
    rw [if_neg hless]
    rw [UInt32.lt_iff_toNat_lt, hminimum] at hless
    omega

end SubscriptionParameters

namespace ServerSubscription

/-- The timing of a subscription is what its parameters say, read as integers. -/
structure TimingHolds (s : ServerSubscription) : Prop where
  keepAlive : 1 ≤ s.parameters.maxKeepAliveCount.toNat
  lifetime : 3 * s.parameters.maxKeepAliveCount.toNat ≤
    s.parameters.lifetimeCount.toNat
  interval : s.keepAliveInterval.milliseconds =
    ((s.parameters.intervalMs * s.parameters.maxKeepAliveCount.toNat : Int) : ℚ)
  positive : 0 < s.keepAliveInterval.milliseconds
  notShorter : s.publishingInterval.milliseconds ≤ s.keepAliveInterval.milliseconds

theorem TimingHolds.congr {s t : ServerSubscription} (h : s.TimingHolds)
    (hinterval : t.parameters.publishingIntervalMs =
      s.parameters.publishingIntervalMs)
    (hcount : t.parameters.maxKeepAliveCount = s.parameters.maxKeepAliveCount)
    (hlifetime : t.parameters.lifetimeCount = s.parameters.lifetimeCount) :
    t.TimingHolds := by
  have hpublishing : t.publishingInterval = s.publishingInterval := by
    unfold publishingInterval
    rw [hinterval]
  have hkeepAlive : t.keepAliveInterval = s.keepAliveInterval := by
    unfold keepAliveInterval
    rw [hpublishing, hcount]
  have hms : t.parameters.intervalMs = s.parameters.intervalMs := by
    unfold SubscriptionParameters.intervalMs
    rw [hinterval]
  constructor
  · rw [hcount]
    exact h.keepAlive
  · rw [hcount, hlifetime]
    exact h.lifetime
  · rw [hkeepAlive, hms, hcount]
    exact h.interval
  · rw [hkeepAlive]
    exact h.positive
  · rw [hkeepAlive, hpublishing]
    exact h.notShorter

/-- Parameters which are revised give the timing they ask for exactly if the two
products fit. -/
theorem timingHolds_iff {s : ServerSubscription}
    {requested : SubscriptionParameters} (hconvertible : requested.Convertible)
    (hparameters : s.parameters = reviseParameters requested) :
    s.TimingHolds ↔ requested.ProductsFit := by
  have hcount : s.parameters.maxKeepAliveCount.toNat = requested.keepAliveCount := by
    rw [hparameters]
    exact SubscriptionParameters.reviseParameters_maxKeepAliveCount requested
  have hms : s.parameters.intervalMs = requested.intervalMs := by
    rw [hparameters]
    rfl
  have hpos := requested.intervalMs_pos
  have hcountPos := requested.keepAliveCount_pos
  have hinterval : s.publishingInterval.milliseconds = (requested.intervalMs : ℚ) := by
    rw [← hms]
    rfl
  have hread : s.publishingInterval.inMilliseconds = requested.intervalMs := by
    rw [← hms]
    refine Duration.inMilliseconds_fromMilliseconds ?_ ?_
    · rw [← SubscriptionParameters.intervalMs, hms]
      unfold int64Min
      omega
    · rw [← SubscriptionParameters.intervalMs, hms]
      exact max_le (by decide) hconvertible.2
  have hkeepAlive : s.keepAliveInterval.milliseconds =
      (wrapInt64 (requested.intervalMs * requested.keepAliveCount) : ℚ) := by
    unfold keepAliveInterval
    rw [hread, hcount, max_eq_right hcountPos]
    rfl
  have hproduct : requested.intervalMs ≤
      requested.intervalMs * requested.keepAliveCount := by
    have hone : (1 : Int) ≤ requested.keepAliveCount := by exact_mod_cast hcountPos
    nlinarith
  constructor
  · intro h
    refine ⟨?_, ?_⟩
    · rw [← requested.lifetime_iff, ← hparameters]
      exact h.lifetime
    · have heq := h.interval
      rw [hkeepAlive, hms, hcount] at heq
      exact (wrapInt64_eq_iff.mp (by exact_mod_cast heq)).2
  · rintro ⟨hlifetime, hfits⟩
    have hexact : wrapInt64 (requested.intervalMs * requested.keepAliveCount) =
        requested.intervalMs * requested.keepAliveCount := by
      refine wrapInt64_eq_iff.mpr ⟨?_, hfits⟩
      unfold int64Min
      omega
    rw [hexact] at hkeepAlive
    refine ⟨hcount ▸ hcountPos, ?_, ?_, ?_, ?_⟩
    · rw [hparameters, requested.lifetime_iff]
      exact hlifetime
    · rw [hkeepAlive, hms, hcount]
    · rw [hkeepAlive]
      exact_mod_cast lt_of_lt_of_le Int.one_pos (hpos.trans hproduct)
    · rw [hinterval, hkeepAlive]
      exact_mod_cast hproduct

end ServerSubscription

namespace SubscriptionRun

open ServerSubscription

def TimingHolds (run : SubscriptionRun) : Prop := run.subscription.TimingHolds

/-- A modification asks for a publishing interval which can be converted. -/
def AsksConvertible : SubscriptionEvent → Prop
  | .modify request => request.parameters.Convertible
  | _ => True

/-- A modification of this subscription asks for parameters whose products fit. -/
def AsksFitting (run : SubscriptionRun) : SubscriptionEvent → Prop
  | .modify request =>
      request.subscriptionId = run.subscription.subscriptionId →
        request.parameters.ProductsFit
  | _ => True

theorem step_timingHolds_iff {run : SubscriptionRun} {event : SubscriptionEvent}
    (h : run.TimingHolds) (hconvertible : AsksConvertible event) :
    (run.step event).TimingHolds ↔ run.AsksFitting event := by
  by_cases hmode : ∃ enabled, event = .setPublishingEnabled enabled
  · obtain ⟨enabled, rfl⟩ := hmode
    have hkept : (run.step (.setPublishingEnabled enabled)).TimingHolds :=
      ServerSubscription.TimingHolds.congr h rfl rfl rfl
    exact iff_of_true hkept trivial
  by_cases hmodify : ∃ request, event = .modify request
  · obtain ⟨request, rfl⟩ := hmodify
    change (run.subscription.modify request).1.TimingHolds ↔
      (request.subscriptionId = run.subscription.subscriptionId → _)
    unfold ServerSubscription.modify
    split
    next hne => exact iff_of_true h fun heq => absurd heq hne
    next heq =>
      simp only [not_not.mp heq, forall_const]
      exact timingHolds_iff hconvertible rfl
  · have hsame := run.step_parameters event
      (fun request heq => hmodify ⟨request, heq⟩)
      (fun enabled heq => hmode ⟨enabled, heq⟩)
    have hkept : (run.step event).TimingHolds :=
      ServerSubscription.TimingHolds.congr h (congrArg _ hsame)
        (congrArg _ hsame) (congrArg _ hsame)
    have hasks : run.AsksFitting event := by
      cases event with
      | modify request => exact absurd ⟨request, rfl⟩ hmodify
      | _ => trivial
    exact iff_of_true hkept hasks

def everySecond : SubscriptionParameters where
  publishingIntervalMs := 1000
  maxKeepAliveCount := 10

/-- Three times the count is 2^32 + 2. -/
def wrappingCount : SubscriptionParameters where
  maxKeepAliveCount := 1431655766

/-- Twice the interval is 2^63 milliseconds. -/
def wrappingInterval : SubscriptionParameters where
  publishingIntervalMs := 4611686018427387904
  maxKeepAliveCount := 2

end SubscriptionRun

end OpcuaStack
