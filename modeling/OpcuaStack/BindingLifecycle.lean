import OpcuaStack.BackingBindings

/-!
# The life of a binding

A run of a subscription is taken apart into steps of one item each.  Beside the
subscription it records which backing item ids were granted and how many binds
were spawned.  Every granted id is held by one item or was released once, and a
client handle which its item has given up is never taken up again.
-/

namespace OpcuaStack

namespace BindingView

/-- The item holds the backing item id; zero stands for none. -/
def Holds (v : BindingView) (id backingItemId : MonitoredItemId) : Prop :=
  ∃ binding, v.bindingOf id = some binding ∧
    binding.backingItemId = backingItemId ∧ backingItemId ≠ 0

/-- Under the handle no notification is awaited yet. -/
def Unbound (v : BindingView) (clientHandle : UInt32) : Prop :=
  ∀ id binding, v.bindingOf id = some binding →
    binding.clientHandle = clientHandle → binding.backingItemId = 0

/-- The client handles of the view are among those of the given number of binds,
one for each item and each bind in flight. -/
structure HandlesSound (v : BindingView) (binds : ℕ) : Prop where
  keyed : ∀ id binding, v.bindingOf id = some binding →
    binding.monitoredItemId = id
  handle_le : ∀ id binding, v.bindingOf id = some binding →
    binding.clientHandle.toNat ≤ binds
  handle_unique : ∀ id other binding found, v.bindingOf id = some binding →
    v.bindingOf other = some found →
      binding.clientHandle = found.clientHandle → binding.clientHandle ≠ 0 →
        id = other
  inFlight_le : ∀ handle ∈ v.inFlight, handle.toNat ≤ binds
  inFlight_nodup : v.inFlight.Nodup
  inFlight_unbound : ∀ handle ∈ v.inFlight, v.Unbound handle

/-- The view after the given grants and number of binds. -/
structure Sound (v : BindingView) (grants : List MonitoredItemId) (binds : ℕ) :
    Prop extends v.HandlesSound binds where
  nextHandle : v.nextClientHandle = UInt32.ofNat (binds + 1)
  inFlight_started : v.inFlight ≠ [] → v.started = true
  granted_started : grants ≠ [] → v.started = true
  nonzero : 0 ∉ grants
  accounted : Accounted v.Holds v.removals grants

/-! ## Handles -/

namespace HandlesSound

variable {v : BindingView} {binds : ℕ} (h : v.HandlesSound binds)
include h

theorem mono {more : ℕ} (hle : binds ≤ more) : v.HandlesSound more :=
  { h with
    handle_le := fun id binding hbinding =>
      (h.handle_le id binding hbinding).trans hle
    inFlight_le := fun handle hmem => (h.inFlight_le handle hmem).trans hle }

/-- A binding is put in place under a handle no other item has. -/
theorem put {id : MonitoredItemId} {binding : Binding}
    {removals : List MonitoredItemId} {nextClientHandle : UInt32}
    (hid : binding.monitoredItemId = id)
    (hle : binding.clientHandle.toNat ≤ binds)
    (hunique : ∀ other found, other ≠ id → v.bindingOf other = some found →
      found.clientHandle = binding.clientHandle → binding.clientHandle = 0)
    (hunbound : binding.clientHandle ∈ v.inFlight →
      binding.backingItemId = 0) :
    HandlesSound
      { v with
        bindingOf := Function.update v.bindingOf id (some binding)
        removals := removals
        nextClientHandle := nextClientHandle }
      binds where
  keyed other found hfound := by
    simp only [Function.update_apply] at hfound
    split at hfound
    next heq => rw [← Option.some.inj hfound, hid, heq]
    next => exact h.keyed other found hfound
  handle_le other found hfound := by
    simp only [Function.update_apply] at hfound
    split at hfound
    next => exact Option.some.inj hfound ▸ hle
    next => exact h.handle_le other found hfound
  handle_unique first second found another hfound hanother heq hne := by
    simp only [Function.update_apply] at hfound hanother
    split at hfound
    next hfirst =>
      split at hanother
      next hsecond => rw [hfirst, hsecond]
      next hsecond =>
        have hbinding := Option.some.inj hfound
        rw [← hbinding] at heq hne
        exact absurd (hunique second another hsecond hanother heq.symm) hne
    next hfirst =>
      split at hanother
      next hsecond =>
        have hbinding := Option.some.inj hanother
        rw [← hbinding] at heq
        rw [heq] at hne
        exact absurd (hunique first found hfirst hfound heq) hne
      next =>
        exact h.handle_unique first second found another hfound hanother heq hne
  inFlight_le := h.inFlight_le
  inFlight_nodup := h.inFlight_nodup
  inFlight_unbound handle hmem other found hfound heq := by
    simp only [Function.update_apply] at hfound
    split at hfound
    next =>
      have hbinding := Option.some.inj hfound
      rw [← hbinding] at heq ⊢
      exact hunbound (heq ▸ hmem)
    next => exact h.inFlight_unbound handle hmem other found hfound heq

theorem erase (id : MonitoredItemId) (removals : List MonitoredItemId) :
    HandlesSound { v.erase id with removals := removals } binds := by
  have hshown : ∀ other found,
      (v.erase id).bindingOf other = some found →
        v.bindingOf other = some found := by
    intro other found hfound
    simp only [BindingView.erase, Function.update_apply] at hfound
    split at hfound
    · simp at hfound
    · exact hfound
  exact
    { keyed := fun other found hfound =>
        h.keyed other found (hshown other found hfound)
      handle_le := fun other found hfound =>
        h.handle_le other found (hshown other found hfound)
      handle_unique := fun first second found another hfound hanother =>
        h.handle_unique first second found another (hshown first found hfound)
          (hshown second another hanother)
      inFlight_le := h.inFlight_le
      inFlight_nodup := h.inFlight_nodup
      inFlight_unbound := fun handle hmem other found hfound =>
        h.inFlight_unbound handle hmem other found (hshown other found hfound) }

theorem spawn {clientHandle : UInt32} (hle : clientHandle.toNat ≤ binds)
    (hnew : clientHandle ∉ v.inFlight) (hunbound : v.Unbound clientHandle) :
    (v.spawn clientHandle).HandlesSound binds :=
  { h with
    inFlight_le := fun handle hmem => by
      rcases List.mem_append.mp hmem with hmem | hmem
      · exact h.inFlight_le handle hmem
      · rw [List.mem_singleton.mp hmem]
        exact hle
    inFlight_nodup := by
      refine List.nodup_append.mpr
        ⟨h.inFlight_nodup, List.nodup_singleton _, ?_⟩
      intro handle hmem other hother heq
      rw [heq, List.mem_singleton.mp hother] at hmem
      exact hnew hmem
    inFlight_unbound := fun handle hmem => by
      rcases List.mem_append.mp hmem with hmem | hmem
      · exact h.inFlight_unbound handle hmem
      · rw [List.mem_singleton.mp hmem]
        exact hunbound }

theorem land (index : ℕ) :
    HandlesSound { v with inFlight := v.inFlight.eraseIdx index } binds :=
  { h with
    inFlight_le := fun handle hmem =>
      h.inFlight_le handle (List.mem_of_mem_eraseIdx hmem)
    inFlight_nodup := h.inFlight_nodup.sublist (List.eraseIdx_sublist _ _)
    inFlight_unbound := fun handle hmem =>
      h.inFlight_unbound handle (List.mem_of_mem_eraseIdx hmem) }

end HandlesSound

/-! ## Holdings -/

theorem Holds.only {v : BindingView} {id g f : MonitoredItemId}
    (hg : v.Holds id g) (hf : v.Holds id f) : f = g := by
  obtain ⟨binding, hbinding, rfl, _⟩ := hg
  obtain ⟨found, hfound, rfl, _⟩ := hf
  rw [hbinding, Option.some.injEq] at hfound
  rw [hfound]

theorem holds_update {v w : BindingView} {id : MonitoredItemId}
    {replaced : Option Binding}
    (hbindings : w.bindingOf = Function.update v.bindingOf id replaced)
    (other g : MonitoredItemId) :
    w.Holds other g ↔
      if other = id then
        ∃ binding, replaced = some binding ∧ binding.backingItemId = g ∧ g ≠ 0
      else v.Holds other g := by
  unfold Holds
  rw [hbindings]
  simp only [Function.update_apply]
  split <;> rfl

theorem holds_congr_of_unbound {v w : BindingView} {id : MonitoredItemId}
    {replaced : Option Binding}
    (hbindings : w.bindingOf = Function.update v.bindingOf id replaced)
    (hbefore : ∀ binding, v.bindingOf id = some binding →
      binding.backingItemId = 0)
    (hafter : ∀ binding, replaced = some binding → binding.backingItemId = 0)
    (other g : MonitoredItemId) : w.Holds other g ↔ v.Holds other g := by
  rw [holds_update hbindings]
  split
  next heq =>
    subst heq
    refine iff_of_false ?_ ?_
    · rintro ⟨binding, hbinding, rfl, hne⟩
      exact hne (hafter binding hbinding)
    · rintro ⟨binding, hbinding, rfl, hne⟩
      exact hne (hbefore binding hbinding)
  next => rfl

theorem holds_congr {v w : BindingView} {id : MonitoredItemId}
    {binding after : Binding}
    (hbindings : w.bindingOf = Function.update v.bindingOf id (some after))
    (hbinding : v.bindingOf id = some binding)
    (hbacking : after.backingItemId = binding.backingItemId)
    (other g : MonitoredItemId) : w.Holds other g ↔ v.Holds other g := by
  rw [holds_update hbindings]
  split
  next heq =>
    subst heq
    unfold Holds
    simp only [hbinding, Option.some.injEq, exists_eq_left', hbacking]
  next => rfl

theorem accounted_release {v w : BindingView} {id : MonitoredItemId}
    {replaced : Option Binding} {binding : Binding}
    {grants : List MonitoredItemId}
    (h : Accounted v.Holds v.removals grants)
    (hbindings : w.bindingOf = Function.update v.bindingOf id replaced)
    (hbinding : v.bindingOf id = some binding)
    (hafter : ∀ found, replaced = some found → found.backingItemId = 0)
    (hremovals : w.removals =
      if binding.backingItemId = 0 then v.removals
      else v.removals ++ [binding.backingItemId]) :
    Accounted w.Holds w.removals grants := by
  rw [hremovals]
  split
  next hzero =>
    refine h.congr (holds_congr_of_unbound hbindings (fun found hfound => ?_)
      hafter)
    rw [hbinding, Option.some.injEq] at hfound
    rw [← hfound, hzero]
  next hne =>
    have hheld : v.Holds id binding.backingItemId :=
      ⟨binding, hbinding, rfl, hne⟩
    refine h.release hheld (fun f hf => hheld.only hf) fun other g => ?_
    rw [holds_update hbindings]
    split
    next heq =>
      subst heq
      refine iff_of_false ?_ (fun hboth => hboth.2 rfl)
      rintro ⟨found, hfound, rfl, hnonzero⟩
      exact hnonzero (hafter found hfound)
    next hother => simp [hother]

/-! ## Steps of the view -/

/-- The backing item id an answered bind grants. -/
def granted (result : MonitoredItemCreateResult) : List MonitoredItemId :=
  if result.status.isBad then [] else [result.monitoredItemId]

/-- The backing item ids which a rebind grants at once. -/
def grantedAtOnce (env : BindEnvironment) : List MonitoredItemId :=
  match env.immediateResults with
  | some results => granted (ServerSubscription.firstResult results)
  | none => []

namespace Sound

variable {v : BindingView} {grants : List MonitoredItemId} {binds : ℕ}
  (h : v.Sound grants binds)
include h

theorem start : v.start.Sound grants binds :=
  { h with
    inFlight_started := fun _ => rfl
    granted_started := fun _ => rfl }

theorem setStatus {binding : Binding} {id : MonitoredItemId}
    (hbinding : v.bindingOf id = some binding) (status : StatusCode) :
    Sound
      { v with
        bindingOf := Function.update v.bindingOf id
          (some { binding with status := status }) }
      grants binds where
  toHandlesSound := h.put (h.keyed id binding hbinding)
    (h.handle_le id binding hbinding)
    (fun other found hne hfound heq => by
      by_contra hnonzero
      exact hne (h.handle_unique other id found binding hfound hbinding heq
        (heq ▸ hnonzero)))
    (fun hmem => h.inFlight_unbound _ hmem id binding hbinding rfl)
  nextHandle := h.nextHandle
  inFlight_started := h.inFlight_started
  granted_started := h.granted_started
  nonzero := h.nonzero
  accounted := h.accounted.congr (holds_congr rfl hbinding rfl)

/-- A new item, which is not bound. -/
theorem emplace {binding : Binding}
    (hnew : v.bindingOf binding.monitoredItemId = none)
    (hhandle : binding.clientHandle = 0) (hbacking : binding.backingItemId = 0) :
    Sound
      { v with
        bindingOf := Function.update v.bindingOf binding.monitoredItemId
          (some binding) }
      grants binds where
  toHandlesSound := h.put rfl (by simp [hhandle]) (fun _ _ _ _ _ => hhandle)
    (fun _ => hbacking)
  nextHandle := h.nextHandle
  inFlight_started := h.inFlight_started
  granted_started := h.granted_started
  nonzero := h.nonzero
  accounted := h.accounted.congr (holds_congr_of_unbound rfl
    (fun binding hbinding => by simp [hnew] at hbinding)
    (fun found hfound => Option.some.inj hfound ▸ hbacking))

/-- An item deleted, and what it held given back. -/
theorem delete {id : MonitoredItemId} {binding : Binding}
    (hbinding : v.bindingOf id = some binding) :
    Sound
      { v.erase id with
        removals :=
          if binding.backingItemId = 0 then v.removals
          else v.removals ++ [binding.backingItemId] }
      grants binds where
  toHandlesSound := h.erase id _
  nextHandle := h.nextHandle
  inFlight_started := h.inFlight_started
  granted_started := h.granted_started
  nonzero := h.nonzero
  accounted := accounted_release h.accounted rfl hbinding (by simp) rfl

theorem nextHandle_toNat (hbinds : binds + 1 < 2 ^ 32) :
    v.nextClientHandle.toNat = binds + 1 := by
  rw [h.nextHandle, UInt32.toNat_ofNat_of_lt' hbinds]

theorem nextHandle_new (hbinds : binds + 1 < 2 ^ 32) :
    v.nextClientHandle ∉ v.inFlight ∧
      ∀ id binding, v.bindingOf id = some binding →
        binding.clientHandle ≠ v.nextClientHandle := by
  have hnext := h.nextHandle_toNat hbinds
  refine ⟨fun hmem => ?_, fun id binding hbinding heq => ?_⟩
  · have hle := h.inFlight_le _ hmem
    omega
  · have hle := h.handle_le id binding hbinding
    rw [heq] at hle
    omega

theorem unbound_nextHandle (hbinds : binds + 1 < 2 ^ 32) (binding : Binding) :
    (v.rebind binding).Unbound v.nextClientHandle := by
  intro id found hfound heq
  simp only [BindingView.rebind, Function.update_apply] at hfound
  split at hfound
  next => rw [← Option.some.inj hfound]
  next => exact absurd heq ((h.nextHandle_new hbinds).2 id found hfound)

/-- The item gives back what it holds and takes the next handle. -/
theorem rebind {binding : Binding}
    (hbinding : v.bindingOf binding.monitoredItemId = some binding)
    (hbinds : binds + 1 < 2 ^ 32) :
    (v.rebind binding).Sound grants (binds + 1) where
  toHandlesSound := by
    obtain ⟨hinFlight, hitems⟩ := h.nextHandle_new hbinds
    refine (h.mono (Nat.le_succ binds)).put rfl ?_ ?_ ?_
    · exact (h.nextHandle_toNat hbinds).le
    · intro other another _ hanother heq
      exact absurd heq (hitems other another hanother)
    · intro _
      rfl
  nextHandle := by
    change v.nextClientHandle + 1 = _
    rw [h.nextHandle, UInt32.ofNat_add (binds + 1) 1]
    rfl
  inFlight_started := h.inFlight_started
  granted_started := h.granted_started
  nonzero := h.nonzero
  accounted := accounted_release h.accounted rfl hbinding
    (fun after hafter => by rw [← Option.some.inj hafter]) rfl

theorem settle {w : BindingView} {clientHandle : UInt32}
    {result : MonitoredItemCreateResult}
    (hstarted : v.started = true) (hnew : clientHandle ∉ v.inFlight)
    (hunbound : v.Unbound clientHandle)
    (hfresh : ∀ id ∈ granted result, id ≠ 0 ∧ id ∉ grants)
    (hsettles : ServerSubscription.Settles v clientHandle result w) :
    w.Sound (grants ++ granted result) binds := by
  unfold granted at hfresh ⊢
  cases hsettles with
  | ignored hbad => simpa [hbad] using h
  | refused hbad id binding hbinding =>
      simpa [hbad] using h.setStatus hbinding result.status.code
  | abandoned hgranted =>
      simp only [hgranted, Bool.false_eq_true, if_false, List.mem_singleton,
        forall_eq] at hfresh ⊢
      rw [if_neg (by simp [hfresh.1, hstarted])]
      exact
        { h with
          granted_started := fun _ => hstarted
          nonzero := by
            simp only [List.mem_append, List.mem_singleton, not_or]
            exact ⟨h.nonzero, hfresh.1.symm⟩
          accounted := h.accounted.abandon hfresh.2 }
  | bound hgranted id binding hbinding hhandle =>
      simp only [hgranted, Bool.false_eq_true, if_false, List.mem_singleton,
        forall_eq] at hfresh ⊢
      have hzero := hunbound id binding hbinding hhandle
      refine
        { nextHandle := h.nextHandle
          inFlight_started := h.inFlight_started
          granted_started := fun _ => hstarted
          nonzero := ?_
          accounted := ?_
          toHandlesSound := ?_ }
      · refine h.put (h.keyed id binding hbinding)
          (h.handle_le id binding hbinding) ?_ ?_
        · intro other found hne hfound heq
          by_contra hnonzero
          exact hne (h.handle_unique other id found binding hfound hbinding heq
            (heq ▸ hnonzero))
        · intro hmem
          rw [hhandle] at hmem
          exact absurd hmem hnew
      · simp only [List.mem_append, List.mem_singleton, not_or]
        exact ⟨h.nonzero, hfresh.1.symm⟩
      · refine h.accounted.grant (k := id) hfresh.2 fun other g => ?_
        rw [holds_update rfl]
        split
        next heq =>
          subst heq
          simp only [Option.some.injEq, exists_eq_left', true_and]
          constructor
          · rintro ⟨rfl, _⟩
            exact .inr rfl
          · rintro (⟨found, hfound, rfl, hne⟩ | rfl)
            · rw [hbinding, Option.some.injEq] at hfound
              rw [← hfound] at hne
              exact absurd hzero hne
            · exact ⟨rfl, hfresh.1⟩
        next hne => simp [hne]

theorem rebinds {w : BindingView} {binding : Binding}
    {env : BindEnvironment} {spawns : Bool}
    (hbinding : v.bindingOf binding.monitoredItemId = some binding)
    (hbinds : spawns = true → binds + 1 < 2 ^ 32)
    (hfresh : spawns = true →
      ∀ id ∈ grantedAtOnce env, id ≠ 0 ∧ id ∉ grants)
    (hrebinds : ServerSubscription.Rebinds v binding env spawns w) :
    w.Sound (grants ++ if spawns then grantedAtOnce env else [])
      (binds + if spawns then 1 else 0) := by
  cases hrebinds with
  | refused status =>
      simpa [BindingView.setStatus] using h.setStatus hbinding status
  | spawned hsuspends =>
      have hrebound := h.start.rebind hbinding (hbinds rfl)
      obtain ⟨hnew, hitems⟩ := h.nextHandle_new (hbinds rfl)
      have hlast := h.nextHandle_toNat (hbinds rfl)
      simp only [if_true, grantedAtOnce, hsuspends, List.append_nil]
      exact
        { hrebound with
          toHandlesSound := hrebound.spawn hlast.le hnew
            (h.start.unbound_nextHandle (hbinds rfl) binding)
          inFlight_started := fun _ => rfl }
  | settled results hresults hsettles =>
      have hrebound := h.start.rebind hbinding (hbinds rfl)
      obtain ⟨hnew, _⟩ := h.nextHandle_new (hbinds rfl)
      have hgranted := hfresh rfl
      simp only [if_true, grantedAtOnce, hresults] at hgranted ⊢
      exact hrebound.settle rfl hnew
        (h.start.unbound_nextHandle (hbinds rfl) binding) hgranted hsettles

end Sound

/-- A new item which is not kept after its rebind holds nothing, unless a bind
was answered at once with a status which is neither bad nor good. -/
theorem unbound_of_rebinds {v w : BindingView} {binding after : Binding}
    {env : BindEnvironment} {spawns : Bool} (hzero : binding.backingItemId = 0)
    (hplain : ∀ results, env.immediateResults = some results →
      (ServerSubscription.firstResult results).status.isBad = true ∨
        (ServerSubscription.firstResult results).status.code = .good)
    (hrebinds : ServerSubscription.Rebinds v binding env spawns w)
    (hafter : w.bindingOf binding.monitoredItemId = some after)
    (hstatus : after.status ≠ .good) : after.backingItemId = 0 := by
  cases hrebinds with
  | refused status =>
      simp only [BindingView.setStatus, Function.update_self,
        Option.some.injEq] at hafter
      rw [← hafter]
      exact hzero
  | spawned hsuspends =>
      simp only [BindingView.spawn, BindingView.rebind, Function.update_self,
        Option.some.injEq] at hafter
      rw [← hafter] at hstatus
      exact absurd rfl hstatus
  | settled results hresults hsettles =>
      have hown : (v.start.rebind binding).bindingOf
          binding.monitoredItemId = some { binding with
            clientHandle := v.start.nextClientHandle
            backingItemId := 0
            status := .good } := Function.update_self _ _ _
      cases hsettles with
      | ignored hbad =>
          rw [hown, Option.some.injEq] at hafter
          rw [← hafter]
      | refused hbad id found hfound =>
          simp only [Function.update_apply] at hafter
          split at hafter
          next heq =>
            rw [← heq, hown, Option.some.injEq] at hfound
            rw [← Option.some.inj hafter, ← hfound]
          next =>
            rw [hown, Option.some.injEq] at hafter
            rw [← hafter]
      | abandoned hgranted =>
          have hsame : (v.start.rebind binding).bindingOf
              binding.monitoredItemId = some after := by
            split at hafter <;> exact hafter
          rw [hown, Option.some.injEq] at hsame
          rw [← hsame]
      | bound hgranted id found hfound hhandle =>
          simp only [Function.update_apply] at hafter
          split at hafter
          next =>
            rw [← Option.some.inj hafter] at hstatus
            rcases hplain results hresults with hbad | hcode
            · rw [hgranted] at hbad
              exact absurd hbad Bool.false_ne_true
            · exact absurd hcode hstatus
          next =>
            rw [hown, Option.some.injEq] at hafter
            rw [← hafter]

/-! ## Handles given up -/

/-- The handles of the first binds which the later view shows are with the items
which had them before. -/
def HandlesFrom (v w : BindingView) (binds : ℕ) : Prop :=
  ∀ id after, w.bindingOf id = some after → after.clientHandle ≠ 0 →
    after.clientHandle.toNat ≤ binds →
      ∃ before, v.bindingOf id = some before ∧
        before.clientHandle = after.clientHandle

namespace HandlesFrom

theorem refl (v : BindingView) (binds : ℕ) : HandlesFrom v v binds :=
  fun _ after hafter _ _ => ⟨after, hafter, rfl⟩

theorem trans {v w x : BindingView} {binds more : ℕ}
    (hvw : HandlesFrom v w binds) (hwx : HandlesFrom w x more)
    (hle : binds ≤ more) : HandlesFrom v x binds := by
  intro id after hafter hne hold
  obtain ⟨middle, hmiddle, hsame⟩ := hwx id after hafter hne (hold.trans hle)
  rw [← hsame] at hne hold ⊢
  exact hvw id middle hmiddle hne hold

/-- One binding is replaced by none, by one without a handle, by one with a new
handle, or by one with the same handle. -/
theorem of_update {v w : BindingView} {binds : ℕ} {id : MonitoredItemId}
    {replaced : Option Binding}
    (hbindings : w.bindingOf = Function.update v.bindingOf id replaced)
    (hreplaced : ∀ after, replaced = some after → after.clientHandle ≠ 0 →
      after.clientHandle.toNat ≤ binds →
        ∃ before, v.bindingOf id = some before ∧
          before.clientHandle = after.clientHandle) :
    HandlesFrom v w binds := by
  intro other after hafter hne hold
  rw [hbindings, Function.update_apply] at hafter
  split at hafter
  next heq =>
    subst heq
    exact hreplaced after hafter hne hold
  next => exact ⟨after, hafter, rfl⟩

theorem erase (v : BindingView) (id : MonitoredItemId) (binds : ℕ) :
    HandlesFrom v (v.erase id) binds :=
  of_update rfl (by simp)

theorem setStatus {v : BindingView} {id : MonitoredItemId} {binding : Binding}
    (hbinding : v.bindingOf id = some binding) (status : StatusCode)
    (binds : ℕ) :
    HandlesFrom v
      { v with
        bindingOf := Function.update v.bindingOf id
          (some { binding with status := status }) }
      binds :=
  of_update rfl fun after hafter _ _ =>
    ⟨binding, hbinding, by rw [← Option.some.inj hafter]⟩

theorem settles {v w : BindingView} {clientHandle : UInt32}
    {result : MonitoredItemCreateResult}
    (h : ServerSubscription.Settles v clientHandle result w) (binds : ℕ) :
    HandlesFrom v w binds := by
  cases h with
  | ignored hbad => exact .refl v binds
  | refused hbad id binding hbinding => exact setStatus hbinding _ binds
  | abandoned hgranted =>
      split
      · exact .refl v binds
      · exact fun id after hafter _ _ => ⟨after, hafter, rfl⟩
  | bound hgranted id binding hbinding hhandle =>
      exact of_update rfl fun after hafter _ _ =>
        ⟨binding, hbinding, by rw [← Option.some.inj hafter]⟩

theorem rebinds {v w : BindingView} {binding : Binding}
    {env : BindEnvironment} {spawns : Bool} {grants : List MonitoredItemId}
    {binds : ℕ} (h : v.Sound grants binds)
    (hbinding : v.bindingOf binding.monitoredItemId = some binding)
    (hbinds : spawns = true → binds + 1 < 2 ^ 32)
    (hrebinds : ServerSubscription.Rebinds v binding env spawns w) :
    HandlesFrom v w binds := by
  have hrebound : binds + 1 < 2 ^ 32 →
      HandlesFrom v (v.start.rebind binding) binds := by
    intro hlt
    refine of_update rfl fun after hafter _ hold => ?_
    have hnext := h.nextHandle_toNat hlt
    rw [← Option.some.inj hafter] at hold
    change v.nextClientHandle.toNat ≤ binds at hold
    omega
  cases hrebinds with
  | refused status => exact setStatus hbinding status binds
  | spawned hsuspends => exact hrebound (hbinds rfl)
  | settled results hresults hsettles =>
      exact (hrebound (hbinds rfl)).trans (settles hsettles binds) le_rfl

end HandlesFrom

end BindingView

end OpcuaStack
