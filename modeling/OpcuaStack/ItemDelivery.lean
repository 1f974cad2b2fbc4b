import OpcuaStack.ItemAccounts

/-!
# What becomes of an item which was promised

`AddItems` answers Good before anything has been asked of the server.  Until an
item is removed it waits for its creation, has the id of the server, or its view
has been told that it was refused.
-/

namespace OpcuaStack

theorem Status.isBad_ofCode_code (status : Status) :
    (Status.ofCode status.code).isBad = status.isBad := by
  have hbits : (status.fullCode >>> 16 <<< 16) >>> 30 = status.fullCode >>> 30 := by
    apply UInt32.toNat_inj.mp
    have hsmall := status.fullCode.toNat_lt
    simp only [UInt32.toNat_shiftRight, UInt32.toNat_shiftLeft,
      Nat.shiftRight_eq_div_pow, Nat.shiftLeft_eq, UInt32.reduceToNat,
      Nat.reduceMod, Nat.reducePow]
    omega
  unfold Status.isBad Status.severity Status.ofCode Status.code
  dsimp only
  rw [hbits]

namespace ClientSubscription

variable {s t : ClientSubscription}

/-! ## What a view has been told -/

/-- Everything which was put into the queue of the view. -/
def pushedTo (s : ClientSubscription) (view : ViewId) : List ItemNotification :=
  match s.viewStates[view]? with
  | none => []
  | some state => state.pushed

/-- The notification tells of a bad status under the client handle. -/
def IsRefusal (clientHandle : UInt32) : ItemNotification → Prop
  | .dataChange notification =>
      notification.clientHandle = clientHandle ∧
        (Status.ofCode notification.value.statusCode).isBad = true
  | .event _ => False

def Refused (s : ClientSubscription) (view : ViewId) (clientHandle : UInt32) :
    Prop :=
  ∃ notification ∈ s.pushedTo view, IsRefusal clientHandle notification

theorem Refused.mono {view : ViewId} {clientHandle : UInt32}
    (h : s.Refused view clientHandle)
    (hpushed : s.pushedTo view ⊆ t.pushedTo view) :
    t.Refused view clientHandle := by
  obtain ⟨notification, hmem, hrefusal⟩ := h
  exact ⟨notification, hpushed hmem, hrefusal⟩

theorem pushedTo_congr (ht : t.viewStates = s.viewStates) (view : ViewId) :
    t.pushedTo view = s.pushedTo view := by
  unfold pushedTo
  rw [ht]

theorem pushedTo_pushNotification (s : ClientSubscription) (view other : ViewId)
    (notification : ItemNotification) :
    (s.pushNotification view notification).pushedTo other =
      s.pushedTo other ++
        if other = view ∧ view < s.viewStates.length ∧ s.isClosed view = false
        then [notification] else [] := by
  unfold pushedTo pushNotification isClosed
  dsimp only
  rw [List.getElem?_modify]
  cases hstate : s.viewStates[other]? with
  | none =>
      have hlength := List.getElem?_eq_none_iff.mp hstate
      have hnot : ¬(other = view ∧ view < s.viewStates.length ∧
          ((s.viewStates[view]?).any (·.closed)) = false) := by
        rintro ⟨rfl, hless, -⟩
        exact absurd hless (not_lt.mpr hlength)
      rw [if_neg hnot]
      rfl
  | some state =>
      by_cases hview : view = other
      · subst hview
        have hless := (List.getElem?_eq_some_iff.mp hstate).1
        simp only [if_true, hstate, Option.map_eq_map, Option.map_some,
          Option.any_some, hless, true_and]
        cases hclosed : state.closed <;> simp
      · simp [hview, Ne.symm hview]

theorem subset_pushNotifications (s : ClientSubscription) (view : ViewId)
    (notifications : List (ViewId × ItemNotification)) :
    s.pushedTo view ⊆ (s.pushNotifications notifications).pushedTo view := by
  induction notifications generalizing s with
  | nil => exact List.Subset.refl _
  | cons notification rest ih =>
      refine List.Subset.trans ?_ (ih (s.pushNotification _ _))
      rw [pushedTo_pushNotification]
      exact List.subset_append_left _ _

theorem pushedTo_readNext (s : ClientSubscription) (call : ReadCall)
    (view : ViewId) : (s.readNext call).pushedTo view = s.pushedTo view := by
  unfold readNext
  split
  · rfl
  split
  · rfl
  split
  · unfold pushedTo
    dsimp only
    rw [List.getElem?_modify]
    cases s.viewStates[view]? with
    | none => rfl
    | some state =>
        by_cases hview : call.view = view
        · simp [hview]
        · simp [hview]
  · rfl

theorem pushedTo_createView (s : ClientSubscription) (view : ViewId) :
    s.createView.pushedTo view = s.pushedTo view := by
  unfold pushedTo createView
  dsimp only
  rw [List.getElem?_append]
  by_cases hview : view < s.viewStates.length
  · rw [if_pos hview]
  · rw [if_neg hview, List.getElem?_eq_none (not_lt.mp hview)]
    cases view - s.viewStates.length <;> rfl

theorem pushedTo_closeView (s : ClientSubscription) (view other : ViewId)
    (status : Status) :
    (s.closeView view status).pushedTo other = s.pushedTo other := by
  obtain heq | ⟨state, hstate, -, heq⟩ := s.closeView_cases view status
  · rw [heq]
  rw [heq]
  unfold pushedTo
  dsimp only
  by_cases hview : view = other
  · subst hview
    rw [hstate, List.getElem?_set_self (List.getElem?_eq_some_iff.mp hstate).1]
  · rw [List.getElem?_set_ne hview]

/-! ## What a run relies on -/

/-- The creation does not fail while items wait for it. -/
def FailsWithoutItems (s : ClientSubscription) : ClientSubscriptionEvent → Prop
  | .creationFinished status =>
      s.creation = some .creating → status.isBad = true →
        s.pendingSubscriptions = []
  | _ => True

instance (s : ClientSubscription) :
    (event : ClientSubscriptionEvent) → Decidable (s.FailsWithoutItems event)
  | .creationFinished _ => inferInstanceAs (Decidable (_ → _ → _))
  | .createView | .addItems _ _ | .addNext _ | .flushPendingSubscriptions
  | .createStarts _ | .createFinished _ _ | .removeItems _ _ | .removeNext _
  | .closeView _ _ | .closeNext _ | .deleteStarts _ | .deleteFinished _ _
  | .publishResponse _ | .readNext _ _ | .readerWakes _ => isTrue trivial

/-- An item is added while the subscription is there or being created. -/
def AddsWhilePresent (s : ClientSubscription) : ClientSubscriptionEvent → Prop
  | .addNext index =>
      ∀ call ∈ s.addCalls[index]?, call.requests ≠ [] →
        s.isCreating = true ∨ s.impl.isSome = true
  | _ => True

instance (s : ClientSubscription) :
    (event : ClientSubscriptionEvent) → Decidable (s.AddsWhilePresent event)
  | .addNext index =>
      show Decidable (∀ call ∈ s.addCalls[index]?, call.requests ≠ [] →
        s.isCreating = true ∨ s.impl.isSome = true) from
        Option.decidableForallMem _
  | .createView | .addItems _ _ | .creationFinished _
  | .flushPendingSubscriptions | .createStarts _ | .createFinished _ _
  | .removeItems _ _ | .removeNext _ | .closeView _ _ | .closeNext _
  | .deleteStarts _ | .deleteFinished _ _ | .publishResponse _
  | .readNext _ _ | .readerWakes _ => isTrue trivial

def refusesItem : StatusOr MonitoredItemId → Bool
  | .ok _ => false
  | .error _ _ => true

instance (s : ClientSubscription) (view : ViewId) (localId : UInt32) :
    Decidable (s.Leaving view localId) :=
  show Decidable (∃ call ∈ s.closeCalls, call.view = view ∧
      ∀ localIds ∈ call.localIds, localId ∈ localIds) from
    have : ∀ call : CloseCall,
        Decidable (∀ localIds ∈ call.localIds, localId ∈ localIds) :=
      fun _ => Option.decidableForallMem _
    inferInstance

/-- An item is refused to an open view, or to a closed one which is going to
remove it. -/
def RefusesToOpenView (s : ClientSubscription) : ClientSubscriptionEvent → Prop
  | .createFinished index response =>
      ∀ create ∈ s.creates[index]?, refusesItem (createdItem response) = true →
        (create.item.view < s.viewStates.length ∧
            s.isClosed create.item.view = false) ∨
          s.itemsByLocalId.lookup create.item.localId = none ∨
          s.Leaving create.item.view create.item.localId
  | _ => True

instance (s : ClientSubscription) :
    (event : ClientSubscriptionEvent) → Decidable (s.RefusesToOpenView event)
  | .createFinished index response =>
      show Decidable (∀ create ∈ s.creates[index]?,
        refusesItem (createdItem response) = true →
          (create.item.view < s.viewStates.length ∧
              s.isClosed create.item.view = false) ∨
            s.itemsByLocalId.lookup create.item.localId = none ∨
            s.Leaving create.item.view create.item.localId) from
        Option.decidableForallMem _
  | .createView | .addItems _ _ | .addNext _ | .creationFinished _
  | .flushPendingSubscriptions | .createStarts _ | .removeItems _ _
  | .removeNext _ | .closeView _ _ | .closeNext _ | .deleteStarts _
  | .deleteFinished _ _ | .publishResponse _ | .readNext _ _
  | .readerWakes _ => isTrue trivial

/-! ## Items settle -/

def Held (s : ClientSubscription) (item : AddedItem) (record : ItemRecord) :
    Prop :=
  record.serverId ≠ 0 ∨ item.localId ∈ s.waiting.map (·.localId) ∨
    s.Refused item.view item.clientHandle ∨ s.Leaving item.view item.localId

structure Settled (s : ClientSubscription) : Prop where
  held : ∀ item ∈ s.added, ∀ record,
    s.itemsByLocalId.lookup item.localId = some record → s.Held item record
  pending : s.pendingSubscriptions ≠ [] → s.creation.isSome = true

theorem Held.mono {item : AddedItem} {record : ItemRecord} (h : s.Held item record)
    (hwaiting : item.localId ∈ s.waiting.map (·.localId) →
      item.localId ∈ t.waiting.map (·.localId))
    (hpushed : s.pushedTo item.view ⊆ t.pushedTo item.view)
    (hleaving : s.Leaving item.view item.localId →
      t.Leaving item.view item.localId) : t.Held item record := by
  rcases h with hid | hwaits | hrefused | hleaves
  · exact Or.inl hid
  · exact Or.inr (Or.inl (hwaiting hwaits))
  · exact Or.inr (Or.inr (Or.inl (hrefused.mono hpushed)))
  · exact Or.inr (Or.inr (Or.inr (hleaving hleaves)))

theorem Settled.of_same (h : s.Settled) (hsame : s.SameItems t)
    (hwaiting : s.waiting.Subperm t.waiting)
    (hpushed : ∀ view, s.pushedTo view ⊆ t.pushedTo view)
    (hpending : t.pendingSubscriptions ≠ [] → t.creation.isSome = true) :
    t.Settled := by
  refine ⟨?_, hpending⟩
  intro item hitem record hlookup
  rw [hsame.added] at hitem
  rw [hsame.itemsByLocalId] at hlookup
  refine (h.held item hitem record hlookup).mono ?_ (hpushed _) ?_
  · exact fun hmem =>
      List.map_subset (·.localId) (List.Subperm.subset hwaiting) hmem
  · intro hleaving
    unfold Leaving
    rw [hsame.closeCalls]
    exact hleaving

theorem Settled.of_same_views (h : s.Settled) (hsame : s.SameItems t)
    (hviews : t.viewStates = s.viewStates) (hwaiting : t.waiting = s.waiting)
    (hpending : t.pendingSubscriptions = s.pendingSubscriptions)
    (hcreation : t.creation = s.creation) : t.Settled := by
  refine h.of_same hsame (hwaiting ▸ List.Subperm.refl _)
    (fun view => by rw [pushedTo_congr hviews]; exact List.Subset.refl _) ?_
  rw [hpending, hcreation]
  exact h.pending

theorem Settled.pushNotifications (h : s.Settled)
    (notifications : List (ViewId × ItemNotification)) :
    (s.pushNotifications notifications).Settled := by
  refine h.of_same (sameItems_pushNotifications s notifications) ?_
    (fun view => subset_pushNotifications s view notifications) ?_
  · rw [waiting_pushNotifications]
  · rw [pushNotifications_frame]
    exact h.pending

theorem Settled.publishResponse (h : s.Settled) (response : PublishResponse) :
    (s.publishResponse response).Settled := by
  obtain ⟨-, heq⟩ | ⟨handlers, -, heq⟩ := s.publishResponse_cases response
  · rw [heq]
    exact h
  · rw [heq]
    apply Settled.pushNotifications
    exact h.of_same_views ⟨rfl, rfl, rfl, rfl, rfl, fun _ => rfl⟩ rfl rfl rfl rfl

theorem Settled.readNext (h : s.Settled) (call : ReadCall) :
    (s.readNext call).Settled := by
  refine h.of_same (sameItems_readNext s call) ?_ ?_ ?_
  · rw [waiting_readNext]
  · intro view
    rw [pushedTo_readNext]
    exact List.Subset.refl _
  · have hpending := h.pending
    unfold ClientSubscription.readNext
    split
    · exact hpending
    split
    · exact hpending
    split <;> exact hpending

theorem Settled.readerWakes (h : s.Settled) (index : ℕ) :
    (s.readerWakes index).Settled := by
  unfold ClientSubscription.readerWakes
  split
  · exact h
  · apply Settled.readNext
    exact h.of_same_views ⟨rfl, rfl, rfl, rfl, rfl, fun _ => rfl⟩ rfl rfl rfl rfl

theorem Settled.addItems (h : s.Settled) (view : ViewId)
    (requests : List MonitoredItemCreateRequest) :
    (s.addItems view requests).Settled := by
  unfold ClientSubscription.addItems ClientSubscription.ensureCreated
  split
  case isFalse => exact h
  case isTrue =>
    dsimp only
    split
    · exact h.of_same_views ⟨rfl, rfl, rfl, rfl, rfl, fun _ => rfl⟩ rfl rfl rfl
        rfl
    · exact h.of_same ⟨rfl, rfl, rfl, rfl, rfl, fun _ => rfl⟩
        (List.Subperm.refl _) (fun _ => List.Subset.refl _) (fun _ => rfl)

theorem Settled.addItem (h : s.Settled) (hsound : s.Sound) (hstage : s.Stage)
    (hnew : s.nextLocalId ∉ s.added.map (·.localId))
    (hpresent : s.isCreating = true ∨ s.impl.isSome = true) (view : ViewId)
    (request : MonitoredItemCreateRequest) :
    (s.addItem view request).Settled := by
  have hwaiting := (waiting_addItem s view request).map (·.localId)
  constructor
  case held =>
    intro item hitem record hlookup
    rw [hsound.lookup_addItem hnew] at hlookup
    split at hlookup
    · next hlocal =>
      refine Or.inr (Or.inl (hwaiting.symm.subset ?_))
      rw [hlocal]
      exact List.mem_cons_self
    · next hlocal =>
      rcases List.mem_append.mp hitem with hold | hlast
      · refine (h.held item hold record hlookup).mono ?_ (List.Subset.refl _) id
        exact fun hmem => hwaiting.symm.subset (List.mem_cons_of_mem _ hmem)
      · exact absurd (congrArg AddedItem.localId (List.mem_singleton.mp hlast))
          hlocal
  case pending =>
    intro hpending
    cases hcreating : s.isCreating with
    | true =>
        change s.creation.isSome = true
        rw [hstage.creating.mp hcreating]
        rfl
    | false =>
        -- The item is not deferred.
        have hsome : s.impl.isNone = false := by
          rcases hpresent with htrue | hsome
          · exact absurd (hcreating.symm.trans htrue) (by simp)
          · cases himpl : s.impl with
            | none => simp [himpl] at hsome
            | some handlers => rfl
        unfold ClientSubscription.addItem at hpending
        simp only [hcreating, hsome, Bool.or_false, Bool.false_eq_true,
          if_false] at hpending
        exact h.pending hpending

theorem Settled.addNext (h : s.Settled) (hsound : s.Sound) (hstage : s.Stage)
    {index : ℕ} (hnew : s.NewLocalId (.addNext index))
    (hpresent : s.AddsWhilePresent (.addNext index)) :
    (s.addNext index).Settled := by
  unfold ClientSubscription.addNext
  cases hcall : s.addCalls[index]? with
  | none => exact h
  | some call =>
      obtain ⟨view, requests, results⟩ := call
      cases requests with
      | nil =>
          exact h.of_same_views ⟨rfl, rfl, rfl, rfl, rfl, fun _ => rfl⟩ rfl rfl
            rfl rfl
      | cons request rest =>
          have hthere := hpresent _ (Option.mem_def.mpr hcall)
            (List.cons_ne_nil _ _)
          have hadded := h.addItem hsound hstage hnew hthere view request
          exact hadded.of_same_views ⟨rfl, rfl, rfl, rfl, rfl, fun _ => rfl⟩ rfl
            rfl rfl rfl

theorem Settled.creationFinished (h : s.Settled) {status : Status}
    (hfails : s.FailsWithoutItems (.creationFinished status)) :
    (s.creationFinished status).Settled := by
  unfold ClientSubscription.creationFinished
  split
  case isFalse => exact h
  case isTrue hcreating =>
    split
    case isTrue hbad =>
      have hnone := hfails hcreating hbad
      refine h.of_same ⟨rfl, rfl, rfl, rfl, rfl, fun _ => rfl⟩ ?_
        (fun _ => List.Subset.refl _) (fun hpending => absurd rfl hpending)
      unfold waiting
      rw [hnone]
    case isFalse =>
      exact h.of_same ⟨rfl, rfl, rfl, rfl, rfl, fun _ => rfl⟩
        (List.Subperm.refl _) (fun _ => List.Subset.refl _) (fun _ => rfl)

theorem Settled.flushPendingSubscriptions (h : s.Settled) :
    s.flushPendingSubscriptions.Settled := by
  refine h.of_same (sameItems_flushPendingSubscriptions s)
    (waiting_flushPendingSubscriptions s).symm.subperm ?_ ?_
  · intro view
    unfold ClientSubscription.flushPendingSubscriptions
    split <;> exact List.Subset.refl _
  · intro hpending
    unfold ClientSubscription.flushPendingSubscriptions at hpending ⊢
    split at hpending
    · exact absurd rfl hpending
    · next hstage =>
      rw [if_neg hstage]
      exact h.pending hpending

theorem Settled.createStarts (h : s.Settled) (hstage : s.Stage) (index : ℕ) :
    (s.createStarts index).Settled := by
  obtain heq | ⟨item, handlers, hcreate, -, -, heq⟩ :=
    createStarts_cases fun _ hcreate => hstage.issues_of_create hcreate
  · rw [heq]
    exact h
  · rw [heq]
    refine h.of_same_views ⟨rfl, rfl, rfl, rfl, rfl, fun _ => rfl⟩ rfl ?_ rfl rfl
    exact waiting_set hcreate (some handlers.nextClientHandle)

theorem pushedTo_itemCreated (s : ClientSubscription) (localId : UInt32)
    (serverId : MonitoredItemId) (view : ViewId) :
    (s.itemCreated localId serverId).pushedTo view = s.pushedTo view := by
  cases hlookup : s.itemsByLocalId.lookup localId with
  | none =>
      rw [itemCreated_of_none hlookup]
      rfl
  | some record =>
      rw [itemCreated_of_some hlookup]
      rfl

theorem Held.createReturns {item : AddedItem} {record : ItemRecord}
    (h : s.Held item record) {index : ℕ} {create : ItemCreate}
    (hcreate : s.creates[index]? = some create)
    (hother : item.localId ≠ create.item.localId) (clientHandle : UInt32)
    (result : StatusOr MonitoredItemId) :
    (s.createReturns index clientHandle result).Held item record := by
  refine h.mono ?_ (List.Subset.refl _) id
  intro hmem
  have hcons := ((waiting_eraseIdx hcreate).map (·.localId)).subset hmem
  rcases List.mem_cons.mp hcons with heq | hrest
  · exact absurd heq hother
  · exact hrest

theorem Settled.itemCreated_of_returned (h : s.Settled) {index : ℕ}
    {create : ItemCreate} (hcreate : s.creates[index]? = some create)
    (clientHandle : UInt32) {serverId : MonitoredItemId} (hid : serverId ≠ 0) :
    ((s.createReturns index clientHandle (.ok serverId)).itemCreated
      create.item.localId serverId).Settled := by
  cases hrecord : (s.createReturns index clientHandle
      (.ok serverId)).itemsByLocalId.lookup create.item.localId with
  | none =>
      rw [itemCreated_of_none hrecord]
      refine ⟨?_, h.pending⟩
      intro item hitem record hlookup
      have hother : item.localId ≠ create.item.localId := by
        intro heq
        rw [heq] at hlookup
        exact absurd (hrecord.symm.trans hlookup) (by simp)
      exact (h.held item hitem record hlookup).createReturns hcreate hother
        clientHandle (.ok serverId)
  | some before =>
      rw [itemCreated_of_some hrecord]
      refine ⟨?_, h.pending⟩
      intro item hitem record hlookup
      rw [KeyedMap.lookup_insert_eq] at hlookup
      split at hlookup
      · obtain rfl := Option.some.inj hlookup
        exact Or.inl hid
      · next hother =>
        exact (h.held item hitem record hlookup).createReturns hcreate hother
          clientHandle (.ok serverId)

theorem pushedTo_refuse (s : ClientSubscription) (item : PendingSubscription)
    (status : Status) (view : ViewId) :
    s.pushedTo view ⊆ (s.refuse item status).pushedTo view := by
  unfold refuse
  rw [pushedTo_pushNotification]
  exact List.subset_append_left _ _

theorem refused_refuse {item : PendingSubscription} {status : Status}
    (hbad : status.isBad = true) (hview : item.view < s.viewStates.length)
    (hopen : s.isClosed item.view = false) :
    (s.refuse item status).Refused item.view item.clientHandle := by
  refine ⟨.dataChange { clientHandle := item.clientHandle
                        value := .ofStatus status.code {} }, ?_, rfl, ?_⟩
  · unfold refuse
    rw [pushedTo_pushNotification, if_pos ⟨rfl, hview, hopen⟩]
    exact List.mem_append_right _ List.mem_cons_self
  · exact (Status.isBad_ofCode_code status).trans hbad

theorem Settled.refuse_of_returned (h : s.Settled) (hsound : s.Sound)
    {index : ℕ} {create : ItemCreate}
    (hcreate : s.creates[index]? = some create) (clientHandle : UInt32)
    {status : Status} (hbad : status.isBad = true)
    (hopen : (create.item.view < s.viewStates.length ∧
        s.isClosed create.item.view = false) ∨
      s.itemsByLocalId.lookup create.item.localId = none ∨
      s.Leaving create.item.view create.item.localId) :
    ((s.createReturns index clientHandle (.error status hbad)).refuse
      create.item status).Settled := by
  refine ⟨?_, h.pending⟩
  intro item hitem record hlookup
  by_cases hlocal : item.localId = create.item.localId
  · have hwaits : create.item ∈ s.waiting :=
      (waiting_eraseIdx hcreate).symm.subset List.mem_cons_self
    obtain ⟨known, hknown, hids, hview, hhandle⟩ := hsound.waits _ hwaits
    obtain rfl : item = known :=
      hsound.item_eq hitem hknown (hlocal.trans hids.symm)
    rcases hopen with ⟨hless, hopen⟩ | hnone | hleaving
    · refine Or.inr (Or.inr (Or.inl ?_))
      rw [hview, hhandle]
      exact refused_refuse hbad hless hopen
    · rw [← hlocal] at hnone
      exact absurd (hnone.symm.trans hlookup) (by simp)
    · rw [← hlocal, ← hview] at hleaving
      exact Or.inr (Or.inr (Or.inr hleaving))
  · have hreturns := (h.held item hitem record hlookup).createReturns hcreate
      hlocal clientHandle (.error status hbad)
    exact hreturns.mono id (pushedTo_refuse _ _ _ _) id

theorem Settled.createFinished (h : s.Settled) (hsound : s.Sound) {index : ℕ}
    {response : StatusOr CreateMonitoredItemsResponse}
    (husable : s.UsableIds (.createFinished index response))
    (hopen : s.RefusesToOpenView (.createFinished index response)) :
    (s.createFinished index response).Settled := by
  obtain heq | ⟨item, clientHandle, hcreate, ⟨serverId, hresult, heq⟩ |
    ⟨status, hbad, hresult, heq⟩⟩ := s.createFinished_cases index response
  · rw [heq]
    exact h
  · rw [heq]
    have hguard : usableId (createdItem response) = true := husable
    rw [hresult] at hguard
    exact h.itemCreated_of_returned hcreate clientHandle
      (of_decide_eq_true hguard)
  · rw [heq]
    have hrefuses : refusesItem (createdItem response) = true := by
      rw [hresult]
      rfl
    exact h.refuse_of_returned hsound hcreate clientHandle hbad
      (hopen _ (Option.mem_def.mpr hcreate) hrefuses)

theorem waiting_removeItem_of_ne {view : ViewId} {localId other : UInt32}
    (hne : other ≠ localId) (hmem : other ∈ s.waiting.map (·.localId)) :
    other ∈ (s.removeItem view localId).waiting.map (·.localId) := by
  obtain ⟨item, hitem, rfl⟩ := List.mem_map.mp hmem
  refine List.mem_map.mpr ⟨item, ?_, rfl⟩
  have hkept : (s.removeItem view localId).pendingSubscriptions =
      s.pendingSubscriptions.filter (·.localId ≠ localId) := by
    unfold ClientSubscription.removeItem
    dsimp only
    cases s.itemsByLocalId.lookup localId <;> rfl
  unfold waiting at hitem ⊢
  rw [hkept, (s.removeItem_frame view localId).2.2.2.2]
  rcases List.mem_append.mp hitem with hpending | hcreate
  · exact List.mem_append_left _
      (List.mem_filter.mpr ⟨hpending, decide_eq_true hne⟩)
  · exact List.mem_append_right _ hcreate

theorem Settled.removeItem (h : s.Settled) (view : ViewId) (localId : UInt32) :
    (s.removeItem view localId).Settled := by
  obtain ⟨hadded, hviews, -, hcloseCalls, -⟩ := s.removeItem_frame view localId
  constructor
  case held =>
    intro item hitem record hlookup
    rw [hadded] at hitem
    rw [lookup_removeItem] at hlookup
    split at hlookup
    · exact absurd hlookup (by simp)
    · next hne =>
      refine (h.held item hitem record hlookup).mono
        (waiting_removeItem_of_ne hne) ?_ ?_
      · rw [pushedTo_congr hviews]
        exact List.Subset.refl _
      · intro hleaving
        unfold Leaving
        rw [hcloseCalls]
        exact hleaving
  case pending =>
    intro hpending
    have hfiltered : s.pendingSubscriptions.filter (·.localId ≠ localId) ≠ [] ∧
        (s.removeItem view localId).creation = s.creation := by
      unfold ClientSubscription.removeItem at hpending ⊢
      dsimp only at hpending ⊢
      cases hlookup : s.itemsByLocalId.lookup localId with
      | none =>
          rw [hlookup] at hpending
          exact ⟨hpending, rfl⟩
      | some record =>
          rw [hlookup] at hpending
          exact ⟨hpending, rfl⟩
    rw [hfiltered.2]
    apply h.pending
    intro hnone
    exact hfiltered.1 (by rw [hnone]; rfl)

theorem Settled.removeNext (h : s.Settled) (index : ℕ) :
    (s.removeNext index).Settled := by
  unfold ClientSubscription.removeNext
  have hcalls : ∀ removeCalls : List RemoveCall,
      { s with removeCalls }.Settled := fun _ => ⟨h.held, h.pending⟩
  split
  · exact h
  split
  · exact (hcalls _).removeItem _ _
  split
  · exact hcalls _
  split <;> exact hcalls _

theorem Settled.closeView (h : s.Settled) (view : ViewId) (status : Status) :
    (s.closeView view status).Settled := by
  have hpushed := fun other => s.pushedTo_closeView view other status
  obtain heq | ⟨state, -, -, heq⟩ := s.closeView_cases view status
  · rw [heq]
    exact h
  rw [heq] at hpushed ⊢
  refine ⟨?_, h.pending⟩
  intro item hitem record hlookup
  refine (h.held item hitem record hlookup).mono id ?_ ?_
  · rw [hpushed]
    exact List.Subset.refl _
  · rintro ⟨call, hcall, hrest⟩
    exact ⟨call, List.mem_append_left _ hcall, hrest⟩

theorem Settled.closeNext (h : s.Settled) (hsound : s.Sound) (index : ℕ) :
    (s.closeNext index).Settled := by
  have hleaves : ∀ item ∈ s.added, ∀ record,
      (s.closeNext index).itemsByLocalId.lookup item.localId = some record →
      s.Leaving item.view item.localId →
        (s.closeNext index).Leaving item.view item.localId := by
    intro item hitem record hlookup hleaving
    have hrecorded := hsound.recorded _ _ (lookup_closeNext hlookup)
    have hview : item.view = record.view :=
      hsound.view_eq ⟨item, hitem, rfl, rfl⟩ hrecorded
    rw [hview] at hleaving ⊢
    exact hleaving.closeNext hlookup
  unfold ClientSubscription.closeNext at hleaves ⊢
  cases hcall : s.closeCalls[index]? with
  | none => exact h
  | some call =>
      rw [hcall] at hleaves
      obtain ⟨view, localIds⟩ := call
      match localIds with
      | none =>
          refine ⟨fun item hitem record hlookup => ?_, h.pending⟩
          exact (h.held item hitem record hlookup).mono id (List.Subset.refl _)
            (hleaves item hitem record hlookup)
      | some [] =>
          refine ⟨fun item hitem record hlookup => ?_, h.pending⟩
          exact (h.held item hitem record hlookup).mono id (List.Subset.refl _)
            (hleaves item hitem record hlookup)
      | some (localId :: rest) =>
          have hremoved := h.removeItem view localId
          have hadded := (s.removeItem_frame view localId).1
          dsimp only at hleaves ⊢
          rw [removeItem_closeCalls] at hleaves ⊢
          refine ⟨fun item hitem record hlookup => ?_, hremoved.pending⟩
          refine (hremoved.held item hitem record hlookup).mono id
            (List.Subset.refl _) ?_
          intro hleaving
          apply hleaves item (hadded ▸ hitem) record hlookup
          unfold Leaving at hleaving
          rwa [(s.removeItem_frame view localId).2.2.2.1] at hleaving

theorem Settled.deleteStarts (h : s.Settled) (index : ℕ) :
    (s.deleteStarts index).Settled := by
  unfold ClientSubscription.deleteStarts
  split
  · split <;> exact ⟨h.held, h.pending⟩
  · exact h

theorem Settled.deleteFinished (h : s.Settled) (index : ℕ) (answered : Bool) :
    (s.deleteFinished index answered).Settled := by
  unfold ClientSubscription.deleteFinished
  split
  · exact ⟨h.held, h.pending⟩
  · exact h

theorem Settled.step (h : s.Settled) (hsound : s.Sound) (hstage : s.Stage)
    {event : ClientSubscriptionEvent} (hnew : s.NewLocalId event)
    (husable : s.UsableIds event) (hfails : s.FailsWithoutItems event)
    (hpresent : s.AddsWhilePresent event) (hopen : s.RefusesToOpenView event) :
    (s.step event).Settled := by
  cases event with
  | createView =>
      refine h.of_same s.sameItems_createView (List.Subperm.refl _) ?_ h.pending
      intro view
      change s.pushedTo view ⊆ s.createView.pushedTo view
      rw [pushedTo_createView]
      exact List.Subset.refl _
  | addItems view requests => exact h.addItems view requests
  | addNext index => exact h.addNext hsound hstage hnew hpresent
  | creationFinished status => exact h.creationFinished hfails
  | flushPendingSubscriptions => exact h.flushPendingSubscriptions
  | createStarts index => exact h.createStarts hstage index
  | createFinished index response => exact h.createFinished hsound husable hopen
  | removeItems view itemIds => exact ⟨h.held, h.pending⟩
  | removeNext index => exact h.removeNext index
  | closeView view status => exact h.closeView view status
  | closeNext index => exact h.closeNext hsound index
  | deleteStarts index => exact h.deleteStarts index
  | deleteFinished index answered => exact h.deleteFinished index answered
  | publishResponse response => exact h.publishResponse response
  | readNext view maxCount => exact h.readNext { view, maxCount }
  | readerWakes index => exact h.readerWakes index

/-! ## Runs -/

/-- An item which was reported Good and has not been removed has the id of the
server, or its view has been pushed a bad status for its client handle. -/
def NoItemLost (s : ClientSubscription) : Prop :=
  ∀ item ∈ s.added, item.result.status.isGood = true →
    (∀ removal ∈ s.removals, removal.localId ≠ item.localId) →
      (∃ record, s.itemsByLocalId.lookup item.localId = some record ∧
        record.serverId ≠ 0) ∨ s.Refused item.view item.clientHandle

theorem Settled.noItemLost (h : s.Settled) (hsound : s.Sound)
    (hquiescent : s.Quiescent) : s.NoItemLost := by
  intro item hitem _ hkept
  cases hlookup : s.itemsByLocalId.lookup item.localId with
  | none =>
      obtain ⟨removal, hremoval, hlocal⟩ := hsound.removed item hitem hlookup
      exact absurd hlocal (hkept removal hremoval)
  | some record =>
      have hnone : s.waiting = [] := by
        have hpending : s.pendingSubscriptions = [] := by
          by_contra hpending
          have hcreation := h.pending hpending
          rw [hquiescent.creation] at hcreation
          exact absurd hcreation (by simp)
        unfold waiting
        rw [hpending, hquiescent.creates]
        rfl
      rcases h.held item hitem record hlookup with
        hid | hwaits | hrefused | ⟨call, hcall, -⟩
      · exact Or.inl ⟨record, rfl, hid⟩
      · simp [hnone] at hwaits
      · exact Or.inr hrefused
      · simp [hquiescent.closeCalls] at hcall

/-- What a run relies on: local ids do not wrap around, the server gives usable
ids, no item waits for a creation which fails or is not running, and none is
refused to a closed view which keeps it. -/
def KeepsItems (s : ClientSubscription) (event : ClientSubscriptionEvent) : Prop :=
  s.NewLocalId event ∧ s.UsableIds event ∧ s.FailsWithoutItems event ∧
    s.AddsWhilePresent event ∧ s.RefusesToOpenView event

instance (s : ClientSubscription) (event : ClientSubscriptionEvent) :
    Decidable (s.KeepsItems event) :=
  inferInstanceAs (Decidable (_ ∧ _ ∧ _ ∧ _ ∧ _))

theorem no_item_lost (events : List ClientSubscriptionEvent)
    (hguard : AllMeet step KeepsItems {} events) :
    let s := runFrom step ({} : ClientSubscription) events
    s.Quiescent → s.NoItemLost := by
  intro s
  have hstep : ∀ (s : ClientSubscription) (event : ClientSubscriptionEvent),
      (s.Sound ∧ s.Stage ∧ s.Settled) → s.KeepsItems event →
        (s.step event).Sound ∧ (s.step event).Stage ∧ (s.step event).Settled := by
    intro s event ⟨hsound, hstage, hsettled⟩ ⟨hnew, husable, hfails, hpresent,
      hopen⟩
    exact ⟨hsound.step hnew, hstage.step event,
      hsettled.step hsound hstage hnew husable hfails hpresent hopen⟩
  have hempty : ({} : ClientSubscription).Settled :=
    ⟨fun _ hitem => absurd hitem List.not_mem_nil, fun hne => absurd rfl hne⟩
  obtain ⟨hsound, -, hsettled⟩ := runFrom_invariant hstep
    ⟨sound_initial, stage_initial, hempty⟩ hguard
  exact hsettled.noItemLost hsound

/-- Of two items which are added while the subscription is created, the second is
refused. -/
def secondItemRefused : List ClientSubscriptionEvent :=
  [.createView, .addItems 0 [sampleRequest, sampleRequest], .addNext 0,
    .addNext 0, .creationFinished .good, .addNext 0, .flushPendingSubscriptions,
    .createStarts 0, .createStarts 1, .createFinished 0 (createdWithId 7),
    .createFinished 0 (.error (.ofCode .bad) Status.isBad_ofCode_bad)]

theorem second_item_refused :
    (runFrom step ({} : ClientSubscription) secondItemRefused).NoItemLost ∧
      ((runFrom step ({} : ClientSubscription) secondItemRefused).pushedTo
        0).length = 1 := by
  have hguard : AllMeet step KeepsItems {} secondItemRefused := by
    decide
  exact ⟨no_item_lost secondItemRefused hguard ⟨rfl, rfl, rfl, rfl, rfl, rfl⟩,
    by decide⟩

/-- The creation fails while an item waits for it. -/
def creationFails : List ClientSubscriptionEvent :=
  [.createView, .addItems 0 [sampleRequest], .addNext 0, .addNext 0,
    .creationFinished (.ofCode .bad)]

theorem item_lost_when_creation_fails :
    (runFrom step ({} : ClientSubscription) creationFails).Quiescent ∧
      ¬(runFrom step ({} : ClientSubscription) creationFails).NoItemLost := by
  refine ⟨⟨rfl, rfl, rfl, rfl, rfl, rfl⟩, ?_⟩
  intro hkept
  let item : AddedItem :=
    { view := 0, clientHandle := 0,
      result := ({} : ClientSubscription).addResult sampleRequest }
  have hitem : item ∈
      (runFrom step ({} : ClientSubscription) creationFails).added :=
    List.mem_cons_self
  rcases hkept item hitem (by decide) (fun _ hremoval => absurd hremoval List.not_mem_nil)
    with ⟨record, hlookup, hid⟩ | ⟨notification, hmem, -⟩
  · have hrecord : (runFrom step ({} : ClientSubscription)
        creationFails).itemsByLocalId.lookup 1 = some { view := 0 } := by
      decide
    obtain rfl := Option.some.inj (hrecord.symm.trans hlookup)
    exact hid rfl
  · exact absurd hmem List.not_mem_nil

end ClientSubscription
end OpcuaStack
