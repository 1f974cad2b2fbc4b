import OpcuaStack.ClientItems

/-!
# What a client subscription holds on the server

Every item which the server has created is the `server_id` of a record, waits for
its deletion, or has had its deletion issued.
-/

namespace OpcuaStack
namespace ClientSubscription

variable {s t : ClientSubscription}

/-! ## The stage of the creation -/

/-- Nothing has been asked of the server. -/
structure Idle (s : ClientSubscription) : Prop where
  creates : s.creates = []
  deletes : s.deletes = []
  createdItems : s.createdItems = []
  unset : ∀ localId record, s.itemsByLocalId.lookup localId = some record →
    record.serverId = 0

structure SameStage (s t : ClientSubscription) : Prop where
  present : t.impl.isSome = s.impl.isSome
  issuesDeletes : t.issuesDeletes = s.issuesDeletes
  isCreating : t.isCreating = s.isCreating
  creation : t.creation = s.creation

structure Stage (s : ClientSubscription) : Prop where
  creating : s.isCreating = true ↔ s.creation = some .creating
  present : s.impl.isSome = (s.isCreating || s.issuesDeletes)
  unready : s.isCreating = true → s.issuesDeletes = false
  flushing : s.creation = some .flushing → s.issuesDeletes = true
  idle : s.issuesDeletes = false → s.Idle

theorem Stage.of_sameStage (h : s.Stage) (hsame : s.SameStage t)
    (hidle : t.issuesDeletes = false → t.Idle) : t.Stage where
  creating := by rw [hsame.isCreating, hsame.creation]; exact h.creating
  present := by
    rw [hsame.present, hsame.isCreating, hsame.issuesDeletes]
    exact h.present
  unready := by rw [hsame.isCreating, hsame.issuesDeletes]; exact h.unready
  flushing := by rw [hsame.creation, hsame.issuesDeletes]; exact h.flushing
  idle := hidle

theorem Stage.of_same (h : s.Stage) (hsame : s.SameStage t)
    (hidle : s.Idle → t.Idle) : t.Stage :=
  h.of_sameStage hsame fun hissues =>
    hidle (h.idle (hsame.issuesDeletes ▸ hissues))

theorem pushNotifications_frame (s : ClientSubscription)
    (notifications : List (ViewId × ItemNotification)) :
    s.pushNotifications notifications =
      { s with
        viewStates := (s.pushNotifications notifications).viewStates } := by
  induction notifications generalizing s with
  | nil => rfl
  | cons notification rest ih =>
      change pushNotifications (s.pushNotification _ _) rest = _
      rw [ih]
      rfl

theorem Stage.pushNotifications (h : s.Stage)
    (notifications : List (ViewId × ItemNotification)) :
    (s.pushNotifications notifications).Stage := by
  rw [pushNotifications_frame]
  exact h.of_same ⟨rfl, rfl, rfl, rfl⟩
    fun hidle => ⟨hidle.creates, hidle.deletes, hidle.createdItems, hidle.unset⟩

theorem isCreated_handlePublishResponse (handlers : MonitoredItemHandlers)
    (response : PublishResponse) :
    (handlers.handlePublishResponse response).1.publishing.isCreated =
      handlers.publishing.isCreated := by
  unfold MonitoredItemHandlers.handlePublishResponse
    ClientProtocolSubscription.handlePublishResponse
  cases response.status.isBad <;> rfl

theorem isCreated_finishCreate (handlers : MonitoredItemHandlers)
    (clientHandle : UInt32) (result : StatusOr MonitoredItemId) :
    (handlers.finishCreate clientHandle result).publishing =
      handlers.publishing := by
  cases result <;> rfl

theorem isCreated_finishDelete (handlers : MonitoredItemHandlers)
    (itemId : MonitoredItemId) :
    (handlers.finishDelete itemId).publishing = handlers.publishing := by
  unfold MonitoredItemHandlers.finishDelete
  cases handlers.clientHandleByItemId.lookup itemId <;> rfl

theorem SameStage.withImpl (s : ClientSubscription)
    {change : MonitoredItemHandlers → MonitoredItemHandlers}
    (hchange : ∀ handlers,
      (change handlers).publishing.isCreated = handlers.publishing.isCreated) :
    s.SameStage { s with impl := s.impl.map change } := by
  refine ⟨by simp, ?_, rfl, rfl⟩
  unfold ClientSubscription.issuesDeletes
  cases s.impl with
  | none => rfl
  | some handlers => exact hchange handlers

theorem Stage.publishResponse (h : s.Stage) (response : PublishResponse) :
    (s.publishResponse response).Stage := by
  obtain ⟨-, heq⟩ | ⟨handlers, himpl, heq⟩ := s.publishResponse_cases response
  · rw [heq]
    exact h
  rw [heq]
  apply Stage.pushNotifications
  refine h.of_same ⟨?_, ?_, rfl, rfl⟩ ?_
  · rw [himpl]
    rfl
  · unfold issuesDeletes
    rw [himpl]
    exact isCreated_handlePublishResponse handlers response
  · exact fun hidle =>
      ⟨hidle.creates, hidle.deletes, hidle.createdItems, hidle.unset⟩

theorem Stage.readNext (h : s.Stage) (call : ReadCall) :
    (s.readNext call).Stage := by
  unfold ClientSubscription.readNext
  split
  · exact h
  split
  · exact h
  split <;>
    exact h.of_same ⟨rfl, rfl, rfl, rfl⟩ fun hidle =>
      ⟨hidle.creates, hidle.deletes, hidle.createdItems, hidle.unset⟩

theorem Stage.readerWakes (h : s.Stage) (index : ℕ) :
    (s.readerWakes index).Stage := by
  unfold ClientSubscription.readerWakes
  split
  · exact h
  · next call _ =>
    have hwoken : Stage { s with readCalls := s.readCalls.eraseIdx index } :=
      h.of_same ⟨rfl, rfl, rfl, rfl⟩ fun hidle =>
        ⟨hidle.creates, hidle.deletes, hidle.createdItems, hidle.unset⟩
    exact hwoken.readNext call

theorem Stage.removeItem (h : s.Stage) (view : ViewId) (localId : UInt32) :
    (s.removeItem view localId).Stage := by
  cases hlookup : s.itemsByLocalId.lookup localId with
  | none =>
      rw [removeItem_of_none hlookup]
      exact h.of_same ⟨rfl, rfl, rfl, rfl⟩ fun hidle =>
        ⟨hidle.creates, hidle.deletes, hidle.createdItems, hidle.unset⟩
  | some record =>
      rw [removeItem_of_some hlookup]
      refine h.of_same ⟨rfl, rfl, rfl, rfl⟩ fun hidle =>
        { creates := hidle.creates, deletes := ?_,
          createdItems := hidle.createdItems, unset := ?_ }
      · rw [if_pos (hidle.unset localId record hlookup)]
        exact hidle.deletes
      · intro other found hfound
        rw [KeyedMap.lookup_erase_eq] at hfound
        split at hfound
        · exact absurd hfound (by simp)
        · exact hidle.unset other found hfound

theorem Stage.withCalls (h : s.Stage) (addCalls : List AddCall)
    (removeCalls : List RemoveCall) (closeCalls : List CloseCall)
    (views : List ViewId) (viewStates : List ViewState) :
    { s with addCalls, removeCalls, closeCalls, views, viewStates }.Stage :=
  h.of_same ⟨rfl, rfl, rfl, rfl⟩ fun hidle =>
    ⟨hidle.creates, hidle.deletes, hidle.createdItems, hidle.unset⟩

theorem Stage.removeNext (h : s.Stage) (index : ℕ) :
    (s.removeNext index).Stage := by
  unfold ClientSubscription.removeNext
  split
  · exact h
  split
  · exact (h.withCalls s.addCalls _ s.closeCalls s.views s.viewStates).removeItem
      _ _
  split
  · exact h.withCalls s.addCalls _ s.closeCalls s.views s.viewStates
  split <;> exact h.withCalls s.addCalls _ s.closeCalls s.views s.viewStates

theorem Stage.closeView (h : s.Stage) (view : ViewId) (status : Status) :
    (s.closeView view status).Stage := by
  obtain heq | ⟨state, -, -, heq⟩ := s.closeView_cases view status
  · rw [heq]
    exact h
  · rw [heq]
    exact h.withCalls s.addCalls s.removeCalls _ s.views _

theorem Stage.closeNext (h : s.Stage) (index : ℕ) :
    (s.closeNext index).Stage := by
  unfold ClientSubscription.closeNext
  split
  · exact h
  split
  · exact h.withCalls s.addCalls s.removeCalls _ _ s.viewStates
  · exact h.withCalls s.addCalls s.removeCalls _ s.views s.viewStates
  · exact (h.withCalls s.addCalls s.removeCalls _ s.views
      s.viewStates).removeItem _ _

theorem Stage.ensureCreated (h : s.Stage) : s.ensureCreated.Stage := by
  unfold ClientSubscription.ensureCreated
  split
  · exact h
  · next habsent =>
    have himpl : s.impl.isSome = false := by
      cases hsome : s.impl.isSome with
      | true => exact absurd (Or.inl hsome) habsent
      | false => rfl
    have hissues : s.issuesDeletes = false := by
      have hpresent := h.present
      rw [himpl] at hpresent
      exact (Bool.or_eq_false_iff.mp hpresent.symm).2
    have hidle := h.idle hissues
    exact
      { creating := by simp
        present := rfl
        unready := fun _ => rfl
        flushing := fun hstage => by simp at hstage
        idle := fun _ => ⟨hidle.creates, hidle.deletes, hidle.createdItems,
          hidle.unset⟩ }

theorem Stage.addItems (h : s.Stage) (view : ViewId)
    (requests : List MonitoredItemCreateRequest) :
    (s.addItems view requests).Stage := by
  unfold ClientSubscription.addItems
  split
  · apply Stage.ensureCreated
    exact h.withCalls _ s.removeCalls s.closeCalls s.views s.viewStates
  · exact h

theorem Stage.addItem (h : s.Stage) (view : ViewId)
    (request : MonitoredItemCreateRequest) : (s.addItem view request).Stage where
  creating := h.creating
  present := h.present
  unready := h.unready
  flushing := h.flushing
  idle := by
    intro hissues
    have hidle := h.idle hissues
    -- Before the creation has succeeded every item is deferred.
    have hdefer : (s.isCreating || s.impl.isNone) = true := by
      have hpresent := h.present
      rw [show s.issuesDeletes = false from hissues, Bool.or_false] at hpresent
      rw [← hpresent]
      cases s.impl <;> rfl
    refine { creates := ?_, deletes := hidle.deletes,
             createdItems := hidle.createdItems, unset := ?_ }
    · unfold ClientSubscription.addItem
      dsimp only
      rw [if_pos hdefer]
      exact hidle.creates
    · intro localId record hlookup
      change (KeyedMap.emplace s.itemsByLocalId s.nextLocalId
        { view }).lookup localId = some record at hlookup
      rw [KeyedMap.lookup_emplace] at hlookup
      split at hlookup
      · obtain rfl := Option.some.inj hlookup
        cases hfound : s.itemsByLocalId.lookup s.nextLocalId with
        | none => rfl
        | some found => exact hidle.unset _ found hfound
      · exact hidle.unset localId record hlookup

theorem Stage.addNext (h : s.Stage) (index : ℕ) : (s.addNext index).Stage := by
  unfold ClientSubscription.addNext
  split
  · exact h
  split
  · exact h.withCalls _ s.removeCalls s.closeCalls s.views s.viewStates
  · exact (h.withCalls _ s.removeCalls s.closeCalls s.views
      s.viewStates).addItem _ _

theorem Stage.creationFinished (h : s.Stage) (status : Status) :
    (s.creationFinished status).Stage := by
  unfold ClientSubscription.creationFinished
  split
  case isFalse => exact h
  case isTrue hstage =>
    have hcreating := h.creating.mpr hstage
    have hissues := h.unready hcreating
    have hidle := h.idle hissues
    split
    · exact
        { creating := by simp
          present := rfl
          unready := fun _ => rfl
          flushing := fun hflushing => absurd hflushing (by simp)
          idle := fun _ => ⟨hidle.creates, hidle.deletes, hidle.createdItems,
            hidle.unset⟩ }
    · have hpresent := h.present
      rw [hcreating, Bool.true_or] at hpresent
      obtain ⟨handlers, himpl⟩ := Option.isSome_iff_exists.mp hpresent
      rw [himpl]
      exact
        { creating := by simp
          present := rfl
          unready := fun hfalse => absurd hfalse (by simp)
          flushing := fun _ => rfl
          idle := fun hfalse => absurd hfalse (by
            simp [ClientSubscription.issuesDeletes]) }

theorem Stage.flushPendingSubscriptions (h : s.Stage) :
    s.flushPendingSubscriptions.Stage := by
  unfold ClientSubscription.flushPendingSubscriptions
  split
  case isFalse => exact h
  case isTrue hstage =>
    have hissues := h.flushing hstage
    have hcreating : s.isCreating = false := by
      cases hcreating : s.isCreating with
      | false => rfl
      | true => simp [h.creating.mp hcreating] at hstage
    exact
      { creating := by simp [hcreating]
        present := h.present
        unready := h.unready
        flushing := fun hflushing => absurd hflushing (by simp)
        idle := fun hfalse => absurd (hissues.symm.trans hfalse) (by simp) }

/-- Requests are in flight only when the subscription is created. -/
theorem Stage.issues_of_create (h : s.Stage) {index : ℕ} {create : ItemCreate}
    (hcreate : s.creates[index]? = some create) : s.issuesDeletes = true := by
  cases hissues : s.issuesDeletes with
  | true => rfl
  | false =>
      rw [(h.idle hissues).creates] at hcreate
      simp at hcreate

theorem Stage.issues_of_delete (h : s.Stage) {index : ℕ} {delete : ItemDelete}
    (hdelete : s.deletes[index]? = some delete) : s.issuesDeletes = true := by
  cases hissues : s.issuesDeletes with
  | true => rfl
  | false =>
      rw [(h.idle hissues).deletes] at hdelete
      simp at hdelete

theorem Stage.of_issues (h : s.Stage) (hissues : s.issuesDeletes = true)
    (hsame : s.SameStage t) : t.Stage := by
  refine h.of_sameStage hsame fun hnot => ?_
  rw [hsame.issuesDeletes, hissues] at hnot
  cases hnot

theorem issuesDeletes_iff :
    s.issuesDeletes = true ↔
      ∃ handlers, s.impl = some handlers ∧ handlers.publishing.isCreated = true := by
  unfold issuesDeletes
  cases s.impl <;> simp

theorem createStarts_cases {index : ℕ}
    (hissues : ∀ create, s.creates[index]? = some create →
      s.issuesDeletes = true) :
    s.createStarts index = s ∨
      ∃ item handlers, s.creates[index]? = some { item } ∧
        s.impl = some handlers ∧ handlers.publishing.isCreated = true ∧
        s.createStarts index =
          { s with
            impl := some (handlers.beginCreate
              { view := item.view, clientHandle := item.clientHandle }).1
            creates := s.creates.set index
              { item, requested := some handlers.nextClientHandle } } := by
  unfold createStarts
  split
  · next item hcreate =>
    obtain ⟨handlers, himpl, hcreated⟩ := issuesDeletes_iff.mp (hissues _ hcreate)
    refine Or.inr ⟨item, handlers, hcreate, himpl, hcreated, ?_⟩
    simp only [himpl, hcreated, if_true]
    rfl
  · exact Or.inl rfl

theorem Stage.createStarts (h : s.Stage) (index : ℕ) :
    (s.createStarts index).Stage := by
  obtain heq | ⟨item, handlers, hcreate, himpl, hcreated, heq⟩ :=
    createStarts_cases fun _ hcreate => h.issues_of_create hcreate
  · rw [heq]
    exact h
  · rw [heq]
    have hissues := h.issues_of_create hcreate
    refine h.of_issues hissues ⟨?_, ?_, rfl, rfl⟩
    · rw [himpl]
      rfl
    · rw [hissues]
      exact hcreated

theorem sameStage_itemCreated (s : ClientSubscription) (localId : UInt32)
    (serverId : MonitoredItemId) :
    s.SameStage (s.itemCreated localId serverId) := by
  cases hlookup : s.itemsByLocalId.lookup localId with
  | none =>
      rw [itemCreated_of_none hlookup]
      exact ⟨rfl, rfl, rfl, rfl⟩
  | some record =>
      rw [itemCreated_of_some hlookup]
      exact ⟨rfl, rfl, rfl, rfl⟩

theorem Stage.createReturns (h : s.Stage) {index : ℕ} {create : ItemCreate}
    (hcreate : s.creates[index]? = some create) (clientHandle : UInt32)
    (result : StatusOr MonitoredItemId) :
    (s.createReturns index clientHandle result).Stage ∧
      (s.createReturns index clientHandle result).issuesDeletes = true := by
  have hissues := h.issues_of_create hcreate
  have hsame := SameStage.withImpl s (fun handlers => congrArg (·.isCreated)
    (isCreated_finishCreate handlers clientHandle result))
  have hreturns : s.SameStage (s.createReturns index clientHandle result) :=
    ⟨hsame.present, hsame.issuesDeletes, rfl, rfl⟩
  exact ⟨h.of_issues hissues hreturns, hreturns.issuesDeletes.trans hissues⟩

theorem Stage.createFinished (h : s.Stage) (index : ℕ)
    (response : StatusOr CreateMonitoredItemsResponse) :
    (s.createFinished index response).Stage := by
  obtain heq | ⟨item, clientHandle, hcreate, ⟨serverId, -, heq⟩ |
    ⟨status, hbad, -, heq⟩⟩ := s.createFinished_cases index response
  · rw [heq]
    exact h
  · rw [heq]
    obtain ⟨hstage, hissues⟩ := h.createReturns hcreate clientHandle (.ok serverId)
    exact hstage.of_issues hissues (sameStage_itemCreated _ _ _)
  · rw [heq]
    obtain ⟨hstage, hissues⟩ :=
      h.createReturns hcreate clientHandle (.error status hbad)
    exact hstage.of_issues hissues ⟨rfl, rfl, rfl, rfl⟩

theorem Stage.deleteStarts (h : s.Stage) (index : ℕ) :
    (s.deleteStarts index).Stage := by
  unfold ClientSubscription.deleteStarts
  split
  · next hdelete =>
    split <;>
      exact h.of_issues (h.issues_of_delete hdelete) ⟨rfl, rfl, rfl, rfl⟩
  · exact h

theorem Stage.deleteFinished (h : s.Stage) (index : ℕ) (answered : Bool) :
    (s.deleteFinished index answered).Stage := by
  unfold ClientSubscription.deleteFinished
  split
  · next serverId hdelete =>
    have hissues := h.issues_of_delete hdelete
    cases answered with
    | true =>
        have hsame := SameStage.withImpl s (fun handlers => congrArg (·.isCreated)
          (isCreated_finishDelete handlers serverId))
        exact h.of_issues hissues
          ⟨hsame.present, hsame.issuesDeletes, rfl, rfl⟩
    | false => exact h.of_issues hissues ⟨rfl, rfl, rfl, rfl⟩
  · exact h

theorem Stage.step (h : s.Stage) (event : ClientSubscriptionEvent) :
    (s.step event).Stage := by
  cases event with
  | createView => exact h.withCalls s.addCalls s.removeCalls s.closeCalls _ _
  | addItems view requests => exact h.addItems view requests
  | addNext index => exact h.addNext index
  | creationFinished status => exact h.creationFinished status
  | flushPendingSubscriptions => exact h.flushPendingSubscriptions
  | createStarts index => exact h.createStarts index
  | createFinished index response => exact h.createFinished index response
  | removeItems view itemIds =>
      exact h.withCalls s.addCalls _ s.closeCalls s.views s.viewStates
  | removeNext index => exact h.removeNext index
  | closeView view status => exact h.closeView view status
  | closeNext index => exact h.closeNext index
  | deleteStarts index => exact h.deleteStarts index
  | deleteFinished index answered => exact h.deleteFinished index answered
  | publishResponse response => exact h.publishResponse response
  | readNext view maxCount => exact h.readNext { view, maxCount }
  | readerWakes index => exact h.readerWakes index

theorem stage_initial : ({} : ClientSubscription).Stage where
  creating := by simp
  present := rfl
  unready := fun hfalse => absurd hfalse (by simp)
  flushing := fun hfalse => absurd hfalse (by simp)
  idle := fun _ => ⟨rfl, rfl, rfl, fun _ _ hlookup => absurd hlookup (by simp)⟩

/-! ## The ledger of the server's items -/

/-- The ids which the records hold. -/
def recordedIds (items : KeyedMap UInt32 ItemRecord) : List MonitoredItemId :=
  (items.entries.map (·.2.serverId)).filter (· ≠ 0)

/-- The items whose deletion has been spawned but not issued. -/
def unissued (deletes : List ItemDelete) : List MonitoredItemId :=
  (deletes.filter (!·.issued)).map (·.serverId)

def Ledger (s : ClientSubscription) : Prop :=
  s.createdItems.Perm
      (recordedIds s.itemsByLocalId ++ unissued s.deletes ++ s.deletedItems) ∧
    0 ∉ s.createdItems

theorem recordedIds_insert_of_none {items : KeyedMap UInt32 ItemRecord}
    {localId : UInt32} (hlookup : items.lookup localId = none)
    (record : ItemRecord) :
    recordedIds (items.insert localId record) =
      if record.serverId = 0 then recordedIds items
      else record.serverId :: recordedIds items := by
  unfold recordedIds
  rw [AList.entries_insert_of_notMem (AList.lookup_eq_none.mp hlookup),
    List.map_cons, List.filter_cons]
  by_cases hzero : record.serverId = 0 <;> simp [hzero]

theorem recordedIds_perm_erase {items : KeyedMap UInt32 ItemRecord}
    {localId : UInt32} {record : ItemRecord}
    (hlookup : items.lookup localId = some record) :
    (recordedIds items).Perm
      (if record.serverId = 0 then recordedIds (items.erase localId)
      else record.serverId :: recordedIds (items.erase localId)) := by
  have hperm := ((KeyedMap.entries_perm_erase hlookup).map
    (·.2.serverId)).filter (· ≠ 0)
  unfold recordedIds
  rw [List.map_cons, List.filter_cons] at hperm
  by_cases hzero : record.serverId = 0 <;> simpa [hzero] using hperm

theorem recordedIds_insert {items : KeyedMap UInt32 ItemRecord}
    {localId : UInt32} {record changed : ItemRecord}
    (hlookup : items.lookup localId = some record)
    (hunset : record.serverId = 0) (hid : changed.serverId ≠ 0) :
    (recordedIds (items.insert localId changed)).Perm
      (changed.serverId :: recordedIds items) := by
  have herased : recordedIds (items.insert localId changed) =
      changed.serverId :: recordedIds (items.erase localId) := by
    unfold recordedIds
    rw [AList.entries_insert, List.map_cons, List.filter_cons]
    simp only [ne_eq, hid, not_false_eq_true, decide_true, if_true]
    rfl
  have hbefore := recordedIds_perm_erase hlookup
  rw [if_pos hunset] at hbefore
  rw [herased]
  exact hbefore.symm.cons _

theorem unissued_append (deletes : List ItemDelete) (serverId : MonitoredItemId)
    (issued : Bool) :
    unissued (deletes ++ [({ serverId, issued } : ItemDelete)]) =
      if issued then unissued deletes else unissued deletes ++ [serverId] := by
  cases issued <;> simp [unissued]

theorem unissued_perm {deletes : List ItemDelete} {index : ℕ}
    {delete : ItemDelete} (hdelete : deletes[index]? = some delete) :
    (unissued deletes).Perm
      (if delete.issued then unissued (deletes.eraseIdx index)
      else delete.serverId :: unissued (deletes.eraseIdx index)) := by
  obtain ⟨hindex, rfl⟩ := List.getElem?_eq_some_iff.mp hdelete
  have hperm := ((List.getElem_cons_eraseIdx_perm hindex).symm.filter
    (!·.issued)).map (·.serverId)
  unfold unissued
  rw [List.filter_cons] at hperm
  cases hissued : deletes[index].issued <;> simpa [hissued] using hperm

theorem unissued_set {deletes : List ItemDelete} {index : ℕ}
    (hindex : index < deletes.length) (serverId : MonitoredItemId) :
    (unissued (deletes.set index { serverId, issued := true })).Perm
      (unissued (deletes.eraseIdx index)) := by
  have hget : (deletes.set index { serverId, issued := true })[index]? =
      some { serverId, issued := true } := by
    rw [List.getElem?_set_self hindex]
  have hperm := unissued_perm hget
  rwa [if_pos rfl, List.eraseIdx_set_eq] at hperm

def usableId : StatusOr MonitoredItemId → Bool
  | .ok serverId => serverId ≠ 0
  | .error _ _ => true

/-- The server gives an item an id other than zero. -/
def UsableIds (_ : ClientSubscription) : ClientSubscriptionEvent → Prop
  | .createFinished _ response => usableId (createdItem response) = true
  | _ => True

instance (s : ClientSubscription) :
    (event : ClientSubscriptionEvent) → Decidable (s.UsableIds event)
  | .createFinished _ _ => inferInstanceAs (Decidable (_ = true))
  | .createView | .addItems _ _ | .addNext _ | .creationFinished _
  | .flushPendingSubscriptions | .createStarts _ | .removeItems _ _
  | .removeNext _ | .closeView _ _ | .closeNext _ | .deleteStarts _
  | .deleteFinished _ _ | .publishResponse _ | .readNext _ _
  | .readerWakes _ => isTrue trivial

theorem Ledger.removeItem (h : s.Ledger) (view : ViewId) (localId : UInt32) :
    (s.removeItem view localId).Ledger := by
  cases hlookup : s.itemsByLocalId.lookup localId with
  | none =>
      rw [removeItem_of_none hlookup]
      exact h
  | some record =>
      rw [removeItem_of_some hlookup]
      have herase := recordedIds_perm_erase hlookup
      refine ⟨?_, h.2⟩
      by_cases hzero : record.serverId = 0
      · rw [if_pos hzero] at herase ⊢
        exact h.1.trans ((herase.append_right _).append_right _)
      · rw [if_neg hzero] at herase ⊢
        rw [unissued_append]
        refine h.1.trans (List.Perm.append_right _ ?_)
        calc recordedIds s.itemsByLocalId ++ unissued s.deletes
            |>.Perm (record.serverId ::
              (recordedIds (s.itemsByLocalId.erase localId) ++
                unissued s.deletes)) := herase.append_right _
          _ |>.Perm (recordedIds (s.itemsByLocalId.erase localId) ++
                unissued s.deletes ++ [record.serverId]) :=
              (List.perm_append_singleton _ _).symm
          _ |>.Perm (recordedIds (s.itemsByLocalId.erase localId) ++
                (unissued s.deletes ++ [record.serverId])) :=
              List.Perm.of_eq (List.append_assoc _ _ _)

theorem Ledger.pushNotifications (h : s.Ledger)
    (notifications : List (ViewId × ItemNotification)) :
    (s.pushNotifications notifications).Ledger := by
  rw [pushNotifications_frame]
  exact h

theorem Ledger.publishResponse (h : s.Ledger) (response : PublishResponse) :
    (s.publishResponse response).Ledger := by
  obtain ⟨-, heq⟩ | ⟨handlers, -, heq⟩ := s.publishResponse_cases response
  · rw [heq]
    exact h
  · rw [heq]
    apply Ledger.pushNotifications
    exact h

theorem Ledger.readNext (h : s.Ledger) (call : ReadCall) :
    (s.readNext call).Ledger := by
  unfold ClientSubscription.readNext
  split
  · exact h
  split
  · exact h
  split <;> exact h

theorem Ledger.readerWakes (h : s.Ledger) (index : ℕ) :
    (s.readerWakes index).Ledger := by
  unfold ClientSubscription.readerWakes
  split
  · exact h
  · apply Ledger.readNext
    exact h

theorem Ledger.removeNext (h : s.Ledger) (index : ℕ) :
    (s.removeNext index).Ledger := by
  unfold ClientSubscription.removeNext
  split
  · exact h
  split
  · apply Ledger.removeItem
    exact h
  split
  · exact h
  split <;> exact h

theorem Ledger.closeView (h : s.Ledger) (view : ViewId) (status : Status) :
    (s.closeView view status).Ledger := by
  obtain heq | ⟨state, -, -, heq⟩ := s.closeView_cases view status
  · rw [heq]
    exact h
  · rw [heq]
    exact h

theorem Ledger.closeNext (h : s.Ledger) (index : ℕ) :
    (s.closeNext index).Ledger := by
  unfold ClientSubscription.closeNext
  split
  · exact h
  split
  · exact h
  · exact h
  · apply Ledger.removeItem
    exact h

theorem Ledger.ensureCreated (h : s.Ledger) : s.ensureCreated.Ledger := by
  unfold ClientSubscription.ensureCreated
  split <;> exact h

theorem Ledger.addItems (h : s.Ledger) (view : ViewId)
    (requests : List MonitoredItemCreateRequest) :
    (s.addItems view requests).Ledger := by
  unfold ClientSubscription.addItems
  split
  · apply Ledger.ensureCreated
    exact h
  · exact h

theorem Ledger.addNext (h : s.Ledger) (hsound : s.Sound) {index : ℕ}
    (hnew : s.NewLocalId (.addNext index)) : (s.addNext index).Ledger := by
  unfold ClientSubscription.addNext
  split
  · exact h
  split
  · exact h
  · have hnone := hsound.lookup_nextLocalId hnew
    unfold Ledger at h ⊢
    unfold ClientSubscription.addItem
    dsimp only
    rw [KeyedMap.emplace_of_none hnone, recordedIds_insert_of_none hnone]
    exact h

theorem Ledger.creationFinished (h : s.Ledger) (status : Status) :
    (s.creationFinished status).Ledger := by
  unfold ClientSubscription.creationFinished
  split
  · split <;> exact h
  · exact h

theorem Ledger.flushPendingSubscriptions (h : s.Ledger) :
    s.flushPendingSubscriptions.Ledger := by
  unfold ClientSubscription.flushPendingSubscriptions
  split <;> exact h

theorem Ledger.createStarts (h : s.Ledger) (hstage : s.Stage) (index : ℕ) :
    (s.createStarts index).Ledger := by
  obtain heq | ⟨item, handlers, hcreate, himpl, hcreated, heq⟩ :=
    createStarts_cases fun _ hcreate => hstage.issues_of_create hcreate
  · rw [heq]
    exact h
  · rw [heq]
    exact h

theorem Ledger.itemCreated (h : s.Ledger) (hissues : s.issuesDeletes = true)
    {localId : UInt32}
    (hunset : ∀ record, s.itemsByLocalId.lookup localId = some record →
      record.serverId = 0) {serverId : MonitoredItemId} (hid : serverId ≠ 0) :
    (s.itemCreated localId serverId).Ledger := by
  have hcreated : 0 ∉ s.createdItems ++ [serverId] := by
    rw [List.mem_append, List.mem_singleton]
    exact not_or.mpr ⟨h.2, hid.symm⟩
  cases hlookup : s.itemsByLocalId.lookup localId with
  | none =>
      rw [itemCreated_of_none hlookup]
      refine ⟨?_, hcreated⟩
      rw [if_pos hissues, if_pos hissues, unissued_append, if_pos rfl,
        ← List.append_assoc]
      exact h.1.append_right _
  | some record =>
      rw [itemCreated_of_some hlookup]
      refine ⟨?_, hcreated⟩
      have hinsert : (recordedIds (s.itemsByLocalId.insert localId
          { record with serverId })).Perm
            (serverId :: recordedIds s.itemsByLocalId) :=
        recordedIds_insert hlookup (hunset record hlookup) hid
      calc s.createdItems ++ [serverId]
          |>.Perm (serverId :: s.createdItems) := List.perm_append_singleton _ _
        _ |>.Perm (serverId :: (recordedIds s.itemsByLocalId ++
              unissued s.deletes ++ s.deletedItems)) := h.1.cons _
        _ |>.Perm _ := ((hinsert.append_right _).append_right _).symm

theorem Ledger.createFinished (h : s.Ledger) (hsound : s.Sound)
    (hstage : s.Stage) {index : ℕ}
    {response : StatusOr CreateMonitoredItemsResponse}
    (husable : s.UsableIds (.createFinished index response)) :
    (s.createFinished index response).Ledger := by
  obtain heq | ⟨item, clientHandle, hcreate, ⟨serverId, hresult, heq⟩ |
    ⟨status, hbad, -, heq⟩⟩ := s.createFinished_cases index response
  · rw [heq]
    exact h
  · rw [heq]
    have hid : serverId ≠ 0 := by
      have hguard : usableId (createdItem response) = true := husable
      rw [hresult] at hguard
      exact of_decide_eq_true hguard
    have hissues := (hstage.createReturns hcreate clientHandle (.ok serverId)).2
    have hwaiting : item ∈ s.waiting :=
      (waiting_eraseIdx hcreate).symm.subset List.mem_cons_self
    have hreturns : (s.createReturns index clientHandle (.ok serverId)).Ledger := h
    exact hreturns.itemCreated hissues
      (fun record hlookup => hsound.unset item hwaiting record hlookup) hid
  · rw [heq]
    exact h

theorem Ledger.deleteStarts (h : s.Ledger) (hstage : s.Stage) (index : ℕ) :
    (s.deleteStarts index).Ledger := by
  unfold ClientSubscription.deleteStarts
  split
  · next serverId hdelete =>
    rw [if_pos (hstage.issues_of_delete hdelete)]
    have hbefore := unissued_perm hdelete
    have hafter := unissued_set (List.getElem?_eq_some_iff.mp hdelete).1 serverId
    rw [if_neg (by simp)] at hbefore
    refine ⟨?_, h.2⟩
    calc s.createdItems
        |>.Perm (recordedIds s.itemsByLocalId ++ unissued s.deletes ++
            s.deletedItems) := h.1
      _ |>.Perm (recordedIds s.itemsByLocalId ++
            (serverId :: unissued (s.deletes.set index
              { serverId, issued := true })) ++ s.deletedItems) :=
          ((hbefore.trans (hafter.symm.cons _)).append_left _).append_right _
      _ |>.Perm (recordedIds s.itemsByLocalId ++
            unissued (s.deletes.set index { serverId, issued := true }) ++
            (s.deletedItems ++ [serverId])) := by
          rw [List.append_assoc, List.append_assoc]
          refine List.Perm.append_left _ ?_
          rw [List.cons_append, ← List.append_assoc]
          exact (List.perm_append_singleton _ _).symm
  · exact h

theorem Ledger.deleteFinished (h : s.Ledger) (index : ℕ) (answered : Bool) :
    (s.deleteFinished index answered).Ledger := by
  unfold ClientSubscription.deleteFinished
  split
  · next hdelete =>
    have hbefore := unissued_perm hdelete
    rw [if_pos rfl] at hbefore
    exact ⟨h.1.trans ((hbefore.append_left _).append_right _), h.2⟩
  · exact h

theorem Ledger.step (h : s.Ledger) (hsound : s.Sound) (hstage : s.Stage)
    {event : ClientSubscriptionEvent} (hnew : s.NewLocalId event)
    (husable : s.UsableIds event) : (s.step event).Ledger := by
  cases event with
  | createView => exact h
  | addItems view requests => exact h.addItems view requests
  | addNext index => exact h.addNext hsound hnew
  | creationFinished status => exact h.creationFinished status
  | flushPendingSubscriptions => exact h.flushPendingSubscriptions
  | createStarts index => exact h.createStarts hstage index
  | createFinished index response =>
      exact h.createFinished hsound hstage husable
  | removeItems view itemIds => exact h
  | removeNext index => exact h.removeNext index
  | closeView view status => exact h.closeView view status
  | closeNext index => exact h.closeNext index
  | deleteStarts index => exact h.deleteStarts hstage index
  | deleteFinished index answered => exact h.deleteFinished index answered
  | publishResponse response => exact h.publishResponse response
  | readNext view maxCount => exact h.readNext { view, maxCount }
  | readerWakes index => exact h.readerWakes index

/-! ## The items of closed views -/

/-- The closing of the view is going to remove the id, if it has a record. -/
def Leaving (s : ClientSubscription) (view : ViewId) (localId : UInt32) : Prop :=
  ∃ call ∈ s.closeCalls, call.view = view ∧
    ∀ localIds ∈ call.localIds, localId ∈ localIds

/-- The view has not been closed, or its closing has yet to collect the items. -/
def AcceptsItems (s : ClientSubscription) (view : ViewId) : Prop :=
  s.isClosed view = true →
    ∃ call ∈ s.closeCalls, call.view = view ∧ call.localIds = none

instance (s : ClientSubscription) (view : ViewId) :
    Decidable (s.AcceptsItems view) :=
  inferInstanceAs (Decidable (_ → _))

/-- Items are added to views which accept them. -/
def AddsToOpenView (s : ClientSubscription) : ClientSubscriptionEvent → Prop
  | .addNext index =>
      ∀ call ∈ s.addCalls[index]?, call.requests ≠ [] → s.AcceptsItems call.view
  | _ => True

instance (s : ClientSubscription) :
    (event : ClientSubscriptionEvent) → Decidable (s.AddsToOpenView event)
  | .addNext index =>
      show Decidable (∀ call ∈ s.addCalls[index]?, call.requests ≠ [] →
        s.AcceptsItems call.view) from Option.decidableForallMem _
  | .createView | .addItems _ _ | .creationFinished _
  | .flushPendingSubscriptions | .createStarts _ | .createFinished _ _
  | .removeItems _ _ | .removeNext _ | .closeView _ _ | .closeNext _
  | .deleteStarts _ | .deleteFinished _ _ | .publishResponse _
  | .readNext _ _ | .readerWakes _ => isTrue trivial

/-- The items of a view which has been closed are going to be removed. -/
def ClosedLeave (s : ClientSubscription) : Prop :=
  ∀ localId record, s.itemsByLocalId.lookup localId = some record →
    s.isClosed record.view = true → s.Leaving record.view localId

theorem ClosedLeave.of_same (h : s.ClosedLeave) (hsame : s.SameItems t) :
    t.ClosedLeave := by
  intro localId record hlookup hclosed
  rw [hsame.itemsByLocalId] at hlookup
  rw [hsame.isClosed] at hclosed
  unfold Leaving
  rw [hsame.closeCalls]
  exact h localId record hlookup hclosed

theorem ClosedLeave.removeItem (h : s.ClosedLeave) (view : ViewId)
    (localId : UInt32) : (s.removeItem view localId).ClosedLeave := by
  obtain ⟨-, hviews, -, hcloseCalls, -⟩ := s.removeItem_frame view localId
  intro other record hlookup hclosed
  rw [lookup_removeItem] at hlookup
  split at hlookup
  · exact absurd hlookup (by simp)
  · unfold isClosed at hclosed
    rw [hviews] at hclosed
    unfold Leaving
    rw [hcloseCalls]
    exact h other record hlookup hclosed

theorem ClosedLeave.removeNext (h : s.ClosedLeave) (index : ℕ) :
    (s.removeNext index).ClosedLeave := by
  unfold ClientSubscription.removeNext
  split
  · exact h
  split
  · apply ClosedLeave.removeItem
    exact h
  split
  · exact h
  split <;> exact h

theorem ClosedLeave.closeView (h : s.ClosedLeave) (view : ViewId)
    (status : Status) : (s.closeView view status).ClosedLeave := by
  obtain heq | ⟨state, hstate, -, heq⟩ := s.closeView_cases view status
  · rw [heq]
    exact h
  rw [heq]
  intro localId record hlookup hclosed
  -- The records of the view itself are going to be collected.
  by_cases hview : record.view = view
  · exact ⟨{ view }, List.mem_append_right _ List.mem_cons_self, hview.symm,
      by simp⟩
  · have hbefore : s.isClosed record.view = true := by
      unfold isClosed at hclosed ⊢
      rw [List.getElem?_set_ne (Ne.symm hview)] at hclosed
      exact hclosed
    obtain ⟨call, hcall, hrest⟩ := h localId record hlookup hbefore
    exact ⟨call, List.mem_append_left _ hcall, hrest⟩

theorem Leaving.of_replaced {closeCalls : List CloseCall} {view : ViewId}
    {localId : UInt32} (h : s.Leaving view localId) (call : CloseCall)
    (hkeep : ∀ other ∈ s.closeCalls, other ≠ call → other ∈ closeCalls)
    (hcall : call.view = view → (∀ localIds ∈ call.localIds, localId ∈ localIds) →
      { s with closeCalls }.Leaving view localId) :
    { s with closeCalls }.Leaving view localId := by
  obtain ⟨other, hother, hview, hids⟩ := h
  rcases eq_or_ne other call with rfl | hne
  · exact hcall hview hids
  · exact ⟨other, hkeep other hother hne, hview, hids⟩

/-- While its record is there, an id goes on being about to be removed. -/
theorem Leaving.closeNext {localId : UInt32} {record : ItemRecord}
    (h : s.Leaving record.view localId) {index : ℕ}
    (hlookup : (s.closeNext index).itemsByLocalId.lookup localId = some record) :
    (s.closeNext index).Leaving record.view localId := by
  unfold ClientSubscription.closeNext at hlookup ⊢
  cases hcall : s.closeCalls[index]? with
  | none => exact h
  | some call =>
      rw [hcall] at hlookup
      obtain ⟨view, localIds⟩ := call
      match localIds with
      | none =>
          refine h.of_replaced _
            (fun other hother hne => mem_set_of_ne hother hcall hne) ?_
          rintro rfl -
          refine ⟨_, mem_set_self hcall, rfl, ?_⟩
          intro localIds hlocalIds
          obtain rfl := Option.some.inj hlocalIds
          exact s.mem_collected.mpr ⟨record, hlookup, rfl⟩
      | some [] =>
          refine h.of_replaced _
            (fun other hother hne => mem_eraseIdx_of_ne hother hcall hne) ?_
          intro hview hids
          exact absurd (hids [] rfl) (by simp)
      | some (removing :: rest) =>
          dsimp only at hlookup ⊢
          rw [removeItem_closeCalls] at hlookup ⊢
          have hcalls := (s.removeItem_frame view removing).2.2.2.1
          have hleaving : (s.removeItem view removing).Leaving record.view
              localId := by
            unfold Leaving
            rw [hcalls]
            exact h
          refine hleaving.of_replaced ⟨view, some (removing :: rest)⟩ ?_ ?_
          · intro known hknown hne
            rw [hcalls] at hknown
            exact mem_set_of_ne hknown hcall hne
          · intro hview hids
            refine ⟨_, mem_set_self hcall, hview, ?_⟩
            intro localIds hlocalIds
            obtain rfl := Option.some.inj hlocalIds
            rcases List.mem_cons.mp (hids _ rfl) with rfl | hrest
            · rw [lookup_removeItem, if_pos rfl] at hlookup
              exact absurd hlookup (by simp)
            · exact hrest

theorem lookup_closeNext {index : ℕ} {localId : UInt32} {record : ItemRecord}
    (hlookup : (s.closeNext index).itemsByLocalId.lookup localId = some record) :
    s.itemsByLocalId.lookup localId = some record := by
  unfold closeNext at hlookup
  split at hlookup
  · exact hlookup
  split at hlookup
  · exact hlookup
  · exact hlookup
  · rw [lookup_removeItem] at hlookup
    split at hlookup
    · exact absurd hlookup (by simp)
    · exact hlookup

theorem viewStates_closeNext (s : ClientSubscription) (index : ℕ) :
    (s.closeNext index).viewStates = s.viewStates := by
  unfold closeNext
  split
  · rfl
  split
  · rfl
  · rfl
  · exact (removeItem_frame _ _ _).2.1

theorem ClosedLeave.closeNext (h : s.ClosedLeave) (index : ℕ) :
    (s.closeNext index).ClosedLeave := by
  intro localId record hlookup hclosed
  unfold isClosed at hclosed
  rw [viewStates_closeNext] at hclosed
  exact (h localId record (lookup_closeNext hlookup) hclosed).closeNext hlookup

theorem ClosedLeave.addItem (h : s.ClosedLeave) (hsound : s.Sound)
    (hnew : s.nextLocalId ∉ s.added.map (·.localId)) {view : ViewId}
    (haccepts : s.AcceptsItems view) (request : MonitoredItemCreateRequest) :
    (s.addItem view request).ClosedLeave := by
  intro localId record hlookup hclosed
  rw [hsound.lookup_addItem hnew] at hlookup
  split at hlookup
  · obtain rfl := Option.some.inj hlookup
    obtain ⟨call, hcall, hview, hids⟩ := haccepts hclosed
    exact ⟨call, hcall, hview, by simp [hids]⟩
  · exact h localId record hlookup hclosed

theorem ClosedLeave.addNext (h : s.ClosedLeave) (hsound : s.Sound) {index : ℕ}
    (hnew : s.NewLocalId (.addNext index))
    (hopen : s.AddsToOpenView (.addNext index)) :
    (s.addNext index).ClosedLeave := by
  unfold ClientSubscription.addNext
  cases hcall : s.addCalls[index]? with
  | none => exact h
  | some call =>
      obtain ⟨view, requests, results⟩ := call
      cases requests with
      | nil => exact h
      | cons request rest =>
          have haccepts : s.AcceptsItems view :=
            hopen _ (Option.mem_def.mpr hcall) (List.cons_ne_nil _ _)
          have hadded : (s.addItem view request).ClosedLeave :=
            h.addItem hsound hnew haccepts request
          exact hadded

theorem sameItems_addItems (s : ClientSubscription) (view : ViewId)
    (requests : List MonitoredItemCreateRequest) :
    s.SameItems (s.addItems view requests) := by
  unfold addItems
  split
  · refine SameItems.trans ?_ (sameItems_ensureCreated _)
    exact ⟨rfl, rfl, rfl, rfl, rfl, fun _ => rfl⟩
  · exact SameItems.refl s

theorem ClosedLeave.itemCreated (h : s.ClosedLeave) (localId : UInt32)
    (serverId : MonitoredItemId) :
    (s.itemCreated localId serverId).ClosedLeave := by
  cases hrecord : s.itemsByLocalId.lookup localId with
  | none =>
      rw [itemCreated_of_none hrecord]
      exact h
  | some record =>
      rw [itemCreated_of_some hrecord]
      intro other changed hlookup hclosed
      rw [KeyedMap.lookup_insert_eq] at hlookup
      split at hlookup
      · next heq =>
        obtain rfl := Option.some.inj hlookup
        exact h other record (heq ▸ hrecord) hclosed
      · exact h other changed hlookup hclosed

theorem ClosedLeave.createFinished (h : s.ClosedLeave) (index : ℕ)
    (response : StatusOr CreateMonitoredItemsResponse) :
    (s.createFinished index response).ClosedLeave := by
  obtain heq | ⟨item, clientHandle, -, ⟨serverId, -, heq⟩ |
    ⟨status, hbad, -, heq⟩⟩ := s.createFinished_cases index response
  · rw [heq]
    exact h
  · rw [heq]
    apply ClosedLeave.itemCreated
    exact h
  · rw [heq]
    have hreturns : (s.createReturns index clientHandle
      (.error status hbad)).ClosedLeave := h
    exact hreturns.of_same (sameItems_pushNotification _ _ _)

theorem ClosedLeave.createStarts (h : s.ClosedLeave) (hstage : s.Stage)
    (index : ℕ) : (s.createStarts index).ClosedLeave := by
  obtain heq | ⟨item, handlers, -, -, -, heq⟩ :=
    createStarts_cases fun _ hcreate => hstage.issues_of_create hcreate
  · rw [heq]
    exact h
  · rw [heq]
    exact h

theorem ClosedLeave.step (h : s.ClosedLeave) (hsound : s.Sound)
    (hstage : s.Stage) {event : ClientSubscriptionEvent}
    (hnew : s.NewLocalId event) (hopen : s.AddsToOpenView event) :
    (s.step event).ClosedLeave := by
  cases event with
  | createView => exact h.of_same s.sameItems_createView
  | addItems view requests => exact h.of_same (s.sameItems_addItems view requests)
  | addNext index => exact h.addNext hsound hnew hopen
  | creationFinished status => exact h.of_same (s.sameItems_creationFinished status)
  | flushPendingSubscriptions =>
      exact h.of_same s.sameItems_flushPendingSubscriptions
  | createStarts index => exact h.createStarts hstage index
  | createFinished index response => exact h.createFinished index response
  | removeItems view itemIds => exact h
  | removeNext index => exact h.removeNext index
  | closeView view status => exact h.closeView view status
  | closeNext index => exact h.closeNext index
  | deleteStarts index => exact h.of_same (s.sameItems_deleteStarts index)
  | deleteFinished index answered =>
      exact h.of_same (s.sameItems_deleteFinished index answered)
  | publishResponse response => exact h.of_same (s.sameItems_publishResponse response)
  | readNext view maxCount => exact h.of_same (s.sameItems_readNext _)
  | readerWakes index =>
      change (s.readerWakes index).ClosedLeave
      unfold readerWakes
      split
      · exact h
      · have hwoken :
            ClosedLeave { s with readCalls := s.readCalls.eraseIdx index } := h
        exact hwoken.of_same (sameItems_readNext _ _)

/-! ## Quiescent states -/

/-- The records which hold an item for a view which has not been closed. -/
def liveRecords (s : ClientSubscription) (serverId : MonitoredItemId) :
    List UInt32 :=
  s.itemsByLocalId.keysWhere fun _ record =>
    record.serverId == serverId && !s.isClosed record.view

/-- As many items as the server has created under an id are held or deleted; an
item whose id was given once is held by one record, or deleted once. -/
def HeldOrDeleted (s : ClientSubscription) : Prop :=
  ∀ serverId ∈ s.createdItems,
    s.createdItems.count serverId =
        (s.liveRecords serverId).length + s.deletedItems.count serverId ∧
      (s.createdItems.count serverId = 1 →
        Xor ((s.liveRecords serverId).length = 1)
          (s.deletedItems.count serverId = 1))

/-- What is removed for a view was added by that view. -/
def OwnRemovals (s : ClientSubscription) : Prop :=
  ∀ removal ∈ s.removals, removal.record.view = removal.view ∧
    ∀ item ∈ s.added, item.localId = removal.localId → item.view = removal.view

theorem Sound.removes_own (h : s.Sound) : s.OwnRemovals := by
  intro removal hremoval
  obtain ⟨hadded, hview⟩ := h.ownRemovals removal hremoval
  refine ⟨hview, ?_⟩
  intro item hitem hlocal
  exact h.view_eq ⟨item, hitem, hlocal, rfl⟩ hadded

theorem count_recordedIds {items : KeyedMap UInt32 ItemRecord}
    {serverId : MonitoredItemId} (hid : serverId ≠ 0) :
    (recordedIds items).count serverId =
      (items.keysWhere fun _ record => record.serverId == serverId).length := by
  unfold recordedIds KeyedMap.keysWhere
  rw [List.count_filter (by simpa using hid), List.count_eq_countP,
    List.countP_map, List.countP_eq_length_filter, List.length_map]
  rfl

theorem ClosedLeave.liveRecords_of_quiescent (h : s.ClosedLeave)
    (hclose : s.closeCalls = []) (serverId : MonitoredItemId) :
    s.liveRecords serverId =
      s.itemsByLocalId.keysWhere fun _ record => record.serverId == serverId := by
  have hopen : ∀ entry ∈ s.itemsByLocalId.entries,
      s.isClosed entry.2.view = false := by
    rintro ⟨localId, record⟩ hentry
    cases hclosed : s.isClosed record.view with
    | false => rfl
    | true =>
        obtain ⟨call, hcall, -⟩ := h localId record
          (KeyedMap.mem_entries_iff.mp hentry) hclosed
        simp [hclose] at hcall
  unfold liveRecords KeyedMap.keysWhere
  congr 1
  apply List.filter_congr
  intro entry hentry
  dsimp only
  rw [hopen entry hentry, Bool.not_false, Bool.and_true]

theorem Ledger.heldOrDeleted (h : s.Ledger) (hclosed : s.ClosedLeave)
    (hquiescent : s.Quiescent) : s.HeldOrDeleted := by
  intro serverId hmem
  have hid : serverId ≠ 0 := fun hzero => h.2 (hzero ▸ hmem)
  have hbalance : s.createdItems.count serverId =
      (s.liveRecords serverId).length + s.deletedItems.count serverId := by
    rw [h.1.count_eq, hquiescent.deletes, hclosed.liveRecords_of_quiescent hquiescent.closeCalls,
      ← count_recordedIds hid]
    simp [unissued]
  refine ⟨hbalance, ?_⟩
  intro honce
  unfold Xor
  omega

/-! ## Runs -/

/-- What a run relies on: local ids do not wrap around, the server gives usable
ids, and no item is added to a view which has been closed. -/
def KeepsAccounts (s : ClientSubscription) (event : ClientSubscriptionEvent) :
    Prop :=
  s.NewLocalId event ∧ s.UsableIds event ∧ s.AddsToOpenView event

instance (s : ClientSubscription) (event : ClientSubscriptionEvent) :
    Decidable (s.KeepsAccounts event) :=
  inferInstanceAs (Decidable (_ ∧ _ ∧ _))

/-- In a run which adds items to open views only, every item of the server is
held by a live record or deleted once, and no view removes another's items. -/
theorem server_items_accounted (events : List ClientSubscriptionEvent)
    (hguard : AllMeet step KeepsAccounts {} events) :
    let s := runFrom step ({} : ClientSubscription) events
    (s.Quiescent → s.HeldOrDeleted) ∧ s.OwnRemovals := by
  intro s
  have hstep : ∀ (s : ClientSubscription) (event : ClientSubscriptionEvent),
      (s.Sound ∧ s.Stage ∧ s.ClosedLeave ∧ s.Ledger) → s.KeepsAccounts event →
        (s.step event).Sound ∧ (s.step event).Stage ∧
          (s.step event).ClosedLeave ∧ (s.step event).Ledger := by
    intro s event ⟨hsound, hstage, hclosed, hledger⟩ ⟨hnew, husable, hopen⟩
    exact ⟨hsound.step hnew, hstage.step event,
      hclosed.step hsound hstage hnew hopen,
      hledger.step hsound hstage hnew husable⟩
  have hnone : ({} : ClientSubscription).ClosedLeave :=
    fun _ _ hlookup => absurd hlookup (by simp)
  have hempty : ({} : ClientSubscription).Ledger :=
    ⟨List.Perm.nil, List.not_mem_nil⟩
  obtain ⟨hsound, -, hclosed, hledger⟩ := runFrom_invariant hstep
    ⟨sound_initial, stage_initial, hnone, hempty⟩ hguard
  exact ⟨hledger.heldOrDeleted hclosed, hsound.removes_own⟩

def sampleRequest : MonitoredItemCreateRequest := {}

def createdWithId (serverId : MonitoredItemId) :
    StatusOr CreateMonitoredItemsResponse :=
  .ok { status := .good
        results := [{ status := .good, monitoredItemId := serverId }] }

/-- A view adds two items and removes the first while its create is in flight;
then it is closed. -/
def twoItemsRemoved : List ClientSubscriptionEvent :=
  [.createView, .addItems 0 [sampleRequest, sampleRequest], .addNext 0,
    .addNext 0, .addNext 0, .creationFinished .good, .flushPendingSubscriptions,
    .createStarts 0, .createStarts 1, .removeItems 0 [1], .removeNext 0,
    .removeNext 0, .removeNext 0, .createFinished 0 (createdWithId 7),
    .deleteFinished 0 true, .createFinished 0 (createdWithId 8),
    .closeView 0 (.ofCode .bad), .closeNext 0, .closeNext 0, .closeNext 0,
    .deleteStarts 0, .deleteFinished 0 true]

theorem two_items_deleted :
    (runFrom step ({} : ClientSubscription) twoItemsRemoved).HeldOrDeleted ∧
      (runFrom step ({} : ClientSubscription) twoItemsRemoved).deletedItems =
        [7, 8] := by
  have hguard : AllMeet step KeepsAccounts {} twoItemsRemoved := by
    decide
  have haccounts := (server_items_accounted twoItemsRemoved hguard).1
  exact ⟨haccounts ⟨rfl, rfl, rfl, rfl, rfl, rfl⟩, by decide⟩

/-- `AddItems` does not look at `closed`: the item of a closed view is created,
and nothing is going to delete it. -/
def addsToClosedView : List ClientSubscriptionEvent :=
  [.createView, .closeView 0 (.ofCode .bad), .closeNext 0, .closeNext 0,
    .addItems 0 [sampleRequest], .addNext 0, .addNext 0, .creationFinished .good,
    .flushPendingSubscriptions, .createStarts 0,
    .createFinished 0 (createdWithId 7)]

theorem item_of_closed_view_leaked :
    (runFrom step ({} : ClientSubscription) addsToClosedView).Quiescent ∧
      ¬(runFrom step ({} : ClientSubscription) addsToClosedView).HeldOrDeleted := by
  refine ⟨⟨rfl, rfl, rfl, rfl, rfl, rfl⟩, ?_⟩
  intro haccounts
  have hcreated : 7 ∈
      (runFrom step ({} : ClientSubscription) addsToClosedView).createdItems := by
    decide
  have hlost : ¬((runFrom step ({} : ClientSubscription)
        addsToClosedView).createdItems.count 7 =
      ((runFrom step ({} : ClientSubscription)
        addsToClosedView).liveRecords 7).length +
        (runFrom step ({} : ClientSubscription)
          addsToClosedView).deletedItems.count 7) := by
    decide
  exact hlost (haccounts 7 hcreated).1

end ClientSubscription
end OpcuaStack
