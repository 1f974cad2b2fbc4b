import OpcuaStack.PublishLink

/-!
# The publish window

The requests whose responses the client has not handled are the last ones it
sent, two at most.  Each of them is on its way, held by the server or answered,
and the requests on their way are the newest.
-/

namespace OpcuaStack

theorem perm_cons_eraseP_of_find? {α : Type*} {p : α → Bool} {elements : List α}
    {element : α} (h : elements.find? p = some element) :
    elements.Perm (element :: elements.eraseP p) := by
  induction elements with
  | nil => cases h
  | cons first rest ih =>
      by_cases hfirst : p first = true
      · rw [List.find?_cons_of_pos hfirst, Option.some.injEq] at h
        rw [List.eraseP_cons_of_pos hfirst, h]
      · rw [List.find?_cons_of_neg hfirst] at h
        rw [List.eraseP_cons_of_neg hfirst]
        exact ((ih h).cons first).trans (List.Perm.swap element first _)

theorem perm_cons_eraseIdx {α : Type*} {elements : List α} {index : ℕ}
    {element : α} (h : elements[index]? = some element) :
    elements.Perm (element :: elements.eraseIdx index) := by
  obtain ⟨hlt, rfl⟩ := List.getElem?_eq_some_iff.mp h
  exact (List.getElem_cons_eraseIdx_perm hlt).symm

namespace PublishLink

open ClientProtocolSubscription

/-- The places of the requests, wherever they are. -/
def places (l : PublishLink) : List ℕ :=
  l.requests.map SentPublish.place ++
    (l.held.map HeldPublish.place ++ l.answers.map PublishAnswer.place)

structure Window (l : PublishLink) : Prop where
  unhandled : l.client.unhandled =
    List.range' l.record.handled l.client.unhandled.length
  sent : l.sent = l.record.handled + l.client.unhandled.length
  bound : l.client.unhandled.length ≤ maxOutstandingPublishRequests
  places : l.places.Perm l.client.unhandled
  newest : ∃ first, l.requests.map SentPublish.place =
      List.range' first l.requests.length ∧
    first + l.requests.length = l.sent

/-- Between two calls of `Publish` there is room in the window. -/
def RoomWhenIdle (l : PublishLink) : Prop :=
  l.client.stage = .idle → l.client.hasRoom = true

namespace Window

variable {l : PublishLink}

theorem length_places (h : l.Window) :
    l.requests.length + (l.held.length + l.answers.length) =
      l.client.unhandled.length := by
  simpa [PublishLink.places] using h.places.length_eq

theorem place_bounds (h : l.Window) {place : ℕ} (hplace : place ∈ l.places) :
    l.record.handled ≤ place ∧ place < l.sent := by
  have hmem := h.places.subset hplace
  rw [h.unhandled, List.mem_range'_1] at hmem
  rw [h.sent]
  exact hmem

theorem answers_length_le (h : l.Window) :
    l.answers.length ≤ maxOutstandingPublishRequests := by
  have hlength := h.length_places
  have hbound := h.bound
  omega

theorem answered_le (h : l.Window) {sent : SentPublish}
    {rest : List SentPublish} (hrequests : l.requests = sent :: rest) :
    l.record.handled + l.answers.length ≤ sent.place := by
  obtain ⟨first, hplaces, hsent⟩ := h.newest
  have hlength := h.length_places
  have htotal := h.sent
  rw [hrequests] at hplaces hsent hlength
  simp only [List.map_cons, List.length_cons, List.range'_succ,
    List.cons.injEq] at hplaces hsent hlength
  omega

theorem of_eq (h : l.Window) {m : PublishLink}
    (hclient : m.client.unhandled = l.client.unhandled)
    (hhandled : m.record.handled = l.record.handled) (hsent : m.sent = l.sent)
    (hrequests : m.requests = l.requests) (hplaces : m.places.Perm l.places) :
    m.Window where
  unhandled := by
    rw [hclient, hhandled]
    exact h.unhandled
  sent := by
    rw [hclient, hhandled, hsent]
    exact h.sent
  bound := by
    rw [hclient]
    exact h.bound
  places := by
    rw [hclient]
    exact hplaces.trans h.places
  newest := by
    rw [hrequests, hsent]
    exact h.newest

end Window

/-! ## Steps -/

theorem fillWindow_window {l : PublishLink} (h : l.Window)
    (hstage : l.client.stage = .idle) (sends : Bool) :
    (l.fillWindow sends).Window ∧ (l.fillWindow sends).RoomWhenIdle := by
  obtain ⟨first, hplaces, hfirst⟩ := h.newest
  have hidle : l.client.unhandled = l.client.outstandingPublishes := by
    simp [ClientProtocolSubscription.unhandled, hstage]
  have hunhandled := h.unhandled
  have hsent := h.sent
  rw [hidle] at hunhandled hsent
  unfold fillWindow
  split
  next hroom =>
    split
    next =>
      have hlast : l.client.outstandingPublishes ++ [l.sent] =
          List.range' l.record.handled
            (l.client.outstandingPublishes.length + 1) := by
        rw [List.range'_concat, ← hunhandled, Nat.one_mul, ← hsent]
      refine ⟨⟨?_, ?_, ?_, ?_, first, ?_, ?_⟩, ?_⟩
      · simpa [beginSend, ClientProtocolSubscription.unhandled] using hlast
      · simp only [beginSend, ClientProtocolSubscription.unhandled,
          List.length_append, List.length_singleton]
        omega
      · have hlt : l.client.outstandingPublishes.length <
            maxOutstandingPublishRequests := of_decide_eq_true hroom
        simpa [beginSend, ClientProtocolSubscription.unhandled] using hlt
      · have hperm := h.places
        rw [hidle] at hperm
        simp only [PublishLink.places, beginSend,
          ClientProtocolSubscription.unhandled, List.map_append,
          List.map_singleton, List.append_assoc]
        have hmoved : (l.requests.map SentPublish.place ++ ([l.sent] ++
            (l.held.map HeldPublish.place ++
              l.answers.map PublishAnswer.place))).Perm
            (l.sent :: l.places) := List.perm_middle
        exact hmoved.trans ((hperm.cons l.sent).trans
          (List.perm_append_singleton l.sent _).symm)
      · rw [List.map_append, hplaces, List.length_append, List.length_singleton,
          List.range'_concat, Nat.one_mul, hfirst]
        rfl
      · simp only [List.length_append, List.length_singleton]
        omega
      · intro hcontra
        cases hcontra
    next =>
      refine ⟨h.of_eq ?_ rfl rfl rfl (.refl _), fun _ => hroom⟩
      exact hidle.symm
  next hfull =>
    cases houtstanding : l.client.outstandingPublishes with
    | nil =>
        simp [hasRoom, houtstanding, maxOutstandingPublishRequests] at hfull
    | cons oldest rest =>
        have hclient : l.client.beginReceive.unhandled = l.client.unhandled := by
          rw [hidle, houtstanding]
          simp [beginReceive, houtstanding,
            ClientProtocolSubscription.unhandled]
        refine ⟨h.of_eq hclient rfl rfl rfl (.refl _), fun hcontra => ?_⟩
        simp [beginReceive, houtstanding] at hcontra

theorem publish_window {l : PublishLink} (h : l.Window)
    (hroom : l.RoomWhenIdle) (sends : Bool) :
    (l.publish sends).Window ∧ (l.publish sends).RoomWhenIdle := by
  unfold publish
  split
  next hidle => exact fillWindow_window h hidle.1 sends
  next => exact ⟨h, hroom⟩

theorem finishSend_window {l : PublishLink} (h : l.Window) {place : ℕ}
    (hstage : l.client.stage = .sending place) :
    ({ l with client := l.client.finishSend place } : PublishLink).Window := by
  refine h.of_eq ?_ rfl rfl rfl (.refl _)
  simp [finishSend, ClientProtocolSubscription.unhandled, hstage]

theorem sendFinished_window {l : PublishLink} (h : l.Window)
    (hroom : l.RoomWhenIdle) (sends : Bool) :
    (l.sendFinished sends).Window ∧ (l.sendFinished sends).RoomWhenIdle := by
  unfold sendFinished
  split
  next place hstage =>
    exact fillWindow_window (finishSend_window h hstage) rfl sends
  next => exact ⟨h, hroom⟩

theorem awaited_spec {l : PublishLink} {answer : PublishAnswer}
    (hawaited : l.awaited = some answer) :
    l.client.stage = .receiving answer.place ∧
      l.answers.Perm
        (answer :: l.answers.eraseP (·.place == answer.place)) := by
  unfold awaited at hawaited
  split at hawaited
  next place hstage =>
    have hfound := List.find?_some hawaited
    have hplace : answer.place = place := beq_iff_eq.mp hfound
    rw [hplace]
    exact ⟨hstage, perm_cons_eraseP_of_find? hawaited⟩
  next => cases hawaited

theorem handlePublishResponse_outstanding (c : ClientProtocolSubscription)
    (response : PublishResponse) :
    (c.handlePublishResponse response).1.outstandingPublishes =
        c.outstandingPublishes ∧
      (c.handlePublishResponse response).1.stage = c.stage := by
  unfold handlePublishResponse
  split <;> exact ⟨rfl, rfl⟩

theorem handle_window {l : PublishLink} (h : l.Window)
    (hroom : l.RoomWhenIdle) : l.handle.Window ∧ l.handle.RoomWhenIdle := by
  unfold handle
  cases hawaited : l.awaited with
  | none => exact ⟨h, hroom⟩
  | some answer =>
      obtain ⟨hstage, hperm⟩ := awaited_spec hawaited
      obtain ⟨hkept, hidle⟩ := handlePublishResponse_outstanding
        { l.client with stage := .idle } answer.response
      have hbefore : l.client.unhandled =
          answer.place :: l.client.outstandingPublishes := by
        simp [ClientProtocolSubscription.unhandled, hstage]
      have hafter : (({ l.client with stage := .idle } :
          ClientProtocolSubscription).handlePublishResponse
            answer.response).1.unhandled = l.client.outstandingPublishes := by
        unfold ClientProtocolSubscription.unhandled
        rw [hidle, hkept]
      have hunhandled := h.unhandled
      have hsent := h.sent
      have hbound := h.bound
      rw [hbefore, List.length_cons, List.range'_succ, List.cons.injEq]
        at hunhandled
      rw [hbefore, List.length_cons] at hsent hbound
      refine ⟨⟨?_, ?_, ?_, ?_, h.newest⟩, fun _ => ?_⟩
      · simp only [hafter]
        exact hunhandled.2
      · simp only [hafter]
        omega
      · simp only [hafter]
        omega
      · have hplaces := h.places
        rw [hbefore] at hplaces
        simp only [hafter]
        apply List.Perm.cons_inv (a := answer.place)
        refine List.Perm.trans ?_ hplaces
        unfold PublishLink.places
        have hmoved := hperm.map PublishAnswer.place
        rw [List.map_cons] at hmoved
        rw [← List.append_assoc, ← List.append_assoc]
        exact (List.perm_middle.symm).trans
          (List.Perm.append_left _ hmoved.symm)
      · simp only [hasRoom, hkept]
        exact decide_eq_true (by omega)

theorem serverReceives_window {l : PublishLink} (h : l.Window) :
    l.serverReceives.Window := by
  unfold serverReceives
  split
  · exact h
  next sent rest hrequests =>
    obtain ⟨first, hplaces, hfirst⟩ := h.newest
    have hperm := h.places
    unfold PublishLink.places at hperm
    rw [hrequests] at hplaces hfirst hperm
    simp only [List.map_cons, List.length_cons, List.range'_succ,
      List.cons.injEq] at hplaces hfirst
    refine ⟨h.unhandled, h.sent, h.bound, ?_, first + 1, hplaces.2, ?_⟩
    · refine List.Perm.trans ?_ hperm
      simp only [PublishLink.places, List.map_append, List.map_cons,
        List.map_nil, List.append_assoc, List.cons_append, List.nil_append]
      rw [← List.append_assoc]
      refine List.perm_middle.trans ?_
      rw [List.append_assoc]
    · simp only
      omega

theorem serverPolls_window {l : PublishLink} (h : l.Window) (index : ℕ)
    (now : DateTime) : (l.serverPolls index now).Window := by
  unfold serverPolls
  split
  · exact h
  next held hheld =>
    simp only
    split
    · exact h.of_eq rfl rfl rfl rfl (.refl _)
    next response hresponse =>
      refine h.of_eq rfl rfl rfl rfl ?_
      have hperm := (perm_cons_eraseIdx hheld).map HeldPublish.place
      simp only [PublishLink.places, List.map_append, List.map_cons,
        List.map_nil]
      apply List.Perm.append_left
      rw [← List.append_assoc]
      refine (List.perm_append_singleton held.place _).trans ?_
      exact List.Perm.append_right _ hperm.symm

theorem step_window {l : PublishLink} (h : l.Window ∧ l.RoomWhenIdle)
    (event : PublishEvent) :
    (l.step event).Window ∧ (l.step event).RoomWhenIdle := by
  have hkeeps : ∀ {m : PublishLink}, m.client = l.client → m.RoomWhenIdle := by
    intro m hclient
    unfold RoomWhenIdle
    rw [hclient]
    exact h.2
  cases event with
  | publish sends => exact publish_window h.1 h.2 sends
  | sendFinished sends => exact sendFinished_window h.1 h.2 sends
  | handle => exact handle_window h.1 h.2
  | serverReceives =>
      refine ⟨serverReceives_window h.1, hkeeps ?_⟩
      simp only [step, serverReceives]
      split <;> rfl
  | serverPolls index now =>
      refine ⟨serverPolls_window h.1 index now, hkeeps ?_⟩
      simp only [step, serverPolls]
      split
      · rfl
      · split <;> rfl
  | session event =>
      exact ⟨h.1.of_eq rfl rfl rfl rfl (.refl _), hkeeps rfl⟩

end PublishLink
end OpcuaStack
