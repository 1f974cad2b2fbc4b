import OpcuaStack.PublishWindow
import OpcuaStack.SessionRetention

/-!
# Agreement on acknowledgements

A server numbers its keep-alives with the number of the next data message, and
the client acknowledges every number but zero.  As long as no keep-alive is
handled ahead of the message which takes its number, the client acknowledges
only what it has received, and the server drops nothing else.  The window is
what makes a number name one message: no acknowledgement is more than a few
messages old when it arrives.
-/

namespace OpcuaStack

/-- A response which the client acknowledges although it carries no data. -/
def PublishAnswer.isNumberedKeepAlive (answer : PublishAnswer) : Bool :=
  !answer.response.status.isBad && !answer.carriesData &&
    answer.response.notificationMessage.sequenceNumber != 0

namespace PublishLink

/-- A keep-alive is handled only after the message which was published later
under its number. -/
def KeepAlivesOvertaken (l : PublishLink) : PublishEvent → Prop
  | .handle => ∀ answer ∈ l.awaited, answer.isNumberedKeepAlive = true →
      ∃ index message, answer.published ≤ index ∧
        l.record.published[index]? =
          some (answer.response.subscriptionId, message) ∧
        message.sequenceNumber =
          answer.response.notificationMessage.sequenceNumber ∧
        (answer.response.subscriptionId, message) ∈ l.record.received
  | _ => True

/-- The session keeps its subscriptions to itself. -/
def SessionKeepsToItself (l : PublishLink) : PublishEvent → Prop
  | .session event => l.session.KeepsToItself l.record.published event
  | _ => True

instance (l : PublishLink) :
    (event : PublishEvent) → Decidable (l.SessionKeepsToItself event)
  | .session event =>
      inferInstanceAs (Decidable
        (l.session.KeepsToItself l.record.published event))
  | .publish _ | .sendFinished _ | .handle | .serverReceives
  | .serverPolls _ _ => inferInstanceAs (Decidable True)

/-- The response awaited, if it is there, is no numbered keep-alive. -/
def awaitsData (l : PublishLink) : Bool :=
  l.awaited.all fun answer => !answer.isNumberedKeepAlive

theorem keepAlivesOvertaken_of_awaitsData {l : PublishLink}
    (h : l.awaitsData = true) (event : PublishEvent) :
    l.KeepAlivesOvertaken event := by
  cases event with
  | handle =>
      intro answer hawaited hnumbered
      have hawaited' : l.awaited = some answer := hawaited
      simp [awaitsData, hawaited', hnumbered] at h
  | _ => trivial

/-- The acknowledgement names the message at the index of the log, which has
been received. -/
def NamesAt (l : PublishLink) (acknowledgement : SubscriptionAcknowledgement)
    (index : ℕ) : Prop :=
  ∃ message, l.record.published[index]? =
      some (acknowledgement.subscriptionId, message) ∧
    message.sequenceNumber = acknowledgement.sequenceNumber ∧
    (acknowledgement.subscriptionId, message) ∈ l.record.received

/-- What the client sends and the server drops agree with what the client has
received. -/
structure AcksAgree (l : PublishLink) : Prop where
  acknowledged : ∀ acknowledgement ∈ l.record.acknowledged, ∃ message,
    (acknowledgement.subscriptionId, message) ∈ l.record.received ∧
      message.sequenceNumber = acknowledgement.sequenceNumber
  dropped : ∀ entry ∈ l.record.dropped, entry ∈ l.record.received

/-- Every published message is received or on its way, and no response or
acknowledgement on its way is more than a few messages old. -/
structure Accounted (l : PublishLink) : Prop extends AcksAgree l where
  numbered : Numbered NotificationMessage.sequenceNumber l.record.published
  follows : l.session.Follows l.record.published
  paced : ∀ answer ∈ l.answers,
    l.record.published.length + answer.place ≤
      l.record.handled + l.answers.length + answer.published
  carried : ∀ answer ∈ l.answers, answer.carriesData = true →
    answer.response.status.isBad = false ∧
      ∃ index, answer.published = index + 1 ∧
        l.record.published[index]? = some answer.entry
  received : ∀ (index : ℕ) entry, l.record.published[index]? = some entry →
    entry ∈ l.record.received ∨
      ∃ answer ∈ l.answers, answer.carriesData = true ∧
        answer.published = index + 1
  pending : ∀ acknowledgement ∈ l.client.pendingAcks,
    l.client.stage = .idle ∧ ∃ index, l.NamesAt acknowledgement index ∧
      l.record.published.length ≤ l.answers.length + index + 2
  requested : ∀ sent ∈ l.requests,
    ∀ acknowledgement ∈ sent.request.subscriptionAcknowledgements,
      ∃ index, l.NamesAt acknowledgement index ∧
        l.record.published.length + sent.place ≤
          l.record.handled + l.answers.length + index + 3

theorem NamesAt.mono {l m : PublishLink}
    {acknowledgement : SubscriptionAcknowledgement} {index : ℕ}
    (h : l.NamesAt acknowledgement index)
    (hpublished : l.record.published <+: m.record.published)
    (hreceived : l.record.received ⊆ m.record.received) :
    m.NamesAt acknowledgement index := by
  obtain ⟨message, hmessage, hnumber, hmem⟩ := h
  refine ⟨message, ?_, hnumber, hreceived hmem⟩
  obtain ⟨more, hmore⟩ := hpublished
  rw [← hmore, List.getElem?_append_left]
  · exact hmessage
  · exact (List.getElem?_eq_some_iff.mp hmessage).1

/-! ## The client -/

theorem fillWindow_accounted {l : PublishLink} (h : l.Accounted)
    (hwindow : l.Window) (hstage : l.client.stage = .idle)
    (hfull : l.client.hasRoom = false → l.client.pendingAcks = [])
    (sends : Bool) : (l.fillWindow sends).Accounted := by
  unfold fillWindow
  split
  next hroom =>
    split
    next =>
      have hlt : l.client.outstandingPublishes.length < 2 :=
        of_decide_eq_true hroom
      have hsent := hwindow.sent
      simp only [ClientProtocolSubscription.unhandled, hstage] at hsent
      refine ⟨⟨?_, h.dropped⟩, h.numbered, h.follows, h.paced, h.carried,
        h.received, ?_, ?_⟩
      · intro acknowledgement hmem
        rcases List.mem_append.mp hmem with hold | hnew
        · exact h.acknowledged acknowledgement hold
        · obtain ⟨_, index, ⟨message, _, hnumber, hreceived⟩, _⟩ :=
            h.pending acknowledgement hnew
          exact ⟨message, hreceived, hnumber⟩
      · intro acknowledgement hmem
        exact absurd hmem List.not_mem_nil
      · intro sent hmem acknowledgement hacknowledgement
        rcases List.mem_append.mp hmem with hold | hnew
        · exact h.requested sent hold acknowledgement hacknowledgement
        · rw [List.mem_singleton.mp hnew] at hacknowledgement ⊢
          obtain ⟨_, index, hnames, hage⟩ :=
            h.pending acknowledgement hacknowledgement
          refine ⟨index, hnames, ?_⟩
          simp only
          omega
    next =>
      refine ⟨⟨h.acknowledged, h.dropped⟩, h.numbered, h.follows, h.paced,
        h.carried, h.received, ?_, h.requested⟩
      intro acknowledgement hmem
      exact absurd hmem List.not_mem_nil
  next hnone =>
    have hempty := hfull (Bool.eq_false_iff.mpr hnone)
    refine ⟨⟨h.acknowledged, h.dropped⟩, h.numbered, h.follows, h.paced,
      h.carried, h.received, ?_, h.requested⟩
    intro acknowledgement hmem
    have hacks : l.client.beginReceive.pendingAcks = l.client.pendingAcks := by
      unfold ClientProtocolSubscription.beginReceive
      split <;> rfl
    simp only [hacks, hempty] at hmem
    exact absurd hmem List.not_mem_nil

theorem Accounted.pendingAcks_nil {l : PublishLink} (h : l.Accounted)
    (hstage : l.client.stage ≠ .idle) : l.client.pendingAcks = [] := by
  rw [List.eq_nil_iff_forall_not_mem]
  intro acknowledgement hmem
  exact hstage (h.pending acknowledgement hmem).1

theorem publish_accounted {l : PublishLink} (h : l.Accounted)
    (hwindow : l.Window) (hroom : l.RoomWhenIdle) (sends : Bool) :
    (l.publish sends).Accounted := by
  unfold publish
  split
  next hidle =>
    refine fillWindow_accounted h hwindow hidle.1 (fun hnone => ?_) sends
    rw [hroom hidle.1] at hnone
    cases hnone
  next => exact h

theorem sendFinished_accounted {l : PublishLink} (h : l.Accounted)
    (hwindow : l.Window) (sends : Bool) : (l.sendFinished sends).Accounted := by
  unfold sendFinished
  split
  next place hstage =>
    have hempty : l.client.pendingAcks = [] :=
      h.pendingAcks_nil (by simp [hstage])
    have hfinished : ({ l with client := l.client.finishSend place } :
        PublishLink).Accounted := by
      refine ⟨⟨h.acknowledged, h.dropped⟩, h.numbered, h.follows, h.paced,
        h.carried, h.received, ?_, h.requested⟩
      intro acknowledgement hmem
      have hnone : acknowledgement ∈ l.client.pendingAcks := hmem
      rw [hempty] at hnone
      exact absurd hnone List.not_mem_nil
    exact fillWindow_accounted hfinished (finishSend_window hwindow hstage) rfl
      (fun _ => hempty) sends
  next => exact h

theorem handlePublishResponse_pendingAcks (c : ClientProtocolSubscription)
    (response : PublishResponse) :
    ∀ acknowledgement ∈ (c.handlePublishResponse response).1.pendingAcks,
      acknowledgement ∈ c.pendingAcks ∨
        response.status.isBad = false ∧
          response.notificationMessage.sequenceNumber ≠ 0 ∧
          acknowledgement =
            { subscriptionId := response.subscriptionId
              sequenceNumber := response.notificationMessage.sequenceNumber } := by
  intro acknowledgement hmem
  unfold ClientProtocolSubscription.handlePublishResponse at hmem
  split at hmem
  next => exact .inl hmem
  next hgood =>
    simp only at hmem
    split at hmem
    next hnumber =>
      rcases List.mem_append.mp hmem with hold | hnew
      · exact .inl hold
      · exact .inr ⟨Bool.eq_false_iff.mpr hgood, hnumber,
          List.mem_singleton.mp hnew⟩
    next => exact .inl hmem

theorem handlePublishResponse_dispatched {c : ClientProtocolSubscription}
    {response : PublishResponse} (hgood : response.status.isBad = false) :
    (c.handlePublishResponse response).2 =
      some response.notificationMessage := by
  unfold ClientProtocolSubscription.handlePublishResponse
  rw [hgood]
  rfl

theorem handle_grows (l : PublishLink) :
    l.handle.record.published = l.record.published ∧
      l.record.received ⊆ l.handle.record.received := by
  unfold handle
  cases l.awaited with
  | none => exact ⟨rfl, List.Subset.refl _⟩
  | some answer => exact ⟨rfl, List.subset_append_left _ _⟩

theorem entry_received {l : PublishLink} {answer : PublishAnswer}
    (hawaited : l.awaited = some answer)
    (hgood : answer.response.status.isBad = false)
    (hdata : answer.carriesData = true) :
    answer.entry ∈ l.handle.record.received := by
  simp only [handle, hawaited]
  refine List.mem_append_right _ ?_
  rw [handlePublishResponse_dispatched hgood]
  refine List.mem_map.mpr ⟨answer.response.notificationMessage, ?_, rfl⟩
  exact List.mem_filter.mpr ⟨List.mem_cons_self, hdata⟩

/-- What the client is to acknowledge next is a message of the log, and not an old one. -/
theorem pending_handle {l : PublishLink} (h : l.Accounted)
    (hovertaken : l.KeepAlivesOvertaken .handle) {answer : PublishAnswer}
    (hawaited : l.awaited = some answer)
    (hpaced : l.record.published.length ≤ l.answers.length + answer.published)
    {acknowledgement : SubscriptionAcknowledgement}
    (hmem : acknowledgement ∈ l.handle.client.pendingAcks) :
    ∃ index, l.handle.NamesAt acknowledgement index ∧
      l.record.published.length ≤ l.answers.length + index + 1 := by
  obtain ⟨hstage, hperm⟩ := awaited_spec hawaited
  have hempty : l.client.pendingAcks = [] :=
    h.pendingAcks_nil (by simp [hstage])
  obtain ⟨hsame, hreceived⟩ := l.handle_grows
  simp only [handle, hawaited] at hmem
  rcases handlePublishResponse_pendingAcks _ _ acknowledgement hmem with
    hold | ⟨hgood, hnumber, rfl⟩
  · simp only [hempty] at hold
    exact absurd hold List.not_mem_nil
  · by_cases hdata : answer.carriesData = true
    · obtain ⟨_, index, hpublished, hcarried⟩ :=
        h.carried answer (hperm.symm.subset List.mem_cons_self) hdata
      refine ⟨index, ⟨_, hsame ▸ hcarried, rfl, ?_⟩, by omega⟩
      exact entry_received hawaited hgood hdata
    · have hkeepAlive : answer.isNumberedKeepAlive = true := by
        simp [PublishAnswer.isNumberedKeepAlive, hgood, hdata, hnumber]
      obtain ⟨index, message, hle, hpublished, hnamed, hgot⟩ :=
        hovertaken answer hawaited hkeepAlive
      exact ⟨index, ⟨message, hsame ▸ hpublished, hnamed, hreceived hgot⟩, by omega⟩

theorem handle_accounted {l : PublishLink} (h : l.Accounted)
    (hwindow : l.Window) (hovertaken : l.KeepAlivesOvertaken .handle) :
    l.handle.Accounted := by
  cases hawaited : l.awaited with
  | none =>
      unfold handle
      rw [hawaited]
      exact h
  | some answer =>
      obtain ⟨hstage, hperm⟩ := awaited_spec hawaited
      have hanswer : answer ∈ l.answers :=
        hperm.symm.subset List.mem_cons_self
      have hlength : l.answers.length =
          (l.answers.eraseP (·.place == answer.place)).length + 1 := by
        simpa using hperm.length_eq
      have hrest : ∀ other ∈ l.answers.eraseP (·.place == answer.place),
          other ∈ l.answers := fun _ => List.mem_of_mem_eraseP
      have hplace : l.record.handled = answer.place := by
        have hunhandled := hwindow.unhandled
        simp only [ClientProtocolSubscription.unhandled, hstage,
          List.length_cons, List.range'_succ, List.cons.injEq] at hunhandled
        exact hunhandled.1.symm
      have hpaced := h.paced answer hanswer
      have hpending := fun acknowledgement =>
        @pending_handle l h hovertaken answer hawaited (by omega) acknowledgement
      have hreceived := entry_received hawaited
      have hnames : ∀ {acknowledgement index},
          l.NamesAt acknowledgement index →
            l.handle.NamesAt acknowledgement index := fun hnamed =>
        hnamed.mono (by rw [l.handle_grows.1]) l.handle_grows.2
      unfold handle at hnames hpending hreceived ⊢
      rw [hawaited] at hnames hpending hreceived ⊢
      refine ⟨⟨?_, ?_⟩, h.numbered, h.follows, ?_, ?_, ?_, ?_, ?_⟩
      · intro acknowledgement hmem
        obtain ⟨message, hreceived, hnumber⟩ :=
          h.acknowledged acknowledgement hmem
        exact ⟨message, List.mem_append_left _ hreceived, hnumber⟩
      · intro entry hmem
        exact List.mem_append_left _ (h.dropped entry hmem)
      · intro other hother
        have hother' := h.paced other (hrest other hother)
        simp only
        omega
      · intro other hother
        exact h.carried other (hrest other hother)
      · intro index entry hentry
        rcases h.received index entry hentry with
          hold | ⟨other, hother, hdata, hstamp⟩
        · exact .inl (List.mem_append_left _ hold)
        · rcases List.mem_cons.mp (hperm.subset hother) with rfl | hkept
          · -- the message which the client receives now
            obtain ⟨hgood, place, hpublished, hcarried⟩ :=
              h.carried other hother hdata
            have hindex : place = index := by omega
            rw [hindex, hentry, Option.some.injEq] at hcarried
            exact .inl (hcarried ▸ hreceived hgood hdata)
          · exact .inr ⟨other, hkept, hdata, hstamp⟩
      · intro acknowledgement hmem
        obtain ⟨index, hnamed, hage⟩ := hpending acknowledgement hmem
        refine ⟨(handlePublishResponse_outstanding _ _).2, index, hnamed, ?_⟩
        simp only
        omega
      · intro sent hsent acknowledgement hacknowledgement
        obtain ⟨index, hnamed, hage⟩ :=
          h.requested sent hsent acknowledgement hacknowledgement
        refine ⟨index, hnames hnamed, ?_⟩
        simp only
        omega

/-! ## The server -/

/-- A message which an acknowledgement of the first request takes out of its
queue has been received. -/
theorem dropped_received {l : PublishLink} (h : l.Accounted)
    (hwindow : l.Window) {sent : SentPublish} {rest : List SentPublish}
    (hrequests : l.requests = sent :: rest)
    {entry : SubscriptionId × NotificationMessage}
    (hentry : entry ∈ l.session.acknowledgedMessages
      sent.request.subscriptionAcknowledgements) :
    entry ∈ l.record.received := by
  obtain ⟨hlog, acknowledgement, hacknowledgement, hid, hnumber⟩ :=
    ServerSession.acknowledgedMessages_spec h.follows hentry
  obtain ⟨index, ⟨message, hmessage, hnamed, hreceived⟩, hage⟩ :=
    h.requested sent (by rw [hrequests]; exact List.mem_cons_self)
      acknowledgement hacknowledgement
  have hanswered := hwindow.answered_le hrequests
  obtain ⟨place, hplace⟩ := List.mem_iff_getElem?.mp hlog
  rcases h.received place entry hplace with hdone | ⟨answer, hanswer, _, hstamp⟩
  · exact hdone
  · -- both messages are among the last three, so one number means one message
    have hpaced := h.paced answer hanswer
    have hplaces : answer.place ∈ l.places := by
      unfold PublishLink.places
      exact List.mem_append_right _ (List.mem_append_right _
        (List.mem_map_of_mem hanswer))
    have hbounds := hwindow.place_bounds hplaces
    have hlength := hwindow.answers_length_le
    simp only [maxOutstandingPublishRequests] at hlength
    have hindex := (List.getElem?_eq_some_iff.mp hmessage).1
    have hplace' := (List.getElem?_eq_some_iff.mp hplace).1
    obtain ⟨id, dropped⟩ := entry
    simp only at hid hnumber
    subst hid
    have heq : place = index :=
      h.numbered.index_eq hplace hmessage (hnumber.trans hnamed.symm)
        (by omega) (by omega)
    rw [heq, hmessage, Option.some.injEq] at hplace
    rw [← hplace]
    exact hreceived

theorem serverReceives_accounted {l : PublishLink} (h : l.Accounted)
    (hwindow : l.Window) : l.serverReceives.Accounted := by
  unfold serverReceives
  split
  · exact h
  next sent rest hrequests =>
    refine ⟨⟨h.acknowledged, ?_⟩, h.numbered,
      h.follows.acknowledgePublishRequest sent.request, h.paced, h.carried,
      h.received, h.pending, ?_⟩
    · intro entry hmem
      rcases List.mem_append.mp hmem with hold | hnew
      · exact h.dropped entry hold
      · exact dropped_received h hwindow hrequests hnew
    · intro other hother
      exact h.requested other (by
        rw [hrequests]
        exact List.mem_cons_of_mem _ hother)

theorem answer_carried {l m : PublishLink} (h : l.Accounted)
    {answer other : PublishAnswer} (hanswers : m.answers = l.answers ++ [answer])
    (hpublished : m.record.published =
      l.record.published ++ if answer.carriesData then [answer.entry] else [])
    (hstamp : answer.published = m.record.published.length)
    (hgood : answer.carriesData = true → answer.response.status.isBad = false)
    (hother : other ∈ m.answers) (hdata : other.carriesData = true) :
    other.response.status.isBad = false ∧ ∃ index, other.published = index + 1 ∧
      m.record.published[index]? = some other.entry := by
  rw [hanswers] at hother
  rcases List.mem_append.mp hother with hold | hnew
  · obtain ⟨hstatus, index, hindex, hentry⟩ := h.carried other hold hdata
    refine ⟨hstatus, index, hindex, ?_⟩
    rw [hpublished, List.getElem?_append_left]
    · exact hentry
    · exact (List.getElem?_eq_some_iff.mp hentry).1
  · rw [List.mem_singleton.mp hnew] at hdata ⊢
    rw [if_pos hdata] at hpublished
    refine ⟨hgood hdata, l.record.published.length, ?_, ?_⟩
    · rw [hstamp, hpublished, List.length_append, List.length_singleton]
    · rw [hpublished]
      exact List.getElem?_concat_length

theorem answer_received {l m : PublishLink} (h : l.Accounted)
    {answer : PublishAnswer} (hanswers : m.answers = l.answers ++ [answer])
    (hpublished : m.record.published =
      l.record.published ++ if answer.carriesData then [answer.entry] else [])
    (hstamp : answer.published = m.record.published.length)
    (hreceived : m.record.received = l.record.received) {index : ℕ}
    {entry : SubscriptionId × NotificationMessage}
    (hentry : m.record.published[index]? = some entry) :
    entry ∈ m.record.received ∨ ∃ other ∈ m.answers,
      other.carriesData = true ∧ other.published = index + 1 := by
  rw [hreceived, hanswers]
  rw [hpublished] at hentry
  rcases lt_or_ge index l.record.published.length with hlt | hge
  · rw [List.getElem?_append_left hlt] at hentry
    rcases h.received index entry hentry with hold | ⟨other, hother, hcarried⟩
    · exact .inl hold
    · exact .inr ⟨other, List.mem_append_left _ hother, hcarried⟩
  · have hlt := (List.getElem?_eq_some_iff.mp hentry).1
    have hdata : answer.carriesData = true := by
      by_contra hnone
      rw [if_neg hnone, List.append_nil] at hlt
      omega
    rw [if_pos hdata, List.length_append, List.length_singleton] at hlt
    rw [if_pos hdata] at hpublished
    refine .inr ⟨answer, List.mem_append_right _ List.mem_cons_self, hdata, ?_⟩
    rw [hstamp, hpublished, List.length_append, List.length_singleton]
    omega

/-- An answer is added, and the log grows by the message it carries, if it
carries one. -/
theorem answer_accounted {l m : PublishLink} (h : l.Accounted)
    {answer : PublishAnswer} (hclient : m.client = l.client) (hrequests : m.requests = l.requests)
    (hanswers : m.answers = l.answers ++ [answer])
    (hrecord : m.record =
      { l.record with
        published := l.record.published ++
          if answer.carriesData then [answer.entry] else [] })
    (hnumbered : Numbered NotificationMessage.sequenceNumber m.record.published)
    (hfollows : m.session.Follows m.record.published)
    (hstamp : answer.published = m.record.published.length)
    (hplace : answer.place ≤ l.record.handled + l.answers.length + 1)
    (hgood : answer.carriesData = true →
      answer.response.status.isBad = false) : m.Accounted := by
  have hpublished : m.record.published =
      l.record.published ++ if answer.carriesData then [answer.entry] else [] := by
    rw [hrecord]
  have hreceived : m.record.received = l.record.received := by rw [hrecord]
  have hhandled : m.record.handled = l.record.handled := by rw [hrecord]
  have hlength : m.record.published.length ≤ l.record.published.length + 1 := by
    rw [hpublished, List.length_append]
    split <;> simp
  have hcount : m.answers.length = l.answers.length + 1 := by
    rw [hanswers, List.length_append, List.length_singleton]
  have hnames : ∀ {acknowledgement index},
      l.NamesAt acknowledgement index → m.NamesAt acknowledgement index := by
    intro acknowledgement index hnamed
    refine hnamed.mono ?_ ?_
    · rw [hpublished]
      exact List.prefix_append _ _
    · rw [hreceived]
      exact List.Subset.refl _
  refine ⟨⟨?_, ?_⟩, hnumbered, hfollows, ?_,
    fun _ => answer_carried h hanswers hpublished hstamp hgood,
    fun _ _ => answer_received h hanswers hpublished hstamp hreceived, ?_, ?_⟩
  · rw [hrecord]
    exact h.acknowledged
  · rw [hrecord]
    exact h.dropped
  · intro other hother
    rw [hanswers] at hother
    rcases List.mem_append.mp hother with hold | hnew
    · have hpaced := h.paced other hold
      omega
    · rw [List.mem_singleton.mp hnew]
      omega
  · intro acknowledgement hmem
    rw [hclient] at hmem ⊢
    obtain ⟨hidle, index, hnamed, hage⟩ := h.pending acknowledgement hmem
    exact ⟨hidle, index, hnames hnamed, by omega⟩
  · intro sent hsent acknowledgement hacknowledgement
    rw [hrequests] at hsent
    obtain ⟨index, hnamed, hage⟩ :=
      h.requested sent hsent acknowledgement hacknowledgement
    exact ⟨index, hnames hnamed, by omega⟩

theorem serverPolls_accounted {l : PublishLink} (h : l.Accounted)
    (hwindow : l.Window) (index : ℕ) (now : DateTime) :
    (l.serverPolls index now).Accounted := by
  unfold serverPolls
  split
  · exact h
  next held hheld =>
    have hplace : held.place ≤ l.record.handled + l.answers.length + 1 := by
      have hmem : held.place ∈ l.places := by
        unfold PublishLink.places
        refine List.mem_append_right _ (List.mem_append_left _ ?_)
        exact List.mem_map_of_mem (List.mem_of_getElem? hheld)
      have hbounds := hwindow.place_bounds hmem
      have hsent := hwindow.sent
      have hbound := hwindow.bound
      simp only [maxOutstandingPublishRequests] at hbound
      omega
    have hpolls := ServerSession.pollPublish_polls h.follows now
    simp only
    generalize l.session.pollPublish now = result at hpolls ⊢
    cases hpolls with
    | waits hfollows =>
        exact ⟨⟨h.acknowledged, h.dropped⟩, h.numbered, hfollows, h.paced,
          h.carried, h.received, h.pending, h.requested⟩
    | empty hfollows hdata =>
        refine answer_accounted h rfl rfl rfl ?_ ?_ ?_ rfl hplace ?_
        · simp [PublishAnswer.carriesData, hdata]
        · simpa [hdata] using h.numbered
        · simpa [hdata] using hfollows
        · simp [PublishAnswer.carriesData, hdata]
    | @data after response hfollows hdata hgood hnumber =>
        have hfilled : response.notificationMessage.notificationData.isEmpty =
            false := by
          simpa using hdata
        refine answer_accounted h rfl rfl rfl ?_ ?_ ?_ rfl hplace
          fun _ => hgood
        · simp [PublishAnswer.carriesData, PublishAnswer.entry, hfilled]
        · simpa [hfilled] using h.numbered.append hnumber
        · simpa [hfilled] using hfollows

/-! ## Runs -/

theorem step_accounted {l : PublishLink} (h : l.Accounted)
    (hwindow : l.Window) (hroom : l.RoomWhenIdle) {event : PublishEvent}
    (hsession : l.SessionKeepsToItself event)
    (hovertaken : l.KeepAlivesOvertaken event) : (l.step event).Accounted := by
  cases event with
  | publish sends => exact publish_accounted h hwindow hroom sends
  | sendFinished sends => exact sendFinished_accounted h hwindow sends
  | handle => exact handle_accounted h hwindow hovertaken
  | serverReceives => exact serverReceives_accounted h hwindow
  | serverPolls index now => exact serverPolls_accounted h hwindow index now
  | session event =>
      exact ⟨⟨h.acknowledged, h.dropped⟩, h.numbered, h.follows.apply hsession,
        h.paced, h.carried, h.received, h.pending, h.requested⟩

/-- A client subscription which has not published yet, on a session which has
not published for any of its subscriptions. -/
def start (session : ServerSession) : PublishLink := { session := session }

theorem start_window (session : ServerSession) :
    (start session).Window ∧ (start session).RoomWhenIdle :=
  ⟨⟨rfl, rfl, Nat.zero_le _, .refl _, 0, rfl, rfl⟩, fun _ => rfl⟩

theorem start_accounted {session : ServerSession} (hfresh : session.Follows []) :
    (start session).Accounted := by
  refine ⟨⟨?_, ?_⟩, .nil, hfresh, ?_, ?_, ?_, ?_, ?_⟩ <;> simp [start]

/-- In every run in which no keep-alive is handled ahead of the message which
takes its number, the client acknowledges only messages which it has received,
and the server drops no other message on acknowledgement. -/
theorem acknowledgements_agree (session : ServerSession)
    (hfresh : session.Follows []) (events : List PublishEvent)
    (hsession : AllMeet step SessionKeepsToItself (start session) events)
    (hovertaken : AllMeet step KeepAlivesOvertaken (start session) events) :
    (runFrom step (start session) events).AcksAgree := by
  have hrun : ((runFrom step (start session) events).Window ∧
      (runFrom step (start session) events).RoomWhenIdle) ∧
        (runFrom step (start session) events).Accounted := by
    refine runFrom_invariant
      (P := fun l : PublishLink => (l.Window ∧ l.RoomWhenIdle) ∧ l.Accounted)
      (fun l event h hmeets => ?_)
      ⟨start_window session, start_accounted hfresh⟩
      (hsession.and hovertaken)
    exact ⟨step_window h.1 event,
      step_accounted h.2 h.1.1 h.1.2 hmeets.1 hmeets.2⟩
  exact hrun.2.toAcksAgree

/-- Two publishes are sent to a session with one subscription. -/
def fillsWindow : List PublishEvent :=
  (ServerSession.subscribes 1).map .session ++
    [.publish true, .sendFinished true, .sendFinished true, .serverReceives,
      .serverReceives]

/-- The first publish is answered with data, which the next one acknowledges. -/
def dataAcknowledged : List PublishEvent :=
  fillsWindow ++
    [.session (ServerSession.changes 1), .serverPolls 0 ⟨1000000⟩, .handle,
      .publish true, .serverReceives]

theorem data_acknowledged_after_receipt :
    (runFrom step (start ServerSession.emptySession)
        dataAcknowledged).record.dropped.length = 1 ∧
      (runFrom step (start ServerSession.emptySession)
        dataAcknowledged).AcksAgree := by
  refine ⟨by decide +kernel, ?_⟩
  refine acknowledgements_agree ServerSession.emptySession (fun id s hlookup =>
    absurd hlookup (by simp [ServerSession.emptySession])) dataAcknowledged ?_ ?_
  · decide
  · have hdata : AllMeet step (fun l _ => l.awaitsData = true)
        (start ServerSession.emptySession) dataAcknowledged := by
      decide +kernel
    exact hdata.imp fun l event h => keepAlivesOvertaken_of_awaitsData h event

/-- The first publish is answered with a keep-alive, and the second one with the
data message which takes its number.  The client has handled only the keep-alive
when it sends the next publish. -/
def keepAliveAcknowledged : List PublishEvent :=
  fillsWindow ++
    [.serverPolls 0 ⟨1000000⟩, .session (ServerSession.changes 1),
      .serverPolls 0 ⟨2000000⟩, .handle, .publish true, .serverReceives]

theorem keep_alive_acknowledgement_drops_unreceived :
    AllMeet step SessionKeepsToItself (start ServerSession.emptySession)
        keepAliveAcknowledged ∧
      (runFrom step (start ServerSession.emptySession)
          keepAliveAcknowledged).record.acknowledged.map
            (fun ack => (ack.subscriptionId, ack.sequenceNumber)) = [(1, 1)] ∧
      (runFrom step (start ServerSession.emptySession)
          keepAliveAcknowledged).record.received.length = 0 ∧
      (runFrom step (start ServerSession.emptySession)
          keepAliveAcknowledged).record.dropped.map
            (fun entry => (entry.1, entry.2.sequenceNumber)) = [(1, 1)] ∧
      ¬ (runFrom step (start ServerSession.emptySession)
          keepAliveAcknowledged).AcksAgree := by
  have hnothing : (runFrom step (start ServerSession.emptySession)
      keepAliveAcknowledged).record.received.length = 0 := by
    decide +kernel
  have hone : (runFrom step (start ServerSession.emptySession)
      keepAliveAcknowledged).record.dropped.length = 1 := by
    decide +kernel
  refine ⟨by decide +kernel, by decide +kernel, hnothing,
    by decide +kernel, ?_⟩
  intro hagree
  obtain ⟨entry, hentry⟩ := List.length_eq_one_iff.mp hone
  have hmem := hagree.dropped entry (by rw [hentry]; exact List.mem_cons_self)
  rw [List.length_eq_zero_iff.mp hnothing] at hmem
  exact absurd hmem List.not_mem_nil

end PublishLink
end OpcuaStack
