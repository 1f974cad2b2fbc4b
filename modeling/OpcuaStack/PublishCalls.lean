import OpcuaStack.ClientProtocolSubscription
import OpcuaStack.GuardedRun

/-!
# Acknowledgements across the calls of Publish

A client subscription between `Create` and `Delete`, with any number of calls of
`Publish` in progress.  Each is suspended in `Send` or in `Receive`, and the
channel resumes it with any result.  A record keeps what was queued for
acknowledgement and what a request carried whose `Send` has succeeded.
-/

namespace OpcuaStack

/-- A call of `Publish` where it is suspended: in `Send`, with the request and
the list which the request was built from, or in `Receive`. -/
inductive PublishCall where
  | sending (request : PublishRequest) (acks : List SubscriptionAcknowledgement)
  | receiving (place : ℕ)

structure PublishCalls where
  pendingAcks : List SubscriptionAcknowledgement := []
  outstandingPublishes : List ℕ := []
  calls : List PublishCall := []
  queued : List SubscriptionAcknowledgement := []
  carried : List (List SubscriptionAcknowledgement) := []

/-- A call starts, or the channel resumes the call at an index: its `Send`
returns a request or an error, its `Receive` a response or an error. -/
inductive PublishCallEvent where
  | publish
  | sendFinished (index : ℕ) (sent : Option ℕ)
  | received (index : ℕ) (response : Option PublishResponse)

/-- The vector which is constructed from another by a move, and what the move
leaves in the other. -/
def movedVector {α : Type} (items : List α) : List α × List α := (items, [])

/-- What `HandlePublishResponse` queues. -/
def acknowledgementOf (response : PublishResponse) :
    List SubscriptionAcknowledgement :=
  if response.status.isBad then []
  else if response.notificationMessage.sequenceNumber ≠ 0 then
    [{ subscriptionId := response.subscriptionId
       sequenceNumber := response.notificationMessage.sequenceNumber }]
  else []

/-- What a call has in a request whose `Send` has not returned. -/
def PublishCall.inRequest : PublishCall → List SubscriptionAcknowledgement
  | .sending request _ => request.subscriptionAcknowledgements
  | .receiving _ => []

namespace PublishCalls

/-- `SendPublishRequest` up to its suspension. -/
def sendPublishRequest (p : PublishCalls) : PublishCalls :=
  let (acks, _) := movedVector p.pendingAcks
  let (requested, acks) := movedVector acks
  { p with
    pendingAcks := []
    calls := p.calls ++
      [.sending { subscriptionAcknowledgements := requested } acks] }

/-- `Publish` once the window is full, up to its suspension. -/
def receiveOldest (p : PublishCalls) : PublishCalls :=
  match p.outstandingPublishes with
  | [] => p
  | place :: rest =>
      { p with
        outstandingPublishes := rest
        calls := p.calls ++ [.receiving place] }

/-- The loop of `FillPublishWindow` up to a suspension, and what follows it. -/
def fillPublishWindow (p : PublishCalls) : PublishCalls :=
  if p.outstandingPublishes.length < maxOutstandingPublishRequests then
    p.sendPublishRequest
  else p.receiveOldest

/-- The call at the index is no longer suspended. -/
def resumed (p : PublishCalls) (index : ℕ) : PublishCalls :=
  { p with calls := p.calls.eraseIdx index }

/-- `SendPublishRequest` from an error of `Send` on.  `Publish` returns it. -/
def failSend (p : PublishCalls) (acks : List SubscriptionAcknowledgement) :
    PublishCalls :=
  { p with pendingAcks := acks ++ p.pendingAcks }

/-- `SendPublishRequest` from the success of `Send` on. -/
def finishSend (p : PublishCalls) (request : PublishRequest) (place : ℕ) :
    PublishCalls :=
  { p with
    outstandingPublishes := p.outstandingPublishes ++ [place]
    carried := p.carried ++ [request.subscriptionAcknowledgements] }

def handlePublishResponse (p : PublishCalls) (response : PublishResponse) :
    PublishCalls :=
  { p with
    pendingAcks := p.pendingAcks ++ acknowledgementOf response
    queued := p.queued ++ acknowledgementOf response }

def step (p : PublishCalls) : PublishCallEvent → PublishCalls
  | .publish => p.fillPublishWindow
  | .sendFinished index sent =>
      match p.calls[index]? with
      | some (.sending request acks) =>
          match sent with
          | none => (p.resumed index).failSend acks
          | some place =>
              ((p.resumed index).finishSend request place).fillPublishWindow
      | _ => p
  | .received index response =>
      match p.calls[index]? with
      | some (.receiving _) =>
          match response with
          | none => p.resumed index
          | some response => (p.resumed index).handlePublishResponse response
      | _ => p

/-! ## The account -/

/-- What the requests hold whose `Send` has not returned. -/
def inFlight (p : PublishCalls) : List SubscriptionAcknowledgement :=
  p.calls.flatMap PublishCall.inRequest

/-- Every acknowledgement which was queued is pending, in flight or carried, and
as often as it was queued. -/
def Balanced (p : PublishCalls) : Prop :=
  p.queued.Perm (p.carried.flatten ++ p.inFlight ++ p.pendingAcks)

/-- A `Send` fails only if its request carries no acknowledgement. -/
def FailsEmpty (p : PublishCalls) : PublishCallEvent → Prop
  | .sendFinished index none => ∀ request acks,
      p.calls[index]? = some (.sending request acks) →
        request.subscriptionAcknowledgements = []
  | _ => True

/-- No call is suspended in `Send`. -/
def Quiet (p : PublishCalls) : Prop :=
  ∀ call ∈ p.calls, ∃ place, call = .receiving place

/-- The move has left nothing to put back. -/
def Emptied (p : PublishCalls) : Prop :=
  ∀ request acks, .sending request acks ∈ p.calls → acks = []

theorem Quiet.inFlight_eq {p : PublishCalls} (h : p.Quiet) :
    p.inFlight = [] := by
  unfold inFlight
  rw [List.flatMap_eq_nil_iff]
  intro call hmem
  obtain ⟨place, rfl⟩ := h call hmem
  rfl

theorem inFlight_perm {p : PublishCalls} {index : ℕ} {call : PublishCall}
    (h : p.calls[index]? = some call) :
    p.inFlight.Perm (call.inRequest ++ (p.resumed index).inFlight) := by
  obtain ⟨hlt, hcall⟩ := List.getElem?_eq_some_iff.mp h
  have hperm : p.calls.Perm (call :: p.calls.eraseIdx index) := by
    rw [← hcall]
    exact (List.getElem_cons_eraseIdx_perm hlt).symm
  exact hperm.flatMap_right PublishCall.inRequest

theorem Emptied.resumed {p : PublishCalls} (h : p.Emptied) (index : ℕ) :
    (p.resumed index).Emptied :=
  fun request acks hmem => h request acks (List.mem_of_mem_eraseIdx hmem)

/-! ### Filling the window -/

theorem fillPublishWindow_balanced {p : PublishCalls} (h : p.Balanced) :
    p.fillPublishWindow.Balanced := by
  unfold fillPublishWindow
  split
  next =>
    -- What was pending is now in flight.
    have hflight : p.sendPublishRequest.inFlight =
        p.inFlight ++ p.pendingAcks := by
      simp [sendPublishRequest, movedVector, inFlight, PublishCall.inRequest]
    change p.queued.Perm
      (p.carried.flatten ++ p.sendPublishRequest.inFlight ++ [])
    rw [hflight, List.append_nil, ← List.append_assoc]
    exact h
  next =>
    unfold receiveOldest
    split
    next => exact h
    next place rest _ =>
      have hflight : ({ p with
          outstandingPublishes := rest
          calls := p.calls ++ [.receiving place] } : PublishCalls).inFlight =
            p.inFlight := by
        simp [inFlight, PublishCall.inRequest]
      unfold Balanced
      rw [hflight]
      exact h

theorem fillPublishWindow_emptied {p : PublishCalls} (h : p.Emptied) :
    p.fillPublishWindow.Emptied := by
  unfold fillPublishWindow
  split
  next =>
    intro request acks hmem
    rcases List.mem_append.mp hmem with hold | hnew
    · exact h request acks hold
    · cases List.mem_singleton.mp hnew
      rfl
  next =>
    unfold receiveOldest
    split
    next => exact h
    next =>
      intro request acks hmem
      rcases List.mem_append.mp hmem with hold | hnew
      · exact h request acks hold
      · cases List.mem_singleton.mp hnew

/-! ### Resuming a call -/

theorem finishSend_balanced {p : PublishCalls} (h : p.Balanced) {index : ℕ}
    {request : PublishRequest} {acks : List SubscriptionAcknowledgement}
    (hcall : p.calls[index]? = some (.sending request acks)) (place : ℕ) :
    ((p.resumed index).finishSend request place).Balanced := by
  have hflight := inFlight_perm hcall
  have hmoved : (p.carried ++
        [request.subscriptionAcknowledgements]).flatten ++
          (p.resumed index).inFlight ++ p.pendingAcks =
      p.carried.flatten ++ (request.subscriptionAcknowledgements ++
        (p.resumed index).inFlight) ++ p.pendingAcks := by
    simp
  change p.queued.Perm ((p.carried ++
    [request.subscriptionAcknowledgements]).flatten ++
      (p.resumed index).inFlight ++ p.pendingAcks)
  rw [hmoved]
  exact h.trans ((hflight.append_left _).append_right _)

theorem handlePublishResponse_balanced {p : PublishCalls} (h : p.Balanced)
    (response : PublishResponse) :
    (p.handlePublishResponse response).Balanced := by
  unfold Balanced at h ⊢
  have happended := h.append_right (acknowledgementOf response)
  rw [List.append_assoc] at happended
  exact happended

/-- An error of `Send` puts back nothing, so it keeps the account exactly if
there was nothing to put back. -/
theorem failSend_balanced_iff {p : PublishCalls} (h : p.Balanced) {index : ℕ}
    {request : PublishRequest}
    (hcall : p.calls[index]? = some (.sending request [])) :
    ((p.resumed index).failSend []).Balanced ↔
      request.subscriptionAcknowledgements = [] := by
  have hflight := (inFlight_perm hcall).length_eq
  have hqueued := h.length_eq
  simp only [List.length_append, PublishCall.inRequest] at hflight hqueued
  constructor
  · intro hbalanced
    have hafter : p.queued.length = (p.carried.flatten ++
        (p.resumed index).inFlight ++ p.pendingAcks).length :=
      hbalanced.length_eq
    simp only [List.length_append] at hafter
    exact List.length_eq_zero_iff.mp (by omega)
  · intro hnone
    have hsame := inFlight_perm hcall
    simp only [PublishCall.inRequest, hnone, List.nil_append] at hsame
    exact h.trans ((hsame.append_left _).append_right _)

theorem step_emptied {p : PublishCalls} (h : p.Emptied)
    (event : PublishCallEvent) : (p.step event).Emptied := by
  cases event with
  | publish => exact fillPublishWindow_emptied h
  | sendFinished index sent =>
      dsimp only [step]
      split
      next =>
        cases sent with
        | none => exact h.resumed index
        | some place => exact fillPublishWindow_emptied (h.resumed index)
      next => exact h
  | received index response =>
      dsimp only [step]
      split
      next => cases response <;> exact h.resumed index
      next => exact h

theorem step_balanced {p : PublishCalls} (h : p.Balanced) (hemptied : p.Emptied)
    {event : PublishCallEvent} (hevent : p.FailsEmpty event) :
    (p.step event).Balanced := by
  cases event with
  | publish => exact fillPublishWindow_balanced h
  | sendFinished index sent =>
      dsimp only [step]
      split
      next request acks hcall =>
        cases sent with
        | none =>
            have hnone := hemptied request acks (List.mem_of_getElem? hcall)
            subst hnone
            exact (failSend_balanced_iff h hcall).mpr (hevent request [] hcall)
        | some place =>
            exact fillPublishWindow_balanced (finishSend_balanced h hcall place)
      next => exact h
  | received index response =>
      dsimp only [step]
      split
      next place hcall =>
        have hresumed : (p.resumed index).Balanced := by
          have hsame := inFlight_perm hcall
          exact h.trans ((hsame.append_left _).append_right _)
        cases response with
        | none => exact hresumed
        | some response => exact handlePublishResponse_balanced hresumed response
      next => exact h

/-- An acknowledgement is lost with the first `Send` which fails and carries
one. -/
theorem step_unbalanced {p : PublishCalls} (h : p.Balanced)
    (hemptied : p.Emptied) {event : PublishCallEvent}
    (hevent : ¬p.FailsEmpty event) : ¬(p.step event).Balanced := by
  cases event with
  | publish => exact absurd trivial hevent
  | received index response => exact absurd trivial hevent
  | sendFinished index sent =>
      cases sent with
      | some place => exact absurd trivial hevent
      | none =>
          simp only [FailsEmpty, not_forall] at hevent
          obtain ⟨request, acks, hcall, hsome⟩ := hevent
          have hnone := hemptied request acks (List.mem_of_getElem? hcall)
          subst hnone
          have hstep : p.step (.sendFinished index none) =
              (p.resumed index).failSend [] := by
            simp only [step, hcall]
          rw [hstep, failSend_balanced_iff h hcall]
          exact hsome

/-! ### Runs -/

theorem balanced_visited_iff (events : List PublishCallEvent) :
    (∀ before after, events = before ++ after →
        (runFrom step {} before).Balanced) ↔
      AllMeet step FailsEmpty {} events := by
  have hstart : Balanced {} ∧ Emptied {} :=
    ⟨List.Perm.refl [], fun request acks hmem => absurd hmem List.not_mem_nil⟩
  have hdomain : AllMeet step (fun _ _ => True) {} events :=
    AllMeet.of_forall (fun _ _ => trivial) _
  exact forall_visited_iff_allMeet
    (P := fun p : PublishCalls => p.Balanced ∧ p.Emptied) (Q := Balanced)
    (fun p hp => hp.1)
    (fun p event hp _ hevent =>
      ⟨step_balanced hp.1 hp.2 hevent, step_emptied hp.2 event⟩)
    (fun p event hp _ hevent => step_unbalanced hp.1 hp.2 hevent)
    hstart hdomain

/-- As long as no `Send` fails which carries an acknowledgement, every
acknowledgement which was queued is pending or was carried, once for each time
it was queued, whenever no `Send` is in progress; and what a failing `Send` had
taken is pending again, ahead of what was queued meanwhile. -/
theorem acknowledgements_kept {events : List PublishCallEvent}
    (hevents : AllMeet step FailsEmpty {} events) :
    ∀ before after, events = before ++ after →
      ((runFrom step {} before).Quiet →
        (runFrom step {} before).queued.Perm
          ((runFrom step {} before).carried.flatten ++
            (runFrom step {} before).pendingAcks)) ∧
        ∀ index later request acks, after = .sendFinished index none :: later →
          (runFrom step {} before).calls[index]? =
              some (.sending request acks) →
            ((runFrom step {} before).step (.sendFinished index none)).pendingAcks =
              request.subscriptionAcknowledgements ++
                (runFrom step {} before).pendingAcks := by
  rintro before after rfl
  have hbalanced := (balanced_visited_iff (before ++ after)).mpr hevents before
    after rfl
  obtain ⟨-, hafter⟩ := AllMeet.append_iff.mp hevents
  have hemptied := runFrom_invariant_of_step
    (P := Emptied) (fun p event hp => step_emptied hp event)
    (show Emptied {} from
      fun request acks hmem => absurd hmem List.not_mem_nil) before
  generalize runFrom step {} before = p at hbalanced hafter hemptied ⊢
  refine ⟨fun hquiet => ?_, ?_⟩
  · rw [Balanced, hquiet.inFlight_eq, List.append_nil] at hbalanced
    exact hbalanced
  · rintro index later request acks rfl hcall
    have hnone := hafter.1 request acks hcall
    have hleft := hemptied request acks (List.mem_of_getElem? hcall)
    simp only [step, hcall, failSend, resumed, hnone, hleft]

/-- Two requests are sent, a message is received, and the request which carries
its acknowledgement is sent. -/
theorem acknowledgement_carried :
    let final := runFrom step {} [.publish, .sendFinished 0 (some 0),
      .sendFinished 0 (some 1),
      .received 0 (some { notificationMessage := { sequenceNumber := 1 } }),
      .publish, .sendFinished 0 (some 2)]
    final.queued.Perm (final.carried.flatten ++ final.pendingAcks) := by
  refine (@acknowledgements_kept [.publish, .sendFinished 0 (some 0),
    .sendFinished 0 (some 1),
    .received 0 (some { notificationMessage := { sequenceNumber := 1 } }),
    .publish, .sendFinished 0 (some 2)]
    ⟨trivial, trivial, trivial, trivial, trivial, trivial, trivial⟩ _ []
    (List.append_nil _).symm).1 ?_
  intro call hmem
  exact ⟨1, List.mem_singleton.mp hmem⟩

/-- The same run, but the request which carries the acknowledgement is not sent:
nothing is left of it. -/
theorem acknowledgement_lost :
    let before := runFrom step {} [.publish, .sendFinished 0 (some 0),
      .sendFinished 0 (some 1),
      .received 0 (some { notificationMessage := { sequenceNumber := 1 } })]
    let after := runFrom step before [.publish, .sendFinished 0 none]
    before.pendingAcks.length = 1 ∧ after.pendingAcks = [] ∧ after.Quiet ∧
      ¬after.queued.Perm (after.carried.flatten ++ after.pendingAcks) := by
  refine ⟨rfl, rfl, fun call hmem => absurd hmem List.not_mem_nil, fun hperm => ?_⟩
  exact absurd hperm.length_eq (by decide)

end PublishCalls
end OpcuaStack
