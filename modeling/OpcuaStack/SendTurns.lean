import OpcuaStack.BuiltInTypes
import OpcuaStack.TurnQueue

/-!
# Turns of the sends

`ClientChannel::Send` with the completions its callers wait on.  A coroutine is cut where
it suspends; the handler of a completion is posted to the executor, and the caller goes on
when the executor comes to it.  Whatever the order in which the callers go on, one of them
has the turn at most, and nobody who waits is forgotten.
-/

namespace OpcuaStack

/-- `base::AsyncCompletion`: its handlers resume the callers which wait. -/
structure AsyncCompletion where
  completed : Bool := false
  waiters : List ℕ := []

/-- Where a call of `Send` is: at the head of the loop, which the executor will come to,
suspended on a completion, in its turn, or done. -/
inductive SendPoint where
  | ready
  | suspended (waiter : ℕ)
  | renewing
  | writing
  | returned
deriving DecidableEq

namespace SendPoint

/-- Between the return of `WaitForSendTurn` and `ReleaseSendTurn`. -/
def holdsTurn : SendPoint → Bool
  | .renewing | .writing => true
  | _ => false

def isReady : SendPoint → Bool
  | .ready => true
  | _ => false

end SendPoint

/-- The calls of `Send` and the completions are named by their places in the order in
which they were made. -/
structure SendTurns where
  sendInProgress : Bool := false
  sendWaiters : List ℕ := []
  completions : List AsyncCompletion := []
  callers : List SendPoint := []

/-- A new call, or one of the calls goes on.  `due` is whether the token is to be renewed
first, asked when the turn is had. -/
inductive SendTurnEvent where
  | send (due : Bool)
  | resume (caller : ℕ) (due : Bool)
  | renewed (caller : ℕ) (status : Status)
  | written (caller : ℕ)

namespace SendTurns

def setPoint (s : SendTurns) (caller : ℕ) (point : SendPoint) : SendTurns :=
  { s with callers := s.callers.set caller point }

/-- `AsyncCompletion::WaitOnState`; the callback of a completion that is over is posted. -/
def waitOnState (s : SendTurns) (waiter caller : ℕ) : SendTurns :=
  match s.completions[waiter]? with
  | none => s
  | some completion =>
      if completion.completed then
        s.setPoint caller .ready
      else
        { s with
          completions := s.completions.set waiter
            { completion with waiters := completion.waiters ++ [caller] }
        }.setPoint caller (.suspended waiter)

/-- `AsyncCompletion::Finish`. -/
def finish (s : SendTurns) (waiter : ℕ) : SendTurns :=
  match s.completions[waiter]? with
  | none => s
  | some completion =>
      if completion.completed then
        s
      else
        completion.waiters.foldl (fun s caller => s.setPoint caller .ready)
          { s with
            completions := s.completions.set waiter { completed := true, waiters := [] } }

/-- A round of `WaitForSendTurn`, and whether it returns. -/
def waitForSendTurn (s : SendTurns) (caller : ℕ) : SendTurns × Bool :=
  if !s.sendInProgress then
    ({ s with sendInProgress := true }, true)
  else
    let waiter := s.completions.length
    ({ s with
        completions := s.completions ++ [({} : AsyncCompletion)]
        sendWaiters := s.sendWaiters ++ [waiter] }.waitOnState waiter caller, false)

def releaseSendTurn (s : SendTurns) : SendTurns :=
  let s := { s with sendInProgress := false }
  match s.sendWaiters with
  | [] => s
  | waiter :: rest => { s with sendWaiters := rest }.finish waiter

/-- A caller at the head of the loop runs until it suspends. -/
def resume (s : SendTurns) (caller : ℕ) (due : Bool) : SendTurns :=
  match s.callers[caller]? with
  | some .ready =>
      match s.waitForSendTurn caller with
      | (s, true) => s.setPoint caller (if due then .renewing else .writing)
      | (s, false) => s
  | _ => s

def send (s : SendTurns) (due : Bool) : SendTurns :=
  { s with callers := s.callers ++ [SendPoint.ready] }.resume s.callers.length due

/-- A renewal which fails ends the call. -/
def renewed (s : SendTurns) (caller : ℕ) (status : Status) : SendTurns :=
  match s.callers[caller]? with
  | some .renewing =>
      if status.isBad then (s.setPoint caller .returned).releaseSendTurn
      else s.setPoint caller .writing
  | _ => s

/-- `SendRequest` returns; good or bad, the turn is over. -/
def written (s : SendTurns) (caller : ℕ) : SendTurns :=
  match s.callers[caller]? with
  | some .writing => (s.setPoint caller .returned).releaseSendTurn
  | _ => s

def step (s : SendTurns) : SendTurnEvent → SendTurns
  | .send due => s.send due
  | .resume caller due => s.resume caller due
  | .renewed caller status => s.renewed caller status
  | .written caller => s.written caller

/-! ## Who waits -/

variable {s : SendTurns} {caller : ℕ}

/-- Each completion in the queue has a caller which is suspended on it, and whoever is
suspended waits alone for one of the queue. -/
structure Parked (s : SendTurns) : Prop where
  nodup : s.sendWaiters.Nodup
  awaited : ∀ waiter ∈ s.sendWaiters, ∃ caller : ℕ,
    s.callers[caller]? = some (SendPoint.suspended waiter)
  queued : ∀ caller waiter : ℕ, s.callers[caller]? = some (SendPoint.suspended waiter) →
    waiter ∈ s.sendWaiters ∧
      s.completions[waiter]? = some { completed := false, waiters := [caller] }

def view (s : SendTurns) : TurnQueue where
  taken := s.sendInProgress
  holders := s.callers.countP SendPoint.holdsTurn
  queued := s.sendWaiters.length
  woken := s.callers.countP SendPoint.isReady

theorem countP_set_of_getElem? {test : SendPoint → Bool} {callers : List SendPoint}
    {old : SendPoint} (h : callers[caller]? = some old) (point : SendPoint) :
    (callers.set caller point).countP test =
      callers.countP test - (if test old then 1 else 0) + if test point then 1 else 0 := by
  obtain ⟨hlt, hold⟩ := List.getElem?_eq_some_iff.mp h
  rw [List.countP_set hlt, hold]

theorem countP_pos_of_getElem? {test : SendPoint → Bool} {callers : List SendPoint}
    {point : SendPoint} (h : callers[caller]? = some point) (htest : test point = true) :
    0 < callers.countP test :=
  List.countP_pos_iff.mpr ⟨point, List.mem_of_getElem? h, htest⟩

theorem getElem?_setPoint_of_ne {other : ℕ} (hne : caller ≠ other) (point : SendPoint) :
    (s.setPoint caller point).callers[other]? = s.callers[other]? :=
  List.getElem?_set_ne hne

theorem Parked.setPoint (h : s.Parked) {old point : SendPoint}
    (hold : s.callers[caller]? = some old) (holdFree : ∀ waiter, old ≠ .suspended waiter)
    (hpoint : ∀ waiter, point ≠ .suspended waiter) : (s.setPoint caller point).Parked where
  nodup := h.nodup
  awaited := by
    intro waiter hmem
    obtain ⟨other, hother⟩ := h.awaited waiter hmem
    refine ⟨other, ?_⟩
    have hne : caller ≠ other := by
      rintro rfl
      exact holdFree waiter (Option.some.inj (hold.symm.trans hother))
    rw [getElem?_setPoint_of_ne hne]
    exact hother
  queued := by
    intro other waiter hother
    by_cases hsame : caller = other
    · subst hsame
      have hlt := (List.getElem?_eq_some_iff.mp hold).1
      have hset : (s.callers.set caller point)[caller]? = some point :=
        List.getElem?_set_self hlt
      exact absurd (Option.some.inj (hset.symm.trans hother)) (hpoint waiter)
    · rw [getElem?_setPoint_of_ne hsame] at hother
      exact h.queued other waiter hother

/-! ## The turn is taken, or waited for -/

theorem resume_free (hready : s.callers[caller]? = some .ready)
    (hfree : s.sendInProgress = false) (due : Bool) :
    s.resume caller due =
      { s with sendInProgress := true }.setPoint caller
        (if due then .renewing else .writing) := by
  unfold resume waitForSendTurn
  rw [hready, hfree]
  rfl

theorem waitOnState_open {waiter : ℕ} {completion : AsyncCompletion}
    (h : s.completions[waiter]? = some completion) (hopen : completion.completed = false) :
    s.waitOnState waiter caller =
      { s with
        completions := s.completions.set waiter
          { completion with waiters := completion.waiters ++ [caller] }
        callers := s.callers.set caller (.suspended waiter) } := by
  unfold waitOnState
  rw [h]
  dsimp only
  rw [if_neg (by rw [hopen]; exact Bool.false_ne_true)]
  rfl

theorem resume_taken (hready : s.callers[caller]? = some .ready)
    (htaken : s.sendInProgress = true) (due : Bool) :
    s.resume caller due =
      { s with
        completions := s.completions ++ [{ completed := false, waiters := [caller] }]
        sendWaiters := s.sendWaiters ++ [s.completions.length]
        callers := s.callers.set caller (.suspended s.completions.length) } := by
  have hnew : (s.completions ++ [({} : AsyncCompletion)])[s.completions.length]? =
      some {} := List.getElem?_concat_length
  have hset : (s.completions ++ [({} : AsyncCompletion)]).set s.completions.length
      { completed := false, waiters := [caller] } =
        s.completions ++ [{ completed := false, waiters := [caller] }] := by
    rw [List.set_append_right _ _ le_rfl, Nat.sub_self]
    rfl
  have hwait : s.waitForSendTurn caller =
      ({ s with
        completions := s.completions ++ [({} : AsyncCompletion)]
        sendWaiters := s.sendWaiters ++ [s.completions.length]
        }.waitOnState s.completions.length caller, false) :=
    if_neg (by rw [htaken]; exact Bool.false_ne_true)
  unfold resume
  rw [hready]
  dsimp only
  rw [hwait]
  dsimp only
  rw [waitOnState_open hnew rfl]
  exact congrArg (fun completions => SendTurns.mk s.sendInProgress
    (s.sendWaiters ++ [s.completions.length]) completions
    (s.callers.set caller (.suspended s.completions.length))) hset

theorem Parked.flag (h : s.Parked) (sendInProgress : Bool) :
    ({ s with sendInProgress } : SendTurns).Parked := ⟨h.nodup, h.awaited, h.queued⟩

/-- A completion which is new has its place behind all those in the queue. -/
theorem Parked.suspend (h : s.Parked) (hready : s.callers[caller]? = some .ready) :
    ({ s with
      completions := s.completions ++ [{ completed := false, waiters := [caller] }]
      sendWaiters := s.sendWaiters ++ [s.completions.length]
      callers := s.callers.set caller (.suspended s.completions.length)
      } : SendTurns).Parked := by
  have hlt : ∀ waiter ∈ s.sendWaiters, waiter < s.completions.length := by
    intro waiter hmem
    obtain ⟨other, hother⟩ := h.awaited waiter hmem
    exact (List.getElem?_eq_some_iff.mp (h.queued other waiter hother).2).1
  have hself : (s.callers.set caller (.suspended s.completions.length))[caller]? =
      some (.suspended s.completions.length) :=
    List.getElem?_set_self (List.getElem?_eq_some_iff.mp hready).1
  refine ⟨?_, ?_, ?_⟩
  · refine List.nodup_append.mpr ⟨h.nodup, List.nodup_singleton _, ?_⟩
    intro waiter hmem other hother
    rw [List.mem_singleton.mp hother]
    exact (hlt waiter hmem).ne
  · intro waiter hmem
    rcases List.mem_append.mp hmem with hearlier | hlast
    · obtain ⟨other, hother⟩ := h.awaited waiter hearlier
      have hne : caller ≠ other := by
        rintro rfl
        cases hready.symm.trans hother
      exact ⟨other, (List.getElem?_set_ne hne).trans hother⟩
    · rw [List.mem_singleton.mp hlast]
      exact ⟨caller, hself⟩
  · intro other waiter hother
    by_cases hsame : caller = other
    · subst hsame
      cases hself.symm.trans hother
      exact ⟨List.mem_append_right _ List.mem_cons_self, List.getElem?_concat_length⟩
    · rw [List.getElem?_set_ne hsame] at hother
      obtain ⟨hmem, hcompletion⟩ := h.queued other waiter hother
      exact ⟨List.mem_append_left _ hmem,
        (List.getElem?_append_left (hlt waiter hmem)).trans hcompletion⟩

theorem resume_moves (h : s.Parked) (caller : ℕ) (due : Bool) :
    (s.resume caller due).Parked ∧ s.view.Moves (s.resume caller due).view := by
  by_cases hready : s.callers[caller]? = some .ready
  · have hwoken : 0 < s.view.woken := countP_pos_of_getElem? hready rfl
    have hcount : ∀ (test : SendPoint → Bool) (point : SendPoint),
        (s.callers.set caller point).countP test =
          s.callers.countP test - (if test .ready then 1 else 0) + if test point then 1 else 0 :=
      fun test point => countP_set_of_getElem? hready point
    cases hflag : s.sendInProgress with
    | false =>
        have hfree : ∀ waiter, (if due then SendPoint.renewing else .writing) ≠
            .suspended waiter := by
          intro waiter
          split <;> exact nofun
        have hview : ({ s with sendInProgress := true }.setPoint caller
            (if due then .renewing else .writing)).view = s.view.take := by
          unfold view setPoint TurnQueue.take
          dsimp only
          rw [hcount, hcount]
          cases due <;> rfl
        rw [resume_free hready hflag]
        exact ⟨(h.flag true).setPoint hready nofun hfree,
          .single (hview ▸ .take hwoken hflag)⟩
    | true =>
        have hview : (s.resume caller due).view = s.view.queue := by
          rw [resume_taken hready hflag]
          unfold view TurnQueue.queue
          dsimp only
          rw [hcount, hcount, List.length_append]
          rfl
        refine ⟨?_, .single (hview ▸ .queue hwoken hflag)⟩
        rw [resume_taken hready hflag]
        exact h.suspend hready
  · have hstays : s.resume caller due = s := by
      unfold resume
      split
      next hpoint => exact absurd hpoint hready
      next => rfl
    rw [hstays]
    exact ⟨h, .refl⟩

/-! ## The turn is released -/

theorem finish_open {waiter : ℕ}
    (h : s.completions[waiter]? = some { completed := false, waiters := [caller] }) :
    s.finish waiter =
      { s with
        completions := s.completions.set waiter { completed := true, waiters := [] }
        callers := s.callers.set caller .ready } := by
  unfold finish
  rw [h]
  rfl

theorem releaseSendTurn_of_nil (h : s.sendWaiters = []) :
    s.releaseSendTurn = { s with sendInProgress := false } := by
  unfold releaseSendTurn
  rw [h]

theorem releaseSendTurn_of_cons (h : s.Parked) {waiter : ℕ} {rest : List ℕ}
    (hwaiters : s.sendWaiters = waiter :: rest) :
    ∃ caller, s.callers[caller]? = some (.suspended waiter) ∧
      s.releaseSendTurn =
        { sendInProgress := false
          sendWaiters := rest
          completions := s.completions.set waiter { completed := true, waiters := [] }
          callers := s.callers.set caller .ready } := by
  obtain ⟨caller, hcaller⟩ := h.awaited waiter (hwaiters ▸ List.mem_cons_self)
  refine ⟨caller, hcaller, ?_⟩
  unfold releaseSendTurn
  rw [hwaiters]
  exact finish_open (s := { s with sendInProgress := false, sendWaiters := rest })
    (h.queued caller waiter hcaller).2

theorem Parked.release (h : s.Parked) : s.releaseSendTurn.Parked := by
  cases hwaiters : s.sendWaiters with
  | nil =>
      rw [releaseSendTurn_of_nil hwaiters]
      exact h.flag false
  | cons waiter rest =>
      obtain ⟨caller, hcaller, hreleased⟩ := releaseSendTurn_of_cons h hwaiters
      have hnodup : (waiter :: rest).Nodup := hwaiters ▸ h.nodup
      have hfresh : ∀ other ∈ rest, waiter ≠ other := fun other hmem heq =>
        (List.nodup_cons.mp hnodup).1 (heq ▸ hmem)
      rw [hreleased]
      refine ⟨hnodup.of_cons, ?_, ?_⟩
      · intro other hmem
        obtain ⟨otherCaller, hother⟩ := h.awaited other (hwaiters ▸ List.mem_cons_of_mem _ hmem)
        have hne : caller ≠ otherCaller := by
          rintro rfl
          cases hcaller.symm.trans hother
          exact hfresh waiter hmem rfl
        exact ⟨otherCaller, (List.getElem?_set_ne hne).trans hother⟩
      · intro other waiting hother
        have hne : caller ≠ other := by
          rintro rfl
          have hset : (s.callers.set caller .ready)[caller]? = some .ready :=
            List.getElem?_set_self (List.getElem?_eq_some_iff.mp hcaller).1
          cases hset.symm.trans hother
        have hsuspended : s.callers[other]? = some (.suspended waiting) :=
          (List.getElem?_set_ne hne).symm.trans hother
        obtain ⟨hmem, hcompletion⟩ := h.queued other waiting hsuspended
        -- Who is suspended on the first completion is the caller which was posted.
        have hother : waiter ≠ waiting := by
          rintro rfl
          have hsame := (h.queued caller waiter hcaller).2.symm.trans hcompletion
          exact hne (List.singleton_inj.mp (congrArg AsyncCompletion.waiters
            (Option.some.inj hsame)))
        rw [hwaiters] at hmem
        exact ⟨(List.mem_cons.mp hmem).resolve_left hother.symm,
          (List.getElem?_set_ne hother).trans hcompletion⟩

theorem view_releaseSendTurn (h : s.Parked) :
    s.releaseSendTurn.view =
      { taken := false
        holders := s.view.holders
        queued := s.view.queued - 1
        woken := s.view.woken + min s.view.queued 1 } := by
  cases hwaiters : s.sendWaiters with
  | nil =>
      rw [releaseSendTurn_of_nil hwaiters]
      unfold view
      rw [hwaiters]
      rfl
  | cons waiter rest =>
      obtain ⟨caller, hcaller, hreleased⟩ := releaseSendTurn_of_cons h hwaiters
      have hone : min (rest.length + 1) 1 = 1 := Nat.min_eq_right (Nat.succ_pos _)
      rw [hreleased]
      unfold view
      dsimp only
      rw [countP_set_of_getElem? hcaller, countP_set_of_getElem? hcaller, hwaiters,
        List.length_cons, hone]
      rfl

theorem leave_moves (h : s.Parked) {point : SendPoint} (hcaller : s.callers[caller]? = some point)
    (hholds : point.holdsTurn = true) :
    (s.setPoint caller .returned).releaseSendTurn.Parked ∧
      s.view.Moves (s.setPoint caller .returned).releaseSendTurn.view := by
  have hfree : ∀ waiter, point ≠ .suspended waiter := by
    rintro waiter rfl
    cases hholds
  have hleft : (s.setPoint caller .returned).Parked := h.setPoint hcaller hfree nofun
  have hunready : point.isReady = false := by
    cases point with
    | ready => cases hholds
    | _ => rfl
  have hview : (s.setPoint caller .returned).view =
      { s.view with holders := s.view.holders - 1 } := by
    unfold view setPoint
    dsimp only
    rw [countP_set_of_getElem? hcaller, countP_set_of_getElem? hcaller, hholds, hunready]
    rfl
  have hreleased : (s.setPoint caller .returned).releaseSendTurn.view = s.view.release := by
    rw [view_releaseSendTurn hleft, hview]
    rfl
  exact ⟨hleft.release, .single (hreleased ▸ .release (countP_pos_of_getElem? hcaller hholds))⟩

/-! ## Runs -/

theorem Parked.arrive (h : s.Parked) :
    ({ s with callers := s.callers ++ [SendPoint.ready] } : SendTurns).Parked := by
  refine ⟨h.nodup, ?_, ?_⟩
  · intro waiter hmem
    obtain ⟨caller, hcaller⟩ := h.awaited waiter hmem
    have hlt := (List.getElem?_eq_some_iff.mp hcaller).1
    exact ⟨caller, (List.getElem?_append_left hlt).trans hcaller⟩
  · intro caller waiter hcaller
    by_cases hlt : caller < s.callers.length
    · exact h.queued caller waiter ((List.getElem?_append_left hlt).symm.trans hcaller)
    · have hnew : SendPoint.suspended waiter ∈ [SendPoint.ready] :=
        List.mem_of_getElem? ((List.getElem?_append_right (not_lt.mp hlt)).symm.trans hcaller)
      cases List.mem_singleton.mp hnew

theorem step_moves (s : SendTurns) (event : SendTurnEvent) (h : s.Parked) :
    (s.step event).Parked ∧ s.view.Moves (s.step event).view := by
  cases event with
  | send due =>
      have harrived := h.arrive
      have hview : ({ s with callers := s.callers ++ [SendPoint.ready] } : SendTurns).view =
          s.view.arrive := by
        unfold view TurnQueue.arrive
        dsimp only
        rw [List.countP_append, List.countP_append]
        rfl
      obtain ⟨hparked, hmoves⟩ := resume_moves harrived s.callers.length due
      rw [hview] at hmoves
      exact ⟨hparked, .head .arrive hmoves⟩
  | resume caller due => exact resume_moves h caller due
  | renewed caller status =>
      unfold step renewed
      dsimp only
      split
      next hcaller =>
        split
        next => exact leave_moves h hcaller rfl
        next =>
          refine ⟨h.setPoint hcaller nofun nofun, ?_⟩
          have hview : (s.setPoint caller .writing).view = s.view := by
            have hheld : 0 < s.callers.countP SendPoint.holdsTurn :=
              countP_pos_of_getElem? hcaller rfl
            unfold view setPoint
            dsimp only
            rw [countP_set_of_getElem? hcaller, countP_set_of_getElem? hcaller]
            exact congrArg (fun holders => TurnQueue.mk _ holders _ _) (Nat.sub_add_cancel hheld)
          rw [hview]
      next => exact ⟨h, .refl⟩
  | written caller =>
      unfold step written
      dsimp only
      split
      next hcaller => exact leave_moves h hcaller rfl
      next => exact ⟨h, .refl⟩

/-- However many calls there are and in whatever order they go on: one has the turn at
most; while any waits in the queue, one has the turn or is about to look at it; and who is
suspended waits for a completion of the queue, which nobody else waits for. -/
theorem turn_held_once_and_awaited (events : List SendTurnEvent) :
    let s := runFrom step {} events
    s.callers.countP SendPoint.holdsTurn ≤ 1 ∧
      (s.sendWaiters ≠ [] →
        (∃ point ∈ s.callers, point.holdsTurn = true) ∨ SendPoint.ready ∈ s.callers) ∧
      s.Parked := by
  intro s
  have hinitial : ({} : SendTurns).Parked :=
    ⟨List.nodup_nil, fun _ hmem => absurd hmem List.not_mem_nil, nofun⟩
  obtain ⟨hparked, hsound⟩ := TurnQueue.runFrom_sound view step_moves hinitial
    TurnQueue.Sound.initial events
  refine ⟨hsound.holders_le, fun hqueue => ?_, hparked⟩
  rcases hsound.awaited (List.length_pos_of_ne_nil hqueue) with hheld | hwoken
  · exact Or.inl (List.countP_pos_iff.mp hheld)
  · obtain ⟨point, hmem, hready⟩ := List.countP_pos_iff.mp hwoken
    cases point with
    | ready => exact Or.inr hmem
    | _ => cases hready

end SendTurns

end OpcuaStack
