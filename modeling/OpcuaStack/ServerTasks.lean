import OpcuaStack.PublishScheduling
import OpcuaStack.RuntimeTransitions
import OpcuaStack.ServiceDispatcher

/-!
# Calls over the tasks of the server

A handler which suspends waits in a task, and one event of the server takes the task
up again.  A transport keeps a table of the calls for which these handlers run.  What
a step of the server may do to such a table is said once, with what the step keeps:
every waiting call waits in a suspended task, and a call has returned once or waits.
-/

namespace OpcuaStack

/-! ## Tasks and their events -/

namespace ServerState

open Binary ServerRuntime

variable {state : ServerState}

/-- An action which takes up a task settles a stretch of it, or finds nothing
which waits for the action. -/
theorem step_resumed_cases (state : ServerState) {action : ServerAction} {task : ℕ}
    (htask : resumedTask action = some task) :
    state.step action = (state, none) ∨
      ∃ suspended outcome, state.suspended task = some suspended ∧
        state.step action =
          (state.takeTask task).settle suspended.connection outcome := by
  cases action with
  | authenticated other reply now =>
      cases htask
      unfold step
      dsimp only
      split
      next connection pending hsuspended =>
        exact .inr ⟨_, _, hsuspended, rfl⟩
      next => exact .inl rfl
  | served other reply =>
      cases htask
      unfold step
      dsimp only
      split
      next connection session requestedMax hsuspended =>
        exact .inr ⟨_, _, hsuspended, rfl⟩
      next connection kind hsuspended =>
        exact .inr ⟨_, _, hsuspended, rfl⟩
      next => exact .inl rfl
  | delayElapsed other now =>
      cases htask
      unfold step
      dsimp only
      split
      next connection ackResults hsuspended =>
        exact .inr ⟨_, _, hsuspended, rfl⟩
      next => exact .inl rfl
  | request connection body env => cases htask
  | closeConnection connection => cases htask
  | prune now => cases htask
  | backing token id event => cases htask

theorem settle_nextTask_le (state : ServerState) (connection : ℕ) (outcome : HandlerOutcome) :
    state.nextTask ≤ (state.settle connection outcome).1.nextTask := by
  unfold settle
  dsimp only
  split
  · exact le_refl _
  · exact Nat.le_succ _

theorem settle_suspends (state : ServerState) (connection : ℕ)
    {outcome : HandlerOutcome}
    (h : outcome.progress.answer = none) :
    ((state.settle connection outcome).1.suspended state.nextTask).isSome ∧
      (state.settle connection outcome).1.nextTask = state.nextTask + 1 := by
  unfold settle
  dsimp only
  split
  next answer hprogress =>
    rw [hprogress] at h
    cases h
  next work _ => simp

theorem step_suspended_of_ne {action : ServerAction} {task : ℕ}
    (hlt : task < state.nextTask) (hne : resumedTask action ≠ some task) :
    (state.step action).1.suspended task = state.suspended task := by
  cases hresumed : resumedTask action with
  | some other =>
      rcases step_resumed_cases state hresumed with
        hsame | ⟨suspended, outcome, _, hstep⟩
      · rw [hsame]
      · have hother : task ≠ other := by
          rintro rfl
          exact hne hresumed
        rw [hstep]
        calc ((state.takeTask other).settle suspended.connection
              outcome).1.suspended task
            = (state.takeTask other).suspended task :=
              (settle_suspended_of_lt (state.takeTask other) _ _ hlt).1
          _ = state.suspended task := Function.update_of_ne hother _ _
  | none =>
      cases action with
      | request connection body env =>
          exact (settle_suspended_of_lt state connection _ hlt).1
      | closeConnection connection => rfl
      | prune now => rfl
      | backing token id event =>
          unfold step backingEvent
          dsimp only
          cases state.runtime.sessions.lookup token <;> rfl
      | authenticated other reply now => cases hresumed
      | served other reply => cases hresumed
      | delayElapsed other now => cases hresumed

theorem step_nextTask_le (state : ServerState) (action : ServerAction) :
    state.nextTask ≤ (state.step action).1.nextTask := by
  cases hresumed : resumedTask action with
  | some task =>
      rcases step_resumed_cases state hresumed with
        hsame | ⟨suspended, outcome, _, hstep⟩
      · rw [hsame]
      · rw [hstep]
        exact settle_nextTask_le (state.takeTask task) _ _
  | none =>
      cases action with
      | request connection body env => exact settle_nextTask_le state _ _
      | closeConnection connection => exact le_refl _
      | prune now => exact le_refl _
      | backing token id event =>
          unfold step backingEvent
          dsimp only
          cases state.runtime.sessions.lookup token <;> exact le_refl _
      | authenticated other reply now => cases hresumed
      | served other reply => cases hresumed
      | delayElapsed other now => cases hresumed

/-! ### What ends a wait -/

/-- A publish which is taken up again answers: its connection has closed or lost
its session, the session has no subscription, or a message is due. -/
def PublishEnds (state : ServerState) (connection : ℕ) (now : DateTime) : Prop :=
  (state.connections connection).closed = true ∨
    ∀ token session,
      state.runtime.findAttachedSession (state.connections connection) =
        some (token, session) →
      session.subscriptions.entries = [] ∨
        ∃ id ∈ session.publishOrder, ∃ s,
          session.subscriptions.lookup id = some s ∧ s.isPublishReady now = true

/-- The event is the one for which the work waits. -/
def Ends (state : ServerState) (connection task : ℕ) :
    SuspendedWork → ServerAction → Prop
  | .activating _, .authenticated other _ _ => other = task
  | .browsing _ _, .served other _ => other = task
  | .serving _, .served other _ => other = task
  | .publishing _, .delayElapsed other now =>
      other = task ∧ state.PublishEnds connection now
  | _, _ => False

theorem finishActivateSession_answers (r : ServerRuntime)
    (connection : ConnectionState) (request : ActivateSessionRequest)
    (response : ActivateSessionResponse) :
    ∃ answer, (r.finishActivateSession connection request
      response).progress.answer = some answer := by
  unfold finishActivateSession
  dsimp only
  split
  · exact ⟨_, rfl⟩
  · split
    · split <;> exact ⟨_, rfl⟩
    · exact ⟨_, rfl⟩

theorem resumeBrowse_answers (r : ServerRuntime) (connection : ConnectionState)
    (address requestedMax : ℕ) (reply : ResponseBody) :
    ∃ answer, (r.resumeBrowse connection address requestedMax
      reply).progress.answer = some answer := by
  unfold resumeBrowse
  split
  · dsimp only
    split <;> exact ⟨_, rfl⟩
  · exact ⟨_, rfl⟩

theorem pollPublish_answers {session : ServerSession} {now : DateTime}
    (h : session.subscriptions.entries = [] ∨
      ∃ id ∈ session.publishOrder, ∃ s,
        session.subscriptions.lookup id = some s ∧
          s.isPublishReady now = true) :
    ∃ response, (session.pollPublish now).2 = .response response := by
  rcases session.pollPublish_cases now with
    ⟨_, _, response, _, _, _, hpoll⟩ | ⟨hidle, hpoll⟩
  · exact ⟨response, hpoll⟩
  · rcases h with hempty | ⟨id, hmem, s, hlookup, hready⟩
    · refine ⟨{ status := .ofCode .badNoSubscription }, ?_⟩
      rw [hpoll, ServerSession.pollWait, if_pos (by simp [hempty])]
    · rw [hidle id hmem s hlookup] at hready
      cases hready

theorem resumePublish_answers {connection : ℕ} {now : DateTime}
    (h : state.PublishEnds connection now) (ackResults : List StatusCode) :
    ∃ answer, (state.runtime.resumePublish (state.connections connection)
      ackResults now).progress.answer = some answer := by
  unfold resumePublish
  dsimp only
  split
  · exact ⟨_, rfl⟩
  next hopen =>
    split
    · exact ⟨_, rfl⟩
    next token session hfound =>
      have hdue := (h.resolve_left hopen) token session hfound
      obtain ⟨response, hpoll⟩ := pollPublish_answers hdue
      refine ⟨.publish { response with results := ackResults }, ?_⟩
      simp only [pollPublish, hpoll]
      rfl

/-- The event for which a task waits makes it answer. -/
theorem Ends.answers {connection task : ℕ} {work : SuspendedWork}
    {event : ServerAction} (h : state.Ends connection task work event)
    (hsuspended : state.suspended task = some ⟨connection, work⟩) :
    resumedTask event = some task ∧
      ∃ report answer, (state.step event).2 = some report ∧
        report.answer = some answer := by
  cases work with
  | activating pending =>
      cases event with
      | authenticated other reply now =>
          cases h
          refine ⟨rfl, ?_⟩
          unfold step
          simp only [hsuspended, settle_report]
          obtain ⟨answer, hanswer⟩ := finishActivateSession_answers
            (state.runtime.adopt
              (state.runtime.manager.completeActivation pending reply
                now).manager
              (state.runtime.manager.completeActivation pending reply
                now).removed)
            (state.connections connection) pending.request
            (state.runtime.manager.completeActivation pending reply now).result
          exact ⟨_, answer, rfl, hanswer⟩
      | _ => exact h.elim
  | browsing session requestedMax =>
      cases event with
      | served other reply =>
          cases h
          refine ⟨rfl, ?_⟩
          unfold step
          simp only [hsuspended, settle_report]
          obtain ⟨answer, hanswer⟩ := resumeBrowse_answers state.runtime
            (state.connections connection) session requestedMax reply
          exact ⟨_, answer, rfl, hanswer⟩
      | _ => exact h.elim
  | publishing ackResults =>
      cases event with
      | delayElapsed other now =>
          obtain ⟨rfl, hends⟩ := h
          refine ⟨rfl, ?_⟩
          unfold step
          simp only [hsuspended, settle_report]
          obtain ⟨answer, hanswer⟩ := resumePublish_answers hends ackResults
          exact ⟨_, answer, rfl, hanswer⟩
      | _ => exact h.elim
  | serving kind =>
      cases event with
      | served other reply =>
          cases h
          refine ⟨rfl, ?_⟩
          unfold step
          simp only [hsuspended, settle_report]
          exact ⟨_, reply, rfl, rfl⟩
      | _ => exact h.elim

end ServerState

/-! ## Tables of calls -/

namespace TaskCalls

open ServerState Binary

variable {κ ρ : Type} {server next : ServerState} {calls later : CallTable κ ρ}

/-- Every waiting call waits in a suspended task of the server. -/
structure Consistent (server : ServerState) (calls : CallTable κ ρ) : Prop where
  numbered : calls.Numbered
  below : calls.WaitsBelow server.nextTask
  suspended : ∀ task held, calls.waiting task = some held →
    (server.suspended task).isSome = true

/-- The tasks go on waiting, except for the one which is taken up. -/
structure Keeps (server next : ServerState) (taken : Option ℕ) : Prop where
  le : server.nextTask ≤ next.nextTask
  suspended : ∀ task < server.nextTask, taken ≠ some task →
    next.suspended task = server.suspended task

/-- A new task waits. -/
structure Suspends (server next : ServerState) : Prop where
  suspended : (next.suspended server.nextTask).isSome = true
  nextTask : next.nextTask = server.nextTask + 1

/-- What a step of the server may do to the calls.  A new call returns at once with an
allowed result or waits under what it is admitted with, and one which has waited
returns what goes with what it remembers. -/
inductive Advance (admitted : κ → Prop) (allowed : ρ → Prop) (fitting : κ → ρ → Prop)
    (server : ServerState) (calls : CallTable κ ρ) (next : ServerState) :
    CallTable κ ρ → Prop
  | kept (hkeeps : Keeps server next none) :
      Advance admitted allowed fitting server calls next calls
  | returned (hkeeps : Keeps server next none) {result : ρ} (hresult : allowed result) :
      Advance admitted allowed fitting server calls next (calls.openReturned result)
  | waits (hkeeps : Keeps server next none) (hnew : Suspends server next) {kept : κ}
      (hkept : admitted kept) :
      Advance admitted allowed fitting server calls next
        (calls.openWaiting server.nextTask kept)
  | finishes {task : ℕ} (hkeeps : Keeps server next (some task)) {result : κ → ρ}
      (hresult : ∀ call kept, calls.waiting task = some (call, kept) →
        fitting kept (result kept)) :
      Advance admitted allowed fitting server calls next (calls.finish task result)
  | moves {task : ℕ} (hkeeps : Keeps server next (some task))
      (hnew : Suspends server next) :
      Advance admitted allowed fitting server calls next (calls.move task server.nextTask)

/-- The call has returned once, as asked, or waits in one task under what it should
remember. -/
def Accounts (calls : CallTable κ ρ) (asked : ρ → Prop) (remembered : κ → Prop)
    (call : ℕ) : Prop :=
  (∃ result, calls.Returned call result ∧ asked result) ∨
    ∃ task kept, calls.Waits call kept task ∧ remembered kept

/-- Every waiting call remembers what it should. -/
def AllWaiting (calls : CallTable κ ρ) (remembered : κ → Prop) : Prop :=
  ∀ task call kept, calls.waiting task = some (call, kept) → remembered kept

/-- Every result which was given is as asked. -/
def AllReturned (calls : CallTable κ ρ) (asked : ρ → Prop) : Prop :=
  ∀ call, ∀ result ∈ calls.returned call, asked result

theorem consistent_empty (server : ServerState) :
    Consistent server ({} : CallTable κ ρ) where
  numbered := CallTable.numbered_empty
  below task held h := by cases h
  suspended task held h := by cases h

variable {admitted remembered : κ → Prop} {allowed asked : ρ → Prop}
  {fitting : κ → ρ → Prop} {call : ℕ}

theorem Consistent.of_keeps (h : Consistent server calls) {taken : Option ℕ}
    (hkeeps : Keeps server next taken) {task : ℕ} {held : ℕ × κ}
    (hheld : calls.waiting task = some held) (hne : taken ≠ some task) :
    (next.suspended task).isSome = true := by
  rw [hkeeps.suspended task (h.below task held hheld) hne]
  exact h.suspended task held hheld

theorem Advance.consistent (hadvance : Advance admitted allowed fitting server calls next later)
    (h : Consistent server calls) : Consistent next later := by
  cases hadvance with
  | kept hkeeps =>
      exact ⟨h.numbered, h.below.mono hkeeps.le,
        fun task held hheld => h.of_keeps hkeeps hheld (by simp)⟩
  | returned hkeeps =>
      exact ⟨h.numbered.openReturned _, h.below.mono hkeeps.le,
        fun task held hheld => h.of_keeps hkeeps hheld (by simp)⟩
  | waits hkeeps hnew =>
      refine ⟨h.numbered.openWaiting _ _, ?_, fun task held hheld => ?_⟩
      · rw [hnew.nextTask]
        exact h.below.openWaiting _
      · by_cases htask : task = server.nextTask
        · rw [htask]
          exact hnew.suspended
        · simp only [CallTable.openWaiting, Function.update_of_ne htask] at hheld
          exact h.of_keeps hkeeps hheld (by simp)
  | @finishes task hkeeps result =>
      refine ⟨h.numbered.finish _ _, (h.below.finish _ _).mono hkeeps.le,
        fun other held hheld => ?_⟩
      obtain ⟨hbefore, hne⟩ := CallTable.waiting_of_finish hheld
      exact h.of_keeps hkeeps hbefore fun heq => hne (Option.some.inj heq).symm
  | @moves task hkeeps hnew =>
      refine ⟨h.numbered.move _ _, ?_, fun other held hheld => ?_⟩
      · rw [hnew.nextTask]
        exact h.below.move task
      · obtain rfl | ⟨hbefore, hne⟩ := CallTable.waiting_of_move hheld
        · exact hnew.suspended
        · exact h.of_keeps hkeeps hbefore fun heq => hne (Option.some.inj heq).symm

theorem Advance.accounts (hadvance : Advance admitted allowed fitting server calls next later)
    (h : Consistent server calls)
    (hfits : ∀ kept result, remembered kept → fitting kept result → asked result)
    (haccounts : Accounts calls asked remembered call) :
    Accounts later asked remembered call := by
  obtain ⟨result, hreturned, hasked⟩ | ⟨own, mine, hwaits, hmine⟩ := haccounts
  · refine .inl ⟨result, ?_, hasked⟩
    cases hadvance with
    | kept => exact hreturned
    | returned => exact hreturned.openReturned _
    | waits => exact hreturned.openWaiting _ _
    | finishes => exact hreturned.finish _ _
    | moves => exact hreturned.move _ _
  · cases hadvance with
    | kept => exact .inr ⟨own, mine, hwaits, hmine⟩
    | returned => exact .inr ⟨own, mine, hwaits.openReturned _, hmine⟩
    | waits => exact .inr ⟨own, mine, hwaits.openWaiting h.below.free _, hmine⟩
    | @finishes task _ result hresult =>
        by_cases hown : task = own
        · subst hown
          exact .inl ⟨_, hwaits.finish_self _,
            hfits mine _ hmine (hresult call mine hwaits.waiting)⟩
        · exact .inr ⟨own, mine, hwaits.finish_other hown _, hmine⟩
    | @moves task =>
        by_cases hown : task = own
        · subst hown
          exact .inr ⟨_, mine, hwaits.move_self _, hmine⟩
        · exact .inr ⟨own, mine, hwaits.move_other hown h.below.free, hmine⟩

theorem Advance.allReturned (hadvance : Advance admitted allowed fitting server calls next later)
    (h : Consistent server calls) (hallowed : ∀ result, allowed result → asked result)
    (hfits : ∀ kept result, fitting kept result → asked result)
    (hreturned : AllReturned calls asked) : AllReturned later asked := by
  intro call result hresult
  cases hadvance with
  | kept => exact hreturned call result hresult
  | @returned _ first hfirst =>
      by_cases hcall : call = calls.nextCall
      · rw [hcall, (h.numbered.returned_openReturned first).returned,
          List.mem_singleton] at hresult
        rw [hresult]
        exact hallowed first hfirst
      · rw [CallTable.openReturned_returned_of_ne hcall] at hresult
        exact hreturned call result hresult
  | waits => exact hreturned call result hresult
  | @finishes task _ given hgiven =>
      cases hheld : calls.waiting task with
      | none =>
          have hsame : calls.finish task given = calls := by
            unfold CallTable.finish
            rw [hheld]
          rw [hsame] at hresult
          exact hreturned call result hresult
      | some held =>
          obtain ⟨other, kept⟩ := held
          unfold CallTable.finish at hresult
          rw [hheld] at hresult
          dsimp only at hresult
          by_cases hcall : call = other
          · rw [hcall, Function.update_self, List.mem_append, List.mem_singleton] at hresult
            obtain hbefore | rfl := hresult
            · exact hreturned other result hbefore
            · exact hfits kept _ (hgiven other kept hheld)
          · rw [Function.update_of_ne hcall] at hresult
            exact hreturned call result hresult
  | moves =>
      rw [CallTable.move_returned] at hresult
      exact hreturned call result hresult

theorem Advance.allWaiting (hadvance : Advance admitted allowed fitting server calls next later)
    (hadmitted : ∀ kept, admitted kept → remembered kept)
    (hwaiting : AllWaiting calls remembered) : AllWaiting later remembered := by
  intro place call kept hheld
  cases hadvance with
  | kept => exact hwaiting place call kept hheld
  | returned => exact hwaiting place call kept hheld
  | @waits _ _ mine hmine =>
      by_cases hplace : place = server.nextTask
      · subst hplace
        simp only [CallTable.openWaiting, Function.update_self, Option.some.injEq,
          Prod.mk.injEq] at hheld
        rw [← hheld.2]
        exact hadmitted mine hmine
      · simp only [CallTable.openWaiting, Function.update_of_ne hplace] at hheld
        exact hwaiting place call kept hheld
  | finishes => exact hwaiting place call kept (CallTable.waiting_of_finish hheld).1
  | @moves task =>
      cases hmoved : calls.waiting task with
      | none =>
          rw [CallTable.move_of_none hmoved] at hheld
          exact hwaiting place call kept hheld
      | some held =>
          rw [CallTable.move_waiting hmoved] at hheld
          split at hheld
          next =>
            cases hheld
            exact hwaiting task call kept hmoved
          next =>
            split at hheld
            next => cases hheld
            next => exact hwaiting place call kept hheld

/-- Every call that was made has returned once or waits. -/
def AllAccounted (calls : CallTable κ ρ) : Prop :=
  ∀ call < calls.nextCall, Accounts calls (fun _ => True) (fun _ => True) call

theorem finish_nextCall (task : ℕ) (result : κ → ρ) :
    (calls.finish task result).nextCall = calls.nextCall := by
  unfold CallTable.finish
  split <;> rfl

theorem Advance.allAccounted
    (hadvance : Advance admitted allowed fitting server calls next later)
    (h : Consistent server calls) (haccounted : AllAccounted calls) :
    AllAccounted later := by
  intro call hcall
  by_cases hearlier : call < calls.nextCall
  · exact hadvance.accounts h (fun _ _ _ _ => trivial) (haccounted call hearlier)
  cases hadvance with
  | kept => exact absurd hcall hearlier
  | returned =>
      obtain rfl := Nat.eq_of_lt_succ_of_not_lt hcall hearlier
      exact .inl ⟨_, h.numbered.returned_openReturned _, trivial⟩
  | waits =>
      obtain rfl := Nat.eq_of_lt_succ_of_not_lt hcall hearlier
      exact .inr ⟨_, _, h.numbered.waits_openWaiting _ _, trivial⟩
  | finishes =>
      rw [finish_nextCall] at hcall
      exact absurd hcall hearlier
  | moves =>
      rw [CallTable.move_nextCall] at hcall
      exact absurd hcall hearlier

/-! ### Handlers and events -/

/-- The calls after a new one whose handler has run up to its first suspension. -/
def opened (respond : ResponseBody → κ → ρ) (server : ServerState)
    (calls : CallTable κ ρ) (outcome : HandlerOutcome) (kept : κ) : CallTable κ ρ :=
  match outcome.progress with
  | .answered answer => calls.openReturned (respond answer kept)
  | .suspended _ => calls.openWaiting server.nextTask kept

/-- The calls after an action of the server.  A handler which suspends again does so
as a new task. -/
def served (respond : ResponseBody → κ → ρ) (server : ServerState)
    (calls : CallTable κ ρ) (action : ServerAction) : CallTable κ ρ :=
  match resumedTask action, (server.step action).2 with
  | some task, some report =>
      match report.answer with
      | some answer => calls.finish task (respond answer)
      | none => calls.move task server.nextTask
  | _, _ => calls

theorem keeps_settle (server : ServerState) (connection : ℕ) (outcome : HandlerOutcome) :
    Keeps server (server.settle connection outcome).1 none where
  le := settle_nextTask_le server connection outcome
  suspended _ hlt _ := (settle_suspended_of_lt server connection outcome hlt).1

theorem keeps_step (server : ServerState) (action : ServerAction) :
    Keeps server (server.step action).1 (resumedTask action) where
  le := step_nextTask_le server action
  suspended _ hlt hne := step_suspended_of_ne hlt hne

theorem advance_opened {respond : ResponseBody → κ → ρ} (connection : ℕ)
    {outcome : HandlerOutcome} {kept : κ} (hkept : admitted kept)
    (hresult : ∀ answer, outcome.progress = .answered answer →
      allowed (respond answer kept)) :
    Advance admitted allowed fitting server calls (server.settle connection outcome).1
      (opened respond server calls outcome kept) := by
  unfold opened
  cases hprogress : outcome.progress with
  | answered answer =>
      exact .returned (keeps_settle server connection outcome) (hresult answer hprogress)
  | suspended work =>
      have hanswer : outcome.progress.answer = none := by
        rw [hprogress]
        rfl
      obtain ⟨hnew, hnext⟩ := settle_suspends server connection hanswer
      exact .waits (keeps_settle server connection outcome) ⟨hnew, hnext⟩ hkept

/-- The answer with which an action of the server finishes a call. -/
def Finishes (server : ServerState) (action : ServerAction) (task : ℕ)
    (answer : ResponseBody) : Prop :=
  resumedTask action = some task ∧
    ∃ report, (server.step action).2 = some report ∧ report.answer = some answer

theorem advance_served {respond : ResponseBody → κ → ρ} {action : ServerAction}
    (hresult : ∀ task answer, Finishes server action task answer →
      ∀ call kept, calls.waiting task = some (call, kept) →
        fitting kept (respond answer kept)) :
    Advance admitted allowed fitting server calls (server.step action).1
      (served respond server calls action) := by
  have hkeeps := keeps_step server action
  unfold served
  cases hresumed : resumedTask action with
  | none =>
      rw [hresumed] at hkeeps
      exact .kept hkeeps
  | some task =>
      rw [hresumed] at hkeeps
      obtain hsame | ⟨suspended, outcome, -, hstep⟩ :=
        step_resumed_cases server hresumed
      · rw [hsame]
        exact .kept ⟨le_refl _, fun _ _ _ => rfl⟩
      · cases hanswer : outcome.progress.answer with
        | some answer =>
            have hreport : (server.step action).2 = some
                { connection := suspended.connection
                  answer := some answer
                  use := outcome.use
                  touched := outcome.touched } := by
              rw [hstep, settle_report, hanswer]
            rw [hreport]
            exact .finishes hkeeps (hresult task answer ⟨hresumed, _, hreport, rfl⟩)
        | none =>
            obtain ⟨hnew, hnext⟩ := settle_suspends (server.takeTask task)
              suspended.connection hanswer
            have hreport : (server.step action).2 = some
                { connection := suspended.connection
                  answer := none
                  use := outcome.use
                  touched := outcome.touched } := by
              rw [hstep, settle_report, hanswer]
            rw [hreport]
            refine .moves hkeeps ?_
            rw [hstep]
            exact ⟨hnew, hnext⟩

end TaskCalls

end OpcuaStack
