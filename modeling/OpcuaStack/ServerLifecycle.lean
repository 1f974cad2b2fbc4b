import OpcuaStack.GuardedRun

/-!
# Opening and closing a server

`Open`, `Close`, `AcceptLoop`, `TaskStarted` and `TaskFinished` of
`transport/binary/server.cpp`, which are the same in `transport/websocket/server.cpp`, over
the gate of `base/async_completion.h`.  The coroutines of a server take turns in any
order.  A step of the model is what one of them does between two suspensions.
-/

namespace OpcuaStack

/-- Where a call of `Close` is. -/
inductive ClosePhase where
  /-- It found the server not open, and returned at once. -/
  | notOpen
  | closingAcceptor
  /-- In `Wait` of the gate which the server had then. -/
  | waiting (gate : ℕ)
  | returned
deriving DecidableEq

structure TransportServer where
  opened : Bool := false
  closing : Bool := false
  activeTasks : ℕ := 0
  /-- The newest of the gates. -/
  tasksClosed : Option ℕ := none
  /-- `completed()` of each gate there was. -/
  gates : List Bool := []
  /-- Calls of `Open` which wait for the acceptor. -/
  openings : ℕ := 0
  /-- Accept loops which have been spawned and not begun. -/
  entering : ℕ := 0
  /-- Accept loops which wait for a connection. -/
  accepting : ℕ := 0
  connections : ℕ := 0
  closes : List ClosePhase := []
  /-- An assertion did not hold. -/
  failed : Bool := false
deriving DecidableEq

inductive ServerEvent where
  | openCalled
  | acceptorOpened (succeeded : Bool)
  | loopEntered
  | accepted (succeeded : Bool)
  | connectionFinished
  | closeCalled
  | acceptorClosed (call : ℕ)
  | waitReturned (call : ℕ)
deriving DecidableEq

namespace TransportServer

def completed (server : TransportServer) (gate : ℕ) : Bool := server.gates.getD gate false

def taskStarted (server : TransportServer) : TransportServer :=
  { server with activeTasks := server.activeTasks + 1 }

/-- The second half of `TaskFinished`. -/
def completeIfLast (server : TransportServer) : TransportServer :=
  match server.tasksClosed with
  | none => server
  | some gate =>
      if server.closing ∧ server.activeTasks = 0 ∧ server.completed gate = false then
        { server with gates := server.gates.set gate true }
      else server

def taskFinished (server : TransportServer) : TransportServer :=
  completeIfLast
    { server with
      activeTasks := server.activeTasks - 1
      failed := server.failed || decide (server.activeTasks = 0) }

/-- The end of `Open`, with the loop spawned. -/
def restarted (server : TransportServer) : TransportServer :=
  taskStarted
    { server with
      opened := true
      closing := false
      activeTasks := 0
      tasksClosed := some server.gates.length
      gates := server.gates ++ [false]
      entering := server.entering + 1 }

/-- `Close` when the acceptor is closed. -/
def closePhase (server : TransportServer) : ClosePhase :=
  if server.activeTasks = 0 then .returned
  else server.tasksClosed.elim .returned .waiting

def waitPhase (server : TransportServer) (phase : ClosePhase) : ClosePhase :=
  match phase with
  | .waiting gate => if server.completed gate then .returned else phase
  | _ => phase

/-- One step; an event which cannot happen leaves the server as it is. -/
def step (server : TransportServer) : ServerEvent → TransportServer
  | .openCalled =>
      if server.opened then server else { server with openings := server.openings + 1 }
  | .acceptorOpened succeeded =>
      if server.openings = 0 then server
      else if succeeded then
        restarted { server with openings := server.openings - 1 }
      else { server with openings := server.openings - 1 }
  | .loopEntered =>
      if server.entering = 0 then server
      else if server.opened then
        { server with entering := server.entering - 1, accepting := server.accepting + 1 }
      else taskFinished { server with entering := server.entering - 1 }
  | .accepted succeeded =>
      if server.accepting = 0 then server
      else if succeeded then
        if server.opened then
          taskStarted { server with connections := server.connections + 1 }
        else
          -- The loop ends after a connection which came in while the server closed.
          taskFinished (taskStarted
            { server with
              connections := server.connections + 1, accepting := server.accepting - 1 })
      else taskFinished { server with accepting := server.accepting - 1 }
  | .connectionFinished =>
      if server.connections = 0 then server
      else taskFinished { server with connections := server.connections - 1 }
  | .closeCalled =>
      if server.opened then
        { server with
          opened := false
          closing := true
          closes := server.closes ++ [.closingAcceptor] }
      else { server with closes := server.closes ++ [.notOpen] }
  | .acceptorClosed call =>
      if server.closes[call]? = some .closingAcceptor then
        { server with closes := server.closes.set call server.closePhase }
      else server
  | .waitReturned call =>
      { server with closes := server.closes.modify call server.waitPhase }

/-! ## What holds of a server -/

/-- The coroutines which `activeTasks` should count. -/
def tasks (server : TransportServer) : ℕ :=
  server.entering + server.accepting + server.connections

/-- A call of `Close` that has something left to do. -/
def Pending : ClosePhase → Prop
  | .closingAcceptor => True
  | .waiting _ => True
  | _ => False

instance : DecidablePred Pending
  | .closingAcceptor => isTrue trivial
  | .waiting _ => isTrue trivial
  | .notOpen => isFalse id
  | .returned => isFalse id

/-- `Open` succeeds only when the server is at rest: what it started before is finished, and
so are the calls of `Close`. -/
def ReopensAtRest (server : TransportServer) (event : ServerEvent) : Prop :=
  event = .acceptorOpened true →
    server.tasks = 0 ∧ ∀ phase ∈ server.closes, ¬Pending phase

instance (server : TransportServer) (event : ServerEvent) :
    Decidable (server.ReopensAtRest event) :=
  inferInstanceAs (Decidable (_ → _ ∧ _))

/-- The counter is ahead of the coroutines by those which are about to finish, and the
gate is right for those who wait at it. -/
structure Orderly (server : TransportServer) (finishing : ℕ) : Prop where
  sound : server.failed = false
  counted : server.activeTasks = server.tasks + finishing
  gate_lt : ∀ gate, server.tasksClosed = some gate → gate < server.gates.length
  completed : ∀ gate, server.tasksClosed = some gate → server.completed gate = true →
    server.closing = true ∧ server.activeTasks = 0
  opened : server.opened = true → server.closing = false ∧ server.tasksClosed.isSome
  gated : server.activeTasks ≠ 0 → server.tasksClosed.isSome
  pending : ∀ phase ∈ server.closes, Pending phase →
    server.closing = true ∧ server.opened = false
  waiting : ∀ gate, .waiting gate ∈ server.closes → server.tasksClosed = some gate ∧
    (server.completed gate = false → server.activeTasks ≠ 0)

theorem orderly_start : ({} : TransportServer).Orderly 0 := by
  constructor <;> simp [tasks]

variable {server : TransportServer} {finishing : ℕ}

theorem Orderly.retell (h : server.Orderly 0) {entering accepting connections : ℕ}
    (hsum : entering + accepting + connections + finishing = server.tasks) :
    Orderly { server with entering, accepting, connections } finishing where
  sound := h.sound
  counted := by
    rw [← Nat.add_zero server.tasks, ← h.counted] at hsum
    exact hsum.symm
  gate_lt := h.gate_lt
  completed := h.completed
  opened := h.opened
  gated := h.gated
  pending := h.pending
  waiting := h.waiting

/-- While a task runs the gate is not completed. -/
theorem Orderly.not_completed (h : server.Orderly finishing) {gate : ℕ}
    (hgate : server.tasksClosed = some gate) (hactive : server.activeTasks ≠ 0) :
    server.completed gate = false := by
  by_contra hcompleted
  exact hactive (h.completed gate hgate (Bool.not_eq_false _ ▸ hcompleted)).2

/-- The last task completes the gate, if the server is closing. -/
theorem Orderly.taskFinished (h : server.Orderly (finishing + 1)) :
    server.taskFinished.Orderly finishing := by
  have hactive : server.activeTasks ≠ 0 := by
    rw [h.counted]
    omega
  obtain ⟨gate, hgate⟩ := Option.isSome_iff_exists.mp (h.gated hactive)
  have hopen : server.completed gate = false := h.not_completed hgate hactive
  have hcounted : server.activeTasks - 1 = server.tasks + finishing := by
    rw [h.counted]
    omega
  rw [TransportServer.taskFinished, completeIfLast]
  simp only [hgate]
  split
  next hlast =>
    have hset : (server.gates.set gate true).getD gate false = true := by
      simp [h.gate_lt gate hgate]
    constructor
    case sound => simp [h.sound, hactive]
    case counted => exact hcounted
    case gate_lt =>
      intro other hother
      simpa using h.gate_lt other (hgate ▸ hother)
    case completed => exact fun _ _ _ => ⟨hlast.1, hlast.2.1⟩
    case opened =>
      intro hopened
      simpa [hgate] using h.opened hopened
    case gated => simp
    case pending => exact h.pending
    case waiting =>
      intro other hmem
      obtain rfl : gate = other := Option.some.inj (hgate ▸ (h.waiting other hmem).1)
      exact ⟨rfl, fun hnot => absurd (hset.symm.trans hnot) Bool.noConfusion⟩
  next hnot =>
    constructor
    case sound => simp [h.sound, hactive]
    case counted => exact hcounted
    case gate_lt => simpa [hgate] using h.gate_lt
    case completed =>
      intro other hother hcompleted
      obtain rfl := Option.some.inj hother
      exact absurd (hopen.symm.trans hcompleted) Bool.noConfusion
    case opened =>
      intro hopened
      simpa [hgate] using h.opened hopened
    case gated => simp
    case pending => exact h.pending
    case waiting =>
      intro other hmem
      obtain rfl : gate = other := Option.some.inj (hgate ▸ (h.waiting other hmem).1)
      have hclosing := (h.pending _ hmem trivial).1
      exact ⟨rfl, fun _ hzero => hnot ⟨hclosing, hzero, hopen⟩⟩

/-- A task more is counted; the gate of a server that has one is not completed. -/
theorem Orderly.taskStarted (h : server.Orderly finishing) {entering accepting connections : ℕ}
    (hactive : server.activeTasks ≠ 0) {later : ℕ}
    (hsum : entering + accepting + connections + later = server.tasks + finishing + 1) :
    Orderly (TransportServer.taskStarted
      { server with entering, accepting, connections }) later := by
  constructor
  case sound => exact h.sound
  case counted =>
    rw [← h.counted] at hsum
    exact hsum.symm
  case gate_lt => exact h.gate_lt
  case completed =>
    intro gate hgate hcompleted
    exact absurd ((h.not_completed hgate hactive).symm.trans hcompleted) Bool.noConfusion
  case opened => exact h.opened
  case gated => exact fun _ => h.gated hactive
  case pending => exact h.pending
  case waiting =>
    intro gate hmem
    exact ⟨(h.waiting gate hmem).1, fun _ => Nat.succ_ne_zero _⟩

theorem Orderly.restarted (h : server.Orderly 0) (hrest : server.tasks = 0)
    (hpending : ∀ phase ∈ server.closes, ¬Pending phase) (openings : ℕ) :
    (TransportServer.restarted { server with openings }).Orderly 0 := by
  constructor
  case sound => exact h.sound
  case counted =>
    simp only [tasks] at hrest
    simp only [TransportServer.restarted, TransportServer.taskStarted, tasks]
    omega
  case gate_lt => simp [TransportServer.restarted, TransportServer.taskStarted]
  case completed =>
    intro gate hgate hcompleted
    obtain rfl : server.gates.length = gate := Option.some.inj hgate
    simp [TransportServer.completed, TransportServer.restarted,
      TransportServer.taskStarted] at hcompleted
  case opened => exact fun _ => ⟨rfl, rfl⟩
  case gated => exact fun _ => rfl
  case pending => exact fun phase hmem hphase => absurd hphase (hpending phase hmem)
  case waiting => exact fun gate hmem => absurd trivial (hpending _ hmem)

/-! ## Every step -/

theorem Orderly.closeCalled (h : server.Orderly 0) : (server.step .closeCalled).Orderly 0 := by
  rw [step]
  split
  next hopened =>
    constructor
    case sound => exact h.sound
    case counted => exact h.counted
    case gate_lt => exact h.gate_lt
    case completed => exact fun gate hgate hcompleted => ⟨rfl, (h.completed gate hgate hcompleted).2⟩
    case opened => simp
    case gated => exact h.gated
    case pending => exact fun _ _ _ => ⟨rfl, rfl⟩
    case waiting =>
      intro gate hmem
      simp only [List.mem_append, List.mem_singleton, reduceCtorEq, or_false] at hmem
      exact h.waiting gate hmem
  next =>
    constructor
    case sound => exact h.sound
    case counted => exact h.counted
    case gate_lt => exact h.gate_lt
    case completed => exact h.completed
    case opened => exact h.opened
    case gated => exact h.gated
    case pending =>
      intro phase hmem hphase
      rcases List.mem_append.mp hmem with hmem | hmem
      · exact h.pending phase hmem hphase
      · obtain rfl := List.mem_singleton.mp hmem
        exact hphase.elim
    case waiting =>
      intro gate hmem
      simp only [List.mem_append, List.mem_singleton, reduceCtorEq, or_false] at hmem
      exact h.waiting gate hmem

theorem Orderly.withCloses (h : server.Orderly 0) {closes : List ClosePhase}
    (hpending : ∀ phase ∈ closes, Pending phase → ∃ other ∈ server.closes, Pending other)
    (hwaiting : ∀ gate, .waiting gate ∈ closes → .waiting gate ∈ server.closes ∨
      server.tasksClosed = some gate ∧ server.activeTasks ≠ 0) :
    Orderly { server with closes } 0 where
  sound := h.sound
  counted := h.counted
  gate_lt := h.gate_lt
  completed := h.completed
  opened := h.opened
  gated := h.gated
  pending := by
    intro phase hmem hphase
    obtain ⟨other, hother, hpends⟩ := hpending phase hmem hphase
    exact h.pending other hother hpends
  waiting := by
    intro gate hmem
    rcases hwaiting gate hmem with hmem | ⟨hgate, hactive⟩
    · exact h.waiting gate hmem
    · exact ⟨hgate, fun _ => hactive⟩

theorem Orderly.acceptorClosed (h : server.Orderly 0) (call : ℕ) :
    (server.step (.acceptorClosed call)).Orderly 0 := by
  rw [step]
  split
  next hphase =>
    have hmem : .closingAcceptor ∈ server.closes := List.mem_of_getElem? hphase
    apply h.withCloses
    · exact fun _ _ _ => ⟨_, hmem, trivial⟩
    · intro gate hwaiting
      rcases List.mem_or_eq_of_mem_set hwaiting with hwaiting | hwaiting
      · exact .inl hwaiting
      · right
        unfold closePhase at hwaiting
        split at hwaiting
        next => cases hwaiting
        next hactive =>
          refine ⟨?_, hactive⟩
          cases hgate : server.tasksClosed with
          | none => simp [hgate] at hwaiting
          | some other => simpa [hgate] using hwaiting.symm
  next => exact h

theorem waitPhase_eq (phase : ClosePhase) :
    server.waitPhase phase = phase ∨ server.waitPhase phase = .returned := by
  cases phase with
  | waiting gate =>
      rw [waitPhase]
      split <;> simp
  | _ => exact .inl rfl

theorem mem_modify_waitPhase {closes : List ClosePhase} {call : ℕ} {phase : ClosePhase}
    (h : phase ∈ closes.modify call server.waitPhase) : phase ∈ closes ∨ phase = .returned := by
  obtain ⟨index, hindex⟩ := List.mem_iff_getElem?.mp h
  rw [List.getElem?_modify] at hindex
  obtain ⟨old, hold, hnew⟩ := Option.map_eq_some_iff.mp hindex
  have hmem : old ∈ closes := List.mem_of_getElem? hold
  split at hnew
  · rcases server.waitPhase_eq old with hsame | hreturned
    · exact .inl (by rwa [← hnew, hsame])
    · exact .inr (by rw [← hnew, hreturned])
  · exact .inl (hnew ▸ hmem)

theorem Orderly.waitReturned (h : server.Orderly 0) (call : ℕ) :
    (server.step (.waitReturned call)).Orderly 0 := by
  apply h.withCloses
  · intro phase hmem hphase
    rcases mem_modify_waitPhase hmem with hmem | rfl
    · exact ⟨phase, hmem, hphase⟩
    · exact hphase.elim
  · intro gate hwaiting
    rcases mem_modify_waitPhase hwaiting with hmem | hreturned
    · exact .inl hmem
    · cases hreturned

theorem Orderly.loopEntered (h : server.Orderly 0) : (server.step .loopEntered).Orderly 0 := by
  rw [step]
  split
  next => exact h
  next hentering =>
    split
    next =>
      apply h.retell
      simp only [tasks]
      omega
    next =>
      apply Orderly.taskFinished
      apply h.retell
      simp only [tasks]
      omega

theorem Orderly.accepted (h : server.Orderly 0) (succeeded : Bool) :
    (server.step (.accepted succeeded)).Orderly 0 := by
  rw [step]
  split
  next => exact h
  next haccepting =>
    have hactive : server.activeTasks ≠ 0 := by
      rw [h.counted, tasks]
      omega
    split
    next =>
      split
      next =>
        apply h.taskStarted hactive
        simp only [tasks]
        omega
      next =>
        apply Orderly.taskFinished
        apply h.taskStarted hactive
        simp only [tasks]
        omega
    next =>
      apply Orderly.taskFinished
      apply h.retell
      simp only [tasks]
      omega

theorem orderly_step {event : ServerEvent} (h : server.Orderly 0)
    (hrest : server.ReopensAtRest event) : (server.step event).Orderly 0 := by
  cases event with
  | openCalled =>
      rw [step]
      split
      · exact h
      · exact ⟨h.sound, h.counted, h.gate_lt, h.completed, h.opened, h.gated, h.pending,
          h.waiting⟩
  | acceptorOpened succeeded =>
      rw [step]
      split
      next => exact h
      next =>
        split
        next hsucceeded =>
          obtain ⟨htasks, hpending⟩ := hrest (by rw [hsucceeded])
          exact h.restarted htasks hpending _
        next =>
          exact ⟨h.sound, h.counted, h.gate_lt, h.completed, h.opened, h.gated, h.pending,
            h.waiting⟩
  | loopEntered => exact h.loopEntered
  | accepted succeeded => exact h.accepted succeeded
  | connectionFinished =>
      rw [step]
      split
      next => exact h
      next =>
        apply Orderly.taskFinished
        apply h.retell
        simp only [tasks]
        omega
  | closeCalled => exact h.closeCalled
  | acceptorClosed call => exact h.acceptorClosed call
  | waitReturned call => exact h.waitReturned call

theorem orderly_run {events : List ServerEvent}
    (h : AllMeet step ReopensAtRest {} events) : (runFrom step {} events).Orderly 0 := by
  have hstep : ∀ (server : TransportServer) (event : ServerEvent), server.Orderly 0 →
      server.ReopensAtRest event → (server.step event).Orderly 0 :=
    fun _ _ horderly hrest => orderly_step horderly hrest
  exact runFrom_invariant hstep orderly_start h

/-! ## Calls that return -/

@[simp] theorem taskFinished_closes : server.taskFinished.closes = server.closes := by
  rw [taskFinished, completeIfLast]
  split
  · rfl
  · split <;> rfl

/-- Only what a call of `Close` does changes where the calls are. -/
def OfClose : ServerEvent → Prop
  | .closeCalled | .acceptorClosed _ | .waitReturned _ => True
  | _ => False

theorem step_closes {event : ServerEvent} (h : ¬OfClose event) :
    (server.step event).closes = server.closes := by
  cases event with
  | openCalled =>
      rw [step]
      split <;> rfl
  | acceptorOpened succeeded =>
      rw [step]
      split
      · rfl
      · split <;> rfl
  | loopEntered =>
      rw [step]
      split
      · rfl
      · split <;> simp
  | accepted succeeded =>
      rw [step]
      split
      · rfl
      · split
        · split
          · rfl
          · simp [taskStarted]
        · simp
  | connectionFinished =>
      rw [step]
      split <;> simp
  | closeCalled | acceptorClosed call | waitReturned call => exact absurd trivial h

theorem activeTasks_of_closePhase (h : server.Orderly 0)
    (hphase : server.closePhase = .returned) : server.activeTasks = 0 := by
  by_contra hactive
  obtain ⟨gate, hgate⟩ := Option.isSome_iff_exists.mp (h.gated hactive)
  rw [closePhase, if_neg hactive, hgate] at hphase
  cases hphase

theorem activeTasks_of_waitPhase (h : server.Orderly 0) {phase : ClosePhase}
    (hmem : phase ∈ server.closes) (hbefore : phase ≠ .returned)
    (hphase : server.waitPhase phase = .returned) : server.activeTasks = 0 := by
  cases phase with
  | waiting gate =>
      rw [waitPhase] at hphase
      split at hphase
      next hcompleted => exact (h.completed gate (h.waiting gate hmem).1 hcompleted).2
      next => cases hphase
  | returned => exact absurd rfl hbefore
  | notOpen | closingAcceptor => cases hphase

/-- A call returns only when nothing of the server runs. -/
theorem tasks_of_returned {event : ServerEvent} {call : ℕ} (h : server.Orderly 0)
    (hbefore : server.closes[call]? ≠ some .returned)
    (hafter : (server.step event).closes[call]? = some .returned) :
    (server.step event).tasks = 0 := by
  cases event with
  | closeCalled =>
      have hold : ∀ phase : ClosePhase, phase ≠ .returned →
          (server.closes ++ [phase])[call]? ≠ some .returned := by
        intro phase hphase hfound
        rw [List.getElem?_append] at hfound
        split at hfound
        · exact hbefore hfound
        · exact hphase (List.mem_singleton.mp (List.mem_of_getElem? hfound)).symm
      rw [step] at hafter
      split at hafter
      · exact absurd hafter (hold _ (by decide))
      · exact absurd hafter (hold _ (by decide))
  | acceptorClosed other =>
      rw [step] at hafter ⊢
      split at hafter
      next hphase =>
        have hzero : server.activeTasks = 0 := by
          apply activeTasks_of_closePhase h
          by_cases hsame : other = call
          · subst hsame
            simpa [(List.getElem?_eq_some_iff.mp hphase).1] using hafter
          · exact absurd (by simpa [hsame] using hafter) hbefore
        rw [if_pos hphase]
        exact h.counted.symm.trans hzero
      next => exact absurd hafter hbefore
  | waitReturned other =>
      rw [step] at hafter ⊢
      simp only [List.getElem?_modify] at hafter
      obtain ⟨phase, hphase, hreturned⟩ := Option.map_eq_some_iff.mp hafter
      have hnot : phase ≠ .returned := fun hsame => hbefore (hsame ▸ hphase)
      split at hreturned
      · have hzero := activeTasks_of_waitPhase h (List.mem_of_getElem? hphase) hnot hreturned
        exact h.counted.symm.trans hzero
      · exact absurd hreturned hnot
  | openCalled | acceptorOpened succeeded | loopEntered | accepted succeeded
    | connectionFinished =>
      rw [step_closes id] at hafter
      exact absurd hafter hbefore

/-- In every order in which the coroutines of a server take turns, its counter is the
number of them, so that no assertion fails; a call of `Close` that found the server open
returns only when none of them runs, and does not wait for one that is over. -/
theorem close_awaits_tasks {events : List ServerEvent}
    (h : AllMeet step ReopensAtRest {} events) :
    let server : TransportServer := runFrom step {} events
    server.failed = false ∧ server.activeTasks = server.tasks ∧
      (∀ (event : ServerEvent) (call : ℕ), server.closes[call]? ≠ some .returned →
        (server.step event).closes[call]? = some .returned →
          (server.step event).tasks = 0) ∧
      ∀ (call gate : ℕ), server.closes[call]? = some (.waiting gate) → server.tasks = 0 →
        (server.step (.waitReturned call)).closes[call]? = some .returned := by
  intro server
  have horderly : server.Orderly 0 := orderly_run h
  refine ⟨horderly.sound, horderly.counted, fun event call => tasks_of_returned horderly, ?_⟩
  intro call gate hwaiting htasks
  have hcompleted : server.completed gate = true := by
    by_contra hnot
    have hactive := (horderly.waiting gate (List.mem_of_getElem? hwaiting)).2
      (Bool.not_eq_true _ ▸ hnot)
    exact hactive (horderly.counted.trans htasks)
  simp [step, hwaiting, waitPhase, hcompleted]

/-! ## A server closed while a connection comes in -/

def sampleEvents : List ServerEvent :=
  [.openCalled, .acceptorOpened true, .loopEntered, .accepted true, .closeCalled,
    .acceptorClosed 0, .accepted true, .connectionFinished, .connectionFinished]

theorem sampleEvents_awaited :
    AllMeet step ReopensAtRest {} sampleEvents ∧
      (runFrom step {} sampleEvents).closes[0]? = some (.waiting 0) ∧
      ((runFrom step {} sampleEvents).step (.waitReturned 0)).closes[0]? =
        some .returned := by
  have hrest : AllMeet step ReopensAtRest {} sampleEvents := by decide
  have hwaiting : (runFrom step {} sampleEvents).closes[0]? = some (.waiting 0) := by decide
  exact ⟨hrest, hwaiting, (close_awaits_tasks hrest).2.2.2 0 0 hwaiting (by decide)⟩

end TransportServer

end OpcuaStack
