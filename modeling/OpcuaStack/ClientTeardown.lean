import OpcuaStack.ClientCoroutines

/-!
# Teardown of the client

A session keeps an account of its calls: each has returned once, or runs in a coroutine
of the current objects.  The objects are destroyed without a look at who is in them, so
that the account survives exactly the teardowns which find every call returned but the
one they belong to.
-/

namespace OpcuaStack

/-- The call which a coroutine belongs to. -/
def ClientCoroutine.call : ClientCoroutine → ClientCall
  | .operation id => .operation id
  | .createSession => .connect
  | .activateSession => .connect
  | .readNamespaceArray => .connect
  | .closeSession _ => .disconnect
  | .createSubscription => .createSubscription
  | .publish => .publishLoop
  | .monitoredItem => .monitoredItem

/-- The coroutines in which a failed call makes `ConnectAsync` fail. -/
def ClientCoroutine.connects : ClientCoroutine → Bool
  | .createSession => true
  | .activateSession => true
  | _ => false

namespace ClientSession

def completedIds (s : ClientSession) : List ℕ := s.completions.map Prod.fst

def coroutines (s : ClientSession) : List ClientCoroutine :=
  s.stack.elim [] ClientStack.coroutines

/-- Whatever was destroyed had nothing suspended in it, and each operation which was
outstanding when a `DisconnectAsync` was called has completed once by the time that
returns. -/
structure Quiescent (s : ClientSession) : Prop where
  teardowns : ∀ teardown ∈ s.teardowns,
    teardown.coroutines = [] ∧ teardown.readLoops = []
  completed : ∀ outstanding ∈ s.disconnected, ∀ id ∈ outstanding,
    (s.completions.map Prod.fst).count id = 1

/-! ## The account -/

/-- Each call has returned once or runs in one of the coroutines, an operation completes
when it returns, and a `DisconnectAsync` knows operations which have started. -/
structure Account (s : ClientSession) (coroutines : List ClientCoroutine) :
    Prop where
  calls : (s.returned ++ coroutines.map ClientCoroutine.call).Perm s.made
  numbered : s.made.filterMap ClientCall.operationId = List.range s.started
  completed : s.completedIds = s.returned.filterMap ClientCall.operationId
  closers : ∀ outstanding, .closeSession outstanding ∈ coroutines →
    ∀ id ∈ outstanding, id < s.started
  disconnected : ∀ outstanding ∈ s.disconnected, ∀ id ∈ outstanding,
    id ∈ s.completedIds
  teardowns : ∀ teardown ∈ s.teardowns,
    teardown.coroutines = [] ∧ teardown.readLoops = []

structure Accounted (s : ClientSession) : Prop where
  account : s.Account s.coroutines
  sound : ∀ k, s.stack = some k → k.ReadsForCallers

theorem Account.perm {s : ClientSession} {coroutines others : List ClientCoroutine}
    (h : s.Account coroutines) (hperm : others.Perm coroutines) :
    s.Account others where
  calls := ((hperm.map _).append_left _).trans h.calls
  numbered := h.numbered
  completed := h.completed
  closers outstanding hmem := h.closers outstanding (hperm.subset hmem)
  disconnected := h.disconnected
  teardowns := h.teardowns

/-- Each operation which has started has completed once or runs in a coroutine. -/
theorem Account.ledger {s : ClientSession} {coroutines : List ClientCoroutine}
    (h : s.Account coroutines) :
    (s.completedIds ++
      (coroutines.map ClientCoroutine.call).filterMap ClientCall.operationId).Perm
        (List.range s.started) := by
  rw [h.completed, ← List.filterMap_append, ← h.numbered]
  exact h.calls.filterMap _

/-- While no operation is in a coroutine, all have completed. -/
theorem Account.mem_completedIds {s : ClientSession} (h : s.Account []) {id : ℕ}
    (hid : id < s.started) : id ∈ s.completedIds := by
  have hledger := h.ledger
  rw [List.map_nil, List.filterMap_nil, List.append_nil] at hledger
  exact hledger.symm.subset (List.mem_range.mpr hid)

theorem Accounted.quiescent {s : ClientSession} (h : s.Accounted) :
    s.Quiescent := by
  refine ⟨h.account.teardowns, fun outstanding hmem id hid => ?_⟩
  have hnodup : s.completedIds.Nodup :=
    (h.account.ledger.nodup_iff.mpr List.nodup_range).of_append_left
  exact List.count_eq_one_of_mem hnodup
    (h.account.disconnected outstanding hmem id hid)

/-! ## A coroutine runs -/

/-- A coroutine which has run is suspended again, or its call has returned, and an
operation has completed then. -/
structure Keeps (s : ClientSession) (k : ClientStack) (coroutine : ClientCoroutine)
    (t : ClientSession) : Prop where
  started : t.started = s.started
  disconnected : t.disconnected = s.disconnected
  teardowns : t.teardowns = s.teardowns
  made : t.made = s.made
  left : ∃ next left back, t.stack = some next ∧
    next.coroutines.Perm (left ++ k.coroutines) ∧
    t.returned = s.returned ++ back ∧
    t.completedIds = s.completedIds ++ back.filterMap ClientCall.operationId ∧
    (back ++ left.map ClientCoroutine.call).Perm [coroutine.call] ∧
    (∀ outstanding, .closeSession outstanding ∈ left →
      coroutine = .closeSession outstanding) ∧
    (k.ReadsForCallers → next.ReadsForCallers)

/-- A coroutine which has run destroys the objects. -/
structure Resets (s : ClientSession) (k : ClientStack) (coroutine : ClientCoroutine)
    (t : ClientSession) : Prop where
  started : t.started = s.started
  made : t.made = s.made
  returned : t.returned = s.returned ++ [coroutine.call]
  disconnected : t.disconnected = s.disconnected
  completions : t.completions = s.completions
  stack : t.stack = none
  destroyed : ∃ next : ClientStack, t.teardowns = s.teardowns ++ [next.teardown] ∧
    next.coroutines.Perm k.coroutines ∧
    (k.ReadsForCallers → next.ReadsForCallers)

theorem Keeps.accounted {s t : ClientSession} {k : ClientStack}
    {coroutine : ClientCoroutine} (h : s.Keeps k coroutine t)
    (haccount : s.Account (coroutine :: k.coroutines)) (hk : k.ReadsForCallers) :
    t.Accounted := by
  obtain ⟨next, left, back, hstack, hcoroutines, hback, hmore, hcalls, hclose,
    hsound⟩ := h.left
  have hin : t.coroutines = next.coroutines := by rw [coroutines, hstack]; rfl
  refine ⟨⟨?_, ?_, ?_, ?_, ?_, ?_⟩, ?_⟩
  · rw [hin, h.made, hback]
    refine List.Perm.trans ?_ haccount.calls
    have hnext := hcoroutines.map ClientCoroutine.call
    refine List.perm_iff_count.mpr fun call => ?_
    have h1 := hnext.count_eq call
    have h2 := hcalls.count_eq call
    simp only [List.map_append, List.map_cons, List.count_append, List.count_cons,
      List.count_nil] at h1 h2 ⊢
    omega
  · rw [h.made, h.started]
    exact haccount.numbered
  · rw [hmore, hback, List.filterMap_append, haccount.completed]
  · intro outstanding hmem
    rw [hin] at hmem
    rw [h.started]
    rcases List.mem_append.mp (hcoroutines.subset hmem) with hleft | hin
    · exact haccount.closers outstanding
        (by rw [hclose outstanding hleft]; exact List.mem_cons_self)
    · exact haccount.closers outstanding (List.mem_cons_of_mem _ hin)
  · rw [h.disconnected, hmore]
    intro outstanding hmem id hid
    exact List.mem_append_left _ (haccount.disconnected outstanding hmem id hid)
  · rw [h.teardowns]
    exact haccount.teardowns
  · intro other hother
    rw [hstack] at hother
    cases hother
    exact hsound hk

/-- Objects which are destroyed when no other coroutine is in them any more. -/
theorem Resets.accounted {s t : ClientSession} {k : ClientStack}
    {coroutine : ClientCoroutine} (h : s.Resets k coroutine t)
    (haccount : s.Account [coroutine]) (hid : coroutine.call.operationId = none)
    (hk : k.ReadsForCallers) (hnone : k.coroutines = []) : t.Accounted := by
  obtain ⟨next, hteardowns, hcoroutines, hsound⟩ := h.destroyed
  have hids : t.completedIds = s.completedIds := by
    rw [completedIds, completedIds, h.completions]
  have hin : t.coroutines = [] := by rw [coroutines, h.stack]; rfl
  refine ⟨⟨?_, ?_, ?_, ?_, ?_, ?_⟩, ?_⟩
  · rw [hin, h.returned, h.made, List.map_nil, List.append_nil]
    exact haccount.calls
  · rw [h.made, h.started]
    exact haccount.numbered
  · rw [hids, h.returned, List.filterMap_append, List.filterMap_cons_none hid,
      List.filterMap_nil, List.append_nil]
    exact haccount.completed
  · rw [hin]
    exact fun _ hmem => absurd hmem List.not_mem_nil
  · rw [h.disconnected, hids]
    exact haccount.disconnected
  · rw [hteardowns]
    intro teardown hmem
    rcases List.mem_append.mp hmem with hold | hnew
    · exact haccount.teardowns teardown hold
    · obtain rfl := List.mem_singleton.mp hnew
      rw [hnone] at hcoroutines
      have hnil := hcoroutines.eq_nil
      have hreceivers : next.receivers = [] := by
        simp only [ClientStack.coroutines, List.append_eq_nil_iff] at hnil
        exact hnil.1.2
      exact ⟨hnil, (hsound hk).readLoops_eq_nil hreceivers⟩
  · intro other hother
    rw [h.stack] at hother
    cases hother

theorem Resets.not_quiescent {s t : ClientSession} {k : ClientStack}
    {coroutine : ClientCoroutine} (h : s.Resets k coroutine t) (hne : k.coroutines ≠ []) : ¬t.Quiescent := by
  obtain ⟨next, hteardowns, hcoroutines, -⟩ := h.destroyed
  intro hquiet
  have hnil := hquiet.teardowns next.teardown
    (by rw [hteardowns]; exact List.mem_append_right _ List.mem_cons_self)
  have hempty : next.coroutines = [] := hnil.1
  rw [hempty] at hcoroutines
  exact hne hcoroutines.symm.eq_nil

/-! ## The ends of a call -/

theorem closeConnection_coroutines (k : ClientStack) (outstanding : List ℕ) :
    (k.closeConnection outstanding).coroutines.Perm
      (.closeSession outstanding :: k.coroutines) := by
  refine List.perm_iff_count.mpr fun coroutine => ?_
  unfold ClientStack.closeConnection
  split <;>
  · simp only [ClientStack.coroutines, ClientStack.connecting, ClientStack.receivers,
      ClientChannel.senders, List.map_append, List.map_cons, List.map_nil,
      List.count_append, List.count_cons, List.count_nil]
    omega

theorem closeConnection_sound {k : ClientStack} (h : k.ReadsForCallers)
    (outstanding : List ℕ) : (k.closeConnection outstanding).ReadsForCallers := by
  unfold ClientStack.closeConnection
  split <;> exact h.of_same ⟨⟨rfl, rfl, rfl, rfl, rfl⟩, rfl, rfl⟩ rfl rfl

/-- A coroutine which returns, and is no operation. -/
theorem Keeps.returned {s t : ClientSession} {k next : ClientStack}
    {coroutine : ClientCoroutine} (hid : coroutine.call.operationId = none)
    (hstack : t = { s.returns coroutine.call with
      isConnected := t.isConnected, stack := some next })
    (hcoroutines : next.coroutines = k.coroutines)
    (hsound : k.ReadsForCallers → next.ReadsForCallers) :
    s.Keeps k coroutine t := by
  rw [hstack]
  refine ⟨rfl, rfl, rfl, rfl, next, [], [coroutine.call], rfl, .of_eq hcoroutines, rfl,
    ?_, .refl _, fun _ hmem => absurd hmem List.not_mem_nil, hsound⟩
  rw [List.filterMap_cons_none hid, List.filterMap_nil, List.append_nil]
  rfl

theorem Keeps.completed {s : ClientSession} (k : ClientStack) (id : ℕ)
    (status : Status) :
    s.Keeps k (.operation id)
      { s.returns (.operation id) with
        stack := some k
        completions := s.completions ++ [(id, status)] } :=
  ⟨rfl, rfl, rfl, rfl, k, [], [.operation id], rfl, .refl _, rfl, List.map_append,
    .refl _, fun _ hmem => absurd hmem List.not_mem_nil, fun hk => hk⟩

/-- A coroutine which is suspended again. -/
theorem Keeps.suspended {s : ClientSession} {k next : ClientStack}
    {coroutine : ClientCoroutine}
    (hcoroutines : next.coroutines.Perm (coroutine :: k.coroutines))
    (hsound : k.ReadsForCallers → next.ReadsForCallers) :
    s.Keeps k coroutine { s with stack := some next } := by
  refine ⟨rfl, rfl, rfl, rfl, next, [coroutine], [], rfl, hcoroutines,
    (List.append_nil _).symm, (List.append_nil _).symm, .refl _, ?_, hsound⟩
  intro outstanding hmem
  exact (List.mem_singleton.mp hmem).symm

/-- The coroutine goes on in objects which hold the same coroutines. -/
theorem Keeps.of_perm {s t : ClientSession} {k other : ClientStack}
    {coroutine : ClientCoroutine} (h : s.Keeps other coroutine t)
    (hcoroutines : other.coroutines.Perm k.coroutines)
    (hsound : k.ReadsForCallers → other.ReadsForCallers) :
    s.Keeps k coroutine t := by
  obtain ⟨next, left, back, hstack, hnext, hback, hmore, hcalls, hclose, hother⟩ :=
    h.left
  exact ⟨h.started, h.disconnected, h.teardowns, h.made, next, left, back, hstack,
    hnext.trans (hcoroutines.append_left _), hback, hmore, hcalls, hclose,
    fun hk => hother (hsound hk)⟩

theorem Resets.of_perm {s t : ClientSession} {k other : ClientStack}
    {coroutine : ClientCoroutine} (h : s.Resets other coroutine t)
    (hcoroutines : other.coroutines.Perm k.coroutines)
    (hsound : k.ReadsForCallers → other.ReadsForCallers) : s.Resets k coroutine t := by
  obtain ⟨next, hteardowns, hnext, hother⟩ := h.destroyed
  exact { h with
    destroyed := ⟨next, hteardowns, hnext.trans hcoroutines, fun hk => hother (hsound hk)⟩ }

theorem Keeps.relabel {s t : ClientSession} {k : ClientStack}
    {coroutine other : ClientCoroutine} (h : s.Keeps k other t)
    (hother : other.call = .connect) (hconnect : coroutine.call = .connect) :
    s.Keeps k coroutine t := by
  obtain ⟨next, left, back, hstack, hnext, hback, hmore, hcalls, hclose, hsound⟩ :=
    h.left
  refine ⟨h.started, h.disconnected, h.teardowns, h.made, next, left, back, hstack,
    hnext, hback, hmore, ?_, fun outstanding hmem => ?_, hsound⟩
  · rwa [hconnect, ← hother]
  · rw [hclose outstanding hmem] at hother
    cases hother

theorem Resets.relabel {s t : ClientSession} {k : ClientStack}
    {coroutine other : ClientCoroutine} (h : s.Resets k other t)
    (hcall : coroutine.call = other.call) : s.Resets k coroutine t :=
  { h with returned := by rw [hcall]; exact h.returned }

theorem reset_resets (s : ClientSession) (k : ClientStack)
    (coroutine : ClientCoroutine) :
    s.Resets k coroutine ((s.reset k).returns coroutine.call) :=
  ⟨rfl, rfl, rfl, rfl, rfl, rfl, k, rfl, .refl _, id⟩

theorem failed_keeps (s : ClientSession) (k : ClientStack) (status : Status)
    {coroutine : ClientCoroutine} (h : coroutine.connects = false) :
    s.Keeps k coroutine (s.failed k status coroutine) := by
  cases coroutine with
  | operation id => exact .completed k id status
  | createSession => cases h
  | activateSession => cases h
  | readNamespaceArray => exact .returned rfl rfl rfl id
  | closeSession outstanding =>
      have hactive : k.ReadsForCallers →
          { k with isActive := false }.ReadsForCallers :=
        fun hk => hk.of_same (.refl _) rfl rfl
      exact .suspended (closeConnection_coroutines { k with isActive := false } outstanding)
        fun hk => closeConnection_sound (hactive hk) outstanding
  | createSubscription =>
      exact .returned rfl rfl rfl fun hk => hk.of_same (.refl _) rfl rfl
  | publish => exact .returned rfl rfl rfl fun hk => hk.of_same (.refl _) rfl rfl
  | monitoredItem => exact .returned rfl rfl rfl id

theorem failed_resets (s : ClientSession) (k : ClientStack) (status : Status)
    {coroutine : ClientCoroutine} (h : coroutine.connects = true) :
    s.Resets k coroutine (s.failed k status coroutine) := by
  cases coroutine with
  | createSession => exact s.reset_resets k .createSession
  | activateSession => exact s.reset_resets k .activateSession
  | operation _ => cases h
  | readNamespaceArray => cases h
  | closeSession _ => cases h
  | createSubscription => cases h
  | publish => cases h
  | monitoredItem => cases h

theorem afterCall_keeps {s : ClientSession} {k : ClientStack}
    {coroutine : ClientCoroutine} {r : ClientStack × CallReturn}
    (hr : k.Runs (coroutine :: k.coroutines) r)
    (hreturns : ∀ other status, r.2 = some (other, status) → other = coroutine)
    (h : r.2 = none ∨ coroutine.connects = false) :
    s.Keeps k coroutine (s.afterCall r) := by
  obtain ⟨next, returned⟩ := r
  cases returned with
  | none => exact .suspended hr.coroutines hr.sound
  | some result =>
      obtain ⟨other, status⟩ := result
      obtain rfl := hreturns other status rfl
      have hconnects : other.connects = false := h.resolve_left (Option.some_ne_none _)
      exact (s.failed_keeps next status hconnects).of_perm
        (List.perm_cons other |>.mp hr.coroutines) hr.sound

theorem afterCall_resets {s : ClientSession} {k : ClientStack}
    {coroutine : ClientCoroutine} {r : ClientStack × CallReturn}
    (hr : k.Runs (coroutine :: k.coroutines) r)
    (hreturns : ∀ other status, r.2 = some (other, status) → other = coroutine)
    (hsome : r.2 ≠ none) (h : coroutine.connects = true) :
    s.Resets k coroutine (s.afterCall r) := by
  obtain ⟨next, returned⟩ := r
  cases returned with
  | none => exact absurd rfl hsome
  | some result =>
      obtain ⟨other, status⟩ := result
      obtain rfl := hreturns other status rfl
      exact (s.failed_resets next status h).of_perm
        (List.perm_cons other |>.mp hr.coroutines) hr.sound

theorem publishRound_keeps (s : ClientSession) (k : ClientStack) (due : Bool) :
    s.Keeps k .publish (s.publishRound k due) := by
  unfold publishRound
  split
  · exact afterCall_keeps (k.publish_runs due)
      (fun _ _ h => ClientStack.publish_returns h) (.inr rfl)
  · exact s.failed_keeps k _ rfl

/-- A coroutine whose call is over makes a `ConnectAsync` fail. -/
def connectFails (k : ClientStack) (status : Status) : ClientCoroutine → Bool
  | .createSession => status.isBad || k.refuses
  | .activateSession => status.isBad
  | _ => false

theorem succeeded_keeps (s : ClientSession) (k : ClientStack) (status : Status)
    (due : Bool) {coroutine : ClientCoroutine}
    (h : connectFails k status coroutine = false) :
    s.Keeps k coroutine (s.succeeded k status due coroutine) := by
  cases coroutine with
  | operation id => exact .completed k id status
  | createSession =>
      have hrefuses : k.refuses = false := (Bool.or_eq_false_iff.mp h).2
      refine (afterCall_keeps (k.send_runs .activateSession due)
        (fun _ _ hsend => ClientStack.send_returns hsend) (.inl ?_)).relabel
          rfl rfl
      rw [ClientStack.send_snd, hrefuses]
      rfl
  | activateSession =>
      have hcall := afterCall_keeps (s := { s with isConnected := true })
        (({ k with isActive := true } : ClientStack).send_runs .readNamespaceArray due)
        (fun _ _ hsend => ClientStack.send_returns hsend) (.inr rfl)
      have hkeeps : ClientSession.Keeps _ k .activateSession _ :=
        (hcall.of_perm (k := k) (.refl _)
          fun hk => hk.of_same (.refl _) rfl rfl).relabel rfl rfl
      exact ⟨hkeeps.started, hkeeps.disconnected, hkeeps.teardowns, hkeeps.made,
        hkeeps.left⟩
  | readNamespaceArray => exact .returned rfl rfl rfl id
  | closeSession outstanding => exact s.failed_keeps k status rfl
  | createSubscription =>
      exact .returned rfl rfl rfl fun hk => hk.of_same (.refl _) rfl rfl
  | publish => exact s.publishRound_keeps k due
  | monitoredItem => exact .returned rfl rfl rfl id

theorem proceed_keeps (s : ClientSession) (due : Bool) (k : ClientStack)
    {coroutine : ClientCoroutine} {status : Status}
    (h : connectFails k status coroutine = false) :
    s.Keeps k coroutine (s.proceed due (k, some (coroutine, status))) := by
  unfold proceed
  dsimp only
  split
  next hbad =>
    refine s.failed_keeps k status ?_
    cases coroutine <;> first | rfl | simp_all [connectFails]
  next => exact s.succeeded_keeps k status due h

theorem proceed_resets (s : ClientSession) (due : Bool) (k : ClientStack)
    {coroutine : ClientCoroutine} {status : Status}
    (h : connectFails k status coroutine = true) :
    s.Resets k coroutine (s.proceed due (k, some (coroutine, status))) := by
  have hconnects : coroutine.connects = true := by
    cases coroutine <;> first | rfl | cases h
  unfold proceed
  dsimp only
  split
  next => exact s.failed_resets k status hconnects
  next hgood =>
    cases coroutine with
    | createSession =>
        have hrefuses : k.refuses = true := by
          simpa [connectFails, hgood] using h
        refine (afterCall_resets (k.send_runs .activateSession due)
          (fun _ _ hsend => ClientStack.send_returns hsend) ?_ rfl).relabel rfl
        rw [ClientStack.send_snd, hrefuses]
        exact Option.some_ne_none _
    | activateSession => exact absurd h hgood
    | operation _ => cases h
    | readNamespaceArray => cases h
    | closeSession _ => cases h
    | createSubscription => cases h
    | publish => cases h
    | monitoredItem => cases h

/-! ## The condition -/

/-- The step destroys the objects: a `DisconnectAsync` has closed the connection, a
`ConnectAsync` fails, or a new one puts others in their place. -/
def destroys (k : ClientStack) : ClientEvent → Bool
  | .connect => true
  | .openFails _ => k.opening.isSome
  | .closeAdvances index =>
      k.closing[index]?.any fun closing => closing.stage == .closingTransport
  | .channel event due =>
      match k.advance due event with
      | (_, none) => false
      | (next, some (coroutine, status)) => connectFails next status coroutine
  | _ => false

/-- The calls which have not returned before such a step and need not: a new
`ConnectAsync` is not among the calls made yet, the other steps belong to a call. -/
def takers : ClientEvent → List ClientCall
  | .connect => []
  | .closeAdvances _ => [.disconnect]
  | _ => [.connect]

/-- A step which destroys the objects comes after every call made on them has
returned, but the one which takes the step. -/
def CallsReturned (s : ClientSession) (event : ClientEvent) : Prop :=
  ∀ k, s.stack = some k → destroys k event = true →
    (s.returned ++ takers event).Perm s.made

/-! ## Steps -/

/-- A step either keeps the account, or destroys the objects, and then badly unless
every other call has returned. -/
structure StepRule (s : ClientSession) (event : ClientEvent) (t : ClientSession) :
    Prop where
  keeps : s.CallsReturned event → t.Accounted
  fails : ¬s.CallsReturned event → ¬t.Quiescent

theorem StepRule.of_accounted {s t : ClientSession} {event : ClientEvent}
    (hdestroys : ∀ k, s.stack = some k → destroys k event = false)
    (h : t.Accounted) : StepRule s event t where
  keeps _ := h
  fails hnot := absurd (fun k hk htrue => by
    rw [hdestroys k hk] at htrue
    cases htrue) hnot

/-- All calls but some have returned exactly if the coroutines of the objects are those
calls'. -/
theorem Account.returned_iff {s : ClientSession} {coroutines : List ClientCoroutine}
    (h : s.Account coroutines) (calls : List ClientCall) :
    (s.returned ++ calls).Perm s.made ↔
      (coroutines.map ClientCoroutine.call).Perm calls :=
  ⟨fun hmade => (List.perm_append_left_iff _).mp (h.calls.trans hmade.symm),
    fun hperm => (hperm.symm.append_left _).trans h.calls⟩

/-- The step of a coroutine which is in the objects and destroys them. -/
theorem StepRule.of_resets {s t : ClientSession} {event : ClientEvent}
    {k next : ClientStack} {coroutine : ClientCoroutine} (h : s.Accounted)
    (hstack : s.stack = some k) (hdestroys : destroys k event = true)
    (htakers : takers event = [coroutine.call])
    (hperm : (coroutine :: next.coroutines).Perm k.coroutines)
    (hsound : k.ReadsForCallers → next.ReadsForCallers)
    (hid : coroutine.call.operationId = none)
    (hresets : s.Resets next coroutine t) : StepRule s event t := by
  have haccount : s.Account (coroutine :: next.coroutines) := by
    refine h.account.perm ?_
    rw [coroutines, hstack]
    exact hperm
  have hreturned : s.CallsReturned event ↔ next.coroutines = [] := by
    have halone : (s.returned ++ takers event).Perm s.made ↔ next.coroutines = [] := by
      rw [haccount.returned_iff, htakers, List.map_cons, List.perm_cons, List.perm_nil,
        List.map_eq_nil_iff]
    rw [← halone]
    exact ⟨fun hall => hall k hstack hdestroys, fun hall _ _ _ => hall⟩
  refine ⟨fun hall => ?_, fun hnot => hresets.not_quiescent fun hnil =>
    hnot (hreturned.mpr hnil)⟩
  have hnil := hreturned.mp hall
  rw [hnil] at haccount
  exact hresets.accounted haccount hid (hsound (h.sound k hstack)) hnil

theorem Accounted.account_stack {s : ClientSession} (h : s.Accounted)
    {k : ClientStack} (hstack : s.stack = some k) : s.Account k.coroutines := by
  have haccount := h.account
  rwa [coroutines, hstack] at haccount

theorem Account.enter {s : ClientSession} {coroutines : List ClientCoroutine}
    (h : s.Account coroutines) (coroutine : ClientCoroutine)
    (hid : coroutine.call.operationId = none)
    (hcloses : ∀ outstanding, coroutine = .closeSession outstanding →
      ∀ id ∈ outstanding, id < s.started) :
    (s.makes coroutine.call).Account (coroutine :: coroutines) where
  calls := List.perm_middle.trans
    ((h.calls.cons _).trans (List.perm_append_singleton _ _).symm)
  numbered := by
    rw [makes, List.filterMap_append, List.filterMap_cons_none hid, List.filterMap_nil,
      List.append_nil]
    exact h.numbered
  completed := h.completed
  closers outstanding hmem := by
    rcases List.mem_cons.mp hmem with heq | hin
    · exact hcloses outstanding heq.symm
    · exact h.closers outstanding hin
  disconnected := h.disconnected
  teardowns := h.teardowns

/-- A call returns, and if it is an operation, completes. -/
theorem Account.leave {s : ClientSession} {coroutines : List ClientCoroutine}
    {coroutine : ClientCoroutine} (h : s.Account (coroutine :: coroutines))
    {completions : List (ℕ × Status)}
    (hids : completions.map Prod.fst =
      s.completedIds ++ [coroutine.call].filterMap ClientCall.operationId) :
    { s.returns coroutine.call with completions }.Account coroutines where
  calls := by
    refine List.Perm.trans ?_ h.calls
    rw [returns, List.append_assoc]
    exact .refl _
  numbered := h.numbered
  completed := by
    rw [completedIds, hids, h.completed, ← List.filterMap_append]
    rfl
  closers outstanding hmem := h.closers outstanding (List.mem_cons_of_mem _ hmem)
  disconnected earlier hmem id hid := by
    rw [completedIds, hids]
    exact List.mem_append_left _ (h.disconnected earlier hmem id hid)
  teardowns := h.teardowns

theorem Account.accounted {s : ClientSession} {k : ClientStack}
    (h : s.Account k.coroutines) (hk : k.ReadsForCallers) :
    { s with stack := some k }.Accounted where
  account := { h with }
  sound other hother := by
    cases hother
    exact hk

theorem step_channel_rule {s : ClientSession} (h : s.Accounted) {k : ClientStack}
    (hstack : s.stack = some k) (event : ChannelEvent) (due : Bool) :
    StepRule s (.channel event due) (s.proceed due (k.advance due event)) := by
  have hruns := k.advance_runs due event
  have haccount := h.account_stack hstack
  have hsound := h.sound k hstack
  cases hadvance : k.advance due event with
  | mk next returned =>
      rw [hadvance] at hruns
      cases returned with
      | none =>
          refine .of_accounted (fun other hother => ?_)
            ((haccount.perm hruns.coroutines).accounted (hruns.sound hsound))
          rw [hstack] at hother
          cases hother
          rw [destroys, hadvance]
      | some result =>
          obtain ⟨coroutine, status⟩ := result
          have hdestroys : destroys k (.channel event due) =
              connectFails next status coroutine := by
            rw [destroys, hadvance]
          cases hfails : connectFails next status coroutine with
          | false =>
              refine .of_accounted (fun other hother => ?_)
                ((s.proceed_keeps due next hfails).accounted
                  (haccount.perm hruns.coroutines) (hruns.sound hsound))
              rw [hstack] at hother
              cases hother
              rw [hdestroys, hfails]
          | true =>
              have hcall : coroutine.call = .connect := by
                cases coroutine <;> first | rfl | cases hfails
              exact .of_resets h hstack (hdestroys.trans hfails)
                (by rw [hcall]; rfl) hruns.coroutines hruns.sound
                (by rw [hcall]; rfl) (s.proceed_resets due next hfails)

theorem connecting_opening {k : ClientStack} {stage : OpenStage}
    (h : k.opening = some stage) :
    k.connecting = .createSession :: { k with opening := none }.connecting := by
  simp only [ClientStack.connecting, h, Option.toList_some, Option.toList_none,
    List.map_cons, List.map_nil, List.nil_append, List.cons_append]

theorem coroutines_opening {k : ClientStack} {stage : OpenStage}
    (h : k.opening = some stage) :
    (ClientCoroutine.createSession :: { k with opening := none }.coroutines).Perm
      k.coroutines := by
  rw [ClientStack.coroutines, ClientStack.coroutines, connecting_opening h]
  exact List.perm_middle.symm

theorem openAdvances_accounted {s : ClientSession} (h : s.Accounted) {k : ClientStack}
    (hstack : s.stack = some k) (due : Bool) :
    (s.openAdvances k due).Accounted := by
  have haccount := h.account_stack hstack
  have hsound := h.sound k hstack
  unfold openAdvances
  split
  next => exact h
  next stage hopening =>
    have hperm := coroutines_opening hopening
    split
    next =>
      refine (afterCall_keeps (ClientStack.send_runs _ .createSession due)
        (fun _ _ hsend => ClientStack.send_returns hsend) (.inl ?_)).accounted
          (haccount.perm hperm) (hsound.of_same (.refl _) rfl rfl)
      rw [ClientStack.send_snd]
      rfl
    next =>
      refine (haccount.perm (.trans ?_ hperm)).accounted (hsound.of_same ?_ rfl rfl)
      · exact (coroutines_opening (k :=
          { k with
            opening := some .writingOpen
            link := { k.link with nextRequestId := k.link.nextRequestId + 1 } })
          rfl).symm
      · exact ⟨⟨rfl, rfl, rfl, rfl, rfl⟩, rfl, rfl⟩
    next later _ _ =>
      refine (haccount.perm (.trans ?_ hperm)).accounted (hsound.of_same ?_ rfl rfl)
      · exact (coroutines_opening (k := { k with opening := some later }) rfl).symm
      · exact .refl _

theorem openFails_rule {s : ClientSession} (h : s.Accounted) {k : ClientStack}
    (hstack : s.stack = some k) (status : BadStatus) :
    StepRule s (.openFails status) (s.openFails k) := by
  unfold openFails
  cases hopening : k.opening with
  | none =>
      refine .of_accounted (fun other hother => ?_) h
      rw [hstack] at hother
      cases hother
      rw [destroys, hopening]
      rfl
  | some stage =>
      refine .of_resets h hstack ?_ rfl (coroutines_opening hopening)
        (fun hk => hk.of_same (.refl _) rfl rfl) rfl
        (s.reset_resets _ .createSession)
      rw [destroys, hopening]
      rfl

theorem coroutines_closing {k : ClientStack} {index : ℕ}
    {closing : ClosingConnection} (h : k.closing[index]? = some closing) :
    (ClientCoroutine.closeSession closing.outstanding ::
      { k with closing := k.closing.eraseIdx index }.coroutines).Perm
        k.coroutines := by
  obtain ⟨hlt, rfl⟩ := List.getElem?_eq_some_iff.mp h
  have hclosing := (List.getElem_cons_eraseIdx_perm hlt).map
    fun closing : ClosingConnection => ClientCoroutine.closeSession closing.outstanding
  refine List.perm_iff_count.mpr fun coroutine => ?_
  have hcount := hclosing.count_eq coroutine
  simp only [ClientStack.coroutines, ClientStack.connecting, ClientStack.receivers,
    List.map_cons, List.count_append, List.count_cons] at hcount ⊢
  omega

theorem closeAdvances_rule {s : ClientSession} (h : s.Accounted) {k : ClientStack}
    (hstack : s.stack = some k) (index : ℕ) :
    StepRule s (.closeAdvances index) (s.closeAdvances k index) := by
  have haccount := h.account_stack hstack
  have hsound := h.sound k hstack
  unfold closeAdvances
  split
  next hclosing =>
    refine .of_accounted (fun other hother => ?_) h
    rw [hstack] at hother
    cases hother
    rw [destroys, hclosing]
    rfl
  next outstanding hclosing =>
    refine .of_accounted (fun other hother => ?_) ?_
    · rw [hstack] at hother
      cases hother
      rw [destroys, hclosing]
      rfl
    · refine (haccount.perm (.of_eq ?_)).accounted (hsound.of_same (.refl _) rfl rfl)
      have hset := map_set_of_eq
        (fun closing : ClosingConnection =>
          ClientCoroutine.closeSession closing.outstanding)
        { outstanding, stage := .closingTransport } hclosing rfl
      simp only [ClientStack.coroutines, ClientStack.connecting, ClientStack.receivers,
        hset]
  next outstanding hclosing =>
    have hperm := coroutines_closing hclosing
    have hrule : StepRule s (.closeAdvances index) _ := .of_resets h hstack
      (by rw [destroys, hclosing]; rfl) rfl hperm
      (fun hk => hk.of_same (.refl _) rfl rfl) rfl
      (s.reset_resets _ (.closeSession outstanding))
    dsimp only
    refine ⟨fun hall => ?_, fun hnot hquiet => hrule.fails hnot
      ⟨hquiet.teardowns, fun earlier hmem => hquiet.completed earlier
        (List.mem_append_left _ hmem)⟩⟩
    have hreset := hrule.keeps hall
    refine ⟨{ hreset.account with disconnected := ?_ }, hreset.sound⟩
    intro earlier hmem id hid
    rcases List.mem_append.mp hmem with hold | hnew
    · exact hreset.account.disconnected earlier hold id hid
    · rw [List.mem_singleton.mp hnew] at hid
      exact hreset.account.mem_completedIds (haccount.closers outstanding
        (hperm.subset List.mem_cons_self) id hid)

theorem fresh_sound (opening : Option OpenStage) (subscription : SubscriptionState) :
    ({ opening, subscription } : ClientStack).ReadsForCallers where
  serves := ⟨rfl, fun _ => rfl⟩
  keys := rfl
  held := by
    intro requestId coroutines hlookup
    cases hlookup
  needed hne := absurd rfl hne

theorem connect_rule {s : ClientSession} (h : s.Accounted) :
    StepRule s .connect s.connect := by
  have henter : ∀ others : ClientSession, others.Account [] →
      (others.makes .connect).Account [.createSession] := fun others haccount =>
    haccount.enter .createSession rfl fun _ hcloses => by cases hcloses
  unfold connect
  cases hstack : s.stack with
  | none =>
      have haccount := h.account
      rw [coroutines, hstack] at haccount
      refine .of_accounted (fun k hk => ?_) ((henter s haccount).accounted
        (k := { opening := some .openingTransport }) (fresh_sound _ _))
      rw [hstack] at hk
      cases hk
  | some k =>
      have haccount := h.account_stack hstack
      have hreturned : (s.returned ++ takers .connect).Perm s.made ↔
          k.coroutines = [] := by
        rw [haccount.returned_iff]
        exact List.perm_nil.trans List.map_eq_nil_iff
      dsimp only
      constructor
      · intro hall
        have hnil : k.coroutines = [] := hreturned.mp (hall k hstack rfl)
        rw [hnil] at haccount
        have hreceivers : k.receivers = [] := by
          simp only [ClientStack.coroutines, List.append_eq_nil_iff] at hnil
          exact hnil.1.2
        refine Account.accounted
          (k := { opening := some .openingTransport, subscription := _ })
          (s := { s with teardowns := s.teardowns ++ [k.teardown] }.makes .connect)
          (henter { s with teardowns := s.teardowns ++ [k.teardown] }
            { haccount with teardowns := ?_ }) (fresh_sound _ _)
        intro teardown hmem
        rcases List.mem_append.mp hmem with hold | hnew
        · exact haccount.teardowns teardown hold
        · obtain rfl := List.mem_singleton.mp hnew
          exact ⟨hnil, (h.sound k hstack).readLoops_eq_nil hreceivers⟩
      · intro hnot hquiet
        refine hnot fun other hother _ => ?_
        rw [hstack] at hother
        cases hother
        exact hreturned.mpr (hquiet.teardowns k.teardown
          (List.mem_append_right _ List.mem_cons_self)).1

theorem outstanding_lt {s : ClientSession} {id : ℕ} (h : id ∈ s.outstanding) :
    id < s.started :=
  List.mem_range.mp (List.mem_of_mem_filter h)

theorem disconnect_accounted {s : ClientSession} (h : s.Accounted) (due : Bool) :
    (s.disconnect due).Accounted := by
  unfold disconnect
  split
  next hstack =>
    have haccount := h.account
    rw [coroutines, hstack] at haccount
    have hleft : ((s.makes .disconnect).returns .disconnect).Account s.coroutines :=
      (h.account.enter (.closeSession s.outstanding) rfl
        fun outstanding heq id hid => by cases heq; exact outstanding_lt hid).leave
        (List.append_nil _).symm
    refine ⟨{ hleft with disconnected := ?_ }, h.sound⟩
    intro outstanding hmem id hid
    rcases List.mem_append.mp hmem with hold | hnew
    · exact h.account.disconnected outstanding hold id hid
    · rw [List.mem_singleton.mp hnew] at hid
      exact haccount.mem_completedIds (outstanding_lt hid)
  next k hstack =>
    have haccount := (h.account_stack hstack).enter
      (.closeSession s.outstanding) rfl
      (fun outstanding heq id hid => by cases heq; exact outstanding_lt hid)
    have hsound := h.sound k hstack
    split
    · exact (afterCall_keeps (k.send_runs _ due)
        (fun _ _ hsend => ClientStack.send_returns hsend) (.inr rfl)).accounted
          haccount hsound
    · exact (haccount.perm (closeConnection_coroutines k _)).accounted
        (closeConnection_sound hsound _)

/-- An operation gets the next number. -/
theorem Account.start {s : ClientSession} {coroutines : List ClientCoroutine}
    (h : s.Account coroutines) :
    { s.makes (.operation s.started) with started := s.started + 1 }.Account
      (.operation s.started :: coroutines) where
  calls := List.perm_middle.trans
    ((h.calls.cons _).trans (List.perm_append_singleton _ _).symm)
  numbered := by
    dsimp only [makes]
    rw [List.filterMap_append, h.numbered, List.range_succ]
    rfl
  completed := h.completed
  closers outstanding hmem id hid := by
    rcases List.mem_cons.mp hmem with heq | hin
    · cases heq
    · exact Nat.lt_succ_of_lt (h.closers outstanding hin id hid)
  disconnected := h.disconnected
  teardowns := h.teardowns

theorem operation_accounted {s : ClientSession} (h : s.Accounted) (due : Bool) :
    (s.operation due).Accounted := by
  unfold operation
  split
  · split
    next => exact h
    next k hstack =>
      exact (afterCall_keeps (s := { s.makes (.operation s.started) with started := s.started + 1 })
        (k.send_runs _ due) (fun _ _ hsend => ClientStack.send_returns hsend)
        (.inr rfl)).accounted (h.account_stack hstack).start (h.sound k hstack)
  · exact ⟨h.account.start.leave List.map_append, h.sound⟩

theorem subscription_accounted {s : ClientSession} (h : s.Accounted) {k : ClientStack}
    (hstack : s.stack = some k) (subscription : SubscriptionState)
    (coroutine : ClientCoroutine) (hid : coroutine.call.operationId = none)
    (hcloses : ∀ outstanding, coroutine ≠ .closeSession outstanding) {t : ClientSession}
    (hkeeps : (s.makes coroutine.call).Keeps { k with subscription } coroutine t) :
    t.Accounted :=
  hkeeps.accounted ((h.account_stack hstack).enter _ hid
    fun outstanding heq => absurd heq (hcloses outstanding))
    ((h.sound k hstack).of_same (.refl _) rfl rfl)

theorem startCreation_accounted {s : ClientSession} (h : s.Accounted) {k : ClientStack}
    (hstack : s.stack = some k) (due : Bool) :
    (s.startCreation k due).Accounted := by
  unfold startCreation
  split
  · exact subscription_accounted h hstack _ .createSubscription rfl
      (fun _ heq => by cases heq)
      (afterCall_keeps (ClientStack.send_runs _ .createSubscription due)
        (fun _ _ hsend => ClientStack.send_returns hsend) (.inr rfl))
  · exact h

theorem startPublishLoop_accounted {s : ClientSession} (h : s.Accounted)
    {k : ClientStack} (hstack : s.stack = some k) (due : Bool) :
    (s.startPublishLoop k due).Accounted := by
  unfold startPublishLoop
  split
  · exact subscription_accounted h hstack _ .publish rfl
      (fun _ heq => by cases heq)
      ((s.makes .publishLoop).publishRound_keeps _ due)
  · exact h

theorem monitoredItem_accounted {s : ClientSession} (h : s.Accounted) {k : ClientStack}
    (hstack : s.stack = some k) (due : Bool) :
    (s.monitoredItem k due).Accounted := by
  unfold monitoredItem
  split
  · exact subscription_accounted h hstack k.subscription .monitoredItem rfl
      (fun _ heq => by cases heq)
      (afterCall_keeps (k.send_runs .monitoredItem due)
        (fun _ _ hsend => ClientStack.send_returns hsend) (.inr rfl))
  · exact h

theorem ensureCreated_accounted {s : ClientSession} (h : s.Accounted) {k : ClientStack}
    (hstack : s.stack = some k) :
    { s with stack := some (ensureCreated k) }.Accounted := by
  have haccount := h.account_stack hstack
  have hsound := h.sound k hstack
  unfold ensureCreated
  split
  · exact haccount.accounted hsound
  · exact Account.accounted (k := { k with subscription := _ }) haccount
      (hsound.of_same (.refl _) rfl rfl)

theorem step_rule {s : ClientSession} (h : s.Accounted) (event : ClientEvent) :
    StepRule s event (s.step event) := by
  have hkept : ∀ t : ClientSession, t.Accounted →
      (∀ k, destroys k event = false) → StepRule s event t := fun t ht hdestroys =>
    .of_accounted (fun k _ => hdestroys k) ht
  unfold step
  split
  next => exact connect_rule h
  next due => exact hkept _ (disconnect_accounted h due) fun _ => rfl
  next due => exact hkept _ (operation_accounted h due) fun _ => rfl
  next hstack =>
    refine .of_accounted (fun k hk => ?_) h
    rw [hstack] at hk
    cases hk
  next due k hstack =>
    exact hkept _ (openAdvances_accounted h hstack due) fun _ => rfl
  next status k hstack => exact openFails_rule h hstack status
  next index k hstack => exact closeAdvances_rule h hstack index
  next k hstack => exact hkept _ (ensureCreated_accounted h hstack) fun _ => rfl
  next due k hstack =>
    exact hkept _ (startCreation_accounted h hstack due) fun _ => rfl
  next due k hstack =>
    exact hkept _ (startPublishLoop_accounted h hstack due) fun _ => rfl
  next due k hstack =>
    exact hkept _ (monitoredItem_accounted h hstack due) fun _ => rfl
  next channelEvent due k hstack =>
    exact step_channel_rule h hstack channelEvent due

/-! ## Runs -/

theorem start_accounted : ({} : ClientSession).Accounted where
  account := ⟨.refl _, rfl, rfl, fun _ hmem => absurd hmem List.not_mem_nil,
    fun _ hmem => absurd hmem List.not_mem_nil,
    fun _ hmem => absurd hmem List.not_mem_nil⟩
  sound k hk := by cases hk

/-- A run of the client tears its connections down quietly, and answers what was
outstanding when it disconnects, exactly if its objects are destroyed only when every
call has returned but the one which destroys them. -/
theorem teardown_quiescent_iff (events : List ClientEvent) :
    (∀ before after, events = before ++ after →
        (runFrom step {} before).Quiescent) ↔
      AllMeet step CallsReturned {} events := by
  have hdomain : AllMeet step (fun _ _ => True) {} events :=
    AllMeet.of_forall (fun _ _ => trivial) _
  exact forall_visited_iff_allMeet (P := Accounted) (Q := Quiescent)
    (fun _ h => h.quiescent)
    (fun _ event h _ hall => (step_rule h event).keeps hall)
    (fun _ event h _ hall => (step_rule h event).fails hall)
    start_accounted hdomain

/-- A request is sent, read by the loop and taken up by its caller. -/
def callAnswered : List ClientEvent :=
  [.channel (.writeFinished 0) false, .channel (.startReadLoop 0) false,
    .channel (.answer 0 0 .good) false, .channel (.loopReads 0) false,
    .channel (.resumeReceive 0) false]

/-- The server answers the close of the session and leaves a read unanswered. -/
def disconnectedWhileReading : List ClientEvent :=
  .connect :: List.replicate 5 (.openAdvances false) ++
    callAnswered ++ callAnswered ++ callAnswered ++
    [.operation false, .channel (.writeFinished 0) false,
      .channel (.startReadLoop 0) false, .disconnect false,
      .channel (.writeFinished 0) false, .channel (.answer 1 0 .good) false,
      .channel (.loopReads 0) false, .channel (.resumeReceive 0) false,
      .closeAdvances 0, .closeAdvances 0]

/-- The read and the read loop are suspended in the objects when they are destroyed,
and the read never completes. -/
theorem read_left_behind :
    (runFrom step {} disconnectedWhileReading).teardowns.map Teardown.coroutines =
        [[.operation 0]] ∧
      (runFrom step {} disconnectedWhileReading).teardowns.map Teardown.readLoops =
        [[.reading 0]] ∧
      (runFrom step {} disconnectedWhileReading).disconnected = [[0]] ∧
      (runFrom step {} disconnectedWhileReading).completions = [] ∧
      ¬(runFrom step {} disconnectedWhileReading).Quiescent := by
  have hcompletions :
      (runFrom step {} disconnectedWhileReading).completions = [] := by decide
  have hdisconnected :
      (runFrom step {} disconnectedWhileReading).disconnected = [[0]] := by
    decide
  refine ⟨by decide, by decide, hdisconnected, hcompletions, ?_⟩
  intro hquiet
  have hcount := hquiet.completed [0] (by rw [hdisconnected]; exact List.mem_cons_self)
    0 List.mem_cons_self
  rw [hcompletions] at hcount
  cases hcount

end ClientSession
end OpcuaStack
