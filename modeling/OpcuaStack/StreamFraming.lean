import Mathlib.Tactic

/-!
# Frames in a stream

A framing looks at the front of a stream and waits for more of it, rejects it, or
finds a frame of some size.  More of the stream changes nothing once the verdict
is there.  A loop which hands frame after frame to a handler therefore comes to
the same state and stops at the same place however the stream is cut into reads.
-/

namespace OpcuaStack

universe u v w

inductive FrameVerdict where
  | wait
  | reject
  | frame (size : ℕ)
deriving DecidableEq

structure Framing (τ : Type u) where
  verdict : List τ → FrameVerdict
  verdict_nil : verdict [] = .wait
  frame_pos : ∀ {items size}, verdict items = .frame size → 0 < size
  frame_le : ∀ {items size}, verdict items = .frame size → size ≤ items.length
  frame_append : ∀ {items size} (more : List τ),
    verdict items = .frame size → verdict (items ++ more) = .frame size
  frame_take : ∀ {items size},
    verdict items = .frame size → verdict (items.take size) = .frame size
  reject_append : ∀ {items} (more : List τ),
    verdict items = .reject → verdict (items ++ more) = .reject

/-- Why a loop over frames has stopped. -/
inductive FrameStop where
  | waiting
  | rejected
  | closed
deriving DecidableEq

namespace Framing

variable {τ : Type u} {σ : Type v} {ω : Type w}

/-- The loop, in so many rounds.  The handler says whether it goes on. -/
def drain (F : Framing τ) (handle : σ → List τ → σ × Bool) :
    ℕ → σ → List τ → σ × List τ × FrameStop
  | 0, state, items => (state, items, .waiting)
  | rounds + 1, state, items =>
      match F.verdict items with
      | .wait => (state, items, .waiting)
      | .reject => (state, items, .rejected)
      | .frame size =>
          match handle state (items.take size) with
          | (next, true) => F.drain handle rounds next (items.drop size)
          | (next, false) => (next, items.drop size, .closed)

/-- From a state and a stream the loop comes to a state, what is left of the
stream, and the reason why it stops. -/
inductive Drains (F : Framing τ) (handle : σ → List τ → σ × Bool) :
    σ → List τ → σ → List τ → FrameStop → Prop
  | wait {state items} (hverdict : F.verdict items = .wait) :
      Drains F handle state items state items .waiting
  | reject {state items} (hverdict : F.verdict items = .reject) :
      Drains F handle state items state items .rejected
  | closed {state items size next} (hverdict : F.verdict items = .frame size)
      (hhandle : handle state (items.take size) = (next, false)) :
      Drains F handle state items next (items.drop size) .closed
  | frame {state items size next final rest stop}
      (hverdict : F.verdict items = .frame size)
      (hhandle : handle state (items.take size) = (next, true))
      (hrest : Drains F handle next (items.drop size) final rest stop) :
      Drains F handle state items final rest stop

variable {F : Framing τ} {handle : σ → List τ → σ × Bool}

section Rounds

variable {state : σ} {items : List τ} (rounds : ℕ)

theorem drain_of_wait (h : F.verdict items = .wait) :
    F.drain handle (rounds + 1) state items = (state, items, .waiting) := by
  simp only [drain, h]

theorem drain_of_reject (h : F.verdict items = .reject) :
    F.drain handle (rounds + 1) state items = (state, items, .rejected) := by
  simp only [drain, h]

theorem drain_of_frame {size : ℕ} (h : F.verdict items = .frame size) :
    F.drain handle (rounds + 1) state items =
      match handle state (items.take size) with
      | (next, true) => F.drain handle rounds next (items.drop size)
      | (next, false) => (next, items.drop size, .closed) := by
  simp only [drain, h]

end Rounds

theorem drain_drains {rounds : ℕ} {state : σ} {items : List τ}
    (hrounds : items.length ≤ rounds) :
    F.Drains handle state items (F.drain handle rounds state items).1
      (F.drain handle rounds state items).2.1
      (F.drain handle rounds state items).2.2 := by
  induction rounds generalizing state items with
  | zero =>
      have hnil : items = [] := List.length_eq_zero_iff.mp (Nat.le_zero.mp hrounds)
      subst hnil
      exact .wait F.verdict_nil
  | succ rounds ih =>
      unfold drain
      split
      next hverdict => exact .wait hverdict
      next hverdict => exact .reject hverdict
      next size hverdict =>
        split
        next next hhandle =>
          refine .frame hverdict hhandle (ih ?_)
          have hpos := F.frame_pos hverdict
          rw [List.length_drop]
          omega
        next next hhandle => exact .closed hverdict hhandle

theorem drain_invariant {P : σ → Prop}
    (hhandle : ∀ state frame, P state → P (handle state frame).1)
    {state : σ} (hstate : P state) (rounds : ℕ) (items : List τ) :
    P (F.drain handle rounds state items).1 := by
  induction rounds generalizing state items with
  | zero => exact hstate
  | succ rounds ih =>
      unfold drain
      split
      next => exact hstate
      next => exact hstate
      next size _ =>
        have hnext := hhandle state (items.take size) hstate
        split
        next next heq =>
          rw [heq] at hnext
          exact ih hnext _
        next next heq =>
          rw [heq] at hnext
          exact hnext

/-- Every frame is handed over in a state which the guard allows, and so is what
the loop rejects. -/
def Meets (F : Framing τ) (handle : σ → List τ → σ × Bool)
    (guard rejects : σ → List τ → Prop) : ℕ → σ → List τ → Prop
  | 0, _, _ => True
  | rounds + 1, state, items =>
      match F.verdict items with
      | .wait => True
      | .reject => rejects state items
      | .frame size =>
          guard state (items.take size) ∧
            ((handle state (items.take size)).2 = true →
              F.Meets handle guard rejects rounds
                (handle state (items.take size)).1 (items.drop size))

instance Meets.instDecidable (F : Framing τ)
    (handle : σ → List τ → σ × Bool) (guard rejects : σ → List τ → Prop)
    [∀ state items, Decidable (guard state items)]
    [∀ state items, Decidable (rejects state items)] :
    (rounds : ℕ) → (state : σ) → (items : List τ) →
      Decidable (F.Meets handle guard rejects rounds state items)
  | 0, _, _ => isTrue trivial
  | rounds + 1, state, items => by
      have := fun size => instDecidable F handle guard rejects rounds
        (handle state (items.take size)).1 (items.drop size)
      unfold Meets
      split <;> infer_instance

/-- What a guarded handler keeps holds where the loop stops; while the loop goes
on, more may be known. -/
theorem drain_guarded {guard rejects : σ → List τ → Prop} {P Q : σ → Prop}
    (hhandle : ∀ state frame, P state → Q state → guard state frame →
      P (handle state frame).1 ∧
        ((handle state frame).2 = true → Q (handle state frame).1))
    {rounds : ℕ} {state : σ} {items : List τ} (hP : P state) (hQ : Q state)
    (hmeets : F.Meets handle guard rejects rounds state items) :
    P (F.drain handle rounds state items).1 ∧
      ((F.drain handle rounds state items).2.2 ≠ .closed →
        Q (F.drain handle rounds state items).1) ∧
      ((F.drain handle rounds state items).2.2 = .rejected →
        rejects (F.drain handle rounds state items).1
          (F.drain handle rounds state items).2.1) := by
  induction rounds generalizing state items with
  | zero => exact ⟨hP, fun _ => hQ, by simp [drain]⟩
  | succ rounds ih =>
      unfold Meets at hmeets
      cases hverdict : F.verdict items with
      | wait =>
          rw [drain_of_wait rounds hverdict]
          exact ⟨hP, fun _ => hQ, by simp⟩
      | reject =>
          simp only [hverdict] at hmeets
          rw [drain_of_reject rounds hverdict]
          exact ⟨hP, fun _ => hQ, fun _ => hmeets⟩
      | frame size =>
          simp only [hverdict] at hmeets
          obtain ⟨hguard, hlater⟩ := hmeets
          obtain ⟨hnext, hmore⟩ := hhandle state (items.take size) hP hQ hguard
          rw [drain_of_frame rounds hverdict]
          cases hhandled : handle state (items.take size) with
          | mk next goesOn =>
              rw [hhandled] at hnext hmore hlater
              cases goesOn with
              | true => exact ih hnext (hmore rfl) (hlater rfl)
              | false => exact ⟨hnext, by simp, by simp⟩

theorem Drains.unique {state final other : σ} {items rest leftover : List τ}
    {stop reason : FrameStop} (h : F.Drains handle state items final rest stop)
    (hother : F.Drains handle state items other leftover reason) :
    other = final ∧ leftover = rest ∧ reason = stop := by
  induction h with
  | wait hverdict =>
      cases hother with
      | wait _ => exact ⟨rfl, rfl, rfl⟩
      | reject h | closed h _ | frame h _ _ => rw [hverdict] at h; cases h
  | reject hverdict =>
      cases hother with
      | reject _ => exact ⟨rfl, rfl, rfl⟩
      | wait h | closed h _ | frame h _ _ => rw [hverdict] at h; cases h
  | closed hverdict hhandle =>
      cases hother with
      | wait h | reject h => rw [hverdict] at h; cases h
      | closed h hh =>
          rw [hverdict] at h
          cases h
          rw [hhandle] at hh
          cases hh
          exact ⟨rfl, rfl, rfl⟩
      | frame h hh _ =>
          rw [hverdict] at h
          cases h
          rw [hhandle] at hh
          cases hh
  | frame hverdict hhandle _ ih =>
      cases hother with
      | wait h | reject h => rw [hverdict] at h; cases h
      | closed h hh =>
          rw [hverdict] at h
          cases h
          rw [hhandle] at hh
          cases hh
      | frame h hh hrest =>
          rw [hverdict] at h
          cases h
          rw [hhandle] at hh
          cases hh
          exact ih hrest

theorem Drains.rejected {state final : σ} {items rest : List τ}
    (h : F.Drains handle state items final rest .rejected) :
    F.verdict rest = .reject := by
  generalize hstop : FrameStop.rejected = stop at h
  induction h with
  | wait _ => cases hstop
  | reject hverdict => exact hverdict
  | closed _ _ => cases hstop
  | frame _ _ _ ih => exact ih hstop

theorem Drains.closed_by {state final : σ} {items rest : List τ}
    (h : F.Drains handle state items final rest .closed) :
    ∃ before frame, handle before frame = (final, false) := by
  generalize hstop : FrameStop.closed = stop at h
  induction h with
  | wait _ => cases hstop
  | reject _ => cases hstop
  | closed _ hhandle => exact ⟨_, _, hhandle⟩
  | frame _ _ _ ih => exact ih hstop

/-- A loop which waits goes on with what comes next. -/
theorem Drains.append {state middle final : σ} {items rest leftover : List τ}
    {more : List τ} {stop : FrameStop}
    (h : F.Drains handle state items middle rest .waiting)
    (hmore : F.Drains handle middle (rest ++ more) final leftover stop) :
    F.Drains handle state (items ++ more) final leftover stop := by
  generalize hwaiting : FrameStop.waiting = reason at h
  induction h with
  | wait _ => exact hmore
  | reject _ => cases hwaiting
  | closed _ _ => cases hwaiting
  | frame hverdict hhandle _ ih =>
      have hle := F.frame_le hverdict
      rw [← List.take_append_of_le_length hle ] at hhandle
      refine .frame (F.frame_append more hverdict) hhandle ?_
      rw [List.drop_append_of_le_length hle]
      exact ih hmore hwaiting

theorem Drains.append_stopped {state final : σ} {items rest : List τ}
    {stop : FrameStop} (h : F.Drains handle state items final rest stop)
    (hstop : stop ≠ .waiting) (more : List τ) :
    F.Drains handle state (items ++ more) final (rest ++ more) stop := by
  induction h with
  | wait _ => exact absurd rfl hstop
  | reject hverdict => exact .reject (F.reject_append more hverdict)
  | closed hverdict hhandle =>
      have hle := F.frame_le hverdict
      rw [← List.drop_append_of_le_length hle]
      refine .closed (F.frame_append more hverdict) ?_
      rw [List.take_append_of_le_length hle]
      exact hhandle
  | frame hverdict hhandle _ ih =>
      have hle := F.frame_le hverdict
      rw [← List.take_append_of_le_length hle ] at hhandle
      refine .frame (F.frame_append more hverdict) hhandle ?_
      rw [List.drop_append_of_le_length hle]
      exact ih hstop

/-! ## The frames of a stream -/

/-- The handler which only keeps the frames. -/
def collect (frames : List (List τ)) (frame : List τ) : List (List τ) × Bool :=
  (frames ++ [frame], true)

/-- The stream is the given frames and what is left of it, at which a loop over
its frames waits or rejects. -/
abbrev Cuts (F : Framing τ) (items : List τ) (frames : List (List τ))
    (rest : List τ) (stop : FrameStop) : Prop :=
  F.Drains collect [] items frames rest stop

theorem Drains.collect_append {before frames : List (List τ)}
    {items rest : List τ} {stop : FrameStop} (earlier : List (List τ))
    (h : F.Drains collect before items frames rest stop) :
    F.Drains collect (earlier ++ before) items (earlier ++ frames) rest stop := by
  induction h with
  | wait hverdict => exact .wait hverdict
  | reject hverdict => exact .reject hverdict
  | closed _ hhandle => cases hhandle
  | frame hverdict hhandle _ ih =>
      cases hhandle
      refine .frame hverdict rfl ?_
      rw [List.append_assoc]
      exact ih

theorem Drains.flatten_append {log : σ → List (List τ)}
    (hlog : ∀ state frame, log (handle state frame).1 = log state ++ [frame])
    {state final : σ} {items rest : List τ} {stop : FrameStop}
    (h : F.Drains handle state items final rest stop) :
    (log final).flatten ++ rest = (log state).flatten ++ items := by
  have htaken : ∀ {state next : σ} {items : List τ} {size : ℕ} {goesOn : Bool},
      handle state (items.take size) = (next, goesOn) →
        (log next).flatten ++ items.drop size = (log state).flatten ++ items := by
    intro state next items size goesOn hhandle
    have hnext := hlog state (items.take size)
    rw [hhandle] at hnext
    rw [hnext, List.flatten_append, List.flatten_singleton, List.append_assoc,
      List.take_append_drop]
  induction h with
  | wait _ => rfl
  | reject _ => rfl
  | closed _ hhandle => exact htaken hhandle
  | frame _ hhandle _ ih => exact ih.trans (htaken hhandle)

theorem Drains.verdict_frame {before frames : List (List τ)}
    {items rest : List τ} {stop : FrameStop}
    (h : F.Drains collect before items frames rest stop)
    (hbefore : ∀ frame ∈ before, F.verdict frame = .frame frame.length) :
    ∀ frame ∈ frames, F.verdict frame = .frame frame.length := by
  induction h with
  | wait _ => exact hbefore
  | reject _ => exact hbefore
  | closed _ hhandle => cases hhandle
  | @frame _ items size _ _ _ _ hverdict hhandle _ ih =>
      cases hhandle
      apply ih
      intro frame hmem
      rcases List.mem_append.mp hmem with hearlier | hlast
      · exact hbefore frame hearlier
      · rw [List.mem_singleton.mp hlast, List.length_take,
          Nat.min_eq_left (F.frame_le hverdict)]
        exact F.frame_take hverdict

/-- A loop whose handler keeps the frames on record has the frames of the stream,
up to the one at which the handler has closed it. -/
theorem Drains.logged {log : σ → List (List τ)}
    (hlog : ∀ state frame, log (handle state frame).1 = log state ++ [frame])
    {state final : σ} {items rest : List τ} {stop : FrameStop}
    (h : F.Drains handle state items final rest stop) :
    if stop = .closed then
      ∃ frames leftover reason,
        F.Drains collect (log state) items (log final ++ frames) leftover reason
    else F.Drains collect (log state) items (log final) rest stop := by
  induction h with
  | wait hverdict => exact .wait hverdict
  | reject hverdict => exact .reject hverdict
  | @closed state items size next hverdict hhandle =>
      have hnext := hlog state (items.take size)
      rw [hhandle] at hnext
      -- The frames behind it are those which the loop would have gone on to.
      have hlater : F.Cuts (items.drop size) _ _ _ := drain_drains le_rfl
      have hgrows := hlater.collect_append (log next)
      rw [List.append_nil, hnext] at hgrows
      exact ⟨_, _, _, by rw [hnext]; exact .frame hverdict rfl hgrows⟩
  | @frame state items size next final rest stop hverdict hhandle _ ih =>
      have hnext := hlog state (items.take size)
      rw [hhandle] at hnext
      split
      next hclosed =>
        rw [if_pos hclosed] at ih
        obtain ⟨frames, leftover, reason, hrest⟩ := ih
        refine ⟨frames, leftover, reason, .frame hverdict rfl ?_⟩
        rw [← hnext]
        exact hrest
      next hopen =>
        rw [if_neg hopen] at ih
        refine .frame hverdict rfl ?_
        rw [← hnext]
        exact ih

/-! ## Reads -/

/-- The loop between two reads. -/
structure Reading (σ : Type v) (τ : Type u) where
  state : σ
  pending : List τ
  stop : FrameStop

/-- A read brings more of the stream, unless the loop has stopped for good. -/
def feed (F : Framing τ) (handle : σ → List τ → σ × Bool) (r : Reading σ τ)
    (read : List τ) : Reading σ τ :=
  if r.stop = .waiting then
    let drained := F.drain handle (r.pending ++ read).length r.state
      (r.pending ++ read)
    { state := drained.1, pending := drained.2.1, stop := drained.2.2 }
  else r

/-- The loop is where it would be after one read of the whole stream; after it
has stopped for good there may be more of the stream behind what it holds. -/
def Reading.Follows (F : Framing τ) (handle : σ → List τ → σ × Bool)
    (state : σ) (stream : List τ) (r : Reading σ τ) : Prop :=
  if r.stop = .waiting then
    F.Drains handle state stream r.state r.pending .waiting
  else
    ∃ unread, F.Drains handle state stream r.state (r.pending ++ unread) r.stop

theorem Reading.Follows.feed {state : σ} {stream : List τ} {r : Reading σ τ}
    (h : r.Follows F handle state stream) (read : List τ) :
    (F.feed handle r read).Follows F handle state (stream ++ read) := by
  unfold Reading.Follows at h
  by_cases hwaiting : r.stop = .waiting
  · rw [if_pos hwaiting] at h
    have hdrained := @drain_drains _ _ F handle _ r.state _
      (le_refl (r.pending ++ read).length)
    have hall := h.append hdrained
    unfold Framing.feed Reading.Follows
    rw [if_pos hwaiting]
    split
    next hstop =>
      simp only at hstop
      rw [← hstop]
      exact hall
    next => exact ⟨[], by rw [List.append_nil]; exact hall⟩
  · rw [if_neg hwaiting] at h
    obtain ⟨unread, hstopped⟩ := h
    unfold Framing.feed Reading.Follows
    rw [if_neg hwaiting, if_neg hwaiting]
    refine ⟨unread ++ read, ?_⟩
    rw [← List.append_assoc]
    exact hstopped.append_stopped hwaiting read

/-- Feeding the reads comes to where one read of their concatenation does. -/
theorem foldl_feed_follows {state : σ} {before : List τ} {r : Reading σ τ}
    (h : r.Follows F handle state before) (reads : List (List τ)) :
    (reads.foldl (F.feed handle) r).Follows F handle state
      (before ++ reads.flatten) := by
  induction reads generalizing before r with
  | nil =>
      rw [List.flatten_nil, List.append_nil]
      exact h
  | cons read rest ih =>
      rw [List.flatten_cons, ← List.append_assoc]
      exact ih (h.feed read)

end Framing
end OpcuaStack
