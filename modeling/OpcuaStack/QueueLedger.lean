import Mathlib.Tactic

/-!
# The ledger of a shared queue

Several producers, told apart by a key, share one first-in first-out queue.
Elements leave it in three ways: from the front into a message, from any
position on account of one key, or all together with the other elements of
some named keys.  Replaying the effects on the queue into a ledger assigns every
element ever pushed one fate, and the ledger accounts for the queue and for
all messages.
-/

namespace OpcuaStack

universe u v

variable {κ : Type u} {α : Type v}

/-- One change of the shared queue. -/
inductive QueueEffect (κ : Type u) (α : Type v) where
  | push (key : κ) (value : α)
  | discard (owner : κ) (index : ℕ)
  | remove (named : List κ)
  | publish (count : ℕ)

/-- Where an element is: still queued, in the message of the given number,
discarded on account of a key, or removed by a list of keys. -/
inductive Fate (κ : Type u) where
  | pending
  | published (message : ℕ)
  | discarded (owner : κ)
  | removed (named : List κ)
deriving DecidableEq

def Fate.isPublished : Fate κ → Bool
  | .published _ => true
  | _ => false

structure LedgerEntry (κ : Type u) (α : Type v) where
  key : κ
  value : α
  fate : Fate κ

/-- One entry for each push, in the order of the pushes, and the number of
messages published so far. -/
structure Ledger (κ : Type u) (α : Type v) where
  entries : List (LedgerEntry κ α) := []
  messageCount : ℕ := 0

/-- The pending entries of a list, as the queue holds them. -/
def pendingOf : List (LedgerEntry κ α) → List (κ × α)
  | [] => []
  | entry :: rest =>
      match entry.fate with
      | .pending => (entry.key, entry.value) :: pendingOf rest
      | _ => pendingOf rest

def publishedOf (entries : List (LedgerEntry κ α)) : List α :=
  (entries.filter fun entry => entry.fate.isPublished).map (·.value)

def publishedIn (message : ℕ) : List (LedgerEntry κ α) → List α
  | [] => []
  | entry :: rest =>
      match entry.fate with
      | .published number =>
          if number = message then entry.value :: publishedIn message rest
          else publishedIn message rest
      | _ => publishedIn message rest

/-- Give a fate to pending entries by their position among the pending ones. -/
def retire (fateAt : ℕ → κ → Option (Fate κ)) :
    ℕ → List (LedgerEntry κ α) → List (LedgerEntry κ α)
  | _, [] => []
  | position, entry :: rest =>
      match entry.fate with
      | .pending =>
          { entry with fate := (fateAt position entry.key).getD .pending } ::
            retire fateAt (position + 1) rest
      | _ => entry :: retire fateAt position rest

def discardAt (owner : κ) (index : ℕ) : ℕ → κ → Option (Fate κ) :=
  fun position _ => if position = index then some (.discarded owner) else none

def removeNamed [DecidableEq κ] (named : List κ) : ℕ → κ → Option (Fate κ) :=
  fun _ key => if key ∈ named then some (.removed named) else none

def publishFront (message count : ℕ) : ℕ → κ → Option (Fate κ) :=
  fun position _ => if position < count then some (.published message) else none

section

variable [DecidableEq κ]

def Ledger.apply (ledger : Ledger κ α) : QueueEffect κ α → Ledger κ α
  | .push key value =>
      { ledger with entries := ledger.entries ++ [⟨key, value, .pending⟩] }
  | .discard owner index =>
      { ledger with entries := retire (discardAt owner index) 0 ledger.entries }
  | .remove named =>
      { ledger with entries := retire (removeNamed named) 0 ledger.entries }
  | .publish count =>
      { entries := retire (publishFront ledger.messageCount count) 0
          ledger.entries
        messageCount := ledger.messageCount + 1 }

/-- The ledger written by a history of queue effects. -/
def Ledger.replay (history : List (QueueEffect κ α)) : Ledger κ α :=
  history.foldl Ledger.apply {}

theorem Ledger.replay_append_singleton
    (history : List (QueueEffect κ α)) (effect : QueueEffect κ α) :
    replay (history ++ [effect]) = (replay history).apply effect := by
  simp [replay]

end

def pushesOf : List (QueueEffect κ α) → List (κ × α)
  | [] => []
  | .push key value :: rest => (key, value) :: pushesOf rest
  | _ :: rest => pushesOf rest

@[simp] theorem pushesOf_append (first second : List (QueueEffect κ α)) :
    pushesOf (first ++ second) = pushesOf first ++ pushesOf second := by
  induction first with
  | nil => rfl
  | cons effect rest ih =>
      cases effect <;> simp [pushesOf, ih]

/-! ## How the readings of a list compose -/

theorem pendingOf_cons_pending
    {entry : LedgerEntry κ α} (hfate : entry.fate = .pending)
    (rest : List (LedgerEntry κ α)) :
    pendingOf (entry :: rest) = (entry.key, entry.value) :: pendingOf rest := by
  simp [pendingOf, hfate]

theorem pendingOf_cons_settled
    {entry : LedgerEntry κ α} (hfate : entry.fate ≠ .pending)
    (rest : List (LedgerEntry κ α)) :
    pendingOf (entry :: rest) = pendingOf rest := by
  cases hcase : entry.fate <;> simp_all [pendingOf]

theorem retire_cons_pending
    (fateAt : ℕ → κ → Option (Fate κ)) (position : ℕ)
    {entry : LedgerEntry κ α} (hfate : entry.fate = .pending)
    (rest : List (LedgerEntry κ α)) :
    retire fateAt position (entry :: rest) =
      { entry with fate := (fateAt position entry.key).getD .pending } ::
        retire fateAt (position + 1) rest := by
  simp [retire, hfate]

theorem retire_cons_settled
    (fateAt : ℕ → κ → Option (Fate κ)) (position : ℕ)
    {entry : LedgerEntry κ α} (hfate : entry.fate ≠ .pending)
    (rest : List (LedgerEntry κ α)) :
    retire fateAt position (entry :: rest) =
      entry :: retire fateAt position rest := by
  cases hcase : entry.fate <;> simp_all [retire]

theorem publishedOf_cons
    (entry : LedgerEntry κ α) (rest : List (LedgerEntry κ α)) :
    publishedOf (entry :: rest) =
      (if entry.fate.isPublished then [entry.value] else []) ++
        publishedOf rest := by
  cases hfate : entry.fate <;> simp [publishedOf, Fate.isPublished, hfate]

theorem publishedIn_cons
    (message : ℕ) (entry : LedgerEntry κ α) (rest : List (LedgerEntry κ α)) :
    publishedIn message (entry :: rest) =
      publishedIn message [entry] ++ publishedIn message rest := by
  cases hfate : entry.fate with
  | published number =>
      by_cases hnumber : number = message <;>
        simp [publishedIn, hfate, hnumber]
  | _ => simp [publishedIn, hfate]

@[simp] theorem pendingOf_append (first second : List (LedgerEntry κ α)) :
    pendingOf (first ++ second) = pendingOf first ++ pendingOf second := by
  induction first with
  | nil => rfl
  | cons entry rest ih =>
      by_cases hfate : entry.fate = .pending
      · simp [pendingOf_cons_pending hfate, ih]
      · simp [pendingOf_cons_settled hfate, ih]

@[simp] theorem publishedIn_append
    (message : ℕ) (first second : List (LedgerEntry κ α)) :
    publishedIn message (first ++ second) =
      publishedIn message first ++ publishedIn message second := by
  induction first with
  | nil => rfl
  | cons entry rest ih =>
      rw [List.cons_append, publishedIn_cons, ih, publishedIn_cons _ _ rest,
        List.append_assoc]

theorem mem_publishedIn
    {entries : List (LedgerEntry κ α)} {entry : LedgerEntry κ α}
    (hmem : entry ∈ entries) {message : ℕ}
    (hfate : entry.fate = .published message) :
    entry.value ∈ publishedIn message entries := by
  obtain ⟨before, after, rfl⟩ := List.append_of_mem hmem
  rw [publishedIn_append, publishedIn_cons]
  simp [publishedIn, hfate]

/-! ## Retiring pending entries -/

section Retire

variable (fateAt : ℕ → κ → Option (Fate κ))

theorem retire_keyValue (position : ℕ) (entries : List (LedgerEntry κ α)) :
    (retire fateAt position entries).map (fun entry => (entry.key, entry.value)) =
      entries.map fun entry => (entry.key, entry.value) := by
  induction entries generalizing position with
  | nil => rfl
  | cons entry rest ih =>
      by_cases hfate : entry.fate = .pending
      · simp [retire_cons_pending _ _ hfate, ih]
      · simp [retire_cons_settled _ _ hfate, ih]

/-- An entry of the retired list is an old entry, or a pending one with the
fate given to its place in the queue. -/
theorem mem_retire {position : ℕ} {entries : List (LedgerEntry κ α)}
    {entry : LedgerEntry κ α} (hmem : entry ∈ retire fateAt position entries) :
    entry ∈ entries ∨
      ∃ old ∈ entries, ∃ place fate,
        (pendingOf entries)[place]? = some (old.key, old.value) ∧
          fateAt (position + place) old.key = some fate ∧
            entry = { old with fate := fate } := by
  induction entries generalizing position with
  | nil => simp [retire] at hmem
  | cons head rest ih =>
      by_cases hfate : head.fate = .pending
      · rw [retire_cons_pending _ _ hfate] at hmem
        rw [pendingOf_cons_pending hfate]
        rcases List.mem_cons.mp hmem with hhead | htail
        · cases hgiven : fateAt position head.key with
          | none =>
              left
              rw [hhead, hgiven, Option.getD_none, ← hfate]
              exact List.mem_cons_self
          | some fate =>
              right
              refine ⟨head, List.mem_cons_self, 0, fate, rfl, hgiven, ?_⟩
              rw [hhead, hgiven, Option.getD_some]
        · rcases ih htail with hold | ⟨old, hold, place, fate, hplace, hgiven,
            hentry⟩
          · exact .inl (List.mem_cons_of_mem _ hold)
          · refine .inr ⟨old, List.mem_cons_of_mem _ hold, place + 1, fate,
              hplace, ?_, hentry⟩
            rw [← hgiven, Nat.add_assoc, Nat.add_comm 1]
      · rw [retire_cons_settled _ _ hfate] at hmem
        rw [pendingOf_cons_settled hfate]
        rcases List.mem_cons.mp hmem with rfl | htail
        · exact .inl List.mem_cons_self
        · rcases ih htail with hold | ⟨old, hold, hretired⟩
          · exact .inl (List.mem_cons_of_mem _ hold)
          · exact .inr ⟨old, List.mem_cons_of_mem _ hold, hretired⟩

/-- The part of a queue whose elements receive no fate. -/
def unretired : ℕ → List (κ × α) → List (κ × α)
  | _, [] => []
  | position, element :: rest =>
      if (fateAt position element.1).isNone then
        element :: unretired (position + 1) rest
      else unretired (position + 1) rest

theorem pendingOf_retire
    (hfateAt : ∀ position key, fateAt position key ≠ some .pending)
    (position : ℕ) (entries : List (LedgerEntry κ α)) :
    pendingOf (retire fateAt position entries) =
      unretired fateAt position (pendingOf entries) := by
  induction entries generalizing position with
  | nil => rfl
  | cons entry rest ih =>
      by_cases hfate : entry.fate = .pending
      · rw [retire_cons_pending _ _ hfate, pendingOf_cons_pending hfate]
        cases hgiven : fateAt position entry.key with
        | none =>
            rw [pendingOf_cons_pending (by simp)]
            simp [unretired, hgiven, ih]
        | some fate =>
            have hsettled : fate ≠ .pending := by
              intro hpending
              exact hfateAt position entry.key (by rw [hgiven, hpending])
            rw [pendingOf_cons_settled (by simpa using hsettled)]
            simp [unretired, hgiven, ih]
      · rw [retire_cons_settled _ _ hfate, pendingOf_cons_settled hfate,
          pendingOf_cons_settled hfate, ih]

theorem publishedIn_retire {message : ℕ}
    (hfateAt : ∀ position key, fateAt position key ≠ some (.published message))
    (position : ℕ) (entries : List (LedgerEntry κ α)) :
    publishedIn message (retire fateAt position entries) =
      publishedIn message entries := by
  induction entries generalizing position with
  | nil => rfl
  | cons entry rest ih =>
      by_cases hfate : entry.fate = .pending
      · rw [retire_cons_pending _ _ hfate, publishedIn_cons, ih,
          publishedIn_cons _ entry]
        congr 1
        cases hgiven : fateAt position entry.key with
        | none => simp [publishedIn, hfate]
        | some fate =>
            have hother := hfateAt position entry.key
            rw [hgiven] at hother
            cases fate <;> simp_all [publishedIn]
      · rw [retire_cons_settled _ _ hfate, publishedIn_cons, ih,
          ← publishedIn_cons]

end Retire

/-! ### The three ways out of the queue -/

theorem unretired_discardAt
    (owner : κ) (index position : ℕ) (queue : List (κ × α))
    (hposition : position ≤ index) :
    unretired (discardAt owner index) position queue =
      queue.eraseIdx (index - position) := by
  induction queue generalizing position with
  | nil => simp [unretired]
  | cons element rest ih =>
      by_cases heq : position = index
      · subst position
        have hlater : ∀ (later : ℕ) (tail : List (κ × α)), index < later →
            unretired (discardAt owner index) later tail = tail := by
          intro later tail
          induction tail generalizing later with
          | nil => intro _; rfl
          | cons next others ihtail =>
              intro hlt
              simp [unretired, discardAt, Nat.ne_of_gt hlt,
                ihtail (later + 1) (by omega)]
        simp [unretired, discardAt, hlater]
      · have hlt : position < index := by omega
        have hindex : index - position = index - (position + 1) + 1 := by omega
        simp [unretired, discardAt, heq, ih (position + 1) hlt, hindex]

theorem unretired_removeNamed [DecidableEq κ]
    (named : List κ) (position : ℕ) (queue : List (κ × α)) :
    unretired (removeNamed named) position queue =
      queue.filter fun element => !decide (element.1 ∈ named) := by
  induction queue generalizing position with
  | nil => rfl
  | cons element rest ih =>
      by_cases hmem : element.1 ∈ named <;>
        simp [unretired, removeNamed, hmem, ih]

theorem unretired_publishFront
    (message count position : ℕ) (queue : List (κ × α)) :
    unretired (publishFront message count) position queue =
      queue.drop (count - position) := by
  induction queue generalizing position with
  | nil => simp [unretired]
  | cons element rest ih =>
      by_cases hlt : position < count
      · have hcount : count - position = count - (position + 1) + 1 := by omega
        simp [unretired, publishFront, hlt, ih, hcount]
      · have hzero : count - position = 0 := by omega
        have hnext : count - (position + 1) = 0 := by omega
        simp [unretired, publishFront, hlt, ih, hzero, hnext]

theorem publishedIn_publishFront
    {message : ℕ} (count position : ℕ) {entries : List (LedgerEntry κ α)}
    (hfresh : publishedIn message entries = []) :
    publishedIn message (retire (publishFront message count) position entries) =
      ((pendingOf entries).take (count - position)).map Prod.snd := by
  induction entries generalizing position with
  | nil => simp [retire, pendingOf, publishedIn]
  | cons entry rest ih =>
      rw [publishedIn_cons] at hfresh
      obtain ⟨hhead, hrest⟩ := List.append_eq_nil_iff.mp hfresh
      by_cases hfate : entry.fate = .pending
      · rw [retire_cons_pending _ _ hfate, publishedIn_cons, ih _ hrest,
          pendingOf_cons_pending hfate]
        by_cases hlt : position < count
        · have hcount : count - position = count - (position + 1) + 1 := by
            omega
          simp [publishedIn, publishFront, hlt, hcount]
        · have hzero : count - position = 0 := by omega
          have hnext : count - (position + 1) = 0 := by omega
          simp [publishedIn, publishFront, hlt, hzero, hnext]
      · rw [retire_cons_settled _ _ hfate, publishedIn_cons, ih _ hrest,
          pendingOf_cons_settled hfate, hhead, List.nil_append]

/-- No published entry stands behind a pending one. -/
def PublishedFirst (entries : List (LedgerEntry κ α)) : Prop :=
  entries.Pairwise fun earlier later =>
    earlier.fate = .pending → later.fate.isPublished = false

theorem publishedOf_eq_nil {entries : List (LedgerEntry κ α)}
    (hnone : ∀ entry ∈ entries, entry.fate.isPublished = false) :
    publishedOf entries = [] := by
  simp only [publishedOf, List.map_eq_nil_iff, List.filter_eq_nil_iff]
  intro entry hmem
  simp [hnone entry hmem]

theorem publishedOf_publishFront
    (message count position : ℕ) {entries : List (LedgerEntry κ α)}
    (hfirst : PublishedFirst entries) :
    publishedOf (retire (publishFront message count) position entries) =
      publishedOf entries ++
        ((pendingOf entries).take (count - position)).map Prod.snd := by
  induction entries generalizing position with
  | nil => simp [retire, pendingOf, publishedOf]
  | cons entry rest ih =>
      obtain ⟨hhead, hrest⟩ := List.pairwise_cons.mp hfirst
      by_cases hfate : entry.fate = .pending
      · have hnone : publishedOf rest = [] :=
          publishedOf_eq_nil fun later hmem => hhead later hmem hfate
        rw [retire_cons_pending _ _ hfate, publishedOf_cons, ih _ hrest,
          publishedOf_cons, pendingOf_cons_pending hfate, hnone]
        by_cases hlt : position < count
        · have hcount : count - position = count - (position + 1) + 1 := by
            omega
          simp [publishFront, hlt, hfate, hcount, Fate.isPublished]
        · have hzero : count - position = 0 := by omega
          have hnext : count - (position + 1) = 0 := by omega
          simp [publishFront, hlt, hfate, hzero, hnext, Fate.isPublished]
      · rw [retire_cons_settled _ _ hfate, publishedOf_cons, ih _ hrest,
          publishedOf_cons _ rest, pendingOf_cons_settled hfate,
          List.append_assoc]

theorem retire_publishFront_of_le
    (message : ℕ) {count position : ℕ} (hle : count ≤ position)
    (entries : List (LedgerEntry κ α)) :
    retire (publishFront message count) position entries = entries := by
  induction entries generalizing position with
  | nil => rfl
  | cons entry rest ih =>
      by_cases hfate : entry.fate = .pending
      · rw [retire_cons_pending _ _ hfate, ih (by omega)]
        simp [publishFront, Nat.not_lt.mpr hle, ← hfate]
      · rw [retire_cons_settled _ _ hfate, ih hle]

theorem PublishedFirst.publishFront
    {entries : List (LedgerEntry κ α)} (hfirst : PublishedFirst entries)
    (message count position : ℕ) :
    PublishedFirst
      (retire (OpcuaStack.publishFront message count) position entries) := by
  induction entries generalizing position with
  | nil => exact List.Pairwise.nil
  | cons entry rest ih =>
      by_cases hlt : position < count
      · obtain ⟨hhead, hrest⟩ := List.pairwise_cons.mp hfirst
        by_cases hfate : entry.fate = .pending
        · rw [retire_cons_pending _ _ hfate]
          refine List.pairwise_cons.mpr ⟨?_, ih hrest _⟩
          intro later _ hpending
          simp [OpcuaStack.publishFront, hlt] at hpending
        · rw [retire_cons_settled _ _ hfate]
          refine List.pairwise_cons.mpr ⟨?_, ih hrest _⟩
          intro later _ hpending
          exact absurd hpending hfate
      · rw [retire_publishFront_of_le message (by omega)]
        exact hfirst

/-- Discarding and removing publish nothing, so they keep the order. -/
theorem PublishedFirst.retire
    {fateAt : ℕ → κ → Option (Fate κ)}
    (hfateAt : ∀ position key fate, fateAt position key = some fate →
      fate.isPublished = false)
    {entries : List (LedgerEntry κ α)} (hfirst : PublishedFirst entries)
    (position : ℕ) :
    PublishedFirst (OpcuaStack.retire fateAt position entries) := by
  induction entries generalizing position with
  | nil => exact List.Pairwise.nil
  | cons entry rest ih =>
      obtain ⟨hhead, hrest⟩ := List.pairwise_cons.mp hfirst
      by_cases hfate : entry.fate = .pending
      · rw [retire_cons_pending _ _ hfate]
        refine List.pairwise_cons.mpr ⟨?_, ih hrest _⟩
        intro later hmem _
        rcases mem_retire fateAt hmem with hold | ⟨old, _, place, fate, _,
          hgiven, rfl⟩
        · exact hhead later hold hfate
        · exact hfateAt _ old.key fate hgiven
      · rw [retire_cons_settled _ _ hfate]
        refine List.pairwise_cons.mpr ⟨?_, ih hrest _⟩
        intro later _ hpending
        exact absurd hpending hfate

theorem publishedOf_retire
    {fateAt : ℕ → κ → Option (Fate κ)}
    (hfateAt : ∀ position key fate, fateAt position key = some fate →
      fate.isPublished = false)
    (position : ℕ) (entries : List (LedgerEntry κ α)) :
    publishedOf (retire fateAt position entries) = publishedOf entries := by
  induction entries generalizing position with
  | nil => rfl
  | cons entry rest ih =>
      by_cases hfate : entry.fate = .pending
      · rw [retire_cons_pending _ _ hfate, publishedOf_cons, ih,
          publishedOf_cons _ rest]
        cases hgiven : fateAt position entry.key with
        | none => simp [hfate]
        | some fate =>
            have hnone := hfateAt position entry.key fate hgiven
            have hpending : entry.fate.isPublished = false := by
              rw [hfate]
              rfl
            rw [Option.getD_some, hnone, hpending]
      · rw [retire_cons_settled _ _ hfate, publishedOf_cons, ih,
          ← publishedOf_cons]

/-! ## Accounting -/

/-- The ledger accounts for a queue and for the messages taken from it. -/
structure Ledger.Accounts (ledger : Ledger κ α)
    (queue : List (κ × α)) (messages : List (List α)) : Prop where
  pending : pendingOf ledger.entries = queue
  messageCount : ledger.messageCount = messages.length
  published : ∀ message,
    publishedIn message ledger.entries = messages.getD message []
  inOrder : publishedOf ledger.entries = messages.flatten
  publishedFirst : PublishedFirst ledger.entries
  discarded : ∀ entry ∈ ledger.entries, ∀ owner,
    entry.fate = .discarded owner → owner = entry.key
  removed : ∀ entry ∈ ledger.entries, ∀ named,
    entry.fate = .removed named → entry.key ∈ named

namespace Ledger.Accounts

variable {ledger : Ledger κ α} {queue : List (κ × α)}
  {messages : List (List α)}

theorem empty : Ledger.Accounts ({} : Ledger κ α) [] [] := by
  constructor <;>
    simp [pendingOf, publishedIn, publishedOf, PublishedFirst]

/-- A change which only retires pending entries, publishing none of them,
accounts for what is left of the queue if every fate it gives is in order. -/
theorem retireUnpublished (h : ledger.Accounts queue messages)
    {fateAt : ℕ → κ → Option (Fate κ)}
    (hsettled : ∀ position key, fateAt position key ≠ some .pending)
    (hunpublished : ∀ position key fate, fateAt position key = some fate →
      fate.isPublished = false)
    (hdiscarded : ∀ place key value owner,
      queue[place]? = some (key, value) →
        fateAt place key = some (.discarded owner) → owner = key)
    (hremoved : ∀ place key named,
      fateAt place key = some (.removed named) → key ∈ named) :
    ({ ledger with entries := retire fateAt 0 ledger.entries } :
      Ledger κ α).Accounts (unretired fateAt 0 queue) messages := by
  constructor
  · rw [pendingOf_retire fateAt hsettled, h.pending]
  · exact h.messageCount
  · intro message
    rw [publishedIn_retire fateAt, h.published]
    intro position key hgiven
    simpa [Fate.isPublished] using hunpublished position key _ hgiven
  · rw [publishedOf_retire hunpublished, h.inOrder]
  · exact h.publishedFirst.retire hunpublished 0
  · intro entry hmem owner hfate
    rcases mem_retire fateAt hmem with hold | ⟨old, _, place, fate, hplace,
      hgiven, rfl⟩
    · exact h.discarded entry hold owner hfate
    · rw [h.pending] at hplace
      simp only [Nat.zero_add] at hgiven hfate
      subst hfate
      exact hdiscarded place old.key old.value owner hplace hgiven
  · intro entry hmem named hfate
    rcases mem_retire fateAt hmem with hold | ⟨old, _, place, fate, _,
      hgiven, rfl⟩
    · exact h.removed entry hold named hfate
    · simp only [Nat.zero_add] at hgiven hfate
      subst hfate
      exact hremoved place old.key named hgiven

variable [DecidableEq κ]

theorem push (h : ledger.Accounts queue messages) (key : κ) (value : α) :
    (ledger.apply (.push key value)).Accounts (queue ++ [(key, value)])
      messages := by
  constructor
  · simp [Ledger.apply, pendingOf, h.pending]
  · exact h.messageCount
  · intro message
    simp [Ledger.apply, publishedIn, h.published]
  · simp [Ledger.apply, publishedOf, Fate.isPublished, ← h.inOrder]
  · refine List.pairwise_append.mpr ⟨h.publishedFirst, by simp, ?_⟩
    intro earlier _ later hlater _
    simp only [List.mem_singleton] at hlater
    simp [hlater, Fate.isPublished]
  · intro entry hmem owner hfate
    rcases List.mem_append.mp hmem with hold | hnew
    · exact h.discarded entry hold owner hfate
    · simp only [List.mem_singleton] at hnew
      simp [hnew] at hfate
  · intro entry hmem named hfate
    rcases List.mem_append.mp hmem with hold | hnew
    · exact h.removed entry hold named hfate
    · simp only [List.mem_singleton] at hnew
      simp [hnew] at hfate

theorem discard (h : ledger.Accounts queue messages) (owner : κ) (index : ℕ)
    (howner : ∀ element, queue[index]? = some element → element.1 = owner) :
    (ledger.apply (.discard owner index)).Accounts (queue.eraseIdx index)
      messages := by
  have hqueue : queue.eraseIdx index =
      unretired (discardAt owner index) 0 queue := by
    rw [unretired_discardAt owner index 0 queue (Nat.zero_le _), Nat.sub_zero]
  rw [hqueue]
  apply h.retireUnpublished
  · intro position key
    simp only [discardAt]
    split <;> simp
  · intro position key fate hgiven
    simp only [discardAt] at hgiven
    split at hgiven <;> simp at hgiven
    simp [← hgiven, Fate.isPublished]
  · intro place key value other hplace hgiven
    simp only [discardAt] at hgiven
    split at hgiven
    next heq =>
      simp only [Option.some.injEq, Fate.discarded.injEq] at hgiven
      rw [← hgiven]
      exact (howner _ (heq ▸ hplace)).symm
    next => simp at hgiven
  · intro place key named hgiven
    simp only [discardAt] at hgiven
    split at hgiven <;> simp at hgiven

theorem remove (h : ledger.Accounts queue messages) (named : List κ) :
    (ledger.apply (.remove named)).Accounts
      (queue.filter fun element => !decide (element.1 ∈ named)) messages := by
  rw [← unretired_removeNamed named 0 queue]
  apply h.retireUnpublished
  · intro position key
    simp only [removeNamed]
    split <;> simp
  · intro position key fate hgiven
    simp only [removeNamed] at hgiven
    split at hgiven <;> simp at hgiven
    simp [← hgiven, Fate.isPublished]
  · intro place key value owner _ hgiven
    simp only [removeNamed] at hgiven
    split at hgiven <;> simp at hgiven
  · intro place key other hgiven
    simp only [removeNamed] at hgiven
    split at hgiven
    next hmem =>
      simp only [Option.some.injEq, Fate.removed.injEq] at hgiven
      exact hgiven ▸ hmem
    next => simp at hgiven

theorem publish (h : ledger.Accounts queue messages) (count : ℕ) :
    (ledger.apply (.publish count)).Accounts (queue.drop count)
      (messages ++ [(queue.take count).map Prod.snd]) := by
  have hfresh : publishedIn ledger.messageCount ledger.entries = [] := by
    rw [h.published, h.messageCount]
    simp
  constructor
  · rw [Ledger.apply, pendingOf_retire, unretired_publishFront, h.pending,
      Nat.sub_zero]
    intro position key
    simp only [publishFront]
    split <;> simp
  · simp [Ledger.apply, h.messageCount]
  · intro message
    by_cases hmessage : message = ledger.messageCount
    · subst message
      rw [Ledger.apply, publishedIn_publishFront count 0 hfresh, h.pending,
        h.messageCount]
      simp
    · rw [Ledger.apply, publishedIn_retire, h.published]
      · rw [h.messageCount] at hmessage
        simp only [List.getD_eq_getElem?_getD]
        by_cases hlt : message < messages.length
        · rw [List.getElem?_append_left hlt]
        · have hgt : messages.length < message := by omega
          rw [List.getElem?_eq_none (by omega),
            List.getElem?_eq_none (by simp; omega)]
      · intro position key
        simp only [publishFront]
        split
        · simp [Ne.symm hmessage]
        · simp
  · rw [Ledger.apply, publishedOf_publishFront _ _ _ h.publishedFirst,
      h.inOrder, h.pending, Nat.sub_zero]
    simp
  · exact h.publishedFirst.publishFront _ _ _
  · intro entry hmem owner hfate
    rcases mem_retire _ hmem with hold | ⟨old, _, place, fate, _, hgiven, rfl⟩
    · exact h.discarded entry hold owner hfate
    · simp only [publishFront] at hgiven
      split at hgiven <;> simp_all
  · intro entry hmem named hfate
    rcases mem_retire _ hmem with hold | ⟨old, _, place, fate, _, hgiven, rfl⟩
    · exact h.removed entry hold named hfate
    · simp only [publishFront] at hgiven
      split at hgiven <;> simp_all

omit [DecidableEq κ] in
theorem message_lt (h : ledger.Accounts queue messages)
    {entry : LedgerEntry κ α} (hmem : entry ∈ ledger.entries) {message : ℕ}
    (hfate : entry.fate = .published message) : message < messages.length := by
  have hpublished := mem_publishedIn hmem hfate
  rw [h.published] at hpublished
  by_contra hge
  rw [List.getD_eq_getElem?_getD, List.getElem?_eq_none (by omega)]
    at hpublished
  simp at hpublished

end Ledger.Accounts

theorem Ledger.removed_mem_history [DecidableEq κ]
    {history : List (QueueEffect κ α)} {entry : LedgerEntry κ α}
    (hmem : entry ∈ (replay history).entries) {named : List κ}
    (hfate : entry.fate = .removed named) : .remove named ∈ history := by
  induction history using List.reverseRecOn generalizing entry with
  | nil => simp [replay] at hmem
  | append_singleton rest effect ih =>
      rw [replay_append_singleton] at hmem
      rw [List.mem_append, List.mem_singleton]
      cases effect with
      | push key value =>
          rcases List.mem_append.mp hmem with hold | hnew
          · exact .inl (ih hold hfate)
          · simp only [List.mem_singleton] at hnew
            simp [hnew] at hfate
      | discard owner index =>
          rcases mem_retire _ hmem with hold | ⟨old, _, place, fate, _, hgiven,
            rfl⟩
          · exact .inl (ih hold hfate)
          · simp only [discardAt] at hgiven
            split at hgiven <;> simp_all
      | remove others =>
          rcases mem_retire _ hmem with hold | ⟨old, _, place, fate, _, hgiven,
            rfl⟩
          · exact .inl (ih hold hfate)
          · simp only [removeNamed] at hgiven
            split at hgiven <;> simp_all
      | publish count =>
          rcases mem_retire _ hmem with hold | ⟨old, _, place, fate, _, hgiven,
            rfl⟩
          · exact .inl (ih hold hfate)
          · simp only [publishFront] at hgiven
            split at hgiven <;> simp_all

theorem Ledger.apply_keyValue [DecidableEq κ]
    (ledger : Ledger κ α) (effect : QueueEffect κ α) :
    (ledger.apply effect).entries.map (fun entry => (entry.key, entry.value)) =
      ledger.entries.map (fun entry => (entry.key, entry.value)) ++
        pushesOf [effect] := by
  cases effect <;> simp [Ledger.apply, pushesOf, retire_keyValue]

/-- The ledger has one entry for each push, in the order of the pushes. -/
theorem Ledger.replay_keyValue [DecidableEq κ]
    (history : List (QueueEffect κ α)) :
    (replay history).entries.map (fun entry => (entry.key, entry.value)) =
      pushesOf history := by
  induction history using List.reverseRecOn with
  | nil => rfl
  | append_singleton rest effect ih =>
      rw [replay_append_singleton, apply_keyValue, ih, pushesOf_append]

theorem Ledger.publishedOf_sublist (ledger : Ledger κ α) :
    (publishedOf ledger.entries).Sublist
      (ledger.entries.map fun entry => entry.value) :=
  List.Sublist.map _ List.filter_sublist

end OpcuaStack
