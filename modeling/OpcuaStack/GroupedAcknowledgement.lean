import OpcuaStack.KeyedSteps
import OpcuaStack.ServerSession

/-!
# Acknowledging in groups

`AcknowledgePublishRequest` as it is written: the acknowledgements are grouped
by subscription in a hash map, every group is handed to its subscription at
once, and the results are put back where the acknowledgements stood in the
request.  The order in which the map yields its groups is arbitrary.
-/

namespace OpcuaStack

/-- An acknowledgement and its place in the request. -/
abbrev PlacedAcknowledgement := SubscriptionAcknowledgement × ℕ

def PlacedAcknowledgement.subscriptionId (placed : PlacedAcknowledgement) :
    SubscriptionId := placed.1.subscriptionId

abbrev AcknowledgementGroups :=
  KeyedMap SubscriptionId (List PlacedAcknowledgement)

namespace ServerSession

/-- A round of the first loop of `AcknowledgePublishRequest`. -/
def groupAcknowledgement (session : ServerSession)
    (state : List StatusCode × AcknowledgementGroups)
    (placed : PlacedAcknowledgement) :
    List StatusCode × AcknowledgementGroups :=
  if session.hasSubscription placed.subscriptionId then
    (state.1, pushGroup PlacedAcknowledgement.subscriptionId state.2 placed)
  else
    (state.1.set placed.2 .badSubscriptionIdInvalid, state.2)

def groupAcknowledgements (session : ServerSession) (request : PublishRequest) :
    List StatusCode × AcknowledgementGroups :=
  request.subscriptionAcknowledgements.zipIdx.foldl
    session.groupAcknowledgement
    (List.replicate request.subscriptionAcknowledgements.length .good, ∅)

/-- `ack_results[group[i].first] = results[i]`, for each `i`. -/
def scatterResults (ackResults : List StatusCode)
    (group : List PlacedAcknowledgement) (results : List StatusCode) :
    List StatusCode :=
  (group.zip results).foldl
    (fun ackResults answered => ackResults.set answered.1.2 answered.2)
    ackResults

/-- A round of the second loop of `AcknowledgePublishRequest`. -/
def acknowledgeGroup (state : ServerSession × List StatusCode)
    (entry : Sigma fun _ : SubscriptionId => List PlacedAcknowledgement) :
    ServerSession × List StatusCode :=
  match state.1.subscriptions.lookup entry.1 with
  | none => state
  | some subscription =>
      let (subscription, results) :=
        subscription.acknowledge (entry.2.map (·.1.sequenceNumber))
      (state.1.writeSubscription entry.1 subscription,
        scatterResults state.2 entry.2 results)

/-- `AcknowledgePublishRequest`, where the map of the groups yields them in the
given order. -/
def acknowledgeInGroups (session : ServerSession) (request : PublishRequest)
    (order : List (Sigma fun _ : SubscriptionId => List PlacedAcknowledgement)) :
    ServerSession × List StatusCode :=
  order.foldl acknowledgeGroup
    (session, (session.groupAcknowledgements request).1)

/-- Two sessions with the same subscriptions, whatever order their maps have,
and everything else equal. -/
structure SameContents (first second : ServerSession) : Prop where
  subscriptions : ∀ id,
    first.subscriptions.lookup id = second.subscriptions.lookup id
  others : { first with subscriptions := ∅ } = { second with subscriptions := ∅ }

/-! ## One acknowledgement on what can be looked up -/

/-- The subscriptions which can be found, and the results so far. -/
abbrev AcknowledgementView :=
  (SubscriptionId → Option ServerSubscription) × List StatusCode

def viewOf (state : ServerSession × List StatusCode) : AcknowledgementView :=
  (state.1.subscriptions.lookup, state.2)

def acknowledgeFound (found : Option ServerSubscription)
    (sequenceNumber : UInt32) : Option ServerSubscription × StatusCode :=
  match found with
  | none => (none, .badSubscriptionIdInvalid)
  | some subscription =>
      (some (subscription.acknowledgeOne sequenceNumber).1,
        (subscription.acknowledgeOne sequenceNumber).2)

/-- One acknowledgement, with its result put in its place. -/
def acknowledgePlaced (view : AcknowledgementView)
    (placed : PlacedAcknowledgement) : AcknowledgementView :=
  let answered := acknowledgeFound (view.1 placed.subscriptionId)
    placed.1.sequenceNumber
  (Function.update view.1 placed.subscriptionId answered.1,
    view.2.set placed.2 answered.2)

theorem acknowledgePlaced_missing {view : AcknowledgementView}
    {placed : PlacedAcknowledgement} (h : view.1 placed.subscriptionId = none) :
    acknowledgePlaced view placed =
      (view.1, view.2.set placed.2 .badSubscriptionIdInvalid) := by
  have hsame : Function.update view.1 placed.subscriptionId none = view.1 := by
    rw [← h]
    exact Function.update_eq_self _ _
  simp only [acknowledgePlaced, h, acknowledgeFound, hsame]

theorem acknowledgePlaced_found {view : AcknowledgementView}
    {placed : PlacedAcknowledgement} {subscription : ServerSubscription}
    (h : view.1 placed.subscriptionId = some subscription) :
    acknowledgePlaced view placed =
      (Function.update view.1 placed.subscriptionId
          (some (subscription.acknowledgeOne placed.1.sequenceNumber).1),
        view.2.set placed.2
          (subscription.acknowledgeOne placed.1.sequenceNumber).2) := by
  simp only [acknowledgePlaced, h, acknowledgeFound]

theorem acknowledgePlaced_comm {first second : PlacedAcknowledgement}
    (hid : first.subscriptionId ≠ second.subscriptionId)
    (hplace : first.2 ≠ second.2) (view : AcknowledgementView) :
    acknowledgePlaced (acknowledgePlaced view first) second =
      acknowledgePlaced (acknowledgePlaced view second) first := by
  unfold acknowledgePlaced
  dsimp only
  rw [Function.update_of_ne hid, Function.update_of_ne hid.symm,
    Function.update_comm hid, List.set_comm _ _ hplace]

theorem eq_of_mem_zipIdx {α : Type} {elements : List α} {first second : α × ℕ}
    (hfirst : first ∈ elements.zipIdx) (hsecond : second ∈ elements.zipIdx)
    (h : first.2 = second.2) : first = second := by
  have hget := List.mem_zipIdx_iff_getElem?.mp hfirst
  have hget' := List.mem_zipIdx_iff_getElem?.mp hsecond
  rw [h, hget'] at hget
  exact Prod.ext (Option.some.inj hget).symm h

theorem acknowledgePlaced_commuteIn
    (acknowledgements : List SubscriptionAcknowledgement) :
    CommuteIn acknowledgePlaced PlacedAcknowledgement.subscriptionId
      acknowledgements.zipIdx := by
  intro first hfirst second hsecond hid view
  refine acknowledgePlaced_comm hid (fun hplace => hid ?_) view
  rw [eq_of_mem_zipIdx hfirst hsecond hplace]

/-! ## One after the other -/

/-- What `AcknowledgePublishRequest` does with one acknowledgement. -/
def acknowledgeNext (session : ServerSession)
    (acknowledgement : SubscriptionAcknowledgement) :
    ServerSession × StatusCode :=
  session.onSubscription acknowledgement.subscriptionId
    StatusCode.badSubscriptionIdInvalid
    (·.acknowledgeOne acknowledgement.sequenceNumber)

theorem acknowledgePublishRequest_eq_loop (session : ServerSession)
    (request : PublishRequest) :
    session.acknowledgePublishRequest request =
      collectResults acknowledgeNext session
        request.subscriptionAcknowledgements := rfl

theorem lookup_writeSubscription (session : ServerSession) (id : SubscriptionId)
    (subscription : ServerSubscription) :
    (session.writeSubscription id subscription).subscriptions.lookup =
      Function.update session.subscriptions.lookup id (some subscription) := by
  funext other
  rw [writeSubscription, KeyedMap.lookup_insert_eq]
  by_cases heq : other = id
  · subst heq
    rw [if_pos rfl, Function.update_self]
  · rw [if_neg heq, Function.update_of_ne heq]

theorem viewOf_acknowledgeNext (session : ServerSession)
    (acknowledgement : SubscriptionAcknowledgement)
    (results : List StatusCode) (place : ℕ) :
    viewOf ((session.acknowledgeNext acknowledgement).1,
        results.set place (session.acknowledgeNext acknowledgement).2) =
      acknowledgePlaced (viewOf (session, results)) (acknowledgement, place) := by
  unfold acknowledgeNext onSubscription
  cases hlookup :
      session.subscriptions.lookup acknowledgement.subscriptionId with
  | none =>
      have hmissing : (viewOf (session, results)).1
          (PlacedAcknowledgement.subscriptionId (acknowledgement, place)) =
            none := hlookup
      rw [acknowledgePlaced_missing hmissing]
      rfl
  | some subscription =>
      have hfound : (viewOf (session, results)).1
          (PlacedAcknowledgement.subscriptionId (acknowledgement, place)) =
            some subscription := hlookup
      rw [acknowledgePlaced_found hfound]
      dsimp only [viewOf]
      rw [lookup_writeSubscription]
      rfl

/-- By induction on the acknowledgements: the results of those before stand in
front of the defaults of those to come. -/
theorem viewOf_collectResults (session : ServerSession)
    (acknowledgements : List SubscriptionAcknowledgement)
    (before : List StatusCode) :
    viewOf ((collectResults acknowledgeNext session acknowledgements).1,
        before ++ (collectResults acknowledgeNext session acknowledgements).2) =
      (acknowledgements.zipIdx before.length).foldl acknowledgePlaced
        (viewOf (session,
          before ++ List.replicate acknowledgements.length .good)) := by
  induction acknowledgements generalizing session before with
  | nil => rfl
  | cons acknowledgement rest ih =>
      have hset : (before ++ List.replicate (rest.length + 1) StatusCode.good).set
          before.length (session.acknowledgeNext acknowledgement).2 =
            (before ++ [(session.acknowledgeNext acknowledgement).2]) ++
              List.replicate rest.length .good := by
        rw [List.replicate_succ, List.set_append_right _ _ le_rfl,
          Nat.sub_self, List.set_cons_zero, List.append_assoc,
          List.singleton_append]
      have hrest := ih (session.acknowledgeNext acknowledgement).1
        (before ++ [(session.acknowledgeNext acknowledgement).2])
      rw [List.length_append, List.length_singleton, ← hset,
        viewOf_acknowledgeNext, List.append_assoc, List.singleton_append]
        at hrest
      rw [List.zipIdx_cons, List.foldl_cons, List.length_cons]
      exact hrest

theorem viewOf_acknowledgePublishRequest (session : ServerSession)
    (request : PublishRequest) :
    viewOf (session.acknowledgePublishRequest request) =
      request.subscriptionAcknowledgements.zipIdx.foldl acknowledgePlaced
        (viewOf (session, List.replicate
          request.subscriptionAcknowledgements.length .good)) :=
  viewOf_collectResults session request.subscriptionAcknowledgements []

/-! ## The first loop -/

/-- By induction on the acknowledgements: those of missing subscriptions are
answered, and the others are grouped. -/
theorem foldl_groupAcknowledgement (session : ServerSession)
    (steps : List PlacedAcknowledgement) (results : List StatusCode)
    (groups : AcknowledgementGroups) :
    let missing := steps.filter fun placed =>
      !session.hasSubscription placed.subscriptionId
    let present := steps.filter fun placed =>
      session.hasSubscription placed.subscriptionId
    viewOf (session,
        (steps.foldl session.groupAcknowledgement (results, groups)).1) =
      missing.foldl acknowledgePlaced (viewOf (session, results)) ∧
    (steps.foldl session.groupAcknowledgement (results, groups)).2 =
      present.foldl (pushGroup PlacedAcknowledgement.subscriptionId) groups := by
  induction steps generalizing results groups with
  | nil => exact ⟨rfl, rfl⟩
  | cons placed steps ih =>
      by_cases hheld : session.hasSubscription placed.subscriptionId = true
      · have hrest := ih results
          (pushGroup PlacedAcknowledgement.subscriptionId groups placed)
        simp only [List.filter_cons, hheld, Bool.not_true, Bool.false_eq_true,
          if_false, if_true, List.foldl_cons, groupAcknowledgement] at hrest ⊢
        exact hrest
      · have hrest := ih (results.set placed.2 .badSubscriptionIdInvalid) groups
        have hlookup : (viewOf (session, results)).1 placed.subscriptionId =
            none := by
          change session.subscriptions.lookup placed.subscriptionId = none
          simpa [hasSubscription] using hheld
        simp only [List.filter_cons, hheld, Bool.not_false, Bool.false_eq_true,
          if_false, if_true, List.foldl_cons, groupAcknowledgement] at hrest ⊢
        rw [acknowledgePlaced_missing hlookup]
        exact hrest

/-! ## The second loop -/

/-- By induction on the group, whose subscription is written back once. -/
theorem foldl_acknowledgePlaced_group (id : SubscriptionId)
    (group : List PlacedAcknowledgement)
    (hgroup : ∀ placed ∈ group, placed.subscriptionId = id)
    (subscription : ServerSubscription) (view : AcknowledgementView)
    (hfound : view.1 id = some subscription) :
    group.foldl acknowledgePlaced view =
      (Function.update view.1 id (some (subscription.acknowledge
          (group.map (·.1.sequenceNumber))).1),
        scatterResults view.2 group (subscription.acknowledge
          (group.map (·.1.sequenceNumber))).2) := by
  induction group generalizing subscription view with
  | nil =>
      have hsame : Function.update view.1 id (some subscription) = view.1 := by
        rw [← hfound]
        exact Function.update_eq_self id view.1
      exact Prod.ext hsame.symm rfl
  | cons placed group ih =>
      have hid := hgroup placed List.mem_cons_self
      have hplaced : view.1 placed.subscriptionId = some subscription := by
        rw [hid]
        exact hfound
      rw [List.foldl_cons, acknowledgePlaced_found hplaced, hid]
      rw [ih (fun other hmem => hgroup other (List.mem_cons_of_mem _ hmem)) _ _
        (Function.update_self ..)]
      rw [Function.update_idem]
      rfl

theorem viewOf_acknowledgeGroup {state : ServerSession × List StatusCode}
    {entry : Sigma fun _ : SubscriptionId => List PlacedAcknowledgement}
    (hgroup : ∀ placed ∈ entry.2, placed.subscriptionId = entry.1)
    (hheld : state.1.hasSubscription entry.1 = true) :
    viewOf (acknowledgeGroup state entry) =
      entry.2.foldl acknowledgePlaced (viewOf state) := by
  obtain ⟨subscription, hlookup⟩ := Option.isSome_iff_exists.mp hheld
  rw [foldl_acknowledgePlaced_group entry.1 entry.2 hgroup subscription _
    hlookup]
  unfold acknowledgeGroup
  rw [hlookup]
  dsimp only [viewOf]
  rw [lookup_writeSubscription]

theorem acknowledgeGroup_hasSubscription
    (state : ServerSession × List StatusCode)
    (entry : Sigma fun _ : SubscriptionId => List PlacedAcknowledgement)
    (id : SubscriptionId) :
    (acknowledgeGroup state entry).1.hasSubscription id =
      state.1.hasSubscription id := by
  unfold acknowledgeGroup
  cases hlookup : state.1.subscriptions.lookup entry.1 with
  | none => rfl
  | some subscription =>
      simp only [hasSubscription, writeSubscription, KeyedMap.lookup_insert_eq]
      split
      next heq =>
        subst heq
        rw [hlookup]
        rfl
      next => rfl

/-- By induction on the groups, all of them of subscriptions which are there. -/
theorem viewOf_foldl_acknowledgeGroup
    (order : List (Sigma fun _ : SubscriptionId => List PlacedAcknowledgement))
    (state : ServerSession × List StatusCode)
    (hgroup : ∀ entry ∈ order, ∀ placed ∈ entry.2,
      placed.subscriptionId = entry.1)
    (hheld : ∀ entry ∈ order, state.1.hasSubscription entry.1 = true) :
    viewOf (order.foldl acknowledgeGroup state) =
      (order.flatMap Sigma.snd).foldl acknowledgePlaced (viewOf state) := by
  induction order generalizing state with
  | nil => rfl
  | cons entry order ih =>
      have hentry := viewOf_acknowledgeGroup
        (hgroup entry List.mem_cons_self) (hheld entry List.mem_cons_self)
      rw [List.flatMap_cons, List.foldl_append, ← hentry]
      refine ih (acknowledgeGroup state entry)
        (fun other hmem => hgroup other (List.mem_cons_of_mem _ hmem)) ?_
      intro other hmem
      rw [acknowledgeGroup_hasSubscription]
      exact hheld other (List.mem_cons_of_mem _ hmem)

/-! ## Everything but the subscriptions -/

theorem acknowledgeNext_others (session : ServerSession)
    (acknowledgement : SubscriptionAcknowledgement) :
    { (session.acknowledgeNext acknowledgement).1 with subscriptions := ∅ } =
      { session with subscriptions := ∅ } := by
  unfold acknowledgeNext onSubscription
  cases session.subscriptions.lookup acknowledgement.subscriptionId <;> rfl

theorem acknowledgeGroup_others (state : ServerSession × List StatusCode)
    (entry : Sigma fun _ : SubscriptionId => List PlacedAcknowledgement) :
    { (acknowledgeGroup state entry).1 with subscriptions := ∅ } =
      { state.1 with subscriptions := ∅ } := by
  unfold acknowledgeGroup
  cases state.1.subscriptions.lookup entry.1 <;> rfl

theorem foldl_acknowledgeGroup_others
    (order : List (Sigma fun _ : SubscriptionId => List PlacedAcknowledgement))
    (state : ServerSession × List StatusCode) :
    { (order.foldl acknowledgeGroup state).1 with subscriptions := ∅ } =
      { state.1 with subscriptions := ∅ } := by
  induction order generalizing state with
  | nil => rfl
  | cons entry order ih =>
      rw [List.foldl_cons, ih, acknowledgeGroup_others]

theorem acknowledgeInGroups_others (session : ServerSession)
    (request : PublishRequest)
    (order : List (Sigma fun _ : SubscriptionId => List PlacedAcknowledgement)) :
    { (session.acknowledgeInGroups request order).1 with subscriptions := ∅ } =
      { (session.acknowledgePublishRequest request).1 with
        subscriptions := ∅ } := by
  have hround : ∀ (current : ServerSession)
      (acknowledgement : SubscriptionAcknowledgement),
      { current with subscriptions := ∅ } = { session with subscriptions := ∅ } →
        { (current.acknowledgeNext acknowledgement).1 with subscriptions := ∅ } =
          { session with subscriptions := ∅ } :=
    fun current acknowledgement hcurrent =>
      (current.acknowledgeNext_others acknowledgement).trans hcurrent
  have hone := collectResults_invariant hround rfl
    request.subscriptionAcknowledgements
  rw [acknowledgePublishRequest_eq_loop, hone]
  exact foldl_acknowledgeGroup_others order _

/-! ## The two ways agree -/

theorem stepsOf_filter_placed (session : ServerSession)
    (request : PublishRequest) (id : SubscriptionId) :
    stepsOf PlacedAcknowledgement.subscriptionId id
        (request.subscriptionAcknowledgements.zipIdx.filter
          fun placed : PlacedAcknowledgement =>
          session.hasSubscription placed.subscriptionId) =
      if session.hasSubscription id then
        stepsOf PlacedAcknowledgement.subscriptionId id
          request.subscriptionAcknowledgements.zipIdx
      else [] := stepsOf_filter

theorem stepsOf_filter_missing (session : ServerSession)
    (request : PublishRequest) (id : SubscriptionId) :
    stepsOf PlacedAcknowledgement.subscriptionId id
        (request.subscriptionAcknowledgements.zipIdx.filter
          fun placed : PlacedAcknowledgement =>
          !session.hasSubscription placed.subscriptionId) =
      if !session.hasSubscription id then
        stepsOf PlacedAcknowledgement.subscriptionId id
          request.subscriptionAcknowledgements.zipIdx
      else [] := by
  have h := @stepsOf_filter _ _ _ PlacedAcknowledgement.subscriptionId id
    (fun other => !session.hasSubscription other)
    request.subscriptionAcknowledgements.zipIdx
  exact h

/-- What the loops do, as one list of acknowledgements: first those of missing
subscriptions, then the groups. -/
theorem viewOf_acknowledgeInGroups {session : ServerSession}
    {request : PublishRequest}
    {order : List (Sigma fun _ : SubscriptionId => List PlacedAcknowledgement)}
    (horder : order.Perm (session.groupAcknowledgements request).2.entries) :
    viewOf (session.acknowledgeInGroups request order) =
      (request.subscriptionAcknowledgements.zipIdx.filter
          (fun placed : PlacedAcknowledgement =>
          !session.hasSubscription placed.subscriptionId) ++
        order.flatMap Sigma.snd).foldl acknowledgePlaced
          (viewOf (session, List.replicate
            request.subscriptionAcknowledgements.length .good)) := by
  have hloop := foldl_groupAcknowledgement session
    request.subscriptionAcknowledgements.zipIdx
    (List.replicate request.subscriptionAcknowledgements.length .good) ∅
  have hfound : ∀ entry ∈ order, (groupSteps
      PlacedAcknowledgement.subscriptionId
        (request.subscriptionAcknowledgements.zipIdx.filter
          fun placed : PlacedAcknowledgement =>
          session.hasSubscription placed.subscriptionId)).lookup entry.1 =
      some entry.2 := by
    intro entry hmem
    rw [groupSteps, ← hloop.2]
    exact KeyedMap.mem_entries_iff.mp (horder.mem_iff.mp hmem)
  have hkeys : ∀ entry ∈ order, ∀ placed ∈ entry.2,
      placed.subscriptionId = entry.1 := by
    intro entry hmem placed hplaced
    rw [lookup_groupSteps (hfound entry hmem)] at hplaced
    exact key_of_mem_stepsOf hplaced
  have hheld : ∀ entry ∈ order, session.hasSubscription entry.1 = true := by
    intro entry hmem
    by_contra hmissing
    refine lookup_groupSteps_ne_nil (hfound entry hmem) ?_
    have hpresent := stepsOf_filter_placed session request entry.1
    rw [if_neg hmissing] at hpresent
    rw [lookup_groupSteps (hfound entry hmem), hpresent]
  rw [acknowledgeInGroups,
    viewOf_foldl_acknowledgeGroup order _ hkeys hheld, List.foldl_append,
    ← hloop.1]
  rfl

/-- Whatever order the map of the groups has, acknowledging in groups gives the
results and the session which acknowledging one by one gives. -/
theorem acknowledgeInGroups_eq_one_by_one (session : ServerSession)
    (request : PublishRequest)
    {order : List (Sigma fun _ : SubscriptionId => List PlacedAcknowledgement)}
    (horder : order.Perm (session.groupAcknowledgements request).2.entries) :
    SameContents (session.acknowledgeInGroups request order).1
        (session.acknowledgePublishRequest request).1 ∧
      (session.acknowledgeInGroups request order).2 =
        (session.acknowledgePublishRequest request).2 := by
  have hsame : ∀ id,
      stepsOf PlacedAcknowledgement.subscriptionId id
          request.subscriptionAcknowledgements.zipIdx =
        stepsOf PlacedAcknowledgement.subscriptionId id
          (request.subscriptionAcknowledgements.zipIdx.filter
          (fun placed : PlacedAcknowledgement =>
            !session.hasSubscription placed.subscriptionId) ++
          order.flatMap Sigma.snd) := by
    intro id
    have hgroups : stepsOf PlacedAcknowledgement.subscriptionId id
        (order.flatMap Sigma.snd) =
          stepsOf PlacedAcknowledgement.subscriptionId id
            (request.subscriptionAcknowledgements.zipIdx.filter
          fun placed : PlacedAcknowledgement =>
              session.hasSubscription placed.subscriptionId) := by
      refine stepsOf_groups ?_ id
      rw [groupSteps, ← (foldl_groupAcknowledgement session _ _ ∅).2]
      exact horder
    rw [stepsOf_append, hgroups, stepsOf_filter_placed, stepsOf_filter_missing]
    cases session.hasSubscription id <;> simp
  have hview : viewOf (session.acknowledgeInGroups request order) =
      viewOf (session.acknowledgePublishRequest request) := by
    rw [viewOf_acknowledgeInGroups horder, viewOf_acknowledgePublishRequest]
    exact (foldl_eq_of_stepsOf_eq
      (acknowledgePlaced_commuteIn request.subscriptionAcknowledgements)
      hsame _).symm
  refine ⟨⟨fun id => ?_, session.acknowledgeInGroups_others request order⟩, ?_⟩
  · exact congrFun (congrArg Prod.fst hview) id
  · exact congrArg (fun view : AcknowledgementView => view.2) hview

/-- A session with two subscriptions, the first of which has published. -/
def acknowledgingSession : ServerSession :=
  let session : ServerSession :=
    { address := 0, sessionId := {}, serviceContext := {}, operationLimits := {} }
  let session := (session.createSubscriptionWithId 1 { parameters := {} } [] {}).1
  let session := (session.createSubscriptionWithId 2 { parameters := {} } [] {}).1
  session.writeSubscription 1
    { ServerSubscription.create 1 {} {} [] with
      retransmitQueue := [{ sequenceNumber := 5 }] }

theorem reversed_groups_eq_one_by_one :
    let request : PublishRequest :=
      { subscriptionAcknowledgements :=
          [{ subscriptionId := 1, sequenceNumber := 5 },
            { subscriptionId := 7, sequenceNumber := 5 },
            { subscriptionId := 2, sequenceNumber := 5 },
            { subscriptionId := 1, sequenceNumber := 5 }] }
    let order :=
      (acknowledgingSession.groupAcknowledgements request).2.entries.reverse
    SameContents (acknowledgingSession.acknowledgeInGroups request order).1
        (acknowledgingSession.acknowledgePublishRequest request).1 ∧
      (acknowledgingSession.acknowledgeInGroups request order).2 =
        (acknowledgingSession.acknowledgePublishRequest request).2 :=
  acknowledgeInGroups_eq_one_by_one acknowledgingSession _
    (List.reverse_perm _)

end ServerSession
end OpcuaStack
