import OpcuaStack.ClientOperations

/-!
# Replies which abort the client

A `ServiceFault` whose status is not bad makes a `StatusOr` without a value from
a status which is not bad, and so does a history response without results whose
service result is not bad.  No other reply makes an operation panic.
-/

namespace OpcuaStack

open ClientDialogue ClientCall Dialogue

/-! ## Harmless replies -/

/-- A body which the operation that waits for the response turns into a value or
a bad status. -/
def AwaitedResponse.TakesBody (awaited : AwaitedResponse) :
    ClientResponseBody → Prop
  | .serviceFault status => status.isBad = true
  | .historyRead response =>
      awaited = .historyRead → response.results = [] →
        response.serviceResult.isBad = true
  | .historyUpdate response =>
      awaited = .historyUpdate → response.results = [] →
        response.serviceResult.isBad = true
  | _ => True

def HarmlessReply : (question : ClientQuestion) → question.Reply → Prop
  | .receive awaited, reply => ∀ body, reply = StatusOr.ok body →
      awaited.TakesBody body
  | _, _ => True

namespace ClientDialogue

variable {α β : Type}

@[simp] theorem fromStatus_of_bad {status : Status} (h : status.isBad = true) :
    (fromStatus status : ClientDialogue (StatusOr α)) =
      pure (.error status h) := dif_pos h

theorem fromStatus_of_not_bad {status : Status} (h : ¬status.isBad = true) :
    (fromStatus status : ClientDialogue (StatusOr α)) = .aborted := dif_neg h

theorem guardedBy_pure (value : α) :
    (pure value : ClientDialogue α).GuardedBy HarmlessReply := trivial

theorem guardedBy_fromStatus {status : Status} (h : status.isBad = true) :
    (fromStatus status : ClientDialogue (StatusOr α)).GuardedBy
      HarmlessReply := by
  rw [fromStatus_of_bad h]
  exact guardedBy_pure _

theorem guardedBy_fromBad :
    (fromBad : ClientDialogue (StatusOr α)).GuardedBy HarmlessReply :=
  guardedBy_fromStatus Status.isBad_ofCode_bad

theorem guardedBy_onValue {result : StatusOr α}
    {next : α → ClientDialogue (StatusOr β)}
    (h : ∀ value, (next value).GuardedBy HarmlessReply) :
    (onValue result next).GuardedBy HarmlessReply := by
  cases result with
  | ok value => exact h value
  | error status hbad => exact guardedBy_fromStatus hbad

theorem guardedBy_onValueStatus {result : StatusOr α}
    {next : α → ClientDialogue Status}
    (h : ∀ value, (next value).GuardedBy HarmlessReply) :
    (onValueStatus result next).GuardedBy HarmlessReply := by
  cases result with
  | ok value => exact h value
  | error status _ => exact guardedBy_pure status

theorem guardedBy_ask_bind {question : ClientQuestion}
    {next : question.Reply → ClientDialogue α}
    (hquestion : ∀ reply, HarmlessReply question reply)
    (h : ∀ reply, (next reply).GuardedBy HarmlessReply) :
    (ask question >>= next).GuardedBy HarmlessReply :=
  guardedBy_ask hquestion h

end ClientDialogue

/-! ## Calls -/

namespace ClientCall

variable {ρ α : Type}

theorem guardedBy_send : send.GuardedBy HarmlessReply := by
  have hsend : send.sendRequest.GuardedBy HarmlessReply := by
    refine guardedBy_ask_bind (fun _ => trivial) fun sendStatus => ?_
    split
    next hbad => exact guardedBy_fromStatus hbad
    next => exact guardedBy_pure _
  refine guardedBy_ask_bind (fun _ => trivial) fun renewStatus => ?_
  cases renewStatus with
  | none => exact hsend
  | some renewStatus =>
      dsimp only
      split
      next hbad => exact guardedBy_fromStatus hbad
      next => exact hsend

theorem exists_of_not_harmless {awaited : AwaitedResponse}
    {reply : StatusOr ClientResponseBody}
    (h : ¬HarmlessReply (.receive awaited) reply) :
    ∃ body, reply = .ok body ∧ ¬awaited.TakesBody body := by
  by_contra hnone
  exact h fun body heq => by_contra fun htakes => hnone ⟨body, heq, htakes⟩

/-- A call whose reply is taken up by what follows: guarded, if what follows is
guarded after harmless replies and aborts after the others. -/
theorem guardedBy_callTyped_bind {awaited : AwaitedResponse}
    {pick : ClientResponseBody → Option ρ}
    {f : StatusOr ρ → ClientDialogue α}
    (hmeets : ∀ reply, HarmlessReply (.receive awaited) reply →
      (narrowResponse pick reply >>= f).GuardedBy HarmlessReply)
    (hbreaks : ∀ body, ¬awaited.TakesBody body →
      narrowResponse pick (.ok body) >>= f = .aborted) :
    (callTyped awaited pick >>= f).GuardedBy HarmlessReply := by
  unfold callTyped call
  simp only [bind_bind]
  refine guardedBy_send.bind fun requestId => ?_
  cases requestId with
  | error status hbad =>
      simp only [onValue, fromStatus_of_bad hbad, Dialogue.pure_bind]
      exact hmeets (.error status hbad) fun body hbody => by cases hbody
  | ok _ =>
      intro reply
      refine ⟨hmeets reply, fun hreply => ?_⟩
      obtain ⟨body, rfl, htakes⟩ := exists_of_not_harmless hreply
      exact doomed_of_eq (hbreaks body htakes)

theorem narrowResponse_fault {status : Status}
    (pick : ClientResponseBody → Option ρ) :
    narrowResponse pick (.ok (.serviceFault status)) = fromStatus status := rfl

theorem narrowResponse_cases (pick : ClientResponseBody → Option ρ)
    {body : ClientResponseBody}
    (hfault : ∀ status, body ≠ .serviceFault status) :
    (∃ typed, pick body = some typed ∧
        narrowResponse pick (.ok body) = pure (.ok typed)) ∨
      narrowResponse pick (.ok body) =
        pure (.error (.ofCode .bad) Status.isBad_ofCode_bad) := by
  cases hpick : pick body with
  | none =>
      right
      have hrefused : narrowResponse pick (.ok body) = fromBad := by
        cases body with
        | serviceFault status => exact absurd rfl (hfault status)
        | _ => simp only [narrowResponse, onValue, hpick]
      rw [hrefused, fromBad, fromStatus_of_bad Status.isBad_ofCode_bad]
  | some typed =>
      have hpicked : narrowResponse pick (.ok body) = pure (.ok typed) := by
        cases body with
        | serviceFault status => exact absurd rfl (hfault status)
        | _ => simp only [narrowResponse, onValue, hpick]
      exact .inl ⟨typed, rfl, hpicked⟩

theorem narrowResponse_guarded {pick : ClientResponseBody → Option ρ}
    {awaited : AwaitedResponse} {reply : StatusOr ClientResponseBody}
    (h : HarmlessReply (.receive awaited) reply)
    {f : StatusOr ρ → ClientDialogue α}
    (herror : ∀ status hbad, (f (.error status hbad)).GuardedBy HarmlessReply)
    (hvalue : ∀ body typed, reply = .ok body → pick body = some typed →
      (f (.ok typed)).GuardedBy HarmlessReply) :
    (narrowResponse pick reply >>= f).GuardedBy HarmlessReply := by
  cases reply with
  | error status hbad =>
      simp only [narrowResponse, onValue, fromStatus_of_bad hbad,
        Dialogue.pure_bind]
      exact herror status hbad
  | ok body =>
      by_cases hfault : ∃ status, body = .serviceFault status
      · obtain ⟨status, rfl⟩ := hfault
        have hbad : status.isBad = true := h _ rfl
        rw [narrowResponse_fault, fromStatus_of_bad hbad, Dialogue.pure_bind]
        exact herror status hbad
      · rcases narrowResponse_cases pick
          (fun status heq => hfault ⟨status, heq⟩) with
          ⟨typed, hpick, hnarrow⟩ | hnarrow
        · rw [hnarrow, Dialogue.pure_bind]
          exact hvalue body typed rfl hpick
        · rw [hnarrow, Dialogue.pure_bind]
          exact herror _ _


/-- The responses without results of which nothing is made but a status. -/
def AwaitedResponse.IsHistory (awaited : AwaitedResponse) : Prop :=
  awaited = .historyRead ∨ awaited = .historyUpdate

/-- Outside history, only a fault can be harmful. -/
theorem not_takesBody_cases {awaited : AwaitedResponse}
    {body : ClientResponseBody} (h : ¬awaited.TakesBody body) :
    (∃ status, body = .serviceFault status ∧ ¬status.isBad = true) ∨
      (∃ response, body = .historyRead response ∧ awaited = .historyRead ∧
        response.results = [] ∧ ¬response.serviceResult.isBad = true) ∨
      ∃ response, body = .historyUpdate response ∧ awaited = .historyUpdate ∧
        response.results = [] ∧ ¬response.serviceResult.isBad = true := by
  cases body with
  | serviceFault status => exact .inl ⟨status, rfl, h⟩
  | historyRead response =>
      right; left
      by_contra hnone
      refine h fun hawaited hempty => ?_
      by_contra hbad
      exact hnone ⟨response, rfl, hawaited, hempty, hbad⟩
  | historyUpdate response =>
      right; right
      by_contra hnone
      refine h fun hawaited hempty => ?_
      by_contra hbad
      exact hnone ⟨response, rfl, hawaited, hempty, hbad⟩
  | _ => exact absurd trivial h

theorem narrowResponse_aborts {status : Status} (h : ¬status.isBad = true)
    (pick : ClientResponseBody → Option ρ) (f : StatusOr ρ → ClientDialogue α) :
    narrowResponse pick (.ok (.serviceFault status)) >>= f = .aborted := by
  rw [narrowResponse_fault, fromStatus_of_not_bad h, Dialogue.aborted_bind]

theorem guardedBy_callTyped {awaited : AwaitedResponse}
    (hawaited : ¬AwaitedResponse.IsHistory awaited)
    (pick : ClientResponseBody → Option ρ) {f : StatusOr ρ → ClientDialogue α}
    (hf : ∀ result, (f result).GuardedBy HarmlessReply) :
    (callTyped awaited pick >>= f).GuardedBy HarmlessReply := by
  refine guardedBy_callTyped_bind (fun reply hreply => ?_) fun body htakes => ?_
  · exact narrowResponse_guarded hreply (fun _ _ => hf _) fun _ _ _ _ => hf _
  · rcases not_takesBody_cases htakes with ⟨status, rfl, hbad⟩ |
      ⟨_, _, hread, _⟩ | ⟨_, _, hupdate, _⟩
    · exact narrowResponse_aborts hbad pick f
    · exact absurd (.inl hread) hawaited
    · exact absurd (.inr hupdate) hawaited

theorem guardedBy_results {σ : Type} {awaited : AwaitedResponse}
    (hawaited : ¬AwaitedResponse.IsHistory awaited)
    (pick : ClientResponseBody → Option (WireResponse ρ)) (convert : ρ → σ) :
    (results awaited pick convert).GuardedBy HarmlessReply := by
  refine guardedBy_callTyped hawaited pick fun result => ?_
  refine guardedBy_onValue fun response => ?_
  split
  next hbad => exact guardedBy_fromStatus hbad
  next => exact guardedBy_pure _

end ClientCall

/-! ## Operations of a session -/

namespace ClientProtocolSession

variable (session : ClientProtocolSession)

theorem guardedBy_sendActivate :
    session.sendActivate.GuardedBy HarmlessReply := by
  refine guardedBy_callTyped (by simp [AwaitedResponse.IsHistory]) _
    fun activated => ?_
  cases activated with
  | error status _ => exact guardedBy_pure _
  | ok response =>
      dsimp only
      split
      · exact guardedBy_pure _
      · exact guardedBy_pure _

theorem guardedBy_sign (credentials : ClientCredentials) :
    (sign credentials).GuardedBy HarmlessReply := by
  obtain ⟨_, _, hasSigner⟩ := credentials
  cases hasSigner with
  | true =>
      exact @guardedBy_ask ClientQuestion ClientQuestion.Reply _ _
        ClientQuestion.sign _ (fun _ => trivial) guardedBy_pure
  | false => exact guardedBy_pure _

theorem guardedBy_activate (credentials : ClientCredentials)
    (response : CreateSessionResponse)
    (serverEndpoints : List EndpointDescription) :
    (session.activate credentials response serverEndpoints).GuardedBy
      HarmlessReply := by
  unfold activate
  split
  · exact guardedBy_pure _
  · refine (guardedBy_sign credentials).bind fun signature => ?_
    cases signature with
    | error status _ => exact guardedBy_pure _
    | ok _ => exact guardedBy_sendActivate _

theorem guardedBy_create (credentials : ClientCredentials) :
    (session.create credentials).GuardedBy HarmlessReply := by
  refine guardedBy_ask_bind (fun _ => trivial) fun openStatus => ?_
  split
  · exact guardedBy_pure _
  · refine guardedBy_callTyped (by simp [AwaitedResponse.IsHistory]) _
      fun created => ?_
    cases created with
    | error status _ => exact guardedBy_pure _
    | ok created =>
        dsimp only
        split
        · exact guardedBy_pure _
        · exact guardedBy_activate _ _ _ _

theorem guardedBy_close : session.close.GuardedBy HarmlessReply := by
  unfold close
  split
  · refine guardedBy_callTyped (by simp [AwaitedResponse.IsHistory]) _
      fun _ => ?_
    exact guardedBy_ask_bind (fun _ => trivial) fun _ => guardedBy_pure _
  · exact guardedBy_ask_bind (fun _ => trivial) fun _ => guardedBy_pure _

theorem guardedBy_call : call.GuardedBy HarmlessReply := by
  refine guardedBy_callTyped (by simp [AwaitedResponse.IsHistory]) _
    fun result => ?_
  refine guardedBy_onValue fun response => ?_
  split
  · exact guardedBy_fromBad
  · exact guardedBy_pure _

/-! ### History -/

section History

variable {ρ σ : Type} {statusCode : ρ → Status} {make : ρ → σ}

theorem guardedBy_firstResult {response : WireResponse ρ}
    (h : response.results = [] → response.serviceResult.isBad = true) :
    (firstResult statusCode response make).GuardedBy HarmlessReply := by
  unfold firstResult
  split
  next hempty => exact guardedBy_fromStatus (h hempty)
  next =>
    split
    next hbad => exact guardedBy_fromStatus hbad
    next => exact guardedBy_pure _

theorem firstResult_aborts {response : WireResponse ρ}
    (hempty : response.results = [])
    (hbad : ¬response.serviceResult.isBad = true) :
    firstResult statusCode response make = .aborted := by
  unfold firstResult
  rw [hempty]
  exact fromStatus_of_not_bad hbad

theorem guardedBy_historyRead (make : HistoryReadResult → σ) :
    (do
      let result ← callTyped .historyRead pickHistoryRead
      onValue result fun response =>
        firstResult HistoryReadResult.statusCode response make :
      ClientDialogue (StatusOr σ)).GuardedBy HarmlessReply := by
  refine guardedBy_callTyped_bind (fun reply hreply => ?_) fun body htakes => ?_
  · refine narrowResponse_guarded hreply (fun _ hbad => guardedBy_fromStatus hbad)
      fun body typed hbody hpick => ?_
    cases body <;> cases hpick
    exact guardedBy_firstResult (hreply _ hbody rfl)
  · rcases not_takesBody_cases htakes with ⟨status, rfl, hbad⟩ |
      ⟨response, rfl, _, hempty, hbad⟩ | ⟨_, _, hupdate, _⟩
    · exact narrowResponse_aborts hbad _ _
    · exact firstResult_aborts hempty hbad
    · cases hupdate

theorem guardedBy_historyUpdate : historyUpdate.GuardedBy HarmlessReply := by
  refine guardedBy_callTyped_bind (fun reply hreply => ?_) fun body htakes => ?_
  · refine narrowResponse_guarded hreply (fun _ hbad => guardedBy_fromStatus hbad)
      fun body typed hbody hpick => ?_
    cases body <;> cases hpick
    exact guardedBy_firstResult (hreply _ hbody rfl)
  · rcases not_takesBody_cases htakes with ⟨status, rfl, hbad⟩ |
      ⟨_, _, hread, _⟩ | ⟨response, rfl, _, hempty, hbad⟩
    · exact narrowResponse_aborts hbad _ _
    · cases hread
    · exact firstResult_aborts hempty hbad

end History

end ClientProtocolSession

/-! ## Operations of a subscription -/

namespace SubscriptionOperations

theorem guardedBy_create : create.GuardedBy HarmlessReply := by
  refine guardedBy_callTyped (by simp [AwaitedResponse.IsHistory]) _
    fun narrowed => ?_
  cases narrowed with
  | error status _ => exact guardedBy_pure _
  | ok response =>
      dsimp only
      split
      · exact guardedBy_pure _
      · exact guardedBy_pure _

theorem guardedBy_createMonitoredItem (isCreated : Bool) (clientHandle : UInt32) :
    (createMonitoredItem isCreated clientHandle).GuardedBy HarmlessReply := by
  unfold createMonitoredItem
  split
  · exact guardedBy_fromBad
  · refine guardedBy_callTyped (by simp [AwaitedResponse.IsHistory]) _
      fun narrowed => ?_
    refine guardedBy_onValue fun response => ?_
    split
    · exact guardedBy_fromBad
    · split
      next hbad => exact guardedBy_fromStatus hbad
      next =>
        split
        next hbad => exact guardedBy_fromStatus hbad
        next => exact guardedBy_pure _

theorem guardedBy_deleteMonitoredItem (isCreated : Bool) :
    (deleteMonitoredItem isCreated).GuardedBy HarmlessReply := by
  unfold deleteMonitoredItem
  split
  · exact guardedBy_pure _
  · refine guardedBy_callTyped (by simp [AwaitedResponse.IsHistory]) _
      fun narrowed => ?_
    exact guardedBy_onValueStatus fun response => guardedBy_pure _

theorem guardedBy_fillPublishWindow (missing : ℕ) :
    (fillPublishWindow missing).GuardedBy HarmlessReply := by
  induction missing with
  | zero => exact guardedBy_pure _
  | succ missing ih =>
      unfold fillPublishWindow
      have hsend : sendPublishRequest.GuardedBy HarmlessReply :=
        guardedBy_send.bind fun requestId =>
          guardedBy_onValueStatus fun _ => guardedBy_pure _
      refine hsend.bind fun status => ?_
      split
      · exact guardedBy_pure _
      · exact ih

theorem guardedBy_publish (isCreated : Bool) (outstanding : ℕ) :
    (publish isCreated outstanding).GuardedBy HarmlessReply := by
  unfold publish
  split
  · exact guardedBy_pure _
  · refine (guardedBy_fillPublishWindow _).bind fun fillStatus => ?_
    split
    · exact guardedBy_pure _
    · have hnext : ∀ narrowed : StatusOr PublishResponse,
          (onValueStatus narrowed fun response =>
            if response.status.isBad then pure response.status
            else pure .good).GuardedBy HarmlessReply := by
        intro narrowed
        refine guardedBy_onValueStatus fun response => ?_
        split
        · exact guardedBy_pure _
        · exact guardedBy_pure _
      intro reply
      refine ⟨fun hreply => ?_, fun hreply => ?_⟩
      · exact narrowResponse_guarded hreply (fun _ _ => hnext _)
          fun _ _ _ _ => hnext _
      · obtain ⟨body, rfl, htakes⟩ := exists_of_not_harmless hreply
        rcases not_takesBody_cases htakes with ⟨status, rfl, hbad⟩ |
          ⟨_, _, hread, _⟩ | ⟨_, _, hupdate, _⟩
        · exact doomed_of_eq (narrowResponse_aborts hbad _ _)
        · cases hread
        · cases hupdate

theorem guardedBy_delete (isCreated : Bool) :
    (delete isCreated).GuardedBy HarmlessReply := by
  unfold delete
  split
  · exact guardedBy_pure _
  · refine guardedBy_callTyped (by simp [AwaitedResponse.IsHistory]) _
      fun narrowed => ?_
    exact guardedBy_onValueStatus fun response => guardedBy_pure _

end SubscriptionOperations

/-! ## Operations of the discovery client -/

namespace DiscoveryClient

variable {α : Type}

theorem guardedBy_sendDiscoveryRequest {awaited : AwaitedResponse}
    (hawaited : ¬AwaitedResponse.IsHistory awaited) :
    (sendDiscoveryRequest awaited).GuardedBy HarmlessReply := by
  refine guardedBy_ask_bind (fun _ => trivial) fun prepared => ?_
  refine guardedBy_onValue fun _ => ?_
  refine guardedBy_ask_bind (fun _ => trivial) fun openStatus => ?_
  split
  next hbad => exact guardedBy_fromStatus hbad
  next =>
    refine guardedBy_ask_bind (fun _ => trivial) fun sendStatus => ?_
    split
    next hbad =>
      exact guardedBy_ask_bind (fun _ => trivial) fun _ =>
        guardedBy_fromStatus hbad
    next =>
      intro reply
      refine ⟨fun hreply => ?_, fun hreply => ?_⟩
      · refine guardedBy_ask_bind (fun _ => trivial) fun _ => ?_
        cases reply with
        | error status hbad => exact guardedBy_fromStatus hbad
        | ok body =>
            cases body with
            | serviceFault status =>
                exact guardedBy_fromStatus (hreply _ rfl)
            | _ => exact guardedBy_pure _
      · obtain ⟨body, rfl, htakes⟩ := exists_of_not_harmless hreply
        rcases not_takesBody_cases htakes with ⟨status, rfl, hbad⟩ |
          ⟨_, _, hread, _⟩ | ⟨_, _, hupdate, _⟩
        · exact fun _ => doomed_of_eq (fromStatus_of_not_bad hbad)
        · exact absurd (.inl hread) hawaited
        · exact absurd (.inr hupdate) hawaited

theorem guardedBy_getEndpoints : getEndpoints.GuardedBy HarmlessReply := by
  refine (guardedBy_sendDiscoveryRequest
    (by simp [AwaitedResponse.IsHistory])).bind fun body => ?_
  refine guardedBy_onValue fun body => ?_
  split
  · split
    next hbad => exact guardedBy_fromStatus hbad
    next => exact guardedBy_pure _
  · exact guardedBy_fromBad

theorem guardedBy_resolveChannelSecurity (secured : Bool) :
    (resolveChannelSecurity secured).GuardedBy HarmlessReply := by
  unfold resolveChannelSecurity
  split
  · exact guardedBy_pure _
  · refine guardedBy_getEndpoints.bind fun endpoints => ?_
    exact guardedBy_onValue fun endpoints =>
      guardedBy_ask (fun _ => trivial) guardedBy_pure

theorem guardedBy_registerServer (secured : Bool) :
    (registerServer secured).GuardedBy HarmlessReply := by
  refine (guardedBy_resolveChannelSecurity secured).bind fun security => ?_
  refine guardedBy_onValueStatus fun _ => ?_
  refine (guardedBy_sendDiscoveryRequest
    (by simp [AwaitedResponse.IsHistory])).bind fun body => ?_
  refine guardedBy_onValueStatus fun body => ?_
  split
  · exact guardedBy_pure _
  · exact guardedBy_pure _

theorem guardedBy_registerServer2 (secured : Bool) :
    (registerServer2 secured).GuardedBy HarmlessReply := by
  refine (guardedBy_resolveChannelSecurity secured).bind fun security => ?_
  refine guardedBy_onValueStatus fun _ => ?_
  refine (guardedBy_sendDiscoveryRequest
    (by simp [AwaitedResponse.IsHistory])).bind fun body => ?_
  refine guardedBy_onValueStatus fun body => ?_
  split
  · exact guardedBy_pure _
  · exact guardedBy_pure _

theorem guardedBy_findServers (secured : Bool) :
    (findServers secured).GuardedBy HarmlessReply := by
  refine (guardedBy_resolveChannelSecurity secured).bind fun security => ?_
  refine guardedBy_onValue fun _ => ?_
  refine (guardedBy_sendDiscoveryRequest
    (by simp [AwaitedResponse.IsHistory])).bind fun body => ?_
  refine guardedBy_onValue fun body => ?_
  split
  · split
    next hbad => exact guardedBy_fromStatus hbad
    next => exact guardedBy_pure _
  · exact guardedBy_fromBad

end DiscoveryClient

/-! ## Every operation -/

inductive ClientOperation where
  | create (session : ClientProtocolSession) (credentials : ClientCredentials)
  | close (session : ClientProtocolSession)
  | read
  | write
  | addNodes
  | deleteNodes
  | addReferences
  | deleteReferences
  | historyReadRaw (codec : HistoryCodec)
  | historyReadEvents (codec : HistoryCodec)
  | historyUpdateData
  | historyUpdateEvent
  | browse
  | browseNext
  | translateBrowsePathsToNodeIds
  | call
  | createSubscription
  | createMonitoredItem (isCreated : Bool) (clientHandle : UInt32)
  | deleteMonitoredItem (isCreated : Bool)
  | publish (isCreated : Bool) (outstanding : ℕ)
  | deleteSubscription (isCreated : Bool)
  | getEndpoints
  | registerServer (secured : Bool)
  | registerServer2 (secured : Bool)
  | findServers (secured : Bool)

namespace ClientOperation

/-- What the operation returns: a plain status, or a value or a bad status. -/
def Result : ClientOperation → Type
  | create _ _ => Status × ClientProtocolSession
  | close _ => Status × ClientProtocolSession
  | read => StatusOr (List DataValue)
  | write => StatusOr (List StatusCode)
  | addNodes => StatusOr (List (StatusCode × NodeId))
  | deleteNodes => StatusOr (List StatusCode)
  | addReferences => StatusOr (List StatusCode)
  | deleteReferences => StatusOr (List StatusCode)
  | historyReadRaw _ => StatusOr HistoryReadRawResult
  | historyReadEvents _ => StatusOr HistoryReadEventsResult
  | historyUpdateData => StatusOr (List StatusCode)
  | historyUpdateEvent => StatusOr (List StatusCode)
  | browse => StatusOr (List (StatusCode × BrowseResult))
  | browseNext => StatusOr (List (StatusCode × BrowseResult))
  | translateBrowsePathsToNodeIds =>
      StatusOr (List (StatusCode × List BrowsePathTarget))
  | call => StatusOr CallResult
  | createSubscription => Status × Option SubscriptionId
  | createMonitoredItem _ _ => StatusOr CreateMonitoredItemResult
  | deleteMonitoredItem _ => Status
  | publish _ _ => Status
  | deleteSubscription _ => Status
  | getEndpoints => StatusOr (List EndpointDescription)
  | registerServer _ => Status
  | registerServer2 _ => Status
  | findServers _ => StatusOr (List ApplicationDescription)

def dialogue : (operation : ClientOperation) → ClientDialogue operation.Result
  | create session credentials => session.create credentials
  | close session => session.close
  | read => ClientProtocolSession.read
  | write => ClientProtocolSession.write
  | addNodes => ClientProtocolSession.addNodes
  | deleteNodes => ClientProtocolSession.deleteNodes
  | addReferences => ClientProtocolSession.addReferences
  | deleteReferences => ClientProtocolSession.deleteReferences
  | historyReadRaw codec => ClientProtocolSession.historyReadRaw codec
  | historyReadEvents codec => ClientProtocolSession.historyReadEvents codec
  | historyUpdateData => ClientProtocolSession.historyUpdate
  | historyUpdateEvent => ClientProtocolSession.historyUpdate
  | browse => ClientProtocolSession.browse
  | browseNext => ClientProtocolSession.browseNext
  | translateBrowsePathsToNodeIds =>
      ClientProtocolSession.translateBrowsePathsToNodeIds
  | call => ClientProtocolSession.call
  | createSubscription => SubscriptionOperations.create
  | createMonitoredItem isCreated clientHandle =>
      SubscriptionOperations.createMonitoredItem isCreated clientHandle
  | deleteMonitoredItem isCreated =>
      SubscriptionOperations.deleteMonitoredItem isCreated
  | publish isCreated outstanding =>
      SubscriptionOperations.publish isCreated outstanding
  | deleteSubscription isCreated => SubscriptionOperations.delete isCreated
  | getEndpoints => DiscoveryClient.getEndpoints
  | registerServer secured => DiscoveryClient.registerServer secured
  | registerServer2 secured => DiscoveryClient.registerServer2 secured
  | findServers secured => DiscoveryClient.findServers secured

theorem dialogue_guarded (operation : ClientOperation) :
    operation.dialogue.GuardedBy HarmlessReply := by
  cases operation with
  | create session credentials => exact session.guardedBy_create credentials
  | close session => exact session.guardedBy_close
  | historyReadRaw codec => exact ClientProtocolSession.guardedBy_historyRead _
  | historyReadEvents codec =>
      exact ClientProtocolSession.guardedBy_historyRead _
  | historyUpdateData => exact ClientProtocolSession.guardedBy_historyUpdate
  | historyUpdateEvent => exact ClientProtocolSession.guardedBy_historyUpdate
  | call => exact ClientProtocolSession.guardedBy_call
  | createSubscription => exact SubscriptionOperations.guardedBy_create
  | createMonitoredItem isCreated clientHandle =>
      exact SubscriptionOperations.guardedBy_createMonitoredItem _ _
  | deleteMonitoredItem isCreated =>
      exact SubscriptionOperations.guardedBy_deleteMonitoredItem _
  | publish isCreated outstanding =>
      exact SubscriptionOperations.guardedBy_publish _ _
  | deleteSubscription isCreated =>
      exact SubscriptionOperations.guardedBy_delete _
  | getEndpoints => exact DiscoveryClient.guardedBy_getEndpoints
  | registerServer secured => exact DiscoveryClient.guardedBy_registerServer _
  | registerServer2 secured => exact DiscoveryClient.guardedBy_registerServer2 _
  | findServers secured => exact DiscoveryClient.guardedBy_findServers _
  | _ => exact guardedBy_results (by simp [AwaitedResponse.IsHistory]) _ _

end ClientOperation

/-! ## The reply to a Hello -/

namespace Binary

/-- The frame is an `ERR` message. -/
def IsErrorReply (frame : ByteString) : Prop :=
  (decodeFrameHeader frame).map FrameHeader.messageType = some .error

theorem ClientTransport.acceptFirstFrame_error (t : ClientTransport)
    {frame : ByteString} (h : IsErrorReply frame) :
    (t.acceptFirstFrame frame).1.isBad = true ↔
      ∀ message, decodeErrorMessage frame = some message →
        message.error.isBad = true := by
  unfold acceptFirstFrame
  rw [h]
  dsimp only
  cases hmessage : decodeErrorMessage frame with
  | none =>
      have hbad : (Status.ofCode .badNoCommunication).isBad = true := by decide
      exact iff_of_true hbad fun message hsome => by cases hsome
  | some error =>
      refine ⟨fun hbad message hsome => ?_, fun hall => hall error rfl⟩
      cases hsome
      exact hbad

end Binary

/-! ## No message aborts or misleads the client -/

/-- An operation returns exactly if every reply it gets is harmless, and an
`ERR` reply to a Hello makes `Connect` return a bad status exactly if the code
which it carries is bad. -/
theorem operations_return_iff_harmless (operation : ClientOperation)
    (replies : Replies ClientQuestion ClientQuestion.Reply)
    (t : Binary.ClientTransport) {frame : ByteString}
    (hframe : Binary.IsErrorReply frame) :
    ((operation.dialogue.run replies).isSome = true ↔
        operation.dialogue.AllReplies HarmlessReply replies) ∧
      ((t.acceptFirstFrame frame).1.isBad = true ↔
        ∀ message, Binary.decodeErrorMessage frame = some message →
          message.error.isBad = true) :=
  ⟨operation.dialogue_guarded.run_isSome_iff replies,
    t.acceptFirstFrame_error hframe⟩

/-- A server which answers every request with the same body. -/
def answersWith (body : ClientResponseBody) :
    Replies ClientQuestion ClientQuestion.Reply
  | _, .openConnection => Status.good
  | _, .renewSecurityToken => none
  | _, .sendRequest => Status.good
  | _, .receive _ => StatusOr.ok body
  | _, .closeConnection => ()
  | _, .sign => StatusOr.ok {}
  | _, .prepareTransport => StatusOr.ok ()
  | _, .buildSecurity _ => StatusOr.ok ()

def errorFrame (error : Status) : ByteString :=
  Binary.encodeErrorMessage { error }

theorem isErrorReply_errorFrame :
    Binary.IsErrorReply (errorFrame (.ofCode .badNoCommunication)) := by
  unfold Binary.IsErrorReply
  decide

theorem bad_error_reply_is_bad :
    ((ClientOperation.read.dialogue.run
        (answersWith (.serviceFault (.ofCode .bad)))).isSome = true ↔
      ClientOperation.read.dialogue.AllReplies HarmlessReply
        (answersWith (.serviceFault (.ofCode .bad)))) ∧
      ((Binary.ClientTransport.acceptFirstFrame {}
          (errorFrame (.ofCode .badNoCommunication))).1.isBad = true ↔
        ∀ message,
          Binary.decodeErrorMessage
              (errorFrame (.ofCode .badNoCommunication)) = some message →
            message.error.isBad = true) :=
  operations_return_iff_harmless .read _ {} isErrorReply_errorFrame

/-- A `ServiceFault` with the status Good aborts a Read, a good response without
results aborts a HistoryRead, and an `ERR` reply with the code Good makes
`Connect` return it. -/
theorem good_replies_abort_or_mislead :
    ClientOperation.read.dialogue.run (answersWith (.serviceFault .good)) =
        none ∧
      (ClientOperation.historyReadRaw ⟨fun _ => none, fun _ => none⟩).dialogue.run
          (answersWith (.historyRead {})) = none ∧
      (Binary.ClientTransport.acceptFirstFrame {} (errorFrame .good)).1 =
        .good := by
  refine ⟨rfl, rfl, ?_⟩
  decide

end OpcuaStack
