import OpcuaStack.SessionAgreement

/-!
# Suspended requests

A publish looks its session up again after each delay.  A browse goes on with
the pointer it took before it suspended, and other connections may have closed,
evicted or replaced the session in the meantime.  No two registered sessions are
one object, so the pointer can be compared with the session which is attached
when the browse goes on.
-/

namespace OpcuaStack
namespace ServerSession

/-- The session keeps the rest of a browse under the continuation point. -/
def Stores (session : ServerSession) (continuationPoint : ByteString) : Prop :=
  (session.browseContinuations.lookup continuationPoint).isSome = true

theorem pageBrowseResult_keeps {session : ServerSession}
    {continuationPoint : ByteString} (h : session.Stores continuationPoint)
    (requestedMax : ℕ) (result : BrowseResult) :
    (pageBrowseResult requestedMax session result).1.Stores
      continuationPoint := by
  unfold pageBrowseResult
  simp only
  split
  · exact h
  · split
    · exact h
    · unfold Stores
      simp only
      split
      · exact h
      · rw [KeyedMap.lookup_insert_eq]
        split
        · rfl
        · exact h

theorem pageBrowseResult_stores (requestedMax : ℕ) (session : ServerSession)
    (result : BrowseResult)
    (hpoint : (pageBrowseResult requestedMax session
      result).2.continuationPoint ≠ []) :
    (pageBrowseResult requestedMax session result).1.Stores
      (pageBrowseResult requestedMax session result).2.continuationPoint := by
  unfold pageBrowseResult at hpoint ⊢
  simp only at hpoint ⊢
  split at hpoint
  · exact absurd rfl hpoint
  next hexceeds =>
    rw [if_neg hexceeds]
    split at hpoint
    · exact absurd rfl hpoint
    next hroom =>
      rw [if_neg hroom]
      unfold Stores
      simp only
      split
      next hstored => exact hstored
      next => rw [KeyedMap.lookup_insert_eq, if_pos rfl, Option.isSome_some]

theorem storeBrowseResults_stores (session : ServerSession)
    (response : BrowseResponse) {requestedMax : ℕ} (hmax : requestedMax ≠ 0) :
    ∀ result ∈ (session.storeBrowseResults response requestedMax).2.results,
      result.continuationPoint ≠ [] →
        (session.storeBrowseResults response requestedMax).1.Stores
          result.continuationPoint := by
  unfold storeBrowseResults
  rw [if_neg hmax]
  exact collectResults_results
    (Q := fun (session : ServerSession) (result : BrowseResult) =>
      result.continuationPoint ≠ [] → session.Stores result.continuationPoint)
    (fun session result => pageBrowseResult_stores requestedMax session result)
    (fun session result earlier hstored hpoint =>
      pageBrowseResult_keeps (hstored hpoint) requestedMax result)
    session response.results

theorem storeBrowseResults_serviceResult (session : ServerSession)
    (response : BrowseResponse) (requestedMax : ℕ) :
    (session.storeBrowseResults response requestedMax).2.serviceResult =
      response.serviceResult := by
  unfold storeBrowseResults
  split <;> rfl

/-- Results which fit into their pages lose their continuation points, and leave
the session alone. -/
theorem collectResults_pageBrowseResult_of_fits {requestedMax : ℕ}
    {results : List BrowseResult}
    (hfits : ∀ result ∈ results, exceedsPage requestedMax result = false)
    (session : ServerSession) :
    collectResults (pageBrowseResult requestedMax) session results =
      (session, results.map fun result =>
        { result with continuationPoint := [] }) := by
  induction results with
  | nil => rfl
  | cons result rest ih =>
      have hpage : pageBrowseResult requestedMax session result =
          (session, { result with continuationPoint := [] }) := by
        have hresult : exceedsPage requestedMax
            { result with continuationPoint := [] } = false :=
          hfits result List.mem_cons_self
        simp only [pageBrowseResult, hresult, Bool.not_false, if_true]
      have hrest := ih fun other hmem =>
        hfits other (List.mem_cons_of_mem result hmem)
      simp only [collectResults, hpage, hrest, List.map_cons]

theorem storeBrowseResults_of_fits {response : BrowseResponse}
    {requestedMax : ℕ}
    (hfits : ServerRuntime.needsPaging requestedMax response = false)
    (session : ServerSession) :
    (session.storeBrowseResults response requestedMax).1 = session ∧
      (requestedMax ≠ 0 →
        ∀ result ∈ (session.storeBrowseResults response requestedMax).2.results,
          result.continuationPoint = []) := by
  have hall : ∀ result ∈ response.results,
      exceedsPage requestedMax result = false := by
    intro result hmem
    have hresult := List.any_eq_false.mp hfits result hmem
    simpa using hresult
  unfold storeBrowseResults
  split
  next hzero => exact ⟨rfl, fun hmax => absurd hzero hmax⟩
  next =>
    rw [collectResults_pageBrowseResult_of_fits hall]
    refine ⟨rfl, fun _ result hmem => ?_⟩
    obtain ⟨original, _, rfl⟩ := List.mem_map.mp hmem
    rfl

end ServerSession

namespace ServerRuntime

/-! ## Session objects -/

/-- No two registered sessions are one object, and the next object is new. -/
structure ObjectsDistinct (r : ServerRuntime) : Prop where
  allocated : ∀ token session, r.sessions.lookup token = some session →
    session.address < r.nextSessionAddress
  unique : ∀ first second firstSession secondSession,
    r.sessions.lookup first = some firstSession →
      r.sessions.lookup second = some secondSession →
        firstSession.address = secondSession.address → first = second

/-- A step which only drops sessions, or rewrites them in place. -/
theorem ObjectsDistinct.mono {before after : ServerRuntime}
    (h : ObjectsDistinct before)
    (hobjects : ∀ token session, after.sessions.lookup token = some session →
      ∃ old, before.sessions.lookup token = some old ∧
        old.address = session.address)
    (hnext : after.nextSessionAddress = before.nextSessionAddress) :
    ObjectsDistinct after where
  allocated token session hlookup := by
    obtain ⟨old, hold, haddress⟩ := hobjects token session hlookup
    rw [← haddress, hnext]
    exact h.allocated token old hold
  unique first second firstSession secondSession hfirst hsecond heq := by
    obtain ⟨oldFirst, holdFirst, haddressFirst⟩ := hobjects first _ hfirst
    obtain ⟨oldSecond, holdSecond, haddressSecond⟩ := hobjects second _ hsecond
    refine h.unique first second oldFirst oldSecond holdFirst holdSecond ?_
    rw [haddressFirst, haddressSecond, heq]

theorem ObjectsDistinct.withManager {r : ServerRuntime}
    (h : ObjectsDistinct r) (manager : ServerSessionManager) :
    ObjectsDistinct { r with manager := manager } :=
  ⟨h.allocated, h.unique⟩

theorem ObjectsDistinct.serves {before after : ServerRuntime}
    (h : ObjectsDistinct before) (hserves : Serves before after) :
    ObjectsDistinct after := by
  refine h.mono (fun token session hlookup => ?_) hserves.nextSessionAddress
  obtain ⟨old, hold, hidentity⟩ := hserves.exists_before hlookup
  exact ⟨old, hold, congrArg Prod.fst hidentity⟩

theorem ObjectsDistinct.adopt {r : ServerRuntime} (h : ObjectsDistinct r)
    (manager : ServerSessionManager) (removed : List NodeId) :
    ObjectsDistinct (r.adopt manager removed) := by
  refine h.mono (fun token session hlookup => ?_)
    (r.adopt_nextSessionAddress manager removed)
  rw [adopt_lookup] at hlookup
  split at hlookup
  · simp at hlookup
  · exact ⟨session, hlookup, rfl⟩

theorem ObjectsDistinct.resumed {r : ServerRuntime} (h : ObjectsDistinct r)
    {token : NodeId} {object : ServerSession}
    (hobject : r.sessions.lookup token = some object)
    (context : ServiceContext) :
    ObjectsDistinct
      (r.writeSession token { object with serviceContext := context }) := by
  refine h.mono (fun other session hlookup => ?_) rfl
  rw [writeSession, KeyedMap.lookup_insert_eq] at hlookup
  split at hlookup
  next heq =>
    subst heq
    obtain rfl := Option.some.inj hlookup
    exact ⟨object, hobject, rfl⟩
  next => exact ⟨session, hlookup, rfl⟩

theorem ObjectsDistinct.register {r : ServerRuntime} (h : ObjectsDistinct r)
    (request : ActivateSessionRequest) (context : ServiceContext) :
    ObjectsDistinct (r.register request context) where
  allocated token session hlookup := by
    rw [register_lookup] at hlookup
    change session.address < r.nextSessionAddress + 1
    split at hlookup
    · obtain rfl := Option.some.inj hlookup
      exact Nat.lt_succ_self r.nextSessionAddress
    · have hold := h.allocated token session hlookup
      omega
  unique first second firstSession secondSession hfirst hsecond heq := by
    rw [register_lookup] at hfirst hsecond
    split at hfirst
    next hnew =>
      subst hnew
      obtain rfl := Option.some.inj hfirst
      split at hsecond
      next hsame => exact hsame.symm
      next =>
        have hold := h.allocated second secondSession hsecond
        change r.nextSessionAddress = secondSession.address at heq
        omega
    next =>
      split at hsecond
      next =>
        obtain rfl := Option.some.inj hsecond
        have hold := h.allocated first firstSession hfirst
        change firstSession.address = r.nextSessionAddress at heq
        omega
      next =>
        exact h.unique first second firstSession secondSession hfirst hsecond heq

theorem ObjectsDistinct.sessionAt_eq {r : ServerRuntime}
    (h : ObjectsDistinct r) {token : NodeId} {session : ServerSession}
    (hlookup : r.sessions.lookup token = some session) :
    r.sessionAt session.address = some (token, session) := by
  cases hfound : r.sessionAt session.address with
  | none =>
      unfold sessionAt at hfound
      rw [Option.map_eq_none_iff, List.find?_eq_none] at hfound
      have hentry := hfound ⟨token, session⟩
        (KeyedMap.mem_entries_iff.mpr hlookup)
      simp at hentry
  | some found =>
      obtain ⟨other, object⟩ := found
      obtain ⟨hother, haddress⟩ := sessionAt_eq_some hfound
      have hsame := h.unique other token object session hother hlookup haddress
      subst hsame
      rw [hother] at hlookup
      rw [Option.some.inj hlookup]

end ServerRuntime

namespace ServerState

open ServerRuntime

theorem step_objectsDistinct {state : ServerState}
    (h : state.runtime.ObjectsDistinct) (action : ServerAction) :
    (state.step action).1.runtime.ObjectsDistinct := by
  have htransition := state.step_transition action
  generalize state.step action = result at htransition ⊢
  cases htransition with
  | quiet hquiet hedits hreport => exact h.serves hquiet.serves
  | createSession connection request env outcome hcreates =>
      rw [settle_runtime]
      have hpruned : (state.runtime.pruned env.pruneTime).ObjectsDistinct :=
        h.adopt _ _
      cases hcreates with
      | rejected response hrefused hbad => exact hpruned
      | created session haccepted hnew response hgood htoken =>
          exact hpruned.withManager _
  | activateSession connection request env outcome hbegins =>
      rw [settle_runtime]
      have hpruned : (state.runtime.pruned env.pruneTime).ObjectsDistinct :=
        h.adopt _ _
      cases hbegins with
      | rejected response hbad => exact hpruned
      | lost session hlookup hsigned hactivated hlost =>
          exact hpruned.withManager _
      | resumed session object hlookup hsigned hactivated hobject =>
          exact ObjectsDistinct.resumed (r := (state.runtime.pruned
            env.pruneTime).withState _ _) (hpruned.withManager _) hobject _
      | anonymous session hlookup hsigned hfresh hanonymous =>
          exact (hpruned.withManager _).register _ _
      | authenticating session pending hlookup hfresh hnamed hrequest huserName
          hpassword => exact hpruned
  | authenticated task connection pending reply now outcome htask hcompletes =>
      rw [settle_runtime]
      cases hcompletes with
      | refused status hbad hreply => exact h
      | alreadyLoggedOn auth hreply hgate => exact h
      | missing auth hreply hgate hlookup => exact h.adopt _ _
      | activated auth hreply hgate session hlookup =>
          have hevicted : (state.runtime.evicted auth).ObjectsDistinct :=
            h.adopt _ _
          exact (hevicted.withManager _).register _ _
  | closeSession connection request env outcome hcloses =>
      rw [settle_runtime]
      cases hcloses with
      | missing hlookup => exact h
      | closed manager hdrops session hlookup => exact h.adopt _ _
  | closeConnection connection =>
      unfold closeConnection detach
      simp only
      split
      · exact h
      · exact h.withManager _
  | prune now => exact h.adopt _ _

end ServerState

namespace ServerRuntime

/-! ## Going on after a suspension -/

def StoresPoint (r : ServerRuntime) (continuationPoint : ByteString) : Prop :=
  ∃ token session, r.sessions.lookup token = some session ∧
    session.Stores continuationPoint

/-- A stretch of a handler keeps to the session which is attached to its
connection when it starts. -/
structure KeepsToSession (r : ServerRuntime) (connection : ConnectionState)
    (next : ServerRuntime) (report : StepReport) : Prop where
  touched : ∀ address ∈ report.touched, ∃ token session,
    r.findAttachedSession connection = some (token, session) ∧
      session.address = address
  unchanged : ∀ token, connection.authenticationToken ≠ some token →
    next.sessions.lookup token = r.sessions.lookup token
  missing : r.findAttachedSession connection = none →
    report.answer.map ResponseBody.serviceResult =
      some (.ofCode .badSessionIdInvalid)
  stored : ∀ response, report.answer = some (.browse response) →
    ∀ result ∈ response.results, result.continuationPoint ≠ [] →
      next.StoresPoint result.continuationPoint

/-- When a browse may go on: the pointer is that of the attached session if
paging uses it, without a session the address space itself reports that there is
none, and a point which the address space returns on a browse without page size
is one which a session keeps. -/
def MayResumeBrowse (r : ServerRuntime) (connection : ConnectionState)
    (address requestedMax : ℕ) : ResponseBody → Prop
  | .browse response =>
      (needsPaging requestedMax response = true → ∃ token session,
        r.findAttachedSession connection = some (token, session) ∧
          session.address = address) ∧
      (r.findAttachedSession connection = none →
        response.serviceResult = .ofCode .badSessionIdInvalid) ∧
      (requestedMax = 0 → ∀ result ∈ response.results,
        result.continuationPoint ≠ [] → r.StoresPoint result.continuationPoint)
  | _ => True

def reportOf (connection : ℕ) (outcome : HandlerOutcome) : StepReport :=
  { connection := connection
    answer := outcome.progress.answer
    use := outcome.use
    touched := outcome.touched }

theorem KeepsToSession.of_missing {r : ServerRuntime}
    {connection : ConnectionState} {report : StepReport} {response : ResponseBody}
    (hanswer : report.answer = some response)
    (hinvalid : response.serviceResult = .ofCode .badSessionIdInvalid)
    (hbrowse : ∀ browse, response ≠ .browse browse)
    (htouched : report.touched = []) :
    KeepsToSession r connection r report where
  touched := by simp [htouched]
  unchanged := fun _ _ => rfl
  missing := fun _ => by rw [hanswer, Option.map_some, hinvalid]
  stored := by
    intro browse heq
    rw [hanswer, Option.some.injEq] at heq
    exact absurd heq (hbrowse browse)

theorem resumePublish_keepsToSession (r : ServerRuntime)
    (connection : ConnectionState) (ackResults : List StatusCode)
    (now : DateTime) (sender : ℕ) :
    KeepsToSession r connection
      (r.resumePublish connection ackResults now).runtime
      (reportOf sender (r.resumePublish connection ackResults now)) := by
  unfold resumePublish
  simp only
  split
  · exact .of_missing rfl rfl (by simp) rfl
  · split
    · exact .of_missing rfl rfl (by simp) rfl
    next token session hfound =>
      obtain ⟨htoken, hlookup⟩ := findAttachedSession_eq_some.mp hfound
      constructor
      · intro address hmem
        simp only [reportOf, List.mem_singleton] at hmem
        exact ⟨token, session, hfound, hmem.symm⟩
      · intro other hne
        have hother : other ≠ token := by
          rintro rfl
          exact hne htoken
        simp only [pollPublish, writeSession]
        rw [KeyedMap.lookup_insert_eq, if_neg hother]
      · intro hnone
        simp [hfound] at hnone
      · intro response hanswer
        simp only [reportOf, pollPublish] at hanswer
        split at hanswer <;> simp [Progress.answer] at hanswer

theorem writeSession_self_lookup {r : ServerRuntime} {token : NodeId}
    {session : ServerSession} (hlookup : r.sessions.lookup token = some session)
    (other : NodeId) :
    (r.writeSession token session).sessions.lookup other =
      r.sessions.lookup other := by
  rw [writeSession, KeyedMap.lookup_insert_eq]
  split
  next heq => rw [heq, hlookup]
  next => rfl

/-- What a browse answered by the address space does, whatever its pointer
leads to: it stores the results in some session, and that session is written
back if it is registered. -/
theorem resumeBrowse_browse (r : ServerRuntime) (connection : ConnectionState)
    (address requestedMax : ℕ) (response : BrowseResponse) :
    ∃ session : ServerSession,
      let outcome := r.resumeBrowse connection address requestedMax
        (.browse response)
      let stored := session.storeBrowseResults response requestedMax
      outcome.progress = .answered (.browse stored.2) ∧
        outcome.touched =
          (if needsPaging requestedMax response then [address] else []) ∧
        ((∃ token, r.sessionAt address = some (token, session) ∧
            outcome.runtime = r.writeSession token stored.1) ∨
          r.sessionAt address = none ∧ outcome.runtime = r) := by
  unfold resumeBrowse
  simp only
  split
  next token session hfound =>
    exact ⟨session, rfl, rfl, .inl ⟨token, hfound, rfl⟩⟩
  next hfound => exact ⟨_, rfl, rfl, .inr ⟨hfound, rfl⟩⟩

theorem resumeBrowse_lookup_of_fits (r : ServerRuntime)
    (connection : ConnectionState) (address : ℕ) {requestedMax : ℕ}
    {response : BrowseResponse}
    (hfits : needsPaging requestedMax response = false) (token : NodeId) :
    (r.resumeBrowse connection address requestedMax
        (.browse response)).runtime.sessions.lookup token =
      r.sessions.lookup token := by
  obtain ⟨session, _, _, hruntime⟩ := r.resumeBrowse_browse connection address
    requestedMax response
  rcases hruntime with ⟨holder, hfound, hruntime⟩ | ⟨_, hruntime⟩
  · rw [hruntime, (session.storeBrowseResults_of_fits hfits).1]
    exact writeSession_self_lookup (sessionAt_eq_some hfound).1 token
  · rw [hruntime]

theorem needsPaging_zero (response : BrowseResponse) :
    needsPaging 0 response = false := by
  simp [needsPaging, ServerSession.exceedsPage]

theorem StoresPoint.congr {before after : ServerRuntime}
    (h : ∀ token, after.sessions.lookup token = before.sessions.lookup token)
    (continuationPoint : ByteString) :
    after.StoresPoint continuationPoint ↔
      before.StoresPoint continuationPoint := by
  simp only [StoresPoint, h]

section Browse

variable {r : ServerRuntime} {connection : ConnectionState}
    {address requestedMax : ℕ} {response : BrowseResponse} {sender : ℕ}

theorem KeepsToSession.mayResumeBrowse
    (h : KeepsToSession r connection
      (r.resumeBrowse connection address requestedMax
        (.browse response)).runtime
      (reportOf sender (r.resumeBrowse connection address requestedMax
        (.browse response)))) :
    MayResumeBrowse r connection address requestedMax (.browse response) := by
  obtain ⟨session, hprogress, htouched, -⟩ := r.resumeBrowse_browse connection
    address requestedMax response
  have hanswer : (reportOf sender (r.resumeBrowse connection address
      requestedMax (.browse response))).answer =
        some (.browse (session.storeBrowseResults response requestedMax).2) := by
    rw [reportOf, hprogress]
    rfl
  refine ⟨fun hneeds => ?_, fun hnone => ?_, fun hzero result hmem hpoint => ?_⟩
  · refine h.touched address ?_
    rw [reportOf, htouched, if_pos hneeds]
    exact List.mem_singleton_self address
  · have hinvalid := h.missing hnone
    rw [hanswer, Option.map_some, Option.some.injEq] at hinvalid
    rw [← session.storeBrowseResults_serviceResult response requestedMax]
    exact hinvalid
  · subst hzero
    have hstored := h.stored response hanswer result hmem hpoint
    exact (StoresPoint.congr (r.resumeBrowse_lookup_of_fits connection address
      (needsPaging_zero response)) _).mp hstored

theorem MayResumeBrowse.keeps_of_needsPaging (hdistinct : r.ObjectsDistinct)
    (hneeds : needsPaging requestedMax response = true) {token : NodeId}
    {session : ServerSession}
    (hfound : r.findAttachedSession connection = some (token, session))
    (haddress : session.address = address) :
    KeepsToSession r connection
      (r.resumeBrowse connection address requestedMax
        (.browse response)).runtime
      (reportOf sender (r.resumeBrowse connection address requestedMax
        (.browse response))) := by
  obtain ⟨htoken, hlookup⟩ := findAttachedSession_eq_some.mp hfound
  have hmax : requestedMax ≠ 0 := by
    rintro rfl
    simp [needsPaging_zero] at hneeds
  have hat : r.sessionAt address = some (token, session) :=
    haddress ▸ hdistinct.sessionAt_eq hlookup
  have houtcome : r.resumeBrowse connection address requestedMax
      (.browse response) =
        { runtime := r.writeSession token
            (session.storeBrowseResults response requestedMax).1
          connection := connection
          progress := .answered
            (.browse (session.storeBrowseResults response requestedMax).2)
          touched := [address] } := by
    simp only [resumeBrowse, hat, hneeds, if_true]
  rw [houtcome]
  constructor
  · intro other hmem
    simp only [reportOf, List.mem_singleton] at hmem
    exact ⟨token, session, hfound, haddress.trans hmem.symm⟩
  · intro other hne
    have hother : other ≠ token := by
      rintro rfl
      exact hne htoken
    rw [writeSession, KeyedMap.lookup_insert_eq, if_neg hother]
  · intro hnone
    simp [hfound] at hnone
  · intro answered hanswer result hmem hpoint
    simp only [reportOf, Progress.answer, Option.some.injEq,
      ResponseBody.browse.injEq] at hanswer
    subst hanswer
    refine ⟨token, _, ?_, session.storeBrowseResults_stores response hmax result
      hmem hpoint⟩
    rw [writeSession, KeyedMap.lookup_insert_eq, if_pos rfl]

/-- A browse whose results fit into their pages does not use its pointer. -/
theorem MayResumeBrowse.keeps_of_fits
    (h : MayResumeBrowse r connection address requestedMax (.browse response))
    (hfits : needsPaging requestedMax response = false) :
    KeepsToSession r connection
      (r.resumeBrowse connection address requestedMax
        (.browse response)).runtime
      (reportOf sender (r.resumeBrowse connection address requestedMax
        (.browse response))) := by
  obtain ⟨-, hmissing, hpoints⟩ := h
  have hlookup := r.resumeBrowse_lookup_of_fits connection address hfits
  obtain ⟨session, hprogress, htouched, -⟩ := r.resumeBrowse_browse connection
    address requestedMax response
  have hanswer : (reportOf sender (r.resumeBrowse connection address
      requestedMax (.browse response))).answer =
        some (.browse (session.storeBrowseResults response requestedMax).2) := by
    rw [reportOf, hprogress]
    rfl
  constructor
  · intro other hmem
    rw [reportOf, htouched, hfits] at hmem
    exact absurd hmem (by simp)
  · exact fun other _ => hlookup other
  · intro hnone
    rw [hanswer, Option.map_some, Option.some.injEq]
    exact (session.storeBrowseResults_serviceResult response requestedMax).trans
      (hmissing hnone)
  · intro answered heq result hmem hpoint
    rw [hanswer, Option.some.injEq, ResponseBody.browse.injEq] at heq
    subst heq
    by_cases hzero : requestedMax = 0
    · subst hzero
      exact (StoresPoint.congr hlookup _).mpr (hpoints rfl result hmem hpoint)
    · exact absurd
        ((session.storeBrowseResults_of_fits hfits).2 hzero result hmem) hpoint

end Browse

theorem resumeBrowse_keepsToSession_iff {r : ServerRuntime}
    (hdistinct : r.ObjectsDistinct) (connection : ConnectionState)
    (address requestedMax : ℕ) (reply : ResponseBody) (sender : ℕ) :
    KeepsToSession r connection
        (r.resumeBrowse connection address requestedMax reply).runtime
        (reportOf sender (r.resumeBrowse connection address requestedMax reply)) ↔
      MayResumeBrowse r connection address requestedMax reply := by
  by_cases hbrowse : ∃ response, reply = .browse response
  · obtain ⟨response, rfl⟩ := hbrowse
    refine ⟨KeepsToSession.mayResumeBrowse, fun hmay => ?_⟩
    cases hneeds : needsPaging requestedMax response with
    | true =>
        obtain ⟨token, session, hfound, haddress⟩ := hmay.1 hneeds
        exact MayResumeBrowse.keeps_of_needsPaging hdistinct hneeds hfound
          haddress
    | false => exact hmay.keeps_of_fits hneeds
  · refine iff_of_true ?_ ?_
    · unfold resumeBrowse
      split
      next response => exact absurd ⟨response, rfl⟩ hbrowse
      next => exact .of_missing rfl rfl (by simp [sessionMissingFault]) rfl
    · unfold MayResumeBrowse
      split
      next response => exact absurd ⟨response, rfl⟩ hbrowse
      next => trivial

end ServerRuntime

namespace ServerState

open ServerRuntime

/-- The request which the action takes up again keeps to the session of its
connection. -/
def ResumesInSession (state : ServerState) (connection : ℕ)
    (action : ServerAction) : Prop :=
  ∃ report, (state.step action).2 = some report ∧
    KeepsToSession state.runtime (state.connections connection)
      (state.step action).1.runtime report

theorem resumesInSession_of_settle {state : ServerState} {connection task : ℕ}
    {action : ServerAction} {outcome : HandlerOutcome}
    (hstep : state.step action =
      (state.takeTask task).settle connection outcome) :
    state.ResumesInSession connection action ↔
      KeepsToSession state.runtime (state.connections connection)
        outcome.runtime (reportOf connection outcome) := by
  rw [ResumesInSession, hstep, settle_report, settle_runtime]
  constructor
  · rintro ⟨report, hreport, hkeeps⟩
    rw [Option.some.injEq] at hreport
    subst hreport
    exact hkeeps
  · exact fun hkeeps => ⟨_, rfl, hkeeps⟩

end ServerState

namespace ServerRun

open ServerState ServerRuntime

/-- After any run, a publish which goes on keeps to the session then attached to
its connection, and a browse does so if and only if it may go on. -/
theorem suspended_request_keeps_to_session
    (context : ServerSessionManagerContext) (operationLimits : OperationLimits)
    (actions : List ServerAction) :
    let state := (runFrom step (start context operationLimits) actions).state
    (∀ task connection ackResults now,
      state.suspended task = some ⟨connection, .publishing ackResults⟩ →
        state.ResumesInSession connection (.delayElapsed task now)) ∧
    ∀ task connection address requestedMax reply,
      state.suspended task =
          some ⟨connection, .browsing address requestedMax⟩ →
        (state.ResumesInSession connection (.served task reply) ↔
          state.runtime.MayResumeBrowse (state.connections connection) address
            requestedMax reply) := by
  intro state
  have hdistinct : state.runtime.ObjectsDistinct := by
    refine runFrom_invariant_of_step
      (P := fun run : ServerRun => run.state.runtime.ObjectsDistinct)
      (fun run action h => step_objectsDistinct h action) ?_ actions
    exact ⟨by simp [start], by simp [start]⟩
  constructor
  · intro task connection ackResults now htask
    have hstep : state.step (.delayElapsed task now) =
        (state.takeTask task).settle connection
          (state.runtime.resumePublish (state.connections connection)
            ackResults now) := by
      simp only [ServerState.step, htask]
    rw [resumesInSession_of_settle hstep]
    exact state.runtime.resumePublish_keepsToSession _ ackResults now connection
  · intro task connection address requestedMax reply htask
    have hstep : state.step (.served task reply) =
        (state.takeTask task).settle connection
          (state.runtime.resumeBrowse (state.connections connection) address
            requestedMax reply) := by
      simp only [ServerState.step, htask]
    rw [resumesInSession_of_settle hstep]
    exact resumeBrowse_keepsToSession_iff hdistinct _ address requestedMax reply
      connection

def browses (connection : ℕ) : ServerAction :=
  .request connection (.browse { requestedMaxReferencesPerNode := 1 }) {}

def twoReferences : ResponseBody :=
  .browse { results := [{ references := [{}, {}] }] }

theorem step_browses {state : ServerState} {connection : ℕ} {token : NodeId}
    {session : ServerSession}
    (hfound : state.runtime.findAttachedSession (state.connections connection) =
      some (token, session)) :
    let next := (state.step (browses connection)).1
    next.suspended state.nextTask =
        some ⟨connection, .browsing session.address 1⟩ ∧
      next.runtime.findAttachedSession (next.connections connection) =
        some (token, session) := by
  have hcurrent : state.runtime.findAttachedSession
      (state.connectionFor connection {}) = some (token, session) := hfound
  simp only [browses, ServerState.step, handle, withAttachedSession, hcurrent,
    settle, Function.update_self]
  exact ⟨rfl, trivial⟩

def returnedPoints : ResponseBody → List ByteString
  | .browse response => response.results.map BrowseResult.continuationPoint
  | _ => []

theorem browse_of_open_session_keeps_to_session :
    let state := (runFrom step (start {} {})
      [creates 0 {}, activates 0 (defaultToken 1) {}, browses 0]).state
    (state.suspended 0).isSome = true ∧
      state.ResumesInSession 0 (.served 0 twoReferences) := by
  intro state
  have hbefore : ∀ before : ServerState, before = (runFrom step (start {} {})
      [creates 0 {}, activates 0 (defaultToken 1) {}]).state →
        before.nextTask = 0 ∧ (before.runtime.findAttachedSession
          (before.connections 0)).isSome = true := by
    rintro _ rfl
    decide +kernel
  obtain ⟨hnext, hattached⟩ := hbefore _ rfl
  obtain ⟨⟨token, session⟩, hfound⟩ := Option.isSome_iff_exists.mp hattached
  obtain ⟨htask, hcurrent⟩ := step_browses hfound
  rw [hnext] at htask
  have hpaged : state.runtime.MayResumeBrowse (state.connections 0)
      session.address 1 twoReferences := by
    refine ⟨fun _ => ⟨token, session, hcurrent, rfl⟩, fun hnone => ?_, ?_⟩
    · have hsome := hcurrent.symm.trans hnone
      simp at hsome
    · exact fun hzero => absurd hzero Nat.one_ne_zero
  have hsuspended := congrArg Option.isSome htask
  have hkeeps := (suspended_request_keeps_to_session {} {}
    [creates 0 {}, activates 0 (defaultToken 1) {}, browses 0]).2
  exact ⟨hsuspended, (hkeeps 0 0 session.address 1 twoReferences htask).mpr
    hpaged⟩

/-- The session is closed from another connection while its browse is suspended.
The browse goes on with the destroyed session, and answers with a continuation
point which no session keeps. -/
theorem browse_of_closed_session_goes_on :
    let state := (runFrom step (start {} {})
      [creates 0 {}, activates 0 (defaultToken 1) {}, browses 0,
        .request 1 (.closeSession { authenticationToken := defaultToken 1 })
          {}]).state
    (state.suspended 0).isSome = true ∧
      state.runtime.sessions.entries.length = 0 ∧
      (state.step (.served 0 twoReferences)).2.map StepReport.touched =
        some [0] ∧
      ((state.step (.served 0 twoReferences)).2.bind StepReport.answer).map
        returnedPoints = some [[1, 0, 0, 0]] ∧
      ¬state.ResumesInSession 0 (.served 0 twoReferences) := by
  intro state
  have htouched : (state.step (.served 0 twoReferences)).2.map
      StepReport.touched = some [0] := by
    decide +kernel
  have hnone : (state.runtime.findAttachedSession
      (state.connections 0)).isNone = true := by
    decide +kernel
  refine ⟨by decide +kernel, by decide +kernel, htouched, by decide +kernel, ?_⟩
  rintro ⟨report, hreport, hkeeps⟩
  rw [hreport, Option.map_some, Option.some.injEq] at htouched
  obtain ⟨token, session, hfound, _⟩ := hkeeps.touched 0 (by simp [htouched])
  simp [hfound] at hnone

end ServerRun
end OpcuaStack
