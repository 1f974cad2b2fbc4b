import OpcuaStack.GuardedRun
import OpcuaStack.ServerSession

/-!
# Paging a browse

What `PageBrowseResult` and `BrowseNext` do to the continuation points of a
session, and how large the pages are which they hand out.
-/

namespace OpcuaStack
namespace ServerSession

/-! ## One result -/

/-- The number of continuation points in use. -/
def livePoints (session : ServerSession) : ℕ :=
  session.browseContinuations.entries.length

/-- The result is cut, and its rest is kept under a new continuation point. -/
def IsPaged (requestedMax : ℕ) (session : ServerSession)
    (result : BrowseResult) : Prop :=
  exceedsPage requestedMax result = true ∧
    session.livePoints < kMaxBrowseContinuationPoints

instance (requestedMax : ℕ) (session : ServerSession) (result : BrowseResult) :
    Decidable (IsPaged requestedMax session result) :=
  inferInstanceAs (Decidable (_ ∧ _))

/-- The result is larger than a page, and there is no continuation point for
it. -/
def IsRefused (requestedMax : ℕ) (session : ServerSession)
    (result : BrowseResult) : Prop :=
  exceedsPage requestedMax result = true ∧
    kMaxBrowseContinuationPoints ≤ session.livePoints

instance (requestedMax : ℕ) (session : ServerSession) (result : BrowseResult) :
    Decidable (IsRefused requestedMax session result) :=
  inferInstanceAs (Decidable (_ ∧ _))

/-- What the point made for the result leads to: a point which is still in use
keeps what it had. -/
def keptReferences (requestedMax : ℕ) (session : ServerSession)
    (result : BrowseResult) : List ReferenceDescription :=
  (session.browseContinuations.lookup session.makeBrowseContinuationPoint).getD
    (result.references.drop requestedMax)

/-- The session after it has made a continuation point for the result. -/
def keepReferences (requestedMax : ℕ) (session : ServerSession)
    (result : BrowseResult) : ServerSession :=
  { session with
    nextBrowseContinuationId := session.nextBrowseContinuationId + 1
    browseContinuations := session.browseContinuations.emplace
      session.makeBrowseContinuationPoint (result.references.drop requestedMax) }

theorem pageBrowseResult_of_fits {requestedMax : ℕ} {result : BrowseResult}
    (h : exceedsPage requestedMax result = false) (session : ServerSession) :
    pageBrowseResult requestedMax session result =
      (session, { result with continuationPoint := [] }) := by
  have hfits : exceedsPage requestedMax { result with continuationPoint := [] } =
      false := h
  simp only [pageBrowseResult, hfits, Bool.not_false, if_true]

theorem pageBrowseResult_of_refused {requestedMax : ℕ}
    {session : ServerSession} {result : BrowseResult}
    (h : IsRefused requestedMax session result) :
    pageBrowseResult requestedMax session result =
      (session, { statusCode := .ofCode .badNoContinuationPoints }) := by
  have hexceeds :
      exceedsPage requestedMax { result with continuationPoint := [] } = true :=
    h.1
  have hfull : kMaxBrowseContinuationPoints ≤
      session.browseContinuations.entries.length := h.2
  simp only [pageBrowseResult, hexceeds, Bool.not_true, Bool.false_eq_true,
    if_false, hfull, if_true]

theorem pageBrowseResult_of_paged {requestedMax : ℕ} {session : ServerSession}
    {result : BrowseResult} (h : IsPaged requestedMax session result) :
    pageBrowseResult requestedMax session result =
      (keepReferences requestedMax session result,
        { result with
          references := result.references.take requestedMax
          continuationPoint := session.makeBrowseContinuationPoint }) := by
  have hexceeds :
      exceedsPage requestedMax { result with continuationPoint := [] } = true :=
    h.1
  have hroom : ¬kMaxBrowseContinuationPoints ≤
      session.browseContinuations.entries.length := not_le.mpr h.2
  simp only [pageBrowseResult, hexceeds, Bool.not_true, Bool.false_eq_true,
    if_false, hroom, keepReferences, KeyedMap.emplace]
  cases session.browseContinuations.lookup session.makeBrowseContinuationPoint
    <;> rfl

theorem fits_or_refused_or_paged (requestedMax : ℕ) (session : ServerSession)
    (result : BrowseResult) :
    exceedsPage requestedMax result = false ∨
      IsRefused requestedMax session result ∨
      IsPaged requestedMax session result := by
  cases hexceeds : exceedsPage requestedMax result with
  | false => exact .inl rfl
  | true =>
      rcases Nat.lt_or_ge session.livePoints kMaxBrowseContinuationPoints with
        hroom | hfull
      · exact .inr (.inr ⟨hexceeds, hroom⟩)
      · exact .inr (.inl ⟨hexceeds, hfull⟩)

theorem lookup_keepReferences (requestedMax : ℕ) (session : ServerSession)
    (result : BrowseResult) (point : ByteString) :
    (keepReferences requestedMax session result).browseContinuations.lookup
        point =
      if point = session.makeBrowseContinuationPoint then
        some (keptReferences requestedMax session result)
      else session.browseContinuations.lookup point :=
  KeyedMap.lookup_emplace ..

theorem lookup_pageBrowseResult {session : ServerSession} {point : ByteString}
    {references : List ReferenceDescription}
    (h : session.browseContinuations.lookup point = some references)
    (requestedMax : ℕ) (result : BrowseResult) :
    (pageBrowseResult requestedMax session result).1.browseContinuations.lookup
      point = some references := by
  rcases fits_or_refused_or_paged requestedMax session result with
    hfits | hrefused | hpaged
  · rw [pageBrowseResult_of_fits hfits]
    exact h
  · rw [pageBrowseResult_of_refused hrefused]
    exact h
  · rw [pageBrowseResult_of_paged hpaged, lookup_keepReferences]
    split
    next heq =>
      subst heq
      rw [keptReferences, h, Option.getD_some]
    next => exact h

theorem length_references_of_fits {requestedMax : ℕ} {result : BrowseResult}
    (hpos : requestedMax ≠ 0) (h : exceedsPage requestedMax result = false) :
    result.references.length ≤ requestedMax := by
  by_contra hlong
  have hexceeds : exceedsPage requestedMax result = true := by
    simp only [exceedsPage, Bool.and_eq_true, decide_eq_true_eq]
    exact ⟨by simpa using hpos, not_le.mp hlong⟩
  rw [hexceeds] at h
  cases h

theorem length_pageBrowseResult_le {requestedMax : ℕ} (hpos : requestedMax ≠ 0)
    (session : ServerSession) (result : BrowseResult) :
    (pageBrowseResult requestedMax session result).2.references.length ≤
      requestedMax := by
  rcases fits_or_refused_or_paged requestedMax session result with
    hfits | hrefused | hpaged
  · rw [pageBrowseResult_of_fits hfits]
    exact length_references_of_fits hpos hfits
  · rw [pageBrowseResult_of_refused hrefused]
    exact Nat.zero_le _
  · rw [pageBrowseResult_of_paged hpaged]
    exact List.length_take_le _ _

/-! ## One continuation point -/

theorem browseNextPoint_dead {session : ServerSession} {point : ByteString}
    (h : session.browseContinuations.lookup point = none) (release : Bool) :
    browseNextPoint release session point =
      (session, { statusCode := .ofCode .badContinuationPointInvalid }) := by
  simp only [browseNextPoint, h]

theorem browseNextPoint_live {session : ServerSession} {point : ByteString}
    {references : List ReferenceDescription}
    (h : session.browseContinuations.lookup point = some references)
    (release : Bool) :
    browseNextPoint release session point =
      ({ session with
          browseContinuations := session.browseContinuations.erase point },
        { statusCode := .good
          references := if release then [] else references }) := by
  simp only [browseNextPoint, h]
  cases release <;> rfl

theorem lookup_browseNextPoint (release : Bool) (session : ServerSession)
    (point other : ByteString) :
    (browseNextPoint release session point).1.browseContinuations.lookup other =
      if other = point then none
      else session.browseContinuations.lookup other := by
  cases hlookup : session.browseContinuations.lookup point with
  | none =>
      rw [browseNextPoint_dead hlookup]
      split
      next heq =>
        subst heq
        exact hlookup
      next => rfl
  | some references =>
      rw [browseNextPoint_live hlookup]
      exact KeyedMap.lookup_erase_eq ..

theorem references_browseNextPoint (release : Bool) (session : ServerSession)
    (point : ByteString) :
    (browseNextPoint release session point).2.references =
      if release then []
      else (session.browseContinuations.lookup point).getD [] := by
  cases hlookup : session.browseContinuations.lookup point with
  | none =>
      rw [browseNextPoint_dead hlookup]
      cases release <;> rfl
  | some references =>
      rw [browseNextPoint_live hlookup]
      rfl

/-! ## The size of a page -/

/-- Nothing larger than a page is kept under the point. -/
def KeepsPage (requestedMax : ℕ) (point : ByteString)
    (session : ServerSession) : Prop :=
  ∀ references, session.browseContinuations.lookup point = some references →
    references.length ≤ requestedMax

/-- What Browse keeps for a result fits on one page.  For a point which was not
in use this says that the result has at most twice as many references as a page
holds. -/
def RestFits (requestedMax : ℕ) (session : ServerSession)
    (result : BrowseResult) : Prop :=
  IsPaged requestedMax session result →
    (keptReferences requestedMax session result).length ≤ requestedMax

theorem restFits_iff_of_unused {requestedMax : ℕ} {session : ServerSession}
    {result : BrowseResult}
    (hunused : session.browseContinuations.lookup
      session.makeBrowseContinuationPoint = none) :
    RestFits requestedMax session result ↔
      (IsPaged requestedMax session result →
        result.references.length ≤ 2 * requestedMax) := by
  unfold RestFits keptReferences
  rw [hunused, Option.getD_none, List.length_drop]
  refine imp_congr_right fun _ => ?_
  omega

/-- The points which the results hand out. -/
def handedOut (results : List BrowseResult) : List ByteString :=
  (results.map BrowseResult.continuationPoint).filter fun point => point ≠ []

theorem mem_handedOut {results : List BrowseResult} {point : ByteString} :
    point ∈ handedOut results ↔
      (∃ result ∈ results, result.continuationPoint = point) ∧ point ≠ [] := by
  simp [handedOut]

theorem makeBrowseContinuationPoint_ne_nil (session : ServerSession) :
    session.makeBrowseContinuationPoint ≠ [] := List.cons_ne_nil _ _

/-- By induction on the results: if what is kept for each of them fits, it
still fits after the loop. -/
theorem keepsPage_of_restFits {requestedMax : ℕ} (results : List BrowseResult)
    (session : ServerSession)
    (hfits : AllMeet (fun session result =>
        (pageBrowseResult requestedMax session result).1)
      (RestFits requestedMax) session results) :
    ∀ point ∈ handedOut
        (collectResults (pageBrowseResult requestedMax) session results).2,
      ∃ references,
        (collectResults (pageBrowseResult requestedMax) session
          results).1.browseContinuations.lookup point = some references ∧
        references.length ≤ requestedMax := by
  induction results generalizing session with
  | nil => simp [collectResults, handedOut]
  | cons result rest ih =>
      intro point hmem
      simp only [collectResults] at hmem ⊢
      obtain ⟨⟨answered, hanswered, hpoint⟩, hne⟩ := mem_handedOut.mp hmem
      rcases List.mem_cons.mp hanswered with rfl | hlater
      · rcases fits_or_refused_or_paged requestedMax session result with
          hfit | hrefused | hpaged
        · rw [pageBrowseResult_of_fits hfit] at hpoint
          exact absurd hpoint.symm hne
        · rw [pageBrowseResult_of_refused hrefused] at hpoint
          exact absurd hpoint.symm hne
        · have hkept : (pageBrowseResult requestedMax session
              result).1.browseContinuations.lookup point =
                some (keptReferences requestedMax session result) := by
            rw [pageBrowseResult_of_paged hpaged] at hpoint ⊢
            rw [lookup_keepReferences, if_pos hpoint.symm]
          refine ⟨_, ?_, hfits.1 hpaged⟩
          exact collectResults_invariant
            (P := fun later : ServerSession =>
              later.browseContinuations.lookup point =
                some (keptReferences requestedMax session result))
            (fun later other hlater =>
              lookup_pageBrowseResult hlater requestedMax other) hkept rest
      · exact ih _ hfits.2 point
          (mem_handedOut.mpr ⟨⟨answered, hlater, hpoint⟩, hne⟩)

/-- By induction on the results: the first one whose rest does not fit leaves a
point under which too much is kept. -/
theorem exists_oversized_of_not_restFits {requestedMax : ℕ}
    (results : List BrowseResult) (session : ServerSession)
    (hnot : ¬AllMeet (fun session result =>
        (pageBrowseResult requestedMax session result).1)
      (RestFits requestedMax) session results) :
    ∃ point ∈ handedOut
        (collectResults (pageBrowseResult requestedMax) session results).2,
      ∃ references,
        (collectResults (pageBrowseResult requestedMax) session
          results).1.browseContinuations.lookup point = some references ∧
        requestedMax < references.length := by
  induction results generalizing session with
  | nil => exact absurd trivial hnot
  | cons result rest ih =>
      simp only [collectResults]
      by_cases hfit : RestFits requestedMax session result
      · obtain ⟨point, hmem, hlarge⟩ := ih _ fun hrest => hnot ⟨hfit, hrest⟩
        obtain ⟨⟨answered, hanswered, hpoint⟩, hne⟩ := mem_handedOut.mp hmem
        exact ⟨point, mem_handedOut.mpr
          ⟨⟨answered, List.mem_cons_of_mem _ hanswered, hpoint⟩, hne⟩, hlarge⟩
      · obtain ⟨hpaged, hlarge⟩ := not_forall.mp hfit
        have hkept : (pageBrowseResult requestedMax session
            result).1.browseContinuations.lookup
              session.makeBrowseContinuationPoint =
                some (keptReferences requestedMax session result) := by
          rw [pageBrowseResult_of_paged hpaged, lookup_keepReferences,
            if_pos rfl]
        refine ⟨session.makeBrowseContinuationPoint, mem_handedOut.mpr
          ⟨⟨_, List.mem_cons_self, ?_⟩,
            session.makeBrowseContinuationPoint_ne_nil⟩, _, ?_,
          not_le.mp hlarge⟩
        · rw [pageBrowseResult_of_paged hpaged]
        · exact collectResults_invariant
            (P := fun later : ServerSession =>
              later.browseContinuations.lookup
                session.makeBrowseContinuationPoint =
                some (keptReferences requestedMax session result))
            (fun later other hlater =>
              lookup_pageBrowseResult hlater requestedMax other) hkept rest

/-- A sequence of BrowseNext calls, with the results of all of them. -/
def browseNextAll (session : ServerSession) (requests : List BrowseNextRequest) :
    ServerSession × List BrowseResult :=
  let (session, responses) := collectResults browseNext session requests
  (session, responses.flatMap BrowseResponse.results)

theorem KeepsPage.browseNextPoint {requestedMax : ℕ} {point : ByteString}
    {session : ServerSession} (h : KeepsPage requestedMax point session)
    (release : Bool) (other : ByteString) :
    KeepsPage requestedMax point (browseNextPoint release session other).1 := by
  intro references hlookup
  rw [lookup_browseNextPoint] at hlookup
  split at hlookup
  next => cases hlookup
  next => exact h references hlookup

theorem length_browseNext_le {requestedMax : ℕ} {points : List ByteString}
    {session : ServerSession}
    (h : ∀ point ∈ points, KeepsPage requestedMax point session)
    (request : BrowseNextRequest)
    (hpoints : ∀ point ∈ request.continuationPoints, point ∈ points) :
    (∀ point ∈ points,
        KeepsPage requestedMax point (session.browseNext request).1) ∧
      ∀ result ∈ (session.browseNext request).2.results,
        result.references.length ≤ requestedMax := by
  have hloop : ∀ (asked : List ByteString) (session : ServerSession),
      (∀ point ∈ asked, point ∈ points) →
      (∀ point ∈ points, KeepsPage requestedMax point session) →
      (∀ point ∈ points, KeepsPage requestedMax point
          (collectResults (ServerSession.browseNextPoint
            request.releaseContinuationPoints) session asked).1) ∧
        ∀ result ∈ (collectResults (ServerSession.browseNextPoint
            request.releaseContinuationPoints) session asked).2,
          result.references.length ≤ requestedMax := by
    intro asked
    induction asked with
    | nil => exact fun session _ hkeeps => ⟨hkeeps, by simp [collectResults]⟩
    | cons first asked ih =>
        intro session hasked hkeeps
        have hfirst := hkeeps first (hasked first List.mem_cons_self)
        obtain ⟨hafter, hrest⟩ := ih
          (ServerSession.browseNextPoint request.releaseContinuationPoints
            session first).1
          (fun point hmem => hasked point (List.mem_cons_of_mem _ hmem))
          (fun point hmem => (hkeeps point hmem).browseNextPoint _ _)
        refine ⟨hafter, fun result hmem => ?_⟩
        rcases List.mem_cons.mp hmem with heq | hlater
        · change result = (ServerSession.browseNextPoint
            request.releaseContinuationPoints session first).2 at heq
          rw [heq, references_browseNextPoint]
          split
          next => exact Nat.zero_le _
          next =>
            cases hlookup : session.browseContinuations.lookup first with
            | none => exact Nat.zero_le _
            | some references => exact hfirst references hlookup
        · exact hrest result hlater
  exact hloop request.continuationPoints session hpoints h

/-- After a Browse with a page size, every result of it and of the BrowseNext
calls on its continuation points fits on a page, exactly if what Browse keeps
for each result it pages does. -/
theorem browse_pages_fit_iff (session : ServerSession)
    (response : BrowseResponse) {requestedMax : ℕ} (hpos : 0 < requestedMax) :
    ((∀ result ∈ (session.storeBrowseResults response requestedMax).2.results,
        result.references.length ≤ requestedMax) ∧
      ∀ requests : List BrowseNextRequest,
        (∀ request ∈ requests, ∀ point ∈ request.continuationPoints, point ∈
          handedOut
            (session.storeBrowseResults response requestedMax).2.results) →
        ∀ result ∈ ((session.storeBrowseResults response
            requestedMax).1.browseNextAll requests).2,
          result.references.length ≤ requestedMax) ↔
      AllMeet (fun session result =>
          (pageBrowseResult requestedMax session result).1)
        (RestFits requestedMax) session response.results := by
  have hne : requestedMax ≠ 0 := Nat.ne_of_gt hpos
  have hstored : session.storeBrowseResults response requestedMax =
      ((collectResults (pageBrowseResult requestedMax) session
          response.results).1,
        { response with results :=
            (collectResults (pageBrowseResult requestedMax) session
              response.results).2 }) := by
    rw [storeBrowseResults, if_neg hne]
  rw [hstored]
  dsimp only
  constructor
  · rintro ⟨-, hnext⟩
    by_contra hnot
    obtain ⟨point, hmem, references, hlookup, hlarge⟩ :=
      exists_oversized_of_not_restFits response.results session hnot
    have hresults : ((collectResults (pageBrowseResult requestedMax) session
        response.results).1.browseNextAll [{ continuationPoints := [point] }]).2 =
          [(browseNextPoint false (collectResults (pageBrowseResult requestedMax)
            session response.results).1 point).2] := rfl
    have hfits := hnext [{ continuationPoints := [point] }]
      (fun request hrequest asked hasked => by
        rw [List.mem_singleton.mp hrequest] at hasked
        rw [List.mem_singleton.mp hasked]
        exact hmem)
      _ (by rw [hresults]; exact List.mem_singleton.mpr rfl)
    rw [references_browseNextPoint, hlookup] at hfits
    exact absurd hfits (not_le.mpr hlarge)
  · intro hfits
    refine ⟨?_, fun requests hrequests => ?_⟩
    · exact collectResults_results
        (Q := fun (_ : ServerSession) (result : BrowseResult) =>
          result.references.length ≤ requestedMax)
        (fun session result => length_pageBrowseResult_le hne session result)
        (fun _ _ _ hsize => hsize) session response.results
    · have hkept := keepsPage_of_restFits response.results session hfits
      have hkeeps : ∀ point ∈ handedOut (collectResults
          (pageBrowseResult requestedMax) session response.results).2,
          KeepsPage requestedMax point (collectResults
            (pageBrowseResult requestedMax) session response.results).1 := by
        intro point hmem references hlookup
        obtain ⟨kept, hfound, hsize⟩ := hkept point hmem
        rw [hfound] at hlookup
        rw [← Option.some.inj hlookup]
        exact hsize
      have hloop : ∀ (requests : List BrowseNextRequest)
          (points : List ByteString) (session : ServerSession),
          (∀ point ∈ points, KeepsPage requestedMax point session) →
          (∀ request ∈ requests, ∀ point ∈ request.continuationPoints,
            point ∈ points) →
          ∀ result ∈ (session.browseNextAll requests).2,
            result.references.length ≤ requestedMax := by
        intro requests points
        induction requests with
        | nil => simp [browseNextAll, collectResults]
        | cons request requests ih =>
            intro session hsession hpoints result hmem
            obtain ⟨hafter, hsizes⟩ := length_browseNext_le hsession request
              (hpoints request List.mem_cons_self)
            simp only [browseNextAll, collectResults, List.flatMap_cons,
              List.mem_append] at hmem
            rcases hmem with hfirst | hlater
            · exact hsizes result hfirst
            · exact ih _ hafter
                (fun other hother =>
                  hpoints other (List.mem_cons_of_mem _ hother))
                result hlater
      exact hloop requests _ _ hkeeps hrequests

def pagingSession : ServerSession :=
  { address := 0, sessionId := {}, serviceContext := {}, operationLimits := {} }

/-- Two pages of one reference each. -/
theorem two_references_fit_two_pages :
    let response : BrowseResponse := { results := [{ references := [{}, {}] }] }
    ((∀ result ∈ (pagingSession.storeBrowseResults response 1).2.results,
        result.references.length ≤ 1) ∧
      ∀ requests : List BrowseNextRequest,
        (∀ request ∈ requests, ∀ point ∈ request.continuationPoints, point ∈
          handedOut (pagingSession.storeBrowseResults response 1).2.results) →
        ∀ result ∈ ((pagingSession.storeBrowseResults response
            1).1.browseNextAll requests).2,
          result.references.length ≤ 1) := by
  refine (browse_pages_fit_iff pagingSession _ Nat.one_pos).mpr ⟨?_, trivial⟩
  exact (restFits_iff_of_unused rfl).mpr fun _ => le_rfl

/-- With three references and pages of one, the second page has two. -/
theorem second_page_exceeds_limit :
    let browse := pagingSession.storeBrowseResults
      { results := [{ references := [{}, {}, {}] }] } 1
    ∃ result ∈ (browse.1.browseNextAll
        [{ continuationPoints := handedOut browse.2.results }]).2,
      1 < result.references.length := by
  refine ⟨{ references := [{}, {}] }, ?_, by decide⟩
  exact List.mem_singleton.mpr rfl

end ServerSession
end OpcuaStack
