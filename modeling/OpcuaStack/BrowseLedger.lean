import OpcuaStack.BrowsePaging

/-!
# What a client gets by paging

A ledger of the pages which a session has handed out: what the browse found,
what the page showed, and what resuming the continuation point of the page has
returned since.  As long as no continuation point of someone else's is passed
on, every page adds up to what its browse found.
-/

namespace OpcuaStack

/-- A page as its client sees it. -/
structure BrowsePage where
  original : List ReferenceDescription
  first : List ReferenceDescription
  point : ByteString
  resumed : List (List ReferenceDescription) := []
  released : Bool := false

/-- A session, how many continuation points it has made, and the pages which it
has returned and not refused. -/
structure BrowseRun where
  session : ServerSession
  made : ℕ := 0
  pages : List BrowsePage := []

inductive BrowseEvent where
  | browse (response : BrowseResponse) (requestedMax : ℕ)
  | browseNext (request : BrowseNextRequest)

/-- The bytes of a number, little-endian. -/
def continuationPointOf (raw : UInt32) : ByteString :=
  [raw.toUInt8, (raw >>> 8).toUInt8, (raw >>> 16).toUInt8, (raw >>> 24).toUInt8]

theorem continuationPointOf_injective : Function.Injective continuationPointOf := by
  intro first second h
  simp only [continuationPointOf, List.cons.injEq, and_true] at h
  obtain ⟨h0, h1, h2, h3⟩ := h
  have hbytes : ∀ a b : UInt32, a.toUInt8 = b.toUInt8 →
      a.toNat % 256 = b.toNat % 256 := by
    intro a b hab
    have hnat := congrArg UInt8.toNat hab
    simpa using hnat
  have e0 := hbytes _ _ h0
  have e1 := hbytes _ _ h1
  have e2 := hbytes _ _ h2
  have e3 := hbytes _ _ h3
  have s8 : (8 : UInt32).toNat % 32 = 8 := rfl
  have s16 : (16 : UInt32).toNat % 32 = 16 := rfl
  have s24 : (24 : UInt32).toNat % 32 = 24 := rfl
  simp only [UInt32.toNat_shiftRight, Nat.shiftRight_eq_div_pow, s8, s16, s24]
    at e1 e2 e3
  have hfirst := first.toNat_lt
  have hsecond := second.toNat_lt
  apply UInt32.toNat_inj.mp
  omega

/-- The point with a number, as the session counts. -/
def numberedPoint (n : ℕ) : ByteString := continuationPointOf (UInt32.ofNat n)

theorem numberedPoint_inj {n m : ℕ} (hn : n < 2 ^ 32) (hm : m < 2 ^ 32)
    (h : numberedPoint n = numberedPoint m) : n = m := by
  have hraw := congrArg UInt32.toNat (continuationPointOf_injective h)
  rwa [UInt32.toNat_ofNat_of_lt' hn, UInt32.toNat_ofNat_of_lt' hm] at hraw

namespace BrowseRun

open ServerSession

def start (session : ServerSession) : BrowseRun where
  session := session

/-- A result which is returned as it is. -/
def wholePage (result : BrowseResult) : BrowsePage where
  original := result.references
  first := result.references
  point := result.continuationPoint

/-- The page which a round of the loop of Browse returns. -/
def cutPage (requestedMax : ℕ) (session : ServerSession)
    (result : BrowseResult) : BrowsePage where
  original := result.references
  first := (pageBrowseResult requestedMax session result).2.references
  point := (pageBrowseResult requestedMax session result).2.continuationPoint

/-- A round of the loop of Browse. -/
def browseOne (requestedMax : ℕ) (r : BrowseRun) (result : BrowseResult) :
    BrowseRun where
  session := (pageBrowseResult requestedMax r.session result).1
  made := if IsPaged requestedMax r.session result then r.made + 1 else r.made
  pages :=
    if IsRefused requestedMax r.session result then r.pages
    else r.pages ++ [cutPage requestedMax r.session result]

/-- What the answer for a point in use says to the client of a page. -/
def answeredPage (point : ByteString) (release : Bool)
    (references : List ReferenceDescription) (page : BrowsePage) : BrowsePage :=
  if page.point = point then
    if release then { page with released := true }
    else { page with resumed := page.resumed ++ [references] }
  else page

/-- A round of the loop of BrowseNext. -/
def browseNextOne (release : Bool) (r : BrowseRun) (point : ByteString) :
    BrowseRun :=
  { r with
    session := (browseNextPoint release r.session point).1
    pages :=
      match r.session.browseContinuations.lookup point with
      | none => r.pages
      | some _ => r.pages.map (answeredPage point release
          (browseNextPoint release r.session point).2.references) }

def step (r : BrowseRun) : BrowseEvent → BrowseRun
  | .browse response requestedMax =>
      if requestedMax = 0 then
        { r with
          session := (r.session.storeBrowseResults response requestedMax).1
          pages := r.pages ++ response.results.map wholePage }
      else response.results.foldl (browseOne requestedMax) r
  | .browseNext request =>
      request.continuationPoints.foldl
        (browseNextOne request.releaseContinuationPoints) r

/-! ## The state of a page -/

/-- Where the page stands: its point is not one of the session's; or its rest is
kept, or was returned once, or was given up. -/
inductive PageStands (final : ℕ) (r : BrowseRun) (page : BrowsePage) : Prop where
  | whole (hpoint : ∀ n, 1 ≤ n → n ≤ final → page.point ≠ numberedPoint n)
      (hfirst : page.first = page.original) (hresumed : page.resumed = [])
      (hreleased : page.released = false)
  | kept {n : ℕ} (hn : 1 ≤ n ∧ n ≤ r.made) (hpoint : page.point = numberedPoint n)
      {rest : List ReferenceDescription}
      (hkept : r.session.browseContinuations.lookup page.point = some rest)
      (hparts : page.first ++ rest = page.original)
      (hresumed : page.resumed = []) (hreleased : page.released = false)
  | returned {n : ℕ} (hn : 1 ≤ n ∧ n ≤ r.made)
      (hpoint : page.point = numberedPoint n)
      {rest : List ReferenceDescription}
      (hgone : r.session.browseContinuations.lookup page.point = none)
      (hparts : page.first ++ rest = page.original)
      (hresumed : page.resumed = [rest]) (hreleased : page.released = false)
  | givenUp {n : ℕ} (hn : 1 ≤ n ∧ n ≤ r.made)
      (hpoint : page.point = numberedPoint n)
      (hgone : r.session.browseContinuations.lookup page.point = none)
      (hresumed : page.resumed = []) (hreleased : page.released = true)

structure Sound (final : ℕ) (r : BrowseRun) : Prop where
  counter : r.session.nextBrowseContinuationId = UInt32.ofNat (r.made + 1)
  numbered : ∀ point references,
    r.session.browseContinuations.lookup point = some references →
      ∃ n, (1 ≤ n ∧ n ≤ r.made) ∧ point = numberedPoint n
  bounded : r.session.livePoints ≤ kMaxBrowseContinuationPoints
  pages : ∀ page ∈ r.pages, PageStands final r page

theorem Sound.makePoint_eq {final : ℕ} {r : BrowseRun} (h : Sound final r) :
    r.session.makeBrowseContinuationPoint = numberedPoint (r.made + 1) := by
  unfold makeBrowseContinuationPoint numberedPoint continuationPointOf
  rw [h.counter]

/-- A page stands as it stood if nothing has happened to its point. -/
theorem PageStands.of_lookup_eq {final : ℕ} {r after : BrowseRun}
    {page : BrowsePage} (h : PageStands final r page)
    (hmade : r.made ≤ after.made)
    (hlookup : ∀ n, (1 ≤ n ∧ n ≤ r.made) → page.point = numberedPoint n →
      after.session.browseContinuations.lookup page.point =
        r.session.browseContinuations.lookup page.point) :
    PageStands final after page := by
  cases h with
  | whole hpoint hfirst hresumed hreleased =>
      exact .whole hpoint hfirst hresumed hreleased
  | kept hn hpoint hkept hparts hresumed hreleased =>
      refine .kept ⟨hn.1, hn.2.trans hmade⟩ hpoint ?_ hparts hresumed hreleased
      rw [hlookup _ hn hpoint]
      exact hkept
  | returned hn hpoint hgone hparts hresumed hreleased =>
      refine .returned ⟨hn.1, hn.2.trans hmade⟩ hpoint ?_ hparts hresumed
        hreleased
      rw [hlookup _ hn hpoint]
      exact hgone
  | givenUp hn hpoint hgone hresumed hreleased =>
      refine .givenUp ⟨hn.1, hn.2.trans hmade⟩ hpoint ?_ hresumed hreleased
      rw [hlookup _ hn hpoint]
      exact hgone

/-! ## A round of Browse -/

theorem made_browseOne (requestedMax : ℕ) (r : BrowseRun)
    (result : BrowseResult) : r.made ≤ (browseOne requestedMax r result).made := by
  unfold browseOne
  dsimp only
  split <;> omega

theorem numberedPoint_ne_nil (n : ℕ) : numberedPoint n ≠ [] :=
  List.cons_ne_nil _ _

theorem Sound.makePoint_unused {final : ℕ} {r : BrowseRun} (h : Sound final r)
    (hmade : r.made + 1 ≤ final) (hfinal : final < 2 ^ 32) :
    r.session.browseContinuations.lookup
      r.session.makeBrowseContinuationPoint = none := by
  cases hlookup : r.session.browseContinuations.lookup
      r.session.makeBrowseContinuationPoint with
  | none => rfl
  | some references =>
      obtain ⟨n, hn, hpoint⟩ := h.numbered _ _ hlookup
      rw [h.makePoint_eq] at hpoint
      have heq := numberedPoint_inj (by omega) (by omega) hpoint
      omega

theorem length_insert_of_none {κ α : Type} [DecidableEq κ] {m : KeyedMap κ α}
    {k : κ} (h : m.lookup k = none) (a : α) :
    (m.insert k a).entries.length = m.entries.length + 1 := by
  rw [AList.entries_insert_of_notMem (AList.lookup_eq_none.mp h),
    List.length_cons]

theorem Sound.browseOne_paged {final : ℕ} {r : BrowseRun} (h : Sound final r)
    {requestedMax : ℕ} {result : BrowseResult}
    (hpaged : IsPaged requestedMax r.session result)
    (hmade : (browseOne requestedMax r result).made ≤ final)
    (hfinal : final < 2 ^ 32) : Sound final (browseOne requestedMax r result) := by
  have hnotRefused : ¬IsRefused requestedMax r.session result :=
    fun hrefused => absurd hrefused.2 (not_le.mpr hpaged.2)
  have hcount : (browseOne requestedMax r result).made = r.made + 1 :=
    if_pos hpaged
  have hpages : (browseOne requestedMax r result).pages =
      r.pages ++ [cutPage requestedMax r.session result] := if_neg hnotRefused
  have hsession : (browseOne requestedMax r result).session =
      keepReferences requestedMax r.session result :=
    congrArg Prod.fst (pageBrowseResult_of_paged hpaged)
  have hunused := h.makePoint_unused (by omega) hfinal
  have hkept : keptReferences requestedMax r.session result =
      result.references.drop requestedMax := by
    rw [keptReferences, hunused, Option.getD_none]
  have hlookup : ∀ point,
      (browseOne requestedMax r result).session.browseContinuations.lookup
          point =
        if point = numberedPoint (r.made + 1) then
          some (result.references.drop requestedMax)
        else r.session.browseContinuations.lookup point := by
    intro point
    rw [hsession, lookup_keepReferences, hkept, h.makePoint_eq]
  refine ⟨?_, fun point references hfound => ?_, ?_, fun page hmem => ?_⟩
  · rw [hsession, hcount]
    change r.session.nextBrowseContinuationId + 1 = _
    rw [h.counter]
    exact (UInt32.ofNat_add (r.made + 1) 1).symm
  · rw [hlookup] at hfound
    split at hfound
    next heq => exact ⟨r.made + 1, ⟨by omega, by omega⟩, heq⟩
    next =>
      obtain ⟨n, hn, hpoint⟩ := h.numbered point references hfound
      exact ⟨n, ⟨hn.1, by omega⟩, hpoint⟩
  · rw [hsession, livePoints, keepReferences,
      KeyedMap.emplace_of_none hunused, length_insert_of_none hunused]
    exact hpaged.2
  · rw [hpages] at hmem
    rcases List.mem_append.mp hmem with hold | hnew
    · refine (h.pages page hold).of_lookup_eq (by omega) fun n hn hpoint => ?_
      rw [hlookup, if_neg]
      rw [hpoint]
      intro heq
      have hsame := numberedPoint_inj (by omega) (by omega) heq
      omega
    · obtain rfl := List.mem_singleton.mp hnew
      have hcut : cutPage requestedMax r.session result =
          { original := result.references
            first := result.references.take requestedMax
            point := numberedPoint (r.made + 1) } := by
        unfold cutPage
        rw [pageBrowseResult_of_paged hpaged, h.makePoint_eq]
      rw [hcut]
      refine .kept (n := r.made + 1) ⟨by omega, by omega⟩ rfl ?_
        (List.take_append_drop requestedMax result.references) rfl rfl
      rw [hlookup, if_pos rfl]

theorem Sound.browseOne {final : ℕ} {r : BrowseRun} (h : Sound final r)
    {requestedMax : ℕ} {result : BrowseResult}
    (hmade : (browseOne requestedMax r result).made ≤ final)
    (hfinal : final < 2 ^ 32) :
    Sound final (BrowseRun.browseOne requestedMax r result) := by
  rcases fits_or_refused_or_paged requestedMax r.session result with
    hfits | hrefused | hpaged
  · have hnot : ¬IsRefused requestedMax r.session result := by
      intro hrefused
      rw [hrefused.1] at hfits
      cases hfits
    have hnotPaged : ¬IsPaged requestedMax r.session result := by
      intro hpaged
      rw [hpaged.1] at hfits
      cases hfits
    have hafter : BrowseRun.browseOne requestedMax r result =
        { r with pages := r.pages ++
          [{ original := result.references
             first := result.references
             point := [] }] } := by
      unfold BrowseRun.browseOne cutPage
      rw [pageBrowseResult_of_fits hfits, if_neg hnot, if_neg hnotPaged]
    rw [hafter]
    refine ⟨h.counter, h.numbered, h.bounded, fun page hmem => ?_⟩
    rcases List.mem_append.mp hmem with hold | hnew
    · exact (h.pages page hold).of_lookup_eq le_rfl fun _ _ _ => rfl
    · rw [List.mem_singleton.mp hnew]
      exact .whole (fun n _ _ => (numberedPoint_ne_nil n).symm) rfl rfl rfl
  · have hnotPaged : ¬IsPaged requestedMax r.session result :=
      fun hpaged => absurd hrefused.2 (not_le.mpr hpaged.2)
    have hafter : BrowseRun.browseOne requestedMax r result = r := by
      unfold BrowseRun.browseOne
      rw [pageBrowseResult_of_refused hrefused, if_pos hrefused,
        if_neg hnotPaged]
    rw [hafter]
    exact h
  · exact h.browseOne_paged hpaged hmade hfinal

theorem made_foldl_browseOne (requestedMax : ℕ) (results : List BrowseResult)
    (r : BrowseRun) :
    r.made ≤ (results.foldl (BrowseRun.browseOne requestedMax) r).made := by
  induction results generalizing r with
  | nil => exact le_rfl
  | cons result rest ih =>
      exact (made_browseOne requestedMax r result).trans (ih _)

theorem Sound.browse {final : ℕ} {requestedMax : ℕ} (hfinal : final < 2 ^ 32)
    (results : List BrowseResult) {r : BrowseRun} (h : Sound final r)
    (hmade : (results.foldl (BrowseRun.browseOne requestedMax) r).made ≤ final) :
    Sound final (results.foldl (BrowseRun.browseOne requestedMax) r) := by
  induction results generalizing r with
  | nil => exact h
  | cons result rest ih =>
      have hround : (BrowseRun.browseOne requestedMax r result).made ≤ final :=
        (made_foldl_browseOne requestedMax rest _).trans hmade
      exact ih (h.browseOne hround hfinal) hmade

/-! ## A round of BrowseNext -/

theorem Sound.browseNextOne {final : ℕ} {r : BrowseRun} (h : Sound final r)
    (hmade : r.made ≤ final) (release : Bool) (point : ByteString) :
    Sound final (browseNextOne release r point) := by
  cases hlookup : r.session.browseContinuations.lookup point with
  | none =>
      have hafter : BrowseRun.browseNextOne release r point = r := by
        unfold BrowseRun.browseNextOne
        rw [browseNextPoint_dead hlookup, hlookup]
      rw [hafter]
      exact h
  | some references =>
      have hsession : (BrowseRun.browseNextOne release r point).session =
          { r.session with
            browseContinuations :=
              r.session.browseContinuations.erase point } := by
        unfold BrowseRun.browseNextOne
        rw [browseNextPoint_live hlookup]
      have hafter : ∀ other,
          (BrowseRun.browseNextOne release r
              point).session.browseContinuations.lookup other =
            if other = point then none
            else r.session.browseContinuations.lookup other :=
        fun other => lookup_browseNextPoint release r.session point other
      have hpages : (BrowseRun.browseNextOne release r point).pages =
          r.pages.map (answeredPage point release
            (if release then [] else references)) := by
        unfold BrowseRun.browseNextOne
        rw [browseNextPoint_live hlookup]
        simp only [hlookup]
      refine ⟨?_, fun other kept hfound => ?_, ?_, fun page hmem => ?_⟩
      · rw [hsession]
        exact h.counter
      · rw [hafter] at hfound
        split at hfound
        next => cases hfound
        next => exact h.numbered other kept hfound
      · rw [hsession]
        refine le_trans ?_ h.bounded
        exact (List.kerase_sublist point _).length_le
      · rw [hpages] at hmem
        obtain ⟨before, hbefore, rfl⟩ := List.mem_map.mp hmem
        have hstands := h.pages before hbefore
        by_cases heq : before.point = point
        · subst heq
          have hanswered : answeredPage before.point release
              (if release then [] else references) before =
                if release then { before with released := true }
                else { before with resumed := before.resumed ++
                  [if release then [] else references] } := if_pos rfl
          have hgone : (BrowseRun.browseNextOne release r
              before.point).session.browseContinuations.lookup before.point =
                none := by
            rw [hafter, if_pos rfl]
          rw [hanswered]
          cases hstands with
          | whole hpoint _ _ _ =>
              obtain ⟨n, hn, hnumber⟩ := h.numbered _ _ hlookup
              exact absurd hnumber (hpoint n hn.1 (hn.2.trans hmade))
          | kept hn hpoint hkept hparts hresumed hreleased =>
              rw [hlookup] at hkept
              obtain rfl := Option.some.inj hkept
              cases release with
              | false =>
                  refine .returned hn hpoint hgone hparts ?_ hreleased
                  simp [hresumed]
              | true => exact .givenUp hn hpoint hgone hresumed rfl
          | returned _ _ hnone _ _ _ =>
              rw [hlookup] at hnone
              cases hnone
          | givenUp _ _ hnone _ _ =>
              rw [hlookup] at hnone
              cases hnone
        · have hanswered : answeredPage point release
              (if release then [] else references) before = before := if_neg heq
          rw [hanswered]
          refine hstands.of_lookup_eq le_rfl fun n _ _ => ?_
          rw [hafter, if_neg heq]

theorem made_foldl_browseNextOne (release : Bool) (points : List ByteString)
    (r : BrowseRun) :
    (points.foldl (BrowseRun.browseNextOne release) r).made = r.made := by
  induction points generalizing r with
  | nil => rfl
  | cons point points ih => exact ih (BrowseRun.browseNextOne release r point)

theorem Sound.browseNext {final : ℕ} (release : Bool) (points : List ByteString)
    {r : BrowseRun} (h : Sound final r) (hmade : r.made ≤ final) :
    Sound final (points.foldl (BrowseRun.browseNextOne release) r) := by
  induction points generalizing r with
  | nil => exact h
  | cons point points ih => exact ih (h.browseNextOne hmade release point) hmade

/-! ## Runs -/

theorem made_step (r : BrowseRun) (event : BrowseEvent) :
    r.made ≤ (r.step event).made := by
  cases event with
  | browse response requestedMax =>
      dsimp only [step]
      split
      next => exact le_rfl
      next => exact made_foldl_browseOne requestedMax response.results r
  | browseNext request =>
      exact (made_foldl_browseNextOne _ request.continuationPoints r).ge

/-- The numbers of the points made stay below the bound, and results which are
returned as they are carry no point with such a number. -/
def PassesNoPoint (final : ℕ) (r : BrowseRun) (event : BrowseEvent) : Prop :=
  (r.step event).made ≤ final ∧
    match event with
    | .browse response requestedMax =>
        requestedMax = 0 → ∀ result ∈ response.results, ∀ n, 1 ≤ n → n ≤ final →
          result.continuationPoint ≠ numberedPoint n
    | .browseNext _ => True

theorem Sound.step {final : ℕ} (hfinal : final < 2 ^ 32) {r : BrowseRun}
    (h : Sound final r) {event : BrowseEvent}
    (hevent : PassesNoPoint final r event) : Sound final (r.step event) := by
  obtain ⟨hmade, hforeign⟩ := hevent
  cases event with
  | browse response requestedMax =>
      dsimp only [BrowseRun.step] at hmade ⊢
      by_cases hzero : requestedMax = 0
      · rw [if_pos hzero]
        have hsession :
            (r.session.storeBrowseResults response requestedMax).1 =
              r.session := by
          rw [storeBrowseResults, if_pos hzero]
        rw [hsession]
        refine ⟨h.counter, h.numbered, h.bounded, fun page hmem => ?_⟩
        rcases List.mem_append.mp hmem with hold | hnew
        · exact (h.pages page hold).of_lookup_eq le_rfl fun _ _ _ => rfl
        · obtain ⟨result, hresult, rfl⟩ := List.mem_map.mp hnew
          exact .whole (hforeign hzero result hresult) rfl rfl rfl
      · rw [if_neg hzero] at hmade ⊢
        exact Sound.browse hfinal response.results h hmade
  | browseNext request =>
      exact h.browseNext _ _ ((r.made_step _).trans hmade)

theorem start_sound {final : ℕ} {session : ServerSession}
    (hunused : session.browseContinuations = ∅)
    (hcounter : session.nextBrowseContinuationId = 1) :
    Sound final (start session) := by
  refine ⟨hcounter, fun point references hlookup => ?_, ?_, fun page hmem => ?_⟩
  · rw [start, hunused] at hlookup
    cases hlookup
  · rw [start, livePoints, hunused]
    exact Nat.zero_le _
  · cases hmem

/-- What is in the hands of the client, and what the session still keeps for it,
is what the browse found; the continuation point yields references at most once,
and then is gone. -/
structure Accounted (session : ServerSession) (page : BrowsePage) : Prop where
  complete : page.released = false →
    page.first ++ page.resumed.flatten ++
        (session.browseContinuations.lookup page.point).getD [] =
      page.original
  once : page.resumed.length ≤ 1
  consumed : page.resumed ≠ [] ∨ page.released = true →
    session.browseContinuations.lookup page.point = none

theorem Sound.accounted {final : ℕ} {r : BrowseRun} (h : Sound final r)
    (hmade : r.made ≤ final) {page : BrowsePage} (hmem : page ∈ r.pages) :
    Accounted r.session page := by
  cases h.pages page hmem with
  | whole hpoint hfirst hresumed hreleased =>
      have hnone : r.session.browseContinuations.lookup page.point = none := by
        cases hlookup : r.session.browseContinuations.lookup page.point with
        | none => rfl
        | some references =>
            obtain ⟨n, hn, hnumber⟩ := h.numbered _ _ hlookup
            exact absurd hnumber (hpoint n hn.1 (hn.2.trans hmade))
      refine ⟨fun _ => ?_, by simp [hresumed], fun _ => hnone⟩
      rw [hnone, hresumed, hfirst]
      simp
  | kept hn hpoint hkept hparts hresumed hreleased =>
      refine ⟨fun _ => ?_, by simp [hresumed], fun hused => ?_⟩
      · rw [hkept, hresumed, ← hparts]
        simp
      · rw [hresumed, hreleased] at hused
        simp at hused
  | returned hn hpoint hgone hparts hresumed hreleased =>
      refine ⟨fun _ => ?_, by simp [hresumed], fun _ => hgone⟩
      rw [hgone, hresumed, ← hparts]
      simp
  | givenUp hn hpoint hgone hresumed hreleased =>
      refine ⟨fun hkept => ?_, by simp [hresumed], fun _ => hgone⟩
      rw [hreleased] at hkept
      cases hkept

/-- What a session does with its continuation points, in any state: one which is
gone is answered so, one in use is answered once, the others keep what they
have, and a result for which there is none is refused. -/
structure KeepsPoints (session : ServerSession) : Prop where
  bounded : session.livePoints ≤ kMaxBrowseContinuationPoints
  dead : ∀ release point, session.browseContinuations.lookup point = none →
    browseNextPoint release session point =
      (session, { statusCode := .ofCode .badContinuationPointInvalid })
  last : ∀ release point,
    (browseNextPoint release session point).2.continuationPoint = [] ∧
      (browseNextPoint release session point).1.browseContinuations.lookup
        point = none
  others : ∀ release point other, other ≠ point →
    (browseNextPoint release session point).1.browseContinuations.lookup other =
      session.browseContinuations.lookup other
  refused : ∀ requestedMax result, IsRefused requestedMax session result →
    pageBrowseResult requestedMax session result =
      (session, { statusCode := .ofCode .badNoContinuationPoints })

theorem keepsPoints_of_bounded {session : ServerSession}
    (h : session.livePoints ≤ kMaxBrowseContinuationPoints) :
    KeepsPoints session where
  bounded := h
  dead release point hdead := browseNextPoint_dead hdead release
  last release point := by
    constructor
    · cases hlookup : session.browseContinuations.lookup point with
      | none => rw [browseNextPoint_dead hlookup]
      | some references => rw [browseNextPoint_live hlookup]
    · rw [lookup_browseNextPoint, if_pos rfl]
  others release point other hne := by
    rw [lookup_browseNextPoint, if_neg hne]
  refused requestedMax result hrefused := pageBrowseResult_of_refused hrefused

/-- In a run of Browse and BrowseNext with fewer than 2³² continuation points,
in which no result returned as it is carries one of them, every page adds up to
what its browse found. -/
theorem pages_accounted {session : ServerSession} {final : ℕ}
    {events : List BrowseEvent}
    (hunused : session.browseContinuations = ∅)
    (hcounter : session.nextBrowseContinuationId = 1) (hfinal : final < 2 ^ 32)
    (hevents : AllMeet step (PassesNoPoint final) (start session) events) :
    (∀ page ∈ (runFrom step (start session) events).pages,
        Accounted (runFrom step (start session) events).session page) ∧
      KeepsPoints (runFrom step (start session) events).session := by
  have hrun := runFrom_invariant
    (P := fun r => Sound final r ∧ r.made ≤ final)
    (fun r event hr hevent => ⟨hr.1.step hfinal hevent, hevent.1⟩)
    (show Sound final (start session) ∧ (start session).made ≤ final from
      ⟨start_sound hunused hcounter, Nat.zero_le _⟩) hevents
  exact ⟨fun page hmem => hrun.1.accounted hrun.2 hmem,
    keepsPoints_of_bounded hrun.1.bounded⟩

/-- A browse is paged, resumed and resumed again. -/
theorem resumed_page_accounted :
    let events : List BrowseEvent :=
      [.browse { results := [{ references := [{}, {}, {}] }] } 2,
        .browse { results := [{ references := [{}] }] } 0,
        .browseNext { continuationPoints := [numberedPoint 1, numberedPoint 1] }]
    (∀ page ∈ (runFrom step (start pagingSession) events).pages,
        Accounted (runFrom step (start pagingSession) events).session page) ∧
      KeepsPoints (runFrom step (start pagingSession) events).session := by
  refine @pages_accounted pagingSession 1 _ rfl rfl (by norm_num)
    ⟨⟨le_rfl, fun hzero => absurd hzero (by norm_num)⟩, ⟨le_rfl, ?_⟩,
      ⟨le_rfl, trivial⟩, trivial⟩
  intro _ result hmem n _ _
  rw [List.mem_singleton.mp hmem]
  exact (numberedPoint_ne_nil n).symm

/-- Passed on with a result which is returned as it is, a point of the session
leads to the references of another result. -/
theorem passed_point_leads_elsewhere :
    ∃ page ∈ (runFrom step (start pagingSession)
        [.browse { results := [{ references := [{}, {}] }] } 1,
          .browse { results := [{ continuationPoint := numberedPoint 1 }] } 0,
          .browseNext { continuationPoints := [numberedPoint 1] }]).pages,
      page.released = false ∧
        (page.first ++ page.resumed.flatten).length ≠ page.original.length := by
  let page : BrowsePage :=
    { original := []
      first := []
      point := numberedPoint 1
      resumed := [[{}]] }
  refine ⟨page, ?_, rfl, by decide⟩
  exact List.mem_cons_of_mem _ List.mem_cons_self

end BrowseRun
end OpcuaStack
