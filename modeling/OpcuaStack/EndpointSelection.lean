import OpcuaStack.BuiltInTypes
import OpcuaStack.RankedChoice

/-!
# Choosing an endpoint and checking the choice

`client/endpoint_selection.cpp` picks an endpoint from the list which unsecured
discovery returned.  When the server answers CreateSession over the secured
channel it sends the list once more, and `client/client_security.cpp` compares
the two.  The comparison leaves out the security level by which the choice breaks
ties, so a changed level goes unnoticed.
-/

namespace OpcuaStack

/-- `enum class MessageSecurityMode`; `unlisted` is a wire value outside it. -/
inductive MessageSecurityMode where
  | invalid
  | none
  | sign
  | signAndEncrypt
  | unlisted (raw : UInt32)
deriving DecidableEq

inductive UserTokenType where
  | anonymous
  | userName
  | certificate
  | issuedToken
  | unlisted (raw : UInt32)
deriving DecidableEq

structure UserTokenPolicy where
  policyId : ByteText := []
  tokenType : UserTokenType := .anonymous
  issuedTokenType : ByteText := []
  issuerEndpointUrl : ByteText := []
  securityPolicyUri : ByteText := []

structure EndpointDescription where
  endpointUrl : ByteText := []
  serverCertificate : ByteString := []
  securityMode : MessageSecurityMode := .none
  securityPolicyUri : ByteText := []
  userIdentityTokens : List UserTokenPolicy := []
  transportProfileUri : ByteText := []
  securityLevel : UInt8 := 0

structure SupportedSecurity where
  securityPolicyUri : ByteText := []
  securityMode : MessageSecurityMode := .none

structure ClientCapabilities where
  supported : List SupportedSecurity := []

/-- `SecurityPreference::Mode`. -/
inductive PreferredMode where
  | auto
  | none
  | signAndEncrypt
deriving DecidableEq

structure SecurityPreference where
  mode : PreferredMode := .auto
  requiredPolicyUri : Option ByteText := Option.none

/-! ## Selection -/

def securityRank : MessageSecurityMode → ℕ
  | .signAndEncrypt => 3
  | .sign => 2
  | .none => 1
  | .invalid => 0
  | .unlisted _ => 0

def isSupported (capabilities : ClientCapabilities)
    (endpoint : EndpointDescription) : Bool :=
  capabilities.supported.any fun supported =>
    supported.securityPolicyUri == endpoint.securityPolicyUri &&
      supported.securityMode == endpoint.securityMode

def matchesPreference (preference : SecurityPreference)
    (endpoint : EndpointDescription) : Bool :=
  (match preference.mode with
    | .none => endpoint.securityMode == .none
    | .signAndEncrypt => endpoint.securityMode == .signAndEncrypt
    | .auto => true) &&
  preference.requiredPolicyUri.all (· == endpoint.securityPolicyUri)

def isBetter (candidate incumbent : EndpointDescription) : Bool :=
  if securityRank candidate.securityMode ≠ securityRank incumbent.securityMode then
    decide (securityRank incumbent.securityMode <
      securityRank candidate.securityMode)
  else decide (incumbent.securityLevel < candidate.securityLevel)

/-- An endpoint the loop of `SelectEndpoint` does not skip. -/
def isUsable (preference : SecurityPreference)
    (capabilities : ClientCapabilities) (endpoint : EndpointDescription) : Bool :=
  isSupported capabilities endpoint && matchesPreference preference endpoint

def selectEndpoint (endpoints : List EndpointDescription)
    (preference : SecurityPreference) (capabilities : ClientCapabilities) :
    StatusOr EndpointDescription :=
  match firstBest (isUsable preference capabilities) isBetter .none endpoints with
  | some best => .ok best
  | .none => .error (.ofCode .bad) Status.isBad_ofCode_bad

/-! ## The comparison with the authoritative list -/

def sameToken (lhs rhs : UserTokenPolicy) : Bool :=
  lhs.policyId == rhs.policyId && lhs.tokenType == rhs.tokenType &&
    lhs.securityPolicyUri == rhs.securityPolicyUri

def securityEquivalent (a b : EndpointDescription) : Bool :=
  a.securityMode == b.securityMode &&
    a.securityPolicyUri == b.securityPolicyUri &&
    a.serverCertificate == b.serverCertificate &&
    a.transportProfileUri == b.transportProfileUri &&
    a.userIdentityTokens.length == b.userIdentityTokens.length &&
    (a.userIdentityTokens.zip b.userIdentityTokens).all fun pair =>
      sameToken pair.1 pair.2

def endpointSetsSecurityEquivalent
    (discovered authoritative : List EndpointDescription) : Bool :=
  if authoritative.isEmpty then true
  else if discovered.isEmpty then true
  else if discovered.length ≠ authoritative.length then false
  else matchEach securityEquivalent discovered (authoritative.map (·, false))

/-- The checks of `ClientProtocolSession::Create` between the answer to
CreateSession and ActivateSession. -/
def goesOnToActivate (expectedServerCertificate : ByteString)
    (discoveredEndpoints : List EndpointDescription)
    (serverCertificate : ByteString)
    (serverEndpoints : List EndpointDescription) : Bool :=
  (expectedServerCertificate.isEmpty ||
      expectedServerCertificate == serverCertificate) &&
    endpointSetsSecurityEquivalent discoveredEndpoints serverEndpoints

/-! ## What the two agree on -/

/-- What the choice prefers: first the rank of the mode, then the level. -/
def securityKey (endpoint : EndpointDescription) : ℕ ×ₗ ℕ :=
  toLex (securityRank endpoint.securityMode, endpoint.securityLevel.toNat)

theorem isBetter_iff (candidate incumbent : EndpointDescription) :
    isBetter candidate incumbent = true ↔
      securityKey incumbent < securityKey candidate := by
  unfold isBetter securityKey
  rw [Prod.Lex.toLex_lt_toLex]
  split
  next hne =>
    simp only [decide_eq_true_eq]
    constructor
    · exact .inl
    · rintro (hlt | ⟨heq, _⟩)
      · exact hlt
      · exact absurd heq.symm hne
  next heq =>
    rw [not_not] at heq
    simp only [decide_eq_true_eq, heq, lt_irrefl, false_or, true_and]
    exact UInt8.lt_iff_toNat_lt

theorem securityEquivalent_fields {a b : EndpointDescription}
    (h : securityEquivalent a b = true) :
    a.securityMode = b.securityMode ∧
      a.securityPolicyUri = b.securityPolicyUri := by
  simp only [securityEquivalent, Bool.and_eq_true, beq_iff_eq] at h
  exact ⟨h.1.1.1.1.1, h.1.1.1.1.2⟩

/-- So whether an endpoint can be used does not depend on the list it is from. -/
theorem isUsable_congr {a b : EndpointDescription}
    (h : securityEquivalent a b = true) (preference : SecurityPreference)
    (capabilities : ClientCapabilities) :
    isUsable preference capabilities a = isUsable preference capabilities b := by
  obtain ⟨hmode, hpolicy⟩ := securityEquivalent_fields h
  unfold isUsable isSupported matchesPreference
  rw [hmode, hpolicy]

theorem bestAt_of_selected {endpoints : List EndpointDescription}
    {preference : SecurityPreference} {capabilities : ClientCapabilities}
    {chosen : EndpointDescription}
    (h : selectEndpoint endpoints preference capabilities = .ok chosen) :
    ∃ index, BestAt (isUsable preference capabilities) securityKey endpoints
      index chosen := by
  unfold selectEndpoint at h
  split at h
  next best hbest =>
    obtain rfl : best = chosen := StatusOr.ok.inj h
    exact bestAt_of_firstBest isBetter_iff hbest
  next => exact absurd h nofun

/-! ## What the comparison decides -/

/-- The fields which `SecurityEquivalent` compares. -/
def securityFields (endpoint : EndpointDescription) :
    MessageSecurityMode × ByteText × ByteString × ByteText ×
      List (ByteText × UserTokenType × ByteText) :=
  (endpoint.securityMode, endpoint.securityPolicyUri, endpoint.serverCertificate,
    endpoint.transportProfileUri,
    endpoint.userIdentityTokens.map fun token =>
      (token.policyId, token.tokenType, token.securityPolicyUri))

theorem sameTokens_iff (lhs rhs : List UserTokenPolicy) :
    (lhs.length == rhs.length &&
        (lhs.zip rhs).all fun pair => sameToken pair.1 pair.2) = true ↔
      lhs.map (fun token =>
          (token.policyId, token.tokenType, token.securityPolicyUri)) =
        rhs.map fun token =>
          (token.policyId, token.tokenType, token.securityPolicyUri) := by
  induction lhs generalizing rhs with
  | nil => cases rhs <;> simp
  | cons first rest ih =>
      cases rhs with
      | nil => simp
      | cons other others =>
          have htail := ih others
          simp only [Bool.and_eq_true, beq_iff_eq] at htail
          simp only [List.length_cons, List.zip_cons_cons, List.all_cons,
            List.map_cons, List.cons.injEq, Bool.and_eq_true, beq_iff_eq,
            Nat.add_right_cancel_iff, ← htail, sameToken, Prod.mk.injEq]
          tauto

theorem securityEquivalent_iff (a b : EndpointDescription) :
    securityEquivalent a b = true ↔ securityFields a = securityFields b := by
  have htokens := sameTokens_iff a.userIdentityTokens b.userIdentityTokens
  rw [Bool.and_eq_true] at htokens
  simp only [securityEquivalent, securityFields, Bool.and_eq_true, Prod.mk.injEq,
    ← htokens, beq_iff_eq]
  tauto

theorem setsEquivalent_iff_perm {discovered authoritative : List EndpointDescription}
    (hdiscovered : discovered ≠ []) (hauthoritative : authoritative ≠ []) :
    endpointSetsSecurityEquivalent discovered authoritative = true ↔
      (discovered.map securityFields).Perm (authoritative.map securityFields) := by
  unfold endpointSetsSecurityEquivalent
  rw [if_neg (by simpa using hauthoritative), if_neg (by simpa using hdiscovered)]
  split
  next hlength =>
    refine iff_of_false Bool.false_ne_true fun hperm => hlength ?_
    simpa using hperm.length_eq
  next hlength =>
    exact matchEach_iff_perm securityEquivalent_iff (not_not.mp hlength)

/-- The comparison of two lists which are not empty succeeds exactly if their
places can be paired one to one, each with an equivalent one; so neither the order
of the lists nor their roles matter. -/
theorem setsEquivalent_iff_pairing
    {discovered authoritative : List EndpointDescription}
    (hdiscovered : discovered ≠ []) (hauthoritative : authoritative ≠ []) :
    (endpointSetsSecurityEquivalent discovered authoritative = true ↔
      ∃ pairing : Fin discovered.length ≃ Fin authoritative.length,
        ∀ place, securityEquivalent (discovered.get place)
          (authoritative.get (pairing place)) = true) ∧
      (∀ reordered rearranged, discovered.Perm reordered →
        authoritative.Perm rearranged →
          endpointSetsSecurityEquivalent reordered rearranged =
            endpointSetsSecurityEquivalent discovered authoritative) ∧
      endpointSetsSecurityEquivalent authoritative discovered =
        endpointSetsSecurityEquivalent discovered authoritative := by
  have hequivalent := setsEquivalent_iff_perm hdiscovered hauthoritative
  refine ⟨?_, fun reordered rearranged hreordered hrearranged => ?_, ?_⟩
  · simp only [hequivalent, map_perm_iff_exists_pairing, securityEquivalent_iff]
  · have hfirst : reordered ≠ [] := by
      rintro rfl
      exact hdiscovered hreordered.eq_nil
    have hsecond : rearranged ≠ [] := by
      rintro rfl
      exact hauthoritative hrearranged.eq_nil
    rw [Bool.eq_iff_iff, setsEquivalent_iff_perm hfirst hsecond, hequivalent,
      (hreordered.map securityFields).symm.congr_left,
      (hrearranged.map securityFields).symm.congr_right]
  · rw [Bool.eq_iff_iff, hequivalent,
      setsEquivalent_iff_perm hauthoritative hdiscovered, List.perm_comm]

/-- Endpoints of one mode and policy, told apart by certificate and level. -/
def encryptedEndpoint (certificate level : UInt8) : EndpointDescription where
  serverCertificate := [certificate]
  securityMode := .signAndEncrypt
  securityPolicyUri := [2]
  securityLevel := level

/-- Two endpoints which differ in the level only stand for each other. -/
theorem rearranged_paired :
    ∃ pairing : Fin [encryptedEndpoint 1 10, encryptedEndpoint 1 5,
          encryptedEndpoint 3 5].length ≃
        Fin [encryptedEndpoint 3 5, encryptedEndpoint 1 7,
          encryptedEndpoint 1 10].length,
      ∀ place, securityEquivalent
        ([encryptedEndpoint 1 10, encryptedEndpoint 1 5,
          encryptedEndpoint 3 5].get place)
        ([encryptedEndpoint 3 5, encryptedEndpoint 1 7,
          encryptedEndpoint 1 10].get (pairing place)) = true :=
  (setsEquivalent_iff_pairing (List.cons_ne_nil _ _)
    (List.cons_ne_nil _ _)).1.mp (by decide)

/-- A comparison which succeeds pairs the endpoints of the two lists. -/
theorem pairs_of_setsEquivalent
    {discovered authoritative : List EndpointDescription}
    (hauthoritative : authoritative ≠ []) (hdiscovered : discovered ≠ [])
    (h : endpointSetsSecurityEquivalent discovered authoritative = true) :
    (∀ a ∈ discovered, ∃ b ∈ authoritative, securityEquivalent a b = true) ∧
      ∀ b ∈ authoritative, ∃ a ∈ discovered, securityEquivalent a b = true := by
  unfold endpointSetsSecurityEquivalent at h
  rw [if_neg (by simpa using hauthoritative), if_neg (by simpa using hdiscovered)] at h
  split at h
  · exact absurd h Bool.false_ne_true
  next hlength =>
    obtain ⟨arranged, hperm, hall⟩ := matchEach_perm (not_not.mp hlength) h
    constructor
    · intro a ha
      obtain ⟨b, hb, hequivalent⟩ := exists_related_of_mem hall ha
      exact ⟨b, hperm.mem_iff.mpr hb, hequivalent⟩
    · intro b hb
      obtain ⟨a, ha, hequivalent⟩ :=
        exists_related_of_mem hall.flip (hperm.mem_iff.mp hb)
      exact ⟨a, ha, hequivalent⟩

section

variable (preference : SecurityPreference) (capabilities : ClientCapabilities)

/-- No usable endpoint of the list is better. -/
structure IsBestOf (endpoints : List EndpointDescription)
    (endpoint : EndpointDescription) : Prop where
  mem : endpoint ∈ endpoints
  usable : isUsable preference capabilities endpoint = true
  unbeaten : ∀ other ∈ endpoints, isUsable preference capabilities other = true →
    isBetter other endpoint = false

/-- The endpoint is one of the best of the authoritative list, but for what the
comparison leaves out. -/
def StandsForBest (authoritative : List EndpointDescription)
    (endpoint : EndpointDescription) : Prop :=
  ∃ best, IsBestOf preference capabilities authoritative best ∧
    securityEquivalent endpoint best = true

/-- A usable endpoint whose mode no usable endpoint of the list outranks. -/
structure FrontRunner (endpoints : List EndpointDescription)
    (endpoint : EndpointDescription) : Prop where
  usable : isUsable preference capabilities endpoint = true
  highest : ∀ other ∈ endpoints, isUsable preference capabilities other = true →
    securityRank other.securityMode ≤ securityRank endpoint.securityMode

/-- The greatest level which the list gives to an endpoint equivalent to this one. -/
def listedLevel (endpoints : List EndpointDescription)
    (endpoint : EndpointDescription) : ℕ :=
  ((endpoints.filter (securityEquivalent endpoint)).map fun listed =>
    listed.securityLevel.toNat).foldr max 0

/-- The levels of the discovered list leave no front runner ahead which the
authoritative list gives a lower level than another: then one of those it gives a
higher level has a higher level in the discovered list too, or has the same one and
is listed earlier. -/
def KeepsLevels (discovered authoritative : List EndpointDescription) : Prop :=
  ∀ (index : ℕ) x, discovered[index]? = some x →
    FrontRunner preference capabilities discovered x →
      ∀ y ∈ discovered, FrontRunner preference capabilities discovered y →
        listedLevel authoritative x < listedLevel authoritative y →
          ∃ (earlier : ℕ) (z : EndpointDescription), discovered[earlier]? = some z ∧
            FrontRunner preference capabilities discovered z ∧
              listedLevel authoritative x < listedLevel authoritative z ∧
                (x.securityLevel < z.securityLevel ∨
                  x.securityLevel = z.securityLevel ∧ earlier < index)

end

/-! ## Levels -/

theorem le_listedLevel {endpoints : List EndpointDescription}
    {endpoint listed : EndpointDescription} (hlisted : listed ∈ endpoints)
    (h : securityEquivalent endpoint listed = true) :
    listed.securityLevel.toNat ≤ listedLevel endpoints endpoint :=
  List.le_max_of_le' 0
    (List.mem_map_of_mem (List.mem_filter.mpr ⟨hlisted, h⟩)) le_rfl

/-- The level of an endpoint which the list has is that of an equivalent one. -/
theorem exists_listedLevel {endpoints : List EndpointDescription}
    {endpoint : EndpointDescription}
    (h : ∃ listed ∈ endpoints, securityEquivalent endpoint listed = true) :
    ∃ listed ∈ endpoints, securityEquivalent endpoint listed = true ∧
      listed.securityLevel.toNat = listedLevel endpoints endpoint := by
  obtain ⟨other, hother, hequivalent⟩ := h
  have hne : ((endpoints.filter (securityEquivalent endpoint)).map fun listed =>
      listed.securityLevel.toNat) ≠ [] :=
    List.ne_nil_of_mem (List.mem_map_of_mem (List.mem_filter.mpr ⟨hother, hequivalent⟩))
  obtain ⟨listed, hlisted, hlevel⟩ := List.mem_map.mp
    (List.maximum_mem (List.foldr_max_of_ne_nil hne).symm)
  obtain ⟨hmem, hsame⟩ := List.mem_filter.mp hlisted
  exact ⟨listed, hmem, hsame, hlevel⟩

theorem listedLevel_congr {a b : EndpointDescription}
    (h : securityEquivalent a b = true) (endpoints : List EndpointDescription) :
    listedLevel endpoints a = listedLevel endpoints b := by
  have hsame : securityEquivalent a = securityEquivalent b := by
    funext other
    rw [Bool.eq_iff_iff, securityEquivalent_iff, securityEquivalent_iff,
      (securityEquivalent_iff a b).mp h]
  rw [listedLevel, listedLevel, hsame]

section

variable {preference : SecurityPreference} {capabilities : ClientCapabilities}

theorem FrontRunner.congr {endpoints : List EndpointDescription}
    {a b : EndpointDescription} (ha : FrontRunner preference capabilities endpoints a)
    (h : securityEquivalent a b = true) :
    FrontRunner preference capabilities endpoints b where
  usable := (isUsable_congr h preference capabilities).symm.trans ha.usable
  highest := (securityEquivalent_fields h).1 ▸ ha.highest

theorem FrontRunner.rank_eq {endpoints : List EndpointDescription}
    {a b : EndpointDescription} (ha : FrontRunner preference capabilities endpoints a)
    (hb : FrontRunner preference capabilities endpoints b) (hmema : a ∈ endpoints)
    (hmemb : b ∈ endpoints) :
    securityRank a.securityMode = securityRank b.securityMode :=
  le_antisymm (hb.highest a hmema ha.usable) (ha.highest b hmemb hb.usable)

theorem BestAt.frontRunner {endpoints : List EndpointDescription}
    {chosen : EndpointDescription} {index : ℕ}
    (h : BestAt (isUsable preference capabilities) securityKey endpoints index chosen) :
    FrontRunner preference capabilities endpoints chosen where
  usable := h.isEligible
  highest other hother husable := by
    obtain ⟨place, hplace⟩ := List.getElem?_of_mem hother
    rcases Prod.Lex.toLex_le_toLex.mp (h.greatest place other hplace husable) with
      hlt | ⟨heq, _⟩
    · exact hlt.le
    · exact heq.le

/-! ## The choice -/

/-- Of endpoints with one rank, the better one has the higher level. -/
theorem isBetter_iff_level {a b : EndpointDescription}
    (h : securityRank a.securityMode = securityRank b.securityMode) :
    isBetter a b = true ↔ b.securityLevel < a.securityLevel := by
  rw [isBetter, if_neg (not_not.mpr h), decide_eq_true_iff]

/-- Where the lists are equivalent, a front runner of the discovered list stands for
a best endpoint exactly if the authoritative list gives no front runner a higher
level. -/
theorem FrontRunner.standsForBest_iff {discovered authoritative : List EndpointDescription}
    (hforward : ∀ a ∈ discovered, ∃ b ∈ authoritative, securityEquivalent a b = true)
    (hbackward : ∀ b ∈ authoritative, ∃ a ∈ discovered, securityEquivalent a b = true)
    {x : EndpointDescription} (hmem : x ∈ discovered)
    (hx : FrontRunner preference capabilities discovered x) :
    StandsForBest preference capabilities authoritative x ↔
      ∀ y ∈ discovered, FrontRunner preference capabilities discovered y →
        listedLevel authoritative y ≤ listedLevel authoritative x := by
  constructor
  · rintro ⟨best, hbest, hequivalent⟩ y hy hfront
    obtain ⟨listed, hlisted, hsame, hlevel⟩ := exists_listedLevel (hforward y hy)
    have hunbeaten := hbest.unbeaten listed hlisted
      ((isUsable_congr hsame preference capabilities).symm.trans hfront.usable)
    have hrank : securityRank listed.securityMode = securityRank best.securityMode := by
      rw [← (securityEquivalent_fields hsame).1,
        ← (securityEquivalent_fields hequivalent).1]
      exact hfront.rank_eq hx hy hmem
    have hlevels : listed.securityLevel ≤ best.securityLevel := by
      rw [← UInt8.not_lt, ← isBetter_iff_level hrank, hunbeaten]
      exact Bool.false_ne_true
    calc listedLevel authoritative y
        = listed.securityLevel.toNat := hlevel.symm
      _ ≤ best.securityLevel.toNat := UInt8.le_iff_toNat_le.mp hlevels
      _ ≤ listedLevel authoritative x := le_listedLevel hbest.mem hequivalent
  · intro hgreatest
    obtain ⟨listed, hlisted, hsame, hlevel⟩ := exists_listedLevel (hforward x hmem)
    refine ⟨listed, ⟨hlisted, (hx.congr hsame).usable, fun other hother husable => ?_⟩,
      hsame⟩
    obtain ⟨y, hy, hcounterpart⟩ := hbackward other hother
    have hrank := (hx.congr hsame).highest y hy
      ((isUsable_congr hcounterpart preference capabilities).trans husable)
    rw [(securityEquivalent_fields hcounterpart).1] at hrank
    refine Bool.eq_false_of_not_eq_true fun hbeats => ?_
    rcases hrank.lt_or_eq with hlt | heq
    · rw [isBetter, if_pos hlt.ne, decide_eq_true_iff] at hbeats
      exact absurd hbeats hlt.not_gt
    · -- the other is a front runner, with a higher level than the greatest
      have hfront : FrontRunner preference capabilities discovered y := by
        refine ⟨(isUsable_congr hcounterpart preference capabilities).trans husable, ?_⟩
        rw [(securityEquivalent_fields hcounterpart).1, heq]
        exact (hx.congr hsame).highest
      have hover := UInt8.lt_iff_toNat_lt.mp ((isBetter_iff_level heq).mp hbeats)
      have hlisted := le_listedLevel hother hcounterpart
      have hle := hgreatest y hy hfront
      omega

/-- The first of the best in the discovered list is given the greatest level by the
authoritative one exactly if the discovered levels keep none of a lower level
ahead. -/
theorem BestAt.greatest_iff_keepsLevels
    {discovered authoritative : List EndpointDescription}
    {chosen : EndpointDescription} {index : ℕ}
    (hbest : BestAt (isUsable preference capabilities) securityKey discovered
      index chosen) :
    (∀ y ∈ discovered, FrontRunner preference capabilities discovered y →
        listedLevel authoritative y ≤ listedLevel authoritative chosen) ↔
      KeepsLevels preference capabilities discovered authoritative := by
  have hchosen : chosen ∈ discovered := List.mem_of_getElem? hbest.getElem
  have hfront := hbest.frontRunner
  constructor
  · intro hgreatest other x hx hfrontx y hy hfronty hlower
    have hover := hlower.trans_le (hgreatest y hy hfronty)
    have hrank := hfrontx.rank_eq hfront (List.mem_of_getElem? hx) hchosen
    refine ⟨index, chosen, hbest.getElem, hfront, hover, ?_⟩
    have hkey := hbest.greatest other x hx hfrontx.usable
    rcases Prod.Lex.toLex_le_toLex.mp hkey with hlt | ⟨_, hle⟩
    · exact absurd hrank hlt.ne
    · rcases hle.lt_or_eq with hlt | heq
      · exact .inl (UInt8.lt_iff_toNat_lt.mpr hlt)
      · refine .inr ⟨UInt8.toNat_inj.mp heq, ?_⟩
        by_contra hnot
        rcases (not_lt.mp hnot).lt_or_eq with hearlier | hsame
        · have hfirst := hbest.first other x hx hfrontx.usable hearlier
          exact hfirst.ne (congrArg toLex (Prod.ext hrank heq))
        · rw [hsame, hbest.getElem, Option.some.injEq] at hx
          exact hover.ne (congrArg _ hx.symm)
  · intro hkeeps y hy hfronty
    by_contra hnot
    obtain ⟨earlier, z, hz, hfrontz, -, hahead⟩ :=
      hkeeps index chosen hbest.getElem hfront y hy hfronty (not_le.mp hnot)
    have hrank := hfront.rank_eq hfrontz hchosen (List.mem_of_getElem? hz)
    have hkey := hbest.greatest earlier z hz hfrontz.usable
    rcases hahead with hlt | ⟨heq, hlt⟩
    · refine absurd hkey (not_le.mpr (Prod.Lex.toLex_lt_toLex.mpr (.inr ⟨hrank, ?_⟩)))
      exact UInt8.lt_iff_toNat_lt.mp hlt
    · have hfirst := hbest.first earlier z hz hfrontz.usable hlt
      exact hfirst.ne (congrArg toLex
        (Prod.ext hrank.symm (congrArg UInt8.toNat heq.symm)))

/-- Levels which the discovery did not change are kept, in whatever order it lists the
endpoints. -/
theorem keepsLevels_of_perm {discovered authoritative : List EndpointDescription}
    (h : (discovered.map fun x => (securityFields x, x.securityLevel)).Perm
      (authoritative.map fun x => (securityFields x, x.securityLevel))) :
    KeepsLevels preference capabilities discovered authoritative := by
  have hpairs : ∀ a ∈ discovered, ∃ b ∈ authoritative,
      securityEquivalent a b = true ∧ a.securityLevel = b.securityLevel := by
    intro a ha
    obtain ⟨b, hb, heq⟩ := List.mem_map.mp (h.subset (List.mem_map_of_mem ha))
    rw [Prod.mk.injEq] at heq
    exact ⟨b, hb, (securityEquivalent_iff a b).mpr heq.1.symm, heq.2.symm⟩
  intro index x hx hfrontx y hy hfronty hlower
  obtain ⟨b, hb, hequivalent, -⟩ := hpairs y hy
  obtain ⟨listed, hlisted, hsame, hlevel⟩ := exists_listedLevel ⟨b, hb, hequivalent⟩
  obtain ⟨z, hz, heq⟩ := List.mem_map.mp (h.symm.subset (List.mem_map_of_mem hlisted))
  rw [Prod.mk.injEq] at heq
  have hyz : securityEquivalent y z = true :=
    (securityEquivalent_iff y z).mpr
      (((securityEquivalent_iff y listed).mp hsame).trans heq.1.symm)
  obtain ⟨earlier, hearlier⟩ := List.getElem?_of_mem hz
  refine ⟨earlier, z, hearlier, hfronty.congr hyz, ?_, .inl ?_⟩
  · rwa [← listedLevel_congr hyz]
  · obtain ⟨c, hc, hxc, hlevelx⟩ := hpairs x (List.mem_of_getElem? hx)
    have hle := le_listedLevel hc hxc
    rw [UInt8.lt_iff_toNat_lt, hlevelx, heq.2, hlevel]
    omega

/-- Let an endpoint be chosen from the discovered list, and the list compare with
the authoritative one.  Then the endpoint is usable there and no usable mode
there ranks higher; but it stands for a best one exactly if the levels of the
discovered list keep those of the authoritative one. -/
theorem choice_stands_for_best_iff
    {discovered authoritative : List EndpointDescription}
    {chosen : EndpointDescription} (hauthoritative : authoritative ≠ [])
    (hchosen : selectEndpoint discovered preference capabilities = .ok chosen)
    (hequivalent :
      endpointSetsSecurityEquivalent discovered authoritative = true) :
    (∃ counterpart ∈ authoritative,
        isUsable preference capabilities counterpart = true ∧
          securityEquivalent chosen counterpart = true) ∧
      (∀ other ∈ authoritative, isUsable preference capabilities other = true →
        securityRank other.securityMode ≤ securityRank chosen.securityMode) ∧
      (StandsForBest preference capabilities authoritative chosen ↔
        KeepsLevels preference capabilities discovered authoritative) := by
  obtain ⟨index, hbest⟩ := bestAt_of_selected hchosen
  have hmem : chosen ∈ discovered := List.mem_of_getElem? hbest.getElem
  have hfront := hbest.frontRunner
  obtain ⟨hforward, hbackward⟩ := pairs_of_setsEquivalent hauthoritative
    (List.ne_nil_of_mem hmem) hequivalent
  refine ⟨?_, fun other hother husable => ?_, ?_⟩
  · obtain ⟨counterpart, hcounterpart, hsame⟩ := hforward chosen hmem
    exact ⟨counterpart, hcounterpart, (hfront.congr hsame).usable, hsame⟩
  · obtain ⟨offered, hoffered, hsame⟩ := hbackward other hother
    rw [← (securityEquivalent_fields hsame).1]
    exact hfront.highest offered hoffered
      ((isUsable_congr hsame preference capabilities).trans husable)
  · rw [hfront.standsForBest_iff hforward hbackward hmem]
    exact hbest.greatest_iff_keepsLevels

end

def encryptingClient : ClientCapabilities where
  supported := [{ securityPolicyUri := [2], securityMode := .signAndEncrypt }]

theorem untampered_choice :
    StandsForBest {} encryptingClient
      [encryptedEndpoint 3 5, encryptedEndpoint 1 10, encryptedEndpoint 1 4]
      (encryptedEndpoint 1 10) := by
  have hchosen : selectEndpoint
      [encryptedEndpoint 1 4, encryptedEndpoint 1 10, encryptedEndpoint 3 5]
      {} encryptingClient = .ok (encryptedEndpoint 1 10) := rfl
  have hkept : KeepsLevels {} encryptingClient
      [encryptedEndpoint 1 4, encryptedEndpoint 1 10, encryptedEndpoint 3 5]
      [encryptedEndpoint 3 5, encryptedEndpoint 1 10, encryptedEndpoint 1 4] :=
    keepsLevels_of_perm ((List.reverse_perm
      [encryptedEndpoint 3 5, encryptedEndpoint 1 10, encryptedEndpoint 1 4]).map _)
  exact (choice_stands_for_best_iff (List.cons_ne_nil _ _) hchosen
    (by decide)).2.2.mpr hkept

/-- The discovered list has the levels of the two endpoints changed, which the
comparison does not see. -/
theorem level_tampering_steers :
    selectEndpoint [encryptedEndpoint 1 1, encryptedEndpoint 3 9] {}
        encryptingClient = .ok (encryptedEndpoint 3 9) ∧
      goesOnToActivate [3] [encryptedEndpoint 1 1, encryptedEndpoint 3 9] [3]
        [encryptedEndpoint 1 10, encryptedEndpoint 3 5] = true ∧
      ¬StandsForBest {} encryptingClient
        [encryptedEndpoint 1 10, encryptedEndpoint 3 5]
        (encryptedEndpoint 3 9) := by
  refine ⟨rfl, by decide, ?_⟩
  rintro ⟨best, hbest, hequivalent⟩
  have hmem := hbest.mem
  simp only [List.mem_cons, List.not_mem_nil, or_false] at hmem
  rcases hmem with rfl | rfl
  · exact absurd hequivalent (by decide)
  · have hunbeaten := hbest.unbeaten (encryptedEndpoint 1 10) (by simp) (by decide)
    exact absurd hunbeaten (by decide)

end OpcuaStack
