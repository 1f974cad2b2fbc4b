import OpcuaStack.EndpointUrls

/-!
# Advertised URLs can be dialled

A rebased URL is dialable when the host which was put in is the host which is read
back.  That fails when the client's host is a bare IPv6 literal and the configured
URL has a port: the literal is put in without brackets and takes the port for its
last group, and a short literal so turns into a wildcard.
-/

namespace OpcuaStack

open TextScan

/-- What follows a wildcard host can follow this host: there is nothing, or the host
closes itself, or the host is a plain name and a port follows. -/
def CanPrecede (host suffix : ByteText) : Prop :=
  suffix = [] ∨
    (host.head? = some openingBracket ∧ closingBracket ∈ host) ∨
    (host.head? ≠ some openingBracket ∧ colon ∉ host ∧
      suffix.head? = some colon ∧ colon ∉ suffix.tail)

instance (host suffix : ByteText) : Decidable (CanPrecede host suffix) :=
  inferInstanceAs (Decidable (_ ∨ _ ∨ _))

theorem AuthoritySplit.canPrecede {host suffix : ByteText}
    (hsplit : AuthoritySplit host suffix) : CanPrecede host suffix := by
  cases hsplit with
  | literal hinner => exact Or.inr (Or.inl ⟨rfl, by simp⟩)
  | unclosed hinner => exact Or.inl rfl
  | plain hbracket hcolon => exact Or.inl rfl
  | bareLiteral hbracket hfirst hsecond => exact Or.inl rfl
  | ported hbracket hname hport =>
      exact Or.inr (Or.inr ⟨hbracket, hname, rfl, hport⟩)

theorem AuthoritySplit.without_suffix {host suffix : ByteText}
    (hsplit : AuthoritySplit host suffix) : AuthoritySplit host [] := by
  cases hsplit with
  | literal hinner => exact .literal hinner
  | unclosed hinner => exact .unclosed hinner
  | plain hbracket hcolon => exact .plain hbracket hcolon
  | bareLiteral hbracket hfirst hsecond =>
      exact .bareLiteral hbracket hfirst hsecond
  | ported hbracket hname hport => exact .plain hbracket hname

/-- A closed literal stays one whatever follows it. -/
theorem AuthoritySplit.of_closed {host suffix : ByteText} (other : ByteText)
    (hsplit : AuthoritySplit host suffix)
    (hopening : host.head? = some openingBracket)
    (hclosing : closingBracket ∈ host) : AuthoritySplit host other := by
  cases hsplit with
  | literal hinner => exact .literal hinner
  | unclosed hinner => exact absurd hclosing (closingBracket_notMem_cons hinner)
  | plain hbracket hcolon => exact absurd hopening hbracket
  | bareLiteral hbracket hfirst hsecond => exact absurd hopening hbracket
  | ported hbracket hname hport => exact absurd hopening hbracket

theorem authoritySplit_iff_canPrecede {host written suffix : ByteText}
    (hwritten : AuthoritySplit host written) :
    AuthoritySplit host suffix ↔ CanPrecede host suffix := by
  constructor
  · exact AuthoritySplit.canPrecede
  · rintro (rfl | ⟨hopening, hclosing⟩ | ⟨hbracket, hname, hhead, hport⟩)
    · exact hwritten.without_suffix
    · exact hwritten.of_closed suffix hopening hclosing
    · obtain ⟨port, rfl⟩ := List.head?_eq_some_iff.mp hhead
      exact .ported hbracket hname hport

/-! ## Putting a host in -/

theorem UrlParts.notMem_withHost (parts : UrlParts) {host : ByteText}
    (hhost : slash ∉ host) :
    slash ∉ host ++ portSuffix parts.authority := by
  rw [List.mem_append, not_or]
  exact ⟨hhost, fun hmem => parts.authority_ends (List.mem_of_mem_drop hmem)⟩

def UrlParts.withHost (parts : UrlParts) (host : ByteText)
    (hhost : slash ∉ host) : UrlParts :=
  { parts with
    authority := host ++ portSuffix parts.authority
    authority_ends := parts.notMem_withHost hhost }

theorem UrlParts.withHost_text (parts : UrlParts) {host : ByteText}
    (hhost : slash ∉ host) :
    OpcuaStack.withHost parts.text host = (parts.withHost host hhost).text := by
  have hfront :
      parts.text.take (parts.scheme.length + 3) = parts.scheme ++ schemeMark := by
    have hlength :
        (parts.scheme ++ schemeMark).length = parts.scheme.length + 3 := by
      rw [List.length_append, length_schemeMark]
    rw [← hlength, UrlParts.text, List.take_left]
  have hle :
      (authorityHost parts.authority).length ≤ parts.authority.length := by
    have happend := (authoritySplit_authorityHost parts.authority).1
    have hlength := congrArg List.length happend
    rw [List.length_append] at hlength
    omega
  have hback :
      parts.text.drop
          (parts.scheme.length + 3 + (authorityHost parts.authority).length) =
        portSuffix parts.authority ++ parts.path := by
    rw [← List.drop_drop, parts.drop_text, List.drop_append_of_le_length hle]
    rfl
  simp only [OpcuaStack.withHost, parts.urlAuthority_text, Option.elim_some,
    hfront, hback]
  simp [UrlParts.text, UrlParts.withHost]

/-- Two URLs agree in all but the host, and the second has the host given. -/
structure SameButHost (before after host : ByteText) : Prop where
  scheme : urlScheme after = urlScheme before
  portSuffix : urlPortSuffix after = urlPortSuffix before
  path : urlPath after = urlPath before
  host : urlHost after = host

theorem UrlParts.sameButHost_withHost_iff (parts : UrlParts) {host : ByteText}
    (hhost : slash ∉ host) :
    SameButHost parts.text (OpcuaStack.withHost parts.text host) host ↔
      AuthoritySplit host (portSuffix parts.authority) := by
  rw [parts.withHost_text hhost]
  constructor
  · intro hsame
    apply authorityHost_append_iff.mp
    simpa [UrlParts.withHost] using hsame.host
  · intro hsplit
    have hread := hsplit.authorityHost
    constructor
    · simp [UrlParts.urlScheme_text, UrlParts.withHost]
    · rw [UrlParts.urlPortSuffix_text, UrlParts.urlPortSuffix_text,
        UrlParts.withHost, OpcuaStack.portSuffix, hread, List.drop_left]
    · simp [UrlParts.withHost]
    · simpa [UrlParts.withHost] using hread

theorem slash_notMem_urlHost {url : ByteText} (hmark : schemeMark <:+: url) :
    slash ∉ urlHost url := by
  obtain ⟨parts, rfl⟩ := exists_urlParts hmark
  intro hmem
  apply parts.authority_ends
  rw [← (authoritySplit_authorityHost parts.authority).1]
  exact List.mem_append_left _ (by simpa using hmem)

theorem authoritySplit_urlHost {url : ByteText} (hmark : schemeMark <:+: url) :
    AuthoritySplit (urlHost url) (urlPortSuffix url) := by
  obtain ⟨parts, rfl⟩ := exists_urlParts hmark
  simpa using (authoritySplit_authorityHost parts.authority).2

theorem marked_of_not_wildcard {url : ByteText}
    (hhost : isWildcardHost (urlHost url) = false) : schemeMark <:+: url := by
  cases hfind : find schemeMark url with
  | none =>
      have hempty : urlHost url = [] := by
        simp only [urlHost, urlAuthority, hfind, Option.map_none, Option.elim_none]
        rfl
      rw [hempty] at hhost
      exact absurd hhost (by decide)
  | some schemeEnd =>
      obtain ⟨scheme, after, rfl, -⟩ := eq_append_of_find hfind
      exact ⟨scheme, after, rfl⟩

/-! ## Rebasing one URL -/

section OneUrl

variable {url requestedUrl : ByteText}

theorem isEmpty_of_not_wildcard (hrequested : isWildcardHost (urlHost requestedUrl) = false) :
    requestedUrl.isEmpty = false := by
  cases requestedUrl with
  | nil => exact absurd hrequested (by decide)
  | cons first rest => rfl

theorem rebaseWildcardHost_of_routable
    (hhost : isWildcardHost (urlHost url) = false) (requestedHost : ByteText) :
    rebaseWildcardHost url requestedHost = url := by
  simp [rebaseWildcardHost, hhost]

theorem rebaseWildcardHost_of_wildcard {requestedHost : ByteText}
    (hrequested : isWildcardHost requestedHost = false)
    (hhost : isWildcardHost (urlHost url)) :
    rebaseWildcardHost url requestedHost = withHost url requestedHost := by
  have hempty : requestedHost.isEmpty = false := by
    cases requestedHost with
    | nil => exact absurd hrequested (by decide)
    | cons first rest => rfl
  simp [rebaseWildcardHost, hrequested, hempty, hhost]

theorem sameButHost_rebase_iff (hmark : schemeMark <:+: url)
    (hrequested : isWildcardHost (urlHost requestedUrl) = false)
    (hhost : isWildcardHost (urlHost url)) :
    SameButHost url (rebaseWildcardHost url (urlHost requestedUrl))
        (urlHost requestedUrl) ↔
      CanPrecede (urlHost requestedUrl) (urlPortSuffix url) := by
  have hmarked := marked_of_not_wildcard hrequested
  rw [rebaseWildcardHost_of_wildcard hrequested hhost,
    ← authoritySplit_iff_canPrecede (authoritySplit_urlHost hmarked)]
  obtain ⟨parts, rfl⟩ := exists_urlParts hmark
  rw [parts.sameButHost_withHost_iff (slash_notMem_urlHost hmarked),
    parts.urlPortSuffix_text]

theorem rebaseWildcardHost_ne (hmark : schemeMark <:+: url)
    (hrequested : isWildcardHost (urlHost requestedUrl) = false)
    (hhost : isWildcardHost (urlHost url)) :
    rebaseWildcardHost url (urlHost requestedUrl) ≠ url := by
  have hslash := slash_notMem_urlHost (marked_of_not_wildcard hrequested)
  rw [rebaseWildcardHost_of_wildcard hrequested hhost]
  obtain ⟨parts, rfl⟩ := exists_urlParts hmark
  rw [parts.withHost_text hslash]
  intro hsame
  have hauthority :
      urlHost requestedUrl ++ portSuffix parts.authority = parts.authority := by
    apply List.append_cancel_right
    simpa [UrlParts.text, UrlParts.withHost] using hsame
  have hold :
      urlHost requestedUrl = authorityHost parts.authority := by
    apply List.append_cancel_right
    rw [hauthority, (authoritySplit_authorityHost parts.authority).1]
  rw [hold, ← parts.urlHost_text, hhost] at hrequested
  exact absurd hrequested (by decide)

/-- What the rebasing of one configured URL needs. -/
def RebasesTo (url requestedUrl : ByteText) : Prop :=
  isWildcardHost (urlHost url) →
    CanPrecede (urlHost requestedUrl) (urlPortSuffix url)

theorem isWildcardHost_rebase (hmark : schemeMark <:+: url)
    (hrequested : isWildcardHost (urlHost requestedUrl) = false)
    (hrebases : RebasesTo url requestedUrl) :
    isWildcardHost
        (urlHost (rebaseWildcardHost url (urlHost requestedUrl))) = false := by
  cases hhost : isWildcardHost (urlHost url) with
  | false => rwa [rebaseWildcardHost_of_routable hhost]
  | true =>
      have hsame :=
        (sameButHost_rebase_iff hmark hrequested hhost).mpr (hrebases hhost)
      rwa [hsame.host]

theorem isWildcardHost_reachable (hmark : schemeMark <:+: url)
    (hrequested : isWildcardHost (urlHost requestedUrl) = false)
    (hrebases : RebasesTo url requestedUrl) :
    isWildcardHost (urlHost (reachableEndpointUrl url requestedUrl)) = false := by
  have hempty : requestedUrl.isEmpty = false := isEmpty_of_not_wildcard hrequested
  by_cases hscheme : urlScheme url = urlScheme requestedUrl
  · simp [reachableEndpointUrl, hempty, hrequested, hscheme]
  · simp only [reachableEndpointUrl, hempty, hrequested, hscheme, Bool.or_self,
      Bool.false_eq_true, if_false]
    exact isWildcardHost_rebase hmark hrequested hrebases

end OneUrl

/-! ## The discovery URLs -/

section Discovery

variable {discoveryUrls : List ByteText} {requestedUrl : ByteText}

def rebasedUrls (discoveryUrls : List ByteText) (requestedUrl : ByteText) :
    List ByteText :=
  discoveryUrls.map (rebaseWildcardHost · (urlHost requestedUrl))

theorem reachableDiscoveryUrls_cases (discoveryUrls : List ByteText)
    (hrequested : isWildcardHost (urlHost requestedUrl) = false) :
    (reachableDiscoveryUrls discoveryUrls requestedUrl =
        requestedUrl ::
          (rebasedUrls discoveryUrls requestedUrl).filter (· ≠ requestedUrl)) ∨
      (requestedUrl ∉ rebasedUrls discoveryUrls requestedUrl ∧
        reachableDiscoveryUrls discoveryUrls requestedUrl =
          rebasedUrls discoveryUrls requestedUrl) := by
  have hempty : requestedUrl.isEmpty = false := isEmpty_of_not_wildcard hrequested
  cases hserves :
      (rebasedUrls discoveryUrls requestedUrl).any
        fun url => urlScheme url == urlScheme requestedUrl with
  | true =>
      left
      unfold rebasedUrls at hserves
      simp only [reachableDiscoveryUrls, hempty, hrequested, Bool.or_self,
        Bool.false_eq_true, if_false, hserves, if_true]
      rfl
  | false =>
      right
      constructor
      · intro hmem
        have hother := List.any_eq_false.mp hserves requestedUrl hmem
        simp at hother
      · unfold rebasedUrls at hserves
        simp only [reachableDiscoveryUrls, hempty, hrequested, Bool.or_self,
          Bool.false_eq_true, if_false, hserves]
        rfl

theorem mem_reachableDiscoveryUrls
    (hrequested : isWildcardHost (urlHost requestedUrl) = false)
    {url : ByteText}
    (hmem : url ∈ rebasedUrls discoveryUrls requestedUrl) :
    url ∈ reachableDiscoveryUrls discoveryUrls requestedUrl := by
  obtain hfront | ⟨-, hkept⟩ :=
    reachableDiscoveryUrls_cases discoveryUrls hrequested
  · rw [hfront, List.mem_cons, List.mem_filter]
    by_cases hurl : url = requestedUrl
    · exact Or.inl hurl
    · exact Or.inr ⟨hmem, by simpa using hurl⟩
  · rwa [hkept]

theorem mem_of_mem_reachableDiscoveryUrls
    (hrequested : isWildcardHost (urlHost requestedUrl) = false)
    {url : ByteText}
    (hmem : url ∈ reachableDiscoveryUrls discoveryUrls requestedUrl) :
    url = requestedUrl ∨ url ∈ rebasedUrls discoveryUrls requestedUrl := by
  obtain hfront | ⟨-, hkept⟩ :=
    reachableDiscoveryUrls_cases discoveryUrls hrequested
  · rw [hfront, List.mem_cons, List.mem_filter] at hmem
    exact hmem.imp_right And.left
  · rw [hkept] at hmem
    exact Or.inr hmem

theorem filter_reachableDiscoveryUrls
    (hrequested : isWildcardHost (urlHost requestedUrl) = false) :
    (reachableDiscoveryUrls discoveryUrls requestedUrl).filter
        (· ≠ requestedUrl) =
      (rebasedUrls discoveryUrls requestedUrl).filter (· ≠ requestedUrl) := by
  obtain hfront | ⟨-, hkept⟩ :=
    reachableDiscoveryUrls_cases discoveryUrls hrequested
  · simp [hfront, List.filter_filter]
  · rw [hkept]

theorem head_reachableDiscoveryUrls
    (hrequested : isWildcardHost (urlHost requestedUrl) = false)
    (hmem : requestedUrl ∈ rebasedUrls discoveryUrls requestedUrl) :
    (reachableDiscoveryUrls discoveryUrls requestedUrl).head? =
      some requestedUrl := by
  obtain hfront | ⟨hmissing, -⟩ :=
    reachableDiscoveryUrls_cases discoveryUrls hrequested
  · rw [hfront, List.head?_cons]
  · exact absurd hmem hmissing

theorem isWildcardHost_discovery
    (hrequested : isWildcardHost (urlHost requestedUrl) = false)
    (hmarks : ∀ url ∈ discoveryUrls, schemeMark <:+: url)
    (hrebases : ∀ url ∈ discoveryUrls, RebasesTo url requestedUrl)
    {url : ByteText}
    (hmem : url ∈ reachableDiscoveryUrls discoveryUrls requestedUrl) :
    isWildcardHost (urlHost url) = false := by
  obtain rfl | hrebased := mem_of_mem_reachableDiscoveryUrls hrequested hmem
  · exact hrequested
  · obtain ⟨configured, hconfigured, rfl⟩ := List.mem_map.mp hrebased
    exact
      isWildcardHost_rebase (hmarks configured hconfigured) hrequested
        (hrebases configured hconfigured)

end Discovery

/-- What a server promises of the URLs it gives to a client. -/
structure AdvertisesDialable (discoveryUrls : List ByteText)
    (requestedUrl : ByteText) : Prop where
  rebased_routable :
    ∀ url ∈ discoveryUrls,
      isWildcardHost
        (urlHost (rebaseWildcardHost url (urlHost requestedUrl))) = false
  endpoint_routable :
    ∀ url ∈ discoveryUrls,
      isWildcardHost (urlHost (reachableEndpointUrl url requestedUrl)) = false
  discovery_routable :
    ∀ url ∈ reachableDiscoveryUrls discoveryUrls requestedUrl,
      isWildcardHost (urlHost url) = false
  rebased_parts :
    ∀ url ∈ discoveryUrls,
      rebaseWildcardHost url (urlHost requestedUrl) ≠ url →
        SameButHost url (rebaseWildcardHost url (urlHost requestedUrl))
          (urlHost requestedUrl)
  discovery_kept :
    ∀ url ∈ rebasedUrls discoveryUrls requestedUrl,
      url ∈ reachableDiscoveryUrls discoveryUrls requestedUrl
  discovery_ordered :
    (reachableDiscoveryUrls discoveryUrls requestedUrl).filter
        (· ≠ requestedUrl) =
      (rebasedUrls discoveryUrls requestedUrl).filter (· ≠ requestedUrl)
  requested_first :
    requestedUrl ∈ rebasedUrls discoveryUrls requestedUrl →
      (reachableDiscoveryUrls discoveryUrls requestedUrl).head? =
        some requestedUrl

/-- What is advertised is dialable exactly when the client's host can stand in front
of what follows every configured wildcard. -/
theorem advertisesDialable_iff (discoveryUrls : List ByteText)
    (requestedUrl : ByteText)
    (hrequested : isWildcardHost (urlHost requestedUrl) = false)
    (hmarks : ∀ url ∈ discoveryUrls, schemeMark <:+: url) :
    AdvertisesDialable discoveryUrls requestedUrl ↔
      ∀ url ∈ discoveryUrls, isWildcardHost (urlHost url) →
        CanPrecede (urlHost requestedUrl) (urlPortSuffix url) := by
  constructor
  · intro hdialable url hurl hhost
    have hmark := hmarks url hurl
    apply (sameButHost_rebase_iff hmark hrequested hhost).mp
    exact
      hdialable.rebased_parts url hurl
        (rebaseWildcardHost_ne hmark hrequested hhost)
  · intro hrebases
    constructor
    · intro url hurl
      exact
        isWildcardHost_rebase (hmarks url hurl) hrequested (hrebases url hurl)
    · intro url hurl
      exact
        isWildcardHost_reachable (hmarks url hurl) hrequested (hrebases url hurl)
    · intro url hurl
      exact isWildcardHost_discovery hrequested hmarks hrebases hurl
    · intro url hurl hchanged
      cases hhost : isWildcardHost (urlHost url) with
      | false =>
          exact absurd (rebaseWildcardHost_of_routable hhost _) hchanged
      | true =>
          apply (sameButHost_rebase_iff (hmarks url hurl) hrequested hhost).mpr
          exact hrebases url hurl hhost
    · intro url hurl
      exact mem_reachableDiscoveryUrls hrequested hurl
    · exact filter_reachableDiscoveryUrls hrequested
    · exact head_reachableDiscoveryUrls hrequested

/-- A server bound to every interface, asked over a host name. -/
theorem advertisesDialable_named_host :
    AdvertisesDialable [asciiText "opc.tcp://0.0.0.0:4840/ua"]
      (asciiText "opc.tcp://plant:4840") := by
  apply (advertisesDialable_iff _ _ (by decide) ?_).mpr
  · decide
  · decide

/-- A bare IPv6 literal takes the port, and a literal of seven groups becomes a
wildcard. -/
theorem bare_literal_takes_port :
    isWildcardHost (urlHost (asciiText "opc.tcp://fe80::1")) = false ∧
      ¬ AdvertisesDialable [asciiText "opc.tcp://0.0.0.0:4840"]
        (asciiText "opc.tcp://fe80::1") ∧
      isWildcardHost (urlHost (asciiText "opc.tcp://0:0:0:0:0:0:0")) = false ∧
      isWildcardHost
        (urlHost
          (rebaseWildcardHost (asciiText "opc.tcp://0.0.0.0:0")
            (urlHost (asciiText "opc.tcp://0:0:0:0:0:0:0")))) = true := by
  have hport :
      urlPortSuffix
          (rebaseWildcardHost (asciiText "opc.tcp://0.0.0.0:4840")
            (urlHost (asciiText "opc.tcp://fe80::1"))) ≠
        urlPortSuffix (asciiText "opc.tcp://0.0.0.0:4840") := by
    decide
  have hchanged :
      rebaseWildcardHost (asciiText "opc.tcp://0.0.0.0:4840")
          (urlHost (asciiText "opc.tcp://fe80::1")) ≠
        asciiText "opc.tcp://0.0.0.0:4840" := by
    decide
  refine ⟨by decide, ?_, by decide, by decide⟩
  intro hdialable
  exact
    hport (hdialable.rebased_parts _ (List.mem_singleton.mpr rfl) hchanged).portSuffix

/-! ## The endpoints -/

/-- Under the same condition no URL of any endpoint that is given out names a
wildcard. -/
theorem reachableEndpoints_routable {endpoints : List AdvertisedEndpoint}
    {requestedUrl : ByteText} {profileUris : List ByteText}
    (hrequested : isWildcardHost (urlHost requestedUrl) = false)
    (hconfigured :
      ∀ endpoint ∈ endpoints,
        ∀ url ∈ endpoint.endpointUrl :: endpoint.server.discoveryUrls,
          schemeMark <:+: url ∧ RebasesTo url requestedUrl) :
    ∀ endpoint ∈ reachableEndpoints endpoints requestedUrl profileUris,
      ∀ url ∈ endpoint.endpointUrl :: endpoint.server.discoveryUrls,
        isWildcardHost (urlHost url) = false := by
  intro advertised hadvertised url hurl
  obtain ⟨endpoint, hendpoint, rfl⟩ := List.mem_map.mp hadvertised
  have hurls := hconfigured endpoint (List.mem_of_mem_filter hendpoint)
  obtain rfl | hdiscovery := List.mem_cons.mp hurl
  · have hown := hurls endpoint.endpointUrl (by simp)
    exact isWildcardHost_reachable hown.1 hrequested hown.2
  · apply isWildcardHost_discovery hrequested ?_ ?_ hdiscovery
    · exact fun url hmem => (hurls url (List.mem_cons_of_mem _ hmem)).1
    · exact fun url hmem => (hurls url (List.mem_cons_of_mem _ hmem)).2

end OpcuaStack
