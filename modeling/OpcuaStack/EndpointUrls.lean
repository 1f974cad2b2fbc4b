import OpcuaStack.ClientOperations
import OpcuaStack.TextScan

/-!
# The URLs a server advertises

`session/server_runtime.cpp` answers discovery with URLs which the asking client can
dial.  A wildcard bind address is replaced by the host which the client used.  The
replacement is textual: what the client's URL calls a host and what follows the
wildcard are joined, and the joint is read again by whoever dials.
-/

namespace OpcuaStack

open TextScan

def schemeMark : ByteText := asciiText "://"

def slash : UInt8 := 0x2f

def colon : UInt8 := 0x3a

def openingBracket : UInt8 := 0x5b

def closingBracket : UInt8 := 0x5d

/-! ## Reading a URL -/

def urlScheme (url : ByteText) : ByteText :=
  (find schemeMark url).elim [] url.take

/-- A view into a URL: where it starts and what it holds. -/
structure UrlView where
  start : ℕ
  text : ByteText

/-- `UrlAuthority`; `none` is the view without data. -/
def urlAuthority (url : ByteText) : Option UrlView :=
  (find schemeMark url).map fun schemeEnd =>
    let authorityStart := schemeEnd + 3
    (findFrom [slash] authorityStart url).elim
      { start := authorityStart
        text := url.drop authorityStart }
      fun path =>
        { start := authorityStart
          text := (url.drop authorityStart).take (path - authorityStart) }

def authorityHost (authority : ByteText) : ByteText :=
  if authority.head? = some openingBracket then
    (find [closingBracket] authority).elim authority
      fun closing => authority.take (closing + 1)
  else
    (find [colon] authority).elim authority fun first =>
      if (findFrom [colon] (first + 1) authority).isSome then authority
      else authority.take first

def isWildcardHost (host : ByteText) : Bool :=
  host.isEmpty || host == asciiText "0.0.0.0" || host == asciiText "::" ||
    host == asciiText "[::]" || host == asciiText "[::0]" ||
    host == asciiText "0:0:0:0:0:0:0:0"

/-- `AuthorityHost(UrlAuthority(url))`. -/
def urlHost (url : ByteText) : ByteText :=
  authorityHost ((urlAuthority url).elim [] UrlView.text)

def withHost (url host : ByteText) : ByteText :=
  (urlAuthority url).elim url fun authority =>
    -- A host is cut from the front of its authority and starts where that does.
    let oldHost := authorityHost authority.text
    url.take authority.start ++ host ++
      url.drop (authority.start + oldHost.length)

/-! ## The parts of a URL

A URL with a scheme mark is put together from parts, and reading it finds the parts
again.
-/

/-- What an authority holds behind its host. -/
def portSuffix (authority : ByteText) : ByteText :=
  authority.drop (authorityHost authority).length

def urlPortSuffix (url : ByteText) : ByteText :=
  portSuffix ((urlAuthority url).elim [] UrlView.text)

def urlPath (url : ByteText) : ByteText :=
  (urlAuthority url).elim [] fun authority =>
    url.drop (authority.start + authority.text.length)

structure UrlParts where
  scheme : ByteText
  authority : ByteText
  path : ByteText
  /-- The scheme ends at the first mark. -/
  scheme_ends : find schemeMark (scheme ++ schemeMark) = some scheme.length
  authority_ends : slash ∉ authority
  path_starts : path = [] ∨ ∃ rest, path = slash :: rest

def UrlParts.text (parts : UrlParts) : ByteText :=
  parts.scheme ++ schemeMark ++ (parts.authority ++ parts.path)

theorem length_schemeMark : schemeMark.length = 3 := rfl

theorem UrlParts.find_text (parts : UrlParts) :
    find schemeMark parts.text = some parts.scheme.length := by
  have hends :
      find schemeMark (parts.scheme ++ schemeMark ++ []) =
        some parts.scheme.length := by
    simpa using parts.scheme_ends
  exact find_settled (parts.authority ++ parts.path) hends

theorem UrlParts.drop_text (parts : UrlParts) :
    parts.text.drop (parts.scheme.length + 3) =
      parts.authority ++ parts.path := by
  have hlength : (parts.scheme ++ schemeMark).length = parts.scheme.length + 3 := by
    rw [List.length_append, length_schemeMark]
  rw [← hlength, UrlParts.text, List.drop_left]

theorem UrlParts.urlScheme_text (parts : UrlParts) :
    urlScheme parts.text = parts.scheme := by
  rw [urlScheme, parts.find_text]
  simp [UrlParts.text]

theorem UrlParts.urlAuthority_text (parts : UrlParts) :
    urlAuthority parts.text =
      some
        { start := parts.scheme.length + 3
          text := parts.authority } := by
  simp only [urlAuthority, parts.find_text, Option.map_some, findFrom,
    parts.drop_text]
  rcases parts.path_starts with hpath | ⟨rest, hpath⟩
  · have hnone : find [slash] (parts.authority ++ parts.path) = none := by
      rw [find_singleton_eq_none, hpath, List.append_nil]
      exact parts.authority_ends
    rw [hnone, hpath]
    simp
  · have hsome :
        find [slash] (parts.authority ++ parts.path) =
          some parts.authority.length := by
      rw [hpath]
      exact find_singleton_append rest parts.authority_ends
    simp [hsome]

@[simp] theorem UrlParts.urlHost_text (parts : UrlParts) :
    urlHost parts.text = authorityHost parts.authority := by
  simp [urlHost, parts.urlAuthority_text]

@[simp] theorem UrlParts.urlPortSuffix_text (parts : UrlParts) :
    urlPortSuffix parts.text = portSuffix parts.authority := by
  simp [urlPortSuffix, parts.urlAuthority_text]

@[simp] theorem UrlParts.urlPath_text (parts : UrlParts) :
    urlPath parts.text = parts.path := by
  simp only [urlPath, parts.urlAuthority_text, Option.elim_some]
  rw [← List.drop_drop, parts.drop_text, List.drop_left]

theorem exists_urlParts {url : ByteText} (hmark : schemeMark <:+: url) :
    ∃ parts : UrlParts, parts.text = url := by
  obtain ⟨schemeEnd, hfind⟩ := Option.isSome_iff_exists.mp (find_isSome hmark)
  obtain ⟨scheme, after, rfl, rfl⟩ := eq_append_of_find hfind
  have hends : find schemeMark (scheme ++ schemeMark) = some scheme.length := by
    simpa using find_settled [] hfind
  cases hslash : find [slash] after with
  | none =>
      exact
        ⟨{ scheme
           authority := after
           path := []
           scheme_ends := hends
           authority_ends := find_singleton_eq_none.mp hslash
           path_starts := Or.inl rfl },
          by simp [UrlParts.text]⟩
  | some position =>
      obtain ⟨authority, rest, rfl, hauthority, -⟩ :=
        cut_of_find_singleton hslash
      exact
        ⟨{ scheme
           authority
           path := slash :: rest
           scheme_ends := hends
           authority_ends := hauthority
           path_starts := Or.inr ⟨rest, rfl⟩ },
          by simp [UrlParts.text]⟩

/-! ## The host of an authority -/

/-- The ways in which an authority falls into a host and what follows it. -/
inductive AuthoritySplit : (host suffix : ByteText) → Prop
  | literal {inner suffix : ByteText} (hinner : closingBracket ∉ inner) :
      AuthoritySplit (openingBracket :: (inner ++ [closingBracket])) suffix
  | unclosed {inner : ByteText} (hinner : closingBracket ∉ inner) :
      AuthoritySplit (openingBracket :: inner) []
  | plain {name : ByteText} (hbracket : name.head? ≠ some openingBracket)
      (hcolon : colon ∉ name) : AuthoritySplit name []
  | bareLiteral {first second : ByteText}
      (hbracket : (first ++ colon :: second).head? ≠ some openingBracket)
      (hfirst : colon ∉ first) (hsecond : colon ∈ second) :
      AuthoritySplit (first ++ colon :: second) []
  | ported {name port : ByteText} (hbracket : name.head? ≠ some openingBracket)
      (hname : colon ∉ name) (hport : colon ∉ port) :
      AuthoritySplit name (colon :: port)

theorem authorityHost_of_bracket {authority : ByteText}
    (hbracket : authority.head? = some openingBracket) :
    authorityHost authority =
      (find [closingBracket] authority).elim authority
        fun closing => authority.take (closing + 1) := by
  rw [authorityHost, if_pos hbracket]

theorem authorityHost_of_no_bracket {authority : ByteText}
    (hbracket : authority.head? ≠ some openingBracket) :
    authorityHost authority =
      (find [colon] authority).elim authority fun first =>
        if (findFrom [colon] (first + 1) authority).isSome then authority
        else authority.take first := by
  rw [authorityHost, if_neg hbracket]

theorem closingBracket_notMem_cons {inner : ByteText}
    (hinner : closingBracket ∉ inner) :
    closingBracket ∉ openingBracket :: inner := by
  simpa [closingBracket, openingBracket] using hinner

theorem AuthoritySplit.authorityHost {host suffix : ByteText}
    (hsplit : AuthoritySplit host suffix) :
    authorityHost (host ++ suffix) = host := by
  cases hsplit with
  | @literal inner _ hinner =>
      have hfind :=
        find_singleton_append suffix
          (closingBracket_notMem_cons hinner)
      have happend :
          openingBracket :: (inner ++ [closingBracket]) ++ suffix =
            openingBracket :: inner ++ closingBracket :: suffix := by
        simp
      rw [happend, authorityHost_of_bracket rfl, hfind, Option.elim_some]
      simp [List.take_append]
  | @unclosed inner hinner =>
      rw [List.append_nil, authorityHost_of_bracket rfl,
        find_singleton_eq_none.mpr (closingBracket_notMem_cons hinner)]
      rfl
  | plain hbracket hcolon =>
      rw [List.append_nil, authorityHost_of_no_bracket hbracket,
        find_singleton_eq_none.mpr hcolon]
      rfl
  | @bareLiteral first second hbracket hfirst hsecond =>
      have hagain : find [colon] second ≠ none := by
        simpa [find_singleton_eq_none] using hsecond
      rw [List.append_nil, authorityHost_of_no_bracket hbracket,
        find_singleton_append second hfirst]
      simp [findFrom, Option.isSome_iff_ne_none, hagain]
  | @ported _ port hbracket hname hport =>
      have hhead : (host ++ colon :: port).head? ≠ some openingBracket := by
        cases host with
        | nil => simp [colon, openingBracket]
        | cons first rest => simpa using hbracket
      rw [authorityHost_of_no_bracket hhead, find_singleton_append port hname]
      simp [findFrom, find_singleton_eq_none.mpr hport]

theorem exists_authoritySplit (authority : ByteText) :
    ∃ host suffix, authority = host ++ suffix ∧ AuthoritySplit host suffix := by
  by_cases hbracket : authority.head? = some openingBracket
  · obtain ⟨inner, rfl⟩ := List.head?_eq_some_iff.mp hbracket
    by_cases hclosing : closingBracket ∈ inner
    · obtain ⟨literal, suffix, rfl, hliteral⟩ :=
        List.eq_append_cons_of_mem hclosing
      exact ⟨_, suffix, by simp, .literal hliteral⟩
    · exact ⟨_, [], by simp, .unclosed hclosing⟩
  · by_cases hcolon : colon ∈ authority
    · obtain ⟨name, rest, rfl, hname⟩ := List.eq_append_cons_of_mem hcolon
      by_cases hagain : colon ∈ rest
      · exact ⟨_, [], by simp, .bareLiteral hbracket hname hagain⟩
      · refine ⟨name, colon :: rest, rfl, .ported ?_ hname hagain⟩
        intro hname'
        apply hbracket
        rw [List.head?_append, hname']
        rfl
    · exact ⟨_, [], by simp, .plain hbracket hcolon⟩

theorem authoritySplit_authorityHost (authority : ByteText) :
    authorityHost authority ++ portSuffix authority = authority ∧
      AuthoritySplit (authorityHost authority) (portSuffix authority) := by
  obtain ⟨host, suffix, rfl, hsplit⟩ := exists_authoritySplit authority
  have hhost := hsplit.authorityHost
  have hsuffix : portSuffix (host ++ suffix) = suffix := by
    simp [portSuffix, hhost]
  rw [hhost, hsuffix]
  exact ⟨rfl, hsplit⟩

/-- A host is read back from an authority exactly when the two fall apart there. -/
theorem authorityHost_append_iff {host suffix : ByteText} :
    authorityHost (host ++ suffix) = host ↔ AuthoritySplit host suffix := by
  constructor
  · intro hhost
    obtain ⟨happend, hsplit⟩ := authoritySplit_authorityHost (host ++ suffix)
    rw [hhost] at happend hsplit
    rwa [List.append_cancel_left happend] at hsplit
  · exact AuthoritySplit.authorityHost

/-! ## Rebasing what is advertised -/

def rebaseWildcardHost (url requestedHost : ByteText) : ByteText :=
  if requestedHost.isEmpty || isWildcardHost requestedHost then url
  else if isWildcardHost (urlHost url) then withHost url requestedHost
  else url

def reachableEndpointUrl (endpointUrl requestedUrl : ByteText) : ByteText :=
  let requestedHost := urlHost requestedUrl
  if requestedUrl.isEmpty || isWildcardHost requestedHost then endpointUrl
  else if urlScheme endpointUrl = urlScheme requestedUrl then requestedUrl
  else rebaseWildcardHost endpointUrl requestedHost

def reachableDiscoveryUrls (discoveryUrls : List ByteText)
    (requestedUrl : ByteText) : List ByteText :=
  let requestedHost := urlHost requestedUrl
  let rebased := discoveryUrls.map (rebaseWildcardHost · requestedHost)
  if requestedUrl.isEmpty || isWildcardHost requestedHost then rebased
  else if rebased.any fun url => urlScheme url == urlScheme requestedUrl then
    requestedUrl :: rebased.filter (· ≠ requestedUrl)
  else rebased

/-- An `EndpointDescription` with the description of the server which it embeds. -/
structure AdvertisedEndpoint extends EndpointDescription where
  server : ApplicationDescription := {}

def matchesStringFilter (value : ByteText) (filter : List ByteText) : Bool :=
  filter.isEmpty || filter.contains value

def reachableEndpoint (requestedUrl : ByteText) (endpoint : AdvertisedEndpoint) :
    AdvertisedEndpoint :=
  { endpoint with
    endpointUrl := reachableEndpointUrl endpoint.endpointUrl requestedUrl
    server :=
      { endpoint.server with
        discoveryUrls :=
          reachableDiscoveryUrls endpoint.server.discoveryUrls requestedUrl } }

def reachableEndpoints (endpoints : List AdvertisedEndpoint)
    (requestedUrl : ByteText) (profileUris : List ByteText := []) :
    List AdvertisedEndpoint :=
  (endpoints.filter fun endpoint =>
    matchesStringFilter endpoint.transportProfileUri profileUris).map
      (reachableEndpoint requestedUrl)

end OpcuaStack
