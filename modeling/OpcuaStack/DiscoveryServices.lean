import OpcuaStack.AdvertisedUrls
import OpcuaStack.KeyedFirsts
import OpcuaStack.ServerRuntime

/-!
# The discovery services

`HandleFindServers`, `HandleGetEndpoints`, `HandleRegisterServer` and
`HandleRegisterServer2` of `session/server_runtime.cpp`.  FindServers lists the server
itself and those which registered with it; "the server's own endpoints first, so they win
the application_uri dedup".
-/

namespace OpcuaStack

def StatusCode.badNotSupported : StatusCode := ofBad 0x3D

namespace Discovery

/-! ## Messages -/

structure RegisteredServer where
  serverUri : ByteText := []
  productUri : ByteText := []
  serverNames : List LocalizedText := []
  serverType : UInt32 := 0
  gatewayServerUri : ByteText := []
  discoveryUrls : List ByteText := []
  semaphoreFilePath : ByteText := []
  isOnline : Bool := true

structure MdnsDiscoveryConfiguration where
  mdnsServerName : ByteText := []
  serverCapabilities : List ByteText := []

structure FindServersRequest where
  endpointUrl : ByteText := []
  localeIds : List ByteText := []
  serverUris : List ByteText := []

structure FindServersResponse where
  status : Status := .good
  servers : List ApplicationDescription := []

structure GetEndpointsRequest where
  endpointUrl : ByteText := []
  localeIds : List ByteText := []
  profileUris : List ByteText := []

structure GetEndpointsResponse where
  status : Status := .good
  endpoints : List AdvertisedEndpoint := []

structure RegisterServerRequest where
  server : RegisteredServer := {}

structure RegisterServerResponse where
  status : Status := .good

/-- An entry is `none` for a configuration of a type which is not known. -/
structure RegisterServer2Request where
  server : RegisteredServer := {}
  discoveryConfiguration : List (Option MdnsDiscoveryConfiguration) := []

structure RegisterServer2Response where
  status : Status := .good
  configurationResults : List StatusCode := []

structure RegisterServerContext where
  channelSecure : Bool := false
  clientCertificate : ByteString := []
  serverCapabilities : List ByteText := []

/-- What of the `ServerRuntimeContext` the discovery services use; `registeredServers` is
the snapshot which a request takes. -/
structure DiscoveryContext where
  endpoints : List AdvertisedEndpoint := []
  registerServer : Option (RegisteredServer → RegisterServerContext → Status) := none
  registeredServers : Option (List RegisteredServer) := none

/-! ## The handlers -/

/-- `append` of `HandleFindServers`. -/
def appendServer (serverUris : List ByteText) (servers : List ApplicationDescription)
    (server : ApplicationDescription) : List ApplicationDescription :=
  if !matchesStringFilter server.applicationUri serverUris &&
      !matchesStringFilter server.productUri serverUris then servers
  else if servers.any fun existing => existing.applicationUri == server.applicationUri then
    servers
  else servers ++ [server]

def ownDescription (requestedUrl : ByteText) (endpoint : AdvertisedEndpoint) :
    ApplicationDescription :=
  { endpoint.server with
    discoveryUrls := reachableDiscoveryUrls endpoint.server.discoveryUrls requestedUrl }

def registeredDescription (requestedHost : ByteText) (registration : RegisteredServer) :
    ApplicationDescription where
  applicationUri := registration.serverUri
  productUri := registration.productUri
  applicationName := registration.serverNames.headD {}
  applicationType := registration.serverType
  discoveryUrls := registration.discoveryUrls.map (rebaseWildcardHost · requestedHost)

namespace DiscoveryContext

variable (context : DiscoveryContext)

def handleFindServers (request : FindServersRequest) : FindServersResponse :=
  let requestedHost := urlHost request.endpointUrl
  let own := context.endpoints.foldl (fun servers endpoint =>
    appendServer request.serverUris servers (ownDescription request.endpointUrl endpoint)) []
  match context.registeredServers with
  | none => { servers := own }
  | some registrations =>
      { servers := registrations.foldl (fun servers registration =>
          appendServer request.serverUris servers
            (registeredDescription requestedHost registration)) own }

def handleGetEndpoints (request : GetEndpointsRequest) : GetEndpointsResponse :=
  { endpoints := reachableEndpoints context.endpoints request.endpointUrl
      request.profileUris }

def handleRegisterServer (connection : ConnectionState) (request : RegisterServerRequest) :
    RegisterServerResponse :=
  match context.registerServer with
  | none => { status := .ofCode .bad }
  | some register =>
      { status := register request.server
          { channelSecure := connection.secureChannel
            clientCertificate := connection.clientCertificate } }

/-- One round of the loop over the configurations. -/
def takeConfiguration (taken : RegisterServerContext × List StatusCode)
    (configuration : Option MdnsDiscoveryConfiguration) :
    RegisterServerContext × List StatusCode :=
  match configuration with
  | some configuration =>
      ({ taken.1 with
          serverCapabilities :=
            taken.1.serverCapabilities ++ configuration.serverCapabilities },
        taken.2 ++ [.good])
  | none => (taken.1, taken.2 ++ [.badNotSupported])

def handleRegisterServer2 (connection : ConnectionState)
    (request : RegisterServer2Request) : RegisterServer2Response :=
  match context.registerServer with
  | none => { status := .ofCode .bad }
  | some register =>
      let taken := request.discoveryConfiguration.foldl takeConfiguration
        ({ channelSecure := connection.secureChannel
           clientCertificate := connection.clientCertificate }, [])
      { status := register request.server taken.1, configurationResults := taken.2 }

/-- A registration without configurations is answered alike by both services. -/
theorem handleRegisterServer_eq (connection : ConnectionState)
    (request : RegisterServerRequest) :
    (context.handleRegisterServer connection request).status =
      (context.handleRegisterServer2 connection { server := request.server }).status := by
  unfold handleRegisterServer handleRegisterServer2
  cases context.registerServer <;> rfl

end DiscoveryContext

/-! ## The servers which are found -/

/-- The filter of a FindServers request lets this server through. -/
def selected (serverUris : List ByteText) (server : ApplicationDescription) : Bool :=
  matchesStringFilter server.applicationUri serverUris ||
    matchesStringFilter server.productUri serverUris

def DiscoveryContext.candidates (context : DiscoveryContext) (requestedUrl : ByteText) :
    List ApplicationDescription :=
  context.endpoints.map (ownDescription requestedUrl) ++
    (context.registeredServers.getD []).map (registeredDescription (urlHost requestedUrl))

theorem appendServer_eq (serverUris : List ByteText) (servers : List ApplicationDescription)
    (server : ApplicationDescription) :
    appendServer serverUris servers server =
      if selected serverUris server then
        appendNew ApplicationDescription.applicationUri servers server
      else servers := by
  rw [appendServer, selected, ← Bool.not_or]
  cases matchesStringFilter server.applicationUri serverUris ||
    matchesStringFilter server.productUri serverUris with
  | false => rfl
  | true => simp [appendNew]

section Found

variable (context : DiscoveryContext) (request : FindServersRequest)

theorem handleFindServers_eq :
    (context.handleFindServers request).servers =
      firstsBy ApplicationDescription.applicationUri
        ((context.candidates request.endpointUrl).filter (selected request.serverUris)) := by
  have hfold : (context.handleFindServers request).servers =
      (context.candidates request.endpointUrl).foldl (appendServer request.serverUris) [] := by
    rw [DiscoveryContext.candidates, List.foldl_append, List.foldl_map, List.foldl_map,
      DiscoveryContext.handleFindServers]
    cases context.registeredServers <;> rfl
  rw [hfold, firstsBy, List.foldl_filter]
  congr 1
  funext servers server
  exact appendServer_eq request.serverUris servers server

/-- The URLs of a server which this one is configured with, or which registered with
it. -/
def DiscoveryContext.configuredUrls : List ByteText :=
  context.endpoints.flatMap (·.server.discoveryUrls) ++
    (context.registeredServers.getD []).flatMap (·.discoveryUrls)

/-- What FindServers promises of its answer. -/
structure FoundServers (servers : List ApplicationDescription) : Prop where
  uris_nodup : (servers.map (·.applicationUri)).Nodup
  in_order : servers.Sublist (context.candidates request.endpointUrl)
  /-- Of those with one URI which the filter lets through, the first is found. -/
  mem_iff : ∀ server, server ∈ servers ↔
    ((context.candidates request.endpointUrl).filter (selected request.serverUris)).find?
      (fun other => other.applicationUri == server.applicationUri) = some server
  /-- No registration takes the place of the server itself. -/
  own_found : ∀ endpoint ∈ context.endpoints, selected request.serverUris endpoint.server →
    ∃ own ∈ context.endpoints,
      own.server.applicationUri = endpoint.server.applicationUri ∧
        ownDescription request.endpointUrl own ∈ servers
  registered_found : ∀ registrations, context.registeredServers = some registrations →
    ∀ registration ∈ registrations,
      selected request.serverUris (registeredDescription [] registration) →
        registration.serverUri ∈ servers.map (·.applicationUri)
  routable : isWildcardHost (urlHost request.endpointUrl) = false →
    (∀ url ∈ context.configuredUrls,
      schemeMark <:+: url ∧ RebasesTo url request.endpointUrl) →
      ∀ server ∈ servers, ∀ url ∈ server.discoveryUrls, isWildcardHost (urlHost url) = false

variable {context request}

theorem routable_of_candidate
    (hrequested : isWildcardHost (urlHost request.endpointUrl) = false)
    (hconfigured : ∀ url ∈ context.configuredUrls,
      schemeMark <:+: url ∧ RebasesTo url request.endpointUrl)
    {server : ApplicationDescription}
    (hserver : server ∈ context.candidates request.endpointUrl) :
    ∀ url ∈ server.discoveryUrls, isWildcardHost (urlHost url) = false := by
  intro url hurl
  rcases List.mem_append.mp hserver with hown | hregistered
  · obtain ⟨endpoint, hendpoint, rfl⟩ := List.mem_map.mp hown
    have hurls : ∀ own ∈ endpoint.server.discoveryUrls,
        schemeMark <:+: own ∧ RebasesTo own request.endpointUrl := by
      intro own hmem
      apply hconfigured
      apply List.mem_append_left
      exact List.mem_flatMap_of_mem hendpoint hmem
    apply isWildcardHost_discovery hrequested _ _ hurl
    · exact fun own hmem => (hurls own hmem).1
    · exact fun own hmem => (hurls own hmem).2
  · obtain ⟨registration, hregistration, rfl⟩ := List.mem_map.mp hregistered
    obtain ⟨given, hgiven, rfl⟩ := List.mem_map.mp hurl
    have hconditions : schemeMark <:+: given ∧ RebasesTo given request.endpointUrl := by
      apply hconfigured
      apply List.mem_append_right
      exact List.mem_flatMap_of_mem hregistration hgiven
    exact isWildcardHost_rebase hconditions.1 hrequested hconditions.2

end Found

/-- FindServers gives, in the order in which they are known and once for each application
URI, the servers which the filter lets through; the server itself comes before all that
registered; and no URL it gives out names a wildcard if the URL it was asked over does
not. -/
theorem findServers_found (context : DiscoveryContext) (request : FindServersRequest) :
    FoundServers context request (context.handleFindServers request).servers := by
  rw [handleFindServers_eq]
  constructor
  · exact nodup_keys_firstsBy _
  · exact (firstsBy_sublist _).trans List.filter_sublist
  · intro server
    exact mem_firstsBy_iff
  · intro endpoint hendpoint hselected
    -- The candidates of the server itself come first, and one of them is there.
    cases hfound : ((context.endpoints.map (ownDescription request.endpointUrl)).filter
        (selected request.serverUris)).find?
          fun other => other.applicationUri == endpoint.server.applicationUri with
    | none =>
        have hmem : ownDescription request.endpointUrl endpoint ∈
            (context.endpoints.map (ownDescription request.endpointUrl)).filter
              (selected request.serverUris) := by
          apply List.mem_filter.mpr
          exact ⟨List.mem_map_of_mem hendpoint, hselected⟩
        have hnone := List.find?_eq_none.mp hfound _ hmem
        simp [ownDescription] at hnone
    | some server =>
        have hkey := List.find?_some hfound
        have hmem := List.mem_of_mem_filter (List.mem_of_find?_eq_some hfound)
        obtain ⟨own, hown, rfl⟩ := List.mem_map.mp hmem
        refine ⟨own, hown, by simpa [ownDescription] using hkey, ?_⟩
        apply mem_firstsBy_iff.mpr
        rw [DiscoveryContext.candidates, List.filter_append, List.find?_append]
        have hsame : (ownDescription request.endpointUrl own).applicationUri =
            endpoint.server.applicationUri := by
          simpa using hkey
        rw [hsame, hfound, Option.some_or]
  · intro registrations hregistrations registration hregistration hselected
    apply mem_keys_firstsBy.mpr
    apply List.mem_map.mpr
    refine ⟨registeredDescription (urlHost request.endpointUrl) registration, ?_, rfl⟩
    apply List.mem_filter.mpr
    refine ⟨?_, hselected⟩
    apply List.mem_append_right
    rw [hregistrations]
    exact List.mem_map_of_mem hregistration
  · intro hrequested hconfigured server hserver
    apply routable_of_candidate hrequested hconfigured
    exact List.mem_of_mem_filter ((firstsBy_sublist _).subset hserver)

/-- A server on every interface, and a registration under its own URI. -/
def plant : DiscoveryContext where
  endpoints :=
    [{ endpointUrl := asciiText "opc.tcp://0.0.0.0:4840"
       server :=
        { applicationUri := asciiText "urn:plant"
          discoveryUrls := [asciiText "opc.tcp://0.0.0.0:4840"] } }]
  registeredServers :=
    some [{ serverUri := asciiText "urn:plant" }, { serverUri := asciiText "urn:archive" }]

def plantRequest : FindServersRequest where
  endpointUrl := asciiText "opc.tcp://plant:4840"

/-- It is asked over its name, and gives its address under that name. -/
theorem plant_found :
    (plant.handleFindServers plantRequest).servers.map
        (fun server => (server.applicationUri, server.discoveryUrls)) =
      [(asciiText "urn:plant", [asciiText "opc.tcp://plant:4840"]),
        (asciiText "urn:archive", [])] ∧
      asciiText "urn:archive" ∈
        (plant.handleFindServers plantRequest).servers.map (·.applicationUri) ∧
      ∀ server ∈ (plant.handleFindServers plantRequest).servers,
        ∀ url ∈ server.discoveryUrls, isWildcardHost (urlHost url) = false := by
  have hfound := findServers_found plant plantRequest
  have hconfigured : plant.configuredUrls = [asciiText "opc.tcp://0.0.0.0:4840"] := rfl
  refine ⟨by decide, hfound.registered_found _ rfl { serverUri := asciiText "urn:archive" }
    (List.mem_cons_of_mem _ List.mem_cons_self) (by decide),
    hfound.routable (by decide) ?_⟩
  rw [hconfigured, List.forall_mem_singleton]
  exact ⟨⟨asciiText "opc.tcp", asciiText "0.0.0.0:4840", rfl⟩, fun _ => by decide⟩

/-! ## The endpoints which are given out -/

def withoutUrls (endpoint : AdvertisedEndpoint) : AdvertisedEndpoint :=
  { endpoint with
    endpointUrl := []
    server := { endpoint.server with discoveryUrls := [] } }

/-- What GetEndpoints promises of its answer. -/
structure FoundEndpoints (context : DiscoveryContext) (request : GetEndpointsRequest)
    (endpoints : List AdvertisedEndpoint) : Prop where
  /-- Those of the profiles asked for, in order and unchanged but for their URLs. -/
  kept : endpoints.map withoutUrls =
    (context.endpoints.filter fun endpoint =>
      matchesStringFilter endpoint.transportProfileUri request.profileUris).map
        withoutUrls
  /-- Over its own scheme a client gets the URL which it used. -/
  same_url : isWildcardHost (urlHost request.endpointUrl) = false →
    ∀ endpoint ∈ context.endpoints,
      matchesStringFilter endpoint.transportProfileUri request.profileUris = true →
        urlScheme endpoint.endpointUrl = urlScheme request.endpointUrl →
          ∃ found ∈ endpoints, withoutUrls found = withoutUrls endpoint ∧
            found.endpointUrl = request.endpointUrl
  routable : isWildcardHost (urlHost request.endpointUrl) = false →
    (∀ endpoint ∈ context.endpoints,
      ∀ url ∈ endpoint.endpointUrl :: endpoint.server.discoveryUrls,
        schemeMark <:+: url ∧ RebasesTo url request.endpointUrl) →
      ∀ endpoint ∈ endpoints,
        ∀ url ∈ endpoint.endpointUrl :: endpoint.server.discoveryUrls,
          isWildcardHost (urlHost url) = false

/-- GetEndpoints gives the endpoints of the profiles asked for, in order, under URLs which
the client can dial. -/
theorem getEndpoints_found (context : DiscoveryContext) (request : GetEndpointsRequest) :
    FoundEndpoints context request (context.handleGetEndpoints request).endpoints := by
  constructor
  · exact List.map_map.trans rfl
  · intro hrequested endpoint hendpoint hprofile hscheme
    refine ⟨reachableEndpoint request.endpointUrl endpoint, ?_, rfl, ?_⟩
    · exact List.mem_map_of_mem (List.mem_filter.mpr ⟨hendpoint, hprofile⟩)
    · have hempty : request.endpointUrl.isEmpty = false := isEmpty_of_not_wildcard hrequested
      simp [reachableEndpoint, reachableEndpointUrl, hempty, hrequested, hscheme]
  · intro hrequested hconfigured
    exact reachableEndpoints_routable hrequested hconfigured

theorem plant_endpoints :
    ∀ endpoint ∈ (plant.handleGetEndpoints { endpointUrl := plantRequest.endpointUrl }).endpoints,
      ∀ url ∈ endpoint.endpointUrl :: endpoint.server.discoveryUrls,
        isWildcardHost (urlHost url) = false := by
  refine (getEndpoints_found plant _).routable (by decide) ?_
  intro endpoint hendpoint url hurl
  obtain rfl := List.mem_singleton.mp hendpoint
  obtain rfl : url = asciiText "opc.tcp://0.0.0.0:4840" := by
    rcases List.mem_cons.mp hurl with rfl | hown
    · rfl
    · exact List.mem_singleton.mp hown
  exact ⟨⟨asciiText "opc.tcp", asciiText "0.0.0.0:4840", rfl⟩, fun _ => by decide⟩

end Discovery
end OpcuaStack
