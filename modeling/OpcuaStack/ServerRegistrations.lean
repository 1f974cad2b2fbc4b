import OpcuaStack.DiscoveryServices
import OpcuaStack.JsonTranscoding

/-!
# Registrations over the wire

RegisterServer2 from the client to the handler and back, by the conversions of
`session/discovery_conversion.cpp` and the generated codec.  A configuration arrives as an
extension object of a type which the server may not know, and each entry has its own result.
-/

namespace OpcuaStack

open Json

/-! ## Structures of the schema -/

namespace StandardTypes

def stringField (name : String) (rest : FieldLayouts) : FieldLayouts :=
  .single name (.builtIn (.plain .string)) rest

def stringsField (name : String) (rest : FieldLayouts) : FieldLayouts :=
  .array name (.builtIn (.plain .string)) rest

def extensionObjectField (name : String) (rest : FieldLayouts) : FieldLayouts :=
  .single name (.builtIn (.plain .extensionObject)) rest

def mdnsDiscoveryConfiguration : GeneratedType where
  layout := .structure (stringField "MdnsServerName" (stringsField "ServerCapabilities" .nil))
  binaryEncodingId := 12901
  jsonEncodingId := 15106

def registeredServer : TypeLayout :=
  .structure (stringField "ServerUri" (stringField "ProductUri"
    (.array "ServerNames" (.builtIn (.plain .localizedText))
      (.single "ServerType" (.enumeration .int32) (stringField "GatewayServerUri"
        (stringsField "DiscoveryUrls" (stringField "SemaphoreFilePath"
          (boolField "IsOnline" .nil))))))))

def requestHeader : TypeLayout :=
  .structure (nodeIdField "AuthenticationToken" (dateTimeField "Timestamp"
    (uint32Field "RequestHandle" (uint32Field "ReturnDiagnostics" (stringField "AuditEntryId"
      (uint32Field "TimeoutHint" (extensionObjectField "AdditionalHeader" .nil)))))))

def responseHeader : TypeLayout :=
  .structure (dateTimeField "Timestamp" (uint32Field "RequestHandle"
    (.single "ServiceResult" (.builtIn (.plain .statusCode))
      (.single "ServiceDiagnostics" (.builtIn (.plain .diagnosticInfo))
        (stringsField "StringTable" (extensionObjectField "AdditionalHeader" .nil))))))

/-- A RegisterServer2Request behind its header. -/
def registerServer2Fields : FieldLayouts :=
  .single "Server" registeredServer
    (.array "DiscoveryConfiguration" (.builtIn (.plain .extensionObject)) .nil)

def registerServer2Request : TypeLayout :=
  .structure (.single "RequestHeader" requestHeader registerServer2Fields)

def registerServer2Results : FieldLayouts :=
  .array "ConfigurationResults" (.builtIn (.plain .statusCode))
    (.array "DiagnosticInfos" (.builtIn (.plain .diagnosticInfo)) .nil)

def registerServer2Response : TypeLayout :=
  .structure (.single "ResponseHeader" responseHeader registerServer2Results)

end StandardTypes

/-! ## Messages behind a header -/

section Headers

open Binary Binary.Bounded

variable {forms : Representations}

theorem FieldLayouts.returns_cons (name : String) {type : TypeLayout} {rest : FieldLayouts}
    {sent received : type.Carrier} {others arrived : rest.Carrier}
    (htype : (type.decode forms).Returns (type.encode forms sent) received)
    (hrest : (rest.decode forms).Returns (rest.encode forms others) arrived) :
    ((FieldLayouts.single name type rest).decode forms).Returns
      ((FieldLayouts.single name type rest).encode forms (sent, others)) (received, arrived) :=
  htype.bind (hrest.bind_pure fun others => (received, others))

theorem FieldLayouts.returns_nil :
    (FieldLayouts.nil.decode forms).Returns (FieldLayouts.nil.encode forms ()) () :=
  .pure ()

theorem FieldLayouts.returns_noElements (name : String) {type : TypeLayout}
    {rest : FieldLayouts} {others arrived : rest.Carrier}
    (hrest : (rest.decode forms).Returns (rest.encode forms others) arrived) :
    ((FieldLayouts.array name type rest).decode forms).Returns
      ((FieldLayouts.array name type rest).encode forms ([], others)) ([], arrived) := by
  have hnone : (WireType.decodeArray (type.decode forms)).Returns
      (encodeArrayWith (type.encode forms) []) ([].map type.asSent) := by
    apply returns_arrayWith
    · simp
    · simp
    · simp
  exact hnone.bind (hrest.bind_pure fun others => ([], others))

theorem returns_plain (type : PlainType) {value : type.Carrier}
    (h : LeafFits forms type value) :
    ((TypeLayout.builtIn (.plain type)).decode forms).Returns
      ((TypeLayout.builtIn (.plain type)).encode forms value) value :=
  returns_element forms type (leafReturns_of_fits h)

theorem carried_encodingId (id : UInt32) : Carried (encodingId id) :=
  ⟨fun _ => NodeIdentifier.noConfusion, trivial, Nat.two_pow_pos 31⟩

/-- "`encoding = 0x00`": an object without a body comes back with one of no bytes. -/
theorem returns_noBody {typeId : ExpandedNodeId} (h : Carried typeId) :
    ((TypeLayout.builtIn (.plain .extensionObject)).decode forms).Returns
      ((TypeLayout.builtIn (.plain .extensionObject)).encode forms
        ({ dataTypeId := typeId } : ExtensionObject))
      ({ dataTypeId := typeId, value := .binary [] } : ExtensionObject) :=
  (returns_expandedNodeId h).bind (.of_yields ((yields_uInt8 0x00).bind_nil (.pure _)))

/-- A body is read back if its header is, whatever becomes of the header. -/
theorem exists_body_behind (name : String) {header : TypeLayout} {fields : FieldLayouts}
    {sent received : header.Carrier} {value : fields.Carrier}
    (hheader : (header.decode forms).Returns (header.encode forms sent) received)
    (hplain : fields.plain) (hfits : fields.Fits forms value) :
    ∃ body, (TypeLayout.structure (.single name header fields)).encode forms (sent, value) =
        some body ∧
      (body.length < 2 ^ 63 → WireType.decodeBody
        ((TypeLayout.structure (.single name header fields)).decode forms) body =
          some (received, value)) := by
  have hfields := fields.returns value hfits
  rw [fields.asSent_of_plain hplain] at hfields
  obtain ⟨body, hbody, hyields⟩ := FieldLayouts.returns_cons name hheader hfields
  exact ⟨body, hbody, fun hlength => WireType.decodeBody_of_yields hlength hyields⟩

/-- `MakeResponseHeader`. -/
def makeResponseHeader (requestHandle : UInt32) (serviceResult : Status) :
    StandardTypes.responseHeader.Carrier :=
  (({} : DateTime), requestHandle, serviceResult, noDiagnosticInfo, ([] : List ByteText),
    ({} : ExtensionObject), ())

def receivedResponseHeader (requestHandle : UInt32) (serviceResult : Status) :
    StandardTypes.responseHeader.Carrier :=
  (({} : DateTime), requestHandle, serviceResult, noDiagnosticInfo, ([] : List ByteText),
    ({ value := .binary [] } : ExtensionObject), ())

theorem returns_responseHeader (requestHandle : UInt32) (serviceResult : Status) :
    (StandardTypes.responseHeader.decode forms).Returns
      (StandardTypes.responseHeader.encode forms
        (makeResponseHeader requestHandle serviceResult))
      (receivedResponseHeader requestHandle serviceResult) := by
  apply FieldLayouts.returns_cons "Timestamp" (returns_plain .dateTime ⟨by decide, by decide⟩)
  apply FieldLayouts.returns_cons "RequestHandle" (returns_plain .uint32 trivial)
  apply FieldLayouts.returns_cons "ServiceResult" (returns_plain .statusCode trivial)
  apply FieldLayouts.returns_cons "ServiceDiagnostics"
  · exact returns_plain .diagnosticInfo ⟨by simp, trivial⟩
  apply FieldLayouts.returns_noElements "StringTable"
  apply FieldLayouts.returns_cons "AdditionalHeader" (returns_noBody (carried_encodingId 0))
  exact FieldLayouts.returns_nil

end Headers

namespace Discovery

open StandardTypes

/-! ## Conversions -/

def MdnsDiscoveryConfiguration.toUa (configuration : MdnsDiscoveryConfiguration) :
    mdnsDiscoveryConfiguration.layout.Carrier :=
  (configuration.mdnsServerName, configuration.serverCapabilities, ())

def MdnsDiscoveryConfiguration.fromUa :
    mdnsDiscoveryConfiguration.layout.Carrier → MdnsDiscoveryConfiguration
  | (mdnsServerName, serverCapabilities, _) => { mdnsServerName, serverCapabilities }

/-- `ToUa`; the `CastEnum` of the type keeps its 32 bits. -/
def RegisteredServer.toUa (server : RegisteredServer) : registeredServer.Carrier :=
  (server.serverUri, server.productUri, server.serverNames, server.serverType.toInt32,
    server.gatewayServerUri, server.discoveryUrls, server.semaphoreFilePath, server.isOnline, ())

def RegisteredServer.fromUa : registeredServer.Carrier → RegisteredServer
  | (serverUri, productUri, serverNames, serverType, gatewayServerUri, discoveryUrls,
      semaphoreFilePath, isOnline, _) =>
    { serverUri, productUri, serverNames, serverType := Int32.toUInt32 serverType,
      gatewayServerUri, discoveryUrls, semaphoreFilePath, isOnline }

theorem RegisteredServer.fromUa_toUa (server : RegisteredServer) :
    RegisteredServer.fromUa server.toUa = server := by
  simp [RegisteredServer.fromUa, RegisteredServer.toUa]

variable (forms : Binary.Representations) (texts : Texts)

/-- A JSON body is taken under either id of its type. -/
def decodeDiscoveryConfiguration (configuration : ExtensionObject) :
    Except Thrown (Option MdnsDiscoveryConfiguration) :=
  match (mdnsDiscoveryConfiguration.wire forms texts).fromExtensionObject configuration with
  | some mdns => .ok (some (.fromUa mdns))
  | none =>
      match configuration.value with
      | .json json =>
          if configuration.standardId? = some mdnsDiscoveryConfiguration.binaryEncodingId ∨
              configuration.standardId? = some mdnsDiscoveryConfiguration.jsonEncodingId then
            (fun mdns => some (.fromUa mdns)) <$>
              mdnsDiscoveryConfiguration.layout.decodeJson texts json
          else .ok none
      | _ => .ok none

def RegisterServer2Request.toManaged (wire : registerServer2Fields.Carrier) :
    Except Thrown RegisterServer2Request := do
  let configurations ← wire.2.1.mapM (decodeDiscoveryConfiguration forms texts)
  return { server := .fromUa wire.1, discoveryConfiguration := configurations }

def RegisterServer2Response.toWire (response : RegisterServer2Response) :
    registerServer2Results.Carrier :=
  (response.configurationResults.map Status.ofCode, ([] : List DiagnosticInfo), ())

def RegisterServer2Response.toManaged :
    registerServer2Response.Carrier → RegisterServer2Response
  | ((_, _, serviceResult, _), configurationResults, _) =>
    { status := serviceResult
      configurationResults := configurationResults.map Status.code }

/-! ## What the handler is told -/

section Registration

variable {forms texts}

theorem foldl_takeConfiguration (taken : RegisterServerContext × List StatusCode)
    (configurations : List (Option MdnsDiscoveryConfiguration)) :
    configurations.foldl DiscoveryContext.takeConfiguration taken =
      ({ taken.1 with
          serverCapabilities := taken.1.serverCapabilities ++
            configurations.flatMap (·.elim [] (·.serverCapabilities)) },
        taken.2 ++ configurations.map (·.elim .badNotSupported fun _ => .good)) := by
  induction configurations generalizing taken with
  | nil => simp
  | cons configuration configurations ih =>
      rw [List.foldl_cons, ih]
      cases configuration <;> simp [DiscoveryContext.takeConfiguration]

theorem handleRegisterServer2_eq {context : DiscoveryContext}
    {register : RegisteredServer → RegisterServerContext → Status}
    (hregister : context.registerServer = some register) (connection : ConnectionState)
    (request : RegisterServer2Request) :
    context.handleRegisterServer2 connection request =
      { status := register request.server
          { channelSecure := connection.secureChannel
            clientCertificate := connection.clientCertificate
            serverCapabilities :=
              request.discoveryConfiguration.flatMap (·.elim [] (·.serverCapabilities)) }
        configurationResults := request.discoveryConfiguration.map
          (·.elim .badNotSupported fun _ => .good) } := by
  simp [DiscoveryContext.handleRegisterServer2, hregister, foldl_takeConfiguration]

variable (forms texts)

/-- The configuration which a binary object holds, if it is of the one known type. -/
def knownConfiguration (configuration : ExtensionObject) : Option MdnsDiscoveryConfiguration :=
  ((mdnsDiscoveryConfiguration.wire forms texts).fromExtensionObject configuration).map .fromUa

variable {forms texts}

theorem decodeDiscoveryConfiguration_of_binary {configuration : ExtensionObject}
    {body : ByteString} (hbody : configuration.value = .binary body) :
    decodeDiscoveryConfiguration forms texts configuration =
      .ok (knownConfiguration forms texts configuration) := by
  rw [decodeDiscoveryConfiguration, knownConfiguration, hbody]
  cases (mdnsDiscoveryConfiguration.wire forms texts).fromExtensionObject configuration <;> rfl

theorem mapM_decodeDiscoveryConfiguration {configurations : List ExtensionObject}
    (h : ∀ configuration ∈ configurations, ∃ body, configuration.value = .binary body) :
    configurations.mapM (decodeDiscoveryConfiguration forms texts) =
      .ok (configurations.map (knownConfiguration forms texts)) := by
  induction configurations with
  | nil => rfl
  | cons configuration configurations ih =>
      obtain ⟨body, hbody⟩ := h configuration List.mem_cons_self
      rw [List.mapM_cons, decodeDiscoveryConfiguration_of_binary hbody,
        ih fun other hmem => h other (List.mem_cons_of_mem _ hmem)]
      rfl

theorem knownConfiguration_toExtensionObject {configuration : MdnsDiscoveryConfiguration}
    (hfits : mdnsDiscoveryConfiguration.layout.Fits forms configuration.toUa)
    (hlength : ∀ body, mdnsDiscoveryConfiguration.layout.encode forms configuration.toUa =
      some body → body.length < 2 ^ 63) :
    knownConfiguration forms texts
      ((mdnsDiscoveryConfiguration.wire forms texts).toExtensionObject configuration.toUa) =
        some configuration := by
  obtain ⟨body, hbody, hread⟩ := TypeLayout.exists_body (by decide) hfits
  have hreturns : (mdnsDiscoveryConfiguration.wire forms texts).RoundTrips configuration.toUa := by
    change WireType.decodeBody _ ((mdnsDiscoveryConfiguration.layout.encode forms
      configuration.toUa).getD []) = _
    rw [hbody]
    exact hread (hlength body hbody)
  rw [knownConfiguration, hreturns.fromExtensionObject]
  rfl

end Registration

/-! ## There and back -/

section Travel

variable (context : DiscoveryContext) (connection : ConnectionState)

/-- What the server makes of a registration sent over the binary transport. -/
def requestOverWire (header : requestHeader.Carrier) (fields : registerServer2Fields.Carrier) :
    Option RegisterServer2Request := do
  let body ← registerServer2Request.encode forms (header, fields)
  let received ← WireType.decodeBody (registerServer2Request.decode forms) body
  (RegisterServer2Request.toManaged forms texts received.2).toOption

/-- What the client makes of the answer. -/
def answerOverWire (requestHandle : UInt32) (response : RegisterServer2Response) :
    Option RegisterServer2Response := do
  let body ← registerServer2Response.encode forms
    (makeResponseHeader requestHandle response.status, response.toWire)
  let received ← WireType.decodeBody (registerServer2Response.decode forms) body
  return RegisterServer2Response.toManaged received

def registerOverWire (header : requestHeader.Carrier) (requestHandle : UInt32)
    (fields : registerServer2Fields.Carrier) : Option RegisterServer2Response :=
  (requestOverWire forms texts header fields).bind fun request =>
    answerOverWire forms requestHandle (context.handleRegisterServer2 connection request)

variable {forms texts context}

theorem responseFields_fit {response : RegisterServer2Response}
    (h : response.configurationResults.length < 2 ^ 31) :
    registerServer2Results.Fits forms response.toWire := by
  have hcount : (response.configurationResults.map Status.ofCode).length < 2 ^ 31 := by
    rwa [List.length_map]
  refine ⟨⟨hcount, .inr rfl, fun _ _ => trivial⟩, ⟨Nat.two_pow_pos 31, .inr rfl, ?_⟩, trivial⟩
  intro info hinfo
  exact absurd hinfo List.not_mem_nil

theorem toManaged_toWire {requestHandle : UInt32} {response : RegisterServer2Response}
    (hresults : ∀ result ∈ response.configurationResults,
      result = .good ∨ result = .badNotSupported) :
    RegisterServer2Response.toManaged
      (receivedResponseHeader requestHandle response.status, response.toWire) = response := by
  have hcodes : ∀ result ∈ response.configurationResults,
      (Status.code ∘ Status.ofCode) result = result := by
    intro result hmem
    rcases hresults result hmem with rfl | rfl
    · rfl
    · rfl
  have hreturn :
      (response.configurationResults.map Status.ofCode).map Status.code =
        response.configurationResults := by
    rw [List.map_map, List.map_congr_left hcodes]
    exact List.map_id _
  exact congrArg (RegisterServer2Response.mk response.status) hreturn

theorem answerOverWire_eq {requestHandle : UInt32} {response : RegisterServer2Response}
    (hcount : response.configurationResults.length < 2 ^ 31)
    (hresults : ∀ result ∈ response.configurationResults,
      result = .good ∨ result = .badNotSupported)
    (hlength : ∀ body, registerServer2Response.encode forms
      (makeResponseHeader requestHandle response.status, response.toWire) = some body →
        body.length < 2 ^ 63) :
    answerOverWire forms requestHandle response = some response := by
  obtain ⟨body, hbody, hread⟩ := exists_body_behind "ResponseHeader"
    (returns_responseHeader requestHandle response.status) (by decide)
    (responseFields_fit hcount)
  have hencoded : registerServer2Response.encode forms
      (makeResponseHeader requestHandle response.status, response.toWire) = some body := hbody
  have hdecoded : WireType.decodeBody (registerServer2Response.decode forms) body =
      some (receivedResponseHeader requestHandle response.status, response.toWire) :=
    hread (hlength body hbody)
  rw [answerOverWire, hencoded]
  change (WireType.decodeBody (registerServer2Response.decode forms) body).bind
    (fun received => some (RegisterServer2Response.toManaged received)) = _
  rw [hdecoded]
  exact congrArg some (toManaged_toWire hresults)

theorem requestOverWire_eq {sent received : requestHeader.Carrier} {server : RegisteredServer}
    {configurations : List ExtensionObject}
    (hheader : (requestHeader.decode forms).Returns (requestHeader.encode forms sent) received)
    (hfits : registerServer2Fields.Fits forms (server.toUa, configurations, ()))
    (hlength : ∀ body, registerServer2Request.encode forms
      (sent, server.toUa, configurations, ()) = some body → body.length < 2 ^ 63) :
    requestOverWire forms texts sent (server.toUa, configurations, ()) =
      some { server, discoveryConfiguration :=
        configurations.map (knownConfiguration forms texts) } := by
  obtain ⟨body, hbody, hread⟩ :=
    exists_body_behind "RequestHeader" hheader (by decide) hfits
  have hbinary : ∀ configuration ∈ configurations,
      ∃ body, configuration.value = .binary body := by
    intro configuration hmem
    obtain ⟨body, hvalue, -⟩ := (hfits.2.1.2.2 configuration hmem).body
    exact ⟨body, hvalue⟩
  have hmanaged : RegisterServer2Request.toManaged forms texts
      (server.toUa, configurations, ()) =
        .ok { server, discoveryConfiguration :=
          configurations.map (knownConfiguration forms texts) } := by
    change (do
      let decoded ← configurations.mapM (decodeDiscoveryConfiguration forms texts)
      return ({ server := .fromUa server.toUa, discoveryConfiguration := decoded } :
        RegisterServer2Request)) = _
    rw [mapM_decodeDiscoveryConfiguration hbinary, RegisteredServer.fromUa_toUa]
    rfl
  have hencoded : registerServer2Request.encode forms
      (sent, server.toUa, configurations, ()) = some body := hbody
  have hdecoded : WireType.decodeBody (registerServer2Request.decode forms) body =
      some (received, server.toUa, configurations, ()) :=
    hread (hlength body hbody)
  change (registerServer2Request.encode forms (sent, server.toUa, configurations, ())).bind
    (fun body => (WireType.decodeBody (registerServer2Request.decode forms) body).bind
      fun received => (RegisterServer2Request.toManaged forms texts received.2).toOption) = _
  rw [hencoded, Option.bind_some, hdecoded]
  change (RegisterServer2Request.toManaged forms texts
    (server.toUa, configurations, ())).toOption = _
  rw [hmanaged]
  rfl

variable (forms texts) in
/-- The handler learns the server as the client described it, the channel it came over, and
the capabilities of the configurations which are known, in their order. -/
def registrationResponse (register : RegisteredServer → RegisterServerContext → Status)
    (server : RegisteredServer) (configurations : List ExtensionObject) :
    RegisterServer2Response :=
  let known := configurations.map (knownConfiguration forms texts)
  { status := register server
      { channelSecure := connection.secureChannel
        clientCertificate := connection.clientCertificate
        serverCapabilities := known.flatMap (·.elim [] (·.serverCapabilities)) }
    configurationResults := known.map (·.elim .badNotSupported fun _ => .good) }

/-- A registration reaches the handler over the wire, and the client is told what the
handler said and which configurations are known; the one it sends itself is. -/
theorem registration_answered {register : RegisteredServer → RegisterServerContext → Status}
    {sent received : requestHeader.Carrier} {requestHandle : UInt32} {server : RegisteredServer}
    {configurations : List ExtensionObject}
    (hregister : context.registerServer = some register)
    (hheader : (requestHeader.decode forms).Returns (requestHeader.encode forms sent) received)
    (hfits : registerServer2Fields.Fits forms (server.toUa, configurations, ()))
    (hrequest : ∀ body, registerServer2Request.encode forms
      (sent, server.toUa, configurations, ()) = some body → body.length < 2 ^ 63)
    (hanswer : ∀ body, registerServer2Response.encode forms
      (makeResponseHeader requestHandle
          (registrationResponse forms texts connection register server configurations).status,
        (registrationResponse forms texts connection register server configurations).toWire) =
          some body → body.length < 2 ^ 63) :
    registerOverWire forms texts context connection sent requestHandle
        (server.toUa, configurations, ()) =
      some (registrationResponse forms texts connection register server configurations) ∧
    ∀ configuration : MdnsDiscoveryConfiguration,
      mdnsDiscoveryConfiguration.layout.Fits forms configuration.toUa →
      (mdnsDiscoveryConfiguration.wire forms texts).toExtensionObject configuration.toUa ∈
        configurations →
      knownConfiguration forms texts
        ((mdnsDiscoveryConfiguration.wire forms texts).toExtensionObject configuration.toUa) =
          some configuration := by
  constructor
  · change (requestOverWire forms texts sent (server.toUa, configurations, ())).bind
      (fun request => answerOverWire forms requestHandle
        (context.handleRegisterServer2 connection request)) = _
    rw [requestOverWire_eq hheader hfits hrequest, Option.bind_some,
      handleRegisterServer2_eq hregister]
    apply answerOverWire_eq
    · rw [List.length_map, List.length_map]
      exact hfits.2.1.1
    · intro result hresult
      obtain ⟨known, -, rfl⟩ := List.mem_map.mp hresult
      cases known with
      | none => exact Or.inr rfl
      | some configuration => exact Or.inl rfl
    · exact hanswer
  · intro configuration hconfiguration hmem
    apply knownConfiguration_toExtensionObject hconfiguration
    intro body hbody
    obtain ⟨sentBody, hvalue, hlength⟩ := (hfits.2.1.2.2 _ hmem).body
    change ExtensionBody.binary ((mdnsDiscoveryConfiguration.layout.encode forms
      configuration.toUa).getD []) = .binary sentBody at hvalue
    rw [hbody] at hvalue
    have hsame : body = sentBody := ExtensionBody.binary.inj hvalue
    rw [hsame]
    omega

end Travel

/-! ## A historian which registers -/

def sampleServer : RegisteredServer where
  serverUri := [0x61]
  serverType := 3

def sampleConfiguration : MdnsDiscoveryConfiguration where
  mdnsServerName := [0x61]
  serverCapabilities := [asciiText "HD"]

/-- The configuration of the client, and one of another type. -/
def sampleConfigurations : List ExtensionObject :=
  [(mdnsDiscoveryConfiguration.wire Binary.Bounded.sampleForms sampleTexts).toExtensionObject
      sampleConfiguration.toUa,
    { dataTypeId := encodingId 99, value := .binary [1] }]

/-- A discovery server which takes historians. -/
def sampleContext : DiscoveryContext where
  registerServer := some fun _ context =>
    if asciiText "HD" ∈ context.serverCapabilities then .good else .ofCode .bad

def sampleHeader : requestHeader.Carrier :=
  (({} : NodeId), ({} : DateTime), (7 : UInt32), (0 : UInt32), ([] : ByteText), (0 : UInt32),
    ({} : ExtensionObject), ())

def sampleReceivedHeader : requestHeader.Carrier :=
  (({} : NodeId), ({} : DateTime), (7 : UInt32), (0 : UInt32), ([] : ByteText), (0 : UInt32),
    ({ value := .binary [] } : ExtensionObject), ())

theorem sampleHeader_returns :
    (requestHeader.decode Binary.Bounded.sampleForms).Returns
      (requestHeader.encode Binary.Bounded.sampleForms sampleHeader) sampleReceivedHeader := by
  apply FieldLayouts.returns_cons "AuthenticationToken" (returns_plain .nodeId (by trivial))
  apply FieldLayouts.returns_cons "Timestamp" (returns_plain .dateTime ⟨by decide, by decide⟩)
  apply FieldLayouts.returns_cons "RequestHandle" (returns_plain .uint32 trivial)
  apply FieldLayouts.returns_cons "ReturnDiagnostics" (returns_plain .uint32 trivial)
  apply FieldLayouts.returns_cons "AuditEntryId" (returns_plain .string (by exact Nat.two_pow_pos 31))
  apply FieldLayouts.returns_cons "TimeoutHint" (returns_plain .uint32 trivial)
  apply FieldLayouts.returns_cons "AdditionalHeader" (returns_noBody (carried_encodingId 0))
  exact FieldLayouts.returns_nil

theorem sampleConfigurations_fit :
    registerServer2Fields.Fits Binary.Bounded.sampleForms
      (sampleServer.toUa, sampleConfigurations, ()) := by
  have htext : ∀ text : ByteText, text.length < 2 ^ 31 →
      LeafFits Binary.Bounded.sampleForms .string text := fun _ => id
  refine ⟨⟨htext _ (by decide), htext _ (by decide), ⟨by decide, .inr rfl, ?_⟩, trivial,
    htext _ (by decide), ⟨by decide, .inr rfl, ?_⟩, htext _ (by decide), trivial, trivial⟩,
    ⟨by decide, .inr rfl, ?_⟩, trivial⟩
  · intro name hname
    exact absurd hname List.not_mem_nil
  · intro url hurl
    exact absurd hurl List.not_mem_nil
  · intro configuration hmem
    change configuration ∈ sampleConfigurations at hmem
    rcases List.mem_cons.mp hmem with rfl | hother
    · exact ⟨carried_encodingId _, _, rfl, by decide⟩
    · obtain rfl := List.mem_singleton.mp hother
      exact ⟨carried_encodingId _, _, rfl, by decide⟩

theorem sampleRegistration_answered :
    registerOverWire Binary.Bounded.sampleForms sampleTexts sampleContext {} sampleHeader 7
        (sampleServer.toUa, sampleConfigurations, ()) =
      some (registrationResponse Binary.Bounded.sampleForms sampleTexts {}
        (fun _ context =>
          if asciiText "HD" ∈ context.serverCapabilities then .good else .ofCode .bad)
        sampleServer sampleConfigurations) := by
  apply (registration_answered {} rfl sampleHeader_returns sampleConfigurations_fit ?_ ?_).1
  · intro body hbody
    obtain rfl := Option.some.inj hbody
    decide
  · intro body hbody
    obtain rfl := Option.some.inj hbody
    decide

end Discovery

end OpcuaStack
