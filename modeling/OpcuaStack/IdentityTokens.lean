import OpcuaStack.PasswordRecovery
import OpcuaStack.ServerRegistrations

/-!
# From an identity token to the authenticator

The conversions of ActivateSession in `session/session_conversion.cpp`, in front of the
session manager.  A token comes with a binary or a JSON body, and its password in the
clear or encrypted; the authenticator is asked about the user whom the token names.
-/

namespace OpcuaStack

open Json

namespace StandardTypes

def anonymousIdentityToken : GeneratedType where
  layout := .structure (stringField "PolicyId" .nil)
  binaryEncodingId := 321
  jsonEncodingId := 15141

def userNameIdentityToken : GeneratedType where
  layout := .structure (stringField "PolicyId" (stringField "UserName"
    (.single "Password" (.builtIn (.plain .byteString))
      (stringField "EncryptionAlgorithm" .nil))))
  binaryEncodingId := 324
  jsonEncodingId := 15142

end StandardTypes

namespace SessionConversion

open StandardTypes

structure UserNameIdentityToken where
  policyId : ByteText := []
  userName : ByteText := []
  password : ByteString := []
  encryptionAlgorithm : ByteText := []

namespace UserNameIdentityToken

def toUa (token : UserNameIdentityToken) : userNameIdentityToken.layout.Carrier :=
  (token.policyId, token.userName, token.password, token.encryptionAlgorithm, ())

def fromUa : userNameIdentityToken.layout.Carrier → UserNameIdentityToken
  | (policyId, userName, password, encryptionAlgorithm, _) =>
    { policyId, userName, password, encryptionAlgorithm }

end UserNameIdentityToken

/-- The generated request; its header gives the authentication token. -/
structure WireActivateSessionRequest where
  authenticationToken : NodeId := {}
  clientSignatureAlgorithm : ByteText := []
  clientSignature : ByteString := []
  userIdentityToken : ExtensionObject := {}

variable (forms : Binary.Representations) (texts : Texts)

/-- `ToLocalizedText`. -/
def toLocalizedText (text : ByteText) : LocalizedText := { text := forms.widen text }

/-! ## The server's side -/

def applyUserNameToken (token : UserNameIdentityToken) (request : ActivateSessionRequest) :
    ActivateSessionRequest :=
  if token.encryptionAlgorithm.isEmpty then
    { request with
      userName := some (toLocalizedText forms token.userName)
      password := some (toLocalizedText forms token.password) }
  else
    { request with
      userName := some (toLocalizedText forms token.userName)
      encryptedPassword := token.password
      passwordEncryptionAlgorithm := token.encryptionAlgorithm }

def isTokenType (type : GeneratedType) (token : ExtensionObject) : Bool :=
  token.standardId? == some type.binaryEncodingId ||
    token.standardId? == some type.jsonEncodingId

/-- `false` is `none`; what `DecodeJson` throws is not caught here. -/
def decodeUserIdentityToken (token : ExtensionObject) (request : ActivateSessionRequest) :
    Except Thrown (Option ActivateSessionRequest) :=
  if ((anonymousIdentityToken.wire forms texts).fromExtensionObject token).isSome then
    .ok (some { request with allowAnonymous := true })
  else
    match (userNameIdentityToken.wire forms texts).fromExtensionObject token with
    | some userName => .ok (some (applyUserNameToken forms (.fromUa userName) request))
    | none =>
        match token.value with
        | .json json =>
            if isTokenType anonymousIdentityToken token then
              .ok (some { request with allowAnonymous := true })
            else if isTokenType userNameIdentityToken token then
              (fun decoded => some (applyUserNameToken forms (.fromUa decoded) request)) <$>
                userNameIdentityToken.layout.decodeJson texts json
            else .ok none
        | _ => .ok none

/-- `ToManaged`; the session "is identified by the numeric authentication token". -/
def toManaged (wire : WireActivateSessionRequest) :
    Except Thrown (Option ActivateSessionRequest) :=
  match wire.authenticationToken.identifier with
  | .numeric _ =>
      decodeUserIdentityToken forms texts wire.userIdentityToken
        { authenticationToken := wire.authenticationToken
          clientSignatureAlgorithm := wire.clientSignatureAlgorithm
          clientSignature := wire.clientSignature }
  | _ => .ok none

/-! ## The client's side -/

/-- `ClientProtocolSession::Identity`. -/
structure Identity where
  userName : Option LocalizedText := none
  password : Option LocalizedText := none

/-- The request which `ClientProtocolSession::Create` builds. -/
def activateRequest (sessionId authenticationToken : NodeId) (identity : Identity)
    (signatureAlgorithm : ByteText) (signature : ByteString) : ActivateSessionRequest where
  sessionId := sessionId
  authenticationToken := authenticationToken
  userName := identity.userName
  password := identity.password
  deleteExisting := false
  allowAnonymous := identity.userName.isNone
  clientSignatureAlgorithm := signatureAlgorithm
  clientSignature := signature

def sentToken (request : ActivateSessionRequest) : ExtensionObject :=
  if request.allowAnonymous then
    (anonymousIdentityToken.wire forms texts).toExtensionObject (([] : ByteText), ())
  else
    (userNameIdentityToken.wire forms texts).toExtensionObject
      (({ userName := request.userName.elim [] fun name => forms.narrow name.text
          password := request.password.elim [] fun password => forms.narrow password.text } :
        UserNameIdentityToken).toUa)

/-- `ToWire`, under the envelope, which puts the authentication token into the header. -/
def toWire (request : ActivateSessionRequest) : WireActivateSessionRequest where
  authenticationToken := request.authenticationToken
  clientSignatureAlgorithm := request.clientSignatureAlgorithm
  clientSignature := request.clientSignature
  userIdentityToken := sentToken forms texts request

/-! ## What a token says -/

inductive IdentityToken where
  | anonymous
  | userName (token : UserNameIdentityToken)

/-- A token in an extension object, in one of two encodings. -/
inductive Holds : ExtensionObject → IdentityToken → Prop
  | anonymousBytes {object : ExtensionObject} {value : anonymousIdentityToken.layout.Carrier}
      (hread : (anonymousIdentityToken.wire forms texts).fromExtensionObject object =
        some value) : Holds object .anonymous
  | userNameBytes {object : ExtensionObject} {token : UserNameIdentityToken}
      (hread : (userNameIdentityToken.wire forms texts).fromExtensionObject object =
        some token.toUa) : Holds object (.userName token)
  | anonymousJson {object : ExtensionObject} {json : JsonValue}
      (hbody : object.value = .json json) (hid : isTokenType anonymousIdentityToken object) :
      Holds object .anonymous
  | userNameJson {object : ExtensionObject} {json : JsonValue} {token : UserNameIdentityToken}
      (hbody : object.value = .json json) (hid : isTokenType userNameIdentityToken object)
      (hread : userNameIdentityToken.layout.decodeJson texts json = .ok token.toUa) :
      Holds object (.userName token)

def IdentityToken.apply (token : IdentityToken) (request : ActivateSessionRequest) :
    ActivateSessionRequest :=
  match token with
  | .anonymous => { request with allowAnonymous := true }
  | .userName token => applyUserNameToken forms token request

variable {forms texts}

theorem fromExtensionObject_of_json {type : GeneratedType} {object : ExtensionObject}
    {json : JsonValue} (hbody : object.value = .json json) :
    (type.wire forms texts).fromExtensionObject object = none :=
  WireType.fromExtensionObject_json hbody

theorem not_anonymous_of_userName {object : ExtensionObject}
    (hid : isTokenType userNameIdentityToken object) :
    isTokenType anonymousIdentityToken object = false := by
  simp only [isTokenType, Bool.or_eq_true, beq_iff_eq] at hid
  rcases hid with hid | hid
  · rw [isTokenType, hid]
    decide
  · rw [isTokenType, hid]
    decide

theorem anonymous_eq_none_of_userName {object : ExtensionObject}
    {value : userNameIdentityToken.layout.Carrier}
    (hread : (userNameIdentityToken.wire forms texts).fromExtensionObject object = some value) :
    (anonymousIdentityToken.wire forms texts).fromExtensionObject object = none := by
  obtain ⟨hid, -⟩ := exists_binary_of_read hread
  apply if_neg
  rw [hid]
  change ¬some (324 : UInt32) = some 321
  decide

/-- A request is decoded exactly from an object which holds a token, and is what the token
makes of it. -/
theorem decodeUserIdentityToken_eq_iff {object : ExtensionObject}
    {request decoded : ActivateSessionRequest} :
    decodeUserIdentityToken forms texts object request = .ok (some decoded) ↔
      ∃ token, Holds forms texts object token ∧ token.apply forms request = decoded := by
  constructor
  · intro hdecoded
    rw [decodeUserIdentityToken] at hdecoded
    cases hanonymous : (anonymousIdentityToken.wire forms texts).fromExtensionObject object with
    | some value =>
        rw [hanonymous] at hdecoded
        exact ⟨.anonymous, .anonymousBytes hanonymous,
          Option.some.inj (Except.ok.inj hdecoded)⟩
    | none =>
        simp only [hanonymous, Option.isSome_none, Bool.false_eq_true, if_false] at hdecoded
        cases huser : (userNameIdentityToken.wire forms texts).fromExtensionObject object with
        | some value =>
            simp only [huser] at hdecoded
            exact ⟨.userName (.fromUa value), .userNameBytes huser,
              Option.some.inj (Except.ok.inj hdecoded)⟩
        | none =>
            simp only [huser] at hdecoded
            cases hbody : object.value with
            | empty => simp [hbody] at hdecoded
            | binary body => simp [hbody] at hdecoded
            | json json =>
                simp only [hbody] at hdecoded
                split at hdecoded
                next hid =>
                  exact ⟨.anonymous, .anonymousJson hbody hid,
                    Option.some.inj (Except.ok.inj hdecoded)⟩
                next =>
                  split at hdecoded
                  next hid =>
                    cases hjson : userNameIdentityToken.layout.decodeJson texts json with
                    | error thrown =>
                        rw [hjson] at hdecoded
                        cases hdecoded
                    | ok value =>
                        rw [hjson] at hdecoded
                        exact ⟨.userName (.fromUa value), .userNameJson hbody hid hjson,
                          Option.some.inj (Except.ok.inj hdecoded)⟩
                  next => simp at hdecoded
  · rintro ⟨token, hholds, rfl⟩
    cases hholds with
    | anonymousBytes hread =>
        rw [decodeUserIdentityToken, hread]
        rfl
    | userNameBytes hread =>
        rw [decodeUserIdentityToken, anonymous_eq_none_of_userName hread, hread]
        rfl
    | anonymousJson hbody hid =>
        rw [decodeUserIdentityToken, fromExtensionObject_of_json hbody,
          fromExtensionObject_of_json hbody, hbody]
        simp only [hid, Option.isSome_none, Bool.false_eq_true, if_false, if_true]
        rfl
    | userNameJson hbody hid hread =>
        rw [decodeUserIdentityToken, fromExtensionObject_of_json hbody,
          fromExtensionObject_of_json hbody, hbody]
        simp only [hid, not_anonymous_of_userName hid, hread, Option.isSome_none,
          Bool.false_eq_true, if_false, if_true]
        rfl

theorem Holds.unique {object : ExtensionObject} {token other : IdentityToken}
    (htoken : Holds forms texts object token) (hother : Holds forms texts object other) :
    token = other := by
  cases htoken with
  | anonymousBytes hread =>
      cases hother with
      | anonymousBytes _ => rfl
      | userNameBytes huser =>
          rw [anonymous_eq_none_of_userName huser] at hread
          cases hread
      | anonymousJson _ _ => rfl
      | userNameJson hbody _ _ =>
          rw [fromExtensionObject_of_json hbody] at hread
          cases hread
  | userNameBytes hread =>
      cases hother with
      | anonymousBytes hanonymous =>
          rw [anonymous_eq_none_of_userName hread] at hanonymous
          cases hanonymous
      | userNameBytes huser =>
          rw [hread] at huser
          exact congrArg (fun wire => IdentityToken.userName (.fromUa wire)) (Option.some.inj huser)
      | anonymousJson hbody _ =>
          rw [fromExtensionObject_of_json hbody] at hread
          cases hread
      | userNameJson hbody _ _ =>
          rw [fromExtensionObject_of_json hbody] at hread
          cases hread
  | anonymousJson hbody hid =>
      cases hother with
      | anonymousBytes _ => rfl
      | userNameBytes huser =>
          rw [fromExtensionObject_of_json hbody] at huser
          cases huser
      | anonymousJson _ _ => rfl
      | userNameJson _ huser _ =>
          rw [not_anonymous_of_userName huser] at hid
          cases hid
  | userNameJson hbody hid hread =>
      cases hother with
      | anonymousBytes hanonymous =>
          rw [fromExtensionObject_of_json hbody] at hanonymous
          cases hanonymous
      | userNameBytes huser =>
          rw [fromExtensionObject_of_json hbody] at huser
          cases huser
      | anonymousJson _ hanonymous =>
          rw [not_anonymous_of_userName hid] at hanonymous
          cases hanonymous
      | userNameJson hsame _ huser =>
          obtain rfl := ExtensionBody.json.inj (hbody.symm.trans hsame)
          rw [hread] at huser
          exact congrArg (fun wire => IdentityToken.userName (.fromUa wire)) (Except.ok.inj huser)

/-! ## What the authenticator is asked -/

/-- A password is in the clear, or in a secret under the nonce of the session. -/
def PasswordOf (m : ServerSessionManager) (serverNonce : ByteString)
    (token : UserNameIdentityToken) (password : ByteText) : Prop :=
  if token.encryptionAlgorithm = [] then password = token.password
  else password.length + serverNonce.length < 2 ^ 32 ∧
    ∃ rest, m.decryptedToken token.password = some (encryptedSecret password serverNonce ++ rest)

theorem recoverEncryptedPassword_eq_some_iff {m : ServerSessionManager}
    {ciphertext serverNonce : ByteString} {password : ByteText} :
    m.recoverEncryptedPassword ciphertext serverNonce = some password ↔
      password.length + serverNonce.length < 2 ^ 32 ∧
        ∃ rest, m.decryptedToken ciphertext =
          some (encryptedSecret password serverNonce ++ rest) := by
  rw [m.recoverEncryptedPassword_eq, Option.bind_eq_some_iff]
  constructor
  · rintro ⟨plaintext, hplaintext, hrecovered⟩
    rw [Access.toOption_eq_some_iff, recoverSecret_eq_value_iff] at hrecovered
    obtain ⟨hlength, rest, rfl⟩ := hrecovered
    exact ⟨hlength, rest, hplaintext⟩
  · rintro ⟨hlength, rest, hplaintext⟩
    refine ⟨_, hplaintext, ?_⟩
    rw [Access.toOption_eq_some_iff, recoverSecret_eq_value_iff]
    exact ⟨hlength, rest, rfl⟩

section Manager

variable {m : ServerSessionManager} {session : SessionState} {base : ActivateSessionRequest}
  {token : UserNameIdentityToken} {pending : PendingActivation}

/-- A password which travels in the clear needs a channel which hides it. -/
def Hidden (m : ServerSessionManager) (token : UserNameIdentityToken) (channelSecure : Bool) :
    Prop :=
  m.context.requireEncryptionForPassword → token.encryptionAlgorithm = [] → channelSecure

theorem requestAuthentication_eq_iff (hwide : m.context.utf8ToWide = forms.widen)
    (hbase : base.passwordEncryptionAlgorithm = []) :
    (m.requestAuthentication session (applyUserNameToken forms token base)).result =
        .authenticating pending ↔
      Hidden m token base.channelSecure ∧
        ∃ password, PasswordOf m session.serverNonce token password ∧
          pending =
            { request := applyUserNameToken forms token base
              sessionId := session.sessionId
              userName := toLocalizedText forms token.userName
              password := toLocalizedText forms password } := by
  by_cases halgorithm : token.encryptionAlgorithm = []
  · have happly : applyUserNameToken forms token base =
        { base with
          userName := some (toLocalizedText forms token.userName)
          password := some (toLocalizedText forms token.password) } := by
      simp [applyUserNameToken, halgorithm]
    simp only [happly, ServerSessionManager.requestAuthentication, hbase, PasswordOf,
      halgorithm, if_true, Hidden, List.isEmpty_nil, Bool.and_true]
    cases m.context.requireEncryptionForPassword <;> cases base.channelSecure <;>
      simp [eq_comm, ServerSessionManager.rejectActivation, ManagerOutcome.answered]
  · have happly : applyUserNameToken forms token base =
        { base with
          userName := some (toLocalizedText forms token.userName)
          encryptedPassword := token.password
          passwordEncryptionAlgorithm := token.encryptionAlgorithm } := by
      simp [applyUserNameToken, halgorithm]
    have hnonempty : token.encryptionAlgorithm.isEmpty = false := by
      simpa using halgorithm
    simp only [happly, ServerSessionManager.requestAuthentication, hnonempty, Hidden,
      halgorithm, Bool.and_false, Bool.false_eq_true, if_false, PasswordOf]
    simp only [← recoverEncryptedPassword_eq_some_iff]
    cases m.recoverEncryptedPassword token.password session.serverNonce with
    | none => simp
    | some password =>
        simp only [Option.map_some, Option.some.injEq, exists_eq_left', hwide]
        constructor
        · intro hasked
          exact ⟨fun _ hclear => hclear.elim,
            (ActivationProgress.authenticating.inj hasked).symm⟩
        · rintro ⟨-, rfl⟩
          rfl

/-- `HandleActivateSession`: what the request learns from its connection. -/
def onChannel (request : ActivateSessionRequest) (channelSecure : Bool) (peer : ByteText) :
    ActivateSessionRequest :=
  { request with channelSecure := channelSecure, peer := peer }

theorem onChannel_applyUserNameToken (channelSecure : Bool) (peer : ByteText) :
    onChannel (applyUserNameToken forms token base) channelSecure peer =
      applyUserNameToken forms token (onChannel base channelSecure peer) := by
  rw [applyUserNameToken, applyUserNameToken]
  split <;> rfl

theorem beginActivation_eq {request : ActivateSessionRequest} (now : DateTime)
    (hlookup : m.sessions.lookup request.authenticationToken = some session)
    (hfresh : session.activated = false) (hsigned : m.signatureAccepted session request) :
    (m.beginActivation request now).result =
      if request.allowAnonymous then
        .answered (m.finishActivation request none now).result
      else (m.requestAuthentication session request).result := by
  simp only [ServerSessionManager.beginActivation, hlookup, hsigned, hfresh, Bool.not_true,
    Bool.false_eq_true, if_false]
  split <;> rfl

end Manager

/-- The decoded request, before its token is applied. -/
def WireActivateSessionRequest.unidentified (wire : WireActivateSessionRequest) :
    ActivateSessionRequest where
  authenticationToken := wire.authenticationToken
  clientSignatureAlgorithm := wire.clientSignatureAlgorithm
  clientSignature := wire.clientSignature

theorem toManaged_eq_iff {wire : WireActivateSessionRequest} {request : ActivateSessionRequest} :
    toManaged forms texts wire = .ok (some request) ↔
      (∃ id, wire.authenticationToken.identifier = .numeric id) ∧
        ∃ token, Holds forms texts wire.userIdentityToken token ∧
          token.apply forms wire.unidentified = request := by
  rw [← decodeUserIdentityToken_eq_iff, toManaged]
  cases wire.authenticationToken.identifier <;>
    simp [WireActivateSessionRequest.unidentified]

theorem authenticationToken_apply (token : IdentityToken) (request : ActivateSessionRequest) :
    (token.apply forms request).authenticationToken = request.authenticationToken := by
  cases token with
  | anonymous => rfl
  | userName token =>
      rw [IdentityToken.apply, applyUserNameToken]
      split <;> rfl

section Activation

variable {m : ServerSessionManager} {pruneTime now : DateTime} {session : SessionState}
  {channelSecure : Bool} {peer : ByteText} {pending : PendingActivation}

theorem activateSession_userName_eq_iff {base : ActivateSessionRequest}
    {token : UserNameIdentityToken} (hwide : m.context.utf8ToWide = forms.widen)
    (hnamed : base.allowAnonymous = false) (hbase : base.passwordEncryptionAlgorithm = [])
    (hlookup : (m.pruneExpiredSessions pruneTime).manager.sessions.lookup
      base.authenticationToken = some session)
    (hfresh : session.activated = false)
    (hsigned : m.signatureAccepted session
      (onChannel (applyUserNameToken forms token base) channelSecure peer)) :
    (m.activateSession (onChannel (applyUserNameToken forms token base) channelSecure peer)
        pruneTime now).result = .authenticating pending ↔
      Hidden m token channelSecure ∧
        ∃ password, PasswordOf m session.serverNonce token password ∧
          pending =
            { request := onChannel (applyUserNameToken forms token base) channelSecure peer
              sessionId := session.sessionId
              userName := toLocalizedText forms token.userName
              password := toLocalizedText forms password } := by
  have hkept : ∀ other : ActivateSessionRequest,
      (applyUserNameToken forms token other).authenticationToken = other.authenticationToken :=
    authenticationToken_apply (.userName token)
  have hbegin := @beginActivation_eq (m.pruneExpiredSessions pruneTime).manager session
    (onChannel (applyUserNameToken forms token base) channelSecure peer) now
    (by rwa [onChannel, hkept]) hfresh hsigned
  have hname : (onChannel (applyUserNameToken forms token base) channelSecure peer).allowAnonymous =
      false := by
    rw [onChannel_applyUserNameToken, applyUserNameToken]
    split <;> exact hnamed
  have hiff := @requestAuthentication_eq_iff forms
    (m.pruneExpiredSessions pruneTime).manager session (onChannel base channelSecure peer) token
    pending hwide hbase
  rw [← onChannel_applyUserNameToken] at hiff
  rw [hname] at hbegin
  change ((m.pruneExpiredSessions pruneTime).manager.beginActivation _ now).result = _ ↔ _
  rw [hbegin]
  exact hiff

theorem activateSession_anonymous_ne {base : ActivateSessionRequest}
    (hlookup : (m.pruneExpiredSessions pruneTime).manager.sessions.lookup
      base.authenticationToken = some session)
    (hfresh : session.activated = false)
    (hsigned : m.signatureAccepted session
      (onChannel { base with allowAnonymous := true } channelSecure peer)) :
    (m.activateSession (onChannel { base with allowAnonymous := true } channelSecure peer)
      pruneTime now).result ≠ .authenticating pending := by
  have hbegin := @beginActivation_eq (m.pruneExpiredSessions pruneTime).manager session
    (onChannel { base with allowAnonymous := true } channelSecure peer) now hlookup hfresh hsigned
  change ((m.pruneExpiredSessions pruneTime).manager.beginActivation _ now).result ≠ _
  rw [hbegin]
  intro hasked
  cases hasked

end Activation

/-- A session which waits for its user is handed to the authenticator exactly when its
token names a user, with the name that is in the token and with the password which is in
it, in the clear or under the nonce of the session, and no password in the clear from a
channel which shows it where that is forbidden. -/
theorem activation_authenticates_iff {m : ServerSessionManager} {pruneTime now : DateTime}
    {wire : WireActivateSessionRequest} {request : ActivateSessionRequest}
    {session : SessionState} {channelSecure : Bool} {peer : ByteText}
    {pending : PendingActivation} (hwide : m.context.utf8ToWide = forms.widen)
    (hdecoded : toManaged forms texts wire = .ok (some request))
    (hlookup : (m.pruneExpiredSessions pruneTime).manager.sessions.lookup
      wire.authenticationToken = some session)
    (hfresh : session.activated = false)
    (hsigned : m.signatureAccepted session (onChannel request channelSecure peer)) :
    (m.activateSession (onChannel request channelSecure peer) pruneTime now).result =
        .authenticating pending ↔
      ∃ token password, Holds forms texts wire.userIdentityToken (.userName token) ∧
        Hidden m token channelSecure ∧ PasswordOf m session.serverNonce token password ∧
          pending =
            { request := onChannel request channelSecure peer
              sessionId := session.sessionId
              userName := toLocalizedText forms token.userName
              password := toLocalizedText forms password } := by
  obtain ⟨-, token, hholds, rfl⟩ := toManaged_eq_iff.mp hdecoded
  cases token with
  | anonymous =>
      constructor
      · intro hasked
        exact absurd hasked (activateSession_anonymous_ne hlookup hfresh hsigned)
      · rintro ⟨token, -, hother, -⟩
        cases hholds.unique hother
  | userName token =>
      have hiff := @activateSession_userName_eq_iff forms m pruneTime now session channelSecure
        peer pending wire.unidentified token hwide rfl rfl hlookup hfresh hsigned
      constructor
      · intro hasked
        obtain ⟨hhidden, password, hpassword, rfl⟩ := hiff.mp hasked
        exact ⟨token, password, hholds, hhidden, hpassword, rfl⟩
      · rintro ⟨other, password, hother, hhidden, hpassword, rfl⟩
        obtain rfl := IdentityToken.userName.inj (hholds.unique hother)
        exact hiff.mpr ⟨hhidden, password, hpassword, rfl⟩

/-- A session which waits for its user. -/
def sampleSession : SessionState where
  sessionId := { identifier := .numeric 1, namespaceIndex := 2 }
  serverNonce := [9]
  clientCertificate := []
  revisedTimeout := ⟨600000⟩
  expiresAt := { ticks := 5 }

def sampleToken : NodeId := { identifier := .numeric 1, namespaceIndex := 3 }

def sampleManager : ServerSessionManager where
  context := {}
  sessions := (∅ : KeyedMap NodeId SessionState).insert sampleToken sampleSession

/-- A token of a client which writes JSON. -/
def sampleWire : WireActivateSessionRequest where
  authenticationToken := sampleToken
  userIdentityToken :=
    { dataTypeId := encodingId 15142
      value := .json (.object [(asciiText "UserName", .string [0x61]),
        (asciiText "Password", .string [0x62])]) }

theorem sampleWire_authenticated :
    (sampleManager.activateSession
        (onChannel
          { authenticationToken := sampleToken
            userName := some { text := [0x61] }
            password := some { text := [0x62] } } true []) {} {}).result =
      .authenticating
        { request := onChannel
            { authenticationToken := sampleToken
              userName := some { text := [0x61] }
              password := some { text := [0x62] } } true []
          sessionId := { identifier := .numeric 1, namespaceIndex := 2 }
          userName := { text := [0x61] }
          password := { text := [0x62] } } := by
  apply (@activation_authenticates_iff Binary.Bounded.sampleForms sampleTexts sampleManager
    {} {} sampleWire _ sampleSession true [] _ rfl rfl rfl rfl rfl).mpr
  refine ⟨{ userName := [0x61], password := [0x62] }, [0x62],
    .userNameJson rfl (by decide) rfl, fun _ _ => rfl, rfl, rfl⟩

/-! ## What the client sends -/

section Client

variable {m : ServerSessionManager} {pruneTime now : DateTime} {session : SessionState}
  {sessionId authenticationToken : NodeId} {identity : Identity}
  {signatureAlgorithm : ByteText} {signature : ByteString} {channelSecure : Bool}
  {peer : ByteText} {userName : LocalizedText}

/-- The token of an identity with a user name. -/
def sentUserName (forms : Binary.Representations) (userName : LocalizedText)
    (password : Option LocalizedText) : UserNameIdentityToken where
  userName := forms.narrow userName.text
  password := password.elim [] fun password => forms.narrow password.text

theorem holds_sentToken (hname : identity.userName = some userName)
    (hfits : userNameIdentityToken.layout.Fits forms
      (sentUserName forms userName identity.password).toUa)
    (hlength : ∀ body, userNameIdentityToken.layout.encode forms
      (sentUserName forms userName identity.password).toUa = some body →
        body.length < 2 ^ 63) :
    Holds forms texts (sentToken forms texts (activateRequest sessionId authenticationToken
        identity signatureAlgorithm signature))
      (.userName (sentUserName forms userName identity.password)) := by
  have hsent : sentToken forms texts (activateRequest sessionId authenticationToken identity
      signatureAlgorithm signature) =
        (userNameIdentityToken.wire forms texts).toExtensionObject
          (sentUserName forms userName identity.password).toUa := by
    simp [sentToken, activateRequest, hname, sentUserName]
  obtain ⟨body, hbody, hread⟩ := TypeLayout.exists_body (by decide) hfits
  apply Holds.userNameBytes
  rw [hsent, WireType.fromExtensionObject_toExtensionObject]
  change WireType.decodeBody _ ((userNameIdentityToken.layout.encode forms
    (sentUserName forms userName identity.password).toUa).getD []) = _
  rw [hbody]
  exact hread (hlength body hbody)

theorem signatureAccepted_congr {request other : ActivateSessionRequest}
    (h : request.clientSignature = other.clientSignature) :
    m.signatureAccepted session request = m.signatureAccepted session other := by
  simp [ServerSessionManager.signatureAccepted, h]

/-- The user name and the password which the client was given are those which the
authenticator is asked about, without their locales.  A client without a password asks with
an empty one. -/
theorem identity_authenticated {number : UInt32} (hwide : m.context.utf8ToWide = forms.widen)
    (hname : identity.userName = some userName)
    (hfits : userNameIdentityToken.layout.Fits forms
      (sentUserName forms userName identity.password).toUa)
    (hlength : ∀ body, userNameIdentityToken.layout.encode forms
      (sentUserName forms userName identity.password).toUa = some body →
        body.length < 2 ^ 63)
    (hnumeric : authenticationToken.identifier = .numeric number)
    (hlookup : (m.pruneExpiredSessions pruneTime).manager.sessions.lookup
      authenticationToken = some session)
    (hfresh : session.activated = false)
    (hsigned : m.signatureAccepted session
      (activateRequest sessionId authenticationToken identity signatureAlgorithm signature))
    (hchannel : m.context.requireEncryptionForPassword → channelSecure) :
    ∃ request, toManaged forms texts (toWire forms texts (activateRequest sessionId
        authenticationToken identity signatureAlgorithm signature)) = .ok (some request) ∧
      (m.activateSession (onChannel request channelSecure peer) pruneTime now).result =
        .authenticating
          { request := onChannel request channelSecure peer
            sessionId := session.sessionId
            userName := { text := forms.widen (forms.narrow userName.text) }
            password := { text := forms.widen (identity.password.elim []
              fun password => forms.narrow password.text) } } := by
  have hholds := @holds_sentToken forms texts sessionId authenticationToken identity
    signatureAlgorithm signature userName hname hfits hlength
  have hdecoded : toManaged forms texts (toWire forms texts (activateRequest sessionId
      authenticationToken identity signatureAlgorithm signature)) =
        .ok (some (applyUserNameToken forms (sentUserName forms userName identity.password)
          (toWire forms texts (activateRequest sessionId authenticationToken identity
            signatureAlgorithm signature)).unidentified)) :=
    toManaged_eq_iff.mpr ⟨⟨number, hnumeric⟩, _, hholds, rfl⟩
  refine ⟨_, hdecoded, ?_⟩
  apply (@activateSession_userName_eq_iff forms m pruneTime now session channelSecure peer _ _ _
    hwide rfl rfl hlookup hfresh ?_).mpr
  · refine ⟨fun hrequired _ => hchannel hrequired,
      (sentUserName forms userName identity.password).password, ?_, rfl⟩
    simp [PasswordOf, sentUserName]
  · rw [← hsigned]
    apply signatureAccepted_congr
    simp [onChannel, applyUserNameToken, sentUserName, toWire, activateRequest,
      WireActivateSessionRequest.unidentified]

end Client

def sampleIdentity : Identity where
  userName := some { text := [0x61] }
  password := some { text := [0x62] }

theorem sampleUserName_fits : userNameIdentityToken.layout.Fits Binary.Bounded.sampleForms
    (sentUserName Binary.Bounded.sampleForms { text := [0x61] } (some { text := [0x62] })).toUa := by
  have htext : ∀ text : ByteText, text.length < 2 ^ 31 →
      LeafFits Binary.Bounded.sampleForms .string text := fun _ => id
  have hbytes : ∀ bytes : ByteString, bytes.length < 2 ^ 31 →
      LeafFits Binary.Bounded.sampleForms .byteString bytes := fun _ => id
  exact ⟨htext _ (by decide), htext _ (by decide), hbytes _ (by decide), htext _ (by decide),
    trivial⟩

theorem sampleIdentity_authenticated :
    ∃ request, toManaged Binary.Bounded.sampleForms sampleTexts
        (toWire Binary.Bounded.sampleForms sampleTexts
          (activateRequest {} sampleToken sampleIdentity [] [])) = .ok (some request) ∧
      (sampleManager.activateSession (onChannel request true []) {} {}).result =
        .authenticating
          { request := onChannel request true []
            sessionId := { identifier := .numeric 1, namespaceIndex := 2 }
            userName := { text := [0x61] }
            password := { text := [0x62] } } := by
  apply @identity_authenticated Binary.Bounded.sampleForms sampleTexts sampleManager {} {}
    sampleSession {} sampleToken sampleIdentity [] [] true [] { text := [0x61] } 1 rfl rfl
    sampleUserName_fits _ rfl rfl rfl rfl (fun _ => rfl)
  intro body hbody
  obtain rfl := Option.some.inj hbody
  decide

end SessionConversion

end OpcuaStack
