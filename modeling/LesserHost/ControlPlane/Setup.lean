import LesserHost.ControlPlane.PortalAuth

set_option autoImplicit false

/-! # Setting up a deployment

`handlers_setup.go`, and of `handlers_webauthn.go` what registering the first passkey takes. A
deployment is locked until it is bootstrapped. While it is, the bootstrap wallet can obtain a setup
session, and a setup session creates the primary admin, with a wallet or with a passkey. -/

namespace LesserHost.ControlPlane

open LesserHost.Go

def setupPurposeBootstrap : String := "bootstrap"
def setupBootstrapUser : String := "bootstrap"

structure setupBootstrapChallengeRequest where
  Address : String
  ChainID : Int

structure setupBootstrapVerifyRequest where
  ChallengeID : String
  ChallengeIDSnake : String
  Address : String
  Signature : String
  Message : String
  Challenge : String

/-- The members of `Response` with their JSON texts. -/
structure webAuthnFinishRegistrationRequest where
  Challenge : String
  Response : List (String × String)
  CredentialName : String

structure setupCreateAdminRequest where
  Username : String
  DisplayName : String
  Wallet : Option walletVerifyRequest
  Passkey : Option webAuthnFinishRegistrationRequest

structure setupPasskeyRegisterBeginRequest where
  Username : String
  DisplayName : String

/-- The wallet path answers with the name alone. -/
structure setupCreateAdminResponse where
  Username : String
  session : Option operatorLoginResponse

/-- `strings.EqualFold` of ASCII text: the letters outside ASCII that fold to a letter of `t` do not
    occur. -/
def EqualFoldASCII (s t : String) : Bool := ToLower s == ToLower t

namespace Server

variable (s : Server)

/-! ## The lock -/

/-- The configuration row, if there is one. -/
def loadControlPlaneConfig : Handler (Option ControlPlaneConfig) := do
  match ← Prog.perform Op.getControlPlaneConfig with
  | .ok cfg => return some cfg
  | .error .notFound => return none
  -- every caller answers an error so
  | .error _ => fail "app.internal" "internal error"

def isLocked (cfg : Option ControlPlaneConfig) : Bool :=
  match cfg with
  | none => true
  | some cfg => cfg.BootstrappedAt.IsZero

/-- The configuration of a deployment that is still locked. -/
def requireLocked : Handler (Option ControlPlaneConfig) := do
  let cfg ← loadControlPlaneConfig
  if isLocked cfg then return cfg
  else fail "app.conflict" "control plane is already bootstrapped"

def bootstrapWallet : String := ToLower (TrimSpace s.BootstrapWalletAddress)

def requireBootstrapWallet : Handler String :=
  if s.bootstrapWallet = "" then fail "app.conflict" "bootstrap wallet is not configured"
  else .ret s.bootstrapWallet

/-! ## The setup session -/

def handleSetupBootstrapChallenge (body : Body setupBootstrapChallengeRequest) :
    Handler walletChallengeResponse := do
  let _ ← requireLocked
  let bootstrapWallet ← s.requireBootstrapWallet
  let req ← ParseJSON body
  let chainID := if req.ChainID = 0 then 1 else req.ChainID
  if TrimSpace req.Address = "" then fail "app.bad_request" "address is required"
  else if ToLower (TrimSpace req.Address) ≠ bootstrapWallet then
    fail "app.forbidden" "wallet does not match bootstrap credential"
  else
    match ← s.createWalletChallenge bootstrapWallet chainID setupBootstrapUser with
    | .error _ => fail "app.internal" "failed to create challenge"
    | .ok challenge => return .of challenge

def orElse (a b : String) : String := if a = "" then b else a

def parseSetupBootstrapVerifyInput (body : Body setupBootstrapVerifyRequest) :
    Handler walletVerifyRequest := do
  let raw ← ParseJSON body
  checkWalletVerifyRequest "" {
    ChallengeID := orElse (TrimSpace raw.ChallengeID) (TrimSpace raw.ChallengeIDSnake)
    Address := raw.Address
    Signature := raw.Signature
    Message := orElse (TrimSpace raw.Message) (TrimSpace raw.Challenge) }

def verifySetupBootstrapChallenge (bootstrapWallet : String) (req : walletVerifyRequest) :
    Handler Unit := do
  if ToLower (TrimSpace req.Address) ≠ bootstrapWallet then
    fail "app.forbidden" "wallet does not match bootstrap credential"
  else
    let challenge ← findWalletChallenge req.ChallengeID
    if TrimSpace challenge.Username ≠ setupBootstrapUser then
      fail "app.forbidden" "challenge is not bound to bootstrap identity"
    else if ToLower (TrimSpace challenge.Address) ≠ bootstrapWallet then
      fail "app.forbidden" "challenge address mismatch"
    else if TrimSpace challenge.Message ≠ req.Message then fail "app.forbidden" "message mismatch"
    else if verifyEthereumSignature s.ethereum bootstrapWallet req.Message req.Signature = false then
      fail "app.unauthorized" "invalid signature"
    else redeemWalletChallenge req.ChallengeID

/-- The token and its expiry. -/
def handleSetupBootstrapVerify (body : Body setupBootstrapVerifyRequest) :
    Handler (String × Time) := do
  let _ ← requireLocked
  let bootstrapWallet ← s.requireBootstrapWallet
  let req ← parseSetupBootstrapVerifyInput body
  s.verifySetupBootstrapChallenge bootstrapWallet req
  match ← newToken with
  | .error _ => fail "app.internal" "failed to create setup session"
  | .ok token =>
      let now ← now
      let session : SetupSession := {
        ID := TrimSpace (s.sha256HexTrimmed token)
        Purpose := setupPurposeBootstrap
        WalletType := walletTypeEthereum
        WalletAddr := bootstrapWallet
        IssuedAt := now
        ExpiresAt := now.Add Hour
        InstanceLock := true }
      match ← write [.putSetupSession session] with
      | .error _ => fail "app.internal" "failed to create setup session"
      | .ok _ => return (token, session.ExpiresAt)

/-- The first session one of the names finds. -/
def findSetupSession : List String → Handler SetupSession
  | [] => fail "app.unauthorized" "unauthorized"
  | candidate :: rest => do
      let id := TrimSpace candidate
      if id = "" then findSetupSession rest
      else
        match ← Prog.perform (Op.getSetupSession id) with
        | .ok session => return session
        | .error .notFound => findSetupSession rest
        | .error _ => fail "app.internal" "internal error"

def requireSetupSession (ctx : Context) : Handler SetupSession := do
  if ctx.bearerToken = "" then fail "app.unauthorized" "unauthorized"
  else
    -- the hash first, then the token itself, as older rows have it
    let session ← findSetupSession [s.sha256HexTrimmed ctx.bearerToken, ctx.bearerToken]
    let now ← now
    if session.ExpiresAt.IsZero = false ∧ now.After session.ExpiresAt = true then
      let _ ← write [.deleteSetupSession session.ID]
      fail "app.unauthorized" "unauthorized"
    else if TrimSpace session.Purpose ≠ setupPurposeBootstrap then
      fail "app.unauthorized" "unauthorized"
    else if s.bootstrapWallet = "" ∨ ToLower (TrimSpace session.WalletAddr) ≠ s.bootstrapWallet then
      fail "app.unauthorized" "unauthorized"
    else return session

/-! ## Creating the primary admin -/

def validateSetupCreateAdminState (ctx : Context) : Handler Unit := do
  let cfg ← requireLocked
  if cfg.any (fun cfg => TrimSpace cfg.PrimaryAdminUsername != "") then
    fail "app.conflict" "primary admin already created"
  else
    let _ ← s.requireSetupSession ctx
    return ()

/-- The name and the display name. -/
def validateSetupAdminIdentity (username displayName : String) : Handler (String × String) :=
  let displayName := TrimSpace displayName
  let username := TrimSpace username
  if username = "" then fail "app.bad_request" "username is required"
  else
    match ValidateManagedHandle username with
    | .error e => fail "app.bad_request" e
    | .ok normalized =>
        if EqualFoldASCII normalized setupBootstrapUser then
          fail "app.bad_request" "username is reserved"
        else .ret (normalized, displayName)

def setupAdminExistingUserConflict (username : String) : Handler Unit := do
  match ← loadUser username with
  | .error .notFound => return ()
  | .error _ => fail "app.internal" "internal error"
  | .ok user =>
      if TrimSpace user.Role = RoleAdmin then
        fail "app.conflict" ("setup primary admin candidate already exists; resolve partial setup "
          ++ "state before retrying")
      else fail "app.conflict" "username already exists"

def checkPasskeyRequest (req : webAuthnFinishRegistrationRequest) :
    Handler webAuthnFinishRegistrationRequest :=
  let req : webAuthnFinishRegistrationRequest :=
    ⟨TrimSpace req.Challenge, req.Response, TrimSpace req.CredentialName⟩
  if req.Challenge = "" then fail "app.bad_request" "passkey.challenge is required"
  else if req.Response.isEmpty then fail "app.bad_request" "passkey.response is required"
  else .ret req

/-- The two ways to become the primary admin. -/
inductive AdminCredential where
  | wallet (req : walletVerifyRequest)
  | passkey (req : webAuthnFinishRegistrationRequest)

/-- The name, the display name, and exactly one credential. -/
def parseSetupCreateAdminRequestInput (body : Body setupCreateAdminRequest) :
    Handler (String × String × AdminCredential) := do
  let req ← ParseJSON body
  let (username, displayName) ← validateSetupAdminIdentity req.Username req.DisplayName
  match req.Wallet, req.Passkey with
  | some wallet, none =>
      let wallet ← checkWalletVerifyRequest "wallet." wallet
      return (username, displayName, .wallet wallet)
  | none, some passkey =>
      let passkey ← checkPasskeyRequest passkey
      return (username, displayName, .passkey passkey)
  | _, _ => fail "app.bad_request" "exactly one admin credential path is required"

def buildSetupAdminUserModel (username displayName : String) (now : Time) : User :=
  let user : User := {
    Username := TrimSpace username
    Role := RoleAdmin
    Approved := true
    ApprovalStatus := UserApprovalStatusApproved
    DisplayName := TrimSpace displayName
    Email := ""
    CreatedAt := now }
  user.UpdateKeys

def buildSetupCreateAdminAudit (ctx : Context) (username : String) (now : Time) : AuditLogEntry where
  Actor := "bootstrap_wallet:" ++ s.bootstrapWallet
  Action := "setup.create_admin"
  Target := "operator:" ++ username
  RequestID := ctx.RequestID
  CreatedAt := now.UTC

def buildControlPlanePrimaryAdminUpdate (username : String) : ControlPlaneConfig where
  PrimaryAdminUsername := TrimSpace username
  BootstrappedAt := zeroTime

/-! ### With a wallet -/

/-- The address and the chain of the wallet. -/
def verifySetupCreateAdminWallet (username : String) (wallet : walletVerifyRequest) :
    Handler (String × Int) := do
  let challenge ← findWalletChallenge wallet.ChallengeID
  let adminWalletAddr := ToLower (TrimSpace wallet.Address)
  if TrimSpace challenge.Username ≠ TrimSpace username then
    fail "app.forbidden" "wallet challenge username mismatch"
  else if adminWalletAddr ≠ ToLower (TrimSpace challenge.Address) then
    fail "app.forbidden" "wallet challenge address mismatch"
  else if TrimSpace wallet.Message ≠ TrimSpace challenge.Message then
    fail "app.forbidden" "wallet challenge message mismatch"
  else
    match ← walletLinkedUsername walletTypeEthereum adminWalletAddr with
    | .error _ => fail "app.internal" "internal error"
    | .ok existing =>
        if existing ≠ "" then fail "app.conflict" "wallet is already linked to a user"
        else if verifyEthereumSignature s.ethereum adminWalletAddr wallet.Message wallet.Signature
            = false then
          fail "app.unauthorized" "invalid signature"
        else
          redeemWalletChallenge wallet.ChallengeID
          return (adminWalletAddr, challenge.ChainID)

def rejectBootstrapWalletAsSetupAdmin (walletAddr : String) : Handler Unit :=
  let adminWallet := ToLower (TrimSpace walletAddr)
  if s.bootstrapWallet = "" ∨ adminWallet = "" ∨ adminWallet ≠ s.bootstrapWallet then .ret ()
  else
    fail "app.forbidden"
      "bootstrap wallet is one-time setup authority and cannot be the primary admin wallet"

def createSetupAdminUser (username displayName : String) (now : Time) : Handler Unit := do
  match ← write [.createUser (buildSetupAdminUserModel username displayName now)] with
  | .ok _ => return ()
  | .error .conditionFailed => fail "app.conflict" "username already exists"
  | .error _ => fail "app.internal" "failed to create admin"

def writeLink (w : Write) : Handler Unit := do
  match ← write [w] with
  | .error _ => fail "app.internal" "failed to link wallet"
  | .ok _ => return ()

def linkSetupAdminWallet (username walletAddr : String) (chainID : Int) (now : Time) :
    Handler Unit := do
  writeLink (.createWalletCredential {
    Username := TrimSpace username
    Address := ToLower (TrimSpace walletAddr)
    ChainID := chainID
    «Type» := walletTypeEthereum
    LinkedAt := now
    LastUsed := now })
  writeLink (.createWalletIndex (WalletIndex.UpdateKeys walletTypeEthereum walletAddr username))

def setControlPlanePrimaryAdmin (username : String) : Handler Unit := do
  match ← write [.putControlPlaneConfig (buildControlPlanePrimaryAdminUpdate username)] with
  | .error _ => fail "app.internal" "failed to update control plane config"
  | .ok _ => return ()

def handleSetupCreateAdminWithWallet (ctx : Context) (username displayName : String)
    (wallet : walletVerifyRequest) : Handler setupCreateAdminResponse := do
  s.rejectBootstrapWalletAsSetupAdmin wallet.Address
  let (adminWalletAddr, chainID) ← s.verifySetupCreateAdminWallet username wallet
  let now ← now
  createSetupAdminUser username displayName now
  linkSetupAdminWallet username adminWalletAddr chainID now
  setControlPlanePrimaryAdmin username
  writeAuditLog (s.buildSetupCreateAdminAudit ctx username now)
  return ⟨username, none⟩

/-! ### With a passkey -/

def maxWebAuthnCredentials : Nat := 10
def webAuthnCredentialListPageSize : Nat := maxWebAuthnCredentials + 1
def webAuthnChallengeDuration : Int := 5 * Minute

def ensureWebAuthnConfigured : Handler WebAuthn :=
  match s.webAuthn with
  | some library => .ret library
  | none => fail "app.conflict" "webauthn is not configured"

/-- One page, which holds the whole partition or the walk fails. -/
def listUserWebAuthnCredentials (username : String) :
    Handler (Result (List WebAuthnCredential)) := do
  match ← Prog.perform (Op.listWebAuthnCredentials username) with
  | .error e => return .error e
  | .ok items =>
      if items.length > webAuthnCredentialListPageSize then return .error .other
      else return .ok items

def getWebAuthnChallenge (challenge : String) : Handler (Result WebAuthnChallenge) := do
  match ← Prog.perform (Op.getWebAuthnChallenge challenge) with
  | .error e => return .error e
  | .ok c =>
      let now ← now
      if c.ExpiresAt.IsZero = false ∧ now.After c.ExpiresAt = true then
        let _ ← write [.deleteWebAuthnChallenge challenge]
        return .error .notFound
      else return .ok c

/-- The session data of a live challenge of the user. -/
def loadWebAuthnSession (challenge username expectedType : String) : Handler (List UInt8) := do
  match ← getWebAuthnChallenge challenge with
  | .error .notFound => fail "app.unauthorized" "unauthorized"
  | .error _ => fail "app.internal" "internal error"
  | .ok challengeData =>
      if challengeData.UserID ≠ username then fail "app.unauthorized" "unauthorized"
      else if TrimSpace challengeData.Type ≠ expectedType then
        fail "app.unauthorized" "unauthorized"
      else return challengeData.SessionData

def buildWebAuthnUserWithCredentials (username displayName : String)
    (creds : List WebAuthnCredential) : webAuthnUser where
  id := TrimSpace username
  name := TrimSpace username
  displayName := orElse (TrimSpace displayName) (TrimSpace username)
  credentials := creds

/-- The name of the challenge that was stored. -/
def beginWebAuthnRegistration (library : WebAuthn) (username displayName : String)
    (creds : List WebAuthnCredential) : Handler String := do
  match ← newToken with
  | .error _ => fail "app.internal" "failed to begin registration"
  | .ok challenge =>
      match library.BeginRegistration
          (buildWebAuthnUserWithCredentials username displayName creds) challenge with
      | none => fail "app.internal" "failed to begin registration"
      | some sessionData =>
          let now ← now
          match ← write [.putWebAuthnChallenge {
            Challenge := challenge
            UserID := username
            SessionData := sessionData
            ExpiresAt := now.Add webAuthnChallengeDuration
            «Type» := "registration" }] with
          | .error _ => fail "app.internal" "failed to store challenge"
          | .ok _ => return challenge

def handleSetupWebAuthnRegisterBegin (ctx : Context) (body : Body setupPasskeyRegisterBeginRequest) :
    Handler String := do
  let library ← s.ensureWebAuthnConfigured
  s.validateSetupCreateAdminState ctx
  let req ← ParseJSON body
  let (username, displayName) ← validateSetupAdminIdentity req.Username req.DisplayName
  setupAdminExistingUserConflict username
  beginWebAuthnRegistration library username displayName []

def buildStoredWebAuthnCredential (userID : String) (credential : LibraryCredential)
    (credentialName : String) (createdAt : Time) (existingCreds : Nat) : WebAuthnCredential where
  ID := credential.ID
  UserID := TrimSpace userID
  PublicKey := credential.PublicKey
  SignCount := credential.SignCount
  CloneWarning := credential.CloneWarning
  CreatedAt := createdAt.UTC
  LastUsedAt := createdAt.UTC
  Name := orElse (TrimSpace credentialName) ("Passkey " ++ toString (existingCreds + 1))

def completeWebAuthnRegistration (library : WebAuthn) (username displayName : String)
    (req : webAuthnFinishRegistrationRequest) (creds : List WebAuthnCredential) :
    Handler WebAuthnCredential := do
  let challenge := TrimSpace req.Challenge
  if challenge = "" then fail "app.bad_request" "challenge is required"
  else
    let session ← loadWebAuthnSession challenge username "registration"
    if creds.length ≥ maxWebAuthnCredentials then fail "app.conflict" "max credentials reached"
    else
      match library.ParseCredentialCreationResponse req.Response with
      | none => fail "app.bad_request" "invalid response"
      | some parsed =>
          match library.CreateCredential
              (buildWebAuthnUserWithCredentials username displayName creds) session parsed with
          | none => fail "app.unauthorized" "registration failed"
          | some credential =>
              let now ← now
              return buildStoredWebAuthnCredential username credential req.CredentialName now
                creds.length

/-- Why the transaction found its conditions unmet. -/
def mapSetupPasskeyCreateAdminConditionFailure {α : Type} (username challenge : String) :
    Handler α := do
  setupAdminExistingUserConflict username
  match ← getWebAuthnChallenge challenge with
  | .error .notFound => fail "app.unauthorized" "unauthorized"
  | .error _ => fail "app.internal" "internal error"
  | .ok _ =>
      let cfg ← loadControlPlaneConfig
      if cfg.any (fun cfg => TrimSpace cfg.PrimaryAdminUsername != "") then
        fail "app.conflict" "primary admin already created"
      else
        fail "app.conflict" ("setup state changed before the admin passkey was committed; "
          ++ "reload setup status and retry")

def handleSetupCreateAdminWithPasskey (ctx : Context) (username displayName : String)
    (passkey : webAuthnFinishRegistrationRequest) : Handler setupCreateAdminResponse := do
  let library ← s.ensureWebAuthnConfigured
  setupAdminExistingUserConflict username
  let storedCredential ← completeWebAuthnRegistration library username displayName passkey []
  let now := storedCredential.CreatedAt.UTC
  match ← newToken with
  | .error _ => fail "app.internal" "failed to create operator session"
  | .ok token =>
      let sessionModel := s.buildOperatorSessionModel token username RoleAdmin "webauthn" now
      match ← write [
          .createUser (buildSetupAdminUserModel username displayName now),
          .createWebAuthnCredential storedCredential,
          .createOperatorSession sessionModel,
          .createControlPlaneConfig (buildControlPlanePrimaryAdminUpdate username),
          .putAuditLogEntry (s.buildSetupCreateAdminAudit ctx username now),
          .putAuditLogEntry {
            Actor := username
            Action := "auth.webauthn.register"
            Target := "webauthn_credential:" ++ storedCredential.ID
            RequestID := ctx.RequestID
            CreatedAt := now },
          .consumeWebAuthnChallenge passkey.Challenge username now] with
      | .error .conditionFailed =>
          mapSetupPasskeyCreateAdminConditionFailure username passkey.Challenge
      | .error _ => fail "app.internal" "failed to create admin"
      | .ok _ =>
          return {
            Username := username
            session := some {
              Token := token
              ExpiresAt := sessionModel.ExpiresAt
              Username := username
              Role := RoleAdmin
              Method := "webauthn" } }

def handleSetupCreateAdmin (ctx : Context) (body : Body setupCreateAdminRequest) :
    Handler setupCreateAdminResponse := do
  s.validateSetupCreateAdminState ctx
  let (username, displayName, credential) ← parseSetupCreateAdminRequestInput body
  match credential with
  | .passkey passkey => s.handleSetupCreateAdminWithPasskey ctx username displayName passkey
  | .wallet wallet => s.handleSetupCreateAdminWithWallet ctx username displayName wallet

/-! ## The end of the setup -/

def requirePrimaryAdminPasskey (username : String) : Handler Unit := do
  match ← listUserWebAuthnCredentials username with
  | .error _ => fail "app.internal" "internal error"
  | .ok creds =>
      if creds.isEmpty then
        fail "app.conflict" "primary admin passkey is required before finalize"
      else return ()

/-- The time the deployment was bootstrapped. -/
def handleSetupFinalize (ctx : Context) : Handler Time := do
  match ← requireLocked with
  | none => fail "app.conflict" "primary admin is not configured"
  | some cfg =>
      let username := TrimSpace ctx.AuthIdentity
      if TrimSpace cfg.PrimaryAdminUsername = "" then
        fail "app.conflict" "primary admin is not configured"
      else if username = "" then fail "app.unauthorized" "unauthorized"
      else if ctx.operatorRole ≠ RoleAdmin then fail "app.forbidden" "admin required"
      else if username ≠ TrimSpace cfg.PrimaryAdminUsername then
        fail "app.forbidden" "only the primary admin can finalize"
      else
        requirePrimaryAdminPasskey username
        let now ← now
        match ← write [.putControlPlaneConfig { cfg with BootstrappedAt := now }] with
        | .error _ => fail "app.internal" "failed to finalize setup"
        | .ok _ =>
            writeAuditLog {
              Actor := username
              Action := "setup.finalize"
              Target := "control_plane"
              RequestID := ctx.RequestID
              CreatedAt := now }
            return now.UTC

end Server

end LesserHost.ControlPlane
