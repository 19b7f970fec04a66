import LesserHost.ControlPlane.Store

set_option autoImplicit false

/-! # The server

What the handlers share: the configuration, the libraries they rely on, user and link look-ups,
operator sessions, the audit log and managed handles. The signature and WebAuthn libraries are
parameters of the server. -/

namespace LesserHost.ControlPlane

open LesserHost.Go

/-! ## Libraries -/

/-- An Ethereum account. -/
abbrev Wallet := Vector UInt8 20

/-- The address in lower-case hexadecimal, without a prefix. -/
def Wallet.hex (w : Wallet) : String := String.ofList (hexEncode w.toList)

/-- `hexutil.Decode`, and the account whose key made a signature of 65 bytes of a message
    (`crypto.SigToPub` of `accounts.TextHash`, then `crypto.PubkeyToAddress`). -/
structure Ethereum where
  Decode : String → Option (List UInt8)
  recover : String → List UInt8 → Option Wallet

structure webAuthnUser where
  id : String
  name : String
  displayName : String
  credentials : List WebAuthnCredential

/-- `webauthn.Credential`, as far as it is stored. The identifier is given in base64. -/
structure LibraryCredential where
  ID : String
  PublicKey : List UInt8
  SignCount : UInt32
  CloneWarning : Bool

/-- The WebAuthn library. `BeginRegistration` yields the session data for the challenge it drew; a
    response is parsed from the members of its JSON object, and `CreateCredential` checks it against
    the session data. -/
structure WebAuthn where
  BeginRegistration : webAuthnUser → String → Option (List UInt8)
  ParseCredentialCreationResponse : List (String × String) → Option String
  CreateCredential : webAuthnUser → List UInt8 → String → Option LibraryCredential

structure Server where
  WebAuthnRPID : String
  BootstrapWalletAddress : String
  sha256 : Sha256
  ethereum : Ethereum
  webAuthn : Option WebAuthn

/-- What a handler takes from its request context: the request's name, the identity and role that
    authentication found, and the bearer token of the headers. -/
structure Context where
  RequestID : String
  AuthIdentity : String
  operatorRole : String
  bearerToken : String

/-- The decoded JSON body, or the error of `httpx.ParseJSON`. -/
abbrev Body (α : Type) := Except AppTheoryError α

def ParseJSON {α : Type} (body : Body α) : Handler α :=
  match body with
  | .ok req => .ret req
  | .error e => .fail e

/-! ## Managed handles -/

def isHandleEnd (c : Char) : Bool :=
  (decide ('a' ≤ c) && decide (c ≤ 'z')) || (decide ('0' ≤ c) && decide (c ≤ '9'))

def isHandleChar (c : Char) : Bool := isHandleEnd c || c == '-'

/-- `^[a-z0-9][a-z0-9-]{1,61}[a-z0-9]$` -/
def managedHandleRE (s : String) : Bool :=
  let cs := s.toList
  decide (3 ≤ cs.length) && decide (cs.length ≤ 63) && cs.all isHandleChar
    && cs.head?.any isHandleEnd && cs.getLast?.any isHandleEnd

def ValidateManagedHandle (raw : String) : Except String String :=
  let handle := TrimSpace raw
  if handle = "" then .error "managed handle is required"
  else if raw ≠ handle then
    .error "managed handle must not contain leading or trailing whitespace"
  else if managedHandleRE handle = false then
    .error ("managed handle must be 3-63 lowercase letters, digits, or hyphens and start/end with "
      ++ "a letter or digit")
  else .ok handle

/-- The validator translates nothing. -/
theorem ValidateManagedHandle_eq {raw handle : String} (h : ValidateManagedHandle raw = .ok handle) :
    handle = raw := by
  simp only [ValidateManagedHandle] at h
  split_ifs at h with hempty htrim hre
  exact (Except.ok.inj h).symm.trans (not_not.1 htrim).symm

namespace Server

variable (s : Server)

/-! ## Tokens and sessions -/

def sha256HexTrimmed (raw : String) : String :=
  let raw := TrimSpace raw
  if raw = "" then "" else String.ofList (hexEncode (s.sha256 (bytes raw)).toList)

def operatorSessionDuration : Int := 24 * Hour

/-- The row of a new session, but for the token drawn for it. -/
def buildOperatorSessionModel (token username role method : String) (now : Time) :
    OperatorSession where
  ID := TrimSpace (s.sha256HexTrimmed token)
  Username := TrimSpace username
  Role := TrimSpace role
  Method := TrimSpace method
  IssuedAt := now.UTC
  ExpiresAt := now.UTC.Add operatorSessionDuration

/-- The token and its expiry. -/
def createOperatorSession (username role method : String) : Handler (Result (String × Time)) := do
  let now ← now
  match ← newToken with
  | .error e => return .error e
  | .ok token =>
      let session := s.buildOperatorSessionModel token username role method now.UTC
      match ← write [.putOperatorSession session] with
      | .error e => return .error e
      | .ok _ => return .ok (token, session.ExpiresAt)

/-! ## Look-ups -/

def loadUser (username : String) : Handler (Result User) := Prog.perform (Op.getUser username)

def walletTypeEthereum : String := "ethereum"

/-- The user a wallet is linked to, or the empty text. -/
def walletLinkedUsername (walletType address : String) : Handler (Result String) := do
  let walletType := TrimSpace walletType
  let walletType := if walletType = "" then walletTypeEthereum else walletType
  let address := ToLower (TrimSpace address)
  if address = "" then return .error .other
  else
    match ← Prog.perform (Op.firstWalletIndex walletType address) with
    | .error .notFound => return .ok ""
    | .error e => return .error e
    | .ok index => return .ok (TrimSpace index.Username)

/-! ## The audit log -/

/-- A failure to write the entry is ignored. -/
def tryWriteAuditLog (ctx : Context) (entry : AuditLogEntry) : Handler Unit := do
  let actor := if TrimSpace entry.Actor = "" then TrimSpace ctx.AuthIdentity else entry.Actor
  let requestID :=
    if TrimSpace entry.RequestID = "" then TrimSpace ctx.RequestID else entry.RequestID
  let _ ← write [.putAuditLogEntry { entry with
    Actor := actor
    RequestID := requestID }]
  return ()

/-- An entry the request fails without. -/
def writeAuditLog (entry : AuditLogEntry) : Handler Unit := do
  match ← write [.putAuditLogEntry entry] with
  | .error _ => fail "app.internal" "failed to write audit log"
  | .ok _ => return ()

end Server

end LesserHost.ControlPlane
