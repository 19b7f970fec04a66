import LesserHost.ControlPlane.Server

set_option autoImplicit false

/-! # Wallet challenges and the operator's wallet login

`wallet_service.go` and `handlers_wallet.go`. A challenge names a user and an address; whoever asks
for one chooses both. Redeeming it takes a signature of its message by that address. -/

namespace LesserHost.ControlPlane

open LesserHost.Go

/-! ## Requests and answers -/

structure walletChallengeRequest where
  Address : String
  ChainID : Int
  Username : String

structure walletVerifyRequest where
  ChallengeID : String
  Address : String
  Signature : String
  Message : String

structure walletChallengeResponse where
  ID : String
  Username : String
  Address : String
  ChainID : Int
  Nonce : String
  Message : String
  IssuedAt : Time
  ExpiresAt : Time

def walletChallengeResponse.of (c : WalletChallenge) : walletChallengeResponse :=
  ⟨c.ID, c.Username, c.Address, c.ChainID, c.Nonce, c.Message, c.IssuedAt, c.ExpiresAt⟩

/-- The token type is always `Bearer`. -/
structure operatorLoginResponse where
  Token : String
  ExpiresAt : Time
  Username : String
  Role : String
  Method : String

/-! ## Signatures -/

/-- A recovery byte of 27 or 28 is moved to 0 or 1. -/
def lowerRecoveryByte (sig : List UInt8) : List UInt8 :=
  if sig.getD 64 0 = 27 ∨ sig.getD 64 0 = 28 then sig.set 64 (sig.getD 64 0 - 27) else sig

/-- The wallet whose key signed the message. -/
def signerOf (eth : Ethereum) (message signature : String) : Option Wallet :=
  match eth.Decode signature with
  | none => none
  | some sig => if sig.length ≠ 65 then none else eth.recover message (lowerRecoveryByte sig)

/-- A spelling of a wallet's address, with or without a prefix and in any case. -/
def spells (address : String) (w : Wallet) : Bool :=
  w.hex == ToLower (TrimPrefix address "0x")

def verifyEthereumSignature (eth : Ethereum) (address message signature : String) : Bool :=
  match signerOf eth message signature with
  | none => false
  | some recoveredAddr => spells address recoveredAddr

/-! ## The message -/

def buildWalletAuthMessage (domain address : String) (chainID : Int) (nonce username : String)
    (issuedAt expiresAt : Time) : String :=
  let address := ToLower (TrimSpace address)
  domain ++ " wants you to sign in with your Ethereum account:\n" ++ address ++ "\n\n"
    ++ "Sign this message to authenticate with " ++ domain ++ " as '" ++ username ++ "'\n\n"
    ++ "URI: https://" ++ domain ++ "\nVersion: 1\nChain ID: " ++ toString chainID
    ++ "\nNonce: " ++ nonce ++ "\nIssued At: " ++ issuedAt.FormatRFC3339
    ++ "\nExpiration Time: " ++ expiresAt.FormatRFC3339

section Message

variable {domain : String} {a : Char} (address : String) (chainID : Int) (nonce username : String)
  (issuedAt expiresAt : Time)

/-- The message begins as its domain does. -/
theorem buildWalletAuthMessage_head (hdomain : domain.toList.head? = some a) :
    (buildWalletAuthMessage domain address chainID nonce username issuedAt expiresAt).toList.head?
      = some a := by
  unfold buildWalletAuthMessage
  repeat' apply head?_append
  exact hdomain

/-- Its last character is that of a time in UTC. -/
theorem buildWalletAuthMessage_trimmed (hdomain : domain.toList.head? = some a)
    (ha : isSpace a = false) :
    IsTrimmed (buildWalletAuthMessage domain address chainID nonce username issuedAt expiresAt) := by
  refine isTrimmed_of_ends (buildWalletAuthMessage_head _ _ _ _ _ _ hdomain) (b := 'Z') ?_ ha
    (by decide)
  unfold buildWalletAuthMessage Time.FormatRFC3339
  apply getLast?_append
  apply getLast?_append
  decide +kernel

end Message

def lesserHostDomain : String := "lesser.host"

def walletChallengeDuration : Int := 5 * Minute

namespace Server

variable (s : Server)

/-! ## Challenges -/

def generateNonce : Handler (Result String) := newToken

def createWalletChallenge (address : String) (chainID : Int) (username : String) :
    Handler (Result WalletChallenge) := do
  let address := ToLower (TrimSpace address)
  let username := TrimSpace username
  let chainID := if chainID = 0 then 1 else chainID
  if username = "" then return .error .other
  else if address = "" then return .error .other
  else
    match ← generateNonce with
    | .error e => return .error e
    | .ok nonce =>
        match ← newToken with
        | .error e => return .error e
        | .ok id =>
            let now ← now
            let expiresAt := now.Add walletChallengeDuration
            let domain := TrimSpace s.WebAuthnRPID
            let domain := if domain = "" then lesserHostDomain else domain
            let challenge : WalletChallenge := {
              ID := id
              Username := username
              Address := address
              ChainID := chainID
              Nonce := nonce
              Message := buildWalletAuthMessage domain address chainID nonce username now expiresAt
              IssuedAt := now
              ExpiresAt := expiresAt
              Used := false
              Spent := false }
            match ← write [.putWalletChallenge challenge] with
            | .error e => return .error e
            | .ok _ => return .ok challenge

def deleteWalletChallenge (id : String) : Handler (Result Unit) := do
  let id := TrimSpace id
  if id = "" then return .ok ()
  else write [.deleteWalletChallenge id]

def getWalletChallenge (id : String) : Handler (Result WalletChallenge) := do
  let id := TrimSpace id
  if id = "" then return .error .other
  else
    match ← Prog.perform (Op.getWalletChallenge id) with
    | .error e => return .error e
    | .ok challenge =>
        let now ← now
        if challenge.ExpiresAt.IsZero = false ∧ now.After challenge.ExpiresAt = true then
          let _ ← deleteWalletChallenge id
          return .error .notFound
        else if challenge.Spent ∨ challenge.Used then return .error .notFound
        else return .ok challenge

def consumeWalletChallenge (id : String) : Handler (Result Unit) := do
  let id := TrimSpace id
  if id = "" then return .error .other
  else write [.spendWalletChallenge id]

/-- `consumeWalletChallenge`, with the error every verifier makes of its failure. -/
def redeemWalletChallenge (id : String) : Handler Unit := do
  match ← consumeWalletChallenge id with
  | .ok _ => return ()
  | .error .conditionFailed => fail "app.unauthorized" "unauthorized"
  | .error .notFound => fail "app.unauthorized" "unauthorized"
  | .error .other => fail "app.internal" "internal error"

/-- `getWalletChallenge`, with the error every verifier makes of its failure. -/
def findWalletChallenge (id : String) : Handler WalletChallenge := do
  match ← getWalletChallenge id with
  | .ok challenge => return challenge
  | .error .notFound => fail "app.unauthorized" "unauthorized"
  | .error _ => fail "app.internal" "internal error"

def handleWalletChallenge (body : Body walletChallengeRequest) :
    Handler walletChallengeResponse := do
  let req ← ParseJSON body
  let address := TrimSpace req.Address
  let username := TrimSpace req.Username
  let chainID := if req.ChainID = 0 then 1 else req.ChainID
  if address = "" then fail "app.bad_request" "address is required"
  else if username = "" then fail "app.bad_request" "username is required"
  else
    match ← s.createWalletChallenge address chainID username with
    | .error _ => fail "app.internal" "failed to create challenge"
    | .ok challenge => return .of challenge

/-! ## Login -/

/-- The fields trimmed; all four are required. -/
def checkWalletVerifyRequest (field : String) (req : walletVerifyRequest) :
    Handler walletVerifyRequest :=
  let req : walletVerifyRequest :=
    ⟨TrimSpace req.ChallengeID, TrimSpace req.Address, TrimSpace req.Signature,
      TrimSpace req.Message⟩
  if req.ChallengeID = "" then fail "app.bad_request" (field ++ "challengeId is required")
  else if req.Address = "" then fail "app.bad_request" (field ++ "address is required")
  else if req.Signature = "" then fail "app.bad_request" (field ++ "signature is required")
  else if req.Message = "" then fail "app.bad_request" (field ++ "message is required")
  else .ret req

def parseWalletLoginRequest (body : Body walletVerifyRequest) : Handler walletVerifyRequest := do
  let req ← ParseJSON body
  checkWalletVerifyRequest "" req

/-- The name in a challenge that the wallet it names is linked to. -/
def verifyWalletLoginChallenge (req : walletVerifyRequest) : Handler String := do
  let challenge ← findWalletChallenge req.ChallengeID
  let username := TrimSpace challenge.Username
  let address := ToLower (TrimSpace req.Address)
  if username = "" then fail "app.unauthorized" "unauthorized"
  else if address ≠ ToLower (TrimSpace challenge.Address) then
    fail "app.unauthorized" "unauthorized"
  else if req.Message ≠ TrimSpace challenge.Message then fail "app.unauthorized" "unauthorized"
  else if verifyEthereumSignature s.ethereum address req.Message req.Signature = false then
    fail "app.unauthorized" "invalid signature"
  else
    redeemWalletChallenge req.ChallengeID
    match ← walletLinkedUsername walletTypeEthereum address with
    | .error _ => fail "app.internal" "internal error"
    | .ok linked =>
        if linked = "" then fail "app.unauthorized" "unauthorized"
        else if linked ≠ username then fail "app.unauthorized" "unauthorized"
        else return username

def handleWalletLogin (ctx : Context) (body : Body walletVerifyRequest) :
    Handler operatorLoginResponse := do
  let req ← parseWalletLoginRequest body
  let username ← s.verifyWalletLoginChallenge req
  match ← loadUser username with
  -- an error leaves the user nil, which is checked first
  | .error _ => fail "app.unauthorized" "unauthorized"
  | .ok user =>
      match ← s.createOperatorSession username user.Role "wallet" with
      | .error _ => fail "app.internal" "failed to create session"
      | .ok (token, expiresAt) =>
          let now ← now
          writeAuditLog {
            Actor := username
            Action := "auth.wallet.login"
            Target := "operator_session"
            RequestID := ctx.RequestID
            CreatedAt := now }
          return {
            Token := token
            ExpiresAt := expiresAt
            Username := username
            Role := user.Role
            Method := "wallet" }

end Server

end LesserHost.ControlPlane
