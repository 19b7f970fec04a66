import LesserHost.ControlPlane.Wallet

set_option autoImplicit false

/-! # The portal's wallet login

`handlers_portal_auth.go`. The portal's own challenges name a user after the wallet. Its login takes
any challenge: it creates the user the challenge names, or links the wallet to that user. -/

namespace LesserHost.ControlPlane

open LesserHost.Go

structure portalWalletChallengeRequest where
  Address : String
  ChainID : Int

structure portalWalletLoginRequest where
  ChallengeID : String
  Address : String
  Signature : String
  Message : String
  Email : String
  DisplayName : String

def portalUsernameForWalletAddress (address : String) : String :=
  let address := ToLower (TrimSpace address)
  let address := TrimPrefix address "0x"
  let address := TrimSpace address
  "wallet-" ++ address

/-- The address is one whose signature was checked, so that its bytes are its characters. -/
def defaultDisplayNameForWallet (address : String) : String :=
  let short := ToLower (TrimPrefix address "0x")
  let short := if len short > 8 then String.ofList (short.toList.take 8) else short
  "Wallet " ++ short

namespace Server

variable (s : Server)

def handlePortalWalletChallenge (body : Body portalWalletChallengeRequest) :
    Handler walletChallengeResponse := do
  let req ← ParseJSON body
  let address := TrimSpace req.Address
  let chainID := if req.ChainID = 0 then 1 else req.ChainID
  if address = "" then fail "app.bad_request" "address is required"
  else
    let username := portalUsernameForWalletAddress address
    match ← s.createWalletChallenge address chainID username with
    | .error _ => fail "app.internal" "failed to create challenge"
    | .ok challenge => return .of challenge

def parsePortalWalletLogin (body : Body portalWalletLoginRequest) :
    Handler portalWalletLoginRequest := do
  let req ← ParseJSON body
  let checked ← checkWalletVerifyRequest ""
    ⟨req.ChallengeID, req.Address, req.Signature, req.Message⟩
  return {
    ChallengeID := checked.ChallengeID
    Address := checked.Address
    Signature := checked.Signature
    Message := checked.Message
    Email := TrimSpace req.Email
    DisplayName := TrimSpace req.DisplayName }

/-- The challenge, the user it names, and the address that signed it. -/
def validatePortalWalletLoginChallenge (req : portalWalletLoginRequest) :
    Handler (WalletChallenge × String × String) := do
  let challenge ← findWalletChallenge req.ChallengeID
  let username := TrimSpace challenge.Username
  let address := ToLower (TrimSpace req.Address)
  if username = "" then fail "app.unauthorized" "unauthorized"
  else if address ≠ ToLower (TrimSpace challenge.Address) then
    fail "app.unauthorized" "unauthorized"
  else if TrimSpace req.Message ≠ TrimSpace challenge.Message then
    fail "app.unauthorized" "unauthorized"
  else if verifyEthereumSignature s.ethereum address req.Message req.Signature = false then
    fail "app.unauthorized" "invalid signature"
  else
    redeemWalletChallenge req.ChallengeID
    return (challenge, username, address)

/-- The user, if there is one. -/
def getUserProfile (username : String) : Handler (Option User) := do
  match ← Prog.perform (Op.getUser username) with
  | .ok user => return some user
  | .error .notFound => return none
  | .error _ => fail "app.internal" "internal error"

/-- The rows that link a wallet to a user. -/
def linkRows (username address : String) (chainID : Int) (now : Time) : List Write :=
  let cred : WalletCredential := {
    Username := username
    Address := address
    ChainID := chainID
    «Type» := walletTypeEthereum
    LinkedAt := now
    LastUsed := now }
  [.createWalletCredential cred,
    .createWalletIndex (WalletIndex.UpdateKeys walletTypeEthereum address username)]

/-- The row of a customer who logs in for the first time. -/
def portalUser (username address email displayName : String) (now : Time) : User :=
  let user : User := {
    Username := username
    Role := RoleCustomer
    Approved := false
    ApprovalStatus := UserApprovalStatusPending
    DisplayName := if displayName = "" then defaultDisplayNameForWallet address else displayName
    Email := email
    CreatedAt := now }
  user.UpdateKeys

def createPortalWalletUser (username address : String) (chainID : Int) (email displayName : String)
    (now : Time) : Handler User := do
  let newUser := portalUser username address email displayName now
  match ← write (.createUser newUser :: linkRows username address chainID now) with
  | .ok _ => return newUser
  | .error .conditionFailed =>
      -- another request created the user; without one the new row is returned unwritten
      match ← Prog.perform (Op.getUser username) with
      | .ok user => return user
      | .error _ => return newUser
  | .error _ => fail "app.internal" "failed to create user"

/-- A user without an e-mail address gets the one of the request. -/
def fillUserEmail (user : User) (username email : String) : Handler Unit := do
  if email ≠ "" ∧ TrimSpace user.Email = "" then
    let _ ← write [.updateUserEmail (TrimSpace username) email]
    return ()
  else return ()

def linkPortalWalletToCustomer (user : User) (username address : String) (chainID : Int)
    (email : String) (now : Time) : Handler Unit := do
  if TrimSpace user.Role ≠ RoleCustomer then
    fail "app.forbidden" "wallet is not linked to this user"
  else
    match ← write (linkRows username address chainID now) with
    | .error .other => fail "app.internal" "failed to link wallet"
    | .error .notFound => fail "app.internal" "failed to link wallet"
    | .error .conditionFailed => fillUserEmail user username email
    | .ok _ => fillUserEmail user username email

def ensurePortalWalletUser (username address : String) (chainID : Int)
    (linked email displayName : String) (now : Time) : Handler User := do
  match ValidateManagedHandle username with
  | .error _ => fail "app.bad_request" "username is invalid"
  | .ok normalizedUsername =>
      if normalizedUsername = "" then fail "app.bad_request" "username is invalid"
      else
        match ← getUserProfile normalizedUsername with
        | none => createPortalWalletUser normalizedUsername address chainID email displayName now
        | some user =>
            if linked = "" then
              linkPortalWalletToCustomer user normalizedUsername address chainID email now
              return user
            else return user

/-- The role of the session: that of the user, and `customer` where the user has none. -/
def portalSessionRole (user : User) : String :=
  let role := TrimSpace user.Role
  if role = "" then RoleCustomer else role

def handlePortalWalletLogin (ctx : Context) (body : Body portalWalletLoginRequest) :
    Handler operatorLoginResponse := do
  let req ← parsePortalWalletLogin body
  let (challenge, username, address) ← s.validatePortalWalletLoginChallenge req
  match ← walletLinkedUsername walletTypeEthereum address with
  | .error _ => fail "app.internal" "internal error"
  | .ok linked =>
      if linked ≠ "" ∧ linked ≠ username then
        fail "app.conflict" "wallet is already linked to a different user"
      else
        let now ← now
        let user ← ensurePortalWalletUser username address challenge.ChainID linked req.Email
          req.DisplayName now
        let role := portalSessionRole user
        match ← s.createOperatorSession username role "wallet" with
        | .error _ => fail "app.internal" "failed to create session"
        | .ok (token, expiresAt) =>
            tryWriteAuditLog ctx {
              Actor := username
              Action := "auth.portal.wallet.login"
              Target := "operator_session"
              RequestID := ctx.RequestID
              CreatedAt := now }
            return {
              Token := token
              ExpiresAt := expiresAt
              Username := username
              Role := role
              Method := "wallet" }

end Server

end LesserHost.ControlPlane
