import LesserHost.Go.Basic
import LesserHost.Lib.Program

set_option autoImplicit false

/-! # The control plane's table

The rows the login and setup endpoints keep (`internal/store/models`), the reads and conditional
writes they perform on them, and the environment of a handler: the table, the clock, and at each
operation a choice of what the world does (`Choice`). Every kind of row has its own key pattern, so
the one table of the service is one map for each kind here.

A write is a list of items that are written together or not at all. A single `Create` of a row with
a random key is a put; a `Create` under `IfNotExists`, or inside a transaction, needs its key to be
free. Any operation may fail, and a write may have taken effect when it does. -/

namespace LesserHost.ControlPlane

open LesserHost.Go

/-! ## Errors -/

/-- What `theoryErrors.IsNotFound` and `IsConditionFailed` tell apart. -/
inductive StoreError where
  | notFound
  | conditionFailed
  | other
  deriving DecidableEq

/-- `apptheory.AppTheoryError`. -/
structure AppTheoryError where
  code : String
  message : String
  deriving DecidableEq

def newAppTheoryError (code message : String) : AppTheoryError := ⟨code, message⟩

/-! ## Rows -/

def RoleAdmin : String := "admin"
def RoleOperator : String := "operator"
def RoleCustomer : String := "customer"

def UserApprovalStatusPending : String := "pending"
def UserApprovalStatusApproved : String := "approved"
def UserApprovalStatusRejected : String := "rejected"

structure User where
  Username : String
  Role : String
  Approved : Bool
  ApprovalStatus : String
  DisplayName : String
  Email : String
  CreatedAt : Time
  deriving DecidableEq

def User.normalizeApprovalStatus (u : User) : User :=
  let status := ToLower (TrimSpace u.ApprovalStatus)
  let status :=
    if status = UserApprovalStatusApproved ∨ status = UserApprovalStatusRejected ∨
        status = UserApprovalStatusPending then status
    else if u.Approved then UserApprovalStatusApproved
    else UserApprovalStatusPending
  { u with
    ApprovalStatus := status
    Approved := decide (status = UserApprovalStatusApproved) }

/-- The key is `USER#<username>`, `PROFILE`. The creation time is set by every caller here. -/
def User.UpdateKeys (u : User) : User := u.normalizeApprovalStatus

def User.key (u : User) : String := TrimSpace u.Username

structure WalletChallenge where
  ID : String
  Username : String
  Address : String
  ChainID : Int
  Nonce : String
  Message : String
  IssuedAt : Time
  ExpiresAt : Time
  Used : Bool
  Spent : Bool
  deriving DecidableEq

def WalletChallenge.key (c : WalletChallenge) : String := TrimSpace c.ID

structure WalletCredential where
  Username : String
  Address : String
  ChainID : Int
  «Type» : String
  LinkedAt : Time
  LastUsed : Time
  deriving DecidableEq

/-- `USER#<username>`, `WALLET#<address>`. -/
def WalletCredential.key (w : WalletCredential) : String × String :=
  (TrimSpace w.Username, ToLower (TrimSpace w.Address))

structure WalletIndex where
  Username : String
  WalletType : String
  Address : String
  deriving DecidableEq

/-- `UpdateKeys` sets the fields as well: the partition is `WALLET#<type>#<address>`, the sort key
    `USER#<username>`. -/
def WalletIndex.UpdateKeys (walletType address username : String) : WalletIndex where
  Username := TrimSpace username
  WalletType := walletType
  Address := ToLower (TrimSpace address)

structure OperatorSession where
  ID : String
  Username : String
  Role : String
  Method : String
  IssuedAt : Time
  ExpiresAt : Time
  deriving DecidableEq

structure SetupSession where
  ID : String
  Purpose : String
  WalletType : String
  WalletAddr : String
  IssuedAt : Time
  ExpiresAt : Time
  InstanceLock : Bool
  deriving DecidableEq

structure ControlPlaneConfig where
  PrimaryAdminUsername : String
  BootstrappedAt : Time
  deriving DecidableEq

structure WebAuthnChallenge where
  Challenge : String
  UserID : String
  SessionData : List UInt8
  ExpiresAt : Time
  «Type» : String
  deriving DecidableEq

structure WebAuthnCredential where
  ID : String
  UserID : String
  PublicKey : List UInt8
  SignCount : UInt32
  CloneWarning : Bool
  CreatedAt : Time
  LastUsedAt : Time
  Name : String
  deriving DecidableEq

structure AuditLogEntry where
  Actor : String
  Action : String
  Target : String
  RequestID : String
  CreatedAt : Time
  deriving DecidableEq

/-- The zero time, that of a field that was never set. -/
def zeroTime : Time := ⟨0, .utc⟩

/-! ## The table -/

structure Store where
  users : String → Option User
  walletChallenges : String → Option WalletChallenge
  /-- by user name and address -/
  walletCredentials : String × String → Option WalletCredential
  /-- the rows of the partition of a wallet type and an address, in the order of the sort key -/
  walletIndexes : String → String → List WalletIndex
  operatorSessions : String → Option OperatorSession
  setupSessions : String → Option SetupSession
  controlPlane : Option ControlPlaneConfig
  webAuthnChallenges : String → Option WebAuthnChallenge
  webAuthnCredentials : String → List WebAuthnCredential
  auditLog : List AuditLogEntry
  now : Time

/-- A fresh deployment. -/
def Store.empty (now : Time) : Store where
  users _ := none
  walletChallenges _ := none
  walletCredentials _ := none
  walletIndexes _ _ := []
  operatorSessions _ := none
  setupSessions _ := none
  controlPlane := none
  webAuthnChallenges _ := none
  webAuthnCredentials _ := []
  auditLog := []
  now := now

/-- A map with the value at one key replaced. -/
def set {K V : Type} [DecidableEq K] (f : K → V) (k : K) (v : V) : K → V :=
  fun k' => if k' = k then v else f k'

section Set

variable {K V : Type} [DecidableEq K] {f : K → V} {k k' : K} {v : V}

@[simp] theorem set_self : set f k v k = v := if_pos rfl

theorem set_apply : set f k v k' = if k' = k then v else f k' := rfl

end Set

/-! ## Writes -/

/-- One item of a write. -/
inductive Write where
  | createUser (u : User)
  /-- `IfExists().Update("Email")` -/
  | updateUserEmail (username email : String)
  | createWalletCredential (w : WalletCredential)
  | createWalletIndex (w : WalletIndex)
  | putWalletChallenge (c : WalletChallenge)
  /-- `IfExists().WithCondition("Spent", "=", false).Update("Spent")` -/
  | spendWalletChallenge (id : String)
  | deleteWalletChallenge (id : String)
  | putOperatorSession (s : OperatorSession)
  | createOperatorSession (s : OperatorSession)
  | putSetupSession (s : SetupSession)
  | deleteSetupSession (id : String)
  | createControlPlaneConfig (c : ControlPlaneConfig)
  /-- `CreateOrUpdate()` -/
  | putControlPlaneConfig (c : ControlPlaneConfig)
  | putWebAuthnChallenge (c : WebAuthnChallenge)
  | deleteWebAuthnChallenge (challenge : String)
  /-- the deletion that ends a registration: the challenge is still there, still live, the user's,
      and one for a registration -/
  | consumeWebAuthnChallenge (challenge userID : String) (now : Time)
  | createWebAuthnCredential (w : WebAuthnCredential)
  | putAuditLogEntry (e : AuditLogEntry)

/-- The condition of an item. -/
def Write.allowed (s : Store) : Write → Bool
  | .createUser u => (s.users u.key).isNone
  | .updateUserEmail username _ => (s.users username).isSome
  | .createWalletCredential w => (s.walletCredentials w.key).isNone
  | .createWalletIndex w =>
      (s.walletIndexes w.WalletType w.Address).all fun row => row.Username != w.Username
  | .spendWalletChallenge id =>
      match s.walletChallenges id with
      | some c => !c.Spent
      | none => false
  | .createOperatorSession ss => (s.operatorSessions ss.ID).isNone
  | .createControlPlaneConfig _ => s.controlPlane.isNone
  | .consumeWebAuthnChallenge challenge userID now =>
      match s.webAuthnChallenges challenge with
      | some c =>
          decide (now.nanos / Second < c.ExpiresAt.nanos / Second) && c.UserID == userID
            && c.Type == "registration"
      | none => false
  | .createWebAuthnCredential w => (s.webAuthnCredentials w.UserID).all fun row => row.ID != w.ID
  | _ => true

/-- Rows of one partition are kept in the order of their sort keys. -/
def insertIndex (w : WalletIndex) (rows : List WalletIndex) : List WalletIndex :=
  rows.takeWhile (fun row => row.Username < w.Username) ++
    w :: rows.dropWhile (fun row => row.Username < w.Username)

def Write.apply (s : Store) : Write → Store
  | .createUser u => { s with users := set s.users u.key (some u) }
  | .updateUserEmail username email =>
      { s with
        users := set s.users username ((s.users username).map fun u => { u with Email := email }) }
  | .createWalletCredential w =>
      { s with walletCredentials := set s.walletCredentials w.key (some w) }
  | .createWalletIndex w =>
      { s with
        walletIndexes := set s.walletIndexes w.WalletType
          (set (s.walletIndexes w.WalletType) w.Address
            (insertIndex w (s.walletIndexes w.WalletType w.Address))) }
  | .putWalletChallenge c => { s with walletChallenges := set s.walletChallenges c.key (some c) }
  | .spendWalletChallenge id =>
      { s with
        walletChallenges := set s.walletChallenges id
          ((s.walletChallenges id).map fun c => { c with Spent := true }) }
  | .deleteWalletChallenge id => { s with walletChallenges := set s.walletChallenges id none }
  | .putOperatorSession ss | .createOperatorSession ss =>
      { s with operatorSessions := set s.operatorSessions ss.ID (some ss) }
  | .putSetupSession ss => { s with setupSessions := set s.setupSessions ss.ID (some ss) }
  | .deleteSetupSession id => { s with setupSessions := set s.setupSessions id none }
  | .createControlPlaneConfig c | .putControlPlaneConfig c => { s with controlPlane := some c }
  | .putWebAuthnChallenge c =>
      { s with webAuthnChallenges := set s.webAuthnChallenges c.Challenge (some c) }
  | .deleteWebAuthnChallenge challenge | .consumeWebAuthnChallenge challenge _ _ =>
      { s with webAuthnChallenges := set s.webAuthnChallenges challenge none }
  | .createWebAuthnCredential w =>
      { s with
        webAuthnCredentials := set s.webAuthnCredentials w.UserID
          (s.webAuthnCredentials w.UserID ++ [w]) }
  | .putAuditLogEntry e => { s with auditLog := s.auditLog ++ [e] }

/-- `TransactWrite`: all conditions are checked against the state before, then all is written. -/
def Store.write (s : Store) (ws : List Write) : Except StoreError Unit × Store :=
  if ws.all (Write.allowed s) then (.ok (), ws.foldl Write.apply s)
  else (.error .conditionFailed, s)

/-! ## Operations -/

inductive Op where
  | now
  /-- `crypto/rand` through `newToken`, `generateNonce` or the WebAuthn library -/
  | random
  | write (ws : List Write)
  | getUser (username : String)
  | getWalletChallenge (id : String)
  | firstWalletIndex (walletType address : String)
  | getSetupSession (id : String)
  | getControlPlaneConfig
  | getWebAuthnChallenge (challenge : String)
  | listWebAuthnCredentials (username : String)

/-- What an operation that succeeds returns. -/
abbrev Op.Val : Op → Type
  | .now => Time
  | .random => String
  | .write _ => Unit
  | .getUser _ => User
  | .getWalletChallenge _ => WalletChallenge
  | .firstWalletIndex _ _ => WalletIndex
  | .getSetupSession _ => SetupSession
  | .getControlPlaneConfig => ControlPlaneConfig
  | .getWebAuthnChallenge _ => WebAuthnChallenge
  | .listWebAuthnCredentials _ => List WebAuthnCredential

/-- Reading the clock cannot fail. -/
abbrev Op.Res (o : Op) : Type :=
  match o with
  | .now => Time
  | o => Except StoreError o.Val

inductive Fault where
  | none
  /-- the operation was not carried out -/
  | lost
  /-- the operation was carried out and its answer was lost -/
  | unacknowledged
  deriving DecidableEq

/-- What the world decides at one operation. -/
structure Choice where
  fault : Fault
  /-- the text drawn at random -/
  random : String
  /-- the nanoseconds since the last reading of the clock -/
  elapsed : Nat

/-- A choice without a fault. -/
def Choice.ok (random : String) : Choice := ⟨.none, random, 0⟩

/-- The answer under a fault. -/
def Choice.attempt {α : Type} (c : Choice) (s : Store) (r : Except StoreError α × Store) :
    Except StoreError α × Store :=
  match c.fault with
  | .none => r
  | .lost => (.error .other, s)
  | .unacknowledged => (.error .other, r.2)

def lookup {α : Type} (row : Option α) : Except StoreError α :=
  match row with
  | some a => .ok a
  | none => .error .notFound

def handle : (o : Op) → Choice → Store → o.Res × Store
  | .now, c, s =>
      let now := s.now.Add c.elapsed
      (now, { s with now := now })
  | .random, c, s => c.attempt s (.ok c.random, s)
  | .write ws, c, s => c.attempt s (s.write ws)
  | .getUser username, c, s => c.attempt s (lookup (s.users username), s)
  | .getWalletChallenge id, c, s => c.attempt s (lookup (s.walletChallenges id), s)
  | .firstWalletIndex walletType address, c, s =>
      c.attempt s (lookup (s.walletIndexes walletType address).head?, s)
  | .getSetupSession id, c, s => c.attempt s (lookup (s.setupSessions id), s)
  | .getControlPlaneConfig, c, s => c.attempt s (lookup s.controlPlane, s)
  | .getWebAuthnChallenge challenge, c, s => c.attempt s (lookup (s.webAuthnChallenges challenge), s)
  | .listWebAuthnCredentials username, c, s => c.attempt s (.ok (s.webAuthnCredentials username), s)

def storeEnv : Prog.Env Op Op.Res Store Choice := ⟨handle⟩

/-- A handler, or a part of one. -/
abbrev Handler (α : Type) := Prog Op Op.Res AppTheoryError α

/-- An error value that the caller looks at, as Go functions that return `error` answer. -/
abbrev Result (α : Type) := Except StoreError α

def fail {α : Type} (code message : String) : Handler α := .fail (newAppTheoryError code message)

def now : Handler Time := Prog.perform Op.now
def newToken : Handler (Result String) := Prog.perform Op.random
def write (ws : List Write) : Handler (Result Unit) := Prog.perform (Op.write ws)

end LesserHost.ControlPlane
