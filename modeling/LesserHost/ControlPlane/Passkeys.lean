import LesserHost.ControlPlane.Setup
import LesserHost.Lib.Interleave

set_option autoImplicit false

/-! # The passkeys of a user

`handlers_webauthn.go`: finishing a registration, finishing a login, renaming and deleting a passkey, each
as its operations on the rows of one user. A registration creates a row if its key is free; a login
writes the fields it changes back without asking whether the row is still there.

The WebAuthn library is a parameter. The user's own row, the session that a login opens and the audit log
are up to the world. -/

namespace LesserHost.ControlPlane.Passkeys

open LesserHost.Go
open LesserHost.ControlPlane (AppTheoryError StoreError newAppTheoryError Body WebAuthnChallenge)
open LesserHost.ControlPlane.Server (orElse)

/-! ## Rows -/

/-- An attribute that was never written is read as the zero of its type. -/
structure WebAuthnCredential where
  ID : String
  UserID : String
  PublicKey : List UInt8
  AttestationType : String
  AAGUID : List UInt8
  SignCount : Nat
  CloneWarning : Bool
  UserPresent : Option Bool
  UserVerified : Option Bool
  BackupEligible : Bool
  BackupState : Bool
  CreatedAt : Time
  LastUsedAt : Time
  Name : String
  deriving DecidableEq

/-- A row of which only the key is written. -/
def WebAuthnCredential.blank : WebAuthnCredential where
  ID := ""
  UserID := ""
  PublicKey := []
  AttestationType := ""
  AAGUID := []
  SignCount := 0
  CloneWarning := false
  UserPresent := none
  UserVerified := none
  BackupEligible := false
  BackupState := false
  CreatedAt := zeroTime
  LastUsedAt := zeroTime
  Name := ""

/-- The fields a login changes. -/
structure LoginUpdate where
  SignCount : Nat
  CloneWarning : Bool
  UserPresent : Bool
  UserVerified : Bool
  BackupEligible : Bool
  BackupState : Bool
  LastUsedAt : Time

def LoginUpdate.apply (u : LoginUpdate) (row : WebAuthnCredential) : WebAuthnCredential :=
  { row with
    SignCount := u.SignCount
    CloneWarning := u.CloneWarning
    UserPresent := some u.UserPresent
    UserVerified := some u.UserVerified
    BackupEligible := u.BackupEligible
    BackupState := u.BackupState
    LastUsedAt := u.LastUsedAt }

/-- The credential rows of the user, each under the identifier in its key, and the challenges. -/
structure Table where
  credentials : List (String × WebAuthnCredential)
  challenges : String → Option WebAuthnChallenge

def Table.credential (t : Table) (id : String) : Option WebAuthnCredential := t.credentials.lookup id

/-! ## Operations -/

inductive Op where
  | now
  | getChallenge (challenge : String)
  | deleteChallenge (challenge : String)
  /-- one page of the rows, and whether there is a cursor -/
  | listCredentials (limit : Nat)
  /-- `IfNotExists().Create()` -/
  | createCredential (row : WebAuthnCredential)
  /-- `Update` of the fields of a login, without a condition -/
  | updateCredential (id : String) (update : LoginUpdate)
  /-- `IfExists().Update("Name")` -/
  | renameCredential (id name : String)
  | deleteCredential (id : String)
  /-- the role of the user -/
  | loadUser (username : String)
  /-- the token of the session, once its row is stored -/
  | createOperatorSession (username role method : String)
  | createAudit (action target : String)

abbrev Op.Res : Op → Type
  | .now => Time
  | .getChallenge _ => Except StoreError WebAuthnChallenge
  | .deleteChallenge _ => Except StoreError Unit
  | .listCredentials _ => Except StoreError (List WebAuthnCredential × Bool)
  | .createCredential _ => Except StoreError Unit
  | .updateCredential .. => Except StoreError Unit
  | .renameCredential .. => Except StoreError Unit
  | .deleteCredential _ => Except StoreError Unit
  | .loadUser _ => Except StoreError String
  | .createOperatorSession .. => Except StoreError String
  | .createAudit .. => Except StoreError Unit

inductive Fault where
  | none
  /-- the operation was not carried out -/
  | lost
  /-- the operation was carried out and its answer was lost -/
  | unacknowledged
  deriving DecidableEq

/-- What the world decides at one operation. -/
structure Choice where
  fault : Fault
  now : Time
  role : Except StoreError String
  session : Except StoreError String
  /-- a page that is full without more rows behind it has a cursor -/
  cursor : Bool

/-- The answer under a fault. -/
def Choice.attempt {α : Type} (c : Choice) (t : Table) (r : Except StoreError α × Table) :
    Except StoreError α × Table :=
  match c.fault with
  | .none => r
  | .lost => (.error .other, t)
  | .unacknowledged => (.error .other, r.2)

/-- The first rows, and whether a cursor leads on. -/
def Table.page (t : Table) (limit : Nat) (cursor : Bool) : List WebAuthnCredential × Bool :=
  ((t.credentials.take limit).map Prod.snd,
    decide (limit < t.credentials.length) || (decide (limit = t.credentials.length) && cursor))

/-- One row changed. -/
def Table.modify (t : Table) (id : String) (f : WebAuthnCredential → WebAuthnCredential) : Table :=
  { t with credentials := t.credentials.map fun r => if r.1 = id then (r.1, f r.2) else r }

def Table.create (t : Table) (row : WebAuthnCredential) : Except StoreError Unit × Table :=
  if (t.credential row.ID).isSome then (.error .conditionFailed, t)
  else (.ok (), { t with credentials := t.credentials ++ [(row.ID, row)] })

/-- An update of a row that is not there writes one. -/
def Table.update (t : Table) (id : String) (u : LoginUpdate) : Table :=
  if (t.credential id).isSome then t.modify id u.apply
  else { t with credentials := t.credentials ++ [(id, u.apply .blank)] }

def Table.rename (t : Table) (id name : String) : Except StoreError Unit × Table :=
  if (t.credential id).isSome then (.ok (), t.modify id fun row => { row with Name := name })
  else (.error .conditionFailed, t)

def Table.delete (t : Table) (id : String) : Table :=
  { t with credentials := t.credentials.filter fun r => r.1 != id }

def Table.handle : (o : Op) → Choice → Table → o.Res × Table
  | .now, c, t => (c.now, t)
  | .getChallenge challenge, c, t =>
      c.attempt t ((t.challenges challenge).elim (.error .notFound) .ok, t)
  | .deleteChallenge challenge, c, t =>
      c.attempt t (.ok (), { t with
        challenges := fun ch => if ch = challenge then none else t.challenges ch })
  | .listCredentials limit, c, t => c.attempt t (.ok (t.page limit c.cursor), t)
  | .createCredential row, c, t => c.attempt t (t.create row)
  | .updateCredential id u, c, t => c.attempt t (.ok (), t.update id u)
  | .renameCredential id name, c, t => c.attempt t (t.rename id name)
  | .deleteCredential id, c, t => c.attempt t (.ok (), t.delete id)
  | .loadUser _, c, t => (c.role, t)
  | .createOperatorSession .., c, t => (c.session, t)
  | .createAudit .., c, t => c.attempt t (.ok (), t)

def tableEnv : Prog.Env Op Op.Res Table Choice := ⟨Table.handle⟩

abbrev Handler (α : Type) := Prog Op Op.Res AppTheoryError α

def fail {α : Type} (code message : String) : Handler α := .fail (newAppTheoryError code message)

/-! ## The library -/

/-- `webauthn.Credential`. The identifier is given in base64. -/
structure Credential where
  ID : String
  PublicKey : List UInt8
  AttestationType : String
  AAGUID : List UInt8
  UserPresent : Bool
  UserVerified : Bool
  BackupEligible : Bool
  BackupState : Bool
  SignCount : Nat
  CloneWarning : Bool

def toWebAuthnCredential (c : WebAuthnCredential) : Credential where
  ID := c.ID
  PublicKey := c.PublicKey
  AttestationType := c.AttestationType
  AAGUID := c.AAGUID
  -- rows that were stored before the flags were kept
  UserPresent := c.UserPresent.getD true
  UserVerified := c.UserVerified.getD true
  BackupEligible := c.BackupEligible
  BackupState := c.BackupState
  SignCount := c.SignCount
  CloneWarning := c.CloneWarning

structure webAuthnUser where
  id : String
  name : String
  displayName : String
  credentials : List Credential

/-- A response is parsed from the members of its JSON object and checked against the session data of the
    challenge. -/
structure Library where
  /-- the session data, from the JSON the challenge keeps it in -/
  UnmarshalSession : List UInt8 → Option String
  ParseCredentialCreationResponse : List (String × String) → Option String
  CreateCredential : webAuthnUser → String → String → Option Credential
  ParseCredentialRequestResponse : List (String × String) → Option String
  ValidateLogin : webAuthnUser → String → String → Option Credential

/-- A login is validated for one of the user's credentials, whose counter it may raise. -/
structure Library.Documented (library : Library) : Prop where
  validateLogin : ∀ user session parsed credential,
    library.ValidateLogin user session parsed = some credential →
      ∃ stored ∈ user.credentials, stored.ID = credential.ID ∧ stored.SignCount ≤ credential.SignCount

/-! ## Parts of the handlers -/

def maxWebAuthnCredentials : Nat := 10
def webAuthnCredentialListPageSize : Nat := maxWebAuthnCredentials + 1

/-- The walk is one page long. -/
def listUserWebAuthnCredentials : Handler (Except StoreError (List WebAuthnCredential)) := do
  match ← Prog.perform (Op.listCredentials webAuthnCredentialListPageSize) with
  | .error e => return .error e
  | .ok (items, more) => if more then return .error .other else return .ok items

def deleteWebAuthnChallenge (challenge : String) : Handler Unit := do
  let _ ← Prog.perform (Op.deleteChallenge challenge)
  return ()

def getWebAuthnChallenge (challenge : String) : Handler (Except StoreError WebAuthnChallenge) := do
  match ← Prog.perform (Op.getChallenge challenge) with
  | .error e => return .error e
  | .ok c =>
      let now ← Prog.perform Op.now
      if c.ExpiresAt.IsZero = false ∧ now.After c.ExpiresAt = true then
        deleteWebAuthnChallenge challenge
        return .error .notFound
      else return .ok c

def loadWebAuthnSession (library : Library) (challenge username expectedType : String) :
    Handler String := do
  match ← getWebAuthnChallenge challenge with
  | .error .notFound => fail "app.unauthorized" "unauthorized"
  | .error .conditionFailed | .error .other => fail "app.internal" "internal error"
  | .ok challengeData =>
      if challengeData.UserID ≠ username then fail "app.unauthorized" "unauthorized"
      else if TrimSpace challengeData.Type ≠ expectedType then
        fail "app.unauthorized" "unauthorized"
      else
        match library.UnmarshalSession challengeData.SessionData with
        | none => fail "app.internal" "invalid session"
        | some session => return session

def buildWebAuthnUserWithCredentials (username displayName : String) (creds : List WebAuthnCredential) :
    webAuthnUser where
  id := TrimSpace username
  name := TrimSpace username
  displayName := orElse (TrimSpace displayName) (TrimSpace username)
  credentials := creds.map toWebAuthnCredential

def buildStoredWebAuthnCredential (userID : String) (credential : Credential) (credentialName : String)
    (createdAt : Time) (existingCreds : Nat) : WebAuthnCredential where
  ID := credential.ID
  UserID := TrimSpace userID
  PublicKey := credential.PublicKey
  AttestationType := credential.AttestationType
  AAGUID := credential.AAGUID
  SignCount := credential.SignCount
  CloneWarning := credential.CloneWarning
  UserPresent := some credential.UserPresent
  UserVerified := some credential.UserVerified
  BackupEligible := credential.BackupEligible
  BackupState := credential.BackupState
  CreatedAt := createdAt.UTC
  LastUsedAt := createdAt.UTC
  Name := orElse (TrimSpace credentialName) ("Passkey " ++ toString (existingCreds + 1))

structure webAuthnFinishRegistrationRequest where
  Challenge : String
  Response : List (String × String)
  CredentialName : String

structure webAuthnFinishLoginRequest where
  Username : String
  Challenge : String
  Response : List (String × String)

section Handlers

variable (library : Option Library)

def ensureWebAuthnConfigured : Handler Library :=
  match library with
  | some library => .ret library
  | none => fail "app.conflict" "webauthn is not configured"

/-! ## Registering -/

def completeWebAuthnRegistration (library : Library) (username displayName : String)
    (req : webAuthnFinishRegistrationRequest) (creds : List WebAuthnCredential) :
    Handler WebAuthnCredential := do
  let challenge := TrimSpace req.Challenge
  if challenge = "" then fail "app.bad_request" "challenge is required"
  else
    let session ← loadWebAuthnSession library challenge username "registration"
    if creds.length ≥ maxWebAuthnCredentials then fail "app.conflict" "max credentials reached"
    else
      match library.ParseCredentialCreationResponse req.Response with
      | none => fail "app.bad_request" "invalid response"
      | some parsed =>
          match library.CreateCredential
              (buildWebAuthnUserWithCredentials username displayName creds) session parsed with
          | none => fail "app.unauthorized" "registration failed"
          | some credential =>
              let now ← Prog.perform Op.now
              return buildStoredWebAuthnCredential username credential req.CredentialName now.UTC
                creds.length

def audit (action target : String) : Handler Unit := do
  match ← Prog.perform (Op.createAudit action target) with
  | .error _ => fail "app.internal" "failed to write audit log"
  | .ok _ => return ()

def handleWebAuthnRegisterFinish (AuthIdentity : String) (body : Body webAuthnFinishRegistrationRequest) :
    Handler Unit := do
  let library ← ensureWebAuthnConfigured library
  let username := TrimSpace AuthIdentity
  if username = "" then fail "app.unauthorized" "unauthorized"
  else
    match body with
    | .error e => .fail e
    | .ok req =>
        match ← listUserWebAuthnCredentials with
        | .error _ => fail "app.internal" "internal error"
        | .ok creds =>
            let stored ← completeWebAuthnRegistration library username username req creds
            match ← Prog.perform (Op.createCredential stored) with
            | .error _ => fail "app.internal" "failed to store credential"
            | .ok _ =>
                -- the challenge as the request gave it
                deleteWebAuthnChallenge req.Challenge
                audit "auth.webauthn.register" ("webauthn_credential:" ++ stored.ID)

/-! ## Logging in -/

def parseWebAuthnLoginFinishRequest (body : Body webAuthnFinishLoginRequest) :
    Handler webAuthnFinishLoginRequest :=
  match body with
  | .error e => .fail e
  | .ok req =>
      if TrimSpace req.Username = "" then fail "app.bad_request" "username is required"
      else if TrimSpace req.Challenge = "" then fail "app.bad_request" "challenge is required"
      else .ret ⟨TrimSpace req.Username, TrimSpace req.Challenge, req.Response⟩

/-- The token. -/
def handleWebAuthnLoginFinish (body : Body webAuthnFinishLoginRequest) : Handler String := do
  let library ← ensureWebAuthnConfigured library
  let req ← parseWebAuthnLoginFinishRequest body
  let session ← loadWebAuthnSession library req.Challenge req.Username "login"
  match ← listUserWebAuthnCredentials with
  | .error _ => fail "app.internal" "internal error"
  | .ok creds =>
      if creds = [] then fail "app.unauthorized" "unauthorized"
      else
        match library.ParseCredentialRequestResponse req.Response with
        | none => fail "app.bad_request" "invalid response"
        | some parsed =>
            match library.ValidateLogin (buildWebAuthnUserWithCredentials req.Username req.Username creds)
                session parsed with
            | none => fail "app.unauthorized" "invalid credential"
            | some credential =>
                deleteWebAuthnChallenge req.Challenge
                let now ← Prog.perform Op.now
                let _ ← Prog.perform (Op.updateCredential credential.ID {
                  SignCount := credential.SignCount
                  CloneWarning := credential.CloneWarning
                  UserPresent := credential.UserPresent
                  UserVerified := credential.UserVerified
                  BackupEligible := credential.BackupEligible
                  BackupState := credential.BackupState
                  LastUsedAt := now.UTC })
                match ← Prog.perform (Op.loadUser req.Username) with
                | .error .notFound => fail "app.unauthorized" "unauthorized"
                | .error .conditionFailed | .error .other => fail "app.internal" "internal error"
                | .ok role =>
                    match ← Prog.perform (Op.createOperatorSession req.Username role "webauthn") with
                    | .error _ => fail "app.internal" "failed to create session"
                    | .ok token =>
                        audit "auth.webauthn.login" "operator_session"
                        return token

/-! ## Renaming and deleting -/

def handleWebAuthnDeleteCredential (AuthIdentity credentialId : String) : Handler Unit := do
  let _ ← ensureWebAuthnConfigured library
  if TrimSpace AuthIdentity = "" then fail "app.unauthorized" "unauthorized"
  else
    let credID := TrimSpace credentialId
    if credID = "" then fail "app.bad_request" "credentialId is required"
    else
      match ← Prog.perform (Op.deleteCredential credID) with
      | .error .conditionFailed | .error .other => fail "app.internal" "failed to delete credential"
      | .error .notFound | .ok _ =>
          audit "auth.webauthn.delete_credential" ("webauthn_credential:" ++ credID)

def handleWebAuthnUpdateCredential (AuthIdentity credentialId : String) (body : Body String) :
    Handler Unit := do
  let _ ← ensureWebAuthnConfigured library
  if TrimSpace AuthIdentity = "" then fail "app.unauthorized" "unauthorized"
  else
    let credID := TrimSpace credentialId
    if credID = "" then fail "app.bad_request" "credentialId is required"
    else
      match body with
      | .error e => .fail e
      | .ok name =>
          if TrimSpace name = "" then fail "app.bad_request" "name is required"
          else
            match ← Prog.perform (Op.renameCredential credID (TrimSpace name)) with
            | .error .conditionFailed => fail "app.not_found" "credential not found"
            | .error .notFound | .error .other => fail "app.internal" "failed to update credential"
            | .ok _ => audit "auth.webauthn.update_credential" ("webauthn_credential:" ++ credID)

end Handlers

/-- A request of the user, or a login as the user. -/
inductive Request where
  | registerFinish (AuthIdentity : String) (body : Body webAuthnFinishRegistrationRequest)
  | loginFinish (body : Body webAuthnFinishLoginRequest)
  | delete (AuthIdentity credentialId : String)
  | rename (AuthIdentity credentialId : String) (body : Body String)

def Request.serve (library : Option Library) : Request → Handler Unit
  | .registerFinish AuthIdentity body => handleWebAuthnRegisterFinish library AuthIdentity body
  | .loginFinish body => do
      let _ ← handleWebAuthnLoginFinish library body
      return ()
  | .delete AuthIdentity credentialId =>
      handleWebAuthnDeleteCredential library AuthIdentity credentialId
  | .rename AuthIdentity credentialId body =>
      handleWebAuthnUpdateCredential library AuthIdentity credentialId body

end LesserHost.ControlPlane.Passkeys
