import LesserHost.ControlPlane.Endpoints
import LesserHost.Go.Base64
import LesserHost.Lib.Tokens

set_option autoImplicit false

/-! # Bearer tokens and sessions

`auth_operator.go`, `operator_sessions.go`, `handlers_logout.go`: a session is stored under the hash
of its token, and a request is authenticated by the row that its bearer token finds. `Sessions` is
the table together with what became of the tokens drawn, `Sessions.step` one request on it: sessions
are opened by `createOperatorSession`, in a transaction of a row of `buildOperatorSessionModel`, and
by `handleSetupBootstrapVerify`. -/

namespace LesserHost.ControlPlane

open LesserHost.Go Prog

/-! ## Tokens -/

/-- The digits in which `base64.URLEncoding` differs from the standard one. -/
def urlDigit (b : UInt8) : UInt8 := if b = 0x2b then 0x2d else if b = 0x2f then 0x5f else b

/-- `newToken(32)`, from the bytes drawn: `base64.RawURLEncoding`. -/
def tokenText (drawn : Vector UInt8 32) : String :=
  asciiText ((Base64.rawEncode drawn.toList).map urlDigit)

/-- `httpx.BearerToken` of the value of the authorization header. The letters of the scheme have
    no other case than in ASCII. -/
def BearerToken (authorization : String) : String :=
  match (TrimSpace authorization).toList.span (fun c => c != ' ') with
  | (scheme, _ :: rest) =>
      if EqualFoldASCII (TrimSpace (String.ofList scheme)) "bearer" then TrimSpace (String.ofList rest)
      else ""
  | (_, []) => ""

/-! ## Operations on sessions -/

inductive SessionOp where
  | store (o : Op)
  | firstOperatorSession (id : String)
  | deleteOperatorSession (id : String)

abbrev SessionOp.Res : SessionOp → Type
  | .store o => o.Res
  | .firstOperatorSession _ => Except StoreError OperatorSession
  | .deleteOperatorSession _ => Except StoreError Unit

def sessionHandle : (o : SessionOp) → Choice → Store → o.Res × Store
  | .store o, c, st => handle o c st
  | .firstOperatorSession id, c, st => c.attempt st (lookup (st.operatorSessions id), st)
  | .deleteOperatorSession id, c, st =>
      c.attempt st (.ok (), { st with operatorSessions := set st.operatorSessions id none })

def sessionEnv : Env SessionOp SessionOp.Res Store Choice := ⟨sessionHandle⟩

abbrev SessionHandler (α : Type) := Prog SessionOp SessionOp.Res AppTheoryError α

/-- A handler of the other endpoints. -/
def onStore {α : Type} : Handler α → SessionHandler α
  | .ret a => .ret a
  | .fail e => .fail e
  | .op o k => .op (.store o) fun r => onStore (k r)

/-! ## The hook -/

/-- The identity, and what the hook puts into the request context. -/
structure Authenticated where
  AuthIdentity : String
  role : String
  sessionID : String
  method : String

def Authenticated.of (session : OperatorSession) : Authenticated where
  AuthIdentity := TrimSpace session.Username
  role := TrimSpace session.Role
  sessionID := TrimSpace session.ID
  method := TrimSpace session.Method

/-- `!session.ExpiresAt.IsZero() && time.Now().After(session.ExpiresAt)` -/
def pastExpiry (expiresAt now : Time) : Bool := !expiresAt.IsZero && now.After expiresAt

/-- The first session one of the names finds. -/
def findOperatorSession : List String → SessionHandler (Option OperatorSession)
  | [] => return none
  | candidate :: rest => do
      let id := TrimSpace candidate
      if id = "" then findOperatorSession rest
      else
        match ← perform (SessionOp.firstOperatorSession id) with
        | .ok session => return some session
        | .error .notFound => findOperatorSession rest
        | .error _ => .fail (newAppTheoryError "app.internal" "internal error")

namespace Server

variable (s : Server)

def OperatorAuthHook (authorization : String) : SessionHandler (Option Authenticated) := do
  let token := BearerToken authorization
  if token = "" then return none
  else
    -- the hash first, then the token itself, as older rows have it
    match ← findOperatorSession [s.sha256HexTrimmed token, token] with
    | none => return none
    | some session =>
        let now ← perform (SessionOp.store .now)
        if pastExpiry session.ExpiresAt now then
          let _ ← perform (SessionOp.deleteOperatorSession session.ID)
          return none
        else return some (.of session)

/-- The request of an authenticated user to end the session. -/
def handleAuthLogout (requestID : String) (auth : Authenticated) : SessionHandler Unit := do
  if TrimSpace auth.AuthIdentity = "" then
    .fail (newAppTheoryError "app.unauthorized" "unauthorized")
  else
    let sessionID := TrimSpace auth.sessionID
    let revoked : SessionHandler (Result Unit) :=
      if sessionID = "" then pure (.ok ())
      else perform (SessionOp.deleteOperatorSession sessionID)
    match ← revoked with
    | .error .conditionFailed | .error .other =>
        .fail (newAppTheoryError "app.internal" "failed to revoke session")
    | .error .notFound | .ok () =>
        let now ← perform (SessionOp.store .now)
        onStore (tryWriteAuditLog ⟨requestID, auth.AuthIdentity, auth.role, ""⟩ {
          Actor := TrimSpace auth.AuthIdentity
          Action := "auth.logout"
          Target := "operator_session"
          RequestID := requestID
          CreatedAt := now.UTC })

/-- A session that is stored in one transaction with other rows, as the first passkey's is. -/
def transactOperatorSession (others : List Write) (username role method : String) :
    Handler (Result (String × Time)) := do
  let now ← now
  match ← newToken with
  | .error e => return .error e
  | .ok token =>
      let session := s.buildOperatorSessionModel token username role method now
      match ← write (.createOperatorSession session :: others) with
      | .error e => return .error e
      | .ok _ => return .ok (token, session.ExpiresAt)

end Server

/-! ## Runs -/

/-- The table, the tokens that were returned to clients with the expiries they were returned with,
    the tokens drawn by requests that failed, and the sessions that were logged out. -/
structure Sessions where
  store : Store
  operatorTokens : List (String × Time)
  setupTokens : List (String × Time)
  hidden : List String
  loggedOut : List String

/-- No session yet. The time is counted from the zero time. -/
def Sessions.Initial (σ : Sessions) : Prop :=
  (∀ id, σ.store.operatorSessions id = none) ∧ (∀ id, σ.store.setupSessions id = none) ∧
    0 ≤ σ.store.now.nanos ∧ σ.operatorTokens = [] ∧ σ.setupTokens = [] ∧ σ.hidden = [] ∧
    σ.loggedOut = []

inductive SessionRequest where
  | createOperatorSession (username role method : String)
  | transactOperatorSession (others : List Write) (username role method : String)
  | setupBootstrapVerify (body : Body setupBootstrapVerifyRequest)
  | authenticate (authorization : String)
  | logout (requestID authorization : String)
  | setupAuthenticate (ctx : Context)
  /-- what the rest of the service does, which writes no sessions -/
  | elsewhere (store : Store)
  /-- the rows under a name are removed after the expiry that their `ttl` gives, in seconds -/
  | sweep (id : String)
  | wait (nanos : Nat)

/-- A request, the bytes drawn if it draws a token, and what the world decides. -/
abbrev SessionMove := SessionRequest × Vector UInt8 32 × (Nat → Choice)

/-- The environment of a request that draws one token. -/
def tokenEnv (token : String) : Env Op Op.Res Store Choice :=
  ⟨fun o c st => handle o { c with random := token } st⟩

def swept {α : Type} (expiresAt : α → Time) (now : Time) (row : Option α) : Option α :=
  row.filter fun x => !decide ((expiresAt x).nanos / Second < now.nanos / Second)

namespace Sessions

variable (σ : Sessions)

def issueOperator (p : Handler (Result (String × Time))) (token : String) (ch : Nat → Choice) :
    Sessions :=
  let r := run (tokenEnv token) p ch σ.store
  match r.1 with
  | .ok (.ok issued) => { σ with store := r.2, operatorTokens := issued :: σ.operatorTokens }
  | _ => { σ with store := r.2, hidden := token :: σ.hidden }

def issueSetup (p : Handler (String × Time)) (token : String) (ch : Nat → Choice) : Sessions :=
  let r := run (tokenEnv token) p ch σ.store
  match r.1 with
  | .ok issued => { σ with store := r.2, setupTokens := issued :: σ.setupTokens }
  | .error _ => { σ with store := r.2, hidden := token :: σ.hidden }

/-- A session whose row a logout deleted is logged out, also when the answer was a failure. -/
def logout (s : Server) (requestID authorization : String) (ch : Nat → Choice) : Sessions :=
  let hook := run sessionEnv (s.OperatorAuthHook authorization) ch σ.store
  match hook.1 with
  | .ok (some auth) =>
      let st := (run sessionEnv (Server.handleAuthLogout requestID auth) (fun n => ch (n + 4)) hook.2).2
      let id := TrimSpace auth.sessionID
      if (hook.2.operatorSessions id).isSome ∧ (st.operatorSessions id).isNone then
        { σ with store := st, loggedOut := id :: σ.loggedOut }
      else { σ with store := st }
  | _ => { σ with store := hook.2 }

def step (s : Server) (σ : Sessions) (m : SessionMove) : Sessions :=
  match m with
  | (.createOperatorSession username role method, drawn, ch) =>
      σ.issueOperator (s.createOperatorSession username role method) (tokenText drawn) ch
  | (.transactOperatorSession others username role method, drawn, ch) =>
      σ.issueOperator (s.transactOperatorSession others username role method) (tokenText drawn) ch
  | (.setupBootstrapVerify body, drawn, ch) =>
      σ.issueSetup (s.handleSetupBootstrapVerify body) (tokenText drawn) ch
  | (.authenticate authorization, _, ch) =>
      { σ with store := (run sessionEnv (s.OperatorAuthHook authorization) ch σ.store).2 }
  | (.logout requestID authorization, _, ch) => σ.logout s requestID authorization ch
  | (.setupAuthenticate ctx, _, ch) =>
      { σ with store := (run storeEnv (s.requireSetupSession ctx) ch σ.store).2 }
  | (.elsewhere store, _, _) =>
      { σ with
        store := { store with
          operatorSessions := σ.store.operatorSessions
          setupSessions := σ.store.setupSessions
          now := σ.store.now } }
  | (.sweep id, _, _) =>
      { σ with
        store := { σ.store with
          operatorSessions := set σ.store.operatorSessions id
            (swept (·.ExpiresAt) σ.store.now (σ.store.operatorSessions id))
          setupSessions := set σ.store.setupSessions id
            (swept (·.ExpiresAt) σ.store.now (σ.store.setupSessions id)) } }
  | (.wait nanos, _, _) =>
      { σ with store := { σ.store with now := σ.store.now.Add nanos } }

/-- The tokens drawn so far. -/
def drawn : List String := σ.operatorTokens.map Prod.fst ++ σ.setupTokens.map Prod.fst ++ σ.hidden

end Sessions

/-- A row of another kind. -/
def Write.sessionless : Write → Bool
  | .putOperatorSession _ | .createOperatorSession _ | .putSetupSession _
  | .deleteSetupSession _ => false
  | _ => true

/-- A token drawn is fresh: neither it nor its hash is that of a token drawn before. What is stored
    beside a session is no session. -/
def SessionMove.Fresh (s : Server) (σ : Sessions) (m : SessionMove) : Prop :=
  (∀ token ∈ σ.drawn, s.sha256 (bytes token) ≠ s.sha256 (bytes (tokenText m.2.1))) ∧
    match m.1 with
    | .transactOperatorSession others _ _ _ => others.all Write.sessionless = true
    | _ => True

/-! ## Who is let in -/

namespace Server

variable (s : Server)

/-- A request with this header is authenticated as the session, when nothing fails. -/
def Accepts (st : Store) (authorization id : String) : Prop :=
  ∃ auth, (run sessionEnv (s.OperatorAuthHook authorization) (fun _ => .ok "") st).1
      = .ok (some auth) ∧ auth.sessionID = id

/-- The same of a setup session. -/
def AcceptsSetup (st : Store) (authorization id : String) : Prop :=
  ∃ session, (run storeEnv (s.requireSetupSession ⟨"", "", "", BearerToken authorization⟩)
      (fun _ => .ok "") st).1 = .ok session ∧ session.ID = id

/-- A bearer token authenticates as a session exactly when it was returned to the client for this
    session, which has neither expired nor been logged out. -/
def OnlyIssuedTokens (σ : Sessions) (authorization : String) : Prop :=
  (∀ id, s.Accepts σ.store authorization id ↔
    ∃ expiresAt, (BearerToken authorization, expiresAt) ∈ σ.operatorTokens ∧
      id = s.sha256HexTrimmed (BearerToken authorization) ∧ id ∉ σ.loggedOut ∧
      σ.store.now.After expiresAt = false) ∧
  ∀ id, s.AcceptsSetup σ.store authorization id ↔
    ∃ expiresAt, (BearerToken authorization, expiresAt) ∈ σ.setupTokens ∧
      id = s.sha256HexTrimmed (BearerToken authorization) ∧
      σ.store.now.After expiresAt = false

end Server

/-- The text is the name under which a session is stored that has not expired. -/
def Store.NamesSession (st : Store) (text : String) : Prop :=
  (∃ session, st.operatorSessions text = some session ∧ st.now.After session.ExpiresAt = false) ∨
    ∃ session, st.setupSessions text = some session ∧ st.now.After session.ExpiresAt = false

end LesserHost.ControlPlane
