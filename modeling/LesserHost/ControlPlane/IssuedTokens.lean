import LesserHost.ControlPlane.SessionSpecs

set_option autoImplicit false

/-! # Which bearer tokens authenticate

The rows of either kind of session are a book of tokens (`Tokens.Book`), and every request keeps it
sound. What the book does not exclude is the second name under which a session is looked up: the
bearer token itself, which may be the name of a row. -/

namespace LesserHost.ControlPlane

open LesserHost.Go Prog Tokens

namespace Sessions

def expiries {α : Type} (expiresAt : α → Time) (rows : String → Option α) (id : String) : Option Int :=
  (rows id).map fun x => (expiresAt x).nanos

def log (tokens : List (String × Time)) : List (String × Int) := tokens.map fun a => (a.1, a.2.nanos)

def operatorBook (σ : Sessions) : Book String String where
  rows := expiries (·.ExpiresAt) σ.store.operatorSessions
  issued := log σ.operatorTokens
  hidden := σ.hidden
  revoked := σ.loggedOut
  now := σ.store.now.nanos

def setupBook (σ : Sessions) : Book String String where
  rows := expiries (·.ExpiresAt) σ.store.setupSessions
  issued := log σ.setupTokens
  hidden := σ.hidden
  revoked := []
  now := σ.store.now.nanos

/-- What every request keeps. -/
structure Sound (s : Server) (σ : Sessions) : Prop where
  clock : 0 ≤ σ.store.now.nanos
  tokens : ∀ token ∈ σ.drawn, ∃ bytes, token = tokenText bytes
  operatorRows : ∀ id x, σ.store.operatorSessions id = some x → GoodSession id x
  setupRows : ∀ id x, σ.store.setupSessions id = some x → GoodSetup s id x
  operator : σ.operatorBook.Sound s.sha256HexTrimmed
  setup : σ.setupBook.Sound s.sha256HexTrimmed

theorem Sound.named {s : Server} {σ : Sessions} (h : σ.Sound s) : σ.store.Named :=
  ⟨fun id x hx => (h.operatorRows id x hx).1, fun id x hx => (h.setupRows id x hx).id⟩

section Books

variable {α : Type} {expiresAt : α → Time} {rows rows' : String → Option α} {σ : Sessions}

theorem mem_log {tokens : List (String × Time)} {t : String} {e : Int} :
    (t, e) ∈ log tokens ↔ ∃ a, (t, a) ∈ tokens ∧ a.nanos = e := by
  simp [log]

theorem drawn_operator {t : String} (h : σ.operatorBook.Drawn t) : t ∈ σ.drawn := by
  simp only [Sessions.drawn, List.mem_append, List.mem_map]
  rcases h with ⟨e, he⟩ | h
  · obtain ⟨a, ha, -⟩ := mem_log.1 he
    exact Or.inl (Or.inl ⟨_, ha, rfl⟩)
  · exact Or.inr h

theorem drawn_setup {t : String} (h : σ.setupBook.Drawn t) : t ∈ σ.drawn := by
  simp only [Sessions.drawn, List.mem_append, List.mem_map]
  rcases h with ⟨e, he⟩ | h
  · obtain ⟨a, ha, -⟩ := mem_log.1 he
    exact Or.inl (Or.inr ⟨_, ha, rfl⟩)
  · exact Or.inr h

theorem rows_of_fade {now : Time} (h : RowsFade expiresAt rows rows' now) (k : String) :
    expiries expiresAt rows' k = expiries expiresAt rows k ∨
      (expiries expiresAt rows' k = none ∧
        ∀ e, expiries expiresAt rows k = some e → e < now.nanos) := by
  rcases h k with hsame | ⟨hnone, hexp⟩
  · exact Or.inl (by rw [expiries, hsame, expiries])
  · refine Or.inr ⟨by rw [expiries, hnone, Option.map_none], fun e he => ?_⟩
    obtain ⟨x, hx, rfl⟩ := Option.map_eq_some_iff.1 he
    exact hexp x hx

theorem kept_of_fade {now : Time} {P : String → α → Prop} (h : RowsFade expiresAt rows rows' now)
    (hrows : ∀ id x, rows id = some x → P id x) (id : String) (x : α) (hx : rows' id = some x) :
    P id x := by
  rcases h id with hsame | ⟨hnone, -⟩
  · exact hrows id x (hsame ▸ hx)
  · rw [hnone] at hx
    cases hx

theorem expiries_set {id : String} {x : α} (k : String) :
    expiries expiresAt (set rows id (some x)) k = expiries expiresAt rows k ∨
      (k = id ∧ expiries expiresAt (set rows id (some x)) k = some (expiresAt x).nanos) := by
  unfold expiries
  rw [set_apply]
  split_ifs with hk
  · exact Or.inr ⟨hk, rfl⟩
  · exact Or.inl rfl

end Books

/-! ## Steps -/

section Steps

variable {s : Server} {σ : Sessions} {token : String}

/-- The table after a request that opens no session and logs none out. -/
theorem Sound.fades (h : σ.Sound s) {st : Store} (hf : Fades σ.store st) :
    Sound s { σ with store := st } where
  clock := Int.le_trans h.clock hf.now
  tokens := h.tokens
  operatorRows := kept_of_fade hf.operator h.operatorRows
  setupRows := kept_of_fade hf.setup h.setupRows
  operator := h.operator.fade (.of_rows hf.now rfl rfl rfl (rows_of_fade hf.operator))
  setup := h.setup.fade (.of_rows hf.now rfl rfl rfl (rows_of_fade hf.setup))

/-- A logout that removed the row of its session. -/
theorem Sound.loggedOut (h : σ.Sound s) {st : Store} {id : String} (hdone : LogoutDone id σ.store st)
    (hrow : (σ.store.operatorSessions id).isSome) (hgone : (st.operatorSessions id).isNone) :
    Sound s { σ with store := st, loggedOut := id :: σ.loggedOut } := by
  obtain ⟨hnow, hsetup, hops⟩ := hdone
  have hput : st.operatorSessions = set σ.store.operatorSessions id none := by
    rcases hops with hsame | hput
    · rw [hsame, Option.isNone_iff_eq_none] at hgone
      rw [hgone] at hrow
      cases hrow
    · exact hput
  have hsub : ∀ k x, st.operatorSessions k = some x → σ.store.operatorSessions k = some x := by
    intro k x hx
    rw [hput, set_apply] at hx
    split_ifs at hx with hk
    exact hx
  refine ⟨Int.le_trans h.clock hnow, h.tokens, fun k x hx => h.operatorRows k x (hsub k x hx),
    fun k x hx => h.setupRows k x (hsetup ▸ hx), ?_, ?_⟩
  · refine h.operator.fade ⟨hnow, rfl, rfl, fun k => ?_, fun k hk => List.mem_cons_of_mem _ hk,
      fun k hk => ?_⟩
    · show expiries (·.ExpiresAt) st.operatorSessions k = _ ∨ _
      by_cases hk : k = id
      · refine Or.inr ⟨?_, Or.inl (hk ▸ List.mem_cons_self)⟩
        show expiries (·.ExpiresAt) st.operatorSessions k = none
        rw [expiries, hput, hk, set_self, Option.map_none]
      · refine Or.inl ?_
        show _ = expiries (·.ExpiresAt) σ.store.operatorSessions k
        rw [expiries, hput, set_apply, if_neg hk, expiries]
    · rcases List.mem_cons.1 hk with rfl | hk
      · obtain ⟨x, hx⟩ := Option.isSome_iff_exists.1 hrow
        refine Or.inr ⟨?_, x.ExpiresAt.nanos, ?_⟩
        · show expiries (·.ExpiresAt) st.operatorSessions k = none
          rw [expiries, hput, set_self, Option.map_none]
        · show expiries (·.ExpiresAt) σ.store.operatorSessions k = _
          rw [expiries, hx, Option.map_some]
      · exact Or.inl hk
  · have hfade : RowsFade SetupSession.ExpiresAt σ.store.setupSessions st.setupSessions st.now :=
      .of_eq hsetup
    exact h.setup.fade (.of_rows hnow rfl rfl rfl (rows_of_fade hfade))

/-- A fresh token collides with none that was drawn. -/
theorem fresh_name (h : σ.Sound s) {bytes₀ : Vector UInt8 32}
    (hfresh : ∀ t ∈ σ.drawn, s.sha256 (bytes t) ≠ s.sha256 (bytes (tokenText bytes₀))) {t : String}
    (ht : t ∈ σ.drawn) : s.sha256HexTrimmed t ≠ s.sha256HexTrimmed (tokenText bytes₀) := by
  intro heq
  obtain ⟨b, rfl⟩ := h.tokens t ht
  exact hfresh _ ht (sha256_of_name (tokenText_trimmed _) (tokenText_ne_empty _)
    (tokenText_trimmed _) (tokenText_ne_empty _) heq)

theorem kept_of_put {α : Type} {rows rows' : String → Option α} {good : α → Prop}
    {P : String → α → Prop} {id : String} (hgood : ∀ x, good x → P id x)
    (hput : rows' = rows ∨ ∃ x, good x ∧ rows' = set rows id (some x))
    (hrows : ∀ k x, rows k = some x → P k x) (k : String) (x : α) (hx : rows' k = some x) : P k x := by
  rcases hput with rfl | ⟨y, hy, rfl⟩
  · exact hrows k x hx
  · rw [set_apply] at hx
    split_ifs at hx with hk
    · cases hx
      exact hk ▸ hgood _ hy
    · exact hrows k x hx

/-- The rows of a book after a session may have been put. -/
theorem rows_of_put {α : Type} (expiresAt : α → Time) {rows rows' : String → Option α} {id : String}
    {good : α → Prop} (hput : rows' = rows ∨ ∃ x, good x ∧ rows' = set rows id (some x)) :
    ∃ e, ∀ k, expiries expiresAt rows' k = expiries expiresAt rows k ∨
      (k = id ∧ expiries expiresAt rows' k = some e) := by
  rcases hput with rfl | ⟨x, -, rfl⟩
  · exact ⟨0, fun k => Or.inl rfl⟩
  · exact ⟨(expiresAt x).nanos, fun k => expiries_set k⟩

theorem tokens_cons {b : Vector UInt8 32} (h : ∀ t ∈ σ.drawn, ∃ b, t = tokenText b)
    {ts : List String} (hts : ∀ t ∈ ts, t = tokenText b ∨ t ∈ σ.drawn) :
    ∀ t ∈ ts, ∃ b, t = tokenText b := fun t ht => (hts t ht).elim (fun hb => ⟨b, hb⟩) (h t)

theorem Sound.issueOperator (h : σ.Sound s) {p : Handler (Result (String × Time))}
    {b : Vector UInt8 32} (hfresh : ∀ t ∈ σ.drawn, s.sha256 (bytes t) ≠ s.sha256 (bytes (tokenText b)))
    (hp : wp (tokenEnv (tokenText b)) p (OpensOperator s (tokenText b) σ.store) σ.store)
    (ch : Nat → Choice) : Sound s (σ.issueOperator p (tokenText b) ch) := by
  have hspec := run_of_wp hp ch
  unfold Sessions.issueOperator
  generalize run (tokenEnv (tokenText b)) p ch σ.store = r at hspec ⊢
  obtain ⟨r, st⟩ := r
  dsimp only at hspec ⊢
  obtain ⟨hnow, hsetup, hrow, hanswer⟩ := hspec
  have hclock := Int.le_trans h.clock hnow
  have hops := kept_of_put (P := GoodSession) (fun x hx => hx) hrow
    h.operatorRows
  have hset : ∀ id x, st.setupSessions id = some x → GoodSetup s id x :=
    fun id x hx => h.setupRows id x (hsetup ▸ hx)
  have hfade : RowsFade SetupSession.ExpiresAt σ.store.setupSessions st.setupSessions st.now :=
    .of_eq hsetup
  have hname : ∀ u, σ.operatorBook.Drawn u →
      s.sha256HexTrimmed u ≠ s.sha256HexTrimmed (tokenText b) :=
    fun u hu => fresh_name h hfresh (drawn_operator hu)
  have hname' : ∀ u, σ.setupBook.Drawn u →
      s.sha256HexTrimmed u ≠ s.sha256HexTrimmed (tokenText b) :=
    fun u hu => fresh_name h hfresh (drawn_setup hu)
  have hhidden : Sound s { σ with store := st, hidden := tokenText b :: σ.hidden } := by
    obtain ⟨e, he⟩ := rows_of_put OperatorSession.ExpiresAt hrow
    refine ⟨hclock, tokens_cons (b := b) h.tokens fun t ht => ?_, hops, hset, ?_, ?_⟩
    · simp only [drawn, List.mem_append, List.mem_cons] at ht ⊢
      tauto
    · exact h.operator.draw (e := e) ⟨hnow, rfl, he, Or.inl ⟨rfl, rfl⟩⟩ hname
    · refine h.setup.draw (t := tokenText b) (e := 0) ⟨hnow, rfl, fun k => Or.inl ?_,
        Or.inl ⟨rfl, rfl⟩⟩ hname'
      show expiries _ st.setupSessions k = _
      rw [hsetup]
      rfl
  rcases r with e | e | a
  · exact hhidden
  · exact hhidden
  · obtain ⟨x, hx, rfl, hput⟩ := hanswer a rfl
    refine ⟨hclock, tokens_cons (b := b) h.tokens fun t ht => ?_, hops, hset, ?_, ?_⟩
    · simp only [drawn, List.map_cons, List.mem_append, List.mem_cons] at ht ⊢
      tauto
    · refine h.operator.draw (t := tokenText b) (e := x.ExpiresAt.nanos) ⟨hnow, rfl, fun k => ?_,
        Or.inr ⟨rfl, rfl, ?_⟩⟩ hname
      · show expiries _ st.operatorSessions k = _ ∨ _ ∧ expiries _ st.operatorSessions k = _
        rw [hput]
        exact expiries_set k
      · show expiries _ st.operatorSessions _ = _
        rw [hput, expiries, set_self, Option.map_some]
    · exact h.setup.fade (.of_rows hnow rfl rfl rfl (rows_of_fade hfade))

theorem Sound.issueSetup (h : σ.Sound s) {p : Handler (String × Time)} {b : Vector UInt8 32}
    (hfresh : ∀ t ∈ σ.drawn, s.sha256 (bytes t) ≠ s.sha256 (bytes (tokenText b)))
    (hp : wp (tokenEnv (tokenText b)) p (OpensSetup s (tokenText b) σ.store) σ.store)
    (ch : Nat → Choice) : Sound s (σ.issueSetup p (tokenText b) ch) := by
  have hspec := run_of_wp hp ch
  unfold Sessions.issueSetup
  generalize run (tokenEnv (tokenText b)) p ch σ.store = r at hspec ⊢
  obtain ⟨r, st⟩ := r
  dsimp only at hspec ⊢
  obtain ⟨hnow, hops, hrow, hanswer⟩ := hspec
  have hclock := Int.le_trans h.clock hnow
  have hset := kept_of_put (P := GoodSetup s) (fun x hx => hx) hrow h.setupRows
  have hop : ∀ id x, st.operatorSessions id = some x → GoodSession id x :=
    fun id x hx => h.operatorRows id x (hops ▸ hx)
  have hfade : RowsFade OperatorSession.ExpiresAt σ.store.operatorSessions st.operatorSessions
      st.now := .of_eq hops
  have hname : ∀ u, σ.operatorBook.Drawn u →
      s.sha256HexTrimmed u ≠ s.sha256HexTrimmed (tokenText b) :=
    fun u hu => fresh_name h hfresh (drawn_operator hu)
  have hname' : ∀ u, σ.setupBook.Drawn u →
      s.sha256HexTrimmed u ≠ s.sha256HexTrimmed (tokenText b) :=
    fun u hu => fresh_name h hfresh (drawn_setup hu)
  rcases r with e | a
  · obtain ⟨e, he⟩ := rows_of_put SetupSession.ExpiresAt hrow
    refine ⟨hclock, tokens_cons (b := b) h.tokens fun t ht => ?_, hop, hset, ?_, ?_⟩
    · simp only [drawn, List.mem_append, List.mem_cons] at ht ⊢
      tauto
    · refine h.operator.draw (t := tokenText b) (e := 0) ⟨hnow, rfl, fun k => Or.inl ?_,
        Or.inl ⟨rfl, rfl⟩⟩ hname
      show expiries _ st.operatorSessions k = _
      rw [hops]
      rfl
    · exact h.setup.draw (e := e) ⟨hnow, rfl, he, Or.inl ⟨rfl, rfl⟩⟩ hname'
  · obtain ⟨x, hx, rfl, hput⟩ := hanswer a rfl
    refine ⟨hclock, tokens_cons (b := b) h.tokens fun t ht => ?_, hop, hset, ?_, ?_⟩
    · simp only [drawn, List.map_cons, List.mem_append, List.mem_cons] at ht ⊢
      tauto
    · exact h.operator.fade (.of_rows hnow rfl rfl rfl (rows_of_fade hfade))
    · refine h.setup.draw (t := tokenText b) (e := x.ExpiresAt.nanos) ⟨hnow, rfl, fun k => ?_,
        Or.inr ⟨rfl, rfl, ?_⟩⟩ hname'
      · show expiries _ st.setupSessions k = _ ∨ _ ∧ expiries _ st.setupSessions k = _
        rw [hput]
        exact expiries_set k
      · show expiries _ st.setupSessions _ = _
        rw [hput, expiries, set_self, Option.map_some]

theorem Sound.logout (h : σ.Sound s) (requestID authorization : String) (ch : Nat → Choice) :
    Sound s (σ.logout s requestID authorization ch) := by
  have hspec := run_of_wp (wp_OperatorAuthHook (s := s) h.named authorization) ch
  unfold Sessions.logout
  generalize run sessionEnv (s.OperatorAuthHook authorization) ch σ.store = hook at hspec ⊢
  obtain ⟨r, st⟩ := hook
  obtain ⟨hfades, hauth⟩ := hspec
  dsimp only at hfades hauth ⊢
  rcases r with e | _ | auth
  · exact h.fades hfades
  · exact h.fades hfades
  · obtain ⟨hkept, -⟩ := hauth auth rfl
    have hdone := run_of_wp (s := st) (wp_handleAuthLogout requestID auth) fun n => ch (n + 4)
    dsimp only
    generalize (run sessionEnv (Server.handleAuthLogout requestID auth) (fun n => ch (n + 4)) st).2
      = st' at hdone ⊢
    obtain ⟨hnow, hsetup, hops⟩ := hdone
    rw [hkept.operator] at hops ⊢
    have hdone : LogoutDone (TrimSpace auth.sessionID) σ.store st' :=
      ⟨Int.le_trans hkept.now hnow, hsetup.trans hkept.setup, hops⟩
    split_ifs with hgone
    · exact h.loggedOut hdone hgone.1 hgone.2
    · refine h.fades (Kept.fades ⟨hdone.1, ?_, hdone.2.1⟩)
      rcases hops with hsame | hput
      · exact hsame
      · have hnone : σ.store.operatorSessions (TrimSpace auth.sessionID) = none := by
          cases hrow : σ.store.operatorSessions (TrimSpace auth.sessionID) with
          | none => rfl
          | some x => exact absurd ⟨by rw [hrow]; rfl, by rw [hput, set_self]; rfl⟩ hgone
        rw [hput]
        funext k
        rw [set_apply]
        split_ifs with hk
        · rw [hk, hnone]
        · rfl

/-- The rows that the table's own expiry removes have expired to the second. -/
theorem swept_fade {α : Type} {expiresAt : α → Time} {rows : String → Option α} {now : Time}
    (id : String) : RowsFade expiresAt rows (set rows id (swept expiresAt now (rows id))) now := by
  intro k
  rw [set_apply]
  split_ifs with hk
  · subst hk
    cases hrow : rows k with
    | none => exact Or.inl rfl
    | some x =>
        by_cases hexp : (expiresAt x).nanos / Second < now.nanos / Second
        · refine Or.inr ⟨by simp [swept, hexp], fun y hy => ?_⟩
          cases hy
          simp only [Second] at hexp
          omega
        · exact Or.inl (by simp [swept, hexp])
  · exact Or.inl rfl

theorem Sound.step (h : σ.Sound s) {m : SessionMove} (hfresh : m.Fresh s σ) : Sound s (σ.step s m) := by
  obtain ⟨req, b, ch⟩ := m
  obtain ⟨htoken, hothers⟩ := hfresh
  cases req with
  | createOperatorSession username role method =>
      exact h.issueOperator htoken (wp_createOperatorSession h.clock username role method) ch
  | transactOperatorSession others username role method =>
      exact h.issueOperator htoken (wp_transactOperatorSession h.clock hothers username role method) ch
  | setupBootstrapVerify body =>
      exact h.issueSetup htoken (wp_handleSetupBootstrapVerify h.clock body) ch
  | authenticate authorization =>
      exact h.fades (run_of_wp (wp_OperatorAuthHook h.named authorization) ch).1
  | logout requestID authorization => exact h.logout requestID authorization ch
  | setupAuthenticate ctx => exact h.fades (run_of_wp (wp_requireSetupSession h.named ctx) ch)
  | elsewhere store => exact h.fades (Kept.fades ⟨Int.le_refl _, rfl, rfl⟩)
  | sweep id => exact h.fades ⟨Int.le_refl _, swept_fade id, swept_fade id⟩
  | wait nanos =>
      refine h.fades (Kept.fades ⟨?_, rfl, rfl⟩)
      show σ.store.now.nanos ≤ σ.store.now.nanos + (nanos : Int)
      omega

theorem Sound.run (h : σ.Sound s) {ms : List SessionMove}
    (hfresh : Along (Sessions.step s) (fun σ m => m.Fresh s σ) σ ms) :
    Sound s (ms.foldl (Sessions.step s) σ) := by
  induction ms generalizing σ with
  | nil => exact h
  | cons m ms ih => exact ih (h.step hfresh.1) hfresh.2

theorem Sound.initial (h : σ.Initial) : Sound s σ := by
  obtain ⟨hops, hsetup, hclock, hoperator, hsetups, hhidden, hout⟩ := h
  refine ⟨hclock, ?_, ?_, ?_, ⟨?_, ?_, ?_⟩, ⟨?_, ?_, ?_⟩⟩
  · simp [drawn, hoperator, hsetups, hhidden]
  · intro id x hx
    rw [hops] at hx
    cases hx
  · intro id x hx
    rw [hsetup] at hx
    cases hx
  · simp [operatorBook, expiries, hops]
  · simp [operatorBook, log, hoperator]
  · simp [operatorBook, hout]
  · simp [setupBook, expiries, hsetup]
  · simp [setupBook, log, hsetups]
  · simp [setupBook]

end Steps

end Sessions

/-! ## Who is let in -/

/-- The row that the first of the names finds. -/
def firstRow {α : Type} (rows : String → Option α) : List String → Option α
  | [] => none
  | candidate :: rest =>
      if TrimSpace candidate = "" then firstRow rows rest
      else (rows (TrimSpace candidate)).or (firstRow rows rest)

section Calm

variable {s : Server} {st : Store}

/-- Nothing fails, and no time passes. -/
def calmSessionEnv : Env SessionOp SessionOp.Res Store Choice :=
  ⟨fun o _ st => sessionHandle o (.ok "") st⟩

theorem run_calmSession {α : Type} (p : SessionHandler α) (st : Store) :
    run sessionEnv p (fun _ => .ok "") st = run calmSessionEnv p (fun _ => .ok "") st :=
  run_always sessionEnv (.ok "") p st

theorem add_elapsed_ok (st : Store) : st.now.Add (Choice.ok "").elapsed = st.now := by
  simp [Choice.ok, Time.Add]

theorem calm_findOperatorSession (candidates : List String) :
    wp calmSessionEnv (findOperatorSession candidates) (fun r st' =>
      r = .ok (firstRow st.operatorSessions candidates) ∧ st' = st) st := by
  induction candidates with
  | nil => exact (wp_pure _).2 ⟨rfl, rfl⟩
  | cons candidate rest ih =>
      unfold findOperatorSession firstRow
      dsimp only
      split_ifs with hid
      · exact ih
      · rw [wp_bind]
        refine wp_op.2 fun c => (wp_ret _).2 ?_
        have hh : calmSessionEnv.handle (.firstOperatorSession (TrimSpace candidate)) c st
            = (lookup (st.operatorSessions (TrimSpace candidate)), st) := rfl
        rw [hh]
        cases st.operatorSessions (TrimSpace candidate) with
        | none => exact ih
        | some x => exact (wp_pure _).2 ⟨rfl, rfl⟩

theorem calm_OperatorAuthHook (st : Store) (authorization : String) :
    wp calmSessionEnv (s.OperatorAuthHook authorization) (fun r _ =>
      r = .ok (if BearerToken authorization = "" then none
        else (firstRow st.operatorSessions [s.sha256HexTrimmed (BearerToken authorization),
          BearerToken authorization]).bind fun x =>
            if pastExpiry x.ExpiresAt st.now then none else some (Authenticated.of x))) st := by
  unfold Server.OperatorAuthHook
  dsimp only
  split_ifs with hempty
  · exact (wp_pure _).2 rfl
  · refine wp_bind_of (calm_findOperatorSession _) ?_ fun e st' h => by cases h.1
    rintro r st' ⟨hr, rfl⟩
    rw [← Except.ok.inj hr]
    cases r with
    | none => exact (wp_pure _).2 rfl
    | some x =>
        rw [wp_bind]
        refine wp_op.2 fun c => (wp_ret _).2 ?_
        have hh : calmSessionEnv.handle (.store .now) c st' = (st'.now, st') := by
          show ((st'.now.Add (Choice.ok "").elapsed, { st' with now := _ }) : Time × Store) = _
          rw [add_elapsed_ok]
        rw [hh]
        dsimp only [Option.bind_some]
        split_ifs with hpast
        · rw [wp_bind]
          exact wp_op.2 fun c => (wp_ret _).2 ((wp_pure _).2 rfl)
        · exact (wp_pure _).2 rfl

theorem accepts_iff (authorization id : String) :
    s.Accepts st authorization id ↔ BearerToken authorization ≠ "" ∧
      ∃ x, firstRow st.operatorSessions [s.sha256HexTrimmed (BearerToken authorization),
        BearerToken authorization] = some x ∧ pastExpiry x.ExpiresAt st.now = false ∧
        TrimSpace x.ID = id := by
  have hrun := run_of_wp (calm_OperatorAuthHook (s := s) st authorization)
    (fun _ => Choice.ok "")
  rw [← run_calmSession] at hrun
  simp only [Server.Accepts, hrun, Except.ok.injEq]
  split_ifs with hempty
  · simp [hempty]
  · cases firstRow st.operatorSessions [s.sha256HexTrimmed (BearerToken authorization),
      BearerToken authorization] with
    | none => simp
    | some x =>
        cases hpast : pastExpiry x.ExpiresAt st.now with
        | true => simp [hpast]
        | false => simp [hpast, hempty, Authenticated.of]

theorem calm_findSetupSession (candidates : List String) :
    wp (calmEnv "") (Server.findSetupSession candidates) (fun r st' =>
      r.toOption = firstRow st.setupSessions candidates ∧ st' = st) st := by
  induction candidates with
  | nil => exact (wp_fail _).2 ⟨rfl, rfl⟩
  | cons candidate rest ih =>
      unfold Server.findSetupSession firstRow
      dsimp only
      split_ifs with hid
      · exact ih
      · rw [wp_bind]
        refine wp_op.2 fun c => (wp_ret _).2 ?_
        have hh : (calmEnv "").handle (.getSetupSession (TrimSpace candidate)) c st
            = (lookup (st.setupSessions (TrimSpace candidate)), st) := rfl
        rw [hh]
        cases st.setupSessions (TrimSpace candidate) with
        | none => exact ih
        | some x => exact (wp_pure _).2 ⟨rfl, rfl⟩

theorem calm_requireSetupSession (st : Store) (ctx : Context) :
    wp (calmEnv "") (s.requireSetupSession ctx) (fun r _ =>
      r.toOption = if ctx.bearerToken = "" then none
        else (firstRow st.setupSessions [s.sha256HexTrimmed ctx.bearerToken, ctx.bearerToken]).bind
          fun x =>
            if pastExpiry x.ExpiresAt st.now then none
            else if TrimSpace x.Purpose ≠ setupPurposeBootstrap then none
            else if s.bootstrapWallet = "" ∨ ToLower (TrimSpace x.WalletAddr) ≠ s.bootstrapWallet then
              none
            else some x) st := by
  unfold Server.requireSetupSession
  split_ifs with hempty
  · exact (wp_fail _).2 rfl
  · refine wp_bind_of (calm_findSetupSession _) ?_ ?_
    · rintro x st' ⟨hx, rfl⟩
      rw [← hx]
      rw [wp_bind]
      refine wp_op.2 fun c => (wp_ret _).2 ?_
      have hh : (calmEnv "").handle .now c st' = (st'.now, st') := by
        show ((st'.now.Add (Choice.ok "").elapsed, { st' with now := _ }) : Time × Store) = _
        rw [add_elapsed_ok]
      rw [hh]
      have hpast : pastExpiry x.ExpiresAt st'.now = true ↔
          x.ExpiresAt.IsZero = false ∧ st'.now.After x.ExpiresAt = true := by
        simp [pastExpiry]
      simp only [Except.toOption, Option.bind_some, hpast]
      split_ifs with h₁ h₂ h₃
      · rw [wp_bind]
        exact wp_op.2 fun c => (wp_ret _).2 ((wp_fail _).2 rfl)
      · exact (wp_fail _).2 rfl
      · exact (wp_fail _).2 rfl
      · exact (wp_pure _).2 rfl
    · rintro e st' ⟨hx, -⟩
      rw [← hx]
      rfl

theorem acceptsSetup_iff (authorization id : String) :
    s.AcceptsSetup st authorization id ↔ BearerToken authorization ≠ "" ∧
      ∃ x, firstRow st.setupSessions [s.sha256HexTrimmed (BearerToken authorization),
        BearerToken authorization] = some x ∧ pastExpiry x.ExpiresAt st.now = false ∧
        (TrimSpace x.Purpose = setupPurposeBootstrap ∧ s.bootstrapWallet ≠ "" ∧
          ToLower (TrimSpace x.WalletAddr) = s.bootstrapWallet) ∧ x.ID = id := by
  have hrun := run_of_wp (calm_requireSetupSession (s := s) st
    ⟨"", "", "", BearerToken authorization⟩) (fun _ => Choice.ok "")
  rw [← run_calm] at hrun
  have hok : ∀ {r : Except AppTheoryError SetupSession} {x}, r = .ok x ↔ r.toOption = some x := by
    intro r x
    cases r <;> simp [Except.toOption]
  simp only [Server.AcceptsSetup, hok, hrun]
  split_ifs with hempty
  · simp [hempty]
  · generalize firstRow st.setupSessions [s.sha256HexTrimmed (BearerToken authorization),
      BearerToken authorization] = row
    cases row with
    | none => simp
    | some x =>
        simp only [Option.bind_some, Option.some.injEq, exists_eq_left', ne_eq, hempty,
          not_false_eq_true, true_and]
        constructor
        · rintro ⟨y, hy, hid⟩
          split_ifs at hy with h₁ h₂ h₃
          cases hy
          rw [not_or, not_not] at h₃
          exact ⟨by simpa using h₁, ⟨h₂, h₃.1, h₃.2⟩, hid⟩
        · rintro ⟨hpast, ⟨hpurpose, hwallet, haddr⟩, hid⟩
          refine ⟨x, ?_, hid⟩
          rw [if_neg (by simp [hpast]), if_neg (by simp [hpurpose]), if_neg (by simp [hwallet, haddr])]

end Calm

/-! ## The law -/

/-- A table of sessions of one kind obeys the law for a text unless the text names a live row. -/
theorem law_iff {α : Type} {s : Server} {rows : String → Option α} (expiresAt : α → Time)
    (ident : α → String) {tokens : List (String × Time)} {revoked : List String} {now : Time}
    {t : String} (htrim : TrimSpace t = t)
    (hident : ∀ id x, rows id = some x → ident x = id)
    (hname : ∀ id x, rows id = some x → ∃ b, id = s.sha256HexTrimmed (tokenText b))
    (htoken : ∀ x, rows (s.sha256HexTrimmed t) = some x → ∃ b, t = tokenText b)
    (hgood : (∃ x, rows (s.sha256HexTrimmed t) = some x ∧ now.After (expiresAt x) = false) ↔
      ∃ a, (t, a) ∈ tokens ∧ s.sha256HexTrimmed t ∉ revoked ∧ now.After a = false) :
    (∀ id, (t ≠ "" ∧ ∃ x, firstRow rows [s.sha256HexTrimmed t, t] = some x ∧
        now.After (expiresAt x) = false ∧ ident x = id) ↔
      ∃ a, (t, a) ∈ tokens ∧ id = s.sha256HexTrimmed t ∧ id ∉ revoked ∧ now.After a = false) ↔
    ¬ ∃ x, rows t = some x ∧ now.After (expiresAt x) = false := by
  -- what the law grants is what the row under the hash grants
  have hgranted : ∀ id, (∃ a, (t, a) ∈ tokens ∧ id = s.sha256HexTrimmed t ∧ id ∉ revoked ∧
      now.After a = false) ↔ id = s.sha256HexTrimmed t ∧
        ∃ x, rows (s.sha256HexTrimmed t) = some x ∧ now.After (expiresAt x) = false := by
    intro id
    rw [hgood]
    constructor
    · rintro ⟨a, ha, rfl, hrev, hlive⟩
      exact ⟨rfl, a, ha, hrev, hlive⟩
    · rintro ⟨rfl, a, ha, hrev, hlive⟩
      exact ⟨a, ha, rfl, hrev, hlive⟩
  have hnotName : (∃ b, t = tokenText b) ∨ t = "" → rows t = none := by
    intro ht
    by_contra hne
    obtain ⟨x, hx⟩ := Option.ne_none_iff_exists'.1 hne
    obtain ⟨b', hb'⟩ := hname t x hx
    rcases ht with ⟨b, rfl⟩ | rfl
    · exact token_ne_name b (tokenText_trimmed b') (tokenText_ne_empty b') hb'
    · exact name_ne_empty (tokenText_trimmed b') (tokenText_ne_empty b') hb'.symm
  simp only [hgranted]
  by_cases hempty : t = ""
  · have hnone := hnotName (Or.inr hempty)
    subst hempty
    have hname' : s.sha256HexTrimmed "" = "" := rfl
    simp [hname', hnone]
  · have hne : s.sha256HexTrimmed t ≠ "" := name_ne_empty htrim hempty
    have hfirst : firstRow rows [s.sha256HexTrimmed t, t]
        = (rows (s.sha256HexTrimmed t)).or (rows t) := by
      simp only [firstRow, name_trimmed, htrim, if_neg hne, if_neg hempty, Option.or_none]
    rw [hfirst]
    cases hrow : rows (s.sha256HexTrimmed t) with
    | some x =>
        have hnone := hnotName (Or.inl (htoken x hrow))
        simp only [Option.some_or, Option.some.injEq, exists_eq_left', hnone, reduceCtorEq, false_and,
          exists_false, not_false_eq_true, iff_true, hident _ x hrow]
        exact fun id => ⟨fun h => ⟨h.2.2.symm, h.2.1⟩, fun h => ⟨hempty, h.2, h.1.symm⟩⟩
    | none =>
        simp only [Option.none_or, reduceCtorEq, false_and, exists_false, and_false, iff_false]
        constructor
        · rintro h ⟨x, hx, hlive⟩
          exact h (ident x) ⟨hempty, x, hx, hlive, rfl⟩
        · rintro h id ⟨-, x, hx, hlive, -⟩
          exact h ⟨x, hx, hlive⟩

/-- What a sound book of sessions says of a text that nobody was denied. -/
theorem book_good {α : Type} {s : Server} (expiresAt : α → Time) {rows : String → Option α}
    {tokens : List (String × Time)} {hidden revoked : List String} {now : Time} {t : String}
    (h : (⟨Sessions.expiries expiresAt rows, Sessions.log tokens, hidden, revoked, now.nanos⟩ :
      Book String String).Sound s.sha256HexTrimmed) (ht : t ∉ hidden)
    (hcoll : ∀ u, (⟨Sessions.expiries expiresAt rows, Sessions.log tokens, hidden, revoked, now.nanos⟩ :
      Book String String).Drawn u → s.sha256HexTrimmed u = s.sha256HexTrimmed t → u = t) :
    (∃ x, rows (s.sha256HexTrimmed t) = some x ∧ now.After (expiresAt x) = false) ↔
      ∃ a, (t, a) ∈ tokens ∧ s.sha256HexTrimmed t ∉ revoked ∧ now.After a = false := by
  constructor
  · rintro ⟨x, hx, hlive⟩
    have hlive' : ¬ (expiresAt x).nanos < now.nanos := by
      simpa [Time.After] using hlive
    obtain ⟨hlog, hrev, -⟩ := (h.row_iff ht hcoll).1
      ⟨by show Sessions.expiries expiresAt rows _ = _; rw [Sessions.expiries, hx, Option.map_some], hlive'⟩
    obtain ⟨a, ha, heq⟩ := Sessions.mem_log.1 hlog
    refine ⟨a, ha, hrev, ?_⟩
    simpa [Time.After, heq] using hlive'
  · rintro ⟨a, ha, hrev, hlive⟩
    have hlive' : ¬ a.nanos < now.nanos := by
      simpa [Time.After] using hlive
    obtain ⟨hrow, -⟩ := (h.row_iff ht hcoll).2 ⟨Sessions.mem_log.2 ⟨a, ha, rfl⟩, hrev, hlive'⟩
    obtain ⟨x, hx, heq⟩ := Option.map_eq_some_iff.1 hrow
    refine ⟨x, hx, ?_⟩
    simpa [Time.After, heq] using hlive'

section Law

variable {s : Server} {σ : Sessions}

/-- A live row is not past its expiry, which was set. -/
theorem pastExpiry_eq {expiresAt now : Time} (h : 0 < expiresAt.nanos) :
    pastExpiry expiresAt now = now.After expiresAt := by
  have hset : expiresAt.IsZero = false := by
    simp only [Time.IsZero, beq_eq_false_iff_ne]
    omega
  simp [pastExpiry, hset]

theorem firstRow_mem {α : Type} {rows : String → Option α} {x : α} :
    ∀ {candidates : List String}, firstRow rows candidates = some x → ∃ id, rows id = some x
  | candidate :: rest, h => by
      unfold firstRow at h
      split_ifs at h with hid
      · exact firstRow_mem h
      · rcases Option.or_eq_some_iff.1 h with hrow | ⟨-, hrest⟩
        · exact ⟨_, hrow⟩
        · exact firstRow_mem hrest

namespace Sessions

theorem row_name {α : Type} {expiresAt : α → Time} {rows : String → Option α} {b : Book String String}
    (hrows : b.rows = expiries expiresAt rows) (hb : b.Sound s.sha256HexTrimmed) {id : String} {x : α}
    (hx : rows id = some x) : ∃ u, id = s.sha256HexTrimmed u ∧ b.Drawn u :=
  hb.drawn_of_row (e := (expiresAt x).nanos) (by rw [hrows, expiries, hx, Option.map_some])

theorem Sound.operator_name (h : σ.Sound s) {id : String} {x : OperatorSession}
    (hx : σ.store.operatorSessions id = some x) :
    ∃ b, tokenText b ∈ σ.drawn ∧ id = s.sha256HexTrimmed (tokenText b) := by
  obtain ⟨u, hu, hdrawn⟩ := row_name rfl h.operator hx
  obtain ⟨b, rfl⟩ := h.tokens u (drawn_operator hdrawn)
  exact ⟨b, drawn_operator hdrawn, hu⟩

theorem Sound.setup_name (h : σ.Sound s) {id : String} {x : SetupSession}
    (hx : σ.store.setupSessions id = some x) :
    ∃ b, tokenText b ∈ σ.drawn ∧ id = s.sha256HexTrimmed (tokenText b) := by
  obtain ⟨u, hu, hdrawn⟩ := row_name rfl h.setup hx
  obtain ⟨b, rfl⟩ := h.tokens u (drawn_setup hdrawn)
  exact ⟨b, drawn_setup hdrawn, hu⟩

variable {t : String}

theorem Sound.operator_law (h : σ.Sound s) (htrim : TrimSpace t = t) (hhidden : t ∉ σ.hidden)
    (hcoll : ∀ u ∈ σ.drawn, s.sha256HexTrimmed u = s.sha256HexTrimmed t → u = t) :
    (∀ id, (t ≠ "" ∧ ∃ x, firstRow σ.store.operatorSessions [s.sha256HexTrimmed t, t] = some x ∧
        pastExpiry x.ExpiresAt σ.store.now = false ∧ TrimSpace x.ID = id) ↔
      ∃ a, (t, a) ∈ σ.operatorTokens ∧ id = s.sha256HexTrimmed t ∧ id ∉ σ.loggedOut ∧
        σ.store.now.After a = false) ↔
    ¬ ∃ x, σ.store.operatorSessions t = some x ∧ σ.store.now.After x.ExpiresAt = false := by
  rw [← law_iff OperatorSession.ExpiresAt (fun x => TrimSpace x.ID) htrim ?_ ?_ ?_
    (book_good OperatorSession.ExpiresAt h.operator hhidden fun u hu => hcoll u (drawn_operator hu))]
  · refine forall_congr' fun id => iff_congr ?_ Iff.rfl
    refine and_congr_right fun _ => exists_congr fun x => and_congr_right fun hx => ?_
    obtain ⟨k, hk⟩ := firstRow_mem hx
    rw [pastExpiry_eq (h.operatorRows k x hk).2]
  · intro id x hx
    obtain ⟨b, -, hb⟩ := h.operator_name hx
    show TrimSpace x.ID = id
    rw [(h.operatorRows id x hx).1, hb, name_trimmed]
  · intro id x hx
    obtain ⟨b, -, hb⟩ := h.operator_name hx
    exact ⟨b, hb⟩
  · intro x hx
    obtain ⟨b, hmem, hb⟩ := h.operator_name hx
    exact ⟨b, (hcoll _ hmem hb.symm).symm⟩

theorem Sound.setup_law (h : σ.Sound s) (htrim : TrimSpace t = t) (hhidden : t ∉ σ.hidden)
    (hcoll : ∀ u ∈ σ.drawn, s.sha256HexTrimmed u = s.sha256HexTrimmed t → u = t) :
    (∀ id, (t ≠ "" ∧ ∃ x, firstRow σ.store.setupSessions [s.sha256HexTrimmed t, t] = some x ∧
        pastExpiry x.ExpiresAt σ.store.now = false ∧
        (TrimSpace x.Purpose = setupPurposeBootstrap ∧ s.bootstrapWallet ≠ "" ∧
          ToLower (TrimSpace x.WalletAddr) = s.bootstrapWallet) ∧ x.ID = id) ↔
      ∃ a, (t, a) ∈ σ.setupTokens ∧ id = s.sha256HexTrimmed t ∧ σ.store.now.After a = false) ↔
    ¬ ∃ x, σ.store.setupSessions t = some x ∧ σ.store.now.After x.ExpiresAt = false := by
  rw [← law_iff SetupSession.ExpiresAt SetupSession.ID htrim ?_ ?_ ?_
    (book_good SetupSession.ExpiresAt h.setup hhidden fun u hu => hcoll u (drawn_setup hu))]
  · refine forall_congr' fun id => iff_congr ?_ (by simp)
    refine and_congr_right fun _ => exists_congr fun x => and_congr_right fun hx => ?_
    obtain ⟨k, hk⟩ := firstRow_mem hx
    have hrow := h.setupRows k x hk
    have hlower : ToLower (TrimSpace s.bootstrapWallet) = s.bootstrapWallet := by
      rw [Server.bootstrapWallet, TrimSpace_ToLower_TrimSpace, ToLower_idem]
    have hpurpose : TrimSpace setupPurposeBootstrap = setupPurposeBootstrap := by decide
    rw [pastExpiry_eq hrow.expires, hrow.purpose, hrow.wallet, hlower, hpurpose]
    simp [hrow.configured]
  · exact fun id x hx => (h.setupRows id x hx).id
  · intro id x hx
    obtain ⟨b, -, hb⟩ := h.setup_name hx
    exact ⟨b, hb⟩
  · intro x hx
    obtain ⟨b, hmem, hb⟩ := h.setup_name hx
    exact ⟨b, (hcoll _ hmem hb.symm).symm⟩

/-- Hashes that do not collide make names that do not. -/
theorem Sound.collision (h : σ.Sound s) (htrim : TrimSpace t = t)
    (hcollision : ∀ token ∈ σ.drawn, s.sha256 (bytes token) = s.sha256 (bytes t) → token = t) :
    ∀ u ∈ σ.drawn, s.sha256HexTrimmed u = s.sha256HexTrimmed t → u = t := by
  intro u hu heq
  obtain ⟨b, rfl⟩ := h.tokens u hu
  by_cases hempty : t = ""
  · subst hempty
    exact absurd heq (name_ne_empty (tokenText_trimmed b) (tokenText_ne_empty b))
  · exact hcollision _ hu (sha256_of_name (tokenText_trimmed b) (tokenText_ne_empty b) htrim hempty heq)

theorem Sound.law (h : σ.Sound s) {authorization : String}
    (hhidden : BearerToken authorization ∉ σ.hidden)
    (hcollision : ∀ token ∈ σ.drawn,
      s.sha256 (bytes token) = s.sha256 (bytes (BearerToken authorization)) →
        token = BearerToken authorization) :
    s.OnlyIssuedTokens σ authorization ↔ ¬ σ.store.NamesSession (BearerToken authorization) := by
  have htrim := BearerToken_trimmed authorization
  have hcoll := h.collision htrim hcollision
  unfold Server.OnlyIssuedTokens Store.NamesSession
  simp only [accepts_iff, acceptsSetup_iff]
  rw [not_or, h.operator_law htrim hhidden hcoll, h.setup_law htrim hhidden hcoll]

end Sessions

end Law

/-- In every run with fresh tokens, a bearer token that nobody can guess authenticates as the session
    it was issued for and as no other, exactly when it is not itself the name of a live session. -/
theorem only_issued_tokens_iff (s : Server) {σ : Sessions} (hσ : σ.Initial) (ms : List SessionMove)
    (hfresh : Along (Sessions.step s) (fun σ m => m.Fresh s σ) σ ms) (authorization : String)
    (hguess : BearerToken authorization ∉ (ms.foldl (Sessions.step s) σ).hidden)
    (hcollision : ∀ token ∈ (ms.foldl (Sessions.step s) σ).drawn,
      s.sha256 (bytes token) = s.sha256 (bytes (BearerToken authorization)) →
        token = BearerToken authorization) :
    s.OnlyIssuedTokens (ms.foldl (Sessions.step s) σ) authorization ↔
      ¬ (ms.foldl (Sessions.step s) σ).store.NamesSession (BearerToken authorization) :=
  ((Sessions.Sound.initial hσ).run hfresh).law hguess hcollision

/-! ### The hash as a token -/

def zeroBytes : Vector UInt8 32 := .replicate 32 0

/-- SHA-256 of the token of `zeroBytes`, and of that hash in hexadecimal. -/
def sampleSha256 : Sha256 := fun text =>
  if text = bytes (tokenText zeroBytes) then
    #v[0x0f, 0x00, 0x73, 0x85, 0xb6, 0xf9, 0xd4, 0xb7, 0xee, 0xb2, 0x74, 0x86,
      0x05, 0xaf, 0xe1, 0xa9, 0x84, 0xa0, 0xa3, 0xbf, 0xa3, 0xf0, 0x14, 0xd0,
      0x9e, 0x2a, 0x78, 0x4c, 0xe9, 0xe5, 0xcd, 0x1a]
  else
    #v[0xa7, 0x2e, 0x8a, 0xbc, 0x4b, 0x14, 0xad, 0xcc, 0xe2, 0x05, 0x11, 0x2e,
      0x29, 0xf7, 0xa4, 0x0e, 0x77, 0x51, 0x76, 0xc3, 0x03, 0x45, 0x2e, 0xee,
      0x81, 0x2c, 0x14, 0x58, 0x86, 0xa3, 0x28, 0x3f]

def tokenServer : Server := { sampleServer with sha256 := sampleSha256 }

def noSessions : Sessions := ⟨.empty sampleNow, [], [], [], []⟩

/-- One login of a user. -/
def sampleLogins : List SessionMove :=
  [(.createOperatorSession "alice" RoleCustomer "wallet", zeroBytes, fun _ => .ok "")]

/-- The header that presents the name under which the session is stored. -/
def sampleHash : String := "Bearer 0f007385b6f9d4b7eeb2748605afe1a984a0a3bfa3f014d09e2a784ce9e5cd1a"

theorem noSessions_initial : noSessions.Initial :=
  ⟨fun _ => rfl, fun _ => rfl, by decide, rfl, rfl, rfl, rfl⟩

theorem sampleLogins_fresh :
    Along (Sessions.step tokenServer) (fun σ m => m.Fresh tokenServer σ) noSessions sampleLogins :=
  ⟨⟨fun _ h => (List.not_mem_nil h).elim, trivial⟩, trivial⟩

def afterLogin : Sessions := sampleLogins.foldl (Sessions.step tokenServer) noSessions

theorem afterLogin_hidden : afterLogin.hidden = [] := by decide

theorem afterLogin_drawn : afterLogin.drawn = [tokenText zeroBytes] := by decide

/-- The row of the session is found under its name, and lives. -/
theorem afterLogin_names : afterLogin.store.NamesSession (BearerToken sampleHash) := by
  have hrow : (afterLogin.store.operatorSessions (BearerToken sampleHash)).any
      (fun x => !afterLogin.store.now.After x.ExpiresAt) = true := by decide
  obtain ⟨x, hx, hlive⟩ := (Option.any_eq_true _ _).1 hrow
  exact Or.inl ⟨x, hx, by simpa using hlive⟩

/-- Whoever has read the table presents the stored hash and is let in. -/
theorem not_only_issued_tokens :
    ¬ ∀ (s : Server) (σ : Sessions), σ.Initial → ∀ ms : List SessionMove,
      Along (Sessions.step s) (fun σ m => m.Fresh s σ) σ ms → ∀ authorization : String,
      BearerToken authorization ∉ (ms.foldl (Sessions.step s) σ).hidden →
      (∀ token ∈ (ms.foldl (Sessions.step s) σ).drawn,
        s.sha256 (bytes token) = s.sha256 (bytes (BearerToken authorization)) →
          token = BearerToken authorization) →
      s.OnlyIssuedTokens (ms.foldl (Sessions.step s) σ) authorization := by
  intro h
  have hguess : BearerToken sampleHash ∉ afterLogin.hidden := by
    rw [afterLogin_hidden]
    exact List.not_mem_nil
  have hcollision : ∀ token ∈ afterLogin.drawn,
      tokenServer.sha256 (bytes token) = tokenServer.sha256 (bytes (BearerToken sampleHash)) →
        token = BearerToken sampleHash := by
    intro token htoken
    rw [afterLogin_drawn, List.mem_singleton] at htoken
    rw [htoken]
    exact fun heq => absurd heq (by decide)
  have hlaw := ((Sessions.Sound.initial noSessions_initial).run sampleLogins_fresh).law hguess hcollision
  exact hlaw.1 (h tokenServer noSessions noSessions_initial sampleLogins sampleLogins_fresh sampleHash
    hguess hcollision) afterLogin_names

/-- The token itself, presented as it was returned. -/
theorem only_issued_tokens_iff_token :
    tokenServer.OnlyIssuedTokens afterLogin ("Bearer " ++ tokenText zeroBytes) := by
  have htoken : BearerToken ("Bearer " ++ tokenText zeroBytes) = tokenText zeroBytes := by decide
  refine (only_issued_tokens_iff tokenServer noSessions_initial sampleLogins sampleLogins_fresh _ ?_
    ?_).2 ?_
  · show _ ∉ afterLogin.hidden
    rw [afterLogin_hidden]
    exact List.not_mem_nil
  · intro token hmem _
    have hmem' : token ∈ afterLogin.drawn := hmem
    rw [afterLogin_drawn, List.mem_singleton] at hmem'
    rw [hmem', htoken]
  · have hnone : (afterLogin.store.operatorSessions (tokenText zeroBytes)).isNone = true := by decide
    rw [htoken]
    rintro (⟨x, hx, -⟩ | ⟨x, hx, -⟩)
    · have hx' : afterLogin.store.operatorSessions (tokenText zeroBytes) = some x := hx
      rw [hx'] at hnone
      cases hnone
    · cases hx

end LesserHost.ControlPlane
