import LesserHost.ControlPlane.Bearer
import LesserHost.ControlPlane.Takeover

set_option autoImplicit false

/-! # What the handlers of sessions do

The names of sessions and the texts of tokens never meet, opening a session puts one row, and who
authenticates or logs out takes at most one row away. -/

namespace LesserHost.ControlPlane

open LesserHost.Go Prog

/-! ## Tokens and names -/

theorem isSpace_of_ascii {b : UInt8} (h : 32 < b.toNat ∧ b.toNat < 128) :
    isSpace (Char.ofNat b.toNat) = false := by
  have hall : ∀ n : Fin 128, 32 < n.val → isSpace (Char.ofNat n.val) = false := by decide
  exact hall ⟨b.toNat, h.2⟩ h.1

theorem urlDigit_ascii {b : UInt8} (h : 32 < b.toNat ∧ b.toNat < 128) :
    32 < (urlDigit b).toNat ∧ (urlDigit b).toNat < 128 := by
  unfold urlDigit
  split_ifs
  · decide
  · decide
  · exact h

theorem tokenText_trimmed (drawn : Vector UInt8 32) :
    TrimSpace (tokenText drawn) = tokenText drawn := by
  refine IsTrimmed.TrimSpace_eq (Trimmed.of_forall fun c hc => ?_)
  simp only [tokenText, asciiText, String.toList_ofList, List.mem_map] at hc
  obtain ⟨-, ⟨b, hb, rfl⟩, rfl⟩ := hc
  exact isSpace_of_ascii (urlDigit_ascii (Base64.rawEncode_ascii b hb))

theorem tokenText_length (drawn : Vector UInt8 32) :
    0 < (tokenText drawn).toList.length ∧ (tokenText drawn).toList.length ≤ 44 := by
  have hlen : drawn.toList.length = 32 := by simp
  have hle := Base64.rawEncode_length_le drawn.toList
  have hne : Base64.rawEncode drawn.toList ≠ [] := by
    refine Base64.rawEncode_ne_nil fun h => ?_
    rw [h] at hlen
    cases hlen
  rw [hlen] at hle
  simp only [tokenText, asciiText, String.toList_ofList, List.length_map]
  exact ⟨List.length_pos_iff.2 hne, hle⟩

theorem tokenText_ne_empty (drawn : Vector UInt8 32) : tokenText drawn ≠ "" := by
  intro h
  have hlen := (tokenText_length drawn).1
  rw [h] at hlen
  exact absurd hlen (by decide)

theorem BearerToken_trimmed (authorization : String) :
    TrimSpace (BearerToken authorization) = BearerToken authorization := by
  unfold BearerToken
  split
  · split_ifs
    · exact TrimSpace_idem _
    · decide
  · decide

section Names

variable {s : Server} {t u : String}

theorem sha256HexTrimmed_of_ne (ht : TrimSpace t = t) (hne : t ≠ "") :
    s.sha256HexTrimmed t = String.ofList (hexEncode (s.sha256 (bytes t)).toList) := by
  simp only [Server.sha256HexTrimmed, ht, if_neg hne]

theorem name_trimmed (t : String) : TrimSpace (s.sha256HexTrimmed t) = s.sha256HexTrimmed t := by
  simp only [Server.sha256HexTrimmed]
  split_ifs
  · decide
  · exact TrimSpace_hex (hexEncode_hex _)

theorem name_length (ht : TrimSpace t = t) (hne : t ≠ "") :
    (s.sha256HexTrimmed t).toList.length = 64 := by
  rw [sha256HexTrimmed_of_ne ht hne, String.toList_ofList, hexEncode_length]
  simp

theorem name_ne_empty (ht : TrimSpace t = t) (hne : t ≠ "") : s.sha256HexTrimmed t ≠ "" := by
  intro h
  have hlen := name_length (s := s) ht hne
  rw [h] at hlen
  exact absurd hlen (by decide)

/-- Names tell hashes apart. -/
theorem sha256_of_name (ht : TrimSpace t = t) (hne : t ≠ "") (hu : TrimSpace u = u) (hne' : u ≠ "")
    (h : s.sha256HexTrimmed t = s.sha256HexTrimmed u) : s.sha256 (bytes t) = s.sha256 (bytes u) := by
  rw [sha256HexTrimmed_of_ne ht hne, sha256HexTrimmed_of_ne hu hne'] at h
  have hl := congrArg String.toList h
  rw [String.toList_ofList, String.toList_ofList] at hl
  exact Vector.toList_inj.1 (hexEncode_injective hl)

/-- No token is the name of a session. -/
theorem token_ne_name (drawn : Vector UInt8 32) (ht : TrimSpace t = t) (hne : t ≠ "") :
    tokenText drawn ≠ s.sha256HexTrimmed t := by
  intro h
  have hlen := (tokenText_length drawn).2
  rw [h, name_length ht hne] at hlen
  exact absurd hlen (by decide)

end Names

/-! ## What leaves the sessions alone -/

/-- The sessions are as they were, and time has passed. -/
structure Kept (st st' : Store) : Prop where
  now : st.now.nanos ≤ st'.now.nanos
  operator : st'.operatorSessions = st.operatorSessions
  setup : st'.setupSessions = st.setupSessions

section Kept

variable {st st' st'' : Store} {α : Type} {token : String}

theorem Kept.refl (st : Store) : Kept st st := ⟨Int.le_refl _, rfl, rfl⟩

theorem Kept.trans (h : Kept st st') (h' : Kept st' st'') : Kept st st'' :=
  ⟨Int.le_trans h.now h'.now, h'.operator.trans h.operator, h'.setup.trans h.setup⟩

def Op.sessionless : Op → Prop
  | .write ws => ws.all Write.sessionless = true
  | _ => True

theorem apply_sessionless {w : Write} (h : w.sessionless = true) (st : Store) :
    (w.apply st).operatorSessions = st.operatorSessions ∧
      (w.apply st).setupSessions = st.setupSessions ∧ (w.apply st).now = st.now := by
  cases w with
  | putOperatorSession | createOperatorSession | putSetupSession | deleteSetupSession =>
      exact absurd h (by simp [Write.sessionless])
  | _ => simp only [Write.apply, and_self]

theorem foldl_sessionless {ws : List Write} (h : ws.all Write.sessionless = true) (st : Store) :
    (ws.foldl Write.apply st).operatorSessions = st.operatorSessions ∧
      (ws.foldl Write.apply st).setupSessions = st.setupSessions ∧
      (ws.foldl Write.apply st).now = st.now := by
  induction ws generalizing st with
  | nil => exact ⟨rfl, rfl, rfl⟩
  | cons w ws ih =>
      rw [List.all_cons, Bool.and_eq_true] at h
      obtain ⟨hops, hsetup, hnow⟩ := apply_sessionless h.1 st
      obtain ⟨hops', hsetup', hnow'⟩ := ih h.2 (w.apply st)
      exact ⟨hops'.trans hops, hsetup'.trans hsetup, hnow'.trans hnow⟩

/-- A write leaves its items' table, or the table as it was. -/
theorem write_snd (ws : List Write) (c : Choice) (st : Store) :
    (handle (.write ws) c st).2 = st ∨ (handle (.write ws) c st).2 = ws.foldl Write.apply st := by
  have hh : handle (.write ws) c st = c.attempt st (st.write ws) := rfl
  rw [hh]
  rcases attempt_snd c st (st.write ws) with h | h
  · exact Or.inl h
  · rcases write_cases st ws with ⟨-, hw⟩ | ⟨-, hw⟩
    · exact Or.inr (by rw [h, hw])
    · exact Or.inl (by rw [h, hw])

theorem handle_kept {o : Op} (h : o.sessionless) (c : Choice) (st : Store) :
    Kept st (handle o c st).2 := by
  cases o with
  | write ws =>
      rcases write_snd ws c st with hw | hw
      · rw [hw]
        exact .refl st
      · obtain ⟨hops, hsetup, hnow⟩ := foldl_sessionless h st
        rw [hw]
        exact ⟨Int.le_of_eq (by rw [hnow]), hops, hsetup⟩
  | now =>
      refine ⟨?_, rfl, rfl⟩
      show st.now.nanos ≤ st.now.nanos + (c.elapsed : Int)
      omega
  | random => exact (attempt_read c st (.ok c.random)).symm ▸ .refl st
  | getUser username => exact (attempt_read c st (lookup (st.users username))).symm ▸ .refl st
  | getWalletChallenge id =>
      exact (attempt_read c st (lookup (st.walletChallenges id))).symm ▸ .refl st
  | firstWalletIndex walletType address =>
      exact (attempt_read c st (lookup (st.walletIndexes walletType address).head?)).symm ▸ .refl st
  | getSetupSession id => exact (attempt_read c st (lookup (st.setupSessions id))).symm ▸ .refl st
  | getControlPlaneConfig => exact (attempt_read c st (lookup st.controlPlane)).symm ▸ .refl st
  | getWebAuthnChallenge challenge =>
      exact (attempt_read c st (lookup (st.webAuthnChallenges challenge))).symm ▸ .refl st
  | listWebAuthnCredentials username =>
      exact (attempt_read c st (.ok (st.webAuthnCredentials username))).symm ▸ .refl st

/-- A part that writes no sessions. -/
theorem wp_kept {p : Handler α} (hp : p.Only Op.sessionless) (h : Kept st st') :
    wp (tokenEnv token) p (fun _ st'' => Kept st st'') st' :=
  wp_of_only (fun _ ho _ _ hk => hk.trans (handle_kept ho _ _)) hp h

end Kept

/-! ## Opening a session -/

section Opening

variable {s : Server} {st : Store} {token : String} {α : Type}

theorem wp_now {Q : Except AppTheoryError Time → Store → Prop}
    (h : ∀ t, st.now.nanos ≤ t.nanos → Q (.ok t) { st with now := t }) :
    wp (tokenEnv token) now Q st := by
  refine wp_op.2 fun c => (wp_ret _).2 (h (st.now.Add c.elapsed) ?_)
  simp only [Time.Add]
  omega

theorem wp_newToken {Q : Except AppTheoryError (Result String) → Store → Prop}
    (herr : ∀ e, Q (.ok (.error e)) st) (hok : Q (.ok (.ok token)) st) :
    wp (tokenEnv token) newToken Q st := by
  refine wp_op.2 fun c => (wp_ret _).2 ?_
  have hh : (tokenEnv token).handle .random c st
      = ({ c with random := token } : Choice).attempt st (.ok token, st) := rfl
  rw [hh]
  unfold Choice.attempt
  split
  · exact hok
  · exact herr _
  · exact herr _

/-- A write succeeds with its items written, or fails, with or without them. -/
theorem wp_write {ws : List Write} {Q : Except AppTheoryError (Result Unit) → Store → Prop}
    (hok : Q (.ok (.ok ())) (ws.foldl Write.apply st))
    (herr : ∀ e st', st' = st ∨ st' = ws.foldl Write.apply st → Q (.ok (.error e)) st') :
    wp (tokenEnv token) (write ws) Q st := by
  refine wp_op.2 fun c => (wp_ret _).2 ?_
  have hh : (tokenEnv token).handle (.write ws) c st
      = ({ c with random := token } : Choice).attempt st (st.write ws) := rfl
  rw [hh]
  rcases write_cases st ws with ⟨hall, hw⟩ | ⟨hall, hw⟩
  · rw [hw]
    unfold Choice.attempt
    split
    · exact hok
    · exact herr _ _ (Or.inl rfl)
    · exact herr _ _ (Or.inr rfl)
  · rw [hw]
    unfold Choice.attempt
    split
    · exact herr _ _ (Or.inl rfl)
    · exact herr _ _ (Or.inl rfl)
    · exact herr _ _ (Or.inl rfl)

/-- One row may have been put, and its token is the answer only if it has. -/
structure Opens (good : α → Prop) (expiresAt : α → Time) (token id : String)
    (rows rows' : String → Option α) (answer : Option (String × Time)) : Prop where
  row : rows' = rows ∨ ∃ x, good x ∧ rows' = set rows id (some x)
  answer : ∀ a, answer = some a →
    ∃ x, good x ∧ a = (token, expiresAt x) ∧ rows' = set rows id (some x)

theorem Opens.failed {good : α → Prop} {expiresAt : α → Time} {id : String}
    {rows rows' : String → Option α} (h : rows' = rows ∨ ∃ x, good x ∧ rows' = set rows id (some x)) :
    Opens good expiresAt token id rows rows' none := ⟨h, fun _ ha => by cases ha⟩

/-- The row of a session that was opened after the zero time. -/
def GoodSession (id : String) (x : OperatorSession) : Prop := x.ID = id ∧ 0 < x.ExpiresAt.nanos

theorem buildOperatorSessionModel_good (s : Server) (token username role method : String) {t : Time}
    (ht : 0 ≤ t.nanos) :
    GoodSession (s.sha256HexTrimmed token) (s.buildOperatorSessionModel token username role method t) := by
  refine ⟨name_trimmed token, ?_⟩
  simp only [Server.buildOperatorSessionModel, Time.Add, Time.UTC, Server.operatorSessionDuration, Hour,
    Minute, Second]
  omega

/-- The answer of a program that yields a token. -/
def answered : Except AppTheoryError (Result (String × Time)) → Option (String × Time)
  | .ok (.ok a) => some a
  | _ => none

/-- What a program that opens an operator session does to the table. -/
def OpensOperator (s : Server) (token : String) (st : Store)
    (r : Except AppTheoryError (Result (String × Time))) (st' : Store) : Prop :=
  st.now.nanos ≤ st'.now.nanos ∧ st'.setupSessions = st.setupSessions ∧
    Opens (GoodSession (s.sha256HexTrimmed token)) (·.ExpiresAt) token (s.sha256HexTrimmed token)
      st.operatorSessions st'.operatorSessions (answered r)

/-- The write of a good row, and the answer to it. -/
theorem opensOperator_write {st₁ : Store} (hkept : Kept st st₁) {x : OperatorSession}
    (hx : GoodSession (s.sha256HexTrimmed token) x) {ws : List Write}
    (hops : (ws.foldl Write.apply st₁).operatorSessions = set st₁.operatorSessions x.ID (some x))
    (hsetup : (ws.foldl Write.apply st₁).setupSessions = st₁.setupSessions)
    (hnow : (ws.foldl Write.apply st₁).now = st₁.now) :
    wp (tokenEnv token) (write ws >>= fun r => match r with
        | .error e => pure (Except.error e)
        | .ok _ => pure (Except.ok (token, x.ExpiresAt)))
      (OpensOperator s token st) st₁ := by
  have hlater : st.now.nanos ≤ (ws.foldl Write.apply st₁).now.nanos := hnow ▸ hkept.now
  have hsame := hsetup.trans hkept.setup
  have hput : (ws.foldl Write.apply st₁).operatorSessions
      = set st.operatorSessions (s.sha256HexTrimmed token) (some x) := by
    rw [hops, hx.1, hkept.operator]
  rw [wp_bind]
  refine wp_write ?_ fun e st' hst' => ?_
  · refine (wp_pure _).2 ⟨hlater, hsame, Or.inr ⟨x, hx, hput⟩, fun a ha => ?_⟩
    cases ha
    exact ⟨x, hx, rfl, hput⟩
  · rcases hst' with rfl | rfl
    · exact (wp_pure _).2 ⟨hkept.now, hkept.setup, .failed (Or.inl hkept.operator)⟩
    · exact (wp_pure _).2 ⟨hlater, hsame, .failed (Or.inr ⟨x, hx, hput⟩)⟩

theorem wp_createOperatorSession (hclock : 0 ≤ st.now.nanos) (username role method : String) :
    wp (tokenEnv token) (s.createOperatorSession username role method) (OpensOperator s token st) st := by
  unfold Server.createOperatorSession
  rw [wp_bind]
  refine wp_now fun t ht => ?_
  have hkept : Kept st { st with now := t } := ⟨ht, rfl, rfl⟩
  have hx := buildOperatorSessionModel_good s token username role method (t := t.UTC)
    (Int.le_trans hclock ht)
  dsimp only
  rw [wp_bind]
  refine wp_newToken (fun e => (wp_pure _).2 ⟨ht, rfl, .failed (Or.inl rfl)⟩) ?_
  dsimp only
  generalize s.buildOperatorSessionModel token username role method t.UTC = x at hx ⊢
  exact opensOperator_write hkept hx rfl rfl rfl

theorem wp_transactOperatorSession (hclock : 0 ≤ st.now.nanos) {others : List Write}
    (hothers : others.all Write.sessionless = true) (username role method : String) :
    wp (tokenEnv token) (s.transactOperatorSession others username role method)
      (OpensOperator s token st) st := by
  unfold Server.transactOperatorSession
  rw [wp_bind]
  refine wp_now fun t ht => ?_
  have hkept : Kept st { st with now := t } := ⟨ht, rfl, rfl⟩
  have hx := buildOperatorSessionModel_good s token username role method (t := t)
    (Int.le_trans hclock ht)
  dsimp only
  rw [wp_bind]
  refine wp_newToken (fun e => (wp_pure _).2 ⟨ht, rfl, .failed (Or.inl rfl)⟩) ?_
  dsimp only
  generalize s.buildOperatorSessionModel token username role method t = x at hx ⊢
  obtain ⟨hops, hsetup, hnow⟩ := foldl_sessionless hothers
    ((Write.createOperatorSession x).apply { st with now := t })
  exact opensOperator_write hkept hx hops hsetup hnow

/-! ### The setup session -/

theorem write_sessionless_only {w : Write} (h : w.sessionless = true) :
    (write [w]).Only Op.sessionless := by
  refine (only_perform _).2 ?_
  simp only [Op.sessionless, List.all_cons, List.all_nil, h, Bool.and_true]

theorem now_sessionless : now.Only Op.sessionless := (only_perform _).2 trivial

theorem requireLocked_sessionless : Server.requireLocked.Only Op.sessionless := by
  refine only_bind (only_bind ((only_perform _).2 trivial) fun r => ?_) fun _ =>
    only_ite (by simp) (fail_only _ _)
  rcases r with (_ | _ | _) | cfg
  · exact only_pure _
  · exact fail_only _ _
  · exact fail_only _ _
  · exact only_pure _

theorem deleteWalletChallenge_sessionless (id : String) :
    (Server.deleteWalletChallenge id).Only Op.sessionless :=
  only_ite (only_pure _) (write_sessionless_only (w := .deleteWalletChallenge (TrimSpace id)) rfl)

theorem getWalletChallenge_sessionless (id : String) :
    (Server.getWalletChallenge id).Only Op.sessionless := by
  refine only_ite (only_pure _) (only_bind ((only_perform _).2 trivial) fun r => ?_)
  rcases r with e | challenge
  · exact only_pure _
  · refine only_bind now_sessionless fun t => only_ite ?_ ?_
    · exact only_bind (deleteWalletChallenge_sessionless _) fun _ => only_pure _
    · exact only_ite (only_pure _) (only_pure _)

theorem findWalletChallenge_sessionless (id : String) :
    (Server.findWalletChallenge id).Only Op.sessionless := by
  refine only_bind (getWalletChallenge_sessionless id) fun r => ?_
  rcases r with (_ | _ | _) | challenge
  · exact fail_only _ _
  · exact fail_only _ _
  · exact fail_only _ _
  · exact only_pure _

theorem redeemWalletChallenge_sessionless (id : String) :
    (Server.redeemWalletChallenge id).Only Op.sessionless := by
  refine only_bind (only_ite (only_pure _)
    (write_sessionless_only (w := .spendWalletChallenge _) rfl)) fun r => ?_
  rcases r with (_ | _ | _) | ⟨⟩
  · exact fail_only _ _
  · exact fail_only _ _
  · exact fail_only _ _
  · exact only_pure _

theorem parseSetupBootstrapVerifyInput_sessionless (body : Body setupBootstrapVerifyRequest) :
    (Server.parseSetupBootstrapVerifyInput body).Only Op.sessionless := by
  unfold Server.parseSetupBootstrapVerifyInput Server.checkWalletVerifyRequest
  refine only_bind ?_ fun raw => ?_
  · cases body with
    | error e => exact only_fail _
    | ok req => exact only_ret _
  · exact only_ite (fail_only _ _) (only_ite (fail_only _ _)
      (only_ite (fail_only _ _) (only_ite (fail_only _ _) (only_ret _))))

theorem verifySetupBootstrapChallenge_sessionless (bootstrapWallet : String)
    (req : walletVerifyRequest) :
    (s.verifySetupBootstrapChallenge bootstrapWallet req).Only Op.sessionless :=
  only_ite (fail_only _ _) (only_bind (findWalletChallenge_sessionless _) fun _ =>
    only_ite (fail_only _ _) (only_ite (fail_only _ _) (only_ite (fail_only _ _) (only_ite (fail_only _ _)
      (redeemWalletChallenge_sessionless _)))))

/-- The row of a setup session, which names the bootstrap wallet. -/
structure GoodSetup (s : Server) (id : String) (x : SetupSession) : Prop where
  id : x.ID = id
  expires : 0 < x.ExpiresAt.nanos
  purpose : x.Purpose = setupPurposeBootstrap
  wallet : x.WalletAddr = s.bootstrapWallet
  configured : s.bootstrapWallet ≠ ""

/-- What a program that opens a setup session does to the table. -/
def OpensSetup (s : Server) (token : String) (st : Store) (r : Except AppTheoryError (String × Time))
    (st' : Store) : Prop :=
  st.now.nanos ≤ st'.now.nanos ∧ st'.operatorSessions = st.operatorSessions ∧
    Opens (GoodSetup s (s.sha256HexTrimmed token)) (·.ExpiresAt) token (s.sha256HexTrimmed token)
      st.setupSessions st'.setupSessions r.toOption

theorem OpensSetup.of_kept {st' : Store} (h : Kept st st') (e : AppTheoryError) :
    OpensSetup s token st (.error e) st' := ⟨h.now, h.operator, .failed (Or.inl h.setup)⟩

/-- A part that writes no sessions, before the rest. -/
theorem opensSetup_after {β : Type} {st₁ : Store} (hkept : Kept st st₁) {p : Handler β}
    (hp : p.Only Op.sessionless) {f : β → Handler (String × Time)}
    (hf : ∀ b st', Kept st st' → wp (tokenEnv token) (f b) (OpensSetup s token st) st') :
    wp (tokenEnv token) (p >>= f) (OpensSetup s token st) st₁ :=
  wp_bind_of (wp_kept hp hkept) hf fun e _ h => .of_kept h e

theorem opensSetup_write {st₁ : Store} (hkept : Kept st st₁) {x : SetupSession}
    (hx : GoodSetup s (s.sha256HexTrimmed token) x) :
    wp (tokenEnv token) (write [.putSetupSession x] >>= fun r => match r with
        | .error _ => fail "app.internal" "failed to create setup session"
        | .ok _ => pure (token, x.ExpiresAt))
      (OpensSetup s token st) st₁ := by
  have hput : ([Write.putSetupSession x].foldl Write.apply st₁).setupSessions
      = set st.setupSessions (s.sha256HexTrimmed token) (some x) := by
    rw [← hx.id, ← hkept.setup]
    rfl
  rw [wp_bind]
  refine wp_write ?_ fun e st' hst' => ?_
  · refine (wp_pure _).2 ⟨hkept.now, hkept.operator, Or.inr ⟨x, hx, hput⟩, fun a ha => ?_⟩
    cases ha
    exact ⟨x, hx, rfl, hput⟩
  · rcases hst' with rfl | rfl
    · exact (wp_fail _).2 (.of_kept hkept _)
    · exact (wp_fail _).2 ⟨hkept.now, hkept.operator, .failed (Or.inr ⟨x, hx, hput⟩)⟩

theorem wp_handleSetupBootstrapVerify (hclock : 0 ≤ st.now.nanos)
    (body : Body setupBootstrapVerifyRequest) :
    wp (tokenEnv token) (s.handleSetupBootstrapVerify body) (OpensSetup s token st) st := by
  unfold Server.handleSetupBootstrapVerify
  refine opensSetup_after (.refl st) requireLocked_sessionless fun _ st₁ hkept => ?_
  unfold Server.requireBootstrapWallet
  by_cases hwallet : s.bootstrapWallet = ""
  · rw [if_pos hwallet]
    exact (wp_fail _).2 (.of_kept hkept _)
  · rw [if_neg hwallet]
    refine opensSetup_after hkept (parseSetupBootstrapVerifyInput_sessionless body)
      fun req st₂ hkept => ?_
    refine opensSetup_after hkept (verifySetupBootstrapChallenge_sessionless _ _)
      fun _ st₃ hkept => ?_
    rw [wp_bind]
    refine wp_newToken (fun e => (wp_fail _).2 (.of_kept hkept _)) ?_
    dsimp only
    rw [wp_bind]
    refine wp_now fun t ht => ?_
    have hkept' : Kept st { st₃ with now := t } := hkept.trans ⟨ht, rfl, rfl⟩
    refine opensSetup_write hkept' ⟨name_trimmed token, ?_, rfl, rfl, hwallet⟩
    have hpos : 0 ≤ t.nanos := Int.le_trans hclock hkept'.now
    simp only [Time.Add, Hour, Minute, Second]
    omega

end Opening

/-! ## Authenticating -/

/-- Every row is there under its own name. -/
structure Store.Named (st : Store) : Prop where
  operator : ∀ id x, st.operatorSessions id = some x → x.ID = id
  setup : ∀ id x, st.setupSessions id = some x → x.ID = id

/-- Rows have vanished that have expired. -/
def RowsFade {α : Type} (expiresAt : α → Time) (rows rows' : String → Option α) (now : Time) : Prop :=
  ∀ k, rows' k = rows k ∨
    (rows' k = none ∧ ∀ x, rows k = some x → (expiresAt x).nanos < now.nanos)

theorem RowsFade.of_eq {α : Type} {expiresAt : α → Time} {rows rows' : String → Option α} {now : Time}
    (h : rows' = rows) : RowsFade expiresAt rows rows' now := fun _ => Or.inl (by rw [h])

theorem RowsFade.remove {α : Type} {expiresAt : α → Time} {rows : String → Option α} {now : Time}
    {id : String} {x : α} (hx : rows id = some x) (hexp : (expiresAt x).nanos < now.nanos) :
    RowsFade expiresAt rows (set rows id none) now := fun k => by
  rw [set_apply]
  split_ifs with hk
  · subst hk
    refine Or.inr ⟨rfl, fun y hy => ?_⟩
    rw [hx] at hy
    cases hy
    exact hexp
  · exact Or.inl rfl

/-- Time has passed, and expired sessions may be gone. -/
structure Fades (st st' : Store) : Prop where
  now : st.now.nanos ≤ st'.now.nanos
  operator : RowsFade (·.ExpiresAt) st.operatorSessions st'.operatorSessions st'.now
  setup : RowsFade (·.ExpiresAt) st.setupSessions st'.setupSessions st'.now

theorem Kept.fades {st st' : Store} (h : Kept st st') : Fades st st' :=
  ⟨h.now, .of_eq h.operator, .of_eq h.setup⟩

theorem expired_of_past {expiresAt now : Time} (h : pastExpiry expiresAt now = true) :
    expiresAt.nanos < now.nanos := by
  simp only [pastExpiry, Time.After, Bool.and_eq_true, decide_eq_true_eq] at h
  exact h.2

section Hook

variable {s : Server} {st st' : Store} {α : Type}

theorem wp_findOperatorSession (candidates : List String) :
    wp sessionEnv (findOperatorSession candidates) (fun r st' => st' = st ∧
      ∀ x, r = .ok (some x) → ∃ id, st.operatorSessions id = some x) st := by
  induction candidates with
  | nil => exact (wp_pure _).2 ⟨rfl, fun x h => by cases h⟩
  | cons candidate rest ih =>
      unfold findOperatorSession
      refine wp_ite (fun _ => ih) fun _ => ?_
      rw [wp_bind]
      refine wp_op.2 fun c => ?_
      obtain ⟨r, hr, hok, -⟩ := attempt_lookup c st (st.operatorSessions (TrimSpace candidate))
      have hh : sessionEnv.handle (.firstOperatorSession (TrimSpace candidate)) c st = (r, st) := hr
      rw [hh]
      refine (wp_ret _).2 ?_
      rcases r with (_ | _ | _) | x
      · exact ih
      · exact (wp_fail _).2 ⟨rfl, fun x h => by cases h⟩
      · exact (wp_fail _).2 ⟨rfl, fun x h => by cases h⟩
      · refine (wp_pure _).2 ⟨rfl, fun y hy => ?_⟩
        cases hy
        exact ⟨_, hok x rfl⟩

/-- The hook lets expired rows go; who passes it has a row, and the table is as it was. -/
def HookDone (st : Store) (r : Except AppTheoryError (Option Authenticated)) (st' : Store) : Prop :=
  Fades st st' ∧ ∀ auth, r = .ok (some auth) →
    Kept st st' ∧ ∃ id x, st.operatorSessions id = some x ∧ auth = .of x

theorem HookDone.none (st : Store) : HookDone st (.ok none) st :=
  ⟨(Kept.refl st).fades, fun _ h => by cases h⟩

theorem wp_OperatorAuthHook (hnamed : st.Named) (authorization : String) :
    wp sessionEnv (s.OperatorAuthHook authorization) (HookDone st) st := by
  unfold Server.OperatorAuthHook
  refine wp_ite (fun _ => (wp_pure _).2 (.none st)) fun _ => ?_
  refine wp_bind_of (wp_findOperatorSession _) ?_ fun e st' h => ?_
  · rintro r st₁ ⟨rfl, hrow⟩
    rcases r with _ | x
    · exact (wp_pure _).2 (.none st₁)
    · obtain ⟨id, hid⟩ := hrow x rfl
      obtain rfl := hnamed.operator id x hid
      rw [wp_bind]
      refine wp_op.2 fun c => (wp_ret _).2 ?_
      have hle : st₁.now.nanos ≤ (st₁.now.Add c.elapsed).nanos := by
        simp only [Time.Add]
        omega
      have hh : sessionEnv.handle (.store .now) c st₁
          = (st₁.now.Add c.elapsed, { st₁ with now := st₁.now.Add c.elapsed }) := rfl
      rw [hh]
      generalize st₁.now.Add c.elapsed = t at hle
      have hkept : Kept st₁ { st₁ with now := t } := ⟨hle, rfl, rfl⟩
      dsimp only
      refine wp_ite (fun hpast => ?_) fun _ => ?_
      · rw [wp_bind]
        refine wp_op.2 fun c' => (wp_ret _).2 ((wp_pure _).2 ⟨?_, fun auth h => by cases h⟩)
        have hh' : sessionEnv.handle (.deleteOperatorSession x.ID) c' { st₁ with now := t }
            = c'.attempt { st₁ with now := t } (.ok (), { st₁ with
              now := t
              operatorSessions := set st₁.operatorSessions x.ID none }) := rfl
        rw [hh']
        rcases attempt_snd c' { st₁ with now := t } (.ok (), { st₁ with
            now := t
            operatorSessions := set st₁.operatorSessions x.ID none }) with h | h
        · rw [h]
          exact hkept.fades
        · rw [h]
          exact ⟨hle, .remove hid (expired_of_past hpast), .of_eq rfl⟩
      · refine (wp_pure _).2 ⟨hkept.fades, fun auth h => ?_⟩
        cases h
        exact ⟨hkept, x.ID, x, hid, rfl⟩
  · obtain ⟨rfl, -⟩ := h
    exact ⟨(Kept.refl _).fades, fun _ h => by cases h⟩

/-- A part of another endpoint that writes no sessions. -/
theorem wp_onStore {st₀ : Store} {p : Handler α} (hp : p.Only Op.sessionless) (h : Kept st₀ st) :
    wp sessionEnv (onStore p) (fun _ st' => Kept st₀ st') st := by
  induction p generalizing st with
  | ret a => exact (wp_ret _).2 h
  | fail e => exact (wp_fail _).2 h
  | op o k ih =>
      obtain ⟨ho, hrest⟩ := (only_op o k).1 hp
      exact wp_op.2 fun c => ih _ (hrest _) (h.trans (handle_kept ho c st))

/-- A logout removes at most the row of its session. -/
def LogoutDone (id : String) (st st' : Store) : Prop :=
  st.now.nanos ≤ st'.now.nanos ∧ st'.setupSessions = st.setupSessions ∧
    (st'.operatorSessions = st.operatorSessions ∨
      st'.operatorSessions = set st.operatorSessions id none)

theorem LogoutDone.of_kept {id : String} {st'' : Store} (h : LogoutDone id st st')
    (hk : Kept st' st'') : LogoutDone id st st'' :=
  ⟨Int.le_trans h.1 hk.now, hk.setup.trans h.2.1, by rw [hk.operator]; exact h.2.2⟩

theorem LogoutDone.refl (id : String) (st : Store) : LogoutDone id st st :=
  ⟨Int.le_refl _, rfl, Or.inl rfl⟩

theorem wp_handleAuthLogout (requestID : String) (auth : Authenticated) :
    wp sessionEnv (Server.handleAuthLogout requestID auth)
      (fun _ st' => LogoutDone (TrimSpace auth.sessionID) st st') st := by
  unfold Server.handleAuthLogout
  refine wp_ite (fun _ => (wp_fail _).2 (.refl _ st)) fun _ => ?_
  have haudit : ∀ st' : Store, LogoutDone (TrimSpace auth.sessionID) st st' →
      ∀ ctx : Context, ∀ entry : Time → AuditLogEntry,
      wp sessionEnv (perform (SessionOp.store .now) >>= fun now =>
          onStore (Server.tryWriteAuditLog ctx (entry now)) : SessionHandler Unit)
        (fun _ st'' => LogoutDone (TrimSpace auth.sessionID) st st'') st' := by
    intro st' hdone ctx entry
    rw [wp_bind]
    refine wp_op.2 fun c => (wp_ret _).2 ?_
    refine wp_mono (wp_onStore ?_ (handle_kept (o := .now) trivial c st'))
      fun _ st'' hk => hdone.of_kept hk
    exact only_bind (write_sessionless_only (w := .putAuditLogEntry _) rfl) fun _ => only_pure _
  refine wp_bind_of (R := fun _ st' => LogoutDone (TrimSpace auth.sessionID) st st') ?_ ?_
    fun _ _ h => h
  · refine wp_ite (fun _ => (wp_pure _).2 (.refl _ st)) fun _ => wp_op.2 fun c => (wp_ret _).2 ?_
    have hh : sessionEnv.handle (.deleteOperatorSession (TrimSpace auth.sessionID)) c st
        = c.attempt st (.ok (), { st with
            operatorSessions := set st.operatorSessions (TrimSpace auth.sessionID) none }) := rfl
    rw [hh]
    rcases attempt_snd c st (.ok (), { st with
        operatorSessions := set st.operatorSessions (TrimSpace auth.sessionID) none }) with h | h
    · rw [h]
      exact .refl _ st
    · rw [h]
      exact ⟨Int.le_refl _, rfl, Or.inr rfl⟩
  · intro r st' hdone
    rcases r with (_ | _ | _) | ⟨⟩
    · exact haudit st' hdone _ _
    · exact (wp_fail _).2 hdone
    · exact (wp_fail _).2 hdone
    · exact haudit st' hdone _ _

/-! ### With a setup session -/

theorem ensures_findSetupSession {I : Store → Prop} (hI : I st) (candidates : List String) :
    Ensures storeEnv I (Server.findSetupSession candidates)
      (fun x st' => st' = st ∧ ∃ id, st.setupSessions id = some x) st := by
  induction candidates with
  | nil => exact ensures_fail hI
  | cons candidate rest ih =>
      unfold Server.findSetupSession
      refine ensures_ite (fun _ => ih) fun _ => ?_
      refine ensures_bind (R := fun r st' => st' = st ∧
        ∀ x, r = .ok x → ∃ id, st.setupSessions id = some x) ?_ ?_
      · refine ensures_perform fun c => ?_
        obtain ⟨r, hr, hok, -⟩ := attempt_lookup c st (st.setupSessions (TrimSpace candidate))
        have hh : storeEnv.handle (.getSetupSession (TrimSpace candidate)) c st = (r, st) := hr
        rw [hh]
        exact ⟨rfl, fun x hx => ⟨_, hok x hx⟩⟩
      · rintro r st' ⟨rfl, hrow⟩
        rcases r with (_ | _ | _) | x
        · exact ih
        · exact ensures_fail hI
        · exact ensures_fail hI
        · exact ensures_pure ⟨rfl, hrow x rfl⟩

theorem wp_requireSetupSession (hnamed : st.Named) (ctx : Context) :
    wp storeEnv (s.requireSetupSession ctx) (fun _ st' => Fades st st') st := by
  refine Ensures.wp (I := Fades st) ?_
  have hrefl : Fades st st := (Kept.refl st).fades
  unfold Server.requireSetupSession
  refine ensures_ite (fun _ => ensures_fail hrefl) fun _ => ?_
  refine ensures_bind (ensures_findSetupSession hrefl _) ?_
  rintro x st' ⟨rfl, id, hid⟩
  obtain rfl := hnamed.setup id x hid
  refine ensures_bind (ensures_now (P := fun t st'' => st'' = { st' with now := t } ∧
    st'.now.nanos ≤ t.nanos) fun t ht => ⟨rfl, ht⟩) ?_
  rintro t st'' ⟨rfl, ht⟩
  have hkept : Fades st' { st' with now := t } := Kept.fades ⟨ht, rfl, rfl⟩
  refine ensures_ite (fun hpast => ?_) fun _ => ?_
  · have hexp : x.ExpiresAt.nanos < t.nanos := by
      have hafter := hpast.2
      simpa only [Time.After, decide_eq_true_eq] using hafter
    have hgone : Fades st' { st' with
        now := t
        setupSessions := set st'.setupSessions x.ID none } :=
      ⟨ht, .of_eq rfl, .remove hid hexp⟩
    refine ensures_bind (R := fun _ u => Fades st' u) ?_ fun _ u hu => ensures_fail hu
    refine ensures_write _ (fun _ => hgone) (fun _ => hkept) ?_
    rintro u (rfl | ⟨-, rfl⟩)
    · exact hkept
    · exact hgone
  · exact ensures_ite (fun _ => ensures_fail hkept) fun _ =>
      ensures_ite (fun _ => ensures_fail hkept) fun _ => ensures_pure hkept

end Hook

end LesserHost.ControlPlane
