import LesserHost.SoulLifecycle.Journal
import LesserHost.SoulLifecycle.Succession

set_option autoImplicit false

/-! # Lifecycle nonces

Requests that begin and confirm an archive or a succession, in any order. A challenge is issued when its
row is created and spent by the transaction that deletes it. What a transaction may write is `Justified`
by the challenge that its request has loaded and by the signatures it has checked; each request keeps to
that, and so does every history (`nonces_single_use`).

A request reads the clock before it loads its challenge. Its transaction can come later than the time at
which the challenge expires (`not_committed_before_expiry`). -/

namespace LesserHost.SoulLifecycle

open LesserHost.Go
open LesserHost.ControlPlane (AppTheoryError StoreError newAppTheoryError)

/-! ## Ceremonies -/

inductive Ceremony where
  | archiveBegin (agentID : String)
  | archive (agentID : String) (req : soulArchiveRequest)
  | successorBegin (agentID successorAgentID : String)
  | successor (agentID : String) (req : soulDesignateSuccessorRequest)

def Ceremony.request : Ceremony → Request
  | .archiveBegin agentID => .archiveAgentBegin agentID
  | .archive agentID req => .archiveAgent agentID req
  | .successorBegin agentID successorAgentID => .designateSuccessorBegin agentID successorAgentID
  | .successor agentID req => .designateSuccessor agentID req

/-! ## What a history says -/

section History

variable {ι : Type}

/-- What an event wrote. -/
def written (e : Event ι Op Table Choice) : List Write := carried e.op e.choice e.before

/-- The challenge was there at the start, or an event created it. -/
def Issued (t₀ : Table) (log : List (Event ι Op Table Choice)) (challenge : SoulLifecycleChallenge) :
    Prop :=
  t₀.challenges challenge.key = some challenge ∨ ∃ e ∈ log, .createChallenge challenge ∈ written e

def Write.issues (key : String × String) : Write → Bool
  | .createChallenge challenge => decide (challenge.key = key)
  | _ => false

def Write.spends (key : String × String) : Write → Bool
  | .deleteChallenge challenge _ => decide (challenge.key = key)
  | _ => false

/-- The event issues the challenge of a key. -/
def issues (key : String × String) (e : Event ι Op Table Choice) : Bool := (written e).any (Write.issues key)

/-- The event spends it. -/
def spends (key : String × String) (e : Event ι Op Table Choice) : Bool := (written e).any (Write.spends key)

/-- The object that the wallet of an archived agent signs. -/
def archivePayload (agentIDHex timestamp nonce : String) : Unsigned :=
  unsignedContinuityEntry SoulContinuityEntryTypeArchived timestamp "Archived" ""
    (soulArchiveReferences agentIDHex) nonce

def declaredPayload (agentIDHex successorIDHex timestamp nonce : String) : Unsigned :=
  unsignedContinuityEntry SoulContinuityEntryTypeSuccessionDeclared timestamp "Succession declared" ""
    (soulDeclaredReferences agentIDHex successorIDHex) nonce

def receivedPayload (agentIDHex successorIDHex timestamp nonce : String) : Unsigned :=
  unsignedContinuityEntry SoulContinuityEntryTypeSuccessionReceived timestamp "Succession received" ""
    (soulReceivedReferences agentIDHex successorIDHex) nonce

/-- The wallet of an agent has signed an object. -/
def SignedByWallet (Signed : String → Unsigned → Prop) (t₀ : Table) (agentIDHex : String) (u : Unsigned) :
    Prop :=
  ∃ row v, t₀.identities agentIDHex = some row ∧ Signed row.Wallet v ∧ v.Perm u

variable (Signed : String → Unsigned → Prop) (t₀ : Table)

/-- What an event may write. -/
inductive Justified (log : List (Event ι Op Table Choice)) : List Write → Prop where
  | nothing : Justified log []
  | issue {challenge : SoulLifecycleChallenge} (hkeys : challenge.UpdateKeys = challenge) :
      Justified log [.createChallenge challenge]
  | archive {agentIDHex timestamp : String} {challenge : SoulLifecycleChallenge} {now : Time}
      (hissued : Issued t₀ log challenge) (hagent : challenge.AgentID = agentIDHex)
      (hpurpose : challenge.Purpose = soulLifecycleChallengePurposeArchiveAgent)
      (hlive : now.Before challenge.ExpiresAt = true)
      (hsigned : SignedByWallet Signed t₀ agentIDHex
        (archivePayload agentIDHex timestamp challenge.Nonce))
      (identity : SoulAgentIdentity) (reason sig : String) (parsedTS : Time) :
      Justified log (archiveWrites agentIDHex identity challenge reason sig parsedTS now)
  | succession {agentIDHex successorIDHex timestamp : String} {challenge : SoulLifecycleChallenge}
      {now : Time} (hissued : Issued t₀ log challenge) (hagent : challenge.AgentID = agentIDHex)
      (hpurpose : challenge.Purpose = soulLifecycleChallengePurposeDesignateSuccessor)
      (hsuccessor : challenge.SuccessorAgentID = successorIDHex)
      (hlive : now.Before challenge.ExpiresAt = true)
      (hdeclared : SignedByWallet Signed t₀ agentIDHex
        (declaredPayload agentIDHex successorIDHex timestamp challenge.Nonce))
      (hreceived : SignedByWallet Signed t₀ successorIDHex
        (receivedPayload agentIDHex successorIDHex timestamp challenge.Nonce))
      (identity successorIdentity : SoulAgentIdentity) (reason predSig succSig : String) (parsedTS : Time) :
      Justified log (successionWrites agentIDHex successorIDHex identity successorIdentity challenge reason
        predSig succSig parsedTS now)

/-- The challenges of a table lie under their keys. -/
def Table.Keyed (t : Table) : Prop :=
  ∀ key challenge, t.challenges key = some challenge →
    challenge.key = key ∧ challenge.UpdateKeys = challenge

/-- What every history of these requests satisfies. -/
structure Accounted (s : Traced ι Op Table Choice) : Prop where
  wallets : ∀ a, (s.state.identities a).map (·.Wallet) = (t₀.identities a).map (·.Wallet)
  keyed : s.state.Keyed
  issued : ∀ key challenge, s.state.challenges key = some challenge → Issued t₀ s.log challenge
  justified : ∀ e ∈ s.log, Justified Signed t₀ s.log (written e)
  after : ∀ e ∈ s.log, e.after = (e.before.handle e.op e.choice).2
  balance : ∀ key, s.log.countP (issues key) + (t₀.challenges key).toList.length
    = s.log.countP (spends key) + (s.state.challenges key).toList.length

variable {Signed} {t₀} {log log' : List (Event ι Op Table Choice)}

theorem Issued.mono {challenge : SoulLifecycleChallenge} (h : Issued t₀ log challenge)
    (hlog : ∀ e ∈ log, e ∈ log') : Issued t₀ log' challenge := by
  rcases h with h | ⟨e, he, hw⟩
  · exact Or.inl h
  · exact Or.inr ⟨e, hlog e he, hw⟩

theorem Justified.mono {ws : List Write} (h : Justified Signed t₀ log ws) (hlog : ∀ e ∈ log, e ∈ log') :
    Justified Signed t₀ log' ws := by
  cases h with
  | nothing => exact .nothing
  | issue hkeys => exact .issue hkeys
  | archive hissued hagent hpurpose hlive hsigned identity reason sig parsedTS =>
      exact .archive (hissued.mono hlog) hagent hpurpose hlive hsigned identity reason sig parsedTS
  | succession hissued hagent hpurpose hsuccessor hlive hdeclared hreceived identity successorIdentity
      reason predSig succSig parsedTS =>
      exact .succession (hissued.mono hlog) hagent hpurpose hsuccessor hlive hdeclared hreceived identity
        successorIdentity reason predSig succSig parsedTS

/-! ## One event -/

section Effect

variable {t : Table} {ws : List Write}

/-- What the writes do to the challenges: nothing, or they issue one, or they spend one. -/
theorem justified_challenges (h : Justified Signed t₀ log ws) (hallowed : ∀ w ∈ ws, w.allowed t = true) :
    (ws = [] ∨ ∃ challenge, ws = [.createChallenge challenge] ∧ challenge.UpdateKeys = challenge ∧
        t.challenges challenge.key = none) ∨
    ∃ challenge : SoulLifecycleChallenge,
      (ws.foldl Write.apply t).challenges = Function.update t.challenges challenge.key none ∧
      (∃ row, t.challenges challenge.key = some row) ∧ (∀ c, .createChallenge c ∉ ws) ∧
      ∀ key, ws.any (Write.issues key) = false ∧
        ws.any (Write.spends key) = decide (challenge.key = key) := by
  have hsome : ∀ (challenge : SoulLifecycleChallenge) (now : Time),
      (Write.deleteChallenge challenge now).allowed t = true →
      ∃ row, t.challenges challenge.key = some row := by
    intro challenge now hdelete
    cases hrow : t.challenges challenge.key with
    | none => simp [Write.allowed, hrow] at hdelete
    | some row => exact ⟨row, rfl⟩
  cases h with
  | nothing => exact Or.inl (Or.inl rfl)
  | @issue challenge hkeys =>
      refine Or.inl (Or.inr ⟨challenge, rfl, hkeys, ?_⟩)
      have hnone := hallowed _ List.mem_cons_self
      simpa [Write.allowed] using hnone
  | @archive agentIDHex timestamp challenge now =>
      refine Or.inr ⟨challenge, ?_, hsome challenge now (hallowed _ List.mem_cons_self), ?_, fun key => ?_⟩
      · simp only [archiveWrites, List.foldl_cons, List.foldl_nil, Write.apply, Table.updateIdentity]
      · simp [archiveWrites]
      · simp [archiveWrites, Write.issues, Write.spends]
  | @succession agentIDHex successorIDHex timestamp challenge now =>
      refine Or.inr ⟨challenge, ?_, hsome challenge now (hallowed _ List.mem_cons_self), ?_, fun key => ?_⟩
      · simp only [successionWrites, List.foldl_cons, List.foldl_nil, Write.apply, Table.updateIdentity]
      · simp [successionWrites]
      · simp [successionWrites, Write.issues, Write.spends]

theorem justified_rows (h : Justified Signed t₀ log ws) (hallowed : ∀ w ∈ ws, w.allowed t = true)
    {key : String × String} {row : SoulLifecycleChallenge}
    (hrow : (ws.foldl Write.apply t).challenges key = some row) :
    t.challenges key = some row ∨
      .createChallenge row ∈ ws ∧ row.key = key ∧ row.UpdateKeys = row := by
  rcases justified_challenges h hallowed with (rfl | ⟨challenge, rfl, hkeys, -⟩) | ⟨challenge, hafter, -⟩
  · exact Or.inl hrow
  · have hafter : Function.update t.challenges challenge.key (some challenge) key = some row := hrow
    by_cases hkey : key = challenge.key
    · subst hkey
      rw [Function.update_self] at hafter
      cases hafter
      exact Or.inr ⟨List.mem_cons_self, rfl, hkeys⟩
    · rw [Function.update_of_ne hkey] at hafter
      exact Or.inl hafter
  · rw [hafter] at hrow
    by_cases hkey : key = challenge.key
    · subst hkey
      rw [Function.update_self] at hrow
      cases hrow
    · rw [Function.update_of_ne hkey] at hrow
      exact Or.inl hrow

theorem justified_balance (h : Justified Signed t₀ log ws) (hallowed : ∀ w ∈ ws, w.allowed t = true)
    (key : String × String) :
    (if ws.any (Write.issues key) then 1 else 0) + (t.challenges key).toList.length
      = (if ws.any (Write.spends key) then 1 else 0)
        + ((ws.foldl Write.apply t).challenges key).toList.length := by
  rcases justified_challenges h hallowed with (rfl | ⟨challenge, rfl, -, hnone⟩) |
    ⟨challenge, hafter, ⟨row, hrow⟩, -, hcounts⟩
  · simp
  · have hafter : ([Write.createChallenge challenge].foldl Write.apply t).challenges
        = Function.update t.challenges challenge.key (some challenge) := rfl
    rw [hafter]
    by_cases hkey : challenge.key = key
    · subst hkey
      simp [Write.issues, Write.spends, hnone]
    · rw [Function.update_of_ne (Ne.symm hkey)]
      simp [Write.issues, Write.spends, hkey]
  · rw [hafter, (hcounts key).1, (hcounts key).2]
    by_cases hkey : challenge.key = key
    · subst hkey
      simp [hrow]
    · rw [Function.update_of_ne (Ne.symm hkey)]
      simp [hkey]

/-- No write changes a wallet. -/
theorem foldl_Wallet (ws : List Write) (t : Table) (a : String) :
    ((ws.foldl Write.apply t).identities a).map (·.Wallet) = (t.identities a).map (·.Wallet) := by
  have honRow : ∀ (w : Write) (row : SoulAgentIdentity), (w.onRow a row).Wallet = row.Wallet := by
    intro w row
    unfold Write.onRow
    split_ifs
    · cases w <;> rfl
    · rfl
  have hfold : ∀ (ws : List Write) (row : SoulAgentIdentity),
      (ws.foldl (fun row w => w.onRow a row) row).Wallet = row.Wallet := by
    intro ws
    induction ws with
    | nil => exact fun _ => rfl
    | cons w ws ih => exact fun row => (ih _).trans (honRow w row)
  rw [foldl_row, Option.map_map]
  exact congrArg (fun f => Option.map f (t.identities a)) (funext (hfold ws))

end Effect

variable {s : Traced ι Op Table Choice}

/-- **A justified event keeps the accounts.** -/
theorem Accounted.step (h : Accounted Signed t₀ s) (i : ι) (o : Op) (c : Choice)
    (hj : Justified Signed t₀ s.log (carried o c s.state)) :
    Accounted Signed t₀ ((Traced.env tableEnv i).handle o c s).2 := by
  have hallowed : ∀ w ∈ carried o c s.state, w.allowed s.state = true :=
    fun w hw => allowed_of_carried hw
  have hstate : ((Traced.env tableEnv i).handle o c s).2.state
      = { (carried o c s.state).foldl Write.apply s.state with now := (s.state.handle o c).2.now } := by
    rw [Traced.handle_state, tableEnv_handle, ← handle_rows]
  have hlog : ∀ e ∈ s.log, e ∈ ((Traced.env tableEnv i).handle o c s).2.log :=
    fun e he => List.mem_append_left _ he
  refine ⟨fun a => ?_, fun key challenge hrow => ?_, fun key challenge hrow => ?_, fun e he => ?_,
    fun e he => ?_, fun key => ?_⟩
  · rw [hstate]
    exact (foldl_Wallet _ _ a).trans (h.wallets a)
  · rw [hstate] at hrow
    rcases justified_rows hj hallowed hrow with hold | ⟨-, hkey⟩
    · exact h.keyed key challenge hold
    · exact hkey
  · rw [hstate] at hrow
    rcases justified_rows hj hallowed hrow with hold | ⟨hcreated, -⟩
    · exact (h.issued key challenge hold).mono hlog
    · exact Or.inr ⟨_, List.mem_append_right _ List.mem_cons_self, hcreated⟩
  · rcases List.mem_append.1 he with hold | hnew
    · exact (h.justified e hold).mono hlog
    · obtain rfl := List.mem_singleton.1 hnew
      exact hj.mono hlog
  · rcases List.mem_append.1 he with hold | hnew
    · exact h.after e hold
    · obtain rfl := List.mem_singleton.1 hnew
      rfl
  · have hbefore := h.balance key
    have hnow := justified_balance hj hallowed key
    rw [hstate, Traced.handle_log, List.countP_append, List.countP_append, List.countP_singleton,
      List.countP_singleton]
    unfold issues spends at hbefore ⊢
    unfold written at hbefore ⊢
    dsimp only at hbefore ⊢
    omega

end History

/-! ## The contract of a request -/

section Contract

variable {ι : Type} [DecidableEq ι] (Signed : String → Unsigned → Prop) (t₀ : Table) (i : ι)

def nonceContract : Contract Op (Traced ι Op Table Choice) Choice where
  inv := Accounted Signed t₀
  assume _ _ _ := True
  rely s s' := (∀ e ∈ s.log, e ∈ s'.log) ∧ s'.own i = s.own i
  guar s s' := (∀ e ∈ s.log, e ∈ s'.log) ∧ ∀ j, i ≠ j → s'.own j = s.own j
  rely_refl _ := ⟨fun _ he => he, rfl⟩
  rely_trans h h' := ⟨fun e he => h'.1 e (h.1 e he), h'.2.trans h.2⟩

/-- The request has written nothing. -/
def Quiet (s : Traced ι Op Table Choice) : Prop := ∀ e ∈ s.own i, written e = []

/-- The end of a part that only reads. -/
def Reading {α : Type} (R : α → Traced ι Op Table Choice → Prop) :
    Except AppTheoryError α → Traced ι Op Table Choice → Prop
  | .ok a, s => Quiet i s ∧ R a s
  | .error _, s => Quiet i s

/-- The end of a request. An internal error says nothing. -/
def Settled {α : Type} : Except AppTheoryError α → Traced ι Op Table Choice → Prop
  | .ok _, _ => True
  | .error e, s => e.code = "app.internal" ∨ Quiet i s

variable {Signed} {t₀} {i} {s s' : Traced ι Op Table Choice}

theorem Quiet.later (h : Quiet i s) (hrely : (nonceContract Signed t₀ i).rely s s') : Quiet i s' := by
  unfold Quiet
  rw [hrely.2]
  exact h

theorem guar_handle (o : Op) (c : Choice) :
    (nonceContract Signed t₀ i).guar s ((Traced.env tableEnv i).handle o c s).2 := by
  refine ⟨fun e he => ?_, fun j hj => ?_⟩
  · rw [Traced.handle_log]
    exact List.mem_append_left _ he
  · exact Traced.own_handle_other hj o c s

theorem Quiet.handle (h : Quiet i s) {o : Op} {c : Choice} (hnone : carried o c s.state = []) :
    Quiet i ((Traced.env tableEnv i).handle o c s).2 := by
  intro e he
  rw [Traced.own_handle_self, List.mem_append] at he
  rcases he with he | he
  · exact h e he
  · obtain rfl := List.mem_singleton.1 he
    exact hnone

section Rules

variable {α β : Type} {R : α → Traced ι Op Table Choice → Prop}

theorem reading_fail {e : AppTheoryError} (hq : Quiet i s) :
    (Prog.fail e : Handler α).Meets (Traced.env tableEnv i) (nonceContract Signed t₀ i) (Reading i R) s :=
  Prog.meets_fail fun _ ht _ => hq.later ht

theorem reading_pure {a : α} (hq : Quiet i s)
    (h : ∀ t, (nonceContract Signed t₀ i).rely s t → Accounted Signed t₀ t → R a t) :
    (pure a : Handler α).Meets (Traced.env tableEnv i) (nonceContract Signed t₀ i) (Reading i R) s :=
  Prog.meets_pure fun t ht hi => ⟨hq.later ht, h t ht hi⟩

theorem reading_bind {p : Handler α} {f : α → Handler β} {R' : β → Traced ι Op Table Choice → Prop}
    (h : p.Meets (Traced.env tableEnv i) (nonceContract Signed t₀ i) (Reading i R) s)
    (hf : ∀ a t, Quiet i t → R a t →
      (f a).Meets (Traced.env tableEnv i) (nonceContract Signed t₀ i) (Reading i R') t) :
    (p >>= f).Meets (Traced.env tableEnv i) (nonceContract Signed t₀ i) (Reading i R') s :=
  Prog.meets_bind h (fun a t hR => hf a t hR.1 hR.2) fun _ _ hq => hq

theorem ended_bind {p : Handler α} {f : α → Handler β}
    (h : p.Meets (Traced.env tableEnv i) (nonceContract Signed t₀ i) (Reading i R) s)
    (hf : ∀ a t, Quiet i t → R a t →
      (f a).Meets (Traced.env tableEnv i) (nonceContract Signed t₀ i) (Settled i) t) :
    (p >>= f).Meets (Traced.env tableEnv i) (nonceContract Signed t₀ i) (Settled i) s :=
  Prog.meets_bind h (fun a t hR => hf a t hR.1 hR.2) fun _ _ hq => Or.inr hq

theorem ended_fail {e : AppTheoryError} (hq : Quiet i s) :
    (Prog.fail e : Handler α).Meets (Traced.env tableEnv i) (nonceContract Signed t₀ i) (Settled i) s :=
  Prog.meets_fail fun _ ht _ => Or.inr (hq.later ht)

/-- A test changes nothing. -/
theorem ended_liftExcept {x : Except AppTheoryError α} {f : α → Handler β} (hq : Quiet i s)
    (hf : ∀ a, x = .ok a →
      (f a).Meets (Traced.env tableEnv i) (nonceContract Signed t₀ i) (Settled i) s) :
    (liftExcept x >>= f).Meets (Traced.env tableEnv i) (nonceContract Signed t₀ i) (Settled i) s := by
  cases x with
  | ok a => exact hf a rfl
  | error e => exact ended_fail hq

theorem reading_perform {o : Op} (ho : ∀ ws, o ≠ .write ws) (hq : Quiet i s)
    {R : o.Res → Traced ι Op Table Choice → Prop}
    (h : ∀ t, Accounted Signed t₀ t → ∀ c u, (∀ e ∈ t.log, e ∈ u.log) → R (t.state.handle o c).1 u) :
    (Prog.perform o : Handler o.Res).Meets (Traced.env tableEnv i) (nonceContract Signed t₀ i)
      (Reading i R) s := by
  refine Prog.meets_perform fun t ht hinv c _ => ?_
  have hnone : carried o c t.state = [] := (handle_other ho c t.state).1
  have hguar : (nonceContract Signed t₀ i).guar t ((Traced.env tableEnv i).handle o c t).2 :=
    guar_handle o c
  refine ⟨hinv.step i o c ?_, hguar, fun u hu _ => ⟨?_, ?_⟩⟩
  · rw [hnone]
    exact .nothing
  · exact ((hq.later ht).handle hnone).later hu
  · exact h t hinv c u fun e he => hu.1 e (hguar.1 e he)

theorem carried_write (ws : List Write) (c : Choice) (t : Table) :
    carried (.write ws) c t = ws ∨ carried (.write ws) c t = [] := by
  by_cases h : c.fault ≠ .lost ∧ ws.all (Write.allowed t)
  · exact Or.inl (if_pos h)
  · exact Or.inr (if_neg h)

/-- A condition that failed has left everything as it was. -/
theorem carried_conditionFailed {ws : List Write} {c : Choice} {t : Table}
    (h : (t.handle (.write ws) c).1 = .error .conditionFailed) : carried (.write ws) c t = [] := by
  refine if_neg fun hall => ?_
  simp only [Table.handle, Choice.attempt, Table.write, if_pos hall.2] at h
  cases hfault : c.fault <;> simp [hfault] at h

/-- The write that ends a request. -/
theorem ended_writeOr {ws : List Write} {failure : StoreError → AppTheoryError} (hq : Quiet i s)
    (hj : Justified Signed t₀ s.log ws)
    (hfailure : ∀ e, e ≠ .conditionFailed → (failure e).code = "app.internal") :
    (writeOr ws failure).Meets (Traced.env tableEnv i) (nonceContract Signed t₀ i) (Settled i) s := by
  unfold writeOr
  refine Prog.meets_bind (R := fun r t => ∃ x, r = .ok x ∧ (x = .error .conditionFailed → Quiet i t)) ?_
    (fun x t hx => ?_) fun e t hx => ?_
  · refine Prog.meets_perform fun t ht hinv c _ => ?_
    refine ⟨hinv.step i _ c ?_, guar_handle _ c, fun u hu _ => ⟨_, rfl, fun hfailed => ?_⟩⟩
    · rcases carried_write ws c t.state with hws | hws
      · rw [hws]
        exact hj.mono ht.1
      · rw [hws]
        exact .nothing
    · exact ((hq.later ht).handle (carried_conditionFailed hfailed)).later hu
  · obtain ⟨x', hsame, hquiet⟩ := hx
    cases hsame
    split
    · exact Prog.meets_pure fun _ _ _ => trivial
    · next e =>
        refine Prog.meets_fail fun u hu _ => ?_
        by_cases he : e = .conditionFailed
        · subst he
          exact Or.inr ((hquiet rfl).later hu)
        · exact Or.inl (hfailure e he)
  · obtain ⟨x', hsame, -⟩ := hx
    cases hsame

end Rules

/-! ## The parts of a request -/

/-- An identity of an agent as it was read. -/
def WalletOf (t₀ : Table) (agentIDHex : String) (identity : SoulAgentIdentity) : Prop :=
  ∃ row, t₀.identities agentIDHex = some row ∧ identity.Wallet = row.Wallet

omit [DecidableEq ι] in
theorem Accounted.walletOf (h : Accounted Signed t₀ s) {a : String} {identity : SoulAgentIdentity}
    (hrow : s.state.identities a = some identity) : WalletOf t₀ a (readRepair identity) := by
  have hwallet := h.wallets a
  rw [hrow, Option.map_some] at hwallet
  cases hstart : t₀.identities a with
  | none => rw [hstart] at hwallet; cases hwallet
  | some row =>
      rw [hstart, Option.map_some] at hwallet
      exact ⟨row, hstart, by rw [readRepair_Wallet, Option.some.inj hwallet]⟩

theorem handle_getChallenge {t : Table} {agentID nonce : String} {c : Choice}
    {challenge : SoulLifecycleChallenge} (h : (t.handle (.getChallenge agentID nonce) c).1 = .ok challenge) :
    t.challenges (agentID, nonce) = some challenge :=
  found_of_attempt h

theorem reading_now (hq : Quiet i s) : now.Meets (Traced.env tableEnv i) (nonceContract Signed t₀ i)
    (Reading i fun _ _ => True) s := by
  unfold now
  exact reading_perform (o := Op.now) (R := fun _ _ => True) (by simp) hq fun _ _ _ _ _ => trivial

theorem reading_requireSoulDomainAccess (domain : String) (hq : Quiet i s) :
    (requireSoulDomainAccess domain).Meets (Traced.env tableEnv i) (nonceContract Signed t₀ i)
      (Reading i fun _ _ => True) s := by
  unfold requireSoulDomainAccess
  refine reading_bind (R := fun _ _ => True) (reading_perform (by simp) hq fun _ _ _ _ _ => trivial)
    fun x t hq _ => ?_
  cases x with
  | ok a => exact reading_pure hq fun _ _ _ => trivial
  | error e => exact reading_fail hq

theorem reading_getSoulAgentIdentity {agentID : String} (h : Normal agentID) (hne : agentID ≠ "")
    (hq : Quiet i s) :
    (getSoulAgentIdentity agentID).Meets (Traced.env tableEnv i) (nonceContract Signed t₀ i)
      (Reading i fun x _ => ∀ identity, x = .ok identity → WalletOf t₀ agentID identity) s := by
  rw [getSoulAgentIdentity_normal h hne]
  unfold fetchIdentity
  refine reading_bind (R := fun x _ => ∀ row, x = .ok row → WalletOf t₀ agentID (readRepair row))
    (reading_perform (by simp) hq fun t hinv c u _ row hrow => ?_) fun x t hq hx => ?_
  · exact hinv.walletOf (handle_getIdentity hrow)
  · split
    · exact reading_pure hq fun _ _ _ _ h => by cases h
    · next row =>
        refine reading_pure hq fun _ _ _ identity hid => ?_
        rw [← Except.ok.inj hid]
        exact hx row rfl

theorem reading_loadSoulLifecycleIdentity {agentID : String} (h : Normal agentID) (hne : agentID ≠ "")
    (hq : Quiet i s) :
    (loadSoulLifecycleIdentity agentID).Meets (Traced.env tableEnv i) (nonceContract Signed t₀ i)
      (Reading i fun identity _ => WalletOf t₀ agentID identity) s := by
  unfold loadSoulLifecycleIdentity
  refine reading_bind (reading_getSoulAgentIdentity h hne hq) fun x t hq hx => ?_
  split
  · exact reading_fail hq
  · next identity =>
      refine reading_bind (reading_requireSoulDomainAccess _ hq) fun _ t hq _ => ?_
      exact reading_pure hq fun _ _ _ => hx identity rfl

theorem reading_loadSoulActiveSuccessorIdentity {successorIDHex : String} (identity : SoulAgentIdentity)
    (h : Normal successorIDHex) (hne : successorIDHex ≠ "") (hq : Quiet i s) :
    (loadSoulActiveSuccessorIdentity identity successorIDHex).Meets (Traced.env tableEnv i)
      (nonceContract Signed t₀ i) (Reading i fun identity _ => WalletOf t₀ successorIDHex identity) s := by
  unfold loadSoulActiveSuccessorIdentity
  refine reading_bind (reading_getSoulAgentIdentity h hne hq) fun x t hq hx => ?_
  split
  · exact reading_fail hq
  · next successorIdentity =>
      have hwallet := hx successorIdentity rfl
      refine Prog.meets_ite (fun _ => reading_fail hq) fun _ => ?_
      refine Prog.meets_ite (fun _ => ?_) fun _ => ?_
      · refine reading_bind (reading_requireSoulDomainAccess _ hq) fun _ t hq _ => ?_
        exact Prog.meets_ite (fun _ => reading_fail hq) fun _ => reading_pure hq fun _ _ _ => hwallet
      · exact Prog.meets_ite (fun _ => reading_fail hq) fun _ => reading_pure hq fun _ _ _ => hwallet

theorem reading_newSoulContinuityNonce (hq : Quiet i s) :
    newSoulContinuityNonce.Meets (Traced.env tableEnv i) (nonceContract Signed t₀ i)
      (Reading i fun _ _ => True) s := by
  unfold newSoulContinuityNonce
  refine reading_bind (R := fun _ _ => True) (reading_perform (by simp) hq fun _ _ _ _ _ => trivial)
    fun x t hq _ => ?_
  split
  · exact reading_pure hq fun _ _ _ => trivial
  · exact reading_fail hq

/-- The challenge of a confirm request. -/
structure Loaded (agentIDHex nonce purpose successorIDHex : String) (now : Time)
    (challenge : SoulLifecycleChallenge) : Prop where
  agent : challenge.AgentID = ToLower (TrimSpace agentIDHex)
  nonce : challenge.Nonce = TrimSpace nonce
  purpose : challenge.Purpose = ToLower (TrimSpace purpose)
  successor : challenge.Purpose = soulLifecycleChallengePurposeDesignateSuccessor →
    challenge.SuccessorAgentID = ToLower (TrimSpace successorIDHex)
  live : now.Before challenge.ExpiresAt = true

theorem challenge_fields {challenge : SoulLifecycleChallenge} (h : challenge.UpdateKeys = challenge) :
    ToLower (TrimSpace challenge.AgentID) = challenge.AgentID ∧
      TrimSpace challenge.Nonce = challenge.Nonce ∧
      ToLower (TrimSpace challenge.Purpose) = challenge.Purpose ∧
      ToLower (TrimSpace challenge.SuccessorAgentID) = challenge.SuccessorAgentID := by
  unfold SoulLifecycleChallenge.UpdateKeys at h
  obtain ⟨ttl, agentID, nonce, purpose, successorID, issuedAt, expiresAt⟩ := challenge
  simp only [SoulLifecycleChallenge.mk.injEq] at h
  exact ⟨h.2.1, h.2.2.1, h.2.2.2.1, h.2.2.2.2.1⟩

theorem validate_ok {challenge r : SoulLifecycleChallenge}
    {agentIDHex nonce purpose successorIDHex : String} {now : Time}
    (hkeys : challenge.UpdateKeys = challenge)
    (h : validateSoulLifecycleChallenge challenge agentIDHex nonce purpose successorIDHex now = .ok r) :
    r = challenge ∧ Loaded agentIDHex nonce purpose successorIDHex now challenge := by
  obtain ⟨hagent, hnonce, hpurpose, hsuccessor⟩ := challenge_fields hkeys
  unfold validateSoulLifecycleChallenge at h
  rw [hagent, hnonce, hpurpose, hsuccessor, hkeys] at h
  split at h
  · cases h
  · next hfields =>
      simp only [ne_eq, not_or, not_not] at hfields
      split at h
      · cases h
      · next hother =>
          split at h
          · cases h
          · next hlive =>
              simp only [not_or, Bool.not_eq_false] at hlive
              refine ⟨(Except.ok.inj h).symm, hfields.1, hfields.2.1, hfields.2.2, fun hpur => ?_, hlive.2⟩
              by_contra hne
              exact hother ⟨by rw [← hfields.2.2, hpur], hne⟩

theorem reading_loadSoulLifecycleChallenge (agentIDHex nonce purpose successorIDHex : String) (now : Time)
    (hq : Quiet i s) :
    (loadSoulLifecycleChallenge agentIDHex nonce purpose successorIDHex now).Meets
      (Traced.env tableEnv i) (nonceContract Signed t₀ i)
      (Reading i fun challenge t => Issued t₀ t.log challenge ∧
        Loaded (ToLower (TrimSpace agentIDHex)) (TrimSpace nonce) purpose successorIDHex now challenge)
      s := by
  unfold loadSoulLifecycleChallenge
  dsimp only
  refine Prog.meets_ite (fun _ => reading_fail hq) fun _ => ?_
  refine reading_bind (R := fun x t => ∀ challenge, x = .ok challenge →
    Issued t₀ t.log challenge ∧ challenge.UpdateKeys = challenge)
    (reading_perform (by simp) hq fun t hinv c u hlog challenge hread => ?_) fun x t hq hx => ?_
  · have hrow := handle_getChallenge hread
    exact ⟨(hinv.issued _ _ hrow).mono hlog, (hinv.keyed _ _ hrow).2⟩
  · split
    · exact reading_fail hq
    · exact reading_fail hq
    · next challenge =>
        obtain ⟨hissued, hkeys⟩ := hx challenge rfl
        cases hvalid : validateSoulLifecycleChallenge challenge (ToLower (TrimSpace agentIDHex))
            (TrimSpace nonce) purpose successorIDHex now with
        | error e => exact reading_fail hq
        | ok r =>
            obtain ⟨rfl, hloaded⟩ := validate_ok  hkeys hvalid
            exact reading_pure hq fun u hu _ => ⟨hissued.mono hu.1, hloaded⟩

/-! ## The requests -/

section Requests

variable {server : Server}
  (hs : Unforgeable server.digest server.verifyEthereumSignatureBytesNonMalleable Signed)

include hs in
/-- A signature that was checked against the wallet of an agent. -/
theorem signedByWallet {agentIDHex sig : String} {identity : SoulAgentIdentity} {u : Unsigned}
    {digest : Digest} (hwallet : WalletOf t₀ agentIDHex identity) (hdigest : server.digest u = some digest)
    (hverify : server.verifyEthereumSignatureBytesNonMalleable identity.Wallet digest sig = true) :
    SignedByWallet Signed t₀ agentIDHex u := by
  obtain ⟨row, hrow, hsame⟩ := hwallet
  rw [hsame] at hverify
  obtain ⟨v, hv, hsigned⟩ := hs.signature _ _ _ hverify
  exact ⟨row, v, hrow, hsigned, hs.digest v u digest hv hdigest⟩

theorem UpdateKeys_newSoulLifecycleChallenge (agentIDHex nonce purpose successorIDHex : String)
    (now : Time) :
    (newSoulLifecycleChallenge agentIDHex nonce purpose successorIDHex now).UpdateKeys
      = newSoulLifecycleChallenge agentIDHex nonce purpose successorIDHex now := by
  unfold newSoulLifecycleChallenge SoulLifecycleChallenge.UpdateKeys
  simp only [TrimSpace_ToLower_TrimSpace, ToLower_idem, TrimSpace_idem, Time.UTC_UTC, Time.IsZero_UTC]
  split_ifs <;> rfl

theorem ended_archiveBegin (agentID : String) (hq : Quiet i s) :
    (handleSoulArchiveAgentBegin server agentID).Meets (Traced.env tableEnv i)
      (nonceContract Signed t₀ i) (Settled i) s := by
  unfold handleSoulArchiveAgentBegin
  refine ended_liftExcept hq fun agentIDHex hagent => ?_
  obtain ⟨hnormal, hne⟩ := parseSoulAgentIDHex_normal hagent
  refine ended_bind (reading_loadSoulLifecycleIdentity hnormal hne hq) fun identity s hq _ => ?_
  refine ended_liftExcept hq fun _ _ => ?_
  refine ended_bind (reading_now hq) fun now s hq _ => ?_
  refine ended_bind (reading_newSoulContinuityNonce hq) fun nonce s hq _ => ?_
  refine ended_liftExcept hq fun digest _ => ?_
  refine Prog.meets_bind (ended_writeOr hq (.issue (UpdateKeys_newSoulLifecycleChallenge _ _ _ _ _))
    fun _ _ => rfl) (fun _ s _ => Prog.meets_pure fun _ _ _ => trivial) fun e s h => h

theorem ended_successorBegin (agentID successorAgentID : String) (hq : Quiet i s) :
    (handleSoulDesignateSuccessorBegin server agentID successorAgentID).Meets (Traced.env tableEnv i)
      (nonceContract Signed t₀ i) (Settled i) s := by
  unfold handleSoulDesignateSuccessorBegin
  refine ended_liftExcept hq fun agentIDHex hagent => ?_
  obtain ⟨hnormal, hne⟩ := parseSoulAgentIDHex_normal hagent
  refine ended_bind (reading_loadSoulLifecycleIdentity hnormal hne hq) fun identity s hq _ => ?_
  refine ended_liftExcept hq fun _ _ => ?_
  refine ended_liftExcept hq fun successorIDHex hsuccessor => ?_
  obtain ⟨hnormal', hne', -⟩ := normalizeSoulSuccessorAgentID_normal hsuccessor
  refine ended_bind (reading_loadSoulActiveSuccessorIdentity identity hnormal' hne' hq)
    fun _ s hq _ => ?_
  refine ended_bind (reading_newSoulContinuityNonce hq) fun nonce s hq _ => ?_
  refine ended_bind (reading_now hq) fun now s hq _ => ?_
  refine ended_liftExcept hq fun declared _ => ?_
  refine ended_liftExcept hq fun received _ => ?_
  refine Prog.meets_bind (ended_writeOr hq (.issue (UpdateKeys_newSoulLifecycleChallenge _ _ _ _ _))
    fun _ _ => rfl) (fun _ s _ => Prog.meets_pure fun _ _ _ => trivial) fun e s h => h

theorem purposes_normal :
    ToLower (TrimSpace soulLifecycleChallengePurposeArchiveAgent)
        = soulLifecycleChallengePurposeArchiveAgent ∧
      ToLower (TrimSpace soulLifecycleChallengePurposeDesignateSuccessor)
        = soulLifecycleChallengePurposeDesignateSuccessor := by
  decide

theorem confirmFailure_internal (message : String) (e : StoreError) (he : e ≠ .conditionFailed) :
    (confirmFailure message e).code = "app.internal" := by
  cases e with
  | conditionFailed => exact absurd rfl he
  | _ => rfl

/-- The payload of a nonce does not depend on the white space around it. -/
theorem unsignedContinuityEntry_nonce (entryType timestamp summary recovery nonce : String)
    (references : List String) :
    unsignedContinuityEntry entryType timestamp summary recovery references (TrimSpace nonce)
      = unsignedContinuityEntry entryType timestamp summary recovery references nonce := by
  unfold unsignedContinuityEntry
  rw [TrimSpace_idem]

include hs in
theorem ended_archive (agentID : String) (req : soulArchiveRequest) (hq : Quiet i s) :
    (handleSoulArchiveAgent server agentID req).Meets (Traced.env tableEnv i)
      (nonceContract Signed t₀ i) (Settled i) s := by
  unfold handleSoulArchiveAgent
  refine ended_liftExcept hq fun agentIDHex hagent => ?_
  obtain ⟨hnormal, hne⟩ := parseSoulAgentIDHex_normal hagent
  refine ended_bind (reading_loadSoulLifecycleIdentity hnormal hne hq) fun identity s hq hwallet => ?_
  refine ended_liftExcept hq fun _ _ => ?_
  refine ended_bind (reading_now hq) fun received s hq _ => ?_
  refine ended_liftExcept hq fun stamp _ => ?_
  obtain ⟨parsedTS, timestampCanonical⟩ := stamp
  refine ended_liftExcept hq fun sig _ => ?_
  refine ended_liftExcept hq fun nonce _ => ?_
  refine ended_bind (reading_now hq) fun now s hq _ => ?_
  refine ended_bind (reading_loadSoulLifecycleChallenge _ _ _ _ _ hq) fun challenge s hq hload => ?_
  obtain ⟨hissued, hloaded⟩ := hload
  refine ended_liftExcept hq fun digest hdigest => ?_
  refine Prog.meets_ite (fun _ => ended_fail hq) fun hverify => ?_
  rw [Bool.not_eq_false] at hverify
  have hagent' : challenge.AgentID = agentIDHex := by
    rw [hloaded.agent, TrimSpace_ToLower_TrimSpace, ToLower_idem]
    exact hnormal
  have hsigned := signedByWallet hs hwallet (computeSoulContinuityEntryDigest_ok.1 hdigest) hverify
  rw [← unsignedContinuityEntry_nonce, ← TrimSpace_idem nonce, ← hloaded.nonce] at hsigned
  refine ended_writeOr hq (.archive hissued hagent' ?_ hloaded.live hsigned identity _ sig parsedTS)
    (confirmFailure_internal _)
  rw [hloaded.purpose, purposes_normal.1]

include hs in
theorem ended_successor (agentID : String) (req : soulDesignateSuccessorRequest) (hq : Quiet i s) :
    (handleSoulDesignateSuccessor server agentID req).Meets (Traced.env tableEnv i)
      (nonceContract Signed t₀ i) (Settled i) s := by
  unfold handleSoulDesignateSuccessor
  refine ended_liftExcept hq fun agentIDHex hagent => ?_
  obtain ⟨hnormal, hne⟩ := parseSoulAgentIDHex_normal hagent
  refine ended_bind (reading_loadSoulLifecycleIdentity hnormal hne hq) fun identity s hq hwallet => ?_
  refine ended_liftExcept hq fun _ _ => ?_
  refine ended_liftExcept hq fun successorIDHex hsuccessor => ?_
  obtain ⟨hnormal', hne', -⟩ := normalizeSoulSuccessorAgentID_normal hsuccessor
  refine ended_bind (reading_now hq) fun received s hq _ => ?_
  refine ended_liftExcept hq fun stamp _ => ?_
  obtain ⟨parsedTS, timestampCanonical⟩ := stamp
  refine ended_liftExcept hq fun predSig _ => ?_
  refine ended_liftExcept hq fun succSig _ => ?_
  refine ended_liftExcept hq fun nonce _ => ?_
  refine ended_bind (reading_now hq) fun now s hq _ => ?_
  refine ended_bind (reading_loadSoulLifecycleChallenge _ _ _ _ _ hq) fun challenge s hq hload => ?_
  obtain ⟨hissued, hloaded⟩ := hload
  -- the challenge stays issued while the successor is read
  have hread : (loadSoulActiveSuccessorIdentity identity successorIDHex).Meets (Traced.env tableEnv i)
      (nonceContract Signed t₀ i) (Reading i fun identity _ => WalletOf t₀ successorIDHex identity) s :=
    reading_loadSoulActiveSuccessorIdentity identity hnormal' hne' hq
  have hframed := hread.frame (F := fun t => Issued t₀ t.log challenge)
    (fun _ _ h hF => hF.mono h.1) (fun _ _ h hF => hF.mono h.1) hissued
  refine Prog.meets_bind hframed (fun successorIdentity s hR => ?_) fun e s hR => Or.inr hR.1
  obtain ⟨⟨hq, hwallet'⟩, hissued⟩ := hR
  refine ended_liftExcept hq fun declared hdeclared => ?_
  refine Prog.meets_ite (fun _ => ended_fail hq) fun hverify => ?_
  rw [Bool.not_eq_false] at hverify
  refine ended_liftExcept hq fun received hreceived => ?_
  refine Prog.meets_ite (fun _ => ended_fail hq) fun hverify' => ?_
  rw [Bool.not_eq_false] at hverify'
  have hagent' : challenge.AgentID = agentIDHex := by
    rw [hloaded.agent, TrimSpace_ToLower_TrimSpace, ToLower_idem]
    exact hnormal
  have hpurpose : challenge.Purpose = soulLifecycleChallengePurposeDesignateSuccessor := by
    rw [hloaded.purpose, purposes_normal.2]
  have hsuccessor' : challenge.SuccessorAgentID = successorIDHex :=
    (hloaded.successor hpurpose).trans hnormal'
  have hsigned := signedByWallet hs hwallet (computeSoulContinuityEntryDigest_ok.1 hdeclared) hverify
  have hsigned' := signedByWallet hs hwallet' (computeSoulContinuityEntryDigest_ok.1 hreceived) hverify'
  rw [← unsignedContinuityEntry_nonce, ← TrimSpace_idem nonce, ← hloaded.nonce] at hsigned hsigned'
  exact ended_writeOr hq (.succession hissued hagent' hpurpose hsuccessor' hloaded.live hsigned hsigned'
    identity successorIdentity _ predSig succSig parsedTS) (confirmFailure_internal _)

end Requests

end Contract

/-! ## Any number of requests -/

def ceremonies {ι : Type} (server : Server) (admits : SoulAgentIdentity → Except AppTheoryError Unit)
    (requests : ι → Ceremony) (t : Table) :
    Config ι Op Op.Res AppTheoryError Response (Traced ι Op Table Choice) :=
  lifecycle server admits (fun i => (requests i).request) t

section Run

variable {ι : Type} [DecidableEq ι] {Signed : String → Unsigned → Prop} {t₀ : Table} {server : Server}

theorem ended_request (hs : Unforgeable server.digest server.verifyEthereumSignatureBytesNonMalleable Signed)
    (admits : SoulAgentIdentity → Except AppTheoryError Unit) (r : Ceremony) {i : ι}
    {s : Traced ι Op Table Choice} (hq : Quiet i s) :
    (r.request.handler server admits).Meets (Traced.env tableEnv i) (nonceContract Signed t₀ i) (Settled i)
      s := by
  have hanswer : ∀ {α : Type} {p : Handler α} {f : α → Response},
      p.Meets (Traced.env tableEnv i) (nonceContract Signed t₀ i) (Settled i) s →
      (p >>= fun a => (pure (f a) : Handler Response)).Meets (Traced.env tableEnv i)
        (nonceContract Signed t₀ i) (Settled i) s :=
    fun h => Prog.meets_bind h (fun _ _ _ => Prog.meets_pure fun _ _ _ => trivial) fun _ _ h => h
  cases r with
  | archiveBegin agentID => exact hanswer (ended_archiveBegin agentID hq)
  | archive agentID req => exact hanswer (ended_archive hs agentID req hq)
  | successorBegin agentID successorAgentID =>
      exact hanswer (ended_successorBegin agentID successorAgentID hq)
  | successor agentID req => exact hanswer (ended_successor hs agentID req hq)

theorem nonce_compatible :
    Compatible (nonceContract (ι := ι) Signed t₀) (Accounted Signed t₀) :=
  ⟨fun _ _ => Iff.rfl, fun _ j hij _ _ _ _ h => ⟨h.1, h.2 j hij⟩⟩

omit [DecidableEq ι] in
theorem accounted_start (hstart : t₀.Keyed) :
    Accounted Signed t₀ (Traced.start t₀ : Traced ι Op Table Choice) where
  wallets _ := rfl
  keyed := hstart
  issued key challenge hrow := by
    refine Or.inl ?_
    rw [(hstart key challenge hrow).1]
    exact hrow
  justified e he := by cases he
  after e he := by cases he
  balance key := by simp [Traced.start]

theorem ceremonies_fit
    (hs : Unforgeable server.digest server.verifyEthereumSignatureBytesNonMalleable Signed)
    (admits : SoulAgentIdentity → Except AppTheoryError Unit) (requests : ι → Ceremony)
    (hstart : t₀.Keyed) (moves : List (ι × Choice)) :
    Fits (Traced.env tableEnv) (nonceContract Signed t₀) (Accounted Signed t₀) (fun i => Settled i)
      ((ceremonies server admits requests t₀).run (Traced.env tableEnv) moves) := by
  refine Fits.run nonce_compatible ⟨accounted_start hstart, fun i => ?_⟩ ?_
  · unfold ceremonies lifecycle
    dsimp only
    exact ended_request hs admits (requests i) fun e he => by cases he
  · generalize ceremonies server admits requests t₀ = cfg
    induction moves generalizing cfg with
    | nil => trivial
    | cons m moves ih => exact ⟨fun _ _ _ => trivial, ih _⟩

/-- **A nonce is used once, for what it was issued for.** -/
theorem nonces_single_use
    (hs : Unforgeable server.digest server.verifyEthereumSignatureBytesNonMalleable Signed)
    (admits : SoulAgentIdentity → Except AppTheoryError Unit) (requests : ι → Ceremony)
    (hstart : t₀.Keyed) (moves : List (ι × Choice)) :
    let cfg := (ceremonies server admits requests t₀).run (Traced.env tableEnv) moves
    (∀ key, cfg.state.log.countP (spends key)
      ≤ cfg.state.log.countP (issues key) + (t₀.challenges key).toList.length) ∧
    (∀ e ∈ cfg.state.log, Justified Signed t₀ cfg.state.log (written e)) ∧
    (∀ i e, cfg.threads i = .fail e → e.code ≠ "app.internal" → ∀ ev ∈ cfg.state.own i,
      ev.after.identities = ev.before.identities ∧ ev.after.challenges = ev.before.challenges ∧
      ev.after.continuity = ev.before.continuity) := by
  intro cfg
  have hfits : Fits (Traced.env tableEnv) (nonceContract Signed t₀) (Accounted Signed t₀)
      (fun i => Settled i) cfg := ceremonies_fit hs admits requests hstart moves
  refine ⟨fun key => ?_, hfits.inv.justified, fun i e hi hcode ev hev => ?_⟩
  · have hbalance := hfits.inv.balance key
    omega
  · have hnothing : carried ev.op ev.choice ev.before = [] :=
      (hfits.failure nonce_compatible hi).resolve_left hcode ev hev
    rw [hfits.inv.after ev (List.mem_of_mem_filter hev), handle_rows, hnothing]
    exact ⟨rfl, rfl, rfl⟩

end Run

/-! ## Late

One agent confirms its archive. The request has read the clock and its challenge when another request
reads the clock a minute later. -/

def lateChallenge : SoulLifecycleChallenge where
  TTL := (raceNow.Add Minute).Unix
  AgentID := agentIDOf '1'
  Nonce := "n"
  Purpose := soulLifecycleChallengePurposeArchiveAgent
  SuccessorAgentID := ""
  IssuedAt := raceNow
  ExpiresAt := raceNow.Add Minute

def lateTable (time : Time) : Table where
  identities a := if a = agentIDOf '1' ∨ a = agentIDOf '2' then some raceIdentity else none
  challenges key := if key = (agentIDOf '1', "n") then some lateChallenge else none
  continuity _ := none
  now := time

def lateRequest : soulArchiveRequest where
  Reason := ""
  Timestamp := "0001-01-01T01:00:00Z"
  Signature := "s"
  Nonce := "n"

def latePayload : Unsigned := archivePayload (agentIDOf '1') (canonicalSoulSignedTimestamp raceNow) "n"

def lateServer : Server where
  digest u := if u = latePayload then some [1] else none
  verifyEthereumSignatureBytes wallet d sig := wallet == "w" && d == [1] && sig == "s"
  verifyEthereumSignatureBytesNonMalleable wallet d sig := wallet == "w" && d == [1] && sig == "s"

def lateRequests : Bool → Ceremony
  | false => .archive (agentIDOf '1') lateRequest
  | true => .archiveBegin (agentIDOf '2')

def lateWrites : List Write :=
  archiveWrites (agentIDOf '1') raceIdentity lateChallenge (TrimSpace "") "s" raceNow raceNow

/-- A reading of the clock a minute later. -/
def lateChoice : Choice := { sampleChoice with elapsed := 60000000000 }

def lateCeremonies : Config Bool Op Op.Res AppTheoryError Response (Traced Bool Op Table Choice) :=
  ceremonies lateServer (fun _ => .ok ()) lateRequests (lateTable raceNow)

theorem lateServer_unforgeable :
    Unforgeable lateServer.digest lateServer.verifyEthereumSignatureBytesNonMalleable
      fun wallet u => wallet = "w" ∧ u = latePayload := by
  refine .of_single [1] (fun u d => ?_) fun wallet d sig h => ?_
  · show (if u = latePayload then some [1] else none) = some d ↔ _
    by_cases hu : u = latePayload
    · simp [hu, eq_comm]
    · simp [hu]
  · simp only [lateServer, Bool.and_eq_true, beq_iff_eq] at h
    exact h.1

theorem late_texts : TrimSpace "n" = "n" ∧ ToLower (TrimSpace "") = "" := by decide

theorem late_mutable : validateSoulLifecycleMutableStatus raceIdentity "be archived" = .ok () := by
  decide

theorem lateTable_keyed (time : Time) : (lateTable time).Keyed := by
  intro key challenge hrow
  unfold lateTable at hrow
  dsimp only at hrow
  split at hrow
  · next hkey =>
      cases hrow
      refine ⟨hkey.symm, ?_⟩
      have hagent : ToLower (TrimSpace (agentIDOf '1')) = agentIDOf '1' := normal_agentIDOf (by decide)
      have hnonce := late_texts
      have htimes : (raceNow.Add Minute).IsZero = false ∧ raceNow.UTC = raceNow ∧
          (raceNow.Add Minute).UTC = raceNow.Add Minute := ⟨race_times.1, race_times.2.2⟩
      simp only [SoulLifecycleChallenge.UpdateKeys, lateChallenge, hagent, hnonce, purposes_normal.1, htimes,
        Bool.false_eq_true, if_false]
  · cases hrow

theorem late_row (time : Time) {digit : Char} (h : digit = '1' ∨ digit = '2') :
    (lateTable time).identities (agentIDOf digit) = some raceIdentity := by
  unfold lateTable
  dsimp only
  rcases h with rfl | rfl
  · rw [if_pos (Or.inl rfl)]
  · rw [if_pos (Or.inr rfl)]

theorem late_getIdentity (time : Time) {digit : Char} (h : digit = '1' ∨ digit = '2') :
    (lateTable time).handle (.getIdentity (agentIDOf digit)) sampleChoice
      = (.ok raceIdentity, lateTable time) := by
  show (found ((lateTable time).identities (agentIDOf digit)), lateTable time) = _
  rw [late_row time h]
  rfl

theorem late_challenge (time : Time) : (lateTable time).challenges (agentIDOf '1', "n") = some lateChallenge := by
  unfold lateTable
  dsimp only
  rw [if_pos rfl]

theorem late_getChallenge (time : Time) :
    (lateTable time).handle (.getChallenge (ToLower (TrimSpace (agentIDOf '1'))) (TrimSpace "n"))
      sampleChoice = (.ok lateChallenge, lateTable time) := by
  have hagent : ToLower (TrimSpace (agentIDOf '1')) = agentIDOf '1' := normal_agentIDOf (by decide)
  have hnonce := race_nonce
  rw [hagent, hnonce]
  show (found ((lateTable time).challenges (agentIDOf '1', "n")), lateTable time) = _
  rw [late_challenge]
  rfl

theorem late_valid : validateSoulLifecycleChallenge lateChallenge (agentIDOf '1') "n"
    soulLifecycleChallengePurposeArchiveAgent "" raceNow = .ok lateChallenge := by
  have hagent : ToLower (TrimSpace (agentIDOf '1')) = agentIDOf '1' := normal_agentIDOf (by decide)
  have hnonce := late_texts
  have hother : soulLifecycleChallengePurposeArchiveAgent
      ≠ soulLifecycleChallengePurposeDesignateSuccessor := by decide
  have htimes : (raceNow.Add Minute).IsZero = false ∧ raceNow.Before (raceNow.Add Minute) = true ∧
      raceNow.UTC = raceNow ∧ (raceNow.Add Minute).UTC = raceNow.Add Minute := race_times
  simp only [validateSoulLifecycleChallenge, lateChallenge, SoulLifecycleChallenge.UpdateKeys, hagent, hnonce,
    purposes_normal.1, hother, htimes, ne_eq, not_true, or_self, and_false, if_false,
    Bool.false_eq_true, Bool.true_eq_false]

/-- The archive comes to its transaction. -/
theorem late_goes : ∃ k log, ((lateRequests false).request.handler lateServer fun _ => .ok ()).Goes
    (Traced.env tableEnv false) (fun o _ _ => ∀ ws, o ≠ .write ws) (List.replicate 5 sampleChoice)
    ⟨lateTable raceNow, []⟩ (.op (.write lateWrites) k) ⟨lateTable raceNow, log⟩ := by
  have hok : ∀ {α : Type} (a : α), (liftExcept (.ok a) : Handler α) = .ret a := fun _ => rfl
  have hget := getSoulAgentIdentity_normal (normal_agentIDOf (d := '1') (by decide))
    (agentIDOf_ne_empty '1')
  have hrepair := race_repair
  have hmutable := late_mutable
  have hrequired : required lateRequest.Signature "signature" = .ok "s" ∧
      required lateRequest.Nonce "continuity_nonce" = .ok "n" := by decide
  have hstamp : parseSoulSignedTimestamp lateRequest.Timestamp raceNow
      = .ok (raceNow, canonicalSoulSignedTimestamp raceNow) := by decide
  have hagent : ToLower (TrimSpace (agentIDOf '1')) = agentIDOf '1' := normal_agentIDOf (by decide)
  have hnonce := race_nonce
  have hkey : ¬ (ToLower (TrimSpace (agentIDOf '1')) = "" ∨ TrimSpace "n" = "") := by
    rw [hagent, hnonce]
    exact fun hor => hor.elim (agentIDOf_ne_empty '1') (by decide)
  have haccess : (lateTable raceNow).handle (.requireDomainAccess (TrimSpace raceIdentity.Domain))
      sampleChoice = (.ok (), lateTable raceNow) := rfl
  have hnow : (lateTable raceNow).handle .now sampleChoice = (raceNow, lateTable raceNow) := rfl
  have hdigest : computeSoulContinuityEntryDigest lateServer SoulContinuityEntryTypeArchived
      (canonicalSoulSignedTimestamp raceNow) "Archived" "" (soulArchiveReferences (agentIDOf '1')) "n"
        = .ok [1] := by
    unfold computeSoulContinuityEntryDigest lateServer
    dsimp only
    rw [if_pos (by rw [latePayload, archivePayload])]
  have hverify : lateServer.verifyEthereumSignatureBytesNonMalleable raceIdentity.Wallet [1] "s" = true := by
    decide
  refine ⟨?_, ?_, ?goes⟩
  case goes =>
    simp only [lateRequests, Ceremony.request, Request.handler, handleSoulArchiveAgent,
      parse_agentIDOf (d := '1') (by decide) (by decide), hok, Prog.ret_bind, loadSoulLifecycleIdentity, hget,
      fetchIdentity, Prog.bind_assoc, Prog.perform_bind, Prog.op_bind, List.replicate]
    refine goes_read (fun _ ho => by cases ho) (late_getIdentity raceNow (Or.inl rfl)) ?_
    simp only [Prog.pure_eq, Prog.ret_bind, requireSoulDomainAccess, hrepair, Prog.bind_assoc,
      Prog.perform_bind, Prog.op_bind]
    refine goes_read (fun _ ho => by cases ho) haccess ?_
    simp only [Prog.ret_bind, hok, hmutable, now, Prog.perform_bind]
    refine goes_read (fun _ ho => by cases ho) hnow ?_
    simp only [Prog.ret_bind, hok, hstamp, hrequired]
    refine goes_read (fun _ ho => by cases ho) hnow ?_
    simp only [loadSoulLifecycleChallenge, if_neg hkey]
    simp only [Prog.op_bind, Prog.perform_bind]
    refine goes_read (fun _ ho => by cases ho) (late_getChallenge raceNow) ?_
    simp only [hagent, hnonce, late_valid, hok, Prog.ret_bind, hdigest, hverify, if_false,
      Bool.true_eq_false, writeOr, Prog.perform_bind, Prog.op_bind]
    exact .nil _ _

/-- The other request reads the clock a minute later. -/
theorem late_begin (log : List (Event Bool Op Table Choice)) :
    ∃ p log', ((lateRequests true).request.handler lateServer fun _ => .ok ()).Goes
      (Traced.env tableEnv true) (fun o _ _ => ∀ ws, o ≠ .write ws)
      [sampleChoice, sampleChoice, lateChoice] ⟨lateTable raceNow, log⟩ p
      ⟨lateTable (raceNow.Add Minute), log'⟩ := by
  have hok : ∀ {α : Type} (a : α), (liftExcept (.ok a) : Handler α) = .ret a := fun _ => rfl
  have hget := getSoulAgentIdentity_normal (normal_agentIDOf (d := '2') (by decide))
    (agentIDOf_ne_empty '2')
  have hrepair := race_repair
  have hmutable := late_mutable
  have haccess : (lateTable raceNow).handle (.requireDomainAccess (TrimSpace raceIdentity.Domain))
      sampleChoice = (.ok (), lateTable raceNow) := rfl
  have hnow : tableEnv.handle .now lateChoice (lateTable raceNow)
      = (raceNow.Add Minute, lateTable (raceNow.Add Minute)) := rfl
  have hclock : ∀ log, (Traced.env tableEnv true).handle .now lateChoice ⟨lateTable raceNow, log⟩
      = (raceNow.Add Minute, ⟨lateTable (raceNow.Add Minute),
          log ++ [⟨true, .now, lateChoice, lateTable raceNow, lateTable (raceNow.Add Minute)⟩]⟩) := by
    intro log
    simp only [Traced.env, hnow]
  refine ⟨?_, ?_, ?goes⟩
  case goes =>
    simp only [lateRequests, Ceremony.request, Request.handler, handleSoulArchiveAgentBegin,
      parse_agentIDOf (d := '2') (by decide) (by decide), hok, Prog.ret_bind, loadSoulLifecycleIdentity, hget,
      fetchIdentity, Prog.bind_assoc, Prog.perform_bind, Prog.op_bind]
    refine goes_read (fun _ ho => by cases ho) (late_getIdentity raceNow (Or.inr rfl)) ?_
    simp only [Prog.pure_eq, Prog.ret_bind, requireSoulDomainAccess, hrepair, Prog.bind_assoc,
      Prog.perform_bind, Prog.op_bind]
    refine goes_read (fun _ ho => by cases ho) haccess ?_
    simp only [Prog.ret_bind, hok, hmutable, now, Prog.perform_bind]
    refine .op (fun _ ho => by cases ho) ?_
    rw [hclock]
    exact .nil _ _

def lateMoves : List (Bool × Choice) :=
  (List.replicate 5 sampleChoice).map (fun c => (false, c)) ++
    ([sampleChoice, sampleChoice, lateChoice].map (fun c => (true, c)) ++ [(false, sampleChoice)])

theorem late_written (time : Time) :
    carried (.write lateWrites) sampleChoice (lateTable time) = lateWrites := by
  have hagent : (lateTable time).identities (agentIDOf '1') = some raceIdentity := late_row time (Or.inl rfl)
  have hchallenge : (lateTable time).challenges lateChallenge.key = some lateChallenge := late_challenge time
  have hlive : raceNow.Unix < lateChallenge.TTL := by decide
  have hfree : ∀ key, (lateTable time).continuity key = none := fun _ => rfl
  have hall : lateWrites.all (Write.allowed (lateTable time)) = true := by
    simp [lateWrites, archiveWrites, Write.allowed, hagent, hchallenge, hlive, hfree]
  have hfault : sampleChoice.fault ≠ .lost := by decide
  rw [carried, if_pos ⟨hfault, hall⟩]

/-- **A commit can come after the expiry of its challenge.** -/
theorem not_committed_before_expiry :
    ¬ ∀ (server : Server) (Signed : String → Unsigned → Prop),
      Unforgeable server.digest server.verifyEthereumSignatureBytesNonMalleable Signed →
      ∀ (admits : SoulAgentIdentity → Except AppTheoryError Unit) (requests : Bool → Ceremony) (t₀ : Table),
        t₀.Keyed → ∀ (moves : List (Bool × Choice)),
          ∀ e ∈ ((ceremonies server admits requests t₀).run (Traced.env tableEnv) moves).state.log,
            ∀ challenge now, .deleteChallenge challenge now ∈ written e →
              e.before.now.Before challenge.ExpiresAt = true := by
  intro hclaim
  obtain ⟨k, log₁, hgoes₁⟩ := late_goes
  obtain ⟨p, log₂, hgoes₂⟩ := late_begin log₁
  obtain ⟨hrun₁, -⟩ := Config.run_goes (Traced.env tableEnv) lateCeremonies
    (P := fun _ o _ _ => ∀ ws, o ≠ Op.write ws) false hgoes₁
  obtain ⟨hrun₂, -⟩ := Config.run_goes (Traced.env tableEnv)
    (Config.mk (⟨lateTable raceNow, log₁⟩ : Traced Bool Op Table Choice)
      (Function.update lateCeremonies.threads false (.op (.write lateWrites) k)))
    (P := fun _ o _ _ => ∀ ws, o ≠ .write ws) true hgoes₂
  have hlive := hclaim lateServer (fun wallet u => wallet = "w" ∧ u = latePayload) lateServer_unforgeable (fun _ => .ok ()) lateRequests
    (lateTable raceNow) (lateTable_keyed raceNow) lateMoves
  have hcfg : ceremonies lateServer (fun _ => .ok ()) lateRequests (lateTable raceNow) = lateCeremonies := rfl
  rw [hcfg, lateMoves, Config.run_append, hrun₁, Config.run_append, hrun₂] at hlive
  generalize hlate : Config.mk (⟨lateTable (raceNow.Add Minute), log₂⟩ : Traced Bool Op Table Choice) _
    = cfg at hlive
  have hthread : cfg.threads false = .op (.write lateWrites) k := by
    rw [← hlate]
    rfl
  have hstate : cfg.state.state = lateTable (raceNow.Add Minute) := by rw [← hlate]
  have hstep : cfg.run (Traced.env tableEnv) [(false, sampleChoice)]
      = cfg.step (Traced.env tableEnv) (false, sampleChoice) := rfl
  rw [hstep, @Config.step_op _ _ _ _ _ _ _ _ (Traced.env tableEnv) cfg (false, sampleChoice) _ _ hthread]
    at hlive
  dsimp only at hlive
  rw [Traced.handle_log] at hlive
  have hlast := hlive _ (List.mem_append_right _ List.mem_cons_self) lateChallenge raceNow ?_
  · rw [hstate] at hlast
    revert hlast
    decide
  · unfold written
    rw [hstate, late_written]
    exact List.mem_cons_self

theorem nonces_single_use_late :
    ((ceremonies lateServer (fun _ => .ok ()) lateRequests (lateTable raceNow)).run (Traced.env tableEnv)
      lateMoves).state.log.countP (spends (agentIDOf '1', "n")) ≤
    ((ceremonies lateServer (fun _ => .ok ()) lateRequests (lateTable raceNow)).run (Traced.env tableEnv)
      lateMoves).state.log.countP (issues (agentIDOf '1', "n"))
      + ((lateTable raceNow).challenges (agentIDOf '1', "n")).toList.length :=
  (nonces_single_use lateServer_unforgeable (fun _ => .ok ()) lateRequests (lateTable_keyed raceNow)
    lateMoves).1 (agentIDOf '1', "n")

end LesserHost.SoulLifecycle
