import LesserHost.TipSplitter.Steps

set_option autoImplicit false

/-! # Solvency of the TipSplitter

The books of one currency are an `Escrow`: `pendingETH` and the ETH balance, and for every token
`pendingToken` and the token balance. Every call refines an escrow operation (a tip deposits, a
withdrawal pays out, a sweep takes what exceeds the claims), and the escrow is solvent by type.

ETH arrives with the call, so its books agree at every call-out and `Protocol.ofInv` is enough.
Tokens are pulled in before they are credited: between the two the contract relies on nobody else
crediting or paying, which is what the re-entrancy guard gives and what the frame condition of
`tokenProtocol` says. -/

namespace LesserHost.TipSplitter

open LesserHost.Solidity CallStack

/-! ## The books of one currency -/

/-- The ETH books of the contract are those of the escrow. -/
structure RefinesETH (e : Escrow Address) (s : State) : Prop where
  owed : s.pendingETH = e.owed
  reserve : s.balance = e.reserve
  total : s.totalPendingETH = ∑ a, e.owed a

/-- The books of one token are those of the escrow. -/
structure RefinesToken (token : Address) (e : Escrow Address) (s : State) : Prop where
  owed : s.pendingToken token = e.owed
  reserve : s.tokenBalance token = e.reserve
  total : s.totalPendingToken token = ∑ a, e.owed a

def ETHSolvent (s : State) : Prop := ∃ e, RefinesETH e s

def TokenSolvent (token : Address) (s : State) : Prop := ∃ e, RefinesToken token e s

/-- What every address was credited is what it has withdrawn and what it can still withdraw. -/
def HistoryOk (s : State) : Prop := s.creditedETH = s.pendingETH + s.withdrawnETH

theorem ETHSolvent.iff {s : State} : ETHSolvent s ↔
    s.totalPendingETH = ∑ a, s.pendingETH a ∧ s.totalPendingETH ≤ s.balance := by
  constructor
  · rintro ⟨e, h⟩
    rw [h.total, h.owed, h.reserve]
    exact ⟨rfl, e.solvent⟩
  · rintro ⟨ht, hb⟩
    exact ⟨⟨s.pendingETH, s.balance, ht ▸ hb⟩, rfl, rfl, ht⟩

theorem TokenSolvent.iff {token : Address} {s : State} : TokenSolvent token s ↔
    s.totalPendingToken token = ∑ a, s.pendingToken token a ∧
      s.totalPendingToken token ≤ s.tokenBalance token := by
  constructor
  · rintro ⟨e, h⟩
    rw [h.total, h.owed, h.reserve]
    exact ⟨rfl, e.solvent⟩
  · rintro ⟨ht, hb⟩
    exact ⟨⟨s.pendingToken token, s.tokenBalance token, ht ▸ hb⟩, rfl, rfl, ht⟩

/-! ## ETH -/

section ETH

variable {self : Address} {s s' : State} {msg : Msg} {o : Outcome State Pending}

theorem ETHSolvent.books (h : ETHSolvent s) (hb : s.balance ≤ s'.balance)
    (hp : s'.pendingETH = s.pendingETH) (ht : s'.totalPendingETH = s.totalPendingETH) :
    ETHSolvent s' := by
  rw [ETHSolvent.iff] at h ⊢
  rw [hp, ht]
  exact ⟨h.1, h.2.trans hb⟩

/-- A tip is a deposit of its value. -/
theorem RefinesETH.tips {e : Escrow Address} (h : RefinesETH e s) {shares : List (Address × Nat)}
    (hc : CreditedETH (receiveValue s msg) s' shares)
    (hsum : (shares.map Prod.snd).sum = msg.value) : RefinesETH (e.deposit shares) s' := by
  obtain ⟨logs, rfl⟩ := hc
  refine ⟨?_, ?_, ?_⟩
  · simp only [receiveValue, Escrow.deposit_owed, h.owed]
  · simp only [receiveValue, Escrow.deposit_reserve, h.reserve, hsum]
  · simp only [receiveValue, Escrow.deposit_owed, h.total, Escrow.sum_creditAll]

/-- A withdrawal is a payout. -/
theorem RefinesETH.payETH {e : Escrow Address} (h : RefinesETH e s) (a : Address) :
    RefinesETH (e.payout a) (payETH s a) := by
  refine ⟨?_, ?_, ?_⟩
  · simp only [TipSplitter.payETH, Escrow.payout_owed, h.owed]
  · simp only [TipSplitter.payETH, Escrow.payout_reserve, h.owed, h.reserve]
  · have hclear := Escrow.sum_clear e.owed a
    simp only [TipSplitter.payETH, Escrow.payout_owed, h.owed, h.total]
    omega

/-- A sweep takes out what exceeds the claims. -/
theorem RefinesETH.sweep {e : Escrow Address} (h : RefinesETH e s) :
    RefinesETH e.sweep { s with entered := true, balance := s.totalPendingETH } := by
  refine ⟨?_, ?_, ?_⟩
  · rw [Escrow.sweep_owed]; exact h.owed
  · rw [Escrow.sweep_reserve]; exact h.total
  · rw [Escrow.sweep_owed]; exact h.total

theorem call_ethSolvent (h : ETHSolvent s) (hc : BooksStep self s msg o) :
    ETHSolvent o.state := by
  cases hc with
  | same books => exact h.books books.balance.ge books.pendingETH books.totalPendingETH
  | tips _ credited sum =>
      obtain ⟨e, he⟩ := h
      exact ⟨_, he.tips credited sum⟩
  | pull _ _ => exact h.books le_rfl rfl rfl
  | withdrawETH _ _ _ =>
      obtain ⟨e, he⟩ := h
      exact ⟨_, he.payETH msg.sender⟩
  | withdrawToken _ _ _ => exact h.books le_rfl rfl rfl
  | sweepETH _ _ =>
      obtain ⟨e, he⟩ := h
      exact ⟨_, he.sweep⟩
  | sweepToken _ _ => exact h.books le_rfl rfl rfl

theorem call_history (h : HistoryOk s) (hc : BooksStep self s msg o) : HistoryOk o.state := by
  unfold HistoryOk at h ⊢
  cases hc with
  | same books =>
      simp only [Outcome.state]
      rw [books.creditedETH, books.pendingETH, books.withdrawnETH]
      exact h
  | tips _ credited _ =>
      obtain ⟨_, rfl⟩ := credited
      simp only [Outcome.state, receiveValue, h, Escrow.creditAll_add]
  | pull _ _ => exact h
  | withdrawETH _ _ _ =>
      -- what leaves `pendingETH` of the sender enters `withdrawnETH`
      simp only [Outcome.state, payETH, h]
      funext a
      by_cases ha : a = msg.sender
      · subst ha
        simp only [Pi.add_apply, Escrow.creditOne, Function.update_self]
        omega
      · simp only [Pi.add_apply, Escrow.creditOne, Function.update_of_ne ha]
  | withdrawToken _ _ _ => exact h
  | sweepETH _ _ => exact h
  | sweepToken _ _ => exact h

/-- A return touches no ETH books. -/
theorem resume_eth {p : Pending} (hr : ResumeStep s p s') :
    s'.balance = s.balance ∧ s'.pendingETH = s.pendingETH ∧
      s'.totalPendingETH = s.totalPendingETH ∧ s'.creditedETH = s.creditedETH ∧
      s'.withdrawnETH = s.withdrawnETH := by
  cases hr with
  | pulled _ credited _ released =>
      obtain ⟨_, rfl⟩ := credited
      obtain ⟨_, rfl⟩ := released
      exact ⟨rfl, rfl, rfl, rfl, rfl⟩
  | paid released =>
      obtain ⟨_, rfl⟩ := released
      exact ⟨rfl, rfl, rfl, rfl, rfl⟩

/-- ETH books agree at every call-out and at the end of every call. -/
def ethProtocol (self : Address) : Protocol (contract self) (fun _ => True) :=
  Protocol.ofInv (contract self) _ (fun s => ETHSolvent s ∧ HistoryOk s)
    (fun s c o _ h hc => by
      have hb := (call_step (c := c.2) hc).books
      exact ⟨call_ethSolvent h.1 hb, call_history h.2 hb⟩)
    (fun s p o h hr => by
      obtain ⟨s', rfl, hs⟩ := resume_step hr
      obtain ⟨h1, h2, h3, h4, h5⟩ := resume_eth hs
      refine ⟨h.1.books h1.ge h2 h3, ?_⟩
      have hh := h.2
      unfold HistoryOk at hh ⊢
      simp only [Outcome.state]
      rw [h4, h2, h5, hh])
    (fun s m _ h => by
      refine ⟨?_, ?_⟩
      · cases m with
        | forceETH amount => exact h.1.books (Nat.le_add_right _ _) rfl rfl
        | tokenIn token amount => exact h.1.books le_rfl rfl rfl
        | rebase token balance => exact h.1.books le_rfl rfl rfl
        | setCode account length => exact h.1.books le_rfl rfl rfl
        | setAgentWallet registry agentId wallet => exact h.1.books le_rfl rfl rfl
      · cases m <;> exact h.2)

theorem deploy_eth {chain : Chain} {lesserWallet owner registry : Address}
    (h : deploy chain lesserWallet owner registry = .ok s) : ETHSolvent s ∧ HistoryOk s := by
  simp only [deploy, bind_ok, require_ok, pure_ok] at h
  obtain ⟨-, -, -, -, -, -, rfl⟩ := h
  refine ⟨ETHSolvent.iff.2 ?_, ?_⟩
  · simp
  · funext a; rfl

end ETH

/-- **ETH solvency.** After any run from deployment, with any calls made from inside the call-outs
    of a withdrawal or a sweep and with ETH forced in at any moment, `totalPendingETH` is the sum of
    all pending ETH and the balance covers it; every address was credited exactly what it has
    withdrawn and can still withdraw; and a sweep leaves every claim and the cover for it. -/
theorem eth_solvent (self : Address) (chain : Chain) (lesserWallet owner registry : Address)
    (s₀ : State) (h : deploy chain lesserWallet owner registry = .ok s₀)
    (acts : List (Action (Msg × Call) Move)) :
    let s := (run (contract self) ⟨s₀, []⟩ acts).state
    s.totalPendingETH = ∑ a, s.pendingETH a ∧
    s.totalPendingETH ≤ s.balance ∧
    (∀ a, s.creditedETH a = s.withdrawnETH a + s.pendingETH a) ∧
    (∀ msg o, call self s (msg, .sweepStrayETH) = .ok o →
      o.state.pendingETH = s.pendingETH ∧ ∑ a, s.pendingETH a ≤ o.state.balance) := by
  intro s
  have hinv : ETHSolvent s ∧ HistoryOk s :=
    (ethProtocol self).run_inv s₀ acts (fun _ _ => trivial) (deploy_eth h)
  obtain ⟨hsolvent, hhistory⟩ := hinv
  obtain ⟨htotal, hcover⟩ := ETHSolvent.iff.1 hsolvent
  refine ⟨htotal, hcover, ?_, ?_⟩
  · intro a
    have ha := congrFun hhistory a
    rw [Pi.add_apply] at ha
    omega
  · intro msg o ho
    obtain ⟨-, -, rfl⟩ := sweepStrayETH_ok (outNonPayable_ok ho)
    exact ⟨rfl, htotal.ge⟩

/-- A host is registered and tipped, and the tipped actor withdraws while ETH is forced in. -/
theorem eth_solvent_tipped : ∃ s₀, deploy Chain.empty 1 2 0 = .ok s₀ ∧
    let s := (run (contract 9) ⟨s₀, []⟩
      [.call (⟨2, 0⟩, .registerHost 7 3 500), .call (⟨4, 20000⟩, .tipETH 7 5 0),
        .call (⟨5, 0⟩, .withdraw 0), .env (.forceETH 1), .ret true]).state
    s.totalPendingETH = ∑ a, s.pendingETH a ∧ s.totalPendingETH ≤ s.balance := by
  refine ⟨_, rfl, ?_⟩
  have h := eth_solvent 9 Chain.empty 1 2 0 _ rfl
    [.call (⟨2, 0⟩, .registerHost 7 3 500), .call (⟨4, 20000⟩, .tipETH 7 5 0),
      .call (⟨5, 0⟩, .withdraw 0), .env (.forceETH 1), .ret true]
  exact ⟨h.1, h.2.1⟩

/-! ## Tokens -/

section Token

variable {self token : Address} {s s' w : State} {msg : Msg} {o : Outcome State Pending}
  {p : Pending}

theorem TokenSolvent.books (h : TokenSolvent token s)
    (hb : s.tokenBalance token ≤ s'.tokenBalance token)
    (hp : s'.pendingToken token = s.pendingToken token)
    (ht : s'.totalPendingToken token = s.totalPendingToken token) : TokenSolvent token s' := by
  rw [TokenSolvent.iff] at h ⊢
  rw [hp, ht]
  exact ⟨h.1, h.2.trans hb⟩

/-- A withdrawal is a payout. The contract withdrawing to itself gets the amount back as a gift. -/
theorem RefinesToken.payToken {e : Escrow Address} (h : RefinesToken token e s) (a : Address) :
    TokenSolvent token (payToken self s token a) := by
  have hclear := Escrow.sum_clear e.owed a
  by_cases ha : a = self
  · have hle := e.owed_le_reserve a
    refine ⟨(e.payout a).gift (e.owed a), ?_, ?_, ?_⟩
    · simp [TipSplitter.payToken, h.owed]
    · simp only [TipSplitter.payToken, if_pos ha, h.reserve, Escrow.gift_reserve,
        Escrow.payout_reserve]
      omega
    · simp only [TipSplitter.payToken, Function.update_self, h.owed, h.total, Escrow.gift_owed,
        Escrow.payout_owed]
      omega
  · refine ⟨e.payout a, ?_, ?_, ?_⟩
    · simp [TipSplitter.payToken, h.owed]
    · simp [TipSplitter.payToken, ha, h.owed, h.reserve]
    · simp only [TipSplitter.payToken, Function.update_self, h.owed, h.total, Escrow.payout_owed]
      omega

/-- A sweep takes out what exceeds the claims, unless it goes to the contract itself. -/
theorem RefinesToken.sweep {e : Escrow Address} (h : RefinesToken token e s) :
    TokenSolvent token (sweptToken self s token) := by
  by_cases hl : s.lesserWallet = self
  · refine ⟨e, h.owed, ?_, h.total⟩
    simp only [sweptToken, if_pos hl, h.reserve]
  · refine ⟨e.sweep, ?_, ?_, ?_⟩
    · rw [Escrow.sweep_owed]; exact h.owed
    · simp only [sweptToken, if_neg hl, Function.update_self, h.total, Escrow.sweep_reserve]
    · rw [Escrow.sweep_owed]; exact h.total

theorem call_tokenSolvent (h : TokenSolvent token s) (hc : BooksStep self s msg o) :
    TokenSolvent token o.state := by
  cases hc with
  | same books =>
      exact h.books (by rw [Outcome.state, books.tokenBalance])
        (by rw [Outcome.state, books.pendingToken])
        (by rw [Outcome.state, books.totalPendingToken])
  | tips _ credited _ =>
      obtain ⟨_, rfl⟩ := credited
      exact h.books le_rfl rfl rfl
  | pull _ _ => exact h.books le_rfl rfl rfl
  | withdrawETH _ _ _ => exact h.books le_rfl rfl rfl
  | @withdrawToken token' _ _ _ =>
      by_cases ht : token' = token
      · subst ht
        obtain ⟨e, he⟩ := h
        exact he.payToken msg.sender
      · have ht' : token ≠ token' := Ne.symm ht
        refine h.books ?_ ?_ ?_
        · simp only [Outcome.state, payToken]
          split_ifs
          · exact le_rfl
          · rw [Function.update_of_ne ht']
        · simp only [Outcome.state, payToken, Function.update_of_ne ht']
        · simp only [Outcome.state, payToken, Function.update_of_ne ht']
  | sweepETH _ _ => exact h.books le_rfl rfl rfl
  | @sweepToken token' _ _ =>
      by_cases ht : token' = token
      · subst ht
        obtain ⟨e, he⟩ := h
        exact he.sweep
      · refine h.books ?_ rfl rfl
        simp only [Outcome.state, sweptToken]
        split_ifs
        · exact le_rfl
        · rw [Function.update_of_ne (Ne.symm ht)]

/-! ### What a waiting call relies on -/

/-- Nobody's claim changed, in any currency. -/
structure SameClaims (s s' : State) : Prop where
  pendingETH : s'.pendingETH = s.pendingETH
  totalPendingETH : s'.totalPendingETH = s.totalPendingETH
  pendingToken : s'.pendingToken = s.pendingToken
  totalPendingToken : s'.totalPendingToken = s.totalPendingToken

theorem SameClaims.refl (s : State) : SameClaims s s := ⟨rfl, rfl, rfl, rfl⟩

theorem SameClaims.trans {t : State} (h : SameClaims s t) (h' : SameClaims t s') :
    SameClaims s s' :=
  ⟨h'.1.trans h.1, h'.2.trans h.2, h'.3.trans h.3, h'.4.trans h.4⟩

/-- While the guard is held, whatever runs to its end keeps it held and every claim as it is. -/
def Guarded (s s' : State) : Prop := s.entered = true → s'.entered = true ∧ SameClaims s s'

/-- The claims while the call-out is open. -/
def duringCall (self : Address) (s : State) : Pending → State
  | .withdrawETH a _ => payETH s a
  | .withdrawToken token a _ => payToken self s token a
  | _ => s

/-- What a waiting call remembers: a pull knows what the tips add up to and what the contract held
    before it, a token withdrawal that its token is not the key of ETH. -/
def Remembers (s : State) : Pending → Prop
  | .pullTokens token _ tips total balBefore _ _ =>
      (tips.map Tip.amount).sum = total ∧ balBefore = s.tokenBalance token
  | .withdrawToken token _ _ => token ≠ 0
  | _ => True

/-- A call that started in `s` is waiting and `w` is current. -/
structure Waiting (addr : Address) (p : Pending) (s w : State) : Prop where
  free : s.entered = false
  held : w.entered = true
  claims : SameClaims (duringCall addr s p) w
  remembers : Remembers s p

theorem Waiting.stable {w' : State} (h : Waiting self p s w) (hg : Guarded w w') :
    Waiting self p s w' := by
  obtain ⟨hheld, hclaims⟩ := hg h.held
  exact ⟨h.free, hheld, h.claims.trans hclaims, h.remembers⟩

theorem Guarded.of_free (h : s.entered = false) : Guarded s s' := by
  intro h'
  rw [h] at h'
  cases h'

theorem call_guarded (hc : BooksStep self s msg (.done s')) : Guarded s s' := by
  cases hc with
  | same books =>
      intro hs
      exact ⟨books.entered.trans hs, books.pendingETH, books.totalPendingETH, books.pendingToken,
        books.totalPendingToken⟩
  | tips free _ _ => exact Guarded.of_free free

theorem call_waiting (hc : BooksStep self s msg (.callOut s' p)) : Waiting self p s s' := by
  cases hc with
  | pull free sum => exact ⟨free, rfl, ⟨rfl, rfl, rfl, rfl⟩, sum, rfl⟩
  | withdrawETH free _ _ => exact ⟨free, rfl, SameClaims.refl _, trivial⟩
  | withdrawToken key free _ => exact ⟨free, rfl, SameClaims.refl _, key⟩
  | sweepETH free _ => exact ⟨free, rfl, ⟨rfl, rfl, rfl, rfl⟩, trivial⟩
  | sweepToken free _ => exact ⟨free, rfl, ⟨rfl, rfl, rfl, rfl⟩, trivial⟩

/-- The tokens that were pulled are split among the recipients: what the contract held before the
    pull still covers the old claims, because none was added in between. -/
theorem RefinesToken.pulled {e : Escrow Address} {shares : List (Address × Nat)}
    (h : RefinesToken token e w) (hc : CreditedToken token w s' shares)
    (hroom : w.totalPendingToken token + (shares.map Prod.snd).sum ≤ w.tokenBalance token) :
    TokenSolvent token s' := by
  obtain ⟨_, rfl⟩ := hc
  rw [h.total, h.reserve] at hroom
  refine ⟨e.allot shares hroom, ?_, h.reserve, ?_⟩
  · simp [h.owed]
  · simp only [Escrow.creditOne, Function.update_self, h.total, Escrow.allot_owed,
      Escrow.sum_creditAll]

theorem TokenSolvent.credited_ne {token' : Address} {shares : List (Address × Nat)}
    (h : TokenSolvent token w) (hc : CreditedToken token' w s' shares) (hne : token ≠ token') :
    TokenSolvent token s' := by
  obtain ⟨_, rfl⟩ := hc
  refine h.books le_rfl ?_ ?_
  · simp only [Function.update_of_ne hne]
  · simp only [Escrow.creditOne, Function.update_of_ne hne]

theorem TokenSolvent.released (h : TokenSolvent token s) (hr : Released s s') :
    TokenSolvent token s' := by
  obtain ⟨_, rfl⟩ := hr
  exact h.books le_rfl rfl rfl

theorem resume_tokenSolvent (hs : TokenSolvent token s) (hw : TokenSolvent token w)
    (hf : Waiting self p s w) (hr : ResumeStep w p s') : TokenSolvent token s' := by
  cases hr with
  | @pulled token' _ _ _ _ _ _ t _ _ received credited sum released =>
      refine TokenSolvent.released ?_ released
      by_cases ht : token' = token
      · subst ht
        obtain ⟨htips, hbefore⟩ := hf.remembers
        have hsame : w.totalPendingToken = s.totalPendingToken := hf.claims.totalPendingToken
        have hcover := (TokenSolvent.iff.1 hs).2
        obtain ⟨e, he⟩ := hw
        refine he.pulled credited ?_
        rw [hsame, sum, htips, received, hbefore]
        exact Nat.add_le_add_right hcover _
      · exact hw.credited_ne credited (Ne.symm ht)
  | paid released => exact hw.released released

/-- The books of `token` in every run in which no balance of it is set from outside. -/
def tokenProtocol (self token : Address) :
    Protocol (contract self) (fun a => ∀ n, a ≠ .env (.rebase token n)) where
  inv := TokenSolvent token
  guar := Guarded
  frame := Waiting self
  guar_refl s hs := ⟨hs, SameClaims.refl s⟩
  guar_trans s t u h h' hs := by
    obtain ⟨ht, hst⟩ := h hs
    obtain ⟨hu, htu⟩ := h' ht
    exact ⟨hu, hst.trans htu⟩
  frame_stable p s w w' h hg := h.stable hg
  call_done s c s' _ h hc := by
    have hb := (call_step (c := c.2) hc).books
    exact ⟨call_tokenSolvent h hb, call_guarded hb⟩
  call_out s c s' p _ h hc := by
    have hb := (call_step (c := c.2) hc).books
    exact ⟨call_tokenSolvent h hb, call_waiting hb⟩
  resume_done s w p s' hs hw hf hr := by
    obtain ⟨t, ht, hstep⟩ := resume_step hr
    cases ht
    exact ⟨resume_tokenSolvent hs hw hf hstep, Guarded.of_free hf.free⟩
  resume_out s w p s' p' _ _ _ hr := by
    obtain ⟨t, ht, -⟩ := resume_step hr
    cases ht
  env_ok s m hm h := by
    refine ⟨?_, ?_⟩
    · cases m with
      | forceETH amount => exact h.books le_rfl rfl rfl
      | tokenIn token' amount =>
          refine h.books ?_ rfl rfl
          show s.tokenBalance token ≤ Function.update s.tokenBalance token' _ token
          by_cases ht : token = token'
          · subst ht
            rw [Function.update_self]
            exact Nat.le_add_right _ _
          · rw [Function.update_of_ne ht]
      | rebase token' balance =>
          have ht : token ≠ token' := by
            intro ht
            exact hm balance (by rw [ht])
          refine h.books ?_ rfl rfl
          show s.tokenBalance token ≤ Function.update s.tokenBalance token' _ token
          rw [Function.update_of_ne ht]
      | setCode account length => exact h.books le_rfl rfl rfl
      | setAgentWallet registry agentId wallet => exact h.books le_rfl rfl rfl
    · intro hs
      cases m <;> exact ⟨hs, rfl, rfl, rfl, rfl⟩

theorem deploy_token {chain : Chain} {lesserWallet owner registry : Address}
    (h : deploy chain lesserWallet owner registry = .ok s) : TokenSolvent token s := by
  simp only [deploy, bind_ok, require_ok, pure_ok] at h
  obtain ⟨-, -, -, -, -, -, rfl⟩ := h
  rw [TokenSolvent.iff]
  simp

end Token

/-! ## Who a withdrawal pays -/

/-- What `a` can withdraw of a token, with `address(0)` for ETH. -/
def claim (s : State) (token a : Address) : Nat :=
  if token = 0 then s.pendingETH a else s.pendingToken token a

def totalClaims (s : State) (token : Address) : Nat :=
  if token = 0 then s.totalPendingETH else s.totalPendingToken token

/-- Only the claim of `recipient` in `token`, and the total of `token`, may differ. -/
structure OnlyPaid (token recipient : Address) (s s' : State) : Prop where
  claim_eq : ∀ token' a, ¬ (token' = token ∧ a = recipient) → claim s' token' a = claim s token' a
  total_eq : ∀ token', token' ≠ token → totalClaims s' token' = totalClaims s token'

/-- The currency and the recipient of an open withdrawal. -/
def Pending.payee : Pending → Option (Address × Address)
  | .withdrawETH a _ => some (0, a)
  | .withdrawToken token a _ => some (token, a)
  | _ => none

section OnlyPaid

variable {self token recipient : Address} {s s' w : State} {msg : Msg}

theorem OnlyPaid.refl (s : State) : OnlyPaid token recipient s s :=
  ⟨fun _ _ _ => rfl, fun _ _ => rfl⟩

theorem OnlyPaid.same (h : OnlyPaid token recipient s w) (hs : SameClaims w s') :
    OnlyPaid token recipient s s' := by
  refine ⟨?_, ?_⟩
  · intro token' a hne
    rw [← h.claim_eq token' a hne, claim, claim, hs.pendingETH, hs.pendingToken]
  · intro token' hne
    rw [← h.total_eq token' hne, totalClaims, totalClaims, hs.totalPendingETH,
      hs.totalPendingToken]

theorem onlyPaid_payETH (a : Address) : OnlyPaid 0 a s (payETH s a) := by
  refine ⟨?_, ?_⟩
  · intro token' b hne
    by_cases ht : token' = 0
    · have hb : b ≠ a := fun hb => hne ⟨ht, hb⟩
      simp only [claim, if_pos ht, payETH, Function.update_of_ne hb]
    · simp only [claim, if_neg ht, payETH]
  · intro token' hne
    simp only [totalClaims, if_neg hne, payETH]

theorem onlyPaid_payToken (htoken : token ≠ 0) (a : Address) :
    OnlyPaid token a s (payToken self s token a) := by
  refine ⟨?_, ?_⟩
  · intro token' b hne
    by_cases ht : token' = token
    · have hb : b ≠ a := fun hb => hne ⟨ht, hb⟩
      subst ht
      simp only [claim, if_neg htoken, payToken, Function.update_self, Function.update_of_ne hb]
    · simp only [claim, payToken, Function.update_of_ne ht]
  · intro token' hne
    simp only [totalClaims, payToken, Function.update_of_ne hne]

theorem Waiting.onlyPaid {p : Pending} (h : Waiting self p s w)
    (hp : p.payee = some (token, recipient)) : OnlyPaid token recipient s w := by
  cases p with
  | withdrawETH a amount =>
      obtain ⟨rfl, rfl⟩ : 0 = token ∧ a = recipient := by simpa [Pending.payee] using hp
      exact (onlyPaid_payETH a).same h.claims
  | withdrawToken t a amount =>
      obtain ⟨rfl, rfl⟩ : t = token ∧ a = recipient := by simpa [Pending.payee] using hp
      exact (onlyPaid_payToken h.remembers a).same h.claims
  | _ => simp [Pending.payee] at hp

/-- What is left of a withdrawal when the recipient or the token returns changes no claim. -/
theorem resume_payee {p : Pending} (hp : p.payee = some (token, recipient))
    (hr : ResumeStep w p s') : SameClaims w s' := by
  cases hr with
  | pulled => simp [Pending.payee] at hp
  | paid released =>
      obtain ⟨_, rfl⟩ := released
      exact ⟨rfl, rfl, rfl, rfl⟩

theorem withdraw_onlyPaid {o : Outcome State Pending}
    (h : withdraw self s msg token = .ok o) : OnlyPaid token msg.sender s o.state := by
  obtain ⟨-, ⟨rfl, -, -, rfl⟩ | ⟨htoken, -, rfl⟩⟩ := withdraw_ok h
  · exact onlyPaid_payETH msg.sender
  · exact onlyPaid_payToken htoken msg.sender

/-- While a withdrawal is open, and when it is answered in either way, nobody else's claim differs
    from what it was when the withdrawal was called. -/
theorem openWithdrawal_onlyPaid {m : Machine State Pending}
    (hm : (tokenProtocol self token).Ok m) {f : Frame State Pending} {rest : List (Frame State Pending)}
    {p : Pending} (hstack : m.stack = f :: rest) (hpending : f.pending = some p)
    (hp : p.payee = some (token, recipient)) :
    OnlyPaid token recipient f.saved m.state ∧
      ∀ ok, OnlyPaid token recipient f.saved (step (contract self) m (.ret ok)).state := by
  obtain ⟨-, hwait⟩ := hm.frame _ hstack hpending
  have hopen : OnlyPaid token recipient f.saved m.state := Waiting.onlyPaid hwait hp
  refine ⟨hopen, ?_⟩
  intro ok
  cases ok with
  | false =>
      simp only [step, hstack]
      exact OnlyPaid.refl f.saved
  | true =>
      simp only [step, hstack, hpending, if_true]
      split
      · exact OnlyPaid.refl f.saved
      · next s' hs =>
          obtain ⟨t, ht, hr⟩ := resume_step hs
          cases ht
          exact hopen.same (resume_payee hp hr)
      · next s' p' hs =>
          obtain ⟨t, ht, -⟩ := resume_step hs
          cases ht

end OnlyPaid

/-- **Token solvency.** In every run from deployment in which the balance of `token` is not set from
    outside, `totalPendingToken` is the sum of all pending amounts and the balance covers it. A
    withdrawal leaves every other claim as it was: when it is called, as long as it is open with
    other calls made from inside it, and when it returns or fails. -/
theorem token_solvent (self token : Address) (chain : Chain) (lesserWallet owner registry : Address)
    (s₀ : State) (h : deploy chain lesserWallet owner registry = .ok s₀)
    (acts : List (Action (Msg × Call) Move)) (hacts : ∀ n, .env (.rebase token n) ∉ acts) :
    let m := run (contract self) ⟨s₀, []⟩ acts
    m.state.totalPendingToken token = ∑ a, m.state.pendingToken token a ∧
    m.state.totalPendingToken token ≤ m.state.tokenBalance token ∧
    (∀ msg o, call self m.state (msg, .withdraw token) = .ok o →
      OnlyPaid token msg.sender m.state o.state) ∧
    (∀ f rest p recipient, m.stack = f :: rest → f.pending = some p →
      p.payee = some (token, recipient) →
      OnlyPaid token recipient f.saved m.state ∧
      ∀ ok, OnlyPaid token recipient f.saved (step (contract self) m (.ret ok)).state) := by
  intro m
  have hallowed : ∀ a ∈ acts, ∀ n, a ≠ .env (.rebase token n) := by
    intro a ha n hn
    exact hacts n (hn ▸ ha)
  have hm : (tokenProtocol self token).Ok m :=
    (tokenProtocol self token).run_ok ⟨s₀, []⟩ acts hallowed (deploy_token h)
  obtain ⟨htotal, hcover⟩ := TokenSolvent.iff.1 (Protocol.StackOk.inv _ hm)
  refine ⟨htotal, hcover, ?_, ?_⟩
  · intro msg o ho
    exact withdraw_onlyPaid (outNonPayable_ok ho)
  · intro f rest p recipient hstack hpending hp
    exact openWithdrawal_onlyPaid hm hstack hpending hp

/-- A token is tipped with too little delivered at first, and the balance of another token is set. -/
theorem token_solvent_tipped : ∃ s₀, deploy Chain.empty 1 2 0 = .ok s₀ ∧
    let s := (run (contract 9) ⟨s₀, []⟩
      [.env (.setCode 8 1), .call (⟨2, 0⟩, .registerHost 7 3 500),
        .call (⟨2, 0⟩, .setTokenAllowed 8 true), .call (⟨4, 0⟩, .tipToken 8 7 5 20000 0),
        .env (.tokenIn 8 19000), .env (.rebase 6 0), .env (.tokenIn 8 1000), .ret true]).state
    s.totalPendingToken 8 = ∑ a, s.pendingToken 8 a ∧
      s.totalPendingToken 8 ≤ s.tokenBalance 8 := by
  refine ⟨_, rfl, ?_⟩
  have h := token_solvent 9 8 Chain.empty 1 2 0 _ rfl
    [.env (.setCode 8 1), .call (⟨2, 0⟩, .registerHost 7 3 500),
      .call (⟨2, 0⟩, .setTokenAllowed 8 true), .call (⟨4, 0⟩, .tipToken 8 7 5 20000 0),
      .env (.tokenIn 8 19000), .env (.rebase 6 0), .env (.tokenIn 8 1000), .ret true]
    (by intro n; simp)
  exact ⟨h.1, h.2.1⟩

end LesserHost.TipSplitter
