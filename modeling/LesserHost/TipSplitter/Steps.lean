import LesserHost.TipSplitter.Basic

set_option autoImplicit false

/-! # What a call of the TipSplitter can do

`call_step` says once, for all external functions, what a successful call does to the books (who is
owed what, and what the contract holds), to the host registry and to the tip limits. Every invariant
of the contract is proved from it and from `resume_step`, without unfolding a function again. -/

namespace LesserHost.TipSplitter

open LesserHost.Solidity CallStack

/-! ## The split -/

theorem _split_ok {fee amount : Nat} {sh : Shares} :
    _split fee amount = .ok sh ↔
      amount * LESSER_FEE_BPS < 2 ^ 256 ∧ 0 < amount * LESSER_FEE_BPS / BPS_DENOMINATOR ∧
      amount * fee < 2 ^ 256 ∧ amount * LESSER_FEE_BPS / BPS_DENOMINATOR ≤ amount ∧
      amount * fee / BPS_DENOMINATOR ≤ amount - amount * LESSER_FEE_BPS / BPS_DENOMINATOR ∧
      sh = ⟨amount * LESSER_FEE_BPS / BPS_DENOMINATOR, amount * fee / BPS_DENOMINATOR,
        amount - amount * LESSER_FEE_BPS / BPS_DENOMINATOR - amount * fee / BPS_DENOMINATOR⟩ := by
  unfold _split
  simp only [bind_ok, checkedMul_ok, checkedSub_ok, require_ok, pure_ok]
  constructor
  · rintro ⟨_, ⟨h1, rfl⟩, _, h2, _, ⟨h3, rfl⟩, _, ⟨h4, rfl⟩, _, ⟨h5, rfl⟩, rfl⟩
    exact ⟨h1, h2, h3, h4, h5, rfl⟩
  · rintro ⟨h1, h2, h3, h4, h5, rfl⟩
    exact ⟨_, ⟨h1, rfl⟩, (), h2, _, ⟨h3, rfl⟩, _, ⟨h4, rfl⟩, _, ⟨h5, rfl⟩, rfl⟩

/-- The three shares are all of the amount. -/
theorem _split_sum {fee amount : Nat} {sh : Shares} (h : _split fee amount = .ok sh) :
    sh.lesserShare + sh.hostShare + sh.actorShare = amount := by
  obtain ⟨-, -, -, h4, h5, rfl⟩ := _split_ok.1 h
  simp only
  omega

/-! ## Credits -/

/-- The shares of a tip, by recipient. The three recipients may coincide. -/
def shareList (s : State) (hostId : Bytes32) (tip : Tip) (sh : Shares) : List (Address × Nat) :=
  [(s.lesserWallet, sh.lesserShare), ((s.hosts hostId).wallet, sh.hostShare),
    (tip.actor, sh.actorShare)]

theorem shareList_sum {s : State} {hostId : Bytes32} {tip : Tip} {sh : Shares}
    (h : _split (s.hosts hostId).feeBps tip.amount = .ok sh) :
    ((shareList s hostId tip sh).map Prod.snd).sum = tip.amount := by
  have := _split_sum h
  simp only [shareList, List.map_cons, List.map_nil, List.sum_cons, List.sum_nil]
  omega

/-- ETH claims grew by `shares` and nothing but the event log changed besides. -/
def CreditedETH (s s' : State) (shares : List (Address × Nat)) : Prop :=
  ∃ logs, s' = { s with
    pendingETH := Escrow.creditAll s.pendingETH shares
    totalPendingETH := s.totalPendingETH + (shares.map Prod.snd).sum
    creditedETH := Escrow.creditAll s.creditedETH shares
    logs }

/-- Claims in `token` grew by `shares` and nothing but the event log changed besides. -/
def CreditedToken (token : Address) (s s' : State) (shares : List (Address × Nat)) : Prop :=
  ∃ logs, s' = { s with
    pendingToken := Function.update s.pendingToken token
      (Escrow.creditAll (s.pendingToken token) shares)
    totalPendingToken := Escrow.creditOne s.totalPendingToken token (shares.map Prod.snd).sum
    logs }

theorem CreditedETH.refl (s : State) : CreditedETH s s [] := ⟨s.logs, by simp⟩

theorem CreditedETH.trans {s t u : State} {xs ys : List (Address × Nat)}
    (h : CreditedETH s t xs) (h' : CreditedETH t u ys) : CreditedETH s u (xs ++ ys) := by
  obtain ⟨_, rfl⟩ := h
  obtain ⟨logs, rfl⟩ := h'
  exact ⟨logs, by simp [Escrow.creditAll_append, Nat.add_assoc]⟩

theorem CreditedToken.refl (token : Address) (s : State) : CreditedToken token s s [] :=
  ⟨s.logs, by simp [Escrow.creditOne]⟩

theorem CreditedToken.trans {token : Address} {s t u : State} {xs ys : List (Address × Nat)}
    (h : CreditedToken token s t xs) (h' : CreditedToken token t u ys) :
    CreditedToken token s u (xs ++ ys) := by
  obtain ⟨_, rfl⟩ := h
  obtain ⟨logs, rfl⟩ := h'
  exact ⟨logs, by simp [Escrow.creditAll_append, Escrow.creditOne, Nat.add_assoc]⟩

/-- Skipping a zero share makes no difference to what is credited. -/
theorem _creditPendingToken_ok {s s' : State} {token a : Address} {n : Nat}
    (h : _creditPendingToken s token a n = .ok s') : CreditedToken token s s' [(a, n)] := by
  unfold _creditPendingToken at h
  split at h
  · next hn =>
      obtain rfl := pure_ok.1 h
      exact ⟨s.logs, by simp [hn, Escrow.creditOne]⟩
  · simp only [bind_ok, addAt_ok, pure_ok] at h
    obtain ⟨_, ⟨-, rfl⟩, _, ⟨-, rfl⟩, rfl⟩ := h
    exact ⟨s.logs, by simp [Escrow.creditOne]⟩

theorem _tipETH_ok {s s' : State} {msg : Msg} {hostId : Bytes32} {tip : Tip}
    (h : _tipETH s msg hostId tip = .ok s') :
    ∃ sh, _split (s.hosts hostId).feeBps tip.amount = .ok sh ∧
      CreditedETH s s' (shareList s hostId tip sh) := by
  unfold _tipETH at h
  simp only [bind_ok, require_ok, addAt_ok, checkedAdd_ok, pure_ok] at h
  obtain ⟨-, -, -, -, -, -, -, -, -, -, sh, hsh, _, ⟨-, rfl⟩, _, ⟨-, rfl⟩, _, ⟨-, rfl⟩, _,
    ⟨-, rfl⟩, rfl⟩ := h
  refine ⟨sh, hsh, s.logs ++ [.tipSent hostId 0 msg.sender tip.actor tip.amount sh.lesserShare
    sh.hostShare sh.actorShare tip.contentHash], ?_⟩
  rw [shareList_sum hsh]
  rfl

theorem _creditToken_ok {s s' : State} {hostId : Bytes32} {token tipper : Address} {tip : Tip}
    (h : _creditToken s hostId token tip tipper = .ok s') :
    ∃ sh, _split (s.hosts hostId).feeBps tip.amount = .ok sh ∧
      CreditedToken token s s' (shareList s hostId tip sh) := by
  unfold _creditToken at h
  simp only [bind_ok, require_ok, pure_ok] at h
  obtain ⟨-, -, -, -, -, -, -, -, -, -, sh, hsh, s₁, h1, s₂, h2, s₃, h3, rfl⟩ := h
  have h13 := ((_creditPendingToken_ok h1).trans (_creditPendingToken_ok h2)).trans
    (_creditPendingToken_ok h3)
  obtain ⟨_, rfl⟩ := h13
  exact ⟨sh, hsh, _, rfl⟩

/-! ## Batches -/

theorem sumAmounts_ok {amounts : List Nat} {total : Nat} (h : sumAmounts amounts = .ok total) :
    amounts.sum = total := by
  have key : ∀ (l : List Nat) (a b : Nat), l.foldlM checkedAdd a = .ok b → a + l.sum = b := by
    intro l
    induction l with
    | nil => intro a b h; simpa using h
    | cons n l ih =>
        intro a b h
        rw [List.foldlM_cons, bind_ok] at h
        obtain ⟨c, hc, h⟩ := h
        obtain ⟨-, rfl⟩ := checkedAdd_ok.1 hc
        have := ih _ _ h
        rw [List.sum_cons]
        omega
  simpa using key amounts 0 total h

theorem tipsOf_amounts {actors : List Address} {amounts : List Nat} {hashes : List Bytes32}
    (ha : amounts.length = actors.length) (hh : hashes.length = actors.length) :
    (tipsOf actors amounts hashes).map Tip.amount = amounts := by
  induction actors generalizing amounts hashes with
  | nil =>
      have : amounts = [] := List.length_eq_zero_iff.1 ha
      simp [tipsOf, this]
  | cons a actors ih =>
      cases amounts with
      | nil => simp at ha
      | cons n amounts =>
          cases hashes with
          | nil => simp at hh
          | cons c hashes =>
              simp only [List.length_cons, Nat.add_right_cancel_iff] at ha hh
              simp [tipsOf, ih ha hh]

theorem foldlM_tipETH_ok {msg : Msg} {hostId : Bytes32} (tips : List Tip) {s s' : State}
    (h : tips.foldlM (fun s t => _tipETH s msg hostId t) s = .ok s') :
    ∃ shares, CreditedETH s s' shares ∧
      (shares.map Prod.snd).sum = (tips.map Tip.amount).sum := by
  induction tips generalizing s with
  | nil =>
      obtain rfl := pure_ok.1 h
      exact ⟨[], CreditedETH.refl s, rfl⟩
  | cons t tips ih =>
      rw [List.foldlM_cons, bind_ok] at h
      obtain ⟨s₁, h1, h2⟩ := h
      obtain ⟨sh, hsh, hc⟩ := _tipETH_ok h1
      obtain ⟨shares, hc', hsum⟩ := ih h2
      refine ⟨_, hc.trans hc', ?_⟩
      rw [List.map_append, List.sum_append, shareList_sum hsh, hsum, List.map_cons, List.sum_cons]

theorem foldlM_creditToken_ok {hostId : Bytes32} {token tipper : Address} (tips : List Tip)
    {s s' : State} (h : tips.foldlM (fun s t => _creditToken s hostId token t tipper) s = .ok s') :
    ∃ shares, CreditedToken token s s' shares ∧
      (shares.map Prod.snd).sum = (tips.map Tip.amount).sum := by
  induction tips generalizing s with
  | nil =>
      obtain rfl := pure_ok.1 h
      exact ⟨[], CreditedToken.refl token s, rfl⟩
  | cons t tips ih =>
      rw [List.foldlM_cons, bind_ok] at h
      obtain ⟨s₁, h1, h2⟩ := h
      obtain ⟨sh, hsh, hc⟩ := _creditToken_ok h1
      obtain ⟨shares, hc', hsum⟩ := ih h2
      refine ⟨_, hc.trans hc', ?_⟩
      rw [List.map_append, List.sum_append, shareList_sum hsh, hsum, List.map_cons, List.sum_cons]

theorem checkBatch_ok {actors : List Address} {amounts : List Nat} {hashes : List Bytes32}
    {u : Unit} (h : checkBatch actors amounts hashes = .ok u) :
    (tipsOf actors amounts hashes).map Tip.amount = amounts := by
  unfold checkBatch at h
  simp only [bind_ok, require_ok] at h
  obtain ⟨-, -, ha, hh⟩ := h
  exact tipsOf_amounts ha hh

/-! ## The effect of every call -/

/-- Neither the books nor the re-entrancy guard changed. -/
structure SameBooks (s s' : State) : Prop where
  balance : s'.balance = s.balance
  tokenBalance : s'.tokenBalance = s.tokenBalance
  entered : s'.entered = s.entered
  pendingETH : s'.pendingETH = s.pendingETH
  totalPendingETH : s'.totalPendingETH = s.totalPendingETH
  pendingToken : s'.pendingToken = s.pendingToken
  totalPendingToken : s'.totalPendingToken = s.totalPendingToken
  creditedETH : s'.creditedETH = s.creditedETH
  withdrawnETH : s'.withdrawnETH = s.withdrawnETH

structure SameHosts (s s' : State) : Prop where
  hosts : s'.hosts = s.hosts
  refCount : s'._hostWalletRefCount = s._hostWalletRefCount
  lesserWallet : s'.lesserWallet = s.lesserWallet

structure SameLimits (s s' : State) : Prop where
  maxTipAmount : s'.maxTipAmount = s.maxTipAmount
  minTipAmount : s'.minTipAmount = s.minTipAmount
  hasCustomMinTipAmount : s'.hasCustomMinTipAmount = s.hasCustomMinTipAmount

/-- The state while an ETH withdrawal of `a` is open. -/
def payETH (s : State) (a : Address) : State :=
  { s with
    entered := true
    balance := s.balance - s.pendingETH a
    pendingETH := Function.update s.pendingETH a 0
    totalPendingETH := s.totalPendingETH - s.pendingETH a
    withdrawnETH := Escrow.creditOne s.withdrawnETH a (s.pendingETH a) }

/-- The state while a withdrawal of `token` by `a` is open. -/
def payToken (self : Address) (s : State) (token a : Address) : State :=
  { s with
    entered := true
    tokenBalance := if a = self then s.tokenBalance else
      Function.update s.tokenBalance token (s.tokenBalance token - s.pendingToken token a)
    pendingToken := Function.update s.pendingToken token
      (Function.update (s.pendingToken token) a 0)
    totalPendingToken := Function.update s.totalPendingToken token
      (s.totalPendingToken token - s.pendingToken token a) }

/-- The state while a sweep of `token` is open: the contract keeps what it owes. -/
def sweptToken (self : Address) (s : State) (token : Address) : State :=
  { s with
    entered := true
    tokenBalance := if s.lesserWallet = self then s.tokenBalance else
      Function.update s.tokenBalance token (s.totalPendingToken token) }

/-- What a successful call does to the books. -/
inductive BooksStep (self : Address) (s : State) (msg : Msg) : Outcome State Pending → Prop
  | same {s' : State} (books : SameBooks s s') : BooksStep self s msg (.done s')
  | tips {s' : State} {shares : List (Address × Nat)} (free : s.entered = false)
      (credited : CreditedETH (receiveValue s msg) s' shares)
      (sum : (shares.map Prod.snd).sum = msg.value) : BooksStep self s msg (.done s')
  | pull {token : Address} {hostId : Bytes32} {tips : List Tip} {total : Nat}
      {after : List Event} (free : s.entered = false) (sum : (tips.map Tip.amount).sum = total) :
      BooksStep self s msg (.callOut { s with entered := true }
        (.pullTokens token hostId tips total (s.tokenBalance token) msg.sender after))
  | withdrawETH (free : s.entered = false) (covered : s.pendingETH msg.sender ≤ s.balance)
      (other : msg.sender ≠ self) :
      BooksStep self s msg (.callOut (payETH s msg.sender)
        (.withdrawETH msg.sender (s.pendingETH msg.sender)))
  | withdrawToken {token : Address} (key : token ≠ 0) (free : s.entered = false)
      (covered : s.pendingToken token msg.sender ≤ s.tokenBalance token) :
      BooksStep self s msg (.callOut (payToken self s token msg.sender)
        (.withdrawToken token msg.sender (s.pendingToken token msg.sender)))
  | sweepETH (free : s.entered = false) (stray : s.totalPendingETH < s.balance) :
      BooksStep self s msg (.callOut { s with entered := true, balance := s.totalPendingETH }
        (.sweepETH (s.balance - s.totalPendingETH)))
  | sweepToken {token : Address} (free : s.entered = false)
      (stray : s.totalPendingToken token < s.tokenBalance token) :
      BooksStep self s msg (.callOut (sweptToken self s token)
        (.sweepToken token (s.tokenBalance token - s.totalPendingToken token)))

/-- What a successful call does to the host registry. -/
inductive HostsStep (s : State) (msg : Msg) : State → Prop
  | same {s' : State} (hosts : SameHosts s s') : HostsStep s msg s'
  | registerHost {hostId : Bytes32} {wallet : Address} {feeBps : Nat} {s' : State}
      (h : registerHost s msg hostId wallet feeBps = .ok s') : HostsStep s msg s'
  | updateHost {hostId : Bytes32} {wallet : Address} {feeBps : Nat} {s' : State}
      (h : updateHost s msg hostId wallet feeBps = .ok s') : HostsStep s msg s'
  | setHostActive {hostId : Bytes32} {active : Bool} {s' : State}
      (h : setHostActive s msg hostId active = .ok s') : HostsStep s msg s'
  | setLesserWallet {wallet : Address} {s' : State} (h : setLesserWallet s msg wallet = .ok s') :
      HostsStep s msg s'

/-- What a successful call does to the tip limits. -/
inductive LimitsStep (s : State) (msg : Msg) : State → Prop
  | same {s' : State} (limits : SameLimits s s') : LimitsStep s msg s'
  | setMaxTipAmount {token : Address} {amount : Nat} {s' : State}
      (h : setMaxTipAmount s msg token amount = .ok s') : LimitsStep s msg s'
  | setMinTipAmount {token : Address} {amount : Nat} {s' : State}
      (h : setMinTipAmount s msg token amount = .ok s') : LimitsStep s msg s'

/-- What a successful call does. -/
structure CallStep (addr : Address) (s : State) (msg : Msg) (o : Outcome State Pending) : Prop where
  books : BooksStep addr s msg o
  hosts : HostsStep s msg o.state
  limits : LimitsStep s msg o.state

theorem nonReentrant_ok {s s' : State} {body : State → Exec State}
    (h : nonReentrant s body = .ok s') :
    s.entered = false ∧ ∃ t, body { s with entered := true } = .ok t ∧
      s' = { t with entered := false } := by
  simp only [nonReentrant, guardFree, bind_ok, require_ok, pure_ok] at h
  obtain ⟨-, hfree, t, ht, rfl⟩ := h
  exact ⟨hfree, t, ht, rfl⟩

/-- Taking the guard, crediting, and giving the guard back credits. -/
theorem CreditedETH.guarded {s t : State} {shares : List (Address × Nat)}
    (hfree : s.entered = false) (h : CreditedETH { s with entered := true } t shares) :
    CreditedETH s { t with entered := false } shares := by
  obtain ⟨logs, rfl⟩ := h
  exact ⟨logs, by rw [← hfree]⟩

theorem CreditedETH.emitted {s t : State} {shares : List (Address × Nat)}
    (h : CreditedETH s t shares) (e : Event) : CreditedETH s (emit t e) shares := by
  obtain ⟨logs, rfl⟩ := h
  exact ⟨logs ++ [e], rfl⟩

section Functions

variable {self : Address} {s s' : State} {msg : Msg}

theorem registerHost_same {hostId : Bytes32} {wallet : Address} {feeBps : Nat}
    (h : registerHost s msg hostId wallet feeBps = .ok s') : SameBooks s s' ∧ SameLimits s s' := by
  simp only [registerHost, bind_ok, require_ok, addAt_ok, pure_ok] at h
  obtain ⟨-, -, -, -, -, -, -, -, -, -, _, -, rfl⟩ := h
  constructor <;> constructor <;> rfl

theorem updateHost_same {hostId : Bytes32} {wallet : Address} {feeBps : Nat}
    (h : updateHost s msg hostId wallet feeBps = .ok s') : SameBooks s s' ∧ SameLimits s s' := by
  simp only [updateHost, bind_ok, require_ok, pure_ok] at h
  obtain ⟨-, -, -, -, -, -, -, -, -, -, _, -, rfl⟩ := h
  constructor <;> constructor <;> rfl

theorem setHostActive_same {hostId : Bytes32} {active : Bool}
    (h : setHostActive s msg hostId active = .ok s') : SameBooks s s' ∧ SameLimits s s' := by
  simp only [setHostActive, bind_ok, require_ok, pure_ok] at h
  obtain ⟨-, -, -, -, rfl⟩ := h
  constructor <;> constructor <;> rfl

theorem setLesserWallet_same {wallet : Address} (h : setLesserWallet s msg wallet = .ok s') :
    SameBooks s s' ∧ SameLimits s s' := by
  simp only [setLesserWallet, bind_ok, require_ok, pure_ok] at h
  obtain ⟨-, -, -, -, -, -, -, -, rfl⟩ := h
  constructor <;> constructor <;> rfl

theorem setMaxTipAmount_same {token : Address} {amount : Nat}
    (h : setMaxTipAmount s msg token amount = .ok s') : SameBooks s s' ∧ SameHosts s s' := by
  simp only [setMaxTipAmount, bind_ok, require_ok, pure_ok] at h
  obtain ⟨-, -, -, -, rfl⟩ := h
  constructor <;> constructor <;> rfl

theorem setMinTipAmount_same {token : Address} {amount : Nat}
    (h : setMinTipAmount s msg token amount = .ok s') : SameBooks s s' ∧ SameHosts s s' := by
  simp only [setMinTipAmount, bind_ok, require_ok, pure_ok] at h
  obtain ⟨-, -, -, -, -, -, rfl⟩ := h
  constructor <;> constructor <;> rfl

/-- Neither books nor guard, hosts or limits changed. -/
def SameCore (s s' : State) : Prop := SameBooks s s' ∧ SameHosts s s' ∧ SameLimits s s'

theorem SameCore.refl (s : State) : SameCore s s :=
  ⟨by constructor <;> rfl, by constructor <;> rfl, by constructor <;> rfl⟩

theorem moveLastTo_same {idx last : Nat} (h : moveLastTo s idx last = .ok s') :
    SameCore s s' := by
  unfold moveLastTo at h
  split at h
  · split at h
    · cases h
    · simp only [bind_ok, require_ok, pure_ok] at h
      obtain ⟨-, -, rfl⟩ := h
      refine ⟨?_, ?_, ?_⟩ <;> constructor <;> rfl
  · obtain rfl := pure_ok.1 h
    exact SameCore.refl s

theorem removeAllowed_same {token : Address} (h : removeAllowed s token = .ok s') :
    SameCore s s' := by
  simp only [removeAllowed, bind_ok, require_ok, pure_ok] at h
  obtain ⟨idx, -, last, -, t, ht, -, -, rfl⟩ := h
  obtain ⟨⟨_, _, _, _, _, _, _, _, _⟩, ⟨_, _, _⟩, ⟨_, _, _⟩⟩ := moveLastTo_same ht
  refine ⟨?_, ?_, ?_⟩ <;> constructor <;> assumption

theorem listAllowed_same {token : Address} {allowed : Bool}
    (h : listAllowed s token allowed = .ok s') : SameCore s s' := by
  unfold listAllowed at h
  split_ifs at h
  · obtain rfl := pure_ok.1 h
    refine ⟨?_, ?_, ?_⟩ <;> constructor <;> rfl
  · exact removeAllowed_same h
  · obtain rfl := pure_ok.1 h
    exact SameCore.refl s

theorem setTokenAllowed_same {token : Address} {allowed : Bool}
    (h : setTokenAllowed s msg token allowed = .ok s') : SameCore s s' := by
  simp only [setTokenAllowed, bind_ok, require_ok, pure_ok] at h
  obtain ⟨-, -, -, -, -, -, t, ht, rfl⟩ := h
  obtain ⟨⟨_, _, _, _, _, _, _, _, _⟩, ⟨_, _, _⟩, ⟨_, _, _⟩⟩ := listAllowed_same ht
  refine ⟨?_, ?_, ?_⟩ <;> constructor <;> assumption

theorem tipETH_step {hostId : Bytes32} {actor : Address} {contentHash : Bytes32}
    (h : tipETH s msg hostId actor contentHash = .ok s') :
    s.entered = false ∧ ∃ shares, CreditedETH s s' shares ∧
      (shares.map Prod.snd).sum = msg.value := by
  obtain ⟨hfree, t, ht, rfl⟩ := nonReentrant_ok h
  simp only [bind_ok] at ht
  obtain ⟨-, -, ht⟩ := ht
  obtain ⟨sh, hsh, hc⟩ := _tipETH_ok ht
  exact ⟨hfree, _, hc.guarded hfree, shareList_sum hsh⟩

theorem batchTipETH_step {hostId : Bytes32} {actors : List Address} {amounts : List Nat}
    {hashes : List Bytes32} (h : batchTipETH s msg hostId actors amounts hashes = .ok s') :
    s.entered = false ∧ ∃ shares, CreditedETH s s' shares ∧
      (shares.map Prod.snd).sum = msg.value := by
  obtain ⟨hfree, t, ht, rfl⟩ := nonReentrant_ok h
  simp only [bind_ok, require_ok] at ht
  obtain ⟨-, -, _, hbatch, total, htotal, -, hvalue, ht⟩ := ht
  obtain ⟨shares, hc, hsum⟩ := foldlM_tipETH_ok _ ht
  refine ⟨hfree, shares, hc.guarded hfree, ?_⟩
  rw [hsum, checkBatch_ok hbatch, sumAmounts_ok htotal, hvalue]

theorem tipAgentETH_step {hostId : Bytes32} {agentId : Nat} {contentHash : Bytes32}
    (h : tipAgentETH s msg hostId agentId contentHash = .ok s') :
    s.entered = false ∧ ∃ shares, CreditedETH s s' shares ∧
      (shares.map Prod.snd).sum = msg.value := by
  obtain ⟨hfree, t, ht, rfl⟩ := nonReentrant_ok h
  simp only [bind_ok, pure_ok] at ht
  obtain ⟨-, -, actor, -, t, ht, rfl⟩ := ht
  obtain ⟨sh, hsh, hc⟩ := _tipETH_ok ht
  exact ⟨hfree, _, (hc.emitted _).guarded hfree, shareList_sum hsh⟩

theorem startPull_ok {token : Address} {hostId : Bytes32} {tips : List Tip} {total : Nat}
    {tipper : Address} {after : List Event} {o : Outcome State Pending}
    (h : startPull s token hostId tips total tipper after = .ok o) :
    o = .callOut s (.pullTokens token hostId tips total (s.tokenBalance token) tipper after) := by
  simp only [startPull, balanceOf, bind_ok, require_ok, pure_ok] at h
  obtain ⟨_, ⟨-, -, rfl⟩, rfl⟩ := h
  rfl

theorem _tipToken_ok {token : Address} {hostId : Bytes32} {tip : Tip} {after : List Event}
    {o : Outcome State Pending} (h : _tipToken s msg token hostId tip after = .ok o) :
    o = .callOut s (.pullTokens token hostId [tip] tip.amount (s.tokenBalance token) msg.sender
      after) := by
  simp only [_tipToken, bind_ok, require_ok] at h
  obtain ⟨-, -, -, -, -, -, h⟩ := h
  exact startPull_ok h

theorem sendETH_ok {dest : Address} {amount : Nat} {e : Revert}
    (h : sendETH self s dest amount e = .ok s') :
    amount ≤ s.balance ∧ dest ≠ self ∧ s' = { s with balance := s.balance - amount } := by
  simp only [sendETH, bind_ok, require_ok, pure_ok] at h
  obtain ⟨-, ⟨ha, hd⟩, rfl⟩ := h
  exact ⟨ha, hd, rfl⟩

theorem safeTransfer_ok {token dest : Address} {amount : Nat}
    (h : safeTransfer self s token dest amount = .ok s') :
    amount ≤ s.tokenBalance token ∧ s' = { s with
      tokenBalance := if dest = self then s.tokenBalance else
        Function.update s.tokenBalance token (s.tokenBalance token - amount) } := by
  simp only [safeTransfer, bind_ok, require_ok, pure_ok] at h
  obtain ⟨-, ⟨-, ha⟩, rfl⟩ := h
  refine ⟨ha, ?_⟩
  split_ifs <;> rfl

/-- A withdrawal of ETH or of a token, up to the call-out. -/
theorem withdraw_ok {token : Address} {o : Outcome State Pending}
    (h : withdraw self s msg token = .ok o) :
    s.entered = false ∧
      ((token = 0 ∧ s.pendingETH msg.sender ≤ s.balance ∧ msg.sender ≠ self ∧
        o = .callOut (payETH s msg.sender) (.withdrawETH msg.sender (s.pendingETH msg.sender))) ∨
      (token ≠ 0 ∧ s.pendingToken token msg.sender ≤ s.tokenBalance token ∧
        o = .callOut (payToken self s token msg.sender)
          (.withdrawToken token msg.sender (s.pendingToken token msg.sender)))) := by
  simp only [withdraw, guardFree, bind_ok, require_ok] at h
  obtain ⟨-, hfree, -, -, -, -, h⟩ := h
  refine ⟨hfree, ?_⟩
  split_ifs at h with htoken
  · simp only [bind_ok, require_ok, checkedSub_ok, pure_ok] at h
    obtain ⟨-, -, total, ⟨-, rfl⟩, t, ht, rfl⟩ := h
    obtain ⟨hbal, hself, rfl⟩ := sendETH_ok ht
    exact Or.inl ⟨htoken, hbal, hself, rfl⟩
  · simp only [bind_ok, require_ok, subAt_ok, pure_ok] at h
    obtain ⟨-, -, total, ⟨-, rfl⟩, t, ht, rfl⟩ := h
    obtain ⟨hbal, rfl⟩ := safeTransfer_ok ht
    exact Or.inr ⟨htoken, hbal, rfl⟩

theorem sweepStrayETH_ok {o : Outcome State Pending} (h : sweepStrayETH self s msg = .ok o) :
    s.entered = false ∧ s.totalPendingETH < s.balance ∧
      o = .callOut { s with entered := true, balance := s.totalPendingETH }
        (.sweepETH (s.balance - s.totalPendingETH)) := by
  simp only [sweepStrayETH, guardFree, bind_ok, require_ok, checkedSub_ok, pure_ok] at h
  obtain ⟨-, -, -, hfree, -, -, -, -, -, hstray, amount, ⟨hle, rfl⟩, t, ht, rfl⟩ := h
  obtain ⟨-, -, rfl⟩ := sendETH_ok ht
  have hrest : s.balance - (s.balance - s.totalPendingETH) = s.totalPendingETH := by omega
  refine ⟨hfree, hstray, ?_⟩
  simp only [hrest]

theorem sweepStrayToken_ok {token : Address} {o : Outcome State Pending}
    (h : sweepStrayToken self s msg token = .ok o) :
    s.entered = false ∧ s.totalPendingToken token < s.tokenBalance token ∧
      o = .callOut (sweptToken self s token)
        (.sweepToken token (s.tokenBalance token - s.totalPendingToken token)) := by
  simp only [sweepStrayToken, guardFree, balanceOf, bind_ok, require_ok, checkedSub_ok,
    pure_ok] at h
  obtain ⟨-, -, -, hfree, -, -, -, -, -, -, bal, ⟨-, -, rfl⟩, -, hstray, amount, ⟨hle, rfl⟩, t, ht,
    rfl⟩ := h
  obtain ⟨-, rfl⟩ := safeTransfer_ok ht
  have hrest : s.tokenBalance token - (s.tokenBalance token - s.totalPendingToken token)
      = s.totalPendingToken token := by omega
  simp only [hrest]
  exact ⟨hfree, hstray, rfl⟩

theorem finish_ok {x : Exec State} {o : Outcome State Pending} (h : finish x = .ok o) :
    ∃ s', x = .ok s' ∧ o = .done s' := by
  simp only [finish, bind_ok, pure_ok] at h
  obtain ⟨s', hs, rfl⟩ := h
  exact ⟨s', hs, rfl⟩

theorem finishNonPayable_ok {x : Exec State} {o : Outcome State Pending}
    (h : finishNonPayable msg x = .ok o) : ∃ s', x = .ok s' ∧ o = .done s' := by
  simp only [finishNonPayable, bind_ok] at h
  obtain ⟨-, -, h⟩ := h
  exact finish_ok h

theorem outNonPayable_ok {x : Exec (Outcome State Pending)} {o : Outcome State Pending}
    (h : outNonPayable msg x = .ok o) : x = .ok o := by
  simp only [outNonPayable, bind_ok] at h
  obtain ⟨-, -, h⟩ := h
  exact h

theorem CallStep.of_same (h : SameCore s s') : CallStep self s msg (.done s') :=
  ⟨.same h.1, .same h.2.1, .same h.2.2⟩

theorem CallStep.of_tips {shares : List (Address × Nat)} (free : s.entered = false)
    (credited : CreditedETH (receiveValue s msg) s' shares)
    (sum : (shares.map Prod.snd).sum = msg.value) : CallStep self s msg (.done s') := by
  refine ⟨.tips free credited sum, .same ?_, .same ?_⟩
  · obtain ⟨_, rfl⟩ := credited
    exact ⟨rfl, rfl, rfl⟩
  · obtain ⟨_, rfl⟩ := credited
    exact ⟨rfl, rfl, rfl⟩

/-- A function that stops at a call-out has not written registry or limits. -/
theorem CallStep.of_callOut {p : Pending} (books : BooksStep self s msg (.callOut s' p)) :
    CallStep self s msg (.callOut s' p) := by
  refine ⟨books, .same ?_, .same ?_⟩ <;> cases books <;> exact ⟨rfl, rfl, rfl⟩

/-- **The effect of every call.** -/
theorem call_step {c : Call} {o : Outcome State Pending} (h : call self s (msg, c) = .ok o) :
    CallStep self s msg o := by
  cases c with
  | receive => cases h
  | tipETH hostId actor contentHash =>
      obtain ⟨s', hs, rfl⟩ := finish_ok h
      obtain ⟨hfree, shares, hc, hsum⟩ := tipETH_step hs
      exact .of_tips hfree hc hsum
  | batchTipETH hostId actors amounts contentHashes =>
      obtain ⟨s', hs, rfl⟩ := finish_ok h
      obtain ⟨hfree, shares, hc, hsum⟩ := batchTipETH_step hs
      exact .of_tips hfree hc hsum
  | tipAgentETH hostId agentId contentHash =>
      obtain ⟨s', hs, rfl⟩ := finish_ok h
      obtain ⟨hfree, shares, hc, hsum⟩ := tipAgentETH_step hs
      exact .of_tips hfree hc hsum
  | tipToken token hostId actor amount contentHash =>
      have h' := outNonPayable_ok h
      simp only [tipToken, guardFree, bind_ok, require_ok] at h'
      obtain ⟨-, hfree, -, -, h'⟩ := h'
      obtain rfl := _tipToken_ok h'
      exact .of_callOut (.pull hfree (by simp))
  | batchTipToken token hostId actors amounts contentHashes =>
      have h' := outNonPayable_ok h
      simp only [batchTipToken, guardFree, bind_ok, require_ok] at h'
      obtain ⟨-, hfree, -, -, _, hbatch, -, -, -, -, total, htotal, -, -, h'⟩ := h'
      obtain rfl := startPull_ok h'
      exact .of_callOut (.pull hfree (by rw [checkBatch_ok hbatch, sumAmounts_ok htotal]))
  | tipAgentToken token hostId agentId amount contentHash =>
      have h' := outNonPayable_ok h
      simp only [tipAgentToken, guardFree, bind_ok, require_ok] at h'
      obtain ⟨-, hfree, -, -, actor, -, h'⟩ := h'
      obtain rfl := _tipToken_ok h'
      exact .of_callOut (.pull hfree (by simp))
  | withdraw token =>
      obtain ⟨hfree, ⟨-, hbal, hself, rfl⟩ | ⟨htoken, hbal, rfl⟩⟩ :=
        withdraw_ok (outNonPayable_ok h)
      · exact .of_callOut (.withdrawETH hfree hbal hself)
      · exact .of_callOut (.withdrawToken htoken hfree hbal)
  | registerHost hostId wallet feeBps =>
      obtain ⟨s', hs, rfl⟩ := finishNonPayable_ok h
      exact ⟨.same (registerHost_same hs).1, .registerHost hs, .same (registerHost_same hs).2⟩
  | updateHost hostId wallet feeBps =>
      obtain ⟨s', hs, rfl⟩ := finishNonPayable_ok h
      exact ⟨.same (updateHost_same hs).1, .updateHost hs, .same (updateHost_same hs).2⟩
  | setHostActive hostId active =>
      obtain ⟨s', hs, rfl⟩ := finishNonPayable_ok h
      exact ⟨.same (setHostActive_same hs).1, .setHostActive hs, .same (setHostActive_same hs).2⟩
  | setTokenAllowed token allowed =>
      obtain ⟨s', hs, rfl⟩ := finishNonPayable_ok h
      exact .of_same (setTokenAllowed_same hs)
  | setLesserWallet newWallet =>
      obtain ⟨s', hs, rfl⟩ := finishNonPayable_ok h
      exact ⟨.same (setLesserWallet_same hs).1, .setLesserWallet hs,
        .same (setLesserWallet_same hs).2⟩
  | setAgentIdentityRegistry registry =>
      obtain ⟨s', hs, rfl⟩ := finishNonPayable_ok h
      simp only [setAgentIdentityRegistry, bind_ok, require_ok, pure_ok] at hs
      obtain ⟨-, -, -, -, rfl⟩ := hs
      exact .of_same (by refine ⟨?_, ?_, ?_⟩ <;> constructor <;> rfl)
  | pause =>
      obtain ⟨s', hs, rfl⟩ := finishNonPayable_ok h
      simp only [pause, bind_ok, pure_ok] at hs
      obtain ⟨-, -, -, -, rfl⟩ := hs
      exact .of_same (by refine ⟨?_, ?_, ?_⟩ <;> constructor <;> rfl)
  | unpause =>
      obtain ⟨s', hs, rfl⟩ := finishNonPayable_ok h
      simp only [unpause, bind_ok, require_ok, pure_ok] at hs
      obtain ⟨-, -, -, -, rfl⟩ := hs
      exact .of_same (by refine ⟨?_, ?_, ?_⟩ <;> constructor <;> rfl)
  | setWithdrawalsPaused paused =>
      obtain ⟨s', hs, rfl⟩ := finishNonPayable_ok h
      simp only [setWithdrawalsPaused, bind_ok, pure_ok] at hs
      obtain ⟨-, -, rfl⟩ := hs
      exact .of_same (by refine ⟨?_, ?_, ?_⟩ <;> constructor <;> rfl)
  | setMaxTipAmount token amount =>
      obtain ⟨s', hs, rfl⟩ := finishNonPayable_ok h
      exact ⟨.same (setMaxTipAmount_same hs).1, .same (setMaxTipAmount_same hs).2,
        .setMaxTipAmount hs⟩
  | setMinTipAmount token amount =>
      obtain ⟨s', hs, rfl⟩ := finishNonPayable_ok h
      exact ⟨.same (setMinTipAmount_same hs).1, .same (setMinTipAmount_same hs).2,
        .setMinTipAmount hs⟩
  | transferOwnership newOwner =>
      obtain ⟨s', hs, rfl⟩ := finishNonPayable_ok h
      simp only [transferOwnership, bind_ok, pure_ok] at hs
      obtain ⟨-, -, rfl⟩ := hs
      exact .of_same (by refine ⟨?_, ?_, ?_⟩ <;> constructor <;> rfl)
  | acceptOwnership =>
      obtain ⟨s', hs, rfl⟩ := finishNonPayable_ok h
      simp only [acceptOwnership, bind_ok, require_ok, pure_ok] at hs
      obtain ⟨-, -, rfl⟩ := hs
      exact .of_same (by refine ⟨?_, ?_, ?_⟩ <;> constructor <;> rfl)
  | renounceOwnership =>
      obtain ⟨s', hs, rfl⟩ := finishNonPayable_ok h
      simp only [renounceOwnership, bind_ok, pure_ok] at hs
      obtain ⟨-, -, rfl⟩ := hs
      exact .of_same (by refine ⟨?_, ?_, ?_⟩ <;> constructor <;> rfl)
  | sweepStrayETH =>
      obtain ⟨hfree, hstray, rfl⟩ := sweepStrayETH_ok (outNonPayable_ok h)
      exact .of_callOut (.sweepETH hfree hstray)
  | sweepStrayToken token =>
      obtain ⟨hfree, hstray, rfl⟩ := sweepStrayToken_ok (outNonPayable_ok h)
      exact .of_callOut (.sweepToken hfree hstray)

/-! ## The effect of every return -/

/-- The guard is given back and nothing but the event log changed besides. -/
def Released (s s' : State) : Prop := ∃ logs, s' = { s with entered := false, logs }

theorem foldl_emit (s : State) (es : List Event) :
    es.foldl emit s = { s with logs := s.logs ++ es } := by
  induction es generalizing s with
  | nil => simp
  | cons e es ih => rw [List.foldl_cons, ih]; simp [emit]

/-- What a call does when its call-out has returned. -/
inductive ResumeStep (s : State) : Pending → State → Prop
  | pulled {token : Address} {hostId : Bytes32} {tips : List Tip} {total balBefore : Nat}
      {tipper : Address} {after : List Event} {t s' : State} {shares : List (Address × Nat)}
      (received : s.tokenBalance token = balBefore + total)
      (credited : CreditedToken token s t shares)
      (sum : (shares.map Prod.snd).sum = (tips.map Tip.amount).sum) (released : Released t s') :
      ResumeStep s (.pullTokens token hostId tips total balBefore tipper after) s'
  | paid {p : Pending} {s' : State} (released : Released s s') : ResumeStep s p s'

/-- **The effect of every return.** -/
theorem resume_step {p : Pending} {o : Outcome State Pending} (h : resume s p = .ok o) :
    ∃ s', o = .done s' ∧ ResumeStep s p s' := by
  cases p with
  | pullTokens token hostId tips total balBefore tipper after =>
      simp only [resume, balanceOf, bind_ok, require_ok, checkedSub_ok, pure_ok] at h
      obtain ⟨_, ⟨-, -, rfl⟩, received, ⟨hle, rfl⟩, -, htotal, t, ht, rfl⟩ := h
      obtain ⟨shares, hc, hsum⟩ := foldlM_creditToken_ok tips ht
      exact ⟨_, rfl, .pulled (by omega) hc hsum ⟨t.logs ++ after, by rw [foldl_emit]⟩⟩
  | withdrawETH recipient amount =>
      obtain rfl := pure_ok.1 h
      exact ⟨_, rfl, .paid ⟨_, rfl⟩⟩
  | withdrawToken token recipient amount =>
      obtain rfl := pure_ok.1 h
      exact ⟨_, rfl, .paid ⟨_, rfl⟩⟩
  | sweepETH amount =>
      obtain rfl := pure_ok.1 h
      exact ⟨_, rfl, .paid ⟨_, rfl⟩⟩
  | sweepToken token amount =>
      obtain rfl := pure_ok.1 h
      exact ⟨_, rfl, .paid ⟨_, rfl⟩⟩

end Functions

end LesserHost.TipSplitter
