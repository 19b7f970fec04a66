import LesserHost.TipSplitter.Hosts

set_option autoImplicit false

/-! # Tip limits and the split

`setMaxTipAmount` and `setMinTipAmount` each look at the other's value, and the fee cap is checked
where a host is written. Together they bound every amount that reaches `_split` from below and every
fee that reaches it from above, and the two roundings of the split stay within what is left. -/

namespace LesserHost.TipSplitter

open LesserHost.Solidity CallStack

/-! ## The arithmetic of the split -/

/-- The lesser share is one percent, rounded down. -/
theorem lesser_bounds (amount : Nat) :
    100 * (amount * LESSER_FEE_BPS / BPS_DENOMINATOR) ≤ amount := by
  have h : amount * LESSER_FEE_BPS / BPS_DENOMINATOR * BPS_DENOMINATOR
      ≤ amount * LESSER_FEE_BPS := Nat.div_mul_le_self _ _
  simp only [LESSER_FEE_BPS, BPS_DENOMINATOR] at h ⊢
  omega

/-- A host within the fee cap gets at most five percent. -/
theorem host_bounds {fee : Nat} (amount : Nat) (hfee : fee ≤ MAX_HOST_FEE_BPS) :
    20 * (amount * fee / BPS_DENOMINATOR) ≤ amount := by
  have h : amount * fee / BPS_DENOMINATOR * BPS_DENOMINATOR ≤ amount * fee :=
    Nat.div_mul_le_self _ _
  have hcap : amount * fee ≤ amount * MAX_HOST_FEE_BPS := Nat.mul_le_mul_left amount hfee
  simp only [MAX_HOST_FEE_BPS, BPS_DENOMINATOR] at h hcap ⊢
  omega

theorem lesser_pos {amount : Nat} (h : 100 ≤ amount) :
    0 < amount * LESSER_FEE_BPS / BPS_DENOMINATOR := by
  simp only [LESSER_FEE_BPS, BPS_DENOMINATOR]
  omega

/-- What a split gives when it succeeds on an amount the limits let through. -/
structure FairSplit (amount : Nat) (sh : Shares) : Prop where
  lesser : 1 ≤ sh.lesserShare
  sum : sh.lesserShare + sh.hostShare + sh.actorShare = amount
  actor : 94 * amount ≤ 100 * sh.actorShare

/-- The three checked products and differences of `_split` go through, and the two roundings leave
    the actor at least 94 percent. -/
theorem _split_fair {fee amount : Nat} (hfee : fee ≤ MAX_HOST_FEE_BPS) (hmin : 100 ≤ amount)
    (hfit : amount * 500 < 2 ^ 256) : ∃ sh, _split fee amount = .ok sh ∧ FairSplit amount sh := by
  have hlesser := lesser_bounds amount
  have hhost := host_bounds amount hfee
  have hpos := lesser_pos hmin
  have hlesserFit : amount * LESSER_FEE_BPS < 2 ^ 256 := by
    simp only [LESSER_FEE_BPS]
    omega
  have hhostFit : amount * fee < 2 ^ 256 :=
    lt_of_le_of_lt (Nat.mul_le_mul_left amount hfee) hfit
  refine ⟨_, _split_ok.2 ⟨hlesserFit, hpos, hhostFit, ?_, ?_, rfl⟩, ?_, ?_, ?_⟩
  · omega
  · omega
  · exact hpos
  · dsimp only
    omega
  · dsimp only
    omega

/-! ## The limits -/

structure LimitsOk (s : State) : Prop where
  custom : ∀ token, s.hasCustomMinTipAmount token = true → 100 ≤ s.minTipAmount token
  ordered : ∀ token, s.maxTipAmount token ≠ 0 →
    _effectiveMinTipAmount s token ≤ s.maxTipAmount token

section Limits

variable {s s' : State} {msg : Msg} {token : Address} {amount : Nat}

/-- The effective minimum of a token depends on its own two entries only. -/
theorem _effectiveMinTipAmount_congr (hm : s'.minTipAmount token = s.minTipAmount token)
    (hc : s'.hasCustomMinTipAmount token = s.hasCustomMinTipAmount token) :
    _effectiveMinTipAmount s' token = _effectiveMinTipAmount s token := by
  unfold _effectiveMinTipAmount
  rw [hm, hc]

theorem _effectiveMinTipAmount_custom (h : s.hasCustomMinTipAmount token = true) :
    _effectiveMinTipAmount s token = s.minTipAmount token := if_pos h

/-- No tip below 100 wei, or 100 units of a token, passes the minimum check. -/
theorem LimitsOk.effectiveMin (h : LimitsOk s) (token : Address) :
    100 ≤ _effectiveMinTipAmount s token := by
  unfold _effectiveMinTipAmount
  split_ifs with hc
  · exact h.custom token hc
  · decide

theorem LimitsOk.same (h : LimitsOk s) (hs : SameLimits s s') : LimitsOk s' := by
  refine ⟨?_, ?_⟩
  · rw [hs.hasCustomMinTipAmount, hs.minTipAmount]
    exact h.custom
  · intro token hmax
    rw [hs.maxTipAmount] at hmax ⊢
    rw [_effectiveMinTipAmount_congr (congrFun hs.minTipAmount token)
      (congrFun hs.hasCustomMinTipAmount token)]
    exact h.ordered token hmax

theorem LimitsOk.setMaxTipAmount (h : LimitsOk s)
    (hr : setMaxTipAmount s msg token amount = .ok s') : LimitsOk s' := by
  simp only [TipSplitter.setMaxTipAmount, bind_ok, require_ok, pure_ok] at hr
  obtain ⟨-, -, -, hmin, rfl⟩ := hr
  refine ⟨h.custom, ?_⟩
  intro t ht
  simp only [emit] at ht
  -- the minimum is read from fields the call has not written
  show _effectiveMinTipAmount s t ≤ Function.update s.maxTipAmount token amount t
  by_cases htoken : t = token
  · subst htoken
    rw [Function.update_self] at ht ⊢
    exact hmin (Nat.pos_of_ne_zero ht)
  · rw [Function.update_of_ne htoken] at ht ⊢
    exact h.ordered t ht

theorem LimitsOk.setMinTipAmount (h : LimitsOk s)
    (hr : setMinTipAmount s msg token amount = .ok s') : LimitsOk s' := by
  simp only [TipSplitter.setMinTipAmount, bind_ok, require_ok, pure_ok] at hr
  obtain ⟨-, -, -, hlow, -, hcap, rfl⟩ := hr
  refine ⟨?_, ?_⟩
  · intro t ht
    simp only [emit] at ht ⊢
    by_cases htoken : t = token
    · subst htoken
      rwa [Function.update_self]
    · rw [Function.update_of_ne htoken] at ht ⊢
      exact h.custom t ht
  · intro t ht
    by_cases htoken : t = token
    · subst htoken
      rw [_effectiveMinTipAmount_custom (Function.update_self _ _ _)]
      simp only [emit, Function.update_self] at ht ⊢
      exact hcap (Nat.pos_of_ne_zero ht)
    · refine le_trans (le_of_eq ?_) (h.ordered t ht)
      exact _effectiveMinTipAmount_congr (Function.update_of_ne htoken _ _)
        (Function.update_of_ne htoken _ _)

theorem call_limits (h : LimitsOk s) (hc : LimitsStep s msg s') : LimitsOk s' := by
  cases hc with
  | same limits => exact h.same limits
  | setMaxTipAmount hr => exact h.setMaxTipAmount hr
  | setMinTipAmount hr => exact h.setMinTipAmount hr

theorem resume_limits {p : Pending} (hr : ResumeStep s p s') : SameLimits s s' := by
  cases hr with
  | pulled _ credited _ released =>
      obtain ⟨_, rfl⟩ := credited
      obtain ⟨_, rfl⟩ := released
      exact ⟨rfl, rfl, rfl⟩
  | paid released =>
      obtain ⟨_, rfl⟩ := released
      exact ⟨rfl, rfl, rfl⟩

theorem env_limits (s : State) (m : Move) : SameLimits s (env s m) := by
  cases m <;> exact ⟨rfl, rfl, rfl⟩

def limitsProtocol (self : Address) : Protocol (contract self) (fun _ => True) :=
  Protocol.ofInv (contract self) _ LimitsOk
    (fun _ c _ _ h hc => call_limits h (call_step (c := c.2) hc).limits)
    (fun _ _ _ h hr => by
      obtain ⟨s', rfl, hs⟩ := resume_step hr
      exact h.same (resume_limits hs))
    (fun s m _ h => h.same (env_limits s m))

theorem deploy_limits {chain : Chain} {lesserWallet owner registry : Address}
    (h : deploy chain lesserWallet owner registry = .ok s) : LimitsOk s := by
  simp only [deploy, bind_ok, require_ok, pure_ok] at h
  obtain ⟨-, -, -, -, -, -, rfl⟩ := h
  refine ⟨?_, ?_⟩
  · intro t ht; cases ht
  · intro t ht; exact absurd rfl ht

end Limits

/-- **Split safety.** After any run from deployment, for every token key and every active host, an
    amount that passes the two limit checks and leaves room for the fee product is split without a
    revert: the lesser share is at least one, nothing is lost, and the actor keeps 94 percent. The
    limits of a token never contradict each other. -/
theorem split_safe (self : Address) (chain : Chain) (lesserWallet owner registry : Address)
    (s₀ : State) (h : deploy chain lesserWallet owner registry = .ok s₀)
    (acts : List (Action (Msg × Call) Move)) :
    let s := (run (contract self) ⟨s₀, []⟩ acts).state
    (∀ token hostId amount,
      (s.hosts hostId).wallet ≠ 0 ∧ (s.hosts hostId).isActive = true →
      _effectiveMinTipAmount s token ≤ amount →
      (s.maxTipAmount token = 0 ∨ amount ≤ s.maxTipAmount token) →
      amount * 500 < 2 ^ 256 →
      ∃ sh, _split (s.hosts hostId).feeBps amount = .ok sh ∧ 1 ≤ sh.lesserShare ∧
        sh.lesserShare + sh.hostShare + sh.actorShare = amount ∧
        94 * amount ≤ 100 * sh.actorShare) ∧
    (∀ token, s.maxTipAmount token ≠ 0 →
      _effectiveMinTipAmount s token ≤ s.maxTipAmount token) := by
  intro s
  have hhosts : HostsOk s :=
    (hostsProtocol self).run_inv s₀ acts (fun _ _ => trivial) (deploy_hosts h)
  have hlimits : LimitsOk s :=
    (limitsProtocol self).run_inv s₀ acts (fun _ _ => trivial) (deploy_limits h)
  refine ⟨?_, hlimits.ordered⟩
  intro token hostId amount hactive hmin _ hfit
  have hfee := hhosts.fee hostId hactive.1
  obtain ⟨sh, hok, hfair⟩ := _split_fair hfee ((hlimits.effectiveMin token).trans hmin) hfit
  exact ⟨sh, hok, hfair.lesser, hfair.sum, hfair.actor⟩

/-- A host at the fee cap is tipped the smallest amount a custom minimum allows. -/
theorem split_safe_smallest : ∃ s₀, deploy Chain.empty 1 2 0 = .ok s₀ ∧
    let s := (run (contract 9) ⟨s₀, []⟩
      [.call (⟨2, 0⟩, .registerHost 7 3 500), .call (⟨2, 0⟩, .setMinTipAmount 0 100),
        .call (⟨2, 0⟩, .setMaxTipAmount 0 100)]).state
    ∃ sh, _split (s.hosts 7).feeBps 100 = .ok sh ∧ 1 ≤ sh.lesserShare ∧
      sh.lesserShare + sh.hostShare + sh.actorShare = 100 ∧ 94 * 100 ≤ 100 * sh.actorShare := by
  refine ⟨_, rfl, ?_⟩
  have h := split_safe 9 Chain.empty 1 2 0 _ rfl
    [.call (⟨2, 0⟩, .registerHost 7 3 500), .call (⟨2, 0⟩, .setMinTipAmount 0 100),
      .call (⟨2, 0⟩, .setMaxTipAmount 0 100)]
  exact h.1 0 7 100 ⟨by decide, rfl⟩ (by decide) (Or.inr (by decide)) (by decide)

end LesserHost.TipSplitter
