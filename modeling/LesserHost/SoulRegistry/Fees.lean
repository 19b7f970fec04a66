import LesserHost.SoulRegistry.Binding

set_option autoImplicit false

/-! # The mint fees of the SoulRegistry

A paid mint adds its fee to `accumulatedFees`, `withdrawFees` pays the sum out and hands control to the recipient.
The ledger records what the mints have brought in and what has been paid out; like all of the state it goes back to
where it was when a call fails.

Every call moves `accumulatedFees` and the balance by the same amounts, before the recipient gets control, so there
is nothing for a nested call to find in disorder. -/

namespace LesserHost.SoulRegistry

open LesserHost.Solidity CallStack

/-- What the mints have brought in, and what `withdrawFees` has paid out. -/
structure Ledger where
  earned : Nat
  paidOut : Nat

variable {σ : Type}

/-- The fee of a paid mint. -/
def feeOf (s : State σ) : Call → Nat
  | .mintSoul .. => s.mintFee
  | .selfMintSoul .. => s.mintFee
  | _ => 0

/-- What a withdrawal sends. -/
def payoutOf : Outcome (State σ) Pending → Nat
  | .callOut _ (.withdrawFees _ amount) => amount
  | _ => 0

def record (s : State σ) (c : Msg × Call) (o : Outcome (State σ) Pending) (l : Ledger) : Ledger where
  earned := l.earned + feeOf s c.2
  paidOut := l.paidOut + payoutOf o

section Fees

variable {cfg : Config σ} {s s' : State σ} {msg : Msg} {dest : Address} {id : Nat}

/-- Fees and balance went up by `came` and down by `went`. -/
structure FeesMoved (s s' : State σ) (came went : Nat) : Prop where
  fees : s'.accumulatedFees + went = s.accumulatedFees + came
  balance : s'.balance + went = s.balance + came

theorem FeesMoved.same (fees : s'.accumulatedFees = s.accumulatedFees) (balance : s'.balance = s.balance) :
    FeesMoved s s' 0 0 := ⟨fees, balance⟩

theorem _update_fees {auth prev : Address} (h : _update cfg s dest id auth = .ok (s', prev)) :
    FeesMoved s s' 0 0 := by
  obtain ⟨_, _, _, _, _, rfl⟩ := _update_writes h
  exact .same rfl rfl

theorem _mintSoulInternal_fees {metaURI : Bytes} {avatarStyle : Fin 256} {principal : Address}
    (h : _mintSoulInternal cfg s dest id metaURI avatarStyle principal = .ok s') : FeesMoved s s' 0 0 := by
  obtain ⟨_, _, _, _, _, _, _, _, _, _, rfl⟩ := _mintSoulInternal_writes h
  exact .same rfl rfl

theorem transferFrom_fees {source : Address} (h : transferFrom cfg s msg source dest id = .ok s') :
    FeesMoved s s' 0 0 := by
  obtain ⟨_, _, _, _, _, rfl⟩ := transferFrom_writes h
  exact .same rfl rfl

/-- A mint takes exactly the fee. -/
theorem mintSoul_fees {metaURI permit : Bytes} {avatarStyle : Fin 256} {deadline : Nat}
    (h : mintSoul cfg (receiveValue s msg) msg dest id metaURI avatarStyle deadline permit = .ok s') :
    FeesMoved s s' s.mintFee 0 := by
  simp only [mintSoul, bind_ok, require_ok, checkedAdd_ok] at h
  obtain ⟨-, -, -, fee, -, -, -, -, -, -, -, -, fees, ⟨-, rfl⟩, h⟩ := h
  obtain ⟨sum, balance⟩ := _mintSoulInternal_fees h
  have paid : msg.value = s.mintFee := fee
  refine ⟨?_, ?_⟩
  · rw [sum, paid]
    rfl
  · rw [balance, ← paid]
    rfl

theorem selfMintSoul_fees {metaURI sig : Bytes} {avatarStyle : Fin 256} {principal : Address} {deadline : Nat}
    (h : selfMintSoul cfg (receiveValue s msg) msg dest id metaURI avatarStyle principal deadline sig = .ok s') :
    FeesMoved s s' s.mintFee 0 := by
  simp only [selfMintSoul, bind_ok, require_ok] at h
  obtain ⟨-, -, -, fee, -, -, -, -, -, -, h⟩ := h
  have paid : msg.value = s.mintFee := fee
  split at h
  · cases h
  · simp only [bind_ok, require_ok, checkedAdd_ok] at h
    obtain ⟨-, -, fees, ⟨-, rfl⟩, h⟩ := h
    obtain ⟨sum, balance⟩ := _mintSoulInternal_fees h
    refine ⟨?_, ?_⟩
    · rw [sum, paid]
      rfl
    · rw [balance, ← paid]
      rfl

/-- What a withdrawal sends leaves both the fees and the balance. -/
theorem withdrawFees_fees {recipient : Address} {o : Outcome (State σ) Pending}
    (h : withdrawFees cfg s msg recipient = .ok o) :
    FeesMoved s o.state 0 (payoutOf o) ∧ payoutOf o = min s.accumulatedFees s.balance := by
  simp only [withdrawFees, bind_ok, checkedSub_ok, pure_ok] at h
  obtain ⟨-, -, -, -, -, -, fees, ⟨covered, rfl⟩, -, -, rfl⟩ := h
  simp only [payoutOf, Outcome.state]
  split_ifs at covered ⊢ with clamped
  · exact ⟨⟨by simp only; omega, by simp only; omega⟩, by omega⟩
  · exact ⟨⟨by simp only; omega, by simp only; omega⟩, by omega⟩

theorem finish_done {x : Exec (State σ)} {o : Outcome (State σ) Pending} (h : finish x = .ok o) :
    ∃ s', x = .ok s' ∧ o = .done s' := by
  simp only [finish, bind_ok, pure_ok] at h
  obtain ⟨s', hs, rfl⟩ := h
  exact ⟨s', hs, rfl⟩

/-- **What every call does to the fees.** -/
theorem call_fees {c : Call} {o : Outcome (State σ) Pending} (h : call cfg s (msg, c) = .ok o) :
    FeesMoved s o.state (feeOf s c) (payoutOf o) := by
  cases c with
  | mintSoul dest id metaURI avatarStyle deadline permit =>
    obtain ⟨s', hs, rfl⟩ := finish_done h
    exact mintSoul_fees hs
  | selfMintSoul dest id metaURI avatarStyle principal deadline sig =>
    obtain ⟨s', hs, rfl⟩ := finish_done h
    exact selfMintSoul_fees hs
  | withdrawFees recipient => exact (withdrawFees_fees (nonPayable_ok h)).1
  | safeTransferFrom source dest id =>
    have hs := nonPayable_ok h
    simp only [safeTransferFrom, bind_ok, pure_ok] at hs
    obtain ⟨t, ht, rfl⟩ := hs
    split_ifs
    · exact transferFrom_fees ht
    · exact transferFrom_fees ht
  | mintSoulOwner dest id metaURI avatarStyle =>
    obtain ⟨s', hs, rfl⟩ := finish_done (nonPayable_ok h)
    simp only [mintSoulOwner, bind_ok] at hs
    obtain ⟨-, -, -, -, hs⟩ := hs
    exact _mintSoulInternal_fees hs
  | burnSoul id =>
    obtain ⟨s', hs, rfl⟩ := finish_done (nonPayable_ok h)
    simp only [burnSoul, bind_ok, pure_ok, Prod.exists] at hs
    obtain ⟨-, -, -, -, -, -, t, prev, ht, rfl⟩ := hs
    have moved := _update_fees ht
    exact ⟨moved.fees, moved.balance⟩
  | rotateWallet id newWallet nonce deadline currentSig newSig =>
    obtain ⟨s', hs, rfl⟩ := finish_done (nonPayable_ok h)
    simp only [rotateWallet, bind_ok, pure_ok, Prod.exists] at hs
    obtain ⟨-, -, -, -, -, -, -, -, -, -, -, -, -, -, -, -, -, -, next, -, t, prev, ht, rfl⟩ := hs
    have moved := _update_fees ht
    exact ⟨moved.fees, moved.balance⟩
  | transferFrom source dest id =>
    obtain ⟨s', hs, rfl⟩ := finish_done (nonPayable_ok h)
    exact transferFrom_fees hs
  | _ =>
    -- the other functions write neither fees nor balance
    obtain ⟨s', hs, rfl⟩ := finish_done (nonPayable_ok h)
    simp only [approve, setApprovalForAll, setMetaURI, setAvatarStyle, addAttestor, removeAttestor, setRenderer,
      setMintSigner, setMintFee, pause, unpause, transferOwnership, acceptOwnership, renounceOwnership, bind_ok,
      pure_ok] at hs
    first
      | obtain ⟨-, -, rfl⟩ := hs
      | obtain ⟨-, -, -, -, rfl⟩ := hs
      | obtain ⟨-, -, -, -, -, -, rfl⟩ := hs
      | obtain ⟨-, -, -, -, -, -, -, -, rfl⟩ := hs
    exact .same rfl rfl

/-- The fees are in the balance, and the books balance. -/
structure FeesOk (s : State σ × Ledger) : Prop where
  covered : s.1.accumulatedFees ≤ s.1.balance
  exact : s.2.paidOut + s.1.accumulatedFees = s.2.earned

/-- The books balance at every call-out and at the end of every call. -/
def feesProtocol (cfg : Config σ) : Protocol ((contract cfg).recording record) (fun _ => True) :=
  Protocol.ofInv _ _ FeesOk
    (fun s c o _ ok h => by
      obtain ⟨o', hcall, rfl⟩ := recording_call h
      have moved := call_fees hcall
      rw [Outcome.map_state]
      refine ⟨?_, ?_⟩
      · have := ok.covered
        have := moved.fees
        have := moved.balance
        simp only
        omega
      · have := ok.exact
        have := moved.fees
        simp only [record]
        omega)
    (fun s p o ok h => by
      obtain ⟨o', hresume, rfl⟩ := recording_resume h
      obtain rfl := Except.ok.inj hresume
      exact ok)
    (fun s m _ ok => by
      refine ⟨?_, ?_⟩
      · cases m with
        | forceETH amount => exact ok.covered.trans (Nat.le_add_right _ _)
        | _ => exact ok.covered
      · cases m <;> exact ok.exact)

theorem deploy_fees {chain : Chain} {initialOwner : Address} (h : deploy cfg chain initialOwner = .ok s) :
    FeesOk (s, ⟨0, 0⟩) := by
  simp only [deploy, bind_ok, require_ok, pure_ok] at h
  obtain ⟨-, -, rfl⟩ := h
  exact ⟨Nat.zero_le _, rfl⟩

end Fees

/-- **Fee accounting.** Keeping the ledger changes nothing in a run from deployment. In every state it reaches,
    with any calls open, the fees are at most the balance, so a withdrawal is not clamped; and what has been paid
    out and the fees still held are together what the mints have brought in. -/
theorem fees_accounted (cfg : Config σ) (chain : Chain) (initialOwner : Address) (s₀ : State σ)
    (h : deploy cfg chain initialOwner = .ok s₀) (acts : List (Action (Msg × Call) Move)) :
    let m := run ((contract cfg).recording record) ⟨(s₀, ⟨0, 0⟩), []⟩ acts
    m.unrecorded = run (contract cfg) ⟨s₀, []⟩ acts ∧
    m.state.1.accumulatedFees ≤ m.state.1.balance ∧
    (∀ msg recipient o, withdrawFees cfg m.state.1 msg recipient = .ok o →
      payoutOf o = m.state.1.accumulatedFees) ∧
    m.state.2.paidOut + m.state.1.accumulatedFees = m.state.2.earned := by
  intro m
  have ok : FeesOk m.state := (feesProtocol cfg).run_inv _ acts (fun _ _ => trivial) (deploy_fees h)
  refine ⟨run_recording _ _ _ _, ok.covered, fun msg recipient o hw => ?_, ok.exact⟩
  rw [(withdrawFees_fees hw).2, Nat.min_eq_left ok.covered]

/-- The basic registry with a digest for each soul. -/
def permitConfig : Config BasicStore :=
  { basicConfig with
    _hashTypedDataV4 := fun data =>
      match data with
      | .mintPermit _ agentId _ _ _ => Fin.ofNat _ agentId
      | _ => 0 }

/-- The recipient of a withdrawal mints a soul of its own before it answers. -/
theorem fees_accounted_reentered : ∃ s₀,
    deploy permitConfig ⟨0, 1000, fun _ => 0, fun _ _ _ => true⟩ 2 = .ok s₀ ∧
    let m := run ((contract permitConfig).recording record) ⟨(s₀, ⟨0, 0⟩), []⟩
      [.call (⟨2, 0, by decide⟩, .setMintSigner 3), .call (⟨2, 0, by decide⟩, .setMintFee 5),
        .call (⟨7, 5, by decide⟩, .mintSoul 7 1 [1] 0 2000 []), .call (⟨2, 0, by decide⟩, .withdrawFees 8),
        .call (⟨8, 5, by decide⟩, .mintSoul 8 2 [1] 0 2000 []), .ret true]
    m.state.2.paidOut + m.state.1.accumulatedFees = m.state.2.earned := by
  refine ⟨_, rfl, ?_⟩
  exact (fees_accounted permitConfig ⟨0, 1000, fun _ => 0, fun _ _ _ => true⟩ 2 _ rfl _).2.2.2

end LesserHost.SoulRegistry
