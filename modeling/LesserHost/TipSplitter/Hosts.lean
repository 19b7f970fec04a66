import LesserHost.Lib.RefCount
import LesserHost.TipSplitter.Steps

set_option autoImplicit false

/-! # The host registry of the TipSplitter

`_hostWalletRefCount` is a derived counter: `registerHost` and `updateHost` keep it by hand, and
`setLesserWallet` trusts it to keep the lesser wallet apart from every host wallet. The registry
refines a `RefCount`, whose counter is exact by type. -/

namespace LesserHost.TipSplitter

open LesserHost.Solidity CallStack

/-- The wallet of a host id; `none` as long as the id is not registered. -/
def hostWallet (hosts : Bytes32 → HostConfig) (hostId : Bytes32) : Option Address :=
  if (hosts hostId).wallet = 0 then none else some (hosts hostId).wallet

/-- The registry of the contract is that of the reference count. -/
structure RefinesHosts (r : RefCount Bytes32 Address) (s : State) : Prop where
  assign : r.assign = hostWallet s.hosts
  count : r.count = s._hostWalletRefCount

structure HostsOk (s : State) : Prop where
  refs : ∃ r, RefinesHosts r s
  fee : ∀ hostId, (s.hosts hostId).wallet ≠ 0 → (s.hosts hostId).feeBps ≤ MAX_HOST_FEE_BPS
  separate : ∀ hostId, (s.hosts hostId).wallet ≠ 0 → s.lesserWallet ≠ (s.hosts hostId).wallet

section Registry

variable {s s' : State} {msg : Msg} {hostId : Bytes32} {wallet : Address} {feeBps : Nat}

theorem hostWallet_of_ne {hosts : Bytes32 → HostConfig} (h : (hosts hostId).wallet ≠ 0) :
    hostWallet hosts hostId = some (hosts hostId).wallet := if_neg h

/-- Writing one host writes one entry of the assignment. -/
theorem hostWallet_update (hosts : Bytes32 → HostConfig) (c : HostConfig) :
    hostWallet (Function.update hosts hostId c)
      = Function.update (hostWallet hosts) hostId (if c.wallet = 0 then none else some c.wallet) := by
  funext k
  by_cases hk : k = hostId
  · subst hk
    simp [hostWallet]
  · simp [hostWallet, hk]

/-- A property of every registered host survives the writing of one host that has it. -/
theorem forall_update {P : HostConfig → Prop} {hosts : Bytes32 → HostConfig} {c : HostConfig}
    (h : ∀ k, (hosts k).wallet ≠ 0 → P (hosts k)) (hc : P c) :
    ∀ k, (Function.update hosts hostId c k).wallet ≠ 0 →
      P (Function.update hosts hostId c k) := by
  intro k hk
  by_cases heq : k = hostId
  · subst heq
    rw [Function.update_self]
    exact hc
  · rw [Function.update_of_ne heq] at hk ⊢
    exact h k hk

theorem HostsOk.same (h : HostsOk s) (hs : SameHosts s s') : HostsOk s' := by
  obtain ⟨r, hr⟩ := h.refs
  refine ⟨⟨r, ?_, ?_⟩, ?_, ?_⟩
  · rw [hs.hosts]; exact hr.assign
  · rw [hs.refCount]; exact hr.count
  · rw [hs.hosts]; exact h.fee
  · rw [hs.hosts, hs.lesserWallet]; exact h.separate

/-- Writing one host: the two facts about every registered host need a look at this one only. -/
theorem HostsOk.write (h : HostsOk s) {c : HostConfig} (refs : ∃ r, RefinesHosts r s')
    (hosts : s'.hosts = Function.update s.hosts hostId c) (lesser : s'.lesserWallet = s.lesserWallet)
    (fee : c.feeBps ≤ MAX_HOST_FEE_BPS) (separate : s.lesserWallet ≠ c.wallet) : HostsOk s' := by
  refine ⟨refs, ?_, ?_⟩
  · rw [hosts]
    exact forall_update (P := fun c => c.feeBps ≤ MAX_HOST_FEE_BPS) h.fee fee
  · rw [hosts, lesser]
    exact forall_update (P := fun c => s.lesserWallet ≠ c.wallet) h.separate separate

theorem HostsOk.registerHost (h : HostsOk s)
    (hr : registerHost s msg hostId wallet feeBps = .ok s') : HostsOk s' := by
  simp only [TipSplitter.registerHost, bind_ok, require_ok, addAt_ok, pure_ok] at hr
  obtain ⟨-, -, -, hwallet, -, hlesser, -, hfee, -, hfree, _, ⟨-, rfl⟩, rfl⟩ := hr
  obtain ⟨r, hassign, hcount⟩ := h.refs
  have hnone : r.assign hostId = none := by rw [hassign, hostWallet, if_pos hfree]
  refine h.write ⟨r.add hostId wallet hnone, ?_, ?_⟩ rfl rfl hfee (Ne.symm hlesser)
  · show Function.update r.assign hostId (some wallet) = _
    simp only [emit, hostWallet_update, hassign, if_neg hwallet]
  · show Function.update r.count wallet (r.count wallet + 1) = _
    simp only [emit, hcount]

/-- Moving a reference is what the counter does when the host of `oldWallet` gets `wallet`. -/
theorem moveHostRef_refines {r : RefCount Bytes32 Address} {refs : Address → Nat}
    {oldWallet : Address} (hold : r.assign hostId = some oldWallet)
    (h : moveHostRef r.count oldWallet wallet = .ok refs) :
    ∃ r' : RefCount Bytes32 Address,
      r'.assign = Function.update r.assign hostId (some wallet) ∧ r'.count = refs := by
  unfold moveHostRef at h
  split_ifs at h with hne
  · simp only [bind_ok, subAt_ok, addAt_ok] at h
    obtain ⟨_, ⟨-, rfl⟩, -, rfl⟩ := h
    refine ⟨r.move hostId oldWallet wallet hold hne, rfl, ?_⟩
    simp only [RefCount.move, Function.update_of_ne (Ne.symm hne)]
  · -- the host keeps its wallet, and the counters stay as they are
    rw [not_not] at hne
    subst hne
    obtain rfl := pure_ok.1 h
    exact ⟨r, (r.assign_update_self hold).symm, rfl⟩

theorem HostsOk.updateHost (h : HostsOk s)
    (hr : updateHost s msg hostId wallet feeBps = .ok s') : HostsOk s' := by
  simp only [TipSplitter.updateHost, bind_ok, require_ok, pure_ok] at hr
  obtain ⟨-, -, -, hhost, -, hwallet, -, hlesser, -, hfee, refs, hrefs, rfl⟩ := hr
  obtain ⟨r, hassign, hcount⟩ := h.refs
  have hold : r.assign hostId = some (s.hosts hostId).wallet := by
    rw [hassign, hostWallet_of_ne hhost]
  rw [← hcount] at hrefs
  obtain ⟨r', hassign', hcount'⟩ := moveHostRef_refines hold hrefs
  refine h.write ⟨r', ?_, hcount'⟩ rfl rfl hfee (Ne.symm hlesser)
  rw [hassign', hassign]
  simp only [emit, hostWallet_update, if_neg hwallet]

theorem HostsOk.setHostActive {active : Bool} (h : HostsOk s)
    (hr : setHostActive s msg hostId active = .ok s') : HostsOk s' := by
  simp only [TipSplitter.setHostActive, bind_ok, require_ok, pure_ok] at hr
  obtain ⟨-, -, -, hhost, rfl⟩ := hr
  obtain ⟨r, hassign, hcount⟩ := h.refs
  refine h.write ⟨r, ?_, hcount⟩ rfl rfl (h.fee hostId hhost) (h.separate hostId hhost)
  rw [hassign]
  simp only [emit, hostWallet_update, if_neg hhost]
  rw [← hostWallet_of_ne hhost, Function.update_eq_self]

/-- A wallet whose counter is zero is the wallet of no host. -/
theorem RefinesHosts.unused {r : RefCount Bytes32 Address} (h : RefinesHosts r s)
    (hzero : s._hostWalletRefCount wallet = 0) (hhost : (s.hosts hostId).wallet ≠ 0) :
    wallet ≠ (s.hosts hostId).wallet := by
  intro heq
  have hassign : r.assign hostId = some wallet := by
    rw [h.assign, hostWallet_of_ne hhost, heq]
  have hpos := r.count_pos hassign
  rw [h.count, hzero] at hpos
  exact absurd hpos (lt_irrefl 0)

theorem HostsOk.setLesserWallet (h : HostsOk s)
    (hr : setLesserWallet s msg wallet = .ok s') : HostsOk s' := by
  simp only [TipSplitter.setLesserWallet, bind_ok, require_ok, pure_ok] at hr
  obtain ⟨-, -, -, -, -, -, -, hzero, rfl⟩ := hr
  obtain ⟨r, hr⟩ := h.refs
  exact ⟨⟨r, hr.assign, hr.count⟩, h.fee, fun hostId hhost => hr.unused hzero hhost⟩

theorem call_hosts (h : HostsOk s) (hc : HostsStep s msg s') : HostsOk s' := by
  cases hc with
  | same hosts => exact h.same hosts
  | registerHost hr => exact h.registerHost hr
  | updateHost hr => exact h.updateHost hr
  | setHostActive hr => exact h.setHostActive hr
  | setLesserWallet hr => exact h.setLesserWallet hr

theorem resume_hosts {p : Pending} (hr : ResumeStep s p s') : SameHosts s s' := by
  cases hr with
  | pulled _ credited _ released =>
      obtain ⟨_, rfl⟩ := credited
      obtain ⟨_, rfl⟩ := released
      exact ⟨rfl, rfl, rfl⟩
  | paid released =>
      obtain ⟨_, rfl⟩ := released
      exact ⟨rfl, rfl, rfl⟩

theorem env_hosts (s : State) (m : Move) : SameHosts s (env s m) := by
  cases m <;> exact ⟨rfl, rfl, rfl⟩

/-- The registry is in order at every call-out and at the end of every call. -/
def hostsProtocol (self : Address) : Protocol (contract self) (fun _ => True) :=
  Protocol.ofInv (contract self) _ HostsOk
    (fun _ c _ _ h hc => call_hosts h (call_step (c := c.2) hc).hosts)
    (fun _ _ _ h hr => by
      obtain ⟨s', rfl, hs⟩ := resume_step hr
      exact h.same (resume_hosts hs))
    (fun s m _ h => h.same (env_hosts s m))

theorem deploy_hosts {chain : Chain} {lesserWallet owner registry : Address}
    (h : deploy chain lesserWallet owner registry = .ok s) : HostsOk s := by
  simp only [deploy, bind_ok, require_ok, pure_ok] at h
  obtain ⟨-, -, -, -, -, -, rfl⟩ := h
  refine ⟨⟨RefCount.empty, ?_, rfl⟩, ?_, ?_⟩
  · funext k; rfl
  · intro k hk; exact absurd rfl hk
  · intro k hk; exact absurd rfl hk

end Registry

/-- **Host separation.** After any run from deployment the counter of a wallet is the number of
    hosts that use it, so that taking a host's reference away cannot underflow; the fee of every
    registered host is within the cap; and no registered host uses the lesser wallet. -/
theorem hosts_separate (self : Address) (chain : Chain) (lesserWallet owner registry : Address)
    (s₀ : State) (h : deploy chain lesserWallet owner registry = .ok s₀)
    (acts : List (Action (Msg × Call) Move)) :
    let s := (run (contract self) ⟨s₀, []⟩ acts).state
    (∀ w, s._hostWalletRefCount w = (Finset.univ.filter fun hostId =>
      (s.hosts hostId).wallet ≠ 0 ∧ (s.hosts hostId).wallet = w).card) ∧
    (∀ hostId, (s.hosts hostId).wallet ≠ 0 →
      (∃ refs, subAt s._hostWalletRefCount (s.hosts hostId).wallet 1 = .ok refs) ∧
      (s.hosts hostId).feeBps ≤ 500 ∧ s.lesserWallet ≠ (s.hosts hostId).wallet) := by
  intro s
  have hs : HostsOk s := (hostsProtocol self).run_inv s₀ acts (fun _ _ => trivial) (deploy_hosts h)
  obtain ⟨⟨r, hassign, hcount⟩, hfee, hseparate⟩ := hs
  refine ⟨?_, ?_⟩
  · intro w
    rw [← hcount, r.exact w, RefCount.uses, hassign]
    refine congrArg Finset.card (Finset.filter_congr ?_)
    intro hostId _
    simp [hostWallet]
  · intro hostId hhost
    have hpos : 0 < s._hostWalletRefCount (s.hosts hostId).wallet := by
      rw [← hcount]
      exact r.count_pos (k := hostId) (by rw [hassign, hostWallet_of_ne hhost])
    exact ⟨⟨_, subAt_ok.2 ⟨hpos, rfl⟩⟩, hfee hostId hhost, hseparate hostId hhost⟩

/-- Two hosts share a wallet, one of them leaves it, and the lesser wallet moves to a wallet that
    was a host's before. -/
theorem hosts_separate_shared : ∃ s₀, deploy Chain.empty 1 2 0 = .ok s₀ ∧
    let s := (run (contract 9) ⟨s₀, []⟩
      [.call (⟨2, 0⟩, .registerHost 7 3 500), .call (⟨2, 0⟩, .registerHost 8 3 100),
        .call (⟨2, 0⟩, .updateHost 7 4 0), .call (⟨2, 0⟩, .updateHost 8 4 0),
        .call (⟨2, 0⟩, .setLesserWallet 3)]).state
    ∀ hostId, (s.hosts hostId).wallet ≠ 0 → s.lesserWallet ≠ (s.hosts hostId).wallet := by
  refine ⟨_, rfl, ?_⟩
  intro s hostId hhost
  have h := hosts_separate 9 Chain.empty 1 2 0 _ rfl
    [.call (⟨2, 0⟩, .registerHost 7 3 500), .call (⟨2, 0⟩, .registerHost 8 3 100),
      .call (⟨2, 0⟩, .updateHost 7 4 0), .call (⟨2, 0⟩, .updateHost 8 4 0),
      .call (⟨2, 0⟩, .setLesserWallet 3)]
  exact (h.2 hostId hhost).2.2

end LesserHost.TipSplitter
