import LesserHost.Lib.IndexedList
import LesserHost.TipSplitter.Steps

set_option autoImplicit false

/-! # The token allowlist of the TipSplitter

`allowedTokens`, `allowedTokenList` and the 1-based `_tokenIndex` are three pictures of one set, which only
`setTokenAllowed` writes. List and index refine an `IndexedList`, whose index is exact by type; its removal is the
swap-and-pop of the contract. -/

namespace LesserHost.TipSplitter

open LesserHost.Solidity CallStack

/-- List and index of the contract are those of the indexed list. -/
structure RefinesAllowlist (l : IndexedList Address) (s : State) : Prop where
  keys : l.keys = s.allowedTokenList
  index : l.index = s._tokenIndex

def AllowlistOk (s : State) : Prop :=
  ∃ l, RefinesAllowlist l s ∧ ∀ token, token ∈ l.keys ↔ s.allowedTokens token = true

structure SameAllowlist (s s' : State) : Prop where
  allowedTokens : s'.allowedTokens = s.allowedTokens
  allowedTokenList : s'.allowedTokenList = s.allowedTokenList
  _tokenIndex : s'._tokenIndex = s._tokenIndex

section Allowlist

variable {self : Address} {s s' : State} {msg : Msg} {token : Address} {allowed : Bool}

theorem AllowlistOk.same (h : AllowlistOk s) (hs : SameAllowlist s s') : AllowlistOk s' := by
  obtain ⟨l, hl, hallowed⟩ := h
  refine ⟨l, ⟨?_, ?_⟩, ?_⟩
  · rw [hs.allowedTokenList, hl.keys]
  · rw [hs._tokenIndex, hl.index]
  · rw [hs.allowedTokens]
    exact hallowed

/-- Swap-and-pop of a listed token succeeds, and is the removal of the indexed list. -/
theorem removeAllowed_refines {l : IndexedList Address} (hl : RefinesAllowlist l s)
    (h : l.index token ≠ 0) :
    ∃ last hlast, removeAllowed s token = .ok { s with
      allowedTokenList := (l.remove token last h hlast).keys
      _tokenIndex := (l.remove token last h hlast).index } := by
  have bound := l.index_le token
  have inside : l.keys.length - 1 < l.keys.length := by omega
  have hlast : l.keys[l.keys.length - 1]? = some l.keys[l.keys.length - 1] :=
    List.getElem?_eq_getElem inside
  refine ⟨_, hlast, ?_⟩
  have nonempty : l.keys ≠ [] := by
    rw [← List.length_pos_iff]
    omega
  have hidx : checkedSub (s._tokenIndex token) 1 = .ok (l.index token - 1) :=
    checkedSub_ok.2 ⟨by rw [← hl.index]; omega, by rw [hl.index]⟩
  have hend : checkedSub s.allowedTokenList.length 1 = .ok (l.keys.length - 1) :=
    checkedSub_ok.2 ⟨by rw [← hl.keys]; omega, by rw [hl.keys]⟩
  simp only [removeAllowed, bind_ok, require_ok, pure_ok]
  refine ⟨_, hidx, _, hend, ?_⟩
  by_cases atEnd : l.index token = l.keys.length
  · obtain ⟨keys, index⟩ := IndexedList.remove_last h hlast atEnd
    refine ⟨s, ?_, (), hl.keys ▸ nonempty, ?_⟩
    · rw [moveLastTo, if_neg (by omega)]
      rfl
    · rw [keys, index, hl.keys, hl.index]
  · refine ⟨{ s with
      allowedTokenList := l.keys.set (l.index token - 1) l.keys[l.keys.length - 1]
      _tokenIndex := Function.update l.index l.keys[l.keys.length - 1] (l.index token) }, ?_, (), ?_, rfl⟩
    · rw [moveLastTo, if_pos (by omega), ← hl.keys, hlast]
      simp only [bind_ok, require_ok, pure_ok]
      refine ⟨(), by omega, ?_⟩
      rw [hl.index, show s._tokenIndex token - 1 + 1 = s._tokenIndex token by rw [← hl.index]; omega]
    · simpa using nonempty

/-- The list follows a change of one token. -/
theorem listAllowed_refines (h : AllowlistOk s) (token : Address) (allowed : Bool) :
    ∃ l : IndexedList Address,
      listAllowed s token allowed = .ok { s with allowedTokenList := l.keys, _tokenIndex := l.index } ∧
      ∀ t, t ∈ l.keys ↔ Function.update s.allowedTokens token allowed t = true := by
  obtain ⟨l, hl, hallowed⟩ := h
  have others : ∀ t, t ≠ token → (t ∈ l.keys ↔ Function.update s.allowedTokens token allowed t = true) :=
    fun t ht => by rw [Function.update_of_ne ht, hallowed]
  have same : { s with allowedTokenList := l.keys, _tokenIndex := l.index } = s := by
    rw [hl.keys, hl.index]
  rw [listAllowed]
  split_ifs with adds removes
  · obtain ⟨rfl, fresh⟩ := adds
    have free : l.index token = 0 := by
      by_contra present
      have listed := (hallowed token).1 (IndexedList.index_ne_zero.1 present)
      rw [fresh] at listed
      cases listed
    refine ⟨l.push token free, ?_, fun t => ?_⟩
    · simp only [IndexedList.push, hl.keys, hl.index]
      rfl
    · by_cases ht : t = token
      · subst ht
        simp [IndexedList.push]
      · rw [← others t ht]
        simp [IndexedList.push, ht]
  · obtain ⟨rfl, listed⟩ := removes
    have present : l.index token ≠ 0 := IndexedList.index_ne_zero.2 ((hallowed token).2 listed)
    obtain ⟨last, hlast, removed⟩ := removeAllowed_refines hl present
    refine ⟨_, removed, fun t => ?_⟩
    rw [IndexedList.mem_remove]
    by_cases ht : t = token
    · subst ht
      simp
    · rw [← others t ht]
      simp [ht]
  · refine ⟨l, by rw [same]; rfl, fun t => ?_⟩
    by_cases ht : t = token
    · subst ht
      rw [Function.update_self, hallowed]
      cases allowed <;> simp_all
    · exact others t ht

theorem AllowlistOk.setTokenAllowed (h : AllowlistOk s)
    (hr : setTokenAllowed s msg token allowed = .ok s') :
    AllowlistOk s' ∧ s'.allowedTokens = Function.update s.allowedTokens token allowed := by
  obtain ⟨l, hlist, hmem⟩ := listAllowed_refines h token allowed
  simp only [TipSplitter.setTokenAllowed, bind_ok, require_ok, pure_ok, hlist] at hr
  obtain ⟨-, -, -, -, -, -, t, ht, rfl⟩ := hr
  obtain rfl := Except.ok.inj ht
  exact ⟨⟨l, ⟨rfl, rfl⟩, hmem⟩, rfl⟩

theorem CreditedETH.sameAllowlist {shares : List (Address × Nat)}
    (h : CreditedETH (receiveValue s msg) s' shares) : SameAllowlist s s' := by
  obtain ⟨_, rfl⟩ := h
  exact ⟨rfl, rfl, rfl⟩

/-- What a successful call does to the allowlist. -/
theorem call_allowlist {c : Call} {o : Outcome State Pending} (h : call self s (msg, c) = .ok o) :
    SameAllowlist s o.state ∨
      ∃ token allowed, setTokenAllowed s msg token allowed = .ok o.state := by
  cases c with
  | receive => cases h
  | tipETH hostId actor contentHash =>
    obtain ⟨s', hs, rfl⟩ := finish_ok h
    obtain ⟨-, shares, credited, -⟩ := tipETH_step hs
    exact .inl credited.sameAllowlist
  | batchTipETH hostId actors amounts contentHashes =>
    obtain ⟨s', hs, rfl⟩ := finish_ok h
    obtain ⟨-, shares, credited, -⟩ := batchTipETH_step hs
    exact .inl credited.sameAllowlist
  | tipAgentETH hostId agentId contentHash =>
    obtain ⟨s', hs, rfl⟩ := finish_ok h
    obtain ⟨-, shares, credited, -⟩ := tipAgentETH_step hs
    exact .inl credited.sameAllowlist
  | tipToken token hostId actor amount contentHash =>
    have started := outNonPayable_ok h
    simp only [tipToken, bind_ok] at started
    obtain ⟨-, -, -, -, started⟩ := started
    obtain rfl := _tipToken_ok started
    exact .inl ⟨rfl, rfl, rfl⟩
  | batchTipToken token hostId actors amounts contentHashes =>
    have started := outNonPayable_ok h
    simp only [batchTipToken, bind_ok] at started
    obtain ⟨-, -, -, -, -, -, -, -, -, -, total, -, -, -, started⟩ := started
    obtain rfl := startPull_ok started
    exact .inl ⟨rfl, rfl, rfl⟩
  | tipAgentToken token hostId agentId amount contentHash =>
    have started := outNonPayable_ok h
    simp only [tipAgentToken, bind_ok] at started
    obtain ⟨-, -, -, -, actor, -, started⟩ := started
    obtain rfl := _tipToken_ok started
    exact .inl ⟨rfl, rfl, rfl⟩
  | withdraw token =>
    obtain ⟨-, ⟨-, -, -, rfl⟩ | ⟨-, -, rfl⟩⟩ := withdraw_ok (outNonPayable_ok h)
    · exact .inl ⟨rfl, rfl, rfl⟩
    · exact .inl ⟨rfl, rfl, rfl⟩
  | sweepStrayETH =>
    obtain ⟨-, -, rfl⟩ := sweepStrayETH_ok (outNonPayable_ok h)
    exact .inl ⟨rfl, rfl, rfl⟩
  | sweepStrayToken token =>
    obtain ⟨-, -, rfl⟩ := sweepStrayToken_ok (outNonPayable_ok h)
    exact .inl ⟨rfl, rfl, rfl⟩
  | setTokenAllowed token allowed =>
    obtain ⟨s', hs, rfl⟩ := finishNonPayable_ok h
    exact .inr ⟨token, allowed, hs⟩
  | _ =>
    -- the other functions of the owner write their own fields only
    obtain ⟨s', hs, rfl⟩ := finishNonPayable_ok h
    simp only [registerHost, updateHost, setHostActive, setLesserWallet, setAgentIdentityRegistry, pause,
      unpause, setWithdrawalsPaused, setMaxTipAmount, setMinTipAmount, transferOwnership, acceptOwnership,
      renounceOwnership, bind_ok, pure_ok] at hs
    first
      | obtain ⟨-, -, rfl⟩ := hs
      | obtain ⟨-, -, -, -, rfl⟩ := hs
      | obtain ⟨-, -, -, -, -, -, rfl⟩ := hs
      | obtain ⟨-, -, -, -, -, -, -, -, rfl⟩ := hs
      | obtain ⟨-, -, -, -, -, -, -, -, -, -, _, -, rfl⟩ := hs
    exact .inl ⟨rfl, rfl, rfl⟩

theorem resume_allowlist {p : Pending} (h : ResumeStep s p s') : SameAllowlist s s' := by
  cases h with
  | pulled _ credited _ released =>
    obtain ⟨_, rfl⟩ := credited
    obtain ⟨_, rfl⟩ := released
    exact ⟨rfl, rfl, rfl⟩
  | paid released =>
    obtain ⟨_, rfl⟩ := released
    exact ⟨rfl, rfl, rfl⟩

theorem env_allowlist (s : State) (m : Move) : SameAllowlist s (env s m) := by
  cases m <;> exact ⟨rfl, rfl, rfl⟩

/-- The allowlist is in order at every call-out and at the end of every call. -/
def allowlistProtocol (self : Address) : Protocol (contract self) (fun _ => True) :=
  Protocol.ofInv (contract self) _ AllowlistOk
    (fun _ _ _ _ h hc => by
      rcases call_allowlist hc with same | ⟨token, allowed, hs⟩
      · exact h.same same
      · exact (h.setTokenAllowed hs).1)
    (fun _ _ _ h hr => by
      obtain ⟨s', rfl, hs⟩ := resume_step hr
      exact h.same (resume_allowlist hs))
    (fun s m _ h => h.same (env_allowlist s m))

theorem deploy_allowlist {chain : Chain} {lesserWallet owner registry : Address}
    (h : deploy chain lesserWallet owner registry = .ok s) : AllowlistOk s := by
  simp only [deploy, bind_ok, require_ok, pure_ok] at h
  obtain ⟨-, -, -, -, -, -, rfl⟩ := h
  exact ⟨IndexedList.empty, ⟨rfl, rfl⟩, fun token => by simp [IndexedList.empty]⟩

/-- The owner can take any token off the list, and nothing else leaves it. -/
theorem setTokenAllowed_removes (h : AllowlistOk s) (key : token ≠ 0) :
    ∃ s', call self s (⟨s.owner, 0⟩, .setTokenAllowed token false) = .ok (.done s') ∧
      ∀ t, t ∈ s'.allowedTokenList ↔ t ≠ token ∧ t ∈ s.allowedTokenList := by
  obtain ⟨l, hlist, -⟩ := listAllowed_refines h token false
  obtain ⟨s', hs⟩ : ∃ s', setTokenAllowed s ⟨s.owner, 0⟩ token false = .ok s' := by
    simp only [TipSplitter.setTokenAllowed, onlyOwner, hlist, bind_ok, require_ok, pure_ok]
    exact ⟨_, (), trivial, (), key, (), (absurd · Bool.false_ne_true), _, rfl, rfl⟩
  obtain ⟨⟨l', hl', hallowed'⟩, removed⟩ := h.setTokenAllowed hs
  obtain ⟨l₀, hl₀, hallowed₀⟩ := h
  refine ⟨s', ?_, fun t => ?_⟩
  · simp only [call, finishNonPayable, nonPayable, finish, bind_ok, require_ok, pure_ok]
    exact ⟨(), trivial, s', hs, rfl⟩
  · rw [← hl'.keys, ← hl₀.keys, hallowed', hallowed₀, removed]
    by_cases ht : t = token
    · simp [ht]
    · simp [ht]

end Allowlist

/-- **The allowlist index.** After any run from deployment the list has no duplicates and holds exactly the
    allowed tokens; the index of a listed token is its position plus one, that of any other token is zero; and
    taking a token off the list always succeeds and takes off nothing else. -/
theorem allowlist_index (self : Address) (chain : Chain) (lesserWallet owner registry : Address)
    (s₀ : State) (h : deploy chain lesserWallet owner registry = .ok s₀)
    (acts : List (Action (Msg × Call) Move)) :
    let s := (run (contract self) ⟨s₀, []⟩ acts).state
    s.allowedTokenList.Nodup ∧
    (∀ t, t ∈ s.allowedTokenList ↔ s.allowedTokens t = true) ∧
    (∀ t i, s.allowedTokenList[i]? = some t → s._tokenIndex t = i + 1) ∧
    (∀ t, t ∉ s.allowedTokenList → s._tokenIndex t = 0) ∧
    ∀ token, token ≠ 0 →
      ∃ s', call self s (⟨s.owner, 0⟩, .setTokenAllowed token false) = .ok (.done s') ∧
        ∀ t, t ∈ s'.allowedTokenList ↔ t ≠ token ∧ t ∈ s.allowedTokenList := by
  intro s
  have ok : AllowlistOk s :=
    (allowlistProtocol self).run_inv s₀ acts (fun _ _ => trivial) (deploy_allowlist h)
  obtain ⟨l, hl, hallowed⟩ := id ok
  refine ⟨hl.keys ▸ l.nodup, fun t => by rw [← hl.keys, hallowed], fun t i found => ?_, fun t absent => ?_,
    fun token key => setTokenAllowed_removes ok key⟩
  · rw [← hl.index, l.exact, hl.keys, found]
  · by_contra present
    rw [← hl.index] at present
    exact absent (hl.keys ▸ IndexedList.index_ne_zero.1 present)

/-- Three tokens are listed, the first is removed and listed again. -/
theorem allowlist_index_again :
    let chain : Chain := { Chain.empty with codeLength := fun _ => 1 }
    ∃ s₀, deploy chain 1 2 0 = .ok s₀ ∧
      ((run (contract 9) ⟨s₀, []⟩
        [.call (⟨2, 0⟩, .setTokenAllowed 5 true), .call (⟨2, 0⟩, .setTokenAllowed 6 true),
          .call (⟨2, 0⟩, .setTokenAllowed 7 true), .call (⟨2, 0⟩, .setTokenAllowed 5 false),
          .call (⟨2, 0⟩, .setTokenAllowed 5 true)]).state).allowedTokenList.Nodup := by
  intro chain
  refine ⟨_, rfl, ?_⟩
  exact (allowlist_index 9 chain 1 2 0 _ rfl _).1

end LesserHost.TipSplitter
