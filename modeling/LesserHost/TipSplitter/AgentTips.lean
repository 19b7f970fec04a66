import LesserHost.TipSplitter.Steps

set_option autoImplicit false

/-! # Agent tips and their events

`AgentTipSent` is emitted by two of the contract's paths: `tipAgentETH` emits it at once,
`tipAgentToken` only when the token has been pulled. `run_agentTips` says that a transaction emits
one for each of its successful agent tips, in their order, and none for anything else. -/

namespace LesserHost.TipSplitter

open LesserHost.Solidity CallStack

/-- A `uint256` as a word. -/
def word (n : Nat) : Bytes32 := Fin.ofNat (2 ^ 256) n

def Event.tippedAgent : Event → Option Bytes32
  | .agentTipSent _ agentId _ _ _ _ _ => some (word agentId)
  | _ => none

/-- The agents of the agent-tip events, in order. -/
def agentTips (events : List Event) : List Bytes32 := events.filterMap Event.tippedAgent

/-- The agent that a call tips by its identifier. -/
def Call.tippedAgent : Call → Option Bytes32
  | .tipAgentETH _ agentId _ => some (word agentId)
  | .tipAgentToken _ _ agentId _ _ => some (word agentId)
  | _ => none

/-- What is written down of a call: the agent it tips. -/
def agentNote (c : Msg × Call) : List Bytes32 := c.2.tippedAgent.toList

/-- What an open call emits once its call-out is answered. -/
def Pending.after : Pending → List Event
  | .pullTokens _ _ _ _ _ _ after => after
  | _ => []

@[simp] theorem agentTips_append (es fs : List Event) :
    agentTips (es ++ fs) = agentTips es ++ agentTips fs := List.filterMap_append

@[simp] theorem agentTips_singleton (e : Event) : agentTips [e] = e.tippedAgent.toList := by
  cases h : e.tippedAgent <;> simp [agentTips, h]

/-! ## What is emitted -/

/-- Events were added, and they are about the tips of `ids`. -/
def Tipped (s s' : State) (ids : List Bytes32) : Prop :=
  ∃ es, s'.logs = s.logs ++ es ∧ agentTips es = ids

theorem Tipped.same {s s' : State} (h : s'.logs = s.logs) : Tipped s s' [] :=
  ⟨[], by rw [h, List.append_nil], rfl⟩

theorem Tipped.trans {s t u : State} {ids ids' : List Bytes32} (h : Tipped s t ids)
    (h' : Tipped t u ids') : Tipped s u (ids ++ ids') := by
  obtain ⟨es, hes, rfl⟩ := h
  obtain ⟨fs, hfs, rfl⟩ := h'
  exact ⟨es ++ fs, by rw [hfs, hes, List.append_assoc], agentTips_append es fs⟩

/-- One event after writes that emit nothing. -/
theorem Tipped.one {s t s' : State} {e : Event} (hs : emit t e = s') (ht : t.logs = s.logs) :
    Tipped s s' e.tippedAgent.toList := by
  refine ⟨[e], ?_, agentTips_singleton e⟩
  rw [← hs, ← ht]
  rfl

/-- Only the event log matters. -/
theorem Tipped.congr {s t s' t' : State} {ids : List Bytes32} (h : Tipped s t ids)
    (hs : s.logs = s'.logs) (ht : t'.logs = t.logs) : Tipped s' t' ids := by
  obtain ⟨es, hes, hids⟩ := h
  exact ⟨es, by rw [ht, hes, hs], hids⟩

section Functions

variable {self : Address} {s s' : State} {msg : Msg}

theorem _tipETH_tipped {hostId : Bytes32} {tip : Tip} (h : _tipETH s msg hostId tip = .ok s') :
    Tipped s s' [] := by
  unfold _tipETH at h
  simp only [bind_ok, require_ok, addAt_ok, checkedAdd_ok, pure_ok] at h
  obtain ⟨-, -, -, -, -, -, -, -, -, -, sh, hsh, _, ⟨-, rfl⟩, _, ⟨-, rfl⟩, _, ⟨-, rfl⟩, _,
    ⟨-, rfl⟩, hs⟩ := h
  exact .one hs rfl

theorem _creditPendingToken_logs {token a : Address} {n : Nat}
    (h : _creditPendingToken s token a n = .ok s') : s'.logs = s.logs := by
  unfold _creditPendingToken at h
  split at h
  · rw [pure_ok.1 h]
  · simp only [bind_ok, addAt_ok, pure_ok] at h
    obtain ⟨_, -, _, -, rfl⟩ := h
    rfl

theorem _creditToken_tipped {hostId : Bytes32} {token tipper : Address} {tip : Tip}
    (h : _creditToken s hostId token tip tipper = .ok s') : Tipped s s' [] := by
  unfold _creditToken at h
  simp only [bind_ok, require_ok, pure_ok] at h
  obtain ⟨-, -, -, -, -, -, -, -, -, -, sh, -, s₁, h₁, s₂, h₂, s₃, h₃, hs⟩ := h
  exact .one hs (by
    rw [_creditPendingToken_logs h₃, _creditPendingToken_logs h₂, _creditPendingToken_logs h₁])

/-- A batch emits no agent tip when none of its tips does. -/
theorem foldlM_tipped {credit : State → Tip → Exec State}
    (hcredit : ∀ s t s', credit s t = .ok s' → Tipped s s' []) (tips : List Tip)
    (h : tips.foldlM credit s = .ok s') : Tipped s s' [] := by
  induction tips generalizing s with
  | nil =>
      obtain rfl := pure_ok.1 h
      exact .same rfl
  | cons t tips ih =>
      rw [List.foldlM_cons, bind_ok] at h
      obtain ⟨s₁, h₁, h₂⟩ := h
      exact (hcredit _ _ _ h₁).trans (ih h₂)

theorem nonReentrant_tipped {body : State → Exec State} {ids : List Bytes32}
    (h : nonReentrant s body = .ok s')
    (hbody : ∀ t, body { s with entered := true } = .ok t →
      Tipped { s with entered := true } t ids) : Tipped s s' ids := by
  obtain ⟨-, t, ht, rfl⟩ := nonReentrant_ok h
  exact (hbody t ht).congr rfl rfl

theorem listAllowed_logs {token : Address} {allowed : Bool}
    (h : listAllowed s token allowed = .ok s') : s'.logs = s.logs := by
  unfold listAllowed at h
  split_ifs at h
  · obtain rfl := pure_ok.1 h
    rfl
  · simp only [removeAllowed, bind_ok, require_ok, pure_ok] at h
    obtain ⟨idx, -, last, -, t, ht, -, -, rfl⟩ := h
    unfold moveLastTo at ht
    split at ht
    · split at ht
      · cases ht
      · simp only [bind_ok, require_ok, pure_ok] at ht
        obtain ⟨-, -, rfl⟩ := ht
        rfl
    · rw [pure_ok.1 ht]
  · rw [pure_ok.1 h]

/-! ## The events of every call -/

/-- What a successful call emits: the agent tips of `ids`, now or when its call-out is answered. -/
inductive TipStep (s : State) (ids : List Bytes32) : Outcome State Pending → Prop
  | done {s' : State} (tipped : Tipped s s' ids) : TipStep s ids (.done s')
  | callOut {s' : State} {p : Pending} (logs : s'.logs = s.logs)
      (after : agentTips p.after = ids) : TipStep s ids (.callOut s' p)

theorem TipStep.of_pull {t : State} {token : Address} {hostId : Bytes32} {tips : List Tip}
    {total : Nat} {tipper : Address} {after : List Event} {o : Outcome State Pending}
    (h : startPull t token hostId tips total tipper after = .ok o) (ht : t.logs = s.logs) :
    TipStep s (agentTips after) o := by
  obtain rfl := startPull_ok h
  exact .callOut ht rfl

/-- **The events of every call.** -/
theorem call_tips {c : Call} {o : Outcome State Pending} (h : call self s (msg, c) = .ok o) :
    TipStep s (agentNote (msg, c)) o := by
  cases c with
  | receive => cases h
  | tipETH hostId actor contentHash =>
      obtain ⟨s', hs, rfl⟩ := finish_ok h
      refine .done (nonReentrant_tipped (s := receiveValue s msg) hs fun t ht => ?_)
      simp only [bind_ok] at ht
      obtain ⟨-, -, ht⟩ := ht
      exact _tipETH_tipped ht
  | batchTipETH hostId actors amounts contentHashes =>
      obtain ⟨s', hs, rfl⟩ := finish_ok h
      refine .done (nonReentrant_tipped (s := receiveValue s msg) hs fun t ht => ?_)
      simp only [bind_ok, require_ok] at ht
      obtain ⟨-, -, -, -, -, -, -, -, ht⟩ := ht
      exact foldlM_tipped (fun _ _ _ h => _tipETH_tipped h) _ ht
  | tipAgentETH hostId agentId contentHash =>
      obtain ⟨s', hs, rfl⟩ := finish_ok h
      refine .done (nonReentrant_tipped (s := receiveValue s msg) hs fun t ht => ?_)
      simp only [bind_ok, pure_ok] at ht
      obtain ⟨-, -, actor, -, t, ht, rfl⟩ := ht
      exact (_tipETH_tipped ht).trans (.one rfl rfl)
  | tipToken token hostId actor amount contentHash =>
      have h' := outNonPayable_ok h
      simp only [tipToken, guardFree, _tipToken, bind_ok, require_ok] at h'
      obtain ⟨-, -, -, -, -, -, -, -, -, -, h'⟩ := h'
      exact .of_pull h' rfl
  | batchTipToken token hostId actors amounts contentHashes =>
      have h' := outNonPayable_ok h
      simp only [batchTipToken, guardFree, bind_ok, require_ok] at h'
      obtain ⟨-, -, -, -, _, -, -, -, -, -, total, -, -, -, h'⟩ := h'
      exact .of_pull h' rfl
  | tipAgentToken token hostId agentId amount contentHash =>
      have h' := outNonPayable_ok h
      simp only [tipAgentToken, guardFree, _tipToken, bind_ok, require_ok] at h'
      obtain ⟨-, -, -, -, actor, -, -, -, -, -, -, -, h'⟩ := h'
      exact .of_pull h' rfl
  | withdraw token =>
      obtain ⟨-, ⟨-, -, -, rfl⟩ | ⟨-, -, rfl⟩⟩ := withdraw_ok (outNonPayable_ok h)
      · exact .callOut rfl rfl
      · exact .callOut rfl rfl
  | registerHost hostId wallet feeBps =>
      obtain ⟨s', hs, rfl⟩ := finishNonPayable_ok h
      simp only [registerHost, bind_ok, pure_ok] at hs
      obtain ⟨-, -, -, -, -, -, -, -, -, -, _, -, hs⟩ := hs
      exact .done (.one hs rfl)
  | updateHost hostId wallet feeBps =>
      obtain ⟨s', hs, rfl⟩ := finishNonPayable_ok h
      simp only [updateHost, bind_ok, pure_ok] at hs
      obtain ⟨-, -, -, -, -, -, -, -, -, -, _, -, hs⟩ := hs
      exact .done (.one hs rfl)
  | setHostActive hostId active =>
      obtain ⟨s', hs, rfl⟩ := finishNonPayable_ok h
      simp only [setHostActive, bind_ok, pure_ok] at hs
      obtain ⟨-, -, -, -, hs⟩ := hs
      exact .done (.one hs rfl)
  | setTokenAllowed token allowed =>
      obtain ⟨s', hs, rfl⟩ := finishNonPayable_ok h
      simp only [setTokenAllowed, bind_ok, pure_ok] at hs
      obtain ⟨-, -, -, -, -, -, t, ht, hs⟩ := hs
      exact .done (.one hs (show t.logs = s.logs from listAllowed_logs ht))
  | setLesserWallet newWallet =>
      obtain ⟨s', hs, rfl⟩ := finishNonPayable_ok h
      simp only [setLesserWallet, bind_ok, pure_ok] at hs
      obtain ⟨-, -, -, -, -, -, -, -, hs⟩ := hs
      exact .done (.one hs rfl)
  | setAgentIdentityRegistry registry =>
      obtain ⟨s', hs, rfl⟩ := finishNonPayable_ok h
      simp only [setAgentIdentityRegistry, bind_ok, pure_ok] at hs
      obtain ⟨-, -, -, -, hs⟩ := hs
      exact .done (.one hs rfl)
  | pause =>
      obtain ⟨s', hs, rfl⟩ := finishNonPayable_ok h
      simp only [pause, bind_ok, pure_ok] at hs
      obtain ⟨-, -, -, -, rfl⟩ := hs
      exact .done (.same rfl)
  | unpause =>
      obtain ⟨s', hs, rfl⟩ := finishNonPayable_ok h
      simp only [unpause, bind_ok, pure_ok] at hs
      obtain ⟨-, -, -, -, rfl⟩ := hs
      exact .done (.same rfl)
  | setWithdrawalsPaused paused =>
      obtain ⟨s', hs, rfl⟩ := finishNonPayable_ok h
      simp only [setWithdrawalsPaused, bind_ok, pure_ok] at hs
      obtain ⟨-, -, hs⟩ := hs
      exact .done (.one hs rfl)
  | setMaxTipAmount token amount =>
      obtain ⟨s', hs, rfl⟩ := finishNonPayable_ok h
      simp only [setMaxTipAmount, bind_ok, pure_ok] at hs
      obtain ⟨-, -, -, -, hs⟩ := hs
      exact .done (.one hs rfl)
  | setMinTipAmount token amount =>
      obtain ⟨s', hs, rfl⟩ := finishNonPayable_ok h
      simp only [setMinTipAmount, bind_ok, pure_ok] at hs
      obtain ⟨-, -, -, -, -, -, hs⟩ := hs
      exact .done (.one hs rfl)
  | transferOwnership newOwner =>
      obtain ⟨s', hs, rfl⟩ := finishNonPayable_ok h
      simp only [transferOwnership, bind_ok, pure_ok] at hs
      obtain ⟨-, -, rfl⟩ := hs
      exact .done (.same rfl)
  | acceptOwnership =>
      obtain ⟨s', hs, rfl⟩ := finishNonPayable_ok h
      simp only [acceptOwnership, bind_ok, pure_ok] at hs
      obtain ⟨-, -, rfl⟩ := hs
      exact .done (.same rfl)
  | renounceOwnership =>
      obtain ⟨s', hs, rfl⟩ := finishNonPayable_ok h
      simp only [renounceOwnership, bind_ok, pure_ok] at hs
      obtain ⟨-, -, rfl⟩ := hs
      exact .done (.same rfl)
  | sweepStrayETH =>
      obtain ⟨-, -, rfl⟩ := sweepStrayETH_ok (outNonPayable_ok h)
      exact .callOut rfl rfl
  | sweepStrayToken token =>
      obtain ⟨-, -, rfl⟩ := sweepStrayToken_ok (outNonPayable_ok h)
      exact .callOut rfl rfl

/-- **The events of every return.** -/
theorem resume_tips {p : Pending} {o : Outcome State Pending} (h : resume s p = .ok o) :
    ∃ s', o = .done s' ∧ s'.entered = false ∧ Tipped s s' (agentTips p.after) := by
  cases p with
  | pullTokens token hostId tips total balBefore tipper after =>
      simp only [resume, bind_ok, pure_ok] at h
      obtain ⟨_, -, _, -, -, -, t, ht, rfl⟩ := h
      have hcredited := foldlM_tipped (fun _ _ _ h => _creditToken_tipped h) tips ht
      refine ⟨_, rfl, rfl, hcredited.trans ⟨after, ?_, rfl⟩⟩
      rw [foldl_emit]
  | withdrawETH recipient amount =>
      obtain rfl := pure_ok.1 h
      exact ⟨_, rfl, rfl, _, rfl, rfl⟩
  | withdrawToken token recipient amount =>
      obtain rfl := pure_ok.1 h
      exact ⟨_, rfl, rfl, _, rfl, rfl⟩
  | sweepETH amount =>
      obtain rfl := pure_ok.1 h
      exact ⟨_, rfl, rfl, _, rfl, rfl⟩
  | sweepToken token amount =>
      obtain rfl := pure_ok.1 h
      exact ⟨_, rfl, rfl, _, rfl, rfl⟩

end Functions

/-! ## Transactions -/

/-- Since `base` the events tell exactly the tips written down, unless a call-out is open. -/
def TipsMirrored (base : State) (s : State × List Bytes32) : Prop :=
  s.1.entered = false → Tipped base s.1 s.2

/-- The guard is as before, and while it is taken no tip happens. -/
def TipsQuiet (s s' : State × List Bytes32) : Prop :=
  s'.1.entered = s.1.entered ∧ (s.1.entered = true → Tipped s.1 s'.1 [] ∧ s'.2 = s.2)

/-- The state while a call-out is open: what will be emitted has been written down. -/
def TipsOpen (base : State) (p : Pending) (s s' : State × List Bytes32) : Prop :=
  s.1.entered = false ∧ s'.1.entered = true ∧
    ∃ ids, Tipped base s'.1 ids ∧ ids ++ agentTips p.after = s'.2

theorem TipsQuiet.trans {s t u : State × List Bytes32} (h : TipsQuiet s t) (h' : TipsQuiet t u) :
    TipsQuiet s u := by
  refine ⟨h'.1.trans h.1, fun hs => ?_⟩
  obtain ⟨ht, hnotes⟩ := h.2 hs
  obtain ⟨hu, hnotes'⟩ := h'.2 (by rw [h.1, hs])
  exact ⟨ht.trans hu, by rw [hnotes', hnotes]⟩

theorem TipsOpen.stable {base : State} {p : Pending} {s w w' : State × List Bytes32}
    (h : TipsOpen base p s w) (hq : TipsQuiet w w') : TipsOpen base p s w' := by
  obtain ⟨hs, hw, ids, hids, hnotes⟩ := h
  obtain ⟨hquiet, hsame⟩ := hq.2 hw
  refine ⟨hs, by rw [hq.1, hw], ids, ?_, by rw [hsame, hnotes]⟩
  have htrans := hids.trans hquiet
  rwa [List.append_nil] at htrans

/-- A call that tips an agent needs the guard, and so does every call with a call-out. -/
theorem call_free {self : Address} {s : State} {msg : Msg} {c : Call} {o : Outcome State Pending}
    (h : call self s (msg, c) = .ok o) :
    match o with
    | .done s' => s'.entered = s.entered ∧ (agentNote (msg, c) ≠ [] → s.entered = false)
    | .callOut s' _ => s.entered = false ∧ s'.entered = true := by
  have hbooks := (call_step h).books
  cases hbooks with
  | same books =>
      refine ⟨books.entered, fun hnote => ?_⟩
      cases c with
      | tipAgentETH hostId agentId contentHash =>
          obtain ⟨s', hs, -⟩ := finish_ok h
          exact (nonReentrant_ok hs).1
      | tipAgentToken token hostId agentId amount contentHash =>
          have h' := outNonPayable_ok h
          simp only [tipAgentToken, guardFree, bind_ok, require_ok] at h'
          exact h'.choose_spec.1
      | _ => exact absurd rfl hnote
  | tips free credited sum =>
      obtain ⟨logs, rfl⟩ := credited
      exact ⟨rfl, fun _ => free⟩
  | pull free sum => exact ⟨free, rfl⟩
  | withdrawETH free covered other => exact ⟨free, rfl⟩
  | withdrawToken key free covered => exact ⟨free, rfl⟩
  | sweepETH free stray => exact ⟨free, rfl⟩
  | sweepToken free stray => exact ⟨free, rfl⟩

/-- The agent-tip events of a transaction are its successful agent tips. -/
def agentTipsProtocol (self : Address) (base : State) :
    Protocol ((contract self).noting agentNote) (fun _ => True) where
  inv := TipsMirrored base
  guar := TipsQuiet
  frame := TipsOpen base
  guar_refl _ := ⟨rfl, fun _ => ⟨.same rfl, rfl⟩⟩
  guar_trans _ _ _ h h' := h.trans h'
  frame_stable _ _ _ _ h hq := h.stable hq
  call_done := by
    rintro s ⟨msg, c⟩ s' - hs h
    obtain ⟨o, hcall, ho⟩ := noting_call_map h
    have hfree := call_free hcall
    have htips := call_tips hcall
    cases o with
    | callOut t p => cases ho
    | done t =>
        cases ho
        cases htips with
        | done tipped =>
            refine ⟨fun ht => (hs (hfree.1.symm.trans ht)).trans tipped, hfree.1, fun hentered => ?_⟩
            have hnote : agentNote (msg, c) = [] := by
              by_contra hnote
              rw [hfree.2 hnote] at hentered
              cases hentered
            rw [hnote] at tipped ⊢
            exact ⟨tipped, List.append_nil _⟩
  call_out := by
    rintro s ⟨msg, c⟩ s' p - hs h
    obtain ⟨o, hcall, ho⟩ := noting_call_map h
    have hfree := call_free hcall
    have htips := call_tips hcall
    cases o with
    | done t => cases ho
    | callOut t p' =>
        cases ho
        cases htips with
        | callOut logs after =>
            refine ⟨fun ht => ?_, hfree.1, hfree.2, s.2, (hs hfree.1).congr rfl logs, by rw [after]⟩
            rw [hfree.2] at ht
            cases ht
  resume_done := by
    intro s w p s' hs hw hopen h
    obtain ⟨o, hresume, ho⟩ := noting_resume_map h
    obtain ⟨t, rfl, hfree, htips⟩ := resume_tips hresume
    cases ho
    obtain ⟨hsfree, -, ids, hids, hnotes⟩ := hopen
    refine ⟨fun _ => hnotes ▸ hids.trans htips, hfree.trans hsfree.symm, fun hentered => ?_⟩
    rw [hsfree] at hentered
    cases hentered
  resume_out := by
    intro s w p s' p' hs hw hopen h
    obtain ⟨o, hresume, ho⟩ := noting_resume_map h
    obtain ⟨t, rfl, -⟩ := resume_tips hresume
    cases ho
  env_ok := by
    intro s m _ hs
    cases m <;> exact ⟨hs, rfl, fun _ => ⟨.same rfl, rfl⟩⟩

/-- **Agent tips.** A transaction in which every call is answered gives the guard back, and its
    agent-tip events are its successful agent tips in their order. -/
theorem run_agentTips (self : Address) (s : State) (hfree : s.entered = false)
    (acts : List (Action (Msg × Call) Move))
    (hanswered : (run ((contract self).noting agentNote) ⟨(s, []), []⟩ acts).stack = []) :
    let m := run ((contract self).noting agentNote) ⟨(s, []), []⟩ acts
    m.state.1.entered = false ∧ Tipped s m.state.1 m.state.2 := by
  intro m
  obtain ⟨hinv, hguar⟩ := (agentTipsProtocol self s).run_answered (s, []) acts
    (fun _ _ => trivial) (fun _ => .same rfl) hanswered
  have hend : m.state.1.entered = false := hguar.1.trans hfree
  exact ⟨hend, hinv hend⟩

end LesserHost.TipSplitter
