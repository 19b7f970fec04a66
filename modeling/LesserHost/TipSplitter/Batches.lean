import LesserHost.TipSplitter.Steps

set_option autoImplicit false

/-! # Batches of tips

A batch sums its amounts first, takes the total in one piece, and credits the tips in a loop; single tips take the
guard and the money again and again. Crediting reads neither the guard nor what the contract holds, so both come
to the same loop over the same state: a batch succeeds exactly when its tips do one after the other, and ends where
they end. -/

namespace LesserHost.TipSplitter

open LesserHost.Solidity CallStack

/-! ## Crediting does not look at holdings -/

/-- The state with other holdings, and with the guard taken or free. -/
def State.holding (entered : Bool) (balance : Nat) (tokenBalance : Address → Nat) (s : State) : State :=
  { s with entered, balance, tokenBalance }

section Frame

variable {s : State} {e : Bool} {b : Nat} {tb : Address → Nat} {hostId : Bytes32}

theorem _tipETH_holding (sender : Address) (v w : Nat) (tip : Tip) :
    _tipETH (s.holding e b tb) ⟨sender, v⟩ hostId tip =
      State.holding e b tb <$> _tipETH s ⟨sender, w⟩ hostId tip := by
  simp only [_tipETH, map_bind, map_pure]
  rfl

theorem _creditPendingToken_holding (token recipient : Address) (amount : Nat) :
    _creditPendingToken (s.holding e b tb) token recipient amount =
      State.holding e b tb <$> _creditPendingToken s token recipient amount := by
  unfold _creditPendingToken
  split_ifs
  · rfl
  · simp only [map_bind, map_pure]
    rfl

theorem _creditToken_holding (token tipper : Address) (tip : Tip) :
    _creditToken (s.holding e b tb) hostId token tip tipper =
      State.holding e b tb <$> _creditToken s hostId token tip tipper := by
  simp only [_creditToken, _creditPendingToken_holding, bind_map_left, map_bind, map_pure]
  rfl

/-- A loop commutes with what its body commutes with. -/
theorem foldlM_comm {α : Type} {F : State → State} {f f' : State → α → Exec State}
    (h : ∀ s a, f (F s) a = F <$> f' s a) (as : List α) (s : State) :
    as.foldlM f (F s) = F <$> as.foldlM f' s := by
  induction as generalizing s with
  | nil => rfl
  | cons a as ih => simp only [List.foldlM_cons, h, bind_map_left, map_bind, ih]

end Frame

theorem ok_bind {α β : Type} (a : α) (f : α → Exec β) : (Except.ok a : Exec α) >>= f = f a := rfl

theorem map_ok {f : State → State} {x : Exec State} {s' : State} :
    f <$> x = .ok s' ↔ ∃ s, x = .ok s ∧ s' = f s := by
  cases x with
  | error e => simp [Functor.map, Except.map]
  | ok s => simp [Functor.map, Except.map, eq_comm]

/-! ## Sums -/

theorem sumAmounts_ok_iff {amounts : List Nat} {total : Nat} :
    sumAmounts amounts = .ok total ↔ amounts.sum < 2 ^ 256 ∧ total = amounts.sum := by
  have key : ∀ (l : List Nat) (a : Nat), a < 2 ^ 256 →
      (l.foldlM checkedAdd a = .ok total ↔ a + l.sum < 2 ^ 256 ∧ total = a + l.sum) := by
    intro l
    induction l with
    | nil =>
      intro a ha
      rw [List.foldlM_nil, pure_ok, List.sum_nil, Nat.add_zero]
      exact ⟨fun h => ⟨ha, h.symm⟩, fun h => h.2.symm⟩
    | cons n l ih =>
      intro a ha
      rw [List.foldlM_cons, bind_ok, List.sum_cons, ← Nat.add_assoc]
      constructor
      · rintro ⟨b, hb, rest⟩
        obtain ⟨fits, rfl⟩ := checkedAdd_ok.1 hb
        exact (ih _ fits).1 rest
      · intro h
        have fits : a + n < 2 ^ 256 := by omega
        exact ⟨a + n, checkedAdd_ok.2 ⟨fits, rfl⟩, (ih _ fits).2 h⟩
  have start := key amounts 0 (by omega)
  rwa [Nat.zero_add] at start

/-! ## ETH -/

section ETH

variable {self sender : Address} {hostId : Bytes32} {s s' : State}

/-- One tip after the other, each a call of its own. -/
def tipEach (self : Address) (sender : Address) (hostId : Bytes32) (tips : List Tip) (s : State) : Exec State :=
  tips.foldlM
    (fun s tip => do
      let o ← call self s (⟨sender, tip.amount⟩, .tipETH hostId tip.actor tip.contentHash)
      return o.state) s

/-- Crediting one tip after the other. -/
def creditEach (sender : Address) (hostId : Bytes32) (tips : List Tip) (s : State) : Exec State :=
  tips.foldlM (fun s tip => _tipETH s ⟨sender, 0⟩ hostId tip) s

/-- The guard is free and the contract not paused. -/
def Open (s : State) : Prop := s.entered = false ∧ s.paused = false

/-- The parts of a payable function between taking and giving back the guard. -/
theorem nonReentrant_open {body : State → Exec State} (hopen : Open s) :
    nonReentrant s (fun s => do whenNotPaused s; body s) =
      (fun t : State => { t with entered := false }) <$> body { s with entered := true } := by
  simp only [nonReentrant, guardFree, whenNotPaused, require, hopen.1, hopen.2, if_true]
  rfl

theorem nonReentrant_closed {body : State → Exec State} (h : ¬ Open s) :
    nonReentrant s (fun s => do whenNotPaused s; body s) ≠ .ok s' := by
  intro ok
  simp only [nonReentrant, guardFree, whenNotPaused, bind_ok, require_ok] at ok
  obtain ⟨-, free, -, ⟨-, running, -⟩, -⟩ := ok
  exact h ⟨free, running⟩

theorem tipETH_open (tip : Tip) (hopen : Open s) :
    (do let o ← call self s (⟨sender, tip.amount⟩, .tipETH hostId tip.actor tip.contentHash)
        return o.state : Exec State) =
      State.holding false (s.balance + tip.amount) s.tokenBalance <$> _tipETH s ⟨sender, 0⟩ hostId tip := by
  have guarded : tipETH (receiveValue s ⟨sender, tip.amount⟩) ⟨sender, tip.amount⟩ hostId tip.actor
      tip.contentHash = (fun t : State => { t with entered := false }) <$>
        _tipETH (s.holding true (s.balance + tip.amount) s.tokenBalance) ⟨sender, tip.amount⟩ hostId tip :=
    nonReentrant_open hopen
  simp only [call, finish, guarded, _tipETH_holding sender tip.amount 0 tip, bind_map_left]
  cases _tipETH s ⟨sender, 0⟩ hostId tip with
  | error e => rfl
  | ok u => rfl

theorem tipETH_closed (tip : Tip) (h : ¬ Open s) :
    (do let o ← call self s (⟨sender, tip.amount⟩, .tipETH hostId tip.actor tip.contentHash)
        return o.state : Exec State) ≠ .ok s' := by
  intro ok
  simp only [call, finish, bind_ok, pure_ok] at ok
  obtain ⟨o, ⟨t, ht, rfl⟩, rfl⟩ := ok
  exact nonReentrant_closed (s := receiveValue s ⟨sender, tip.amount⟩) h ht

/-- Crediting leaves guard, switch and holdings alone. -/
theorem _tipETH_keeps {tip : Tip} {msg : Msg} (h : _tipETH s msg hostId tip = .ok s') :
    s'.entered = s.entered ∧ s'.paused = s.paused ∧ s'.balance = s.balance ∧ s'.tokenBalance = s.tokenBalance := by
  obtain ⟨sh, -, _, rfl⟩ := _tipETH_ok h
  exact ⟨rfl, rfl, rfl, rfl⟩

/-- Single tips are the loop of credits, with the money that came along. -/
theorem tipEach_open (tips : List Tip) (hopen : Open s) :
    tipEach self sender hostId tips s =
      State.holding false (s.balance + (tips.map Tip.amount).sum) s.tokenBalance <$>
        creditEach sender hostId tips s := by
  induction tips generalizing s with
  | nil =>
    have same : State.holding false (s.balance + 0) s.tokenBalance s = s := by
      rw [State.holding, ← hopen.1]
      rfl
    simp only [tipEach, creditEach, List.foldlM_nil, map_pure, List.map_nil, List.sum_nil, same]
  | cons tip tips ih =>
    rw [tipEach, List.foldlM_cons, tipETH_open tip hopen, creditEach, List.foldlM_cons]
    cases first : _tipETH s ⟨sender, 0⟩ hostId tip with
    | error e => rfl
    | ok u =>
      obtain ⟨-, running, balance, tokens⟩ := _tipETH_keeps first
      have still : Open (u.holding false (s.balance + tip.amount) s.tokenBalance) := ⟨rfl, running.trans hopen.2⟩
      have rest := ih still
      have frame : creditEach sender hostId tips (u.holding false (s.balance + tip.amount) s.tokenBalance) =
          State.holding false (s.balance + tip.amount) s.tokenBalance <$> creditEach sender hostId tips u :=
        foldlM_comm (fun s tip => _tipETH_holding sender 0 0 tip) tips u
      show tipEach self sender hostId tips _ = _
      rw [rest, frame, Functor.map_map, List.map_cons, List.sum_cons, ← Nat.add_assoc]
      rfl

theorem _tipETH_total {tip : Tip} {msg : Msg} (h : _tipETH s msg hostId tip = .ok s') :
    s.totalPendingETH + tip.amount < 2 ^ 256 ∧ s'.totalPendingETH = s.totalPendingETH + tip.amount := by
  simp only [_tipETH, bind_ok, checkedAdd_ok, pure_ok] at h
  obtain ⟨-, -, -, -, -, -, -, -, -, -, sh, -, _, -, _, -, _, -, total, ⟨fits, rfl⟩, rfl⟩ := h
  exact ⟨fits, rfl⟩

/-- Credits that went through did not overflow. -/
theorem creditEach_fits {tips : List Tip} (h : creditEach sender hostId tips s = .ok s') (nonempty : tips ≠ []) :
    s.totalPendingETH + (tips.map Tip.amount).sum < 2 ^ 256 := by
  induction tips generalizing s with
  | nil => exact absurd rfl nonempty
  | cons tip tips ih =>
    rw [creditEach, List.foldlM_cons, bind_ok] at h
    obtain ⟨u, first, rest⟩ := h
    obtain ⟨fits, total⟩ := _tipETH_total first
    rw [List.map_cons, List.sum_cons]
    by_cases last : tips = []
    · simpa [last] using fits
    · have := ih rest last
      omega

variable (self sender hostId) in
/-- A batch is the same loop, with all of the money. -/
theorem batchTipETH_open {actors : List Address} {amounts : List Nat} {contentHashes : List Bytes32}
    (hopen : Open s) (some_tip : 0 < actors.length) (few : actors.length ≤ 20)
    (hamounts : amounts.length = actors.length) (hhashes : contentHashes.length = actors.length)
    (fits : amounts.sum < 2 ^ 256) :
    (do let o ← call self s (⟨sender, amounts.sum⟩, .batchTipETH hostId actors amounts contentHashes)
        return o.state : Exec State) =
      State.holding false (s.balance + amounts.sum) s.tokenBalance <$>
        creditEach sender hostId (tipsOf actors amounts contentHashes) s := by
  have guarded : batchTipETH (receiveValue s ⟨sender, amounts.sum⟩) ⟨sender, amounts.sum⟩ hostId actors amounts
      contentHashes = (fun t : State => { t with entered := false }) <$>
        (do checkBatch actors amounts contentHashes
            let total ← sumAmounts amounts
            require (amounts.sum = total) (.reason "TipSplitter: incorrect total")
            (tipsOf actors amounts contentHashes).foldlM
              (fun s t => _tipETH s ⟨sender, amounts.sum⟩ hostId t)
              (s.holding true (s.balance + amounts.sum) s.tokenBalance)) :=
    nonReentrant_open hopen
  have checked : checkBatch actors amounts contentHashes = .ok () := by
    simp only [checkBatch, bind_ok, require_ok]
    exact ⟨(), ⟨some_tip, few⟩, hamounts, hhashes⟩
  have frame : (tipsOf actors amounts contentHashes).foldlM (fun s t => _tipETH s ⟨sender, amounts.sum⟩ hostId t)
      (s.holding true (s.balance + amounts.sum) s.tokenBalance) =
        State.holding true (s.balance + amounts.sum) s.tokenBalance <$>
          creditEach sender hostId (tipsOf actors amounts contentHashes) s :=
    foldlM_comm (fun s tip => _tipETH_holding sender amounts.sum 0 tip) _ s
  simp only [call, finish, guarded, checked, sumAmounts_ok_iff.2 ⟨fits, rfl⟩, frame, bind_map_left, ok_bind]
  cases creditEach sender hostId (tipsOf actors amounts contentHashes) s with
  | error e => rfl
  | ok u => rfl

theorem tipsOf_ne_nil {actors : List Address} {amounts : List Nat} {contentHashes : List Bytes32}
    (some_tip : 0 < actors.length) (hamounts : amounts.length = actors.length)
    (hhashes : contentHashes.length = actors.length) : tipsOf actors amounts contentHashes ≠ [] := by
  intro none
  have sums := tipsOf_amounts hamounts hhashes
  rw [none] at sums
  rw [← sums] at hamounts
  simp only [List.map_nil, List.length_nil] at hamounts
  omega

/-- **ETH batches.** -/
theorem batchTipETH_tipEach {actors : List Address} {amounts : List Nat} {contentHashes : List Bytes32}
    (some_tip : 0 < actors.length) (few : actors.length ≤ 20)
    (hamounts : amounts.length = actors.length) (hhashes : contentHashes.length = actors.length) :
    call self s (⟨sender, amounts.sum⟩, .batchTipETH hostId actors amounts contentHashes) = .ok (.done s') ↔
      tipEach self sender hostId (tipsOf actors amounts contentHashes) s = .ok s' := by
  have sums : (tipsOf actors amounts contentHashes).map Tip.amount = amounts := tipsOf_amounts hamounts hhashes
  have nonempty : tipsOf actors amounts contentHashes ≠ [] := tipsOf_ne_nil some_tip hamounts hhashes
  by_cases hopen : Open s
  · rw [tipEach_open _ hopen, map_ok, sums]
    constructor
    · intro h
      have fits : amounts.sum < 2 ^ 256 := by
        obtain ⟨t, ht, -⟩ := finish_ok h
        obtain ⟨-, t, ht, -⟩ := nonReentrant_ok ht
        simp only [bind_ok] at ht
        obtain ⟨-, -, -, -, total, summed, -⟩ := ht
        exact (sumAmounts_ok_iff.1 summed).1
      have same := batchTipETH_open self sender hostId hopen some_tip few hamounts hhashes
        fits
      rw [h] at same
      exact map_ok.1 same.symm
    · intro credited
      have fits : amounts.sum < 2 ^ 256 := by
        obtain ⟨u, hu, -⟩ := credited
        have := creditEach_fits hu nonempty
        rw [sums] at this
        omega
      have same := batchTipETH_open self sender hostId hopen some_tip few hamounts hhashes
        fits
      rw [map_ok.2 credited, bind_ok] at same
      obtain ⟨o, ho, hstate⟩ := same
      obtain ⟨t, -, rfl⟩ := finish_ok ho
      obtain rfl := pure_ok.1 hstate
      exact ho
  · constructor
    · intro h
      obtain ⟨t, ht, -⟩ := finish_ok h
      exact absurd ht (nonReentrant_closed (s := receiveValue s ⟨sender, amounts.sum⟩) hopen)
    · intro h
      obtain ⟨tip, tips, eq⟩ := List.exists_cons_of_ne_nil nonempty
      rw [eq, tipEach, List.foldlM_cons, bind_ok] at h
      obtain ⟨u, first, -⟩ := h
      exact absurd first (tipETH_closed tip hopen)

end ETH

/-! ## Tokens -/

/-- A token that moves exactly what it is asked for, as far as the balance and the allowance of the tipper cover
    it. `T` is what it keeps. -/
structure Token (T : Type) where
  /-- from the tipper to the contract -/
  transferFrom : T → Nat → Exec T
  covers : T → Nat → Prop
  transfers : ∀ t total amount, covers t total → amount ≤ total →
    ∃ t', transferFrom t amount = .ok t' ∧ covers t' (total - amount)

section Tokens

variable {T : Type} {tok : Token T} {self sender token : Address} {hostId : Bytes32} {s s' : State}
  {t t' : T} {tips : List Tip}

/-- A call together with the answer of the token to its call-out. -/
def settle (tok : Token T) (self : Address) (w : State × T) (c : Msg × Call) : Exec (State × T) := do
  match ← call self w.1 c with
  | .done s => return (s, w.2)
  | .callOut s (.pullTokens token hostId tips total balBefore tipper after) => do
      let t ← tok.transferFrom w.2 total
      match ← resume (env s (.tokenIn token total))
        (.pullTokens token hostId tips total balBefore tipper after) with
      | .done s => return (s, t)
      | .callOut _ _ => .error .failedCall
  | .callOut _ _ => .error .failedCall

def tipEachToken (tok : Token T) (self sender token : Address) (hostId : Bytes32) (tips : List Tip)
    (w : State × T) : Exec (State × T) :=
  tips.foldlM
    (fun w tip => settle tok self w (⟨sender, 0⟩, .tipToken token hostId tip.actor tip.amount tip.contentHash)) w

def creditEachToken (sender token : Address) (hostId : Bytes32) (tips : List Tip) (s : State) : Exec State :=
  tips.foldlM (fun s tip => _creditToken s hostId token tip sender) s

/-- The token is accepted, and the contract open. -/
structure Takes (s : State) (token : Address) : Prop where
  isOpen : Open s
  key : token ≠ 0
  allowed : s.allowedTokens token = true
  code : 0 < s.codeLength token

/-- The state after `total` of the token has come in and `u` is credited. -/
def State.received (s : State) (token : Address) (total : Nat) (u : State) : State :=
  u.holding false s.balance (Function.update s.tokenBalance token (s.tokenBalance token + total))

variable (sender hostId tips) in
/-- The tips are credited when the token has moved the total. -/
theorem resume_pull (code : 0 < s.codeLength token) (total : Nat) :
    resume (env { s with entered := true } (.tokenIn token total))
        (.pullTokens token hostId tips total (s.tokenBalance token) sender []) =
      (fun u => .done (s.received token total u)) <$> creditEachToken sender token hostId tips s := by
  have frame : tips.foldlM (fun s tip => _creditToken s hostId token tip sender)
      (s.holding true s.balance (Function.update s.tokenBalance token (s.tokenBalance token + total))) =
        State.holding true s.balance (Function.update s.tokenBalance token (s.tokenBalance token + total)) <$>
          creditEachToken sender token hostId tips s :=
    foldlM_comm (fun s tip => _creditToken_holding token sender tip) tips s
  have start : env { s with entered := true } (.tokenIn token total) =
      s.holding true s.balance (Function.update s.tokenBalance token (s.tokenBalance token + total)) := rfl
  have balance : balanceOf (s.holding true s.balance
      (Function.update s.tokenBalance token (s.tokenBalance token + total))) token =
        .ok (s.tokenBalance token + total) := by
    simp only [balanceOf, bind_ok, pure_ok, State.holding, Function.update_self]
    exact ⟨(), if_pos code, trivial⟩
  have received : checkedSub (s.tokenBalance token + total) (s.tokenBalance token) = .ok total :=
    checkedSub_ok.2 ⟨by omega, by omega⟩
  simp only [start, resume, balance, received, frame, ok_bind, bind_map_left]
  cases creditEachToken sender token hostId tips s with
  | error e => rfl
  | ok u => rfl

theorem _creditToken_pos {tip : Tip} (h : _creditToken s hostId token tip sender = .ok s') : 0 < tip.amount := by
  obtain ⟨sh, hsh, -⟩ := _creditToken_ok h
  obtain ⟨-, share, -⟩ := _split_ok.1 hsh
  by_contra zero
  simp [show tip.amount = 0 by omega] at share

theorem _creditToken_keeps {tip : Tip} (h : _creditToken s hostId token tip sender = .ok s') :
    s'.paused = s.paused ∧ s'.allowedTokens = s.allowedTokens ∧ s'.codeLength = s.codeLength := by
  obtain ⟨sh, -, _, rfl⟩ := _creditToken_ok h
  exact ⟨rfl, rfl, rfl⟩

/-- The call-out of a tip or of a batch. -/
def pullOut (s : State) (token : Address) (hostId : Bytes32) (tips : List Tip) (total : Nat) (sender : Address) :
    Outcome State Pending :=
  .callOut { s with entered := true } (.pullTokens token hostId tips total (s.tokenBalance token) sender [])

theorem settle_pull {c : Msg × Call} {total : Nat} (code : 0 < s.codeLength token)
    (h : call self s c = .ok (pullOut s token hostId tips total sender)) :
    settle tok self (s, t) c = .ok (s', t') ↔
      tok.transferFrom t total = .ok t' ∧
        ∃ u, creditEachToken sender token hostId tips s = .ok u ∧ s' = s.received token total u := by
  have credited := resume_pull sender hostId tips code total
  rw [settle, h, ok_bind]
  simp only [pullOut, credited]
  cases tok.transferFrom t total with
  | error e => simp
  | ok t₁ =>
    simp only [ok_bind]
    cases creditEachToken sender token hostId tips s with
    | error e => simp
    | ok u =>
      show (pure (s.received token total u, t₁) : Exec (State × T)) = .ok (s', t') ↔ _
      rw [pure_ok, Prod.mk.injEq]
      constructor
      · rintro ⟨rfl, rfl⟩
        exact ⟨rfl, u, rfl, rfl⟩
      · rintro ⟨moved, u', same, rfl⟩
        cases moved
        cases same
        exact ⟨rfl, rfl⟩

theorem tipToken_call (tip : Tip) {o : Outcome State Pending} :
    call self s (⟨sender, 0⟩, .tipToken token hostId tip.actor tip.amount tip.contentHash) = .ok o ↔
      Takes s token ∧ 0 < tip.amount ∧ o = pullOut s token hostId [tip] tip.amount sender := by
  simp only [call, outNonPayable, nonPayable, tipToken, _tipToken, startPull, balanceOf, guardFree, whenNotPaused,
    bind_ok, require_ok, pure_ok]
  constructor
  · rintro ⟨-, -, -, free, -, running, -, key, -, allowed, -, positive, bal, ⟨-, code, rfl⟩, rfl⟩
    exact ⟨⟨⟨free, running⟩, key, allowed, code⟩, positive, rfl⟩
  · rintro ⟨⟨⟨free, running⟩, key, allowed, code⟩, positive, rfl⟩
    exact ⟨(), trivial, (), free, (), running, (), key, (), allowed, (), positive, _, ⟨(), code, rfl⟩, rfl⟩

theorem batchTipToken_call {actors : List Address} {amounts : List Nat} {contentHashes : List Bytes32}
    (some_tip : 0 < actors.length) (few : actors.length ≤ 20)
    (hamounts : amounts.length = actors.length) (hhashes : contentHashes.length = actors.length)
    {o : Outcome State Pending} :
    call self s (⟨sender, 0⟩, .batchTipToken token hostId actors amounts contentHashes) = .ok o ↔
      Takes s token ∧ amounts.sum < 2 ^ 256 ∧ 0 < amounts.sum ∧
        o = pullOut s token hostId (tipsOf actors amounts contentHashes) amounts.sum sender := by
  simp only [call, outNonPayable, nonPayable, batchTipToken, checkBatch, startPull, balanceOf, guardFree,
    whenNotPaused, bind_ok, require_ok, pure_ok, sumAmounts_ok_iff]
  constructor
  · rintro ⟨-, -, -, free, -, running, -, ⟨-, -, -, -⟩, -, key, -, allowed, total, ⟨fits, rfl⟩, -, positive, bal,
      ⟨-, code, rfl⟩, rfl⟩
    exact ⟨⟨⟨free, running⟩, key, allowed, code⟩, fits, positive, rfl⟩
  · rintro ⟨⟨⟨free, running⟩, key, allowed, code⟩, fits, positive, rfl⟩
    exact ⟨(), trivial, (), free, (), running, (), ⟨(), ⟨some_tip, few⟩, hamounts, hhashes⟩, (), key, (), allowed, _,
      ⟨fits, rfl⟩, (), positive, _, ⟨(), code, rfl⟩, rfl⟩

/-- A single tip: the checks, the transfer, and the credit. -/
theorem settle_tipToken (tip : Tip) :
    settle tok self (s, t) (⟨sender, 0⟩, .tipToken token hostId tip.actor tip.amount tip.contentHash) =
        .ok (s', t') ↔
      Takes s token ∧ tok.transferFrom t tip.amount = .ok t' ∧
        ∃ u, _creditToken s hostId token tip sender = .ok u ∧ s' = s.received token tip.amount u := by
  by_cases accepted : Takes s token ∧ 0 < tip.amount
  · rw [settle_pull accepted.1.code ((tipToken_call tip).2 ⟨accepted.1, accepted.2, rfl⟩)]
    have one : creditEachToken sender token hostId [tip] s = _creditToken s hostId token tip sender := by
      rw [creditEachToken, List.foldlM_cons]
      simp
    rw [one]
    exact ⟨fun h => ⟨accepted.1, h⟩, fun h => h.2⟩
  · constructor
    · intro h
      rw [settle, bind_ok] at h
      obtain ⟨o, ho, -⟩ := h
      obtain ⟨takes, positive, -⟩ := (tipToken_call tip).1 ho
      exact absurd ⟨takes, positive⟩ accepted
    · rintro ⟨takes, -, u, credited, -⟩
      exact absurd ⟨takes, _creditToken_pos credited⟩ accepted

theorem _creditPendingToken_fits {recipient : Address} {amount : Nat}
    (h : _creditPendingToken s token recipient amount = .ok s')
    (start : s.totalPendingToken token < 2 ^ 256 ∨ amount ≠ 0) : s'.totalPendingToken token < 2 ^ 256 := by
  unfold _creditPendingToken at h
  split_ifs at h with none
  · obtain rfl := pure_ok.1 h
    exact start.resolve_right (not_not.2 none)
  · simp only [bind_ok, addAt_ok, pure_ok] at h
    obtain ⟨_, -, _, ⟨fits, rfl⟩, rfl⟩ := h
    simpa using fits

theorem _creditToken_total {tip : Tip} (h : _creditToken s hostId token tip sender = .ok s') :
    s'.totalPendingToken token = s.totalPendingToken token + tip.amount ∧
      s.totalPendingToken token + tip.amount < 2 ^ 256 := by
  have total : s'.totalPendingToken token = s.totalPendingToken token + tip.amount := by
    obtain ⟨sh, hsh, _, rfl⟩ := _creditToken_ok h
    simp only [Escrow.creditOne, Function.update_self, shareList_sum hsh]
  refine ⟨total, ?_⟩
  rw [← total]
  simp only [_creditToken, bind_ok, pure_ok] at h
  obtain ⟨-, -, -, -, -, -, -, -, -, -, sh, hsh, s₁, h₁, s₂, h₂, s₃, h₃, rfl⟩ := h
  obtain ⟨-, share, -, -, -, rfl⟩ := _split_ok.1 hsh
  -- the share of the lesser wallet is never zero
  have first := _creditPendingToken_fits h₁ (.inr (by simp only; omega))
  have last := _creditPendingToken_fits h₃ (.inl (_creditPendingToken_fits h₂ (.inl first)))
  exact last

/-- Credits that went through did not overflow. -/
theorem creditEachToken_fits (h : creditEachToken sender token hostId tips s = .ok s') (nonempty : tips ≠ []) :
    s.totalPendingToken token + (tips.map Tip.amount).sum < 2 ^ 256 ∧ 0 < (tips.map Tip.amount).sum := by
  induction tips generalizing s with
  | nil => exact absurd rfl nonempty
  | cons tip tips ih =>
    rw [creditEachToken, List.foldlM_cons, bind_ok] at h
    obtain ⟨u, first, rest⟩ := h
    obtain ⟨total, fits⟩ := _creditToken_total first
    have positive := _creditToken_pos first
    rw [List.map_cons, List.sum_cons]
    by_cases last : tips = []
    · simp only [last, List.map_nil, List.sum_nil]
      omega
    · have := ih rest last
      omega

theorem Takes.next {tip : Tip} {u : State} (h : Takes s token)
    (credited : _creditToken s hostId token tip sender = .ok u) : Takes (s.received token tip.amount u) token := by
  obtain ⟨running, allowed, code⟩ := _creditToken_keeps credited
  exact ⟨⟨rfl, running.trans h.isOpen.2⟩, h.key, allowed ▸ h.allowed, code ▸ h.code⟩

variable (s) in
theorem creditEachToken_received (amount : Nat) (u : State) :
    creditEachToken sender token hostId tips (s.received token amount u) =
      State.holding false s.balance (Function.update s.tokenBalance token (s.tokenBalance token + amount)) <$>
        creditEachToken sender token hostId tips u :=
  foldlM_comm (fun _ tip => _creditToken_holding token sender tip) tips u

/-- What comes in twice comes in once. -/
theorem received_received (a b : Nat) (u v : State) :
    (s.received token a u).received token b
      (v.holding false s.balance (Function.update s.tokenBalance token (s.tokenBalance token + a))) =
        s.received token (a + b) v := by
  simp [State.received, State.holding, Nat.add_assoc]

/-- Single tips are the loop of credits, with the tokens that came in. -/
theorem tipEachToken_iff (takes : Takes s token) (covered : tok.covers t (tips.map Tip.amount).sum) :
    (∃ t', tipEachToken tok self sender token hostId tips (s, t) = .ok (s', t')) ↔
      ∃ u, creditEachToken sender token hostId tips s = .ok u ∧
        s' = s.received token (tips.map Tip.amount).sum u := by
  induction tips generalizing s t with
  | nil =>
    have same : s.received token 0 s = s := by
      rw [State.received, State.holding, Nat.add_zero, Function.update_eq_self, ← takes.isOpen.1]
    simp only [tipEachToken, creditEachToken, List.foldlM_nil, pure_ok, Prod.mk.injEq, List.map_nil, List.sum_nil]
    constructor
    · rintro ⟨_, rfl, -⟩
      exact ⟨s, rfl, same.symm⟩
    · rintro ⟨_, rfl, rfl⟩
      exact ⟨t, same.symm, rfl⟩
  | cons tip tips ih =>
    rw [List.map_cons, List.sum_cons] at covered ⊢
    obtain ⟨t₁, moved, covered₁⟩ := tok.transfers t _ tip.amount covered (Nat.le_add_right _ _)
    rw [Nat.add_sub_cancel_left] at covered₁
    constructor
    · rintro ⟨t', h⟩
      rw [tipEachToken, List.foldlM_cons, bind_ok] at h
      obtain ⟨⟨s₁, t₂⟩, first, rest⟩ := h
      obtain ⟨-, moved', u₁, credited, rfl⟩ := (settle_tipToken tip).1 first
      obtain rfl := Except.ok.inj (moved.symm.trans moved')
      obtain ⟨u, hu, rfl⟩ := (ih (takes.next credited) covered₁).1 ⟨t', rest⟩
      rw [creditEachToken_received, map_ok] at hu
      obtain ⟨v, hv, rfl⟩ := hu
      refine ⟨v, ?_, received_received _ _ _ _⟩
      rw [creditEachToken, List.foldlM_cons, bind_ok]
      exact ⟨u₁, credited, hv⟩
    · rintro ⟨v, h, rfl⟩
      rw [creditEachToken, List.foldlM_cons, bind_ok] at h
      obtain ⟨u₁, credited, hv⟩ := h
      have first : settle tok self (s, t)
          (⟨sender, 0⟩, .tipToken token hostId tip.actor tip.amount tip.contentHash) =
            .ok (s.received token tip.amount u₁, t₁) :=
        (settle_tipToken tip).2 ⟨takes, moved, u₁, credited, rfl⟩
      obtain ⟨t', rest⟩ := (ih (takes.next credited) covered₁).2
        ⟨_, by rw [creditEachToken_received, map_ok]; exact ⟨v, hv, rfl⟩, (received_received _ _ _ _).symm⟩
      refine ⟨t', ?_⟩
      rw [tipEachToken, List.foldlM_cons, bind_ok]
      exact ⟨_, first, rest⟩

/-- **Token batches.** -/
theorem batchTipToken_tipEach {actors : List Address} {amounts : List Nat} {contentHashes : List Bytes32}
    (some_tip : 0 < actors.length) (few : actors.length ≤ 20)
    (hamounts : amounts.length = actors.length) (hhashes : contentHashes.length = actors.length)
    (covered : tok.covers t amounts.sum) :
    (∃ t', settle tok self (s, t) (⟨sender, 0⟩, .batchTipToken token hostId actors amounts contentHashes) =
        .ok (s', t')) ↔
      ∃ t', tipEachToken tok self sender token hostId (tipsOf actors amounts contentHashes) (s, t) = .ok (s', t') := by
  have sums : (tipsOf actors amounts contentHashes).map Tip.amount = amounts := tipsOf_amounts hamounts hhashes
  have nonempty := tipsOf_ne_nil some_tip hamounts hhashes
  have calls : ∀ o, call self s (⟨sender, 0⟩, .batchTipToken token hostId actors amounts contentHashes) = .ok o ↔
      Takes s token ∧ amounts.sum < 2 ^ 256 ∧ 0 < amounts.sum ∧
        o = pullOut s token hostId (tipsOf actors amounts contentHashes) amounts.sum sender :=
    fun o => batchTipToken_call some_tip few hamounts hhashes
  by_cases takes : Takes s token
  · rw [tipEachToken_iff takes (by rwa [sums]), sums]
    constructor
    · rintro ⟨t', h⟩
      obtain ⟨o, ho, -⟩ := bind_ok.1 h
      obtain ⟨-, -, -, rfl⟩ := (calls o).1 ho
      exact ((settle_pull takes.code ho).1 h).2
    · rintro ⟨u, credited, rfl⟩
      have bounds := creditEachToken_fits credited nonempty
      rw [sums] at bounds
      obtain ⟨t', moved, -⟩ := tok.transfers t _ amounts.sum covered le_rfl
      have ho := (calls _).2 ⟨takes, by omega, bounds.2, rfl⟩
      exact ⟨t', (settle_pull takes.code ho).2 ⟨moved, u, credited, rfl⟩⟩
  · constructor
    · rintro ⟨t', h⟩
      obtain ⟨o, ho, -⟩ := bind_ok.1 h
      exact absurd ((calls o).1 ho).1 takes
    · rintro ⟨t', h⟩
      obtain ⟨tip, tips, eq⟩ := List.exists_cons_of_ne_nil nonempty
      rw [eq, tipEachToken, List.foldlM_cons, bind_ok] at h
      obtain ⟨⟨s₁, t₁⟩, first, -⟩ := h
      exact absurd ((settle_tipToken tip).1 first).1 takes

/-- A call from anywhere in a run and, when it asks the token, the answer. -/
def attempt (self token : Address) (total : Nat) (m : Machine State Pending) (c : Msg × Call) :
    Machine State Pending :=
  match call self m.state c with
  | .ok (.callOut _ _) => run (contract self) m [.call c, .env (.tokenIn token total), .ret true]
  | _ => step (contract self) m (.call c)

/-- A batch that is rejected after the transfer takes the transfer back. -/
theorem batchTipToken_rejected {actors : List Address} {amounts : List Nat} {contentHashes : List Bytes32}
    (some_tip : 0 < actors.length) (few : actors.length ≤ 20)
    (hamounts : amounts.length = actors.length) (hhashes : contentHashes.length = actors.length)
    (covered : tok.covers t amounts.sum) {stack : List (Frame State Pending)}
    (h : ∀ s' t', settle tok self (s, t)
      (⟨sender, 0⟩, .batchTipToken token hostId actors amounts contentHashes) ≠ .ok (s', t')) :
    attempt self token amounts.sum ⟨s, stack⟩
      (⟨sender, 0⟩, .batchTipToken token hostId actors amounts contentHashes) = ⟨s, stack⟩ := by
  cases hcall : call self s (⟨sender, 0⟩, .batchTipToken token hostId actors amounts contentHashes) with
  | error e => simp only [attempt, hcall, step, contract]
  | ok o =>
    obtain ⟨takes, -, -, rfl⟩ := (batchTipToken_call some_tip few hamounts hhashes).1 hcall
    obtain ⟨t', moved, -⟩ := tok.transfers t _ amounts.sum covered le_rfl
    have credited := resume_pull sender hostId (tipsOf actors amounts contentHashes) takes.code amounts.sum
    cases hcredit : creditEachToken sender token hostId (tipsOf actors amounts contentHashes) s with
    | error e =>
      rw [hcredit] at credited
      simp only [attempt, hcall, pullOut]
      exact run_refused hcall rfl credited
    | ok u => exact absurd ((settle_pull takes.code hcall).2 ⟨moved, u, hcredit, rfl⟩) (h _ _)

end Tokens

/-- **Batches of tips.** For one to twenty tips a batch of ETH tips succeeds exactly when the tips do one after the
    other, each with its own amount, and ends in the same state; a rejected batch changes nothing. The same holds
    for a batch in any token that moves exact amounts, when balance and allowance of the sender cover the total. -/
theorem batches_agree (self sender : Address) (hostId : Bytes32) (actors : List Address) (amounts : List Nat)
    (contentHashes : List Bytes32) (some_tip : 0 < actors.length) (few : actors.length ≤ 20)
    (hamounts : amounts.length = actors.length) (hhashes : contentHashes.length = actors.length)
    (s : State) (stack : List (Frame State Pending)) :
    let tips := tipsOf actors amounts contentHashes
    let batchETH : Msg × Call := (⟨sender, amounts.sum⟩, .batchTipETH hostId actors amounts contentHashes)
    (∀ s', call self s batchETH = .ok (.done s') ↔ tipEach self sender hostId tips s = .ok s') ∧
    ((∀ s', tipEach self sender hostId tips s ≠ .ok s') →
      step (contract self) ⟨s, stack⟩ (.call batchETH) = ⟨s, stack⟩) ∧
    ∀ (T : Type) (tok : Token T) (t : T) (token : Address), tok.covers t amounts.sum →
      let batchToken : Msg × Call := (⟨sender, 0⟩, .batchTipToken token hostId actors amounts contentHashes)
      (∀ s', (∃ t', settle tok self (s, t) batchToken = .ok (s', t')) ↔
        ∃ t', tipEachToken tok self sender token hostId tips (s, t) = .ok (s', t')) ∧
      ((∀ s' t', tipEachToken tok self sender token hostId tips (s, t) ≠ .ok (s', t')) →
        attempt self token amounts.sum ⟨s, stack⟩ batchToken = ⟨s, stack⟩) := by
  intro tips batchETH
  have eth : ∀ s', call self s batchETH = .ok (.done s') ↔ tipEach self sender hostId tips s = .ok s' :=
    fun s' => batchTipETH_tipEach some_tip few hamounts hhashes
  refine ⟨eth, fun rejected => ?_, fun T tok t token covered => ?_⟩
  · cases hcall : call self s batchETH with
    | error e => simp only [step, contract, hcall]
    | ok o =>
      obtain ⟨s', -, rfl⟩ := finish_ok hcall
      exact absurd ((eth s').1 hcall) (rejected s')
  · intro batchToken
    have agree : ∀ s', (∃ t', settle tok self (s, t) batchToken = .ok (s', t')) ↔
        ∃ t', tipEachToken tok self sender token hostId tips (s, t) = .ok (s', t') :=
      fun s' => batchTipToken_tipEach some_tip few hamounts hhashes covered
    refine ⟨agree, fun rejected => ?_⟩
    refine batchTipToken_rejected some_tip few hamounts hhashes covered fun s' t' settled => ?_
    obtain ⟨t'', each⟩ := (agree s').1 ⟨t', settled⟩
    exact rejected s' t'' each

/-- A token that keeps the balance and the allowance of the tipper. -/
def plainToken : Token (Nat × Nat) where
  transferFrom w amount := do
    require (amount ≤ w.1 ∧ amount ≤ w.2) .failedCall
    return (w.1 - amount, w.2 - amount)
  covers w total := total ≤ w.1 ∧ total ≤ w.2
  transfers w total amount h le := by
    refine ⟨(w.1 - amount, w.2 - amount), ?_, by simp only; omega⟩
    simp only [bind_ok, require_ok, pure_ok]
    exact ⟨(), by omega, trivial⟩

/-- Two tips in ETH and two in a token, of a sender who can pay for them. -/
theorem batches_agree_two : ∃ s₀,
    deploy { Chain.empty with codeLength := fun _ => 1 } 1 2 0 = .ok s₀ ∧
    let s := (run (contract 9) ⟨s₀, []⟩
      [.call (⟨2, 0⟩, .registerHost 7 3 500), .call (⟨2, 0⟩, .setTokenAllowed 6 true)]).state
    (∀ s', call 9 s (⟨5, 30000⟩, .batchTipETH 7 [4, 8] [10000, 20000] [0, 0]) = .ok (.done s') ↔
      tipEach 9 5 7 [⟨4, 10000, 0⟩, ⟨8, 20000, 0⟩] s = .ok s') ∧
    ∀ s', (∃ t', settle plainToken 9 (s, (40000, 30000))
        (⟨5, 0⟩, .batchTipToken 6 7 [4, 8] [10000, 20000] [0, 0]) = .ok (s', t')) ↔
      ∃ t', tipEachToken plainToken 9 5 6 7 [⟨4, 10000, 0⟩, ⟨8, 20000, 0⟩] (s, (40000, 30000)) = .ok (s', t') := by
  refine ⟨_, rfl, ?_⟩
  intro s
  have h := batches_agree 9 5 7 [4, 8] [10000, 20000] [0, 0] (by decide) (by decide) rfl rfl s []
  exact ⟨h.1, (h.2.2 (Nat × Nat) plainToken (40000, 30000) 6 ⟨by decide, by decide⟩).1⟩

end LesserHost.TipSplitter
