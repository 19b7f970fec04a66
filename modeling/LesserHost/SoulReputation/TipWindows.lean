import LesserHost.SoulReputation.TipCounts

set_option autoImplicit false

/-! # The windows of the tip counter

`Window.counts` is one pass of the loop: it adds the tips of its window. Passes whose starts do not
wrap around tile the range (`fetchFrom_counts`). After a wrap the next start lies before one that was
already used, and some window is counted that should not be (`fetchFrom_recounts`). -/

namespace LesserHost.SoulReputation

open LesserHost.Solidity CallStack TipSplitter

/-! ## Logs that count -/

theorem agentID_injective : Function.Injective agentID := by
  intro a b h
  have hlist : Go.hexEncode (EIP712.word a) = Go.hexEncode (EIP712.word b) := by
    have htext := congrArg String.toList h
    simp only [agentID, String.toList_ofList] at htext
    exact (List.cons.inj (List.cons.inj htext).2).2
  exact Fin.ext (EIP712.word_injective a.isLt b.isLt (Go.hexEncode_injective hlist))

theorem foldl_countLog (logs : List Log) (counts : Counts) (agent : Bytes32) :
    (logs.foldl countLog counts) (agentID agent)
      = counts (agentID agent) + logs.countP fun lg => lg.Topics[2]? == some agent := by
  induction logs generalizing counts with
  | nil => rfl
  | cons lg logs ih =>
      rw [List.foldl_cons, ih, List.countP_cons]
      cases htopic : lg.Topics[2]? with
      | none => simp [countLog, htopic]
      | some topic =>
          by_cases hsame : topic = agent
          · subst hsame
            simp [countLog, htopic]
            omega
          · have hkey : agentID agent ≠ agentID topic :=
              fun hkey => hsame (agentID_injective hkey).symm
            simp [countLog, htopic, hsame, hkey]

/-- The tip a log of the contract tells of. -/
def tipOf (keccak : EIP712.Hash) (addr : Address) (lg : Log) : Option (UInt64 × Bytes32) :=
  if lg.Address = addr ∧ lg.Topics.head? = some (agentTipSentTopic0 keccak) then
    lg.Topics[2]?.map (lg.BlockNumber, ·)
  else none

/-- The texts that are hashed have different hashes. -/
abbrev HashesSignatures (keccak : EIP712.Hash) : Prop := Set.InjOn keccak signatureTexts

section Logs

variable {keccak : EIP712.Hash} {addr : Address}

theorem bytes_ascii_injective {s t : String} (h : Go.bytes s = Go.bytes t) : s = t := by
  have harray : s.toUTF8.data = t.toUTF8.data := Array.toList_inj.1 h
  exact String.toByteArray_inj.1 (ByteArray.ext harray)

/-- Another event has another first topic. -/
theorem topic_ne (hkeccak : HashesSignatures keccak) {sig : String}
    (hsig : Go.bytes sig ∈ signatureTexts)
    (hne : sig ≠ "AgentTipSent(bytes32,uint256,address,address,address,uint256,bytes32)") :
    keccak (Go.bytes sig) ≠ agentTipSentTopic0 keccak := by
  intro heq
  refine hne (bytes_ascii_injective (hkeccak hsig (Or.inl ⟨.agentTipSent 0 0 0 0 0 0 0, rfl⟩) heq))

theorem tipOf_toLog (hkeccak : HashesSignatures keccak) (block : UInt64) (e : Event) :
    tipOf keccak addr (toLog keccak addr block e) = e.tippedAgent.map (block, ·) := by
  cases e with
  | agentTipSent hostId agentId token tipper wallet amount hash =>
      exact if_pos ⟨rfl, rfl⟩
  | _ =>
      refine if_neg fun h => topic_ne hkeccak (Or.inl ⟨_, rfl⟩) ?_ (Option.some.inj h.2)
      simp only [signature]
      decide

theorem filterMap_toLog (hkeccak : HashesSignatures keccak) (block : UInt64) (es : List Event) :
    (es.map (toLog keccak addr block)).filterMap (tipOf keccak addr)
      = (agentTips es).map (block, ·) := by
  rw [List.filterMap_map, agentTips, List.map_filterMap]
  exact List.filterMap_congr fun e _ => tipOf_toLog hkeccak block e

/-- The contract's logs tell of its successful agent tips. -/
theorem filterMap_contractLogs (hkeccak : HashesSignatures keccak) (txs : List Tx) (s : State)
    (hfree : s.entered = false) (hcomplete : Complete addr s txs) :
    (contractLogs keccak addr s txs).filterMap (tipOf keccak addr) = successfulTips addr s txs := by
  induction txs generalizing s with
  | nil => rfl
  | cons tx txs ih =>
      obtain ⟨hfree', es, hlogs, htips⟩ := run_agentTips addr s hfree tx.actions hcomplete.1
      have hnew : (tx.run addr s).state.1.logs.drop s.logs.length = es := by
        rw [show (tx.run addr s).state.1.logs = s.logs ++ es from hlogs, List.drop_left]
      rw [contractLogs, successfulTips, List.filterMap_append, hnew, filterMap_toLog hkeccak, htips,
        ih (tx.run addr s).state.1 hfree' hcomplete.2]
      rfl

theorem History.filterMap_logs (hkeccak : HashesSignatures keccak) (h : History keccak addr) :
    h.logs.filterMap (tipOf keccak addr) = h.tips := by
  have hfree : h.deployed.entered = false := by
    have hdeploy := h.deployment
    simp only [deploy, bind_ok, require_ok, pure_ok] at hdeploy
    obtain ⟨-, -, -, -, -, -, hstate⟩ := hdeploy
    rw [← hstate]
  have hothers : h.others.filterMap (tipOf keccak addr) = [] := by
    refine List.filterMap_eq_nil_iff.2 fun lg hlg => if_neg ?_
    rintro ⟨haddr, htopic⟩
    obtain ⟨sig, hsig, hhead⟩ := h.foreign lg hlg haddr
    rw [hhead] at htopic
    refine topic_ne hkeccak (Or.inr ⟨sig, hsig, rfl⟩) ?_ (Option.some.inj htopic)
    intro heq
    rw [heq] at hsig
    revert hsig
    decide
  rw [History.logs, List.filterMap_append, hothers, List.append_nil,
    filterMap_contractLogs hkeccak _ _ hfree h.complete]
  rfl

/-- What the query of a window asks of a log. -/
theorem matches_windowQuery (start toBlock chunk : UInt64) (agent : Bytes32) (lg : Log) :
    ((windowQuery keccak addr start toBlock chunk).Matches lg && lg.Topics[2]? == some agent)
      = ((tipOf keccak addr lg).map fun t => decide (start.toNat ≤ t.1.toNat) &&
          decide (t.1.toNat ≤ (windowEnd start toBlock chunk).toNat) && t.2 == agent).getD false := by
  obtain ⟨a, topics, block⟩ := lg
  cases topics with
  | nil => simp [tipOf]
  | cons topic topics =>
      by_cases ha : a = addr
      · by_cases ht : topic = agentTipSentTopic0 keccak
        · simp only [tipOf, FilterQuery.Matches, windowQuery, topicsMatch, ha, ht,
            List.getElem?_cons_succ, List.head?_cons, and_self, if_true]
          cases topics[1]? with
          | none => simp
          | some x =>
              rw [Bool.eq_iff_iff]
              simp
              intro _
              exact ⟨fun h => ⟨of_decide_eq_true h.1, of_decide_eq_true h.2⟩,
                fun h => ⟨decide_eq_true h.1, decide_eq_true h.2⟩⟩
        · simp [tipOf, FilterQuery.Matches, windowQuery, topicsMatch, ht]
      · simp [tipOf, FilterQuery.Matches, windowQuery, topicsMatch, ha]

end Logs

/-! ## One pass -/

/-- A range splits at any block. -/
theorem tipsIn_split (tips : List (UInt64 × Bytes32)) (agent : Bytes32) {a m b : Nat}
    (ha : a ≤ m + 1) (hb : m ≤ b) :
    tipsIn tips agent a b = tipsIn tips agent a m + tipsIn tips agent (m + 1) b := by
  induction tips with
  | nil => rfl
  | cons t tips ih =>
      simp only [tipsIn, List.countP_cons] at ih ⊢
      rw [ih]
      by_cases hagent : t.2 = agent
      · simp only [hagent, beq_self_eq_true, Bool.and_true, Bool.and_eq_true, decide_eq_true_eq]
        split_ifs <;> omega
      · simp [hagent]

theorem tipsIn_le (tips : List (UInt64 × Bytes32)) (agent : Bytes32) {a b c : Nat} (ha : a ≤ b)
    (hc : b ≤ c) : tipsIn tips agent b b ≤ tipsIn tips agent a c := by
  refine List.countP_mono_left fun t _ ht => ?_
  simp only [Bool.and_eq_true, decide_eq_true_eq] at ht ⊢
  exact ⟨⟨by omega, by omega⟩, ht.2⟩

theorem tipsIn_empty (tips : List (UInt64 × Bytes32)) (agent : Bytes32) {a b : Nat} (h : b < a) :
    tipsIn tips agent a b = 0 := by
  refine List.countP_eq_zero.2 fun t _ ht => ?_
  simp only [Bool.and_eq_true, decide_eq_true_eq] at ht
  omega

/-- The end of a window whose successor start does not pass zero. -/
theorem windowEnd_toNat {start toBlock chunk : UInt64} (hchunk : 0 < chunk.toNat)
    (hfits : start.toNat + chunk.toNat ≤ 2 ^ 64) :
    (windowEnd start toBlock chunk).toNat
      = min (start.toNat + chunk.toNat - 1) toBlock.toNat := by
  have hto : toBlock.toNat < 2 ^ 64 := toBlock.toNat_lt
  have hlast : (start + chunk - 1).toNat = start.toNat + chunk.toNat - 1 := by
    rw [UInt64.toNat_sub, UInt64.toNat_add, UInt64.toNat_one]
    omega
  rw [windowEnd]
  simp only [UInt64.lt_iff_toNat_lt, hlast]
  split
  · omega
  · omega

section Passes

variable {keccak : EIP712.Hash} {addr : Address} {client : TipLogClient} {h : History keccak addr}
  {toBlock chunk : UInt64}

/-- A pass adds the tips of its window. -/
theorem foldl_window (hkeccak : HashesSignatures keccak) (hclient : client.Documented h.logs)
    {start : UInt64} {found : List Log}
    (hfound : client.FilterLogs (windowQuery keccak addr start toBlock chunk) = .ok found)
    (horder : start.toNat ≤ (windowEnd start toBlock chunk).toNat) (counts : Counts)
    (agent : Bytes32) :
    (found.foldl countLog counts) (agentID agent) = counts (agentID agent) +
      tipsIn h.tips agent start.toNat (windowEnd start toBlock chunk).toNat := by
  have hperm := hclient _ found horder hfound
  rw [foldl_countLog, hperm.countP_eq, List.countP_filter, tipsIn,
    ← h.filterMap_logs hkeccak, List.countP_filterMap]
  congr 1
  refine List.countP_congr fun lg _ => ?_
  rw [Bool.and_comm, matches_windowQuery]

theorem foldl_countLog_le (found : List Log) (counts : Counts) (agent : Bytes32) :
    counts (agentID agent) ≤ (found.foldl countLog counts) (agentID agent) := by
  rw [foldl_countLog]
  omega

/-- What the loop returns is at least what it has already counted. -/
theorem fetchFrom_mono {passes : Nat} {start : UInt64} {counts result : Counts}
    (hresult : fetchFrom keccak client addr toBlock chunk passes start counts = some (.ok result))
    (agent : Bytes32) : counts (agentID agent) ≤ result (agentID agent) := by
  induction passes generalizing start counts with
  | zero => cases hresult
  | succ passes ih =>
      rw [fetchFrom] at hresult
      split at hresult
      · split at hresult
        · cases hresult
        · exact (foldl_countLog_le _ _ _).trans (ih hresult)
      · cases hresult
        exact le_rfl

/-- The number of passes that is allowed makes no difference to what is returned. -/
theorem fetchFrom_unique {passes passes' : Nat} {start : UInt64} {counts : Counts}
    {r r' : Except String Counts}
    (hr : fetchFrom keccak client addr toBlock chunk passes start counts = some r)
    (hr' : fetchFrom keccak client addr toBlock chunk passes' start counts = some r') : r = r' := by
  induction passes generalizing passes' start counts with
  | zero => cases hr
  | succ passes ih =>
      cases passes' with
      | zero => cases hr'
      | succ passes' =>
          rw [fetchFrom] at hr hr'
          by_cases hle : start ≤ toBlock
          · rw [if_pos hle] at hr hr'
            split at hr
            · next e he =>
                rw [he] at hr'
                exact Option.some.inj (hr.symm.trans hr')
            · next found hfound =>
                rw [hfound] at hr'
                exact ih hr hr'
          · rw [if_neg hle] at hr hr'
            exact Option.some.inj (hr.symm.trans hr')

/-- A pass of a returning loop that does not end it. -/
theorem fetchFrom_step {passes : Nat} {start : UInt64} {counts result : Counts}
    (hle : start.toNat ≤ toBlock.toNat)
    (hresult : fetchFrom keccak client addr toBlock chunk passes start counts = some (.ok result)) :
    ∃ rest found, client.FilterLogs (windowQuery keccak addr start toBlock chunk) = .ok found ∧
      fetchFrom keccak client addr toBlock chunk rest (start + chunk) (found.foldl countLog counts)
        = some (.ok result) := by
  cases passes with
  | zero => cases hresult
  | succ rest =>
      rw [fetchFrom, if_pos (UInt64.le_iff_toNat_le.2 hle)] at hresult
      split at hresult
      · cases hresult
      · next found hfound => exact ⟨rest, found, hfound, hresult⟩

/-- What a loop gives back: the client's error, or the tips from `start` on besides `counts`. -/
def Returns (client : TipLogClient) (h : History keccak addr) (counts : Counts) (start last : Nat) :
    Option (Except String Counts) → Prop
  | none => False
  | some (.error e) => ∃ q, client.FilterLogs q = .error e
  | some (.ok result) => ∀ agent,
      result (agentID agent) = counts (agentID agent) + tipsIn h.tips agent start last

/-- **Passes that tile.** `passes` starts that do not wrap around cover the range from the first of
    them on, and the loop returns. -/
theorem fetchFrom_counts (hkeccak : HashesSignatures keccak) (hclient : client.Documented h.logs)
    (hchunk : 0 < chunk.toNat) (passes : Nat) (start : UInt64) (counts : Counts)
    (hfits : start.toNat + passes * chunk.toNat < 2 ^ 64)
    (hcover : toBlock.toNat < start.toNat + passes * chunk.toNat) :
    Returns client h counts start.toNat toBlock.toNat
      (fetchFrom keccak client addr toBlock chunk (passes + 1) start counts) := by
  induction passes generalizing start counts with
  | zero =>
      have hdone : ¬ start ≤ toBlock := by
        rw [UInt64.le_iff_toNat_le]
        omega
      rw [fetchFrom, if_neg hdone]
      intro agent
      rw [tipsIn_empty _ _ (by omega)]
      rfl
  | succ passes ih =>
      rw [Nat.succ_mul] at hfits hcover
      have hnext : (start + chunk).toNat = start.toNat + chunk.toNat := by
        rw [UInt64.toNat_add]
        omega
      have hend : (windowEnd start toBlock chunk).toNat
          = min (start.toNat + chunk.toNat - 1) toBlock.toNat := windowEnd_toNat hchunk (by omega)
      rw [fetchFrom]
      split
      · next hle =>
          rw [UInt64.le_iff_toNat_le] at hle
          split
          · next e he => exact ⟨_, he⟩
          · next found hfound =>
              have hrest := ih (start + chunk) (found.foldl countLog counts)
                (by rw [hnext]; omega) (by rw [hnext]; omega)
              have hwindow := foldl_window hkeccak hclient hfound (by rw [hend]; omega) counts
              have hsplit : ∀ agent, tipsIn h.tips agent start.toNat toBlock.toNat
                  = tipsIn h.tips agent start.toNat (windowEnd start toBlock chunk).toNat
                    + tipsIn h.tips agent (start + chunk).toNat toBlock.toNat := by
                intro agent
                by_cases hlast : start.toNat + chunk.toNat - 1 ≤ toBlock.toNat
                · rw [hend, Nat.min_eq_left hlast, hnext,
                    tipsIn_split _ _ (m := start.toNat + chunk.toNat - 1) (by omega) hlast]
                  congr 2
                  omega
                · have hrest : toBlock.toNat < (start + chunk).toNat := by omega
                  rw [hend, Nat.min_eq_right (by omega), tipsIn_empty _ _ hrest, Nat.add_zero]
              revert hrest
              unfold Returns
              split
              · exact id
              · exact id
              · intro hrest agent
                rw [hrest agent, hwindow agent, hsplit agent, Nat.add_assoc]
      · next hle =>
          rw [UInt64.le_iff_toNat_le] at hle
          intro agent
          rw [tipsIn_empty _ _ (by omega)]
          rfl

/-! ## A start that wraps around -/

/-- From every start some window is counted that begins there or, the start having wrapped around
    again, before it. -/
theorem fetchFrom_window (addr : Address) (hkeccak : HashesSignatures keccak) (toBlock chunk : UInt64)
    (hchunk : 0 < chunk.toNat) (start : UInt64) (hle : start.toNat ≤ toBlock.toNat) :
    ∃ b ≤ start.toNat, ∀ (h : History keccak addr) (client : TipLogClient),
      client.Documented h.logs → ∀ passes counts result,
      fetchFrom keccak client addr toBlock chunk passes start counts = some (.ok result) →
      ∀ agent, counts (agentID agent) + tipsIn h.tips agent b b ≤ result (agentID agent) := by
  generalize hn : start.toNat = n
  induction n using Nat.strong_induction_on generalizing start with
  | _ n ih =>
      by_cases hfits : start.toNat + chunk.toNat ≤ 2 ^ 64
      · refine ⟨start.toNat, hn.le, fun h client hclient passes counts result hresult agent => ?_⟩
        obtain ⟨rest, found, hfound, hrest⟩ := fetchFrom_step hle hresult
        have hend : (windowEnd start toBlock chunk).toNat
            = min (start.toNat + chunk.toNat - 1) toBlock.toNat := windowEnd_toNat hchunk hfits
        have horder : start.toNat ≤ (windowEnd start toBlock chunk).toNat := by omega
        have hmono := fetchFrom_mono hrest agent
        rw [foldl_window hkeccak hclient hfound horder] at hmono
        have hpoint := tipsIn_le h.tips agent (le_refl start.toNat) horder
        omega
      · have hlt : start.toNat < 2 ^ 64 := start.toNat_lt
        have hlt' : chunk.toNat < 2 ^ 64 := chunk.toNat_lt
        have hnext : (start + chunk).toNat = start.toNat + chunk.toNat - 2 ^ 64 := by
          rw [UInt64.toNat_add]
          omega
        obtain ⟨b, hb, hcounted⟩ := ih (start + chunk).toNat (by omega) (start + chunk) (by omega) rfl
        refine ⟨b, by omega, fun h client hclient passes counts result hresult agent => ?_⟩
        obtain ⟨rest, found, -, hrest⟩ := fetchFrom_step hle hresult
        have hmono := hcounted h client hclient _ _ _ hrest agent
        have hpass := foldl_countLog_le found counts agent
        omega

/-- The first `n` passes count every block before the start of the next one. -/
theorem fetchFrom_prefix (hkeccak : HashesSignatures keccak) (hclient : client.Documented h.logs)
    (hchunk : 0 < chunk.toNat) (n : Nat) {passes : Nat} {start : UInt64} {counts result : Counts}
    (hn : start.toNat + n * chunk.toNat ≤ toBlock.toNat)
    (hresult : fetchFrom keccak client addr toBlock chunk passes start counts = some (.ok result)) :
    ∃ rest next counts', next.toNat = start.toNat + n * chunk.toNat ∧
      fetchFrom keccak client addr toBlock chunk rest next counts' = some (.ok result) ∧
      ∀ agent, counts (agentID agent) ≤ counts' (agentID agent) ∧
        ∀ b, start.toNat ≤ b → b < next.toNat →
          counts (agentID agent) + tipsIn h.tips agent b b ≤ counts' (agentID agent) := by
  induction n generalizing passes start counts with
  | zero =>
      exact ⟨passes, start, counts, by omega, hresult, fun agent => ⟨le_rfl, fun b _ _ => by omega⟩⟩
  | succ n ih =>
      rw [Nat.succ_mul] at hn
      have hto : toBlock.toNat < 2 ^ 64 := toBlock.toNat_lt
      have hnext : (start + chunk).toNat = start.toNat + chunk.toNat := by
        rw [UInt64.toNat_add]
        omega
      have hend : (windowEnd start toBlock chunk).toNat
          = min (start.toNat + chunk.toNat - 1) toBlock.toNat := windowEnd_toNat hchunk (by omega)
      obtain ⟨rest, found, hfound, hrest⟩ := fetchFrom_step (by omega) hresult
      obtain ⟨rest', next, counts', hstart, hrest', hcounts⟩ := ih (by omega) hrest
      refine ⟨rest', next, counts', by rw [hstart, hnext, Nat.succ_mul]; omega, hrest', ?_⟩
      intro agent
      obtain ⟨hmono, hblocks⟩ := hcounts agent
      have hpass := foldl_countLog_le found counts agent
      refine ⟨by omega, fun b hstartb hb => ?_⟩
      by_cases hwindow : b < start.toNat + chunk.toNat
      · rw [foldl_window hkeccak hclient hfound (by omega)] at hmono
        have hpoint := tipsIn_le h.tips agent hstartb
          (by omega : b ≤ (windowEnd start toBlock chunk).toNat)
        omega
      · have hblock := hblocks b (by omega) hb
        omega

end Passes

/-! ## The counter -/

/-- What a caller gets: the client's error, or for each agent the number of its tips. -/
def RightCounts {keccak : EIP712.Hash} {addr : Address} (client : TipLogClient)
    (h : History keccak addr) (fromBlock toBlock : UInt64) : Except String Counts → Prop
  | .error e => ∃ q, client.FilterLogs q = .error e
  | .ok counts => ∀ agent, counts (agentID agent) = tipsIn h.tips agent fromBlock.toNat toBlock.toNat

/-- On every history the function returns, and with the right counts. -/
def CountsTips (keccak : EIP712.Hash) (addr : Address) (fromBlock toBlock chunkSize : UInt64) :
    Prop :=
  ∀ (h : History keccak addr) (client : TipLogClient), client.Documented h.logs →
    (∃ passes r, fetchAgentTipCounts keccak (some client) addr fromBlock toBlock chunkSize passes
      = some r) ∧
    ∀ passes r, fetchAgentTipCounts keccak (some client) addr fromBlock toBlock chunkSize passes
      = some r → RightCounts client h fromBlock toBlock r

/-- No window starts past the last `uint64`. -/
def StartsFit (fromBlock toBlock chunkSize : UInt64) : Prop :=
  toBlock < fromBlock ∨
    fromBlock.toNat + ((toBlock.toNat - fromBlock.toNat) / (chunkOrDefault chunkSize).toNat + 1)
      * (chunkOrDefault chunkSize).toNat < 2 ^ 64

theorem chunkOrDefault_pos (chunkSize : UInt64) : 0 < (chunkOrDefault chunkSize).toNat := by
  unfold chunkOrDefault
  split
  · decide
  · next h =>
      refine Nat.pos_of_ne_zero fun hzero => h ?_
      exact UInt64.toNat_inj.1 hzero

/-! ## One tip -/

/-- A host is registered and an agent is tipped. -/
def sampleActions : List (Action (Msg × Call) Move) :=
  [.call (⟨2, 0⟩, .registerHost 7 3 500), .call (⟨4, 20000⟩, .tipAgentETH 7 7 0)]

def sampleChain : Chain := ⟨0, fun _ => 0, fun _ => 1, fun _ _ => some 5⟩

def sampleState : State := (deploy sampleChain 1 2 6).toOption.get rfl

theorem sample_run (addr : Address) (b : UInt64) :
    (Tx.run addr ⟨b, sampleActions⟩ sampleState).stack = [] ∧
      (Tx.run addr ⟨b, sampleActions⟩ sampleState).state.2 = [7] := by
  -- the contract's own address does not matter to these two calls
  have hregister : ∀ s, ((contract addr).noting agentNote).call s (⟨2, 0⟩, .registerHost 7 3 500)
      = ((contract 9).noting agentNote).call s (⟨2, 0⟩, .registerHost 7 3 500) := fun _ => rfl
  have htip : ∀ s, ((contract addr).noting agentNote).call s (⟨4, 20000⟩, .tipAgentETH 7 7 0)
      = ((contract 9).noting agentNote).call s (⟨4, 20000⟩, .tipAgentETH 7 7 0) := fun _ => rfl
  have hrun : Tx.run addr ⟨b, sampleActions⟩ sampleState
      = CallStack.run ((contract 9).noting agentNote) ⟨(sampleState, []), []⟩ sampleActions := by
    simp only [Tx.run, sampleActions, run_cons, run_nil, step, hregister, htip]
  rw [hrun, ← List.length_eq_zero_iff]
  decide

/-- The history of one tip, in block `b`. -/
def sampleHistory (keccak : EIP712.Hash) (addr : Address) (b : UInt64) : History keccak addr where
  chain := sampleChain
  lesserWallet := 1
  owner := 2
  registry := 6
  deployed := sampleState
  deployment := rfl
  txs := [⟨b, sampleActions⟩]
  complete := ⟨(sample_run addr b).1, trivial⟩
  others := []
  foreign _ h := by cases h

theorem sampleHistory_tips (keccak : EIP712.Hash) (addr : Address) (b : UInt64) :
    (sampleHistory keccak addr b).tips = [(b, 7)] := by
  show (Tx.run addr ⟨b, sampleActions⟩ sampleState).state.2.map (b, ·) ++ [] = [(b, 7)]
  rw [(sample_run addr b).2]
  rfl

/-- A node that answers every query. -/
def exactClient (logs : List Log) : TipLogClient := ⟨fun q => .ok (logs.filter q.Matches)⟩

theorem exactClient_documented (logs : List Log) : (exactClient logs).Documented logs := by
  intro q found _ hfound
  obtain rfl := Except.ok.inj hfound
  exact List.Perm.refl _

/-! ## The counter on every range -/

section Counter

variable {keccak : EIP712.Hash}

theorem countsTips_of_fit (hkeccak : HashesSignatures keccak) {addr : Address}
    {fromBlock toBlock chunkSize : UInt64} (hfit : StartsFit fromBlock toBlock chunkSize) :
    CountsTips keccak addr fromBlock toBlock chunkSize := by
  intro h client hclient
  by_cases hempty : toBlock < fromBlock
  · have hlt := UInt64.lt_iff_toNat_lt.1 hempty
    simp only [fetchAgentTipCounts, if_pos hempty]
    refine ⟨⟨0, _, rfl⟩, fun passes r hr => ?_⟩
    obtain rfl := Option.some.inj hr
    intro agent
    rw [tipsIn_empty _ _ hlt]
  · have hfits := hfit.resolve_left hempty
    simp only [fetchAgentTipCounts, if_neg hempty]
    have hchunk := chunkOrDefault_pos chunkSize
    have hdiv := Nat.lt_div_mul_add hchunk (a := toBlock.toNat - fromBlock.toNat)
    have hcover : toBlock.toNat < fromBlock.toNat +
        ((toBlock.toNat - fromBlock.toNat) / (chunkOrDefault chunkSize).toNat + 1)
          * (chunkOrDefault chunkSize).toNat := by
      rw [Nat.add_mul]
      omega
    have hcounts := fetchFrom_counts hkeccak hclient hchunk
      ((toBlock.toNat - fromBlock.toNat) / (chunkOrDefault chunkSize).toNat + 1) fromBlock
      (fun _ => 0) hfits hcover
    cases hresult : fetchFrom keccak client addr toBlock (chunkOrDefault chunkSize)
        ((toBlock.toNat - fromBlock.toNat) / (chunkOrDefault chunkSize).toNat + 1 + 1) fromBlock
        (fun _ => 0) with
    | none =>
        rw [hresult] at hcounts
        exact hcounts.elim
    | some r =>
        refine ⟨⟨_, r, hresult⟩, fun passes r' hr' => ?_⟩
        obtain rfl := fetchFrom_unique hresult hr'
        rw [hresult] at hcounts
        cases r with
        | error e => exact hcounts
        | ok counts =>
            intro agent
            rw [hcounts agent, Nat.zero_add]

/-- **Wrapped starts.** When a start wraps around, a tip is counted that is not in the range, or one
    that is in it is counted twice. -/
theorem not_countsTips (hkeccak : HashesSignatures keccak) {addr : Address}
    {fromBlock toBlock chunkSize : UInt64} (hfit : ¬ StartsFit fromBlock toBlock chunkSize) :
    ¬ CountsTips keccak addr fromBlock toBlock chunkSize := by
  intro hcounts
  obtain ⟨horder, hwrap⟩ := not_or.1 hfit
  have hchunk := chunkOrDefault_pos chunkSize
  have hchunkLt := (chunkOrDefault chunkSize).toNat_lt
  have hle : fromBlock.toNat ≤ toBlock.toNat := by
    rw [UInt64.lt_iff_toNat_lt] at horder
    omega
  have hto : toBlock.toNat < 2 ^ 64 := toBlock.toNat_lt
  generalize hn : (toBlock.toNat - fromBlock.toNat) / (chunkOrDefault chunkSize).toNat = n at hwrap
  have hbefore : fromBlock.toNat + n * (chunkOrDefault chunkSize).toNat ≤ toBlock.toNat := by
    have hmul := Nat.div_mul_le_self (toBlock.toNat - fromBlock.toNat) (chunkOrDefault chunkSize).toNat
    rw [hn] at hmul
    omega
  rw [Nat.add_mul, Nat.one_mul] at hwrap
  -- the start of the last pass before the wrap, and the start after it
  let last : UInt64 := UInt64.ofNat (fromBlock.toNat + n * (chunkOrDefault chunkSize).toNat)
  have hlast : last.toNat = fromBlock.toNat + n * (chunkOrDefault chunkSize).toNat := by
    rw [UInt64.toNat_ofNat']
    omega
  have hnext : (last + chunkOrDefault chunkSize).toNat
      = last.toNat + (chunkOrDefault chunkSize).toNat - 2 ^ 64 := by
    rw [UInt64.toNat_add]
    omega
  obtain ⟨b, hb, hcounted⟩ := fetchFrom_window addr hkeccak toBlock
    (chunkOrDefault chunkSize) hchunk (last + chunkOrDefault chunkSize) (by omega)
  have hbLt : b < 2 ^ 64 := by omega
  let h := sampleHistory keccak addr (UInt64.ofNat b)
  have htips : ∀ a c, tipsIn h.tips 7 a c = if a ≤ b ∧ b ≤ c then 1 else 0 := by
    intro a c
    have hval : (UInt64.ofNat b).toNat = b := by
      rw [UInt64.toNat_ofNat']
      omega
    rw [show h.tips = [(UInt64.ofNat b, 7)] from sampleHistory_tips _ _ _]
    simp [tipsIn, List.countP_cons, hval]
  have hclient := exactClient_documented h.logs
  obtain ⟨⟨passes, r, hr⟩, hright⟩ := hcounts h (exactClient h.logs) hclient
  have hcorrect := hright passes r hr
  cases r with
  | error e =>
      obtain ⟨q, hq⟩ := hcorrect
      cases hq
  | ok result =>
      simp only [fetchAgentTipCounts, if_neg horder] at hr
      obtain ⟨rest, next, counts', hnextStart, hrest, hprefix⟩ :=
        fetchFrom_prefix hkeccak hclient hchunk n hbefore hr
      obtain rfl : next = last := UInt64.toNat_inj.1 (hnextStart.trans hlast.symm)
      obtain ⟨rest', found, -, hrest'⟩ := fetchFrom_step (by omega) hrest
      have hwindow := hcounted h _ hclient _ _ _ hrest' 7
      have hpass := foldl_countLog_le found counts' 7
      have hcount := hcorrect 7
      obtain ⟨hmono, hblock⟩ := hprefix 7
      rw [htips] at hwindow hcount
      by_cases hfrom : fromBlock.toNat ≤ b
      · have htwice := hblock b hfrom (by omega)
        rw [htips, if_pos ⟨le_rfl, le_rfl⟩] at htwice
        rw [if_pos ⟨le_rfl, le_rfl⟩] at hwindow
        rw [if_pos ⟨hfrom, by omega⟩] at hcount
        omega
      · rw [if_pos ⟨le_rfl, le_rfl⟩] at hwindow
        rw [if_neg (fun hin => hfrom hin.1)] at hcount
        omega

/-- **Tip counts.** The counter returns and is right on every history exactly for the ranges whose
    windows do not start past the last `uint64`; there the counts of adjacent ranges add up. -/
theorem agent_tip_counts (hkeccak : HashesSignatures keccak) (addr : Address) :
    (∀ fromBlock toBlock chunkSize,
      CountsTips keccak addr fromBlock toBlock chunkSize ↔
        StartsFit fromBlock toBlock chunkSize) ∧
    ∀ fromBlock mid toBlock chunkSize : UInt64, fromBlock ≤ mid → mid < toBlock →
      StartsFit fromBlock mid chunkSize → StartsFit (mid + 1) toBlock chunkSize →
      StartsFit fromBlock toBlock chunkSize →
      ∀ (h : History keccak addr) (client : TipLogClient), client.Documented h.logs →
      ∀ p₁ p₂ p c₁ c₂ c,
      fetchAgentTipCounts keccak (some client) addr fromBlock mid chunkSize p₁ = some (.ok c₁) →
      fetchAgentTipCounts keccak (some client) addr (mid + 1) toBlock chunkSize p₂ = some (.ok c₂) →
      fetchAgentTipCounts keccak (some client) addr fromBlock toBlock chunkSize p = some (.ok c) →
      ∀ agent, c (agentID agent) = c₁ (agentID agent) + c₂ (agentID agent) := by
  refine ⟨fun fromBlock toBlock chunkSize => ⟨fun hcounts => ?_, countsTips_of_fit hkeccak⟩, ?_⟩
  · by_contra hfit
    exact not_countsTips hkeccak hfit hcounts
  · intro fromBlock mid toBlock chunkSize hmid hto hfit₁ hfit₂ hfit h client hclient p₁ p₂ p c₁ c₂ c
      h₁ h₂ hall agent
    have hc₁ := (countsTips_of_fit hkeccak hfit₁ h client hclient).2 _ _ h₁ agent
    have hc₂ := (countsTips_of_fit hkeccak hfit₂ h client hclient).2 _ _ h₂ agent
    have hc := (countsTips_of_fit hkeccak hfit h client hclient).2 _ _ hall agent
    rw [UInt64.le_iff_toNat_le] at hmid
    rw [UInt64.lt_iff_toNat_lt] at hto
    have hnext : (mid + 1).toNat = mid.toNat + 1 := by
      have hlt : toBlock.toNat < 2 ^ 64 := toBlock.toNat_lt
      rw [UInt64.toNat_add, UInt64.toNat_one]
      omega
    rw [hc, hc₁, hc₂, hnext]
    exact tipsIn_split _ _ (by omega) hto.le

end Counter

/-- Reads a text as a number. -/
def sampleHash : EIP712.Hash := fun text =>
  Fin.ofNat (2 ^ 256) (text.foldl (fun h b => 257 * h + b.toNat + 1) 0)

/-- One event of each kind. -/
def sampleEvents : List Event :=
  [.tipSent 0 0 0 0 0 0 0 0 0, .withdrawal 0 0 0, .hostRegistered 0 0 0, .hostUpdated 0 0 0,
    .hostActiveSet 0 true, .tokenAllowedSet 0 true, .lesserWalletUpdated 0 0, .maxTipAmountSet 0 0,
    .minTipAmountSet 0 0 0, .withdrawalsPausedSet true, .straySwept 0 0 0,
    .agentIdentityRegistryUpdated 0 0, .agentTipSent 0 0 0 0 0 0 0]

theorem sampleHash_signatures : HashesSignatures sampleHash := by
  let texts := (sampleEvents.map signature ++ inheritedSignatures).map Go.bytes
  have hinj : ∀ x ∈ texts, ∀ y ∈ texts, sampleHash x = sampleHash y → x = y := by
    decide +kernel
  have hmem : ∀ x ∈ signatureTexts, x ∈ texts := by
    rintro x (⟨e, rfl⟩ | ⟨sig, hsig, rfl⟩)
    · refine List.mem_map_of_mem (List.mem_append_left _ ?_)
      cases e <;> simp [sampleEvents, signature]
    · exact List.mem_map_of_mem (List.mem_append_right _ hsig)
  exact fun x hx y hy => hinj x (hmem x hx) y (hmem y hy)

/-- A range of a hundred blocks and windows of five hundred. -/
theorem agent_tip_counts_small : CountsTips sampleHash 9 1 100 500 :=
  ((agent_tip_counts sampleHash_signatures 9).1 1 100 500).2 (Or.inr (by decide))

/-- Windows as long as the number range: the second one starts at block 0, and the one tip of the
    range is counted twice. -/
theorem not_agent_tip_counts :
    let h := sampleHistory sampleHash 9 50
    ∃ counts, fetchAgentTipCounts sampleHash (some (exactClient h.logs)) 9 1 100
        18446744073709551615 4 = some (.ok counts) ∧
      counts (agentID 7) = 2 ∧ tipsIn h.tips 7 1 100 = 1 ∧
      ¬ CountsTips sampleHash 9 1 100 18446744073709551615 := by
  intro h
  have htwice : ((fetchAgentTipCounts sampleHash (some (exactClient h.logs)) 9 1 100
      18446744073709551615 4).bind fun r => r.toOption.map fun counts => counts (agentID 7)) = some 2 := by
    decide +kernel
  have htips : tipsIn h.tips 7 1 100 = 1 := by
    rw [show h.tips = [(50, 7)] from sampleHistory_tips _ _ _]
    decide
  obtain ⟨r, hcounts, hr⟩ := Option.bind_eq_some_iff.1 htwice
  cases r with
  | error e => cases hr
  | ok counts =>
      have htwice : counts (agentID 7) = 2 := Option.some.inj hr
      refine ⟨counts, hcounts, htwice, htips, fun hright => ?_⟩
      have hcount := (hright h _ (exactClient_documented _)).2 _ _ hcounts 7
      rw [htwice] at hcount
      exact absurd (hcount.trans htips) (by decide)

end LesserHost.SoulReputation
