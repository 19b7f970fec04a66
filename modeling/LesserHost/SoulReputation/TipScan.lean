import LesserHost.SoulReputation.TipWindows

set_option autoImplicit false

/-! # Which blocks the tip counter asks for

The windows that `fetchAgentTipCounts` queries, against a source of logs that may answer anything at
any query. Where no start of a window wraps around, the loop ends, its windows tile the range of
blocks, and the error of a query is the result; where one does, the window after it begins before
the one it follows (`scan_tiles`). -/

namespace LesserHost.SoulReputation

open LesserHost.Solidity

/-! ## Ranges -/

/-- The ranges follow each other, none is longer than `chunk`, and together they are `a..b`. -/
structure Tiles (a b chunk : Nat) (ranges : List (Nat × Nat)) : Prop where
  increasing : ranges.Pairwise fun r r' => r.2 < r'.1
  bounded : ∀ r ∈ ranges, r.1 ≤ r.2 ∧ r.2 < r.1 + chunk
  covers : ∀ n, (∃ r ∈ ranges, r.1 ≤ n ∧ n ≤ r.2) ↔ a ≤ n ∧ n ≤ b

section Tiles

variable {a b chunk last next : Nat} {ranges : List (Nat × Nat)}

theorem tiles_nil (h : b < a) : Tiles a b chunk [] where
  increasing := List.Pairwise.nil
  bounded _ hr := absurd hr List.not_mem_nil
  covers n := by
    constructor
    · rintro ⟨r, hr, -⟩
      exact absurd hr List.not_mem_nil
    · intro hn
      omega

/-- A range in front of a tiling that begins behind it, or of none if it reaches the end. -/
theorem Tiles.cons (h : Tiles next b chunk ranges) (hrange : a ≤ last) (hlast : last ≤ b)
    (hchunk : last < a + chunk) (hnext : last < next) (hmeet : next = last + 1 ∨ last = b) :
    Tiles a b chunk ((a, last) :: ranges) where
  increasing := by
    refine List.pairwise_cons.2 ⟨fun r hr => ?_, h.increasing⟩
    have hin := ((h.covers r.1).1 ⟨r, hr, le_rfl, (h.bounded r hr).1⟩).1
    exact hnext.trans_le hin
  bounded r hr := by
    rcases List.mem_cons.1 hr with hr | hr
    · rw [hr]
      exact ⟨hrange, hchunk⟩
    · exact h.bounded r hr
  covers n := by
    rw [List.exists_mem_cons_iff, h.covers]
    omega

end Tiles

/-! ## The scan -/

/-- A source of logs: its answer may depend on how many queries were made before. -/
abbrev LogSource := Nat → FilterQuery → Except String (List Log)

section Scan

variable (keccak : EIP712.Hash) (source : LogSource) (contract : Address)

/-- The queries of the loop and its result, for a number of passes; `n` queries were made before. -/
def scanFrom (toBlock chunkSize : UInt64) :
    Nat → Nat → UInt64 → Counts → List FilterQuery × Option (Except String Counts)
  | 0, _, _, _ => ([], none)
  | passes + 1, n, start, counts =>
      if start ≤ toBlock then
        let q := windowQuery keccak contract start toBlock chunkSize
        match source n q with
        | .error e => ([q], some (.error e))
        | .ok logs =>
            let rest := scanFrom toBlock chunkSize passes (n + 1) (start + chunkSize)
              (logs.foldl countLog counts)
            (q :: rest.1, rest.2)
      else ([], some (.ok counts))

def scanAgentTips (fromBlock toBlock chunkSize : UInt64) (passes : Nat) :
    List FilterQuery × Option (Except String Counts) :=
  if toBlock < fromBlock then ([], some (.ok fun _ => 0))
  else scanFrom keccak source contract toBlock (chunkOrDefault chunkSize) passes 0 fromBlock
    fun _ => 0

/-- The blocks a query asks for, the first and the last of them. -/
def FilterQuery.range (q : FilterQuery) : Nat × Nat := (q.FromBlock, q.ToBlock)

theorem range_windowQuery (start toBlock chunkSize : UInt64) :
    (windowQuery keccak contract start toBlock chunkSize).range =
      (start.toNat, (windowEnd start toBlock chunkSize).toNat) := rfl

/-- Against every source the loop ends, the windows of a successful scan tile the range, and an
error of the source is an error of the scan. -/
structure ScansOnce (fromBlock toBlock chunkSize : UInt64) : Prop where
  ends : ∀ source, ∃ passes result,
    (scanAgentTips keccak source contract fromBlock toBlock chunkSize passes).2 = some result
  tiles : ∀ source passes counts,
    (scanAgentTips keccak source contract fromBlock toBlock chunkSize passes).2 = some (.ok counts) →
    Tiles fromBlock.toNat toBlock.toNat (chunkOrDefault chunkSize).toNat
      ((scanAgentTips keccak source contract fromBlock toBlock chunkSize passes).1.map
        FilterQuery.range)
  errors : ∀ source passes i q e,
    (scanAgentTips keccak source contract fromBlock toBlock chunkSize passes).1[i]? = some q →
    source i q = .error e →
    (scanAgentTips keccak source contract fromBlock toBlock chunkSize passes).2 = some (.error e)

end Scan

section Loop

variable {keccak : EIP712.Hash} {source : LogSource} {contract : Address} {toBlock chunk : UInt64}

theorem scanFrom_failed {passes n : Nat} {start : UInt64} {counts : Counts} {e : String}
    (hle : start ≤ toBlock)
    (h : source n (windowQuery keccak contract start toBlock chunk) = .error e) :
    scanFrom keccak source contract toBlock chunk (passes + 1) n start counts =
      ([windowQuery keccak contract start toBlock chunk], some (.error e)) := by
  simp only [scanFrom, if_pos hle, h]

/-- A pass that is answered asks for its window and goes on behind it. -/
theorem scanFrom_answered {passes n : Nat} {start : UInt64} {counts : Counts} {logs : List Log}
    (hle : start ≤ toBlock)
    (h : source n (windowQuery keccak contract start toBlock chunk) = .ok logs) :
    scanFrom keccak source contract toBlock chunk (passes + 1) n start counts =
      (windowQuery keccak contract start toBlock chunk ::
        (scanFrom keccak source contract toBlock chunk passes (n + 1) (start + chunk)
          (logs.foldl countLog counts)).1,
        (scanFrom keccak source contract toBlock chunk passes (n + 1) (start + chunk)
          (logs.foldl countLog counts)).2) := by
  simp only [scanFrom, if_pos hle, h]

theorem scanFrom_done {passes n : Nat} {start : UInt64} {counts : Counts} (hgt : ¬ start ≤ toBlock) :
    (scanFrom keccak source contract toBlock chunk (passes + 1) n start counts) =
      ([], some (.ok counts)) := by
  rw [scanFrom, if_neg hgt]

theorem scanFrom_step {passes n : Nat} {start : UInt64} {counts result : Counts}
    (hle : start ≤ toBlock)
    (h : (scanFrom keccak source contract toBlock chunk (passes + 1) n start counts).2 =
      some (.ok result)) :
    ∃ logs : List Log,
      (scanFrom keccak source contract toBlock chunk passes (n + 1) (start + chunk)
        (logs.foldl countLog counts)).2 = some (.ok result) ∧
      (scanFrom keccak source contract toBlock chunk (passes + 1) n start counts).1 =
        windowQuery keccak contract start toBlock chunk ::
          (scanFrom keccak source contract toBlock chunk passes (n + 1) (start + chunk)
            (logs.foldl countLog counts)).1 := by
  cases hanswer : source n (windowQuery keccak contract start toBlock chunk) with
  | error e =>
      rw [scanFrom_failed hle hanswer] at h
      cases h
  | ok logs =>
      rw [scanFrom_answered hle hanswer] at h
      exact ⟨logs, h, by rw [scanFrom_answered hle hanswer]⟩

/-- A source that answers every query the same way, whenever it is made, makes the scan the loop of
`fetchAgentTipCounts`. -/
theorem scanFrom_client (client : TipLogClient) (passes n : Nat) (start : UInt64) (counts : Counts) :
    (scanFrom keccak (fun _ => client.FilterLogs) contract toBlock chunk passes n start counts).2 =
      fetchFrom keccak client contract toBlock chunk passes start counts := by
  induction passes generalizing n start counts with
  | zero => rfl
  | succ passes ih =>
      by_cases hle : start ≤ toBlock
      · rw [fetchFrom, if_pos hle]
        cases hanswer : client.FilterLogs (windowQuery keccak contract start toBlock chunk) with
        | error e => rw [scanFrom_failed hle hanswer]
        | ok logs =>
            rw [scanFrom_answered hle hanswer]
            exact ih _ _ _
      · rw [scanFrom_done hle, fetchFrom, if_neg hle]

theorem scanAgentTips_client (client : TipLogClient) (fromBlock chunkSize : UInt64) (passes : Nat) :
    (scanAgentTips keccak (fun _ => client.FilterLogs) contract fromBlock toBlock chunkSize passes).2 =
      fetchAgentTipCounts keccak (some client) contract fromBlock toBlock chunkSize passes := by
  rw [scanAgentTips, fetchAgentTipCounts]
  split_ifs
  · rfl
  · exact scanFrom_client client _ _ _ _

/-- The end of the window after the last one, where windows are counted from `start` on. -/
def lastStart (start toBlock chunk : Nat) : Nat := start + ((toBlock - start) / chunk + 1) * chunk

theorem lastStart_step {start toBlock chunk : Nat} (hchunk : 0 < chunk)
    (hle : start + chunk ≤ toBlock) :
    lastStart (start + chunk) toBlock chunk = lastStart start toBlock chunk := by
  have hdiv : (toBlock - start) / chunk = (toBlock - (start + chunk)) / chunk + 1 := by
    rw [← Nat.add_div_right _ hchunk]
    congr 1
    omega
  rw [lastStart, lastStart, hdiv]
  simp only [Nat.add_mul]
  omega

theorem lastStart_last {start toBlock chunk : Nat} (hlt : toBlock < start + chunk)
    (hle : start ≤ toBlock) : lastStart start toBlock chunk = start + chunk := by
  rw [lastStart, Nat.div_eq_of_lt (by omega)]
  omega

theorem next_le_lastStart {start toBlock chunk : Nat} :
    start + chunk ≤ lastStart start toBlock chunk := by
  rw [lastStart, Nat.add_mul]
  omega

/-- A scan whose starts stay below 2^64 tiles the blocks from its start on. -/
theorem scanFrom_tiles (hchunk : 0 < chunk.toNat) {passes n : Nat} {start : UInt64}
    {counts result : Counts}
    (hfits : start ≤ toBlock → lastStart start.toNat toBlock.toNat chunk.toNat < 2 ^ 64)
    (h : (scanFrom keccak source contract toBlock chunk passes n start counts).2 =
      some (.ok result)) :
    Tiles start.toNat toBlock.toNat chunk.toNat
      ((scanFrom keccak source contract toBlock chunk passes n start counts).1.map
        FilterQuery.range) := by
  induction passes generalizing n start counts with
  | zero => cases h
  | succ passes ih =>
      by_cases hle : start ≤ toBlock
      · obtain ⟨logs, hrest, hqueries⟩ := scanFrom_step hle h
        have hfit := hfits hle
        have hbound : start.toNat + chunk.toNat < 2 ^ 64 := lt_of_le_of_lt next_le_lastStart hfit
        have hnext : (start + chunk).toNat = start.toNat + chunk.toNat := by
          rw [UInt64.toNat_add]
          omega
        have hle' : start.toNat ≤ toBlock.toNat := UInt64.le_iff_toNat_le.1 hle
        have htail := ih (fun hmore => by
          have hmore' : start.toNat + chunk.toNat ≤ toBlock.toNat := by
            rw [← hnext]
            exact UInt64.le_iff_toNat_le.1 hmore
          rw [hnext, lastStart_step hchunk hmore']
          exact hfit) hrest
        have hend : (windowEnd start toBlock chunk).toNat
            = min (start.toNat + chunk.toNat - 1) toBlock.toNat := windowEnd_toNat hchunk (by omega)
        rw [hqueries, List.map_cons, range_windowQuery, hend]
        rw [hnext] at htail
        exact htail.cons (by omega) (by omega) (by omega) (by omega) (by omega)
      · rw [scanFrom_done hle]
        rw [UInt64.le_iff_toNat_le] at hle
        exact tiles_nil (by omega)

/-- A scan whose windows follow each other never wraps around: a start behind the wrap would lie
before the window it follows. -/
theorem scanFrom_fits {passes n : Nat} {start : UInt64} {counts result : Counts}
    (hchunk : 0 < chunk.toNat) (hle : start ≤ toBlock)
    (h : (scanFrom keccak source contract toBlock chunk passes n start counts).2 =
      some (.ok result))
    (hincreasing : ((scanFrom keccak source contract toBlock chunk passes n start counts).1.map
      FilterQuery.range).Pairwise fun r r' => r.2 < r'.1)
    (hranges : ∀ r ∈ (scanFrom keccak source contract toBlock chunk passes n start counts).1.map
      FilterQuery.range, r.1 ≤ r.2) :
    lastStart start.toNat toBlock.toNat chunk.toNat < 2 ^ 64 := by
  induction passes generalizing n start counts with
  | zero => cases h
  | succ passes ih =>
      obtain ⟨logs, hrest, hqueries⟩ := scanFrom_step hle h
      have hle' : start.toNat ≤ toBlock.toNat := UInt64.le_iff_toNat_le.1 hle
      have hsum : (start + chunk).toNat = (start.toNat + chunk.toNat) % 2 ^ 64 := UInt64.toNat_add ..
      have hstart : start.toNat < 2 ^ 64 := start.toNat_lt
      have hlt : chunk.toNat < 2 ^ 64 := chunk.toNat_lt
      rw [hqueries, List.map_cons] at hincreasing hranges
      by_cases hmore : start + chunk ≤ toBlock
      · have hmore' := UInt64.le_iff_toNat_le.1 hmore
        obtain ⟨hhead, htail⟩ := List.pairwise_cons.1 hincreasing
        have hfit := ih hmore hrest htail fun r hr => hranges r (List.mem_cons_of_mem _ hr)
        cases passes with
        | zero => cases hrest
        | succ passes =>
            obtain ⟨logs', hrest', hqueries'⟩ := scanFrom_step hmore hrest
            have hwindow := hranges _ List.mem_cons_self
            have hfollows := hhead (windowQuery keccak contract (start + chunk) toBlock chunk).range
              (by rw [hqueries', List.map_cons]; exact List.mem_cons_self)
            have horder : start.toNat < (start + chunk).toNat := lt_of_le_of_lt hwindow hfollows
            have hnext : (start + chunk).toNat = start.toNat + chunk.toNat := by omega
            rw [hnext] at hfit hmore'
            rwa [lastStart_step hchunk hmore'] at hfit
      · rw [UInt64.le_iff_toNat_le] at hmore
        have hto : toBlock.toNat < 2 ^ 64 := toBlock.toNat_lt
        rw [lastStart_last (by omega) hle']
        omega

/-- Enough passes end the loop, whatever the source answers. -/
theorem scanFrom_ends (passes n : Nat) (start : UInt64) (counts : Counts)
    (hfits : start.toNat + passes * chunk.toNat < 2 ^ 64)
    (hcover : toBlock.toNat < start.toNat + passes * chunk.toNat) :
    ∃ result, (scanFrom keccak source contract toBlock chunk (passes + 1) n start counts).2 =
      some result := by
  induction passes generalizing n start counts with
  | zero =>
      have hgt : ¬ start ≤ toBlock := by
        rw [UInt64.le_iff_toNat_le]
        omega
      rw [scanFrom_done hgt]
      exact ⟨_, rfl⟩
  | succ passes ih =>
      by_cases hle : start ≤ toBlock
      · cases hanswer : source n (windowQuery keccak contract start toBlock chunk) with
        | error e =>
            rw [scanFrom_failed hle hanswer]
            exact ⟨_, rfl⟩
        | ok logs =>
            rw [Nat.succ_mul] at hfits hcover
            have hnext : (start + chunk).toNat = start.toNat + chunk.toNat := by
              rw [UInt64.toNat_add]
              omega
            rw [scanFrom_answered hle hanswer]
            exact ih _ _ _ (by rw [hnext]; omega) (by rw [hnext]; omega)
      · rw [scanFrom_done hle]
        exact ⟨_, rfl⟩

/-- The first error ends the loop and is its result. -/
theorem scanFrom_error {passes n i : Nat} {start : UInt64} {counts : Counts} {q : FilterQuery}
    {e : String}
    (hq : (scanFrom keccak source contract toBlock chunk passes n start counts).1[i]? = some q)
    (he : source (n + i) q = .error e) :
    (scanFrom keccak source contract toBlock chunk passes n start counts).2 = some (.error e) := by
  induction passes generalizing n i start counts with
  | zero => cases hq
  | succ passes ih =>
      by_cases hle : start ≤ toBlock
      · cases hanswer : source n (windowQuery keccak contract start toBlock chunk) with
        | error e' =>
            rw [scanFrom_failed hle hanswer] at hq ⊢
            cases i with
            | zero =>
                have hsame : windowQuery keccak contract start toBlock chunk = q := Option.some.inj hq
                rw [Nat.add_zero, ← hsame, hanswer] at he
                rw [Except.error.inj he]
            | succ i => cases hq
        | ok logs =>
            rw [scanFrom_answered hle hanswer] at hq ⊢
            cases i with
            | zero =>
                have hsame : windowQuery keccak contract start toBlock chunk = q := Option.some.inj hq
                rw [Nat.add_zero, ← hsame, hanswer] at he
                cases he
            | succ i =>
                refine ih (n := n + 1) (i := i) hq ?_
                rw [← he]
                congr 1
                omega
      · rw [scanFrom_done hle] at hq
        cases hq

/-- An error of the loop is one of the source. -/
theorem scanFrom_error_source {passes n : Nat} {start : UInt64} {counts : Counts} {e : String}
    (h : (scanFrom keccak source contract toBlock chunk passes n start counts).2 =
      some (.error e)) : ∃ i q, source i q = .error e := by
  induction passes generalizing n start counts with
  | zero => cases h
  | succ passes ih =>
      by_cases hle : start ≤ toBlock
      · cases hanswer : source n (windowQuery keccak contract start toBlock chunk) with
        | error e' =>
            rw [scanFrom_failed hle hanswer] at h
            refine ⟨n, windowQuery keccak contract start toBlock chunk, ?_⟩
            rw [hanswer, Except.error.inj (Option.some.inj h)]
        | ok logs =>
            rw [scanFrom_answered hle hanswer] at h
            exact ih h
      · rw [scanFrom_done hle] at h
        cases h

end Loop

/-! ## Every block once -/

/-- **Scans.** Every block of the range is asked for once, in windows of at most the chunk size,
exactly for the ranges whose windows do not start past the last `uint64`. -/
theorem scan_tiles (keccak : EIP712.Hash) (contract : Address) (fromBlock toBlock chunkSize : UInt64) :
    ScansOnce keccak contract fromBlock toBlock chunkSize ↔
      StartsFit fromBlock toBlock chunkSize := by
  have hchunk := chunkOrDefault_pos chunkSize
  by_cases hempty : toBlock < fromBlock
  · refine iff_of_true ⟨fun source => ?_, fun source passes counts _ => ?_, ?_⟩ (Or.inl hempty)
    · exact ⟨0, _, by rw [scanAgentTips, if_pos hempty]⟩
    · rw [scanAgentTips, if_pos hempty]
      exact tiles_nil (UInt64.lt_iff_toNat_lt.1 hempty)
    · intro source passes i q e hq
      rw [scanAgentTips, if_pos hempty] at hq
      cases hq
  · have hle : fromBlock ≤ toBlock := UInt64.not_lt.1 hempty
    constructor
    · rintro ⟨hends, htiles, -⟩
      -- a source without logs never fails, so its scan is successful
      let quiet : LogSource := fun _ _ => .ok []
      obtain ⟨passes, result, hresult⟩ := hends quiet
      have hloop := hresult
      simp only [scanAgentTips, if_neg hempty] at hloop
      cases result with
      | error e =>
          obtain ⟨i, q, he⟩ := scanFrom_error_source hloop
          cases he
      | ok counts =>
          have htile := htiles quiet passes counts hresult
          simp only [scanAgentTips, if_neg hempty] at htile
          exact Or.inr (scanFrom_fits hchunk hle hloop htile.increasing
            fun r hr => (htile.bounded r hr).1)
    · intro hfit
      have hlast : lastStart fromBlock.toNat toBlock.toNat (chunkOrDefault chunkSize).toNat < 2 ^ 64 :=
        hfit.resolve_left hempty
      refine ⟨fun source => ?_, fun source passes counts hresult => ?_, ?_⟩
      · have hdiv := Nat.lt_div_mul_add hchunk (a := toBlock.toNat - fromBlock.toNat)
        have hcover : toBlock.toNat <
            lastStart fromBlock.toNat toBlock.toNat (chunkOrDefault chunkSize).toNat := by
          rw [lastStart, Nat.add_mul]
          omega
        obtain ⟨result, hresult⟩ := scanFrom_ends
          _ 0 fromBlock (fun _ => 0) hlast hcover
        exact ⟨_, result, by rw [scanAgentTips, if_neg hempty]; exact hresult⟩
      · simp only [scanAgentTips, if_neg hempty] at hresult ⊢
        exact scanFrom_tiles hchunk (fun _ => hlast) hresult
      · intro source passes i q e hq he
        simp only [scanAgentTips, if_neg hempty] at hq ⊢
        exact scanFrom_error hq (by rw [Nat.zero_add]; exact he)

/-- Windows of the longest chunk size: block 0 begins the window after that of the blocks 1 to 100. -/
theorem not_scan_tiles : ¬ ScansOnce (fun _ => 0) 9 1 100 18446744073709551615 := by
  intro h
  have hend : (scanAgentTips (fun _ => 0) (fun _ _ => .ok []) 9 1 100 18446744073709551615 4).2 =
      some (.ok fun _ => 0) := rfl
  have hincreasing := (h.tiles (fun _ _ => .ok []) 4 _ hend).increasing
  revert hincreasing
  decide +kernel

end LesserHost.SoulReputation
