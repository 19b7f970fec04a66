import Mathlib
import LesserHost.SoulComm.Request

set_option autoImplicit false

/-! # The rate limit of outbound messages

`enforceSoulCommSendGuards` counts an agent's outbound messages of the last hour and of the last day. It reads
the newest 250 and the newest 500 activities of the agent, of every kind, and counts among these, so a limit
is only seen when enough of the messages are among them. -/

namespace LesserHost.SoulComm

open LesserHost.Go
open LesserHost.ControlPlane (AppTheoryError)

/-! ## Counting in a prefix -/

section Prefix

variable {α κ : Type} [LinearOrder κ] {key : α → κ} {p : α → Bool} {l : List α} {m n : Nat}

/-- `m` of the `n` newest satisfy `p`: there are so many, and the `m`-th of them has fewer than `n` newer. -/
def Reached (key : α → κ) (p : α → Bool) (n m : Nat) (l : List α) : Prop :=
  ∃ x ∈ l, p x = true ∧ m ≤ l.countP (fun y => p y && decide (key x ≤ key y)) ∧
    l.countP (fun y => decide (key x < key y)) < n

theorem Reached.perm {l' : List α} (h : l.Perm l') : Reached key p n m l ↔ Reached key p n m l' := by
  simp only [Reached, h.mem_iff, h.countP_eq]

theorem Reached.le_countP (h : Reached key p n m l) : m ≤ l.countP p := by
  obtain ⟨x, -, -, hm, -⟩ := h
  refine hm.trans (List.countP_mono_left fun y _ hy => ?_)
  exact (Bool.and_eq_true_iff.1 hy).1

/-- A list with the newest first. -/
theorem le_countP_take (hsorted : l.Pairwise fun a b => key b < key a) :
    m ≤ (l.take n).countP p ↔ m = 0 ∨ Reached key p n m l := by
  induction l generalizing m n with
  | nil => simp [Reached]
  | cons v rest ih =>
      obtain ⟨hhead, hrest⟩ := List.pairwise_cons.1 hsorted
      cases n with
      | zero => simp [Reached]
      | succ n =>
          -- the head is older than nothing, and newer than everything else
          have hnewest : (v :: rest).countP (fun y => decide (key v < key y)) = 0 := by
            refine List.countP_eq_zero.2 fun y hy => ?_
            rw [decide_eq_true_eq, not_lt]
            rcases List.mem_cons.1 hy with rfl | hy
            · exact le_rfl
            · exact (hhead y hy).le
          have halone : rest.countP (fun y => p y && decide (key v ≤ key y)) = 0 := by
            refine List.countP_eq_zero.2 fun y hy => ?_
            rw [Bool.and_eq_true, decide_eq_true_eq, not_and, not_le]
            exact fun _ => hhead y hy
          have hcons : Reached key p (n + 1) m (v :: rest) ↔
              (p v = true ∧ m ≤ 1) ∨ ∃ x ∈ rest, p x = true ∧
                m ≤ rest.countP (fun y => p y && decide (key x ≤ key y)) + (if p v = true then 1 else 0) ∧
                rest.countP (fun y => decide (key x < key y)) < n := by
            rw [Reached, List.exists_mem_cons_iff]
            refine or_congr ?_ (exists_congr fun x => and_congr_right fun hx => ?_)
            · rw [List.countP_cons, halone, hnewest]
              refine and_congr_right fun hv => ?_
              simp [hv]
            · have hlt := hhead x hx
              rw [List.countP_cons, List.countP_cons]
              simp [hlt, hlt.le]
          rw [List.take_succ_cons, List.countP_cons, hcons]
          by_cases hv : p v = true
          · rw [if_pos hv]
            cases m with
            | zero => simp
            | succ m =>
                rw [Nat.add_le_add_iff_right, ih hrest, Reached]
                simp [hv]
          · rw [if_neg hv, Nat.add_zero, ih hrest, Reached]
            simp [hv]

end Prefix

/-! ## Activities -/

structure SoulAgentCommActivity where
  ActivityID : String
  ChannelType : String
  Direction : String
  Timestamp : Time

/-- The order of the sort keys `COMM#time#id`; the time is written with a fixed number of digits. -/
def SoulAgentCommActivity.sk (a : SoulAgentCommActivity) : Int ×ₗ String :=
  toLex (a.Timestamp.nanos, a.ActivityID)

/-- The activities of one agent, no two under one key. -/
structure Activities where
  rows : List SoulAgentCommActivity
  keys : (rows.map SoulAgentCommActivity.sk).Nodup

/-- The activities by partition key, and the reads that fail: the one for the hour and the one for the day. -/
structure CommStore where
  partition : String → Activities
  hourFails : Bool
  dayFails : Bool

/-- `OrderBy("SK", "DESC")` -/
def newestFirst (rows : List SoulAgentCommActivity) : List SoulAgentCommActivity :=
  rows.mergeSort fun a b => decide (b.sk ≤ a.sk)

theorem newestFirst_perm (rows : List SoulAgentCommActivity) : (newestFirst rows).Perm rows :=
  List.mergeSort_perm rows _

theorem newestFirst_sorted (a : Activities) :
    (newestFirst a.rows).Pairwise fun x y => y.sk < x.sk := by
  have hsorted : (newestFirst a.rows).Pairwise fun x y => decide (y.sk ≤ x.sk) = true := by
    refine List.pairwise_mergeSort ?_ ?_ a.rows
    · intro x y z hxy hyz
      rw [decide_eq_true_eq] at *
      exact hyz.trans hxy
    · intro x y
      rw [Bool.or_eq_true, decide_eq_true_eq, decide_eq_true_eq]
      exact le_total _ _
  have hkeys : (newestFirst a.rows).Pairwise fun x y => x.sk ≠ y.sk :=
    List.pairwise_map.1 (((newestFirst_perm a.rows).map _).nodup_iff.2 a.keys)
  refine (hsorted.and hkeys).imp fun h => ?_
  exact lt_of_le_of_ne (of_decide_eq_true h.1) h.2.symm

/-! ## Counting -/

/-- An outbound message of the channel, not older than `since`. -/
def SoulAgentCommActivity.counts (channelType : String) (since : Time) (a : SoulAgentCommActivity) : Bool :=
  !a.Timestamp.Before since && ToLower (TrimSpace a.Direction) == SoulCommDirectionOutbound &&
    ToLower (TrimSpace a.ChannelType) == channelType

def clampScan (scanLimit : Int) : Nat :=
  if scanLimit ≤ 0 then 250 else if 1000 < scanLimit then 1000 else scanLimit.toNat

def countSoulOutboundCommSince (s : CommStore) (fails : Bool) (agentIDHex channelType : String)
    (since : Time) (scanLimit : Int) : Except String Nat :=
  let agentIDHex := ToLower (TrimSpace agentIDHex)
  let channelType := ToLower (TrimSpace channelType)
  if agentIDHex = "" ∨ channelType = "" then .error "agent and channelType are required"
  else if fails then .error "read failed"
  else
    let items := (newestFirst (s.partition ("SOUL#AGENT#" ++ agentIDHex)).rows).take (clampScan scanLimit)
    .ok (items.countP (SoulAgentCommActivity.counts channelType since))

/-- The largest numbers of messages in an hour and in a day. -/
def CommChannel.limits : CommChannel → Nat × Nat
  | .sms => (20, 200)
  | .email | .voice => (50, 500)

def rateLimited : AppTheoryError := ⟨"comm.rate_limited", "rate limited"⟩

/-- The guard on the rate, before the other guards. -/
def enforceRateLimit (s : CommStore) (req : validatedSoulCommSendRequest) (now : Time) :
    Except AppTheoryError Unit :=
  match countSoulOutboundCommSince s s.hourFails req.agentIDHex req.channel.text (now.Add (-Hour)) 250 with
  | .error _ => .error internalError
  | .ok hourCount =>
      match countSoulOutboundCommSince s s.dayFails req.agentIDHex req.channel.text
          (now.Add (-24 * Hour)) 500 with
      | .error _ => .error internalError
      | .ok dayCount =>
          if req.channel.limits.1 ≤ hourCount ∨ req.channel.limits.2 ≤ dayCount then .error rateLimited
          else .ok ()

/-! ## What passes -/

section Guard

variable (s : CommStore) (req : validatedSoulCommSendRequest) (now : Time)

/-- All activities of the agent. -/
def history : List SoulAgentCommActivity :=
  (s.partition ("SOUL#AGENT#" ++ ToLower (TrimSpace req.agentIDHex))).rows

/-- The agent's messages on the channel in the last `d` nanoseconds. -/
def sent (d : Int) : Nat :=
  (history s req).countP (SoulAgentCommActivity.counts req.channel.text (now.Add (-d)))

/-- The message that reaches the limit has fewer than `scan` activities of the agent after it. -/
def LimitSeen (d : Int) (scan limit : Nat) : Prop :=
  Reached SoulAgentCommActivity.sk (SoulAgentCommActivity.counts req.channel.text (now.Add (-d))) scan limit
    (history s req)

/-- Where the count over the newest activities finds a limit that is reached. -/
def GuardSees : Prop :=
  s.hourFails = true ∨ s.dayFails = true ∨
    (sent s req now Hour < req.channel.limits.1 ∧ sent s req now (24 * Hour) < req.channel.limits.2) ∨
    LimitSeen s req now Hour 250 req.channel.limits.1 ∨
    LimitSeen s req now (24 * Hour) 500 req.channel.limits.2

end Guard

section Passes

variable {s : CommStore} {req : validatedSoulCommSendRequest} {now : Time}

theorem countSoulOutboundCommSince_eq (fails : Bool) (since : Time) (scanLimit : Int) :
    countSoulOutboundCommSince s fails req.agentIDHex req.channel.text since scanLimit =
      if fails then .error "read failed"
      else .ok (((newestFirst (history s req)).take (clampScan scanLimit)).countP
        (SoulAgentCommActivity.counts req.channel.text since)) := by
  obtain ⟨hchannel, hne⟩ := text_normalised req.channel
  have hblank : ¬ (ToLower (TrimSpace req.agentIDHex) = "" ∨ req.channel.text = "") :=
    not_or.2 ⟨req.agent, hne⟩
  simp only [countSoulOutboundCommSince, hchannel, if_neg hblank, history]

theorem limit_le_count {since : Time} {scan limit : Nat} (hlimit : limit ≠ 0) :
    limit ≤ ((newestFirst (history s req)).take scan).countP
        (SoulAgentCommActivity.counts req.channel.text since) ↔
      Reached SoulAgentCommActivity.sk (SoulAgentCommActivity.counts req.channel.text since) scan limit
        (history s req) := by
  rw [history, le_countP_take (newestFirst_sorted _), Reached.perm (newestFirst_perm _), or_iff_right hlimit]

theorem limits_pos (c : CommChannel) : c.limits.1 ≠ 0 ∧ c.limits.2 ≠ 0 := by
  cases c <;> decide

/-- The guard passes unless a read fails or a limit is seen. -/
theorem enforceRateLimit_ok :
    enforceRateLimit s req now = .ok () ↔ s.hourFails = false ∧ s.dayFails = false ∧
      ¬ LimitSeen s req now Hour 250 req.channel.limits.1 ∧
      ¬ LimitSeen s req now (24 * Hour) 500 req.channel.limits.2 := by
  obtain ⟨hhour, hday⟩ := limits_pos req.channel
  have hwindow : (-24 : Int) * Hour = -(24 * Hour) := by decide
  have hscan : clampScan 250 = 250 ∧ clampScan 500 = 500 := by decide
  rw [enforceRateLimit, countSoulOutboundCommSince_eq, countSoulOutboundCommSince_eq, hwindow]
  cases hfails : s.hourFails with
  | true => simp
  | false =>
      cases hfails' : s.dayFails with
      | true => simp
      | false =>
          simp only [Bool.false_eq_true, if_false, hscan, true_and, LimitSeen, ← not_or]
          split_ifs with hseen
          · rw [limit_le_count hhour, limit_le_count hday] at hseen
            exact iff_of_false (by simp) (not_not.2 hseen)
          · rw [limit_le_count hhour, limit_le_count hday] at hseen
            exact iff_of_true rfl hseen

/-- **The rate limit.** What passes the guard is below both limits exactly where the messages that reach a
limit are among the newest activities that are read. -/
theorem rate_limit_holds :
    (enforceRateLimit s req now = .ok () →
      sent s req now Hour < req.channel.limits.1 ∧ sent s req now (24 * Hour) < req.channel.limits.2) ↔
      GuardSees s req now := by
  rw [enforceRateLimit_ok, GuardSees]
  cases s.hourFails with
  | true => simp
  | false =>
      cases s.dayFails with
      | true => simp
      | false =>
          simp only [Bool.false_eq_true, false_or, true_and]
          tauto

end Passes

/-! ## Where a limit is passed over -/

/-- An email of the agent's partition, at `i` nanoseconds. -/
def emailAt (direction : String) (i : Nat) : SoulAgentCommActivity := ⟨"a", "email", direction, ⟨i, .utc⟩⟩

/-- Fifty messages went out, then 250 came in. -/
def floodedRows : List SoulAgentCommActivity :=
  (List.range 50).map (emailAt "outbound") ++ (List.range 250).map fun i => emailAt "inbound" (50 + i)

theorem sk_emailAt (direction direction' : String) (i j : Nat) :
    (emailAt direction i).sk < (emailAt direction' j).sk ↔ i < j := by
  simp only [SoulAgentCommActivity.sk, emailAt, Prod.Lex.toLex_lt_toLex, lt_self_iff_false, and_false,
    or_false, Int.ofNat_lt]

theorem floodedRows_keys : (floodedRows.map SoulAgentCommActivity.sk).Nodup := by
  have hinjective : Function.Injective fun i : Nat => (emailAt "" i).sk := by
    intro i j h
    have hij := mt (sk_emailAt "" "" i j).2 h.not_lt
    have hji := mt (sk_emailAt "" "" j i).2 h.symm.not_lt
    omega
  have hkeys : floodedRows.map SoulAgentCommActivity.sk =
      ((List.range 50) ++ (List.range 250).map (50 + ·)).map fun i : Nat => (emailAt "" i).sk := by
    rw [floodedRows, List.map_append, List.map_append, List.map_map, List.map_map, List.map_map]
    rfl
  have hrange : List.range 50 ++ (List.range 250).map (50 + ·) = List.range 300 :=
    List.range_add.symm
  rw [hkeys, hrange]
  exact List.Nodup.map hinjective List.nodup_range

def floodedStore : CommStore := ⟨fun _ => ⟨floodedRows, floodedRows_keys⟩, false, false⟩

theorem emailRequest_agent : ToLower (TrimSpace "0x01") ≠ "" := by decide +kernel

def emailRequest : validatedSoulCommSendRequest :=
  ⟨.email, "0x01", "b@example.com", [], [], "", "s", "b", "", "", "", "", "", emailRequest_agent⟩

theorem floodedStore_counts {d : Int} (hd : 300 ≤ d) (direction : String) (i : Nat) :
    (emailAt direction i).counts "email" ((⟨300, .utc⟩ : Time).Add (-d)) =
      (ToLower (TrimSpace direction) == SoulCommDirectionOutbound) := by
  have hchannel : (ToLower (TrimSpace "email") == "email") = true := by decide +kernel
  have htime : ((⟨i, .utc⟩ : Time).Before ((⟨300, .utc⟩ : Time).Add (-d))) = false := by
    rw [Time.Before, Time.Add, decide_eq_false_iff_not]
    dsimp only
    omega
  simp only [SoulAgentCommActivity.counts, emailAt, hchannel, htime, Bool.not_false, Bool.true_and,
    Bool.and_true]

theorem floodedStore_sent : 50 ≤ sent floodedStore emailRequest ⟨300, .utc⟩ Hour := by
  have hout : ((List.range 50).map (emailAt "outbound")).countP
      (SoulAgentCommActivity.counts "email" ((⟨300, .utc⟩ : Time).Add (-Hour))) = 50 := by
    rw [List.countP_eq_length.2, List.length_map, List.length_range]
    intro a ha
    obtain ⟨i, -, rfl⟩ := List.mem_map.1 ha
    rw [floodedStore_counts (by decide)]
    decide +kernel
  have hsent : sent floodedStore emailRequest ⟨300, .utc⟩ Hour = floodedRows.countP
      (SoulAgentCommActivity.counts "email" ((⟨300, .utc⟩ : Time).Add (-Hour))) := rfl
  rw [hsent, floodedRows, List.countP_append, hout]
  exact Nat.le_add_right _ _

/-- None of the fifty is among the newest 250, and so few reach no limit of a day. -/
theorem floodedStore_unseen {d : Int} (hd : 300 ≤ d) :
    ¬ LimitSeen floodedStore emailRequest ⟨300, .utc⟩ d 250 50 := by
  rintro ⟨a, ha, hcounts, -, hnewer⟩
  have hrows : a ∈ floodedRows := ha
  rw [floodedRows, List.mem_append] at hrows
  rcases hrows with hrows | hrows
  · obtain ⟨i, hi, rfl⟩ := List.mem_map.1 hrows
    have hall : ((List.range 250).map fun j => emailAt "inbound" (50 + j)).countP
        (fun b => decide ((emailAt "outbound" i).sk < b.sk)) = 250 := by
      rw [List.countP_eq_length.2, List.length_map, List.length_range]
      intro b hb
      obtain ⟨j, -, rfl⟩ := List.mem_map.1 hb
      have hlt := List.mem_range.1 hi
      rw [decide_eq_true_eq, sk_emailAt]
      omega
    have htotal : floodedRows.countP (fun b => decide ((emailAt "outbound" i).sk < b.sk)) < 250 := hnewer
    rw [floodedRows, List.countP_append, hall] at htotal
    omega
  · obtain ⟨j, -, rfl⟩ := List.mem_map.1 hrows
    have hin : (emailAt "inbound" (50 + j)).counts "email" ((⟨300, .utc⟩ : Time).Add (-d)) = true := hcounts
    rw [floodedStore_counts hd] at hin
    exact absurd hin (by decide +kernel)

/-- The limit of a day is larger than the whole history. -/
theorem floodedStore_day : ¬ LimitSeen floodedStore emailRequest ⟨300, .utc⟩ (24 * Hour) 500 500 := by
  intro h
  have hcount := Reached.le_countP h
  have hlength : (history floodedStore emailRequest).length = 300 := by
    change floodedRows.length = 300
    simp only [floodedRows, List.length_append, List.length_map, List.length_range]
  exact absurd (hcount.trans List.countP_le_length) (by rw [hlength]; decide)

theorem not_rate_limit_holds :
    ¬ ∀ (s : CommStore) (req : validatedSoulCommSendRequest) (now : Time),
      enforceRateLimit s req now = .ok () → sent s req now Hour < req.channel.limits.1 ∧
        sent s req now (24 * Hour) < req.channel.limits.2 := by
  intro h
  have hpass : enforceRateLimit floodedStore emailRequest ⟨300, .utc⟩ = .ok () :=
    enforceRateLimit_ok.2 ⟨rfl, rfl, floodedStore_unseen (by decide), floodedStore_day⟩
  exact absurd floodedStore_sent (not_le.2 (h _ _ _ hpass).1)

end LesserHost.SoulComm
