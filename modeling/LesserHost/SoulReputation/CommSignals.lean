import Mathlib.Algebra.Order.Field.Basic
import Mathlib.Algebra.Order.Field.Rat
import Mathlib.Data.List.Dedup
import Mathlib.Data.List.Nodup
import Mathlib.Data.List.Perm.Basic
import Mathlib.Data.List.Perm.Subperm
import Mathlib.Logic.Function.Basic
import LesserHost.Go.Text

set_option autoImplicit false

/-! # Communication signals

`computeCommunicationSignals` of the reputation worker: the recent communication activities of an
agent are counted by direction and channel, and a reply of the agent answers the message it refers
to. The time a message waits for its answer is taken from the first reply in the order of the
listing, which need not be the first in time, and the messages that can be answered are those of
every channel, while only those of three channels are counted (`signals_stable_iff`).

A nil item, which both loops skip, is left out; a `float64` is a rational number. -/

namespace LesserHost.SoulReputation

open LesserHost.Go

/-! ## Activities -/

structure SoulAgentCommActivity where
  ChannelType : String
  Direction : String
  Action : String
  MessageID : String
  InReplyTo : String
  BoundaryCheck : String
  Timestamp : Time
  deriving DecidableEq

structure communicationResult where
  score : Rat
  emailsSent : Nat
  emailsReceived : Nat
  smsSent : Nat
  smsReceived : Nat
  callsMade : Nat
  callsReceived : Nat
  boundaryViolations : Nat
  spamReports : Nat
  responseRate : Rat
  avgResponseTimeMinutes : Rat
  deriving DecidableEq

def communicationResult.empty : communicationResult := ⟨0, 0, 0, 0, 0, 0, 0, 0, 0, 0, 0⟩

def isInboundReceiveActivity (it : SoulAgentCommActivity) (cutoff : Time) : Bool :=
  if it.Timestamp.Before cutoff then false
  else ToLower (TrimSpace it.Direction) == "inbound" && ToLower (TrimSpace it.Action) == "receive"

def isOutboundSendActivity (it : SoulAgentCommActivity) (cutoff : Time) : Bool :=
  if it.Timestamp.Before cutoff then false
  else ToLower (TrimSpace it.Direction) == "outbound" && ToLower (TrimSpace it.Action) == "send"

def incrementInboundCommunication (result : communicationResult) (channel : String) :
    communicationResult :=
  if ToLower (TrimSpace channel) = "email" then
    { result with emailsReceived := result.emailsReceived + 1 }
  else if ToLower (TrimSpace channel) = "sms" then
    { result with smsReceived := result.smsReceived + 1 }
  else if ToLower (TrimSpace channel) = "voice" then
    { result with callsReceived := result.callsReceived + 1 }
  else result

def incrementOutboundCommunication (result : communicationResult) (channel : String) :
    communicationResult :=
  if ToLower (TrimSpace channel) = "email" then { result with emailsSent := result.emailsSent + 1 }
  else if ToLower (TrimSpace channel) = "sms" then { result with smsSent := result.smsSent + 1 }
  else if ToLower (TrimSpace channel) = "voice" then { result with callsMade := result.callsMade + 1 }
  else result

/-- The times of the inbound messages by their ids. -/
abbrev InboundAt := String → Option Time

def recordInboundTimestamp (inboundAt : InboundAt) (messageID : String) (ts : Time) : InboundAt :=
  if messageID = "" then inboundAt
  else
    match inboundAt messageID with
    | none => Function.update inboundAt messageID (some ts)
    | some existing =>
        if ts.Before existing then Function.update inboundAt messageID (some ts) else inboundAt

def inboundStep (cutoff : Time) (s : communicationResult × InboundAt) (it : SoulAgentCommActivity) :
    communicationResult × InboundAt :=
  if isInboundReceiveActivity it cutoff then
    (incrementInboundCommunication s.1 it.ChannelType,
      recordInboundTimestamp s.2 (TrimSpace it.MessageID) it.Timestamp)
  else s

def summarizeInboundCommunication (items : List SoulAgentCommActivity) (cutoff : Time) :
    communicationResult × InboundAt :=
  items.foldl (inboundStep cutoff) (communicationResult.empty, fun _ => none)

/-- The ids in `responded`, each with the duration that was appended for it. -/
abbrev Responses := List (String × Int)

def responseDurationForActivity (it : SoulAgentCommActivity) (inboundAt : InboundAt)
    (responded : Responses) : Option (String × Int) :=
  let replyTo := TrimSpace it.InReplyTo
  if replyTo = "" then none
  else
    match inboundAt replyTo with
    | none => none
    | some start =>
        if it.Timestamp.After start = false then none
        else if replyTo ∈ responded.map Prod.fst then none
        else some (replyTo, it.Timestamp.Sub start)

def outboundCount (cutoff : Time) (result : communicationResult) (it : SoulAgentCommActivity) :
    communicationResult :=
  if isOutboundSendActivity it cutoff then
    let result := incrementOutboundCommunication result it.ChannelType
    if ToLower (TrimSpace it.BoundaryCheck) = "violated" then
      { result with boundaryViolations := result.boundaryViolations + 1 }
    else result
  else result

def respond (inboundAt : InboundAt) (cutoff : Time) (responded : Responses)
    (it : SoulAgentCommActivity) : Responses :=
  if isOutboundSendActivity it cutoff then
    match responseDurationForActivity it inboundAt responded with
    | some response => responded ++ [response]
    | none => responded
  else responded

def summarizeOutboundCommunication (items : List SoulAgentCommActivity) (cutoff : Time)
    (result : communicationResult) (inboundAt : InboundAt) : communicationResult × Responses :=
  items.foldl (fun s it => (outboundCount cutoff s.1 it, respond inboundAt cutoff s.2 it)) (result, [])

def clamp01 (x : Rat) : Rat := if x < 0 then 0 else if 1 < x then 1 else x

/-- The sum of the durations in minutes, by their number. -/
def averageResponseMinutes (durations : List Int) : Rat :=
  if durations.length = 0 then 0
  else (durations.foldl (fun sum d => int64 (sum + d)) 0 : Int) / (Minute : Rat) / durations.length

def scoreCommunicationResult (exp : Rat → Rat) (result : communicationResult) (totalInbound : Nat) :
    Rat :=
  let score : Rat := 1 / 2
  let score :=
    if 0 < totalInbound then
      let timeScore :=
        if 0 < result.responseRate ∧ 0 < result.avgResponseTimeMinutes then
          exp (-result.avgResponseTimeMinutes / 60)
        else if 0 < result.responseRate then 1
        else 0
      score + 4 / 10 * clamp01 result.responseRate + 3 / 10 * clamp01 timeScore
    else score
  clamp01 (score - 1 / 10 * result.boundaryViolations)

def totalInbound (result : communicationResult) : Nat :=
  result.emailsReceived + result.smsReceived + result.callsReceived

def finalizeCommunicationResult (exp : Rat → Rat) (result : communicationResult)
    (responses : Responses) : communicationResult :=
  let result := if 0 < totalInbound result then
    { result with responseRate := (responses.length : Rat) / totalInbound result } else result
  let result :=
    { result with avgResponseTimeMinutes := averageResponseMinutes (responses.map Prod.snd) }
  { result with
    score := scoreCommunicationResult exp result (totalInbound result), spamReports := 0 }

section Signals

variable (exp : Rat → Rat) (items : List SoulAgentCommActivity) (cutoff : Time)

def inboundAt : InboundAt := (summarizeInboundCommunication items cutoff).2

def responses : Responses :=
  (summarizeOutboundCommunication items cutoff (summarizeInboundCommunication items cutoff).1
    (inboundAt items cutoff)).2

/-- `computeCommunicationSignals` of the listed activities. -/
def communicationSignals : communicationResult :=
  finalizeCommunicationResult exp
    (summarizeOutboundCommunication items cutoff (summarizeInboundCommunication items cutoff).1
      (inboundAt items cutoff)).1
    (responses items cutoff)

/-! ## What the signals should say -/

/-- `it` is a message of the id from the counted period. -/
structure IsMessage (id : String) (it : SoulAgentCommActivity) : Prop where
  mem : it ∈ items
  inbound : isInboundReceiveActivity it cutoff = true
  id_eq : TrimSpace it.MessageID = id

/-- The instant of the first message of the id. -/
def IsStart (id : String) (start : Int) : Prop :=
  (∃ it, IsMessage items cutoff id it ∧ it.Timestamp.nanos = start) ∧
    ∀ it, IsMessage items cutoff id it → start ≤ it.Timestamp.nanos

/-- `it` answers the messages of the id, the first of which is of the instant `start`. -/
structure IsReply (id : String) (start : Int) (it : SoulAgentCommActivity) : Prop where
  mem : it ∈ items
  outbound : isOutboundSendActivity it cutoff = true
  refers : TrimSpace it.InReplyTo = id
  named : id ≠ ""
  started : IsStart items cutoff id start
  later : start < it.Timestamp.nanos

/-- How long it took, as a `time.Duration`, which ends at 2^63 nanoseconds. -/
def waited (start : Int) (it : SoulAgentCommActivity) : Int :=
  max (-2 ^ 63) (min (2 ^ 63 - 1) (it.Timestamp.nanos - start))

/-- The signals are those of the activities, in whatever order they are listed: the response time is
that of the first reply, no message is answered twice, and no more of them than are counted. -/
structure SignalsStable : Prop where
  order : ∀ items', items'.Perm items →
    communicationSignals exp items' cutoff = communicationSignals exp items cutoff
  first : ∀ items', items'.Perm items → ∀ id d, (id, d) ∈ responses items' cutoff →
    ∃ start it, IsReply items cutoff id start it ∧ d = waited start it ∧
      ∀ it', IsReply items cutoff id start it' → it.Timestamp.nanos ≤ it'.Timestamp.nanos
  once : ((responses items cutoff).map Prod.fst).Nodup
  bounded : (responses items cutoff).length ≤ totalInbound (communicationSignals exp items cutoff)
  rates : 0 ≤ (communicationSignals exp items cutoff).responseRate ∧
    (communicationSignals exp items cutoff).responseRate ≤ 1 ∧
    0 ≤ (communicationSignals exp items cutoff).score ∧
    (communicationSignals exp items cutoff).score ≤ 1

end Signals

/-! ## Where they say it -/

/-- The instants of the first messages, as the code has them. -/
def starts (items : List SoulAgentCommActivity) (cutoff : Time) (id : String) : Option Int :=
  (inboundAt items cutoff id).map Time.nanos

/-- The id an outbound message answers, and after which time. -/
def replyOf (starts : String → Option Int) (cutoff : Time) (it : SoulAgentCommActivity) :
    Option (String × Int) :=
  if isOutboundSendActivity it cutoff = true ∧ TrimSpace it.InReplyTo ≠ "" then
    match starts (TrimSpace it.InReplyTo) with
    | none => none
    | some start =>
        if start < it.Timestamp.nanos then some (TrimSpace it.InReplyTo, waited start it) else none
  else none

section Condition

variable (items : List SoulAgentCommActivity) (cutoff : Time)

/-- A received message of one of the three channels. -/
def isCounted (it : SoulAgentCommActivity) : Bool :=
  isInboundReceiveActivity it cutoff &&
    ["email", "sms", "voice"].contains (ToLower (TrimSpace it.ChannelType))

/-- The ids of the messages that have a reply. -/
def answeredIds : List String :=
  ((items.filterMap (replyOf (starts items cutoff) cutoff)).map Prod.fst).dedup

/-- A message of the id came over one of the three channels. -/
def hasCounted (id : String) : Bool :=
  items.any fun it => isCounted cutoff it && TrimSpace it.MessageID == id

/-- All replies to a message took the same time; and the answered messages of other channels are no
more than the counted ones that are left when one is taken for each answered message of the three. -/
structure RepliesClear : Prop where
  replies : ∀ id start a b, IsReply items cutoff id start a → IsReply items cutoff id start b →
    waited start a = waited start b
  channels : ((answeredIds items cutoff).filter fun id => !hasCounted items cutoff id).length ≤
    items.countP (isCounted cutoff) -
      ((answeredIds items cutoff).filter (hasCounted items cutoff)).length

end Condition

/-! ## First come, first kept -/

section FirstKept

variable {α β : Type} [DecidableEq α]

/-- Keep the pair unless its key is taken. -/
def keepFirst (kept : List (α × β)) (new : α × β) : List (α × β) :=
  if new.1 ∈ kept.map Prod.fst then kept else kept ++ [new]

variable {kept pairs : List (α × β)} {p : α × β}

theorem nodup_keepFirst (h : (kept.map Prod.fst).Nodup) (new : α × β) :
    ((keepFirst kept new).map Prod.fst).Nodup := by
  unfold keepFirst
  split_ifs with hmem
  · exact h
  · rw [List.map_append, List.map_cons, List.map_nil]
    refine List.nodup_append.2 ⟨h, List.nodup_singleton _, fun a ha b hb => ?_⟩
    rw [List.mem_singleton.1 hb]
    exact fun hab => hmem (hab ▸ ha)

theorem nodup_foldl_keepFirst (h : (kept.map Prod.fst).Nodup) :
    ((pairs.foldl keepFirst kept).map Prod.fst).Nodup := by
  induction pairs generalizing kept with
  | nil => exact h
  | cons new pairs ih =>
      rw [List.foldl_cons]
      exact ih (nodup_keepFirst h new)

theorem mem_foldl_keepFirst_of_mem (h : p ∈ kept) : p ∈ pairs.foldl keepFirst kept := by
  induction pairs generalizing kept with
  | nil => exact h
  | cons new pairs ih =>
      rw [List.foldl_cons]
      refine ih ?_
      unfold keepFirst
      split_ifs
      · exact h
      · exact List.mem_append_left _ h

theorem mem_of_mem_foldl_keepFirst (h : p ∈ pairs.foldl keepFirst kept) : p ∈ kept ∨ p ∈ pairs := by
  induction pairs generalizing kept with
  | nil => exact Or.inl h
  | cons new pairs ih =>
      rw [List.foldl_cons] at h
      rcases ih h with hkept | hpairs
      · unfold keepFirst at hkept
        split_ifs at hkept
        · exact Or.inl hkept
        · rcases List.mem_append.1 hkept with hkept | hnew
          · exact Or.inl hkept
          · rw [List.mem_singleton.1 hnew]
            exact Or.inr List.mem_cons_self
      · exact Or.inr (List.mem_cons_of_mem _ hpairs)

/-- Every key is kept, with the value it came with first. -/
theorem key_mem_foldl_keepFirst (h : p ∈ pairs) :
    p.1 ∈ (pairs.foldl keepFirst kept).map Prod.fst := by
  induction pairs generalizing kept with
  | nil => exact absurd h List.not_mem_nil
  | cons new pairs ih =>
      rw [List.foldl_cons]
      rcases List.mem_cons.1 h with hnew | hpairs
      · rw [hnew]
        by_cases htaken : new.1 ∈ kept.map Prod.fst
        · obtain ⟨q, hq, hkey⟩ := List.mem_map.1 htaken
          rw [← hkey]
          refine List.mem_map_of_mem (mem_foldl_keepFirst_of_mem ?_)
          rw [keepFirst, if_pos htaken]
          exact hq
        · refine List.mem_map_of_mem (mem_foldl_keepFirst_of_mem ?_)
          rw [keepFirst, if_neg htaken]
          exact List.mem_append_right _ List.mem_cons_self
      · exact ih hpairs

/-- Where a key always comes with one value, the order of coming does not matter. -/
theorem perm_foldl_keepFirst {pairs' : List (α × β)} (hperm : pairs'.Perm pairs)
    (hone : ∀ p ∈ pairs, ∀ q ∈ pairs, p.1 = q.1 → p.2 = q.2) :
    (pairs'.foldl keepFirst []).Perm (pairs.foldl keepFirst []) := by
  have hkeys : ∀ l : List (α × β), ((l.foldl keepFirst []).map Prod.fst).Nodup := fun l =>
    nodup_foldl_keepFirst List.nodup_nil
  have hmem : ∀ l : List (α × β), (∀ p ∈ l, ∀ q ∈ l, p.1 = q.1 → p.2 = q.2) →
      ∀ p, p ∈ l.foldl keepFirst [] ↔ p ∈ l := by
    intro l hl p
    constructor
    · intro hp
      exact (mem_of_mem_foldl_keepFirst hp).resolve_left List.not_mem_nil
    · intro hp
      obtain ⟨q, hq, hkey⟩ := List.mem_map.1 (key_mem_foldl_keepFirst hp)
      have hq' := (mem_of_mem_foldl_keepFirst hq).resolve_left List.not_mem_nil
      have hval := hl q hq' p hp hkey
      rw [← Prod.ext hkey hval]
      exact hq
  rw [List.perm_ext_iff_of_nodup (List.Nodup.of_map Prod.fst (hkeys pairs'))
    (List.Nodup.of_map Prod.fst (hkeys pairs))]
  intro p
  rw [hmem pairs hone, hmem pairs' fun p hp q hq => hone p (hperm.mem_iff.1 hp) q (hperm.mem_iff.1 hq)]
  exact hperm.mem_iff

end FirstKept

/-! ## Messages -/

/-- The earlier of two times; the one that stands, if they are the same. -/
def earlier (existing : Option Time) (ts : Time) : Option Time :=
  match existing with
  | none => some ts
  | some existing => if ts.Before existing then some ts else some existing

theorem foldl_earlier (times : List Time) (o : Option Time) :
    (times.foldl earlier o = none → o = none ∧ times = []) ∧
    ∀ t, times.foldl earlier o = some t →
      (o = some t ∨ t ∈ times) ∧ (∀ u, o = some u → t.nanos ≤ u.nanos) ∧
        ∀ u ∈ times, t.nanos ≤ u.nanos := by
  induction times generalizing o with
  | nil =>
      refine ⟨fun h => ⟨h, rfl⟩, fun t h => ⟨Or.inl h, fun u hu => ?_, fun u hu => ?_⟩⟩
      · rw [Option.some.inj (hu.symm.trans h)]
      · exact absurd hu List.not_mem_nil
  | cons ts times ih =>
      rw [List.foldl_cons]
      obtain ⟨hnone, hsome⟩ := ih (earlier o ts)
      have hstep : ∃ v, earlier o ts = some v ∧ (o = some v ∨ v = ts) ∧ v.nanos ≤ ts.nanos ∧
          ∀ u, o = some u → v.nanos ≤ u.nanos := by
        cases o with
        | none => exact ⟨ts, rfl, Or.inr rfl, le_rfl, fun u hu => absurd hu (by simp)⟩
        | some existing =>
            by_cases hbefore : ts.Before existing = true
            · have hlt : ts.nanos < existing.nanos := of_decide_eq_true hbefore
              refine ⟨ts, by simp only [earlier, hbefore, if_true], Or.inr rfl, le_rfl, fun u hu => ?_⟩
              rw [← Option.some.inj hu]
              exact hlt.le
            · have hle : existing.nanos ≤ ts.nanos :=
                not_lt.1 fun hlt => hbefore (decide_eq_true hlt)
              refine ⟨existing, by simp only [earlier, if_neg hbefore], Or.inl rfl, hle, fun u hu => ?_⟩
              rw [← Option.some.inj hu]
      obtain ⟨v, hv, hfrom, hvts, hvo⟩ := hstep
      rw [hv] at hnone hsome
      refine ⟨fun h => absurd (hnone (hv ▸ h)).1 (by simp), fun t h => ?_⟩
      obtain ⟨hmem, hle, hall⟩ := hsome t (hv ▸ h)
      have htv := hle v rfl
      refine ⟨?_, fun u hu => htv.trans (hvo u hu), fun u hu => ?_⟩
      · rcases hmem with hmem | hmem
        · rcases hfrom with ho | hts
          · exact Or.inl (ho.trans hmem)
          · rw [hts] at hmem
            rw [Option.some.inj hmem]
            exact Or.inr List.mem_cons_self
        · exact Or.inr (List.mem_cons_of_mem _ hmem)
      · rcases List.mem_cons.1 hu with hu | hu
        · rw [hu]
          exact htv.trans hvts
        · exact hall u hu

section Messages

variable {items items' : List SoulAgentCommActivity} {cutoff : Time} {id : String}

def isMessage (cutoff : Time) (id : String) (it : SoulAgentCommActivity) : Bool :=
  isInboundReceiveActivity it cutoff && TrimSpace it.MessageID == id

theorem recordInboundTimestamp_self (hid : id ≠ "") (m : InboundAt) (ts : Time) :
    recordInboundTimestamp m id ts id = earlier (m id) ts := by
  cases hexisting : m id with
  | none =>
      simp only [recordInboundTimestamp, if_neg hid, hexisting]
      exact Function.update_self ..
  | some existing =>
      simp only [recordInboundTimestamp, if_neg hid, hexisting, earlier]
      split_ifs
      · exact Function.update_self ..
      · exact hexisting

theorem recordInboundTimestamp_of_ne {messageID : String} (hne : messageID ≠ id) (m : InboundAt)
    (ts : Time) : recordInboundTimestamp m messageID ts id = m id := by
  unfold recordInboundTimestamp
  split_ifs with hempty
  · rfl
  · cases m messageID with
    | none => exact Function.update_of_ne (Ne.symm hne) ..
    | some existing =>
        simp only
        split_ifs
        · exact Function.update_of_ne (Ne.symm hne) ..
        · rfl

theorem inboundStep_at (hid : id ≠ "") (s : communicationResult × InboundAt)
    (it : SoulAgentCommActivity) : (inboundStep cutoff s it).2 id =
      if isMessage cutoff id it then earlier (s.2 id) it.Timestamp else s.2 id := by
  unfold inboundStep isMessage
  cases isInboundReceiveActivity it cutoff with
  | false => simp only [Bool.false_and, Bool.false_eq_true, if_false]
  | true =>
      rw [if_pos rfl, Bool.true_and]
      by_cases heq : TrimSpace it.MessageID = id
      · rw [heq, beq_self_eq_true, if_pos rfl]
        exact recordInboundTimestamp_self hid _ _
      · rw [beq_eq_false_iff_ne.2 heq, if_neg Bool.false_ne_true]
        exact recordInboundTimestamp_of_ne heq _ _

theorem inboundAt_eq (hid : id ≠ "") : inboundAt items cutoff id =
    ((items.filter (isMessage cutoff id)).map SoulAgentCommActivity.Timestamp).foldl earlier none := by
  have hfold : ∀ (l : List SoulAgentCommActivity) (s : communicationResult × InboundAt),
      (l.foldl (inboundStep cutoff) s).2 id =
        ((l.filter (isMessage cutoff id)).map SoulAgentCommActivity.Timestamp).foldl earlier (s.2 id) := by
    intro l
    induction l with
    | nil => exact fun s => rfl
    | cons it l ih =>
        intro s
        rw [List.foldl_cons, ih, inboundStep_at hid]
        by_cases hmsg : isMessage cutoff id it = true
        · rw [if_pos hmsg, List.filter_cons_of_pos hmsg, List.map_cons, List.foldl_cons]
        · rw [if_neg hmsg, List.filter_cons_of_neg hmsg]
  exact hfold items _

theorem isMessage_iff {it : SoulAgentCommActivity} :
    it ∈ items.filter (isMessage cutoff id) ↔ IsMessage items cutoff id it := by
  rw [List.mem_filter, isMessage, Bool.and_eq_true, beq_iff_eq]
  exact ⟨fun h => ⟨h.1, h.2.1, h.2.2⟩, fun h => ⟨h.mem, h.inbound, h.id_eq⟩⟩

/-- The code has the instant of the first message of each id. -/
theorem starts_eq_some_iff (hid : id ≠ "") {start : Int} :
    starts items cutoff id = some start ↔ IsStart items cutoff id start := by
  obtain ⟨hnone, hsome⟩ := foldl_earlier
    ((items.filter (isMessage cutoff id)).map SoulAgentCommActivity.Timestamp) none
  rw [← inboundAt_eq hid] at hnone
  have hfirst : ∀ t, inboundAt items cutoff id = some t → IsStart items cutoff id t.nanos := by
    intro t ht
    rw [inboundAt_eq hid] at ht
    obtain ⟨hmem, -, hle⟩ := hsome t ht
    obtain ⟨it, hit, htime⟩ := List.mem_map.1 (hmem.resolve_left (by simp))
    refine ⟨⟨it, isMessage_iff.1 hit, by rw [htime]⟩, fun it' hit' => ?_⟩
    exact hle _ (List.mem_map_of_mem (isMessage_iff.2 hit'))
  constructor
  · intro h
    obtain ⟨t, ht, hnanos⟩ := Option.map_eq_some_iff.1 h
    rw [← hnanos]
    exact hfirst t ht
  · rintro ⟨⟨it, hit, htime⟩, hle⟩
    cases hat : inboundAt items cutoff id with
    | none =>
        have hnil := (hnone hat).2
        rw [List.map_eq_nil_iff] at hnil
        have hmem := isMessage_iff.2 hit
        rw [hnil] at hmem
        exact absurd hmem List.not_mem_nil
    | some t =>
        obtain ⟨⟨it', hit', htime'⟩, hle'⟩ := hfirst t hat
        rw [starts, hat, Option.map_some]
        refine congrArg some (le_antisymm ?_ ?_)
        · rw [← htime]
          exact hle' it hit
        · rw [← htime']
          exact hle it' hit'

theorem IsMessage.perm (hperm : items'.Perm items) {it : SoulAgentCommActivity} :
    IsMessage items' cutoff id it ↔ IsMessage items cutoff id it :=
  ⟨fun h => ⟨hperm.mem_iff.1 h.mem, h.inbound, h.id_eq⟩,
    fun h => ⟨hperm.mem_iff.2 h.mem, h.inbound, h.id_eq⟩⟩

theorem IsStart.perm (hperm : items'.Perm items) {start : Int} :
    IsStart items' cutoff id start ↔ IsStart items cutoff id start := by
  simp only [IsStart, IsMessage.perm hperm]

theorem starts_perm (hperm : items'.Perm items) (hid : id ≠ "") :
    starts items' cutoff id = starts items cutoff id := by
  refine Option.ext fun start => ?_
  rw [starts_eq_some_iff hid, starts_eq_some_iff hid, IsStart.perm hperm]

end Messages

/-! ## Replies -/

section Replies

variable {items items' : List SoulAgentCommActivity} {cutoff : Time} {id : String}

theorem respond_eq (m : InboundAt) (responded : Responses) (it : SoulAgentCommActivity) :
    respond m cutoff responded it =
      ((replyOf (fun id => (m id).map Time.nanos) cutoff it).toList).foldl keepFirst responded := by
  unfold respond replyOf responseDurationForActivity
  by_cases hout : isOutboundSendActivity it cutoff = true
  · rw [if_pos hout]
    by_cases hempty : TrimSpace it.InReplyTo = ""
    · simp only [hempty, if_true, ne_eq, not_true_eq_false, and_false, if_false, Option.toList_none,
        List.foldl_nil]
    · simp only [hout, hempty, if_false, ne_eq, not_false_eq_true, and_self, if_true]
      cases hstart : m (TrimSpace it.InReplyTo) with
      | none => simp only [Option.map_none, Option.toList_none, List.foldl_nil]
      | some start =>
          simp only [Option.map_some]
          by_cases hafter : start.nanos < it.Timestamp.nanos
          · have htrue : it.Timestamp.After start = true := decide_eq_true hafter
            simp only [htrue, Bool.true_eq_false, if_false, if_pos hafter, Option.toList_some,
              List.foldl_cons, List.foldl_nil, keepFirst]
            split_ifs
            · rfl
            · rfl
          · have hfalse : it.Timestamp.After start = false := decide_eq_false hafter
            simp only [hfalse, if_true, if_neg hafter, Option.toList_none, List.foldl_nil]
  · have hnone : ¬ (isOutboundSendActivity it cutoff = true ∧ TrimSpace it.InReplyTo ≠ "") :=
      fun h => hout h.1
    rw [if_neg hout, if_neg hnone, Option.toList_none, List.foldl_nil]

/-- The pairs that are kept are the first for their ids among those of the replies. -/
theorem responses_eq : responses items cutoff =
    (items.filterMap (replyOf (starts items cutoff) cutoff)).foldl keepFirst [] := by
  have hfold : ∀ (l : List SoulAgentCommActivity) (r : communicationResult) (R : Responses),
      (l.foldl (fun s it => (outboundCount cutoff s.1 it, respond (inboundAt items cutoff) cutoff s.2 it))
        (r, R)).2 = (l.filterMap (replyOf (starts items cutoff) cutoff)).foldl keepFirst R := by
    intro l
    induction l with
    | nil => exact fun r R => rfl
    | cons it l ih =>
        intro r R
        rw [List.foldl_cons, ih, respond_eq]
        have hstarts : (fun id => (inboundAt items cutoff id).map Time.nanos) = starts items cutoff := rfl
        rw [hstarts]
        cases hreply : replyOf (starts items cutoff) cutoff it with
        | none =>
            rw [List.filterMap_cons_none hreply]
            rfl
        | some p =>
            rw [List.filterMap_cons_some hreply]
            rfl
  exact hfold items _ _

/-- A reply of the list, with its id and time. -/
theorem replyOf_iff {it : SoulAgentCommActivity} {d : Int} (hit : it ∈ items) :
    replyOf (starts items cutoff) cutoff it = some (id, d) ↔
      ∃ start, IsReply items cutoff id start it ∧ d = waited start it := by
  unfold replyOf
  constructor
  · intro h
    split_ifs at h with hout
    cases hstart : starts items cutoff (TrimSpace it.InReplyTo) with
    | none =>
        rw [hstart] at h
        cases h
    | some start =>
        rw [hstart] at h
        simp only at h
        split_ifs at h with hlater
        obtain ⟨hid, hd⟩ := Prod.mk.inj (Option.some.inj h)
        have hstart' := (starts_eq_some_iff hout.2).1 hstart
        rw [hid] at hstart' hout
        exact ⟨start, ⟨hit, hout.1, hid, hout.2, hstart', hlater⟩, hd.symm⟩
  · rintro ⟨start, h, hd⟩
    have hstart := (starts_eq_some_iff h.named).2 h.started
    have hnamed : TrimSpace it.InReplyTo ≠ "" := by
      rw [h.refers]
      exact h.named
    rw [if_pos ⟨h.outbound, hnamed⟩, h.refers, hstart]
    simp only [if_pos h.later, hd]

theorem mem_replies_iff {d : Int} :
    (id, d) ∈ items.filterMap (replyOf (starts items cutoff) cutoff) ↔
      ∃ start it, IsReply items cutoff id start it ∧ d = waited start it := by
  rw [List.mem_filterMap]
  constructor
  · rintro ⟨it, hit, h⟩
    obtain ⟨start, hreply, hd⟩ := (replyOf_iff hit).1 h
    exact ⟨start, it, hreply, hd⟩
  · rintro ⟨start, it, hreply, hd⟩
    exact ⟨it, hreply.mem, (replyOf_iff hreply.mem).2 ⟨start, hreply, hd⟩⟩

theorem IsStart.unique {a b : Int} (ha : IsStart items cutoff id a) (hb : IsStart items cutoff id b) :
    a = b := by
  obtain ⟨⟨it, hit, htime⟩, hle⟩ := ha
  obtain ⟨⟨it', hit', htime'⟩, hle'⟩ := hb
  refine le_antisymm ?_ ?_
  · rw [← htime']
    exact hle it' hit'
  · rw [← htime]
    exact hle' it hit

theorem IsReply.perm (hperm : items'.Perm items) {start : Int} {it : SoulAgentCommActivity} :
    IsReply items' cutoff id start it ↔ IsReply items cutoff id start it :=
  ⟨fun h => ⟨hperm.mem_iff.1 h.mem, h.outbound, h.refers, h.named, (IsStart.perm hperm).1 h.started,
      h.later⟩,
    fun h => ⟨hperm.mem_iff.2 h.mem, h.outbound, h.refers, h.named, (IsStart.perm hperm).2 h.started,
      h.later⟩⟩

theorem replies_perm (hperm : items'.Perm items) :
    (items'.filterMap (replyOf (starts items' cutoff) cutoff)).Perm
      (items.filterMap (replyOf (starts items cutoff) cutoff)) := by
  have hsame : replyOf (starts items' cutoff) cutoff = replyOf (starts items cutoff) cutoff := by
    funext it
    unfold replyOf
    by_cases hout : isOutboundSendActivity it cutoff = true ∧ TrimSpace it.InReplyTo ≠ ""
    · rw [if_pos hout, if_pos hout, starts_perm hperm hout.2]
    · rw [if_neg hout, if_neg hout]
  rw [hsame]
  exact hperm.filterMap _

theorem responses_nodup : ((responses items cutoff).map Prod.fst).Nodup := by
  rw [responses_eq]
  exact nodup_foldl_keepFirst List.nodup_nil

/-- All replies to a message took the same time. -/
def OneTime (items : List SoulAgentCommActivity) (cutoff : Time) : Prop :=
  ∀ id start a b, IsReply items cutoff id start a → IsReply items cutoff id start b →
    waited start a = waited start b

theorem responses_perm (hone : OneTime items cutoff) (hperm : items'.Perm items) :
    (responses items' cutoff).Perm (responses items cutoff) := by
  rw [responses_eq, responses_eq]
  refine perm_foldl_keepFirst (replies_perm hperm) ?_
  rintro ⟨id, d⟩ hp ⟨id', d'⟩ hq hkey
  obtain ⟨start, a, ha, hd⟩ := mem_replies_iff.1 hp
  obtain ⟨start', b, hb, hd'⟩ := mem_replies_iff.1 hq
  have hid : id = id' := hkey
  rw [← hid] at hb
  have hstart := ha.started.unique hb.started
  rw [← hstart] at hb hd'
  exact hd.trans ((hone id start a b ha hb).trans hd'.symm)

theorem waited_mono {start : Int} {a b : SoulAgentCommActivity}
    (h : a.Timestamp.nanos ≤ b.Timestamp.nanos) : waited start a ≤ waited start b := by
  unfold waited
  omega

/-- Among the replies to a message there is a first one. -/
theorem exists_first {start : Int} {it : SoulAgentCommActivity}
    (h : IsReply items cutoff id start it) : ∃ a, IsReply items cutoff id start a ∧
      ∀ b, IsReply items cutoff id start b → a.Timestamp.nanos ≤ b.Timestamp.nanos := by
  have hpos : ∀ b, IsReply items cutoff id start b → 0 ≤ b.Timestamp.nanos - start := fun b hb => by
    have := hb.later
    omega
  obtain ⟨n, hn⟩ : ∃ n : Nat, ∃ a, IsReply items cutoff id start a ∧
      (a.Timestamp.nanos - start).toNat = n := ⟨_, it, h, rfl⟩
  induction n using Nat.strong_induction_on with
  | _ n ih =>
      obtain ⟨a, ha, han⟩ := hn
      by_cases hfirst : ∀ b, IsReply items cutoff id start b → a.Timestamp.nanos ≤ b.Timestamp.nanos
      · exact ⟨a, ha, hfirst⟩
      · obtain ⟨b, hb⟩ := not_forall.1 hfirst
        obtain ⟨hreply, hlt⟩ := Classical.not_imp.1 hb
        have ha₀ := hpos a ha
        have hb₀ := hpos b hreply
        exact ih _ (by omega) ⟨b, hreply, rfl⟩

theorem first_iff : (∀ items', items'.Perm items → ∀ id d, (id, d) ∈ responses items' cutoff →
      ∃ start it, IsReply items cutoff id start it ∧ d = waited start it ∧
        ∀ it', IsReply items cutoff id start it' → it.Timestamp.nanos ≤ it'.Timestamp.nanos) ↔
    OneTime items cutoff := by
  constructor
  · intro h
    -- each reply is the first one in some order of the listing
    have hhead : ∀ id start a, IsReply items cutoff id start a →
        ∃ it, IsReply items cutoff id start it ∧ waited start a = waited start it ∧
          ∀ it', IsReply items cutoff id start it' → it.Timestamp.nanos ≤ it'.Timestamp.nanos := by
      intro id start a ha
      have hperm : (a :: items.erase a).Perm items := (List.perm_cons_erase ha.mem).symm
      have hmem : (id, waited start a) ∈ responses (a :: items.erase a) cutoff := by
        have hreply := (replyOf_iff List.mem_cons_self).2
          ⟨start, (IsReply.perm hperm).2 ha, rfl⟩
        rw [responses_eq, List.filterMap_cons_some hreply, List.foldl_cons]
        exact mem_foldl_keepFirst_of_mem (by simp [keepFirst])
      obtain ⟨start', it, hit, hd, hfirst⟩ := h _ hperm id _ hmem
      have hstart := ha.started.unique hit.started
      rw [← hstart] at hit hd hfirst
      exact ⟨it, hit, hd, hfirst⟩
    intro id start a b ha hb
    obtain ⟨it, hit, hd, hfirst⟩ := hhead id start a ha
    obtain ⟨it', hit', hd', hfirst'⟩ := hhead id start b hb
    rw [hd, hd']
    exact le_antisymm (waited_mono (hfirst it' hit')) (waited_mono (hfirst' it hit))
  · intro hone items' hperm id d hmem
    rw [responses_eq] at hmem
    have hmem' := (mem_of_mem_foldl_keepFirst hmem).resolve_left List.not_mem_nil
    obtain ⟨start, it, hit, hd⟩ := mem_replies_iff.1 hmem'
    rw [IsReply.perm hperm] at hit
    obtain ⟨a, ha, hfirst⟩ := exists_first hit
    exact ⟨start, a, ha, hd.trans (hone id start it a hit ha), hfirst⟩

end Replies

/-! ## Counts -/

section Counts

variable {items items' : List SoulAgentCommActivity} {cutoff : Time}

def inboundCount (cutoff : Time) (result : communicationResult) (it : SoulAgentCommActivity) :
    communicationResult :=
  if isInboundReceiveActivity it cutoff then incrementInboundCommunication result it.ChannelType
  else result

theorem inboundStep_fst (s : communicationResult × InboundAt) (it : SoulAgentCommActivity) :
    (inboundStep cutoff s it).1 = inboundCount cutoff s.1 it := by
  unfold inboundStep inboundCount
  cases isInboundReceiveActivity it cutoff with
  | false => simp only [Bool.false_eq_true, if_false]
  | true => simp only [if_true]

theorem summarizeInbound_fst : (summarizeInboundCommunication items cutoff).1 =
    items.foldl (inboundCount cutoff) communicationResult.empty := by
  have hfold : ∀ (l : List SoulAgentCommActivity) (s : communicationResult × InboundAt),
      (l.foldl (inboundStep cutoff) s).1 = l.foldl (inboundCount cutoff) s.1 := by
    intro l
    induction l with
    | nil => exact fun s => rfl
    | cons it l ih =>
        intro s
        rw [List.foldl_cons, List.foldl_cons, ih, inboundStep_fst]
  rw [summarizeInboundCommunication, hfold]

theorem summarizeOutbound_fst (result : communicationResult) (m : InboundAt) :
    (summarizeOutboundCommunication items cutoff result m).1 =
      items.foldl (outboundCount cutoff) result := by
  have hfold : ∀ (l : List SoulAgentCommActivity) (r : communicationResult) (R : Responses),
      (l.foldl (fun s it => (outboundCount cutoff s.1 it, respond m cutoff s.2 it)) (r, R)).1 =
        l.foldl (outboundCount cutoff) r := by
    intro l
    induction l with
    | nil => exact fun r R => rfl
    | cons it l ih =>
        intro r R
        rw [List.foldl_cons, List.foldl_cons, ih]
  rw [summarizeOutboundCommunication, hfold]

theorem incrementInbound_comm (r : communicationResult) (c c' : String) :
    incrementInboundCommunication (incrementInboundCommunication r c) c' =
      incrementInboundCommunication (incrementInboundCommunication r c') c := by
  unfold incrementInboundCommunication
  split_ifs <;> rfl

theorem incrementOutbound_violations_comm (r : communicationResult) (c c' : String) (n n' : Nat) :
    { incrementOutboundCommunication { incrementOutboundCommunication r c with
        boundaryViolations := r.boundaryViolations + n } c' with
      boundaryViolations := r.boundaryViolations + n + n' } =
    { incrementOutboundCommunication { incrementOutboundCommunication r c' with
        boundaryViolations := r.boundaryViolations + n' } c with
      boundaryViolations := r.boundaryViolations + n' + n } := by
  rw [Nat.add_right_comm r.boundaryViolations n' n]
  unfold incrementOutboundCommunication
  split_ifs <;> rfl

instance : RightCommutative (inboundCount cutoff) where
  right_comm r a b := by
    unfold inboundCount
    split_ifs
    · exact incrementInbound_comm _ _ _
    · rfl
    · rfl
    · rfl

/-- An outbound count is the increment of its channel and, where the boundary was violated, of the
violations. -/
theorem outboundCount_eq (r : communicationResult) (it : SoulAgentCommActivity) :
    outboundCount cutoff r it =
      if isOutboundSendActivity it cutoff then
        { incrementOutboundCommunication r it.ChannelType with
          boundaryViolations := r.boundaryViolations +
            if ToLower (TrimSpace it.BoundaryCheck) = "violated" then 1 else 0 }
      else r := by
  unfold outboundCount incrementOutboundCommunication
  split_ifs <;> rfl

instance : RightCommutative (outboundCount cutoff) where
  right_comm r a b := by
    by_cases ha : isOutboundSendActivity a cutoff = true
    · by_cases hb : isOutboundSendActivity b cutoff = true
      · simp only [outboundCount_eq, if_pos ha, if_pos hb]
        exact incrementOutbound_violations_comm _ _ _ _ _
      · simp only [outboundCount_eq, if_pos ha, if_neg hb]
    · simp only [outboundCount_eq, if_neg ha]

instance : RightCommutative fun (sum d : Int) => int64 (sum + d) where
  right_comm s a b := by
    simp only [int64]
    omega

theorem averageResponseMinutes_perm {l l' : List Int} (h : l'.Perm l) :
    averageResponseMinutes l' = averageResponseMinutes l := by
  rw [averageResponseMinutes, averageResponseMinutes, h.length_eq, h.foldl_eq]

theorem finalize_perm (exp : Rat → Rat) (result : communicationResult) {R R' : Responses}
    (h : R'.Perm R) :
    finalizeCommunicationResult exp result R' = finalizeCommunicationResult exp result R := by
  unfold finalizeCommunicationResult
  rw [h.length_eq, averageResponseMinutes_perm (h.map Prod.snd)]

/-- The signals depend on the listing through the answers only. -/
theorem communicationSignals_perm (exp : Rat → Rat) (hone : OneTime items cutoff)
    (hperm : items'.Perm items) :
    communicationSignals exp items' cutoff = communicationSignals exp items cutoff := by
  unfold communicationSignals
  rw [summarizeOutbound_fst, summarizeOutbound_fst, summarizeInbound_fst, summarizeInbound_fst,
    hperm.foldl_eq, hperm.foldl_eq]
  exact finalize_perm exp _ (responses_perm hone hperm)

theorem totalInbound_inboundCount (r : communicationResult) (it : SoulAgentCommActivity) :
    totalInbound (inboundCount cutoff r it) = totalInbound r + if isCounted cutoff it then 1 else 0 := by
  unfold inboundCount isCounted
  cases isInboundReceiveActivity it cutoff with
  | false => simp
  | true =>
      simp only [if_true, Bool.true_and, List.contains_iff_mem, List.mem_cons, List.not_mem_nil,
        or_false]
      unfold incrementInboundCommunication totalInbound
      split_ifs <;> simp_all <;> omega

theorem totalInbound_inbound : totalInbound (items.foldl (inboundCount cutoff) .empty) =
    items.countP (isCounted cutoff) := by
  have hfold : ∀ (l : List SoulAgentCommActivity) (r : communicationResult),
      totalInbound (l.foldl (inboundCount cutoff) r) = totalInbound r + l.countP (isCounted cutoff) := by
    intro l
    induction l with
    | nil => exact fun r => rfl
    | cons it l ih =>
        intro r
        rw [List.foldl_cons, ih, totalInbound_inboundCount, List.countP_cons]
        omega
  rw [hfold]
  exact Nat.zero_add _

/-- What the outbound loop and the end leave alone. -/
theorem outboundCount_keeps (r : communicationResult) (it : SoulAgentCommActivity) :
    totalInbound (outboundCount cutoff r it) = totalInbound r ∧
      (outboundCount cutoff r it).responseRate = r.responseRate := by
  unfold outboundCount incrementOutboundCommunication totalInbound
  split_ifs <;> exact ⟨rfl, rfl⟩

theorem outbound_keeps (l : List SoulAgentCommActivity) (r : communicationResult) :
    totalInbound (l.foldl (outboundCount cutoff) r) = totalInbound r ∧
      (l.foldl (outboundCount cutoff) r).responseRate = r.responseRate := by
  induction l generalizing r with
  | nil => exact ⟨rfl, rfl⟩
  | cons it l ih =>
      obtain ⟨htotal, hrate⟩ := outboundCount_keeps r it
      obtain ⟨htotal', hrate'⟩ := ih (outboundCount cutoff r it)
      exact ⟨htotal'.trans htotal, hrate'.trans hrate⟩

theorem responseRate_inbound (l : List SoulAgentCommActivity) (r : communicationResult) :
    (l.foldl (inboundCount cutoff) r).responseRate = r.responseRate := by
  induction l generalizing r with
  | nil => rfl
  | cons it l ih =>
      rw [List.foldl_cons, ih]
      unfold inboundCount incrementInboundCommunication
      split_ifs <;> rfl

theorem finalize_keeps (exp : Rat → Rat) (r : communicationResult) (R : Responses) :
    totalInbound (finalizeCommunicationResult exp r R) = totalInbound r ∧
      (finalizeCommunicationResult exp r R).responseRate =
        if 0 < totalInbound r then (R.length : Rat) / totalInbound r else r.responseRate := by
  unfold finalizeCommunicationResult
  by_cases hpos : 0 < totalInbound r
  · simp only [if_pos hpos]
    exact ⟨by simp only [totalInbound], trivial⟩
  · simp only [if_neg hpos]
    exact ⟨by simp only [totalInbound], trivial⟩

theorem outboundCounts (items : List SoulAgentCommActivity) (cutoff : Time) :
    totalInbound (items.foldl (outboundCount cutoff)
        (items.foldl (inboundCount cutoff) .empty)) = items.countP (isCounted cutoff) ∧
      (items.foldl (outboundCount cutoff)
        (items.foldl (inboundCount cutoff) .empty)).responseRate = 0 := by
  obtain ⟨htotal, hrate⟩ := outbound_keeps items
    (items.foldl (inboundCount cutoff) .empty)
  rw [totalInbound_inbound] at htotal
  rw [responseRate_inbound] at hrate
  exact ⟨htotal, hrate⟩

theorem totalInbound_signals (exp : Rat → Rat) :
    totalInbound (communicationSignals exp items cutoff) = items.countP (isCounted cutoff) := by
  rw [communicationSignals, summarizeOutbound_fst, summarizeInbound_fst, (finalize_keeps exp _ _).1]
  exact (outboundCounts items cutoff).1

theorem responseRate_signals (exp : Rat → Rat) :
    (communicationSignals exp items cutoff).responseRate =
      if 0 < items.countP (isCounted cutoff) then
        ((responses items cutoff).length : Rat) / items.countP (isCounted cutoff)
      else 0 := by
  rw [communicationSignals, summarizeOutbound_fst, summarizeInbound_fst, (finalize_keeps exp _ _).2,
    (outboundCounts items cutoff).1, (outboundCounts items cutoff).2]

theorem clamp01_bounds (x : Rat) : 0 ≤ clamp01 x ∧ clamp01 x ≤ 1 := by
  unfold clamp01
  split_ifs with hneg hbig
  · exact ⟨le_rfl, zero_le_one⟩
  · exact ⟨zero_le_one, le_rfl⟩
  · exact ⟨not_lt.1 hneg, not_lt.1 hbig⟩

theorem mem_answeredIds {id : String} : id ∈ answeredIds items cutoff ↔
    id ∈ (responses items cutoff).map Prod.fst := by
  rw [answeredIds, List.mem_dedup, responses_eq]
  constructor
  · intro h
    obtain ⟨p, hp, hid⟩ := List.mem_map.1 h
    rw [← hid]
    exact key_mem_foldl_keepFirst hp
  · intro h
    obtain ⟨p, hp, hid⟩ := List.mem_map.1 h
    rw [← hid]
    exact List.mem_map_of_mem ((mem_of_mem_foldl_keepFirst hp).resolve_left List.not_mem_nil)

theorem length_answeredIds : (answeredIds items cutoff).length = (responses items cutoff).length := by
  have hperm : (answeredIds items cutoff).Perm ((responses items cutoff).map Prod.fst) := by
    have hnodup : (answeredIds items cutoff).Nodup := List.nodup_dedup _
    rw [List.perm_ext_iff_of_nodup hnodup responses_nodup]
    exact fun id => mem_answeredIds
  rw [hperm.length_eq, List.length_map]

/-- Every answered message of the three channels is one of the counted ones. -/
theorem length_hasCounted_le : ((answeredIds items cutoff).filter (hasCounted items cutoff)).length ≤
    items.countP (isCounted cutoff) := by
  have hsub : ((answeredIds items cutoff).filter (hasCounted items cutoff)).Subperm
      ((items.filter (isCounted cutoff)).map fun it => TrimSpace it.MessageID) := by
    refine List.subperm_of_subset ((List.nodup_dedup _).filter _) fun id hid => ?_
    obtain ⟨it, hit, hcounted⟩ := List.any_eq_true.1 (List.mem_filter.1 hid).2
    rw [Bool.and_eq_true, beq_iff_eq] at hcounted
    rw [← hcounted.2]
    exact List.mem_map_of_mem (List.mem_filter.2 ⟨hit, hcounted.1⟩)
  have hle := hsub.length_le
  rw [List.countP_eq_length_filter]
  rwa [List.length_map] at hle

theorem bounded_iff : (responses items cutoff).length ≤ items.countP (isCounted cutoff) ↔
    ((answeredIds items cutoff).filter fun id => !hasCounted items cutoff id).length ≤
      items.countP (isCounted cutoff) -
        ((answeredIds items cutoff).filter (hasCounted items cutoff)).length := by
  have hsplit := List.length_eq_length_filter_add (l := answeredIds items cutoff)
    (hasCounted items cutoff)
  have hle := @length_hasCounted_le items cutoff
  rw [← length_answeredIds]
  omega

end Counts

/-- **Signals.** They are those of the activities exactly where all replies to a message took the same
time and no more messages of other channels are answered than counted messages are left. -/
theorem signals_stable_iff (exp : Rat → Rat) (items : List SoulAgentCommActivity) (cutoff : Time) :
    SignalsStable exp items cutoff ↔ RepliesClear items cutoff := by
  constructor
  · intro h
    refine ⟨first_iff.1 h.first, bounded_iff.1 ?_⟩
    rw [← totalInbound_signals exp]
    exact h.bounded
  · intro h
    have hbounded := bounded_iff.2 h.channels
    refine ⟨fun items' hperm => communicationSignals_perm exp h.replies hperm,
      first_iff.2 h.replies, responses_nodup, ?_, ?_⟩
    · rw [totalInbound_signals]
      exact hbounded
    · have hrate := @responseRate_signals items cutoff exp
      have hscore : ∃ x, (communicationSignals exp items cutoff).score = clamp01 x := ⟨_, rfl⟩
      obtain ⟨x, hx⟩ := hscore
      rw [hrate, hx]
      refine ⟨?_, ?_, (clamp01_bounds x).1, (clamp01_bounds x).2⟩
      · split_ifs
        · exact div_nonneg (Nat.cast_nonneg _) (Nat.cast_nonneg _)
        · exact le_rfl
      · split_ifs with hpos
        · rw [div_le_one (Nat.cast_pos.2 hpos)]
          exact Nat.cast_le.2 hbounded
        · exact zero_le_one

/-- A message at noon and two replies to it, an hour and two hours later, the later one listed first. -/
def repliedTwice : List SoulAgentCommActivity :=
  [⟨"email", "outbound", "send", "m3", "m1", "passed", ⟨14 * Hour, .utc⟩⟩,
    ⟨"email", "outbound", "send", "m2", "m1", "passed", ⟨13 * Hour, .utc⟩⟩,
    ⟨"email", "inbound", "receive", "m1", "", "skipped", ⟨12 * Hour, .utc⟩⟩]

/-- The response time is that of the last reply. -/
theorem not_signals_stable : ¬ SignalsStable (fun _ => 1) repliedTwice ⟨0, .utc⟩ := by
  intro h
  have horder := h.order repliedTwice.reverse (List.reverse_perm _)
  have hminutes := congrArg communicationResult.avgResponseTimeMinutes horder
  revert hminutes
  decide +kernel

end LesserHost.SoulReputation
