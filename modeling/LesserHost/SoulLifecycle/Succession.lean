import LesserHost.SoulLifecycle.Status
import Mathlib.Logic.Relation

set_option autoImplicit false

/-! # Succession is one-to-one

A succession is written into two rows. The two agree, no agent succeeds two, and no chain of successors
comes back, as long as every designation finds, when it commits, the agent without a successor and the
designated one with neither a successor nor a predecessor (`Free`). The handler tests this on earlier
reads only. -/

namespace LesserHost.SoulLifecycle

open LesserHost.Go
open LesserHost.ControlPlane (AppTheoryError StoreError newAppTheoryError)

/-! ## Links -/

/-- An identifier, unless it is empty. -/
def link (agentID : String) : Option String := if agentID = "" then none else some agentID

def Table.successor (t : Table) (agentID : String) : Option String :=
  (t.identities agentID).bind fun row => link row.SuccessorAgentID

def Table.predecessor (t : Table) (agentID : String) : Option String :=
  (t.identities agentID).bind fun row => link row.PredecessorAgentID

structure OneToOne (t : Table) : Prop where
  /-- the two rows of a succession agree -/
  links : ∀ agentID successorID,
    t.successor agentID = some successorID ↔ t.predecessor successorID = some agentID
  /-- no agent is the designated successor of two -/
  unique : ∀ agentID agentID' successorID, t.successor agentID = some successorID →
    t.successor agentID' = some successorID → agentID = agentID'
  /-- the successors of an agent never lead back to it -/
  acyclic : ∀ agentID, ¬ Relation.TransGen (fun a b => t.successor a = some b) agentID agentID

theorem unique_of_links {t : Table}
    (h : ∀ agentID successorID,
      t.successor agentID = some successorID ↔ t.predecessor successorID = some agentID)
    {agentID agentID' successorID : String} (h₁ : t.successor agentID = some successorID)
    (h₂ : t.successor agentID' = some successorID) : agentID = agentID' :=
  Option.some.inj (((h _ _).1 h₁).symm.trans ((h _ _).1 h₂))

/-- Edges to an end of all paths close no cycle. -/
theorem acyclic_of_end {α : Type} {R R' : α → α → Prop} {z : α} (hlast : ∀ b, ¬ R' z b)
    (hnew : ∀ a b, R' a b → R a b ∨ b = z) (hR : ∀ a, ¬ Relation.TransGen R a a) (a : α) :
    ¬ Relation.TransGen R' a a := by
  have hpath : ∀ b, Relation.TransGen R' a b → Relation.TransGen R a b ∨ b = z := by
    intro b h
    induction h with
    | single hab => exact (hnew _ _ hab).imp Relation.TransGen.single id
    | tail _ hbc ih =>
        rcases ih with hpath | rfl
        · exact (hnew _ _ hbc).imp hpath.tail id
        · exact absurd hbc (hlast _)
  intro hcycle
  rcases hpath a hcycle with hold | rfl
  · exact hR a hold
  · obtain ⟨b, hab, -⟩ := Relation.TransGen.head'_iff.1 hcycle
    exact hlast b hab

/-! ## What is written to the links -/

/-- An item that sets neither link. -/
def Write.Linkless : Write → Prop
  | .updateSuccessor _ _ _ => False
  | .updatePredecessor _ _ _ => False
  | _ => True

theorem Write.Linkless.onRow {w : Write} (h : w.Linkless) (agentID : String)
    (row : SoulAgentIdentity) :
    (w.onRow agentID row).SuccessorAgentID = row.SuccessorAgentID ∧
      (w.onRow agentID row).PredecessorAgentID = row.PredecessorAgentID := by
  unfold Write.onRow
  split
  · cases w with
    | updateSuccessor a read identity => exact h.elim
    | updatePredecessor a read identity => exact h.elim
    | _ => exact ⟨rfl, rfl⟩
  · exact ⟨rfl, rfl⟩

theorem Linkless.foldl {ws : List Write} (h : ∀ w ∈ ws, w.Linkless) (agentID : String)
    (row : SoulAgentIdentity) :
    (ws.foldl (fun row w => w.onRow agentID row) row).SuccessorAgentID = row.SuccessorAgentID ∧
      (ws.foldl (fun row w => w.onRow agentID row) row).PredecessorAgentID
        = row.PredecessorAgentID := by
  induction ws generalizing row with
  | nil => exact ⟨rfl, rfl⟩
  | cons w ws ih =>
      obtain ⟨hsucc, hpred⟩ := (h w List.mem_cons_self).onRow agentID row
      obtain ⟨hsucc', hpred'⟩ := ih (fun w' hw' => h w' (List.mem_cons_of_mem _ hw')) (w.onRow agentID row)
      exact ⟨hsucc'.trans hsucc, hpred'.trans hpred⟩

/-- Only a designation sets links. -/
theorem Writes.links {r : Request} {ws : List Write} (h : Writes r ws) :
    (∀ w ∈ ws, w.Linkless) ∨
      ∃ agentIDHex successorIDHex identity successorIdentity challenge reason predSig succSig parsedTS
        now, Normal agentIDHex ∧ agentIDHex ≠ "" ∧ Normal successorIDHex ∧ successorIDHex ≠ "" ∧
        successorIDHex ≠ agentIDHex ∧
        ws = successionWrites agentIDHex successorIDHex identity successorIdentity challenge reason
          predSig succSig parsedTS now := by
  cases h with
  | archiveAgent hread challenge reason sig parsedTS now =>
      refine Or.inl fun w hw => ?_
      simp only [archiveWrites, List.mem_cons, List.not_mem_nil, or_false] at hw
      rcases hw with rfl | rfl | rfl <;> exact trivial
  | designateSuccessor hagent hagent' hsuccessor hsuccessor' hother challenge reason predSig succSig
      parsedTS now =>
      exact Or.inr ⟨_, _, _, _, challenge, reason, predSig, succSig, parsedTS, now, hagent, hagent',
        hsuccessor, hsuccessor', hother, rfl⟩
  | _ =>
      refine Or.inl fun w hw => ?_
      obtain rfl := List.mem_singleton.1 hw
      exact trivial

/-- The links of a row after a designation. -/
theorem succession_row {agentIDHex successorIDHex : String}
    {identity successorIdentity : SoulAgentIdentity} {challenge : SoulLifecycleChallenge}
    {reason predSig succSig : String} {parsedTS now : Time} (hagent : Normal agentIDHex)
    (hsuccessor : Normal successorIDHex) (agentID : String) (row : SoulAgentIdentity) :
    let row' := (successionWrites agentIDHex successorIDHex identity successorIdentity challenge reason
      predSig succSig parsedTS now).foldl (fun row w => w.onRow agentID row) row
    row'.SuccessorAgentID = (if agentIDHex = agentID then successorIDHex else row.SuccessorAgentID) ∧
      row'.PredecessorAgentID
        = (if successorIDHex = agentID then agentIDHex else row.PredecessorAgentID) := by
  simp only [successionWrites, List.foldl_cons, List.foldl_nil, Write.onRow, Write.agent,
    Option.some.injEq, reduceCtorEq, if_false]
  have hagent' : ToLower (TrimSpace agentIDHex) = agentIDHex := hagent
  have hsuccessor' : ToLower (TrimSpace successorIDHex) = successorIDHex := hsuccessor
  by_cases h : agentIDHex = agentID
  · by_cases h' : successorIDHex = agentID
    · simp only [if_pos h, if_pos h', Write.fields, endedIdentity, SoulAgentIdentity.UpdateKeys,
        hagent', hsuccessor', and_self]
    · simp only [if_pos h, if_neg h', Write.fields, endedIdentity, SoulAgentIdentity.UpdateKeys,
        hsuccessor', and_self]
  · by_cases h' : successorIDHex = agentID
    · simp only [if_neg h, if_pos h', Write.fields, SoulAgentIdentity.UpdateKeys, hagent', and_self]
    · simp only [if_neg h, if_neg h', and_self]

/-! ## Designations -/

/-- A designation finds its agent without a successor, and the designated agent with neither a successor
    nor a predecessor. -/
def Write.Free (t : Table) : Write → Prop
  | .updateSuccessor agentID _ identity =>
      t.successor agentID = none ∧ t.successor identity.SuccessorAgentID = none ∧
        t.predecessor identity.SuccessorAgentID = none
  | _ => True

/-- All that an operation writes is free. -/
def Free {ι : Type} : ι → Op → Choice → Traced ι Op Table Choice → Prop
  | _, o, c, s => ∀ w ∈ carried o c s.state, w.Free s.state

theorem successor_foldl (ws : List Write) (t : Table) (agentID : String) :
    (ws.foldl Write.apply t).successor agentID
      = (t.identities agentID).bind fun row =>
          link (ws.foldl (fun row w => w.onRow agentID row) row).SuccessorAgentID := by
  rw [Table.successor, foldl_row, Option.bind_map]
  rfl

theorem predecessor_foldl (ws : List Write) (t : Table) (agentID : String) :
    (ws.foldl Write.apply t).predecessor agentID
      = (t.identities agentID).bind fun row =>
          link (ws.foldl (fun row w => w.onRow agentID row) row).PredecessorAgentID := by
  rw [Table.predecessor, foldl_row, Option.bind_map]
  rfl

/-- The same links. -/
theorem OneToOne.congr {t t' : Table} (h : OneToOne t) (hsucc : ∀ a, t'.successor a = t.successor a)
    (hpred : ∀ a, t'.predecessor a = t.predecessor a) : OneToOne t' := by
  have hlinks : ∀ a b, t'.successor a = some b ↔ t'.predecessor b = some a := by
    intro a b
    rw [hsucc, hpred]
    exact h.links a b
  refine ⟨hlinks, fun _ _ _ => unique_of_links hlinks, ?_⟩
  simp only [hsucc]
  exact h.acyclic

/-- One link more, between ends that are free. -/
theorem OneToOne.extend {t t' : Table} (h : OneToOne t) {p s : String} (hother : s ≠ p)
    (hp : t.successor p = none) (hs : t.successor s = none) (hs' : t.predecessor s = none)
    (hsucc : ∀ a, t'.successor a = if p = a then some s else t.successor a)
    (hpred : ∀ a, t'.predecessor a = if s = a then some p else t.predecessor a) : OneToOne t' := by
  have hlinks : ∀ a b, t'.successor a = some b ↔ t'.predecessor b = some a := by
    intro a b
    rw [hsucc, hpred]
    by_cases ha : p = a
    · subst ha
      by_cases hb : s = b
      · rw [if_pos rfl, if_pos hb, hb]
        exact iff_of_true rfl rfl
      · rw [if_pos rfl, if_neg hb, ← h.links, hp]
        exact iff_of_false (fun heq => hb (Option.some.inj heq)) (by simp)
    · by_cases hb : s = b
      · subst hb
        rw [if_neg ha, if_pos rfl, h.links, hs']
        exact iff_of_false (by simp) fun heq => ha (Option.some.inj heq)
      · rw [if_neg ha, if_neg hb]
        exact h.links a b
  refine ⟨hlinks, fun _ _ _ => unique_of_links hlinks, acyclic_of_end (z := s) ?_ ?_ h.acyclic⟩
  · intro b
    rw [hsucc, if_neg (Ne.symm hother), hs]
    simp
  · intro a b hab
    rw [hsucc] at hab
    split at hab
    · exact Or.inr (Option.some.inj hab).symm
    · exact Or.inl hab

/-- One operation keeps succession one-to-one, if its designation is free. -/
theorem OneToOne.handle {r : Request} {o : Op} (hperforms : Performs r o) {c : Choice} {t : Table}
    (hfree : ∀ w ∈ carried o c t, w.Free t) (h : OneToOne t) : OneToOne (t.handle o c).2 := by
  have hsucc : ∀ a, (t.handle o c).2.successor a
      = ((carried o c t).foldl Write.apply t).successor a := by
    intro a
    rw [handle_rows]
    rfl
  have hpred : ∀ a, (t.handle o c).2.predecessor a
      = ((carried o c t).foldl Write.apply t).predecessor a := by
    intro a
    rw [handle_rows]
    rfl
  by_cases hnone : carried o c t = []
  · rw [hnone] at hsucc hpred
    exact h.congr hsucc hpred
  rcases (hperforms _ (carried_eq hnone)).links with hlinkless |
    ⟨p, s, identity, successorIdentity, challenge, reason, predSig, succSig, parsedTS, now, hp, hpne,
      hs, hsne, hother, hws⟩
  · -- no item of the transaction sets a link
    refine h.congr (fun a => ?_) fun a => ?_
    · rw [hsucc, successor_foldl]
      simp only [(Linkless.foldl hlinkless a _).1]
      rfl
    · rw [hpred, predecessor_foldl]
      simp only [(Linkless.foldl hlinkless a _).2]
      rfl
  · have hmem : ∀ w, w ∈ successionWrites p s identity successorIdentity challenge reason predSig
        succSig parsedTS now → w ∈ carried o c t := fun w hw => hws ▸ hw
    -- both agents exist, as the transaction went through
    have hrow : ∀ w ∈ carried o c t, ∀ a, w.agent = some a → ∃ row, t.identities a = some row := by
      intro w hw a hagent
      have hallowed := allowed_of_carried hw
      cases w <;> cases hagent <;> exact Option.isSome_iff_exists.1 hallowed
    have hmemP := hmem (.updateSuccessor p identity
      (endedIdentity identity SoulAgentStatusSucceeded reason s)) (by simp [successionWrites])
    have hmemS := hmem (.updatePredecessor s successorIdentity
      (SoulAgentIdentity.UpdateKeys { successorIdentity with PredecessorAgentID := p }))
      (by simp [successionWrites])
    obtain ⟨rowP, hrowP⟩ := hrow _ hmemP p rfl
    obtain ⟨rowS, hrowS⟩ := hrow _ hmemS s rfl
    have hfreeP := hfree _ hmemP
    have hnew : (endedIdentity identity SoulAgentStatusSucceeded reason s).SuccessorAgentID = s := hs
    rw [Write.Free, hnew] at hfreeP
    refine h.extend hother hfreeP.1 hfreeP.2.1 hfreeP.2.2 (fun a => ?_) fun a => ?_
    · rw [hsucc, hws, successor_foldl]
      simp only [(succession_row hp hs a _).1]
      by_cases ha : p = a
      · subst ha
        simp [hrowP, link, hsne]
      · simp only [if_neg ha]
        rfl
    · rw [hpred, hws, predecessor_foldl]
      simp only [(succession_row hp hs a _).2]
      by_cases ha : s = a
      · subst ha
        simp [hrowS, link, hpne]
      · simp only [if_neg ha]
        rfl

section Run

variable {ι : Type} [DecidableEq ι]

/-- **Succession is one-to-one** in every interleaving in which every designation is free when it
    commits. -/
theorem succession_one_to_one (server : Server)
    (admits : SoulAgentIdentity → Except AppTheoryError Unit) (requests : ι → Request) (t : Table)
    (h₀ : OneToOne t) (ms : List (ι × Choice))
    (h : Along (Config.step (Traced.env tableEnv)) (Config.Performs Free)
      (lifecycle server admits requests t) ms) :
    OneToOne ((lifecycle server admits requests t).run (Traced.env tableEnv) ms).state.state := by
  refine Config.run_only (G := fun i => Performs (requests i)) (I := fun s => OneToOne s.state) ?_ ?_
    h₀ h
  · intro i o c s hperforms hfree hs
    exact hs.handle hperforms hfree
  · exact fun i => handler_performs server admits (requests i)

end Run

/-! ## Two agents with one successor

Two agents designate the same successor. Both requests read it before either of them commits. -/

def raceNow : Time := ⟨Hour, .utc⟩

def raceIdentity : SoulAgentIdentity := sampleIdentity SoulAgentStatusActive

def raceChallenge (digit : Char) : SoulLifecycleChallenge where
  TTL := (raceNow.Add Minute).Unix
  AgentID := agentIDOf digit
  Nonce := "n"
  Purpose := soulLifecycleChallengePurposeDesignateSuccessor
  SuccessorAgentID := agentIDOf '3'
  IssuedAt := raceNow
  ExpiresAt := raceNow.Add Minute

/-- Three agents, and a challenge for each of the first two. -/
def raceTable : Table where
  identities a :=
    if a = agentIDOf '1' ∨ a = agentIDOf '2' ∨ a = agentIDOf '3' then some raceIdentity else none
  challenges key :=
    if key = (agentIDOf '1', "n") then some (raceChallenge '1')
    else if key = (agentIDOf '2', "n") then some (raceChallenge '2')
    else none
  continuity _ := none
  now := raceNow

/-- The time a request signs. -/
def raceSigned (digit : Char) : Time := if digit = '1' then raceNow else raceNow.Add Second

def raceRequest (digit : Char) : soulDesignateSuccessorRequest where
  SuccessorAgentID := agentIDOf '3'
  Reason := ""
  Timestamp := if digit = '1' then "0001-01-01T01:00:00Z" else "0001-01-01T01:00:01Z"
  PredecessorSig := "s"
  SuccessorSig := "s"
  Nonce := "n"

def raceWrites (digit : Char) : List Write :=
  successionWrites (agentIDOf digit) (agentIDOf '3') raceIdentity raceIdentity (raceChallenge digit)
    (TrimSpace "") "s" "s" (raceSigned digit) raceNow

/-- The first two agents. -/
def Racing (digit : Char) : Prop := digit = '1' ∨ digit = '2'

section Race

variable {digit : Char}

theorem Racing.hex (h : Racing digit) :
    isLowerHexChar digit = true ∧ (JSONText.hexValue digit).isSome = true := by
  rcases h with rfl | rfl <;> decide

theorem race_successor_ne (h : Racing digit) : agentIDOf '3' ≠ agentIDOf digit := by
  rcases h with rfl | rfl <;> exact agentIDOf_ne (by decide)

theorem race_stamp (h : Racing digit) :
    parseSoulSignedTimestamp (raceRequest digit).Timestamp raceNow
      = .ok (raceSigned digit, canonicalSoulSignedTimestamp (raceSigned digit)) := by
  rcases h with rfl | rfl <;> decide

theorem race_normalize (h : Racing digit) :
    normalizeSoulSuccessorAgentID (raceRequest digit).SuccessorAgentID (agentIDOf digit)
      = .ok (agentIDOf '3') := by
  have hnormal : ToLower (TrimSpace (raceRequest digit).SuccessorAgentID) = agentIDOf '3' :=
    normal_agentIDOf (by decide)
  unfold normalizeSoulSuccessorAgentID
  dsimp only
  rw [hnormal, if_neg (agentIDOf_ne_empty '3'), if_neg (race_successor_ne h)]

theorem race_nonce : TrimSpace "n" = "n" := by decide

theorem race_times : (raceNow.Add Minute).IsZero = false ∧ raceNow.Before (raceNow.Add Minute) = true ∧
    raceNow.UTC = raceNow ∧ (raceNow.Add Minute).UTC = raceNow.Add Minute := by decide

theorem race_repair : readRepair raceIdentity = raceIdentity := by decide

theorem race_valid (h : Racing digit) :
    validateSoulLifecycleChallenge (raceChallenge digit) (agentIDOf digit) "n"
      soulLifecycleChallengePurposeDesignateSuccessor (agentIDOf '3') raceNow
      = .ok (raceChallenge digit) := by
  have hagent : ToLower (TrimSpace (agentIDOf digit)) = agentIDOf digit := normal_agentIDOf h.hex.1
  have hsuccessor : ToLower (TrimSpace (agentIDOf '3')) = agentIDOf '3' := normal_agentIDOf (by decide)
  have hpurpose : ToLower (TrimSpace soulLifecycleChallengePurposeDesignateSuccessor)
      = soulLifecycleChallengePurposeDesignateSuccessor := by decide
  have hnonce := race_nonce
  have htimes : (raceNow.Add Minute).IsZero = false ∧ raceNow.Before (raceNow.Add Minute) = true ∧
      raceNow.UTC = raceNow ∧ (raceNow.Add Minute).UTC = raceNow.Add Minute := race_times
  simp only [validateSoulLifecycleChallenge, raceChallenge, SoulLifecycleChallenge.UpdateKeys, hagent,
    hsuccessor, hpurpose, hnonce, htimes, ne_eq, not_true, or_self, and_false, if_false,
    Bool.false_eq_true, Bool.true_eq_false]

/-! What the table answers. -/

theorem race_getIdentity {d : Char} (h : Racing d ∨ d = '3') :
    raceTable.handle (.getIdentity (agentIDOf d)) sampleChoice = (.ok raceIdentity, raceTable) := by
  have hrow : raceTable.identities (agentIDOf d) = some raceIdentity := by
    rw [raceTable]
    dsimp only
    rw [if_pos (by rcases h with (rfl | rfl) | rfl <;> simp)]
  show (found (raceTable.identities (agentIDOf d)), raceTable) = _
  rw [hrow]
  rfl

theorem race_challenges (h : Racing digit) :
    raceTable.challenges (agentIDOf digit, "n") = some (raceChallenge digit) := by
  have hother : (agentIDOf '2', "n") ≠ (agentIDOf '1', "n") :=
    fun heq => agentIDOf_ne (by decide) (Prod.mk.inj heq).1
  rw [raceTable]
  dsimp only
  rcases h with rfl | rfl
  · rw [if_pos rfl]
  · rw [if_neg hother, if_pos rfl]

theorem race_getChallenge (h : Racing digit) :
    raceTable.handle (.getChallenge (ToLower (TrimSpace (agentIDOf digit))) (TrimSpace "n")) sampleChoice
      = (.ok (raceChallenge digit), raceTable) := by
  have hagent : ToLower (TrimSpace (agentIDOf digit)) = agentIDOf digit := normal_agentIDOf h.hex.1
  have hnonce := race_nonce
  rw [hagent, hnonce]
  show (found (raceTable.challenges (agentIDOf digit, "n")), raceTable) = _
  rw [race_challenges h]
  rfl

/-- An operation that leaves the table as it is. -/
theorem goes_read {ι α : Type} {i : ι} {o : Op} {k : o.Res → Handler α} {c : Choice} {cs : List Choice}
    {t : Table} {log : List (Event ι Op Table Choice)} {r : o.Res} {q : Handler α}
    {s' : Traced ι Op Table Choice} (hread : ∀ ws, o ≠ .write ws) (h : t.handle o c = (r, t))
    (hrest : (k r).Goes (Traced.env tableEnv i) (fun o _ _ => ∀ ws, o ≠ .write ws) cs
      ⟨t, log ++ [⟨i, o, c, t, t⟩]⟩ q s') :
    (Prog.op o k).Goes (Traced.env tableEnv i) (fun o _ _ => ∀ ws, o ≠ .write ws) (c :: cs) ⟨t, log⟩
      q s' := by
  have hhandle : (Traced.env tableEnv i).handle o c ⟨t, log⟩ = (r, ⟨t, log ++ [⟨i, o, c, t, t⟩]⟩) := by
    have hres : tableEnv.handle o c t = (r, t) := h
    simp only [Traced.env, hres]
  refine .op hread ?_
  rw [hhandle]
  exact hrest

/-- The request comes to its transaction. -/
theorem race_goes {ι : Type} (i : ι) (log : List (Event ι Op Table Choice)) (h : Racing digit) :
    ∃ k log', ((Request.designateSuccessor (agentIDOf digit) (raceRequest digit)).handler sampleServer
        (fun _ => .ok ())).Goes (Traced.env tableEnv i) (fun o _ _ => ∀ ws, o ≠ .write ws)
      (List.replicate 6 sampleChoice) ⟨raceTable, log⟩ (.op (.write (raceWrites digit)) k)
      ⟨raceTable, log'⟩ := by
  have hok : ∀ {α : Type} (a : α), (liftExcept (.ok a) : Handler α) = .ret a := fun _ => rfl
  have hget := getSoulAgentIdentity_normal (normal_agentIDOf h.hex.1) (agentIDOf_ne_empty digit)
  have hget' := getSoulAgentIdentity_normal (normal_agentIDOf (d := '3') (by decide))
    (agentIDOf_ne_empty '3')
  have hrepair := race_repair
  have hmutable : validateSoulLifecycleMutableStatus raceIdentity "designate a successor" = .ok () := by
    decide
  have hrequired : required (raceRequest digit).PredecessorSig "predecessor_signature" = .ok "s" ∧
      required (raceRequest digit).SuccessorSig "successor_signature" = .ok "s" ∧
      required (raceRequest digit).Nonce "continuity_nonce" = .ok "n" := by
    rcases h with rfl | rfl <;> decide
  have hactive : effectiveStatus raceIdentity = SoulAgentStatusActive := by decide
  have hdomain : EqualFold (TrimSpace raceIdentity.Domain) (TrimSpace raceIdentity.Domain) = true := by
    decide
  have hfree : TrimSpace raceIdentity.PredecessorAgentID = "" := by decide
  have hagent : ToLower (TrimSpace (agentIDOf digit)) = agentIDOf digit := normal_agentIDOf h.hex.1
  have hnonce := race_nonce
  have hkey : ¬ (ToLower (TrimSpace (agentIDOf digit)) = "" ∨ TrimSpace "n" = "") := by
    rw [hagent, hnonce]
    exact fun hor => hor.elim (agentIDOf_ne_empty digit) (by decide)
  have haccess : raceTable.handle (.requireDomainAccess (TrimSpace raceIdentity.Domain)) sampleChoice
      = (.ok (), raceTable) := rfl
  have hnow : raceTable.handle .now sampleChoice = (raceNow, raceTable) := rfl
  refine ⟨?_, ?_, ?goes⟩
  case goes =>
    simp only [Request.handler, handleSoulDesignateSuccessor, parse_agentIDOf h.hex.1 h.hex.2, hok,
      Prog.ret_bind, loadSoulLifecycleIdentity, hget, fetchIdentity, Prog.bind_assoc,
      Prog.perform_bind, Prog.op_bind, List.replicate]
    refine goes_read (fun _ ho => by cases ho) (race_getIdentity (Or.inl h)) ?_
    simp only [Prog.pure_eq, Prog.ret_bind, requireSoulDomainAccess, hrepair, Prog.bind_assoc,
      Prog.perform_bind, Prog.op_bind]
    refine goes_read (fun _ ho => by cases ho) haccess ?_
    simp only [Prog.ret_bind, hok, hmutable, race_normalize h, now, Prog.perform_bind]
    refine goes_read (fun _ ho => by cases ho) hnow ?_
    simp only [Prog.ret_bind, hok, race_stamp h, hrequired]
    refine goes_read (fun _ ho => by cases ho) hnow ?_
    simp only [loadSoulLifecycleChallenge, if_neg hkey]
    simp only [Prog.op_bind, Prog.perform_bind]
    refine goes_read (fun _ ho => by cases ho) (race_getChallenge h) ?_
    simp only [hagent, hnonce, race_valid h, hok, Prog.ret_bind, Prog.pure_eq, loadSoulActiveSuccessorIdentity, hget',
      fetchIdentity, Prog.bind_assoc, Prog.perform_bind, Prog.op_bind]
    refine goes_read (fun _ ho => by cases ho) (race_getIdentity (Or.inr rfl)) ?_
    simp only [hrepair, Prog.pure_eq, Prog.ret_bind, hactive, hdomain, hfree, not_true, ne_eq, if_false,
      Bool.true_eq_false, declaredDigest, receivedDigest, computeSoulContinuityEntryDigest, sampleServer,
      hok, writeOr, Prog.perform_bind, Prog.op_bind]
    exact .nil _ _

/-! What the transactions do. -/

theorem continuityEntry_key {agentID entryType summary recovery sig : String} {references : List String}
    {ts : Time} (hagent : Normal agentID) :
    (continuityEntry agentID entryType summary recovery references sig ts).key
      = (agentID, "CONTINUITY#" ++ ts.UTC.UTC.TruncateMillisecond.FormatMillis ++ "#"
          ++ ToLower (TrimSpace entryType)) := by
  have hid : ToLower (TrimSpace agentID) = agentID := hagent
  simp only [continuityEntry, SoulAgentContinuity.UpdateKeys, SoulAgentContinuity.key, hid]

/-- The transaction goes through as long as its challenge and its two entries are as in the beginning. -/
theorem race_carried (h : Racing digit) {t : Table} (hrows : ∀ a, (t.identities a).isSome
      = (raceTable.identities a).isSome)
    (hchallenge : t.challenges (agentIDOf digit, "n") = some (raceChallenge digit))
    (hdeclared : t.continuity (agentIDOf digit, "CONTINUITY#"
      ++ (raceSigned digit).UTC.UTC.TruncateMillisecond.FormatMillis ++ "#"
      ++ ToLower (TrimSpace SoulContinuityEntryTypeSuccessionDeclared)) = none)
    (hreceived : t.continuity (agentIDOf '3', "CONTINUITY#"
      ++ (raceSigned digit).UTC.UTC.TruncateMillisecond.FormatMillis ++ "#"
      ++ ToLower (TrimSpace SoulContinuityEntryTypeSuccessionReceived)) = none) :
    carried (.write (raceWrites digit)) sampleChoice t = raceWrites digit := by
  have hagent := normal_agentIDOf h.hex.1
  have hsuccessor := normal_agentIDOf (d := '3') (by decide)
  have hrow : (raceTable.identities (agentIDOf digit)).isSome = true ∧
      (raceTable.identities (agentIDOf '3')).isSome = true := by
    rw [raceTable]
    dsimp only
    rw [if_pos (by rcases h with rfl | rfl <;> simp), if_pos (by simp)]
    exact ⟨rfl, rfl⟩
  have httl : decide (raceNow.Unix < (raceNow.Add Minute).Unix) = true := by decide
  rw [carried, if_pos]
  refine ⟨by decide, ?_⟩
  simp only [raceWrites, successionWrites, List.all_cons, List.all_nil, Write.allowed, Bool.and_true,
    continuityEntry_key hagent, continuityEntry_key hsuccessor, hdeclared, hreceived,
    Option.isNone_none, hrows, hrow]
  rw [show (raceChallenge digit).key = (agentIDOf digit, "n") from rfl, hchallenge, Option.any_some]
  exact httl

theorem race_successor (h : Racing digit) {t : Table}
    (ht : (t.identities (agentIDOf digit)).isSome = true) :
    ((raceWrites digit).foldl Write.apply t).successor (agentIDOf digit) = some (agentIDOf '3') := by
  obtain ⟨row, hrow⟩ := Option.isSome_iff_exists.1 ht
  rw [successor_foldl, hrow, Option.bind_some, raceWrites,
    (succession_row (normal_agentIDOf h.hex.1) (normal_agentIDOf (by decide)) _ _).1, if_pos rfl, link,
    if_neg (agentIDOf_ne_empty '3')]

theorem race_successor_other (h : Racing digit) {t : Table} {a : String} (ha : agentIDOf digit ≠ a) :
    ((raceWrites digit).foldl Write.apply t).successor a = t.successor a := by
  rw [successor_foldl, Table.successor]
  refine congrArg (Option.bind (t.identities a)) (funext fun row => ?_)
  rw [raceWrites,
    (succession_row (normal_agentIDOf h.hex.1) (normal_agentIDOf (by decide)) _ _).1, if_neg ha]

theorem race_carried_first : carried (.write (raceWrites '1')) sampleChoice raceTable = raceWrites '1' :=
  race_carried (Or.inl rfl) (fun _ => rfl) (race_challenges (Or.inl rfl)) rfl rfl

/-- The other rows after a designation. -/
theorem succession_others (agentIDHex successorIDHex : String)
    (identity successorIdentity : SoulAgentIdentity) (challenge : SoulLifecycleChallenge)
    (reason predSig succSig : String) (parsedTS now : Time) (t : Table) :
    let t' := (successionWrites agentIDHex successorIDHex identity successorIdentity challenge reason
      predSig succSig parsedTS now).foldl Write.apply t
    let declared := continuityEntry agentIDHex SoulContinuityEntryTypeSuccessionDeclared
      "Succession declared" "" (soulDeclaredReferences agentIDHex successorIDHex) predSig parsedTS
    let received := continuityEntry successorIDHex SoulContinuityEntryTypeSuccessionReceived
      "Succession received" "" (soulReceivedReferences agentIDHex successorIDHex) succSig parsedTS
    t'.challenges = Function.update t.challenges challenge.key none ∧
      t'.continuity = Function.update (Function.update t.continuity declared.key (some declared))
        received.key (some received) := by
  simp only [successionWrites, List.foldl_cons, List.foldl_nil, Write.apply, Table.updateIdentity,
    and_self]

/-- The first designation does not stand in the way of the second. -/
theorem race_carried_second :
    carried (.write (raceWrites '2')) sampleChoice ((raceWrites '1').foldl Write.apply raceTable)
      = raceWrites '2' := by
  have htimes : "CONTINUITY#" ++ (raceSigned '2').UTC.UTC.TruncateMillisecond.FormatMillis ++ "#"
        ++ ToLower (TrimSpace SoulContinuityEntryTypeSuccessionReceived)
      ≠ "CONTINUITY#" ++ (raceSigned '1').UTC.UTC.TruncateMillisecond.FormatMillis ++ "#"
        ++ ToLower (TrimSpace SoulContinuityEntryTypeSuccessionReceived) := by decide
  obtain ⟨hchallenges, hentries⟩ := succession_others (agentIDOf '1') (agentIDOf '3') raceIdentity
    raceIdentity (raceChallenge '1') (TrimSpace "") "s" "s" (raceSigned '1') raceNow raceTable
  have hcontinuity : ∀ key, key ≠ (continuityEntry (agentIDOf '1')
        SoulContinuityEntryTypeSuccessionDeclared "Succession declared" ""
        (soulDeclaredReferences (agentIDOf '1') (agentIDOf '3')) "s" (raceSigned '1')).key →
      key ≠ (continuityEntry (agentIDOf '3') SoulContinuityEntryTypeSuccessionReceived
        "Succession received" "" (soulReceivedReferences (agentIDOf '1') (agentIDOf '3')) "s"
        (raceSigned '1')).key →
      ((raceWrites '1').foldl Write.apply raceTable).continuity key = none := by
    intro key h₁ h₂
    rw [raceWrites, hentries, Function.update_of_ne h₂, Function.update_of_ne h₁]
    rfl
  have h1 := normal_agentIDOf (d := '1') (by decide)
  have h3 := normal_agentIDOf (d := '3') (by decide)
  refine race_carried (Or.inr rfl) (fun a => ?_) ?_ (hcontinuity _ ?_ ?_) (hcontinuity _ ?_ ?_)
  · rw [foldl_row, Option.isSome_map]
  · have hkey : (agentIDOf '2', "n") ≠ (raceChallenge '1').key :=
      fun heq => agentIDOf_ne (by decide) (Prod.mk.inj heq).1
    rw [raceWrites, hchallenges, Function.update_of_ne hkey]
    exact race_challenges (Or.inr rfl)
  · rw [continuityEntry_key h1]
    exact fun heq => agentIDOf_ne (by decide) (Prod.mk.inj heq).1
  · rw [continuityEntry_key h3]
    exact fun heq => agentIDOf_ne (by decide) (Prod.mk.inj heq).1
  · rw [continuityEntry_key h1]
    exact fun heq => agentIDOf_ne (by decide) (Prod.mk.inj heq).1
  · rw [continuityEntry_key h3]
    exact fun heq => htimes (Prod.mk.inj heq).2

end Race

def raceRequests : Bool → Request
  | false => .designateSuccessor (agentIDOf '1') (raceRequest '1')
  | true => .designateSuccessor (agentIDOf '2') (raceRequest '2')

def raceLifecycle : Config Bool Op Op.Res AppTheoryError Response (Traced Bool Op Table Choice) :=
  lifecycle sampleServer (fun _ => .ok ()) raceRequests raceTable

/-- Both requests come to their transactions, and then each of them commits. -/
def raceMoves : List (Bool × Choice) :=
  (List.replicate 6 sampleChoice).map (fun c => (false, c)) ++
    ((List.replicate 6 sampleChoice).map (fun c => (true, c)) ++
      [(false, sampleChoice), (true, sampleChoice)])

theorem race_state : (raceLifecycle.run (Traced.env tableEnv) raceMoves).state.state
    = (raceWrites '2').foldl Write.apply ((raceWrites '1').foldl Write.apply raceTable) := by
  obtain ⟨k₁, log₁, hgoes₁⟩ := race_goes false [] (Or.inl (Eq.refl '1'))
  obtain ⟨k₂, log₂, hgoes₂⟩ := race_goes true log₁ (Or.inr (Eq.refl '2'))
  obtain ⟨hrun₁, -⟩ := Config.run_goes (Traced.env tableEnv) raceLifecycle
    (P := fun _ o _ _ => ∀ ws, o ≠ .write ws) false hgoes₁
  rw [raceMoves, Config.run_append, hrun₁, Config.run_append]
  obtain ⟨hrun₂, -⟩ := Config.run_goes (Traced.env tableEnv)
    ⟨⟨raceTable, log₁⟩, Function.update raceLifecycle.threads false (.op (.write (raceWrites '1')) k₁)⟩
    (P := fun _ o _ _ => ∀ ws, o ≠ .write ws) true hgoes₂
  rw [hrun₂]
  generalize hcfg : Config.mk (⟨raceTable, log₂⟩ : Traced Bool Op Table Choice) _ = cfg
  have hfirst : cfg.threads false = .op (.write (raceWrites '1')) k₁ := by
    rw [← hcfg]
    rfl
  have hsecond : (cfg.step (Traced.env tableEnv) (false, sampleChoice)).threads true
      = .op (.write (raceWrites '2')) k₂ := by
    rw [Config.step_other (by decide), ← hcfg]
    rfl
  have htable : cfg.state.state = raceTable := by rw [← hcfg]
  rw [Config.run, List.foldl_cons, List.foldl_cons, List.foldl_nil]
  rw [Traced.step_state (m := (true, sampleChoice)) hsecond,
    Traced.step_state (m := (false, sampleChoice)) hfirst, htable, tableEnv_handle, tableEnv_handle,
    handle_write (raceWrites '1'), race_carried_first, handle_write, race_carried_second]

/-- **Two agents can designate one successor.** -/
theorem not_succession_one_to_one :
    ¬ OneToOne (raceLifecycle.run (Traced.env tableEnv) raceMoves).state.state := by
  intro h
  rw [race_state] at h
  have hrow : (raceTable.identities (agentIDOf '1')).isSome = true ∧
      (raceTable.identities (agentIDOf '2')).isSome = true := by
    rw [raceTable]
    dsimp only
    rw [if_pos (by simp), if_pos (by simp)]
    exact ⟨rfl, rfl⟩
  refine agentIDOf_ne (c := '1') (d := '2') (by decide) (h.unique _ _ (agentIDOf '3') ?_ ?_)
  · rw [race_successor_other (Or.inr rfl) (agentIDOf_ne (by decide))]
    exact race_successor (Or.inl rfl) hrow.1
  · refine race_successor (Or.inr rfl) ?_
    rw [foldl_row, Option.isSome_map]
    exact hrow.2

/-- The first designation alone. -/
def raceFirst : List (Bool × Choice) :=
  (List.replicate 6 sampleChoice).map (fun c => (false, c)) ++ [(false, sampleChoice)]

theorem raceTable_links (a : String) :
    raceTable.successor a = none ∧ raceTable.predecessor a = none := by
  unfold Table.successor Table.predecessor raceTable
  dsimp only
  split
  · exact ⟨rfl, rfl⟩
  · exact ⟨rfl, rfl⟩

theorem raceTable_oneToOne : OneToOne raceTable := by
  refine ⟨fun a b => ?_, fun a b c h => ?_, fun a h => ?_⟩
  · rw [(raceTable_links a).1, (raceTable_links b).2]
    exact iff_of_false (by simp) (by simp)
  · rw [(raceTable_links a).1] at h
    cases h
  · obtain ⟨b, hab, -⟩ := Relation.TransGen.head'_iff.1 h
    rw [(raceTable_links a).1] at hab
    cases hab

theorem raceFirst_free :
    Along (Config.step (Traced.env tableEnv)) (Config.Performs Free) raceLifecycle raceFirst := by
  obtain ⟨k, log, hgoes⟩ := race_goes false [] (Or.inl (Eq.refl '1'))
  obtain ⟨hrun, halong⟩ := Config.run_goes (Traced.env tableEnv) raceLifecycle
    (P := fun _ o _ _ => ∀ ws, o ≠ .write ws) false hgoes
  refine Run.along_append.2 ⟨?_, ?_, trivial⟩
  · refine Along.of_inv (I := fun _ => True) (fun _ _ _ _ => trivial) ?_ trivial halong
    intro cfg m _ hread o k' hop w hw
    rw [(handle_other (hread o k' hop) m.2 cfg.state.state).1] at hw
    cases hw
  · show Config.Performs Free (raceLifecycle.run (Traced.env tableEnv) _) (false, sampleChoice)
    rw [hrun]
    intro o k' hop w hw
    have hsame : Prog.op (.write (raceWrites '1')) k = .op o k' := hop
    cases hsame
    have hw' : w ∈ carried (.write (raceWrites '1')) sampleChoice raceTable := hw
    rw [race_carried_first] at hw'
    show w.Free raceTable
    cases w with
    | updateSuccessor a read identity => exact ⟨(raceTable_links _).1, (raceTable_links _).1, (raceTable_links _).2⟩
    | _ => exact trivial

theorem succession_one_to_one_first :
    OneToOne (raceLifecycle.run (Traced.env tableEnv) raceFirst).state.state := by
  have hfree := raceFirst_free
  unfold raceLifecycle at hfree ⊢
  exact succession_one_to_one sampleServer (fun _ => .ok ()) raceRequests raceTable raceTable_oneToOne
    raceFirst hfree

end LesserHost.SoulLifecycle
