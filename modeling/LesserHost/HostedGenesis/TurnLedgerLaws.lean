import LesserHost.HostedGenesis.TurnLedger

set_option autoImplicit false

/-! # Laws of the turn ledger

A `Ledger` is a list of settled entries no two of which share a turn id or a key; it can only grow
at its end. `normalizeAndValidateLedger` accepts exactly the lists that normalise to a ledger, and
`ApplyTurnLedger` on a ledger replays or appends. Over a whole run every debit is an entry of the
final ledger, so a key is debited at most once.

The replay law holds for a ledger and an incoming turn exactly when no entry in front of the
original one carries the incoming turn id: the loop stops at whichever comes first. -/

namespace LesserHost.HostedGenesis

open LesserHost.Go TurnLedgerEntry

variable {sha256 : Sha256}

/-! ## Ledgers -/

/-- The later entry repeats neither the turn id nor the key of the earlier one. -/
structure Distinct (a b : TurnLedgerEntry) : Prop where
  turnID : b.TurnID ≠ a.TurnID
  key : a.IdempotencyKey ≠ "" → b.IdempotencyKey ≠ a.IdempotencyKey

structure Ledger (sha256 : Sha256) where
  entries : List TurnLedgerEntry
  settled : ∀ e ∈ entries, e.Settled sha256
  distinct : entries.Pairwise Distinct

namespace Ledger

def empty : Ledger sha256 := ⟨[], by simp, List.Pairwise.nil⟩

def append (l : Ledger sha256) (e : TurnLedgerEntry) (he : e.Settled sha256)
    (hnew : ∀ x ∈ l.entries, Distinct x e) : Ledger sha256 where
  entries := l.entries ++ [e]
  settled x hx := by
    rcases List.mem_append.1 hx with hx | hx
    · exact l.settled x hx
    · rw [List.mem_singleton.1 hx]
      exact he
  distinct := by
    refine List.pairwise_append.2 ⟨l.distinct, List.pairwise_singleton _ _, ?_⟩
    intro x hx y hy
    rw [List.mem_singleton.1 hy]
    exact hnew x hx

theorem map_normalize (l : Ledger sha256) :
    l.entries.map (Normalize sha256) = l.entries := by
  rw [List.map_congr_left (g := id) (fun e he => (l.settled e he).normal), List.map_id]

/-- No two entries carry the same key, unless it is empty. -/
theorem keys_nodup (l : Ledger sha256) {key : String} (hkey : key ≠ "") :
    (l.entries.filter fun e => e.IdempotencyKey = key).length ≤ 1 := by
  have hpairs := l.distinct.filter fun e => decide (e.IdempotencyKey = key)
  cases hfilter : l.entries.filter fun e => decide (e.IdempotencyKey = key) with
  | nil => exact Nat.zero_le _
  | cons a rest =>
      cases rest with
      | nil => exact le_rfl
      | cons b rest =>
          have hmem : ∀ x ∈ a :: b :: rest, x.IdempotencyKey = key := by
            intro x hx
            rw [← hfilter] at hx
            simpa using (List.mem_filter.1 hx).2
          have ha := hmem a (by simp)
          have hb := hmem b (by simp)
          rw [hfilter] at hpairs
          have hab := (List.pairwise_cons.1 hpairs).1 b (by simp)
          exact absurd (hb.trans ha.symm) (hab.key (ha ▸ hkey))

end Ledger

/-! ## Validation -/

/-- What the loop accepts, given the turn ids and keys it has seen. -/
structure LoopOk (sha256 : Sha256) (seenTurns : List String)
    (seenIdempotency : List (String × String)) (entries : List TurnLedgerEntry) : Prop where
  valid : ∀ e ∈ entries, (e.Normalize sha256).Valid
  distinct : (entries.map (Normalize sha256)).Pairwise Distinct
  turns : ∀ e ∈ entries, (e.Normalize sha256).TurnID ∉ seenTurns
  keys : ∀ e ∈ entries, (e.Normalize sha256).IdempotencyKey ≠ "" →
    seenIdempotency.lookup (e.Normalize sha256).IdempotencyKey = none

/-- The keys seen after one more entry. -/
def seeKey (e : TurnLedgerEntry) (seenIdempotency : List (String × String)) :
    List (String × String) :=
  if e.IdempotencyKey ≠ "" then (e.IdempotencyKey, e.RequestHash) :: seenIdempotency
  else seenIdempotency

theorem lookup_seeKey {e : TurnLedgerEntry} {seen : List (String × String)} {key : String}
    (hkey : key ≠ "") :
    (seeKey e seen).lookup key = none ↔ key ≠ e.IdempotencyKey ∧ seen.lookup key = none := by
  unfold seeKey
  split_ifs with he
  · rw [List.lookup_cons]
    by_cases heq : key = e.IdempotencyKey
    · simp [heq]
    · have hbeq : (key == e.IdempotencyKey) = false := by simpa using heq
      simp [hbeq, heq]
  · rw [not_not] at he
    rw [he]
    exact ⟨fun h => ⟨hkey, h⟩, fun h => h.2⟩

theorem LoopOk.cons_iff {seenTurns : List String} {seen : List (String × String)}
    {e : TurnLedgerEntry} {rest : List TurnLedgerEntry} :
    LoopOk sha256 seenTurns seen (e :: rest) ↔
      (e.Normalize sha256).Valid ∧ (e.Normalize sha256).TurnID ∉ seenTurns ∧
      ((e.Normalize sha256).IdempotencyKey ≠ "" →
        seen.lookup (e.Normalize sha256).IdempotencyKey = none) ∧
      LoopOk sha256 ((e.Normalize sha256).TurnID :: seenTurns) (seeKey (e.Normalize sha256) seen)
        rest := by
  constructor
  · intro h
    obtain ⟨hhead, htail⟩ := List.pairwise_cons.1 h.distinct
    have hnew : ∀ x ∈ rest, Distinct (e.Normalize sha256) (x.Normalize sha256) :=
      fun x hx => hhead _ (List.mem_map_of_mem hx)
    refine ⟨h.valid e (by simp), h.turns e (by simp), h.keys e (by simp), ?_, htail, ?_, ?_⟩
    · exact fun x hx => h.valid x (List.mem_cons_of_mem _ hx)
    · intro x hx hmem
      rcases List.mem_cons.1 hmem with heq | hmem
      · exact (hnew x hx).turnID heq
      · exact h.turns x (List.mem_cons_of_mem _ hx) hmem
    · intro x hx hkey
      rw [lookup_seeKey hkey]
      refine ⟨?_, h.keys x (List.mem_cons_of_mem _ hx) hkey⟩
      intro heq
      exact (hnew x hx).key (heq ▸ hkey) heq
  · rintro ⟨hvalid, hturn, hkey, h⟩
    refine ⟨?_, ?_, ?_, ?_⟩
    · intro x hx
      rcases List.mem_cons.1 hx with rfl | hx
      · exact hvalid
      · exact h.valid x hx
    · rw [List.map_cons, List.pairwise_cons]
      refine ⟨?_, h.distinct⟩
      intro y hy
      obtain ⟨x, hx, rfl⟩ := List.mem_map.1 hy
      refine ⟨fun heq => h.turns x hx (heq ▸ List.mem_cons_self), ?_⟩
      intro hne heq
      have hx' := h.keys x hx (heq ▸ hne)
      rw [lookup_seeKey (heq ▸ hne)] at hx'
      exact hx'.1 heq
    · intro x hx
      rcases List.mem_cons.1 hx with rfl | hx
      · exact hturn
      · exact fun hmem => h.turns x hx (List.mem_cons_of_mem _ hmem)
    · intro x hx hne
      rcases List.mem_cons.1 hx with rfl | hx
      · exact hkey hne
      · exact ((lookup_seeKey hne).1 (h.keys x hx hne)).2

/-- The loop gives out the normalised entries, and exactly when it has nothing to object. -/
theorem normalizeLoop_ok {seenTurns : List String} {seen : List (String × String)}
    {out res : List TurnLedgerEntry} (entries : List TurnLedgerEntry) :
    normalizeLoop sha256 seenTurns seen out entries = .ok res ↔
      LoopOk sha256 seenTurns seen entries ∧ res = out ++ entries.map (Normalize sha256) := by
  induction entries generalizing seenTurns seen out with
  | nil =>
      have hempty : LoopOk sha256 seenTurns seen [] :=
        ⟨by simp, List.Pairwise.nil, by simp, by simp⟩
      simp only [normalizeLoop, Except.ok.injEq, List.map_nil, List.append_nil]
      exact ⟨fun h => ⟨hempty, h.symm⟩, fun h => h.2.symm⟩
  | cons e rest ih =>
      have happend : out ++ (e :: rest).map (Normalize sha256)
          = out ++ [e.Normalize sha256] ++ rest.map (Normalize sha256) := by simp
      rw [LoopOk.cons_iff, happend]
      have hvalidate : (e.Normalize sha256).Validate sha256 = .ok () ↔ (e.Normalize sha256).Valid := by
        rw [Validate_ok, Normalize_idem]
      simp only [normalizeLoop]
      generalize e.Normalize sha256 = n at hvalidate ⊢
      cases hcheck : n.Validate sha256 with
      | error err =>
          have hinvalid : ¬ n.Valid := by
            intro hvalid
            rw [hvalidate.2 hvalid] at hcheck
            cases hcheck
          simp [hinvalid]
      | ok u =>
          have hvalid : n.Valid := hvalidate.1 hcheck
          by_cases hturn : n.TurnID ∈ seenTurns
          · simp [hturn]
          · by_cases hkey : n.IdempotencyKey = ""
            · have hsee : seeKey n seen = seen := if_neg (not_not.2 hkey)
              simp only [hkey, ne_eq, not_true_eq_false, if_false, ih, hsee, hvalid, hturn,
                not_false_eq_true, true_and, false_imp_iff]
            · have hsee : seeKey n seen = (n.IdempotencyKey, n.RequestHash) :: seen := if_pos hkey
              cases hlookup : seen.lookup n.IdempotencyKey with
              | none =>
                  simp only [ne_eq, hkey, not_false_eq_true, if_true, if_false, ih, hsee, hvalid,
                    hturn, true_and, true_imp_iff]
              | some hash =>
                  simp only [hturn, ne_eq, hkey, not_false_eq_true, if_true, if_false, true_imp_iff,
                    reduceCtorEq, false_and, and_false, iff_false]
                  split_ifs <;> simp

/-- **Validation accepts exactly what normalises to a ledger.** -/
theorem normalizeAndValidateLedger_ok {entries res : List TurnLedgerEntry} :
    normalizeAndValidateLedger sha256 entries = .ok res ↔
      res = entries.map (Normalize sha256) ∧ ∃ l : Ledger sha256, l.entries = res := by
  have hloop : normalizeAndValidateLedger sha256 entries = .ok res ↔
      LoopOk sha256 [] [] entries ∧ res = entries.map (Normalize sha256) := by
    unfold normalizeAndValidateLedger
    split_ifs with hlength
    · obtain rfl := List.length_eq_zero_iff.1 hlength
      exact normalizeLoop_ok []
    · exact normalizeLoop_ok entries
  rw [hloop]
  constructor
  · rintro ⟨h, rfl⟩
    refine ⟨rfl, ⟨_, ?_, h.distinct⟩, rfl⟩
    intro x hx
    obtain ⟨e, he, rfl⟩ := List.mem_map.1 hx
    exact ⟨Normalize_idem e, h.valid e he⟩
  · rintro ⟨hres, l, hl⟩
    refine ⟨⟨?_, ?_, by simp, by simp⟩, hres⟩
    · intro e he
      refine (l.settled (e.Normalize sha256) ?_).valid
      rw [hl, hres]
      exact List.mem_map_of_mem he
    · rw [← hres, ← hl]
      exact l.distinct

theorem ValidateTurnLedger_ok {entries : List TurnLedgerEntry} :
    ValidateTurnLedger sha256 entries = .ok () ↔
      ∃ l : Ledger sha256, l.entries = entries.map (Normalize sha256) := by
  unfold ValidateTurnLedger
  constructor
  · intro h
    split at h
    · cases h
    · next res hres =>
        obtain ⟨rfl, l, hl⟩ := normalizeAndValidateLedger_ok.1 hres
        exact ⟨l, hl⟩
  · rintro ⟨l, hl⟩
    rw [normalizeAndValidateLedger_ok.2 ⟨rfl, l, hl⟩]

theorem Ledger.validated (l : Ledger sha256) :
    normalizeAndValidateLedger sha256 l.entries = .ok l.entries :=
  normalizeAndValidateLedger_ok.2 ⟨l.map_normalize.symm, l, rfl⟩

/-! ## Applying a turn -/

section Apply

variable {now : Time} {incoming : TurnLedgerEntry} {d : TurnLedgerDecision}

/-- A turn that is itself valid needs no defaults. -/
theorem withDefaults_of_valid {entries : List TurnLedgerEntry} (h : incoming.Valid) :
    withDefaults now entries incoming = incoming := by
  have hcount : ¬ incoming.MessageCount ≤ 0 := by
    have := h.messageCount
    omega
  simp only [withDefaults, if_neg hcount, h.acceptedAt, Bool.false_eq_true, if_false]

/-- Defaults keep a normalised turn normalised. -/
theorem Normalize_withDefaults (now : Time) (entries : List TurnLedgerEntry)
    (h : incoming.Normalize sha256 = incoming) :
    (withDefaults now entries incoming).Normalize sha256 = withDefaults now entries incoming := by
  have hid := congrArg TurnID h
  have hkey := congrArg IdempotencyKey h
  have hhash := congrArg RequestHash h
  have hinput := congrArg InputCheckpointRef h
  have hassistant := congrArg AssistantCheckpointRef h
  have hbilling := congrArg BillingLedgerRef h
  have htime := congrArg AcceptedAt h
  simp only [Normalize] at hid hkey hhash hinput hassistant hbilling htime
  simp only [Normalize, withDefaults, hid, hkey, hhash, hinput, hassistant, hbilling,
    TurnLedgerEntry.mk.injEq, true_and]
  split_ifs
  · exact Time.utcIfSet_UTC now
  · exact htime

/-- The search goes past entries that carry neither the key nor the turn id. -/
theorem findReplay_append {pre rest : List TurnLedgerEntry}
    (hkey : ∀ x ∈ pre, x.IdempotencyKey ≠ incoming.IdempotencyKey)
    (hturn : ∀ x ∈ pre, x.TurnID ≠ incoming.TurnID) :
    findReplay incoming (pre ++ rest) = findReplay incoming rest := by
  induction pre with
  | nil => rfl
  | cons x pre ih =>
      have hx : ¬ (incoming.IdempotencyKey ≠ "" ∧ x.IdempotencyKey = incoming.IdempotencyKey) :=
        fun h => hkey x (by simp) h.2
      simp only [List.cons_append, findReplay, if_neg hx, if_neg (hturn x (by simp))]
      exact ih (fun y hy => hkey y (List.mem_cons_of_mem _ hy))
        (fun y hy => hturn y (List.mem_cons_of_mem _ hy))

/-- The search stops at the first entry with the incoming turn id, if it has not met the key. -/
theorem findReplay_duplicate {pre rest : List TurnLedgerEntry}
    (hkey : ∀ x ∈ pre, x.IdempotencyKey ≠ incoming.IdempotencyKey)
    (hturn : ∃ x ∈ pre, x.TurnID = incoming.TurnID) :
    findReplay incoming (pre ++ rest) = .error ErrDuplicateTurnID := by
  induction pre with
  | nil =>
      obtain ⟨x, hx, -⟩ := hturn
      cases hx
  | cons x pre ih =>
      have hx : ¬ (incoming.IdempotencyKey ≠ "" ∧ x.IdempotencyKey = incoming.IdempotencyKey) :=
        fun h => hkey x (by simp) h.2
      simp only [List.cons_append, findReplay, if_neg hx]
      by_cases heq : x.TurnID = incoming.TurnID
      · rw [if_pos heq]
      · rw [if_neg heq]
        refine ih (fun y hy => hkey y (List.mem_cons_of_mem _ hy)) ?_
        obtain ⟨y, hy, hyid⟩ := hturn
        rcases List.mem_cons.1 hy with rfl | hy
        · exact absurd hyid heq
        · exact ⟨y, hy, hyid⟩

theorem findReplay_none {entries : List TurnLedgerEntry}
    (h : findReplay incoming entries = .ok none) : ∀ x ∈ entries, Distinct x incoming := by
  induction entries with
  | nil => simp
  | cons e rest ih =>
      simp only [findReplay] at h
      by_cases hkey : incoming.IdempotencyKey ≠ "" ∧ e.IdempotencyKey = incoming.IdempotencyKey
      · rw [if_pos hkey] at h
        split_ifs at h
        cases h
      · rw [if_neg hkey] at h
        split_ifs at h with hturn
        intro x hx
        rcases List.mem_cons.1 hx with rfl | hx
        · exact ⟨fun heq => hturn heq.symm, fun hne heq => hkey ⟨heq ▸ hne, heq.symm⟩⟩
        · exact ih h x hx

/-- One turn on a ledger: a replay leaves the entries, and anything else that is accepted is a
    settled entry that repeats nothing, debited and put at the end. -/
theorem ApplyTurnLedger_ok (l : Ledger sha256)
    (h : ApplyTurnLedger sha256 now l.entries incoming = .ok d) :
    (d.ShouldDebit = false ∧ d.Entries = l.entries) ∨
    (d.ShouldDebit = true ∧ d.Entries = l.entries ++ [d.Turn] ∧ d.Turn.Settled sha256 ∧
      ∀ x ∈ l.entries, Distinct x d.Turn) := by
  unfold ApplyTurnLedger at h
  rw [l.validated] at h
  simp only [bind, Except.bind] at h
  split at h
  · cases h
  · next u hvalidate =>
      split at h
      · cases h
      · next entry hfind =>
          split at h
          · cases h
            exact Or.inl ⟨rfl, rfl⟩
          · cases h
            refine Or.inr ⟨rfl, rfl, ?_, findReplay_none hfind⟩
            have hincoming : (incoming.Normalize sha256).Normalize sha256
                = incoming.Normalize sha256 := Normalize_idem incoming
            have hnormal := Normalize_withDefaults now l.entries hincoming
            refine ⟨hnormal, ?_⟩
            have hvalid := Validate_ok.1 hvalidate
            rwa [hnormal] at hvalid

end Apply

/-! ## Runs -/

/-- A ledger under use, and the turns that were debited so far. -/
structure LedgerRun where
  entries : List TurnLedgerEntry
  debited : List TurnLedgerEntry

/-- Feed one turn, at a time of the clock: keep the ledger on an error, take over the returned
    entries otherwise. -/
def stepLedger (sha256 : Sha256) (r : LedgerRun) (turn : Time × TurnLedgerEntry) : LedgerRun :=
  match ApplyTurnLedger sha256 turn.1 r.entries turn.2 with
  | .error _ => r
  | .ok d => ⟨d.Entries, if d.ShouldDebit then r.debited ++ [d.Turn] else r.debited⟩

def runLedger (sha256 : Sha256) (turns : List (Time × TurnLedgerEntry)) : LedgerRun :=
  turns.foldl (stepLedger sha256) ⟨[], []⟩

/-- The entries form a ledger, and they are the debited turns. -/
def RunOk (sha256 : Sha256) (r : LedgerRun) : Prop :=
  ∃ l : Ledger sha256, l.entries = r.entries ∧ r.debited = r.entries

/-- One turn changes nothing, or adds one entry to the ledger and to the debits. -/
theorem stepLedger_cases {r : LedgerRun} (h : RunOk sha256 r) (turn : Time × TurnLedgerEntry) :
    RunOk sha256 (stepLedger sha256 r turn) ∧
      (stepLedger sha256 r turn = r ∨
        ∃ e, stepLedger sha256 r turn = ⟨r.entries ++ [e], r.debited ++ [e]⟩) := by
  obtain ⟨l, hl, hdebited⟩ := h
  unfold stepLedger
  split
  · exact ⟨⟨l, hl, hdebited⟩, Or.inl rfl⟩
  · next d hd =>
      rw [← hl] at hd
      rcases ApplyTurnLedger_ok l hd with ⟨hdebit, hentries⟩ | ⟨hdebit, hentries, hsettled, hnew⟩
      · rw [hdebit, hentries, hl]
        exact ⟨⟨l, hl, hdebited⟩, Or.inl rfl⟩
      · rw [hdebit, hentries, hl]
        refine ⟨⟨l.append d.Turn hsettled hnew, ?_, ?_⟩, Or.inr ⟨d.Turn, rfl⟩⟩
        · show l.entries ++ [d.Turn] = r.entries ++ [d.Turn]
          rw [hl]
        · show r.debited ++ [d.Turn] = r.entries ++ [d.Turn]
          rw [hdebited]

theorem runLedger_ok (turns : List (Time × TurnLedgerEntry)) :
    RunOk sha256 (runLedger sha256 turns) := by
  have key : ∀ (turns : List (Time × TurnLedgerEntry)) (r : LedgerRun), RunOk sha256 r →
      RunOk sha256 (turns.foldl (stepLedger sha256) r) := by
    intro turns
    induction turns with
    | nil => exact fun r h => h
    | cons turn turns ih => exact fun r h => ih _ (stepLedger_cases h turn).1
  exact key turns ⟨[], []⟩ ⟨Ledger.empty, rfl, rfl⟩

/-- **At most one debit for a key.** In every run from the empty ledger the ledger validates and
    comes out of validation as it went in; the next turn leaves everything as it is or adds one entry
    at the end, which it debits; there are as many debits as entries; and a key is debited at most
    once. -/
theorem ledger_run (sha256 : Sha256) (turns : List (Time × TurnLedgerEntry)) :
    let r := runLedger sha256 turns
    ValidateTurnLedger sha256 r.entries = .ok () ∧
    normalizeAndValidateLedger sha256 r.entries = .ok r.entries ∧
    (∀ turn, stepLedger sha256 r turn = r ∨
      ∃ e, stepLedger sha256 r turn = ⟨r.entries ++ [e], r.debited ++ [e]⟩) ∧
    r.debited.length = r.entries.length ∧
    (∀ key, key ≠ "" → (r.debited.filter fun e => e.IdempotencyKey = key).length ≤ 1) := by
  intro r
  have hok : RunOk sha256 r := runLedger_ok turns
  obtain ⟨l, hl, hdebited⟩ := hok
  refine ⟨?_, ?_, ?_, ?_, ?_⟩
  · rw [ValidateTurnLedger_ok, ← hl]
    exact ⟨l, l.map_normalize.symm⟩
  · rw [← hl]
    exact l.validated
  · exact fun turn => (stepLedger_cases ⟨l, hl, hdebited⟩ turn).2
  · rw [hdebited]
  · intro key hkey
    rw [hdebited, ← hl]
    exact l.keys_nodup hkey

/-! ## The replay law -/

section Replay

variable {now : Time} {existing : List TurnLedgerEntry} {incoming : TurnLedgerEntry}

/-- The law: the entry with the incoming key is replayed when the request hashes agree, and the
    turn is refused as a conflict when they differ. -/
def Replays (sha256 : Sha256) (now : Time) (existing : List TurnLedgerEntry)
    (incoming : TurnLedgerEntry) : Prop :=
  ∀ e ∈ existing,
    (e.Normalize sha256).IdempotencyKey = (incoming.Normalize sha256).IdempotencyKey →
    ((e.Normalize sha256).RequestHash = (incoming.Normalize sha256).RequestHash →
      ApplyTurnLedger sha256 now existing incoming = .ok {
        Entries := existing.map (Normalize sha256)
        Turn := e.Normalize sha256
        Replayed := true
        ShouldDebit := false
        LatestTurnID := (e.Normalize sha256).TurnID
        MessageCount := (e.Normalize sha256).MessageCount }) ∧
    ((e.Normalize sha256).RequestHash ≠ (incoming.Normalize sha256).RequestHash →
      ∃ err, ApplyTurnLedger sha256 now existing incoming = .error err ∧
        err.sentinel = .idempotencyConflict)

/-- On a valid ledger and a valid turn everything is up to the search. -/
theorem ApplyTurnLedger_of_valid (l : Ledger sha256)
    (hl : l.entries = existing.map (Normalize sha256)) (hincoming : incoming.Validate sha256 = .ok ()) :
    ApplyTurnLedger sha256 now existing incoming =
      match findReplay (incoming.Normalize sha256) (existing.map (Normalize sha256)) with
      | .error err => .error err
      | .ok (some e) => .ok {
          Entries := existing.map (Normalize sha256)
          Turn := e
          Replayed := true
          ShouldDebit := false
          LatestTurnID := e.TurnID
          MessageCount := e.MessageCount }
      | .ok none => .ok {
          Entries := existing.map (Normalize sha256) ++ [incoming.Normalize sha256]
          Turn := incoming.Normalize sha256
          Replayed := false
          ShouldDebit := true
          LatestTurnID := (incoming.Normalize sha256).TurnID
          MessageCount := (incoming.Normalize sha256).MessageCount } := by
  have hvalidate : (incoming.Normalize sha256).Validate sha256 = .ok () :=
    (Settled.of_validate hincoming).validate
  unfold ApplyTurnLedger
  rw [normalizeAndValidateLedger_ok.2 ⟨rfl, l, hl⟩]
  simp only [bind, Except.bind, withDefaults_of_valid (Validate_ok.1 hincoming), hvalidate]
  cases findReplay (incoming.Normalize sha256) (existing.map (Normalize sha256)) with
  | error err => rfl
  | ok o => cases o <;> rfl

/-- In front of the entry with a key nobody carries it. -/
theorem key_ne_of_pre (l : Ledger sha256) {pre post : List TurnLedgerEntry} {e : TurnLedgerEntry}
    (hl : l.entries = pre ++ e :: post) {key : String} (hkey : key ≠ "")
    (he : e.IdempotencyKey = key) : ∀ x ∈ pre, x.IdempotencyKey ≠ key := by
  intro x hx heq
  have hpairs := l.distinct
  rw [hl] at hpairs
  have hxe := (List.pairwise_append.1 hpairs).2.2 x hx e List.mem_cons_self
  exact hxe.key (heq ▸ hkey) (he.trans heq.symm)

/-- **When the replay law holds.** For a valid ledger and a valid turn with a key: exactly when no
    entry in front of the one with the key carries the incoming turn id. -/
theorem replays_iff (sha256 : Sha256) (now : Time) (existing : List TurnLedgerEntry)
    (incoming : TurnLedgerEntry) (hledger : ValidateTurnLedger sha256 existing = .ok ())
    (hincoming : incoming.Validate sha256 = .ok ())
    (hkey : (incoming.Normalize sha256).IdempotencyKey ≠ "") :
    Replays sha256 now existing incoming ↔
      ∀ pre e post, existing = pre ++ e :: post →
        (e.Normalize sha256).IdempotencyKey = (incoming.Normalize sha256).IdempotencyKey →
        ∀ x ∈ pre, TrimSpace x.TurnID ≠ TrimSpace incoming.TurnID := by
  obtain ⟨l, hl⟩ := ValidateTurnLedger_ok.1 hledger
  have hsplit : ∀ pre e post, existing = pre ++ e :: post →
      existing.map (Normalize sha256)
        = pre.map (Normalize sha256) ++ e.Normalize sha256 :: post.map (Normalize sha256) := by
    intro pre e post hexisting
    rw [hexisting, List.map_append, List.map_cons]
  constructor
  · intro hlaw pre e post hexisting he x hx hturn
    have hpre := key_ne_of_pre l (hl.trans (hsplit pre e post hexisting)) hkey he
    have happly : ApplyTurnLedger sha256 now existing incoming = .error ErrDuplicateTurnID := by
      rw [ApplyTurnLedger_of_valid l hl hincoming, hsplit pre e post hexisting,
        findReplay_duplicate hpre ⟨_, List.mem_map_of_mem hx, hturn⟩]
    obtain ⟨hreplay, hconflict⟩ := hlaw e (by rw [hexisting]; simp) he
    by_cases hhash : (e.Normalize sha256).RequestHash = (incoming.Normalize sha256).RequestHash
    · have hok := hreplay hhash
      rw [happly] at hok
      cases hok
    · obtain ⟨err, herr, hsentinel⟩ := hconflict hhash
      rw [happly] at herr
      cases herr
      cases hsentinel
  · intro hcond e he hmatch
    obtain ⟨pre, post, hexisting⟩ := List.append_of_mem he
    have hpre := key_ne_of_pre l (hl.trans (hsplit pre e post hexisting)) hkey hmatch
    have hturn : ∀ y ∈ pre.map (Normalize sha256), y.TurnID ≠ (incoming.Normalize sha256).TurnID := by
      intro y hy
      obtain ⟨x, hx, rfl⟩ := List.mem_map.1 hy
      exact hcond pre e post hexisting hmatch x hx
    have hfind : findReplay (incoming.Normalize sha256) (existing.map (Normalize sha256))
        = if (e.Normalize sha256).RequestHash ≠ (incoming.Normalize sha256).RequestHash then
            .error (ErrIdempotencyConflict.wrap "idempotency key already used for a different request")
          else .ok (some (e.Normalize sha256)) := by
      rw [hsplit pre e post hexisting, findReplay_append hpre hturn, findReplay,
        if_pos ⟨hkey, hmatch⟩]
    refine ⟨?_, ?_⟩
    · intro hhash
      rw [ApplyTurnLedger_of_valid l hl hincoming, hfind, if_neg (not_not.2 hhash)]
    · intro hhash
      refine ⟨ErrIdempotencyConflict.wrap "idempotency key already used for a different request",
        ?_, rfl⟩
      rw [ApplyTurnLedger_of_valid l hl hincoming, hfind, if_pos hhash]

end Replay

/-- A turn with the given id, key and count; its request hash repeats one digit. -/
def sampleTurn (turnID key : String) (digit : Char) (n : Nat) : TurnLedgerEntry where
  TurnID := turnID
  IdempotencyKey := key
  RequestHash := String.ofList (List.replicate 64 digit)
  InputCheckpointRef := ""
  AssistantCheckpointRef := ""
  BillingLedgerRef := ""
  ChargedCredits := 1
  MessageCount := n
  AcceptedAt := ⟨n, .utc⟩

def sampleLedger : List TurnLedgerEntry :=
  [sampleTurn "turn_1" "idem_1" 'a' 1, sampleTurn "turn_2" "idem_2" 'b' 2]

def sampleHash : Sha256 := fun _ => Vector.replicate 32 0

section Sample

variable {turnID key : String} {digit : Char} {n : Nat}

theorem mem_sampleDigits (hdigit : isLowerHexChar digit = true) :
    ∀ c ∈ List.replicate 64 digit, isLowerHexChar c = true := by
  intro c hc
  rw [(List.mem_replicate.1 hc).2]
  exact hdigit

theorem sampleTurn_normal (hturn : TrimSpace turnID = turnID) (hkey : TrimSpace key = key)
    (hdigit : isLowerHexChar digit = true) :
    (sampleTurn turnID key digit n).Normalize sha256 = sampleTurn turnID key digit n := by
  have hempty : TrimSpace "" = "" := by decide
  have htime : (⟨n, .utc⟩ : Time).utcIfSet = ⟨n, .utc⟩ := by
    unfold Time.utcIfSet
    split_ifs <;> rfl
  simp only [sampleTurn, Normalize, hturn, hkey, hempty, htime, NormalizeCheckpointRef_empty,
    TrimSpace_hex (mem_sampleDigits hdigit), ToLower_hex (mem_sampleDigits hdigit)]

theorem sampleTurn_settled (hturn : TrimSpace turnID = turnID) (hkey : TrimSpace key = key)
    (hdigit : isLowerHexChar digit = true) (hid : turnID ≠ "") (hn : 0 < n) :
    (sampleTurn turnID key digit n).Settled sha256 := by
  have hmem := mem_sampleDigits hdigit
  refine ⟨sampleTurn_normal hturn hkey hdigit, hid, ?_, ?_, Int.one_nonneg, ?_⟩
  · show 0 < (n : Int)
    omega
  · have hne : (n : Int) ≠ 0 := by omega
    exact beq_eq_false_iff_ne.2 hne
  · intro _
    show isSHA256HexOrDigest (String.ofList (List.replicate 64 digit)) = true
    simp only [isSHA256HexOrDigest, TrimSpace_hex hmem, ToLower_hex hmem, len,
      String.toList_ofList, sum_utf8Size_of_hex hmem, List.length_replicate, beq_self_eq_true,
      Bool.true_and, Bool.or_eq_true, List.all_eq_true]
    exact Or.inr hmem

end Sample

theorem sampleLedger_settled : ∀ e ∈ sampleLedger, e.Settled sampleHash := by
  intro e he
  rcases List.mem_cons.1 he with rfl | he
  · exact sampleTurn_settled (by decide) (by decide) (by decide) (by decide) (by decide)
  · obtain rfl := List.mem_singleton.1 he
    exact sampleTurn_settled (by decide) (by decide) (by decide) (by decide) (by decide)

theorem sampleLedger_normal : sampleLedger.map (Normalize sampleHash) = sampleLedger := by
  rw [List.map_congr_left fun e he => (sampleLedger_settled e he).normal, List.map_id']

def Ledger.sample : Ledger sampleHash where
  entries := sampleLedger
  settled := sampleLedger_settled
  distinct := by
    have hturn : "turn_2" ≠ "turn_1" := by decide
    have hkey : "idem_2" ≠ "idem_1" := by decide
    exact List.pairwise_pair.2 ⟨hturn, fun _ => hkey⟩

theorem sampleLedger_valid : ValidateTurnLedger sampleHash sampleLedger = .ok () :=
  ValidateTurnLedger_ok.2 ⟨.sample, sampleLedger_normal.symm⟩

/-- A fresh turn id in front of nothing: the second entry is replayed. -/
theorem replays_iff_fresh :
    Replays sampleHash ⟨9, .utc⟩ sampleLedger (sampleTurn "turn_3" "idem_2" 'b' 3) := by
  have hsettled : (sampleTurn "turn_3" "idem_2" 'b' 3).Settled sampleHash :=
    sampleTurn_settled (by decide) (by decide) (by decide) (by decide) (by decide)
  have hkey : ((sampleTurn "turn_3" "idem_2" 'b' 3).Normalize sampleHash).IdempotencyKey ≠ "" := by
    rw [hsettled.normal]
    show "idem_2" ≠ ""
    decide
  refine (replays_iff sampleHash ⟨9, .utc⟩ sampleLedger (sampleTurn "turn_3" "idem_2" 'b' 3)
    sampleLedger_valid hsettled.validate hkey).2 ?_
  intro pre e post hexisting _ x hx
  have hmem : x ∈ sampleLedger := by
    rw [hexisting]
    exact List.mem_append_left _ hx
  rcases List.mem_cons.1 hmem with rfl | hmem
  · show TrimSpace "turn_1" ≠ TrimSpace "turn_3"
    decide
  · obtain rfl := List.mem_singleton.1 hmem
    show TrimSpace "turn_2" ≠ TrimSpace "turn_3"
    decide

/-- The retry of the second request under the turn id of the first: the search meets the first entry
    before the key, and the request that was accepted is refused. -/
theorem not_replays_shadowed :
    ValidateTurnLedger sampleHash sampleLedger = .ok () ∧
    (sampleTurn "turn_1" "idem_2" 'b' 3).Validate sampleHash = .ok () ∧
    ApplyTurnLedger sampleHash ⟨9, .utc⟩ sampleLedger (sampleTurn "turn_1" "idem_2" 'b' 3)
      = .error ErrDuplicateTurnID ∧
    ¬ Replays sampleHash ⟨9, .utc⟩ sampleLedger (sampleTurn "turn_1" "idem_2" 'b' 3) := by
  have hsettled : (sampleTurn "turn_1" "idem_2" 'b' 3).Settled sampleHash :=
    sampleTurn_settled (by decide) (by decide) (by decide) (by decide) (by decide)
  have hsecond : sampleTurn "turn_2" "idem_2" 'b' 2 ∈ sampleLedger :=
    List.mem_cons_of_mem _ List.mem_cons_self
  have hfind : findReplay (sampleTurn "turn_1" "idem_2" 'b' 3) sampleLedger
      = .error ErrDuplicateTurnID := by
    have hkey : "idem_1" ≠ "idem_2" := by decide
    have hfirst : ∀ x ∈ [sampleTurn "turn_1" "idem_1" 'a' 1],
        x.IdempotencyKey ≠ (sampleTurn "turn_1" "idem_2" 'b' 3).IdempotencyKey := by
      intro x hx
      rw [List.mem_singleton.1 hx]
      exact hkey
    show findReplay _ ([sampleTurn "turn_1" "idem_1" 'a' 1] ++ [sampleTurn "turn_2" "idem_2" 'b' 2])
      = .error ErrDuplicateTurnID
    exact findReplay_duplicate hfirst ⟨_, List.mem_cons_self, rfl⟩
  have happly : ApplyTurnLedger sampleHash ⟨9, .utc⟩ sampleLedger
      (sampleTurn "turn_1" "idem_2" 'b' 3) = .error ErrDuplicateTurnID := by
    rw [ApplyTurnLedger_of_valid Ledger.sample sampleLedger_normal.symm hsettled.validate,
      sampleLedger_normal, hsettled.normal, hfind]
  refine ⟨sampleLedger_valid, hsettled.validate, happly, ?_⟩
  intro hlaw
  have hnormal := (sampleLedger_settled _ hsecond).normal
  have hreplay := (hlaw _ hsecond (by rw [hnormal, hsettled.normal]; rfl)).1
    (by rw [hnormal, hsettled.normal]; rfl)
  rw [happly] at hreplay
  cases hreplay

end LesserHost.HostedGenesis
