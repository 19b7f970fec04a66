import LesserHost.HostedGenesis.CandidateValid
import LesserHost.HostedGenesis.SessionStore
import LesserHost.Lib.Versioned

set_option autoImplicit false

/-! # Commits of a session

What each operation of the store does, said once (`Commit.run_ok`): it finds the row at the version and
in the status it expects, and puts a row in its place that is one version on, in a status that may
follow. Readers and writers may come in any order: a commit at the version that was read replaces the row
that was read, and the version counts the commits. -/

namespace LesserHost.HostedGenesis

open LesserHost.Go

/-! ## Normalized rows -/

/-- A check in front of the rest. -/
theorem guard_ok {ε α : Type} {p : Prop} [Decidable p] {e : ε} {x : Except ε α} {a : α} :
    (if p then .error e else x) = .ok a ↔ ¬p ∧ x = .ok a := by
  by_cases h : p
  · rw [if_pos h]
    exact iff_of_false nofun fun hp => hp.1 h
  · rw [if_neg h]
    exact ⟨fun hx => ⟨h, hx⟩, fun hx => hx.2⟩

variable {sv : Services} {now : Time}

theorem normalizeSlug_idem (slug : String) :
    normalizeSlug (normalizeSlug slug) = normalizeSlug slug := by
  rw [normalizeSlug, normalizeSlug, TrimSpace_ToLower_TrimSpace, ToLower_idem]

theorem sessionKey_normal (slug conversationID : String) :
    sessionKey (normalizeSlug slug) (TrimSpace conversationID) = sessionKey slug conversationID := by
  have hpk : HostedGenesisSessionPK (normalizeSlug slug) = HostedGenesisSessionPK slug := by
    unfold HostedGenesisSessionPK
    rw [normalizeSlug_idem]
  have hsk : HostedGenesisSessionSK (TrimSpace conversationID)
      = HostedGenesisSessionSK conversationID := by
    unfold HostedGenesisSessionSK
    rw [TrimSpace_idem]
  unfold sessionKey
  rw [hpk, hsk]

/-- What `BeforeUpdate` makes of a row it accepts, as far as later checks look at it. -/
structure Normalized (sv : Services) (item item' : HostedGenesisSession) : Prop where
  key : (item'.PK, item'.SK) = sessionKey item.InstanceSlug item.ConversationID
  version : item'.Version = item.Version
  status : item'.Status = NormalizeStatus item.Status
  allowed : item'.Status ∈ AllowedStatuses
  candidate : item'.DeclarationCandidate = item.DeclarationCandidate
  checkpoint : item'.DeclarationCheckpoint = item.DeclarationCheckpoint.map fun c =>
    { c with CheckpointRef := NormalizeCheckpointRef sv.sha256 c.CheckpointRef }
  publication : item'.Publication = item.Publication
  failure : item'.Failure = item.Failure
  contract : item'.validateDurableStatusContract = .ok ()

theorem bindDeclarationCandidate_ok {s s' : HostedGenesisSession}
    (h : s.bindDeclarationCandidate sv = .ok s') :
    ∃ revision hash phase, s' = { s with
      CandidateRevision := revision, CandidateHash := hash, CandidatePhase := phase } := by
  unfold HostedGenesisSession.bindDeclarationCandidate at h
  split at h
  · split_ifs at h
    obtain rfl := Except.ok.inj h
    exact ⟨_, _, _, rfl⟩
  · split at h
    · cases h
    · split_ifs at h
      obtain rfl := Except.ok.inj h
      exact ⟨_, _, _, rfl⟩

theorem normalizeVMCheckpoint_ok {s s' : HostedGenesisSession}
    (h : s.normalizeVMCheckpoint sv = .ok s') : ∃ checkpoint, s' = { s with VMCheckpoint := checkpoint } := by
  unfold HostedGenesisSession.normalizeVMCheckpoint at h
  split at h
  · obtain rfl := Except.ok.inj h
    exact ⟨_, rfl⟩
  · dsimp only at h
    split at h
    · cases h
    · obtain rfl := Except.ok.inj h
      exact ⟨_, rfl⟩

/-- What `UpdateKeys` sets. -/
theorem UpdateKeys_ok {s s' : HostedGenesisSession} (h : s.UpdateKeys sv = .ok s') :
    ∃ revision hash phase checkpoint, s' = { s.normalize sv with
      CandidateRevision := revision
      CandidateHash := hash
      CandidatePhase := phase
      VMCheckpoint := checkpoint
      RequestID := TrimSpace s.RequestID
      PK := HostedGenesisSessionPK (normalizeSlug s.InstanceSlug)
      SK := HostedGenesisSessionSK (TrimSpace s.ConversationID) } := by
  simp only [HostedGenesisSession.UpdateKeys, bind_ok, pure_ok] at h
  obtain ⟨bound, hbound, _, -, checked, hchecked, rfl⟩ := h
  obtain ⟨revision, hash, phase, rfl⟩ := bindDeclarationCandidate_ok hbound
  obtain ⟨checkpoint, rfl⟩ := normalizeVMCheckpoint_ok hchecked
  refine ⟨revision, hash, phase, checkpoint, ?_⟩
  simp only [HostedGenesisSession.normalize]

theorem validate_ok {s : HostedGenesisSession} (h : s.validate sv = .ok ()) :
    s.Status ∈ AllowedStatuses ∧ s.validateDurableStatusContract = .ok () := by
  simp only [HostedGenesisSession.validate, seq_ok, guard_ok] at h
  obtain ⟨-, -, -, -, hallowed, hcontract, -⟩ := h
  exact ⟨by simpa [IsAllowedStatus] using hallowed, hcontract⟩

theorem validateAndUpdateKeys_ok {item item' : HostedGenesisSession}
    (h : item.validateAndUpdateKeys sv = .ok item') : Normalized sv item item' := by
  simp only [HostedGenesisSession.validateAndUpdateKeys, bind_ok, pure_ok] at h
  obtain ⟨keyed, hkeyed, _, hvalid, rfl⟩ := h
  obtain ⟨hallowed, hcontract⟩ := validate_ok hvalid
  obtain ⟨revision, hash, phase, checkpoint, hitem⟩ := UpdateKeys_ok hkeyed
  refine ⟨?_, ?_, ?_, hallowed, ?_, ?_, ?_, ?_, hcontract⟩
  · rw [hitem]
    exact sessionKey_normal item.InstanceSlug item.ConversationID
  · simp only [hitem, HostedGenesisSession.normalize]
  · simp only [hitem, HostedGenesisSession.normalize]
  · simp only [hitem, HostedGenesisSession.normalize]
  · simp only [hitem, HostedGenesisSession.normalize]
  · simp only [hitem, HostedGenesisSession.normalize]
  · simp only [hitem, HostedGenesisSession.normalize]

theorem BeforeUpdate_ok {item item' : HostedGenesisSession} (h : item.BeforeUpdate sv now = .ok item') :
    Normalized sv item item' := by
  have hnormalized := validateAndUpdateKeys_ok h
  exact ⟨hnormalized.key, hnormalized.version, hnormalized.status, hnormalized.allowed, hnormalized.candidate,
    hnormalized.checkpoint, hnormalized.publication, hnormalized.failure, hnormalized.contract⟩

/-! ## What an operation does -/

/-- The row an operation puts in the place of the one it finds. -/
inductive Writes (sv : Services) (c : Commit) (status : String) :
    (HostedGenesisSession → HostedGenesisSession) → Prop
  | set (item : HostedGenesisSession) (normalized : Normalized sv c.item item)
      (follows : Follows status item.Status) : Writes sv c status item.set
  | failure (failed : NormalizeStatus c.item.Status = StatusFailed) (follows : Follows status StatusFailed) :
      Writes sv c status c.item.setFailure

/-- The items that do not touch sessions. -/
def TransactItem.Other : TransactItem → Prop
  | .createSession _ => False
  | .updateSession _ _ _ => False
  | .updateConversation _ _ _ => True
  | .updateIdempotency _ _ _ => True

/-- A transaction that updates one session at its version and in its status. -/
def Guarded (items : List TransactItem) (c : Commit) (status : String)
    (update : HostedGenesisSession → HostedGenesisSession) : Prop :=
  ∃ extra rest, items = .updateSession c.key
      ([AtVersion c.expectedVersion, fun row => row.Status == status] ++ extra) update :: rest ∧
    ∀ item ∈ rest, item.Other

theorem refuse_ok {α : Type} {x : Except String α} {a : α} : refuse x = .ok a ↔ x = .ok a := mapError_ok

theorem validateUpdate_ok {item item' : HostedGenesisSession} {version : Int} {expected status : String}
    (h : validateHostedGenesisSessionUpdate sv now item version expected = .ok (item', status)) :
    Normalized sv item item' ∧ Follows status item'.Status := by
  simp only [validateHostedGenesisSessionUpdate, guard_ok, bind_ok, refuse_ok, pure_ok,
    Prod.mk.injEq] at h
  obtain ⟨-, -, item'', hitem, _, htransition, rfl, rfl⟩ := h
  have hnormalized := BeforeUpdate_ok hitem
  rw [ValidateTransition_ok, NormalizeStatus_idem, hnormalized.status, NormalizeStatus_idem] at htransition
  refine ⟨hnormalized, ?_⟩
  rw [hnormalized.status]
  exact htransition

/-- A guarded update with whatever is written beside it. -/
theorem guarded_update {c : Commit} {item : HostedGenesisSession} {status : String}
    {extra : List (HostedGenesisSession → Bool)} {rest : List TransactItem}
    (h : validateHostedGenesisSessionUpdate sv c.now c.item c.expectedVersion c.expectedStatus
      = .ok (item, status)) (hrest : ∀ item ∈ rest, item.Other) :
    ∃ update, Writes sv c status update ∧
      Guarded (addHostedGenesisSessionUpdate item c.expectedVersion status extra :: rest) c status update := by
  obtain ⟨hnormalized, hfollows⟩ := validateUpdate_ok h
  refine ⟨item.set, .set item hnormalized hfollows, extra, rest, ?_, hrest⟩
  rw [addHostedGenesisSessionUpdate, hnormalized.key]
  rfl

theorem guarded_projection {c : Commit} {item : HostedGenesisSession} {status turn hash : String}
    {revision : Int} {phase : DeclarationCandidatePhase} {conversation : SoulAgentMintConversation}
    {messages declarations : Bool}
    (h : validateHostedGenesisSessionUpdate sv c.now c.item c.expectedVersion c.expectedStatus
      = .ok (item, status)) :
    ∃ update, Writes sv c status update ∧
      Guarded (transactHostedGenesisCandidateProjection item c.expectedVersion status turn revision hash
        phase conversation messages declarations) c status update :=
  guarded_update h fun item hitem => by
    rw [List.mem_singleton] at hitem
    rw [hitem]
    trivial

theorem validateFailure_ok {item : HostedGenesisSession} {version : Int} {expected status : String}
    (h : validateHostedGenesisFailureUpdate sv item version expected = .ok status) :
    NormalizeStatus item.Status = StatusFailed ∧ Follows status StatusFailed ∧
      (item.PK, item.SK) = sessionKey item.InstanceSlug item.ConversationID := by
  simp only [validateHostedGenesisFailureUpdate, guard_ok] at h
  obtain ⟨-, -, h⟩ := h
  split at h
  · cases h
  · simp only [guard_ok, seq_ok, refuse_ok, pure_ok, not_or, not_not] at h
    obtain ⟨hstatus, -, htransition, -, ⟨hpk, hsk⟩, rfl⟩ := h
    rw [ValidateTransition_ok, NormalizeStatus_idem, NormalizeStatus_allowed
      (show StatusFailed ∈ AllowedStatuses by decide)] at htransition
    exact ⟨hstatus, htransition, Prod.ext hpk hsk⟩

/-- **The transactions of the six operations.** -/
theorem transaction_ok {c : Commit} {items : List TransactItem} (h : c.transaction sv = .ok items) :
    ∃ status update, Writes sv c status update ∧ Guarded items c status update := by
  unfold Commit.transaction at h
  split at h
  · simp only [UpdateHostedGenesisSession, bind_ok, pure_ok, Prod.exists] at h
    obtain ⟨item, status, hitem, rfl⟩ := h
    exact ⟨status, guarded_update hitem (by simp)⟩
  · simp only [CheckpointHostedGenesisCandidate, guard_ok, bind_ok, pure_ok, Prod.exists] at h
    obtain ⟨-, -, item, status, hitem, rfl⟩ := h
    exact ⟨status, guarded_update hitem (by simp)⟩
  · unfold RecordHostedGenesisAssistantTurnAndConversation at h
    split at h
    · cases h
    · simp only [guard_ok, bind_ok, pure_ok, Prod.exists] at h
      obtain ⟨-, -, item, status, hitem, conversation, -, rfl⟩ := h
      exact ⟨status, guarded_projection hitem⟩
  · unfold FinalizeHostedGenesisCandidateAndConversation at h
    split at h
    · cases h
    · simp only [guard_ok, bind_ok, pure_ok, Prod.exists] at h
      obtain ⟨-, -, -, item, status, hitem, conversation, -, rfl⟩ := h
      exact ⟨status, guarded_projection hitem⟩
  · simp only [FailHostedGenesisSessionAndConversation, guard_ok, bind_ok, pure_ok] at h
    obtain ⟨-, -, status, hstatus, conversation, -, idempotency, -, rfl⟩ := h
    obtain ⟨hfailed, hfollows, hkey⟩ := validateFailure_ok hstatus
    rw [addHostedGenesisSessionFailureUpdate, hkey]
    refine ⟨status, c.item.setFailure, .failure hfailed hfollows, _, _, rfl, fun item hitem => ?_⟩
    rcases List.mem_append.1 hitem with hconversation | hreservation
    · rw [List.mem_singleton] at hconversation
      rw [hconversation]
      trivial
    · obtain ⟨reservation, -, rfl⟩ := List.mem_map.1 hreservation
      trivial
  · simp only [PublishHostedGenesisSessionAndConversation, guard_ok, bind_ok, pure_ok, Prod.exists] at h
    obtain ⟨-, -, item, status, hitem, conversation, -, rfl⟩ := h
    refine ⟨status, guarded_update hitem fun item hitem => ?_⟩
    rw [List.mem_singleton] at hitem
    rw [hitem]
    trivial

theorem TransactWrite_ok {refused : Bool} {items : List TransactItem} {db db' : DB}
    (h : TransactWrite refused items db = .ok db') :
    refused = false ∧ (∀ item ∈ items, item.holds db = true) ∧ db' = items.foldl TransactItem.write db := by
  unfold TransactWrite at h
  split_ifs at h with hrefused hall
  exact ⟨Bool.eq_false_iff.2 hrefused, List.all_eq_true.1 hall, (Except.ok.inj h).symm⟩

theorem write_other {items : List TransactItem} (h : ∀ item ∈ items, item.Other) (db : DB) :
    (items.foldl TransactItem.write db).sessions = db.sessions := by
  induction items generalizing db with
  | nil => rfl
  | cons item items ih =>
      rw [List.foldl_cons, ih fun i hi => h i (List.mem_cons_of_mem _ hi)]
      have hitem := h item List.mem_cons_self
      cases item with
      | createSession => exact hitem.elim
      | updateSession => exact hitem.elim
      | updateConversation => rfl
      | updateIdempotency => rfl

/-- **What a commit does**: it finds the row it expects and puts the next one in its place. -/
theorem Commit.run_ok {c : Commit} {db db' : DB} (h : c.run sv db = .ok db') :
    ∃ old status update, db.sessions c.key = some old ∧ old.Version = c.expectedVersion ∧
      old.Status = status ∧ Writes sv c status update ∧
      db'.sessions = Function.update db.sessions c.key (some (update old)) := by
  rw [Commit.run, bind_ok] at h
  obtain ⟨items, hitems, hwrite⟩ := h
  obtain ⟨status, update, hwrites, extra, rest, rfl, hrest⟩ := transaction_ok hitems
  obtain ⟨-, hholds, rfl⟩ := TransactWrite_ok hwrite
  have hguard := hholds _ List.mem_cons_self
  simp only [TransactItem.holds, Meets, Option.any_eq_true, List.all_append, List.all_cons, List.all_nil,
    Bool.and_true, Bool.and_eq_true, AtVersion, beq_iff_eq] at hguard
  obtain ⟨old, hold, ⟨hversion, hstatus⟩, -⟩ := hguard
  refine ⟨old, status, update, hold, hversion, hstatus, hwrites, ?_⟩
  rw [List.foldl_cons, write_other hrest, TransactItem.write, hold]
  rfl

/-- An update at the version and in the status of the row is accepted. -/
theorem Commit.update_accepted {c : Commit} {db : DB} {old : HostedGenesisSession}
    (hop : c.op = .update) (hrefused : c.refused = false) (h : (c.transaction sv).isOk = true)
    (hold : db.sessions c.key = some old) (hversion : old.Version = c.expectedVersion)
    (hstatus : old.Status = NormalizeStatus c.expectedStatus) : ∃ db', c.run sv db = .ok db' := by
  simp only [Commit.transaction, hop, UpdateHostedGenesisSession] at h
  cases hitem : validateHostedGenesisSessionUpdate sv c.now c.item c.expectedVersion
      c.expectedStatus with
  | error e =>
      rw [hitem] at h
      cases h
  | ok checked =>
      obtain ⟨item, status⟩ := checked
      have htransaction : c.transaction sv
          = .ok [addHostedGenesisSessionUpdate item c.expectedVersion status []] := by
        simp only [Commit.transaction, hop, UpdateHostedGenesisSession, bind_ok, pure_ok, Prod.exists]
        exact ⟨item, status, hitem, rfl⟩
      have hexpected : status = NormalizeStatus c.expectedStatus := by
        simp only [validateHostedGenesisSessionUpdate, guard_ok, bind_ok, refuse_ok, pure_ok,
          Prod.mk.injEq] at hitem
        obtain ⟨-, -, -, -, -, -, -, hs⟩ := hitem
        exact hs.symm
      have hholds : Meets (db.sessions (item.PK, item.SK))
          ([AtVersion c.expectedVersion, fun row => row.Status == status] ++ []) = true := by
        rw [(validateUpdate_ok hitem).1.key]
        have hfound : db.sessions (sessionKey c.item.InstanceSlug c.item.ConversationID) = some old := hold
        simp [Meets, hfound, AtVersion, hversion, hstatus, hexpected]
      have hwrite : TransactWrite c.refused [addHostedGenesisSessionUpdate item c.expectedVersion status []] db
          = .ok (TransactItem.write db (addHostedGenesisSessionUpdate item c.expectedVersion status [])) := by
        rw [TransactWrite, hrefused, if_neg Bool.false_ne_true, if_pos]
        · rfl
        · simp only [List.all_cons, List.all_nil, Bool.and_true]
          exact hholds
      exact ⟨_, bind_ok.2 ⟨_, htransaction, hwrite⟩⟩

theorem Writes.version {c : Commit} {status : String}
    {update : HostedGenesisSession → HostedGenesisSession} (h : Writes sv c status update)
    (old : HostedGenesisSession) : (update old).Version = old.Version + 1 := by
  cases h with
  | set item normalized follows => rfl
  | failure failed follows => rfl

theorem Writes.follows {c : Commit} {status : String}
    {update : HostedGenesisSession → HostedGenesisSession} (h : Writes sv c status update)
    (old : HostedGenesisSession) : Follows status (NormalizeStatus (update old).Status) := by
  cases h with
  | set item normalized follows =>
      rw [HostedGenesisSession.set, normalized.status, NormalizeStatus_idem]
      rw [normalized.status] at follows
      exact follows
  | failure failed follows =>
      rw [HostedGenesisSession.setFailure, failed]
      exact follows

/-- A new row takes a free key. -/
theorem create_ok {item : HostedGenesisSession} {refused : Bool} {db db' : DB}
    (h : create sv now item refused db = .ok db') :
    ∃ item', item.BeforeCreate sv now = .ok item' ∧ db.sessions (item'.PK, item'.SK) = none ∧
      db'.sessions = Function.update db.sessions (item'.PK, item'.SK) (some item') := by
  simp only [create, CreateHostedGenesisSession, bind_ok, refuse_ok, pure_ok] at h
  obtain ⟨items, ⟨item', hitem, rfl⟩, hwrite⟩ := h
  obtain ⟨-, hholds, rfl⟩ := TransactWrite_ok hwrite
  have hfree := hholds _ List.mem_cons_self
  rw [TransactItem.holds, Option.isNone_iff_eq_none] at hfree
  exact ⟨item', hitem, hfree, rfl⟩

/-! ## Readers and writers -/

/-- The table, and of each writer the row it has read last. A reader gets this row with its candidate
    normalized. -/
structure Writers (W : Type) where
  db : DB
  read : W → Option (Key × HostedGenesisSession)

inductive Act (W : Type) where
  | read (w : W) (instanceSlug conversationID : String)
  | create (now : Time) (item : HostedGenesisSession) (refused : Bool)
  | commit (c : Commit)

section Runs

variable {W : Type} [DecidableEq W]

/-- The table after a write that may have failed. -/
def Writers.after (s : Writers W) : Except StoreError DB → Writers W
  | .ok db => { s with db }
  | .error _ => s

def step (sv : Services) (s : Writers W) : Act W → Writers W
  | .read w instanceSlug conversationID =>
      match GetHostedGenesisSession sv s.db instanceSlug conversationID with
      | .error _ => s
      | .ok _ =>
          let key := sessionKey instanceSlug conversationID
          { s with read := Function.update s.read w ((s.db.sessions key).map fun row => (key, row)) }
  | .create now item refused => s.after (create sv now item refused s.db)
  | .commit c => s.after (c.run sv s.db)

def rows (s : Writers W) : Key → Option HostedGenesisSession := s.db.sessions

/-- The action is a commit of the row at the key, and it is carried out. -/
def commits (sv : Services) (key : Key) (s : Writers W) : Act W → Bool
  | .commit c => c.key == key && (c.run sv s.db).isOk
  | _ => false

theorem step_read (s : Writers W) (w : W) (slug conversationID : String) :
    (step sv s (.read w slug conversationID)).db = s.db ∧
      ∀ v key row, (step sv s (.read w slug conversationID)).read v = some (key, row) →
        s.read v = some (key, row) ∨ s.db.sessions key = some row := by
  cases hget : GetHostedGenesisSession sv s.db slug conversationID with
  | error e =>
      simp only [step, hget]
      exact ⟨trivial, fun v key row h => Or.inl h⟩
  | ok item =>
      simp only [step, hget]
      refine ⟨trivial, fun v key row h => ?_⟩
      by_cases hv : v = w
      · rw [hv, Function.update_self, Option.map_eq_some_iff] at h
        obtain ⟨row', hrow, heq⟩ := h
        rw [Prod.mk.injEq] at heq
        rw [← heq.1, ← heq.2]
        exact Or.inr hrow
      · rw [Function.update_of_ne hv] at h
        exact Or.inl h

theorem step_rows (sv : Services) (s : Writers W) (a : Act W) (key : Key) (row : HostedGenesisSession)
    (h : rows s key = some row) :
    ∃ next, rows (step sv s a) key = some next ∧
      next.Version = row.Version + (if commits sv key s a then 1 else 0) ∧
      (commits sv key s a = false → next = row) := by
  cases a with
  | read w slug conversationID =>
      refine ⟨row, ?_, by simp [commits], fun _ => rfl⟩
      rw [rows, (step_read s w slug conversationID).1]
      exact h
  | create now item refused =>
      refine ⟨row, ?_, by simp [commits], fun _ => rfl⟩
      rw [step]
      cases hcreate : create sv now item refused s.db with
      | error e => exact h
      | ok db =>
          obtain ⟨item', -, hfree, hdb⟩ := create_ok hcreate
          have hne : key ≠ (item'.PK, item'.SK) := by
            rintro rfl
            exact absurd (hfree.symm.trans h) nofun
          rw [Writers.after, rows, hdb, Function.update_of_ne hne]
          exact h
  | commit c =>
      rw [step]
      cases hrun : c.run sv s.db with
      | error e =>
          have hnone : commits sv key s (.commit c) = false := by
            simp [commits, hrun, Except.isOk, Except.toBool]
          exact ⟨row, h, by simp [hnone], fun _ => rfl⟩
      | ok db =>
          obtain ⟨old, status, update, hold, -, -, hwrites, hdb⟩ := Commit.run_ok hrun
          by_cases hkey : c.key = key
          · have hsome : commits sv key s (.commit c) = true := by
              simp [commits, hrun, hkey, Except.isOk, Except.toBool]
            rw [hkey] at hold hdb
            obtain rfl := Option.some.inj (hold.symm.trans h)
            refine ⟨update old, ?_, ?_, ?_⟩
            · rw [Writers.after, rows, hdb, Function.update_self]
            · rw [hwrites.version, hsome]
              rfl
            · rw [hsome]
              nofun
          · have hnone : commits sv key s (.commit c) = false := by
              simp [commits, hkey]
            refine ⟨row, ?_, by simp [hnone], fun _ => rfl⟩
            rw [Writers.after, rows, hdb, Function.update_of_ne (Ne.symm hkey)]
            exact h

theorem step_grows (sv : Services) (s : Writers W) (a : Act W) :
    Versioned.Grows rows HostedGenesisSession.Version s (step sv s a) := by
  intro key row hrow
  obtain ⟨next, hnext, hversion, hsame⟩ := step_rows sv s a key row hrow
  by_cases hcommit : commits sv key s a = true
  · rw [if_pos hcommit] at hversion
    exact Or.inr ⟨next, hnext, hversion⟩
  · rw [hsame (by simpa using hcommit)] at hnext
    exact Or.inl hnext

/-- What the writers have read has been in the table. -/
def ReadsKnown (s : Writers W) : Prop :=
  ∀ w key row, s.read w = some (key, row) →
    Versioned.Known rows HostedGenesisSession.Version s key row

omit [DecidableEq W] in
theorem after_read (s : Writers W) (x : Except StoreError DB) : (s.after x).read = s.read := by
  cases x with
  | error e => rfl
  | ok db => rfl

theorem step_readsKnown (s : Writers W) (a : Act W) (h : ReadsKnown s) : ReadsKnown (step sv s a) := by
  intro w key row hread
  have hgrows := step_grows sv s a
  cases a with
  | read v slug conversationID =>
      rcases (step_read s v slug conversationID).2 w key row hread with hold | hrow
      · exact (h w key row hold).later hgrows
      · exact (Versioned.Known.of_get hrow).later hgrows
  | create now item refused =>
      rw [step, after_read] at hread
      exact (h w key row hread).later hgrows
  | commit c =>
      rw [step, after_read] at hread
      exact (h w key row hread).later hgrows

/-- **No update is lost.** Of any number of readers and writers in any order, over any table: a commit
    at the version that was read replaces the row that was read, by the next version, in a status that
    may follow; a row that is published or failed stays so; a commit that fails changes nothing. The
    version of a row counts its commits. -/
theorem no_lost_update (sv : Services) (start : DB) (acts : List (Act W)) :
    let s := acts.foldl (step sv) ⟨start, fun _ => none⟩
    (∀ w (c : Commit) row db', s.read w = some (c.key, row) → c.expectedVersion = row.Version →
      c.run sv s.db = .ok db' → s.db.sessions c.key = some row) ∧
    (∀ (c : Commit) db', c.run sv s.db = .ok db' → ∃ old new, s.db.sessions c.key = some old ∧
      db'.sessions = Function.update s.db.sessions c.key (some new) ∧ new.Version = old.Version + 1 ∧
      ValidateTransition sv.Quote old.Status new.Status = .ok () ∧
      (NormalizeStatus old.Status ∈ [StatusPublished, StatusFailed] →
        NormalizeStatus new.Status = NormalizeStatus old.Status)) ∧
    (∀ (c : Commit) e, c.run sv s.db = .error e → step sv s (.commit c) = s) ∧
    ∀ key row, start.sessions key = some row → ∃ last, s.db.sessions key = some last ∧
      last.Version = row.Version +
        Versioned.count (step sv) (commits sv key) ⟨start, fun _ => none⟩ acts := by
  intro s
  have hknown : ReadsKnown s :=
    Run.inv step_readsKnown (fun w key row h => by cases h) acts
  refine ⟨?_, ?_, ?_, ?_⟩
  · intro w c row db' hread hversion hrun
    obtain ⟨old, status, update, hold, hold_version, -, -, -⟩ := Commit.run_ok hrun
    exact (hknown w c.key row hread).current hold (hold_version.trans hversion)
  · intro c db' hrun
    obtain ⟨old, status, update, hold, -, rfl, hwrites, hdb⟩ := Commit.run_ok hrun
    have hfollows := hwrites.follows old
    have hnormal := NormalizeStatus_allowed hfollows.1
    refine ⟨old, update old, hold, hdb, hwrites.version old, ?_, fun hterminal => ?_⟩
    · rw [ValidateTransition_ok, hnormal]
      exact hfollows
    · rw [hnormal] at hterminal ⊢
      simp only [List.mem_cons, List.not_mem_nil, or_false] at hterminal
      exact hfollows.of_terminal hterminal
  · intro c e hrun
    rw [step, hrun]
    rfl
  · intro key row hrow
    have hstep : ∀ (t : Writers W) a row, rows t key = some row → ∃ next, rows (step sv t a) key = some next ∧
        next.Version = row.Version + if commits sv key t a then 1 else 0 := by
      intro t a row h
      obtain ⟨next, hnext, hversion, -⟩ := step_rows sv t a key row h
      exact ⟨next, hnext, hversion⟩
    exact Versioned.version_run hstep acts hrow

end Runs

/-! ## Two writers -/

def sampleServices : Services where
  sha256 _ := Vector.replicate 32 0
  Quote s := s
  Valid _ := true
  DecodeSection _ := none
  DecodeSoul _ := none
  canonicalCapabilities _ := .emptyArray
  ValidateSessionStatus _ := true

def sampleSession : HostedGenesisSession where
  PK := HostedGenesisSessionPK "demo"
  SK := HostedGenesisSessionSK "conv"
  Version := 0
  InstanceSlug := "demo"
  RegistrationID := "reg"
  AgentID := "0xaa"
  ConversationID := "conv"
  Status := StatusCreated
  Model := "gpt-5.6-luna"
  LatestTurnID := ""
  MessageCount := 0
  TurnLedger := []
  InputCheckpointRef := ""
  AssistantCheckpointRef := ""
  ExecutionStateRef := ""
  MicroVMExecutionID := ""
  MicroVMLifecycleRef := none
  DeclarationCheckpoint := none
  DeclarationCandidate := none
  CandidateRevision := 0
  CandidateHash := ""
  CandidatePhase := ""
  Publication := none
  Failure := none
  TraceIDs := none
  VMCheckpoint := none
  RequestID := ""
  CreatedAt := ⟨1, .utc⟩
  UpdatedAt := ⟨1, .utc⟩
  CompletedAt := ⟨0, .utc⟩

def sampleDB : DB where
  sessions key := if key = sessionKey "demo" "conv" then some sampleSession else none
  conversations _ := none
  idempotency _ := none

/-- The session moves on. -/
def sampleCommit : Commit where
  op := .update
  now := ⟨2, .utc⟩
  item := { sampleSession with Status := StatusInProgress }
  expectedVersion := 0
  expectedStatus := StatusCreated
  refused := false

/-- Two writers read the session, and both commit: one of them is too late. -/
def sampleRace : List (Act Bool) :=
  [.read true "demo" "conv", .read false "demo" "conv", .commit sampleCommit, .commit sampleCommit]

theorem sampleRace_commits : Versioned.count (step sampleServices)
    (commits sampleServices (sessionKey "demo" "conv")) ⟨sampleDB, fun _ => none⟩ sampleRace = 1 := by
  decide

theorem no_lost_update_raced : ∃ last : HostedGenesisSession,
    (sampleRace.foldl (step sampleServices) ⟨sampleDB, fun _ => none⟩).db.sessions
      (sessionKey "demo" "conv") = some last ∧ last.Version = 1 := by
  have h := no_lost_update sampleServices sampleDB sampleRace
  have hstart : sampleDB.sessions (sessionKey "demo" "conv") = some sampleSession := by
    simp only [sampleDB, if_true]
  obtain ⟨last, hlast, hversion⟩ := h.2.2.2 (sessionKey "demo" "conv") sampleSession hstart
  rw [sampleRace_commits] at hversion
  exact ⟨last, hlast, hversion⟩

end LesserHost.HostedGenesis
