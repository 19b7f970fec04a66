import LesserHost.SoulLifecycle.Requests

set_option autoImplicit false

/-! # The journal of an agent

Every entry was signed by the wallet of its agent as what it says. A request that is sent once more gets
the stored entry, one that says something else under the same key is refused. The digest of an entry is
computed from the row in one place and from the request in the other; the two agree because the row keeps
every field as the digest reads it (`Asks.content_entry`).

What is signed does not name the agent: agents of one wallet can use one signature
(`not_one_agent_per_signature`). -/

namespace LesserHost.SoulLifecycle

open LesserHost.Go
open LesserHost.ControlPlane (AppTheoryError StoreError newAppTheoryError)

/-! ## What an entry says -/

structure Content where
  «Type» : String
  Timestamp : String
  Summary : String
  Recovery : String
  References : List String

def SoulAgentContinuity.content (e : SoulAgentContinuity) : Content where
  «Type» := e.Type
  Timestamp := canonicalSoulSignedTimestamp e.Timestamp
  Summary := e.Summary
  Recovery := e.Recovery
  References :=
    if e.ReferencesV2 = [] then parseLegacyContinuityReferences e.ReferencesJSON else e.ReferencesV2

def soulAppendContinuityData.content (d : soulAppendContinuityData) : Content where
  «Type» := d.entryType
  Timestamp := d.timestampCanonical
  Summary := d.summary
  Recovery := d.recovery
  References := d.references

/-- The object that is signed. -/
def Content.payload (c : Content) : Unsigned :=
  unsignedContinuityEntry c.Type c.Timestamp c.Summary c.Recovery c.References ""

/-- In the form in which the digest reads it. -/
structure Content.Normal (c : Content) : Prop where
  type : ToLower (TrimSpace c.Type) = c.Type
  timestamp : TrimSpace c.Timestamp = c.Timestamp
  summary : TrimSpace c.Summary = c.Summary
  recovery : TrimSpace c.Recovery = c.Recovery
  references : trimmedNonEmpty c.References = c.References

theorem trimmedNonEmpty_idem (l : List String) :
    trimmedNonEmpty (trimmedNonEmpty l) = trimmedNonEmpty l := by
  unfold trimmedNonEmpty
  induction l with
  | nil => rfl
  | cons s l ih =>
      by_cases h : TrimSpace s = ""
      · simpa [h] using ih
      · simpa [h] using ih

/-- The members of a normal content. -/
theorem payload_eq {c : Content} (h : c.Normal) :
    c.payload = [("type", .text c.Type), ("timestamp", .text c.Timestamp), ("summary", .text c.Summary)] ++
      (if c.Recovery ≠ "" then [("recovery", .text c.Recovery)] else []) ++
      (if c.References ≠ [] then [("references", .texts c.References)] else []) := by
  have hnonce : TrimSpace "" = "" := by decide
  unfold Content.payload unsignedContinuityEntry normalizeContinuityReferences
  dsimp only
  rw [h.type, h.timestamp, h.summary, h.recovery, h.references, hnonce]
  simp

/-- What is signed says it all. -/
theorem payload_injective {c c' : Content} (h : c.Normal) (h' : c'.Normal)
    (hperm : c.payload.Perm c'.payload) : c = c' := by
  rw [payload_eq h, payload_eq h'] at hperm
  -- the member of each name
  have htype := hperm.filter fun m => m.1 == "type"
  have htimestamp := hperm.filter fun m => m.1 == "timestamp"
  have hsummary := hperm.filter fun m => m.1 == "summary"
  have hrecovery := hperm.filter fun m => m.1 == "recovery"
  have hreferences := hperm.filter fun m => m.1 == "references"
  obtain ⟨type, timestamp, summary, recovery, references⟩ := c
  obtain ⟨type', timestamp', summary', recovery', references'⟩ := c'
  dsimp only at *
  by_cases hr : recovery = "" <;> by_cases hr' : recovery' = "" <;>
    by_cases hl : references = [] <;> by_cases hl' : references' = [] <;>
    simp [hr, hr', hl, hl'] at htype htimestamp hsummary hrecovery hreferences <;>
    simp_all

/-! ## Times -/

theorem TruncateMillisecond_idem (t : Time) :
    t.TruncateMillisecond.TruncateMillisecond = t.TruncateMillisecond := by
  unfold Time.TruncateMillisecond
  simp

theorem TrimSpace_FormatMillis (t : Time) : TrimSpace t.FormatMillis = t.FormatMillis := by
  obtain ⟨c, rest, hyear, hc⟩ := padDecimal_head 4
    ((civilDate ((t.nanos / Second + fourCenturies).toNat / 86400)).1 - 400)
  refine IsTrimmed.TrimSpace_eq (isTrimmed_of_ends (a := c) (b := 'Z') ?_ ?_ hc (by decide))
  · rw [Time.FormatMillis, String.toList_ofList, Time.FormatRFC3339]
    simp [String.toList_append, hyear, List.dropLast]
  · rw [Time.FormatMillis, String.toList_ofList]
    exact List.getLast?_concat

/-! ## The round trip -/

/-- The row of a request. -/
def soulAppendContinuityData.entry (d : soulAppendContinuityData) (agentIDHex : String) :
    SoulAgentContinuity :=
  continuityEntry agentIDHex d.entryType d.summary d.recovery d.references d.signature d.parsedTS

theorem parseLegacyContinuityReferences_empty : parseLegacyContinuityReferences (TrimSpace "") = [] := by
  decide

theorem SoulAgentContinuity.UpdateKeys_idem (e : SoulAgentContinuity) :
    e.UpdateKeys.UpdateKeys = e.UpdateKeys := by
  have htime : ∀ t : Time, (t.UTC.TruncateMillisecond).UTC.TruncateMillisecond
      = t.UTC.TruncateMillisecond := fun t => TruncateMillisecond_idem t.UTC
  simp only [UpdateKeys, TrimSpace_ToLower_TrimSpace, ToLower_idem, TrimSpace_idem,
    trimmedNonEmpty_idem, htime]

theorem parseLegacyContinuityReferences_normal (raw : String) :
    trimmedNonEmpty (parseLegacyContinuityReferences raw) = parseLegacyContinuityReferences raw := by
  unfold parseLegacyContinuityReferences
  split
  · exact trimmedNonEmpty_idem _
  · rfl

theorem content_normal {e : SoulAgentContinuity} (h : e.UpdateKeys = e) : e.content.Normal := by
  unfold SoulAgentContinuity.UpdateKeys at h
  obtain ⟨agentID, type, summary, recovery, json, references, sig, timestamp⟩ := e
  simp only [SoulAgentContinuity.mk.injEq] at h
  obtain ⟨-, htype, hsummary, hrecovery, -, hreferences, -, -⟩ := h
  refine ⟨htype, ?_, hsummary, hrecovery, ?_⟩
  · exact TrimSpace_FormatMillis timestamp.UTC.TruncateMillisecond
  · unfold SoulAgentContinuity.content
    dsimp only
    by_cases hlegacy : references = []
    · rw [if_pos hlegacy]
      exact parseLegacyContinuityReferences_normal json
    · rw [if_neg hlegacy, hreferences]

theorem parseSoulSignedTimestamp_ok {raw canonical : String} {now ts : Time}
    (h : parseSoulSignedTimestamp raw now = .ok (ts, canonical)) :
    ∃ parsed, ParseTime (TrimSpace raw) = some parsed ∧ ts = parsed.TruncateMillisecond ∧
      canonical = canonicalSoulSignedTimestamp parsed := by
  unfold parseSoulSignedTimestamp at h
  dsimp only at h
  split at h
  · cases h
  split at h
  · cases h
  · next parsed hparsed =>
      split at h
      · cases h
      split at h
      · cases h
      · cases h
        exact ⟨parsed, hparsed, rfl, rfl⟩

theorem required_ok {value field v : String} (h : required value field = .ok v) :
    v = TrimSpace value := by
  unfold required at h
  split at h
  · cases h
  · exact (Except.ok.inj h).symm

/-- The data of a request do not depend on when it is read. -/
theorem parseSoulAppendContinuityData_ok {req : soulAppendContinuityRequest} {now : Time}
    {d : soulAppendContinuityData} (h : parseSoulAppendContinuityData req now = .ok d) :
    ∃ parsed, ParseTime (TrimSpace (TrimSpace req.Timestamp)) = some parsed ∧
      d = ⟨ToLower (TrimSpace req.Type), parsed.TruncateMillisecond, canonicalSoulSignedTimestamp parsed,
        TrimSpace req.Summary, TrimSpace req.Recovery, normalizeContinuityReferences req.References,
        TrimSpace req.Signature⟩ := by
  unfold parseSoulAppendContinuityData at h
  dsimp only at h
  split at h
  · cases h
  cases hstamp : parseSoulSignedTimestamp (TrimSpace req.Timestamp) now with
  | error e => rw [hstamp] at h; cases h
  | ok stamp =>
      obtain ⟨ts, canonical⟩ := stamp
      obtain ⟨parsed, hparsed, hts, hcanonical⟩ := parseSoulSignedTimestamp_ok hstamp
      cases hsummary : required req.Summary "summary" with
      | error e => rw [hstamp, hsummary] at h; cases h
      | ok summary =>
          simp only [hstamp, hsummary, bind, Except.bind, throw, throwThe, MonadExceptOf.throw, pure,
            Except.pure] at h
          split_ifs at h
          cases hsignature : required req.Signature "signature" with
          | error e => rw [hsignature] at h; cases h
          | ok signature =>
              rw [hsignature] at h
              obtain rfl := Except.ok.inj h
              refine ⟨parsed, hparsed, ?_⟩
              rw [hts, hcanonical, required_ok hsummary, required_ok hsignature]

/-- A request asks for an entry of an agent. -/
structure Asks (agentID : String) (req : soulAppendContinuityRequest) (agentIDHex : String)
    (d : soulAppendContinuityData) : Prop where
  agent : parseSoulAgentIDHex agentID = .ok agentIDHex
  data : ∃ now, parseSoulAppendContinuityData req now = .ok d

section Asks

variable {agentID agentIDHex agentIDHex' : String} {req : soulAppendContinuityRequest}
  {d d' : soulAppendContinuityData}

theorem Asks.unique (h : Asks agentID req agentIDHex d) (h' : Asks agentID req agentIDHex' d') :
    agentIDHex = agentIDHex' ∧ d = d' := by
  obtain ⟨now, hd⟩ := h.data
  obtain ⟨now', hd'⟩ := h'.data
  obtain ⟨parsed, hparsed, rfl⟩ := parseSoulAppendContinuityData_ok hd
  obtain ⟨parsed', hparsed', rfl⟩ := parseSoulAppendContinuityData_ok hd'
  rw [hparsed] at hparsed'
  cases hparsed'
  exact ⟨Except.ok.inj (h.agent.symm.trans h'.agent), rfl⟩

/-- **The row of a request says what the request says.** -/
theorem Asks.content_entry (h : Asks agentID req agentIDHex d) :
    (d.entry agentIDHex).content = d.content := by
  obtain ⟨now, hd⟩ := h.data
  obtain ⟨parsed, -, rfl⟩ := parseSoulAppendContinuityData_ok hd
  have htime : canonicalSoulSignedTimestamp parsed.TruncateMillisecond.UTC.UTC.TruncateMillisecond
      = canonicalSoulSignedTimestamp parsed := by
    show ((parsed.UTC.TruncateMillisecond).TruncateMillisecond).TruncateMillisecond.FormatMillis
      = (parsed.UTC.TruncateMillisecond).FormatMillis
    rw [TruncateMillisecond_idem, TruncateMillisecond_idem]
  have hreferences : trimmedNonEmpty (normalizeContinuityReferences req.References)
      = normalizeContinuityReferences req.References := trimmedNonEmpty_idem _
  unfold soulAppendContinuityData.entry continuityEntry SoulAgentContinuity.content
    soulAppendContinuityData.content SoulAgentContinuity.UpdateKeys
  dsimp only
  rw [htime, hreferences, TrimSpace_ToLower_TrimSpace, ToLower_idem, TrimSpace_idem, TrimSpace_idem,
    parseLegacyContinuityReferences_empty]
  by_cases hempty : normalizeContinuityReferences req.References = []
  · rw [if_pos hempty, hempty]
  · rw [if_neg hempty]

theorem Asks.normal (h : Asks agentID req agentIDHex d) : d.content.Normal := by
  rw [← h.content_entry]
  exact content_normal (SoulAgentContinuity.UpdateKeys_idem _)

theorem Asks.agent_entry (h : Asks agentID req agentIDHex d) : (d.entry agentIDHex).AgentID = agentIDHex :=
  (parseSoulAgentIDHex_normal h.agent).1

end Asks

/-! ## The contract of a request -/

section Contract

variable (Signed : String → Unsigned → Prop) (t₀ : Table)

/-- A row of the journal: under its key, in the form in which rows are stored, and signed by the wallet
    of its agent as what it says. -/
structure Attested (identities : String → Option SoulAgentIdentity) (key : String × String)
    (e : SoulAgentContinuity) : Prop where
  key : e.key = key
  keys : e.UpdateKeys = e
  signed : ∃ identity u, identities e.AgentID = some identity ∧ Signed identity.Wallet u ∧
    u.Perm e.content.payload

def Table.Attested (t : Table) : Prop :=
  ∀ key e, t.continuity key = some e → SoulLifecycle.Attested Signed t.identities key e

/-- Rows stay. -/
def Table.Keeps (t t' : Table) : Prop :=
  ∀ key e, t.continuity key = some e → t'.continuity key = some e

/-- The identities are those of the start, and every row was signed. -/
def journalContract : Contract Op Table Choice where
  inv t := t.identities = t₀.identities ∧ t.Attested Signed
  assume _ _ _ := True
  rely := Table.Keeps
  guar := Table.Keeps
  rely_refl _ _ _ h := h
  rely_trans h h' key e he := h' key e (h key e he)

variable {Signed} {t₀} {t : Table}

/-- An operation that writes nothing keeps the contract. -/
theorem keeps_other {o : Op} (ho : ∀ ws, o ≠ .write ws) (c : Choice)
    (h : (journalContract Signed t₀).inv t) :
    (journalContract Signed t₀).inv (t.handle o c).2 ∧ t.Keeps (t.handle o c).2 := by
  rw [(handle_other ho c t).2]
  exact ⟨h, fun _ _ he => he⟩

/-- The row of an entry, when a request has asked for the entry. -/
theorem handle_create (e : SoulAgentContinuity) (c : Choice) (t : Table) :
    (t.handle (.write [.createContinuity e]) c).2 = t ∧
        (t.handle (.write [.createContinuity e]) c).1 ≠ .ok () ∨
      t.continuity e.key = none ∧
        (t.handle (.write [.createContinuity e]) c).2 = (Write.createContinuity e).apply t := by
  simp only [Table.handle, Choice.attempt, Table.write, List.all_cons, List.all_nil, Bool.and_true,
    Write.allowed, Option.isNone_iff_eq_none, List.foldl_cons, List.foldl_nil]
  by_cases h : t.continuity e.key = none
  · cases c.fault <;> simp [h]
  · cases c.fault <;> simp [h]

theorem handle_get {key : String × String} {c : Choice} {e : SoulAgentContinuity}
    (h : (t.handle (.getContinuity key) c).1 = .ok e) : t.continuity key = some e :=
  found_of_attempt h

theorem handle_getIdentity {agentID : String} {c : Choice} {identity : SoulAgentIdentity}
    (h : (t.handle (.getIdentity agentID) c).1 = .ok identity) :
    t.identities agentID = some identity :=
  found_of_attempt h

theorem readRepair_Wallet (item : SoulAgentIdentity) : (readRepair item).Wallet = item.Wallet := by
  unfold readRepair
  dsimp only
  split_ifs <;> rfl

theorem answers_liftExcept {α : Type} (x : Except AppTheoryError α) :
    (liftExcept x).Meets tableEnv (journalContract Signed t₀) (Prog.Answering fun a _ => x = .ok a)
      t := by
  cases x with
  | ok a => exact Prog.answers_pure fun _ _ _ => rfl
  | error e => exact Prog.answers_fail

theorem answers_read {o : Op} (ho : ∀ ws, o ≠ .write ws) {R : o.Res → Table → Prop}
    (h : ∀ t', t.Keeps t' → (journalContract Signed t₀).inv t' → ∀ c u,
      (t'.handle o c).2.Keeps u → (journalContract Signed t₀).inv u → R (t'.handle o c).1 u) :
    (Prog.perform o : Handler o.Res).Meets tableEnv (journalContract Signed t₀) (Prog.Answering R) t := by
  refine Prog.answers_perform fun t' hkeeps hinv c _ => ?_
  obtain ⟨hinv', hkeeps'⟩ := keeps_other ho c hinv
  exact ⟨hinv', hkeeps', fun u hu hiu => h t' hkeeps hinv c u hu hiu⟩

theorem answers_now :
    now.Meets tableEnv (journalContract Signed t₀) (Prog.Answering fun _ _ => True) t := by
  unfold now
  exact answers_read (o := Op.now) (R := fun _ _ => True) (by simp) fun _ _ _ _ _ _ _ => trivial

theorem answers_requireSoulDomainAccess (domain : String) :
    (requireSoulDomainAccess domain).Meets tableEnv (journalContract Signed t₀)
      (Prog.Answering fun _ _ => True) t := by
  unfold requireSoulDomainAccess
  refine Prog.answers_bind (R := fun _ _ => True) (answers_read (by simp) fun _ _ _ _ _ _ _ => trivial)
    fun x t' _ => ?_
  exact (answers_liftExcept x).mono fun r _ _ => by cases r <;> trivial

/-- An active identity has the wallet of its row. -/
theorem answers_requireActive {agentIDHex : String} (h : Normal agentIDHex) (hne : agentIDHex ≠ "") :
    (requireActiveSoulAgentWithDomainAccess agentIDHex).Meets tableEnv (journalContract Signed t₀)
      (Prog.Answering fun identity _ =>
        ∃ row, t₀.identities agentIDHex = some row ∧ identity.Wallet = row.Wallet) t := by
  unfold requireActiveSoulAgentWithDomainAccess
  rw [getSoulAgentIdentity_normal h hne]
  refine Prog.answers_bind (R := fun x _ => ∀ identity, x = .ok identity →
    ∃ row, t₀.identities agentIDHex = some row ∧ identity.Wallet = row.Wallet) ?_ fun x t' hx => ?_
  · unfold fetchIdentity
    refine Prog.answers_bind (R := fun x _ => ∀ row, x = .ok row → t₀.identities agentIDHex = some row)
      (answers_read (by simp) fun t' _ hinv c _ _ _ row hrow => ?_) fun x t' hx => ?_
    · rw [← hinv.1]
      exact handle_getIdentity hrow
    · split
      · exact Prog.answers_pure fun _ _ _ _ h => by cases h
      · next row =>
          refine Prog.answers_pure fun _ _ _ identity hid => ⟨row, hx row rfl, ?_⟩
          rw [← Except.ok.inj hid, readRepair_Wallet]
  · split
    · exact Prog.answers_fail
    · exact Prog.answers_fail
    · next identity =>
        refine Prog.meets_ite (fun _ => Prog.answers_fail) fun _ => ?_
        refine Prog.answers_bind (answers_requireSoulDomainAccess _) fun _ _ _ => ?_
        exact Prog.answers_pure fun _ _ _ => hx identity rfl

/-- Different objects have different digests, and a signature that is accepted was made for an object of
    that digest. -/
structure Unforgeable (digestOf : Unsigned → Option Digest) (verify : String → Digest → String → Bool)
    (Signed : String → Unsigned → Prop) : Prop where
  digest : ∀ u u' d, digestOf u = some d → digestOf u' = some d → u.Perm u'
  signature : ∀ wallet d sig, verify wallet d sig = true → ∃ u, digestOf u = some d ∧ Signed wallet u

/-- A wallet that has signed a single object. -/
theorem Unforgeable.of_single {digestOf : Unsigned → Option Digest}
    {verify : String → Digest → String → Bool} {owner : String} {payload : Unsigned} (signed : Digest)
    (hdigest : ∀ u d, digestOf u = some d ↔ u = payload ∧ d = signed)
    (hverify : ∀ wallet d sig, verify wallet d sig = true → wallet = owner ∧ d = signed) :
    Unforgeable digestOf verify fun wallet u => wallet = owner ∧ u = payload where
  digest u u' d hu hu' := by
    rw [((hdigest u d).1 hu).1, ((hdigest u' d).1 hu').1]
  signature wallet d sig h := by
    obtain ⟨howner, hd⟩ := hverify wallet d sig h
    exact ⟨payload, (hdigest payload d).2 ⟨rfl, hd⟩, howner, rfl⟩

/-- The request was signed for an agent as one that asks for `d`, and the journal has the row `e`. -/
structure Appended (s : Server) (t₀ t : Table) (agentIDHex : String) (d : soulAppendContinuityData)
    (e : SoulAgentContinuity) : Prop where
  row : t.continuity (d.entry agentIDHex).key = some e
  content : e.content = d.content
  signed : ∃ identity digest, t₀.identities agentIDHex = some identity ∧
    s.digest d.content.payload = some digest ∧
    s.verifyEthereumSignatureBytes identity.Wallet digest d.signature = true

variable {s : Server} {agentID agentIDHex : String} {req : soulAppendContinuityRequest}
  {d : soulAppendContinuityData} {digest : Digest} {identity : SoulAgentIdentity}

theorem storedEntryDigest_eq {e : SoulAgentContinuity} (h : storedEntryDigest s e = .ok digest) :
    s.digest e.content.payload = some digest := by
  have hpayload : s.digest e.content.payload = s.digest (unsignedContinuityEntry e.Type
      (canonicalSoulSignedTimestamp e.Timestamp) e.Summary e.Recovery
      (if e.ReferencesV2 = [] then parseLegacyContinuityReferences e.ReferencesJSON else e.ReferencesV2)
      "") := rfl
  rw [hpayload]
  exact computeSoulContinuityEntryDigest_ok.1 h

/-- The row that a signed request creates. -/
theorem attested_entry (hs : Unforgeable s.digest s.verifyEthereumSignatureBytes Signed)
    (hasks : Asks agentID req agentIDHex d)
    (hrow : t₀.identities agentIDHex = some identity)
    (hdigest : s.digest d.content.payload = some digest)
    (hverify : s.verifyEthereumSignatureBytes identity.Wallet digest d.signature = true) :
    Attested Signed t₀.identities (d.entry agentIDHex).key (d.entry agentIDHex) where
  key := rfl
  keys := SoulAgentContinuity.UpdateKeys_idem _
  signed := by
    obtain ⟨u, hu, hsigned⟩ := hs.signature _ _ _ hverify
    refine ⟨identity, u, ?_, hsigned, ?_⟩
    · rw [hasks.agent_entry]
      exact hrow
    · rw [hasks.content_entry]
      exact hs.digest u _ digest hu hdigest

/-- A row that says the same under its digest is the one that was asked for. -/
theorem content_of_digest (hs : Unforgeable s.digest s.verifyEthereumSignatureBytes Signed)
    (hasks : Asks agentID req agentIDHex d)
    {key : String × String} {e : SoulAgentContinuity} (he : Attested Signed t₀.identities key e)
    (hdigest : s.digest d.content.payload = some digest)
    (hdigest' : s.digest e.content.payload = some digest) : e.content = d.content :=
  payload_injective (content_normal he.keys) hasks.normal (hs.digest _ _ digest hdigest' hdigest)

theorem inv_create {e : SoulAgentContinuity} (h : (journalContract Signed t₀).inv t)
    (he : Attested Signed t₀.identities e.key e) :
    (journalContract Signed t₀).inv ((Write.createContinuity e).apply t) := by
  refine ⟨h.1, fun key e' he' => ?_⟩
  have hrow : Function.update t.continuity e.key (some e) key = some e' := he'
  show Attested Signed t.identities key e'
  by_cases hkey : key = e.key
  · subst hkey
    rw [Function.update_self] at hrow
    cases hrow
    rw [h.1]
    exact he
  · rw [Function.update_of_ne hkey] at hrow
    exact h.2 key e' hrow

theorem keeps_create {e : SoulAgentContinuity} (h : t.continuity e.key = none) :
    t.Keeps ((Write.createContinuity e).apply t) := by
  intro key e' he'
  show Function.update t.continuity e.key (some e) key = some e'
  rw [Function.update_of_ne ?_]
  · exact he'
  · intro hkey
    rw [hkey, h] at he'
    cases he'

theorem create_row (e : SoulAgentContinuity) (t : Table) :
    ((Write.createContinuity e).apply t).continuity e.key = some e := by
  unfold Write.apply
  exact Function.update_self _ _ _

theorem answers_create {e : SoulAgentContinuity} (he : Attested Signed t₀.identities e.key e) :
    (Prog.perform (.write [.createContinuity e] : Op) : Handler (Except StoreError Unit)).Meets tableEnv
      (journalContract Signed t₀)
      (Prog.Answering fun x t => x = .ok () → t.continuity e.key = some e) t := by
  refine Prog.answers_perform fun t' _ hinv c _ => ?_
  rcases handle_create e c t' with ⟨hsame, herr⟩ | ⟨hnone, hwritten⟩
  · rw [tableEnv_handle, hsame]
    exact ⟨hinv, fun _ _ h => h, fun _ _ _ hok => absurd hok herr⟩
  · rw [tableEnv_handle, hwritten]
    exact ⟨inv_create hinv he, keeps_create hnone, fun u hu _ _ => hu _ _ (create_row e t')⟩

/-- The answer to a request whose key is taken. -/
theorem answers_replay (hs : Unforgeable s.digest s.verifyEthereumSignatureBytes Signed)
    (hasks : Asks agentID req agentIDHex d)
    (hdigest : s.digest d.content.payload = some digest) :
    (loadMatchingSoulContinuityReplay s (d.entry agentIDHex) digest).Meets tableEnv
      (journalContract Signed t₀)
      (Prog.Answering fun e t => t.continuity (d.entry agentIDHex).key = some e ∧ e.content = d.content)
      t := by
  unfold loadMatchingSoulContinuityReplay
  generalize (d.entry agentIDHex).key = key
  refine Prog.answers_bind (R := fun x t => ∀ e, x = .ok e → t.continuity key = some e ∧
    Attested Signed t₀.identities key e) ?_ fun x t₃ hx => ?_
  · refine answers_read (by simp) fun t' _ hinv c u hu _ e he => ?_
    have hrow := handle_get he
    refine ⟨hu _ _ ?_, ?_⟩
    · rw [(handle_other (by simp) c t').2]
      exact hrow
    · rw [← hinv.1]
      exact hinv.2 _ _ hrow
  · split
    · exact Prog.answers_fail
    · next existing =>
        obtain ⟨hstored, hkeys⟩ := hx existing rfl
        split
        · exact Prog.answers_fail
        · next digest' hdigest' =>
            refine Prog.meets_ite (fun _ => Prog.answers_fail) fun heq => ?_
            rw [not_not] at heq
            subst heq
            refine Prog.answers_pure fun u hu _ => ⟨hu _ _ hstored, ?_⟩
            exact content_of_digest hs hasks hkeys hdigest (storedEntryDigest_eq hdigest')

/-- **A request keeps the contract.** -/
theorem answers_append (hs : Unforgeable s.digest s.verifyEthereumSignatureBytes Signed) (agentID : String)
    (req : soulAppendContinuityRequest) :
    (handleSoulAppendContinuity s agentID req).Meets tableEnv (journalContract Signed t₀)
      (Prog.Answering fun a t => ∃ agentIDHex d, Asks agentID req agentIDHex d ∧
        Appended s t₀ t agentIDHex d a.1) t := by
  unfold handleSoulAppendContinuity
  refine Prog.answers_bind (answers_liftExcept _) fun agentIDHex _ hagent => ?_
  obtain ⟨hnormal, hne⟩ := parseSoulAgentIDHex_normal hagent
  refine Prog.answers_bind (answers_requireActive hnormal hne) fun identity _ hactive => ?_
  obtain ⟨row, hrow, hwallet⟩ := hactive
  refine Prog.answers_bind answers_now fun now _ _ => ?_
  refine Prog.answers_bind (answers_liftExcept _) fun d _ hdata => ?_
  have hasks : Asks agentID req agentIDHex d := ⟨hagent, now, hdata⟩
  refine Prog.answers_bind (answers_liftExcept _) fun digest t₁ hcompute => ?_
  have hdigest : s.digest d.content.payload = some digest := by
    unfold computeSoulContinuityEntryDigest at hcompute
    split at hcompute
    · next digest' hdigest =>
        rw [← Except.ok.inj hcompute]
        exact hdigest
    · cases hcompute
  refine Prog.meets_ite (fun _ => Prog.answers_fail) fun hverify => ?_
  rw [Bool.not_eq_false, hwallet] at hverify
  have hattested := attested_entry hs hasks hrow hdigest hverify
  have happended : ∀ {t : Table} {e : SoulAgentContinuity},
      t.continuity (d.entry agentIDHex).key = some e → e.content = d.content →
      ∃ agentIDHex d, Asks agentID req agentIDHex d ∧ Appended s t₀ t agentIDHex d e :=
    fun he hcontent => ⟨agentIDHex, d, hasks, he, hcontent, row, digest, hrow, hdigest, hverify⟩
  have hentry : continuityEntry agentIDHex d.entryType d.summary d.recovery d.references d.signature
      d.parsedTS = d.entry agentIDHex := rfl
  rw [hentry]
  dsimp only
  refine Prog.answers_bind (answers_create hattested) fun x t₂ hx => ?_
  split
  · exact Prog.answers_pure fun u hu _ => happended (hu _ _ (hx rfl)) hasks.content_entry
  · refine Prog.answers_bind (answers_replay hs hasks hdigest) fun e t₃ he => ?_
    exact Prog.answers_pure fun u hu _ => happended (hu _ _ he.1) he.2
  · exact Prog.answers_fail

end Contract

/-! ## Any number of requests -/

/-- Requests side by side. -/
def appends {ι : Type} (s : Server) (agentID : ι → String) (req : ι → soulAppendContinuityRequest)
    (t : Table) : Config ι Op Op.Res AppTheoryError (SoulAgentContinuity × Bool) Table where
  state := t
  threads i := handleSoulAppendContinuity s (agentID i) (req i)

/-- The contracts ask nothing of the environment. -/
theorem journal_assumes {ι : Type} [DecidableEq ι] {Signed : String → Unsigned → Prop} {t₀ : Table}
    (cfg : Config ι Op Op.Res AppTheoryError (SoulAgentContinuity × Bool) Table)
    (moves : List (ι × Choice)) :
    Along (Config.step fun _ => tableEnv)
      (Config.Performs fun _ => (journalContract Signed t₀).assume) cfg moves := by
  induction moves generalizing cfg with
  | nil => trivial
  | cons m moves ih => exact ⟨fun _ _ _ => trivial, ih _⟩

theorem journal_compatible {ι : Type} (Signed : String → Unsigned → Prop) (t₀ : Table) :
    Compatible (fun _ : ι => journalContract Signed t₀) (journalContract Signed t₀).inv :=
  ⟨fun _ _ => Iff.rfl, fun _ _ _ _ _ _ _ h => h⟩

theorem appends_fits {ι : Type} [DecidableEq ι] {s : Server} {Signed : String → Unsigned → Prop}
    (hs : Unforgeable s.digest s.verifyEthereumSignatureBytes Signed)
    (agentID : ι → String) (req : ι → soulAppendContinuityRequest) {t₀ : Table}
    (hstart : t₀.Attested Signed) (moves : List (ι × Choice)) :
    Fits (fun _ => tableEnv) (fun _ => journalContract Signed t₀) (journalContract Signed t₀).inv
      (fun i => Prog.Answering fun a t => ∃ agentIDHex d, Asks (agentID i) (req i) agentIDHex d ∧
        Appended s t₀ t agentIDHex d a.1)
      ((appends s agentID req t₀).run (fun _ => tableEnv) moves) := by
  have hmeets : ∀ i, ((appends s agentID req t₀).threads i).Meets tableEnv (journalContract Signed t₀)
      (Prog.Answering fun a t => ∃ agentIDHex d, Asks (agentID i) (req i) agentIDHex d ∧
        Appended s t₀ t agentIDHex d a.1) (appends s agentID req t₀).state := by
    intro i
    unfold appends
    dsimp only
    exact answers_append hs (agentID i) (req i)
  exact Fits.run (journal_compatible Signed t₀) ⟨⟨rfl, hstart⟩, hmeets⟩ (journal_assumes _ moves)

/-! ## A request sent once more -/

/-- The request gets to its write: the store answers, the caller may act for the domain, the agent is
    active, and the timestamp is within its window. -/
structure Admitted (t : Table) (agentID : String) (req : soulAppendContinuityRequest)
    (ch : Nat → Choice) : Prop where
  faultless : ∀ n, (ch n).fault = .none
  access : ∀ n, (ch n).access = .ok ()
  active : ∀ agentIDHex identity, parseSoulAgentIDHex agentID = .ok agentIDHex →
    t.identities agentIDHex = some identity →
    effectiveStatus (readRepair identity) = SoulAgentStatusActive
  timely : ∃ d, parseSoulAppendContinuityData req (t.now.Add (ch 2).elapsed) = .ok d

/-- What is left of a request at its write. -/
def storeEntry (s : Server) (entry : SoulAgentContinuity) (digest : Digest) :
    Handler (SoulAgentContinuity × Bool) := do
  match ← Prog.perform (.write [.createContinuity entry] : Op) with
  | .ok () => return (entry, true)
  | .error .conditionFailed => do
      let existing ← loadMatchingSoulContinuityReplay s entry digest
      return (existing, false)
  | .error _ => .fail (newAppTheoryError "app.internal" "failed to create continuity entry")

section Admitted

variable {s : Server} {agentID agentIDHex : String} {req : soulAppendContinuityRequest}
  {d : soulAppendContinuityData} {t : Table} {e : SoulAgentContinuity} {ch : Nat → Choice}
  {identity : SoulAgentIdentity} {digest : Digest}

theorem run_op {α : Type} (o : Op) (k : o.Res → Handler α) (ch : Nat → Choice) (t : Table) :
    (Prog.op o k : Handler α).run tableEnv ch t
      = (k (t.handle o (ch 0)).1).run tableEnv (fun n => ch (n + 1)) (t.handle o (ch 0)).2 := rfl

theorem attempt_faultless {α : Type} {c : Choice} (h : c.fault = .none)
    (r : Except StoreError α × Table) : c.attempt t r = r := by
  rw [Choice.attempt, h]

theorem storedEntryDigest_of {e : SoulAgentContinuity} (hdigest : s.digest e.content.payload = some digest) :
    storedEntryDigest s e = .ok digest := by
  have hpayload : s.digest (unsignedContinuityEntry e.Type (canonicalSoulSignedTimestamp e.Timestamp)
    e.Summary e.Recovery
    (if e.ReferencesV2 = [] then parseLegacyContinuityReferences e.ReferencesJSON else e.ReferencesV2)
    "") = some digest := hdigest
  exact computeSoulContinuityEntryDigest_ok.2 hpayload

/-- A request that is admitted and signed comes to its write. -/
theorem append_run (hasks : Asks agentID req agentIDHex d)
    (hrow : t.identities agentIDHex = some identity) (hdigest : s.digest d.content.payload = some digest)
    (hverify : s.verifyEthereumSignatureBytes identity.Wallet digest d.signature = true)
    (h : Admitted t agentID req ch) :
    (handleSoulAppendContinuity s agentID req).run tableEnv ch t
      = (storeEntry s (d.entry agentIDHex) digest).run tableEnv (fun n => ch (n + 3))
          { t with now := t.now.Add (ch 2).elapsed } := by
  obtain ⟨hnormal, hne⟩ := parseSoulAgentIDHex_normal hasks.agent
  obtain ⟨d', hdata⟩ := h.timely
  obtain ⟨-, hd⟩ := hasks.unique ⟨hasks.agent, _, hdata⟩
  rw [← hd] at hdata
  have hactive := h.active agentIDHex identity hasks.agent hrow
  have hok : ∀ {α : Type} (a : α), (liftExcept (.ok a) : Handler α) = .ret a := fun _ => rfl
  have hget : t.handle (.getIdentity agentIDHex) (ch 0) = (.ok identity, t) := by
    rw [Table.handle, attempt_faultless (h.faultless 0), hrow]
    rfl
  have haccess : ∀ domain, t.handle (.requireDomainAccess domain) (ch 1) = (.ok (), t) := by
    intro domain
    rw [Table.handle, h.access 1]
  have hnow : t.handle .now (ch 2)
      = (t.now.Add (ch 2).elapsed, { t with now := t.now.Add (ch 2).elapsed }) := rfl
  have hverify' : s.verifyEthereumSignatureBytes (readRepair identity).Wallet digest d.signature
      = true := by
    rw [readRepair_Wallet, hverify]
  have hcompute : computeSoulContinuityEntryDigest s d.entryType d.timestampCanonical d.summary d.recovery
      d.references "" = .ok digest := computeSoulContinuityEntryDigest_ok.2 hdigest
  unfold handleSoulAppendContinuity requireActiveSoulAgentWithDomainAccess
  rw [hasks.agent, hok, Prog.ret_bind, getSoulAgentIdentity_normal hnormal hne]
  simp only [fetchIdentity, Prog.perform_bind, Prog.op_bind, run_op, hget, Prog.pure_eq, Prog.ret_bind]
  rw [if_neg (not_not.2 hactive)]
  simp only [requireSoulDomainAccess, now, Prog.perform_bind, Prog.op_bind, Prog.bind_assoc, run_op,
    zero_add, haccess, hok, Prog.ret_bind, hnow, Nat.reduceAdd, hdata,
    hcompute, hverify', Bool.true_eq_false, if_false]
  rfl

/-- **The stored entry is the answer, and nothing is added.** -/
theorem append_again {t₀ : Table} (hasks : Asks agentID req agentIDHex d)
    (happended : Appended s t₀ t agentIDHex d e) (hsame : t.identities = t₀.identities)
    (h : Admitted t agentID req ch) :
    (handleSoulAppendContinuity s agentID req).run tableEnv ch t
      = (.ok (e, false), { t with now := t.now.Add (ch 2).elapsed }) := by
  obtain ⟨identity, digest, hrow, hdigest, hverify⟩ := happended.signed
  rw [← hsame] at hrow
  have hstored : storedEntryDigest s e = .ok digest := by
    refine storedEntryDigest_of ?_
    rw [happended.content, hdigest]
  have htaken : ∀ now, ({ t with now := now } : Table).handle
      (.write [.createContinuity (d.entry agentIDHex)]) (ch 3)
        = (.error .conditionFailed, { t with now := now }) := by
    intro now
    rw [Table.handle, attempt_faultless (h.faultless 3), Table.write, if_neg ?_]
    simp only [List.all_cons, List.all_nil, Bool.and_true, Write.allowed, happended.row]
    simp
  have hread : ∀ now, ({ t with now := now } : Table).handle (.getContinuity (d.entry agentIDHex).key)
      (ch 4) = (.ok e, { t with now := now }) := by
    intro now
    rw [Table.handle, attempt_faultless (h.faultless 4), happended.row]
    rfl
  rw [append_run hasks hrow hdigest hverify h, storeEntry]
  simp only [Prog.perform_bind, Prog.op_bind, run_op, zero_add, Nat.reduceAdd, htaken,
    loadMatchingSoulContinuityReplay, hread, hstored, ne_eq, not_true, if_false]
  rfl

end Admitted

/-! ## The journal -/

/-- **The journal of any run.** -/
theorem journal_signed {ι : Type} [DecidableEq ι] {s : Server} {Signed : String → Unsigned → Prop}
    (hs : Unforgeable s.digest s.verifyEthereumSignatureBytes Signed)
    (agentID : ι → String) (req : ι → soulAppendContinuityRequest) {t₀ : Table}
    (hstart : t₀.Attested Signed) (moves : List (ι × Choice)) :
    let run := fun moves => (appends s agentID req t₀).run (fun _ => tableEnv) moves
    let t := (run moves).state
    t.identities = t₀.identities ∧ t.Attested Signed ∧ (∀ later, t.Keeps (run (moves ++ later)).state) ∧
    (∀ i e created, (run moves).threads i = .ret (e, created) →
      ∃ agentIDHex d, Asks (agentID i) (req i) agentIDHex d ∧
        t.continuity (d.entry agentIDHex).key = some e ∧ e.content = d.content ∧
        ∀ ch, Admitted t (agentID i) (req i) ch →
          (handleSoulAppendContinuity s (agentID i) (req i)).run tableEnv ch t
            = (.ok (e, false), { t with now := t.now.Add (ch 2).elapsed })) ∧
    (∀ i agentIDHex d e, Asks (agentID i) (req i) agentIDHex d →
      t.continuity (d.entry agentIDHex).key = some e → e.content ≠ d.content →
      ∀ answer, (run moves).threads i ≠ .ret answer) := by
  dsimp only
  have hcompatible := journal_compatible (ι := ι) Signed t₀
  have hfits := appends_fits hs agentID req hstart moves
  refine ⟨hfits.inv.1, hfits.inv.2, fun later => ?_, fun i e created hi => ?_, ?_⟩
  · rw [Config.run_append]
    exact hfits.run_rel hcompatible (fun _ _ _ h => h) (fun h h' key e he => h' key e (h key e he))
      (fun _ _ _ h => h) (journal_assumes _ later)
  · obtain ⟨agentIDHex, d, hasks, happended⟩ := hfits.answer hcompatible hi
    exact ⟨agentIDHex, d, hasks, happended.row, happended.content,
      fun ch h => append_again hasks happended hfits.inv.1 h⟩
  · rintro i agentIDHex d e hasks hrow hdiffers ⟨e', created⟩ hi
    obtain ⟨agentIDHex', d', hasks', happended⟩ := hfits.answer hcompatible hi
    obtain ⟨rfl, rfl⟩ := hasks.unique hasks'
    have hsame := happended.row.symm.trans hrow
    cases hsame
    exact hdiffers happended.content

/-! Two agents of one wallet, and an entry that it signed for the first of them. -/

def signedContent : Content := ⟨"migration", "0001-01-01T00:10:00.000Z", "moved", "", []⟩

def signedAppend : soulAppendContinuityRequest where
  «Type» := "migration"
  Timestamp := "0001-01-01T00:10:00Z"
  Summary := "moved"
  Recovery := ""
  References := []
  Signature := "s"

def signedData : soulAppendContinuityData where
  entryType := "migration"
  parsedTS := ⟨600 * Second, .utc⟩
  timestampCanonical := "0001-01-01T00:10:00.000Z"
  summary := "moved"
  recovery := ""
  references := []
  signature := "s"

def walletServer : Server where
  digest u := if u = signedContent.payload then some [1] else none
  verifyEthereumSignatureBytes wallet d sig := wallet == "w" && d == [1] && sig == "s"
  verifyEthereumSignatureBytesNonMalleable wallet d sig := wallet == "w" && d == [1] && sig == "s"

def walletIdentity : SoulAgentIdentity := ⟨"d", "w", 1, "active", "", "", "", "active"⟩

def walletTable : Table where
  identities a := if a = agentIDOf '1' ∨ a = agentIDOf '2' then some walletIdentity else none
  challenges _ := none
  continuity _ := none
  now := ⟨600 * Second, .utc⟩

def walletChoice : Choice := ⟨.none, 0, "t", .ok (), .ok 1⟩

theorem walletServer_unforgeable :
    Unforgeable walletServer.digest walletServer.verifyEthereumSignatureBytes
      fun wallet u => wallet = "w" ∧ u = signedContent.payload := by
  refine .of_single [1] (fun u d => ?_) fun wallet d sig h => ?_
  · show (if u = signedContent.payload then some [1] else none) = some d ↔ _
    by_cases hu : u = signedContent.payload
    · simp [hu, eq_comm]
    · simp [hu]
  · simp only [walletServer, Bool.and_eq_true, beq_iff_eq] at h
    exact h.1

theorem walletTable_attested (Signed : String → Unsigned → Prop) : walletTable.Attested Signed :=
  fun _ _ h => by cases h

theorem parse_signedAppend :
    parseSoulAppendContinuityData signedAppend (walletTable.now.Add walletChoice.elapsed)
      = .ok signedData := by
  decide

theorem wallet_asks : Asks (agentIDOf '2') signedAppend (agentIDOf '2') signedData :=
  ⟨parse_agentIDOf (by decide) (by decide), _, parse_signedAppend⟩

theorem wallet_admitted : Admitted walletTable (agentIDOf '2') signedAppend fun _ => walletChoice where
  faultless _ := rfl
  access _ := rfl
  active := by
    intro agentIDHex identity _ hrow
    unfold walletTable at hrow
    dsimp only at hrow
    split at hrow
    · cases hrow
      decide
    · cases hrow
  timely := ⟨signedData, parse_signedAppend⟩

/-- The second agent gets the entry. -/
theorem wallet_appended : ((handleSoulAppendContinuity walletServer (agentIDOf '2') signedAppend).run
      tableEnv (fun _ => walletChoice) walletTable).2.continuity (signedData.entry (agentIDOf '2')).key
    = some (signedData.entry (agentIDOf '2')) := by
  have hrow : walletTable.identities (agentIDOf '2') = some walletIdentity := by
    unfold walletTable
    dsimp only
    rw [if_pos (Or.inr rfl)]
  have hdigest : walletServer.digest signedData.content.payload = some [1] := by decide
  have hverify : walletServer.verifyEthereumSignatureBytes walletIdentity.Wallet [1] signedData.signature
      = true := by decide
  have hfree : walletTable.continuity (signedData.entry (agentIDOf '2')).key = none := rfl
  have hcreated : ∀ now, ({ walletTable with now := now } : Table).handle
      (.write [.createContinuity (signedData.entry (agentIDOf '2'))]) walletChoice
        = (.ok (), (Write.createContinuity (signedData.entry (agentIDOf '2'))).apply
            { walletTable with now := now }) := by
    intro now
    rw [Table.handle, attempt_faultless rfl, Table.write, if_pos ?_]
    · rfl
    · simp only [List.all_cons, List.all_nil, Bool.and_true, Write.allowed, hfree]
      rfl
  rw [append_run wallet_asks hrow hdigest hverify wallet_admitted, storeEntry]
  simp only [Prog.perform_bind, run_op, hcreated]
  exact create_row _ _

theorem journal_signed_sample :
    let run := fun moves => (appends walletServer (fun _ : Bool => agentIDOf '2') (fun _ => signedAppend)
      walletTable).run (fun _ => tableEnv) moves
    let t := (run [(false, walletChoice), (true, walletChoice)]).state
    ∀ later, t.Keeps (run ([(false, walletChoice), (true, walletChoice)] ++ later)).state :=
  (journal_signed walletServer_unforgeable (fun _ : Bool => agentIDOf '2') (fun _ => signedAppend)
    (walletTable_attested _) [(false, walletChoice), (true, walletChoice)]).2.2.1

/-- What the wallet signed for one agent is stored for another one. -/
theorem not_one_agent_per_signature :
    ¬ ∀ (s : Server) (SignedFor : String → String → Unsigned → Prop),
      Unforgeable s.digest s.verifyEthereumSignatureBytes
        (fun wallet u => ∃ agentID, SignedFor wallet agentID u) →
      ∀ (agentID : Unit → String) (req : Unit → soulAppendContinuityRequest) (t₀ : Table),
        (∀ key, t₀.continuity key = none) → ∀ (moves : List (Unit × Choice)) (key : String × String)
          (e : SoulAgentContinuity),
          ((appends s agentID req t₀).run (fun _ => tableEnv) moves).state.continuity key = some e →
          ∃ identity u, t₀.identities e.AgentID = some identity ∧
            SignedFor identity.Wallet e.AgentID u ∧ u.Perm e.content.payload := by
  intro hclaim
  -- the wallet has signed for the first agent only
  have hunforgeable : Unforgeable walletServer.digest walletServer.verifyEthereumSignatureBytes
      fun wallet u => ∃ agentID, wallet = "w" ∧ agentID = agentIDOf '1' ∧ u = signedContent.payload := by
    refine ⟨walletServer_unforgeable.digest, fun wallet d sig h => ?_⟩
    obtain ⟨u, hu, hwallet, hpayload⟩ := walletServer_unforgeable.signature wallet d sig h
    exact ⟨u, hu, agentIDOf '1', hwallet, rfl, hpayload⟩
  obtain ⟨moves, hmoves⟩ := Config.run_alone (fun _ => tableEnv)
    (appends walletServer (fun _ : Unit => agentIDOf '2') (fun _ => signedAppend) walletTable) ()
    fun _ => walletChoice
  have hstored := wallet_appended
  unfold appends at hmoves
  dsimp only at hmoves
  rw [← hmoves] at hstored
  obtain ⟨identity, u, -, ⟨-, hagent, -⟩, -⟩ := hclaim walletServer
    (fun wallet agentID u => wallet = "w" ∧ agentID = agentIDOf '1' ∧ u = signedContent.payload)
    hunforgeable _ _ walletTable (fun _ => rfl) moves _ _ hstored
  rw [wallet_asks.agent_entry] at hagent
  exact agentIDOf_ne (by decide) hagent

end LesserHost.SoulLifecycle
