import LesserHost.SoulRecovery.Cursor

set_option autoImplicit false

/-! # Following the cursors of the inventory

What a row of the index is to the inventory depends on no other row (`rowVerdict`): it is left out, it
shows an active agent, or the inventory fails closed on it. A walk that follows the cursors ends; it fails
if and only if some row fails closed, and otherwise shows the active agents of all domains, in the order
of the domains and once each (`inventory_walk`). -/

namespace LesserHost.SoulRecovery

open LesserHost.Go LesserHost.SoulComm

variable {Evidence : Type} {db : Store Evidence} {instanceSlug : String}

/-! ## One row -/

inductive Verdict (Evidence : Type) where
  | omitted
  | active (summary : soulRecoveryAgentSummary Evidence)
  | closed (appErr : AppTheoryError)

/-- What the inventory makes of a row of the index of a domain. -/
def rowVerdict (db : Store Evidence) (instanceSlug domain : String) (item : Option SoulDomainAgentIndex) :
    Verdict Evidence :=
  match item with
  | none => .closed (soulRecoveryConflict "domain index binding is invalid")
  | some item =>
      if EqualFold item.Domain domain = false then
        .closed (soulRecoveryConflict "domain index binding is invalid")
      else if ToLower (TrimSpace item.AgentID) = "" then
        .closed (soulRecoveryConflict "domain index agent binding is invalid")
      else match loadSoulRecoveryIdentityRecord db instanceSlug (ToLower (TrimSpace item.AgentID)) with
      | .error appErr => if appErr.Code = soulRecoveryCodeNotFound then .omitted else .closed appErr
      | .ok (identity, status) =>
          if soulRecoveryInventoryIndexMatchesIdentity item identity = false then
            .closed (soulRecoveryConflict "domain index identity binding is invalid")
          else if status ≠ SoulAgentStatusActive then .omitted
          else match loadSummary db instanceSlug (ToLower (TrimSpace item.AgentID)) identity status with
          | .error appErr => .closed appErr
          | .ok summary => .active summary

def Verdict.summary : Verdict Evidence → Option (soulRecoveryAgentSummary Evidence)
  | .active summary => some summary
  | _ => none

def Verdict.Closed (v : Verdict Evidence) : Prop := ∃ appErr, v = .closed appErr

/-- The agent a row names. -/
def agentOf (item : Option SoulDomainAgentIndex) : Option String :=
  item.map fun item => ToLower (TrimSpace item.AgentID)

/-- What a verdict does to the scan. -/
def Verdict.Adds (v : Verdict Evidence) (agent : Option String) (scan : soulRecoveryInventoryScan Evidence)
    (result : Except AppTheoryError (soulRecoveryInventoryScan Evidence)) : Prop :=
  (v = .omitted ∧ result = .ok scan) ∨
  (∃ summary, v = .active summary ∧ ∃ a ∈ agent,
    result = .ok { scan with out := scan.out ++ [summary], seen := a :: scan.seen }) ∨
  ∃ appErr, v = .closed appErr ∧ result = .error appErr

/-- A row whose agent has not been seen does what its verdict says. -/
theorem appendItem_adds {domain : String} {item : Option SoulDomainAgentIndex}
    {scan : soulRecoveryInventoryScan Evidence} (hseen : ∀ a ∈ agentOf item, a ∉ scan.seen) :
    (rowVerdict db instanceSlug domain item).Adds (agentOf item) scan
      (appendItem db instanceSlug domain item scan) := by
  cases item with
  | none => exact .inr (.inr ⟨_, rfl, rfl⟩)
  | some item =>
      have hnew : ToLower (TrimSpace item.AgentID) ∉ scan.seen := hseen _ rfl
      have hagent : ToLower (TrimSpace item.AgentID) ∈ agentOf (some item) := rfl
      unfold rowVerdict appendItem
      dsimp only
      generalize ToLower (TrimSpace item.AgentID) = agentID at hnew hagent
      by_cases hdomain : EqualFold item.Domain domain = false
      · rw [if_pos hdomain, if_pos hdomain]
        exact .inr (.inr ⟨_, rfl, rfl⟩)
      rw [if_neg hdomain, if_neg hdomain]
      by_cases hblank : agentID = ""
      · rw [if_pos hblank, if_pos hblank]
        exact .inr (.inr ⟨_, rfl, rfl⟩)
      rw [if_neg hblank, if_neg hblank]
      generalize loadSoulRecoveryIdentityRecord db instanceSlug agentID = record
      rcases record with appErr | ⟨identity, status⟩
      · dsimp only
        by_cases hcode : appErr.Code = soulRecoveryCodeNotFound
        · rw [if_pos hcode, if_pos hcode]
          exact .inl ⟨rfl, rfl⟩
        · rw [if_neg hcode, if_neg hcode]
          exact .inr (.inr ⟨_, rfl, rfl⟩)
      · dsimp only
        by_cases hmatch : soulRecoveryInventoryIndexMatchesIdentity item identity = false
        · rw [if_pos hmatch, if_pos hmatch]
          exact .inr (.inr ⟨_, rfl, rfl⟩)
        rw [if_neg hmatch, if_neg hmatch, if_neg hnew]
        by_cases hstatus : status ≠ SoulAgentStatusActive
        · rw [if_pos hstatus, if_pos hstatus]
          exact .inl ⟨rfl, rfl⟩
        rw [if_neg hstatus, if_neg hstatus]
        generalize loadSummary db instanceSlug agentID identity status = loaded
        cases loaded with
        | error appErr => exact .inr (.inr ⟨_, rfl, rfl⟩)
        | ok summary => exact .inr (.inl ⟨_, rfl, _, hagent, rfl⟩)

/-! ## A page of rows -/

section Items

variable {domain : String} {items : List (Option SoulDomainAgentIndex)}
  {scan : soulRecoveryInventoryScan Evidence}

/-- The active agents of rows. -/
def activeOf (db : Store Evidence) (instanceSlug domain : String)
    (items : List (Option SoulDomainAgentIndex)) : List (soulRecoveryAgentSummary Evidence) :=
  items.filterMap fun item => (rowVerdict db instanceSlug domain item).summary

/-- What rows that were appended have done to a scan. -/
structure Appended (db : Store Evidence) (instanceSlug domain : String)
    (items : List (Option SoulDomainAgentIndex)) (scan scan' : soulRecoveryInventoryScan Evidence) :
    Prop where
  unclosed : ∀ item ∈ items, ¬ (rowVerdict db instanceSlug domain item).Closed
  out : scan'.out = scan.out ++ activeOf db instanceSlug domain items
  domainIndex : scan'.domainIndex = scan.domainIndex
  inner : scan'.inner = scan.inner
  seen : ∀ a ∈ scan'.seen, a ∈ scan.seen ∨ a ∈ items.filterMap agentOf

theorem Appended.append {items' : List (Option SoulDomainAgentIndex)}
    {scan' scan'' : soulRecoveryInventoryScan Evidence}
    (h : Appended db instanceSlug domain items scan scan')
    (h' : Appended db instanceSlug domain items' scan' scan'') :
    Appended db instanceSlug domain (items ++ items') scan scan'' where
  unclosed item hitem := (List.mem_append.1 hitem).elim (h.unclosed item) (h'.unclosed item)
  out := by
    rw [h'.out, h.out, activeOf, activeOf, activeOf, List.filterMap_append, List.append_assoc]
  domainIndex := h'.domainIndex.trans h.domainIndex
  inner := h'.inner.trans h.inner
  seen a ha := by
    rw [List.filterMap_append, List.mem_append]
    rcases h'.seen a ha with hmem | hmem
    · exact (h.seen a hmem).imp_right .inl
    · exact .inr (.inr hmem)

/-- The step: one row fails closed or is appended. -/
theorem appendItem_spec {item : Option SoulDomainAgentIndex} (hseen : ∀ a ∈ agentOf item, a ∉ scan.seen) :
    (∃ appErr, appendItem db instanceSlug domain item scan = .error appErr ∧
      (rowVerdict db instanceSlug domain item).Closed) ∨
    ∃ scan', appendItem db instanceSlug domain item scan = .ok scan' ∧
      Appended db instanceSlug domain [item] scan scan' := by
  have happend : (rowVerdict db instanceSlug domain item).Adds (agentOf item) scan
    (appendItem db instanceSlug domain item scan) := appendItem_adds hseen
  rcases happend with ⟨hverdict, hitem⟩ | ⟨summary, hverdict, a, ha, hitem⟩ | ⟨appErr, hverdict, hitem⟩
  · refine .inr ⟨scan, hitem, ?_, ?_, rfl, rfl, fun b hb => .inl hb⟩
    · rw [List.forall_mem_singleton, hverdict]
      rintro ⟨appErr, h⟩
      cases h
    · simp [activeOf, hverdict, Verdict.summary]
  · refine .inr ⟨_, hitem, ?_, ?_, rfl, rfl, fun b hb => ?_⟩
    · rw [List.forall_mem_singleton, hverdict]
      rintro ⟨appErr, h⟩
      cases h
    · simp [activeOf, hverdict, Verdict.summary]
    · rcases List.mem_cons.1 hb with rfl | hb
      · exact .inr (List.mem_filterMap.2 ⟨item, List.mem_cons_self, ha⟩)
      · exact .inl hb
  · exact .inl ⟨appErr, hitem, appErr, hverdict⟩

/-- Rows of different agents fail on a row that fails closed, or add their active agents. -/
theorem append_spec (hnodup : (items.filterMap agentOf).Nodup)
    (hseen : ∀ a ∈ items.filterMap agentOf, a ∉ scan.seen) :
    (∃ appErr, appendSoulRecoveryInventoryItems db instanceSlug domain items scan = .error appErr ∧
      ∃ item ∈ items, (rowVerdict db instanceSlug domain item).Closed) ∨
    ∃ scan', appendSoulRecoveryInventoryItems db instanceSlug domain items scan = .ok scan' ∧
      Appended db instanceSlug domain items scan scan' := by
  induction items generalizing scan with
  | nil => exact .inr ⟨scan, rfl, by simp, (List.append_nil _).symm, rfl, rfl, fun a ha => .inl ha⟩
  | cons item items ih =>
      have hsplit : (item :: items).filterMap agentOf
          = [item].filterMap agentOf ++ items.filterMap agentOf := List.filterMap_append (l := [item])
      -- the agents of the later rows are none that this row adds to `seen`
      rw [hsplit] at hnodup hseen
      have hfirst : ∀ a ∈ agentOf item, a ∉ scan.seen := fun a ha =>
        hseen a (List.mem_append_left _ (List.mem_filterMap.2 ⟨item, List.mem_cons_self, ha⟩))
      obtain ⟨-, hnodup', hdisjoint⟩ := List.nodup_append.1 hnodup
      rw [appendSoulRecoveryInventoryItems]
      rcases @appendItem_spec Evidence db instanceSlug domain scan item hfirst with ⟨appErr, hitem, hclosed⟩ | ⟨middle, hitem, hadded⟩
      · rw [hitem]
        exact .inl ⟨appErr, rfl, item, List.mem_cons_self, hclosed⟩
      · rw [hitem]
        have hseen' : ∀ a ∈ items.filterMap agentOf, a ∉ middle.seen := by
          intro a ha hmem
          rcases hadded.seen a hmem with hold | hnew
          · exact hseen a (List.mem_append_right _ ha) hold
          · exact hdisjoint a hnew a ha rfl
        rcases ih hnodup' hseen' with ⟨appErr, hrest, later, hlater, hclosed⟩ | ⟨scan', hrest, hlater⟩
        · exact .inl ⟨appErr, hrest, later, List.mem_cons_of_mem _ hlater, hclosed⟩
        · exact .inr ⟨scan', hrest, hadded.append hlater⟩

end Items

/-! ## The index -/

/-- What a query of a partition answers: at most its limit of items, and a cursor that is not empty exactly
when it goes on after them. -/
structure PageFrom (result : Except ReadError (List (Option SoulDomainAgentIndex) × Option PaginatedResult))
    (limit : Nat) (left : List (Option SoulDomainAgentIndex)) (goesOn : String → Prop)
    (after : String → List (Option SoulDomainAgentIndex)) : Prop where
  page : ∃ items paged, result = .ok (items, paged) ∧ items.length ≤ limit ∧
    ((left = items ∧ ∀ p ∈ paged, p.HasMore = false ∧ p.NextCursor = "") ∨
      ∃ p, paged = some p ∧ p.HasMore = true ∧ p.NextCursor ≠ "" ∧
        TrimSpace p.NextCursor = p.NextCursor ∧ goesOn p.NextCursor ∧ left = items ++ after p.NextCursor)

/-- An index whose rows do not change. A cursor stands for the rows after it; a page may be empty, but its
cursor is nearer to the end. -/
structure PagedIndex (db : Store Evidence) where
  rows : (pk : String) → List (Option SoulDomainAgentIndex)
  left : (pk cursor : String) → List (Option SoulDomainAgentIndex)
  turns : (pk cursor : String) → Nat
  /-- the cursors that were handed out, and the empty one -/
  Issued : (pk cursor : String) → Prop
  start : ∀ pk, Issued pk "" ∧ left pk "" = rows pk
  page : ∀ pk cursor limit, Issued pk cursor → 0 < limit →
    PageFrom (db.AllPaginated pk cursor limit) limit (left pk cursor)
      (fun next => Issued pk next ∧ turns pk next < turns pk cursor) (left pk)
  trimmed : ∀ pk cursor, Issued pk cursor → TrimSpace cursor = cursor

variable (ix : PagedIndex db)

namespace PagedIndex

/-- The rows of domains, each with its domain. -/
def rowsOf (domains : List String) : List (String × Option SoulDomainAgentIndex) :=
  domains.flatMap fun domain => (ix.rows (domainPK domain)).map (domain, ·)

/-- The rows that are left for a scan of these domains that stands in the first one. -/
def remaining : List String → String → List (String × Option SoulDomainAgentIndex)
  | [], _ => []
  | domain :: domains, inner =>
      (ix.left (domainPK domain) inner).map (domain, ·) ++ ix.rowsOf domains

/-- A bound on the queries that are left. -/
def effort : List String → String → Nat
  | [], _ => 0
  | domain :: domains, inner => ix.turns (domainPK domain) inner + 1 +
      (domains.map fun domain => ix.turns (domainPK domain) "" + 1).sum

/-- A cursor of the first domain. -/
def At : List String → String → Prop
  | [], inner => inner = ""
  | domain :: _, inner => ix.Issued (domainPK domain) inner

theorem remaining_start (domains : List String) : ix.remaining domains "" = ix.rowsOf domains := by
  cases domains with
  | nil => rfl
  | cons domain domains => rw [remaining, (ix.start _).2, rowsOf, rowsOf, List.flatMap_cons]

theorem at_start (domains : List String) : ix.At domains "" := by
  cases domains with
  | nil => rfl
  | cons domain domains => exact (ix.start _).1

theorem effort_start (domain : String) (domains : List String) (inner : String) :
    ix.effort domains "" < ix.effort (domain :: domains) inner := by
  cases domains with
  | nil => exact Nat.succ_pos _
  | cons next domains =>
      simp only [effort, List.map_cons, List.sum_cons]
      omega

end PagedIndex

/-! ## Rows that were passed -/

def verdictOf (db : Store Evidence) (instanceSlug : String) (row : String × Option SoulDomainAgentIndex) :
    Verdict Evidence := rowVerdict db instanceSlug row.1 row.2

/-- The active agents of rows of several domains. -/
def inventory (db : Store Evidence) (instanceSlug : String)
    (rows : List (String × Option SoulDomainAgentIndex)) : List (soulRecoveryAgentSummary Evidence) :=
  rows.filterMap fun row => (verdictOf db instanceSlug row).summary

def agentsOf (rows : List (String × Option SoulDomainAgentIndex)) : List String :=
  rows.filterMap fun row => agentOf row.2

theorem agentsOf_map (domain : String) (items : List (Option SoulDomainAgentIndex)) :
    agentsOf (items.map (domain, ·)) = items.filterMap agentOf := by
  rw [agentsOf, List.filterMap_map]
  rfl

theorem inventory_map (domain : String) (items : List (Option SoulDomainAgentIndex)) :
    inventory db instanceSlug (items.map (domain, ·)) = activeOf db instanceSlug domain items := by
  rw [inventory, List.filterMap_map]
  rfl

section Scan

variable {domains : List String} {limit : Nat} {scan scan' scan'' : soulRecoveryInventoryScan Evidence}

/-- The rows that are left for a scan. -/
def rest (domains : List String) (scan : soulRecoveryInventoryScan Evidence) :
    List (String × Option SoulDomainAgentIndex) :=
  ix.remaining (domains.drop scan.domainIndex) scan.inner

def effortOf (domains : List String) (scan : soulRecoveryInventoryScan Evidence) : Nat :=
  ix.effort (domains.drop scan.domainIndex) scan.inner

/-- A scan that has gone on from another one, over rows none of which fails closed. -/
structure Reaches (instanceSlug : String) (domains : List String)
    (scan scan' : soulRecoveryInventoryScan Evidence) : Prop where
  position : ix.At (domains.drop scan'.domainIndex) scan'.inner
  passed : ∃ taken, rest ix domains scan = taken ++ rest ix domains scan' ∧
    (∀ row ∈ taken, ¬ (verdictOf db instanceSlug row).Closed) ∧
    scan'.out = scan.out ++ inventory db instanceSlug taken ∧
    ∀ a ∈ scan'.seen, a ∈ scan.seen ∨ a ∈ agentsOf taken

/-- The rows left for a scan name different agents, none of which it has seen. -/
structure Fresh (domains : List String) (scan : soulRecoveryInventoryScan Evidence) : Prop where
  nodup : (agentsOf (rest ix domains scan)).Nodup
  unseen : ∀ a ∈ agentsOf (rest ix domains scan), a ∉ scan.seen

variable {ix}

theorem Reaches.trans (h : Reaches ix instanceSlug domains scan scan')
    (h' : Reaches ix instanceSlug domains scan' scan'') : Reaches ix instanceSlug domains scan scan'' := by
  obtain ⟨taken, hrest, hopen, hout, hseen⟩ := h.passed
  obtain ⟨taken', hrest', hunclosed, hout', hseen'⟩ := h'.passed
  refine ⟨h'.position, taken ++ taken', ?_, fun row hrow => ?_, ?_, fun a ha => ?_⟩
  · rw [hrest, hrest', List.append_assoc]
  · exact (List.mem_append.1 hrow).elim (hopen row) (hunclosed row)
  · rw [hout', hout, inventory, inventory, inventory, List.filterMap_append, List.append_assoc]
  · rw [agentsOf, List.filterMap_append, List.mem_append]
    rcases hseen' a ha with hmem | hmem
    · exact (hseen a hmem).imp_right .inl
    · exact .inr (.inr hmem)

theorem Reaches.fresh (h : Reaches ix instanceSlug domains scan scan') (hfresh : Fresh ix domains scan) :
    Fresh ix domains scan' := by
  obtain ⟨taken, hrest, -, -, hseen⟩ := h.passed
  have hsplit : agentsOf (rest ix domains scan) = agentsOf taken ++ agentsOf (rest ix domains scan') := by
    rw [hrest, agentsOf, agentsOf, agentsOf, List.filterMap_append]
  obtain ⟨hnodup, hunseen⟩ := hfresh
  rw [hsplit] at hnodup hunseen
  obtain ⟨-, hnodup', hdisjoint⟩ := List.nodup_append.1 hnodup
  refine ⟨hnodup', fun a ha hmem => ?_⟩
  rcases hseen a hmem with hold | htaken
  · exact hunseen a (List.mem_append_right _ ha) hold
  · exact hdisjoint a htaken a ha rfl

/-! ## One page of the index -/

/-- What a page of the index has: its items are the rows up to the next cursor, or all that are left. -/
theorem query_spec {domain inner : String} {shown : Nat} (hissued : ix.Issued (domainPK domain) inner)
    (hroom : shown < limit) :
    ∃ items more next, querySoulRecoveryDomainAgents db domain inner ((limit : Int) - shown)
        = .ok (items, more, next) ∧ items.length ≤ limit - shown ∧
      ((¬ (more = true ∧ TrimSpace next ≠ "") ∧ ix.left (domainPK domain) inner = items) ∨
        ((more = true ∧ TrimSpace next ≠ "") ∧ ix.Issued (domainPK domain) (TrimSpace next) ∧
          ix.turns (domainPK domain) (TrimSpace next) < ix.turns (domainPK domain) inner ∧
          ix.left (domainPK domain) inner = items ++ ix.left (domainPK domain) (TrimSpace next))) := by
  have hpos : ¬ ((limit : Int) - shown ≤ 0) := by omega
  have hlimit : ((limit : Int) - shown).toNat = limit - shown := by omega
  obtain ⟨items, paged, hresult, hlength, hpage⟩ :=
    (ix.page (domainPK domain) inner (limit - shown) hissued (by omega)).page
  rw [← ix.trimmed _ _ hissued] at hresult
  rcases hpage with ⟨hleft, hlast⟩ | ⟨p, hpaged, hmore, hne, htrim, ⟨hnext, hturns⟩, hleft⟩
  · cases paged with
    | none =>
        refine ⟨items, false, "", ?_, hlength, .inl ⟨fun h => Bool.noConfusion h.1, hleft⟩⟩
        simp only [querySoulRecoveryDomainAgents, if_neg hpos, hlimit, hresult]
    | some p =>
        obtain ⟨hmore, -⟩ := hlast p rfl
        refine ⟨items, p.HasMore, TrimSpace p.NextCursor, ?_, hlength, .inl ⟨fun h => ?_, hleft⟩⟩
        · simp only [querySoulRecoveryDomainAgents, if_neg hpos, hlimit, hresult]
        · rw [hmore] at h
          exact Bool.noConfusion h.1
  · refine ⟨items, p.HasMore, TrimSpace p.NextCursor, ?_, hlength, .inr ?_⟩
    · simp only [querySoulRecoveryDomainAgents, if_neg hpos, hlimit, hresult, hpaged]
    · rw [htrim, htrim]
      exact ⟨⟨hmore, hne⟩, hnext, hturns, hleft⟩

theorem drop_of_getElem? {domain : String} {i : Nat} (h : domains[i]? = some domain) :
    domains.drop i = domain :: domains.drop (i + 1) := by
  obtain ⟨hi, hget⟩ := List.getElem?_eq_some_iff.1 h
  rw [List.drop_eq_getElem_cons hi, hget]

/-- Where a scan stands that has appended the rows of a page. -/
theorem advance_spec {domain next : String} {items : List (Option SoulDomainAgentIndex)} {more : Bool}
    (hdomain : domains[scan.domainIndex]? = some domain)
    (happended : Appended db instanceSlug domain items scan scan')
    (hpage : (¬ (more = true ∧ TrimSpace next ≠ "") ∧ ix.left (domainPK domain) scan.inner = items) ∨
      ((more = true ∧ TrimSpace next ≠ "") ∧ ix.Issued (domainPK domain) (TrimSpace next) ∧
        ix.turns (domainPK domain) (TrimSpace next) < ix.turns (domainPK domain) scan.inner ∧
        ix.left (domainPK domain) scan.inner
          = items ++ ix.left (domainPK domain) (TrimSpace next))) :
    Reaches ix instanceSlug domains scan (scan'.advance more next) ∧
      effortOf ix domains (scan'.advance more next) < effortOf ix domains scan := by
  have hdrop := drop_of_getElem? hdomain
  have hrest : rest ix domains scan = (ix.left (domainPK domain) scan.inner).map (domain, ·)
      ++ ix.rowsOf (domains.drop (scan.domainIndex + 1)) := by
    rw [rest, hdrop, PagedIndex.remaining]
  have hopen : ∀ row ∈ items.map (domain, ·), ¬ (verdictOf db instanceSlug row).Closed := by
    intro row hrow
    obtain ⟨item, hitem, rfl⟩ := List.mem_map.1 hrow
    exact happended.unclosed item hitem
  have hout : scan'.out = scan.out ++ inventory db instanceSlug (items.map (domain, ·)) := by
    rw [inventory_map, happended.out]
  have hseen : ∀ a ∈ scan'.seen, a ∈ scan.seen ∨ a ∈ agentsOf (items.map (domain, ·)) := by
    rw [agentsOf_map]
    exact happended.seen
  rcases hpage with ⟨hlast, hleft⟩ | ⟨hmore, hissued, hturns, hleft⟩
  -- the domain is exhausted: the next one starts, and its cursor is the empty one
  · have hadvance : scan'.advance more next
        = { scan' with domainIndex := scan.domainIndex + 1, inner := "" } := by
      rw [soulRecoveryInventoryScan.advance, if_neg hlast, happended.domainIndex]
    rw [hadvance]
    refine ⟨⟨ix.at_start _, items.map (domain, ·), ?_, hopen, hout, hseen⟩, ?_⟩
    · rw [hrest, hleft, rest, PagedIndex.remaining_start]
    · rw [effortOf, effortOf, hdrop]
      exact ix.effort_start _ _ _
  -- more rows of the same domain, after the next cursor
  · have hadvance : scan'.advance more next
        = { scan' with domainIndex := scan.domainIndex, inner := TrimSpace next } := by
      rw [soulRecoveryInventoryScan.advance, if_pos hmore, happended.domainIndex]
    rw [hadvance]
    refine ⟨⟨?_, items.map (domain, ·), ?_, hopen, hout, hseen⟩, ?_⟩
    · rw [hdrop]
      exact hissued
    · rw [hrest, hleft, rest, hdrop, PagedIndex.remaining, List.map_append, List.append_assoc]
    · rw [effortOf, effortOf, hdrop, PagedIndex.effort, PagedIndex.effort]
      exact Nat.add_lt_add_right (Nat.add_lt_add_right hturns 1) _

/-- What follows a page. -/
def nextStep (domains : List String) (limit : Nat) (scan : soulRecoveryInventoryScan Evidence) :
    ScanStep Evidence :=
  if scan.out.length < limit then .again scan
  else if scan.domainIndex < domains.length then .done scan true scan.cursor
  else .done scan false ""

/-- The step: a query and what is made of its rows. -/
theorem scan_page {domain : String} (hdomain : domains[scan.domainIndex]? = some domain)
    (hcap : scan.pageCount < soulRecoveryMaxScanPages) (hroom : scan.out.length < limit)
    (hat : ix.At (domains.drop scan.domainIndex) scan.inner) (hfresh : Fresh ix domains scan) :
    (∃ failed appErr, scanSoulRecoveryInventoryPage db instanceSlug domains limit scan
        = .failed failed appErr ∧ failed.pageCount = scan.pageCount + 1 ∧
      ∃ row ∈ rest ix domains scan, (verdictOf db instanceSlug row).Closed) ∨
    ∃ scan', scanSoulRecoveryInventoryPage db instanceSlug domains limit scan
        = nextStep domains limit scan' ∧ Reaches ix instanceSlug domains scan scan' ∧
      effortOf ix domains scan' < effortOf ix domains scan ∧
      scan'.pageCount = scan.pageCount + 1 ∧ scan'.out.length ≤ limit := by
  have hdrop := drop_of_getElem? hdomain
  rw [hdrop] at hat
  obtain ⟨items, more, next, hquery, hlength, hpage⟩ := query_spec hat hroom
  set counted : soulRecoveryInventoryScan Evidence := { scan with pageCount := scan.pageCount + 1 }
    with hcounted
  have hleft : ∃ after, ix.left (domainPK domain) scan.inner = items ++ after := by
    rcases hpage with ⟨-, hleft⟩ | ⟨-, -, -, hleft⟩
    · exact ⟨[], by rw [hleft, List.append_nil]⟩
    · exact ⟨_, hleft⟩
  obtain ⟨after, hafter⟩ := hleft
  have hrest : rest ix domains scan = items.map (domain, ·) ++ (after.map (domain, ·)
      ++ ix.rowsOf (domains.drop (scan.domainIndex + 1))) := by
    rw [rest, hdrop, PagedIndex.remaining, hafter, List.map_append, List.append_assoc]
  obtain ⟨hnodup, hunseen⟩ := hfresh
  rw [hrest, agentsOf, List.filterMap_append] at hnodup hunseen
  have hitems := agentsOf_map domain items
  rw [agentsOf] at hitems
  rw [hitems] at hnodup hunseen
  have hspec := @append_spec Evidence db instanceSlug domain items counted
    (List.nodup_append.1 hnodup).1 fun a ha => hunseen a (List.mem_append_left _ ha)
  have hroomed : scan.out.length + items.length ≤ limit := by omega
  rw [scanSoulRecoveryInventoryPage, hdomain]
  dsimp only
  rw [if_neg (by omega), hquery]
  dsimp only
  rcases hspec with ⟨appErr, happend, item, hitem, hclosed⟩ | ⟨scan', happend, happended⟩
  · refine .inl ⟨counted, appErr, by rw [happend], rfl, (domain, item), ?_, hclosed⟩
    rw [hrest]
    exact List.mem_append_left _ (List.mem_map_of_mem hitem)
  · refine .inr ⟨scan'.advance more next, by rw [happend]; rfl, ?_⟩
    have hspec : Reaches ix instanceSlug domains scan (scan'.advance more next) ∧
        effortOf ix domains (scan'.advance more next) < effortOf ix domains scan := advance_spec hdomain ⟨happended.unclosed, happended.out,
      happended.domainIndex, happended.inner, happended.seen⟩ hpage
    refine ⟨hspec.1, hspec.2, ?_, ?_⟩
    · rw [advance_pageCount, append_pageCount happend]
    · rw [advance_out, happended.out, List.length_append]
      have hle := List.length_filterMap_le
        (fun item => (rowVerdict db instanceSlug domain item).summary) items
      rw [activeOf]
      exact (Nat.add_le_add_left hle _).trans hroomed

/-! ## One request -/

theorem scanLoop_failed {failed : soulRecoveryInventoryScan Evidence} {appErr : AppTheoryError}
    (h : scanSoulRecoveryInventoryPage db instanceSlug domains limit scan = .failed failed appErr) :
    scanLoop db instanceSlug domains limit scan = ⟨failed.pageCount, .error appErr⟩ := by
  rw [scanLoop]
  split <;> rename_i heq <;> rw [h] at heq <;> cases heq
  rfl

theorem scanLoop_done {more : Bool} {next : String}
    (h : scanSoulRecoveryInventoryPage db instanceSlug domains limit scan = .done scan' more next) :
    scanLoop db instanceSlug domains limit scan = ⟨scan'.pageCount, .ok ⟨scan'.out, more, next⟩⟩ := by
  rw [scanLoop]
  split <;> rename_i heq <;> rw [h] at heq <;> cases heq
  rfl

theorem scanLoop_again (h : scanSoulRecoveryInventoryPage db instanceSlug domains limit scan = .again scan') :
    scanLoop db instanceSlug domains limit scan = scanLoop db instanceSlug domains limit scan' := by
  rw [scanLoop]
  split <;> rename_i heq <;> rw [h] at heq <;> cases heq
  rfl

/-- What a request answers that started at a scan. -/
inductive Answers (ix : PagedIndex db) (instanceSlug : String) (domains : List String) (limit : Nat)
    (scan : soulRecoveryInventoryScan Evidence) : Except AppTheoryError (Listing Evidence) → Prop
  | failed {appErr : AppTheoryError} (row : String × Option SoulDomainAgentIndex)
      (left : row ∈ rest ix domains scan) (closed : (verdictOf db instanceSlug row).Closed) :
      Answers ix instanceSlug domains limit scan (.error appErr)
  | last {scan' : soulRecoveryInventoryScan Evidence} (reaches : Reaches ix instanceSlug domains scan scan')
      (length : scan'.out.length ≤ limit) (ended : rest ix domains scan' = []) :
      Answers ix instanceSlug domains limit scan (.ok ⟨scan'.out, false, ""⟩)
  | more {scan' : soulRecoveryInventoryScan Evidence} (reaches : Reaches ix instanceSlug domains scan scan')
      (length : scan'.out.length ≤ limit) (index : scan'.domainIndex < domains.length)
      (near : effortOf ix domains scan' ≤ effortOf ix domains scan)
      (nearer : scan.pageCount < soulRecoveryMaxScanPages →
        effortOf ix domains scan' < effortOf ix domains scan) :
      Answers ix instanceSlug domains limit scan (.ok ⟨scan'.out, true, scan'.cursor⟩)

/-- An answer after a page is an answer. -/
theorem Answers.after {result : Except AppTheoryError (Listing Evidence)}
    (hreaches : Reaches ix instanceSlug domains scan scan')
    (hnearer : effortOf ix domains scan' < effortOf ix domains scan)
    (h : Answers ix instanceSlug domains limit scan' result) :
    Answers ix instanceSlug domains limit scan result := by
  obtain ⟨taken, hrest, -⟩ := hreaches.passed
  cases h with
  | failed row left closed => exact .failed row (hrest ▸ List.mem_append_right _ left) closed
  | last reaches length ended => exact .last (hreaches.trans reaches) length ended
  | more reaches length index near nearer =>
      exact .more (hreaches.trans reaches) length index (near.trans hnearer.le)
        fun _ => lt_of_le_of_lt near hnearer

theorem rest_nil (h : domains[scan.domainIndex]? = none) : rest ix domains scan = [] := by
  rw [rest, List.drop_eq_nil_of_le (List.getElem?_eq_none_iff.1 h), PagedIndex.remaining]

theorem Reaches.refl (hat : ix.At (domains.drop scan.domainIndex) scan.inner) :
    Reaches ix instanceSlug domains scan scan :=
  ⟨hat, [], rfl, by simp, by simp [inventory], fun _ ha => .inl ha⟩

/-- The run: a request makes at most the queries of the cap, and answers for rows in their order. -/
theorem scanLoop_spec (hcap : scan.pageCount ≤ soulRecoveryMaxScanPages) (hroom : scan.out.length < limit)
    (hat : ix.At (domains.drop scan.domainIndex) scan.inner) (hfresh : Fresh ix domains scan) :
    (scanLoop db instanceSlug domains limit scan).queries ≤ soulRecoveryMaxScanPages ∧
      Answers ix instanceSlug domains limit scan
        (scanLoop db instanceSlug domains limit scan).result := by
  -- the induction is on the queries that the cap leaves
  induction hfuel : soulRecoveryMaxScanPages - scan.pageCount generalizing scan with
  | zero =>
      -- no query is left: the request ends where it stands
      have hfull : soulRecoveryMaxScanPages ≤ scan.pageCount := by omega
      cases hdomain : domains[scan.domainIndex]? with
      | none =>
          have hpage : scanSoulRecoveryInventoryPage db instanceSlug domains limit scan
              = .done scan false "" := by rw [scanSoulRecoveryInventoryPage, hdomain]
          rw [scanLoop_done hpage]
          exact ⟨hcap, .last (.refl hat) hroom.le (rest_nil hdomain)⟩
      | some domain =>
          have hpage : scanSoulRecoveryInventoryPage db instanceSlug domains limit scan
              = .done scan true scan.cursor := by
            rw [scanSoulRecoveryInventoryPage, hdomain]
            exact if_pos hfull
          rw [scanLoop_done hpage]
          exact ⟨hcap, .more (.refl hat) hroom.le (List.getElem?_eq_some_iff.1 hdomain).1 le_rfl
            fun hlt => absurd hlt (not_lt.2 hfull)⟩
  | succ fuel ih =>
      cases hdomain : domains[scan.domainIndex]? with
      | none =>
          have hpage : scanSoulRecoveryInventoryPage db instanceSlug domains limit scan
              = .done scan false "" := by rw [scanSoulRecoveryInventoryPage, hdomain]
          rw [scanLoop_done hpage]
          exact ⟨hcap, .last (.refl hat) hroom.le (rest_nil hdomain)⟩
      | some domain =>
          rcases scan_page hdomain (by omega) hroom hat hfresh with
            ⟨failed, appErr, hpage, hcount, row, hrow, hclosed⟩ |
            ⟨scan', hpage, hreaches, hnearer, hcount, hlength⟩
          · rw [scanLoop_failed hpage]
            exact ⟨by dsimp only; omega, .failed row hrow hclosed⟩
          · rw [nextStep] at hpage
            split_ifs at hpage with hshort hmore
            · rw [scanLoop_again hpage]
              obtain ⟨hqueries, hanswers⟩ := ih (by omega) hshort hreaches.position
                (hreaches.fresh hfresh) (by omega)
              exact ⟨hqueries, hanswers.after hreaches hnearer⟩
            -- the page is full: the domains that are left decide whether there is more
            · rw [scanLoop_done hpage]
              exact ⟨by dsimp only; omega, .more hreaches hlength hmore hnearer.le fun _ => hnearer⟩
            · rw [scanLoop_done hpage]
              refine ⟨by dsimp only; omega, .last hreaches hlength (rest_nil ?_)⟩
              exact List.getElem?_eq_none_iff.2 (not_lt.1 hmore)

end Scan

/-! ## Domains -/

theorem addSoulRosterDomainOwner_nodup {owners : List String} (h : owners.Nodup) (domain : String) :
    (addSoulRosterDomainOwner owners domain).Nodup := by
  unfold addSoulRosterDomainOwner
  dsimp only
  split_ifs with hblank hmem
  · exact h
  · exact h
  · refine List.nodup_append.2 ⟨h, List.nodup_cons.2 ⟨List.not_mem_nil, .nil⟩, fun a ha b hb hab => ?_⟩
    rw [List.mem_singleton] at hb
    exact hmem (hb ▸ hab ▸ ha)

theorem foldl_addSoulRosterDomainOwner (names : List String) {owners : List String} (h : owners.Nodup) :
    (names.foldl addSoulRosterDomainOwner owners).Nodup := by
  induction names generalizing owners with
  | nil => exact h
  | cons name names ih =>
      rw [List.foldl_cons]
      exact ih (addSoulRosterDomainOwner_nodup h name)

/-- The domains are in order, each once. -/
theorem domains_sorted {domains : List String} (h : loadSoulRecoveryDomains db instanceSlug = .ok domains) :
    domains.Pairwise (· ≤ ·) ∧ domains.Nodup := by
  unfold loadSoulRecoveryDomains at h
  split at h
  · cases h
  · cases h
  · cases h
  · split_ifs at h
    · rw [← Except.ok.inj h]
      exact ⟨.nil, .nil⟩
    · split at h
      · cases h
      · rw [← Except.ok.inj h]
        exact ⟨sortStrings_sorted _,
          (List.mergeSort_perm _ _).nodup_iff.2 (foldl_addSoulRosterDomainOwner _ .nil)⟩

/-! ## The walk -/

/-- The requests that follow the cursors, up to the page that says there is no more or to an error. -/
inductive Walk (db : Store Evidence) (instanceSlug : String) (limit : Nat) :
    String → List (Response Evidence) → Prop
  | last {cursor : String} (ended : ∀ page, (requestPage db instanceSlug limit cursor).result = .ok page →
      page.hasMore = false) : Walk db instanceSlug limit cursor [requestPage db instanceSlug limit cursor]
  | next {cursor : String} {page : Listing Evidence} {responses : List (Response Evidence)}
      (shown : (requestPage db instanceSlug limit cursor).result = .ok page)
      (more : page.hasMore = true) (walk : Walk db instanceSlug limit page.nextCursor responses) :
      Walk db instanceSlug limit cursor (requestPage db instanceSlug limit cursor :: responses)

theorem Walk.unique {limit : Nat} {cursor : String} {responses responses' : List (Response Evidence)}
    (h : Walk db instanceSlug limit cursor responses) (h' : Walk db instanceSlug limit cursor responses') :
    responses = responses' := by
  induction h generalizing responses' with
  | last ended =>
      cases h' with
      | last => rfl
      | next shown more walk =>
          rw [ended _ shown] at more
          cases more
  | next shown more walk ih =>
      cases h' with
      | last ended =>
          rw [ended _ shown] at more
          cases more
      | next shown' more' walk' =>
          rw [shown] at shown'
          rw [← Except.ok.inj shown'] at walk'
          rw [ih walk']

/-- The agents a response shows. -/
def Response.agents (r : Response Evidence) : List (soulRecoveryAgentSummary Evidence) :=
  match r.result with
  | .ok page => page.agents
  | .error _ => []

def Response.Failed (r : Response Evidence) : Prop := ∃ appErr, r.result = .error appErr

/-- A walk over rows: it fails closed, or shows their active agents in order. -/
structure Shows (db : Store Evidence) (instanceSlug : String) (limit : Nat)
    (rows : List (String × Option SoulDomainAgentIndex)) (responses : List (Response Evidence)) : Prop where
  queries : ∀ r ∈ responses, r.queries ≤ soulRecoveryMaxScanPages
  length : ∀ r ∈ responses, r.agents.length ≤ limit
  fails_iff : (∃ r ∈ responses, r.Failed) ↔ ∃ row ∈ rows, (verdictOf db instanceSlug row).Closed
  inOrder : responses.flatMap Response.agents <+: inventory db instanceSlug rows
  complete : (¬ ∃ r ∈ responses, r.Failed) →
    responses.flatMap Response.agents = inventory db instanceSlug rows

section Walks

variable {ix} {domains : List String} {limit : Nat}

theorem requestPage_eq {cursor inner : String} {i : Nat}
    (hdomains : loadSoulRecoveryDomains db instanceSlug = .ok domains) (hi : i ≤ domains.length)
    (hcursor : decodeSoulRecoveryInventoryCursor cursor = .ok ⟨i, inner⟩) :
    requestPage db instanceSlug limit cursor
      = scanLoop db instanceSlug domains limit ⟨i, inner, 0, [], []⟩ := by
  have hindex : ¬ ((i : Int) < 0 ∨ (domains.length : Int) < i) := by omega
  rw [requestPage, hcursor]
  dsimp only
  rw [listSoulRecoveryAgents, hdomains]
  dsimp only
  rw [if_neg hindex, Int.toNat_natCast]

theorem Shows.failed {rows : List (String × Option SoulDomainAgentIndex)} {r : Response Evidence}
    {appErr : AppTheoryError} {row : String × Option SoulDomainAgentIndex}
    (hresult : r.result = .error appErr) (hqueries : r.queries ≤ soulRecoveryMaxScanPages)
    (hrow : row ∈ rows) (hclosed : (verdictOf db instanceSlug row).Closed) :
    Shows db instanceSlug limit rows [r] := by
  have hagents : r.agents = [] := by rw [Response.agents, hresult]
  have hfailed : ∃ r' ∈ [r], r'.Failed := ⟨r, List.mem_singleton_self r, appErr, hresult⟩
  refine ⟨?_, ?_, iff_of_true hfailed ⟨row, hrow, hclosed⟩, ?_, fun h => absurd hfailed h⟩
  · rw [List.forall_mem_singleton]
    exact hqueries
  · rw [List.forall_mem_singleton, hagents]
    exact Nat.zero_le _
  · rw [List.flatMap_cons, List.flatMap_nil, hagents]
    exact List.nil_prefix

/-- A page, and the walk that goes on after its rows. -/
theorem Shows.cons {taken rows : List (String × Option SoulDomainAgentIndex)} {r : Response Evidence}
    {page : Listing Evidence} {responses : List (Response Evidence)} (hresult : r.result = .ok page)
    (hqueries : r.queries ≤ soulRecoveryMaxScanPages) (hlength : page.agents.length ≤ limit)
    (hopen : ∀ row ∈ taken, ¬ (verdictOf db instanceSlug row).Closed)
    (hagents : page.agents = inventory db instanceSlug taken)
    (h : Shows db instanceSlug limit rows responses) :
    Shows db instanceSlug limit (taken ++ rows) (r :: responses) := by
  have hshown : r.agents = inventory db instanceSlug taken := by
    rw [Response.agents, hresult]
    exact hagents
  have hfails : (∃ r' ∈ r :: responses, r'.Failed) ↔ ∃ r' ∈ responses, r'.Failed := by
    constructor
    · rintro ⟨r', hmem, appErr, herror⟩
      rcases List.mem_cons.1 hmem with heq | hmem
      · rw [heq, hresult] at herror
        cases herror
      · exact ⟨r', hmem, appErr, herror⟩
    · rintro ⟨r', hmem, hfailed⟩
      exact ⟨r', List.mem_cons_of_mem _ hmem, hfailed⟩
  have hsplit : inventory db instanceSlug (taken ++ rows)
      = r.agents ++ inventory db instanceSlug rows := by
    rw [hshown, inventory, inventory, inventory, List.filterMap_append]
  refine ⟨?_, ?_, ?_, ?_, fun hok => ?_⟩
  · rw [List.forall_mem_cons]
    exact ⟨hqueries, h.queries⟩
  · rw [List.forall_mem_cons, hshown, ← hagents]
    exact ⟨hlength, h.length⟩
  · rw [hfails, h.fails_iff]
    constructor
    · rintro ⟨row, hrow, hclosed⟩
      exact ⟨row, List.mem_append_right _ hrow, hclosed⟩
    · rintro ⟨row, hrow, hclosed⟩
      exact (List.mem_append.1 hrow).elim (fun hmem => absurd hclosed (hopen row hmem))
        fun hmem => ⟨row, hmem, hclosed⟩
  · rw [hsplit, List.flatMap_cons]
    exact (List.prefix_append_right_inj _).2 h.inOrder
  · rw [hsplit, List.flatMap_cons, h.complete fun hfailed => hok (hfails.2 hfailed)]

theorem Shows.nil : Shows db instanceSlug limit [] [] :=
  ⟨by simp, by simp, by simp, List.nil_prefix, fun _ => rfl⟩

/-- The run over the requests. The effort that is left falls with every page that says there is more. -/
theorem walk_spec (hdomains : loadSoulRecoveryDomains db instanceSlug = .ok domains)
    (hslice : domains.length < 2 ^ 63) (hlimit : 0 < limit) {cursor inner : String} {i : Nat}
    (hi : i ≤ domains.length) (hat : ix.At (domains.drop i) inner)
    (hnodup : (agentsOf (ix.remaining (domains.drop i) inner)).Nodup)
    (hcursor : decodeSoulRecoveryInventoryCursor cursor = .ok ⟨i, inner⟩) :
    ∃ responses, Walk db instanceSlug limit cursor responses ∧
      Shows db instanceSlug limit (ix.remaining (domains.drop i) inner) responses := by
  induction heffort : ix.effort (domains.drop i) inner using Nat.strong_induction_on
    generalizing i inner cursor with
  | _ n ih =>
      obtain ⟨hqueries, hanswers⟩ := @scanLoop_spec Evidence db instanceSlug ix domains limit
        ⟨i, inner, 0, [], []⟩ (Nat.zero_le _) hlimit hat ⟨hnodup, fun a _ => List.not_mem_nil⟩
      rw [← requestPage_eq hdomains hi hcursor] at hqueries hanswers
      generalize hresult : (requestPage db instanceSlug limit cursor).result = result at hanswers
      cases hanswers with
      | failed row left closed =>
          refine ⟨_, .last fun page hpage => ?_, .failed hresult hqueries left closed⟩
          rw [hresult] at hpage
          cases hpage
      | last reaches length ended =>
          obtain ⟨taken, hrest, hopen, hout, -⟩ := reaches.passed
          refine ⟨_, .last fun page hpage => ?_, ?_⟩
          · rw [hresult] at hpage
            rw [← Except.ok.inj hpage]
          · rw [ended] at hrest
            have hrows : ix.remaining (domains.drop i) inner = taken ++ [] := hrest
            rw [hrows]
            exact .cons hresult hqueries length hopen hout .nil
      | @more scan' reaches length index near nearer =>
          obtain ⟨taken, hrest, hopen, hout, -⟩ := reaches.passed
          have hfresh := (reaches.fresh ⟨hnodup, fun a _ => List.not_mem_nil⟩).nodup
          -- a request starts with all its queries, so a page that says there is more has made one
          have hless : effortOf ix domains scan' < n := heffort ▸ nearer (Nat.succ_pos 19)
          obtain ⟨responses, hwalk, hshows⟩ := ih _ hless index.le reaches.position hfresh
            (decode_encode (index.trans hslice) scan'.inner) rfl
          refine ⟨_, .next hresult rfl hwalk, ?_⟩
          have hrows : ix.remaining (domains.drop i) inner
            = taken ++ ix.remaining (domains.drop scan'.domainIndex) scan'.inner := hrest
          rw [hrows]
          exact .cons hresult hqueries length hopen hout hshows

/-- **The inventory.** Whatever the index holds, following the cursors ends, with pages and requests in their
bounds. The walk fails if and only if a row fails closed; if none does, it shows the active agents of the
rows of all domains, in the order of the domains, and nothing else. -/
theorem inventory_walk (ix : PagedIndex db) {raw : String} (hlimit : parseSoulRecoveryLimit raw = .ok limit)
    (hdomains : loadSoulRecoveryDomains db instanceSlug = .ok domains)
    (hslice : domains.length < 2 ^ 63) (hagents : (agentsOf (ix.rowsOf domains)).Nodup) :
    (domains.Pairwise (· ≤ ·) ∧ domains.Nodup) ∧
      (∃ responses, Walk db instanceSlug limit "" responses) ∧
      ∀ responses, Walk db instanceSlug limit "" responses →
        Shows db instanceSlug limit (ix.rowsOf domains) responses := by
  have hstart : decodeSoulRecoveryInventoryCursor "" = .ok ⟨(0 : Nat), ""⟩ := by
    rw [decodeSoulRecoveryInventoryCursor, if_pos (by decide)]
    rfl
  have hrows : ix.remaining (domains.drop 0) "" = ix.rowsOf domains := ix.remaining_start domains
  have hnodup : (agentsOf (ix.remaining (domains.drop 0) "")).Nodup := by
    rw [hrows]
    exact hagents
  obtain ⟨responses, hwalk, hshows⟩ := walk_spec hdomains hslice (parseSoulRecoveryLimit_pos hlimit)
    (Nat.zero_le _) (ix.at_start _) hnodup hstart
  rw [hrows] at hshows
  exact ⟨domains_sorted hdomains, ⟨responses, hwalk⟩, fun other hother => hwalk.unique hother ▸ hshows⟩

end Walks

/-! ## An agent of another instance -/

def sampleRow (domain localID agentID : String) : Option SoulDomainAgentIndex :=
  some ⟨domain, localID, agentID⟩

def sampleRows (pk : String) : List (Option SoulDomainAgentIndex) :=
  if pk = "SOUL#DOMAIN#a.example" then [sampleRow "a.example" "one" "0x01"]
  else if pk = "SOUL#DOMAIN#b.example" then [sampleRow "b.example" "two" "0x02"]
  else []

/-- Two domains of an instance with an agent each. The first agent belongs to the instance, or to a domain of
another one. -/
def sampleStore (foreign : Bool) : Store Unit where
  GetInstance slug := .ok (some ⟨slug⟩)
  managedDomains _ := .ok ["a.example", "b.example"]
  AllPaginated pk _ _ := .ok (sampleRows pk, none)
  getSoulAgentIdentity agentID :=
    if agentID = "0x01" then
      .ok (some ⟨"0x01", if foreign then "c.example" else "a.example", "one", "active", "", 1⟩)
    else .ok (some ⟨"0x02", "b.example", "two", "active", "", 1⟩)
  loadManagedStageAwareDomain domain :=
    .ok (some ⟨"verified", if domain = "c.example" then "rival" else "acme"⟩)
  loadEvidence _ _ _ := .ok ()

theorem sampleRows_length (pk : String) : (sampleRows pk).length ≤ 1 := by
  unfold sampleRows
  split_ifs <;> simp

def sampleIndex (foreign : Bool) : PagedIndex (sampleStore foreign) where
  rows := sampleRows
  left pk _ := sampleRows pk
  turns _ _ := 0
  Issued _ cursor := cursor = ""
  start _ := ⟨rfl, rfl⟩
  page pk _ _ _ hlimit := ⟨sampleRows pk, none, rfl, (sampleRows_length pk).trans hlimit,
    .inl ⟨rfl, fun p hp => by cases hp⟩⟩
  trimmed _ cursor hcursor := by
    rw [hcursor]
    decide

theorem sampleStore_domains (foreign : Bool) :
    loadSoulRecoveryDomains (sampleStore foreign) "acme" = .ok ["a.example", "b.example"] := by
  have hnames : ["a.example", "b.example"].foldl addSoulRosterDomainOwner []
      = ["a.example", "b.example"] := by decide
  have hsort : sortStrings ["a.example", "b.example"] = ["a.example", "b.example"] :=
    List.mergeSort_of_pairwise (by decide)
  have hslug : ¬ EqualFold "acme" "acme" = false := by
    rw [EqualFold_self]
    exact Bool.noConfusion
  have hne : TrimSpace "acme" ≠ "" := by decide
  simp only [loadSoulRecoveryDomains, sampleStore, if_neg hslug, if_neg hne, hnames, hsort]

theorem inventory_walk_sample : (["a.example", "b.example"].Pairwise (· ≤ ·) ∧
      ["a.example", "b.example"].Nodup) ∧
    (∃ responses, Walk (sampleStore false) "acme" 20 "" responses) ∧
    ∀ responses, Walk (sampleStore false) "acme" 20 "" responses → Shows (sampleStore false) "acme" 20
      ((sampleIndex false).rowsOf ["a.example", "b.example"]) responses := by
  have hlimit : parseSoulRecoveryLimit "20" = .ok 20 := rfl
  exact inventory_walk (sampleIndex false) hlimit (sampleStore_domains false) (by decide)
    (by decide)

def ScanStep.isFailed : ScanStep Evidence → Bool
  | .failed _ _ => true
  | _ => false

/-- The first request meets the row of the agent of another instance. -/
theorem foreign_fails : ∃ appErr,
    (requestPage (sampleStore true) "acme" 20 "").result = .error appErr := by
  have hstart : decodeSoulRecoveryInventoryCursor "" = .ok ⟨(0 : Nat), ""⟩ := by
    rw [decodeSoulRecoveryInventoryCursor, if_pos (by decide)]
    rfl
  have hfailed : (scanSoulRecoveryInventoryPage (sampleStore true) "acme" ["a.example", "b.example"] 20
      ⟨0, "", 0, [], []⟩).isFailed = true := by decide
  rw [requestPage_eq (sampleStore_domains true) (Nat.zero_le _) hstart]
  generalize hpage : scanSoulRecoveryInventoryPage (sampleStore true) "acme" ["a.example", "b.example"] 20
    ⟨0, "", 0, [], []⟩ = page at hfailed
  cases page with
  | again scan => cases hfailed
  | done scan hasMore nextCursor => cases hfailed
  | failed scan appErr =>
      rw [scanLoop_failed hpage]
      exact ⟨appErr, rfl⟩

/-- A walk over an index in which a row names an agent of another instance shows no agent at all, also not
the active agent of the next domain. -/
theorem foreign_stops_walk : ∃ ix : PagedIndex (sampleStore true),
    loadSoulRecoveryDomains (sampleStore true) "acme" = .ok ["a.example", "b.example"] ∧
    inventory (sampleStore true) "acme" (ix.rowsOf ["a.example", "b.example"])
      = [⟨"0x02", "b.example", "two", "active", 1, ()⟩] ∧
    ∀ responses, Walk (sampleStore true) "acme" 20 "" responses →
      responses.flatMap Response.agents = [] := by
  refine ⟨sampleIndex true, sampleStore_domains true, rfl, fun responses hwalk => ?_⟩
  obtain ⟨appErr, herror⟩ := foreign_fails
  cases hwalk with
  | last ended => rw [List.flatMap_cons, List.flatMap_nil, List.append_nil, Response.agents, herror]
  | next shown more walk =>
      rw [herror] at shown
      cases shown

end LesserHost.SoulRecovery
