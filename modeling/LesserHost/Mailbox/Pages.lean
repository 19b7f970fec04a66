import LesserHost.Mailbox.List

set_option autoImplicit false

/-! # Pages of a mailbox

Whoever follows the cursors of the pages, from the first page until a page has none, gets exactly the
messages that satisfy the filters, in store order. A cursor resumes after a message: the last one
returned when a page is full, the last one scanned when the scan budget is used up. -/

namespace LesserHost.Mailbox

open LesserHost.Go

/-! ## Keys of stored messages -/

theorem isTrimmed_append {s t : String} (hs : IsTrimmed s) (ht : IsTrimmed t) :
    IsTrimmed (s ++ t) := by
  rw [IsTrimmed, String.toList_append]
  refine ⟨fun c hc => ?_, fun c hc => ?_⟩
  · rw [List.head?_append, Option.or_eq_some_iff] at hc
    rcases hc with hc | ⟨-, hc⟩
    · exact hs.1 c hc
    · exact ht.1 c hc
  · rw [List.getLast?_append, Option.or_eq_some_iff] at hc
    rcases hc with hc | ⟨-, hc⟩
    · exact ht.2 c hc
    · exact hs.2 c hc

/-- What stands between two texts does not matter for the ends. -/
theorem isTrimmed_between {s t : String} (u : String) (hs : IsTrimmed s) (ht : IsTrimmed t)
    (hs' : s.toList ≠ []) (ht' : t.toList ≠ []) : IsTrimmed (s ++ u ++ t) := by
  rw [IsTrimmed, String.toList_append, String.toList_append]
  refine ⟨fun c hc => ?_, fun c hc => ?_⟩
  · rw [List.append_assoc, List.head?_append_of_ne_nil _ hs'] at hc
    exact hs.1 c hc
  · rw [List.getLast?_append_of_ne_nil _ ht'] at hc
    exact ht.2 c hc

theorem append_ne_empty {s t : String} (h : s ≠ "") : s ++ t ≠ "" := by
  intro happend
  exact h (String.append_eq_empty_iff.1 happend).1

/-- The keys of the row are those `UpdateKeys` gives it. -/
structure SoulCommMailboxMessage.HasKeys (m : SoulCommMailboxMessage) : Prop where
  PK : m.UpdateKeys.PK = m.PK
  SK : m.UpdateKeys.SK = m.SK
  GSI2PK : m.UpdateKeys.GSI2PK = m.GSI2PK
  GSI2SK : m.UpdateKeys.GSI2SK = m.GSI2SK

theorem hasKeys_UpdateKeys (m : SoulCommMailboxMessage) : m.UpdateKeys.HasKeys := by
  constructor <;>
    simp only [SoulCommMailboxMessage.UpdateKeys, TrimSpace_ToLower_TrimSpace, ToLower_idem,
      TrimSpace_idem]

section Keys

variable (instanceSlug agentID threadID : String)

theorem SoulCommMailboxAgentPK_trimmed : IsTrimmed (SoulCommMailboxAgentPK instanceSlug agentID) := by
  have hagent : IsTrimmed ("#AGENT#" ++ ToLower (TrimSpace agentID)) :=
    isTrimmed_append (Trimmed.of_forall fun c hc => isSpace_of_all (by decide) hc)
      (isTrimmed_TrimSpace agentID).ToLower
  have hprefix : IsTrimmed "COMM#MAILBOX#INSTANCE#" :=
    Trimmed.of_forall fun c hc => isSpace_of_all (by decide) hc
  have h := isTrimmed_between (ToLower (TrimSpace instanceSlug)) hprefix hagent (by decide) (by simp)
  rwa [← String.append_assoc] at h

theorem SoulCommMailboxAgentPK_ne_empty : SoulCommMailboxAgentPK instanceSlug agentID ≠ "" :=
  append_ne_empty (append_ne_empty (append_ne_empty (by decide)))

theorem SoulCommMailboxThreadPK_trimmed :
    IsTrimmed (SoulCommMailboxThreadPK instanceSlug agentID threadID) :=
  isTrimmed_append (isTrimmed_append (SoulCommMailboxAgentPK_trimmed instanceSlug agentID)
    (Trimmed.of_forall fun c hc => isSpace_of_all (by decide) hc)) (isTrimmed_TrimSpace threadID)

theorem sortKey_trimmed (time : String) (deliveryID : String) :
    IsTrimmed ("MSG#" ++ time ++ "#" ++ TrimSpace deliveryID) := by
  have hdelivery : IsTrimmed ("#" ++ TrimSpace deliveryID) :=
    isTrimmed_append (Trimmed.of_forall fun c hc => isSpace_of_all (by decide) hc)
      (isTrimmed_TrimSpace deliveryID)
  have hprefix : IsTrimmed "MSG#" := Trimmed.of_forall fun c hc => isSpace_of_all (by decide) hc
  have h := isTrimmed_between time hprefix hdelivery (by decide) (by simp)
  rwa [← String.append_assoc] at h

end Keys

/-- Every key of a stored message is text without white space around it that says something. -/
theorem SoulCommMailboxMessage.HasKeys.trimmed {m : SoulCommMailboxMessage} (h : m.HasKeys) :
    ∀ key ∈ [m.PK, m.SK, m.GSI2PK, m.GSI2SK], TrimSpace key = key ∧ key ≠ "" := by
  have hagent := SoulCommMailboxAgentPK_trimmed (ToLower (TrimSpace m.InstanceSlug))
    (ToLower (TrimSpace m.AgentID))
  have hthread := SoulCommMailboxThreadPK_trimmed (ToLower (TrimSpace m.InstanceSlug))
    (ToLower (TrimSpace m.AgentID)) (TrimSpace m.ThreadID)
  have hsort := sortKey_trimmed (formatSortTime m.CreatedAt) m.DeliveryID
  have hPK : SoulCommMailboxAgentPK (ToLower (TrimSpace m.InstanceSlug))
    (ToLower (TrimSpace m.AgentID)) = m.PK := h.PK
  have hSK : "MSG#" ++ formatSortTime m.CreatedAt ++ "#" ++ TrimSpace m.DeliveryID = m.SK := h.SK
  have hGSI2PK : SoulCommMailboxThreadPK (ToLower (TrimSpace m.InstanceSlug))
    (ToLower (TrimSpace m.AgentID)) (TrimSpace m.ThreadID) = m.GSI2PK := h.GSI2PK
  have hGSI2SK : "MSG#" ++ formatSortTime m.CreatedAt ++ "#" ++ TrimSpace m.DeliveryID = m.GSI2SK :=
    h.GSI2SK
  rw [← hPK, ← hSK, ← hGSI2PK, ← hGSI2SK]
  intro key hkey
  simp only [List.mem_cons, List.not_mem_nil, or_false] at hkey
  rcases hkey with rfl | rfl | rfl | rfl
  · exact ⟨hagent.TrimSpace_eq, SoulCommMailboxAgentPK_ne_empty _ _⟩
  · exact ⟨hsort.TrimSpace_eq, append_ne_empty (append_ne_empty (append_ne_empty (by decide)))⟩
  · exact ⟨hthread.TrimSpace_eq,
      append_ne_empty (append_ne_empty (SoulCommMailboxAgentPK_ne_empty _ _))⟩
  · exact ⟨hsort.TrimSpace_eq, append_ne_empty (append_ne_empty (append_ne_empty (by decide)))⟩

/-- The messages of a mailbox, in store order. -/
structure StoredMessages where
  messages : List SoulCommMailboxMessage
  keys : ∀ m ∈ messages, m.HasKeys
  distinct : (messages.map (·.key)).Nodup

/-- The messages the queries of a request go through. -/
def StoredMessages.rows (mailbox : StoredMessages) (reqCtx : mailboxRequestContext) (filters : mailboxListFilters) :
    List SoulCommMailboxMessage :=
  mailbox.messages.filter (mailboxQuery reqCtx.InstanceSlug reqCtx.agentID filters "" 0).selects

/-! ## Cursors -/

def mailboxListFilters.index (filters : mailboxListFilters) : String :=
  if TrimSpace filters.threadID ≠ "" then "gsi2" else ""

/-- The cursor that resumes after a message. -/
def cursorAfter (tt : TableTheory) (index : String) (last : SoulCommMailboxMessage) : String :=
  (tt.EncodeCursor (last.indexKey index) index "DESC").getD ""

section Cursors

variable {tt : TableTheory} {index : String} {m last : SoulCommMailboxMessage}

theorem cursorAfter_spec (htt : tt.RoundTrips) (index : String) (last : SoulCommMailboxMessage) :
    TrimSpace (cursorAfter tt index last) = cursorAfter tt index last ∧
      cursorAfter tt index last ≠ "" ∧
      tt.DecodeCursor (cursorAfter tt index last) = some ⟨last.indexKey index, index, "DESC"⟩ := by
  have hkey : last.indexKey index ≠ [] := by simp [SoulCommMailboxMessage.indexKey]
  obtain ⟨text, hencode, htrimmed, hne, hdecode⟩ := htt _ index "DESC" hkey
  rw [cursorAfter, hencode, Option.getD_some]
  exact ⟨htrimmed.TrimSpace_eq, hne, hdecode⟩

theorem indexKey_key (h : m.indexKey index = last.indexKey index) : m.key = last.key := by
  simp only [SoulCommMailboxMessage.indexKey, List.cons_append, List.cons.injEq, Prod.mk.injEq,
    true_and] at h
  rw [SoulCommMailboxMessage.key, h.1, h.2.1, SoulCommMailboxMessage.key]

/-- The cursor after a message resumes at the messages that are stored after it. -/
theorem resume_cursorAfter (htt : tt.RoundTrips) {front rest : List SoulCommMailboxMessage}
    (hdistinct : ((front ++ last :: rest).map (·.key)).Nodup) :
    resume tt index (cursorAfter tt index last) (front ++ last :: rest) = some rest := by
  obtain ⟨-, hne, hdecode⟩ := cursorAfter_spec htt index last
  have hfront : ∀ m ∈ front, (m.indexKey index != last.indexKey index) = true := by
    intro m hm
    rw [bne_iff_ne]
    intro hkey
    rw [List.map_append, List.map_cons, List.nodup_append] at hdistinct
    exact hdistinct.2.2 _ (List.mem_map_of_mem hm) _ List.mem_cons_self (indexKey_key hkey)
  unfold resume
  rw [if_neg hne, hdecode]
  dsimp only
  rw [if_pos ⟨rfl, rfl⟩, afterKey, List.dropWhile_append_of_pos hfront,
    List.dropWhile_cons_of_neg (by simp)]
  rfl

/-- The cursor built from a returned message is the one the store would give out after it. -/
theorem encodeMailboxListCursor_eq (htt : tt.RoundTrips) {filters : mailboxListFilters}
    (hkeys : last.HasKeys) :
    encodeMailboxListCursor tt last filters = cursorAfter tt filters.index last := by
  have htrim : ∀ key ∈ [last.PK, last.SK, last.GSI2PK, last.GSI2SK], TrimSpace key = key ∧ key ≠ "" :=
    hkeys.trimmed
  simp only [List.forall_mem_cons] at htrim
  obtain ⟨⟨hPK, hPK'⟩, ⟨hSK, hSK'⟩, ⟨hGSI2PK, hGSI2PK'⟩, ⟨hGSI2SK, hGSI2SK'⟩, -⟩ := htrim
  have hspec := cursorAfter_spec htt filters.index last
  -- no entry of the key is deleted from it
  have hencode : encodeMailboxListCursor tt last filters
      = ((tt.EncodeCursor (last.indexKey filters.index) filters.index "DESC").map TrimSpace).getD "" := by
    unfold encodeMailboxListCursor mailboxListFilters.index
    by_cases hthread : TrimSpace filters.threadID = ""
    · simp [SoulCommMailboxMessage.indexKey, hthread, hPK, hSK, hPK', hSK']
    · simp [SoulCommMailboxMessage.indexKey, hthread, hPK, hSK, hGSI2PK, hGSI2SK, hPK', hSK', hGSI2PK',
        hGSI2SK']
  rw [hencode]
  cases htext : tt.EncodeCursor (last.indexKey filters.index) filters.index "DESC" with
  | none => simp [cursorAfter, htext] at hspec
  | some text =>
      rw [cursorAfter, htext] at hspec ⊢
      exact hspec.1

end Cursors

/-! ## Store pages -/

section Store

variable {tt : TableTheory}

/-- A store page is the beginning of what is left, and either there is nothing more or it has the
    cursor after its last message. -/
theorem storePage_spec (htt : tt.RoundTrips) (q : MessageQuery) (hlimit : 0 < q.limit)
    (c : PageChoice) (rest : List SoulCommMailboxMessage) :
    ∃ paged after, (storePage tt q c rest).2 = some paged ∧
      rest = (storePage tt q c rest).1 ++ after ∧ (storePage tt q c rest).1.length ≤ q.limit ∧
      ((mailboxPageExhausted (some paged) = true ∧ after = []) ∨
        ∃ front last, (storePage tt q c rest).1 = front ++ [last] ∧
          mailboxPageExhausted (some paged) = false ∧
          TrimSpace paged.NextCursor = cursorAfter tt q.index last) := by
  set n := min q.limit (max 1 c.size) with hn
  have hsplit : rest = rest.take n ++ rest.drop n := (List.take_append_drop n rest).symm
  have hlength : (rest.take n).length ≤ q.limit := by
    rw [List.length_take]
    omega
  unfold storePage
  dsimp only
  rw [← hn]
  cases hlast : (rest.take n).getLast? with
  | none =>
      have hnil : rest = [] := by
        rw [List.getLast?_eq_none_iff, List.take_eq_nil_iff] at hlast
        exact hlast.resolve_left (by omega)
      exact ⟨⟨false, ""⟩, [], rfl, by rw [hnil]; rfl, Nat.zero_le _, Or.inl ⟨rfl, rfl⟩⟩
  | some last =>
      obtain ⟨front, hfront⟩ := List.getLast?_eq_some_iff.1 hlast
      obtain ⟨htrim, hne, -⟩ := cursorAfter_spec htt q.index last
      dsimp only
      split_ifs with hmore
      · refine ⟨_, rest.drop n, rfl, hsplit, hlength, Or.inr ⟨front, last, hfront, ?_, htrim⟩⟩
        show (!true || TrimSpace (cursorAfter tt q.index last) == "") = false
        rw [htrim]
        simpa using hne
      · refine ⟨_, [], rfl, ?_, hlength, Or.inl ⟨rfl, rfl⟩⟩
        have hall : rest.length ≤ (rest.take n).length := by
          by_contra h
          exact hmore (Or.inl (by omega))
        rw [List.append_nil, List.take_of_length_le]
        rw [List.length_take] at hall
        omega

/-- The items of a store page are added to the messages to return, or these are complete and another
    message is left to return. -/
theorem consume_spec (htt : tt.RoundTrips) (filters : mailboxListFilters)
    (items : List SoulCommMailboxMessage) :
    ∀ out : List SoulCommMailboxMessage, (∀ m ∈ out ++ items, m.HasKeys) → out.length ≤ filters.limit →
      ∃ consumed, consumeFilteredMailboxItems tt filters out out.getLast? items = .ok consumed ∧
        ((consumed.nextCursor = "" ∧ consumed.out = out ++ items.filter filters.matches ∧
            consumed.out.length ≤ filters.limit ∧ consumed.lastReturned = consumed.out.getLast?) ∨
          ∃ front last more, consumed.out = front ++ [last] ∧
            out ++ items.filter filters.matches = front ++ last :: more ∧
            consumed.nextCursor = cursorAfter tt filters.index last) := by
  induction items with
  | nil =>
      intro out _ hlength
      exact ⟨_, rfl, Or.inl ⟨rfl, (List.append_nil out).symm, hlength, rfl⟩⟩
  | cons item items ih =>
      intro out hkeys hlength
      unfold consumeFilteredMailboxItems
      by_cases hmatch : filters.matches item = true
      · by_cases hroom : out.length < filters.limit
        · rw [if_neg (by simp [hmatch]), if_pos hroom, List.filter_cons_of_pos hmatch,
            List.append_cons out item (items.filter filters.matches)]
          have hlast : (out ++ [item]).getLast? = some item := by simp
          rw [← hlast]
          refine ih (out ++ [item]) ?_ (by simp; omega)
          rw [← List.append_cons]
          exact hkeys
        · -- a page has a message, since the limit is positive
          have hne : out ≠ [] := by
            rintro rfl
            exact hroom filters.limit_pos
          obtain ⟨front, last, rfl⟩ := (List.eq_nil_or_concat' out).resolve_left hne
          have hlast : last.HasKeys := hkeys last (by simp)
          obtain ⟨-, hcursor, -⟩ := cursorAfter_spec htt filters.index last
          rw [if_neg (by simp [hmatch]), if_neg hroom, List.getLast?_concat,
            List.filter_cons_of_pos hmatch, Option.elim_some]
          dsimp only
          rw [encodeMailboxListCursor_eq htt hlast, if_neg hcursor]
          exact ⟨_, rfl, Or.inr ⟨front, last, item :: items.filter filters.matches, rfl,
            List.append_assoc _ _ _, rfl⟩⟩
      · rw [if_pos (by simp [hmatch]), List.filter_cons_of_neg hmatch]
        refine ih out (fun m hm => hkeys m ?_) hlength
        rw [List.mem_append] at hm ⊢
        exact hm.imp_right (List.mem_cons_of_mem item)

end Store

/-! ## One page -/

/-- The cursor a page hands out. -/
def mailboxListResult.next (page : mailboxListResult) : String :=
  if page.nextCursor ≠ "" then page.nextCursor else page.scanCursor

/-- A page of the messages `start`. It answers for the first ones of them, and its cursor resumes after
    these. -/
structure PageOf (tt : TableTheory) (index : String) (p : SoulCommMailboxMessage → Bool)
    (start log : List SoulCommMailboxMessage) (scanBudget : Nat) (page : mailboxListResult)
    (scanned : List SoulCommMailboxMessage) : Prop where
  answers : ∃ seen rest, start = seen ++ rest ∧ page.items = seen.filter p ∧
    ((page.next = "" ∧ rest = []) ∨
      ∃ front last, seen = front ++ [last] ∧ page.next = cursorAfter tt index last)
  /-- when the scan budget is used up, the cursor resumes after the last message scanned -/
  resumes : page.partialScan = true → ∃ front last rest, start = front ++ last :: rest ∧
    scanned = log ++ (front ++ [last]) ∧ (front ++ [last]).length = scanBudget ∧
    page.next = cursorAfter tt index last

section Page

variable {tt : TableTheory} {mailbox : StoredMessages} {reqCtx : mailboxRequestContext}
  {filters : mailboxListFilters}

theorem mailboxQuery_index (instanceSlug agentID cursor : String) (limit : Nat) :
    (mailboxQuery instanceSlug agentID filters cursor limit).index = filters.index := by
  unfold mailboxQuery mailboxListFilters.index
  split_ifs <;> rfl

theorem mailboxQuery_cursor (instanceSlug agentID cursor : String) (limit : Nat) :
    (mailboxQuery instanceSlug agentID filters cursor limit).cursor = TrimSpace cursor := by
  unfold mailboxQuery
  split_ifs <;> rfl

theorem mailboxQuery_limit (instanceSlug agentID cursor : String) (limit : Nat) :
    (mailboxQuery instanceSlug agentID filters cursor limit).limit = limit := by
  unfold mailboxQuery
  split_ifs <;> rfl

theorem mailboxQuery_rows (cursor : String) (limit : Nat) :
    mailbox.messages.filter (mailboxQuery reqCtx.InstanceSlug reqCtx.agentID filters cursor limit).selects
      = mailbox.rows reqCtx filters := by
  unfold StoredMessages.rows mailboxQuery
  split_ifs <;> rfl

theorem queryMailboxMessagesPage_spec (htt : tt.RoundTrips) {cursor : String} {limit : Nat}
    {rest log : List SoulCommMailboxMessage} (hlimit : 0 < limit)
    (hresume : resume tt filters.index (TrimSpace cursor) (mailbox.rows reqCtx filters) = some rest) :
    (queryMailboxMessagesPage reqCtx.InstanceSlug reqCtx.agentID filters cursor limit).Ensures
      (messagesEnv tt mailbox.messages) (fun _ => False)
      (fun r log' => ∃ items paged after, r = .ok (items, some paged) ∧ log' = log ++ items ∧
        rest = items ++ after ∧ items.length ≤ limit ∧
        ((mailboxPageExhausted (some paged) = true ∧ after = []) ∨
          ∃ front last, items = front ++ [last] ∧ mailboxPageExhausted (some paged) = false ∧
            TrimSpace paged.NextCursor = cursorAfter tt filters.index last)) log := by
  refine Prog.ensures_perform fun c => ?_
  set q := mailboxQuery reqCtx.InstanceSlug reqCtx.agentID filters cursor limit with hq
  have hstart : resume tt q.index q.cursor (mailbox.messages.filter q.selects) = some rest := by
    rw [hq, mailboxQuery_index, mailboxQuery_cursor, mailboxQuery_rows, hresume]
  have hindex : q.index = filters.index := mailboxQuery_index _ _ _ _
  have hq_limit : q.limit = limit := mailboxQuery_limit _ _ _ _
  obtain ⟨paged, after, hpaged, hsplit, hlength, hcases⟩ :=
    storePage_spec htt q (hq_limit ▸ hlimit) c rest
  rw [hindex, hq_limit] at *
  refine ⟨(storePage tt q c rest).1, paged, after, ?_, ?_, hsplit, hlength, hcases⟩
  · simp only [messagesEnv, hstart]
    rw [← hpaged]
  · simp only [messagesEnv, hstart]

theorem resume_rows (htt : tt.RoundTrips) {index : String}
    (before : List SoulCommMailboxMessage) {front rest : List SoulCommMailboxMessage}
    {last : SoulCommMailboxMessage}
    (hrows : mailbox.rows reqCtx filters = before ++ (front ++ last :: rest)) :
    resume tt index (cursorAfter tt index last) (mailbox.rows reqCtx filters) = some rest := by
  have hdistinct : ((mailbox.rows reqCtx filters).map (·.key)).Nodup :=
    (List.filter_sublist.map _).nodup mailbox.distinct
  rw [hrows, ← List.append_assoc] at hdistinct ⊢
  exact resume_cursorAfter htt hdistinct

/-- The first messages that match are the matching ones among some first messages. -/
theorem filter_prefix {p : SoulCommMailboxMessage → Bool} {seen front more : List SoulCommMailboxMessage}
    {last : SoulCommMailboxMessage} (h : seen.filter p = front ++ last :: more) :
    ∃ before after, seen = before ++ last :: after ∧ (before ++ [last]).filter p = front ++ [last] := by
  obtain ⟨before, tail, rfl, hbefore, htail⟩ := List.filter_eq_append_iff.1 h
  obtain ⟨skipped, after, rfl, hskipped, hlast, -⟩ := List.filter_eq_cons_iff.1 htail
  refine ⟨before ++ skipped, after, (List.append_assoc _ _ _).symm, ?_⟩
  have hnone : skipped.filter p = [] := List.filter_eq_nil_iff.2 hskipped
  rw [List.filter_append, List.filter_append, hbefore, hnone, List.append_nil,
    List.filter_cons_of_pos hlast, List.filter_nil]

/-- The loop, when it has scanned `seen`. -/
theorem scanFiltered_spec (htt : tt.RoundTrips) {pageLimit scanBudget : Nat} (hpage : 0 < pageLimit)
    {before start : List SoulCommMailboxMessage} (log : List SoulCommMailboxMessage)
    (hrows : mailbox.rows reqCtx filters = before ++ start) (passes : Nat) :
    ∀ (cursor : String) (seen rest : List SoulCommMailboxMessage), start = seen ++ rest →
      resume tt filters.index (TrimSpace cursor) (mailbox.rows reqCtx filters) = some rest →
      seen.length < scanBudget → scanBudget - seen.length < passes →
      (seen.filter filters.matches).length ≤ filters.limit →
      (scanFiltered tt reqCtx.InstanceSlug reqCtx.agentID filters pageLimit scanBudget passes cursor
        seen.length (seen.filter filters.matches) (seen.filter filters.matches).getLast?).Ensures
        (messagesEnv tt mailbox.messages) (fun _ => False)
        (PageOf tt filters.index filters.matches start log scanBudget) (log ++ seen) := by
  have hkeys : ∀ m ∈ start, m.HasKeys := by
    intro m hm
    have hmem : m ∈ mailbox.rows reqCtx filters := hrows ▸ List.mem_append_right before hm
    exact mailbox.keys m (List.mem_filter.1 hmem).1
  induction passes with
  | zero => omega
  | succ passes ih =>
      intro cursor seen rest hstart hresume hbudget hpasses hout
      unfold scanFiltered
      rw [if_neg (by omega)]
      refine Prog.ensures_bind (queryMailboxMessagesPage_spec htt (by omega) hresume) ?_
      rintro r log' ⟨items, paged, after, rfl, rfl, rfl, hlength, hcases⟩
      dsimp only
      obtain ⟨consumed, hconsume, hconsumed⟩ := consume_spec htt filters items
        (seen.filter filters.matches) (fun m hm => hkeys m (by
          rw [hstart]
          rw [List.mem_append] at hm ⊢
          exact hm.imp (fun h => (List.mem_filter.1 h).1) (List.mem_append_left after))) hout
      rw [hconsume]
      dsimp only
      rw [← List.filter_append] at hconsumed
      have hsplit : start = (seen ++ items) ++ after := by rw [hstart, List.append_assoc]
      rcases hconsumed with ⟨hnone, hout', hlength', hlast'⟩ | ⟨front, last, more, hout', hfilter, hnext⟩
      · rw [if_neg (by simp [hnone]), hout']
        rcases hcases with ⟨hexhausted, rfl⟩ | ⟨front, last, hitems, hmore, hcursor⟩
        · -- no message is left
          rw [if_pos hexhausted]
          refine Prog.ensures_pure ⟨⟨seen ++ items, [], hsplit, rfl, Or.inl ⟨rfl, rfl⟩⟩, ?_⟩
          intro hpartial
          cases hpartial
        · obtain ⟨htrim, hne, -⟩ := cursorAfter_spec htt filters.index last
          have hlast : start = (seen ++ front) ++ last :: after := by simp [hsplit, hitems]
          rw [if_neg (by simp [hmore]), Option.elim_some, hcursor, List.append_assoc]
          by_cases hused : scanBudget ≤ seen.length + items.length
          · -- the budget is used up
            rw [if_pos hused]
            refine Prog.ensures_pure ⟨⟨seen ++ items, after, hsplit, rfl, Or.inr ⟨seen ++ front, last, ?_⟩⟩, ?_⟩
            · exact ⟨by simp [hitems], htrim⟩
            · intro _
              refine ⟨seen ++ front, last, after, hlast, by simp [hitems], ?_, htrim⟩
              have hlength' : items.length = front.length + 1 := by simp [hitems]
              simp
              omega
          · rw [if_neg hused, hlast', hout', ← List.length_append]
            refine ih _ (seen ++ items) after hsplit ?_ (by simp; omega) ?_ (hout' ▸ hlength')
            · rw [htrim]
              exact resume_rows htt before (hrows.trans (congrArg (before ++ ·) hlast))
            · have : 0 < items.length := by simp [hitems]
              simp
              omega
      · -- the page is full, and the next message to return has been found
        obtain ⟨front', after', hseen, hfront⟩ := filter_prefix hfilter
        obtain ⟨-, hne, -⟩ := cursorAfter_spec htt filters.index last
        rw [if_pos (by rw [hnext]; exact hne), hnext]
        refine Prog.ensures_pure ⟨⟨front' ++ [last], after' ++ after, ?_, ?_, Or.inr ⟨front', last, rfl, ?_⟩⟩, ?_⟩
        · rw [hsplit, hseen]
          simp
        · rw [hfront, hout']
        · exact if_pos hne
        · intro hpartial
          cases hpartial

end Page

/-! ## Requests -/

def mailboxListFilters.withCursor (filters : mailboxListFilters) (cursor : String) :
    mailboxListFilters := { filters with cursor := cursor }

theorem hasPostQueryFilters_eq (filters : mailboxListFilters) :
    filters.hasPostQueryFilters = true := by
  unfold mailboxListFilters.hasPostQueryFilters mailboxListFilters.excludesDeletedByDefault
  cases filters.deleted <;> cases filters.includeDeleted <;> simp

/-- The request with any limit of a store page and any scan budget. -/
def listWithBudget (tt : TableTheory) (reqCtx : mailboxRequestContext) (pageLimit scanBudget : Nat)
    (filters : mailboxListFilters) : Lister mailboxListResult :=
  match validateMailboxListFilters tt filters with
  | some appErr => .fail appErr
  | none => scanFiltered tt reqCtx.InstanceSlug reqCtx.agentID filters pageLimit scanBudget
      (scanBudget + 1) (TrimSpace filters.cursor) 0 [] none

theorem handleSoulCommMailboxList_eq (tt : TableTheory) (reqCtx : mailboxRequestContext)
    (filters : mailboxListFilters) :
    handleSoulCommMailboxList tt reqCtx filters
      = listWithBudget tt reqCtx filters.queryLimit filters.filteredScanBudget filters := by
  have hmessages : listMailboxMessages tt reqCtx.InstanceSlug reqCtx.agentID filters
      = listFilteredMailboxMessages tt reqCtx.InstanceSlug reqCtx.agentID filters := by
    unfold listMailboxMessages
    rw [hasPostQueryFilters_eq]
    rfl
  unfold handleSoulCommMailboxList listWithBudget
  cases validateMailboxListFilters tt filters with
  | some appErr => rfl
  | none => exact hmessages

theorem queryLimit_pos (filters : mailboxListFilters) : 0 < filters.queryLimit := by
  rw [mailboxListFilters.queryLimit, if_pos (hasPostQueryFilters_eq filters)]
  omega

theorem filteredScanBudget_pos (filters : mailboxListFilters) : 0 < filters.filteredScanBudget := by
  have hlimit := queryLimit_pos filters
  rw [mailboxListFilters.filteredScanBudget, if_pos (hasPostQueryFilters_eq filters),
    mailboxFilteredScanMaxRows]
  omega

/-- Request the first page and then the page after each cursor. -/
def followCursors (list : mailboxListFilters → Lister mailboxListResult) (filters : mailboxListFilters) :
    Nat → String → Lister (List mailboxListResult)
  | 0, _ => .fail internalError
  | pages + 1, cursor => do
      let page ← list (filters.withCursor cursor)
      if page.next = "" then return [page]
      else
        let pages ← followCursors list filters pages page.next
        return page :: pages

/-- The pages that follow one another. -/
structure PagesComplete (tt : TableTheory) (mailbox : StoredMessages) (reqCtx : mailboxRequestContext)
    (filters : mailboxListFilters) (scanBudget : Nat)
    (list : mailboxListFilters → Lister mailboxListResult) : Prop where
  /-- there are finitely many, and together they have the messages that match, in store order -/
  visits : (followCursors list filters ((mailbox.rows reqCtx filters).length + 1) "").Ensures
    (messagesEnv tt mailbox.messages) (fun _ => False)
    (fun pages _ => pages.flatMap (·.items) = (mailbox.rows reqCtx filters).filter filters.matches) []
  /-- a page that ends because the budget is used up resumes after the last message scanned -/
  resumes : ∀ cursor, (cursor = "" ∨
      ∃ m ∈ mailbox.rows reqCtx filters, cursor = cursorAfter tt filters.index m) →
    (list (filters.withCursor cursor)).Ensures (messagesEnv tt mailbox.messages) (fun _ => False)
      (fun page scanned => page.partialScan = true → scanned.length = scanBudget ∧
        ∃ front last rest, mailbox.rows reqCtx filters = front ++ last :: rest ∧
          scanned.getLast? = some last ∧
          resume tt filters.index page.next (mailbox.rows reqCtx filters) = some rest) []

section Requests

variable {tt : TableTheory} {mailbox : StoredMessages} {reqCtx : mailboxRequestContext}
  {filters : mailboxListFilters} {pageLimit scanBudget : Nat}

theorem validateMailboxListFilters_withCursor (cursor : String)
    (h : validateMailboxListFilters tt (filters.withCursor "") = none) :
    validateMailboxListFilters tt (filters.withCursor cursor) = validateMailboxListCursor tt cursor := by
  unfold validateMailboxListFilters at h ⊢
  unfold mailboxListFilters.withCursor at h ⊢
  dsimp only at h ⊢
  split_ifs at h ⊢
  rfl

theorem validateMailboxListCursor_after (htt : tt.RoundTrips) (index : String)
    (last : SoulCommMailboxMessage) : validateMailboxListCursor tt (cursorAfter tt index last) = none := by
  obtain ⟨htrim, hne, hdecode⟩ := cursorAfter_spec htt index last
  unfold validateMailboxListCursor
  dsimp only
  rw [htrim, if_neg hne, hdecode]
  dsimp only
  rw [if_neg (by simp [SoulCommMailboxMessage.indexKey])]

/-- A request with a cursor that resumes at `start`. -/
theorem listWithBudget_spec (htt : tt.RoundTrips) (hpage : 0 < pageLimit) (hbudget : 0 < scanBudget)
    {before start : List SoulCommMailboxMessage} (log : List SoulCommMailboxMessage) {cursor : String}
    (hrows : mailbox.rows reqCtx filters = before ++ start)
    (hvalid : validateMailboxListFilters tt (filters.withCursor cursor) = none)
    (hresume : resume tt filters.index (TrimSpace cursor) (mailbox.rows reqCtx filters) = some start) :
    (listWithBudget tt reqCtx pageLimit scanBudget (filters.withCursor cursor)).Ensures
      (messagesEnv tt mailbox.messages) (fun _ => False)
      (PageOf tt filters.index filters.matches start log scanBudget) log := by
  unfold listWithBudget
  rw [hvalid]
  dsimp only
  -- the cursor changes neither the filter nor the messages it is about
  have hrows' : mailbox.rows reqCtx (filters.withCursor cursor) = before ++ start := hrows
  have h := scanFiltered_spec htt hpage log hrows' (scanBudget + 1) (TrimSpace cursor) [] start rfl
    (by rwa [TrimSpace_idem]) hbudget (by simp) (Nat.zero_le _)
  rw [List.append_nil] at h
  exact h

theorem resume_empty (index : String) (rows : List SoulCommMailboxMessage) :
    resume tt index (TrimSpace "") rows = some rows := if_pos rfl

/-- The pages from a cursor on, which resumes at `start`. -/
theorem followCursors_spec (htt : tt.RoundTrips) (hpage : 0 < pageLimit) (hbudget : 0 < scanBudget)
    {list : mailboxListFilters → Lister mailboxListResult}
    (hlist : ∀ cursor, list (filters.withCursor cursor)
      = listWithBudget tt reqCtx pageLimit scanBudget (filters.withCursor cursor))
    (hfilters : validateMailboxListFilters tt (filters.withCursor "") = none) (pages : Nat) :
    ∀ (before start log : List SoulCommMailboxMessage) (cursor : String),
      mailbox.rows reqCtx filters = before ++ start → start.length < pages →
      validateMailboxListCursor tt cursor = none →
      resume tt filters.index (TrimSpace cursor) (mailbox.rows reqCtx filters) = some start →
      (followCursors list filters pages cursor).Ensures
        (messagesEnv tt mailbox.messages) (fun _ => False)
        (fun pages _ => pages.flatMap (·.items) = start.filter filters.matches) log := by
  induction pages with
  | zero => omega
  | succ pages ih =>
      intro before start log cursor hrows hlength hcursor hresume
      have hvalid : validateMailboxListFilters tt (filters.withCursor cursor) = none := by
        rw [validateMailboxListFilters_withCursor cursor hfilters, hcursor]
      unfold followCursors
      rw [hlist]
      refine Prog.ensures_bind (listWithBudget_spec htt hpage hbudget log hrows hvalid hresume) ?_
      rintro page scanned ⟨⟨seen, rest, rfl, hitems, hcases⟩, -⟩
      rcases hcases with ⟨hnext, rfl⟩ | ⟨front, last, rfl, hnext⟩
      · rw [if_pos hnext]
        refine Prog.ensures_pure ?_
        rw [List.flatMap_singleton, hitems, List.append_nil]
      · obtain ⟨htrim, hne, -⟩ := cursorAfter_spec htt filters.index last
        rw [if_neg (by rw [hnext]; exact hne), hnext]
        refine Prog.ensures_bind (ih (before ++ (front ++ [last])) rest scanned _ ?_ ?_ ?_ ?_) ?_
        · rw [hrows, List.append_assoc, List.append_assoc, List.append_assoc]
        · simp at hlength
          omega
        · exact validateMailboxListCursor_after htt _ _
        · rw [htrim]
          exact resume_rows htt before (by rw [hrows, List.append_assoc, List.singleton_append])
        · intro pages _ hpages
          refine Prog.ensures_pure ?_
          rw [List.flatMap_cons, hitems, hpages, ← List.filter_append]

theorem pagesComplete_of_eq (htt : tt.RoundTrips) (hpage : 0 < pageLimit) (hbudget : 0 < scanBudget)
    {list : mailboxListFilters → Lister mailboxListResult}
    (hlist : ∀ cursor, list (filters.withCursor cursor)
      = listWithBudget tt reqCtx pageLimit scanBudget (filters.withCursor cursor))
    (hfilters : validateMailboxListFilters tt (filters.withCursor "") = none) :
    PagesComplete tt mailbox reqCtx filters scanBudget list := by
  refine ⟨?_, ?_⟩
  · exact followCursors_spec htt hpage hbudget hlist hfilters _ [] _ [] "" rfl (Nat.lt_succ_self _) rfl
      (resume_empty _ _)
  · intro cursor hcursor
    obtain ⟨before, start, hrows, hvalid, hresume⟩ : ∃ before start,
        mailbox.rows reqCtx filters = before ++ start ∧ validateMailboxListCursor tt cursor = none ∧
          resume tt filters.index (TrimSpace cursor) (mailbox.rows reqCtx filters) = some start := by
      rcases hcursor with rfl | ⟨m, hm, rfl⟩
      · exact ⟨[], _, rfl, rfl, resume_empty _ _⟩
      · obtain ⟨front, rest, hrows⟩ := List.append_of_mem hm
        refine ⟨front ++ [m], rest, by simp [hrows], validateMailboxListCursor_after htt _ _, ?_⟩
        rw [(cursorAfter_spec htt _ _).1]
        exact resume_rows htt [] hrows
    rw [← validateMailboxListFilters_withCursor cursor hfilters] at hvalid
    rw [hlist]
    refine (listWithBudget_spec htt hpage hbudget [] hrows hvalid hresume).mono ?_
    rintro page scanned ⟨-, hresumes⟩ hpartial
    obtain ⟨front, last, rest, rfl, rfl, hlength, hnext⟩ := hresumes hpartial
    refine ⟨hlength, before ++ front, last, rest, by rw [hrows, List.append_assoc], by simp, ?_⟩
    rw [hnext]
    exact resume_rows htt before hrows

end Requests

/-- **Following the cursors is complete**, with the limits of the source and with any other limit of a
    store page and any other scan budget. -/
theorem pages_complete (tt : TableTheory) (htt : tt.RoundTrips) (mailbox : StoredMessages)
    (reqCtx : mailboxRequestContext) (filters : mailboxListFilters)
    (hfilters : validateMailboxListFilters tt (filters.withCursor "") = none) :
    PagesComplete tt mailbox reqCtx filters filters.filteredScanBudget
        (handleSoulCommMailboxList tt reqCtx) ∧
      ∀ pageLimit scanBudget, 0 < pageLimit → 0 < scanBudget →
        PagesComplete tt mailbox reqCtx filters scanBudget
          (listWithBudget tt reqCtx pageLimit scanBudget) := by
  refine ⟨?_, fun pageLimit scanBudget hpage hbudget =>
    pagesComplete_of_eq htt hpage hbudget (fun _ => rfl) hfilters⟩
  -- the limits do not depend on the cursor
  refine pagesComplete_of_eq htt (queryLimit_pos filters) (filteredScanBudget_pos filters)
    (fun cursor => ?_) hfilters
  exact handleSoulCommMailboxList_eq tt reqCtx (filters.withCursor cursor)

/-! ## A mailbox with two messages

A cursor is its texts, each of their characters after a plus sign, each text ended by a full stop. -/

def sampleEncode (texts : List String) : List Char :=
  texts.flatMap fun text => text.toList.flatMap (fun c => ['+', c]) ++ ['.']

def sampleDecode : List Char → List Char → List String
  | text, '+' :: c :: rest => sampleDecode (text ++ [c]) rest
  | text, '.' :: rest => String.ofList text :: sampleDecode [] rest
  | _, _ => []

theorem sampleDecode_chars (cs : List Char) :
    ∀ text rest, sampleDecode text (cs.flatMap (fun c => ['+', c]) ++ '.' :: rest)
      = String.ofList (text ++ cs) :: sampleDecode [] rest := by
  induction cs with
  | nil => simp [sampleDecode]
  | cons c cs ih => simp [sampleDecode, ih]

theorem sampleDecode_encode (texts : List String) : sampleDecode [] (sampleEncode texts) = texts := by
  induction texts with
  | nil => rfl
  | cons text texts ih =>
      have h := sampleDecode_chars text.toList [] (sampleEncode texts)
      rw [ih, List.nil_append, String.ofList_toList] at h
      simpa [sampleEncode] using h

/-- Names and values by turns. -/
def samplePairs : List String → AttributeKey
  | name :: value :: rest => (name, value) :: samplePairs rest
  | _ => []

theorem samplePairs_flatten (key : AttributeKey) :
    samplePairs (key.flatMap fun entry => [entry.1, entry.2]) = key := by
  induction key with
  | nil => rfl
  | cons entry key ih => simp [samplePairs, ih]

def sampleTableTheory : TableTheory where
  EncodeCursor key index direction :=
    some (String.ofList
      (sampleEncode (index :: direction :: key.flatMap fun entry => [entry.1, entry.2])))
  DecodeCursor text :=
    match sampleDecode [] text.toList with
    | index :: direction :: rest => some ⟨samplePairs rest, index, direction⟩
    | _ => none

theorem sampleEncode_head (text : String) (texts : List String) :
    ∃ c, (sampleEncode (text :: texts)).head? = some c ∧ isSpace c = false := by
  cases h : text.toList with
  | nil => exact ⟨'.', by simp [sampleEncode, h], by decide⟩
  | cons c cs => exact ⟨'+', by simp [sampleEncode, h], by decide⟩

theorem sampleEncode_last (text : String) (texts : List String) :
    (sampleEncode (text :: texts)).getLast? = some '.' := by
  induction texts generalizing text with
  | nil => simp [sampleEncode]
  | cons text' texts ih =>
      have hcons : sampleEncode (text :: text' :: texts)
          = (text.toList.flatMap (fun c => ['+', c]) ++ ['.']) ++ sampleEncode (text' :: texts) := rfl
      rw [hcons, List.getLast?_append, ih, Option.some_or]

theorem sampleTableTheory_roundTrips : sampleTableTheory.RoundTrips := by
  intro key index direction hkey
  obtain ⟨c, hhead, hspace⟩ := sampleEncode_head index
    (direction :: key.flatMap fun entry => [entry.1, entry.2])
  refine ⟨_, rfl, ?_, ?_, ?_⟩
  · refine isTrimmed_of_ends (a := c) (b := '.') ?_ ?_ hspace (by decide)
    · rw [String.toList_ofList, hhead]
    · rw [String.toList_ofList, sampleEncode_last]
  · intro hempty
    have hnil := congrArg String.toList hempty
    rw [String.toList_ofList] at hnil
    rw [hnil] at hhead
    cases hhead
  · simp only [sampleTableTheory, String.toList_ofList, sampleDecode_encode, samplePairs_flatten]

def sampleStored (deliveryID : String) (read : Bool) : SoulCommMailboxMessage :=
  { DeliveryID := deliveryID
    MessageID := "m"
    ThreadID := "t"
    InstanceSlug := "i"
    AgentID := "a"
    Direction := SoulCommDirectionInbound
    ChannelType := commChannelEmail
    Status := "delivered"
    Read := read
    CreatedAt := ⟨Hour, .utc⟩
    UpdatedAt := ⟨Hour, .utc⟩ : SoulCommMailboxMessage }.UpdateKeys

def sampleStoredMessages : StoredMessages where
  messages := [sampleStored "comm-delivery-2" true, sampleStored "comm-delivery-1" false]
  keys := by
    intro m hm
    simp only [List.mem_cons, List.not_mem_nil, or_false] at hm
    rcases hm with rfl | rfl
    · exact hasKeys_UpdateKeys _
    · exact hasKeys_UpdateKeys _
  distinct := by decide

/-- The unread messages, one on a page. -/
def sampleFilters : mailboxListFilters := { limit := 1, limit_pos := Nat.one_pos, read := some false }

theorem pages_complete_sample :
    PagesComplete sampleTableTheory sampleStoredMessages ⟨"i", "a"⟩ sampleFilters
        sampleFilters.filteredScanBudget
        (handleSoulCommMailboxList sampleTableTheory ⟨"i", "a"⟩) ∧
      PagesComplete sampleTableTheory sampleStoredMessages ⟨"i", "a"⟩ sampleFilters 1
        (listWithBudget sampleTableTheory ⟨"i", "a"⟩ 1 1) :=
  (pages_complete sampleTableTheory sampleTableTheory_roundTrips sampleStoredMessages ⟨"i", "a"⟩
    sampleFilters (by decide)).imp_right fun h => h 1 1 Nat.one_pos Nat.one_pos

end LesserHost.Mailbox
