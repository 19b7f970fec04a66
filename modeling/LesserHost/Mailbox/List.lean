import LesserHost.Go.Bytes
import LesserHost.Mailbox.State

set_option autoImplicit false

/-! # Listing a mailbox

`handlers_soul_comm_mailbox.go`: a request for a page of the messages of an agent, or of one thread,
that satisfy the filters. The store pages through all of them, so a request scans store pages until
it has enough messages, no more are stored, or its scan budget is used up, and hands out a cursor.

The stored messages are given in store order, descending by sort key. The store answers every query:
it decides how many messages a store page has, up to the limit of the query, and whether it says that
there is more when the last one has been returned. Encoding and decoding a cursor (`TableTheory`) are
parameters. The projection to requested fields is left out, it only reads the result. -/

namespace LesserHost.Mailbox

open LesserHost.Go

/-! ## Cursors of the store -/

/-- A key with the names of its attributes. -/
abbrev AttributeKey := List (String × String)

structure Cursor where
  LastEvaluatedKey : AttributeKey
  IndexName : String
  SortDirection : String
  deriving DecidableEq

structure TableTheory where
  EncodeCursor : AttributeKey → String → String → Option String
  DecodeCursor : String → Option Cursor

/-- What is encoded is text without white space around it and decodes to what it was. -/
def TableTheory.RoundTrips (tt : TableTheory) : Prop :=
  ∀ key index direction, key ≠ [] → ∃ text, tt.EncodeCursor key index direction = some text ∧
    IsTrimmed text ∧ text ≠ "" ∧ tt.DecodeCursor text = some ⟨key, index, direction⟩

/-! ## The store -/

/-- A query for the partition of a key, in descending order of the sort key. -/
structure MessageQuery where
  index : String
  partitionKey : String
  limit : Nat
  cursor : String

def MessageQuery.selects (q : MessageQuery) (m : SoulCommMailboxMessage) : Bool :=
  if q.index = "gsi2" then m.GSI2PK == q.partitionKey && HasPrefix m.GSI2SK "MSG#"
  else m.PK == q.partitionKey

structure PaginatedResult where
  HasMore : Bool
  NextCursor : String

/-- The key of a message, and of the index the query uses. -/
def SoulCommMailboxMessage.indexKey (m : SoulCommMailboxMessage) (index : String) : AttributeKey :=
  [("PK", m.PK), ("SK", m.SK)] ++
    if index = "gsi2" then [("gsi2PK", m.GSI2PK), ("gsi2SK", m.GSI2SK)] else []

/-- The messages of `rows` after the one with the key. -/
def afterKey (index : String) (key : AttributeKey) (rows : List SoulCommMailboxMessage) :
    List SoulCommMailboxMessage :=
  (rows.dropWhile fun m => m.indexKey index != key).tail

/-- What a query with the cursor goes through. -/
def resume (tt : TableTheory) (index cursor : String) (rows : List SoulCommMailboxMessage) :
    Option (List SoulCommMailboxMessage) :=
  if cursor = "" then some rows
  else match tt.DecodeCursor cursor with
  | none => none
  | some c =>
      if c.IndexName = index ∧ c.SortDirection = "DESC" then
        some (afterKey index c.LastEvaluatedKey rows)
      else none

inductive ListOp where
  | queryMessages (q : MessageQuery)

abbrev ListOp.Res : ListOp → Type
  | .queryMessages _ => Except StoreError (List SoulCommMailboxMessage × Option PaginatedResult)

/-- What the store decides at a query. -/
structure PageChoice where
  size : Nat
  trailing : Bool

/-- The store page that begins with `rest`. -/
def storePage (tt : TableTheory) (q : MessageQuery) (c : PageChoice)
    (rest : List SoulCommMailboxMessage) : List SoulCommMailboxMessage × Option PaginatedResult :=
  let items := rest.take (min q.limit (max 1 c.size))
  match items.getLast? with
  | none => ([], some ⟨false, ""⟩)
  | some last =>
      if items.length < rest.length ∨ c.trailing then
        (items, some ⟨true, (tt.EncodeCursor (last.indexKey q.index) q.index "DESC").getD ""⟩)
      else (items, some ⟨false, ""⟩)

/-- The state is what has been scanned so far. -/
def messagesEnv (tt : TableTheory) (messages : List SoulCommMailboxMessage) :
    Prog.Env ListOp ListOp.Res (List SoulCommMailboxMessage) PageChoice where
  handle
    | .queryMessages q, c, scanned =>
        match resume tt q.index q.cursor (messages.filter q.selects) with
        | none => (.error .other, scanned)
        | some rest => (.ok (storePage tt q c rest), scanned ++ (storePage tt q c rest).1)

/-! ## Filters -/

def mailboxListQueryMaxLength : Nat := 128
def mailboxFilteredScanMaxRows : Nat := 500

def commChannelEmail : String := "email"
def commChannelSMS : String := "sms"
def commChannelVoice : String := "voice"

/-- The limit is `parseLimit(raw, 50, 1, 100)`. -/
def parseLimit (raw : String) (default min max : Nat) : Nat :=
  let raw := TrimSpace raw
  if raw = "" then default
  else match Atoi (bytes raw) with
  | none => default
  | some n => if n < min then min else if n > max then max else n.toNat

structure mailboxListFilters where
  limit : Nat
  limit_pos : 0 < limit
  cursor : String := ""
  channelType : String := ""
  direction : String := ""
  read : Option Bool := none
  archived : Option Bool := none
  deleted : Option Bool := none
  includeArchived : Option Bool := none
  includeDeleted : Bool := false
  threadID : String := ""
  query : String := ""

/-- `strings.Contains`. -/
def Contains (s substr : String) : Bool := decide (substr.toList <:+: s.toList)

def mailboxMetadataMatchesQuery (item : SoulCommMailboxMessage) (query : String) : Bool :=
  let query := ToLower (TrimSpace query)
  let fields := [item.DeliveryID, item.MessageID, item.ThreadID, item.ProviderMessageID, item.Subject,
    item.Preview, item.FromAddress, item.FromNumber, item.FromSoulAgentID, item.FromDisplayName,
    item.ToAddress, item.ToNumber, item.ToSoulAgentID, item.ToDisplayName]
  query == "" || fields.any fun field => Contains (ToLower (TrimSpace field)) query

namespace mailboxListFilters

variable (f : mailboxListFilters)

def excludesDeletedByDefault : Bool := f.deleted.isNone && !f.includeDeleted

def hasPostQueryFilters : Bool :=
  f.channelType != "" || f.direction != "" || f.read.isSome || f.archived.isSome ||
    f.deleted.isSome || f.includeArchived.isSome || f.includeDeleted || f.query != "" ||
    f.excludesDeletedByDefault

def queryLimit : Nat :=
  if f.hasPostQueryFilters then min (max (f.limit * 4) 25) 200 else f.limit

def filteredScanBudget : Nat :=
  if f.hasPostQueryFilters then min (max (f.limit * 20) f.queryLimit) mailboxFilteredScanMaxRows
  else f.limit

def matchesChannelAndDirection (item : SoulCommMailboxMessage) : Bool :=
  (f.channelType == "" || EqualFold (TrimSpace item.ChannelType) f.channelType) &&
    (f.direction == "" || EqualFold (TrimSpace item.Direction) f.direction)

def matchesReadArchiveState (item : SoulCommMailboxMessage) : Bool :=
  f.read.all (item.Read == ·) && f.archived.all (item.Archived == ·) &&
    !(f.includeArchived == some false && item.Archived)

def matchesDeletedState (item : SoulCommMailboxMessage) : Bool :=
  match f.deleted with
  | some deleted => item.Deleted == deleted
  | none => !(item.Deleted && !f.includeDeleted)

def matchesQuery (item : SoulCommMailboxMessage) : Bool :=
  f.query == "" || mailboxMetadataMatchesQuery item f.query

def «matches» (item : SoulCommMailboxMessage) : Bool :=
  f.matchesChannelAndDirection item && f.matchesReadArchiveState item &&
    f.matchesDeletedState item && f.matchesQuery item

end mailboxListFilters

/-! ## Handlers -/

abbrev Lister (α : Type) := Prog ListOp ListOp.Res AppTheoryError α

structure mailboxListResult where
  items : List SoulCommMailboxMessage
  hasMore : Bool := false
  nextCursor : String := ""
  partialScan : Bool := false
  scanHasMore : Bool := false
  scanCursor : String := ""

section Handlers

variable (tt : TableTheory)

def validateMailboxListCursor (cursor : String) : Option AppTheoryError :=
  let invalid : AppTheoryError := ⟨commCodeInvalidRequest, "cursor is invalid", StatusBadRequest⟩
  let cursor := TrimSpace cursor
  if cursor = "" then none
  else match tt.DecodeCursor cursor with
  | none => some invalid
  | some decoded => if decoded.LastEvaluatedKey = [] then some invalid else none

def validateMailboxListFilters (filters : mailboxListFilters) : Option AppTheoryError :=
  if filters.channelType ≠ "" ∧ filters.channelType ≠ commChannelEmail ∧
      filters.channelType ≠ commChannelSMS ∧ filters.channelType ≠ commChannelVoice then
    some ⟨commCodeInvalidRequest, "channelType is invalid", StatusBadRequest⟩
  else if filters.direction ≠ "" ∧ filters.direction ≠ SoulCommDirectionInbound ∧
      filters.direction ≠ SoulCommDirectionOutbound then
    some ⟨commCodeInvalidRequest, "direction is invalid", StatusBadRequest⟩
  else if mailboxListQueryMaxLength < len filters.query then
    some ⟨commCodeInvalidRequest, "query is too long", StatusBadRequest⟩
  else validateMailboxListCursor tt filters.cursor

def mailboxQuery (instanceSlug agentID : String) (filters : mailboxListFilters) (cursor : String)
    (limit : Nat) : MessageQuery :=
  if TrimSpace filters.threadID ≠ "" then
    { index := "gsi2"
      partitionKey := SoulCommMailboxThreadPK instanceSlug agentID filters.threadID
      limit := limit
      cursor := TrimSpace cursor }
  else
    { index := ""
      partitionKey := SoulCommMailboxAgentPK instanceSlug agentID
      limit := limit
      cursor := TrimSpace cursor }

def queryMailboxMessagesPage (instanceSlug agentID : String) (filters : mailboxListFilters)
    (cursor : String) (limit : Nat) :
    Lister (Except StoreError (List SoulCommMailboxMessage × Option PaginatedResult)) :=
  Prog.perform (ListOp.queryMessages (mailboxQuery instanceSlug agentID filters cursor limit))

/-- The entries of the key that say nothing are deleted from it. -/
def encodeMailboxListCursor (item : SoulCommMailboxMessage) (filters : mailboxListFilters) : String :=
  let keys := [("PK", TrimSpace item.PK), ("SK", TrimSpace item.SK)]
  let indexKeys := [("gsi2PK", TrimSpace item.GSI2PK), ("gsi2SK", TrimSpace item.GSI2SK)]
  let (lastKey, indexName) :=
    if TrimSpace filters.threadID ≠ "" then (keys ++ indexKeys, "gsi2") else (keys, "")
  let lastKey := lastKey.filter fun entry => TrimSpace entry.2 ≠ ""
  ((tt.EncodeCursor lastKey indexName "DESC").map TrimSpace).getD ""

/-- The messages to return, the last of them, and a cursor once there are too many. -/
structure Consumed where
  out : List SoulCommMailboxMessage
  lastReturned : Option SoulCommMailboxMessage
  nextCursor : String

def consumeFilteredMailboxItems (filters : mailboxListFilters) (out : List SoulCommMailboxMessage)
    (lastReturned : Option SoulCommMailboxMessage) :
    List SoulCommMailboxMessage → Except Unit Consumed
  | [] => .ok ⟨out, lastReturned, ""⟩
  | item :: items =>
      if !filters.matches item then consumeFilteredMailboxItems filters out lastReturned items
      else if out.length < filters.limit then
        consumeFilteredMailboxItems filters (out ++ [item]) (some item) items
      else
        let nextCursor := lastReturned.elim "" fun last => encodeMailboxListCursor tt last filters
        if nextCursor = "" then .error () else .ok ⟨out, lastReturned, nextCursor⟩

def mailboxPageExhausted (paged : Option PaginatedResult) : Bool :=
  match paged with
  | none => true
  | some paged => !paged.HasMore || TrimSpace paged.NextCursor == ""

def partialMailboxScanResult (items : List SoulCommMailboxMessage) (cursor : String) :
    mailboxListResult :=
  { items := items, partialScan := true, scanHasMore := true, scanCursor := TrimSpace cursor }

/-- The loop of `listFilteredMailboxMessages`. Each pass but the last one scans a message, so one more
    pass than the budget has rows is never needed. -/
def scanFiltered (instanceSlug agentID : String) (filters : mailboxListFilters)
    (pageLimit scanBudget : Nat) :
    Nat → String → Nat → List SoulCommMailboxMessage → Option SoulCommMailboxMessage →
    Lister mailboxListResult
  | 0, _, _, _, _ => .fail internalError
  | passes + 1, cursor, scanned, out, lastReturned => do
      if scanBudget - scanned = 0 then
        return { items := out, partialScan := cursor != "", scanHasMore := cursor != ""
                 scanCursor := cursor }
      else
      let limit := min pageLimit (scanBudget - scanned)
      match ← queryMailboxMessagesPage instanceSlug agentID filters cursor limit with
      | .error _ => .fail internalError
      | .ok (items, paged) =>
      let scanned := scanned + items.length
      match consumeFilteredMailboxItems tt filters out lastReturned items with
      | .error _ => .fail internalError
      | .ok consumed =>
      if consumed.nextCursor ≠ "" then
        return { items := consumed.out, hasMore := true, nextCursor := consumed.nextCursor }
      else if mailboxPageExhausted paged then return { items := consumed.out }
      else
        let cursor := TrimSpace (paged.elim "" (·.NextCursor))
        if scanBudget ≤ scanned then return partialMailboxScanResult consumed.out cursor
        else
          scanFiltered instanceSlug agentID filters pageLimit scanBudget passes cursor scanned
            consumed.out consumed.lastReturned

def listFilteredMailboxMessages (instanceSlug agentID : String) (filters : mailboxListFilters) :
    Lister mailboxListResult :=
  scanFiltered tt instanceSlug agentID filters filters.queryLimit filters.filteredScanBudget
    (filters.filteredScanBudget + 1) (TrimSpace filters.cursor) 0 [] none

def listMailboxMessages (instanceSlug agentID : String) (filters : mailboxListFilters) :
    Lister mailboxListResult := do
  if !filters.hasPostQueryFilters then
    let cursor := TrimSpace filters.cursor
    match ← queryMailboxMessagesPage instanceSlug agentID filters cursor filters.limit with
    | .error _ => .fail internalError
    | .ok (items, none) => return { items := items }
    | .ok (items, some paged) =>
        return { items := items, hasMore := paged.HasMore, nextCursor := TrimSpace paged.NextCursor }
  else listFilteredMailboxMessages tt instanceSlug agentID filters

/-- The filters are validated when they are parsed. -/
def handleSoulCommMailboxList (reqCtx : mailboxRequestContext) (filters : mailboxListFilters) :
    Lister mailboxListResult :=
  match validateMailboxListFilters tt filters with
  | some appErr => .fail appErr
  | none => listMailboxMessages tt reqCtx.InstanceSlug reqCtx.agentID filters

end Handlers

end LesserHost.Mailbox
