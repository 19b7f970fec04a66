import LesserHost.Mailbox.Message
import LesserHost.SoulComm.Request

set_option autoImplicit false

/-! # Replays of a send

A send with an idempotency key reserves the key, and a later request with the key is answered from what was
recorded: the row of the message's status, or the reservation itself. The thread that the first answer names
is that of the message it replies to, or the one the request asks for; a record keeps neither. -/

namespace LesserHost.SoulComm

open LesserHost.Go
open LesserHost.ControlPlane (AppTheoryError)
open LesserHost.Mailbox (shortHash SoulCommMailboxDeliveryID)

/-! ## Threads -/

/-- `strings.Cut` at one character. -/
def Cut (s : String) (sep : Char) : Option (String × String) :=
  if s.toList.contains sep then
    some (String.ofList (s.toList.takeWhile (· ≠ sep)), String.ofList ((s.toList.dropWhile (· ≠ sep)).drop 1))
  else none

/-- A Message-ID that the host made stands for the message it was made for. -/
def SoulCommMailboxCanonicalThreadRoot (rootMessageID : String) : String :=
  let root := TrimSpace rootMessageID
  if root = "" then ""
  else
    match Cut (Trim root "<>") '@' with
    | none => root
    | some (localPart, domain) =>
        if HasPrefix (ToLower (TrimSpace localPart)) "comm-msg-" = false then root
        else if ToLower (TrimSpace domain) = "lessersoul.ai" then TrimSpace localPart
        else root

/-- The root that a thread id is made of. -/
def threadRoot (rootMessageID : String) : String :=
  let root := SoulCommMailboxCanonicalThreadRoot rootMessageID
  if root = "" then "root" else root

def threadPayload (instanceSlug agentID channelType rootMessageID : String) : String :=
  "|".intercalate [ToLower (TrimSpace instanceSlug), ToLower (TrimSpace agentID),
    ToLower (TrimSpace channelType), threadRoot rootMessageID]

def SoulCommMailboxThreadID (sha256 : Sha256) (instanceSlug agentID channelType rootMessageID : String) :
    String :=
  "comm-thread-" ++ shortHash sha256 (threadPayload instanceSlug agentID channelType rootMessageID) 24

/-! ## Records -/

structure SoulCommSendIdempotency where
  InstanceSlug : String
  AgentID : String
  IdempotencyKey : String
  RequestHash : String
  MessageID : String
  ChannelType : String
  To : String
  ActedBy : String
  Status : String
  ResponseStatus : String
  Provider : String
  ProviderMessageID : String
  ErrorCode : String
  ErrorMessage : String
  CreatedAt : Time

def SoulCommSendIdempotency.UpdateKeys (m : SoulCommSendIdempotency) : SoulCommSendIdempotency :=
  { InstanceSlug := ToLower (TrimSpace m.InstanceSlug)
    AgentID := ToLower (TrimSpace m.AgentID)
    IdempotencyKey := TrimSpace m.IdempotencyKey
    RequestHash := TrimSpace m.RequestHash
    MessageID := TrimSpace m.MessageID
    ChannelType := ToLower (TrimSpace m.ChannelType)
    To := TrimSpace m.To
    ActedBy := TrimSpace m.ActedBy
    Status := ToLower (TrimSpace m.Status)
    ResponseStatus := ToLower (TrimSpace m.ResponseStatus)
    Provider := ToLower (TrimSpace m.Provider)
    ProviderMessageID := TrimSpace m.ProviderMessageID
    ErrorCode := TrimSpace m.ErrorCode
    ErrorMessage := TrimSpace m.ErrorMessage
    CreatedAt := m.CreatedAt }

structure SoulCommMessageStatus where
  MessageID : String
  InstanceSlug : String
  AgentID : String
  IdempotencyKey : String
  ActedBy : String
  ChannelType : String
  To : String
  Provider : String
  ProviderMessageID : String
  Status : String
  CreatedAt : Time

def SoulCommMessageStatus.UpdateKeys (m : SoulCommMessageStatus) : SoulCommMessageStatus :=
  { MessageID := TrimSpace m.MessageID
    InstanceSlug := ToLower (TrimSpace m.InstanceSlug)
    AgentID := ToLower (TrimSpace m.AgentID)
    IdempotencyKey := TrimSpace m.IdempotencyKey
    ActedBy := TrimSpace m.ActedBy
    ChannelType := ToLower (TrimSpace m.ChannelType)
    To := TrimSpace m.To
    Provider := ToLower (TrimSpace m.Provider)
    ProviderMessageID := TrimSpace m.ProviderMessageID
    Status := ToLower (TrimSpace m.Status)
    CreatedAt := m.CreatedAt }

/-- What the store has under the instance, the agent and the key of a request. -/
structure CommRecords where
  idempotency : Option SoulCommSendIdempotency
  status : Option SoulCommMessageStatus

/-! ## Answers -/

structure soulCommSendResponse where
  MessageID : String
  MessageRef : String
  DeliveryID : String
  ThreadID : String
  Status : String
  Channel : String
  AgentID : String
  To : String
  Provider : String
  ProviderMessageID : String
  ActedBy : String
  CreatedAt : String

structure soulCommSendDelivery where
  provider : String
  providerMessageID : String
  initialStatus : String

def soulCommSendResultStatus (initialStatus : String) : String :=
  if TrimSpace initialStatus = "" then "sent" else TrimSpace initialStatus

section Answers

variable (sha256 : Sha256)

def soulCommSendJSONFields (messageID instanceSlug status channel agentID recipient provider
    providerMessageID root threadIDOverride actedBy : String) (createdAt : Time) : soulCommSendResponse :=
  let deliveryID := SoulCommMailboxDeliveryID sha256 instanceSlug agentID SoulCommDirectionOutbound messageID
  let root := if TrimSpace root = "" then messageID else root
  { MessageID := TrimSpace messageID
    MessageRef := deliveryID
    DeliveryID := deliveryID
    ThreadID :=
      if TrimSpace threadIDOverride ≠ "" then TrimSpace threadIDOverride
      else SoulCommMailboxThreadID sha256 instanceSlug agentID channel root
    Status := TrimSpace status
    Channel := TrimSpace channel
    AgentID := ToLower (TrimSpace agentID)
    To := TrimSpace recipient
    Provider := TrimSpace provider
    ProviderMessageID := TrimSpace providerMessageID
    ActedBy := TrimSpace actedBy
    CreatedAt := createdAt.UTC.FormatRFC3339Nano }

def soulCommSendJSON (messageID instanceSlug : String) (req : validatedSoulCommSendRequest)
    (delivery : soulCommSendDelivery) (now : Time) : soulCommSendResponse :=
  soulCommSendJSONFields sha256 messageID instanceSlug (soulCommSendResultStatus delivery.initialStatus)
    req.channel.text req.agentIDHex req.To delivery.provider delivery.providerMessageID req.inReplyTo
    req.threadID req.actedBy now

def soulCommSendJSONFromStatusItem (item : SoulCommMessageStatus) : soulCommSendResponse :=
  soulCommSendJSONFields sha256 item.MessageID item.InstanceSlug item.Status item.ChannelType item.AgentID
    item.To item.Provider item.ProviderMessageID item.MessageID "" item.ActedBy item.CreatedAt

def soulCommSendJSONFromIdempotencyItem (item : SoulCommSendIdempotency) : soulCommSendResponse :=
  soulCommSendJSONFields sha256 item.MessageID item.InstanceSlug item.ResponseStatus item.ChannelType
    item.AgentID item.To item.Provider item.ProviderMessageID item.MessageID "" item.ActedBy item.CreatedAt

/-! ## Sending -/

/-- What fails while a request is served: reads of the two records, the update of the reservation after the
dispatch, and the three writes that record the send. -/
structure Faults where
  idempotencyRead : Bool
  statusRead : Bool
  finalize : Bool
  statusWrite : Bool
  activityWrite : Bool
  mailboxWrite : Bool

def noFaults : Faults := ⟨false, false, false, false, false, false⟩

def lookupSoulCommStatusByIdempotencyKey (db : CommRecords) (faults : Faults) : Option SoulCommMessageStatus :=
  if faults.statusRead then none else db.status

def respondFromSoulCommSendIdempotency (db : CommRecords) (faults : Faults) (item : SoulCommSendIdempotency) :
    Except AppTheoryError soulCommSendResponse :=
  match lookupSoulCommStatusByIdempotencyKey db faults with
  | some status => .ok (soulCommSendJSONFromStatusItem sha256 status)
  | none =>
      if TrimSpace item.Status = "failed" then
        .error
          ⟨if TrimSpace item.ErrorCode = "" then "comm.internal" else TrimSpace item.ErrorCode,
            if TrimSpace item.ErrorMessage = "" then "internal error" else TrimSpace item.ErrorMessage⟩
      else .ok (soulCommSendJSONFromIdempotencyItem sha256 item)

/-- A request reserves the key, or is answered. -/
inductive Claim where
  | claimed (item : SoulCommSendIdempotency)
  | answered (response : soulCommSendResponse)

variable (requestHash : String → validatedSoulCommSendRequest → String)

/-- The reservation of a request. `requestHash` is the hash of the request's fields. -/
def claimItem (instanceSlug : String) (req : validatedSoulCommSendRequest) (messageID : String) (now : Time) :
    SoulCommSendIdempotency :=
  SoulCommSendIdempotency.UpdateKeys
    { InstanceSlug := instanceSlug
      AgentID := req.agentIDHex
      IdempotencyKey := req.idempotencyKey
      RequestHash := requestHash instanceSlug req
      MessageID := messageID
      ChannelType := req.channel.text
      To := req.To
      ActedBy := req.actedBy
      Status := "processing"
      ResponseStatus := "accepted"
      Provider := ""
      ProviderMessageID := ""
      ErrorCode := ""
      ErrorMessage := ""
      CreatedAt := now }

def claimSoulCommSendIdempotency (db : CommRecords) (faults : Faults) (keyInstanceSlug : String)
    (req : validatedSoulCommSendRequest) (messageID : String) (now : Time) :
    Except AppTheoryError Claim × CommRecords :=
  let instanceSlug := ToLower (TrimSpace keyInstanceSlug)
  if instanceSlug = "" then (.error ⟨"comm.unauthorized", "unauthorized"⟩, db)
  else
    let item := claimItem requestHash instanceSlug req messageID now
    match db.idempotency with
    | none => (.ok (.claimed item), { db with idempotency := some item })
    | some existing =>
        if faults.idempotencyRead then
          match lookupSoulCommStatusByIdempotencyKey db faults with
          | some status => (.ok (.answered (soulCommSendJSONFromStatusItem sha256 status)), db)
          | none => (.error ⟨"comm.internal", "failed to load idempotent response"⟩, db)
        else if TrimSpace existing.RequestHash ≠ TrimSpace item.RequestHash then
          (.error ⟨"comm.idempotency_conflict", "idempotency key already used for a different request"⟩, db)
        else ((respondFromSoulCommSendIdempotency sha256 db faults existing).map .answered, db)

def completeSoulCommSendIdempotencySuccess (item : SoulCommSendIdempotency)
    (delivery : soulCommSendDelivery) : SoulCommSendIdempotency :=
  { item with
    Status := "succeeded"
    ResponseStatus := ToLower (TrimSpace (soulCommSendResultStatus delivery.initialStatus))
    Provider := ToLower (TrimSpace delivery.provider)
    ProviderMessageID := TrimSpace delivery.providerMessageID }

def completeSoulCommSendIdempotencyFailure (item : SoulCommSendIdempotency) (err : AppTheoryError) :
    SoulCommSendIdempotency :=
  { item with
    Status := "failed"
    ResponseStatus := "failed"
    ErrorCode := TrimSpace err.code
    ErrorMessage := TrimSpace err.message }

/-- The row that `recordSoulCommSend` writes. -/
def statusItem (keyInstanceSlug : String) (req : validatedSoulCommSendRequest) (messageID : String)
    (delivery : soulCommSendDelivery) (now : Time) : SoulCommMessageStatus :=
  SoulCommMessageStatus.UpdateKeys
    { MessageID := messageID
      InstanceSlug := TrimSpace keyInstanceSlug
      AgentID := req.agentIDHex
      IdempotencyKey := req.idempotencyKey
      ActedBy := req.actedBy
      ChannelType := req.channel.text
      To := req.To
      Provider := delivery.provider
      ProviderMessageID := delivery.providerMessageID
      Status := soulCommSendResultStatus delivery.initialStatus
      CreatedAt := now }

/-- `handleSoulCommSend` from the reservation on, for a request with a key. -/
def sendWithKey (db : CommRecords) (faults : Faults) (keyInstanceSlug : String)
    (req : validatedSoulCommSendRequest) (messageID : String) (now : Time)
    (dispatch : Except AppTheoryError soulCommSendDelivery) :
    Except AppTheoryError soulCommSendResponse × CommRecords :=
  match claimSoulCommSendIdempotency sha256 requestHash db faults keyInstanceSlug req messageID now with
  | (.error e, db) => (.error e, db)
  | (.ok (.answered response), db) => (.ok response, db)
  | (.ok (.claimed item), db) =>
      match dispatch with
      | .error e =>
          (.error e, if faults.finalize then db
            else { db with idempotency := some (completeSoulCommSendIdempotencyFailure item e) })
      | .ok delivery =>
          let db := if faults.finalize then db
            else { db with idempotency := some (completeSoulCommSendIdempotencySuccess item delivery) }
          if faults.statusWrite then (.error ⟨"comm.internal", "failed to record status"⟩, db)
          else
            let db := { db with status := some (statusItem keyInstanceSlug req messageID delivery now) }
            if faults.activityWrite then (.error ⟨"comm.internal", "failed to record activity"⟩, db)
            else if faults.mailboxWrite then
              (.error ⟨"comm.internal", "failed to record mailbox delivery"⟩, db)
            else (.ok (soulCommSendJSON sha256 messageID (TrimSpace keyInstanceSlug) req delivery now), db)

end Answers

/-! ## What the records keep -/

section Records

variable {sha256 : Sha256} {requestHash : String → validatedSoulCommSendRequest → String}
  {slug messageID : String} {req : validatedSoulCommSendRequest} {now : Time}

/-- The fields of a record that an answer is made of. -/
structure Describes (slug : String) (req : validatedSoulCommSendRequest) (messageID : String) (now : Time)
    (itemMessageID itemSlug itemAgent itemChannel itemTo : String) (itemCreatedAt : Time) : Prop where
  messageID : itemMessageID = TrimSpace messageID
  slug : itemSlug = ToLower (TrimSpace slug)
  agent : itemAgent = ToLower (TrimSpace req.agentIDHex)
  channel : itemChannel = req.channel.text
  recipient : itemTo = TrimSpace req.To
  createdAt : itemCreatedAt = now

/-- A reservation that was made for the request and whose send did not fail. -/
structure ItemOf (requestHash : String → validatedSoulCommSendRequest → String) (slug : String)
    (req : validatedSoulCommSendRequest) (messageID : String) (now : Time) (item : SoulCommSendIdempotency) :
    Prop where
  describes : Describes slug req messageID now item.MessageID item.InstanceSlug item.AgentID item.ChannelType
    item.To item.CreatedAt
  hash : item.RequestHash = TrimSpace (requestHash (ToLower (TrimSpace slug)) req)
  sent : TrimSpace item.Status ≠ "failed"

def StatusOf (slug : String) (req : validatedSoulCommSendRequest) (messageID : String) (now : Time)
    (row : SoulCommMessageStatus) : Prop :=
  Describes slug req messageID now row.MessageID row.InstanceSlug row.AgentID row.ChannelType row.To
    row.CreatedAt

/-- Both records of a send. -/
structure Recorded (requestHash : String → validatedSoulCommSendRequest → String) (slug : String)
    (req : validatedSoulCommSendRequest) (messageID : String) (now : Time) (db : CommRecords) : Prop where
  idempotency : ∃ item, db.idempotency = some item ∧ ItemOf requestHash slug req messageID now item
  status : ∃ row, db.status = some row ∧ StatusOf slug req messageID now row

/-- What an answer says of the delivery. -/
structure SameDelivery (r r' : soulCommSendResponse) : Prop where
  MessageID : r.MessageID = r'.MessageID
  MessageRef : r.MessageRef = r'.MessageRef
  DeliveryID : r.DeliveryID = r'.DeliveryID
  ThreadID : r.ThreadID = r'.ThreadID
  Channel : r.Channel = r'.Channel
  AgentID : r.AgentID = r'.AgentID
  To : r.To = r'.To
  CreatedAt : r.CreatedAt = r'.CreatedAt

theorem threadRoot_TrimSpace (root : String) : threadRoot (TrimSpace root) = threadRoot root := by
  have hcanonical : SoulCommMailboxCanonicalThreadRoot (TrimSpace root) =
      SoulCommMailboxCanonicalThreadRoot root := by
    unfold SoulCommMailboxCanonicalThreadRoot
    rw [TrimSpace_idem]
  rw [threadRoot, threadRoot, hcanonical]

theorem ThreadID_normalised (slug agent channel root : String) :
    SoulCommMailboxThreadID sha256 (ToLower (TrimSpace slug)) (ToLower (TrimSpace agent)) channel
      (TrimSpace root) = SoulCommMailboxThreadID sha256 slug agent channel root := by
  simp only [SoulCommMailboxThreadID, threadPayload, threadRoot_TrimSpace, TrimSpace_ToLower_TrimSpace,
    ToLower_idem]

theorem DeliveryID_normalised (slug agent direction messageID : String) :
    SoulCommMailboxDeliveryID sha256 (ToLower (TrimSpace slug)) (ToLower (TrimSpace agent)) direction
      (TrimSpace messageID) = SoulCommMailboxDeliveryID sha256 slug agent direction messageID := by
  simp only [SoulCommMailboxDeliveryID, TrimSpace_ToLower_TrimSpace, ToLower_idem, TrimSpace_idem]

/-- The thread of a message that replies to none. -/
def ownThread (sha256 : Sha256) (slug : String) (req : validatedSoulCommSendRequest) (messageID : String) :
    String :=
  SoulCommMailboxThreadID sha256 slug req.agentIDHex req.channel.text messageID

/-- What a record answers: the delivery of the request, in the message's own thread. -/
theorem answer_of_record (sha256 : Sha256) {m s a c t : String} {at' : Time}
    (h : Describes slug req messageID now m s a c t at') (status provider providerID actedBy : String)
    (delivery : soulCommSendDelivery) :
    SameDelivery
      { soulCommSendJSON sha256 messageID (TrimSpace slug) req delivery now with
        ThreadID := ownThread sha256 slug req messageID }
      (soulCommSendJSONFields sha256 m s status c a t provider providerID m "" actedBy at') := by
  obtain ⟨rfl, rfl, rfl, rfl, rfl, rfl⟩ := h
  have hdelivery : SoulCommMailboxDeliveryID sha256 (TrimSpace slug) req.agentIDHex SoulCommDirectionOutbound
      messageID = SoulCommMailboxDeliveryID sha256 (ToLower (TrimSpace slug))
        (ToLower (TrimSpace req.agentIDHex)) SoulCommDirectionOutbound (TrimSpace messageID) := by
    rw [DeliveryID_normalised, SoulCommMailboxDeliveryID, SoulCommMailboxDeliveryID, TrimSpace_idem]
  have hthread : ownThread sha256 slug req messageID = SoulCommMailboxThreadID sha256
      (ToLower (TrimSpace slug)) (ToLower (TrimSpace req.agentIDHex)) req.channel.text (TrimSpace messageID) :=
    (ThreadID_normalised _ _ _ _).symm
  have hempty : ¬ TrimSpace "" ≠ "" := by decide
  refine ⟨?_, hdelivery, hdelivery, ?_, rfl, ?_, ?_, rfl⟩
  · exact (TrimSpace_idem _).symm
  · simp only [soulCommSendJSONFields, if_neg hempty, ite_self]
    exact hthread
  · simp only [soulCommSendJSON, soulCommSendJSONFields, TrimSpace_ToLower_TrimSpace, ToLower_idem]
  · exact (TrimSpace_idem _).symm

/-! ## The first answer -/

/-- The request asks for the thread that its records stand for. -/
def KeepsThread (sha256 : Sha256) (slug : String) (req : validatedSoulCommSendRequest) (messageID : String) :
    Prop :=
  (TrimSpace req.threadID = "" ∧ (TrimSpace req.inReplyTo = "" ∨
    ownThread sha256 slug req req.inReplyTo = ownThread sha256 slug req messageID)) ∨
  (TrimSpace req.threadID ≠ "" ∧ TrimSpace req.threadID = ownThread sha256 slug req messageID)

theorem keepsThread_iff (sha256 : Sha256) (slug messageID : String) (req : validatedSoulCommSendRequest)
    (now : Time) (delivery : soulCommSendDelivery) :
    (soulCommSendJSON sha256 messageID (TrimSpace slug) req delivery now).ThreadID =
        ownThread sha256 slug req messageID ↔ KeepsThread sha256 slug req messageID := by
  have hslug : ∀ root : String, SoulCommMailboxThreadID sha256 (TrimSpace slug) req.agentIDHex
      req.channel.text root = ownThread sha256 slug req root := by
    intro root
    simp only [ownThread, SoulCommMailboxThreadID, threadPayload, TrimSpace_idem]
  simp only [soulCommSendJSON, soulCommSendJSONFields, hslug, KeepsThread]
  by_cases hthread : TrimSpace req.threadID = ""
  · by_cases hreply : TrimSpace req.inReplyTo = ""
    · simp [hthread, hreply]
    · simp [hthread, hreply]
  · simp [hthread]

/-- What a first send records, and answers. -/
theorem sendWithKey_first {db db' : CommRecords} {faults : Faults}
    {dispatch : Except AppTheoryError soulCommSendDelivery} {first : soulCommSendResponse}
    (hnone : db.idempotency = none)
    (h : sendWithKey sha256 requestHash db faults slug req messageID now dispatch = (.ok first, db')) :
    (∃ delivery, first = soulCommSendJSON sha256 messageID (TrimSpace slug) req delivery now) ∧
      Recorded requestHash slug req messageID now db' := by
  obtain ⟨hchannel, -⟩ := text_normalised req.channel
  have hitem : ∀ status responseStatus provider providerID : String, TrimSpace status ≠ "failed" →
      ItemOf requestHash slug req messageID now
        { claimItem requestHash (ToLower (TrimSpace slug)) req messageID now with
          Status := status
          ResponseStatus := responseStatus
          Provider := provider
          ProviderMessageID := providerID } := by
    intro status responseStatus provider providerID hstatus
    refine ⟨⟨rfl, ?_, rfl, hchannel, rfl, rfl⟩, rfl, hstatus⟩
    simp only [claimItem, SoulCommSendIdempotency.UpdateKeys, TrimSpace_ToLower_TrimSpace, ToLower_idem]
  have hrow : ∀ delivery, StatusOf slug req messageID now (statusItem slug req messageID delivery now) := by
    intro delivery
    refine ⟨rfl, ?_, rfl, hchannel, rfl, rfl⟩
    simp only [statusItem, SoulCommMessageStatus.UpdateKeys, TrimSpace_idem]
  have hprocessing : TrimSpace (ToLower (TrimSpace "processing")) ≠ "failed" := by decide
  have hsucceeded : TrimSpace "succeeded" ≠ "failed" := by decide
  rw [sendWithKey, claimSoulCommSendIdempotency] at h
  dsimp only at h
  by_cases hslug : ToLower (TrimSpace slug) = ""
  · rw [if_pos hslug] at h
    cases h
  rw [if_neg hslug, hnone] at h
  cases dispatch with
  | error e => cases h
  | ok delivery =>
      dsimp only at h
      split_ifs at h with hfinalize hstatus hactivity hmailbox
      all_goals cases h
      · exact ⟨⟨delivery, rfl⟩, ⟨_, rfl, hitem _ _ _ _ hprocessing⟩, ⟨_, rfl, hrow delivery⟩⟩
      · exact ⟨⟨delivery, rfl⟩, ⟨_, rfl, hitem _ _ _ _ hsucceeded⟩, ⟨_, rfl, hrow delivery⟩⟩

/-! ## Later requests -/

/-- A report of the provider leaves the rest of the row. -/
def SoulCommMessageStatus.reported (row : SoulCommMessageStatus) (status provider providerMessageID : String) :
    SoulCommMessageStatus :=
  { row with
    Status := status
    Provider := provider
    ProviderMessageID := providerMessageID }

/-- What can happen to the records afterwards: the provider reports a status, and requests come with the same
key. -/
inductive Later (sha256 : Sha256) (requestHash : String → validatedSoulCommSendRequest → String)
    (slug : String) : CommRecords → CommRecords → Prop where
  | refl (db : CommRecords) : Later sha256 requestHash slug db db
  | report {db db' : CommRecords} {row : SoulCommMessageStatus} (status provider providerMessageID : String) :
      Later sha256 requestHash slug db db' → db'.status = some row →
      Later sha256 requestHash slug db
        { db' with status := some (row.reported status provider providerMessageID) }
  | request {db db' : CommRecords} (faults : Faults) (req : validatedSoulCommSendRequest)
      (messageID : String) (now : Time) (dispatch : Except AppTheoryError soulCommSendDelivery) :
      Later sha256 requestHash slug db db' →
      Later sha256 requestHash slug db
        (sendWithKey sha256 requestHash db' faults slug req messageID now dispatch).2

/-- A request with a reserved key writes nothing. -/
theorem sendWithKey_frame {db : CommRecords} {item : SoulCommSendIdempotency} (hitem : db.idempotency = some item)
    (faults : Faults) (req : validatedSoulCommSendRequest) (messageID : String) (now : Time)
    (dispatch : Except AppTheoryError soulCommSendDelivery) :
    (sendWithKey sha256 requestHash db faults slug req messageID now dispatch).2 = db := by
  have hclaim : ∀ c db', claimSoulCommSendIdempotency sha256 requestHash db faults slug req messageID now =
      (c, db') → db' = db ∧ ∀ i, c ≠ .ok (.claimed i) := by
    intro c db' h
    rw [claimSoulCommSendIdempotency, hitem] at h
    dsimp only at h
    split_ifs at h
    · cases h
      exact ⟨rfl, fun i hi => by cases hi⟩
    · split at h
      · cases h
        exact ⟨rfl, fun i hi => by cases hi⟩
      · cases h
        exact ⟨rfl, fun i hi => by cases hi⟩
    · cases h
      exact ⟨rfl, fun i hi => by cases hi⟩
    · cases h
      refine ⟨rfl, fun i hi => ?_⟩
      cases hanswer : respondFromSoulCommSendIdempotency sha256 db faults item with
      | error e =>
          rw [hanswer] at hi
          cases hi
      | ok r =>
          rw [hanswer] at hi
          cases hi
  rw [sendWithKey]
  rcases hresult : claimSoulCommSendIdempotency sha256 requestHash db faults slug req messageID now with ⟨c, db'⟩
  obtain ⟨rfl, hnew⟩ := hclaim c db' hresult
  rcases c with e | c
  · rfl
  · cases c with
    | answered r => rfl
    | claimed i => exact absurd rfl (hnew i)

theorem Later.recorded {db db' : CommRecords} (h : Later sha256 requestHash slug db db')
    (hdb : Recorded requestHash slug req messageID now db) :
    Recorded requestHash slug req messageID now db' := by
  induction h with
  | refl => exact hdb
  | report status provider providerMessageID _ hrow ih =>
      obtain ⟨row', hrow', hstatus⟩ := ih.status
      obtain rfl := Option.some.inj (hrow'.symm.trans hrow)
      exact ⟨ih.idempotency, ⟨_, rfl, hstatus⟩⟩
  | request faults req' messageID' now' dispatch _ ih =>
      obtain ⟨item, hitem, -⟩ := ih.idempotency
      rw [sendWithKey_frame hitem]
      exact ih

/-- A replay is answered with the delivery of the first request, in the message's own thread. -/
theorem replay_answer {db : CommRecords} (hdb : Recorded requestHash slug req messageID now db)
    {faults : Faults} {messageID' : String} {now' : Time}
    {dispatch : Except AppTheoryError soulCommSendDelivery} {r : soulCommSendResponse}
    (h : (sendWithKey sha256 requestHash db faults slug req messageID' now' dispatch).1 = .ok r)
    (delivery : soulCommSendDelivery) :
    SameDelivery
      { soulCommSendJSON sha256 messageID (TrimSpace slug) req delivery now with
        ThreadID := ownThread sha256 slug req messageID } r := by
  obtain ⟨item, hitem, hitemOf⟩ := hdb.idempotency
  obtain ⟨row, hrow, hrowOf⟩ := hdb.status
  have hfromRow := answer_of_record sha256 hrowOf row.Status row.Provider row.ProviderMessageID row.ActedBy
    delivery
  rw [sendWithKey, claimSoulCommSendIdempotency, hitem] at h
  dsimp only at h
  by_cases hslug : ToLower (TrimSpace slug) = ""
  · rw [if_pos hslug] at h
    cases h
  rw [if_neg hslug] at h
  by_cases hread : faults.idempotencyRead = true
  · rw [if_pos hread, lookupSoulCommStatusByIdempotencyKey, hrow] at h
    by_cases hstatus : faults.statusRead = true
    · rw [if_pos hstatus] at h
      cases h
    · rw [if_neg hstatus] at h
      cases h
      exact hfromRow
  · have hhash : ¬ TrimSpace item.RequestHash ≠
        TrimSpace (claimItem requestHash (ToLower (TrimSpace slug)) req messageID' now').RequestHash := by
      rw [hitemOf.hash, claimItem, SoulCommSendIdempotency.UpdateKeys, not_not]
    rw [if_neg hread, if_neg hhash, respondFromSoulCommSendIdempotency, lookupSoulCommStatusByIdempotencyKey,
      hrow] at h
    by_cases hstatus : faults.statusRead = true
    · rw [if_pos hstatus] at h
      dsimp only at h
      rw [if_neg hitemOf.sent] at h
      cases h
      exact answer_of_record sha256 hitemOf.describes _ _ _ _ delivery
    · rw [if_neg hstatus] at h
      cases h
      exact hfromRow

/-- Without faults a replay is answered. -/
theorem replay_answered (sha256 : Sha256) {db : CommRecords} (hdb : Recorded requestHash slug req messageID now db)
    (hslug : ToLower (TrimSpace slug) ≠ "") (messageID' : String) (now' : Time)
    (dispatch : Except AppTheoryError soulCommSendDelivery) :
    ∃ r, (sendWithKey sha256 requestHash db noFaults slug req messageID' now' dispatch).1 = .ok r := by
  obtain ⟨item, hitem, hitemOf⟩ := hdb.idempotency
  obtain ⟨row, hrow, -⟩ := hdb.status
  have hhash : ¬ TrimSpace item.RequestHash ≠
      TrimSpace (claimItem requestHash (ToLower (TrimSpace slug)) req messageID' now').RequestHash := by
    rw [hitemOf.hash, claimItem, SoulCommSendIdempotency.UpdateKeys, not_not]
  refine ⟨soulCommSendJSONFromStatusItem sha256 row, ?_⟩
  rw [sendWithKey, claimSoulCommSendIdempotency, hitem]
  dsimp only
  rw [if_neg hslug, if_neg (show ¬ noFaults.idempotencyRead = true by decide), if_neg hhash,
    respondFromSoulCommSendIdempotency, lookupSoulCommStatusByIdempotencyKey,
    if_neg (show ¬ noFaults.statusRead = true by decide), hrow]
  rfl

end Records

section Replays

variable {sha256 : Sha256} {requestHash : String → validatedSoulCommSendRequest → String}
  {slug messageID : String} {req : validatedSoulCommSendRequest} {now : Time} {db db' : CommRecords}
  {faults : Faults} {dispatch : Except AppTheoryError soulCommSendDelivery} {first : soulCommSendResponse}

/-- **Replays.** After a send that was answered, every later replay of the request describes the same delivery
exactly where the request asks for the thread that the message has by itself. -/
theorem replays_describe_same (hnone : db.idempotency = none)
    (hfirst : sendWithKey sha256 requestHash db faults slug req messageID now dispatch = (.ok first, db')) :
    (∀ (later : CommRecords) (faults' : Faults) (messageID' : String) (now' : Time)
      (dispatch' : Except AppTheoryError soulCommSendDelivery) (r : soulCommSendResponse),
      Later sha256 requestHash slug db' later →
      (sendWithKey sha256 requestHash later faults' slug req messageID' now' dispatch').1 = .ok r →
      SameDelivery first r) ↔ KeepsThread sha256 slug req messageID := by
  obtain ⟨⟨delivery, rfl⟩, hrecorded⟩ := sendWithKey_first hnone hfirst
  constructor
  · intro hall
    have hslug : ToLower (TrimSpace slug) ≠ "" := by
      intro hempty
      rw [sendWithKey, claimSoulCommSendIdempotency] at hfirst
      dsimp only at hfirst
      rw [if_pos hempty] at hfirst
      cases hfirst
    obtain ⟨r, hr⟩ := replay_answered sha256 hrecorded hslug messageID now dispatch
    have hown := (replay_answer hrecorded hr delivery).ThreadID
    exact (keepsThread_iff sha256 slug messageID req now delivery).1 ((hall db' _ _ _ _ r (.refl db') hr).ThreadID.trans hown.symm)
  · intro hkeeps later faults' messageID' now' dispatch' r hlater hr
    have hsame := replay_answer (hlater.recorded hrecorded) hr delivery
    have hthread := (keepsThread_iff sha256 slug messageID req now delivery).2 hkeeps
    exact ⟨hsame.MessageID, hsame.MessageRef, hsame.DeliveryID, hthread.trans hsame.ThreadID, hsame.Channel,
      hsame.AgentID, hsame.To, hsame.CreatedAt⟩

end Replays

/-! ## A request that asks for a thread -/

theorem threadedRequest_agent : ToLower (TrimSpace "0x01") ≠ "" := by decide

/-- A message in the thread `threadID`. -/
def threadedRequest (threadID : String) : validatedSoulCommSendRequest :=
  ⟨.email, "0x01", "b@example.com", [], [], "", "s", "b", "", "", threadID, "k", "", threadedRequest_agent⟩

def sentDelivery : soulCommSendDelivery := ⟨"migadu", "", "sent"⟩

theorem threadedRequest_first (sha256 : Sha256) (threadID : String) :
    (sendWithKey sha256 (fun _ _ => "h") ⟨none, none⟩ noFaults "inst" (threadedRequest threadID)
      "comm-msg-1" ⟨1, .utc⟩ (.ok sentDelivery)).1 = .ok (soulCommSendJSON sha256 "comm-msg-1"
        (TrimSpace "inst") (threadedRequest threadID) sentDelivery ⟨1, .utc⟩) := by
  have hslug : ¬ ToLower (TrimSpace "inst") = "" := by decide
  rw [sendWithKey, claimSoulCommSendIdempotency]
  dsimp only
  rw [if_neg hslug]
  rfl

/-- What the first send leaves. -/
def threadedRecords (sha256 : Sha256) (threadID : String) : CommRecords :=
  (sendWithKey sha256 (fun _ _ => "h") ⟨none, none⟩ noFaults "inst" (threadedRequest threadID)
    "comm-msg-1" ⟨1, .utc⟩ (.ok sentDelivery)).2

/-- SHA-256 stands for any function: this one reads nothing. -/
def zeroHash : Sha256 := fun _ => Vector.replicate 32 0

theorem replays_describe_same_plain :
    ∃ r, (sendWithKey zeroHash (fun _ _ => "h") (threadedRecords zeroHash "") noFaults "inst"
        (threadedRequest "") "comm-msg-2" ⟨2, .utc⟩ (.ok sentDelivery)).1 = .ok r ∧
      SameDelivery (soulCommSendJSON zeroHash "comm-msg-1" (TrimSpace "inst") (threadedRequest "") sentDelivery
        ⟨1, .utc⟩) r := by
  have hblank : TrimSpace "" = "" := by decide
  have hslug : ToLower (TrimSpace "inst") ≠ "" := by decide
  have hfirst := Prod.ext (threadedRequest_first zeroHash "") (Eq.refl (threadedRecords zeroHash ""))
  obtain ⟨r, hr⟩ := replay_answered zeroHash (sendWithKey_first rfl hfirst).2 hslug "comm-msg-2"
    ⟨2, .utc⟩ (.ok sentDelivery)
  exact ⟨r, hr, (replays_describe_same rfl hfirst).2 (.inl ⟨hblank, .inl hblank⟩) _ _ _ _ _ r (.refl _) hr⟩

/-- A request for a thread of its own is replayed in another thread. -/
theorem not_replays_describe_same :
    ¬ ∀ (sha256 : Sha256) (requestHash : String → validatedSoulCommSendRequest → String)
      (slug messageID : String) (req : validatedSoulCommSendRequest) (now : Time) (db db' : CommRecords)
      (faults : Faults) (dispatch : Except AppTheoryError soulCommSendDelivery) (first : soulCommSendResponse),
      db.idempotency = none →
      sendWithKey sha256 requestHash db faults slug req messageID now dispatch = (.ok first, db') →
      ∀ (later : CommRecords) (faults' : Faults) (messageID' : String) (now' : Time)
        (dispatch' : Except AppTheoryError soulCommSendDelivery) (r : soulCommSendResponse),
        Later sha256 requestHash slug db' later →
        (sendWithKey sha256 requestHash later faults' slug req messageID' now' dispatch').1 = .ok r →
        SameDelivery first r := by
  intro h
  have hfirst := Prod.ext (threadedRequest_first zeroHash "t") (Eq.refl (threadedRecords zeroHash "t"))
  have hkeeps := (replays_describe_same rfl hfirst).1 (h _ _ _ _ _ _ _ _ _ _ _ rfl hfirst)
  have hthread : TrimSpace (threadedRequest "t").threadID = "t" := by decide
  rcases hkeeps with ⟨hblank, -⟩ | ⟨-, hown⟩
  · exact absurd (hthread.symm.trans hblank) (by decide)
  · have htext := congrArg (fun s => s.toList.head?) (hthread.symm.trans hown)
    simp only [ownThread, SoulCommMailboxThreadID, String.toList_append] at htext
    exact absurd htext (by decide)

end LesserHost.SoulComm
