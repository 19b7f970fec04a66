import LesserHost.Go.Text

set_option autoImplicit false

/-! # Mailbox messages

`internal/store/models/soul_comm_mailbox.go`: the current row of a delivery and the immutable events
beside it, their keys and the checks before they are written. SHA-256 is a parameter, and so is the
clock: a function that reads it takes the time it reads. -/

namespace LesserHost.Mailbox

open LesserHost.Go

def SKCurrent : String := "CURRENT"

def SoulCommMailboxRetentionDays : Int := 90

def SoulCommDirectionInbound : String := "inbound"
def SoulCommDirectionOutbound : String := "outbound"

def SoulCommMailboxEventStateChanged : String := "state_changed"

def soulCommMailboxStatuses : List String :=
  ["accepted", "sent", "delivered", "queued", "failed", "bounced", "dropped"]

/-! ## Checks -/

/-- The text of the error, unless the value says something. -/
def requireNonEmpty (field value : String) : Except String Unit :=
  if TrimSpace value = "" then .error (field ++ " is required") else .ok ()

def requireOneOf (field value : String) (allowed : List String) : Except String Unit :=
  if TrimSpace value ∈ allowed.map TrimSpace then .ok () else .error (field ++ " is invalid")

def validateSoulCommMailboxStatus (status : String) : Except String Unit :=
  requireOneOf "status" (ToLower (TrimSpace status)) soulCommMailboxStatuses

/-! ## Keys -/

/-- `t.UTC().Format("2006-01-02T15:04:05.000000000Z")`: nine digits of a second, so that the texts are
    ordered as the times are. -/
def formatSortTime (t : Time) : String :=
  String.ofList (t.FormatRFC3339.toList.dropLast) ++ "."
    ++ padDecimal 9 (t.nanos % Second).toNat ++ "Z"

/-- `t.Unix()`. -/
def unixSeconds (t : Time) : Int := t.nanos / Second - 62135596800

def shortHash (sha256 : Sha256) (value : String) (length : Nat) : String :=
  let hexValue := hexEncode (sha256 (bytes value)).toList
  if length = 0 ∨ hexValue.length < length then String.ofList hexValue
  else String.ofList (hexValue.take length)

def SoulCommMailboxAgentPK (instanceSlug agentID : String) : String :=
  "COMM#MAILBOX#INSTANCE#" ++ ToLower (TrimSpace instanceSlug) ++ "#AGENT#"
    ++ ToLower (TrimSpace agentID)

def SoulCommMailboxDeliveryPK (deliveryID : String) : String :=
  "COMM#MAILBOX#DELIVERY#" ++ TrimSpace deliveryID

def SoulCommMailboxThreadPK (instanceSlug agentID threadID : String) : String :=
  SoulCommMailboxAgentPK instanceSlug agentID ++ "#THREAD#" ++ TrimSpace threadID

def SoulCommMailboxDeliveryID (sha256 : Sha256) (instanceSlug agentID direction messageID : String) :
    String :=
  "comm-delivery-" ++ shortHash sha256 ("|".intercalate [ToLower (TrimSpace instanceSlug),
    ToLower (TrimSpace agentID), ToLower (TrimSpace direction), TrimSpace messageID]) 24

def SoulCommMailboxEventID (sha256 : Sha256) (eventType deliveryID status : String)
    (createdAt : Time) : String :=
  "comm-mailbox-event-" ++ shortHash sha256 ("|".intercalate [ToLower (TrimSpace eventType),
    TrimSpace deliveryID, ToLower (TrimSpace status), createdAt.FormatRFC3339Nano]) 20

def SoulCommMailboxPreview (body : String) : String :=
  if TrimSpace body = "" then "" else "[content available]"

/-! ## Rows -/

structure SoulCommMailboxMessage where
  PK : String := ""
  SK : String := ""
  TTL : Int := 0
  GSI1PK : String := ""
  GSI1SK : String := ""
  GSI2PK : String := ""
  GSI2SK : String := ""
  DeliveryID : String
  MessageID : String
  ThreadID : String
  InstanceSlug : String
  AgentID : String
  Direction : String
  ChannelType : String
  Provider : String := ""
  ProviderMessageID : String := ""
  Status : String
  FromAddress : String := ""
  FromNumber : String := ""
  FromSoulAgentID : String := ""
  FromDisplayName : String := ""
  ToAddress : String := ""
  ToNumber : String := ""
  ToSoulAgentID : String := ""
  ToDisplayName : String := ""
  Subject : String := ""
  Preview : String := ""
  ContentStorage : String := ""
  ContentBucket : String := ""
  ContentKey : String := ""
  ContentSHA256 : String := ""
  ContentMimeType : String := ""
  Read : Bool := false
  Archived : Bool := false
  Deleted : Bool := false
  CreatedAt : Time
  UpdatedAt : Time
  deriving DecidableEq

def SoulCommMailboxMessage.UpdateKeys (m : SoulCommMailboxMessage) : SoulCommMailboxMessage :=
  let deliveryID := TrimSpace m.DeliveryID
  let threadID := TrimSpace m.ThreadID
  let instanceSlug := ToLower (TrimSpace m.InstanceSlug)
  let agentID := ToLower (TrimSpace m.AgentID)
  let sortKey := "MSG#" ++ formatSortTime m.CreatedAt ++ "#" ++ deliveryID
  { m with
    DeliveryID := deliveryID
    MessageID := TrimSpace m.MessageID
    ThreadID := threadID
    InstanceSlug := instanceSlug
    AgentID := agentID
    Direction := ToLower (TrimSpace m.Direction)
    ChannelType := ToLower (TrimSpace m.ChannelType)
    Provider := ToLower (TrimSpace m.Provider)
    ProviderMessageID := TrimSpace m.ProviderMessageID
    Status := ToLower (TrimSpace m.Status)
    FromAddress := TrimSpace m.FromAddress
    FromNumber := TrimSpace m.FromNumber
    FromSoulAgentID := ToLower (TrimSpace m.FromSoulAgentID)
    FromDisplayName := TrimSpace m.FromDisplayName
    ToAddress := TrimSpace m.ToAddress
    ToNumber := TrimSpace m.ToNumber
    ToSoulAgentID := ToLower (TrimSpace m.ToSoulAgentID)
    ToDisplayName := TrimSpace m.ToDisplayName
    Subject := TrimSpace m.Subject
    Preview := SoulCommMailboxPreview m.Preview
    ContentStorage := ToLower (TrimSpace m.ContentStorage)
    ContentBucket := TrimSpace m.ContentBucket
    ContentKey := TrimSpace m.ContentKey
    ContentSHA256 := ToLower (TrimSpace m.ContentSHA256)
    ContentMimeType := TrimSpace m.ContentMimeType
    PK := SoulCommMailboxAgentPK instanceSlug agentID
    SK := sortKey
    GSI1PK := SoulCommMailboxDeliveryPK deliveryID
    GSI1SK := SKCurrent
    GSI2PK := SoulCommMailboxThreadPK instanceSlug agentID threadID
    GSI2SK := sortKey
    TTL := unixSeconds (m.CreatedAt.Add (SoulCommMailboxRetentionDays * 24 * Hour)) }

/-- The keys of a row that has them are kept. -/
def SoulCommMailboxMessage.BeforeUpdate (m : SoulCommMailboxMessage) (now : Time) :
    Except String SoulCommMailboxMessage := do
  let updated := { m with UpdatedAt := now.UTC }.UpdateKeys
  let updated :=
    if TrimSpace m.PK ≠ "" ∧ TrimSpace m.SK ≠ "" then
      { updated with
        PK := TrimSpace m.PK
        SK := TrimSpace m.SK
        GSI1PK := TrimSpace m.GSI1PK
        GSI1SK := TrimSpace m.GSI1SK
        GSI2PK := TrimSpace m.GSI2PK
        GSI2SK := TrimSpace m.GSI2SK
        TTL := m.TTL }
    else updated
  requireNonEmpty "deliveryId" updated.DeliveryID
  validateSoulCommMailboxStatus updated.Status
  return updated

structure SoulCommMailboxEvent where
  PK : String := ""
  SK : String := ""
  TTL : Int := 0
  GSI1PK : String := ""
  GSI1SK : String := ""
  GSI2PK : String := ""
  GSI2SK : String := ""
  EventID : String := ""
  DeliveryID : String
  MessageID : String
  ThreadID : String
  InstanceSlug : String
  AgentID : String
  Direction : String
  ChannelType : String
  EventType : String
  Status : String
  Actor : String
  DetailsJSON : String
  CreatedAt : Time
  deriving DecidableEq

def SoulCommMailboxEvent.UpdateKeys (e : SoulCommMailboxEvent) : SoulCommMailboxEvent :=
  let eventID := TrimSpace e.EventID
  let deliveryID := TrimSpace e.DeliveryID
  let threadID := TrimSpace e.ThreadID
  let instanceSlug := ToLower (TrimSpace e.InstanceSlug)
  let agentID := ToLower (TrimSpace e.AgentID)
  let sortKey := "EVENT#" ++ formatSortTime e.CreatedAt ++ "#" ++ eventID
  { e with
    EventID := eventID
    DeliveryID := deliveryID
    MessageID := TrimSpace e.MessageID
    ThreadID := threadID
    InstanceSlug := instanceSlug
    AgentID := agentID
    Direction := ToLower (TrimSpace e.Direction)
    ChannelType := ToLower (TrimSpace e.ChannelType)
    EventType := ToLower (TrimSpace e.EventType)
    Status := ToLower (TrimSpace e.Status)
    Actor := TrimSpace e.Actor
    DetailsJSON := TrimSpace e.DetailsJSON
    PK := SoulCommMailboxDeliveryPK deliveryID
    SK := sortKey
    GSI1PK := SoulCommMailboxAgentPK instanceSlug agentID
    GSI1SK := sortKey
    GSI2PK := if threadID ≠ "" then SoulCommMailboxThreadPK instanceSlug agentID threadID else ""
    GSI2SK := if threadID ≠ "" then sortKey else ""
    TTL := unixSeconds (e.CreatedAt.Add (SoulCommMailboxRetentionDays * 24 * Hour)) }

/-- The event of a state change carries the time of the change, so the clock is not read for it. -/
def SoulCommMailboxEvent.BeforeCreate (sha256 : Sha256) (e : SoulCommMailboxEvent) :
    Except String SoulCommMailboxEvent := do
  let eventID := if TrimSpace e.EventID = "" then
      SoulCommMailboxEventID sha256 e.EventType e.DeliveryID e.Status e.CreatedAt
    else e.EventID
  let e := { e with EventID := eventID }.UpdateKeys
  requireNonEmpty "eventId" e.EventID
  requireNonEmpty "deliveryId" e.DeliveryID
  requireNonEmpty "instanceSlug" e.InstanceSlug
  requireNonEmpty "agentId" e.AgentID
  requireNonEmpty "eventType" e.EventType
  if TrimSpace e.Status ≠ "" then validateSoulCommMailboxStatus e.Status
  return e

end LesserHost.Mailbox
