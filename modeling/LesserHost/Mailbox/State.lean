import LesserHost.Lib.Interleave
import LesserHost.Mailbox.Message

set_option autoImplicit false

/-! # Mailbox state actions

`handlers_soul_comm_mailbox.go`: read, unread, archive, unarchive and delete. An action reads the row of
its message through the delivery index, changes its copy, and writes the three flags of the copy
together with an event, under the condition that the row exists.

Any number of actions run over one table. The index is brought up to date after a write, so a read
may see an earlier image of the row. Any operation may fail, and a write may have taken effect when it
does. The request context (the instance key and the agent it may act for) is given. -/

namespace LesserHost.Mailbox

open LesserHost.Go

/-! ## The table -/

inductive StoreError where
  | notFound
  | conditionFailed
  | other
  deriving DecidableEq

/-- `index` has the images of the rows of a key of the delivery index, the newest first. -/
structure Table where
  messages : String × String → Option SoulCommMailboxMessage
  index : String × String → List SoulCommMailboxMessage
  events : List SoulCommMailboxEvent
  now : Time

inductive Op where
  | now
  | firstByDelivery (gsi1PK gsi1SK : String)
  /-- update the flags and the time of an existing row, and create the event -/
  | writeState (item : SoulCommMailboxMessage) (evt : SoulCommMailboxEvent)

abbrev Op.Res : Op → Type
  | .now => Time
  | .firstByDelivery _ _ => Except StoreError SoulCommMailboxMessage
  | .writeState _ _ => Except StoreError Unit

inductive Fault where
  | none
  /-- the operation was not carried out -/
  | lost
  /-- the operation was carried out and its answer was lost -/
  | unacknowledged
  deriving DecidableEq

/-- What the world decides at one operation: a fault, how many images the index lags behind, and the
    nanoseconds since the last reading of the clock. -/
structure Choice where
  fault : Fault
  lag : Nat
  elapsed : Nat

def SoulCommMailboxMessage.key (m : SoulCommMailboxMessage) : String × String := (m.PK, m.SK)

/-- `tx.Update(item, []string{"Read", "Archived", "Deleted", "UpdatedAt"})`. -/
def SoulCommMailboxMessage.withState (row item : SoulCommMailboxMessage) : SoulCommMailboxMessage :=
  { row with
    Read := item.Read
    Archived := item.Archived
    Deleted := item.Deleted
    UpdatedAt := item.UpdatedAt }

/-- The row the transaction writes, if its conditions hold. -/
def Table.stateRow (t : Table) (item : SoulCommMailboxMessage) (evt : SoulCommMailboxEvent) :
    Option SoulCommMailboxMessage :=
  if t.events.any fun e => e.PK == evt.PK && e.SK == evt.SK then none
  else (t.messages item.key).map fun row => row.withState item

def Table.writeState (t : Table) (item : SoulCommMailboxMessage) (evt : SoulCommMailboxEvent) :
    Except StoreError Unit × Table :=
  match t.stateRow item evt with
  | none => (.error .conditionFailed, t)
  | some row =>
      (.ok (), { t with
        messages := Function.update t.messages item.key (some row)
        index := Function.update t.index (row.GSI1PK, row.GSI1SK)
          (row :: t.index (row.GSI1PK, row.GSI1SK))
        events := t.events ++ [evt] })

/-- The answer under a fault. -/
def Choice.attempt {α : Type} (c : Choice) (t : Table) (r : Except StoreError α × Table) :
    Except StoreError α × Table :=
  match c.fault with
  | .none => r
  | .lost => (.error .other, t)
  | .unacknowledged => (.error .other, r.2)

def Table.handle : (o : Op) → Choice → Table → o.Res × Table
  | .now, c, t => (t.now.Add c.elapsed, { t with now := t.now.Add c.elapsed })
  | .firstByDelivery pk sk, c, t => c.attempt t (((t.index (pk, sk))[c.lag]?).elim
      (.error .notFound) .ok, t)
  | .writeState item evt, c, t => c.attempt t (t.writeState item evt)

def tableEnv : Prog.Env Op Op.Res Table Choice := ⟨Table.handle⟩

/-! ## Handlers -/

structure AppTheoryError where
  code : String
  message : String
  StatusCode : Nat
  deriving DecidableEq

def StatusBadRequest : Nat := 400
def StatusNotFound : Nat := 404
def StatusConflict : Nat := 409
def StatusInternalServerError : Nat := 500

def commCodeInvalidRequest : String := "comm.invalid_request"
def commCodeInternal : String := "comm.internal"

def internalError : AppTheoryError := ⟨commCodeInternal, "internal error", StatusInternalServerError⟩
def messageNotFound : AppTheoryError := ⟨"comm.not_found", "message not found", StatusNotFound⟩

abbrev Handler (α : Type) := Prog Op Op.Res AppTheoryError α

def now : Handler Time := Prog.perform Op.now

def firstByDelivery (gsi1PK gsi1SK : String) : Handler (Except StoreError SoulCommMailboxMessage) :=
  Prog.perform (Op.firstByDelivery gsi1PK gsi1SK)

def writeState (item : SoulCommMailboxMessage) (evt : SoulCommMailboxEvent) :
    Handler (Except StoreError Unit) := Prog.perform (Op.writeState item evt)

/-- An error the caller looks at. -/
abbrev Result := Except AppTheoryError SoulCommMailboxMessage

structure mailboxRequestContext where
  InstanceSlug : String
  agentID : String

section Load

variable (sha256 : Sha256) (instanceSlug agentID : String)

def loadMailboxMessageByDeliveryID (deliveryID : String) : Handler Result := do
  let deliveryID := TrimSpace deliveryID
  if deliveryID = "" then
    return .error ⟨commCodeInvalidRequest, "deliveryId is required", StatusBadRequest⟩
  else match ← firstByDelivery (SoulCommMailboxDeliveryPK deliveryID) SKCurrent with
  | .error .notFound => return .error messageNotFound
  | .error _ => return .error internalError
  | .ok item =>
      if EqualFold (TrimSpace item.InstanceSlug) (TrimSpace instanceSlug) = false ∨
          EqualFold (TrimSpace item.AgentID) (TrimSpace agentID) = false then
        return .error messageNotFound
      else return .ok item

/-- The loop over the candidates: the message matched so far. -/
def matchCandidates (messageRef : String) (matched : Option SoulCommMailboxMessage) :
    List String → Handler Result
  | [] => return matched.elim (.error messageNotFound) .ok
  | deliveryID :: rest => do
      if deliveryID = messageRef then matchCandidates messageRef matched rest
      else match ← loadMailboxMessageByDeliveryID instanceSlug agentID deliveryID with
      | .error appErr =>
          if appErr.StatusCode = StatusNotFound then matchCandidates messageRef matched rest
          else return .error appErr
      | .ok item =>
          if TrimSpace item.MessageID ≠ messageRef then matchCandidates messageRef matched rest
          else if matched.any fun m =>
              !EqualFold (TrimSpace m.DeliveryID) (TrimSpace item.DeliveryID) then
            return .error ⟨"comm.ambiguous_message_ref",
              "messageRef is ambiguous; use deliveryId", StatusConflict⟩
          else matchCandidates messageRef (some item) rest

def loadMailboxMessageByRef (messageRef : String) : Handler Result := do
  let messageRef := TrimSpace messageRef
  if messageRef = "" then
    return .error ⟨commCodeInvalidRequest, "messageRef is required", StatusBadRequest⟩
  else match ← loadMailboxMessageByDeliveryID instanceSlug agentID messageRef with
  | .ok item => return .ok item
  | .error appErr =>
      if appErr.StatusCode ≠ StatusNotFound then return .error appErr
      else if HasPrefix messageRef "comm-delivery-" then return .error appErr
      else
        let deliveryIDs := [SoulCommDirectionInbound, SoulCommDirectionOutbound].map fun direction =>
          SoulCommMailboxDeliveryID sha256 instanceSlug agentID direction messageRef
        matchCandidates instanceSlug agentID messageRef none deliveryIDs

end Load

/-- `apply` also tells whether it changes the message. -/
structure mailboxStateAction where
  name : String
  eventDetail : String
  apply : SoulCommMailboxMessage → SoulCommMailboxMessage × Bool

/-- The endpoints of the state actions. -/
inductive StateEndpoint where
  | MarkRead
  | MarkUnread
  | Archive
  | Unarchive
  | Delete
  deriving DecidableEq

def StateEndpoint.action : StateEndpoint → mailboxStateAction
  | .MarkRead =>
      { name := "read"
        eventDetail := "\x7b\"state\":\"read\"\x7d"
        apply := fun msg => ({ msg with Read := true }, !msg.Read) }
  | .MarkUnread =>
      { name := "unread"
        eventDetail := "\x7b\"state\":\"unread\"\x7d"
        apply := fun msg => ({ msg with Read := false }, msg.Read) }
  | .Archive =>
      { name := "archive"
        eventDetail := "\x7b\"state\":\"archived\"\x7d"
        apply := fun msg => ({ msg with Archived := true }, !msg.Archived) }
  | .Unarchive =>
      { name := "unarchive"
        eventDetail := "\x7b\"state\":\"unarchived\"\x7d"
        apply := fun msg => ({ msg with Archived := false }, msg.Archived) }
  | .Delete =>
      { name := "delete"
        eventDetail := "\x7b\"state\":\"deleted\"\x7d"
        apply := fun msg =>
          ({ msg with Deleted := true, Archived := true }, !msg.Deleted || !msg.Archived) }

def mailboxStateEvent (item : SoulCommMailboxMessage) (action : mailboxStateAction)
    (instanceSlug : String) (now : Time) : SoulCommMailboxEvent where
  DeliveryID := TrimSpace item.DeliveryID
  MessageID := TrimSpace item.MessageID
  ThreadID := TrimSpace item.ThreadID
  InstanceSlug := ToLower (TrimSpace item.InstanceSlug)
  AgentID := ToLower (TrimSpace item.AgentID)
  Direction := TrimSpace item.Direction
  ChannelType := TrimSpace item.ChannelType
  EventType := SoulCommMailboxEventStateChanged
  Status := TrimSpace item.Status
  Actor := "instance:" ++ ToLower (TrimSpace instanceSlug)
  DetailsJSON := TrimSpace action.eventDetail
  CreatedAt := now

def persistMailboxStateChange (sha256 : Sha256) (item : SoulCommMailboxMessage)
    (evt : SoulCommMailboxEvent) : Handler (Except Unit Unit) := do
  match evt.BeforeCreate sha256 with
  | .error _ => return .error ()
  | .ok evt =>
  match ← writeState item evt with
  | .error _ => return .error ()
  | .ok () => return .ok ()

/-- The clock is read once for the event and once more by `BeforeUpdate`. The response prints the
    item. -/
def handleSoulCommMailboxState (sha256 : Sha256) (reqCtx : mailboxRequestContext) (messageRef : String)
    (action : mailboxStateAction) : Handler SoulCommMailboxMessage := do
  match ← loadMailboxMessageByRef sha256 reqCtx.InstanceSlug reqCtx.agentID messageRef with
  | .error appErr => .fail appErr
  | .ok item =>
  match action.apply item with
  | (item, false) => return item
  | (item, true) => do
      let now ← now
      let updatedAt ← Mailbox.now
      match { item with UpdatedAt := now.UTC }.BeforeUpdate updatedAt with
      | .error _ => .fail internalError
      | .ok item =>
      match ← persistMailboxStateChange sha256 item
        (mailboxStateEvent item action reqCtx.InstanceSlug now.UTC) with
      | .error _ => .fail internalError
      | .ok () => return item

end LesserHost.Mailbox
