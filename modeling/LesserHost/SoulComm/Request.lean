import LesserHost.ControlPlane.Store
import LesserHost.Go.Text

set_option autoImplicit false

/-! # Send requests

A request of `handlers_soul_comm_send.go` as the parser leaves it. -/

namespace LesserHost.SoulComm

open LesserHost.Go
open LesserHost.ControlPlane (AppTheoryError)

inductive CommChannel where
  | email
  | sms
  | voice
  deriving DecidableEq

def CommChannel.text : CommChannel → String
  | .email => "email"
  | .sms => "sms"
  | .voice => "voice"

def SoulCommDirectionOutbound : String := "outbound"

/-- The agent's identifier is never blank, and neither is the receiver: the parser refuses them. -/
structure validatedSoulCommSendRequest where
  channel : CommChannel
  agentIDHex : String
  To : String
  cc : List String
  bcc : List String
  replyTo : String
  subject : String
  body : String
  inReplyTo : String
  providerReplyTo : String
  threadID : String
  idempotencyKey : String
  actedBy : String
  agent : ToLower (TrimSpace agentIDHex) ≠ ""

def internalError : AppTheoryError := ⟨"comm.internal", "internal error"⟩

theorem text_normalised (c : CommChannel) : ToLower (TrimSpace c.text) = c.text ∧ c.text ≠ "" := by
  cases c <;> decide +kernel

end LesserHost.SoulComm
