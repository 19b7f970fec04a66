import LesserHost.Go.Text
import LesserHost.SoulComm.Replay

set_option autoImplicit false

/-! # Email ingress and the queue it fills

`internal/emailingress/server.go` makes queue messages of a mail that SES stored, and `internal/commworker`
validates each. The readers of the mail packages are a parameter: a message is what they find in it, a tree
of entities. Ingress delivers a mail exactly when its sender reads as an address again, it has a subject,
its ids pass the rules of the worker and every recipient at the inbound domain reads as an address
(`ingress_delivers_iff`). A mail without a subject is refused (`not_ingress_delivers`). -/

namespace LesserHost.EmailIngress

open LesserHost.Go
open LesserHost.SoulComm (Cut)

/-! ## What the mail packages read -/

/-- `mail.Address` -/
structure MailAddress where
  Name : String
  Address : String

/-- An entity of a message as its readers find it: `payload` is what is read of the decoded body, if that
succeeds; `parts` are the parts the multipart reader yields, and `ends` says that they end without an
error. -/
inductive Entity where
  | mk (header : String → String) (payload : Option String) (parts : List Entity) (ends : Bool)

def Entity.header : Entity → String → String
  | .mk header _ _ _ => header

structure MailLibrary where
  ReadMessage : List UInt8 → Option Entity
  ParseAddress : String → Option MailAddress
  DecodeHeader : String → Option String
  ParseMediaType : String → Option (String × (String → String))

/-! ## The body -/

def bodyMimeTypePlainText : String := "text/plain"
def bodyMimeTypeHTML : String := "text/html"

def normalizeBodyMimeType (mediaType : String) : String :=
  if ToLower (TrimSpace mediaType) = bodyMimeTypeHTML then bodyMimeTypeHTML else bodyMimeTypePlainText

/-- The media type of an entity and the boundary of its parts. -/
def mediaTypeOf (lib : MailLibrary) (header : String → String) : String × String :=
  let contentType :=
    if TrimSpace (header "Content-Type") = "" then bodyMimeTypePlainText ++ "; charset=utf-8"
    else TrimSpace (header "Content-Type")
  match lib.ParseMediaType contentType with
  | none => (bodyMimeTypePlainText, "")
  | some (mediaType, params) => (mediaType, TrimSpace (params "boundary"))

def isMultipart (lib : MailLibrary) (header : String → String) : Bool :=
  HasPrefix (ToLower (mediaTypeOf lib header).1) "multipart/"

mutual

def extractEmailBody (lib : MailLibrary) : Entity → Except String (String × String)
  | .mk header payload parts ends =>
      if isMultipart lib header = true then
        if (mediaTypeOf lib header).2 = "" then .error "multipart email missing boundary"
        else extractMultipartEmailBody lib parts ends ""
      else match payload with
      | none => .error "read email body"
      | some text => .ok (TrimSpace text, normalizeBodyMimeType (mediaTypeOf lib header).1)

/-- The parts of a multipart body, with the HTML text that was found before them. -/
def extractMultipartEmailBody (lib : MailLibrary) : List Entity → Bool → String →
    Except String (String × String)
  | [], ends, htmlBody =>
      if ends = false then .error "read multipart email"
      else if htmlBody ≠ "" then .ok (htmlBody, bodyMimeTypeHTML)
      else .ok ("", bodyMimeTypePlainText)
  | part :: parts, ends, htmlBody =>
      match extractEmailBody lib part with
      | .error err => .error err
      | .ok (partBody, partMimeType) =>
          if partMimeType = bodyMimeTypePlainText ∧ TrimSpace partBody ≠ "" then
            .ok (partBody, partMimeType)
          else if partMimeType = bodyMimeTypeHTML ∧ TrimSpace partBody ≠ "" ∧ htmlBody = "" then
            extractMultipartEmailBody lib parts ends partBody
          else extractMultipartEmailBody lib parts ends htmlBody

end

mutual

/-- The bodies of an entity can be read, and every multipart one has a boundary and ends. -/
def Entity.Parses (lib : MailLibrary) : Entity → Prop
  | .mk header payload parts ends =>
      if isMultipart lib header = true then
        (mediaTypeOf lib header).2 ≠ "" ∧ ends = true ∧ allParse lib parts
      else payload.isSome = true

def allParse (lib : MailLibrary) : List Entity → Prop
  | [] => True
  | part :: parts => part.Parses lib ∧ allParse lib parts

end

mutual

/-- A message that parses has a body, however its parts are nested. -/
theorem extractEmailBody_ok {lib : MailLibrary} :
    ∀ e : Entity, e.Parses lib → ∃ body, extractEmailBody lib e = .ok body
  | .mk header payload parts ends, h => by
      rw [Entity.Parses] at h
      unfold extractEmailBody
      by_cases hmultipart : isMultipart lib header = true
      · rw [if_pos hmultipart] at h ⊢
        obtain ⟨hboundary, hends, hparts⟩ := h
        rw [if_neg hboundary]
        exact extractMultipartEmailBody_ok parts "" hparts hends
      · rw [if_neg hmultipart] at h ⊢
        obtain ⟨text, htext⟩ := Option.isSome_iff_exists.1 h
        rw [htext]
        exact ⟨_, rfl⟩

theorem extractMultipartEmailBody_ok {lib : MailLibrary} {ends : Bool} :
    ∀ (parts : List Entity) (htmlBody : String), allParse lib parts → ends = true →
      ∃ body, extractMultipartEmailBody lib parts ends htmlBody = .ok body
  | [], htmlBody, _, hends => by
      rw [extractMultipartEmailBody, hends, if_neg Bool.noConfusion]
      split_ifs
      · exact ⟨_, rfl⟩
      · exact ⟨_, rfl⟩
  | part :: parts, htmlBody, h, hends => by
      rw [allParse] at h
      obtain ⟨⟨partBody, partMimeType⟩, hpart⟩ := extractEmailBody_ok part h.1
      rw [extractMultipartEmailBody, hpart]
      dsimp only
      split_ifs
      · exact ⟨_, rfl⟩
      · exact extractMultipartEmailBody_ok parts _ h.2 hends
      · exact extractMultipartEmailBody_ok parts _ h.2 hends

end

/-! ## The message -/

structure InboundParty where
  Address : String
  Number : String
  DisplayName : String
deriving DecidableEq

structure parsedInboundEmail where
  From : InboundParty
  Subject : String
  Body : String
  BodyMimeType : String
  MessageID : String
  InReplyTo : Option String

def decodeRFC2047Header (lib : MailLibrary) (value : String) : String :=
  if TrimSpace value = "" then ""
  else match lib.DecodeHeader (TrimSpace value) with
  | none => TrimSpace value
  | some decoded => TrimSpace decoded

/-- The value of a header with an id, without the angle brackets. -/
def headerID (value : String) : String := Trim (TrimSpace value) "<>"

def trimEmailHeaderID (value : String) : Option String :=
  if headerID value = "" then none else some (headerID value)

def parseInboundFrom (lib : MailLibrary) (header : String → String) (fallbackSource : String) :
    Except String InboundParty :=
  let rawFrom := TrimSpace (header "From")
  let headerAddr := if rawFrom = "" then none else lib.ParseAddress rawFrom
  let rawSource := TrimSpace fallbackSource
  if rawSource ≠ "" then
    match lib.ParseAddress rawSource with
    | none => .error "invalid from address"
    | some sourceAddr =>
        let displayName := match headerAddr with
          | some addr =>
              if EqualFold (TrimSpace addr.Address) (TrimSpace sourceAddr.Address) = true ∧
                TrimSpace addr.Name ≠ "" then TrimSpace addr.Name
              else TrimSpace sourceAddr.Name
          | none => TrimSpace sourceAddr.Name
        .ok ⟨TrimSpace sourceAddr.Address, "", displayName⟩
  else match headerAddr with
  | none => .error (if rawFrom = "" then "from address is required" else "invalid from address")
  | some addr => .ok ⟨TrimSpace addr.Address, "", TrimSpace addr.Name⟩

def parseRawEmail (lib : MailLibrary) (raw : List UInt8)
    (fallbackSource fallbackSubject fallbackMessageID : String) : Except String parsedInboundEmail :=
  match lib.ReadMessage raw with
  | none => .error "parse raw email"
  | some msg =>
      match parseInboundFrom lib msg.header fallbackSource with
      | .error err => .error err
      | .ok sender =>
          let subject := decodeRFC2047Header lib (msg.header "Subject")
          match extractEmailBody lib msg with
          | .error err => .error err
          | .ok (body, bodyMimeType) => .ok {
              From := sender
              Subject := if TrimSpace subject = "" then TrimSpace fallbackSubject else subject
              Body := if TrimSpace body = "" then "(empty email body)" else body
              BodyMimeType := bodyMimeType
              MessageID :=
                if headerID (msg.header "Message-ID") = "" then TrimSpace fallbackMessageID
                else headerID (msg.header "Message-ID")
              InReplyTo := trimEmailHeaderID (msg.header "In-Reply-To") }

/-! ## The worker's validation -/

structure InboundNotification where
  type : String
  Channel : String
  From : InboundParty
  To : Option InboundParty
  Subject : String
  Body : String
  BodyMimeType : String
  ReceivedAt : String
  MessageID : String
  InReplyTo : Option String

structure QueueMessage where
  Kind : String
  Provider : String
  Notification : InboundNotification

def QueueMessageKindInbound : String := "comm.inbound"
def inboundNotificationType : String := "communication:inbound"
def inboundChannelEmail : String := "email"
def inboundChannelSMS : String := "sms"
def inboundChannelVoice : String := "voice"
def maxInboundExternalIDLen : Nat := 512

def InboundParty.Validate (lib : MailLibrary) (p : InboundParty) : Except String Unit :=
  if TrimSpace p.Address = "" ∧ TrimSpace p.Number = "" then .error "address or number is required"
  else if TrimSpace p.Address ≠ "" ∧ (lib.ParseAddress (TrimSpace p.Address)).isNone = true then
    .error "invalid address"
  else .ok ()

def validInboundExternalID (value : String) (required : Bool) : Bool :=
  if TrimSpace value = "" then !required
  else if maxInboundExternalIDLen < len (TrimSpace value) then false
  else (TrimSpace value).toList.all fun r => !(decide (r.toNat < 0x20) || r.toNat == 0x7f)

def InboundNotification.Validate (lib : MailLibrary) (n : InboundNotification) : Except String Unit :=
  let channel := ToLower (TrimSpace n.Channel)
  if TrimSpace n.type ≠ inboundNotificationType then .error "invalid notification type"
  else if channel ∉ [inboundChannelEmail, inboundChannelSMS, inboundChannelVoice] then
    .error "invalid channel"
  else match n.From.Validate lib with
  | .error err => .error ("invalid from: " ++ err)
  | .ok () =>
      match n.To with
      | none => .error "to is required"
      | some party =>
          match party.Validate lib with
          | .error err => .error ("invalid to: " ++ err)
          | .ok () =>
              if TrimSpace n.Body = "" then .error "body is required"
              else if TrimSpace n.ReceivedAt = "" then .error "receivedAt is required"
              else if validInboundExternalID n.MessageID true = false then .error "messageId is required"
              else if n.InReplyTo.any (fun id => !validInboundExternalID id false) = true then
                .error "invalid inReplyTo"
              else if channel = inboundChannelEmail ∧ TrimSpace n.Subject = "" then
                .error "subject is required for email"
              else .ok ()

def QueueMessage.Validate (lib : MailLibrary) (m : QueueMessage) : Except String Unit :=
  if TrimSpace m.Kind ≠ QueueMessageKindInbound then .error "unsupported kind"
  else m.Notification.Validate lib

/-! ## A record of SES -/

def soulCanonicalEmailDomain : String := "lessersoul.ai"
def maxInboundEmailBytes : Nat := 1024 * 1024

structure SimpleEmailRecord where
  MessageID : String
  Source : String
  Subject : String
  Timestamp : Time
  Destination : List String
  Recipients : List String
  SpamVerdict : String
  VirusVerdict : String
  SPFVerdict : String
  DKIMVerdict : String
  DMARCVerdict : String

def sesVerdictPass (status : String) : Bool := EqualFold (TrimSpace status) "PASS"

def sesReceiptVerdictsAccepted (record : SimpleEmailRecord) : Bool :=
  sesVerdictPass record.SpamVerdict && sesVerdictPass record.VirusVerdict &&
    (sesVerdictPass record.SPFVerdict || sesVerdictPass record.DKIMVerdict ||
      sesVerdictPass record.DMARCVerdict)

def sesEnvelopeRecipients (record : SimpleEmailRecord) : List String :=
  if 0 < record.Recipients.length then record.Recipients else record.Destination

def normalizeInboundRecipient (address inboundDomain : String) : Option String :=
  match Cut (ToLower (TrimSpace address)) '@' with
  | none => none
  | some (localPart, domain) =>
      if TrimSpace localPart = "" then none
      else if domain ≠ ToLower (TrimSpace inboundDomain) then none
      else some (localPart ++ "@" ++ soulCanonicalEmailDomain)

def inboundMessage (parsed : parsedInboundEmail) (toAddress receivedAt : String) : QueueMessage where
  Kind := QueueMessageKindInbound
  Provider := "migadu"
  Notification := {
    type := "communication:inbound"
    Channel := "email"
    From := parsed.From
    To := some ⟨toAddress, "", ""⟩
    Subject := parsed.Subject
    Body := parsed.Body
    BodyMimeType := parsed.BodyMimeType
    ReceivedAt := receivedAt
    MessageID := parsed.MessageID
    InReplyTo := parsed.InReplyTo }

/-- The loop over the recipients, with the messages that were enqueued before. -/
def enqueueAll (lib : MailLibrary) (inboundDomain : String) (parsed : parsedInboundEmail)
    (receivedAt : String) : List String → List QueueMessage → Except String Unit × List QueueMessage
  | [], queue => (.ok (), queue)
  | destination :: destinations, queue =>
      match normalizeInboundRecipient destination inboundDomain with
      | none => enqueueAll lib inboundDomain parsed receivedAt destinations queue
      | some toAddress =>
          match (inboundMessage parsed toAddress receivedAt).Validate lib with
          | .error err => (.error ("validate inbound email " ++ Quote toAddress ++ ": " ++ err), queue)
          | .ok () => enqueueAll lib inboundDomain parsed receivedAt destinations
              (queue ++ [inboundMessage parsed toAddress receivedAt])

/-- `handleRecord`, with the stored object of the message: what it returns, and what is in the queue then. Of
the errors before the loop only the text is kept, without the object key and the cause they wrap. -/
def handleRecord (lib : MailLibrary) (record : SimpleEmailRecord) (object : Option (List UInt8)) (now : Time)
    (inboundDomain : String) : Except String Unit × List QueueMessage :=
  if TrimSpace record.MessageID = "" then (.error "ses message id is required", [])
  else if sesReceiptVerdictsAccepted record = false then (.ok (), [])
  else match object with
  | none => (.error "load inbound email", [])
  | some raw =>
      if maxInboundEmailBytes < raw.length then (.error "payload too large", [])
      else match parseRawEmail lib raw record.Source record.Subject (TrimSpace record.MessageID) with
      | .error err => (.error err, [])
      | .ok parsed =>
          let receivedAt := if record.Timestamp.UTC.IsZero = true then now else record.Timestamp.UTC
          enqueueAll lib inboundDomain parsed receivedAt.FormatRFC3339Nano
            (sesEnvelopeRecipients record) []

/-! ## What the worker asks of an ingress message -/

section Validation

variable {lib : MailLibrary}

/-- An address is there and reads as one. -/
def ReadsAsAddress (lib : MailLibrary) (address : String) : Prop :=
  TrimSpace address ≠ "" ∧ (lib.ParseAddress (TrimSpace address)).isSome = true

theorem InboundParty.Validate_iff {p : InboundParty} (hnumber : p.Number = "") :
    p.Validate lib = .ok () ↔ ReadsAsAddress lib p.Address := by
  have hblank : TrimSpace p.Number = "" := by
    rw [hnumber]
    decide
  unfold InboundParty.Validate ReadsAsAddress
  by_cases haddress : TrimSpace p.Address = ""
  · rw [if_pos ⟨haddress, hblank⟩]
    exact iff_of_false (fun h => by cases h) fun h => h.1 haddress
  · rw [if_neg fun h => haddress h.1]
    cases hparse : (lib.ParseAddress (TrimSpace p.Address)).isSome with
    | true =>
        have hnone : ¬ (TrimSpace p.Address ≠ "" ∧
            (lib.ParseAddress (TrimSpace p.Address)).isNone = true) := by
          rw [← Option.not_isSome, hparse]
          exact fun h => Bool.noConfusion h.2
        rw [if_neg hnone]
        exact iff_of_true rfl ⟨haddress, rfl⟩
    | false =>
        rw [if_pos ⟨haddress, by rw [← Option.not_isSome, hparse]; rfl⟩]
        exact iff_of_false (fun h => by cases h) fun h => Bool.noConfusion h.2

/-- The rules of the worker for the members ingress fills in. -/
structure Accepted (lib : MailLibrary) (parsed : parsedInboundEmail) : Prop where
  sender : ReadsAsAddress lib parsed.From.Address
  messageID : validInboundExternalID parsed.MessageID true = true
  inReplyTo : ∀ id ∈ parsed.InReplyTo, validInboundExternalID id false = true
  subject : TrimSpace parsed.Subject ≠ ""

theorem inReplyTo_iff {inReplyTo : Option String} :
    ¬ inReplyTo.any (fun id => !validInboundExternalID id false) = true ↔
      ∀ id ∈ inReplyTo, validInboundExternalID id false = true := by
  cases inReplyTo with
  | none => exact iff_of_true Bool.noConfusion fun _ h => by cases h
  | some id =>
      rw [Option.any_some, Bool.not_eq_true', Bool.not_eq_false]
      exact ⟨fun h id' hid => Option.some.inj hid ▸ h, fun h => h id rfl⟩

theorem inboundMessage_Validate_iff {parsed : parsedInboundEmail} {toAddress receivedAt : String}
    (hnumber : parsed.From.Number = "") (hbody : TrimSpace parsed.Body ≠ "")
    (hreceived : TrimSpace receivedAt ≠ "") :
    (inboundMessage parsed toAddress receivedAt).Validate lib = .ok () ↔
      Accepted lib parsed ∧ ReadsAsAddress lib toAddress := by
  have hkind : ¬ TrimSpace (inboundMessage parsed toAddress receivedAt).Kind ≠ QueueMessageKindInbound :=
    not_not.2 (by decide : TrimSpace QueueMessageKindInbound = QueueMessageKindInbound)
  have htype : ¬ TrimSpace "communication:inbound" ≠ inboundNotificationType := not_not.2 (by decide)
  have hchannel : ToLower (TrimSpace "email") = inboundChannelEmail := by decide
  have hlisted : ¬ inboundChannelEmail ∉ [inboundChannelEmail, inboundChannelSMS, inboundChannelVoice] :=
    not_not.2 List.mem_cons_self
  have hparty := @InboundParty.Validate_iff lib ⟨toAddress, "", ""⟩ rfl
  rw [QueueMessage.Validate, if_neg hkind, InboundNotification.Validate]
  simp only [inboundMessage, hchannel, if_neg htype, if_neg hlisted]
  cases hfrom : parsed.From.Validate lib with
  | error err =>
      refine iff_of_false (fun h => by cases h) fun h => ?_
      rw [(InboundParty.Validate_iff hnumber).2 h.1.sender] at hfrom
      cases hfrom
  | ok u =>
      have hsender := (InboundParty.Validate_iff hnumber).1 hfrom
      cases hto : (⟨toAddress, "", ""⟩ : InboundParty).Validate lib with
      | error err =>
          refine iff_of_false (fun h => by cases h) fun h => ?_
          rw [hparty.2 h.2] at hto
          cases hto
      | ok u' =>
          have hrecipient := hparty.1 hto
          dsimp only
          rw [if_neg hbody, if_neg hreceived]
          constructor
          · intro h
            split_ifs at h with hid hreply hsubject
            exact ⟨⟨hsender, Bool.not_eq_false _ ▸ hid, inReplyTo_iff.1 hreply,
              fun hblank => hsubject ⟨trivial, hblank⟩⟩, hrecipient⟩
          · rintro ⟨⟨-, hid, hreply, hsubject⟩, -⟩
            rw [if_neg (by rw [hid]; exact Bool.noConfusion), if_neg (inReplyTo_iff.2 hreply),
              if_neg fun h => hsubject h.2]

/-- Text with a character that is no white space is not trimmed away. -/
theorem TrimSpace_ne_empty_of_mem {s : String} {c : Char} (hc : c ∈ s.toList) (hspace : isSpace c = false) :
    TrimSpace s ≠ "" := by
  intro h
  have hnil : trimFunc isSpace s.toList = [] := by
    rw [← toList_TrimSpace, h]
    rfl
  rw [trimFunc, List.rdropWhile_eq_nil_iff] at hnil
  have hmem : c ∈ s.toList.takeWhile isSpace ++ s.toList.dropWhile isSpace := by
    rw [List.takeWhile_append_dropWhile]
    exact hc
  rcases List.mem_append.1 hmem with htake | hdrop
  · rw [List.mem_takeWhile_imp htake] at hspace
    cases hspace
  · rw [hnil c hdrop] at hspace
    cases hspace

theorem FormatRFC3339Nano_ne_blank (t : Time) : TrimSpace t.FormatRFC3339Nano ≠ "" := by
  refine @TrimSpace_ne_empty_of_mem _ 'Z' ?_ (by decide)
  rw [Time.FormatRFC3339Nano, String.toList_ofList]
  exact List.mem_append_right _ (List.mem_singleton_self 'Z')

/-- A recipient at the inbound domain gets an address at the canonical one. -/
theorem normalizeInboundRecipient_some {address inboundDomain toAddress : String}
    (h : normalizeInboundRecipient address inboundDomain = some toAddress) :
    ∃ localPart, Cut (ToLower (TrimSpace address)) '@'
        = some (localPart, ToLower (TrimSpace inboundDomain)) ∧
      TrimSpace localPart ≠ "" ∧ toAddress = localPart ++ "@" ++ soulCanonicalEmailDomain := by
  unfold normalizeInboundRecipient at h
  cases hcut : Cut (ToLower (TrimSpace address)) '@' with
  | none =>
      rw [hcut] at h
      cases h
  | some parts =>
      obtain ⟨localPart, domain⟩ := parts
      rw [hcut] at h
      dsimp only at h
      split_ifs at h with hblank hdomain
      rw [not_not] at hdomain
      exact ⟨localPart, by rw [hdomain], hblank, (Option.some.inj h).symm⟩

theorem toAddress_ne_blank {address inboundDomain toAddress : String}
    (h : normalizeInboundRecipient address inboundDomain = some toAddress) : TrimSpace toAddress ≠ "" := by
  obtain ⟨localPart, -, -, rfl⟩ := normalizeInboundRecipient_some h
  refine @TrimSpace_ne_empty_of_mem _ '@' ?_ (by decide)
  rw [String.toList_append, String.toList_append]
  exact List.mem_append_left _ (List.mem_append_right _ (List.mem_singleton_self '@'))

end Validation

/-! ## The loop over the recipients -/

section Recipients

variable {lib : MailLibrary} {parsed : parsedInboundEmail} {inboundDomain receivedAt : String}

/-- The addresses of the recipients at the inbound domain. -/
def bridged (inboundDomain : String) (destinations : List String) : List String :=
  destinations.filterMap (normalizeInboundRecipient · inboundDomain)

/-- The run: messages for all recipients if each is valid, and an error otherwise. -/
theorem enqueueAll_spec (destinations : List String) (queue : List QueueMessage) :
    ((∀ toAddress ∈ bridged inboundDomain destinations,
        (inboundMessage parsed toAddress receivedAt).Validate lib = .ok ()) ∧
      enqueueAll lib inboundDomain parsed receivedAt destinations queue = (.ok (),
        queue ++ (bridged inboundDomain destinations).map (inboundMessage parsed · receivedAt))) ∨
    ((∃ toAddress ∈ bridged inboundDomain destinations,
        (inboundMessage parsed toAddress receivedAt).Validate lib ≠ .ok ()) ∧
      ∃ err, (enqueueAll lib inboundDomain parsed receivedAt destinations queue).1 = .error err) := by
  induction destinations generalizing queue with
  | nil => exact .inl ⟨fun _ h => absurd h List.not_mem_nil, by simp [enqueueAll, bridged]⟩
  | cons destination destinations ih =>
      rw [enqueueAll]
      cases hbridge : normalizeInboundRecipient destination inboundDomain with
      | none =>
          have hsame : bridged inboundDomain (destination :: destinations)
              = bridged inboundDomain destinations := by
            simp only [bridged, List.filterMap_cons, hbridge]
          rw [hsame]
          exact ih queue
      | some toAddress =>
          have hcons : bridged inboundDomain (destination :: destinations)
              = toAddress :: bridged inboundDomain destinations := by
            simp only [bridged, List.filterMap_cons, hbridge]
          rw [hcons]
          dsimp only
          cases hvalid : (inboundMessage parsed toAddress receivedAt).Validate lib with
          | error err =>
              refine .inr ⟨⟨toAddress, List.mem_cons_self, ?_⟩, _, rfl⟩
              rw [hvalid]
              exact fun h => by cases h
          | ok u =>
              rcases ih (queue ++ [inboundMessage parsed toAddress receivedAt]) with
                ⟨hall, hqueue⟩ | ⟨⟨other, hother, hbad⟩, herror⟩
              · refine .inl ⟨?_, ?_⟩
                · rw [List.forall_mem_cons]
                  exact ⟨hvalid, hall⟩
                · have hsplit := List.append_cons queue (inboundMessage parsed toAddress receivedAt)
                    ((bridged inboundDomain destinations).map (inboundMessage parsed · receivedAt))
                  rw [List.map_cons, hsplit]
                  exact hqueue
              · exact .inr ⟨⟨other, List.mem_cons_of_mem _ hother, hbad⟩, herror⟩

end Recipients

/-! ## Delivery -/

/-- Ingress and worker agree: one valid message for every recipient at the inbound domain, in their order,
and none for another one. -/
structure Delivers (lib : MailLibrary) (inboundDomain : String) (destinations : List String)
    (result : Except String Unit × List QueueMessage) : Prop where
  accepted : result.1 = .ok ()
  addressed : result.2.map (fun m => m.Notification.To.map (·.Address))
    = (bridged inboundDomain destinations).map some
  valid : ∀ m ∈ result.2, m.Validate lib = .ok ()

/-- A stored mail that parses, with accepted verdicts and a sender that reads as an address. -/
structure WellFormedMail (lib : MailLibrary) (record : SimpleEmailRecord) (raw : List UInt8) (msg : Entity)
    (sender : MailAddress) : Prop where
  messageID : TrimSpace record.MessageID ≠ ""
  verdicts : sesReceiptVerdictsAccepted record = true
  size : raw.length ≤ maxInboundEmailBytes
  read : lib.ReadMessage raw = some msg
  parses : msg.Parses lib
  source : TrimSpace record.Source ≠ ""
  sender : lib.ParseAddress (TrimSpace record.Source) = some sender

/-- The headers suit the worker: the sender's address reads as an address again, there is a subject in the
header or in the record, and the ids, if given, follow the rules. -/
structure HeadersSuit (lib : MailLibrary) (record : SimpleEmailRecord) (msg : Entity)
    (sender : MailAddress) : Prop where
  sender : ReadsAsAddress lib (TrimSpace sender.Address)
  subject : TrimSpace (decodeRFC2047Header lib (msg.header "Subject")) ≠ "" ∨ TrimSpace record.Subject ≠ ""
  messageID : validInboundExternalID (if headerID (msg.header "Message-ID") = "" then
    TrimSpace record.MessageID else headerID (msg.header "Message-ID")) true = true
  inReplyTo : headerID (msg.header "In-Reply-To") = "" ∨
    validInboundExternalID (headerID (msg.header "In-Reply-To")) false = true

section Delivery

variable {lib : MailLibrary} {record : SimpleEmailRecord} {raw : List UInt8} {msg : Entity}
  {sender : MailAddress}

/-- The envelope sender is the sender of the message. -/
theorem parseInboundFrom_ok (header : String → String) {source : String} (hsource : TrimSpace source ≠ "")
    (hsender : lib.ParseAddress (TrimSpace source) = some sender) :
    ∃ displayName, parseInboundFrom lib header source
      = .ok ⟨TrimSpace sender.Address, "", displayName⟩ := by
  unfold parseInboundFrom
  dsimp only
  rw [if_pos hsource, hsender]
  exact ⟨_, rfl⟩

theorem trimEmailHeaderID_iff {value : String} :
    (∀ id ∈ trimEmailHeaderID value, validInboundExternalID id false = true) ↔
      headerID value = "" ∨ validInboundExternalID (headerID value) false = true := by
  unfold trimEmailHeaderID
  by_cases hblank : headerID value = ""
  · rw [if_pos hblank]
    exact iff_of_true (fun _ h => by cases h) (.inl hblank)
  · rw [if_neg hblank]
    constructor
    · exact fun h => .inr (h _ rfl)
    · intro h id hid
      rw [← Option.some.inj hid]
      exact h.resolve_left hblank

theorem subject_iff {subject fallback : String} :
    TrimSpace (if TrimSpace subject = "" then TrimSpace fallback else subject) ≠ "" ↔
      TrimSpace subject ≠ "" ∨ TrimSpace fallback ≠ "" := by
  by_cases hblank : TrimSpace subject = ""
  · rw [if_pos hblank, TrimSpace_idem]
    exact ⟨.inr, fun h => h.resolve_left fun hne => hne hblank⟩
  · rw [if_neg hblank]
    exact iff_of_true hblank (.inl hblank)

/-- What ingress makes of a well-formed mail: the worker accepts it if and only if its headers suit. -/
theorem parseRawEmail_ok (h : WellFormedMail lib record raw msg sender) : ∃ parsed,
    parseRawEmail lib raw record.Source record.Subject (TrimSpace record.MessageID) = .ok parsed ∧
      parsed.From.Number = "" ∧ TrimSpace parsed.Body ≠ "" ∧
      (Accepted lib parsed ↔ HeadersSuit lib record msg sender) := by
  obtain ⟨displayName, hfrom⟩ := parseInboundFrom_ok msg.header h.source h.sender
  obtain ⟨⟨body, bodyMimeType⟩, hbody⟩ := extractEmailBody_ok msg h.parses
  unfold parseRawEmail
  rw [h.read]
  dsimp only
  rw [hfrom, hbody]
  refine ⟨_, rfl, rfl, ?_, ?_⟩
  · dsimp only
    split_ifs with hblank
    · decide
    · exact hblank
  · constructor
    · rintro ⟨hsender, hid, hreply, hsubject⟩
      dsimp only at hsender hid hreply hsubject
      rw [TrimSpace_idem] at hid
      rw [trimEmailHeaderID_iff] at hreply
      rw [subject_iff] at hsubject
      exact ⟨hsender, hsubject, hid, hreply⟩
    · rintro ⟨hsender, hsubject, hid, hreply⟩
      constructor
      · exact hsender
      · dsimp only
        rw [TrimSpace_idem]
        exact hid
      · dsimp only
        exact trimEmailHeaderID_iff.2 hreply
      · dsimp only
        exact subject_iff.2 hsubject

/-- **Ingress and worker.** They agree on a well-formed mail if and only if it has no recipient at the inbound
domain, or its headers suit the worker and the addresses of these recipients read as addresses. -/
theorem ingress_delivers_iff (h : WellFormedMail lib record raw msg sender) (now : Time)
    (inboundDomain : String) :
    Delivers lib inboundDomain (sesEnvelopeRecipients record)
        (handleRecord lib record (some raw) now inboundDomain) ↔
      ∀ destination ∈ sesEnvelopeRecipients record, ∀ toAddress,
        normalizeInboundRecipient destination inboundDomain = some toAddress →
          HeadersSuit lib record msg sender ∧ (lib.ParseAddress (TrimSpace toAddress)).isSome = true := by
  obtain ⟨parsed, hparsed, hnumber, hbody, haccepted⟩ := parseRawEmail_ok h
  have hverdicts : ¬ sesReceiptVerdictsAccepted record = false := by
    rw [h.verdicts]
    exact Bool.noConfusion
  set receivedAt := if record.Timestamp.UTC.IsZero = true then now else record.Timestamp.UTC
  have hresult : handleRecord lib record (some raw) now inboundDomain
      = enqueueAll lib inboundDomain parsed receivedAt.FormatRFC3339Nano
        (sesEnvelopeRecipients record) [] := by
    unfold handleRecord
    rw [if_neg h.messageID, if_neg hverdicts]
    dsimp only
    rw [if_neg (not_lt.2 h.size), hparsed]
  have hvalid : ∀ toAddress, (inboundMessage parsed toAddress receivedAt.FormatRFC3339Nano).Validate lib
      = .ok () ↔ HeadersSuit lib record msg sender ∧ ReadsAsAddress lib toAddress := by
    intro toAddress
    rw [inboundMessage_Validate_iff hnumber hbody (FormatRFC3339Nano_ne_blank _), haccepted]
  have hcondition : (∀ toAddress ∈ bridged inboundDomain (sesEnvelopeRecipients record),
      (inboundMessage parsed toAddress receivedAt.FormatRFC3339Nano).Validate lib = .ok ()) ↔
      ∀ destination ∈ sesEnvelopeRecipients record, ∀ toAddress,
        normalizeInboundRecipient destination inboundDomain = some toAddress →
          HeadersSuit lib record msg sender ∧ (lib.ParseAddress (TrimSpace toAddress)).isSome = true := by
    constructor
    · intro hall destination hmem toAddress hbridge
      obtain ⟨hsuit, hreads⟩ := (hvalid toAddress).1
        (hall toAddress (List.mem_filterMap.2 ⟨destination, hmem, hbridge⟩))
      exact ⟨hsuit, hreads.2⟩
    · intro hall toAddress hmem
      obtain ⟨destination, hdestination, hbridge⟩ := List.mem_filterMap.1 hmem
      obtain ⟨hsuit, hreads⟩ := hall destination hdestination toAddress hbridge
      exact (hvalid toAddress).2 ⟨hsuit, toAddress_ne_blank hbridge, hreads⟩
  rw [← hcondition, hresult]
  rcases enqueueAll_spec (sesEnvelopeRecipients record) [] with
    ⟨hall, hqueue⟩ | ⟨⟨toAddress, hmem, hbad⟩, err, herror⟩
  -- every message is valid, and all are in the queue
  · rw [hqueue, List.nil_append]
    refine iff_of_true ⟨rfl, ?_, fun m hm => ?_⟩ hall
    · rw [List.map_map]
      refine List.map_congr_left fun toAddress _ => ?_
      simp only [Function.comp, inboundMessage, Option.map_some]
    · obtain ⟨toAddress, hto, rfl⟩ := List.mem_map.1 hm
      exact hall toAddress hto
  -- the first message that is refused ends the loop with its error
  · refine iff_of_false (fun hdelivers => ?_) fun hall => hbad (hall toAddress hmem)
    rw [hdelivers.accepted] at herror
    cases herror

end Delivery

/-! ## A mail without a subject -/

/-- Readers that find the same mail everywhere: plain text and no header. -/
def sampleLibrary (subject : String) : MailLibrary where
  ReadMessage _ := some (.mk (fun name => if name = "Subject" then subject else "") (some "Hello.") [] true)
  ParseAddress s := some ⟨"", s⟩
  DecodeHeader := some
  ParseMediaType _ := some ("text/plain", fun _ => "")

def sampleRecord : SimpleEmailRecord where
  MessageID := "ses-1"
  Source := "alice@example.org"
  Subject := ""
  Timestamp := ⟨Second, .utc⟩
  Destination := ["agent@in.example", "bob@example.org"]
  Recipients := []
  SpamVerdict := "PASS"
  VirusVerdict := "PASS"
  SPFVerdict := "PASS"
  DKIMVerdict := ""
  DMARCVerdict := ""

def sampleMail (subject : String) : Entity :=
  .mk (fun name => if name = "Subject" then subject else "") (some "Hello.") [] true

theorem sampleMail_wellFormed (subject : String) : WellFormedMail (sampleLibrary subject) sampleRecord []
    (sampleMail subject) ⟨"", "alice@example.org"⟩ where
  messageID := by decide
  verdicts := by decide +kernel
  size := Nat.zero_le _
  read := rfl
  parses := by
    have hplain : ¬ isMultipart (sampleLibrary subject)
        (fun name => if name = "Subject" then subject else "") = true := by
      have hprefix : HasPrefix (ToLower "text/plain") "multipart/" = false := by decide
      simp only [isMultipart, mediaTypeOf, sampleLibrary, hprefix, Bool.false_eq_true, not_false_eq_true]
    rw [sampleMail, Entity.Parses, if_neg hplain]
    rfl
  source := by decide
  sender := by
    have htrimmed : TrimSpace "alice@example.org" = "alice@example.org" := by decide
    simp only [sampleLibrary, sampleRecord, htrimmed]

theorem ingress_delivers_sample : Delivers (sampleLibrary "Hi") "in.example"
      (sesEnvelopeRecipients sampleRecord)
      (handleRecord (sampleLibrary "Hi") sampleRecord (some []) ⟨0, .utc⟩ "in.example") ↔
    ∀ destination ∈ sesEnvelopeRecipients sampleRecord, ∀ toAddress,
      normalizeInboundRecipient destination "in.example" = some toAddress →
        HeadersSuit (sampleLibrary "Hi") sampleRecord (sampleMail "Hi") ⟨"", "alice@example.org"⟩ ∧
          ((sampleLibrary "Hi").ParseAddress (TrimSpace toAddress)).isSome = true :=
  ingress_delivers_iff (sampleMail_wellFormed "Hi") ⟨0, .utc⟩ "in.example"

/-- The worker refuses the message ingress makes of a mail without a subject, and nothing is enqueued. -/
theorem not_ingress_delivers :
    WellFormedMail (sampleLibrary "") sampleRecord [] (sampleMail "") ⟨"", "alice@example.org"⟩ ∧
      (handleRecord (sampleLibrary "") sampleRecord (some []) ⟨0, .utc⟩ "in.example").2 = [] ∧
      ¬ Delivers (sampleLibrary "") "in.example" (sesEnvelopeRecipients sampleRecord)
        (handleRecord (sampleLibrary "") sampleRecord (some []) ⟨0, .utc⟩ "in.example") := by
  have hempty : (handleRecord (sampleLibrary "") sampleRecord (some []) ⟨0, .utc⟩
      "in.example").2.length = 0 := by decide +kernel
  have hrefused : (handleRecord (sampleLibrary "") sampleRecord (some []) ⟨0, .utc⟩ "in.example").1 =
      .error "validate inbound email \"agent@lessersoul.ai\": subject is required for email" := by
    decide +kernel
  refine ⟨sampleMail_wellFormed "", List.length_eq_zero_iff.1 hempty, fun h => ?_⟩
  rw [h.accepted] at hrefused
  cases hrefused

end LesserHost.EmailIngress
