import LesserHost.SoulComm.Message
import LesserHost.SoulComm.RateLimit

set_option autoImplicit false

/-! # Who receives a mail, and who was asked

Before a message is sent, guards examine its recipients: a reply needs a prior conversation with each of them,
any other message the consent of those that belong to an agent with preferences for first contacts. The list
that the guards examine and the recipients of the envelope are made from the same request, but the copies are
read once for the guards and twice for the envelope. An address that reads as another one, because its name
was quoted twice, is examined as the one and written to as the other. -/

namespace LesserHost.SoulComm

open LesserHost.Go LesserHost.Go.Bytes
open LesserHost.ControlPlane (AppTheoryError)

/-! ## Recipients of a request -/

section Addresses

variable (ParseAddress : Bytes → Option String)

def notAnAddress (field : String) : AppTheoryError :=
  ⟨"comm.invalid_request", field ++ " must be an email address"⟩

def normalizeCommEmailRequestAddress (value field : String) : Except AppTheoryError String :=
  match ParseAddress (bytes (TrimSpace value)) with
  | none => .error (notAnAddress field)
  | some addr => if TrimSpace addr = "" then .error (notAnAddress field) else .ok (ToLower (TrimSpace addr))

/-- The loop of `normalizeCommEmailRequestList`. -/
def collectRequestAddresses (field : String) : List String → List String → Except AppTheoryError (List String)
  | out, [] => .ok out
  | out, raw :: rest =>
      if TrimSpace raw = "" then collectRequestAddresses field out rest
      else
        match normalizeCommEmailRequestAddress ParseAddress (TrimSpace raw) field with
        | .error appErr => .error appErr
        | .ok email =>
            collectRequestAddresses field (if email ∈ out then out else out ++ [email]) rest

def normalizeCommEmailRequestList (input : List String) (field : String) : Except AppTheoryError (List String) :=
  (collectRequestAddresses ParseAddress field [] input).map sortStrings

def validateSoulCommEmailRequestRecipients (to_ : String) (ccRaw bccRaw : List String) (subject : String) :
    Except AppTheoryError (String × List String × List String) :=
  match normalizeCommEmailRequestAddress ParseAddress to_ "to" with
  | .error appErr => .error appErr
  | .ok to_ =>
      match normalizeCommEmailRequestList ParseAddress ccRaw "cc" with
      | .error appErr => .error appErr
      | .ok cc =>
          match normalizeCommEmailRequestList ParseAddress bccRaw "bcc" with
          | .error appErr => .error appErr
          | .ok bcc =>
              if TrimSpace subject = "" then .error ⟨"comm.invalid_request", "subject is required for email"⟩
              else .ok (to_, cc, bcc)

def normalizeCommPhoneE164 (raw : String) : String :=
  [" ", "-", "(", ")", "."].foldl (fun raw old => ReplaceAll raw old "") (TrimSpace raw)

/-- The key under which a recipient is seen. -/
def recipientKey (channel : CommChannel) (recipient : String) : String :=
  if channel = .email then ToLower recipient else recipient

def addRecipient (channel : CommChannel) (out : List String) (recipient : String) : List String :=
  let recipient := TrimSpace recipient
  if recipient = "" then out
  -- the first spelling of an address stays
  else if recipientKey channel recipient ∈ out.map (recipientKey channel) then out
  else out ++ [recipient]

def soulCommBoundaryRecipients (req : validatedSoulCommSendRequest) : List String :=
  let recipients :=
    if req.channel = .email then
      normalizeCommEmailList ParseAddress ((TrimSpace req.To :: (req.cc ++ req.bcc)).map bytes)
    else [normalizeCommPhoneE164 (TrimSpace req.To)]
  recipients.foldl (addRecipient req.channel) []

/-! ## The reply boundary -/

/-- What the guard reads of an activity. -/
structure BoundaryActivity where
  ChannelType : String
  Direction : String
  Counterparty : String
  Action : String
  MessageID : String
  InReplyTo : String
  BoundaryCheck : String
  PreferenceRespected : Option Bool

def soulCommActivityEligibleForReplyBoundary (item : BoundaryActivity) : Bool :=
  let boundaryCheck := ToLower (TrimSpace item.BoundaryCheck)
  let action := ToLower (TrimSpace item.Action)
  !(item.PreferenceRespected == some false) && boundaryCheck != "violated" &&
    !(ToLower (TrimSpace item.Direction) == SoulCommDirectionOutbound && boundaryCheck != "" &&
      boundaryCheck != "passed") &&
    !(action == "drop" || action == "bounce")

def soulCommNormalizeBoundaryCounterparty (channelType counterparty : String) : String :=
  let counterparty := TrimSpace counterparty
  if ToLower (TrimSpace channelType) = "email" then
    match ParseAddress (bytes counterparty) with
    -- the third reading of an address that the guards examine
    | some addr => if TrimSpace addr = "" then ToLower counterparty else ToLower (TrimSpace addr)
    | none => ToLower counterparty
  else normalizeCommPhoneE164 counterparty

def soulCommReplyTokenMatches (stored requested : String) : Bool :=
  let stored := Trim (TrimSpace stored) "<>"
  let requested := Trim (TrimSpace requested) "<>"
  if stored = "" ∨ requested = "" then false
  else EqualFold stored requested ||
    EqualFold (emailMessageIDReference (bytes stored)) (emailMessageIDReference (bytes requested))

/-- An activity that stands for a prior conversation with the counterparty under the token. -/
def BoundaryActivity.matchesReply (channelType recipient inReplyTo : String) (item : BoundaryActivity) : Bool :=
  soulCommActivityEligibleForReplyBoundary item && ToLower (TrimSpace item.ChannelType) == channelType &&
    soulCommNormalizeBoundaryCounterparty ParseAddress channelType item.Counterparty == recipient &&
    (soulCommReplyTokenMatches item.MessageID inReplyTo || soulCommReplyTokenMatches item.InReplyTo inReplyTo)

def soulCommReplyBoundaryMatchesRecipient (items : List BoundaryActivity)
    (channelType recipient inReplyTo : String) : Bool :=
  let channelType := ToLower (TrimSpace channelType)
  let recipient := soulCommNormalizeBoundaryCounterparty ParseAddress channelType recipient
  let inReplyTo := TrimSpace inReplyTo
  if recipient = "" ∨ inReplyTo = "" then false
  else items.any (BoundaryActivity.matchesReply ParseAddress channelType recipient inReplyTo)

end Addresses

/-! ## What the guards read -/

structure SoulAgentContactPreferences where
  FirstContactRequireSoul : Bool
  FirstContactRequireReputation : Option Rat
  FirstContactIntroductionExpected : Bool

/-- A read of one row. -/
inductive Lookup (Row : Type) where
  | found (row : Row)
  | notFound
  | failed

/-- The rows that the guards read: activities by partition key and newest first (none where the read fails),
    agents by mail address and by number, preferences and reputation by agent. -/
structure GuardStore where
  activities : String → Option (List BoundaryActivity)
  emailIndex : String → Lookup String
  phoneIndex : String → Lookup String
  preferences : String → Lookup SoulAgentContactPreferences
  reputation : String → Lookup Rat
  /-- `fmt.Sprintf("%.2f", score)` -/
  formatScore : Rat → String

section Guards

variable (ParseAddress : Bytes → Option String) (s : GuardStore)

def listSoulCommReplyBoundaryActivities (agentIDHex channelType : String) (scanLimit : Int) :
    Option (List BoundaryActivity) :=
  let agentIDHex := ToLower (TrimSpace agentIDHex)
  let channelType := ToLower (TrimSpace channelType)
  if agentIDHex = "" ∨ channelType = "" then none
  else (s.activities ("SOUL#AGENT#" ++ agentIDHex)).map (List.take (clampScan scanLimit))

def boundaryViolation (message : String) : AppTheoryError := ⟨"comm.boundary_violation", message⟩

def storedThreadReply (req : validatedSoulCommSendRequest) : Bool :=
  TrimSpace req.providerReplyTo != "" && TrimSpace req.threadID != "" && req.cc.isEmpty && req.bcc.isEmpty

def enforceSoulCommReplyBoundary (req : validatedSoulCommSendRequest) : Option AppTheoryError :=
  if storedThreadReply req = true then none
  else
    let recipients := soulCommBoundaryRecipients ParseAddress req
    if recipients = [] then some (boundaryViolation "reply boundary requires a recipient")
    else
      match listSoulCommReplyBoundaryActivities s req.agentIDHex req.channel.text 500 with
      | none => some internalError
      | some activities =>
          if recipients.all fun recipient => soulCommReplyBoundaryMatchesRecipient ParseAddress activities
              req.channel.text recipient req.inReplyTo then none
          else some (boundaryViolation "inReplyTo does not match a prior conversation with every recipient")

def lookupSoulCommRecipientAgentID (channel : CommChannel) (to_ : String) : Lookup String :=
  let row :=
    match channel with
    | .email => s.emailIndex (ToLower (TrimSpace (TrimSpace to_)))
    | .sms | .voice => s.phoneIndex (normalizeCommPhoneE164 (TrimSpace to_))
  match row with
  | .found agentID => if ToLower (TrimSpace agentID) = "" then .notFound else .found (ToLower (TrimSpace agentID))
  | .notFound => .notFound
  | .failed => .failed

structure soulCommFirstContactRecipient where
  address : String
  agentID : String
  preferences : SoulAgentContactPreferences

/-- The preferences of the agent that an address belongs to, if it belongs to one that has any. -/
def loadSoulCommFirstContactRecipient (channel : CommChannel) (address : String) :
    Except AppTheoryError (Option soulCommFirstContactRecipient) :=
  match lookupSoulCommRecipientAgentID s channel address with
  | .failed => .error internalError
  | .notFound => .ok none
  | .found agentID =>
      match s.preferences agentID with
      | .failed => .error internalError
      | .notFound => .ok none
      | .found prefs => .ok (some ⟨address, agentID, prefs⟩)

def loadSoulCommFirstContactRecipients (channel : CommChannel) :
    List String → Except AppTheoryError (List soulCommFirstContactRecipient)
  | [] => .ok []
  | address :: rest =>
      match loadSoulCommFirstContactRecipient s channel address with
      | .error appErr => .error appErr
      | .ok recipient => (loadSoulCommFirstContactRecipients channel rest).map (recipient.toList ++ ·)

def preferenceViolation (message : String) : AppTheoryError := ⟨"comm.preference_violation", message⟩

def enforceSoulCommRecipientReputationPolicy (req : validatedSoulCommSendRequest) (minReputation : Rat) :
    Option AppTheoryError :=
  let deny := preferenceViolation
    ("recipient first-contact policy requires soul reputation >= " ++ s.formatScore minReputation)
  match s.reputation req.agentIDHex with
  | .failed => some internalError
  | .notFound => some deny
  | .found score => if minReputation ≤ score then none else some deny

/-- `identity` is the identifier of the sender, if one was loaded. -/
def enforceSoulCommRecipientFirstContactPolicy (identity : Option String)
    (req : validatedSoulCommSendRequest) (recipient : soulCommFirstContactRecipient) :
    Except AppTheoryError Bool :=
  let prefs := recipient.preferences
  if TrimSpace recipient.agentID = "" then .ok false
  else if prefs.FirstContactRequireSoul && (identity.all fun id => TrimSpace id == "") then
    .error (preferenceViolation "recipient first-contact policy requires a soul sender")
  else
    match prefs.FirstContactRequireReputation.bind (enforceSoulCommRecipientReputationPolicy s req) with
    | some appErr => .error appErr
    | none => .ok (prefs.FirstContactRequireSoul || prefs.FirstContactRequireReputation.isSome ||
        prefs.FirstContactIntroductionExpected)

/-- The loop over the recipients. -/
def enforceRecipients (identity : Option String) (req : validatedSoulCommSendRequest) :
    Bool → List soulCommFirstContactRecipient → Except AppTheoryError Bool
  | enforced, [] => .ok enforced
  | enforced, recipient :: rest =>
      match enforceSoulCommRecipientFirstContactPolicy s identity req recipient with
      | .error appErr => .error appErr
      | .ok recipientEnforced => enforceRecipients identity req (enforced || recipientEnforced) rest

/-- The decision is whether preferences were respected, if there were any. -/
def enforceSoulCommFirstContactPolicy (identity : Option String) (req : validatedSoulCommSendRequest) :
    Except AppTheoryError (Option Bool) :=
  match loadSoulCommFirstContactRecipients s req.channel (soulCommBoundaryRecipients ParseAddress req) with
  | .error appErr => .error appErr
  | .ok recipients =>
      (enforceRecipients s identity req false recipients).map fun enforced =>
        if enforced then some true else none

def enforceSoulCommSendGuards (rate : CommStore) (identity : Option String)
    (req : validatedSoulCommSendRequest) (now : Time) : Except AppTheoryError (Option Bool) :=
  match enforceRateLimit rate req now with
  | .error appErr => .error appErr
  | .ok _ =>
      if req.inReplyTo = "" then enforceSoulCommFirstContactPolicy ParseAddress s identity req
      else
        match enforceSoulCommReplyBoundary ParseAddress s req with
        | some appErr => .error appErr
        | none => .ok none

end Guards

/-! ## The envelope -/

def mailboxProviderReplyReference (req : validatedSoulCommSendRequest) : String :=
  if TrimSpace req.providerReplyTo = "" then TrimSpace req.inReplyTo else TrimSpace req.providerReplyTo

/-- What `sendSoulCommEmail` hands to the builder. -/
def outboundInput (identifier messageID : String) (req : validatedSoulCommSendRequest) (now : Time) :
    outboundEmailRFC5322Input where
  From := bytes (TrimSpace identifier)
  To := bytes req.To
  CC := req.cc.map bytes
  BCC := req.bcc.map bytes
  ReplyTo := bytes req.replyTo
  Subject := bytes req.subject
  Body := bytes req.body
  MessageID := bytes ("<" ++ messageID ++ "@lessersoul.ai>")
  InReplyToMessageID := bytes (mailboxProviderReplyReference req)
  SentAt := now

/-! ## The addresses on both sides -/

/-- The same addresses up to case. -/
def SameAddresses (l m : List String) : Prop := ∀ key, key ∈ l.map ToLower ↔ key ∈ m.map ToLower

section Compare

variable (ParseAddress : Bytes → Option String) (req : validatedSoulCommSendRequest)

/-- The address of the receiver. -/
def receiver : List String := (normalizeCommEmail ParseAddress (bytes req.To)).toList

/-- The addresses of the copies. -/
def copies : List String :=
  normalizeCommEmailList ParseAddress (req.cc.map bytes) ++ normalizeCommEmailList ParseAddress (req.bcc.map bytes)

def reread (l : List String) : List String := l.filterMap fun email => normalizeCommEmail ParseAddress (bytes email)

/-- The addresses of the copies, read once more, are the same beside the receiver's. -/
def RereadSame : Prop :=
  SameAddresses (receiver ParseAddress req ++ reread ParseAddress (copies ParseAddress req))
    (receiver ParseAddress req ++ copies ParseAddress req)

variable {ParseAddress req}

theorem mem_receiver {email : String} :
    email ∈ receiver ParseAddress req ↔ normalizeCommEmail ParseAddress (bytes req.To) = some email :=
  Option.mem_toList

theorem mem_copies {email : String} : email ∈ copies ParseAddress req ↔
    ∃ raw ∈ req.cc ++ req.bcc, normalizeCommEmail ParseAddress (bytes raw) = some email := by
  rw [copies, List.mem_append, mem_normalizeCommEmailList, mem_normalizeCommEmailList]
  simp only [List.mem_map, List.mem_append, exists_exists_and_eq_and, or_and_right, exists_or]

theorem normalizeCommEmail_TrimSpace (s : String) :
    normalizeCommEmail ParseAddress (bytes (TrimSpace s)) = normalizeCommEmail ParseAddress (bytes s) := by
  simp only [normalizeCommEmail, TrimSpaceBytes_bytes, TrimSpace_idem]

/-- A normalised address is trimmed and not empty. -/
theorem normalizeCommEmail_trimmed {raw : Bytes} {email : String}
    (h : normalizeCommEmail ParseAddress raw = some email) : TrimSpace email = email ∧ email ≠ "" := by
  unfold normalizeCommEmail at h
  dsimp only at h
  split_ifs at h with hraw
  obtain ⟨addr, -, haddr⟩ := Option.bind_eq_some_iff.1 h
  split_ifs at haddr with hempty
  rw [← Option.some.inj haddr]
  exact ⟨TrimSpace_idem addr, hempty⟩

/-- Whoever reads as himself is written to as he was examined. -/
theorem rereadSame_of_readsBack (h : ∀ email ∈ copies ParseAddress req, ReadsBack ParseAddress email) :
    RereadSame ParseAddress req := by
  have hsame : reread ParseAddress (copies ParseAddress req) = copies ParseAddress req := by
    rw [reread, List.filterMap_congr h]
    exact List.filterMap_some
  intro key
  rw [hsame]

/-- The keys that the loop of the guards keeps. -/
theorem mem_keys_foldl {l : List String} (hl : ∀ recipient ∈ l, TrimSpace recipient = recipient ∧ recipient ≠ "")
    (out : List String) (key : String) :
    key ∈ (l.foldl (addRecipient .email) out).map ToLower ↔ key ∈ out.map ToLower ∨ key ∈ l.map ToLower := by
  have hkey : recipientKey .email = ToLower := funext fun recipient => if_pos rfl
  induction l generalizing out with
  | nil => simp
  | cons recipient l ih =>
      obtain ⟨⟨htrim, hne⟩, hrest⟩ := List.forall_mem_cons.1 hl
      rw [List.foldl_cons, List.map_cons, List.mem_cons]
      refine (ih hrest _).trans ?_
      have hstep : addRecipient .email out recipient
          = if ToLower recipient ∈ out.map ToLower then out else out ++ [recipient] := by
        rw [addRecipient, htrim, if_neg hne, hkey]
      rw [hstep]
      split_ifs with hseen
      · -- its key is in the list already
        constructor
        · exact Or.imp_right Or.inr
        · rintro (hin | rfl | hin)
          · exact Or.inl hin
          · exact Or.inl hseen
          · exact Or.inr hin
      · rw [List.map_append, List.mem_append, List.map_singleton, List.mem_singleton, or_assoc]

/-- What the guards examine: receiver and copies, up to case. -/
theorem mem_boundary_keys (hemail : req.channel = .email) (key : String) :
    key ∈ (soulCommBoundaryRecipients ParseAddress req).map ToLower ↔
      key ∈ (receiver ParseAddress req ++ copies ParseAddress req).map ToLower := by
  have hlist : soulCommBoundaryRecipients ParseAddress req = (normalizeCommEmailList ParseAddress
      ((TrimSpace req.To :: (req.cc ++ req.bcc)).map bytes)).foldl (addRecipient .email) [] := by
    rw [soulCommBoundaryRecipients, hemail]
    rfl
  have htrimmed : ∀ recipient ∈ normalizeCommEmailList ParseAddress
      ((TrimSpace req.To :: (req.cc ++ req.bcc)).map bytes), TrimSpace recipient = recipient ∧ recipient ≠ "" := by
    intro recipient h
    obtain ⟨raw, -, hraw⟩ := mem_normalizeCommEmailList.1 h
    exact normalizeCommEmail_trimmed hraw
  have hmem : ∀ email, email ∈ normalizeCommEmailList ParseAddress
      ((TrimSpace req.To :: (req.cc ++ req.bcc)).map bytes) ↔
      email ∈ receiver ParseAddress req ++ copies ParseAddress req := by
    intro email
    rw [mem_normalizeCommEmailList, List.mem_append, mem_receiver, mem_copies, List.map_cons]
    simp only [List.mem_cons, exists_eq_or_imp, normalizeCommEmail_TrimSpace, List.mem_map,
      exists_exists_and_eq_and]
  rw [hlist, mem_keys_foldl htrimmed]
  simp only [List.map_nil, List.not_mem_nil, false_or, List.mem_map, hmem]

/-- What the envelope names: the receiver, and the copies read once more. -/
theorem mem_envelope {identifier messageID : String} {now : Time} {email : String} :
    email ∈ (outboundInput identifier messageID req now).recipients ParseAddress ↔
      email ∈ receiver ParseAddress req ++ reread ParseAddress (copies ParseAddress req) := by
  have hto : TrimSpaceBytes (outboundInput identifier messageID req now).To = bytes (TrimSpace req.To) :=
    TrimSpaceBytes_bytes req.To
  have hrecipients : (outboundInput identifier messageID req now).recipients ParseAddress
      = normalizeCommEmailList ParseAddress (bytes (TrimSpace req.To) :: (copies ParseAddress req).map bytes) := by
    rw [outboundEmailRFC5322Input.recipients, hto, copies, List.map_append]
    rfl
  rw [hrecipients, mem_normalizeCommEmailList, List.mem_append, mem_receiver, reread, List.mem_filterMap]
  simp only [List.mem_cons, exists_eq_or_imp, normalizeCommEmail_TrimSpace, List.mem_map,
    exists_exists_and_eq_and]

/-- **The envelope names whom the guards examined** just where the copies read the same once more. -/
theorem sameAddresses_iff (hemail : req.channel = .email) {identifier messageID : String} {now : Time} :
    SameAddresses ((outboundInput identifier messageID req now).recipients ParseAddress)
      (soulCommBoundaryRecipients ParseAddress req) ↔ RereadSame ParseAddress req := by
  refine forall_congr' fun key => ?_
  rw [mem_boundary_keys hemail]
  simp only [List.mem_map, mem_envelope]

end Compare

/-! ## What passes the guards -/

section Passing

variable {ParseAddress : Bytes → Option String} {s : GuardStore} {req : validatedSoulCommSendRequest}
  {identity : Option String}

/-- The preferences of an agent that a first message meets. -/
structure MeetsPreferences (s : GuardStore) (identity : Option String) (req : validatedSoulCommSendRequest)
    (prefs : SoulAgentContactPreferences) : Prop where
  soul : prefs.FirstContactRequireSoul = true → ∃ id, identity = some id ∧ TrimSpace id ≠ ""
  reputation : ∀ minReputation, prefs.FirstContactRequireReputation = some minReputation →
    ∃ score, s.reputation req.agentIDHex = .found score ∧ minReputation ≤ score

theorem reputation_of_none {minReputation : Rat}
    (h : enforceSoulCommRecipientReputationPolicy s req minReputation = none) :
    ∃ score, s.reputation req.agentIDHex = .found score ∧ minReputation ≤ score := by
  unfold enforceSoulCommRecipientReputationPolicy at h
  dsimp only at h
  cases hread : s.reputation req.agentIDHex with
  | found score =>
      rw [hread] at h
      dsimp only at h
      split_ifs at h with hle
      exact ⟨score, rfl, hle⟩
  | notFound =>
      rw [hread] at h
      cases h
  | failed =>
      rw [hread] at h
      cases h

theorem MeetsPreferences.of_enforce {recipient : soulCommFirstContactRecipient} {enforced : Bool}
    (hagent : TrimSpace recipient.agentID ≠ "")
    (h : enforceSoulCommRecipientFirstContactPolicy s identity req recipient = .ok enforced) :
    MeetsPreferences s identity req recipient.preferences := by
  unfold enforceSoulCommRecipientFirstContactPolicy at h
  dsimp only at h
  rw [if_neg hagent] at h
  split_ifs at h with hsoul
  split at h
  · cases h
  · rename_i hreputation
    refine ⟨fun hrequired => ?_, fun minReputation hmin => ?_⟩
    · rw [hrequired, Bool.true_and] at hsoul
      cases identity with
      | none => exact absurd rfl hsoul
      | some id =>
          refine ⟨id, rfl, fun hblank => hsoul ?_⟩
          rw [Option.all_some, hblank]
          rfl
    · rw [hmin, Option.bind_some] at hreputation
      exact reputation_of_none hreputation

/-- Every recipient that the loop goes through has passed. -/
theorem enforceRecipients_passed {l : List soulCommFirstContactRecipient} {before after : Bool}
    (h : enforceRecipients s identity req before l = .ok after) :
    ∀ recipient ∈ l, ∃ enforced,
      enforceSoulCommRecipientFirstContactPolicy s identity req recipient = .ok enforced := by
  induction l generalizing before with
  | nil => exact fun recipient hmem => absurd hmem List.not_mem_nil
  | cons recipient l ih =>
      rw [enforceRecipients] at h
      cases hone : enforceSoulCommRecipientFirstContactPolicy s identity req recipient with
      | error appErr =>
          rw [hone] at h
          cases h
      | ok enforced =>
          rw [hone] at h
          exact List.forall_mem_cons.2 ⟨⟨enforced, hone⟩, ih h⟩

/-- Every address that belongs to an agent with preferences is loaded. -/
theorem mem_loadRecipients {channel : CommChannel} {l : List String}
    {recipients : List soulCommFirstContactRecipient}
    (h : loadSoulCommFirstContactRecipients s channel l = .ok recipients) {address : String}
    (haddress : address ∈ l) {recipient : soulCommFirstContactRecipient}
    (hload : loadSoulCommFirstContactRecipient s channel address = .ok (some recipient)) :
    recipient ∈ recipients := by
  induction l generalizing recipients with
  | nil => exact absurd haddress List.not_mem_nil
  | cons first l ih =>
      rw [loadSoulCommFirstContactRecipients] at h
      cases hfirst : loadSoulCommFirstContactRecipient s channel first with
      | error appErr =>
          rw [hfirst] at h
          cases h
      | ok loaded =>
          rw [hfirst] at h
          dsimp only at h
          cases hrest : loadSoulCommFirstContactRecipients s channel l with
          | error appErr =>
              rw [hrest] at h
              cases h
          | ok rest =>
              rw [hrest] at h
              rw [← Except.ok.inj h, List.mem_append]
              rcases List.mem_cons.1 haddress with rfl | haddress
              · -- the first address is the one that was loaded
                rw [hload] at hfirst
                rw [← Except.ok.inj hfirst]
                exact Or.inl (List.mem_singleton_self _)
              · exact Or.inr (ih hrest haddress)

/-- A loaded recipient belongs to an agent. -/
theorem agentID_of_load {channel : CommChannel} {address : String} {recipient : soulCommFirstContactRecipient}
    (h : loadSoulCommFirstContactRecipient s channel address = .ok (some recipient)) :
    TrimSpace recipient.agentID ≠ "" := by
  unfold loadSoulCommFirstContactRecipient at h
  cases hlookup : lookupSoulCommRecipientAgentID s channel address with
  | failed =>
      rw [hlookup] at h
      cases h
  | notFound =>
      rw [hlookup] at h
      cases h
  | found agentID =>
      rw [hlookup] at h
      dsimp only at h
      cases hprefs : s.preferences agentID with
      | failed =>
          rw [hprefs] at h
          cases h
      | notFound =>
          rw [hprefs] at h
          cases h
      | found prefs =>
          rw [hprefs] at h
          rw [← Option.some.inj (Except.ok.inj h)]
          -- the index answers with an agent only if its identifier is not blank
          unfold lookupSoulCommRecipientAgentID at hlookup
          dsimp only at hlookup
          split at hlookup
          · split_ifs at hlookup with hblank
            rw [← Lookup.found.inj hlookup, TrimSpace_ToLower_TrimSpace]
            exact hblank
          · cases hlookup
          · cases hlookup

/-- **First contacts.** Every examined address of an agent with preferences meets them. -/
theorem firstContact_passed {decision : Option Bool}
    (h : enforceSoulCommFirstContactPolicy ParseAddress s identity req = .ok decision) :
    ∀ address ∈ soulCommBoundaryRecipients ParseAddress req, ∀ recipient,
      loadSoulCommFirstContactRecipient s req.channel address = .ok (some recipient) →
      MeetsPreferences s identity req recipient.preferences := by
  intro address haddress recipient hload
  unfold enforceSoulCommFirstContactPolicy at h
  cases hall : loadSoulCommFirstContactRecipients s req.channel
      (soulCommBoundaryRecipients ParseAddress req) with
  | error appErr =>
      rw [hall] at h
      cases h
  | ok recipients =>
      rw [hall] at h
      dsimp only at h
      cases hloop : enforceRecipients s identity req false recipients with
      | error appErr =>
          rw [hloop] at h
          cases h
      | ok after =>
          obtain ⟨enforced, hone⟩ :=
            enforceRecipients_passed hloop recipient (mem_loadRecipients hall haddress hload)
          exact .of_enforce (agentID_of_load hload) hone

/-- The activity that stands for a prior conversation with the address under the token of the reply. -/
def PriorConversation (ParseAddress : Bytes → Option String) (req : validatedSoulCommSendRequest)
    (items : List BoundaryActivity) (address : String) : Prop :=
  ∃ item ∈ items, item.matchesReply ParseAddress req.channel.text
    (soulCommNormalizeBoundaryCounterparty ParseAddress req.channel.text address) (TrimSpace req.inReplyTo) = true

/-- **Replies.** There was a conversation with every examined address, unless the reply stays in a stored
    thread and has no copies. -/
theorem reply_passed (h : enforceSoulCommReplyBoundary ParseAddress s req = none) :
    storedThreadReply req = true ∨
      ∃ items, listSoulCommReplyBoundaryActivities s req.agentIDHex req.channel.text 500 = some items ∧
        ∀ address ∈ soulCommBoundaryRecipients ParseAddress req,
          PriorConversation ParseAddress req items address := by
  unfold enforceSoulCommReplyBoundary at h
  dsimp only at h
  split_ifs at h with hstored hnone
  · exact Or.inl hstored
  · right
    cases hlist : listSoulCommReplyBoundaryActivities s req.agentIDHex req.channel.text 500 with
    | none =>
        rw [hlist] at h
        cases h
    | some items =>
        rw [hlist] at h
        dsimp only at h
        split_ifs at h with hall
        refine ⟨items, rfl, fun address haddress => ?_⟩
        have hmatch := List.all_eq_true.1 hall address haddress
        unfold soulCommReplyBoundaryMatchesRecipient at hmatch
        dsimp only at hmatch
        rw [(text_normalised req.channel).1] at hmatch
        split_ifs at hmatch
        exact List.any_eq_true.1 hmatch

/-- **Nobody is written to unasked** if and only if the copies, read once more, are the same addresses up to
    case: then the envelope names just the addresses that the guards examined. Each of these has a prior
    conversation in a reply that is not one of a stored thread without copies, and its preferences are met
    in any other message. -/
theorem recipients_examined {rate : CommStore} {now clock : Time} {decision : Option Bool}
    {identifier messageID : String} {raw : Bytes} {recipients : List String}
    (hemail : req.channel = .email)
    (hguards : enforceSoulCommSendGuards ParseAddress s rate identity req now = .ok decision)
    (hbuild : buildOutboundEmailRFC5322 ParseAddress clock (outboundInput identifier messageID req now)
      = .ok (raw, recipients)) :
    (SameAddresses recipients (soulCommBoundaryRecipients ParseAddress req) ↔ RereadSame ParseAddress req) ∧
      (req.inReplyTo ≠ "" → storedThreadReply req = true ∨
        ∃ items, listSoulCommReplyBoundaryActivities s req.agentIDHex req.channel.text 500 = some items ∧
          ∀ address ∈ soulCommBoundaryRecipients ParseAddress req,
            PriorConversation ParseAddress req items address) ∧
      (req.inReplyTo = "" → ∀ address ∈ soulCommBoundaryRecipients ParseAddress req, ∀ recipient,
        loadSoulCommFirstContactRecipient s req.channel address = .ok (some recipient) →
        MeetsPreferences s identity req recipient.preferences) := by
  rw [(build_ok hbuild).2]
  refine ⟨sameAddresses_iff hemail, fun hreply => ?_, fun hfirst => ?_⟩
  · unfold enforceSoulCommSendGuards at hguards
    split at hguards
    · cases hguards
    · rw [if_neg hreply] at hguards
      split at hguards
      · cases hguards
      · rename_i hboundary
        exact reply_passed hboundary
  · unfold enforceSoulCommSendGuards at hguards
    split at hguards
    · cases hguards
    · rw [if_pos hfirst] at hguards
      exact firstContact_passed hguards

end Passing

/-! ## A copy that reads as somebody else -/

def bobQuoted : String := "\"bob\"@y.com"

def bobQuotedTwice : String := "\"\\\"bob\\\"\"@y.com"

def bobQuotedThrice : String := "\"\\\"\\\\\\\"bob\\\\\\\"\\\"\"@y.com"

/-- What `mail.ParseAddress` reads: quotes around the name of an address go, and those inside them stay. -/
def readings : List (String × String) :=
  [("a@x.y", "a@x.y"), ("b@x.y", "b@x.y"), (bobQuotedThrice, bobQuotedTwice), (bobQuotedTwice, bobQuoted),
    (bobQuoted, "bob@y.com")]

def readingParseAddress (raw : Bytes) : Option String :=
  (readings.find? fun reading => bytes reading.1 == raw).map Prod.snd

theorem sampleRequest_agent : ToLower (TrimSpace "a") ≠ "" := by decide

/-- A request to `b@x.y` with copies, from an agent that has sent nothing. -/
def sampleRequest (cc : List String) : validatedSoulCommSendRequest where
  channel := .email
  agentIDHex := "a"
  To := "b@x.y"
  cc := cc
  bcc := []
  replyTo := ""
  subject := "s"
  body := "t"
  inReplyTo := ""
  providerReplyTo := ""
  threadID := ""
  idempotencyKey := ""
  actedBy := ""
  agent := sampleRequest_agent

def noActivities : Activities := ⟨[], List.nodup_nil⟩

def emptyRate : CommStore := ⟨fun _ => noActivities, false, false⟩

/-- No address belongs to an agent. -/
def emptyGuardStore : GuardStore :=
  ⟨fun _ => some [], fun _ => .notFound, fun _ => .notFound, fun _ => .notFound, fun _ => .notFound, fun _ => ""⟩

theorem normalizeCommEmail_reading {r : String × String} (h : r ∈ readings) :
    normalizeCommEmail readingParseAddress (bytes r.1) = some r.2 := by
  have hall : ∀ r ∈ readings, bytes r.1 ≠ [] ∧ TrimSpace r.1 = r.1 ∧
      readingParseAddress (bytes r.1) = some r.2 ∧ TrimSpace r.2 = r.2 ∧ r.2 ≠ "" := by decide
  obtain ⟨hne, htrim, hread, htrim', hne'⟩ := hall r h
  rw [normalizeCommEmail, TrimSpaceBytes_bytes, htrim, if_neg hne, hread, Option.bind_some, htrim', if_neg hne']

theorem loadRecipients_empty (channel : CommChannel) (l : List String) :
    loadSoulCommFirstContactRecipients emptyGuardStore channel l = .ok [] := by
  have hone : ∀ address, loadSoulCommFirstContactRecipient emptyGuardStore channel address = .ok none := by
    intro address
    cases channel <;> rfl
  induction l with
  | nil => rfl
  | cons address l ih =>
      rw [loadSoulCommFirstContactRecipients, hone, ih]
      rfl

theorem guards_sample (cc : List String) (now : Time) : enforceSoulCommSendGuards readingParseAddress
    emptyGuardStore emptyRate none (sampleRequest cc) now = .ok none := by
  have htext := text_normalised .email
  have hcount : ∀ (fails : Bool) since scanLimit, fails = false →
      countSoulOutboundCommSince emptyRate fails "a" CommChannel.email.text since scanLimit = .ok 0 := by
    rintro fails since scanLimit rfl
    rw [countSoulOutboundCommSince]
    simp [sampleRequest_agent, htext.1, htext.2, emptyRate, noActivities, newestFirst]
  have hrate : enforceRateLimit emptyRate (sampleRequest cc) now = .ok () := by
    have hhour := hcount emptyRate.hourFails (now.Add (-Hour)) 250 rfl
    have hday := hcount emptyRate.dayFails (now.Add (-24 * Hour)) 500 rfl
    have hchannel : (sampleRequest cc).channel = .email := rfl
    have hid : (sampleRequest cc).agentIDHex = "a" := rfl
    rw [enforceRateLimit, hchannel, hid, hhour, hday]
    rfl
  have hreply : (sampleRequest cc).inReplyTo = "" := rfl
  rw [enforceSoulCommSendGuards, hrate]
  dsimp only
  rw [if_pos hreply, enforceSoulCommFirstContactPolicy, loadRecipients_empty]
  rfl

theorem build_sample (cc : List String) : ∃ raw, buildOutboundEmailRFC5322 readingParseAddress ⟨1, .utc⟩
    (outboundInput "a@x.y" "m" (sampleRequest cc) ⟨1, .utc⟩)
      = .ok (raw, (outboundInput "a@x.y" "m" (sampleRequest cc) ⟨1, .utc⟩).recipients readingParseAddress) := by
  have htrim : TrimSpace "a@x.y" = "a@x.y" := by decide
  have href : mailboxProviderReplyReference (sampleRequest cc) = "" := by
    have hempty : TrimSpace "" = "" := by decide
    rw [mailboxProviderReplyReference]
    exact (if_pos hempty).trans hempty
  have hid : "<" ++ "m" ++ "@lessersoul.ai>" = "<m@lessersoul.ai>" := by decide
  have hinput : outboundInput "a@x.y" "m" (sampleRequest cc) ⟨1, .utc⟩ = sampleInput (cc.map bytes) [] := by
    rw [outboundInput, htrim, href, hid]
    rfl
  rw [hinput]
  exact sample_accepted (by decide) (by decide) _ _

/-- A copy to the author reads as itself. -/
theorem recipients_examined_sample : ∃ raw recipients,
    buildOutboundEmailRFC5322 readingParseAddress ⟨1, .utc⟩
      (outboundInput "a@x.y" "m" (sampleRequest ["a@x.y"]) ⟨1, .utc⟩) = .ok (raw, recipients) ∧
    SameAddresses recipients (soulCommBoundaryRecipients readingParseAddress (sampleRequest ["a@x.y"])) := by
  obtain ⟨raw, hraw⟩ := build_sample ["a@x.y"]
  refine ⟨raw, _, hraw, (recipients_examined rfl (guards_sample ["a@x.y"] ⟨1, .utc⟩) hraw).1.2 ?_⟩
  refine rereadSame_of_readsBack fun email hemail => ?_
  obtain ⟨text, htext, hread⟩ := mem_copies.1 hemail
  have ha := normalizeCommEmail_reading (r := ("a@x.y", "a@x.y")) (by decide)
  rw [List.mem_singleton.1 htext, ha] at hread
  rw [← Option.some.inj hread]
  exact ha

/-- A name quoted three times: the guards ask about `"bob"@y.com`, and the message goes to `bob@y.com`. -/
theorem not_recipients_examined :
    validateSoulCommEmailRequestRecipients readingParseAddress "b@x.y" [bobQuotedThrice] [] "s"
      = .ok ("b@x.y", [bobQuotedTwice], []) ∧
    enforceSoulCommSendGuards readingParseAddress emptyGuardStore emptyRate none
      (sampleRequest [bobQuotedTwice]) ⟨1, .utc⟩ = .ok none ∧
    ∃ raw recipients, buildOutboundEmailRFC5322 readingParseAddress ⟨1, .utc⟩
        (outboundInput "a@x.y" "m" (sampleRequest [bobQuotedTwice]) ⟨1, .utc⟩) = .ok (raw, recipients) ∧
      "bob@y.com" ∈ recipients ∧
      "bob@y.com" ∉ (soulCommBoundaryRecipients readingParseAddress (sampleRequest [bobQuotedTwice])).map
        ToLower := by
  have htwice := normalizeCommEmail_reading (r := (bobQuotedTwice, bobQuoted)) (by decide)
  have honce := normalizeCommEmail_reading (r := (bobQuoted, "bob@y.com")) (by decide)
  have hto := normalizeCommEmail_reading (r := ("b@x.y", "b@x.y")) (by decide)
  obtain ⟨raw, hraw⟩ := build_sample [bobQuotedTwice]
  refine ⟨by decide +kernel, guards_sample _ _, raw, _, hraw, ?_, ?_⟩
  · refine mem_envelope.2 (List.mem_append_right _ (List.mem_filterMap.2 ⟨bobQuoted, ?_, honce⟩))
    exact mem_copies.2 ⟨_, List.mem_cons_self, htwice⟩
  · rw [mem_boundary_keys rfl, List.mem_map]
    rintro ⟨email, hemail, hkey⟩
    rcases List.mem_append.1 hemail with h | h
    · rw [mem_receiver] at h
      rw [← Option.some.inj (hto.symm.trans h)] at hkey
      exact absurd hkey (by decide)
    · obtain ⟨text, htext, hread⟩ := mem_copies.1 h
      rw [List.mem_singleton.1 htext] at hread
      rw [← Option.some.inj (htwice.symm.trans hread)] at hkey
      exact absurd hkey (by decide)

end LesserHost.SoulComm
