import LesserHost.ControlPlane.Store
import LesserHost.Go.Runes
import LesserHost.Lib.HeaderBlock

set_option autoImplicit false

/-! # Outbound mail

`buildOutboundEmailRFC5322` writes a message and the recipients of its envelope from the texts of a request,
which are any bytes. Every header value goes through `safeRFC5322HeaderValue`, which leaves no line break, so
a reader finds the fields that were written and the body behind the first empty line. The list of blind
copies takes part in the envelope only.

Addresses are read by `mail.ParseAddress`, which is any function here. -/

namespace LesserHost.SoulComm

open LesserHost.Go LesserHost.Go.Bytes
open LesserHost.ControlPlane (AppTheoryError)
open HeaderBlock (crlf readMessage writeField writeMessage readMessage_writeMessage)

/-! ## Header values -/

/-- Line breaks and tabs become spaces, the other control characters go. -/
def cleanRune (c : Char) : Option Char :=
  if c = '\r' ∨ c = '\n' ∨ c = '\t' then some ' '
  else if c.toNat < 0x20 ∨ c.toNat = 0x7f then none
  else some c

def safeRFC5322HeaderValue (value : Bytes) : String :=
  let value := TrimSpace (runeText value)
  if value = "" then "" else Join (Fields (String.ofList (value.toList.filterMap cleanRune))) " "

def emailMessageIDReference (value : Bytes) : String :=
  let value := safeRFC5322HeaderValue value
  if value = "" then ""
  else
    let trimmed := Trim value "<>"
    if trimmed.toList.contains '@' then "<" ++ trimmed ++ ">" else "<" ++ trimmed ++ "@lessersoul.ai>"

def weekdays : List String := ["Mon", "Tue", "Wed", "Thu", "Fri", "Sat", "Sun"]

def monthNames : List String :=
  ["Jan", "Feb", "Mar", "Apr", "May", "Jun", "Jul", "Aug", "Sep", "Oct", "Nov", "Dec"]

/-- `t.Format(time.RFC1123Z)`, for a time in UTC. The first of January of the year 1 is a Monday. -/
def FormatRFC1123Z (t : Time) : String :=
  let seconds := (t.nanos / Second).toNat
  let (year, month, day) := civilDate (seconds / 86400)
  let rest := seconds % 86400
  weekdays.getD (seconds / 86400 % 7) "" ++ ", " ++ padDecimal 2 day ++ " " ++ monthNames.getD (month - 1) ""
    ++ " " ++ padDecimal 4 year ++ " " ++ padDecimal 2 (rest / 3600) ++ ":" ++ padDecimal 2 (rest % 3600 / 60)
    ++ ":" ++ padDecimal 2 (rest % 60) ++ " +0000"

example : FormatRFC1123Z ⟨738944 * 86400 * Second, .utc⟩ = "Thu, 29 Feb 2024 00:00:00 +0000" := by
  decide

/-! ## Addresses -/

section Addresses

variable (ParseAddress : Bytes → Option String)

/-- The address of one entry of a list; none where the loop goes on without it. -/
def normalizeCommEmail (raw : Bytes) : Option String :=
  let raw := TrimSpaceBytes raw
  if raw = [] then none
  else (ParseAddress raw).bind fun addr => if TrimSpace addr = "" then none else some (TrimSpace addr)

/-- `sort.Strings` -/
def sortStrings (l : List String) : List String := l.mergeSort fun s t => decide (s ≤ t)

def collectAddress (out : List String) (raw : Bytes) : List String :=
  match normalizeCommEmail ParseAddress raw with
  | none => out
  | some email => if email ∈ out then out else out ++ [email]

def normalizeCommEmailList (input : List Bytes) : List String :=
  sortStrings (input.foldl (collectAddress ParseAddress) [])

def validateCommEmailAddress (value : Bytes) (field : String) : Option AppTheoryError :=
  if (ParseAddress value).isNone then some ⟨"comm.invalid_request", field ++ " must be an email address"⟩
  else none

end Addresses

/-! ## The message -/

structure outboundEmailRFC5322Input where
  From : Bytes
  To : Bytes
  CC : List Bytes
  BCC : List Bytes
  ReplyTo : Bytes
  Subject : Bytes
  Body : Bytes
  MessageID : Bytes
  InReplyToMessageID : Bytes
  SentAt : Time

structure outboundEmailSafeHeaders where
  From : String
  To : String
  ReplyTo : String
  Subject : String
  MessageID : String

def invalidPayload : AppTheoryError := ⟨"comm.invalid_request", "invalid email payload"⟩

def validateOutboundEmailRequiredFields (values : List Bytes) : Option AppTheoryError :=
  if values.any fun value => TrimSpaceBytes value = [] then some invalidPayload else none

def validateOutboundEmailEnvelope (ParseAddress : Bytes → Option String) (from_ to_ replyTo : Bytes) :
    Option AppTheoryError :=
  [(from_, "from"), (to_, "to"), (replyTo, "replyTo")].findSome? fun field =>
    validateCommEmailAddress ParseAddress field.1 field.2

def safeRequiredOutboundEmailHeaders (from_ to_ replyTo subject messageID : Bytes) :
    Except AppTheoryError outboundEmailSafeHeaders :=
  if [from_, to_, replyTo, subject, messageID].any fun value => safeRFC5322HeaderValue value = "" then
    .error invalidPayload
  else
    .ok ⟨safeRFC5322HeaderValue from_, safeRFC5322HeaderValue to_, safeRFC5322HeaderValue replyTo,
      safeRFC5322HeaderValue subject, safeRFC5322HeaderValue messageID⟩

def appendOptionalOutboundEmailHeaders (headers : List String) (cc : List String) (inReplyTo : Bytes) :
    List String :=
  -- the blind copies have no header
  let headers :=
    if cc = [] then headers else headers ++ ["Cc: " ++ safeRFC5322HeaderValue (bytes (Join cc ", "))]
  if inReplyTo = [] then headers
  else
    let ref := safeRFC5322HeaderValue (bytes (emailMessageIDReference inReplyTo))
    if ref = "" then headers else headers ++ ["In-Reply-To: " ++ ref]

def isLineBreak (b : UInt8) : Bool := b == 0x0d || b == 0x0a

/-- `strings.TrimRight(input.Body, "\r\n")` -/
def outboundEmailRFC5322Input.body (input : outboundEmailRFC5322Input) : Bytes :=
  input.Body.rdropWhile isLineBreak

def outboundEmailRFC5322Input.replyTo (input : outboundEmailRFC5322Input) : Bytes :=
  let replyTo := TrimSpaceBytes input.ReplyTo
  if replyTo = [] then TrimSpaceBytes input.From else replyTo

def outboundEmailRFC5322Input.date (now : Time) (input : outboundEmailRFC5322Input) : Time :=
  if input.SentAt.UTC.IsZero then now.UTC else input.SentAt.UTC

def outboundEmailRFC5322Input.recipients (ParseAddress : Bytes → Option String)
    (input : outboundEmailRFC5322Input) : List String :=
  let cc := normalizeCommEmailList ParseAddress input.CC
  let bcc := normalizeCommEmailList ParseAddress input.BCC
  normalizeCommEmailList ParseAddress (TrimSpaceBytes input.To :: (cc.map bytes ++ bcc.map bytes))

/-- The headers that every message has. -/
def requiredHeaders (safeHeaders : outboundEmailSafeHeaders) (date : Time) : List String :=
  ["From: " ++ safeHeaders.From, "To: " ++ safeHeaders.To, "Reply-To: " ++ safeHeaders.ReplyTo,
    "Subject: " ++ safeHeaders.Subject, "Date: " ++ FormatRFC1123Z date,
    "Message-ID: " ++ safeHeaders.MessageID, "MIME-Version: 1.0",
    "Content-Type: text/plain; charset=utf-8", "Content-Transfer-Encoding: 8bit"]

def buildOutboundEmailRFC5322 (ParseAddress : Bytes → Option String) (now : Time)
    (input : outboundEmailRFC5322Input) : Except AppTheoryError (Bytes × List String) :=
  let from_ := TrimSpaceBytes input.From
  let to_ := TrimSpaceBytes input.To
  let subject := TrimSpaceBytes input.Subject
  let messageID := TrimSpaceBytes input.MessageID
  let inReplyTo := TrimSpaceBytes input.InReplyToMessageID
  match validateOutboundEmailRequiredFields [from_, to_, subject, input.body, messageID] with
  | some appErr => .error appErr
  | none =>
      match validateOutboundEmailEnvelope ParseAddress from_ to_ input.replyTo with
      | some appErr => .error appErr
      | none =>
          if input.recipients ParseAddress = [] then .error ⟨"comm.invalid_request", "no recipients"⟩
          else
            match safeRequiredOutboundEmailHeaders from_ to_ input.replyTo subject messageID with
            | .error appErr => .error appErr
            | .ok safeHeaders =>
                let headers := appendOptionalOutboundEmailHeaders
                  (requiredHeaders safeHeaders (input.date now))
                  (normalizeCommEmailList ParseAddress input.CC) inReplyTo
                .ok (bytes (Join headers "\r\n") ++ bytes "\r\n\r\n" ++ input.body ++ bytes "\r\n",
                  input.recipients ParseAddress)

/-! ## No line breaks -/

def NoBreak (s : String) : Prop := '\r' ∉ s.toList ∧ '\n' ∉ s.toList

instance (s : String) : Decidable (NoBreak s) := inferInstanceAs (Decidable (_ ∧ _))

theorem NoBreak.append {s t : String} (hs : NoBreak s) (ht : NoBreak t) : NoBreak (s ++ t) := by
  rw [NoBreak, String.toList_append, List.mem_append, List.mem_append, not_or, not_or]
  exact ⟨⟨hs.1, ht.1⟩, hs.2, ht.2⟩

/-- Text of which every character comes from text without line breaks. -/
theorem NoBreak.of_forall {s : String} (h : ∀ c ∈ s.toList, c ≠ '\r' ∧ c ≠ '\n') : NoBreak s :=
  ⟨fun hmem => (h _ hmem).1 rfl, fun hmem => (h _ hmem).2 rfl⟩

theorem NoBreak.cr_not_mem {s : String} (h : NoBreak s) : (0x0d : UInt8) ∉ bytes s := by
  intro hmem
  obtain ⟨c, hc, hnat⟩ := mem_bytes_ascii hmem (by decide)
  have hcr : c = '\r' := Char.toNat_inj.1 hnat
  exact h.1 (hcr ▸ hc)

theorem mem_Join {l : List String} {sep : String} {c : Char} (h : c ∈ (Join l sep).toList) :
    c ∈ sep.toList ∨ ∃ w ∈ l, c ∈ w.toList := by
  induction l with
  | nil =>
      rw [Join, String.intercalate_nil] at h
      exact absurd h List.not_mem_nil
  | cons w l ih =>
      by_cases hl : l = []
      · rw [hl, Join, String.intercalate_singleton] at h
        exact Or.inr ⟨w, List.mem_cons_self, h⟩
      · rw [Join, String.intercalate_cons_of_ne_nil hl, String.toList_append, String.toList_append,
          List.mem_append, List.mem_append] at h
        rcases h with (h | h) | h
        · exact Or.inr ⟨w, List.mem_cons_self, h⟩
        · exact Or.inl h
        · exact (ih h).imp_right fun ⟨u, hu, hc⟩ => ⟨u, List.mem_cons_of_mem _ hu, hc⟩

theorem mem_of_mem_Fields {s w : String} {c : Char} (h : w ∈ Fields s) (hc : c ∈ w.toList) :
    c ∈ s.toList := by
  obtain ⟨piece, hpiece, rfl⟩ := List.mem_map.1 h
  rw [String.toList_ofList] at hc
  exact (mem_piece (List.mem_filter.1 hpiece).1 hc).1

theorem cleanRune_noBreak {c d : Char} (h : cleanRune c = some d) : d ≠ '\r' ∧ d ≠ '\n' := by
  unfold cleanRune at h
  split_ifs at h with hbreak hcontrol
  · obtain rfl := Option.some.inj h
    decide
  · obtain rfl := Option.some.inj h
    rw [not_or, not_or] at hbreak
    exact ⟨hbreak.1, hbreak.2.1⟩

/-- **A header value has no line break**, whatever the bytes it is made from. -/
theorem safeRFC5322HeaderValue_noBreak (value : Bytes) : NoBreak (safeRFC5322HeaderValue value) := by
  unfold safeRFC5322HeaderValue
  dsimp only
  split_ifs
  · decide
  · -- a character of the value is the joining space, or one of a word that the mapping left
    refine .of_forall fun c hc => ?_
    rcases mem_Join hc with hc | ⟨w, hw, hc⟩
    · obtain rfl := List.mem_singleton.1 hc
      decide
    · have hmem := mem_of_mem_Fields hw hc
      rw [String.toList_ofList] at hmem
      obtain ⟨d, -, hd⟩ := List.mem_filterMap.1 hmem
      exact cleanRune_noBreak hd

theorem padDecimal_noBreak (width n : Nat) : NoBreak (padDecimal width n) := by
  refine .of_forall fun c hc => ?_
  have hdigit : c.isDigit = true := by
    rw [padDecimal, String.toList_ofList, List.mem_append] at hc
    rcases hc with hc | hc
    · rw [List.eq_of_mem_replicate hc]
      decide
    · exact Nat.isDigit_of_mem_toDigits (by decide) (by decide) hc
  refine ⟨?_, ?_⟩ <;>
    · rintro rfl
      exact absurd hdigit (by decide)

theorem getD_noBreak {l : List String} (h : ∀ s ∈ l, NoBreak s) (i : Nat) : NoBreak (l.getD i "") := by
  rw [List.getD_eq_getElem?_getD]
  cases hi : l[i]? with
  | none => exact ⟨List.not_mem_nil, List.not_mem_nil⟩
  | some s => exact h s (List.mem_of_getElem? hi)

theorem FormatRFC1123Z_noBreak (t : Time) : NoBreak (FormatRFC1123Z t) := by
  have hday : ∀ s ∈ weekdays, NoBreak s := by decide
  have hmonth : ∀ s ∈ monthNames, NoBreak s := by decide
  unfold FormatRFC1123Z
  dsimp only
  refine .append (.append (.append (.append (.append (.append (.append (.append (.append (.append (.append
    (.append (.append (getD_noBreak hday _) ?_) (padDecimal_noBreak _ _)) ?_) (getD_noBreak hmonth _)) ?_)
    (padDecimal_noBreak _ _)) ?_) (padDecimal_noBreak _ _)) ?_) (padDecimal_noBreak _ _)) ?_)
    (padDecimal_noBreak _ _)) ?_ <;> decide

/-! ## What a reader finds -/

/-- The fields of a message, in order. -/
def headerFields (ParseAddress : Bytes → Option String) (now : Time) (input : outboundEmailRFC5322Input) :
    List (String × String) :=
  let cc := normalizeCommEmailList ParseAddress input.CC
  let inReplyTo := TrimSpaceBytes input.InReplyToMessageID
  let ref := safeRFC5322HeaderValue (bytes (emailMessageIDReference inReplyTo))
  [("From", safeRFC5322HeaderValue (TrimSpaceBytes input.From)),
    ("To", safeRFC5322HeaderValue (TrimSpaceBytes input.To)),
    ("Reply-To", safeRFC5322HeaderValue input.replyTo),
    ("Subject", safeRFC5322HeaderValue (TrimSpaceBytes input.Subject)),
    ("Date", FormatRFC1123Z (input.date now)),
    ("Message-ID", safeRFC5322HeaderValue (TrimSpaceBytes input.MessageID)),
    ("MIME-Version", "1.0"), ("Content-Type", "text/plain; charset=utf-8"),
    ("Content-Transfer-Encoding", "8bit")]
    ++ (if cc = [] then [] else [("Cc", safeRFC5322HeaderValue (bytes (Join cc ", ")))])
    ++ (if inReplyTo = [] ∨ ref = "" then [] else [("In-Reply-To", ref)])

def headerLine (field : String × String) : String := field.1 ++ ": " ++ field.2

def fieldBytes (field : String × String) : Bytes × Bytes := (bytes field.1, bytes field.2)

def headerNames : List String :=
  ["From", "To", "Reply-To", "Subject", "Date", "Message-ID", "MIME-Version", "Content-Type",
    "Content-Transfer-Encoding", "Cc", "In-Reply-To"]

section Build

variable {ParseAddress : Bytes → Option String} {now : Time} {input : outboundEmailRFC5322Input}

theorem mem_headerFields {field : String × String} (h : field ∈ headerFields ParseAddress now input) :
    field.1 ∈ headerNames ∧ NoBreak field.2 := by
  unfold headerFields at h
  dsimp only at h
  rw [List.mem_append, List.mem_append] at h
  rcases h with (h | h) | h
  · simp only [List.mem_cons, List.not_mem_nil, or_false] at h
    rcases h with h | h | h | h | h | h | h | h | h <;> rw [h] <;> refine ⟨by simp [headerNames], ?_⟩ <;>
      dsimp only
    · exact safeRFC5322HeaderValue_noBreak _
    · exact safeRFC5322HeaderValue_noBreak _
    · exact safeRFC5322HeaderValue_noBreak _
    · exact safeRFC5322HeaderValue_noBreak _
    · exact FormatRFC1123Z_noBreak _
    · exact safeRFC5322HeaderValue_noBreak _
    · decide
    · decide
    · decide
  · split_ifs at h
    · exact absurd h List.not_mem_nil
    · rw [List.mem_singleton.1 h]
      refine ⟨by simp [headerNames], ?_⟩
      dsimp only
      exact safeRFC5322HeaderValue_noBreak _
  · split_ifs at h
    · exact absurd h List.not_mem_nil
    · rw [List.mem_singleton.1 h]
      refine ⟨by simp [headerNames], ?_⟩
      dsimp only
      exact safeRFC5322HeaderValue_noBreak _

theorem writable_fieldBytes {field : String × String} (hname : field.1 ∈ headerNames) (h : NoBreak field.2) :
    HeaderBlock.Writable (fieldBytes field) := by
  have hnames : ∀ name ∈ headerNames, (0x3a : UInt8) ∉ bytes name ∧ (0x0d : UInt8) ∉ bytes name := by
    decide
  exact ⟨(hnames _ hname).1, (hnames _ hname).2, h.cr_not_mem⟩

theorem bytes_headerLine (field : String × String) : bytes (headerLine field) = writeField (fieldBytes field) := by
  have hsep : bytes ": " = [0x3a, 0x20] := by decide
  rw [headerLine, bytes_append, bytes_append, hsep, List.append_assoc]
  rfl

/-- The lines of the header block, joined. -/
theorem bytes_Join_lines {fields : List (String × String)} (h : fields ≠ []) (rest : Bytes) :
    bytes (Join (fields.map headerLine) "\r\n") ++ (bytes "\r\n\r\n" ++ rest)
      = writeMessage (fields.map fieldBytes) rest := by
  have hone : bytes "\r\n" = crlf := by decide
  have htwo : bytes "\r\n\r\n" = crlf ++ crlf := by decide
  rw [htwo]
  induction fields with
  | nil => exact absurd rfl h
  | cons field fields ih =>
      have hcons : writeMessage ((field :: fields).map fieldBytes) rest
          = writeField (fieldBytes field) ++ (crlf ++ writeMessage (fields.map fieldBytes) rest) := by
        rw [List.map_cons, writeMessage, List.flatMap_cons, List.append_assoc, List.append_assoc]
        rfl
      by_cases hfields : fields = []
      · rw [hcons, hfields, List.map_singleton, Join, String.intercalate_singleton, bytes_headerLine,
          List.append_assoc]
        rfl
      · have hne : fields.map headerLine ≠ [] := by rwa [ne_eq, List.map_eq_nil_iff]
        rw [hcons, ← ih hfields, List.map_cons, Join, String.intercalate_cons_of_ne_nil hne, bytes_append,
          bytes_append, bytes_headerLine, hone, List.append_assoc, List.append_assoc]
        rfl

/-- The headers of the code are the lines of the fields. -/
theorem headers_eq (date : Time) (hdate : date = input.date now) :
    appendOptionalOutboundEmailHeaders
      (requiredHeaders ⟨safeRFC5322HeaderValue (TrimSpaceBytes input.From),
        safeRFC5322HeaderValue (TrimSpaceBytes input.To), safeRFC5322HeaderValue input.replyTo,
        safeRFC5322HeaderValue (TrimSpaceBytes input.Subject),
        safeRFC5322HeaderValue (TrimSpaceBytes input.MessageID)⟩ date)
      (normalizeCommEmailList ParseAddress input.CC) (TrimSpaceBytes input.InReplyToMessageID)
      = (headerFields ParseAddress now input).map headerLine := by
  have hline : ∀ name before value : String, name ++ ": " = before →
      before ++ value = headerLine (name, value) := by
    rintro name before value rfl
    rfl
  have hmime : "MIME-Version: 1.0" = headerLine ("MIME-Version", "1.0") := by decide
  have htype : "Content-Type: text/plain; charset=utf-8"
      = headerLine ("Content-Type", "text/plain; charset=utf-8") := by decide
  have hencoding : "Content-Transfer-Encoding: 8bit" = headerLine ("Content-Transfer-Encoding", "8bit") := by
    decide
  rw [hdate]
  unfold appendOptionalOutboundEmailHeaders requiredHeaders headerFields
  dsimp only
  rw [hline "From" "From: " _ (by decide), hline "To" "To: " _ (by decide),
    hline "Reply-To" "Reply-To: " _ (by decide), hline "Subject" "Subject: " _ (by decide),
    hline "Date" "Date: " _ (by decide), hline "Message-ID" "Message-ID: " _ (by decide),
    hline "Cc" "Cc: " _ (by decide), hline "In-Reply-To" "In-Reply-To: " _ (by decide), hmime, htype, hencoding,
    List.map_append, List.map_append]
  by_cases hcc : normalizeCommEmailList ParseAddress input.CC = [] <;>
    by_cases hreply : TrimSpaceBytes input.InReplyToMessageID = [] <;>
      by_cases href : safeRFC5322HeaderValue (bytes (emailMessageIDReference
        (TrimSpaceBytes input.InReplyToMessageID))) = "" <;>
        simp [hcc, hreply, href]

/-- What is accepted, and what is written then. -/
theorem build_ok {raw : Bytes} {recipients : List String}
    (h : buildOutboundEmailRFC5322 ParseAddress now input = .ok (raw, recipients)) :
    raw = writeMessage ((headerFields ParseAddress now input).map fieldBytes) (input.body ++ crlf) ∧
      recipients = input.recipients ParseAddress := by
  unfold buildOutboundEmailRFC5322 at h
  dsimp only at h
  split at h
  · cases h
  · split at h
    · cases h
    · split_ifs at h with hnone
      split at h
      · cases h
      · -- the only branch that answers: the cleaned values are those of the fields
        rename_i safeHeaders hsafe
        unfold safeRequiredOutboundEmailHeaders at hsafe
        split_ifs at hsafe with hempty
        rw [← Except.ok.inj hsafe, headers_eq _ rfl] at h
        obtain ⟨hraw, hrecipients⟩ := Prod.mk.inj (Except.ok.inj h)
        refine ⟨?_, hrecipients.symm⟩
        have hcrlf : bytes "\r\n" = crlf := by decide
        have hne : headerFields ParseAddress now input ≠ [] := by
          unfold headerFields
          exact fun hnil => List.cons_ne_nil _ _ (List.append_eq_nil_iff.1 (List.append_eq_nil_iff.1 hnil).1).1
        rw [← hraw, ← bytes_Join_lines hne, hcrlf, List.append_assoc, List.append_assoc]

/-! ## The recipients -/

theorem sortStrings_sorted (l : List String) : (sortStrings l).Pairwise (· ≤ ·) := by
  refine (List.pairwise_mergeSort ?_ ?_ l).imp fun hle => of_decide_eq_true hle
  · intro a b c hab hbc
    simp only [decide_eq_true_eq] at hab hbc ⊢
    exact String.le_trans hab hbc
  · intro a b
    simpa using String.le_total a b

theorem mem_sortStrings {l : List String} {s : String} : s ∈ sortStrings l ↔ s ∈ l :=
  (List.mergeSort_perm l _).mem_iff

/-- What the loop has collected: every address once. -/
theorem foldl_addresses (l : List Bytes) (out : List String) (hout : out.Nodup) :
    (l.foldl (collectAddress ParseAddress) out).Nodup ∧
      ∀ email, email ∈ l.foldl (collectAddress ParseAddress) out
        ↔ email ∈ out ∨ ∃ raw ∈ l, normalizeCommEmail ParseAddress raw = some email := by
  induction l generalizing out with
  | nil => exact ⟨hout, fun email => by simp⟩
  | cons raw l ih =>
      rw [List.foldl_cons]
      cases hraw : normalizeCommEmail ParseAddress raw with
      | none =>
          have hstep : collectAddress ParseAddress out raw = out := by rw [collectAddress, hraw]
          rw [hstep]
          refine ⟨(ih out hout).1, fun email => ?_⟩
          rw [(ih out hout).2]
          simp only [List.mem_cons, exists_eq_or_imp, hraw, reduceCtorEq, false_or]
      | some address =>
          -- an address that is there already leaves the list as it is
          have hstep : collectAddress ParseAddress out raw
              = if address ∈ out then out else out ++ [address] := by rw [collectAddress, hraw]
          have hnodup : (collectAddress ParseAddress out raw).Nodup := by
            rw [hstep]
            split_ifs with hmem
            · exact hout
            · refine List.nodup_append.2 ⟨hout, List.nodup_cons.2 ⟨List.not_mem_nil, List.nodup_nil⟩, ?_⟩
              intro a ha b hb hab
              rw [hab, List.mem_singleton.1 hb] at ha
              exact hmem ha
          have hmem : ∀ email, email ∈ collectAddress ParseAddress out raw ↔ email ∈ out ∨ address = email := by
            intro email
            rw [hstep]
            split_ifs with hin
            · exact ⟨Or.inl, fun h => h.elim id fun heq => heq ▸ hin⟩
            · rw [List.mem_append, List.mem_singleton, eq_comm (a := email)]
          refine ⟨(ih _ hnodup).1, fun email => ?_⟩
          rw [(ih _ hnodup).2, hmem]
          simp only [List.mem_cons, exists_eq_or_imp, hraw, Option.some.injEq, or_assoc]

/-- The list holds the addresses of its entries, each once. -/
theorem mem_normalizeCommEmailList {l : List Bytes} {email : String} :
    email ∈ normalizeCommEmailList ParseAddress l ↔
      ∃ raw ∈ l, normalizeCommEmail ParseAddress raw = some email := by
  rw [normalizeCommEmailList, mem_sortStrings, (foldl_addresses l [] List.nodup_nil).2]
  simp

theorem nodup_normalizeCommEmailList (l : List Bytes) : (normalizeCommEmailList ParseAddress l).Nodup :=
  (List.mergeSort_perm _ _).nodup_iff.2 (foldl_addresses l [] List.nodup_nil).1

/-- An address that reads as itself. -/
def ReadsBack (ParseAddress : Bytes → Option String) (email : String) : Prop :=
  normalizeCommEmail ParseAddress (bytes email) = some email

theorem mem_recipients_of_bcc {email : String} (h : email ∈ normalizeCommEmailList ParseAddress input.BCC)
    (hback : ReadsBack ParseAddress email) : email ∈ input.recipients ParseAddress := by
  refine mem_normalizeCommEmailList.2 ⟨bytes email, ?_, hback⟩
  exact List.mem_cons_of_mem _ (List.mem_append_right _ (List.mem_map_of_mem h))

theorem headerFields_names : ∃ reply ∈ [[], ["In-Reply-To"]],
    (headerFields ParseAddress now input).map Prod.fst = headerNames.take 9
      ++ (if normalizeCommEmailList ParseAddress input.CC = [] then [] else ["Cc"]) ++ reply := by
  unfold headerFields
  dsimp only
  rw [List.map_append, List.map_append]
  refine ⟨_, ?_, congrArg₂ (· ++ ·) (congrArg₂ (· ++ ·) rfl ?_) rfl⟩
  · split_ifs <;> simp
  · split_ifs <;> rfl

/-- **Outbound mail.** A reader of an accepted message finds the fields of the headers in order, each value
    without line breaks, and behind the first empty line the body without its final line breaks and one line
    end. The message does not depend on the blind copies; each of them that reads as itself is a recipient,
    and no recipient comes twice. -/
theorem outbound_message {raw : Bytes} {recipients : List String}
    (h : buildOutboundEmailRFC5322 ParseAddress now input = .ok (raw, recipients)) :
    readMessage raw = some ((headerFields ParseAddress now input).map fieldBytes, input.body ++ crlf) ∧
      (∃ reply ∈ [[], ["In-Reply-To"]], (headerFields ParseAddress now input).map Prod.fst
        = headerNames.take 9 ++ (if normalizeCommEmailList ParseAddress input.CC = [] then [] else ["Cc"])
          ++ reply) ∧
      (∀ field ∈ headerFields ParseAddress now input, NoBreak field.2) ∧
      (∀ bcc raw' recipients', buildOutboundEmailRFC5322 ParseAddress now { input with BCC := bcc }
        = .ok (raw', recipients') → raw' = raw) ∧
      (∀ email ∈ normalizeCommEmailList ParseAddress input.BCC, ReadsBack ParseAddress email →
        email ∈ recipients) ∧
      recipients.Nodup := by
  obtain ⟨hraw, hrecipients⟩ := build_ok h
  have hwritable : ∀ field ∈ (headerFields ParseAddress now input).map fieldBytes,
      HeaderBlock.Writable field := by
    intro field hfield
    obtain ⟨f, hf, rfl⟩ := List.mem_map.1 hfield
    exact writable_fieldBytes (mem_headerFields hf).1 (mem_headerFields hf).2
  refine ⟨?_, ?_, fun field hfield => (mem_headerFields hfield).2, ?_, ?_, ?_⟩
  · rw [hraw, readMessage_writeMessage hwritable]
  · exact headerFields_names
  · -- neither the fields nor the body read the blind copies
    intro bcc raw' recipients' h'
    rw [(build_ok h').1, hraw]
    rfl
  · intro email hemail hback
    rw [hrecipients]
    exact mem_recipients_of_bcc hemail hback
  · rw [hrecipients]
    exact nodup_normalizeCommEmailList _

end Build

/-- The addresses `a@x.y` and `b@x.y` read as themselves. -/
def sampleParseAddress (raw : Bytes) : Option String :=
  if raw = bytes "a@x.y" then some "a@x.y" else if raw = bytes "b@x.y" then some "b@x.y" else none

/-- A message from `a@x.y` to `b@x.y`. -/
def sampleInput (cc bcc : List Bytes) : outboundEmailRFC5322Input where
  From := bytes "a@x.y"
  To := bytes "b@x.y"
  CC := cc
  BCC := bcc
  ReplyTo := []
  Subject := bytes "s"
  Body := bytes "t"
  MessageID := bytes "<m@lessersoul.ai>"
  InReplyToMessageID := []
  SentAt := ⟨1, .utc⟩

def sampleTexts : List String := ["a@x.y", "b@x.y", "s", "<m@lessersoul.ai>"]

theorem TrimSpaceBytes_sample {s : String} (h : s ∈ "t" :: sampleTexts) : TrimSpaceBytes (bytes s) = bytes s := by
  have htrim : ∀ t ∈ "t" :: sampleTexts, TrimSpace t = t := by decide
  rw [TrimSpaceBytes_bytes, htrim s h]

theorem safeRFC5322HeaderValue_sample {s : String} (h : s ∈ sampleTexts) :
    safeRFC5322HeaderValue (bytes s) = s := by
  have hclean : ∀ t ∈ sampleTexts, (if TrimSpace t = "" then "" else
      Join (Fields (String.ofList ((TrimSpace t).toList.filterMap cleanRune))) " ") = t := by decide
  rw [safeRFC5322HeaderValue, runeText_bytes]
  exact hclean s h

theorem requiredFields_sample : validateOutboundEmailRequiredFields
    [bytes "a@x.y", bytes "b@x.y", bytes "s", bytes "t", bytes "<m@lessersoul.ai>"] = none := by
  have hall : ∀ t ∈ "t" :: sampleTexts, TrimSpaceBytes (bytes t) ≠ [] := by
    intro t ht
    rw [TrimSpaceBytes_sample ht, ne_eq, bytes_eq_nil]
    revert t
    decide
  rw [validateOutboundEmailRequiredFields, if_neg]
  simp only [List.any_cons, List.any_nil, Bool.or_false, Bool.or_eq_true, decide_eq_true_eq, not_or]
  exact ⟨hall _ (by decide), hall _ (by decide), hall _ (by decide), hall _ (by decide), hall _ (by decide)⟩

theorem safeHeaders_sample : ∃ safeHeaders, safeRequiredOutboundEmailHeaders (bytes "a@x.y") (bytes "b@x.y")
    (bytes "a@x.y") (bytes "s") (bytes "<m@lessersoul.ai>") = .ok safeHeaders := by
  have hsafe : ∀ t ∈ sampleTexts, safeRFC5322HeaderValue (bytes t) ≠ "" := by
    intro t ht
    rw [safeRFC5322HeaderValue_sample ht]
    revert t
    decide
  rw [safeRequiredOutboundEmailHeaders, if_neg]
  · exact ⟨_, rfl⟩
  · simp only [List.any_cons, List.any_nil, Bool.or_false, Bool.or_eq_true, decide_eq_true_eq, not_or]
    exact ⟨hsafe _ (by decide), hsafe _ (by decide), hsafe _ (by decide), hsafe _ (by decide),
      hsafe _ (by decide)⟩

section Sample

variable {ParseAddress : Bytes → Option String}

theorem readsBack_of_parse {s : String} (h : ParseAddress (bytes s) = some s) (htrim : TrimSpace s = s)
    (hempty : s ≠ "") : ReadsBack ParseAddress s := by
  have hne : bytes s ≠ [] := fun hnil => hempty (bytes_eq_nil.1 hnil)
  rw [ReadsBack, normalizeCommEmail, TrimSpaceBytes_bytes, htrim, if_neg hne, h, Option.bind_some, htrim,
    if_neg hempty]

variable (ha : ParseAddress (bytes "a@x.y") = some "a@x.y") (hb : ParseAddress (bytes "b@x.y") = some "b@x.y")
  (cc bcc : List Bytes)

include hb in
theorem mem_recipients_sample : "b@x.y" ∈ (sampleInput cc bcc).recipients ParseAddress := by
  have hto : TrimSpaceBytes (sampleInput cc bcc).To = bytes "b@x.y" := TrimSpaceBytes_sample (by decide)
  refine mem_normalizeCommEmailList.2 ⟨_, List.mem_cons_self, ?_⟩
  rw [hto]
  exact readsBack_of_parse hb (by decide) (by decide)

include ha hb in
/-- The message is accepted, whatever its copies. -/
theorem sample_accepted : ∃ raw, buildOutboundEmailRFC5322 ParseAddress ⟨1, .utc⟩ (sampleInput cc bcc)
    = .ok (raw, (sampleInput cc bcc).recipients ParseAddress) := by
  have hfrom : TrimSpaceBytes (sampleInput cc bcc).From = bytes "a@x.y" := TrimSpaceBytes_sample (by decide)
  have hto : TrimSpaceBytes (sampleInput cc bcc).To = bytes "b@x.y" := TrimSpaceBytes_sample (by decide)
  have hsubject : TrimSpaceBytes (sampleInput cc bcc).Subject = bytes "s" := TrimSpaceBytes_sample (by decide)
  have hid : TrimSpaceBytes (sampleInput cc bcc).MessageID = bytes "<m@lessersoul.ai>" :=
    TrimSpaceBytes_sample (by decide)
  have hbody : (sampleInput cc bcc).body = bytes "t" := by
    have hkept : (bytes "t").rdropWhile isLineBreak = bytes "t" := by decide
    exact hkept
  have hreplyTo : (sampleInput cc bcc).replyTo = bytes "a@x.y" := by
    have hnone : TrimSpaceBytes (sampleInput cc bcc).ReplyTo = [] := rfl
    rw [outboundEmailRFC5322Input.replyTo, hnone]
    exact hfrom
  have henvelope : validateOutboundEmailEnvelope ParseAddress (bytes "a@x.y") (bytes "b@x.y")
      (bytes "a@x.y") = none := by
    simp [validateOutboundEmailEnvelope, validateCommEmailAddress, ha, hb]
  obtain ⟨safeHeaders, hheaders⟩ := safeHeaders_sample
  unfold buildOutboundEmailRFC5322
  dsimp only
  rw [hfrom, hto, hsubject, hid, hbody, hreplyTo, requiredFields_sample, henvelope, hheaders]
  dsimp only
  rw [if_neg (List.ne_nil_of_mem (mem_recipients_sample hb cc bcc))]
  exact ⟨_, rfl⟩

end Sample

theorem sampleParseAddress_a : sampleParseAddress (bytes "a@x.y") = some "a@x.y" := if_pos rfl

theorem sampleParseAddress_b : sampleParseAddress (bytes "b@x.y") = some "b@x.y" := by decide

/-- The sample without copies, read. -/
theorem outbound_message_sample : ∃ raw recipients,
    buildOutboundEmailRFC5322 sampleParseAddress ⟨1, .utc⟩ (sampleInput [] []) = .ok (raw, recipients) ∧
      readMessage raw = some ((headerFields sampleParseAddress ⟨1, .utc⟩ (sampleInput [] [])).map fieldBytes,
        (sampleInput [] []).body ++ crlf) := by
  obtain ⟨raw, hraw⟩ := sample_accepted sampleParseAddress_a sampleParseAddress_b [] []
  exact ⟨raw, _, hraw, (outbound_message hraw).1⟩

/-- The author gets a blind copy and is named in the first header. -/
theorem not_bcc_absent :
    ¬ ∀ (ParseAddress : Bytes → Option String) now input raw recipients,
      buildOutboundEmailRFC5322 ParseAddress now input = .ok (raw, recipients) →
      ∀ email ∈ normalizeCommEmailList ParseAddress input.BCC,
        email ∉ normalizeCommEmailList ParseAddress (input.To :: input.CC) →
        ∀ field ∈ headerFields ParseAddress now input, ¬ email.toList <:+: field.2.toList := by
  intro hall
  obtain ⟨raw, hraw⟩ := sample_accepted sampleParseAddress_a sampleParseAddress_b [] [bytes "a@x.y"]
  have hback : ReadsBack sampleParseAddress "a@x.y" :=
    readsBack_of_parse sampleParseAddress_a (by decide) (by decide)
  have hto : ReadsBack sampleParseAddress "b@x.y" :=
    readsBack_of_parse sampleParseAddress_b (by decide) (by decide)
  refine hall _ _ _ _ _ hraw "a@x.y" (mem_normalizeCommEmailList.2 ⟨_, List.mem_cons_self, hback⟩) ?_
    ("From", safeRFC5322HeaderValue (TrimSpaceBytes (bytes "a@x.y"))) List.mem_cons_self ?_
  · rw [mem_normalizeCommEmailList]
    rintro ⟨raw', hmem, hemail⟩
    rw [List.mem_singleton.1 hmem] at hemail
    exact absurd (hto.symm.trans hemail) (by decide)
  · rw [TrimSpaceBytes_sample (by decide), safeRFC5322HeaderValue_sample (by decide)]

end LesserHost.SoulComm
