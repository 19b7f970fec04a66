import LesserHost.Go.TimeOrder
import LesserHost.Mailbox.Message
import LesserHost.ProvisionWorker.UpdatePersist
import LesserHost.SoulComm.RateLimit

set_option autoImplicit false

/-! # Keys that begin with a time

The rows of an instance, of an agent or of an audit target are read in the order of their keys, a page at a
time, and a key begins with the time of its row. So a page holds the newest rows, or the ones that wait
longest, exactly as far as the keys are ordered as the times are.

Mailbox messages and communication activities write all nine digits of a second, and their keys are always
in order. Update jobs and audit entries write `time.RFC3339Nano`: a row is out of order with every later one
whose time it is the truncation of. -/

namespace LesserHost.Store

open LesserHost.Go
open LesserHost.ProvisionWorker (UpdateJob newUpdateJob)
open LesserHost.ProvisionWorker.UpdateJobOf (updateGSI2_GSI2PK updateGSI2_GSI2SK)
open LesserHost.Mailbox (SoulCommMailboxMessage formatSortTime)
open LesserHost.SoulComm (SoulAgentCommActivity)

/-! ## Queries of an index -/

section Queries

variable {Row : Type}

/-- Keys are compared byte by byte. -/
def keyLE (key : Row → String) (a b : Row) : Bool := !decide (bytes (key b) < bytes (key a))

/-- `OrderBy(sk, "ASC")`, `Limit(limit)`. -/
def firstRows (key : Row → String) (limit : Nat) (rows : List Row) : List Row :=
  (rows.mergeSort (keyLE key)).take limit

/-- `OrderBy(sk, "DESC")`, `Limit(limit)`. -/
def lastRows (key : Row → String) (limit : Nat) (rows : List Row) : List Row :=
  (rows.mergeSort fun a b => keyLE key b a).take limit

/-- `page` holds `limit` of the rows, or all, and no row that is left out comes before one of them. -/
structure Selects (precedes : Row → Row → Prop) (limit : Nat) (rows page : List Row) : Prop where
  length : page.length = min limit rows.length
  rest : ∃ others, (page ++ others).Perm rows ∧ ∀ r ∈ page, ∀ r' ∈ others, ¬ precedes r' r

theorem keyLE_iff {key : Row → String} {a b : Row} :
    keyLE key a b = true ↔ bytes (key a) ≤ bytes (key b) := by
  rw [keyLE, Bool.not_eq_true', decide_eq_false_iff_not]
  exact List.not_lt

theorem keyLE_trans (key : Row → String) (a b c : Row) (hab : keyLE key a b = true)
    (hbc : keyLE key b c = true) : keyLE key a c = true :=
  keyLE_iff.2 (List.le_trans (keyLE_iff.1 hab) (keyLE_iff.1 hbc))

theorem keyLE_total (key : Row → String) (a b : Row) : (keyLE key a b || keyLE key b a) = true := by
  rw [Bool.or_eq_true, keyLE_iff, keyLE_iff]
  exact List.le_total _ _

/-- The first rows of a sorted list. -/
theorem take_selects {le : Row → Row → Bool} (htrans : ∀ a b c, le a b = true → le b c = true → le a c = true)
    (htotal : ∀ a b, (le a b || le b a) = true) {precedes : Row → Row → Prop} (limit : Nat)
    (rows : List Row) (hle : ∀ a ∈ rows, ∀ b ∈ rows, le a b = true → ¬ precedes b a) :
    Selects precedes limit rows ((rows.mergeSort le).take limit) where
  length := by rw [List.length_take, List.length_mergeSort]
  rest := by
    refine ⟨(rows.mergeSort le).drop limit, ?_, ?_⟩
    · rw [List.take_append_drop]
      exact List.mergeSort_perm rows le
    · intro r hr r' hr'
      have hsorted := List.pairwise_mergeSort htrans htotal rows
      rw [← List.take_append_drop limit (rows.mergeSort le), List.pairwise_append] at hsorted
      exact hle r (List.mem_mergeSort.1 (List.mem_of_mem_take hr)) r'
        (List.mem_mergeSort.1 (List.mem_of_mem_drop hr')) (hsorted.2.2 r hr r' hr')

end Queries

/-! ## Keys in the order of times -/

section Order

variable {Row : Type} (key : Row → String) (time : Row → Time)

/-- The keys of these rows are ordered as their times are, and every page holds the newest rows, or those
that wait longest. -/
structure TimeOrdered (rows : List Row) : Prop where
  keys : ∀ r ∈ rows, ∀ r' ∈ rows, (time r).nanos < (time r').nanos → bytes (key r) < bytes (key r')
  newest : ∀ limit, Selects (fun r r' => (time r').nanos < (time r).nanos) limit rows
    (lastRows key limit rows)
  waiting : ∀ limit, Selects (fun r r' => (time r).nanos < (time r').nanos) limit rows
    (firstRows key limit rows)

/-- No time is a truncation of a later one. -/
def NoTruncation (rows : List Row) : Prop :=
  ∀ r ∈ rows, ∀ r' ∈ rows, (time r).nanos < (time r').nanos → ¬ (time r).Truncates (time r')

variable {key time}

/-- Pages follow from keys. -/
theorem timeOrdered_of_keys {rows : List Row}
    (h : ∀ r ∈ rows, ∀ r' ∈ rows, (time r).nanos < (time r').nanos → bytes (key r) < bytes (key r')) :
    TimeOrdered key time rows where
  keys := h
  newest limit := take_selects (fun a b c hab hbc => keyLE_trans key c b a hbc hab)
    (fun a b => keyLE_total key b a) limit rows fun a ha b hb hle hlt => by
      exact absurd (h a ha b hb hlt) (List.not_lt.2 (keyLE_iff.1 hle))
  waiting limit := take_selects (keyLE_trans key) (keyLE_total key) limit rows
    fun a ha b hb hle hlt => by
      exact absurd (h b hb a ha hlt) (List.not_lt.2 (keyLE_iff.1 hle))

/-- A key is the time between two texts. -/
theorem nanoKey_lt {t u : Time} (ht : t.InYears) (hu : u.InYears) (h : t.nanos < u.nanos)
    (front r s : String) : bytes (front ++ t.FormatRFC3339Nano ++ r)
      < bytes (front ++ u.FormatRFC3339Nano ++ s) ↔ ¬ t.Truncates u := by
  have htext : ∀ (x : Time) (z : String), front ++ x.FormatRFC3339Nano ++ z
      = String.ofList (front.toList ++ (x.FormatRFC3339Nano.toList ++ z.toList)) := by
    intro x z
    rw [← String.toList_inj]
    simp
  have hbefore := RFC3339Nano_before ht hu h r.toList s.toList
  rw [htext, htext]
  constructor
  · intro hlt htrunc
    exact List.lt_asymm hlt ((hbefore.1 htrunc).append_left front.toList).bytes
  · intro htrunc
    exact ((hbefore.2 htrunc).append_left front.toList).bytes

/-- **Rows with `RFC3339Nano` in their keys** are in order if and only if no time of them is a truncation of
a later one. -/
theorem timeOrdered_iff {front : String} {back : Row → String} {rows : List Row}
    (hkey : ∀ r ∈ rows, key r = front ++ (time r).FormatRFC3339Nano ++ back r)
    (hyears : ∀ r ∈ rows, (time r).InYears) : TimeOrdered key time rows ↔ NoTruncation time rows := by
  have hpair : ∀ r ∈ rows, ∀ r' ∈ rows, (time r).nanos < (time r').nanos →
      (bytes (key r) < bytes (key r') ↔ ¬ (time r).Truncates (time r')) := by
    intro r hr r' hr' hlt
    rw [hkey r hr, hkey r' hr']
    exact nanoKey_lt (hyears r hr) (hyears r' hr') hlt front (back r) (back r')
  constructor
  · intro h r hr r' hr' hlt
    exact (hpair r hr r' hr' hlt).1 (h.keys r hr r' hr' hlt)
  · intro h
    exact timeOrdered_of_keys fun r hr r' hr' hlt => (hpair r hr r' hr' hlt).2 (h r hr r' hr' hlt)

/-- Rows with all nine digits in their keys are always in order. -/
theorem timeOrdered_nineDigits {front : String} {back : Row → String} {rows : List Row}
    (hkey : ∀ r ∈ rows, key r = front ++ formatSortTime (time r) ++ back r)
    (hyears : ∀ r ∈ rows, (time r).InYears) : TimeOrdered key time rows := by
  refine timeOrdered_of_keys fun r hr r' hr' hlt => ?_
  have htext : ∀ x ∈ rows, key x = String.ofList (front.toList ++
      ((time x).FormatRFC3339.toList.dropLast ++ '.' :: ((padDecimal 9 (time x).fraction).toList ++
        ('Z' :: (back x).toList)))) := by
    intro x hx
    rw [hkey x hx, formatSortTime, ← String.toList_inj, Time.fraction]
    simp
  rw [htext r hr, htext r' hr']
  exact ((nineDigits_before (hyears r hr) (hyears r' hr') hlt _ _).append_left front.toList).bytes

end Order

/-! ## Lists of update jobs -/

/-- A job with the clock of the write that gave it its keys. -/
structure WrittenJob where
  clock : Time
  job : UpdateJob

namespace WrittenJob

/-- A job without a time takes the clock's. -/
def createdAt (w : WrittenJob) : Time := if w.job.CreatedAt.IsZero then w.clock else w.job.CreatedAt

def updatedAt (w : WrittenJob) : Time := if w.job.UpdatedAt.IsZero then w.clock else w.job.UpdatedAt

def GSI1PK (w : WrittenJob) : String := (w.job.updateGSI1 w.clock).GSI1PK
def GSI1SK (w : WrittenJob) : String := (w.job.updateGSI1 w.clock).GSI1SK
def GSI2PK (w : WrittenJob) : String := (w.job.updateGSI2 w.clock).GSI2PK
def GSI2SK (w : WrittenJob) : String := (w.job.updateGSI2 w.clock).GSI2SK

end WrittenJob

def clampListLimit (limit : Int) : Nat :=
  if limit ≤ 0 then 50 else if limit > 200 then 200 else limit.toNat

def sortByCreatedAtDesc (items : List WrittenJob) : List WrittenJob :=
  items.mergeSort fun a b => !a.job.CreatedAt.Before b.job.CreatedAt

/-- The rows of an instance in `gsi1`. -/
def jobsOfInstance (slug : String) (table : List WrittenJob) : List WrittenJob :=
  table.filter fun w => w.GSI1PK == "UPDATE_INSTANCE#" ++ slug

/-- The rows of `gsi2`. -/
def activeJobs (table : List WrittenJob) : List WrittenJob :=
  table.filter fun w => w.GSI2PK == "UPDATE_ACTIVE"

/-- `listByInstanceGSI1` for update jobs. -/
def ListUpdateJobsByInstance (slug : String) (limit : Int) (table : List WrittenJob) :
    Except String (List WrittenJob) :=
  let slug := ToLower (TrimSpace slug)
  if slug = "" then .error "instance slug is required"
  else
    let items := lastRows WrittenJob.GSI1SK (clampListLimit limit) (jobsOfInstance slug table)
    .ok (sortByCreatedAtDesc items)

def ListActiveUpdateJobs (limit : Int) (table : List WrittenJob) : List WrittenJob :=
  firstRows WrittenJob.GSI2SK (clampListLimit limit) (activeJobs table)

theorem Selects.perm {Row : Type} {precedes : Row → Row → Prop} {limit : Nat} {rows page page' : List Row}
    (h : Selects precedes limit rows page) (hperm : page'.Perm page) :
    Selects precedes limit rows page' where
  length := hperm.length_eq.trans h.length
  rest := by
    obtain ⟨others, hrows, hnone⟩ := h.rest
    exact ⟨others, (hperm.append_right others).trans hrows,
      fun r hr r' hr' => hnone r (hperm.mem_iff.1 hr) r' hr'⟩

/-- The keys of an instance's jobs are ordered as the jobs were created, and its list holds the newest. -/
structure InstanceInOrder (slug : String) (table : List WrittenJob) : Prop where
  keys : ∀ w ∈ jobsOfInstance (ToLower (TrimSpace slug)) table,
    ∀ w' ∈ jobsOfInstance (ToLower (TrimSpace slug)) table,
      w.createdAt.nanos < w'.createdAt.nanos → bytes w.GSI1SK < bytes w'.GSI1SK
  list : ∀ limit page, ListUpdateJobsByInstance slug limit table = .ok page →
    Selects (fun w w' => w'.createdAt.nanos < w.createdAt.nanos) (clampListLimit limit)
      (jobsOfInstance (ToLower (TrimSpace slug)) table) page

/-- The keys of the active jobs are ordered as the jobs were updated, and the list holds the jobs that wait
longest. -/
structure ActiveInOrder (table : List WrittenJob) : Prop where
  keys : ∀ w ∈ activeJobs table, ∀ w' ∈ activeJobs table,
    w.updatedAt.nanos < w'.updatedAt.nanos → bytes w.GSI2SK < bytes w'.GSI2SK
  list : ∀ limit, Selects (fun w w' => w.updatedAt.nanos < w'.updatedAt.nanos) (clampListLimit limit)
    (activeJobs table) (ListActiveUpdateJobs limit table)

section Jobs

variable {table : List WrittenJob}

theorem instanceInOrder_iff (slug : String)
    (hyears : ∀ w ∈ table, w.createdAt.InYears) : InstanceInOrder slug table ↔
      NoTruncation WrittenJob.createdAt (jobsOfInstance (ToLower (TrimSpace slug)) table) := by
  have hkey : ∀ w ∈ jobsOfInstance (ToLower (TrimSpace slug)) table,
      w.GSI1SK = "" ++ w.createdAt.FormatRFC3339Nano ++ ("#" ++ TrimSpace w.job.ID) := by
    intro w hw
    have hpk := beq_iff_eq.1 (List.mem_filter.1 hw).2
    have hslug : TrimSpace w.job.InstanceSlug ≠ "" := by
      intro hblank
      have hempty : w.GSI1PK = "" := if_pos hblank
      have hhead := congrArg String.toList (hempty.symm.trans hpk)
      rw [String.toList_append] at hhead
      cases hhead
    have hsk : w.GSI1SK = w.createdAt.FormatRFC3339Nano ++ "#" ++ TrimSpace w.job.ID := if_neg hslug
    rw [hsk, String.empty_append, String.append_assoc]
  have hiff := timeOrdered_iff hkey fun w hw => hyears w (List.mem_filter.1 hw).1
  rw [← hiff]
  constructor
  · exact fun h => timeOrdered_of_keys h.keys
  · intro h
    refine ⟨h.keys, fun limit page hpage => ?_⟩
    unfold ListUpdateJobsByInstance at hpage
    dsimp only at hpage
    split at hpage
    · cases hpage
    · cases hpage
      exact (h.newest (clampListLimit limit)).perm (List.mergeSort_perm _ _)

theorem activeInOrder_iff (hyears : ∀ w ∈ table, w.updatedAt.InYears) :
    ActiveInOrder table ↔ NoTruncation WrittenJob.updatedAt (activeJobs table) := by
  have hkey : ∀ w ∈ activeJobs table,
      w.GSI2SK = "" ++ w.updatedAt.FormatRFC3339Nano ++ ("#" ++ TrimSpace w.job.ID) := by
    intro w hw
    have hpk : w.GSI2PK = "UPDATE_ACTIVE" := beq_iff_eq.1 (List.mem_filter.1 hw).2
    have hactive : w.job.isActive = true := by
      by_contra hidle
      rw [WrittenJob.GSI2PK, updateGSI2_GSI2PK, if_neg hidle] at hpk
      exact absurd hpk (by decide)
    rw [WrittenJob.GSI2SK, updateGSI2_GSI2SK, if_pos hactive, String.empty_append, String.append_assoc]
    rfl
  have hiff := timeOrdered_iff hkey fun w hw => hyears w (List.mem_filter.1 hw).1
  rw [← hiff]
  exact ⟨fun h => timeOrdered_of_keys h.keys,
    fun h => ⟨h.keys, fun limit => h.waiting (clampListLimit limit)⟩⟩

end Jobs

/-! ## Audit entries -/

/-- `t.Format(time.RFC3339Nano)`, in the time's own zone. -/
def formatNano (t : Time) : String :=
  match t.loc with
  | .utc => t.FormatRFC3339Nano
  | .fixed _ offset =>
      if offset = 0 then t.FormatRFC3339Nano
      else
        let minutes := (offset / 60).natAbs
        String.ofList ((t.Add (offset * Second)).FormatRFC3339Nano.toList.dropLast
          ++ (if offset < 0 then '-' else '+') :: (padDecimal 2 (minutes / 60)).toList
          ++ ':' :: (padDecimal 2 (minutes % 60)).toList)

structure AuditLogEntry where
  PK : String := ""
  SK : String := ""
  ID : String
  Target : String
  ActedBy : String := ""
  CreatedAt : Time

def auditLogPartitionKeyMaxBytes : Nat := 1024

/-- The time that `UpdateKeys` writes. -/
def AuditLogEntry.createdAt (clock : Time) (a : AuditLogEntry) : Time :=
  if a.CreatedAt.IsZero then clock else a.CreatedAt

def AuditLogEntry.UpdateKeys (clock : Time) (a : AuditLogEntry) : Except String AuditLogEntry :=
  let createdAt := a.createdAt clock
  let id := TrimSpace a.ID
  -- `createdAt.UnixNano()`
  let id := if id = "" then Itoa (int64 (createdAt.nanos - 62135596800 * Second)) else id
  let pk := "AUDIT#" ++ TrimSpace a.Target
  if len pk > auditLogPartitionKeyMaxBytes then
    .error ("audit log target too long: partition key length " ++ Itoa (len pk) ++ " exceeds "
      ++ Itoa auditLogPartitionKeyMaxBytes ++ " bytes")
  else .ok { a with
    PK := pk
    SK := "EVENT#" ++ formatNano createdAt ++ "#" ++ id
    ID := id
    ActedBy := TrimSpace a.ActedBy }

/-- An audit entry and the clock of its write. -/
structure WrittenEntry where
  clock : Time
  entry : AuditLogEntry

def WrittenEntry.createdAt (w : WrittenEntry) : Time := w.entry.createdAt w.clock

def WrittenEntry.SK (w : WrittenEntry) : String :=
  match w.entry.UpdateKeys w.clock with
  | .ok a => a.SK
  | .error _ => w.entry.SK

/-- The rows of a target. -/
def entriesOfTarget (target : String) (log : List WrittenEntry) : List WrittenEntry :=
  log.filter fun w =>
    match w.entry.UpdateKeys w.clock with
    | .ok a => a.PK == "AUDIT#" ++ target
    | .error _ => false

theorem auditOrdered_iff (target : String) {log : List WrittenEntry}
    (hyears : ∀ w ∈ log, w.createdAt.InYears) (hutc : ∀ w ∈ log, w.createdAt.loc = .utc) :
    TimeOrdered WrittenEntry.SK WrittenEntry.createdAt (entriesOfTarget target log) ↔
      NoTruncation WrittenEntry.createdAt (entriesOfTarget target log) := by
  have hkey : ∀ w ∈ entriesOfTarget target log, ∃ id,
      w.SK = "EVENT#" ++ w.createdAt.FormatRFC3339Nano ++ ("#" ++ id) := by
    intro w hw
    obtain ⟨hlog, hrow⟩ := List.mem_filter.1 hw
    have hzone : formatNano w.createdAt = w.createdAt.FormatRFC3339Nano := by
      rw [formatNano, hutc w hlog]
    unfold WrittenEntry.SK
    split at hrow
    · rename_i a ha
      unfold AuditLogEntry.UpdateKeys at ha
      dsimp only at ha
      split at ha
      · cases ha
      · cases ha
        refine ⟨if TrimSpace w.entry.ID = "" then
          Itoa (int64 (w.createdAt.nanos - 62135596800 * Second)) else TrimSpace w.entry.ID, ?_⟩
        rw [← String.append_assoc, ← hzone]
        rfl
    · cases hrow
  choose! id hid using hkey
  exact timeOrdered_iff hid fun w hw => hyears w (List.mem_filter.1 hw).1

/-! ## Keys with all nine digits -/

theorem messagesOrdered {messages : List SoulCommMailboxMessage}
    (hyears : ∀ m ∈ messages, m.CreatedAt.InYears) :
    TimeOrdered (fun m => m.UpdateKeys.SK) SoulCommMailboxMessage.CreatedAt messages := by
  refine @timeOrdered_nineDigits _ _ _ "MSG#" (fun m => "#" ++ TrimSpace m.DeliveryID) _
    (fun m _ => ?_) hyears
  rw [← String.append_assoc]
  rfl

/-- `SoulAgentCommActivity.UpdateKeys`: `a.SK`. -/
def commActivitySK (a : SoulAgentCommActivity) : String :=
  "COMM#" ++ formatSortTime a.Timestamp ++ "#" ++ TrimSpace a.ActivityID

theorem activitiesOrdered {activities : List SoulAgentCommActivity}
    (hyears : ∀ a ∈ activities, a.Timestamp.InYears) :
    TimeOrdered commActivitySK SoulAgentCommActivity.Timestamp activities := by
  refine @timeOrdered_nineDigits _ _ _ "COMM#" (fun a => "#" ++ TrimSpace a.ActivityID) _
    (fun a _ => ?_) hyears
  rw [← String.append_assoc]
  rfl

/-! ## The tables together -/

/-- **Keys order like time** for mailbox messages and activities; for update jobs and audit entries if and
only if no time of the partition is a later one truncated to a digit of its second. -/
theorem time_keys_ordered_iff (slug target : String) (table : List WrittenJob) (log : List WrittenEntry)
    (messages : List SoulCommMailboxMessage) (activities : List SoulAgentCommActivity) :
    ((∀ w ∈ table, w.createdAt.InYears) →
      (InstanceInOrder slug table ↔
        NoTruncation WrittenJob.createdAt (jobsOfInstance (ToLower (TrimSpace slug)) table))) ∧
    ((∀ w ∈ table, w.updatedAt.InYears) →
      (ActiveInOrder table ↔ NoTruncation WrittenJob.updatedAt (activeJobs table))) ∧
    ((∀ w ∈ log, w.createdAt.InYears) → (∀ w ∈ log, w.createdAt.loc = .utc) →
      (TimeOrdered WrittenEntry.SK WrittenEntry.createdAt (entriesOfTarget target log) ↔
        NoTruncation WrittenEntry.createdAt (entriesOfTarget target log))) ∧
    ((∀ m ∈ messages, m.CreatedAt.InYears) →
      TimeOrdered (fun m => m.UpdateKeys.SK) SoulCommMailboxMessage.CreatedAt messages) ∧
    ((∀ a ∈ activities, a.Timestamp.InYears) →
      TimeOrdered commActivitySK SoulAgentCommActivity.Timestamp activities) :=
  ⟨instanceInOrder_iff slug, activeInOrder_iff, auditOrdered_iff target, messagesOrdered, activitiesOrdered⟩

/-- A job of the instance `alpha`, created some nanoseconds after the zero time. -/
def sampleWrite (id : String) (nanos : Int) : WrittenJob where
  clock := ⟨1, .utc⟩
  job := { newUpdateJob with ID := id, InstanceSlug := "alpha", CreatedAt := ⟨nanos, .utc⟩ }

/-- The times 1.5 s and 1.75 s. -/
theorem samples_in_order :
    InstanceInOrder "alpha" [sampleWrite "first" 1500000000, sampleWrite "second" 1750000000] := by
  refine ((time_keys_ordered_iff "alpha" "" _ [] [] []).1 ?_).2 ?_
  · decide
  · intro w hw w' hw' hlt
    have htable : ∀ w ∈ [sampleWrite "first" 1500000000, sampleWrite "second" 1750000000],
        ∀ w' ∈ [sampleWrite "first" 1500000000, sampleWrite "second" 1750000000],
        w.createdAt.nanos < w'.createdAt.nanos → ¬ w.createdAt.Truncates w'.createdAt := by decide
    exact htable w (List.mem_filter.1 hw).1 w' (List.mem_filter.1 hw').1 hlt

/-- The times 1 s and 1.5 s: the earlier key is the greater one. -/
theorem whole_second_out_of_order :
    ¬ ∀ (slug : String) (table : List WrittenJob), (∀ w ∈ table, w.createdAt.InYears) →
      InstanceInOrder slug table := by
  intro hall
  have hyears : ∀ w ∈ [sampleWrite "first" 1000000000, sampleWrite "second" 1500000000],
      w.createdAt.InYears := by decide
  have horder := (instanceInOrder_iff "alpha" hyears).1 (hall "alpha" _ hyears)
  have hrows : jobsOfInstance (ToLower (TrimSpace "alpha"))
      [sampleWrite "first" 1000000000, sampleWrite "second" 1500000000]
      = [sampleWrite "first" 1000000000, sampleWrite "second" 1500000000] := by
    refine List.filter_eq_self.2 ?_
    decide
  rw [hrows] at horder
  exact horder _ List.mem_cons_self _ (List.mem_cons_of_mem _ List.mem_cons_self) (by decide) (by decide)

end LesserHost.Store
