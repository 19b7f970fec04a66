import LesserHost.Go.Text

set_option autoImplicit false

/-! # When an agent can be reached

`availabilityDecision` of `internal/commworker/server.go`: an agent is available in the windows of its
preferences, each with a list of days and two times of the day; a window that does not end after
its start goes on into the next day. Times are taken in a zone of fixed offset, where a date is the
number of a day, and the first of January of the year 1 is a Monday.

The abstract side is `OpenAt`: the instant lies in one of the intervals that begin at a window's start
on one of its days. The code looks at the windows of the current day only, and takes the next start
in the order of the list. `Reads` says where this makes no difference. -/

namespace LesserHost.CommWorker

open LesserHost.Go

/-! ## Windows -/

structure SoulContactAvailabilityWindow where
  Days : List String
  StartTime : String
  EndTime : String
  deriving DecidableEq

structure SoulAgentContactPreferences where
  AvailabilitySchedule : String
  AvailabilityTimezone : String
  AvailabilityWindows : List SoulContactAvailabilityWindow

/-- `SplitN(raw, ":", 2)`, where there is a colon. -/
def splitColon (raw : String) : Option (String × String) :=
  match raw.toList.dropWhile (· ≠ ':') with
  | [] => none
  | _ :: rest => some (String.ofList (raw.toList.takeWhile (· ≠ ':')), String.ofList rest)

def isDecimal (c : Char) : Bool := decide ('0' ≤ c) && decide (c ≤ '9')

/-- The number a digit of an `int` is added to wraps around. -/
def parseSmallInt (raw : String) : Except String Int :=
  let raw := TrimSpace raw
  if raw = "" then .error "empty"
  else if raw.toList.all isDecimal = false then .error "invalid"
  else .ok (raw.toList.foldl (fun n c => int64 (n * 10 + digit c)) 0)

def parseHHMMMinutes (raw : String) : Option Int :=
  match splitColon (TrimSpace raw) with
  | none => none
  | some (hours, minutes) =>
      match parseSmallInt hours, parseSmallInt minutes with
      | .ok h, .ok m => if h < 0 ∨ 23 < h ∨ m < 0 ∨ 59 < m then none else some (h * 60 + m)
      | _, _ => none

/-! ## Days -/

def Day : Int := 24 * Hour

/-- Nanoseconds since the first of January of the year 1 on the clocks of the zone. -/
def clock (loc : Location) (nanos : Int) : Int :=
  match loc with
  | .utc => nanos
  | .fixed _ offsetSeconds => nanos + offsetSeconds * Second

/-- The number of the day `t` is on, and how far the day is gone. -/
def dayOf (t : Time) : Int := clock t.loc t.nanos / Day

def minuteOfDay (t : Time) : Int := clock t.loc t.nanos % Day / Minute

/-- `time.Date` of a day and a minute of the day. -/
def Date (day minute : Int) (loc : Location) : Time where
  nanos := day * Day + minute * Minute - clock loc 0
  loc := loc

def weekdayAbbrev (day : Int) : String :=
  match day % 7 with
  | 0 => "mon"
  | 1 => "tue"
  | 2 => "wed"
  | 3 => "thu"
  | 4 => "fri"
  | 5 => "sat"
  | _ => "sun"

def dayInWindow (day : String) (days : List String) : Bool :=
  days.any fun d => ToLower (TrimSpace d) == ToLower (TrimSpace day)

/-! ## The decision -/

/-- The test of `inAvailabilityWindow` for one window. -/
def windowHolds (now : Time) (w : SoulContactAvailabilityWindow) : Bool :=
  if dayInWindow (weekdayAbbrev (dayOf now)) w.Days then
    match parseHHMMMinutes w.StartTime, parseHHMMMinutes w.EndTime with
    | some startMin, some endMin =>
        if startMin < endMin then
          decide (startMin ≤ minuteOfDay now) && decide (minuteOfDay now < endMin)
        else decide (startMin ≤ minuteOfDay now) || decide (minuteOfDay now < endMin)
    | _, _ => false
  else false

def inAvailabilityWindow (now : Time) (windows : List SoulContactAvailabilityWindow) : Bool :=
  windows.any (windowHolds now)

/-- The start of the window on a day, where it lies after `now`. -/
def startAfter (now : Time) (day : Int) (w : SoulContactAvailabilityWindow) : Option Time :=
  if dayInWindow (weekdayAbbrev day) w.Days then
    match parseHHMMMinutes w.StartTime with
    | some startMin =>
        if (Date day startMin now.loc).After now then some (Date day startMin now.loc) else none
    | none => none
  else none

def zeroTime : Time := ⟨0, .utc⟩

/-- The first start in the order of the days, and of the list on each of them. -/
def nextAvailabilityStart (now : Time) (windows : List SoulContactAvailabilityWindow) : Time :=
  ((List.range 8).findSome? fun i => windows.findSome? (startAfter now (dayOf now + (i : Nat)))).getD
    zeroTime

def businessHours : List SoulContactAvailabilityWindow :=
  [⟨["mon", "tue", "wed", "thu", "fri"], "09:00", "17:00"⟩]

/-- The zone of the preferences; zones that cannot be loaded are UTC. -/
def zoneOf (LoadLocation : String → Option Location) (tz : String) : Location :=
  if TrimSpace tz = "" then .utc else (LoadLocation (TrimSpace tz)).getD .utc

def availabilityDecision (LoadLocation : String → Option Location) (now : Time)
    (prefs : Option SoulAgentContactPreferences) : Bool × Time :=
  match prefs with
  | none => (true, now)
  | some prefs =>
      let schedule := ToLower (TrimSpace prefs.AvailabilitySchedule)
      if schedule = "" ∨ schedule = "always" then (true, now)
      else
        let localNow := { now with loc := zoneOf LoadLocation prefs.AvailabilityTimezone }
        let windows := if schedule = "business-hours" then businessHours
          else prefs.AvailabilityWindows
        if windows.length = 0 then (true, now)
        else if inAvailabilityWindow localNow windows then (true, now)
        else
          let next := nextAvailabilityStart localNow windows
          if next.IsZero then (false, now.Add (24 * Hour)) else (false, next.UTC)

/-! ## What the windows mean -/

/-- The minute of the day a text names: two numbers, of hours below 24 and minutes below 60. -/
def clockTime (raw : String) : Option Int :=
  match splitColon (TrimSpace raw) with
  | none => none
  | some (hours, minutes) =>
      let number := fun s : String => (TrimSpace s).toList.foldl (fun n c => n * 10 + digit c) 0
      let digits := fun s : String => TrimSpace s ≠ "" ∧ (TrimSpace s).toList.all isDecimal = true
      if digits hours ∧ digits minutes ∧ number hours ≤ 23 ∧ number minutes ≤ 59 then
        some ((number hours : Int) * 60 + (number minutes : Int))
      else none

/-- The window begins on the day and holds from minute `s` of that day to minute `e`, of the day or of
the next one. -/
structure SoulContactAvailabilityWindow.Opens (w : SoulContactAvailabilityWindow) (day s e : Int) :
    Prop where
  listed : dayInWindow (weekdayAbbrev day) w.Days = true
  start : clockTime w.StartTime = some s
  stop : clockTime w.EndTime = some e

/-- The minutes from the beginning of the day to the end of a window. -/
def lastMinute (s e : Int) : Int := if s < e then e else e + 24 * 60

/-- The instant lies in an interval of a window. -/
def OpenAt (loc : Location) (windows : List SoulContactAvailabilityWindow) (nanos : Int) : Prop :=
  ∃ w ∈ windows, ∃ day s e, w.Opens day s e ∧ day * Day + s * Minute ≤ clock loc nanos ∧
    clock loc nanos < day * Day + lastMinute s e * Minute

/-- The earliest instant after `now` in an interval, or the same time tomorrow if there is none. -/
def NextOpen (loc : Location) (windows : List SoulContactAvailabilityWindow) (now next : Int) : Prop :=
  ((∃ u, OpenAt loc windows u) →
    now < next ∧ OpenAt loc windows next ∧ ∀ u, now < u → u < next → ¬ OpenAt loc windows u) ∧
  ((¬ ∃ u, OpenAt loc windows u) → next = now + 24 * Hour)

/-- The decision is that of the intervals. -/
structure DecidesRight (LoadLocation : String → Option Location) (now : Time) (tz : String)
    (windows : List SoulContactAvailabilityWindow) : Prop where
  available : (availabilityDecision LoadLocation now (some ⟨"custom", tz, windows⟩)).1 = true ↔
    OpenAt (zoneOf LoadLocation tz) windows now.nanos
  next : (availabilityDecision LoadLocation now (some ⟨"custom", tz, windows⟩)).1 = false →
    NextOpen (zoneOf LoadLocation tz) windows now.nanos
      (availabilityDecision LoadLocation now (some ⟨"custom", tz, windows⟩)).2.nanos

/-! ## Where the code reads the windows as they are meant -/

/-- A window that began on the day of `now` holds. -/
def BeganToday (now : Time) (w : SoulContactAvailabilityWindow) : Prop :=
  ∃ s e, w.Opens (dayOf now) s e ∧ s ≤ minuteOfDay now ∧ (s < e → minuteOfDay now < e)

/-- An overnight window that began on the day before holds. -/
def BeganYesterday (now : Time) (w : SoulContactAvailabilityWindow) : Prop :=
  ∃ s e, w.Opens (dayOf now - 1) s e ∧ ¬ s < e ∧ minuteOfDay now < e

/-- The part of an overnight window of this day that belongs to the next one is taken for the early
morning of this day. -/
def EarlyToday (now : Time) (w : SoulContactAvailabilityWindow) : Prop :=
  ∃ s e, w.Opens (dayOf now) s e ∧ ¬ s < e ∧ minuteOfDay now < e

/-- The times of the window are no times of the day, but are read as such. -/
def Wrapped (now : Time) (w : SoulContactAvailabilityWindow) : Prop :=
  windowHolds now w = true ∧ ¬ ∃ s e, w.Opens (dayOf now) s e

/-- The first window of the list among those with a start after `now` on the first day that has one
starts well: at the start of a window that is well formed, and before those of the others. If no
window is well formed, it starts at the time of `now` tomorrow. -/
def StartsWell (now : Time) (windows : List SoulContactAvailabilityWindow) : Prop :=
  ∀ i < 8, ∀ before w after t, windows = before ++ w :: after →
    startAfter now (dayOf now + (i : Nat)) w = some t →
    (∀ j < i, ∀ v ∈ windows, startAfter now (dayOf now + (j : Nat)) v = none) →
    (∀ v ∈ before, startAfter now (dayOf now + (i : Nat)) v = none) →
    ((∃ v ∈ windows, ∃ day s e, v.Opens day s e) →
      (∃ v ∈ windows, ∃ s e, v.Opens (dayOf now + (i : Nat)) s e ∧
        t = Date (dayOf now + (i : Nat)) s now.loc) ∧
      ∀ v ∈ windows, ∀ s e, v.Opens (dayOf now + (i : Nat)) s e →
        now.nanos < (Date (dayOf now + (i : Nat)) s now.loc).nanos →
        t.nanos ≤ (Date (dayOf now + (i : Nat)) s now.loc).nanos) ∧
    ((¬ ∃ v ∈ windows, ∃ day s e, v.Opens day s e) → t.nanos = now.nanos + 24 * Hour)

structure Reads (now : Time) (windows : List SoulContactAvailabilityWindow) : Prop where
  configured : windows ≠ []
  overnight : (∃ w ∈ windows, BeganToday now w) ∨
    ((∃ w ∈ windows, EarlyToday now w ∨ Wrapped now w) ↔ ∃ w ∈ windows, BeganYesterday now w)
  next : (¬ ∃ w ∈ windows, BeganToday now w ∨ EarlyToday now w ∨ Wrapped now w) →
    StartsWell now windows

/-! ## Reading times -/

/-- Numbers grow with their digits. -/
theorem le_foldl_digits (cs : List Char) (n : Nat) :
    n ≤ cs.foldl (fun n c => n * 10 + digit c) n := by
  induction cs generalizing n with
  | nil => exact Nat.le_refl n
  | cons c cs ih =>
      rw [List.foldl_cons]
      refine Nat.le_trans ?_ (ih _)
      omega

/-- A number that is small in the end is small all along, so that nothing wraps around. -/
theorem foldl_int64 (cs : List Char) (n : Nat)
    (h : cs.foldl (fun n c => n * 10 + digit c) n ≤ 59) :
    cs.foldl (fun (n : Int) c => int64 (n * 10 + digit c)) (n : Int) =
      (cs.foldl (fun n c => n * 10 + digit c) n : Nat) := by
  induction cs generalizing n with
  | nil => rfl
  | cons c cs ih =>
      rw [List.foldl_cons] at h
      have hsmall := (le_foldl_digits cs (n * 10 + digit c)).trans h
      have hstep : int64 ((n : Int) * 10 + digit c) = ((n * 10 + digit c : Nat) : Int) := by
        rw [int64_eq (by omega) (by omega)]
        omega
      rw [List.foldl_cons, List.foldl_cons, hstep]
      exact ih _ h

theorem clockTime_bounds {raw : String} {m : Int} (h : clockTime raw = some m) :
    0 ≤ m ∧ m < 1440 := by
  unfold clockTime at h
  cases hsplit : splitColon (TrimSpace raw) with
  | none =>
      rw [hsplit] at h
      cases h
  | some parts =>
      obtain ⟨hours, minutes⟩ := parts
      simp only [hsplit] at h
      split_ifs at h with hok
      obtain ⟨-, -, hh, hm⟩ := hok
      have heq := Option.some.inj h
      omega

/-- A time of the day is read as what it is. -/
theorem parseHHMMMinutes_eq {raw : String} {m : Int} (h : clockTime raw = some m) :
    parseHHMMMinutes raw = some m := by
  unfold clockTime at h
  unfold parseHHMMMinutes
  cases hsplit : splitColon (TrimSpace raw) with
  | none =>
      rw [hsplit] at h
      cases h
  | some parts =>
      obtain ⟨hours, minutes⟩ := parts
      simp only [hsplit] at h
      split_ifs at h with hok
      obtain ⟨⟨hne, hdigits⟩, ⟨hne', hdigits'⟩, hh, hm⟩ := hok
      have hhours := foldl_int64 _ _ (hh.trans (by decide))
      have hminutes := foldl_int64 _ _ hm
      simp only [parseSmallInt, if_neg hne, if_neg hne', hdigits, hdigits', Bool.true_eq_false,
        if_false]
      rw [Nat.cast_zero] at hhours hminutes
      rw [hhours, hminutes, if_neg (by omega)]
      exact h

/-! ## The intervals of an instant -/

section Instant

variable {now : Time} {windows : List SoulContactAvailabilityWindow}
  {w : SoulContactAvailabilityWindow}

theorem clock_dayOf (t : Time) : ∃ r, clock t.loc t.nanos = dayOf t * Day + r ∧ 0 ≤ r ∧ r < Day ∧
    minuteOfDay t * Minute ≤ r ∧ r < (minuteOfDay t + 1) * Minute := by
  refine ⟨clock t.loc t.nanos % Day, ?_, ?_, ?_, ?_, ?_⟩
  · rw [dayOf]
    simp only [Day, Hour, Minute, Second]
    omega
  · simp only [Day, Hour, Minute, Second]
    omega
  · simp only [Day, Hour, Minute, Second]
    omega
  · rw [minuteOfDay]
    simp only [Day, Hour, Minute, Second]
    omega
  · rw [minuteOfDay]
    simp only [Day, Hour, Minute, Second]
    omega

theorem clock_Date (day minute : Int) (loc : Location) :
    clock loc (Date day minute loc).nanos = day * Day + minute * Minute := by
  cases loc with
  | utc => simp only [clock, Date]; omega
  | fixed name offset => simp only [clock, Date]; omega

theorem clock_lt (loc : Location) {a b : Int} : clock loc a < clock loc b ↔ a < b := by
  cases loc with
  | utc => exact Iff.rfl
  | fixed name offset =>
      simp only [clock]
      omega

/-- An interval around `now` begins on its day or on the day before. -/
theorem openAt_iff : OpenAt now.loc windows now.nanos ↔
    ∃ w ∈ windows, BeganToday now w ∨ BeganYesterday now w := by
  obtain ⟨r, hclock, hr₀, hr, hm, hm'⟩ := clock_dayOf now
  constructor
  · rintro ⟨w, hw, day, s, e, hopens, hfrom, hto⟩
    obtain ⟨hs₀, hs⟩ := clockTime_bounds hopens.start
    obtain ⟨he₀, he⟩ := clockTime_bounds hopens.stop
    rw [hclock] at hfrom hto
    simp only [Day, Hour, Minute, Second, lastMinute] at hfrom hto hr hm hm'
    by_cases hday : day = dayOf now
    · rw [hday] at hopens hfrom hto
      refine ⟨w, hw, Or.inl ⟨s, e, hopens, by omega, fun hlt => ?_⟩⟩
      rw [if_pos hlt] at hto
      omega
    · have hyesterday : day = dayOf now - 1 := by
        split_ifs at hto <;> omega
      rw [hyesterday] at hopens hfrom hto
      refine ⟨w, hw, Or.inr ⟨s, e, hopens, ?_, ?_⟩⟩
      · intro hlt
        rw [if_pos hlt] at hto
        omega
      · split_ifs at hto <;> omega
  · rintro ⟨w, hw, ⟨s, e, hopens, hsm, hme⟩ | ⟨s, e, hopens, hnight, hme⟩⟩
    · obtain ⟨hs₀, hs⟩ := clockTime_bounds hopens.start
      obtain ⟨he₀, he⟩ := clockTime_bounds hopens.stop
      refine ⟨w, hw, _, s, e, hopens, ?_, ?_⟩
      · rw [hclock]
        simp only [Day, Hour, Minute, Second] at hr hm hm' ⊢
        omega
      · rw [hclock, lastMinute]
        simp only [Day, Hour, Minute, Second] at hr hm hm' ⊢
        split_ifs with hlt
        · have := hme hlt
          omega
        · omega
    · obtain ⟨hs₀, hs⟩ := clockTime_bounds hopens.start
      refine ⟨w, hw, _, s, e, hopens, ?_, ?_⟩
      · rw [hclock]
        simp only [Day, Hour, Minute, Second] at hr hm hm' ⊢
        omega
      · rw [hclock, lastMinute, if_neg hnight]
        simp only [Day, Hour, Minute, Second] at hr hm hm' ⊢
        omega

theorem SoulContactAvailabilityWindow.Opens.unique {day s e s' e' : Int} (h : w.Opens day s e) (h' : w.Opens day s' e') :
    s = s' ∧ e = e' :=
  ⟨Option.some.inj (h.start.symm.trans h'.start), Option.some.inj (h.stop.symm.trans h'.stop)⟩

theorem windowHolds_of_opens {s e : Int} (h : w.Opens (dayOf now) s e) :
    windowHolds now w = true ↔ BeganToday now w ∨ EarlyToday now w := by
  have hread : windowHolds now w = if s < e then
      decide (s ≤ minuteOfDay now) && decide (minuteOfDay now < e)
      else decide (s ≤ minuteOfDay now) || decide (minuteOfDay now < e) := by
    rw [windowHolds, if_pos h.listed, parseHHMMMinutes_eq h.start, parseHHMMMinutes_eq h.stop]
  rw [hread]
  constructor
  · intro hholds
    split_ifs at hholds with hlt
    · simp only [Bool.and_eq_true, decide_eq_true_eq] at hholds
      exact Or.inl ⟨s, e, h, hholds.1, fun _ => hholds.2⟩
    · simp only [Bool.or_eq_true, decide_eq_true_eq] at hholds
      rcases hholds with hs | he
      · exact Or.inl ⟨s, e, h, hs, fun hlt' => absurd hlt' hlt⟩
      · exact Or.inr ⟨s, e, h, hlt, he⟩
  · rintro (⟨s', e', h', hs, he⟩ | ⟨s', e', h', hnight, he⟩)
    · obtain ⟨hs', he'⟩ := h.unique h'
      rw [← hs'] at hs he
      rw [← he'] at he
      split_ifs with hlt
      · simp [hs, he hlt]
      · simp [hs]
    · obtain ⟨hs', he'⟩ := h.unique h'
      rw [← hs', ← he'] at hnight
      rw [← he'] at he
      rw [if_neg hnight]
      simp [he]

theorem windowHolds_iff :
    windowHolds now w = true ↔ BeganToday now w ∨ EarlyToday now w ∨ Wrapped now w := by
  by_cases hopens : ∃ s e, w.Opens (dayOf now) s e
  · obtain ⟨s, e, h⟩ := hopens
    rw [windowHolds_of_opens h]
    constructor
    · rintro (hb | he)
      · exact Or.inl hb
      · exact Or.inr (Or.inl he)
    · rintro (hb | he | hw)
      · exact Or.inl hb
      · exact Or.inr he
      · exact absurd ⟨s, e, h⟩ hw.2
  · constructor
    · intro hholds
      exact Or.inr (Or.inr ⟨hholds, hopens⟩)
    · rintro (⟨s, e, h, -⟩ | ⟨s, e, h, -⟩ | hw)
      · exact absurd ⟨s, e, h⟩ hopens
      · exact absurd ⟨s, e, h⟩ hopens
      · exact hw.1

theorem inAvailabilityWindow_iff : inAvailabilityWindow now windows = true ↔
    ∃ w ∈ windows, BeganToday now w ∨ EarlyToday now w ∨ Wrapped now w := by
  rw [inAvailabilityWindow, List.any_eq_true]
  exact exists_congr fun w => and_congr_right fun _ => windowHolds_iff

theorem or_iff_or_left {p q r : Prop} : ((p ∨ q) ↔ (p ∨ r)) ↔ p ∨ (q ↔ r) := by tauto

/-- The test is right about `now` where the two misread mornings hold or fail together. -/
theorem overnight_iff :
    (inAvailabilityWindow now windows = true ↔ OpenAt now.loc windows now.nanos) ↔
      (∃ w ∈ windows, BeganToday now w) ∨
        ((∃ w ∈ windows, EarlyToday now w ∨ Wrapped now w) ↔ ∃ w ∈ windows, BeganYesterday now w) := by
  have hcode : inAvailabilityWindow now windows = true ↔
      (∃ w ∈ windows, BeganToday now w) ∨ ∃ w ∈ windows, EarlyToday now w ∨ Wrapped now w := by
    rw [inAvailabilityWindow_iff]
    constructor
    · rintro ⟨w, hw, hb | h⟩
      · exact Or.inl ⟨w, hw, hb⟩
      · exact Or.inr ⟨w, hw, h⟩
    · rintro (⟨w, hw, hb⟩ | ⟨w, hw, h⟩)
      · exact ⟨w, hw, Or.inl hb⟩
      · exact ⟨w, hw, Or.inr h⟩
  have hspec : OpenAt now.loc windows now.nanos ↔
      (∃ w ∈ windows, BeganToday now w) ∨ ∃ w ∈ windows, BeganYesterday now w := by
    rw [openAt_iff]
    constructor
    · rintro ⟨w, hw, hb | h⟩
      · exact Or.inl ⟨w, hw, hb⟩
      · exact Or.inr ⟨w, hw, h⟩
    · rintro (⟨w, hw, hb⟩ | ⟨w, hw, h⟩)
      · exact ⟨w, hw, Or.inl hb⟩
      · exact ⟨w, hw, Or.inr h⟩
  rw [hcode, hspec]
  exact or_iff_or_left

end Instant

/-! ## The next start -/

section Next

variable {now : Time} {windows : List SoulContactAvailabilityWindow}
  {w : SoulContactAvailabilityWindow}

theorem findSome?_range {α : Type} {f : Nat → Option α} {n : Nat} {a : α} :
    (List.range n).findSome? f = some a ↔ ∃ i < n, f i = some a ∧ ∀ j < i, f j = none := by
  induction n with
  | zero => simp
  | succ n ih =>
      rw [List.range_succ, List.findSome?_append]
      cases hfront : (List.range n).findSome? f with
      | some b =>
          rw [Option.some_or, ← hfront, ih]
          constructor
          · rintro ⟨i, hi, hf, hnone⟩
            exact ⟨i, by omega, hf, hnone⟩
          · rintro ⟨i, hi, hf, hnone⟩
            refine ⟨i, ?_, hf, hnone⟩
            obtain ⟨k, hk, hfk⟩ := List.exists_of_findSome?_eq_some hfront
            have hkn := List.mem_range.1 hk
            by_contra hle
            have hknone := hnone k (by omega)
            rw [hknone] at hfk
            cases hfk
      | none =>
          have hnone := List.findSome?_eq_none_iff.1 hfront
          rw [Option.none_or, List.findSome?_singleton]
          constructor
          · intro hf
            exact ⟨n, by omega, hf, fun j hj => hnone j (List.mem_range.2 hj)⟩
          · rintro ⟨i, hi, hf, -⟩
            by_cases hin : i = n
            · rw [← hin]
              exact hf
            · have hi' := hnone i (List.mem_range.2 (by omega))
              rw [hi'] at hf
              cases hf

theorem SoulContactAvailabilityWindow.Opens.startAfter {day s e : Int} (h : w.Opens day s e)
    (hlater : now.nanos < (Date day s now.loc).nanos) :
    startAfter now day w = some (Date day s now.loc) := by
  have hafter : (Date day s now.loc).After now = true := decide_eq_true hlater
  simp only [CommWorker.startAfter, h.listed, parseHHMMMinutes_eq h.start, hafter, if_true]

theorem startAfter_later {day : Int} {t : Time} (h : startAfter now day w = some t) :
    now.nanos < t.nanos ∧ t.loc = now.loc ∧ day * Day ≤ clock now.loc t.nanos ∧
      clock now.loc t.nanos < (day + 1) * Day := by
  unfold startAfter at h
  split_ifs at h with hday
  cases hparse : parseHHMMMinutes w.StartTime with
  | none =>
      rw [hparse] at h
      cases h
  | some m =>
      rw [hparse] at h
      simp only at h
      split_ifs at h with hafter
      have ht : Date day m now.loc = t := Option.some.inj h
      have hm : 0 ≤ m ∧ m < 1440 := by
        unfold parseHHMMMinutes at hparse
        cases hsplit : splitColon (TrimSpace w.StartTime) with
        | none =>
            rw [hsplit] at hparse
            cases hparse
        | some parts =>
            rw [hsplit] at hparse
            obtain ⟨hours, minutes⟩ := parts
            simp only at hparse
            cases hhours : parseSmallInt hours with
            | error e =>
                rw [hhours] at hparse
                cases hparse
            | ok hh =>
                cases hminutes : parseSmallInt minutes with
                | error e =>
                    rw [hhours, hminutes] at hparse
                    cases hparse
                | ok mm =>
                    rw [hhours, hminutes] at hparse
                    simp only at hparse
                    split_ifs at hparse with hbad
                    have hmm := Option.some.inj hparse
                    omega
      rw [← ht]
      refine ⟨of_decide_eq_true hafter, rfl, ?_, ?_⟩
      · rw [clock_Date]
        simp only [Day, Hour, Minute, Second]
        omega
      · rw [clock_Date]
        simp only [Day, Hour, Minute, Second]
        omega

theorem weekdayAbbrev_add (day : Int) (k : Int) : weekdayAbbrev (day + 7 * k) = weekdayAbbrev day := by
  rw [weekdayAbbrev, weekdayAbbrev, Int.add_mul_emod_self_left]

/-- A window that opens on some day opens on one of the next seven. -/
theorem SoulContactAvailabilityWindow.Opens.soon {day s e : Int} (h : w.Opens day s e) (today : Int) :
    ∃ i : Nat, 1 ≤ i ∧ i < 8 ∧ w.Opens (today + i) s e := by
  refine ⟨((day - today - 1) % 7).toNat + 1, by omega, by omega, ⟨?_, h.start, h.stop⟩⟩
  have hday : today + ((((day - today - 1) % 7).toNat + 1 : Nat) : Int) =
      day + 7 * -((day - today - 1) / 7) := by omega
  rw [hday, weekdayAbbrev_add]
  exact h.listed

theorem SoulContactAvailabilityWindow.Opens.openAt {day s e : Int} (hw : w ∈ windows) (h : w.Opens day s e) :
    OpenAt now.loc windows (Date day s now.loc).nanos := by
  obtain ⟨hs₀, hs⟩ := clockTime_bounds h.start
  obtain ⟨he₀, he⟩ := clockTime_bounds h.stop
  refine ⟨w, hw, day, s, e, h, by rw [clock_Date], ?_⟩
  rw [clock_Date, lastMinute]
  simp only [Minute, Second]
  split_ifs with hlt <;> omega

/-- An interval that is entered after `now` begins after `now`. -/
theorem start_of_openAt {u : Int} (hnow : ¬ OpenAt now.loc windows now.nanos) (hu : now.nanos < u)
    (h : OpenAt now.loc windows u) : ∃ w ∈ windows, ∃ day s e, w.Opens day s e ∧
      now.nanos < (Date day s now.loc).nanos ∧ (Date day s now.loc).nanos ≤ u := by
  obtain ⟨w, hw, day, s, e, hopens, hfrom, hto⟩ := h
  refine ⟨w, hw, day, s, e, hopens, ?_, ?_⟩
  · by_contra hle
    refine hnow ⟨w, hw, day, s, e, hopens, ?_, ((clock_lt _).2 hu).trans hto⟩
    rw [← clock_Date day s now.loc]
    exact not_lt.1 fun hlt => hle ((clock_lt _).1 hlt)
  · rw [← clock_Date day s now.loc] at hfrom
    exact not_lt.1 fun hlt => absurd ((clock_lt _).2 hlt) (not_lt.2 hfrom)

theorem opens_of_openAt {u : Int} (h : OpenAt now.loc windows u) :
    ∃ w ∈ windows, ∃ day s e, w.Opens day s e := by
  obtain ⟨w, hw, day, s, e, hopens, -⟩ := h
  exact ⟨w, hw, day, s, e, hopens⟩

/-- The days from today on where the start of an interval may be looked for. -/
theorem dayOf_le_of_lt {day s : Int} {e : Int} (h : w.Opens day s e)
    (hlater : now.nanos < (Date day s now.loc).nanos) : dayOf now ≤ day := by
  obtain ⟨hs₀, hs⟩ := clockTime_bounds h.start
  obtain ⟨r, hclock, hr₀, hr, -, -⟩ := clock_dayOf now
  have hlt := (clock_lt now.loc).2 hlater
  rw [clock_Date, hclock] at hlt
  simp only [Day, Hour, Minute, Second] at hlt hr
  omega

/-- What the search finds: the first window with a start on the first day that has one. -/
theorem next_found {i : Nat} {before after : List SoulContactAvailabilityWindow} {t : Time}
    (hi : i < 8) (hsplit : windows = before ++ w :: after)
    (ht : startAfter now (dayOf now + (i : Nat)) w = some t)
    (hdays : ∀ j < i, ∀ v ∈ windows, startAfter now (dayOf now + (j : Nat)) v = none)
    (hbefore : ∀ v ∈ before, startAfter now (dayOf now + (i : Nat)) v = none) :
    nextAvailabilityStart now windows = t := by
  have hday : windows.findSome? (startAfter now (dayOf now + (i : Nat))) = some t :=
    List.findSome?_eq_some_iff.2 ⟨before, w, after, hsplit, ht, hbefore⟩
  have hfind := findSome?_range.2 ⟨i, hi, hday, fun j hj =>
    List.findSome?_eq_none_iff.2 (hdays j hj)⟩
  rw [nextAvailabilityStart, hfind]
  rfl

theorem next_cases : (nextAvailabilityStart now windows = zeroTime ∧
      ∀ i < 8, ∀ v ∈ windows, startAfter now (dayOf now + (i : Nat)) v = none) ∨
    ∃ i < 8, ∃ before w after t, windows = before ++ w :: after ∧
      startAfter now (dayOf now + (i : Nat)) w = some t ∧
      (∀ j < i, ∀ v ∈ windows, startAfter now (dayOf now + (j : Nat)) v = none) ∧
      ∀ v ∈ before, startAfter now (dayOf now + (i : Nat)) v = none := by
  cases hfind : (List.range 8).findSome? fun i =>
      windows.findSome? (startAfter now (dayOf now + (i : Nat))) with
  | none =>
      left
      refine ⟨by rw [nextAvailabilityStart, hfind]; rfl, fun i hi v hv => ?_⟩
      have hday := List.findSome?_eq_none_iff.1 hfind i (List.mem_range.2 hi)
      exact List.findSome?_eq_none_iff.1 hday v hv
  | some t =>
      right
      obtain ⟨i, hi, hday, hdays⟩ := findSome?_range.1 hfind
      obtain ⟨before, w, after, hsplit, ht, hbefore⟩ := List.findSome?_eq_some_iff.1 hday
      exact ⟨i, hi, before, w, after, t, hsplit, ht,
        fun j hj => List.findSome?_eq_none_iff.1 (hdays j hj), hbefore⟩

/-- What is found is the earliest later instant in an interval where a well-formed window starts then
and none of them starts earlier that day. -/
theorem nextOpen_iff {i : Nat} {t : Time} (hnow : ¬ OpenAt now.loc windows now.nanos)
    (ht : startAfter now (dayOf now + (i : Nat)) w = some t)
    (hdays : ∀ j < i, ∀ v ∈ windows, startAfter now (dayOf now + (j : Nat)) v = none) :
    NextOpen now.loc windows now.nanos t.nanos ↔
      ((∃ v ∈ windows, ∃ day s e, v.Opens day s e) →
        (∃ v ∈ windows, ∃ s e, v.Opens (dayOf now + (i : Nat)) s e ∧
          t = Date (dayOf now + (i : Nat)) s now.loc) ∧
        ∀ v ∈ windows, ∀ s e, v.Opens (dayOf now + (i : Nat)) s e →
          now.nanos < (Date (dayOf now + (i : Nat)) s now.loc).nanos →
          t.nanos ≤ (Date (dayOf now + (i : Nat)) s now.loc).nanos) ∧
      ((¬ ∃ v ∈ windows, ∃ day s e, v.Opens day s e) → t.nanos = now.nanos + 24 * Hour) := by
  obtain ⟨hlater, hloc, hfrom, hto⟩ := startAfter_later ht
  have hexists : (∃ u, OpenAt now.loc windows u) ↔ ∃ v ∈ windows, ∃ day s e, v.Opens day s e := by
    constructor
    · rintro ⟨u, hu⟩
      exact opens_of_openAt hu
    · rintro ⟨v, hv, day, s, e, hopens⟩
      exact ⟨_, hopens.openAt hv⟩
  rw [NextOpen, hexists]
  refine and_congr (forall_congr' fun _ => ?_) Iff.rfl
  constructor
  · rintro ⟨-, hopen, hleast⟩
    obtain ⟨v, hv, day, s, e, hopens, hsnow, hst⟩ := start_of_openAt hnow hlater hopen
    -- nothing opens between `now` and `t`, so the interval around `t` begins at `t`
    have heq : (Date day s now.loc).nanos = t.nanos := by
      refine le_antisymm hst (not_lt.1 fun hlt => ?_)
      exact hleast _ hsnow hlt (hopens.openAt hv)
    obtain ⟨hs₀, hs⟩ := clockTime_bounds hopens.start
    have hclock := clock_Date day s now.loc
    rw [heq] at hclock
    have hday : day = dayOf now + (i : Nat) := by
      rw [hclock] at hfrom hto
      simp only [Day, Hour, Minute, Second] at hfrom hto
      omega
    refine ⟨⟨v, hv, s, e, hday ▸ hopens, ?_⟩, fun v' hv' s' e' hopens' hlater' => ?_⟩
    · rw [← hday]
      have hnanos : t.nanos = (Date day s now.loc).nanos := heq.symm
      cases t with
      | mk nanos loc =>
          simp only at hnanos hloc
          rw [hnanos, hloc]
          rfl
    · exact not_lt.1 fun hlt => hleast _ hlater' hlt (hopens'.openAt hv')
  · rintro ⟨⟨v, hv, s, e, hopens, hdate⟩, hfirst⟩
    refine ⟨hlater, hdate ▸ hopens.openAt hv, fun u hu hut hopen => ?_⟩
    obtain ⟨v', hv', day', s', e', hopens', hlater', hle⟩ := start_of_openAt hnow hu hopen
    have hday' := dayOf_le_of_lt hopens' hlater'
    obtain ⟨hs₀, hs⟩ := clockTime_bounds hopens'.start
    have hbefore : clock now.loc (Date day' s' now.loc).nanos < clock now.loc t.nanos :=
      (clock_lt _).2 (by omega)
    rw [clock_Date] at hbefore
    by_cases hsame : day' = dayOf now + (i : Nat)
    · rw [hsame] at hopens' hlater' hle
      have := hfirst v' hv' s' e' hopens' hlater'
      omega
    · have hearlier : day' < dayOf now + (i : Nat) := by
        simp only [Day, Hour, Minute, Second] at hbefore hto
        omega
      have hnone := hdays (day' - dayOf now).toNat (by omega) v' hv'
      have hcast : dayOf now + ((day' - dayOf now).toNat : Nat) = day' := by omega
      rw [hcast, hopens'.startAfter hlater'] at hnone
      cases hnone

end Next

/-! ## The decision -/

theorem availabilityDecision_custom (LoadLocation : String → Option Location) (now : Time) (tz : String)
    (windows : List SoulContactAvailabilityWindow) :
    availabilityDecision LoadLocation now (some ⟨"custom", tz, windows⟩) =
      if windows = [] then (true, now)
      else if inAvailabilityWindow { now with loc := zoneOf LoadLocation tz } windows then (true, now)
      else if (nextAvailabilityStart { now with loc := zoneOf LoadLocation tz } windows).IsZero then
        (false, now.Add (24 * Hour))
      else (false, (nextAvailabilityStart { now with loc := zoneOf LoadLocation tz } windows).UTC) := by
  have hschedule : ToLower (TrimSpace "custom") = "custom" := by decide
  have hset : ¬ ("custom" = "" ∨ "custom" = "always") := by decide
  have hother : ¬ "custom" = "business-hours" := by decide
  simp only [availabilityDecision, hschedule, if_neg hset, if_neg hother, List.length_eq_zero_iff]

section Decision

variable {LoadLocation : String → Option Location} {tz : String}
  {windows : List SoulContactAvailabilityWindow} {now localNow : Time}

theorem decision_available (hne : windows ≠ [])
    (hlocal : { now with loc := zoneOf LoadLocation tz } = localNow) :
    (availabilityDecision LoadLocation now (some ⟨"custom", tz, windows⟩)).1 =
      inAvailabilityWindow localNow windows := by
  rw [availabilityDecision_custom, if_neg hne, hlocal]
  cases hin : inAvailabilityWindow localNow windows with
  | true => rw [if_pos rfl]
  | false =>
      simp only [Bool.false_eq_true, if_false]
      split_ifs <;> simp only

theorem decision_next (hne : windows ≠ [])
    (hlocal : { now with loc := zoneOf LoadLocation tz } = localNow)
    (hin : inAvailabilityWindow localNow windows = false) :
    (availabilityDecision LoadLocation now (some ⟨"custom", tz, windows⟩)).2.nanos =
      if (nextAvailabilityStart localNow windows).IsZero then now.nanos + 24 * Hour
      else (nextAvailabilityStart localNow windows).nanos := by
  rw [availabilityDecision_custom, if_neg hne, hlocal, hin]
  simp only [Bool.false_eq_true, if_false]
  split_ifs <;> simp only [Time.Add, Time.UTC]

/-- Nothing is found only where no window ever opens. -/
theorem never_opens (hnone : ∀ i < 8, ∀ v ∈ windows, startAfter now (dayOf now + (i : Nat)) v = none)
    {u : Int} : ¬ OpenAt now.loc windows u := by
  intro hopen
  obtain ⟨w, hw, day, s, e, hopens⟩ := opens_of_openAt hopen
  obtain ⟨i, hi₁, hi, hsoon⟩ := hopens.soon (dayOf now)
  have hlater : now.nanos < (Date (dayOf now + i) s now.loc).nanos := by
    obtain ⟨hs₀, hs⟩ := clockTime_bounds hopens.start
    obtain ⟨r, hclock, hr₀, hr, -, -⟩ := clock_dayOf now
    refine (clock_lt now.loc).1 ?_
    rw [clock_Date, hclock]
    simp only [Day, Hour, Minute, Second] at hr ⊢
    omega
  have hstart := hsoon.startAfter hlater
  rw [hnone i hi w hw] at hstart
  cases hstart

/-- While nothing is open, the next time is right exactly where the first start is. -/
theorem nextOpen_iff_startsWell (hnow : 0 ≤ now.nanos) (hclosed : ¬ OpenAt now.loc windows now.nanos) :
    NextOpen now.loc windows now.nanos (if (nextAvailabilityStart now windows).IsZero then
      now.nanos + 24 * Hour else (nextAvailabilityStart now windows).nanos) ↔
    StartsWell now windows := by
  rcases @next_cases now windows with ⟨hzero, hnone⟩ | hfound
  · refine iff_of_true ?_ fun i hi before w after t hsplit ht => ?_
    · have hunset : zeroTime.IsZero = true := by decide
      rw [hzero, hunset, if_pos rfl]
      exact ⟨fun ⟨u, hu⟩ => absurd hu (never_opens hnone), fun _ => rfl⟩
    · rw [hnone i hi w (hsplit ▸ List.mem_append_right _ List.mem_cons_self)] at ht
      cases ht
  · obtain ⟨i, hi, before, w, after, t, hsplit, ht, hdays, hbefore⟩ := hfound
    have hw : w ∈ windows := hsplit ▸ List.mem_append_right _ List.mem_cons_self
    have hnext := next_found hi hsplit ht hdays hbefore
    have hlater := (startAfter_later ht).1
    have hset : t.IsZero = false := by
      rw [Time.IsZero, beq_eq_false_iff_ne]
      omega
    rw [hnext, hset]
    simp only [Bool.false_eq_true, if_false]
    rw [nextOpen_iff hclosed ht hdays]
    constructor
    · intro h i' hi' before' w' after' t' hsplit' ht' hdays' hbefore'
      have hnext' := next_found hi' hsplit' ht' hdays' hbefore'
      have htt : t = t' := hnext.symm.trans hnext'
      have hw' : w' ∈ windows := hsplit' ▸ List.mem_append_right _ List.mem_cons_self
      have hii : i = i' := by
        rcases Nat.lt_trichotomy i i' with hlt | heq | hgt
        · have hnone := hdays' i hlt w hw
          rw [ht] at hnone
          cases hnone
        · exact heq
        · have hnone := hdays i' hgt w' hw'
          rw [ht'] at hnone
          cases hnone
      rw [← hii, ← htt]
      exact h
    · intro h
      exact h i hi before w after t hsplit ht hdays hbefore

/-- **Availability.** The decision about an instant is that of the intervals exactly where the windows
read well at it. -/
theorem decides_right_iff (LoadLocation : String → Option Location) (tz : String)
    (windows : List SoulContactAvailabilityWindow) {now : Time} (hnow : 0 ≤ now.nanos) :
    DecidesRight LoadLocation now tz windows ↔
      Reads { now with loc := zoneOf LoadLocation tz } windows := by
  by_cases hempty : windows = []
  · have hclosed : ¬ OpenAt (zoneOf LoadLocation tz) windows now.nanos := by
      rintro ⟨w, hw, -⟩
      rw [hempty] at hw
      exact absurd hw List.not_mem_nil
    refine iff_of_false (fun h => hclosed (h.available.1 ?_)) fun h => h.configured hempty
    rw [availabilityDecision_custom, if_pos hempty]
  · generalize hlocal : { now with loc := zoneOf LoadLocation tz } = localNow
    have hloc : localNow.loc = zoneOf LoadLocation tz := by rw [← hlocal]
    have hnanos : localNow.nanos = now.nanos := by rw [← hlocal]
    have htest := decision_available hempty hlocal
    have hovernight := @overnight_iff localNow windows
    have hopened := @inAvailabilityWindow_iff localNow windows
    rw [hloc, hnanos] at hovernight
    have hshut : inAvailabilityWindow localNow windows = false →
        (inAvailabilityWindow localNow windows = true ↔
          OpenAt (zoneOf LoadLocation tz) windows now.nanos) →
        (NextOpen (zoneOf LoadLocation tz) windows now.nanos
          (availabilityDecision LoadLocation now (some ⟨"custom", tz, windows⟩)).2.nanos ↔
          StartsWell localNow windows) := by
      intro hin hright
      have hclosed : ¬ OpenAt localNow.loc windows localNow.nanos := by
        rw [hloc, hnanos, ← hright, hin]
        exact Bool.false_ne_true
      have hiff := nextOpen_iff_startsWell (by rw [hnanos]; exact hnow) hclosed
      rw [hloc, hnanos] at hiff
      rw [decision_next hempty hlocal hin]
      exact hiff
    constructor
    · intro h
      have hright := h.available
      rw [htest] at hright
      refine ⟨hempty, hovernight.1 hright, fun hnone => ?_⟩
      have hin : inAvailabilityWindow localNow windows = false := by
        rw [← Bool.not_eq_true, hopened]
        exact hnone
      exact (hshut hin hright).1 (h.next (by rw [htest, hin]))
    · intro h
      have hright := hovernight.2 h.overnight
      refine ⟨by rw [htest]; exact hright, fun hfalse => ?_⟩
      rw [htest] at hfalse
      refine (hshut hfalse hright).2 (h.next ?_)
      rw [← hopened, hfalse]
      exact Bool.false_ne_true

end Decision

/-- A night that begins on Monday evening. -/
def mondayNight : List SoulContactAvailabilityWindow := [⟨["mon"], "22:00", "02:00"⟩]

/-- Two windows of a Monday, the later one first. -/
def mondayWindows : List SoulContactAvailabilityWindow :=
  [⟨["mon"], "14:00", "15:00"⟩, ⟨["mon"], "09:00", "10:00"⟩]

/-- An hour of the first of January 2024, a Monday. -/
def mondayAt (hour : Int) : Time := ⟨738885 * Day + hour * Hour, .utc⟩

theorem decides_right_sample : DecidesRight (fun _ => none) (mondayAt 9) "" mondayWindows := by
  refine (decides_right_iff (fun _ => none) "" mondayWindows (by decide)).2 ?_
  have hbegan : BeganToday (mondayAt 9) ⟨["mon"], "09:00", "10:00"⟩ :=
    ⟨540, 600, ⟨by decide, by decide +kernel, by decide +kernel⟩, by decide, fun _ => by decide⟩
  have hmem : (⟨["mon"], "09:00", "10:00"⟩ : SoulContactAvailabilityWindow) ∈ mondayWindows := by decide
  exact ⟨by decide, Or.inl ⟨_, hmem, hbegan⟩, fun hnone => absurd ⟨_, hmem, Or.inl hbegan⟩ hnone⟩

/-- At one o'clock on Monday the window of Monday night is taken to hold, and at eight the window of
the afternoon is taken to be the next one. -/
theorem not_decides_right : ¬ DecidesRight (fun _ => none) (mondayAt 1) "" mondayNight ∧
    ¬ DecidesRight (fun _ => none) (mondayAt 8) "" mondayWindows := by
  have hday : ∀ hour : Int, 0 ≤ hour → hour < 24 → dayOf (mondayAt hour) = 738885 ∧
      minuteOfDay (mondayAt hour) = 60 * hour := by
    intro hour h₀ h
    simp only [dayOf, minuteOfDay, mondayAt, clock, Day, Hour, Minute, Second]
    omega
  have hmonday : dayInWindow (weekdayAbbrev 738884) ["mon"] = false := by decide
  constructor
  · intro h
    have hopen := h.available.1 (by decide)
    obtain ⟨w, hw, hbegan⟩ := (@openAt_iff (mondayAt 1) _).1 hopen
    have hw' : w = ⟨["mon"], "22:00", "02:00"⟩ := List.mem_singleton.1 hw
    rw [hw'] at hbegan
    have hstart : clockTime "22:00" = some 1320 := by decide
    obtain ⟨hdayOf, hminute⟩ := hday 1 (by decide) (by decide)
    rcases hbegan with ⟨s, e, hopens, hs, -⟩ | ⟨s, e, hopens, -, -⟩
    · have hs' : 1320 = s := Option.some.inj (hstart.symm.trans hopens.start)
      omega
    · have hlisted := hopens.listed
      rw [hdayOf] at hlisted
      exact absurd (hmonday.symm.trans hlisted) (by decide)
  · intro h
    have hnext := h.next (by decide)
    have htwo : (availabilityDecision (fun _ => none) (mondayAt 8)
        (some ⟨"custom", "", mondayWindows⟩)).2.nanos = (mondayAt 14).nanos := by decide
    have hopens : SoulContactAvailabilityWindow.Opens ⟨["mon"], "09:00", "10:00"⟩ 738885 540 600 :=
      ⟨by decide, by decide +kernel, by decide +kernel⟩
    have hnine : OpenAt .utc mondayWindows (mondayAt 9).nanos :=
      ⟨_, by decide, 738885, 540, 600, hopens, by decide, by decide⟩
    rw [htwo] at hnext
    exact (hnext.1 ⟨_, hnine⟩).2.2 _ (by decide) (by decide) hnine

end LesserHost.CommWorker
