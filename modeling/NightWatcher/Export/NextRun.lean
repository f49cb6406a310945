import Mathlib
import NightWatcher.Export.TimeUtil

/-!
# The next run of an export target

The three schedules ask for the next instant of a series: every day, every week or every month at
a local time. A series is strictly increasing in the number of its day, week or month, so if the
occurrence of one number lies behind now and the one two further lies ahead, the next one is the
one between them or the one after it (`isLeast_next`). In a zone of constant offset that is what
the `next_local_*` helpers return.
-/

namespace NightWatcher.TimeUtil

open Gregorian

/-! ## Series of instants -/

/-- The next instant of a series, if its number is known up to one. -/
theorem isLeast_next {f : Int → Int} (hf : StrictMono f) {now k : Int} (hbehind : f (k - 1) ≤ now)
    (hahead : now < f (k + 1)) :
    IsLeast {t | now < t ∧ ∃ n, t = f n} (if f k ≤ now then f (k + 1) else f k) := by
  by_cases h : f k ≤ now
  · rw [if_pos h]
    refine ⟨⟨hahead, k + 1, rfl⟩, ?_⟩
    intro t ht
    obtain ⟨hlt, n, rfl⟩ := ht
    apply hf.monotone
    have hn : k < n := hf.lt_iff_lt.mp (by omega)
    omega
  · rw [if_neg h]
    refine ⟨⟨by omega, k, rfl⟩, ?_⟩
    intro t ht
    obtain ⟨hlt, n, rfl⟩ := ht
    apply hf.monotone
    have hn : k - 1 < n := hf.lt_iff_lt.mp (by omega)
    omega

/-! ## Local times -/

variable (offset : String → Int) (tz : String)

/-- The clock shows this time. -/
def ShowsTime (hour minute : Int) (tm : Tm) : Prop :=
  tm.tmHour = hour ∧ tm.tmMin = minute ∧ tm.tmSec = 0

/-- A time on a local day, given by its number. -/
def localTimeOfDay (hour minute day : Int) : Int :=
  day * 86400 + hour * 3600 + minute * 60 - offsetOf offset tz

variable {offset tz}

/-- The clock shows a time once a day. -/
theorem showsTime_iff {hour minute t : Int} (hminute : 0 ≤ minute ∧ minute ≤ 59) :
    ShowsTime hour minute (localTm (Zones.fixed offset) t tz) ↔
      t = localTimeOfDay offset tz hour minute ((t + offsetOf offset tz) / 86400) := by
  rw [localTm_fixed]
  unfold ShowsTime localTimeOfDay
  show ((t + offsetOf offset tz) % 86400 / 3600 = hour ∧ (t + offsetOf offset tz) % 3600 / 60 = minute ∧
    (t + offsetOf offset tz) % 60 = 0) ↔ _
  omega

/-- The local day of a time on a day. -/
theorem localTimeOfDay_day {hour minute day : Int} (hhour : 0 ≤ hour ∧ hour ≤ 23)
    (hminute : 0 ≤ minute ∧ minute ≤ 59) :
    (localTimeOfDay offset tz hour minute day + offsetOf offset tz) / 86400 = day := by
  unfold localTimeOfDay
  omega

/-- A broken-down time as `mktime` takes it: the month and the day may be out of range. -/
theorem tzMktime_time (year mon mday hour minute wday : Int) :
    tzMktime (Zones.fixed offset) ⟨year, mon, mday, hour, minute, 0, wday⟩ tz
      = localTimeOfDay offset tz hour minute (firstOfMonth (12 * (year + 1900) + mon) + mday - 1) := by
  rw [tzMktime_fixed]
  unfold timegm localTimeOfDay
  dsimp only
  omega

/-- The date of an instant, as the number of its day and of its month. -/
theorem localTm_date (t : Int) :
    12 * ((localTm (Zones.fixed offset) t tz).tmYear + 1900) + (localTm (Zones.fixed offset) t tz).tmMon
        = monthOf ((t + offsetOf offset tz) / 86400) ∧
      (localTm (Zones.fixed offset) t tz).tmMday
        = (t + offsetOf offset tz) / 86400 - firstOfMonth
            (monthOf ((t + offsetOf offset tz) / 86400)) + 1 ∧
      (localTm (Zones.fixed offset) t tz).tmWday = ((t + offsetOf offset tz) / 86400 + 4) % 7 := by
  rw [localTm_fixed]
  exact ⟨gmtime_month _, rfl, rfl⟩

section Schedules

variable {hour minute now : Int} (hhour : 0 ≤ hour ∧ hour ≤ 23) (hminute : 0 ≤ minute ∧ minute ≤ 59)

include hhour hminute

/-- Of a series of days with a time, the next instant is the next to show the time on such a day. -/
theorem isLeast_time {days : Int → Int} (hdays : StrictMono days) {k : Int} {onDay : Int → Prop}
    (honDay : ∀ day, onDay day ↔ ∃ n, day = days n)
    (hbehind : days (k - 1) < (now + offsetOf offset tz) / 86400)
    (hahead : (now + offsetOf offset tz) / 86400 < days (k + 1)) :
    IsLeast {t | now < t ∧ ShowsTime hour minute (localTm (Zones.fixed offset) t tz) ∧
        onDay ((t + offsetOf offset tz) / 86400)}
      (if localTimeOfDay offset tz hour minute (days k) ≤ now
        then localTimeOfDay offset tz hour minute (days (k + 1))
        else localTimeOfDay offset tz hour minute (days k)) := by
  have hmono : StrictMono fun n => localTimeOfDay offset tz hour minute (days n) := by
    intro n m hlt
    have hday := hdays hlt
    dsimp only
    unfold localTimeOfDay
    omega
  have hleast := @isLeast_next _ hmono now k (by unfold localTimeOfDay; omega)
    (by unfold localTimeOfDay; omega)
  have hset : {t | now < t ∧ ShowsTime hour minute (localTm (Zones.fixed offset) t tz) ∧
      onDay ((t + offsetOf offset tz) / 86400)}
        = {t | now < t ∧ ∃ n, t = localTimeOfDay offset tz hour minute (days n)} := by
    ext t
    apply and_congr_right
    intro _
    rw [showsTime_iff hminute, honDay]
    constructor
    · intro h
      obtain ⟨htime, n, hn⟩ := h
      exact ⟨n, hn ▸ htime⟩
    · intro h
      obtain ⟨n, rfl⟩ := h
      rw [localTimeOfDay_day hhour hminute]
      exact ⟨rfl, n, rfl⟩
  rw [hset]
  exact hleast

/-- Every day. -/
theorem nextLocalHhmmUtc_least :
    IsLeast {t | now < t ∧ ShowsTime hour minute (localTm (Zones.fixed offset) t tz)}
      (nextLocalHhmmUtc (Zones.fixed offset) hour minute tz now) := by
  obtain ⟨hmonth, hmday, -⟩ := @localTm_date offset tz now
  have hleast := @isLeast_time offset tz hour minute now hhour hminute (fun n => n) strictMono_id
    ((now + offsetOf offset tz) / 86400) (fun _ => True) (fun day => iff_of_true trivial ⟨day, rfl⟩)
    (by omega) (by omega)
  simp only [and_true] at hleast
  unfold nextLocalHhmmUtc
  simp only [tzMktime_time, hmonth, hmday]
  have htoday : firstOfMonth (monthOf ((now + offsetOf offset tz) / 86400)) +
      ((now + offsetOf offset tz) / 86400 - firstOfMonth
          (monthOf ((now + offsetOf offset tz) / 86400)) + 1) - 1
        = (now + offsetOf offset tz) / 86400 := by omega
  have htomorrow : firstOfMonth (monthOf ((now + offsetOf offset tz) / 86400)) +
      ((now + offsetOf offset tz) / 86400 - firstOfMonth
          (monthOf ((now + offsetOf offset tz) / 86400)) + 1 + 1) - 1
        = (now + offsetOf offset tz) / 86400 + 1 := by omega
  rw [htoday, htomorrow]
  exact hleast

/-- The weekday of a schedule, 0 to 6. -/
def clampWday (wday : Int) : Int := if wday < 0 then 0 else if 6 < wday then 6 else wday

/-- Every week. -/
theorem nextLocalWeeklyUtc_least (wday : Int) :
    IsLeast {t | now < t ∧ ShowsTime hour minute (localTm (Zones.fixed offset) t tz) ∧
        (localTm (Zones.fixed offset) t tz).tmWday = clampWday wday}
      (nextLocalWeeklyUtc (Zones.fixed offset) wday hour minute tz now) := by
  have hwday : 0 ≤ clampWday wday ∧ clampWday wday ≤ 6 := by
    unfold clampWday
    split
    · omega
    · split <;> omega
  unfold nextLocalWeeklyUtc
  dsimp only
  rw [show (if wday < 0 then 0 else if 6 < wday then 6 else wday) = clampWday wday from rfl]
  obtain ⟨hmonth, hmday, hweekday⟩ := @localTm_date offset tz now
  simp only [tzMktime_time, hmonth, hmday, hweekday, (localTm_date _).2.2]
  generalize clampWday wday = wd at hwday ⊢
  generalize hday : (now + offsetOf offset tz) / 86400 = day
  have hmod : (wd - (day + 4) % 7 + 7).tmod 7 = (wd - (day + 4) % 7 + 7) % 7 :=
    Int.tmod_eq_emod_of_nonneg (by omega)
  rw [hmod]
  generalize hk : (day + (wd - (day + 4) % 7 + 7) % 7 + 4 - wd) / 7 = k
  have hleast := @isLeast_time offset tz hour minute now hhour hminute (fun n => 7 * n + wd - 4)
    (by intro n m hlt; dsimp only; omega) k (fun d => (d + 4) % 7 = wd) (by
      intro d
      constructor
      · intro h
        exact ⟨(d + 4 - wd) / 7, by omega⟩
      · intro h
        obtain ⟨n, rfl⟩ := h
        omega) (by rw [hday]; omega) (by rw [hday]; omega)
  have hthis : firstOfMonth
      (monthOf day) + (day - firstOfMonth (monthOf day) + 1 + (wd - (day + 4) % 7 + 7) % 7) - 1
      = 7 * k + wd - 4 := by omega
  have hnext : firstOfMonth (monthOf day) +
      (day - firstOfMonth (monthOf day) + 1 + (wd - (day + 4) % 7 + 7) % 7 + 7) - 1 =
          7 * (k + 1) + wd - 4 := by
    omega
  rw [hthis, hnext]
  exact hleast

omit hhour hminute

/-- The day of the month of a schedule: a fixed one, which every month has, or the last. -/
def scheduledMday (mday month : Int) : Int := if mday ≤ 0 then daysInMonth month else min mday 28

theorem scheduledMday_range (mday month : Int) :
    1 ≤ scheduledMday mday month ∧ scheduledMday mday month ≤ daysInMonth month := by
  have hdays := daysInMonth_bounds month
  unfold scheduledMday
  split
  · omega
  · omega

/-- The scheduled day of a month, by number. -/
def scheduledDay (mday month : Int) : Int := firstOfMonth month + scheduledMday mday month - 1

theorem scheduledDay_range (mday month : Int) :
    firstOfMonth month ≤ scheduledDay mday month ∧
        scheduledDay mday month < firstOfMonth (month + 1) := by
  have hrange := scheduledMday_range mday month
  have hlength := firstOfMonth_succ month
  unfold scheduledDay
  omega

theorem scheduledDay_strictMono (mday : Int) : StrictMono (scheduledDay mday) := by
  intro n m hlt
  have hn := scheduledDay_range mday n
  have hm := scheduledDay_range mday m
  have hfirst := firstOfMonth_mono (show n + 1 ≤ m by omega)
  omega

/-- A day is the scheduled one of its month, or of none. -/
theorem scheduledDay_iff (mday day : Int) :
    day - firstOfMonth (monthOf day) + 1 = scheduledMday mday (monthOf day) ↔
        ∃ n, day = scheduledDay mday n := by
  constructor
  · intro h
    refine ⟨monthOf day, ?_⟩
    unfold scheduledDay
    omega
  · intro h
    obtain ⟨n, rfl⟩ := h
    obtain ⟨hlo, hhi⟩ := scheduledDay_range mday n
    rw [monthOf_eq hlo hhi]
    unfold scheduledDay
    omega

include hhour hminute

/-- Every month. -/
theorem nextLocalMonthlyUtc_least (mday : Int) :
    IsLeast {t | now < t ∧ ShowsTime hour minute (localTm (Zones.fixed offset) t tz) ∧
        (localTm (Zones.fixed offset) t tz).tmMday = scheduledMday mday
          (12 * ((localTm (Zones.fixed offset) t tz).tmYear + 1900) + (localTm (Zones.fixed offset)
              t tz).tmMon)}
      (nextLocalMonthlyUtc (Zones.fixed offset) mday hour minute tz now) := by
  obtain ⟨hmonth, -, -⟩ := @localTm_date offset tz now
  simp only [(localTm_date _).1, (localTm_date _).2.1]
  generalize hday : (now + offsetOf offset tz) / 86400 = day at hmonth
  have hspec := monthOf_spec day
  have hbehind := (scheduledDay_range mday (monthOf day - 1)).2
  have hahead := (scheduledDay_range mday (monthOf day + 1)).1
  rw [Int.sub_add_cancel] at hbehind
  -- the scheduled days are one in each month, in order
  have hleast := @isLeast_time offset tz hour minute now hhour hminute (scheduledDay mday)
    (scheduledDay_strictMono mday) (monthOf day) (fun d => d - firstOfMonth (monthOf d) + 1
      = scheduledMday mday (monthOf d)) (scheduledDay_iff mday) (by omega) (by omega)
  unfold nextLocalMonthlyUtc
  dsimp only
  simp only [tzMktime_time, ← Int.add_assoc, hmonth]
  by_cases hlast : mday ≤ 0
  · -- day 0 of the next month is the last of this one
    have hthis : firstOfMonth (monthOf day + 1) + 0 - 1 = scheduledDay mday (monthOf day) := by
      have hlength := firstOfMonth_succ (monthOf day)
      unfold scheduledDay scheduledMday
      rw [if_pos hlast]
      omega
    have hnext : firstOfMonth (monthOf day + 2) + 0 - 1 = scheduledDay mday (monthOf day + 1) := by
      have hlength := firstOfMonth_succ (monthOf day + 1)
      rw [Int.add_assoc, show (1 : Int) + 1 = 2 from rfl] at hlength
      unfold scheduledDay scheduledMday
      rw [if_pos hlast]
      omega
    simp only [decide_eq_true hlast, if_true]
    rw [hthis, hnext]
    exact hleast
  -- a day from 1 to 28 is the same in every month
  · have hclamp : (if (!decide (mday ≤ 0) && decide (28 < mday)) = true then 28 else mday)
        = scheduledMday mday (monthOf day) ∧
        scheduledMday mday (monthOf day + 1) = scheduledMday mday (monthOf day) := by
      unfold scheduledMday
      rw [if_neg hlast, if_neg hlast, decide_eq_false hlast, Bool.not_false, Bool.true_and]
      by_cases hlarge : 28 < mday
      · rw [if_pos (decide_eq_true hlarge), min_eq_right (by omega)]
        exact ⟨rfl, rfl⟩
      · rw [if_neg (by rw [decide_eq_false hlarge]; exact Bool.false_ne_true), min_eq_left (by omega)]
        exact ⟨rfl, rfl⟩
    simp only [hclamp.1]
    simp only [decide_eq_false hlast, Bool.false_eq_true, if_false]
    unfold scheduledDay at hleast
    rw [hclamp.2] at hleast
    exact hleast

end Schedules

/-- Each of the three schedules returns the next instant on it. -/
theorem nextRuns_least (offset : String → Int) (tz : String) {hour minute : Int}
    (hhour : 0 ≤ hour ∧ hour ≤ 23)
    (hminute : 0 ≤ minute ∧ minute ≤ 59) (now wday mday : Int) :
    IsLeast {t | now < t ∧ ShowsTime hour minute (localTm (Zones.fixed offset) t tz)}
        (nextLocalHhmmUtc (Zones.fixed offset) hour minute tz now) ∧
      IsLeast {t | now < t ∧ ShowsTime hour minute (localTm (Zones.fixed offset) t tz) ∧
          (localTm (Zones.fixed offset) t tz).tmWday = clampWday wday}
        (nextLocalWeeklyUtc (Zones.fixed offset) wday hour minute tz now) ∧
      IsLeast {t | now < t ∧ ShowsTime hour minute (localTm (Zones.fixed offset) t tz) ∧
          (localTm (Zones.fixed offset) t tz).tmMday = scheduledMday mday
            (12 * ((localTm (Zones.fixed offset) t tz).tmYear + 1900)
              + (localTm (Zones.fixed offset) t tz).tmMon)}
        (nextLocalMonthlyUtc (Zones.fixed offset) mday hour minute tz now) :=
  ⟨nextLocalHhmmUtc_least hhour hminute, nextLocalWeeklyUtc_least hhour hminute wday,
    nextLocalMonthlyUtc_least hhour hminute mday⟩

/-- At noon of the last of February 2024, five hours west of Greenwich: half past six is tomorrow, the
next Sunday in three days, and the next last of a month at the end of March. -/
theorem leapDay_next :
    IsLeast {t | 1709226000 < t ∧ ShowsTime 6 30 (localTm (Zones.fixed fun _ => -18000) t "EST")}
        1709292600 ∧
      IsLeast {t | 1709226000 < t ∧ ShowsTime 6 30 (localTm (Zones.fixed fun _ => -18000) t "EST") ∧
          (localTm (Zones.fixed fun _ => -18000) t "EST").tmWday = clampWday (-3)} 1709465400 ∧
      IsLeast {t | 1709226000 < t ∧ ShowsTime 6 30 (localTm (Zones.fixed fun _ => -18000) t "EST") ∧
          (localTm (Zones.fixed fun _ => -18000) t "EST").tmMday = scheduledMday 0
            (12 * ((localTm (Zones.fixed fun _ => -18000) t "EST").tmYear + 1900)
              + (localTm (Zones.fixed fun _ => -18000) t "EST").tmMon)} 1711884600 :=
  nextRuns_least (fun _ => -18000) "EST" (by decide) (by decide) 1709226000 (-3) 0

end NightWatcher.TimeUtil
