import Mathlib.Tactic.NormNum

/-!
# The proleptic Gregorian calendar

Instants are seconds since 1970-01-01 00:00:00 UTC, days are counted from that
date, and months are numbered in one line: month `k` is month `k % 12` (January
is 0) of year `k / 12`. Everything rests on `firstOfMonth`, the day number of
the first of a month; it is a closed formula over the years counted from March,
so leap days fall at the end of a year and the arithmetic is linear with
constant divisors. `firstOfMonth_succ` ties it to the usual month lengths, and
`monthOf` inverts it.

`Tm`, `gmtime` and `timegm` are the broken-down time of the C library and its
two UTC conversions. `timegm` accepts fields out of range and normalises them,
as the library does; `timegm_gmtime` says that it undoes `gmtime`.
-/

namespace Gregorian

/-- Day number of the first day of month `k`. -/
def firstOfMonth (k : Int) : Int :=
  365 * ((k - 2) / 12) + (k - 2) / 48 - (k - 2) / 1200 + (k - 2) / 4800
    + (153 * ((k - 2) % 12) + 2) / 5 - 719468

def isLeapYear (y : Int) : Bool := y % 4 = 0 ∧ (y % 100 ≠ 0 ∨ y % 400 = 0)

def daysInMonth (k : Int) : Int :=
  if k % 12 = 1 then (if isLeapYear (k / 12) then 29 else 28)
  else if k % 12 = 3 ∨ k % 12 = 5 ∨ k % 12 = 8 ∨ k % 12 = 10 then 30 else 31

/-- The epoch is the first of January 1970. -/
theorem firstOfMonth_epoch : firstOfMonth (12 * 1970) = 0 := by decide

/-- The first of March of a year, in days from that of year 0. -/
def marchFirst (y : Int) : Int := 365 * y + y / 4 - y / 100 + y / 400

/-- Months are counted from March on. -/
theorem firstOfMonth_march (y : Int) {m : Int} (hlo : 0 ≤ m) (hhi : m ≤ 11) :
    firstOfMonth (12 * y + m + 2) = marchFirst y + (153 * m + 2) / 5 - 719468 := by
  have hk : 12 * y + m + 2 - 2 = 12 * y + m := by omega
  have hyear : (12 * y + m) / 12 = y := by omega
  have hmonth : (12 * y + m) % 12 = m := by omega
  have hfour : (12 * y + m) / 48 = y / 4 := by omega
  have hcentury : (12 * y + m) / 1200 = y / 100 := by omega
  have hcycle : (12 * y + m) / 4800 = y / 400 := by omega
  unfold firstOfMonth marchFirst
  rw [hk, hyear, hmonth, hfour, hcentury, hcycle]

/-- A year has a leap day at its end, if the next one is a leap year. -/
theorem marchFirst_succ (y : Int) :
    marchFirst (y + 1) = marchFirst y + if isLeapYear (y + 1) then 366 else 365 := by
  unfold marchFirst isLeapYear
  simp only [decide_eq_true_eq]
  split
  next hleap => omega
  next hcommon => omega

/-- From March to January the lengths repeat every five months. -/
theorem daysInMonth_march (y : Int) {m : Int} (hlo : 0 ≤ m) (hhi : m ≤ 10) :
    daysInMonth (12 * y + m + 2) = (153 * (m + 1) + 2) / 5 - (153 * m + 2) / 5 := by
  have hmod : (12 * y + m + 2) % 12 = (m + 2) % 12 := by omega
  have hm : m = 0 ∨ m = 1 ∨ m = 2 ∨ m = 3 ∨ m = 4 ∨ m = 5 ∨ m = 6 ∨ m = 7 ∨ m = 8 ∨ m = 9 ∨ m = 10 := by
    omega
  unfold daysInMonth
  rw [hmod, if_neg (by omega)]
  rcases hm with rfl | rfl | rfl | rfl | rfl | rfl | rfl | rfl | rfl | rfl | rfl
  all_goals rfl

/-- A month has its calendar length: with `firstOfMonth_epoch` this fixes
`firstOfMonth` everywhere. -/
theorem firstOfMonth_succ (k : Int) : firstOfMonth (k + 1) = firstOfMonth k + daysInMonth k := by
  obtain ⟨y, m, hlo, hhi, rfl⟩ : ∃ y m, 0 ≤ m ∧ m ≤ 11 ∧ k = 12 * y + m + 2 :=
    ⟨(k - 2) / 12, (k - 2) % 12, by omega, by omega, by omega⟩
  rcases Int.lt_or_eq_of_le hhi with hlt | rfl
  · have hnext : 12 * y + m + 2 + 1 = 12 * y + (m + 1) + 2 := by omega
    rw [hnext, firstOfMonth_march y hlo hhi, firstOfMonth_march y (by omega) (by omega),
      daysInMonth_march y hlo (by omega)]
    omega
  · -- February, which ends the year
    have hnext : 12 * y + 11 + 2 + 1 = 12 * (y + 1) + 0 + 2 := by omega
    have hmod : (12 * y + 11 + 2) % 12 = 1 := by omega
    have hyear : (12 * y + 11 + 2) / 12 = y + 1 := by omega
    have hdays : daysInMonth (12 * y + 11 + 2) = if isLeapYear (y + 1) then 29 else 28 := by
      unfold daysInMonth
      rw [if_pos hmod, hyear]
    rw [hnext, firstOfMonth_march y hlo hhi, firstOfMonth_march (y + 1) (by omega) (by omega), hdays,
      marchFirst_succ]
    split
    next hleap => omega
    next hcommon => omega

theorem daysInMonth_bounds (k : Int) : 28 ≤ daysInMonth k ∧ daysInMonth k ≤ 31 := by
  unfold daysInMonth
  split
  · split <;> omega
  · split <;> omega

/-! ## The month of a day -/

/-- The average month is 146097 / 4800 days long. -/
def monthGuess (n : Int) : Int := (n + 719468) * 4800 / 146097 + 2

/-- The month that day `n` lies in. -/
def monthOf (n : Int) : Int :=
  if n < firstOfMonth (monthGuess n) then monthGuess n - 1
  else if firstOfMonth (monthGuess n + 1) ≤ n then monthGuess n + 1
  else monthGuess n

theorem monthOf_spec (n : Int) :
    firstOfMonth (monthOf n) ≤ n ∧ n < firstOfMonth (monthOf n + 1) := by
  have hlo : firstOfMonth (monthGuess n - 1) ≤ n := by
    unfold firstOfMonth monthGuess
    omega
  have hhi : n < firstOfMonth (monthGuess n + 2) := by
    unfold firstOfMonth monthGuess
    omega
  unfold monthOf
  split
  next hlt =>
    rw [Int.sub_add_cancel]
    exact ⟨hlo, hlt⟩
  next hge =>
    split
    next hle => exact ⟨hle, by rwa [Int.add_assoc]⟩
    next hgt => exact ⟨by omega, by omega⟩

theorem firstOfMonth_lt_succ (k : Int) : firstOfMonth k < firstOfMonth (k + 1) := by
  have h := firstOfMonth_succ k
  have hb := daysInMonth_bounds k
  omega

theorem firstOfMonth_le_add (k : Int) (j : Nat) : firstOfMonth k ≤ firstOfMonth (k + j) := by
  induction j with
  | zero => simp
  | succ j ih =>
    have h := firstOfMonth_lt_succ (k + j)
    push_cast
    rw [← Int.add_assoc]
    omega

theorem firstOfMonth_mono {k k' : Int} (h : k ≤ k') : firstOfMonth k ≤ firstOfMonth k' := by
  have hj := firstOfMonth_le_add k (k' - k).toNat
  rwa [show k + ((k' - k).toNat : Int) = k' by omega] at hj

/-- A day determines its month. -/
theorem monthOf_eq {n k : Int} (hlo : firstOfMonth k ≤ n) (hhi : n < firstOfMonth (k + 1)) :
    monthOf n = k := by
  obtain ⟨hlo', hhi'⟩ := monthOf_spec n
  rcases Int.lt_trichotomy (monthOf n) k with hlt | heq | hgt
  · have := firstOfMonth_mono (show monthOf n + 1 ≤ k by omega)
    omega
  · exact heq
  · have := firstOfMonth_mono (show k + 1 ≤ monthOf n by omega)
    omega

theorem monthOf_mono {n n' : Int} (h : n ≤ n') : monthOf n ≤ monthOf n' := by
  by_contra hgt
  have := firstOfMonth_mono (show monthOf n' + 1 ≤ monthOf n by omega)
  have := (monthOf_spec n).1
  have := (monthOf_spec n').2
  omega

/-! ## Broken-down time -/

/-- The C library's `struct tm`: years count from 1900, months from 0. -/
structure Tm where
  tmYear : Int
  tmMon : Int
  tmMday : Int
  tmHour : Int
  tmMin : Int
  tmSec : Int
  tmWday : Int
deriving Repr, DecidableEq

/-- `gmtime_r`: the UTC date and time of an instant. -/
def gmtime (t : Int) : Tm :=
  let day := t / 86400
  let k := monthOf day
  { tmYear := k / 12 - 1900
    tmMon := k % 12
    tmMday := day - firstOfMonth k + 1
    tmHour := t % 86400 / 3600
    tmMin := t % 3600 / 60
    tmSec := t % 60
    tmWday := (day + 4) % 7 }

/-- `timegm`: the instant of a UTC date and time, any field out of range being
carried over. -/
def timegm (tm : Tm) : Int :=
  (firstOfMonth (12 * (tm.tmYear + 1900) + tm.tmMon) + tm.tmMday - 1) * 86400
    + tm.tmHour * 3600 + tm.tmMin * 60 + tm.tmSec

/-- The number of the month of an instant. -/
def monthOfInstant (t : Int) : Int := monthOf (t / 86400)

theorem gmtime_month (t : Int) :
    12 * ((gmtime t).tmYear + 1900) + (gmtime t).tmMon = monthOfInstant t := by
  show 12 * (monthOf (t / 86400) / 12 - 1900 + 1900) + monthOf (t / 86400) % 12 = _
  unfold monthOfInstant
  omega

theorem timegm_gmtime (t : Int) : timegm (gmtime t) = t := by
  unfold timegm
  rw [gmtime_month]
  show (firstOfMonth (monthOf (t / 86400)) + (t / 86400 - firstOfMonth (monthOf (t / 86400)) + 1)
    - 1) * 86400 + t % 86400 / 3600 * 3600 + t % 3600 / 60 * 60 + t % 60 = t
  omega

/-- The fields of `gmtime` are in range. -/
theorem gmtime_range (t : Int) :
    0 ≤ (gmtime t).tmMon ∧ (gmtime t).tmMon ≤ 11 ∧ 1 ≤ (gmtime t).tmMday ∧
      (gmtime t).tmMday ≤ 31 ∧ 0 ≤ (gmtime t).tmHour ∧ (gmtime t).tmHour ≤ 23 ∧
      0 ≤ (gmtime t).tmMin ∧ (gmtime t).tmMin ≤ 59 ∧ 0 ≤ (gmtime t).tmSec ∧
      (gmtime t).tmSec ≤ 59 := by
  obtain ⟨hlo, hhi⟩ := monthOf_spec (t / 86400)
  have hlen := firstOfMonth_succ (monthOf (t / 86400))
  have hb := daysInMonth_bounds (monthOf (t / 86400))
  simp only [gmtime]
  refine ⟨?_, ?_, ?_, ?_, ?_, ?_, ?_, ?_, ?_, ?_⟩ <;> omega

/-- The first second of month `k`. -/
def monthStart (k : Int) : Int := firstOfMonth k * 86400

/-- The instants of a month are the interval between its first second and the
first second of the next. -/
theorem monthOfInstant_eq_iff {t k : Int} :
    monthOfInstant t = k ↔ monthStart k ≤ t ∧ t < monthStart (k + 1) := by
  unfold monthOfInstant monthStart
  constructor
  · rintro rfl
    obtain ⟨hlo, hhi⟩ := monthOf_spec (t / 86400)
    omega
  · rintro ⟨hlo, hhi⟩
    exact monthOf_eq (by omega) (by omega)

theorem monthOfInstant_mono {t t' : Int} (h : t ≤ t') : monthOfInstant t ≤ monthOfInstant t' :=
  monthOf_mono (Int.ediv_le_ediv (by omega) h)

/-- Midnight on the first of a month, as `mktime` is called for it. -/
theorem timegm_first (y m : Int) (wd : Int) :
    timegm ⟨y, m, 1, 0, 0, 0, wd⟩ = monthStart (12 * (y + 1900) + m) := by
  show (firstOfMonth (12 * (y + 1900) + m) + 1 - 1) * 86400 + 0 * 3600 + 0 * 60 + 0 = _
  unfold monthStart
  omega

end Gregorian
