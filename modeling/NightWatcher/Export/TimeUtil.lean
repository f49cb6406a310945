import NightWatcher.Lib.DecimalText
import NightWatcher.Lib.Gregorian

/-!
# `timeutil.cpp`: timestamps and local months

Timestamps travel through the exporters as the text `YYYY-MM-DD HH:MM:SS` that
the database returns, and are compared as text. This file models the helpers
that read and write them and the two that decide what a local month is,
`localYm` (the name of a timestamp's month) and `localMonthBoundsUtc` (the UTC
window of that month).

What `localtime_r` and `mktime` do under a given `TZ` is the system's zone
database, a parameter (`Zones`); `Zones.fixed` is the database in which every
zone keeps one offset from UTC. `gmtime_r` and `timegm` are the proleptic
Gregorian calendar. The C `int` fields are taken as unbounded.

Two results are used by everything above: on years 0 to 9999 the text order is
the order of instants (`fmtSqlUtc_lt_iff`), and in a zone of constant offset the
window of a month holds exactly the timestamps whose `localYm` is that month
(`localMonth_eq_iff`).
-/

namespace NightWatcher.TimeUtil

open DecimalText Gregorian

/-- The zone database: `localtime_r` and `mktime` with `TZ` set to a name, as functions of their
arguments. Of a time that a clock shows twice, when it is set back, glibc's `mktime` takes the one
that lies nearer to what it was last called with; a zone in which a month begins at such a time is
none of these. -/
structure Zones where
  localtime : String → Int → Tm
  mktime : String → Tm → Int

/-- Every zone keeps a constant offset (seconds east of UTC). -/
def Zones.fixed (offset : String → Int) : Zones where
  localtime tz t := gmtime (t + offset tz)
  mktime tz tm := timegm tm - offset tz

/-- `parse_sql_utc`: six numbers and the marks between them, read by `sscanf`, as an instant. -/
def parseSqlUtc (s : String) : Option Int := do
  let (y, r) ← scanInt s.toList
  let r ← scanChar '-' r
  let (mo, r) ← scanInt r
  let r ← scanChar '-' r
  let (d, r) ← scanInt r
  -- a blank in a scanf format skips any number of blanks
  let (h, r) ← scanInt (r.dropWhile isSpace)
  let r ← scanChar ':' r
  let (mi, r) ← scanInt r
  let r ← scanChar ':' r
  let (se, _) ← scanInt r
  return timegm ⟨y - 1900, mo - 1, d, h, mi, se, 0⟩

/-- The column layout shared by `fmtSql` and `fmtIsoMs`. -/
def fmtColumns (sep : Char) (tm : Tm) : List Char :=
  printfPadded 4 (tm.tmYear + 1900) ++ '-' :: (printfPadded 2 (tm.tmMon + 1) ++
    '-' :: (printfPadded 2 tm.tmMday ++ sep :: (printfPadded 2 tm.tmHour ++
      ':' :: (printfPadded 2 tm.tmMin ++ ':' :: printfPadded 2 tm.tmSec))))

/-- `fmt_sql`: year to second, with a blank between date and time. -/
def fmtSql (tm : Tm) : String := String.ofList (fmtColumns ' ' tm)

/-- `fmt_iso_ms`: the same with a `T` and the milliseconds, always zero. -/
def fmtIsoMs (tm : Tm) : String := String.ofList (fmtColumns 'T' tm ++ ['.', '0', '0', '0'])

/-- `fmt_sql_utc`: the instant in UTC. -/
def fmtSqlUtc (t : Int) : String := fmtSql (gmtime t)

/-- `local_tm`: the instant's fields in the zone, the process's own zone where none is named. -/
def localTm (z : Zones) (t : Int) (tz : String) : Tm :=
  if tz = "" then gmtime t else z.localtime tz t

/-- `tz_mktime`: the instant of fields of the zone. -/
def tzMktime (z : Zones) (tm : Tm) (tz : String) : Int :=
  if tz = "" then timegm tm else z.mktime tz tm

/-- `"%04d-%02d"` of a year and a month counted from 0. -/
def ymText (year mon : Int) : String :=
  String.ofList (printfPadded 4 year ++ '-' :: printfPadded 2 (mon + 1))

/-- `local_ym`: year and month, two digits each, of the instant in the zone. -/
def localYm (z : Zones) (utcSql tz : String) : String :=
  match parseSqlUtc utcSql with
  | none => String.ofList (utcSql.toList.take 7)
  | some t =>
    let lt := localTm z t tz
    ymText (lt.tmYear + 1900) lt.tmMon

/-- `local_month_bounds_utc`: first and last second of the zone's month around the instant. -/
def localMonthBoundsUtc (z : Zones) (refUtcSql tz : String) : String × String :=
  match parseSqlUtc refUtcSql with
  | none => (refUtcSql, refUtcSql)
  | some t =>
    let lt := localTm z t tz
    let first : Tm := ⟨lt.tmYear, lt.tmMon, 1, 0, 0, 0, 0⟩
    let startUtc := tzMktime z first tz
    let next : Tm := { first with tmMon := first.tmMon + 1 }
    let endUtc := tzMktime z next tz
    (fmtSqlUtc startUtc, fmtSqlUtc (endUtc - 1))

/-- `next_local_hhmm_utc`: the next time of day in the zone, today's if it is still to come. -/
def nextLocalHhmmUtc (z : Zones) (hour minute : Int) (tz : String) (now : Int) : Int :=
  let target : Tm := { localTm z now tz with tmHour := hour, tmMin := minute, tmSec := 0 }
  let cand := tzMktime z target tz
  if cand ≤ now then tzMktime z { target with tmMday := target.tmMday + 1 } tz else cand

/-- `next_local_weekly_utc`: the next such time on the given day of the week. -/
def nextLocalWeeklyUtc (z : Zones) (wday hour minute : Int) (tz : String) (now : Int) : Int :=
  let wday := if wday < 0 then 0 else if 6 < wday then 6 else wday
  let base := localTm z now tz
  let delta := (wday - base.tmWday + 7).tmod 7
  let target : Tm :=
    { base with tmMday := base.tmMday + delta, tmHour := hour, tmMin := minute, tmSec := 0 }
  let cand := tzMktime z target tz
  if cand ≤ now then tzMktime z { target with tmMday := target.tmMday + 7 } tz else cand

/-- A day of 0 or less is the last one of the month: day 0 of the next. -/
def nextLocalMonthlyUtc (z : Zones) (mday hour minute : Int) (tz : String) (now : Int) : Int :=
  let lastDay := decide (mday ≤ 0)
  let mday := if !lastDay && decide (28 < mday) then 28 else mday
  let base := localTm z now tz
  let at_ := fun (mon day : Int) =>
    tzMktime z { base with tmMon := mon, tmMday := day, tmHour := hour, tmMin := minute, tmSec := 0 }
      tz
  let cand := if lastDay then at_ (base.tmMon + 1) 0 else at_ base.tmMon mday
  if cand ≤ now then
    if lastDay then at_ (base.tmMon + 2) 0 else at_ (base.tmMon + 1) mday
  else cand

example : fmtSqlUtc 1735689599 = "2024-12-31 23:59:59" := by decide

/-! ## Timestamps as text -/

/-- The instants whose UTC year is written with four digits. -/
def InYears (t : Int) : Prop := 0 ≤ monthOfInstant t ∧ monthOfInstant t < 12 * 10000

instance (t : Int) : Decidable (InYears t) := by unfold InYears; infer_instance

/-- Between two such instants every instant is one. -/
theorem InYears.mono {s t u : Int} (hs : InYears s) (hu : InYears u) (h₁ : s ≤ t) (h₂ : t ≤ u) :
    InYears t :=
  ⟨Int.le_trans hs.1 (monthOfInstant_mono h₁), Int.lt_of_le_of_lt (monthOfInstant_mono h₂) hu.2⟩

/-- The six columns of a timestamp, as numbers. -/
structure Columns where
  year : Nat
  mon : Nat
  day : Nat
  hour : Nat
  min : Nat
  sec : Nat

/-- The columns of the instant in UTC. -/
def columnsOf (t : Int) : Columns where
  year := (monthOfInstant t / 12).toNat
  mon := (monthOfInstant t % 12 + 1).toNat
  day := (t / 86400 - firstOfMonth (monthOfInstant t) + 1).toNat
  hour := (t % 86400 / 3600).toNat
  min := (t % 3600 / 60).toNat
  sec := (t % 60).toNat

/-- The columns as `fmt_sql` and `fmt_iso_ms` print them. -/
def Columns.text (sep : Char) (c : Columns) : List Char :=
  fixedDigits 4 c.year ++ '-' :: (fixedDigits 2 c.mon ++ '-' :: (fixedDigits 2 c.day ++
    sep :: (fixedDigits 2 c.hour ++ ':' :: (fixedDigits 2 c.min ++ ':' :: fixedDigits 2 c.sec))))

/-- Every column of `c` fits. -/
def Columns.Fits (c : Columns) : Prop :=
  c.year < 10 ^ 4 ∧ c.mon < 10 ^ 2 ∧ c.day < 10 ^ 2 ∧ c.hour < 10 ^ 2 ∧ c.min < 10 ^ 2 ∧
    c.sec < 10 ^ 2

/-- The columns of such an instant have their widths. -/
theorem columnsOf_fits {t : Int} (h : InYears t) : (columnsOf t).Fits := by
  obtain ⟨h0, h1⟩ := h
  obtain ⟨-, -, hd, hd', -⟩ := gmtime_range t
  have hd : 1 ≤ t / 86400 - firstOfMonth (monthOfInstant t) + 1 := hd
  have hd' : t / 86400 - firstOfMonth (monthOfInstant t) + 1 ≤ 31 := hd'
  simp only [columnsOf, Columns.Fits]
  refine ⟨?_, ?_, ?_, ?_, ?_, ?_⟩ <;> omega

/-- Printing the broken-down time prints the columns. -/
theorem fmtColumns_gmtime {t : Int} (h : InYears t) (sep : Char) :
    fmtColumns sep (gmtime t) = (columnsOf t).text sep := by
  obtain ⟨h0, h1⟩ := h
  obtain ⟨-, -, hd, hd', -⟩ := gmtime_range t
  have hd : 1 ≤ t / 86400 - firstOfMonth (monthOfInstant t) + 1 := hd
  have hd' : t / 86400 - firstOfMonth (monthOfInstant t) + 1 ≤ 31 := hd'
  have hy : printfPadded 4 (monthOfInstant t / 12 - 1900 + 1900)
      = fixedDigits 4 (monthOfInstant t / 12).toNat := by
    rw [Int.sub_add_cancel, printfPadded_eq (by omega) (by omega)]
  show printfPadded 4 (monthOfInstant t / 12 - 1900 + 1900) ++ '-' ::
      (printfPadded 2 (monthOfInstant t % 12 + 1) ++ '-' ::
        (printfPadded 2 (t / 86400 - firstOfMonth (monthOfInstant t) + 1) ++ sep ::
          (printfPadded 2 (t % 86400 / 3600) ++ ':' ::
            (printfPadded 2 (t % 3600 / 60) ++ ':' :: printfPadded 2 (t % 60))))) = _
  rw [hy, printfPadded_eq (by omega) (by omega), printfPadded_eq (by omega) (by omega),
    printfPadded_eq (by omega) (by omega), printfPadded_eq (by omega) (by omega),
    printfPadded_eq (by omega) (by omega)]
  rfl

/-- The printed instant is its columns with a blank between. -/
theorem fmtSqlUtc_toList {t : Int} (h : InYears t) :
    (fmtSqlUtc t).toList = (columnsOf t).text ' ' := by
  rw [fmtSqlUtc, fmtSql, String.toList_ofList, fmtColumns_gmtime h]

/-- A character that is no digit ends a run of digits. -/
private theorem endsDigits_cons {c : Char} {rest : List Char} (h : c.isDigit = false) :
    EndsDigits (c :: rest) := by
  intro d hd
  rw [List.head?_cons, Option.mem_def, Option.some.injEq] at hd
  rw [← hd]
  exact h

/-- A written timestamp reads back. -/
theorem parseSqlUtc_fmtSqlUtc {t : Int} (h : InYears t) : parseSqlUtc (fmtSqlUtc t) = some t := by
  obtain ⟨hy, hm, hd, hh, hmi, hs⟩ := columnsOf_fits h
  have hscan : ∀ {w n : Nat} {c : Char} {rest : List Char}, 0 < w → n < 10 ^ w →
      c.isDigit = false → scanInt (fixedDigits w n ++ c :: rest) = some ((n : Int), c :: rest) :=
    fun hw hn hc => scanInt_fixedDigits hw hn (endsDigits_cons hc)
  have hblank : ∀ (w n : Nat) (rest : List Char), 0 < w →
      (' ' :: (fixedDigits w n ++ rest)).dropWhile isSpace = fixedDigits w n ++ rest := by
    intro w n rest hw
    obtain ⟨c, cs, hcs⟩ : ∃ c cs, fixedDigits w n = c :: cs := by
      cases w with
      | zero => omega
      | succ w =>
        exact List.exists_cons_of_ne_nil (by simp [fixedDigits])
    have hc := (digit_not_blank (fixedDigits_isDigit w n c (by rw [hcs]; simp))).1
    rw [hcs]
    simp [isSpace, List.dropWhile_cons] at hc ⊢
    simp [hc]
  have hlast : scanInt (fixedDigits 2 (columnsOf t).sec)
      = some (((columnsOf t).sec : Int), []) := by
    have hend : EndsDigits [] := by simp [EndsDigits]
    have hscan2 := scanInt_fixedDigits (by decide : 0 < 2) hs hend
    rwa [List.append_nil] at hscan2
  unfold parseSqlUtc
  rw [fmtSqlUtc_toList h]
  simp only [Columns.text]
  rw [hscan (by decide) hy (by decide)]
  simp only [scanChar, if_true, Option.bind_eq_bind, Option.bind_some, Option.pure_def]
  rw [hscan (by decide) hm (by decide)]
  simp only [if_true, Option.bind_some]
  rw [hscan (by decide) hd (by decide)]
  simp only [Option.bind_some]
  rw [hblank 2 _ _ (by decide), hscan (by decide) hh (by decide)]
  simp only [if_true, Option.bind_some]
  rw [hscan (by decide) hmi (by decide)]
  simp only [if_true, Option.bind_some]
  rw [hlast]
  simp only [Option.bind_some, Option.some.injEq]
  -- the six numbers are the fields of `gmtime t`, so `timegm` undoes them
  obtain ⟨h0, h1⟩ := h
  obtain ⟨-, -, hdl, -⟩ := gmtime_range t
  have hdl : 1 ≤ t / 86400 - firstOfMonth (monthOfInstant t) + 1 := hdl
  have hcast : (⟨((columnsOf t).year : Int) - 1900, ((columnsOf t).mon : Int) - 1,
      ((columnsOf t).day : Int), ((columnsOf t).hour : Int), ((columnsOf t).min : Int),
      ((columnsOf t).sec : Int), 0⟩ : Tm) = { gmtime t with tmWday := 0 } := by
    simp only [columnsOf, gmtime, Tm.mk.injEq]
    unfold monthOfInstant at *
    refine ⟨?_, ?_, ?_, ?_, ?_, ?_, trivial⟩ <;> omega
  rw [hcast]
  exact timegm_gmtime t

/-- Earlier instants have smaller columns, read from the year down. -/
theorem columnsOf_lt {s t : Int} (hs : InYears s) (ht : InYears t) (hlt : s < t) :
    (columnsOf s).text ' ' < (columnsOf t).text ' ' := by
  obtain ⟨hy, hm, hd, hh, hmi, hse⟩ := columnsOf_fits hs
  obtain ⟨hy', hm', hd', hh', hmi', hse'⟩ := columnsOf_fits ht
  -- two columns of one width decide, or are equal and leave it to the rest
  have hcol : ∀ {w n m : Nat} {a b : List Char}, n < 10 ^ w → m < 10 ^ w →
      (n < m ∨ n = m ∧ a < b) → fixedDigits w n ++ a < fixedDigits w m ++ b := by
    intro w n m a b hn hm h
    rw [append_lt_append_iff (by simp), fixedDigits_lt_iff hn hm]
    rcases h with h | ⟨rfl, h⟩
    · exact Or.inl h
    · exact Or.inr ⟨rfl, h⟩
  have hsep : ∀ {c : Char} {a b : List Char}, a < b → c :: a < c :: b := by
    intro c a b h
    rw [List.cons_lt_cons_iff]
    exact Or.inr ⟨rfl, h⟩
  have hmono := monthOfInstant_mono (Int.le_of_lt hlt)
  obtain ⟨h0, -⟩ := hs
  obtain ⟨-, -, hdl, -⟩ := gmtime_range s
  have hdl : 1 ≤ s / 86400 - firstOfMonth (monthOfInstant s) + 1 := hdl
  obtain ⟨-, -, hdl', -⟩ := gmtime_range t
  have hdl' : 1 ≤ t / 86400 - firstOfMonth (monthOfInstant t) + 1 := hdl'
  by_cases hk : monthOfInstant s = monthOfInstant t
  · -- one month: the first differing column of day, hour, minute, second decides
    have hyeq : (columnsOf s).year = (columnsOf t).year := by simp only [columnsOf, hk]
    have hmeq : (columnsOf s).mon = (columnsOf t).mon := by simp only [columnsOf, hk]
    refine hcol hy hy' (Or.inr ⟨hyeq, hsep (hcol hm hm' (Or.inr ⟨hmeq, hsep ?_⟩))⟩)
    by_cases hday : s / 86400 = t / 86400
    · have hdeq : (columnsOf s).day = (columnsOf t).day := by simp only [columnsOf, hk, hday]
      refine hcol hd hd' (Or.inr ⟨hdeq, hsep ?_⟩)
      by_cases hhour : s % 86400 / 3600 = t % 86400 / 3600
      · refine hcol hh hh' (Or.inr ⟨by simp only [columnsOf, hhour], hsep ?_⟩)
        by_cases hminute : s % 3600 / 60 = t % 3600 / 60
        · refine hcol hmi hmi' (Or.inr ⟨by simp only [columnsOf, hminute], hsep ?_⟩)
          rw [fixedDigits_lt_iff hse hse']
          simp only [columnsOf]
          omega
        · refine hcol hmi hmi' (Or.inl ?_)
          simp only [columnsOf]
          omega
      · refine hcol hh hh' (Or.inl ?_)
        simp only [columnsOf]
        omega
    · refine hcol hd hd' (Or.inl ?_)
      simp only [columnsOf]
      rw [hk] at hdl ⊢
      omega
  -- another month: the year decides, or the month of one year
  · by_cases hyear : monthOfInstant s / 12 = monthOfInstant t / 12
    · refine hcol hy hy' (Or.inr ⟨by simp only [columnsOf, hyear], hsep (hcol hm hm' (Or.inl ?_))⟩)
      simp only [columnsOf]
      omega
    · refine hcol hy hy' (Or.inl ?_)
      simp only [columnsOf]
      omega

/-- The text order of timestamps is the order of instants. -/
theorem fmtSqlUtc_lt_iff {s t : Int} (hs : InYears s) (ht : InYears t) :
    fmtSqlUtc s < fmtSqlUtc t ↔ s < t := by
  have hmono : ∀ {a b : Int}, InYears a → InYears b → a < b → fmtSqlUtc a < fmtSqlUtc b := by
    intro a b ha hb hab
    rw [String.lt_iff_toList_lt, fmtSqlUtc_toList ha, fmtSqlUtc_toList hb]
    exact columnsOf_lt ha hb hab
  constructor
  · intro h
    rcases Int.lt_trichotomy s t with hlt | rfl | hgt
    · exact hlt
    · exact absurd h (lt_irrefl _)
    · exact absurd h (lt_asymm (hmono ht hs hgt))
  · exact hmono hs ht

/-- The order of the printed texts is the order of the instants. -/
theorem fmtSqlUtc_le_iff {s t : Int} (hs : InYears s) (ht : InYears t) :
    fmtSqlUtc s ≤ fmtSqlUtc t ↔ s ≤ t := by
  rw [← not_lt, fmtSqlUtc_lt_iff ht hs, Int.not_lt]

/-- An instant of the years 1 to 9999. -/
structure FourDigitYear (t : Int) : Prop where
  one_le : 1 ≤ (gmtime t).tmYear + 1900
  le_9999 : (gmtime t).tmYear + 1900 ≤ 9999

/-- An instant of a four-digit year is in range. -/
theorem FourDigitYear.inYears {t : Int} (h : FourDigitYear t) : InYears t := by
  obtain ⟨h1, h2⟩ := h
  have hk := gmtime_month t
  obtain ⟨hmon, hmon', -⟩ := gmtime_range t
  constructor
  · omega
  · omega

/-- Timestamps and their instants are interchangeable: each is found again from its text, and
the texts are in their order. -/
theorem timestamps_interchangeable {s t : Int} (hs : FourDigitYear s) (ht : FourDigitYear t) :
    parseSqlUtc (fmtSqlUtc t) = some t ∧ (fmtSqlUtc s < fmtSqlUtc t ↔ s < t) :=
  ⟨parseSqlUtc_fmtSqlUtc ht.inYears, fmtSqlUtc_lt_iff hs.inYears ht.inYears⟩

/-- Over the last second of a leap day. -/
theorem timestamps_interchangeable_leap :
    parseSqlUtc (fmtSqlUtc 1709251200) = some 1709251200 ∧
      (fmtSqlUtc 1709251199 < fmtSqlUtc 1709251200 ↔ (1709251199 : Int) < 1709251200) :=
  timestamps_interchangeable ⟨by decide, by decide⟩ ⟨by decide, by decide⟩

/-! ## Local months in a zone of constant offset -/

/-- The offset the helpers work with: the empty name means UTC. -/
def offsetOf (offset : String → Int) (tz : String) : Int := if tz = "" then 0 else offset tz

/-- Under a constant offset the local fields are those of the shifted instant. -/
theorem localTm_fixed (offset : String → Int) (t : Int) (tz : String) :
    localTm (Zones.fixed offset) t tz = gmtime (t + offsetOf offset tz) := by
  unfold localTm offsetOf
  split
  · rw [Int.add_zero]
  · rfl

/-- Under a constant offset the instant of fields is UTC's, shifted back. -/
theorem tzMktime_fixed (offset : String → Int) (tm : Tm) (tz : String) :
    tzMktime (Zones.fixed offset) tm tz = timegm tm - offsetOf offset tz := by
  unfold tzMktime offsetOf
  split
  · rw [Int.sub_zero]
  · rfl

/-- The name of month `k`, as `localYm` writes it. -/
def ymOfMonth (k : Int) : String := ymText (k / 12) (k % 12)

/-- Every month has its own name, those of years that do not fit four digits as well. -/
theorem ymOfMonth_inj {k k' : Int} (h : ymOfMonth k = ymOfMonth k') : k = k' := by
  have hl := String.ofList_injective h
  have hlength : ∀ j : Int, ('-' :: printfPadded 2 (j % 12 + 1)).length = 3 := by
    intro j
    rw [printfPadded_eq (by omega) (by omega)]
    simp
  obtain ⟨hy, hm⟩ := List.append_inj' hl (by rw [hlength, hlength])
  have hy := printfPadded_inj hy
  have hm := printfPadded_inj (List.cons.inj hm).2
  omega

/-- The local month of an instant, by number. -/
def localMonth (offset : String → Int) (tz : String) (t : Int) : Int :=
  monthOfInstant (t + offsetOf offset tz)

/-- Under a constant offset `local_ym` prints the local month. -/
theorem localYm_fixed (offset : String → Int) (tz : String) {t : Int} (h : InYears t) :
    localYm (Zones.fixed offset) (fmtSqlUtc t) tz = ymOfMonth (localMonth offset tz t) := by
  unfold localYm
  rw [parseSqlUtc_fmtSqlUtc h]
  simp only [localTm_fixed]
  show ymText (monthOfInstant (t + offsetOf offset tz) / 12 - 1900 + 1900) _ = _
  rw [Int.sub_add_cancel]
  rfl

/-- First and last second of local month `k`. -/
def localMonthFirst (offset : String → Int) (tz : String) (k : Int) : Int :=
  monthStart k - offsetOf offset tz

/-- The last second of the local month. -/
def localMonthLast (offset : String → Int) (tz : String) (k : Int) : Int :=
  monthStart (k + 1) - offsetOf offset tz - 1

/-- An instant is in a month exactly between its first and last second. -/
theorem localMonth_eq_iff {offset : String → Int} {tz : String} {t k : Int} :
    localMonth offset tz t = k ↔
      localMonthFirst offset tz k ≤ t ∧ t ≤ localMonthLast offset tz k := by
  unfold localMonth localMonthFirst localMonthLast
  rw [monthOfInstant_eq_iff]
  omega

/-- The first second is in the month. -/
theorem localMonth_first (offset : String → Int) (tz : String) (k : Int) :
    localMonth offset tz (localMonthFirst offset tz k) = k := by
  have hlt := firstOfMonth_lt_succ k
  refine localMonth_eq_iff.mpr ⟨Int.le_refl _, ?_⟩
  unfold localMonthFirst localMonthLast monthStart
  omega

/-- So is the last. -/
theorem localMonth_last (offset : String → Int) (tz : String) (k : Int) :
    localMonth offset tz (localMonthLast offset tz k) = k := by
  have hlt := firstOfMonth_lt_succ k
  refine localMonth_eq_iff.mpr ⟨?_, Int.le_refl _⟩
  unfold localMonthFirst localMonthLast monthStart
  omega

/-- Under a constant offset the bounds are the month's first and last second. -/
theorem localMonthBoundsUtc_fixed (offset : String → Int) (tz : String) {t : Int}
    (h : InYears t) :
    localMonthBoundsUtc (Zones.fixed offset) (fmtSqlUtc t) tz =
      (fmtSqlUtc (localMonthFirst offset tz (localMonth offset tz t)),
       fmtSqlUtc (localMonthLast offset tz (localMonth offset tz t))) := by
  have hk := gmtime_month (t + offsetOf offset tz)
  unfold localMonthBoundsUtc
  rw [parseSqlUtc_fmtSqlUtc h]
  simp only [localTm_fixed, tzMktime_fixed, timegm_first]
  unfold localMonthFirst localMonthLast localMonth
  rw [← Int.add_assoc, hk]

end NightWatcher.TimeUtil
