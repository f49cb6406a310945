import NightWatcher.Export.Window

/-!
# What a local month is, agreed three ways

A monthly export cuts a sensor's readings by `localYm`, reads the window of
`localMonthBoundsUtc`, and names the file by two digits of the year and the month
(`yymm`). For readings within one century the three agree: the window is a
function of the month's name (`bounds_congr`), the two-digit name determines the
month (`ym_of_yymm`), and in a zone of constant offset the window holds exactly
the timestamps of that month (`window_fixed`).

Of a zone nothing is assumed but `MonthLaw`: months are numbered 0 to 11, and the
second before the first of the next month is in this month. A zone of constant
offset obeys it (`monthLaw_fixed`).
-/

namespace NightWatcher.Exporter

open TimeUtil Gregorian DecimalText

/-- The local year of an instant. -/
def localYear (z : Zones) (tz : String) (t : Int) : Int := (localTm z t tz).tmYear + 1900

structure MonthLaw (z : Zones) (tz : String) : Prop where
  mon : ∀ t, 0 ≤ (localTm z t tz).tmMon ∧ (localTm z t tz).tmMon < 12
  last : ∀ t, InYears t → 1 ≤ localYear z tz t → localYear z tz t < 9999 →
    localYm z (localMonthBoundsUtc z (fmtSqlUtc t) tz).2 tz = localYm z (fmtSqlUtc t) tz

/-- A hundred local years that are written with four digits, with a year to spare. -/
structure Century where
  first : Int
  first_pos : 1 ≤ first
  last_lt : first + 100 ≤ 9999

/-- The timestamp's local year is in the century. -/
def InCentury (z : Zones) (tz : String) (c : Century) (ts : String) : Prop :=
  ∃ t, InYears t ∧ ts = fmtSqlUtc t ∧ c.first ≤ localYear z tz t ∧ localYear z tz t < c.first + 100

/-- Such a text is a timestamp. -/
theorem InCentury.isStamp {z : Zones} {tz : String} {c : Century} {ts : String}
    (h : InCentury z tz c ts) : IsStamp ts := by
  obtain ⟨t, ht, hts, -⟩ := h
  exact ⟨t, ht, hts⟩

/-! ## Names of months -/

theorem fixedDigits_drop (a w n : Nat) : (fixedDigits (a + w) n).drop a = fixedDigits w n := by
  induction w generalizing n with
  | zero => simp [fixedDigits]
  | succ w ih =>
    show (fixedDigits (a + w) (n / 10) ++ [digitOf n]).drop a = fixedDigits w (n / 10) ++ [digitOf n]
    rw [List.drop_append_of_le_length (by simp), ih]

theorem ymText_toList {y m : Int} (hy : 0 ≤ y) (hy' : y < 10000) (hm : 0 ≤ m) (hm' : m < 12) :
    (ymText y m).toList = fixedDigits 4 y.toNat ++ '-' :: fixedDigits 2 (m + 1).toNat := by
  unfold ymText
  rw [String.toList_ofList, printfPadded_eq hy (by omega), printfPadded_eq (by omega) (by omega)]

theorem ymText_inj {y m y' m' : Int} (hy : 0 ≤ y ∧ y < 10000) (hm : 0 ≤ m ∧ m < 12)
    (hy' : 0 ≤ y' ∧ y' < 10000) (hm' : 0 ≤ m' ∧ m' < 12) (h : ymText y m = ymText y' m') :
    y = y' ∧ m = m' := by
  have hl := congrArg String.toList h
  rw [ymText_toList hy.1 hy.2 hm.1 hm.2, ymText_toList hy'.1 hy'.2 hm'.1 hm'.2] at hl
  obtain ⟨hyear, hmon⟩ := List.append_inj hl (by simp)
  have hyear := fixedDigits_inj (by omega) (by omega) hyear
  have hmon := fixedDigits_inj (by omega) (by omega) (List.cons.inj hmon).2
  omega

/-- The year keeps its last two digits. -/
theorem yymm_ymText {y m : Int} (hy : 0 ≤ y) (hy' : y < 10000) (hm : 0 ≤ m) (hm' : m < 12) :
    yymm (ymText y m) = String.ofList (fixedDigits 2 y.toNat ++ '-' ::
        fixedDigits 2 (m + 1).toNat) := by
  have hlist := ymText_toList hy hy' hm hm'
  have hlen : (ymText y m).length = 7 := by
    rw [← String.length_toList, hlist]
    simp
  have hdrop := fixedDigits_drop 2 2 y.toNat
  unfold yymm
  rw [if_pos (by omega), hlist, List.drop_append_of_le_length (by simp), hdrop]

theorem yymm_inj {c : Century} {y m y' m' : Int} (hy : c.first ≤ y ∧ y < c.first + 100)
    (hm : 0 ≤ m ∧ m < 12) (hy' : c.first ≤ y' ∧ y' < c.first + 100) (hm' : 0 ≤ m' ∧ m' < 12)
    (h : yymm (ymText y m) = yymm (ymText y' m')) : y = y' ∧ m = m' := by
  have hpos := c.first_pos
  have hlast := c.last_lt
  rw [yymm_ymText (by omega) (by omega) hm.1 hm.2, yymm_ymText (by omega) (by omega) hm'.1 hm'.2] at h
  obtain ⟨hyear, hmon⟩ := List.append_inj (String.ofList_injective h) (by simp)
  have hmon := fixedDigits_inj (by omega) (by omega) (List.cons.inj hmon).2
  -- two digits are the year modulo 100, and the century has each residue once
  have hmod := congrArg digitsValue hyear
  rw [digitsValue_fixedDigits, digitsValue_fixedDigits] at hmod
  omega

/-! ## Any zone -/

section AnyZone

variable {z : Zones} {tz : String}

theorem localYm_eq {t : Int} (h : InYears t) :
    localYm z (fmtSqlUtc t) tz = ymText (localYear z tz t) (localTm z t tz).tmMon := by
  unfold localYm
  rw [parseSqlUtc_fmtSqlUtc h]
  rfl

/-- The window of a month depends on the month alone. -/
theorem localMonthBoundsUtc_eq {t : Int} (h : InYears t) :
    localMonthBoundsUtc z (fmtSqlUtc t) tz =
      (fmtSqlUtc (tzMktime z ⟨localYear z tz t - 1900, (localTm z t tz).tmMon, 1, 0, 0, 0, 0⟩ tz),
       fmtSqlUtc
        (tzMktime z ⟨localYear z tz t - 1900, (localTm z t tz).tmMon + 1, 1, 0, 0, 0, 0⟩ tz - 1)) := by
  unfold localMonthBoundsUtc
  rw [parseSqlUtc_fmtSqlUtc h]
  unfold localYear
  rw [Int.add_sub_cancel]

variable {c : Century} {ts ts' : String}

theorem bounds_congr (law : MonthLaw z tz) (h : InCentury z tz c ts) (h' : InCentury z tz c ts')
    (heq : localYm z ts tz = localYm z ts' tz) :
    localMonthBoundsUtc z ts tz = localMonthBoundsUtc z ts' tz := by
  obtain ⟨t, ht, rfl, hlo, hhi⟩ := h
  obtain ⟨t', ht', rfl, hlo', hhi'⟩ := h'
  have hpos := c.first_pos
  have hlast := c.last_lt
  rw [localYm_eq ht, localYm_eq ht'] at heq
  obtain ⟨hy, hm⟩ := ymText_inj ⟨by omega, by omega⟩ (law.mon t) ⟨by omega, by omega⟩ (law.mon t') heq
  rw [localMonthBoundsUtc_eq ht, localMonthBoundsUtc_eq ht', hy, hm]

theorem ym_of_yymm (law : MonthLaw z tz) (h : InCentury z tz c ts) (h' : InCentury z tz c ts')
    (heq : yymm (localYm z ts tz) = yymm (localYm z ts' tz)) :
    localYm z ts tz = localYm z ts' tz := by
  obtain ⟨t, ht, rfl, hlo, hhi⟩ := h
  obtain ⟨t', ht', rfl, hlo', hhi'⟩ := h'
  rw [localYm_eq ht, localYm_eq ht'] at heq ⊢
  obtain ⟨hy, hm⟩ := yymm_inj ⟨hlo, hhi⟩ (law.mon t) ⟨hlo', hhi'⟩ (law.mon t') heq
  rw [hy, hm]

/-- The window's last second names the month the window was built from. -/
theorem localYm_last (law : MonthLaw z tz) (h : InCentury z tz c ts) :
    localYm z (localMonthBoundsUtc z ts tz).2 tz = localYm z ts tz := by
  obtain ⟨t, ht, rfl, hlo, hhi⟩ := h
  have hpos := c.first_pos
  have hlast := c.last_lt
  exact law.last t ht (by omega) (by omega)

end AnyZone

/-! ## A zone of constant offset -/

section FixedZone

variable {offset : String → Int} {tz : String}

theorem localTm_fixed_month (t : Int) :
    localYear (Zones.fixed offset) tz t = localMonth offset tz t / 12 ∧
      (localTm (Zones.fixed offset) t tz).tmMon = localMonth offset tz t % 12 := by
  unfold localYear
  rw [localTm_fixed]
  constructor
  · show monthOfInstant (t + offsetOf offset tz) / 12 - 1900 + 1900 = _
    rw [Int.sub_add_cancel]
    rfl
  · rfl

/-- Months last longer than any offset. -/
theorem inYears_window (hoff : |offsetOf offset tz| < 86400) {k : Int} (h1 : 12 ≤ k)
    (h2 : k < 12 * 9999) :
    InYears (localMonthFirst offset tz k) ∧ InYears (localMonthLast offset tz k) := by
  rw [abs_lt] at hoff
  have hstart : ∀ j : Int, 0 ≤ j → j < 12 * 10000 → InYears (monthStart j) := by
    intro j h0 h1
    have hlt := firstOfMonth_lt_succ j
    have hj : monthOfInstant (monthStart j) = j :=
      monthOfInstant_eq_iff.mpr ⟨Int.le_refl _, by unfold monthStart; omega⟩
    unfold InYears
    rw [hj]
    exact ⟨h0, h1⟩
  have hprev := firstOfMonth_succ (k - 1)
  have hnext := firstOfMonth_succ (k + 1)
  have hthis := firstOfMonth_succ k
  have hb := daysInMonth_bounds (k - 1)
  have hb' := daysInMonth_bounds (k + 1)
  have hb'' := daysInMonth_bounds k
  rw [Int.sub_add_cancel] at hprev
  have hlo := hstart (k - 1) (by omega) (by omega)
  have hhi := hstart (k + 1 + 1) (by omega) (by omega)
  unfold localMonthFirst localMonthLast
  constructor
  · refine hlo.mono hhi ?_ ?_ <;> unfold monthStart <;> omega
  · refine hlo.mono hhi ?_ ?_ <;> unfold monthStart <;> omega

/-- The years 1 to 9998, by months. -/
theorem month_of_year {t : Int} (h1 : 1 ≤ localYear (Zones.fixed offset) tz t)
    (h2 : localYear (Zones.fixed offset) tz t < 9999) :
    12 ≤ localMonth offset tz t ∧ localMonth offset tz t < 12 * 9999 := by
  rw [(localTm_fixed_month t).1] at h1 h2
  omega

theorem monthLaw_fixed (hoff : |offsetOf offset tz| < 86400) :
    MonthLaw (Zones.fixed offset) tz := by
  constructor
  · intro t
    rw [(localTm_fixed_month t).2]
    omega
  · intro t ht h1 h2
    obtain ⟨hk1, hk2⟩ := month_of_year h1 h2
    have hwin := inYears_window hoff hk1 hk2
    rw [localMonthBoundsUtc_fixed offset tz ht]
    show localYm _ (fmtSqlUtc (localMonthLast offset tz (localMonth offset tz t))) tz = _
    rw [localYm_fixed offset tz hwin.2, localYm_fixed offset tz ht, localMonth_last]

variable {c : Century} {ts ref : String}

theorem month_of_century {t : Int} (hlo : c.first ≤ localYear (Zones.fixed offset) tz t)
    (hhi : localYear (Zones.fixed offset) tz t < c.first + 100) :
    12 ≤ localMonth offset tz t ∧ localMonth offset tz t < 12 * 9999 := by
  have hpos := c.first_pos
  have hlast := c.last_lt
  have h1 : 1 ≤ localYear (Zones.fixed offset) tz t := by omega
  have h2 : localYear (Zones.fixed offset) tz t < 9999 := by omega
  exact month_of_year h1 h2

/-- The window's ends are timestamps. -/
theorem window_stamps (hoff : |offsetOf offset tz| < 86400)
    (href : InCentury (Zones.fixed offset) tz c ref) :
    IsStamp (localMonthBoundsUtc (Zones.fixed offset) ref tz).1 ∧
      IsStamp (localMonthBoundsUtc (Zones.fixed offset) ref tz).2 := by
  obtain ⟨t, ht, rfl, hlo, hhi⟩ := href
  obtain ⟨hk1, hk2⟩ := month_of_century hlo hhi
  have hwin := inYears_window hoff hk1 hk2
  rw [localMonthBoundsUtc_fixed offset tz ht]
  exact ⟨⟨_, hwin.1, rfl⟩, ⟨_, hwin.2, rfl⟩⟩

/-- A window whose ends are timestamps holds exactly the timestamps of the month, of whatever year they
are, and its last second is one of them. -/
theorem window_partition {t u : Int} (ht : InYears t) (hu : InYears u)
    (hfirst : InYears (localMonthFirst offset tz (localMonth offset tz t)))
    (hlast : InYears (localMonthLast offset tz (localMonth offset tz t))) :
    (((localMonthBoundsUtc (Zones.fixed offset) (fmtSqlUtc t) tz).1 ≤ fmtSqlUtc u ∧
        fmtSqlUtc u ≤ (localMonthBoundsUtc (Zones.fixed offset) (fmtSqlUtc t) tz).2) ↔
      localYm (Zones.fixed offset) (fmtSqlUtc u) tz = localYm (Zones.fixed offset) (fmtSqlUtc t) tz) ∧
    localYm (Zones.fixed offset) (localMonthBoundsUtc (Zones.fixed offset) (fmtSqlUtc t) tz).2 tz
      = localYm (Zones.fixed offset) (fmtSqlUtc t) tz := by
  rw [localMonthBoundsUtc_fixed offset tz ht, localYm_fixed offset tz ht, localYm_fixed offset tz hu]
  dsimp only
  rw [localYm_fixed offset tz hlast, fmtSqlUtc_le_iff hfirst hu, fmtSqlUtc_le_iff hu hlast,
    ← localMonth_eq_iff, localMonth_last]
  exact ⟨⟨fun h => by rw [h], ymOfMonth_inj⟩, rfl⟩

/-- The window of a month holds exactly the timestamps of that month. -/
theorem window_fixed (hoff : |offsetOf offset tz| < 86400)
    (href : InCentury (Zones.fixed offset) tz c ref)
    (hts : InCentury (Zones.fixed offset) tz c ts) :
    ((localMonthBoundsUtc (Zones.fixed offset) ref tz).1 ≤ ts ∧
        ts ≤ (localMonthBoundsUtc (Zones.fixed offset) ref tz).2) ↔
      localYm (Zones.fixed offset) ts tz = localYm (Zones.fixed offset) ref tz := by
  obtain ⟨t, ht, rfl, hlo, hhi⟩ := href
  obtain ⟨u, hu, rfl, -, -⟩ := hts
  obtain ⟨hk1, hk2⟩ := month_of_century hlo hhi
  have hwin := inYears_window hoff hk1 hk2
  exact (window_partition ht hu hwin.1 hwin.2).1

/-- Months of a zone and the windows of months are one partition: of two timestamps, the second is
in the window of the first if and only if their local months have one name, and so has the end of
the window. -/
theorem months_partition (offset : String → Int) (tz : String) {t u : Int} (ht : InYears t)
    (hu : InYears u)
    (hyears : ∀ s, localMonth offset tz s = localMonth offset tz t → InYears s) :
    (((localMonthBoundsUtc (Zones.fixed offset) (fmtSqlUtc t) tz).1 ≤ fmtSqlUtc u ∧
        fmtSqlUtc u ≤ (localMonthBoundsUtc (Zones.fixed offset) (fmtSqlUtc t) tz).2) ↔
      localYm (Zones.fixed offset) (fmtSqlUtc u) tz = localYm (Zones.fixed offset) (fmtSqlUtc t) tz) ∧
    localYm (Zones.fixed offset) (localMonthBoundsUtc (Zones.fixed offset) (fmtSqlUtc t) tz).2 tz
      = localYm (Zones.fixed offset) (fmtSqlUtc t) tz := by
  exact window_partition ht hu (hyears _ (localMonth_first offset tz _))
      (hyears _ (localMonth_last offset tz _))

/-- Midnight of New Year in a zone five hours west of Greenwich, and a second before it. -/
theorem newYear_partition :
    ((localMonthBoundsUtc (Zones.fixed fun _ => -18000) (fmtSqlUtc 1735707600) "EST").1 ≤ fmtSqlUtc
        1735707599 ∧
        fmtSqlUtc 1735707599 ≤ (localMonthBoundsUtc (Zones.fixed fun _ => -18000)
            (fmtSqlUtc 1735707600) "EST").2 ↔
      localYm (Zones.fixed fun _ => -18000) (fmtSqlUtc 1735707599) "EST"
        = localYm (Zones.fixed fun _ => -18000) (fmtSqlUtc 1735707600) "EST") ∧
    localYm (Zones.fixed fun _ => -18000)
        (localMonthBoundsUtc (Zones.fixed fun _ => -18000) (fmtSqlUtc 1735707600) "EST").2 "EST"
      = localYm (Zones.fixed fun _ => -18000) (fmtSqlUtc 1735707600) "EST" := by
  refine months_partition (fun _ => -18000) "EST" (by decide) (by decide) fun s hs => ?_
  have hwin :=
    @inYears_window (fun _ => -18000) "EST" (by decide) (localMonth (fun _ => -18000) "EST" 1735707600)
    (by decide) (by decide)
  obtain ⟨hfirst, hlast⟩ := localMonth_eq_iff.mp hs
  exact hwin.1.mono hwin.2 hfirst hlast

end FixedZone

end NightWatcher.Exporter
