import MandateDesk.Instant.Calendar

/-!
# Days and dates

Every day has a date, and the number of that date is the day again.  A day of
four hundred years is split into centuries, groups of four years, years and a
day within its year; each quotient that a date is computed from is exact on
such a split.  The dates of the days of the calendar exist.
-/

namespace MandateDesk.Calendar

/-- The year of a day within four hundred years. -/
def yearOfEra (day : Nat) : Nat :=
  (day - day / 1460 + day / 36524 - day / 146096) / 365

/-- The days of four hundred years in front of one of these years. -/
def daysBeforeYear (year : Nat) : Nat :=
  365 * year + year / 4 - year / 100

/-- Whether a year of four hundred, which begins in March, has a leap day. -/
def EndsInLeapDay (year : Nat) : Prop :=
  (year + 1) % 4 = 0 ∧ ((year + 1) % 100 = 0 → (year + 1) % 400 = 0)

/--
A day of four hundred years in centuries, groups of four years, years and days,
of which only the last year of a group, and of the last group only that of the
last century, has a 366th.
-/
structure Split (day century group year rest : Nat) : Prop where
  /-- The parts make up the day. -/
  total : day = 36524 * century + 1461 * group + 365 * year + rest
  /-- There are four centuries. -/
  century_lt : century < 4
  /-- There are twenty-five groups in a century. -/
  group_lt : group < 25
  /-- There are four years in a group. -/
  year_lt : year < 4
  /-- There are at most 366 days in a year. -/
  rest_le : rest ≤ 365
  /-- Which years have a 366th day. -/
  leap : rest = 365 → year = 3 ∧ (group = 24 → century = 3)

theorem exists_split {day : Nat} (within : day < 146097) :
    ∃ century group year rest, Split day century group year rest := by
  let century := min (day / 36524) 3
  let afterCentury := day - 36524 * century
  let group := afterCentury / 1461
  let afterGroup := afterCentury % 1461
  let year := min (afterGroup / 365) 3
  refine ⟨century, group, year, afterGroup - 365 * year, ?_⟩
  have centuries : 36524 * century ≤ day ∧ century < 4 ∧
      afterCentury ≤ 36524 ∧ (afterCentury = 36524 → century = 3) := by
    omega
  have groups : 1461 * group + afterGroup = afterCentury :=
    Nat.div_add_mod afterCentury 1461
  have years : afterGroup < 1461 := Nat.mod_lt _ (by decide)
  have split : 365 * year ≤ afterGroup ∧ year < 4 ∧
      afterGroup - 365 * year ≤ 365 ∧
      (afterGroup - 365 * year = 365 → year = 3) := by
    omega
  obtain ⟨front, fewCenturies, short, last⟩ := centuries
  obtain ⟨behind, fewYears, fewDays, leap⟩ := split
  refine ⟨by omega, fewCenturies, by omega, fewYears, fewDays, ?_⟩
  intro longest
  exact ⟨leap longest, fun final => last (by omega)⟩

/-- The quotients in the year of a day are exact. -/
theorem Split.yearOfEra_eq
    {day century group year rest : Nat}
    (split : Split day century group year rest) :
    yearOfEra day = 100 * century + 4 * group + year := by
  obtain ⟨rfl, fewCenturies, fewGroups, fewYears, fewDays, leap⟩ := split
  -- How far the days left over by the centuries reach into a group.
  let carried := (24 * century + group + 365 * year + rest) / 1460
  have groups :
      (36524 * century + 1461 * group + 365 * year + rest) / 1460 =
        25 * century + group + carried := by
    omega
  have centuries :
      (36524 * century + 1461 * group + 365 * year + rest) / 36524 =
        century +
          (36524 * century + 1461 * group + 365 * year + rest) / 146096 := by
    have inside : 1461 * group + 365 * year + rest ≤ 36523 ∨
        (century = 3 ∧ group = 24 ∧ year = 3 ∧ rest = 365) := by omega
    rcases inside with inside | ⟨rfl, rfl, rfl, rfl⟩
    · omega
    · decide
  unfold yearOfEra
  rw [groups, centuries]
  omega

theorem Split.daysBeforeYear_eq
    {day century group year rest : Nat}
    (split : Split day century group year rest) :
    daysBeforeYear (100 * century + 4 * group + year) + rest = day := by
  obtain ⟨rfl, fewCenturies, fewGroups, fewYears, fewDays, leap⟩ := split
  have fours : (100 * century + 4 * group + year) / 4 =
      25 * century + group := by omega
  have hundreds : (100 * century + 4 * group + year) / 100 = century := by
    omega
  unfold daysBeforeYear
  rw [fours, hundreds]
  omega

/-- A day lies in its year, and on the 366th of it only in a leap year. -/
theorem yearOfEra_spec {day : Nat} (within : day < 146097) :
    yearOfEra day < 400 ∧
      daysBeforeYear (yearOfEra day) ≤ day ∧
      day - daysBeforeYear (yearOfEra day) ≤ 365 ∧
      (day - daysBeforeYear (yearOfEra day) = 365 →
        EndsInLeapDay (yearOfEra day)) := by
  rcases exists_split within with ⟨century, group, year, rest, split⟩
  have counted := split.daysBeforeYear_eq
  rw [split.yearOfEra_eq]
  obtain ⟨_, fewCenturies, fewGroups, fewYears, fewDays, leap⟩ := split
  have left : day - daysBeforeYear (100 * century + 4 * group + year) = rest :=
    by omega
  refine ⟨by omega, by omega, by omega, ?_⟩
  rw [left]
  intro longest
  obtain ⟨lastYear, lastGroup⟩ := leap longest
  unfold EndsInLeapDay
  constructor
  · omega
  · intro hundred
    have final : group = 24 := by omega
    have lastCentury := lastGroup final
    omega

/-! ## Months -/

/-- The month of a day of a year that begins in March, counted from zero. -/
def monthFromMarch (day : Nat) : Nat :=
  (5 * day + 2) / 153

/-- A day lies in its month; only the 366th is a 29 February. -/
theorem monthFromMarch_spec {day : Nat} (within : day ≤ 365) :
    monthFromMarch day < 12 ∧
      daysBeforeMonth (monthFromMarch day) ≤ day ∧
      day - daysBeforeMonth (monthFromMarch day) < 31 ∧
      (monthFromMarch day = 1 ∨ monthFromMarch day = 3 ∨
        monthFromMarch day = 6 ∨ monthFromMarch day = 8 →
        day - daysBeforeMonth (monthFromMarch day) < 30) ∧
      (monthFromMarch day = 11 →
        day - daysBeforeMonth (monthFromMarch day) < 29 ∧
          (day < 365 → day - daysBeforeMonth (monthFromMarch day) < 28)) ∧
      (monthFromMarch day < 10 ↔ day < 306) := by
  unfold daysBeforeMonth monthFromMarch
  omega

/-! ## Dates -/

/-- The parts of the date of a day. -/
structure Dated (day era : Int) (year dayOfYear month : Nat) : Prop where
  /-- The day within its era. -/
  day_eq : day + epochOffset =
    era * daysPerEra + (daysBeforeYear year + dayOfYear : Nat)
  /-- There are four hundred years in an era. -/
  year_lt : year < 400
  /-- The month of the day. -/
  month_eq : month = monthFromMarch dayOfYear
  /-- There are at most 366 days in a year. -/
  dayOfYear_le : dayOfYear ≤ 365
  /-- Which years have a 366th day. -/
  leap : dayOfYear = 365 → EndsInLeapDay year
  /-- The date. -/
  date_eq : dateOf day =
    ⟨era * 400 + year + (if 10 ≤ month then 1 else 0),
      if month < 10 then month + 3 else month - 9,
      dayOfYear - daysBeforeMonth month + 1⟩

theorem exists_dated (day : Int) :
    ∃ era year dayOfYear month, Dated day era year dayOfYear month := by
  let shifted := day + epochOffset
  let dayOfEra := (shifted % daysPerEra).toNat
  have within : dayOfEra < 146097 := by
    have bound : shifted % daysPerEra < 146097 :=
      Int.emod_lt_of_pos _ (by decide)
    omega
  rcases yearOfEra_spec within with ⟨fewYears, front, fewDays, leap⟩
  refine ⟨shifted / daysPerEra, yearOfEra dayOfEra,
    dayOfEra - daysBeforeYear (yearOfEra dayOfEra),
    monthFromMarch (dayOfEra - daysBeforeYear (yearOfEra dayOfEra)),
    ?_, fewYears, rfl, fewDays, leap, ?_⟩
  · have whole := Int.mul_ediv_add_emod shifted daysPerEra
    have positive : 0 ≤ shifted % daysPerEra :=
      Int.emod_nonneg _ (by decide)
    have same : ((daysBeforeYear (yearOfEra dayOfEra) +
        (dayOfEra - daysBeforeYear (yearOfEra dayOfEra)) : Nat) : Int) =
          shifted % daysPerEra := by
      omega
    rw [same, Int.mul_comm]
    exact whole.symm
  · have small : (if monthFromMarch (dayOfEra -
          daysBeforeYear (yearOfEra dayOfEra)) < 10 then
        monthFromMarch (dayOfEra - daysBeforeYear (yearOfEra dayOfEra)) + 3
        else monthFromMarch
          (dayOfEra - daysBeforeYear (yearOfEra dayOfEra)) - 9) ≤ 2 ↔
        10 ≤ monthFromMarch
          (dayOfEra - daysBeforeYear (yearOfEra dayOfEra)) := by
      have few := (monthFromMarch_spec fewDays).1
      split <;> omega
    simp only [← small]
    rfl

/-- The day of the date of a day is the day again. -/
@[simp]
theorem dayNumber_dateOf (day : Int) : dayNumber (dateOf day) = day := by
  rcases exists_dated day with ⟨era, year, dayOfYear, month, dated⟩
  obtain ⟨total, fewYears, rfl, fewDays, _, same⟩ := dated
  rcases monthFromMarch_spec fewDays with ⟨fewMonths, front, _⟩
  generalize monthFromMarch dayOfYear = month at *
  have early : (if month < 10 then month + 3 else month - 9) ≤ 2 ↔
      10 ≤ month := by
    split <;> omega
  have back : ((if month < 10 then month + 3 else month - 9) + 9) % 12 =
      month := by
    split <;> omega
  have whole : (if 10 ≤ month then
      era * 400 + year + (if 10 ≤ month then 1 else 0) - 1
      else era * 400 + year + (if 10 ≤ month then 1 else 0)) =
        era * 400 + (year : Int) := by
    split <;> omega
  rw [same]
  unfold dayNumber
  simp only [early, back, whole]
  unfold daysPerEra epochOffset daysBeforeYear at *
  omega

theorem firstDay_eq : firstDay = -96465292 := by decide

theorem lastDay_eq : lastDay = 95026236 := by decide

theorem Dated.day_le
    {day era : Int}
    {year dayOfYear month : Nat}
    (dated : Dated day era year dayOfYear month) :
    dayOfYear - daysBeforeMonth month + 1 ≤
      daysInMonth (era * 400 + year + (if 10 ≤ month then 1 else 0))
        (if month < 10 then month + 3 else month - 9) := by
  obtain ⟨_, fewYears, rfl, fewDays, leap, _⟩ := dated
  rcases monthFromMarch_spec fewDays with
    ⟨fewMonths, _, short, shorter, shortest, _⟩
  generalize monthFromMarch dayOfYear = month at *
  by_cases february : month = 11
  · subst february
    rcases shortest rfl with ⟨leapDay, plainDay⟩
    show dayOfYear - daysBeforeMonth 11 + 1 ≤
      if isLeap (era * 400 + year + 1) then 29 else 28
    by_cases longest : dayOfYear = 365
    · have ends := leap longest
      unfold EndsInLeapDay at ends
      have leaps : isLeap (era * 400 + year + 1) = true := by
        simp only [isLeap, Bool.and_eq_true, Bool.or_eq_true, beq_iff_eq,
          bne_iff_ne]
        omega
      rw [if_pos leaps]
      exact leapDay
    · have fewer := plainDay (by omega)
      split <;> omega
  · have others : month < 10 ∨ month = 10 := by omega
    rcases others with early | rfl
    · rw [if_pos early]
      unfold daysInMonth
      rw [if_neg (by omega)]
      split <;> omega
    · exact short

theorem daysInMonth_le (year : Int) (month : Nat) :
    daysInMonth year month ≤ 31 := by
  unfold daysInMonth
  repeat' split
  all_goals omega

/-- The days of the calendar have dates of the calendar. -/
theorem isValid_dateOf
    {day : Int}
    (first : firstDay ≤ day)
    (last : day ≤ lastDay) :
    (dateOf day).isValid = true := by
  rcases exists_dated day with ⟨era, year, dayOfYear, month, dated⟩
  have within := dated.day_le
  obtain ⟨total, fewYears, same, fewDays, _, date⟩ := dated
  rcases monthFromMarch_spec fewDays with ⟨fewMonths, _, _, _, _, early⟩
  rw [← same] at fewMonths early
  have lower : firstYear ≤
      era * 400 + year + (if 10 ≤ month then 1 else 0) := by
    rw [firstDay_eq] at first
    unfold firstYear daysPerEra epochOffset daysBeforeYear at *
    split <;> omega
  have upper : era * 400 + year + (if 10 ≤ month then 1 else 0) ≤
      lastYear := by
    rw [lastDay_eq] at last
    unfold lastYear daysPerEra epochOffset daysBeforeYear at *
    -- In the last era the years up to the last one are counted out.
    have eras : era < 655 ∨ era = 655 := by omega
    rcases eras with earlier | rfl
    · split <;> omega
    · have years : year < 142 ∨ year = 142 := by omega
      rcases years with earlier | rfl
      · split <;> omega
      · split <;> omega
  rw [date]
  simp only [Date.isValid, Bool.and_eq_true, decide_eq_true_eq]
  refine ⟨⟨⟨⟨⟨lower, upper⟩, ?_⟩, ?_⟩, ?_⟩, within⟩
  · split <;> omega
  · split <;> omega
  · omega

end MandateDesk.Calendar
