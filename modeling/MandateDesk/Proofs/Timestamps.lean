import MandateDesk.Instant.Printer
import MandateDesk.Instant.Reader
import MandateDesk.Proofs.Days
import MandateDesk.Proofs.Digits

/-!
# Written instants

The text of an instant of the calendar is read back as that instant, to the
nanosecond and also within a leap second.  Only a leap second that is not
counted with the last second of a minute is read as the next second.  The
instants that are read back as they were are those that can be read at all.
-/

namespace MandateDesk.Instant

open Text

/--
An instant of the calendar, which lies in a leap second only behind the last
second of a minute.
-/
structure IsCivil (instant : Instant) : Prop where
  /-- Its day is one of the calendar. -/
  inCalendar : instant.inCalendar = true
  /-- Leap seconds are counted with the last second of a minute. -/
  endsMinute : instant.inLeapSecond = true → instant.second % 60 = 59

/--
The instant that a text stands for: within a minute a leap second is written
as the next second.
-/
def carried (instant : Instant) : Instant :=
  if instant.inLeapSecond ∧ instant.second % 60 ≠ 59 then
    ⟨instant.second + 1, instant.nanos - 1000000000,
      Nat.lt_of_le_of_lt (Nat.sub_le ..) instant.nanos_lt⟩
  else instant

theorem carried_eq_self_iff
    (instant : Instant) :
    instant.carried = instant ↔
      (instant.inLeapSecond = true → instant.second % 60 = 59) := by
  unfold carried
  split
  · next misplaced =>
    constructor
    · intro same
      have seconds : instant.second + 1 = instant.second :=
        congrArg Instant.second same
      omega
    · intro endsMinute
      exact absurd (endsMinute misplaced.1) misplaced.2
  · next placed =>
    refine iff_of_true rfl fun leap => ?_
    exact Decidable.byContradiction fun other => placed ⟨leap, other⟩

/-! ## The parts of a text -/

theorem isBlank_of_isDigit
    {character : Char}
    (digit : isDigit character = true) :
    isBlank character = false := by
  simp only [isDigit, Bool.and_eq_true, decide_eq_true_eq] at digit
  have lower : 48 ≤ character.toNat := digit.1
  have upper : character.toNat ≤ 57 := digit.2
  simp only [isBlank, inRanges, blankRanges, List.any_cons, List.any_nil,
    Bool.or_false, Bool.or_eq_false_iff, Bool.and_eq_false_iff,
    decide_eq_false_iff_not]
  omega

theorem trimStart_digits
    {written : List Char}
    (digits : AreDigits written)
    (nonempty : written ≠ [])
    (rest : List Char) :
    trimStart (written ++ rest) = written ++ rest := by
  cases written with
  | nil => contradiction
  | cons first others =>
    have notBlank := isBlank_of_isDigit digits.cons.1
    simp [trimStart, notBlank]

/-- Digits are taken up to a width, or up to where they end. -/
theorem takeNumber_append
    {width : Nat}
    {written rest : List Char}
    (digits : AreDigits written)
    (nonempty : written ≠ [])
    (fits : written.length ≤ width)
    (ends : written.length = width ∨ EndsDigits rest) :
    takeNumber width (written ++ rest) = some (denoted 0 written, rest) := by
  have taken : ((written ++ rest).take width).takeWhile isDigit = written := by
    rw [List.take_append, List.take_of_length_le fits]
    refine takeWhile_isDigit_append digits ?_
    rcases ends with full | ends
    · rw [full, Nat.sub_self]
      exact nofun
    · intro character member
      refine ends character ?_
      cases rest with
      | nil => simp at member
      | cons first others =>
        cases room : width - written.length with
        | zero => simp [room] at member
        | succ more => simpa [room] using member
  unfold takeNumber
  simp only [taken, value?_of_areDigits digits nonempty,
    Option.bind_eq_bind, Option.bind_some, List.drop_left, Option.pure_def]

/-- A number on a fixed width is taken whole, whatever follows it. -/
theorem takeNumber_padded
    {width number : Nat}
    (positive : 0 < width)
    (fits : number < tenTo width)
    (rest : List Char) :
    takeNumber width (padded width number ++ rest) = some (number, rest) := by
  have long := length_padded_of_lt positive fits
  rw [takeNumber_append (areDigits_padded width number)
    (padded_ne_nil width number) (Nat.le_of_eq long) (Or.inl long),
    denoted_padded]

@[simp]
theorem takeField_padded
    {number : Nat}
    (fits : number < 100)
    (rest : List Char) :
    takeField (padded 2 number ++ rest) = some (number, rest) := by
  unfold takeField
  rw [trimStart_digits (areDigits_padded 2 number) (padded_ne_nil 2 number)]
  exact takeNumber_padded (by decide) fits rest

theorem takeMark_cons
    (mark : Char)
    (notBlank : isBlank mark = false)
    (rest : List Char) :
    takeMark mark (mark :: rest) = some rest := by
  simp [takeMark, trimStart, notBlank]

/-- A year is taken back, in front of a character that is no digit. -/
theorem takeYear_yearCharacters
    (year : Int)
    {rest : List Char}
    (ends : EndsDigits rest) :
    takeYear (yearCharacters year ++ rest) = some (year, rest) := by
  have digits := areDigits_padded 4 year.natAbs
  have nonempty := padded_ne_nil 4 year.natAbs
  have all : takeDigits (padded 4 year.natAbs ++ rest) =
      some (year.natAbs, rest) := by
    unfold takeDigits
    rw [takeNumber_append digits nonempty (by simp) (Or.inr ends),
      denoted_padded]
  unfold takeYear yearCharacters
  by_cases plain : 0 ≤ year ∧ year ≤ 9999
  · have few : year.natAbs < tenTo 4 := by
      show year.natAbs < 10000
      omega
    have taken : takeNumber 4 (padded 4 year.natAbs ++ rest) =
        some (year.natAbs, rest) :=
      takeNumber_padded (by decide) few rest
    have back : (year.natAbs : Int) = year := by omega
    simp only [if_pos plain, trimStart_digits digits nonempty]
    split
    · next same =>
      exact absurd same (append_ne_cons_of_areDigits digits nonempty rfl _ _)
    · next same =>
      exact absurd same (append_ne_cons_of_areDigits digits nonempty rfl _ _)
    · simp only [taken, Option.map_some, back]
  · simp only [if_neg plain]
    by_cases negative : year < 0
    · have back : -(year.natAbs : Int) = year := by omega
      have visible : trimStart ('-' :: (padded 4 year.natAbs ++ rest)) =
          '-' :: (padded 4 year.natAbs ++ rest) :=
        rfl
      simp only [if_pos negative, List.cons_append, visible, all,
        Option.map_some, back]
    · have back : (year.natAbs : Int) = year := by omega
      have visible : trimStart ('+' :: (padded 4 year.natAbs ++ rest)) =
          '+' :: (padded 4 year.natAbs ++ rest) :=
        rfl
      simp only [if_neg negative, List.cons_append, visible, all,
        Option.map_some, back]

/-- The digits behind a point count by where they stand. -/
theorem takeFraction_padded
    {width number : Nat}
    (positive : 0 < width)
    (short : width ≤ 9)
    (fits : number < tenTo width) :
    takeFraction ('.' :: padded width number ++ ['Z']) =
      some (number * tenTo (9 - width), ['Z']) := by
  have digits := areDigits_padded width number
  have long := length_padded_of_lt positive fits
  have ends : EndsDigits ['Z'] := by
    intro character member
    obtain rfl : 'Z' = character := by simpa using member
    rfl
  have fits : (padded width number).length ≤ 9 := Nat.le_trans (Nat.le_of_eq long) short
  have taken := takeNumber_append digits (padded_ne_nil width number) fits
    (Or.inr ends)
  have stops : ['Z'].dropWhile isDigit = ['Z'] := rfl
  simp only [takeFraction, List.cons_append, taken, denoted_padded, stops,
    Option.bind_eq_bind, Option.bind_some, Option.pure_def,
    List.length_append, long, Nat.add_sub_cancel]

/-- The fraction of a second is exact with three, six or nine digits. -/
theorem takeFraction_fractionCharacters
    {nanos : Nat}
    (fits : nanos < nanosPerSecond) :
    takeFraction (fractionCharacters nanos ++ ['Z']) =
      some (nanos, ['Z']) := by
  unfold nanosPerSecond at fits
  unfold fractionCharacters
  split
  · next zero =>
    subst zero
    rfl
  · split
    · next millis =>
      have back : nanos / 1000000 * tenTo (9 - 3) = nanos := by
        show nanos / 1000000 * 1000000 = nanos
        omega
      have few : nanos / 1000000 < tenTo 3 := by
        show nanos / 1000000 < 1000
        omega
      rw [takeFraction_padded (by decide) (by decide) few, back]
    · split
      · next micros =>
        have back : nanos / 1000 * tenTo (9 - 6) = nanos := by
          show nanos / 1000 * 1000 = nanos
          omega
        have few : nanos / 1000 < tenTo 6 := by
          show nanos / 1000 < 1000000
          omega
        rw [takeFraction_padded (by decide) (by decide) few, back]
      · rw [takeFraction_padded (by decide) (by decide) fits, Nat.sub_self,
          tenTo_zero, Nat.mul_one]

/-! ## Whole instants -/

/-- Reading a written text means to put its parts together again. -/
theorem readCharacters_written
    {year : Int}
    {month day hour minute second nanos : Nat}
    (fewMonths : month < 100)
    (fewDays : day < 100)
    (fewHours : hour < 100)
    (fewMinutes : minute < 100)
    (fewSeconds : second < 100)
    (fits : nanos < nanosPerSecond) :
    readCharacters
        (yearCharacters year ++ '-' :: padded 2 month ++
          '-' :: padded 2 day ++ 'T' :: padded 2 hour ++
          ':' :: padded 2 minute ++ ':' :: padded 2 second ++
          fractionCharacters nanos ++ ['Z']) =
      ofParts? ⟨year, month, day⟩ hour minute second nanos 0 := by
  have ends (rest : List Char) : EndsDigits ('-' :: rest) := by
    intro character member
    obtain rfl : '-' = character := by simpa using member
    rfl
  have hyphen (rest : List Char) := takeMark_cons '-' rfl rest
  have colon (rest : List Char) := takeMark_cons ':' rfl rest
  have zone : takeOffset (trimStart ['Z']) = some (0, []) := rfl
  unfold readCharacters
  simp only [List.append_assoc, List.cons_append,
    takeYear_yearCharacters year (ends _), hyphen, colon,
    takeField_padded, fewMonths, fewDays, fewHours, fewMinutes, fewSeconds,
    takeSeparator, takeFraction_fractionCharacters fits, zone,
    Option.bind_eq_bind, Option.bind_some, List.all_nil, if_true]

theorem eq_of_parts
    {first second : Instant}
    (seconds : first.second = second.second)
    (nanos : first.nanos = second.nanos) :
    first = second := by
  cases first
  cases second
  cases seconds
  cases nanos
  rfl

/-- Which instant is made of a date and a time, and when. -/
theorem ofParts?_eq_some_iff
    {date : Calendar.Date}
    {hour minute second nanos : Nat}
    {offset : Int}
    {instant : Instant} :
    ofParts? date hour minute second nanos offset = some instant ↔
      nanos < 1000000000 ∧
        (date.isValid = true ∧ hour < 24 ∧ minute < 60 ∧ second ≤ 60) ∧
        instant.second = Calendar.dayNumber date * secondsPerDay +
          (hour * 3600 + minute * 60 + min second 59 : Nat) - offset ∧
        instant.nanos = nanos + (if second = 60 then 1000000000 else 0) ∧
        instant.inCalendar = true := by
  unfold ofParts?
  by_cases short : nanos < 1000000000
  · by_cases fields : date.isValid = true ∧ hour < 24 ∧ minute < 60 ∧
        second ≤ 60
    · rw [dif_pos short, if_pos fields]
      simp only [short, fields, true_and, Option.ite_none_right_eq_some,
        Option.some.injEq]
      constructor
      · rintro ⟨inside, rfl⟩
        by_cases sixty : second = 60
        · rw [if_pos sixty] at inside ⊢
          exact ⟨rfl, by rw [if_pos sixty], inside⟩
        · rw [if_neg sixty] at inside ⊢
          exact ⟨rfl, by rw [if_neg sixty]; rfl, inside⟩
      · rintro ⟨seconds, parts, inside⟩
        have same : (if second = 60 then
            (⟨Calendar.dayNumber date * secondsPerDay +
              (hour * 3600 + minute * 60 + min second 59 : Nat) - offset,
              nanos + 1000000000, by omega⟩ : Instant)
            else ⟨Calendar.dayNumber date * secondsPerDay +
              (hour * 3600 + minute * 60 + min second 59 : Nat) - offset,
              nanos, by omega⟩) = instant := by
          by_cases sixty : second = 60
          · rw [if_pos sixty] at parts ⊢
            exact eq_of_parts seconds.symm parts.symm
          · rw [if_neg sixty] at parts ⊢
            exact eq_of_parts seconds.symm parts.symm
        exact ⟨same ▸ inside, same⟩
    · simp [short, fields]
  · simp [short]

/-- What is written stands for an instant of the same day. -/
theorem ofParts?_written
    {instant : Instant}
    (inside : instant.inCalendar = true) :
    ofParts? (Calendar.dateOf instant.day)
        (instant.secondOfDay.toNat / 3600)
        (instant.secondOfDay.toNat / 60 % 60)
        (instant.secondOfDay.toNat % 60 +
          (if instant.inLeapSecond then 1 else 0))
        (instant.nanos % nanosPerSecond) 0 =
      some instant.carried := by
  have within := inside
  simp only [inCalendar, Bool.and_eq_true, decide_eq_true_eq] at within
  have valid := Calendar.isValid_dateOf within.1 within.2
  have short : instant.nanos < 2000000000 := instant.nanos_lt
  have late : instant.secondOfDay < 86400 := Int.emod_lt_of_pos _ (by decide)
  have early : 0 ≤ instant.secondOfDay := Int.emod_nonneg _ (by decide)
  have whole : instant.day * 86400 + instant.secondOfDay = instant.second :=
    Int.mul_comm _ _ ▸ Int.mul_ediv_add_emod instant.second 86400
  have ofMinute : instant.secondOfDay % 60 = instant.second % 60 :=
    Int.emod_emod_of_dvd _ (by decide)
  have leaps : instant.inLeapSecond = true ↔ 1000000000 ≤ instant.nanos :=
    decide_eq_true_iff
  rw [ofParts?_eq_some_iff, Calendar.dayNumber_dateOf]
  unfold nanosPerSecond secondsPerDay carried
  by_cases leap : instant.inLeapSecond = true
  · have long := leaps.mp leap
    rw [if_pos leap]
    by_cases last : instant.second % 60 = 59
    · have sixty : instant.secondOfDay.toNat % 60 + 1 = 60 := by omega
      rw [if_pos sixty, if_neg (fun both => both.2 last)]
      exact ⟨by omega, ⟨valid, by omega, by omega, by omega⟩, by omega,
        by omega, inside⟩
    · have fewer : instant.secondOfDay.toNat % 60 + 1 ≠ 60 := by omega
      have sameDay : (instant.second + 1) / secondsPerDay = instant.day := by
        unfold secondsPerDay
        omega
      rw [if_neg fewer, if_pos ⟨leap, last⟩]
      refine ⟨by omega, ⟨valid, by omega, by omega, by omega⟩, ?_, ?_, ?_⟩
      · show instant.second + 1 = _
        omega
      · show instant.nanos - 1000000000 = _
        omega
      · simp only [inCalendar, day, sameDay] at inside ⊢
        exact inside
  · have small := mt leaps.mpr leap
    have fewer : instant.secondOfDay.toNat % 60 + 0 ≠ 60 := by omega
    rw [if_neg leap, if_neg fewer, if_neg (fun both => leap both.1)]
    exact ⟨by omega, ⟨valid, by omega, by omega, by omega⟩, by omega,
      by omega, inside⟩

/-- The text of an instant of the calendar is read back. -/
theorem read?_text
    {instant : Instant}
    (inside : instant.inCalendar = true) :
    read? instant.text = some instant.carried := by
  have within := inside
  simp only [inCalendar, Bool.and_eq_true, decide_eq_true_eq] at within
  have valid := Calendar.isValid_dateOf within.1 within.2
  have fewDays := Calendar.daysInMonth_le
    (Calendar.dateOf instant.day).year (Calendar.dateOf instant.day).month
  simp only [Calendar.Date.isValid, Bool.and_eq_true,
    decide_eq_true_eq] at valid
  have time : instant.secondOfDay < 86400 :=
    Int.emod_lt_of_pos _ (by decide)
  have leap : (if instant.inLeapSecond = true then 1 else 0) ≤ 1 := by
    split <;> decide
  unfold read? text
  rw [String.toList_ofList]
  unfold characters
  rw [readCharacters_written (by omega) (by omega) (by omega) (by omega)
    (by omega) (Nat.mod_lt _ (by decide))]
  exact ofParts?_written inside

theorem inCalendar_carried
    {instant : Instant}
    (inside : instant.inCalendar = true) :
    instant.carried.inCalendar = true :=
  (ofParts?_eq_some_iff.mp (ofParts?_written inside)).2.2.2.2

/-- A carried instant is written as what it is. -/
@[simp]
theorem carried_carried (instant : Instant) :
    instant.carried.carried = instant.carried := by
  refine (carried_eq_self_iff _).mpr ?_
  unfold carried
  split
  · next misplaced =>
    intro leap
    have long : 1000000000 ≤ instant.nanos - 1000000000 :=
      of_decide_eq_true leap
    have short := instant.nanos_lt
    omega
  · next placed =>
    intro leap
    exact Decidable.byContradiction fun other => placed ⟨leap, other⟩

/-! ## What can be read -/

theorem takeOffsetAmount_minutes
    {text rest : List Char}
    {offset : Int}
    (taken : takeOffsetAmount text = some (offset, rest)) :
    offset % 60 = 0 := by
  unfold takeOffsetAmount at taken
  simp only [Option.bind_eq_bind, Option.bind_eq_some_iff] at taken
  rcases taken with ⟨⟨hours, afterHours⟩, -, ⟨minutes, left⟩, -, counted⟩
  simp only [Option.pure_def, Option.ite_none_right_eq_some,
    Option.some.injEq, Prod.mk.injEq] at counted
  omega

/-- An offset from universal time is one of whole minutes. -/
theorem takeOffset_minutes
    {text rest : List Char}
    {offset : Int}
    (taken : takeOffset text = some (offset, rest)) :
    offset % 60 = 0 := by
  have negated {text : List Char}
      (turned : (takeOffsetAmount text).map
        (fun counted => (-counted.1, counted.2)) = some (offset, rest)) :
      offset % 60 = 0 := by
    simp only [Option.map_eq_some_iff, Prod.mk.injEq] at turned
    rcases turned with ⟨⟨amount, left⟩, counted, rfl, -⟩
    have minutes := takeOffsetAmount_minutes counted
    show -amount % 60 = 0
    omega
  unfold takeOffset at taken
  split at taken
  · cases taken
    rfl
  · split at taken
    · cases taken
      rfl
    · cases taken
      rfl
    · exact takeOffsetAmount_minutes taken
    · exact negated taken
    · exact negated taken
    · contradiction

theorem isCivil_of_ofParts?
    {date : Calendar.Date}
    {hour minute second nanos : Nat}
    {offset : Int}
    {instant : Instant}
    (minutes : offset % 60 = 0)
    (made : ofParts? date hour minute second nanos offset = some instant) :
    instant.IsCivil := by
  obtain ⟨short, -, seconds, parts, inside⟩ := ofParts?_eq_some_iff.mp made
  refine ⟨inside, fun leap => ?_⟩
  have long : 1000000000 ≤ instant.nanos := of_decide_eq_true leap
  have sixty : second = 60 := by
    split at parts
    · assumption
    · omega
  subst sixty
  unfold secondsPerDay at seconds
  omega

/-- Exactly the civil instants can be read. -/
theorem readable_iff_isCivil
    (instant : Instant) :
    (∃ text, read? text = some instant) ↔ instant.IsCivil := by
  constructor
  · rintro ⟨text, taken⟩
    unfold read? readCharacters at taken
    simp only [Option.bind_eq_bind, Option.bind_eq_some_iff,
      Option.ite_none_right_eq_some] at taken
    rcases taken with ⟨_, -, _, -, _, -, _, -, _, -, _, -, _, -, _, -, _, -,
      _, -, _, -, _, -, ⟨offset, left⟩, zone, -, made⟩
    exact isCivil_of_ofParts? (takeOffset_minutes zone) made
  · intro civil
    refine ⟨instant.text, ?_⟩
    rw [read?_text civil.inCalendar,
      (carried_eq_self_iff instant).mpr civil.endsMinute]

end MandateDesk.Instant
