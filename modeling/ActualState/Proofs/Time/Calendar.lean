import ActualState.Time.Calendar

/-!
# Day numbers and dates

The date with a day number is one that the calendar has, and its day number is the one it was
made from. An era of 400 years is cut into centuries, these into cycles of four years and these
into years; only the last year of a cycle can have a leap day.
-/
namespace ActualState.Time.Date

/-- A day of an era: its year, counted from the first March, and the day in that year. -/
structure InEra (dayOfEra year day : Int) : Prop where
  year_nonneg : 0 ≤ year
  year_le : year ≤ 399
  day_nonneg : 0 ≤ day
  day_le : day ≤ 365
  total : 365 * year + year / 4 - year / 100 + day = dayOfEra
  /-- A year with 366 days ends in February of a leap year. -/
  leap : day = 365 → isLeapYear (year + 1) = true

theorem isLeapYear_iff (y : Int) :
    isLeapYear y = true ↔ y % 4 = 0 ∧ (y % 100 ≠ 0 ∨ y % 400 = 0) := by
  simp [isLeapYear]

/-- The year of a day, up to the last day of an era. -/
theorem inEra_of_lt {d : Int} (nonneg : 0 ≤ d) (h : d < 146096) :
    ∃ year, (d - d / 1460 + d / 36524 - d / 146096) / 365 = year ∧
      InEra d year (d - (365 * year + year / 4 - year / 100)) := by
  obtain ⟨c, hc⟩ : ∃ c, c = d / 36524 := ⟨_, rfl⟩
  obtain ⟨q, hq⟩ : ∃ q, q = d % 36524 / 1461 := ⟨_, rfl⟩
  obtain ⟨s, hs⟩ : ∃ s, s = d % 36524 % 1461 := ⟨_, rfl⟩
  have parts : d = 36524 * c + 1461 * q + s := by omega
  have century : 0 ≤ c ∧ c ≤ 3 := by omega
  have cycle : 0 ≤ q ∧ q ≤ 24 ∧ 0 ≤ s ∧ s ≤ 1460 ∧ (q = 24 → s ≤ 1459) := by omega
  -- a day is dropped where the count of leap days is one too high
  obtain ⟨e, he⟩ : ∃ e, e = (24 * c + q + s) / 1460 := ⟨_, rfl⟩
  have dropped : d / 1460 = 25 * c + q + e := by omega
  have early : e = 0 ∧ s < 1460 ∨ e = 1 ∧ 1364 ≤ s := by omega
  obtain ⟨t, ht⟩ : ∃ t, t = (s - e) / 365 := ⟨_, rfl⟩
  have year : (d - d / 1460 + d / 36524 - d / 146096) / 365 = 100 * c + 4 * q + t := by
    rw [dropped, ← hc]
    omega
  have inCycle : 0 ≤ t ∧ t ≤ 3 ∧ 0 ≤ s - 365 * t ∧ s - 365 * t ≤ 365 := by omega
  have fourths : (100 * c + 4 * q + t) / 4 = 25 * c + q := by omega
  have hundredths : (100 * c + 4 * q + t) / 100 = c := by omega
  refine ⟨_, year, ?_⟩
  rw [fourths, hundredths]
  refine ⟨by omega, by omega, by omega, by omega, by omega, fun last => ?_⟩
  rw [isLeapYear_iff]
  omega

theorem inEra {d : Int} (nonneg : 0 ≤ d) (h : d < 146097) :
    ∃ year, (d - d / 1460 + d / 36524 - d / 146096) / 365 = year ∧
      InEra d year (d - (365 * year + year / 4 - year / 100)) := by
  by_cases last : d = 146096
  · subst last
    exact ⟨399, by decide, by decide, by decide, by decide, by decide, by decide, fun _ => rfl⟩
  · exact inEra_of_lt nonneg (by omega)

/-- The month and the day in it of a day of a year that begins in March. -/
theorem inYear {d : Int} (nonneg : 0 ≤ d) (h : d ≤ 365) :
    ∃ month day, (5 * d + 2) / 153 = month ∧ d - (153 * month + 2) / 5 + 1 = day ∧
      0 ≤ month ∧ month ≤ 11 ∧ 1 ≤ day ∧ day ≤ 31 ∧
      (month = 1 ∨ month = 3 ∨ month = 6 ∨ month = 8 → day ≤ 30) ∧
      (month = 11 → day ≤ 29 ∧ (day = 29 → d = 365)) := by
  refine ⟨_, _, rfl, rfl, ?_⟩
  omega

/-- What `ofDays` works out, with the day of the era and of the year named. -/
theorem ofDays_eq (z : Int) :
    ∃ year day month dayOfMonth, InEra ((z + 719468) % 146097) year day ∧
      (0 ≤ month ∧ month ≤ 11 ∧ 1 ≤ dayOfMonth ∧ dayOfMonth ≤ 31 ∧
        (month = 1 ∨ month = 3 ∨ month = 6 ∨ month = 8 → dayOfMonth ≤ 30) ∧
        (month = 11 → dayOfMonth ≤ 29 ∧ (dayOfMonth = 29 → day = 365))) ∧
      day - (153 * month + 2) / 5 + 1 = dayOfMonth ∧
      ofDays z =
        ⟨year + (z + 719468) / 146097 * 400 + (if month < 10 then 0 else 1),
          (if month < 10 then month + 3 else month - 9).toNat, dayOfMonth.toNat⟩ := by
  obtain ⟨year, hy, era⟩ := inEra (d := (z + 719468) % 146097) (by omega) (by omega)
  obtain ⟨month, day, hm, hd, range⟩ := inYear era.day_nonneg era.day_le
  refine ⟨year, _, month, day, era, range, hd, ?_⟩
  have late : (if (if month < 10 then month + 3 else month - 9) ≤ 2 then 1 else 0) =
      (if month < 10 then 0 else 1 : Int) := by
    split <;> split <;> omega
  simp only [ofDays, hy, hm, hd, late]

/-- The date with a day number has that day number. -/
theorem toDays_ofDays (z : Int) : (ofDays z).toDays = z := by
  obtain ⟨year, day, month, dayOfMonth, era, range, hd, date⟩ := ofDays_eq z
  obtain ⟨n, hn⟩ : ∃ n, n = (z + 719468) / 146097 := ⟨_, rfl⟩
  have low := era.year_nonneg
  have high := era.year_le
  have total := era.total
  have quotient : (year + n * 400) / 400 = n := by omega
  have remainder : (year + n * 400) % 400 = year := by omega
  have back : (dayOfMonth.toNat : Int) = dayOfMonth := by omega
  rw [date, toDays, ← hn]
  by_cases early : month < 10
  · have january : ¬ (month + 3).toNat ≤ 2 := by omega
    have shifted : (((month + 3).toNat : Int) + 9) % 12 = month := by omega
    simp only [if_pos early, if_neg january, shifted, back, Int.add_zero, quotient, remainder]
    omega
  · have january : (month - 9).toNat ≤ 2 := by omega
    have shifted : (((month - 9).toNat : Int) + 9) % 12 = month := by omega
    simp only [if_neg early, if_pos january, shifted, back, Int.add_sub_cancel, quotient, remainder]
    omega

/-- The date with a day number is one that the calendar has. -/
theorem isValid_ofDays (z : Int) : (ofDays z).isValid = true := by
  obtain ⟨year, day, month, dayOfMonth, era, range, -, date⟩ := ofDays_eq z
  obtain ⟨first, last, one, days, short, february⟩ := range
  obtain ⟨n, hn⟩ : ∃ n, n = (z + 719468) / 146097 := ⟨_, rfl⟩
  have leap (h : day = 365) : isLeapYear (year + n * 400 + 1) = true := by
    have inEra := (isLeapYear_iff _).1 (era.leap h)
    rw [isLeapYear_iff]
    omega
  have fits : dayOfMonth.toNat ≤ daysInMonth (year + n * 400 + (if month < 10 then 0 else 1))
      (if month < 10 then month + 3 else month - 9).toNat := by
    have cases : month = 0 ∨ month = 1 ∨ month = 2 ∨ month = 3 ∨ month = 4 ∨ month = 5 ∨
        month = 6 ∨ month = 7 ∨ month = 8 ∨ month = 9 ∨ month = 10 ∨ month = 11 := by omega
    rcases cases with rfl | rfl | rfl | rfl | rfl | rfl | rfl | rfl | rfl | rfl | rfl | rfl
    case inr.inr.inr.inr.inr.inr.inr.inr.inr.inr.inr =>
      show dayOfMonth.toNat ≤ if isLeapYear (year + n * 400 + 1) then 29 else 28
      by_cases final : day = 365
      · rw [leap final, if_pos rfl]
        omega
      · have shorter : dayOfMonth.toNat ≤ 28 := by omega
        split <;> omega
    all_goals
      simp only [daysInMonth, Int.reduceLT, Int.reduceAdd, Int.reduceSub, if_true, if_false,
        Int.reduceToNat]
      omega
  rw [date, ← hn]
  simp only [isValid, Bool.and_eq_true, decide_eq_true_eq]
  refine ⟨⟨⟨?_, ?_⟩, by omega⟩, fits⟩
  · split <;> omega
  · split <;> omega

/-- The months and the days of the calendar have two digits. -/
theorem le_of_isValid {d : Date} (valid : d.isValid = true) : d.month ≤ 12 ∧ d.day ≤ 31 := by
  have longest : daysInMonth d.year d.month ≤ 31 := by
    unfold daysInMonth
    split
    · split <;> decide
    all_goals decide
  simp only [isValid, Bool.and_eq_true, decide_eq_true_eq] at valid
  omega

end ActualState.Time.Date
