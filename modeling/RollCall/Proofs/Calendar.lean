import RollCall.Time.Calendar

set_option autoImplicit false

/-!
The calendar counts days without a gap: every day has a date, which counts back to that day, and the
dates of the days from the first to the last year are dates that exist.
-/
namespace RollCall.Calendar

/-- How a day of a cycle of 400 years falls on a year and a day of it, years beginning in March. -/
structure InCycle (dayOfEra yearOfEra dayOfYear : Int) : Prop where
  count : dayOfEra = yearOfEra * 365 + yearOfEra / 4 - yearOfEra / 100 + dayOfYear
  years : 0 ≤ yearOfEra ∧ yearOfEra ≤ 399
  days : 0 ≤ dayOfYear ∧ dayOfYear ≤ 365
  /-- Only the last year of four has a day more, that of a century only at the end of the cycle. -/
  leap : dayOfYear = 365 → yearOfEra % 4 = 3 ∧ (yearOfEra % 100 = 99 → yearOfEra = 399)

/-- How a day of a year that begins in March falls on a month and a day of it. -/
structure InYear (dayOfYear monthFromMarch day : Int) : Prop where
  count : dayOfYear = (153 * monthFromMarch + 2) / 5 + day - 1
  months : 0 ≤ monthFromMarch ∧ monthFromMarch ≤ 11
  days : 1 ≤ day ∧ (153 * monthFromMarch + 2) / 5 + day ≤ (153 * monthFromMarch + 155) / 5

variable {d : Int}

/-- The year of a day of a cycle, by its century, its four years in it, and its year of these. -/
theorem yearOfEra_parts (nonneg : 0 ≤ d) (lt : d < 146097) :
    ∃ c k j r : Int, (0 ≤ c ∧ c ≤ 3) ∧ (0 ≤ k ∧ k ≤ 24) ∧ (0 ≤ j ∧ j ≤ 3) ∧
      (d - d / 1460 + d / 36524 - d / 146096) / 365 = 100 * c + 4 * k + j ∧
      d = 36524 * c + 1461 * k + 365 * j + r ∧ (0 ≤ r ∧ r ≤ 365) ∧
      (r = 365 → j = 3 ∧ (k = 24 → c = 3)) := by
  by_cases last : d = 146096
  · subst last
    exact ⟨3, 24, 3, 365, by decide⟩
  · obtain ⟨c, century⟩ : ∃ c, c = d / 36524 := ⟨_, rfl⟩
    obtain ⟨k, quad⟩ : ∃ k, k = (d - 36524 * c) / 1461 := ⟨_, rfl⟩
    obtain ⟨e, rest⟩ : ∃ e, e = d - 36524 * c - 1461 * k := ⟨_, rfl⟩
    have early : d / 146096 = 0 := by omega
    have rounded : d / 1460 = 25 * c + k + (24 * c + k + e) / 1460 := by omega
    have hc : 0 ≤ c ∧ c ≤ 3 := by omega
    have hk : 0 ≤ k ∧ k ≤ 24 := by omega
    have he : 0 ≤ e ∧ e ≤ 1460 := by omega
    have whole : k = 24 → e = 1460 → c = 3 := by omega
    rw [early, ← century, rounded]
    clear early rounded century quad
    by_cases leap : e = 1460
    · exact ⟨c, k, 3, 365, hc, hk, by omega, by omega, by omega, by omega, by omega⟩
    · exact ⟨c, k, e / 365, e % 365, hc, hk, by omega, by omega, by omega, by omega, by omega⟩

theorem inCycle_of_lt (nonneg : 0 ≤ d) (lt : d < 146097) {y : Int}
    (year : y = (d - d / 1460 + d / 36524 - d / 146096) / 365) :
    InCycle d y (d - (365 * y + y / 4 - y / 100)) := by
  have quads (c k j : Int) (hj : 0 ≤ j ∧ j ≤ 3) : (100 * c + 4 * k + j) / 4 = 25 * c + k := by omega
  have centuries (c k j : Int) (hk : 0 ≤ k ∧ k ≤ 24) (hj : 0 ≤ j ∧ j ≤ 3) :
      (100 * c + 4 * k + j) / 100 = c := by omega
  obtain ⟨c, k, j, r, hc, hk, hj, parts, days, hr, leap⟩ := yearOfEra_parts nonneg lt
  rw [parts] at year
  subst year
  rw [quads c k j hj, centuries c k j hk hj]
  have dayOfYear : d - (365 * (100 * c + 4 * k + j) + (25 * c + k) - c) = r := by
    clear leap parts
    omega
  rw [dayOfYear]
  refine ⟨?_, ?_, hr, ?_⟩
  · rw [quads c k j hj, centuries c k j hk hj]
    clear leap parts
    omega
  · clear leap parts days
    omega
  · intro last
    obtain ⟨threeth, whole⟩ := leap last
    clear leap parts days
    omega

theorem inYear_of_le (nonneg : 0 ≤ d) (le : d ≤ 365) {m : Int} (month : m = (5 * d + 2) / 153) :
    InYear d m (d - (153 * m + 2) / 5 + 1) :=
  ⟨by omega, by omega, by omega⟩

/-- The date of a day, with the places at which its year and its month put the day. -/
theorem ofDays_spec (days : Int) :
    ∃ era yearOfEra dayOfYear monthFromMarch day : Int,
      InCycle (days + 719468 - era * 146097) yearOfEra dayOfYear ∧
      InYear dayOfYear monthFromMarch day ∧
      (Date.ofDays days).day = day ∧
      ((Date.ofDays days).month : Int) =
        (if monthFromMarch < 10 then monthFromMarch + 3 else monthFromMarch - 9) ∧
      (Date.ofDays days).year =
        yearOfEra + era * 400 + (if monthFromMarch < 10 then 0 else 1) := by
  have era : (days + 719468).fdiv 146097 = (days + 719468) / 146097 :=
    Int.fdiv_eq_ediv_of_nonneg _ (by decide)
  have cycle := inCycle_of_lt (d := days + 719468 - (days + 719468) / 146097 * 146097)
    (by omega) (by omega) rfl
  have year := inYear_of_le cycle.days.1 cycle.days.2 rfl
  refine ⟨(days + 719468) / 146097, _, _, _, _, cycle, year, ?_, ?_, ?_⟩
  · rw [Date.ofDays]
    dsimp only
    rw [era]
    exact Int.toNat_of_nonneg (by have := year.days; omega)
  · rw [Date.ofDays]
    dsimp only
    rw [era]
    have := year.months
    rw [Int.toNat_of_nonneg]
    split <;> omega
  · rw [Date.ofDays]
    dsimp only
    rw [era]
    have := year.months
    congr 1
    split <;> split <;> omega

/-- The date of a day counts back to the day. -/
theorem toDays_ofDays (days : Int) : (Date.ofDays days).toDays = days := by
  obtain ⟨era, y, dayOfYear, m, day, cycle, year, hday, hmonth, hyear⟩ := ofDays_spec days
  obtain ⟨count, years, -, -⟩ := cycle
  obtain ⟨countDays, months, -⟩ := year
  have march : (((Date.ofDays days).month + 9) % 12 : Nat) = m := by
    split at hmonth <;> omega
  have inMarch : (if (Date.ofDays days).month ≤ 2 then (Date.ofDays days).year - 1
      else (Date.ofDays days).year) = y + era * 400 := by
    rw [hyear]
    split at hmonth <;> split <;> omega
  have cycleOf : (y + era * 400).fdiv 400 = era := by
    rw [Int.fdiv_eq_ediv_of_nonneg _ (by decide)]
    omega
  simp only [Date.toDays, inMarch, cycleOf, march, hday]
  omega

theorem isLeap_iff (year : Int) :
    isLeap year = true ↔ year % 4 = 0 ∧ (year % 100 = 0 → year % 400 = 0) := by
  simp only [isLeap, Bool.and_eq_true, Bool.or_eq_true, beq_iff_eq, bne_iff_ne]
  show year % 4 = 0 ∧ (year % 100 ≠ 0 ∨ year % 400 = 0) ↔ _
  omega

theorem daysInMonth_le (year : Int) (month : Nat) : daysInMonth year month ≤ 31 := by
  unfold daysInMonth
  split
  · split <;> decide
  all_goals decide

/-- The months other than February are as long as the count of days has them. -/
theorem daysInMonth_of_ne_february (year : Int) {month : Nat} {m : Int} (months : 0 ≤ m ∧ m ≤ 10)
    (named : (month : Int) = if m < 10 then m + 3 else m - 9) :
    (daysInMonth year month : Int) = (153 * m + 155) / 5 - (153 * m + 2) / 5 := by
  have cases : m = 0 ∨ m = 1 ∨ m = 2 ∨ m = 3 ∨ m = 4 ∨ m = 5 ∨ m = 6 ∨ m = 7 ∨ m = 8 ∨ m = 9 ∨
      m = 10 := by
    clear named
    omega
  obtain rfl : month = (if m < 10 then m + 3 else m - 9).toNat := by
    rw [← named, Int.toNat_natCast]
  rcases cases with rfl | rfl | rfl | rfl | rfl | rfl | rfl | rfl | rfl | rfl | rfl <;> rfl

/-- The dates of the days of the calendar exist. -/
theorem isValid_ofDays {days : Int} (first : Date.toDays ⟨firstYear, 1, 1⟩ ≤ days)
    (last : days < Date.toDays ⟨lastYear + 1, 1, 1⟩) : (Date.ofDays days).isValid = true := by
  obtain ⟨era, y, dayOfYear, m, day, cycle, year, hday, hmonth, hyear⟩ := ofDays_spec days
  obtain ⟨count, years, inYear, leap⟩ := cycle
  obtain ⟨countDays, months, inMonth⟩ := year
  have firstDay : Date.toDays ⟨firstYear, 1, 1⟩ = -96465292 := by decide
  have lastDay : Date.toDays ⟨lastYear + 1, 1, 1⟩ = 95026237 := by decide
  rw [firstDay] at first
  rw [lastDay] at last
  have years : firstYear ≤ (Date.ofDays days).year ∧ (Date.ofDays days).year ≤ lastYear := by
    rw [hyear, firstYear, lastYear]
    clear leap hyear hmonth hday
    have winter : 10 ≤ m ∧ 306 ≤ dayOfYear ∨ m < 10 ∧ dayOfYear < 306 := by omega
    have cycles : -656 ≤ era ∧ era ≤ 655 := by omega
    clear countDays inMonth months
    by_cases outer : era = -656 ∨ era = 655
    · rcases outer with rfl | rfl <;> split <;> omega
    · split <;> omega
  have named : 1 ≤ (Date.ofDays days).month ∧ (Date.ofDays days).month ≤ 12 := by
    clear leap hyear hday
    split at hmonth <;> omega
  have fits : (Date.ofDays days).day ≤
      daysInMonth (Date.ofDays days).year (Date.ofDays days).month := by
    by_cases february : m = 11
    · subst february
      have second : (Date.ofDays days).month = 2 := by omega
      rw [second, daysInMonth]
      split
      · omega
      · rename_i common
        rw [isLeap_iff, hyear] at common
        clear hmonth hyear count first last years named
        omega
    · have length := daysInMonth_of_ne_february (Date.ofDays days).year (by omega) hmonth
      omega
  simp only [Date.isValid, Bool.and_eq_true, decide_eq_true_eq]
  exact ⟨⟨⟨⟨⟨years.1, years.2⟩, named.1⟩, named.2⟩, by omega⟩, fits⟩

end RollCall.Calendar
