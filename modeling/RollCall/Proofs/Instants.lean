import RollCall.Proofs.Calendar
import RollCall.Proofs.Digits

set_option autoImplicit false

/-!
The text of an instant reads back as the instant. The instants that can be read are those that the
calendar has.
-/
namespace RollCall.Timestamp

theorem isSpace_of_isDigit {c : Char} (digit : c.isDigit = true) : Text.isSpace c = false := by
  simp only [Char.isDigit, Bool.and_eq_true, decide_eq_true_eq, UInt32.le_iff_toNat_le] at digit
  have low : 48 ≤ c.toNat := digit.1
  have high : c.toNat ≤ 57 := digit.2
  simp only [Text.isSpace, Bool.or_eq_false_iff, Bool.and_eq_false_iff, decide_eq_false_iff_not,
    beq_eq_false_iff_ne]
  omega

theorem skipSpace_cons {c : Char} (solid : Text.isSpace c = false) (rest : List Char) :
    skipSpace (c :: rest) = c :: rest := by
  rw [skipSpace, List.dropWhile_cons_of_neg (by simp [solid])]

theorem mark?_cons {c : Char} (solid : Text.isSpace c = false) (rest : List Char) :
    mark? c (c :: rest) = some rest := by
  rw [mark?, skipSpace_cons solid]
  exact if_pos rfl

/-- A padded number begins with a digit. -/
theorem padded_eq_cons (width n : Nat) :
    ∃ c cs, padded width n = c :: cs ∧ c.isDigit = true := by
  obtain ⟨c, cs, first⟩ := List.exists_cons_of_ne_nil (padded_ne_nil width n)
  exact ⟨c, cs, first, isDigit_of_mem_padded (first ▸ List.mem_cons_self)⟩

theorem spacedNumber?_padded {width n : Nat} (pos : 0 < width) (fits : n < 10 ^ width)
    (rest : List Char) : spacedNumber? width (padded width n ++ rest) = some (n, rest) := by
  obtain ⟨c, cs, first, digit⟩ := padded_eq_cons width n
  have solid : skipSpace (padded width n ++ rest) = padded width n ++ rest := by
    rw [first]
    exact skipSpace_cons (isSpace_of_isDigit digit) _
  rw [spacedNumber?, solid, number?_padded pos fits]

theorem skipSpace_yearText (year : Int) (rest : List Char) :
    skipSpace (yearText year ++ rest) = yearText year ++ rest := by
  unfold yearText
  split
  · obtain ⟨c, cs, first, digit⟩ := padded_eq_cons 4 year.toNat
    rw [first]
    exact skipSpace_cons (isSpace_of_isDigit digit) _
  · split <;> exact skipSpace_cons rfl _

/-- A year has four digits, or a sign and then digits up to the hyphen. -/
theorem year?_yearText (year : Int) (rest : List Char) :
    year? (yearText year ++ '-' :: rest) = some (year, '-' :: rest) := by
  have signed (n : Nat) : number? (padded 4 n ++ '-' :: rest).length (padded 4 n ++ '-' :: rest) =
      some (n, '-' :: rest) := by
    rw [number?_append (fun c => isDigit_of_mem_padded) (padded_ne_nil 4 n)
      (by rw [List.length_append]; omega) (Or.inr fun c first => by cases first; rfl),
      digitsValue_padded]
  unfold yearText
  split
  · rename_i plain
    have read := number?_padded (n := year.toNat) (show 0 < 4 by decide) (by omega) ('-' :: rest)
    have back : ((year.toNat : Nat) : Int) = year := Int.toNat_of_nonneg plain.1
    obtain ⟨c, cs, first, digit⟩ := padded_eq_cons 4 year.toNat
    rw [first] at read ⊢
    unfold year?
    split
    · rename_i same
      cases same
      cases digit
    · rename_i same
      cases same
      cases digit
    · rw [read, Option.map_some, back]
  · split
    · rename_i negative
      have back : -((year.natAbs : Nat) : Int) = year := by omega
      show (number? (padded 4 year.natAbs ++ '-' :: rest).length
        (padded 4 year.natAbs ++ '-' :: rest)).map _ = _
      rw [signed, Option.map_some, back]
    · rename_i positive
      have back : ((year.natAbs : Nat) : Int) = year := by omega
      show (number? (padded 4 year.natAbs ++ '-' :: rest).length
        (padded 4 year.natAbs ++ '-' :: rest)).map _ = _
      rw [signed, Option.map_some, back]

/-- The digits of a fraction stand for as many nanoseconds, however many are written. -/
theorem fraction?_padded {width n : Nat} (pos : 0 < width) (few : width ≤ 9)
    (fits : n < 10 ^ width) :
    fraction? ('.' :: padded width n ++ ['Z']) = some (n * tenTo (9 - width), ['Z']) := by
  have length := length_padded pos fits
  have digits : (((padded width n ++ ['Z']).take 9).takeWhile Char.isDigit) = padded width n :=
    takeWhile_take_append (fun c => isDigit_of_mem_padded) (by rw [length]; exact few)
      (Or.inr fun c first => by cases first; rfl)
  simp only [fraction?, List.cons_append, digits, List.isEmpty_iff, padded_ne_nil, length,
    digitsValue_padded, List.drop_left' length]
  rfl

theorem fraction?_fractionText {nanos : Nat} (fits : nanos < 1000000000) :
    fraction? (fractionText nanos ++ ['Z']) = some (nanos, ['Z']) := by
  unfold fractionText
  split
  · rename_i none
    rw [none]
    rfl
  · split
    · rw [fraction?_padded (by decide) (by decide) (by omega)]
      have back : nanos / 1000000 * tenTo (9 - 3) = nanos := by
        show nanos / 1000000 * 1000000 = nanos
        omega
      rw [back]
    · split
      · rw [fraction?_padded (by decide) (by decide) (by omega)]
        have back : nanos / 1000 * tenTo (9 - 6) = nanos := by
          show nanos / 1000 * 1000 = nanos
          omega
        rw [back]
      · rw [fraction?_padded (by decide) (by decide) (by omega)]
        have back : nanos * tenTo (9 - 9) = nanos := Nat.mul_one nanos
        rw [back]

variable {t : Timestamp}

theorem inCalendar_iff : t.inCalendar = true ↔
    (startOfCalendar ≤ t.seconds ∧ t.seconds < endOfCalendar) ∧
      (t.nanos < 1000000000 ∨ t.nanos < 2000000000 ∧ t.secondOfDay % 60 = 59) := by
  simp only [inCalendar, Bool.and_eq_true, Bool.or_eq_true, decide_eq_true_eq, beq_iff_eq]

/-- The date on which an instant of the calendar falls exists. -/
theorem isValid_date (known : t.inCalendar = true) :
    (Calendar.Date.ofDays (t.seconds.fdiv 86400)).isValid = true := by
  obtain ⟨⟨first, last⟩, -⟩ := inCalendar_iff.1 known
  rw [startOfCalendar] at first
  rw [endOfCalendar] at last
  have days : t.seconds.fdiv 86400 = t.seconds / 86400 := Int.fdiv_eq_ediv_of_nonneg _ (by decide)
  apply Calendar.isValid_ofDays
  · omega
  · omega

theorem parse?_text (known : t.inCalendar = true) : parse? t.text = some t := by
  obtain ⟨-, leap⟩ := inCalendar_iff.1 known
  have valid := isValid_date known
  have counted := Calendar.toDays_ofDays (t.seconds.fdiv 86400)
  have ofDay : t.seconds = t.seconds.fdiv 86400 * 86400 + t.secondOfDay := by
    rw [Int.fdiv_eq_ediv_of_nonneg _ (by decide), secondOfDay]
    show t.seconds = t.seconds / 86400 * 86400 + t.seconds % 86400
    omega
  have day : 0 ≤ t.secondOfDay ∧ t.secondOfDay < 86400 :=
    ⟨Int.emod_nonneg _ (by decide), Int.emod_lt_of_pos _ (by decide)⟩
  have two {n : Nat} (small : n < 100) (rest : List Char) :
      spacedNumber? 2 (padded 2 n ++ rest) = some (n, rest) :=
    spacedNumber?_padded (by decide) small rest
  simp only [parse?, text, String.toList_ofList, print, List.append_assoc, List.cons_append,
    skipSpace_yearText, year?_yearText, timeMark?, bind, Option.bind]
  generalize Calendar.Date.ofDays (t.seconds.fdiv 86400) = date at valid counted ⊢
  generalize t.secondOfDay = second at leap ofDay day ⊢
  have parts := valid
  simp only [Calendar.Date.isValid, Bool.and_eq_true, decide_eq_true_eq] at parts
  have month : date.month < 100 := by omega
  have dayOfMonth : date.day < 100 := by
    have := Calendar.daysInMonth_le date.year date.month
    omega
  obtain ⟨nanos, shown, hnanos⟩ : ∃ nanos, nanos < 1000000000 ∧
      nanos = if 1000000000 ≤ t.nanos then t.nanos - 1000000000 else t.nanos := by
    refine ⟨_, ?_, rfl⟩
    split <;> omega
  obtain ⟨sec, small, hsec⟩ : ∃ sec, sec ≤ 60 ∧
      sec = second.toNat % 60 + (if 1000000000 ≤ t.nanos then 1 else 0) := by
    refine ⟨_, ?_, rfl⟩
    split <;> omega
  rw [← hnanos, ← hsec]
  simp only [mark?_cons (show Text.isSpace '-' = false by decide),
    mark?_cons (show Text.isSpace ':' = false by decide), two month, two dayOfMonth,
    two (show second.toNat / 3600 < 100 by omega),
    two (show second.toNat / 60 % 60 < 100 by omega), two (show sec < 100 by omega),
    fraction?_fractionText shown]
  have zone : zone? (skipSpace ['Z']) = some (0, []) := rfl
  have fits : ¬ 23 < second.toNat / 3600 ∧ ¬ 59 < second.toNat / 60 % 60 ∧ ¬ 60 < sec := by omega
  have leapSecond : sec = 60 ↔ 1000000000 ≤ t.nanos := by
    split at hsec <;> omega
  have ofTime : second.toNat / 3600 * 3600 + second.toNat / 60 % 60 * 60 +
      (if sec = 60 then 59 else sec) = second.toNat := by
    by_cases late : 1000000000 ≤ t.nanos
    · rw [if_pos (leapSecond.2 late)]
      omega
    · rw [if_neg (mt leapSecond.1 late)]
      rw [if_neg late] at hsec
      omega
  have seconds : date.toDays * 86400 + ((second.toNat : Nat) : Int) - 0 = t.seconds := by
    rw [counted, Int.toNat_of_nonneg day.1, Int.sub_zero]
    exact ofDay.symm
  have fraction : (if sec = 60 then nanos + 1000000000 else nanos) = t.nanos := by
    by_cases late : 1000000000 ≤ t.nanos
    · rw [if_pos (leapSecond.2 late), hnanos, if_pos late]
      omega
    · rw [if_neg (mt leapSecond.1 late), hnanos, if_neg late]
  simp only [zone, valid, ofTime, seconds, fraction, fits, known, Bool.not_true, Bool.or_false,
    decide_false, Option.guard, ↓reduceIte]
  rfl

/-- No instant is read that the calendar does not have. -/
theorem inCalendar_of_parse? {s : String} (read : parse? s = some t) : t.inCalendar = true := by
  unfold parse? at read
  obtain ⟨⟨year, cs⟩, -, read⟩ := Option.bind_eq_some_iff.1 read
  obtain ⟨cs, -, read⟩ := Option.bind_eq_some_iff.1 read
  obtain ⟨⟨month, cs⟩, -, read⟩ := Option.bind_eq_some_iff.1 read
  obtain ⟨cs, -, read⟩ := Option.bind_eq_some_iff.1 read
  obtain ⟨⟨day, cs⟩, -, read⟩ := Option.bind_eq_some_iff.1 read
  obtain ⟨cs, -, read⟩ := Option.bind_eq_some_iff.1 read
  obtain ⟨⟨hour, cs⟩, -, read⟩ := Option.bind_eq_some_iff.1 read
  obtain ⟨cs, -, read⟩ := Option.bind_eq_some_iff.1 read
  obtain ⟨⟨minute, cs⟩, -, read⟩ := Option.bind_eq_some_iff.1 read
  obtain ⟨cs, -, read⟩ := Option.bind_eq_some_iff.1 read
  obtain ⟨⟨second, cs⟩, -, read⟩ := Option.bind_eq_some_iff.1 read
  obtain ⟨⟨nanos, cs⟩, -, read⟩ := Option.bind_eq_some_iff.1 read
  obtain ⟨⟨zone, cs⟩, -, read⟩ := Option.bind_eq_some_iff.1 read
  dsimp only at read
  split at read
  · cases read
  · obtain ⟨same, known⟩ := Option.guard_eq_some_iff.1 read
    exact same ▸ known

/-- An instant that is found later in the calendar is an instant of the calendar. -/
theorem inCalendar_of_add? {d : Span} {e : Timestamp} (known : t.inCalendar = true)
    (found : t.add? d = some e) : e.inCalendar = true := by
  obtain ⟨⟨first, -⟩, leap⟩ := inCalendar_iff.1 known
  unfold add? at found
  split at found
  · rename_i last
    cases found
    unfold add at last ⊢
    refine inCalendar_iff.2 ⟨⟨?_, last⟩, ?_⟩
    · split
      · split
        · exact first
        · exact Int.le_trans first (Int.le_add_of_nonneg_right (Int.natCast_nonneg _))
      · exact Int.le_trans first (Int.le_add_of_nonneg_right (Int.natCast_nonneg _))
    · split
      · rename_i late
        split
        · rename_i within
          exact Or.inr ⟨within, (leap.resolve_left (Nat.not_lt.2 late)).2⟩
        · exact Or.inl (Nat.mod_lt _ (by decide))
      · exact Or.inl (Nat.mod_lt _ (by decide))
  · cases found

end RollCall.Timestamp
