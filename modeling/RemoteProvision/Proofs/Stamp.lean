/-
Stamps are read back.

A number that has a fixed number of digits is read by that number.  The
year and the fraction are read up to what is no digit.  So every part is
read back in front of anything, these two in front of what does not begin
with a digit, and a stamp is read back part by part (`read?_text`).
-/
import RemoteProvision.Stamp
import Mathlib.Algebra.Group.Nat.Defs

namespace RemoteProvision

open Duration (digitsValue)

namespace Stamp

variable {least n : Nat} {cs rest : List Char} {c : Char}

-- ============================================================== digits

theorem digitsValue_eq (cs : List Char) :
    digitsValue cs = Nat.ofDigitChars 10 cs 0 := by
  rw [digitsValue, Nat.ofDigitChars_eq_foldl]
  congr 1
  funext value c
  rw [Nat.mul_comm]
  rfl

theorem isDigit_digits (hc : c ∈ digits least n) : c.isDigit = true := by
  rw [digits, List.leftpad] at hc
  rcases List.mem_append.1 hc with hc | hc
  · rw [List.eq_of_mem_replicate hc]
    rfl
  · exact Nat.isDigit_of_mem_toDigits (by decide) (by decide) hc

theorem digits_ne_nil (least n : Nat) : digits least n ≠ [] := by
  rw [digits, List.leftpad]
  exact List.append_ne_nil_of_right_ne_nil _ Nat.toDigits_ne_nil

/-- Zeros in front of digits do not count, and behind them each counts
ten times. -/
theorem digitsValue_digits (least n places : Nat) :
    digitsValue (digits least n ++ List.replicate places '0')
      = n * 10 ^ places := by
  rw [digitsValue_eq, digits, List.leftpad, Nat.ofDigitChars_append,
    Nat.ofDigitChars_append, Nat.ofDigitChars_replicate_zero,
    Nat.ofDigitChars_replicate_zero, Nat.mul_zero,
    Nat.ofDigitChars_toDigits (by decide) (by decide), Nat.mul_comm]

theorem digitsValue_alone (least n : Nat) :
    digitsValue (digits least n) = n := by
  have hvalue := digitsValue_digits least n 0
  rwa [List.replicate_zero, List.append_nil, Nat.pow_zero,
    Nat.mul_one] at hvalue

/-- No more digits than asked for, if these are enough. -/
theorem length_digits (hpos : 0 < least) (hn : n < 10 ^ least) :
    (digits least n).length = least := by
  have hlength := (Nat.length_toDigits_le_iff (b := 10) (by decide) hpos).2 hn
  rw [digits, List.leftpad, List.length_append, List.length_replicate]
  omega

theorem isBlank_digit (hc : c.isDigit = true) :
    Text.isBlank c = false := by
  have hrange : 48 ≤ c.toNat ∧ c.toNat ≤ 57 := by
    simpa [Char.isDigit, UInt32.le_iff_toNat_le] using hc
  simp only [Text.isBlank]
  grind

/-- What digits begin with is one of them. -/
theorem isDigit_front (h : digits least n ++ rest = c :: cs) :
    c.isDigit = true := by
  obtain ⟨d, more, hdigits⟩ :=
    List.exists_cons_of_ne_nil (digits_ne_nil least n)
  have hd : d.isDigit = true :=
    isDigit_digits (hdigits ▸ List.mem_cons_self)
  rw [hdigits] at h
  exact (List.cons.inj h).1 ▸ hd

theorem trimStart_cons (h : Text.isBlank c = false) (rest : List Char) :
    Text.trimStart (c :: rest) = c :: rest := by
  rw [Text.trimStart, List.dropWhile_cons, h]
  rfl

/-- No blank is in front of digits. -/
theorem trimStart_digits (rest : List Char) :
    Text.trimStart (digits least n ++ rest) = digits least n ++ rest := by
  cases hdigits : digits least n ++ rest with
  | nil => rfl
  | cons c cs => exact trimStart_cons (isBlank_digit (isDigit_front hdigits)) cs

-- =============================================================== parts

open Moment

/-- Digits are read up to what is no digit. -/
theorem takeWhile_digits (least n : Nat)
    (hrest : ∀ c ∈ rest.head?, c.isDigit = false) :
    (digits least n ++ rest).takeWhile Char.isDigit = digits least n ∧
      (digits least n ++ rest).dropWhile Char.isDigit = rest := by
  have hdigits : ∀ c ∈ digits least n, c.isDigit = true :=
    fun _ => isDigit_digits
  rw [List.takeWhile_append_of_pos hdigits,
    List.dropWhile_append_of_pos hdigits]
  cases rest with
  | nil => exact ⟨List.append_nil _, rfl⟩
  | cons c rest =>
      have hc := hrest c rfl
      rw [List.takeWhile_cons, List.dropWhile_cons, hc]
      exact ⟨List.append_nil _, rfl⟩

/-- A number with as many digits as are asked for is read. -/
theorem readNumber_digits {count : Nat} (hpos : 0 < count)
    (hn : n < 10 ^ count) (rest : List Char) :
    readNumber count (digits count n ++ rest) = some (n, rest) := by
  have hlength := length_digits hpos hn
  have hnone : ∀ c ∈ ([] : List Char).head?, c.isDigit = false := nofun
  have hall := (takeWhile_digits count n hnone).1
  rw [List.append_nil] at hall
  rw [readNumber, trimStart_digits, List.take_left' hlength, hall]
  split
  · next hnil => exact absurd hnil (digits_ne_nil _ _)
  · rw [digitsValue_alone, hlength, List.drop_left' hlength]

theorem readMark_cons {mark : Char} (h : Text.isBlank mark = false)
    (rest : List Char) : readMark mark (mark :: rest) = some rest := by
  rw [readMark, trimStart_cons h]
  exact if_pos rfl

/-- A year is read up to what is no digit. -/
theorem readYear_yearText (year : Int)
    (hrest : ∀ c ∈ rest.head?, c.isDigit = false) :
    readYear (yearText year ++ rest) = some (year, rest) := by
  obtain ⟨htake, hdrop⟩ := takeWhile_digits 4 year.natAbs hrest
  have hvalue := digitsValue_alone 4 year.natAbs
  rw [yearText]
  split
  · next hfour =>
      have hyear : (year.natAbs : Int) = year := by omega
      rw [readYear, trimStart_digits]
      split
      · next hsign => exact absurd (isDigit_front hsign) (by decide)
      · next hsign => exact absurd (isDigit_front hsign) (by decide)
      · rw [readNumber_digits (by decide) (by omega)]
        exact congrArg (fun y => some (y, rest)) hyear
  · next hfour =>
      rw [List.cons_append]
      split
      · next hbefore =>
          have hyear : -(year.natAbs : Int) = year := by omega
          rw [readYear, trimStart_cons rfl]
          simp only [htake, hdrop]
          split
          · next hnil => exact absurd hnil (digits_ne_nil _ _)
          · rw [hvalue]
            exact congrArg (fun y => some (y, rest)) hyear
      · next hbefore =>
          have hyear : (year.natAbs : Int) = year := by omega
          rw [readYear, trimStart_cons rfl]
          simp only [htake, hdrop]
          split
          · next hnil => exact absurd hnil (digits_ne_nil _ _)
          · rw [hvalue]
            exact congrArg (fun y => some (y, rest)) hyear

/-- Behind a point, digits are read as the nanoseconds they stand for. -/
theorem readFraction_digits {count : Nat} (hpos : 0 < count)
    (hn : n < 10 ^ count) (hcount : count ≤ 9)
    (hrest : ∀ c ∈ rest.head?, c.isDigit = false) :
    readFraction ('.' :: (digits count n ++ rest))
      = some (n * 10 ^ (9 - count), rest) := by
  obtain ⟨htake, hdrop⟩ := takeWhile_digits count n hrest
  have hlength := length_digits hpos hn
  have hnine : (digits count n ++ List.replicate 9 '0').take 9
      = digits count n ++ List.replicate (9 - count) '0' := by
    rw [List.take_append, hlength, List.take_of_length_le (by omega),
      List.take_replicate, Nat.min_eq_left (Nat.sub_le 9 count)]
  rw [readFraction, htake, hdrop]
  split
  · next hnil => exact absurd hnil (digits_ne_nil _ _)
  · simp only [hnine, digitsValue_digits]

/-- A fraction is read up to what is no digit. -/
theorem readFraction_fractionText {nanos : Nat}
    (hnanos : nanos < 1000000000)
    (hrest : ∀ c ∈ rest.head?, c.isDigit = false ∧ c ≠ '.') :
    readFraction (fractionText nanos ++ rest) = some (nanos, rest) := by
  have hdigit : ∀ c ∈ rest.head?, c.isDigit = false :=
    fun c hc => (hrest c hc).1
  rw [fractionText]
  split
  · next hnone =>
      subst hnone
      cases rest with
      | nil => rfl
      | cons c rest =>
          have hpoint := (hrest c rfl).2
          rw [List.nil_append, readFraction]
          rintro more heq
          exact hpoint (List.cons.inj heq).1
  split
  · rw [List.cons_append,
      readFraction_digits (by decide) (by omega) (by decide) hdigit]
    congr 2
    omega
  split
  · rw [List.cons_append,
      readFraction_digits (by decide) (by omega) (by decide) hdigit]
    congr 2
    omega
  · rw [List.cons_append,
      readFraction_digits (by decide) (by omega) (by decide) hdigit]
    congr 2
    omega

-- ============================================================== stamps

theorem monthLength_le (year : Int) (month : Nat) :
    Day.monthLength year month ≤ 31 := by
  unfold Day.monthLength
  generalize Day.isLeap year = leap
  cases leap
  all_goals
    split
    all_goals decide

theorem month_le {year : Int} {month : Nat}
    (h : 0 < Day.monthLength year month) : month ≤ 12 := by
  unfold Day.monthLength at h
  split at h
  all_goals omega

/-- The numbers in a real moment have two digits at most, but for the
year and the fraction. -/
theorem bounds {m : Moment} (h : m.isReal = true) :
    m.day.month < 100 ∧ m.day.day < 100 ∧ m.hour < 100 ∧
      m.minute < 100 ∧ m.second < 100 := by
  simp only [Moment.isReal, Day.isReal, Bool.and_eq_true,
    decide_eq_true_iff] at h
  obtain ⟨⟨⟨⟨⟨⟨⟨-, hfirst⟩, hlast⟩, hhour⟩, hminute⟩, hsecond⟩, -⟩, -⟩ := h
  have hlength := monthLength_le m.day.year m.day.month
  have hmonth := month_le (Nat.lt_of_lt_of_le hfirst hlast)
  omega

theorem readDay_text {d : Day} (hmonth : d.month < 100)
    (hday : d.day < 100) (rest : List Char) :
    readDay (yearText d.year ++ '-' :: (digits 2 d.month
      ++ '-' :: (digits 2 d.day ++ rest))) = some (d, rest) := by
  have hdash : ∀ {rest : List Char}, ∀ c ∈ ('-' :: rest).head?,
      c.isDigit = false := fun c hc => by cases hc; rfl
  rw [readDay, readYear_yearText d.year hdash]
  simp only [Option.bind_eq_bind, Option.bind_some]
  rw [readMark_cons rfl, Option.bind_some,
    readNumber_digits (by decide) hmonth, Option.bind_some,
    readMark_cons rfl, Option.bind_some,
    readNumber_digits (by decide) hday]
  rfl

/-- A stamp is read back. -/
theorem read?_text (stamp : Stamp) :
    Moment.read? stamp.text = some stamp.moment := by
  obtain ⟨m, hreal, hahead, hnanos⟩ := stamp
  obtain ⟨hmonth, hday, hhour, hminute, hsecond⟩ := bounds hreal
  have hend : ∀ c ∈ ['Z'].head?, c.isDigit = false ∧ c ≠ '.' :=
    fun c hc => by cases hc; decide
  have hparts : readParts (text ⟨m, hreal, hahead, hnanos⟩).toList
      = some ({ m with ahead := 0 }, []) := by
    rw [text, String.toList_ofList, readParts]
    simp only [List.append_assoc, List.cons_append, Option.bind_eq_bind]
    rw [readDay_text hmonth hday, Option.bind_some, readSeparator,
      Option.bind_some, readNumber_digits (by decide) hhour,
      Option.bind_some, readMark_cons rfl, Option.bind_some,
      readNumber_digits (by decide) hminute, Option.bind_some,
      readMark_cons rfl, Option.bind_some,
      readNumber_digits (by decide) hsecond, Option.bind_some,
      readFraction_fractionText hnanos hend, Option.bind_some]
    rfl
  rw [Moment.read?, hparts, ← hahead]
  exact if_pos ⟨hreal, rfl⟩

example :
    (of? ⟨⟨2026, 1, 1⟩, 12, 0, 0, 500000000, 0⟩).map text
      = some "2026-01-01T12:00:00.500Z" := by
  decide

end Stamp

end RemoteProvision
