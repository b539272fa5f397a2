/-
Durations without rounding.

The terms of a duration are added up in binary, and every step keeps 53
significant bits.  A magnitude that has no more of them is its own
nearest one (`nearest_short`).  Whole numbers up to 2^53 are such
magnitudes, so while numbers, products and sums stay below this bound
nothing is rounded.  Terms are never negative: it is enough to bound the
last sum, and all that came before is below it (`foldl_whole`).

A spelling is one or more amounts, each digits and a unit, with perhaps
a plus sign in front and blanks around.  Its total is known from the
digits and the units alone.  The main statement (`read_spelling`) is that
a spelling is read as its total, as long as this is at most 2^53.
-/
import RemoteProvision.Proofs.Duration.Grammar
import RemoteProvision.Proofs.Text.Trim

namespace RemoteProvision.Duration

-- =================================================== short magnitudes

theorem shiftLeft_eq_mul (n shift : Nat) :
    n <<< shift = n * 1 <<< shift := by
  rw [Nat.shiftLeft_eq, Nat.one_shiftLeft]

/-- At most 53 significant bits. -/
def Short (units : Nat) : Prop :=
  ∃ significand shift, significand < 1 <<< 53 ∧
    units = significand <<< shift

theorem roundQuotient_mul (q : Nat) {den : Nat} (h : 0 < den) :
    roundQuotient (q * den) den = q := by
  unfold roundQuotient
  rw [Nat.mul_div_cancel q h, Nat.mul_mod_left]
  exact if_pos h

theorem bitLength_le {n bits : Nat} (h : n < 1 <<< bits) :
    bitLength n ≤ bits := by
  unfold bitLength
  split
  · exact Nat.zero_le bits
  · next hn =>
    rw [Nat.one_shiftLeft] at h
    exact (Nat.log2_lt hn).2 h

/-- The bits of a short number that there is no room for are zero. -/
theorem Short.spare_dvd {units : Nat} (h : Short units) :
    1 <<< (bitLength units - 53) ∣ units := by
  obtain ⟨significand, shift, hsignificand, rfl⟩ := h
  have hlength : bitLength (significand <<< shift) ≤ 53 + shift := by
    refine bitLength_le ?_
    rw [Nat.shiftLeft_add, Nat.shiftLeft_eq, Nat.shiftLeft_eq _ shift]
    exact Nat.mul_lt_mul_of_pos_right hsignificand (Nat.two_pow_pos shift)
  have hspare : 1 <<< (bitLength (significand <<< shift) - 53)
      ∣ 1 <<< shift := by
    rw [Nat.one_shiftLeft, Nat.one_shiftLeft]
    exact Nat.pow_dvd_pow 2 (Nat.sub_le_iff_le_add'.2 hlength)
  rw [shiftLeft_eq_mul significand] at hspare ⊢
  exact Nat.dvd_mul_left_of_dvd hspare significand

namespace Magnitude

/-- A short number of least units is its own nearest magnitude. -/
theorem nearest_short {units den : Nat} (hden : 0 < den)
    (hshort : Short units) (hrange : units < one <<< 1024) :
    nearest (units * den) den = .finite units := by
  obtain ⟨significand, hunits⟩ := hshort.spare_dvd
  unfold nearest
  dsimp only
  rw [Nat.mul_div_cancel units hden]
  have hspare : 0 < 1 <<< (bitLength units - 53) := by
    rw [Nat.one_shiftLeft]
    exact Nat.two_pow_pos _
  generalize 1 <<< (bitLength units - 53) = spare at hunits hspare ⊢
  have hquotient : units * den = significand * (den * spare) := by
    rw [hunits, Nat.mul_comm spare, Nat.mul_assoc, Nat.mul_comm spare]
  rw [hquotient, roundQuotient_mul _ (Nat.mul_pos hden hspare),
    Nat.mul_comm significand, ← hunits, if_pos hrange]

-- ====================================================== whole numbers

/-- The largest number up to which all whole numbers are magnitudes. -/
def exactBound : Nat := 1 <<< 53

/-- A whole number as a magnitude. -/
def whole (n : Nat) : Magnitude := .finite (n * one)

variable {a b n factor : Nat}

theorem short_whole (h : n ≤ exactBound) : Short (n * one) := by
  have hshift : n * one = n <<< 1074 := (shiftLeft_eq_mul n 1074).symm
  rw [hshift]
  rcases Nat.lt_or_eq_of_le h with hlt | rfl
  · exact ⟨n, 1074, hlt, rfl⟩
  · exact ⟨1, 53 + 1074, by decide, (Nat.shiftLeft_add 1 53 1074).symm⟩

theorem whole_in_range (h : n ≤ exactBound) :
    n * one < one <<< 1024 := by
  have hbound : exactBound < 1 <<< 1024 := by decide
  rw [shiftLeft_eq_mul one, Nat.mul_comm one]
  exact Nat.mul_lt_mul_of_pos_right (Nat.lt_of_le_of_lt h hbound)
    (by decide)

/-- Whole numbers up to the bound are not rounded. -/
theorem nearest_whole (h : n ≤ exactBound) :
    nearest (n * one) 1 = whole n := by
  have hnearest := nearest_short Nat.one_pos (short_whole h)
    (whole_in_range h)
  rw [Nat.mul_one] at hnearest
  exact hnearest

theorem scale_whole (h : n * factor ≤ exactBound) :
    (whole n).scale factor = whole (n * factor) := by
  show nearest (n * one * factor) 1 = _
  rw [Nat.mul_right_comm]
  exact nearest_whole h

theorem add_whole (h : a + b ≤ exactBound) :
    (whole a).add (whole b) = whole (a + b) := by
  show nearest (a * one + b * one) 1 = _
  rw [← Nat.add_mul]
  exact nearest_whole h

theorem rounded_whole (n : Nat) : rounded (n * one) = n := by
  have hone : 0 < one := by decide
  unfold rounded
  rw [Nat.div_eq_iff (by omega)]
  generalize one = unit at hone ⊢
  constructor
  · rw [Nat.mul_left_comm]
    omega
  · rw [Nat.mul_left_comm]
    omega

theorem ofMagnitude_whole (h : n ≤ exactBound) :
    ofMagnitude (whole n) = .ok ⟨n⟩ := by
  have hrange : ¬ one <<< 64 < n * one := by
    have hbound : exactBound ≤ 1 <<< 64 := by decide
    rw [shiftLeft_eq_mul one, Nat.mul_comm one, Nat.not_lt]
    exact Nat.mul_le_mul_right one (Nat.le_trans h hbound)
  have hlargest : exactBound ≤ largest := by decide
  unfold ofMagnitude whole
  dsimp only
  rw [if_neg hrange, rounded_whole,
    Nat.min_eq_left (Nat.le_trans h hlargest)]

end Magnitude

-- ========================================================= spellings

/-- The units of time; microseconds are written in two ways. -/
inductive TimeUnit where
  | nano
  | micro
  | microSign
  | milli
  | second
  | minute
  | hour

namespace TimeUnit

def name : TimeUnit → String
  | nano => "ns"
  | micro => "us"
  | microSign => "µs"
  | milli => "ms"
  | second => "s"
  | minute => "m"
  | hour => "h"

def nanos : TimeUnit → Nat
  | nano => 1
  | micro => 1000
  | microSign => 1000
  | milli => 1000000
  | second => 1000000000
  | minute => 60 * 1000000000
  | hour => 60 * 60 * 1000000000

theorem unitNanos?_name (u : TimeUnit) :
    unitNanos? u.name = some u.nanos := by
  cases u <;> decide

theorem nanos_pos (u : TimeUnit) : 0 < u.nanos := by
  cases u <;> decide

theorem name_mem (u : TimeUnit) : u.name ∈ units :=
  unitNanos?_isSome_iff.1 (by rw [u.unitNanos?_name]; rfl)

theorem name_noBlank (u : TimeUnit) :
    ∀ c ∈ u.name.toList, Text.isBlank c = false := by
  have hall : (u.name.toList.all fun c => !Text.isBlank c) = true := by
    cases u <;> decide
  intro c hc
  simpa using List.all_eq_true.1 hall c hc

end TimeUnit

/-- A run of digits and a unit. -/
structure Amount where
  digits : List (Fin 10)
  unit : TimeUnit
  digits_ne : digits ≠ []

namespace Amount

/-- The number of an amount. -/
def value (a : Amount) : Nat :=
  a.digits.foldl (fun n (d : Fin 10) => n * 10 + d) 0

def nanos (a : Amount) : Nat := a.value * a.unit.nanos

/-- How an amount is written. -/
def pair (a : Amount) : List Char × String :=
  (a.digits.map fun (d : Fin 10) => Nat.digitChar d, a.unit.name)

end Amount

/-- The total of amounts. -/
def nanosOf : List Amount → Nat
  | [] => 0
  | a :: others => a.nanos + nanosOf others

theorem nanosOf_append (as bs : List Amount) :
    nanosOf (as ++ bs) = nanosOf as + nanosOf bs := by
  induction as with
  | nil => exact (Nat.zero_add _).symm
  | cons a as ih =>
      rw [List.cons_append, nanosOf, nanosOf, ih, Nat.add_assoc]

/-- One or more amounts, with blanks around them and perhaps a plus sign
in front. -/
structure Spelling where
  front : List Char
  plus : Bool
  amounts : List Amount
  back : List Char
  front_blank : Text.AllBlank front
  amounts_ne : amounts ≠ []
  back_blank : Text.AllBlank back

namespace Spelling

/-- What stands between the blanks. -/
def core (s : Spelling) : List Char :=
  (if s.plus then ['+'] else []) ++ written (s.amounts.map Amount.pair)

def text (s : Spelling) : String :=
  String.ofList (s.front ++ s.core ++ s.back)

def nanos (s : Spelling) : Nat := nanosOf s.amounts

/-- The amounts of another spelling put behind. -/
def append (s t : Spelling) : Spelling :=
  { s with
    amounts := s.amounts ++ t.amounts
    amounts_ne := List.append_ne_nil_of_left_ne_nil s.amounts_ne _ }

end Spelling

-- =========================================================== reading

/-- What the reader looks at in a digit. -/
theorem digitChar_digit (d : Fin 10) :
    (Nat.digitChar d).isDigit = true ∧
    (Nat.digitChar d).toNat - 48 = d ∧
    Text.isBlank (Nat.digitChar d) = false := by
  revert d
  decide

variable {as : List Amount}

namespace Amount

variable (a : Amount)

theorem digits_only : ∀ c ∈ a.pair.1, c.isDigit = true := by
  intro c hc
  obtain ⟨d, -, rfl⟩ := List.mem_map.1 hc
  exact (digitChar_digit d).1

theorem no_point : '.' ∉ a.pair.1 := fun hmem =>
  absurd (a.digits_only _ hmem) (by decide)

theorem isPair : IsPair a.pair := by
  obtain ⟨first, others, hdigits⟩ :=
    List.exists_cons_of_ne_nil a.digits_ne
  have hfirst : Nat.digitChar first ∈ a.pair.1 :=
    List.mem_map_of_mem (hdigits ▸ List.mem_cons_self ..)
  exact ⟨⟨fun c hc => .inl (a.digits_only c hc),
    by rw [List.count_eq_zero.2 a.no_point]; exact Nat.zero_le 1,
    _, hfirst, a.digits_only _ hfirst⟩, a.unit.name_mem⟩

theorem digitsValue_number : digitsValue a.pair.1 = a.value := by
  unfold digitsValue pair value
  rw [List.foldl_map]
  simp only [(digitChar_digit _).2.1]

theorem numberOf?_number : numberOf? a.pair.1 = some (a.value, 0) := by
  have hplain : ∀ c ∈ a.pair.1, decide (c ≠ '.') = true := by
    intro c hc
    exact decide_eq_true fun hpoint => a.no_point (hpoint ▸ hc)
  unfold numberOf?
  rw [← List.append_nil a.pair.1, List.takeWhile_append_of_pos hplain,
    List.dropWhile_append_of_pos hplain]
  simp [digitsValue_number]

/-- The term that an amount is read as. -/
def term : Term := ⟨a.value, 0, a.unit.nanos⟩

end Amount

theorem isPair_of_mem {pair : List Char × String}
    (h : pair ∈ as.map Amount.pair) : IsPair pair := by
  obtain ⟨a, -, rfl⟩ := List.mem_map.1 h
  exact a.isPair

/-- All amounts are found. -/
theorem terms_written (as : List Amount) :
    terms (written (as.map Amount.pair)) = .ok (as.map Amount.term) := by
  induction as with
  | nil =>
      rw [List.map_nil, written, List.flatMap_nil, terms]
      rfl
  | cons a as ih =>
      have hfirst : firstTerm (written ((a :: as).map Amount.pair))
          = .ok (a.term, written (as.map Amount.pair)) := by
        rw [List.map_cons, written_cons]
        exact firstTerm_of_pair a.isPair.1
          (endsUnit_written fun _ => isPair_of_mem) a.numberOf?_number
          a.unit.unitNanos?_name
      rw [terms_of_firstTerm hfirst, ih]
      rfl

open Magnitude in
/-- An amount below the bound is a whole number of nanoseconds. -/
theorem magnitude_term {a : Amount} (h : a.nanos ≤ exactBound) :
    a.term.magnitude = whole a.nanos := by
  have hvalue : a.value ≤ exactBound :=
    Nat.le_trans (Nat.le_mul_of_pos_right _ a.unit.nanos_pos) h
  show (nearest (a.value * one) 1).scale a.unit.nanos = _
  rw [nearest_whole hvalue, scale_whole h]
  rfl

open Magnitude in
/-- Sums below the bound are exact from the first term to the last. -/
theorem foldl_whole {sum : Nat} (h : sum + nanosOf as ≤ exactBound) :
    (as.map Amount.term).foldl (fun m t => m.add t.magnitude) (whole sum)
      = whole (sum + nanosOf as) := by
  induction as generalizing sum with
  | nil => rfl
  | cons a as ih =>
      rw [nanosOf, ← Nat.add_assoc] at h ⊢
      have hsum : sum + a.nanos ≤ exactBound :=
        Nat.le_trans (Nat.le_add_right _ _) h
      have hterm : a.nanos ≤ exactBound :=
        Nat.le_trans (Nat.le_add_left _ _) hsum
      rw [List.map_cons, List.foldl_cons, magnitude_term hterm,
        add_whole hsum]
      exact ih h

open Magnitude in
theorem total_whole (h : nanosOf as ≤ exactBound) :
    total (as.map Amount.term) = whole (nanosOf as) := by
  have hzero : Magnitude.zero = whole 0 := by
    rw [whole, Nat.zero_mul]
    rfl
  have hbound : 0 + nanosOf as ≤ exactBound := by rwa [Nat.zero_add]
  rw [total, hzero, foldl_whole hbound, Nat.zero_add]

namespace Spelling

variable (s : Spelling)

/-- The last character belongs to a unit, so a spelling is no number. -/
theorem core_ne_zero : s.core ≠ ['0'] := by
  obtain ⟨a, others, hamounts⟩ :=
    List.exists_cons_of_ne_nil s.amounts_ne
  obtain ⟨hne, hplain⟩ := units_plain a.unit.name_mem
  obtain ⟨c, rest, hunit⟩ := List.exists_cons_of_ne_nil hne
  have hc : c ∈ a.unit.name.toList := hunit ▸ List.mem_cons_self ..
  have hmem : c ∈ s.core := by
    refine List.mem_append_right _ ?_
    rw [hamounts, List.map_cons, written_cons]
    exact List.mem_append_right _ (List.mem_append_left _ hc)
  intro hzero
  rw [hzero, List.mem_singleton] at hmem
  have hnumeric := hplain c hc
  rw [hmem] at hnumeric
  exact absurd hnumeric (by decide)

theorem spelled : Spelled s.core := by
  refine .inr ⟨if s.plus then ['+'] else [], s.amounts.map Amount.pair,
    ?_, ?_, fun _ => isPair_of_mem, rfl⟩
  · cases s.plus with
    | true => exact .inr rfl
    | false => exact .inl rfl
  · exact fun hnil => s.amounts_ne (List.map_eq_nil_iff.1 hnil)

theorem dropPlus_core :
    dropPlus s.core = written (s.amounts.map Amount.pair) := by
  unfold core
  cases s.plus with
  | true => rfl
  | false => exact dropPlus_written fun _ => isPair_of_mem

/-- There are no blanks in numbers and units. -/
theorem core_noBlank : ∀ c ∈ s.core, Text.isBlank c = false := by
  intro c hc
  rcases List.mem_append.1 hc with hplus | hwritten
  · revert hplus
    cases s.plus with
    | true =>
        intro hplus
        rw [List.mem_singleton.1 hplus]
        rfl
    | false => exact nofun
  · obtain ⟨pair, hpair, hc⟩ := List.mem_flatMap.1 hwritten
    obtain ⟨a, -, rfl⟩ := List.mem_map.1 hpair
    rcases List.mem_append.1 hc with hdigit | hunit
    · obtain ⟨d, -, rfl⟩ := List.mem_map.1 hdigit
      exact (digitChar_digit d).2.2
    · exact a.unit.name_noBlank c hunit

theorem trim_text : Text.trim s.text.toList = s.core := by
  rw [text, String.toList_ofList]
  exact Text.trim_eq_iff.2 ⟨s.front, s.back, rfl, s.front_blank,
    s.back_blank,
    fun c hc => s.core_noBlank c (List.mem_of_mem_head? hc),
    fun c hc => s.core_noBlank c (List.mem_of_mem_getLast? hc)⟩

/-- A spelling is read as the sum of its amounts. -/
theorem read_eq_total :
    read s.text = ofMagnitude (total (s.amounts.map Amount.term)) := by
  have hread := read_eq s.trim_text
  split at hread
  · next hnil => exact absurd (.inl (hnil ▸ s.spelled)) not_spelled_nil
  · next hzero => exact absurd hzero s.core_ne_zero
  · next hminus =>
      exact absurd (.inl (hminus ▸ s.spelled)) not_spelled_minus
  · rw [hread, s.dropPlus_core, terms_written]
    rfl

theorem nanos_append (s t : Spelling) :
    (s.append t).nanos = s.nanos + t.nanos :=
  nanosOf_append s.amounts t.amounts

theorem read_text {s : Spelling} (h : s.nanos ≤ Magnitude.exactBound) :
    read s.text = .ok ⟨s.nanos⟩ := by
  rw [s.read_eq_total, total_whole h]
  exact Magnitude.ofMagnitude_whole h

end Spelling

/-- A spelling whose total is at most 2^53 nanoseconds is read as its
total.  So is every other spelling of that total, and when amounts are
put behind that keep the total below the bound, their duration is
added. -/
theorem read_spelling (s : Spelling)
    (h : s.nanos ≤ Magnitude.exactBound) :
    read s.text = .ok ⟨s.nanos⟩ ∧
    (∀ t : Spelling, t.nanos = s.nanos → read t.text = read s.text) ∧
    ∀ t : Spelling, (s.append t).nanos ≤ Magnitude.exactBound →
      ∃ d e, read s.text = .ok d ∧ read t.text = .ok e ∧
        read (s.append t).text = .ok ⟨d.nanos + e.nanos⟩ := by
  have hs := Spelling.read_text h
  refine ⟨hs, ?_, ?_⟩
  · intro t ht
    rw [Spelling.read_text (ht ▸ h), hs, ht]
  · intro t hboth
    have hall := Spelling.read_text hboth
    rw [Spelling.nanos_append] at hboth hall
    have ht := Spelling.read_text
      (Nat.le_trans (Nat.le_add_left t.nanos s.nanos) hboth)
    exact ⟨_, _, hs, ht, hall⟩

-- ----------------------------------------------- the largest exact total

/-- Just the bound, in units of all sizes. -/
def mixedBound : Spelling where
  front := ['\t']
  plus := true
  amounts :=
    [⟨[0, 9, 9, 2], .nano, by decide⟩, ⟨[2, 5, 0, 1], .hour, by decide⟩,
      ⟨[5, 9], .minute, by decide⟩, ⟨[5, 9], .second, by decide⟩,
      ⟨[2, 5, 4], .milli, by decide⟩, ⟨[7, 0, 0], .micro, by decide⟩,
      ⟨[4, 0], .microSign, by decide⟩]
  back := [' ', '\n']
  front_blank := List.all_eq_true.1 rfl
  amounts_ne := List.cons_ne_nil _ _
  back_blank := List.all_eq_true.1 rfl

/-- The bound, counted in nanoseconds. -/
def plainBound : Spelling where
  front := []
  plus := false
  amounts :=
    [⟨[9, 0, 0, 7, 1, 9, 9, 2, 5, 4, 7, 4, 0, 9, 9, 2], .nano,
      by decide⟩]
  back := []
  front_blank := nofun
  amounts_ne := List.cons_ne_nil _ _
  back_blank := nofun

theorem mixedBound_read :
    mixedBound.nanos ≤ Magnitude.exactBound ∧
    read "\t+0992ns2501h59m59s254ms700us40µs \n"
      = .ok ⟨9007199254740992⟩ ∧
    read "9007199254740992ns"
      = read "\t+0992ns2501h59m59s254ms700us40µs \n" := by
  have h : mixedBound.nanos ≤ Magnitude.exactBound := by decide
  have hmixed : mixedBound.text
      = "\t+0992ns2501h59m59s254ms700us40µs \n" := by decide
  have hplain : plainBound.text = "9007199254740992ns" := by decide
  rw [← hmixed, ← hplain]
  have hread := read_spelling mixedBound h
  exact ⟨h, hread.1, hread.2.1 plainBound rfl⟩

end RemoteProvision.Duration
