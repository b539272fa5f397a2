/-
Texts and their units.

Reading units is the inverse of writing them: a text is read back from
its units (`ofUnits?_units`), and units that are read are the units of
what was read (`units_of_ofUnits?`).  So no two texts have the same
units, and it remains to say which units are those of a text: the ones
in which no surrogate stands alone (`exists_ofUnits?_iff`).

That is said without reading, by place: wherever a high surrogate
stands, a low one stands next, and nowhere else does a low one stand
(`Paired`).  The induction over the reading keeps it, since a pair or a
plain unit at the front only moves all places on.
-/
import RemoteProvision.Encoding.Utf16

namespace RemoteProvision.Encoding

variable {u v : UInt16} {us : List UInt16} {cs : List Char}

-- ======================================================== characters

/-- A number that is a code point but no surrogate is that of its
character. -/
theorem toNat_charOfNat {n : Nat}
    (h : n < 0xD800 ∨ 0xDFFF < n ∧ n < 0x110000) :
    (Char.ofNat n).toNat = n := by
  rw [Char.ofNat, dif_pos h]
  rfl

/-- No character is a surrogate. -/
theorem toNat_lt_or (c : Char) :
    c.toNat < 0xD800 ∨ 0xDFFF < c.toNat ∧ c.toNat < 0x110000 :=
  c.valid

theorem isHighSurrogate_iff :
    isHighSurrogate u = true ↔ 0xD800 ≤ u.toNat ∧ u.toNat ≤ 0xDBFF := by
  rw [isHighSurrogate, Bool.and_eq_true, decide_eq_true_iff,
    decide_eq_true_iff]
  exact Iff.rfl

theorem isLowSurrogate_iff :
    isLowSurrogate u = true ↔ 0xDC00 ≤ u.toNat ∧ u.toNat ≤ 0xDFFF := by
  rw [isLowSurrogate, Bool.and_eq_true, decide_eq_true_iff,
    decide_eq_true_iff]
  exact Iff.rfl

/-- No unit is both halves of a pair. -/
theorem isLowSurrogate_of_high (h : isHighSurrogate u = true) :
    isLowSurrogate u = false := by
  rw [isHighSurrogate_iff] at h
  rw [← Bool.not_eq_true, isLowSurrogate_iff]
  omega

/-- The code point of a pair. -/
theorem toNat_pairChar (hu : isHighSurrogate u = true)
    (hv : isLowSurrogate v = true) :
    (pairChar u v).toNat
      = 0x10000 + (u.toNat - 0xD800) * 1024 + (v.toNat - 0xDC00) := by
  rw [isHighSurrogate_iff] at hu
  rw [isLowSurrogate_iff] at hv
  exact toNat_charOfNat (by omega)

/-- The units of a pair are the pair. -/
theorem charUnits_pairChar (hu : isHighSurrogate u = true)
    (hv : isLowSurrogate v = true) :
    charUnits (pairChar u v) = [u, v] := by
  have hcode := toNat_pairChar hu hv
  rw [isHighSurrogate_iff] at hu
  rw [isLowSurrogate_iff] at hv
  have hhigh : 0xD800 + ((pairChar u v).toNat - 0x10000) / 1024
      = u.toNat := by omega
  have hlow : 0xDC00 + ((pairChar u v).toNat - 0x10000) % 1024
      = v.toNat := by omega
  rw [charUnits, if_neg (by omega), hhigh, hlow, UInt16.ofNat_toNat,
    UInt16.ofNat_toNat]

/-- The unit of a character that needs no pair. -/
theorem charUnits_charOfNat (hu : isHighSurrogate u = false)
    (hv : isLowSurrogate u = false) :
    charUnits (Char.ofNat u.toNat) = [u] := by
  have hlt : u.toNat < 0x10000 := u.toNat_lt
  rw [← Bool.not_eq_true, isHighSurrogate_iff] at hu
  rw [← Bool.not_eq_true, isLowSurrogate_iff] at hv
  rw [charUnits, toNat_charOfNat (by omega), if_pos hlt,
    UInt16.ofNat_toNat]

-- =============================================== the cases of reading

theorem ofUnits?_pair (hu : isHighSurrogate u = true)
    (hv : isLowSurrogate v = true) :
    ofUnits? (u :: v :: us) = (ofUnits? us).map (pairChar u v :: ·) := by
  rw [ofUnits?, if_pos hu]
  exact if_pos hv

theorem ofUnits?_plain (hu : isHighSurrogate u = false)
    (hv : isLowSurrogate u = false) :
    ofUnits? (u :: us)
      = (ofUnits? us).map (Char.ofNat u.toNat :: ·) := by
  rw [ofUnits?.eq_def]
  show (if isHighSurrogate u = true then _ else _) = _
  rw [if_neg (Bool.not_eq_true _ ▸ hu), if_neg (Bool.not_eq_true _ ▸ hv)]

-- ======================================================== round trips

/-- The units of a character are read as that character. -/
theorem ofUnits?_charUnits (c : Char) (us : List UInt16) :
    ofUnits? (charUnits c ++ us) = (ofUnits? us).map (c :: ·) := by
  have hc := toNat_lt_or c
  rw [charUnits]
  split
  · next hlt =>
      have hunit : (UInt16.ofNat c.toNat).toNat = c.toNat :=
        UInt16.toNat_ofNat_of_lt' hlt
      have hhigh : isHighSurrogate (UInt16.ofNat c.toNat) = false := by
        rw [← Bool.not_eq_true, isHighSurrogate_iff, hunit]
        omega
      have hlow : isLowSurrogate (UInt16.ofNat c.toNat) = false := by
        rw [← Bool.not_eq_true, isLowSurrogate_iff, hunit]
        omega
      rw [List.singleton_append, ofUnits?_plain hhigh hlow, hunit,
        Char.ofNat_toNat]
  · next hge =>
      have hfirst : (UInt16.ofNat
          (0xD800 + (c.toNat - 0x10000) / 1024)).toNat
          = 0xD800 + (c.toNat - 0x10000) / 1024 :=
        UInt16.toNat_ofNat_of_lt' (by show _ < 0x10000; omega)
      have hsecond : (UInt16.ofNat
          (0xDC00 + (c.toNat - 0x10000) % 1024)).toNat
          = 0xDC00 + (c.toNat - 0x10000) % 1024 :=
        UInt16.toNat_ofNat_of_lt' (by show _ < 0x10000; omega)
      have hhigh := isHighSurrogate_iff.2
        (show 0xD800 ≤ _ ∧ _ ≤ 0xDBFF by rw [hfirst]; omega)
      have hlow := isLowSurrogate_iff.2
        (show 0xDC00 ≤ _ ∧ _ ≤ 0xDFFF by rw [hsecond]; omega)
      have hpair := toNat_pairChar hhigh hlow
      rw [hfirst, hsecond] at hpair
      have hchar : pairChar
          (UInt16.ofNat (0xD800 + (c.toNat - 0x10000) / 1024))
          (UInt16.ofNat (0xDC00 + (c.toNat - 0x10000) % 1024)) = c := by
        rw [← Char.toNat_inj, hpair]
        omega
      rw [List.cons_append, List.singleton_append,
        ofUnits?_pair hhigh hlow, hchar]

/-- A text is read back from its units. -/
theorem ofUnits?_units (cs : List Char) :
    ofUnits? (units cs) = some cs := by
  induction cs with
  | nil => rfl
  | cons c cs ih =>
      show ofUnits? (charUnits c ++ units cs) = _
      rw [ofUnits?_charUnits, ih]
      rfl

/-- What is read has the units that it was read from. -/
theorem units_of_ofUnits? (h : ofUnits? us = some cs) :
    units cs = us := by
  fun_induction ofUnits? us generalizing cs with
  | case1 => cases h; rfl
  | case2 => cases h
  | case3 u hu v us hv ih =>
      obtain ⟨cs, hcs, rfl⟩ := Option.map_eq_some_iff.1 h
      show charUnits (pairChar u v) ++ units cs = _
      rw [charUnits_pairChar hu hv, ih hcs]
      rfl
  | case4 => cases h
  | case5 => cases h
  | case6 u us hu hv ih =>
      obtain ⟨cs, hcs, rfl⟩ := Option.map_eq_some_iff.1 h
      show charUnits (Char.ofNat u.toNat) ++ units cs = _
      rw [charUnits_charOfNat (eq_false_of_ne_true hu)
        (eq_false_of_ne_true hv), ih hcs]
      rfl

-- =================================================== lone surrogates

/-- A high surrogate stands at a place. -/
def HighAt (us : List UInt16) (i : Nat) : Prop :=
  ∃ u, us[i]? = some u ∧ isHighSurrogate u = true

/-- A low surrogate stands at a place. -/
def LowAt (us : List UInt16) (i : Nat) : Prop :=
  ∃ u, us[i]? = some u ∧ isLowSurrogate u = true

/-- No surrogate stands alone: each high one has a low one right behind
it, and each low one has a high one right before it. -/
def Paired (us : List UInt16) : Prop :=
  ¬ LowAt us 0 ∧ ∀ i, HighAt us i ↔ LowAt us (i + 1)

theorem highAt_zero : HighAt (u :: us) 0 ↔ isHighSurrogate u = true := by
  simp [HighAt]

theorem lowAt_zero : LowAt (u :: us) 0 ↔ isLowSurrogate u = true := by
  simp [LowAt]

theorem highAt_succ {i : Nat} :
    HighAt (u :: us) (i + 1) ↔ HighAt us i := Iff.rfl

theorem lowAt_succ {i : Nat} :
    LowAt (u :: us) (i + 1) ↔ LowAt us i := Iff.rfl

/-- A plain unit at the front changes nothing. -/
theorem paired_plain (hu : isHighSurrogate u = false)
    (hv : isLowSurrogate u = false) :
    Paired (u :: us) ↔ Paired us := by
  constructor
  · rintro ⟨-, hpairs⟩
    refine ⟨fun hlow => ?_, fun i => hpairs (i + 1)⟩
    have hhigh := highAt_zero.1 ((hpairs 0).2 hlow)
    rw [hu] at hhigh
    cases hhigh
  · rintro ⟨hfirst, hpairs⟩
    refine ⟨?_, fun i => ?_⟩
    · rw [lowAt_zero, hv]
      exact nofun
    · cases i with
      | zero => simpa [highAt_zero, lowAt_succ, hu] using hfirst
      | succ i => exact hpairs i

/-- A pair at the front changes nothing. -/
theorem paired_pair (hu : isHighSurrogate u = true)
    (hv : isLowSurrogate v = true) :
    Paired (u :: v :: us) ↔ Paired us := by
  have hu' : isLowSurrogate u = false := isLowSurrogate_of_high hu
  have hv' : isHighSurrogate v = false := by
    cases hcase : isHighSurrogate v with
    | false => rfl
    | true =>
        rw [isLowSurrogate_of_high hcase] at hv
        cases hv
  constructor
  · rintro ⟨-, hpairs⟩
    refine ⟨fun hlow => ?_, fun i => hpairs (i + 2)⟩
    have hat : HighAt (v :: us) 0 := (hpairs 1).2 hlow
    have hhigh := highAt_zero.1 hat
    rw [hv'] at hhigh
    cases hhigh
  · rintro ⟨hfirst, hpairs⟩
    refine ⟨?_, fun i => ?_⟩
    · rw [lowAt_zero, hu']
      exact nofun
    · match i with
      | 0 => simp [highAt_zero, lowAt_succ, lowAt_zero, hu, hv]
      | 1 =>
          simpa [highAt_succ, highAt_zero, lowAt_succ, hv'] using hfirst
      | i + 2 => exact hpairs i

/-- A high surrogate at the front needs a low one behind it. -/
theorem Paired.behind_high (h : Paired (u :: us))
    (hu : isHighSurrogate u = true) :
    ∃ v us', us = v :: us' ∧ isLowSurrogate v = true := by
  obtain ⟨v, hv, hlow⟩ := (h.2 0).1 (highAt_zero.2 hu)
  cases us with
  | nil => cases hv
  | cons v' us' =>
      cases hv
      exact ⟨v, us', rfl, hlow⟩

/-- The units that can be read are those in which no surrogate stands
alone. -/
theorem exists_ofUnits?_iff (us : List UInt16) :
    (∃ cs, ofUnits? us = some cs) ↔ Paired us := by
  have hmap : ∀ {o : Option (List Char)} {c : Char},
      (∃ cs, o.map (c :: ·) = some cs) ↔ ∃ cs, o = some cs := by
    intro o c
    cases o <;> simp
  fun_induction ofUnits? us with
  | case1 =>
      refine ⟨fun _ => ⟨nofun, fun i => ⟨nofun, nofun⟩⟩, fun _ => ⟨[], rfl⟩⟩
  | case2 u hu =>
      refine ⟨nofun, fun h => ?_⟩
      obtain ⟨_, _, hnil, -⟩ := h.behind_high hu
      cases hnil
  | case3 u hu v us hv ih =>
      exact hmap.trans (ih.trans (paired_pair hu hv).symm)
  | case4 u hu v us hv =>
      refine ⟨nofun, fun h => ?_⟩
      obtain ⟨_, _, hcons, hlow⟩ := h.behind_high hu
      cases hcons
      exact absurd hlow hv
  | case5 u us hu hv =>
      exact ⟨nofun, fun h => absurd (lowAt_zero.2 hv) h.1⟩
  | case6 u us hu hv ih =>
      exact hmap.trans (ih.trans (paired_plain (eq_false_of_ne_true hu)
        (eq_false_of_ne_true hv)).symm)

-- ============================================================= bytes

/-- Units are read back from their bytes. -/
theorem ofUnitBytes_unitBytes (us : List UInt16) :
    ofUnitBytes (unitBytes us) = us := by
  induction us with
  | nil => rfl
  | cons u us ih =>
      show UInt16.ofNat _ :: ofUnitBytes (unitBytes us) = _
      have hlt : u.toNat < 0x10000 := u.toNat_lt
      have hlow : (UInt8.ofNat (u.toNat % 256)).toNat = u.toNat % 256 :=
        UInt8.toNat_ofNat_of_lt' (by show _ < 256; omega)
      have hhigh : (UInt8.ofNat (u.toNat / 256)).toNat = u.toNat / 256 :=
        UInt8.toNat_ofNat_of_lt' (by show _ < 256; omega)
      rw [ih, hlow, hhigh, Nat.mod_add_div, UInt16.ofNat_toNat]

/-- An even number of bytes is that of its units. -/
theorem unitBytes_ofUnitBytes {bytes : List UInt8}
    (h : bytes.length % 2 = 0) : unitBytes (ofUnitBytes bytes) = bytes := by
  fun_induction ofUnitBytes bytes with
  | case1 low high rest ih =>
      simp only [List.length_cons] at h
      show UInt8.ofNat _ :: UInt8.ofNat _
        :: unitBytes (ofUnitBytes rest) = _
      have hlow : low.toNat < 256 := low.toNat_lt
      have hhigh : high.toNat < 256 := high.toNat_lt
      have hunit : (UInt16.ofNat (low.toNat + 256 * high.toNat)).toNat
          = low.toNat + 256 * high.toNat :=
        UInt16.toNat_ofNat_of_lt' (by show _ < 0x10000; omega)
      have hfirst : (low.toNat + 256 * high.toNat) % 256 = low.toNat := by
        omega
      have hsecond : (low.toNat + 256 * high.toNat) / 256
          = high.toNat := by
        omega
      rw [ih (by omega), hunit, hfirst, hsecond, UInt8.ofNat_toNat,
        UInt8.ofNat_toNat]
  | case2 bytes hshort =>
      match bytes with
      | [] => rfl
      | [_] => cases h
      | low :: high :: rest => exact absurd rfl (hshort low high rest)

/-- There are twice as many bytes as units. -/
theorem length_unitBytes (us : List UInt16) :
    (unitBytes us).length = 2 * us.length := by
  induction us with
  | nil => rfl
  | cons u us ih =>
      show (_ :: _ :: unitBytes us).length = _
      simp only [List.length_cons, ih]
      omega

end RemoteProvision.Encoding
