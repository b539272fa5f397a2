/-
Texts of ASCII characters.

The bytes of an ASCII text are its characters' numbers.  Since any other
character has a byte above these, the bytes tell whether a text is one
(`flatMap_charBytes_iff`).
-/
import RemoteProvision.Text.Utf8

namespace RemoteProvision.Text

/-- Bytes as the characters of their numbers. -/
def asChars (bs : Bytes) : List Char :=
  bs.map fun b => Char.ofNat b.toNat

/-- The number of a byte's character. -/
theorem toNat_asChar (b : UInt8) : (Char.ofNat b.toNat).toNat = b.toNat := by
  have hb : b.toNat < 256 := b.toNat_lt
  rw [Char.ofNat, dif_pos (Or.inl (by omega))]
  rfl

/-- A byte is its character's byte, if that is ASCII. -/
theorem charBytes_asChar {b : UInt8} (h : b.toNat < 128) :
    charBytes (Char.ofNat b.toNat) = [b] := by
  rw [charBytes, toNat_asChar, if_pos h, UInt8.ofNat_toNat]

/-- A character that has only bytes below 128 has one byte, its
number. -/
theorem eq_of_charBytes_lt {c : Char}
    (h : ∀ b ∈ charBytes c, b.toNat < 128) :
    charBytes c = [UInt8.ofNat c.toNat] ∧ c.toNat < 128 := by
  have hc : c.toNat < 0x110000 := by
    rcases c.valid with hlt | ⟨-, hlt⟩
    · exact Nat.lt_trans hlt (by decide)
    · exact hlt
  rw [charBytes] at h ⊢
  split
  · next hlt => exact ⟨rfl, hlt⟩
  · next hge =>
      exfalso
      have hhead : ∀ n, 0xC0 ≤ n → n < 256 →
          ¬ (UInt8.ofNat n).toNat < 128 := by
        intro n hlow hhigh
        rw [UInt8.toNat_ofNat_of_lt' hhigh]
        omega
      rw [if_neg hge] at h
      split at h
      · exact hhead _ (by omega) (by omega) (h _ (List.mem_cons_self ..))
      · split at h
        · exact hhead _ (by omega) (by omega)
            (h _ (List.mem_cons_self ..))
        · exact hhead _ (by omega) (by omega)
            (h _ (List.mem_cons_self ..))

/-- A text has these ASCII bytes if it is made of their characters, and
in no other way. -/
theorem flatMap_charBytes_iff {cs : List Char} {bs : Bytes}
    (h : ∀ b ∈ bs, b.toNat < 128) :
    cs.flatMap charBytes = bs ↔ cs = asChars bs := by
  constructor
  · rintro rfl
    induction cs with
    | nil => rfl
    | cons c cs ih =>
        rw [List.flatMap_cons] at h ⊢
        obtain ⟨hc, hcs⟩ := List.forall_mem_append.1 h
        obtain ⟨hbytes, hlt⟩ := eq_of_charBytes_lt hc
        have hchar : (UInt8.ofNat c.toNat).toNat = c.toNat :=
          UInt8.toNat_ofNat_of_lt' (by show _ < 256; omega)
        rw [hbytes, List.singleton_append]
        show c :: cs = Char.ofNat _ :: asChars _
        rw [hchar, Char.ofNat_toNat, ← ih hcs]
  · rintro rfl
    induction bs with
    | nil => rfl
    | cons b bs ih =>
        obtain ⟨hb, hbs⟩ := List.forall_mem_cons.1 h
        show charBytes (Char.ofNat b.toNat)
          ++ (asChars bs).flatMap charBytes = _
        rw [charBytes_asChar hb, ih hbs]
        rfl

end RemoteProvision.Text
