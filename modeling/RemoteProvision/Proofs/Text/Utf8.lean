/-
The bytes of characters, and one step of reading them.

A lead byte announces how many bytes there are in all, and what may stand
behind it is told place by place (`Fits`).  The bytes of characters are
just those in which everything announced is there and fits
(`exists_charBytes_iff`), and they spell the code point, so no two
characters have the same bytes.

One step of the reader can then be said in three cases (`Takes`): a
character is taken off, or a byte that begins none, or the bytes that fit
up to where they break off.  These cases leave no choice
(`Takes.unique`), so what the reader takes off is known as soon as one of
them is shown (`takeChar_eq_iff`).
-/
import RemoteProvision.Proofs.Encoding.Utf16
import RemoteProvision.Proofs.Text.Ascii

namespace RemoteProvision.Text

open RemoteProvision.Encoding (toNat_charOfNat toNat_lt_or)

variable {lead b : UInt8} {more rest bs : Bytes} {c : Char}

-- ============================================================== bytes

theorem isContinuation_iff :
    isContinuation b = true ↔ 128 ≤ b.toNat ∧ b.toNat ≤ 191 := by
  rw [isContinuation, Bool.and_eq_true, decide_eq_true_iff,
    decide_eq_true_iff]
  exact Iff.rfl

/-- A second byte continues, within what its lead byte admits. -/
theorem admitsSecond_iff :
    admitsSecond lead b = true ↔ 128 ≤ b.toNat ∧ b.toNat ≤ 191 ∧
      (lead.toNat = 224 → 160 ≤ b.toNat) ∧
      (lead.toNat = 237 → b.toNat ≤ 159) ∧
      (lead.toNat = 240 → 144 ≤ b.toNat) ∧
      (lead.toNat = 244 → b.toNat ≤ 143) := by
  unfold admitsSecond
  simp only [isContinuation, beq_iff_eq, ← UInt8.toNat_inj,
    UInt8.le_iff_toNat_le, Bool.ite_eq_true_distrib, Bool.and_eq_true,
    decide_eq_true_iff, UInt8.reduceToNat]
  split
  · omega
  · split
    · omega
    · split
      · omega
      · split <;> omega

/-- How many bytes a lead byte announces, by its number. -/
theorem announced_cases (lead : UInt8) :
    announced lead = 1 ∧ lead.toNat < 128 ∨
    announced lead = 2 ∧ 194 ≤ lead.toNat ∧ lead.toNat ≤ 223 ∨
    announced lead = 3 ∧ 224 ≤ lead.toNat ∧ lead.toNat ≤ 239 ∨
    announced lead = 4 ∧ 240 ≤ lead.toNat ∧ lead.toNat ≤ 244 ∨
    announced lead = 0 ∧ 128 ≤ lead.toNat ∧
      (lead.toNat < 194 ∨ 244 < lead.toNat) := by
  unfold announced
  simp only [UInt8.lt_iff_toNat_lt, UInt8.le_iff_toNat_le,
    Bool.and_eq_true, decide_eq_true_iff, UInt8.reduceToNat]
  split
  · omega
  · split
    · omega
    · split
      · omega
      · split <;> omega

/-- Bytes that may stand behind a lead byte. -/
def Fits (lead : UInt8) : Bytes → Prop
  | [] => True
  | b :: more =>
    admitsSecond lead b = true ∧ ∀ d ∈ more, isContinuation d = true

/-- All that a lead byte announces stands behind it. -/
structure Complete (lead : UInt8) (more : Bytes) : Prop where
  length : more.length + 1 = announced lead
  fits : Fits lead more

theorem Fits.append_left {behind : Bytes} (h : Fits lead (more ++ behind)) :
    Fits lead more := by
  cases more with
  | nil => trivial
  | cons b more =>
      exact ⟨h.1, fun d hd => h.2 d (List.mem_append_left _ hd)⟩

-- ========================================================= characters

/-- The code point that the bytes of a character spell. -/
def codePoint : Bytes → Nat
  | [a] => a.toNat
  | [a, b] => (a.toNat - 0xC0) * 64 + payload b
  | [a, b, c] => (a.toNat - 0xE0) * 4096 + payload b * 64 + payload c
  | [a, b, c, d] =>
    (a.toNat - 0xF0) * 262144 + payload b * 4096 + payload c * 64
      + payload d
  | _ => 0

theorem toNat_ofNat_byte {n : Nat} (h : n < 256) :
    (UInt8.ofNat n).toNat = n :=
  UInt8.toNat_ofNat_of_lt' h

/-- The bytes of a character spell its code point and are complete. -/
theorem charBytes_spells (c : Char) :
    codePoint (charBytes c) = c.toNat ∧
      ∃ lead more, charBytes c = lead :: more ∧ Complete lead more := by
  have hc := toNat_lt_or c
  rw [charBytes]
  generalize c.toNat = n at hc
  split
  · next hone =>
      have ha := toNat_ofNat_byte (n := n) (by omega)
      have hlead := announced_cases (UInt8.ofNat n)
      rw [ha] at hlead
      refine ⟨ha, _, _, rfl, ?_, trivial⟩
      simp only [List.length_nil]
      omega
  split
  · next hone htwo =>
      have ha := toNat_ofNat_byte (n := 0xC0 + n / 64) (by omega)
      have hb := toNat_ofNat_byte (n := 0x80 + n % 64) (by omega)
      have hlead := announced_cases (UInt8.ofNat (0xC0 + n / 64))
      rw [ha] at hlead
      refine ⟨?_, _, _, rfl, ?_, admitsSecond_iff.2 ?_,
        List.forall_mem_nil _⟩
      · rw [codePoint, payload, ha, hb]
        omega
      · simp only [List.length_cons, List.length_nil]
        omega
      · rw [ha, hb]
        omega
  split
  · next hone htwo hthree =>
      have ha := toNat_ofNat_byte (n := 0xE0 + n / 4096) (by omega)
      have hb := toNat_ofNat_byte (n := 0x80 + n / 64 % 64) (by omega)
      have hd := toNat_ofNat_byte (n := 0x80 + n % 64) (by omega)
      have hlead := announced_cases (UInt8.ofNat (0xE0 + n / 4096))
      rw [ha] at hlead
      refine ⟨?_, _, _, rfl, ?_, admitsSecond_iff.2 ?_,
        List.forall_mem_singleton.2 (isContinuation_iff.2 ?_)⟩
      · rw [codePoint, payload, payload, ha, hb, hd]
        omega
      · simp only [List.length_cons, List.length_nil]
        omega
      · rw [ha, hb]
        omega
      · rw [hd]
        omega
  · next hone htwo hthree =>
      have ha := toNat_ofNat_byte (n := 0xF0 + n / 262144) (by omega)
      have hb := toNat_ofNat_byte (n := 0x80 + n / 4096 % 64) (by omega)
      have hd := toNat_ofNat_byte (n := 0x80 + n / 64 % 64) (by omega)
      have he := toNat_ofNat_byte (n := 0x80 + n % 64) (by omega)
      have hlead := announced_cases (UInt8.ofNat (0xF0 + n / 262144))
      rw [ha] at hlead
      refine ⟨?_, _, _, rfl, ?_, admitsSecond_iff.2 ?_,
        List.forall_mem_cons.2 ⟨isContinuation_iff.2 ?_,
          List.forall_mem_singleton.2 (isContinuation_iff.2 ?_)⟩⟩
      · rw [codePoint, payload, payload, payload, ha, hb, hd, he]
        omega
      · simp only [List.length_cons, List.length_nil]
        omega
      · rw [ha, hb]
        omega
      · rw [hd]
        omega
      · rw [he]
        omega

/-- No two characters have the same bytes. -/
theorem charBytes_inj {c d : Char} (h : charBytes c = charBytes d) :
    c = d := by
  rw [← Char.toNat_inj, ← (charBytes_spells c).1, h,
    (charBytes_spells d).1]

/-- The bytes of a character are complete. -/
theorem complete_of_charBytes (h : charBytes c = lead :: more) :
    Complete lead more := by
  obtain ⟨-, lead', more', hbytes, hcomplete⟩ := charBytes_spells c
  rw [h] at hbytes
  cases hbytes
  exact hcomplete

/-- Complete bytes are those of the character they spell. -/
theorem charBytes_codePoint (h : Complete lead more) :
    charBytes (Char.ofNat (codePoint (lead :: more))) = lead :: more := by
  obtain ⟨hlength, hfits⟩ := h
  match more, hlength, hfits with
  | [], hlength, _ =>
      have hlead := announced_cases lead
      simp only [List.length_nil] at hlength
      exact charBytes_asChar (by omega)
  | [b], hlength, ⟨hb, _⟩ =>
      have hlead := announced_cases lead
      simp only [List.length_cons, List.length_nil] at hlength
      rw [admitsSecond_iff] at hb
      have hcode : (Char.ofNat (codePoint [lead, b])).toNat
          = (lead.toNat - 0xC0) * 64 + payload b := by
        refine toNat_charOfNat ?_
        rw [codePoint, payload]
        omega
      rw [payload] at hcode
      have hfirst : 0xC0 + ((lead.toNat - 0xC0) * 64 + b.toNat % 64) / 64
          = lead.toNat := by omega
      have hsecond : 0x80 + ((lead.toNat - 0xC0) * 64 + b.toNat % 64) % 64
          = b.toNat := by omega
      rw [charBytes, hcode, if_neg (by omega), if_pos (by omega), hfirst,
        hsecond, UInt8.ofNat_toNat, UInt8.ofNat_toNat]
  | [b, d], hlength, ⟨hb, hd⟩ =>
      have hlead := announced_cases lead
      simp only [List.length_cons, List.length_nil] at hlength
      rw [admitsSecond_iff] at hb
      rw [List.forall_mem_singleton, isContinuation_iff] at hd
      have hcode : (Char.ofNat (codePoint [lead, b, d])).toNat
          = (lead.toNat - 0xE0) * 4096 + payload b * 64 + payload d := by
        refine toNat_charOfNat ?_
        rw [codePoint, payload, payload]
        omega
      rw [payload, payload] at hcode
      generalize hn : (lead.toNat - 0xE0) * 4096 + b.toNat % 64 * 64
        + d.toNat % 64 = n at hcode
      have hfirst : 0xE0 + n / 4096 = lead.toNat := by omega
      have hsecond : 0x80 + n / 64 % 64 = b.toNat := by omega
      have hthird : 0x80 + n % 64 = d.toNat := by omega
      rw [charBytes, hcode, if_neg (by omega), if_neg (by omega),
        if_pos (by omega), hfirst, hsecond, hthird, UInt8.ofNat_toNat,
        UInt8.ofNat_toNat, UInt8.ofNat_toNat]
  | [b, d, e], hlength, ⟨hb, hde⟩ =>
      have hlead := announced_cases lead
      simp only [List.length_cons, List.length_nil] at hlength
      rw [admitsSecond_iff] at hb
      rw [List.forall_mem_cons, List.forall_mem_singleton,
        isContinuation_iff, isContinuation_iff] at hde
      have hcode : (Char.ofNat (codePoint [lead, b, d, e])).toNat
          = (lead.toNat - 0xF0) * 262144 + payload b * 4096
            + payload d * 64 + payload e := by
        refine toNat_charOfNat ?_
        rw [codePoint, payload, payload, payload]
        omega
      rw [payload, payload, payload] at hcode
      generalize hn : (lead.toNat - 0xF0) * 262144 + b.toNat % 64 * 4096
        + d.toNat % 64 * 64 + e.toNat % 64 = n at hcode
      have hfirst : 0xF0 + n / 262144 = lead.toNat := by omega
      have hsecond : 0x80 + n / 4096 % 64 = b.toNat := by omega
      have hthird : 0x80 + n / 64 % 64 = d.toNat := by omega
      have hfourth : 0x80 + n % 64 = e.toNat := by omega
      rw [charBytes, hcode, if_neg (by omega), if_neg (by omega),
        if_neg (by omega), hfirst, hsecond, hthird, hfourth,
        UInt8.ofNat_toNat, UInt8.ofNat_toNat, UInt8.ofNat_toNat,
        UInt8.ofNat_toNat]
  | _ :: _ :: _ :: _ :: more, hlength, _ =>
      have hlead := announced_cases lead
      simp only [List.length_cons] at hlength
      omega

/-- The bytes of characters are the complete ones. -/
theorem exists_charBytes_iff :
    (∃ c, charBytes c = lead :: more) ↔ Complete lead more :=
  ⟨fun ⟨_, h⟩ => complete_of_charBytes h,
    fun h => ⟨_, charBytes_codePoint h⟩⟩

-- ============================================================== a step

/-- What the reader takes off behind a lead byte: what makes it a
character, or nothing if no character begins with it, or what fits up to
where it breaks off. -/
inductive Takes (lead : UInt8) : Bytes → Option Char × Bytes → Prop
  | char {c : Char} {more rest : Bytes} :
      charBytes c = lead :: more → Takes lead (more ++ rest) (some c, rest)
  | stray {rest : Bytes} :
      announced lead = 0 → Takes lead rest (none, rest)
  | broken {more rest : Bytes} :
      Fits lead more → more.length + 1 < announced lead →
      (∀ b ∈ rest.head?, ¬ Fits lead (more ++ [b])) →
      Takes lead (more ++ rest) (none, rest)

/-- Complete bytes in front are taken as their character. -/
theorem Takes.complete (h : Complete lead more) :
    Takes lead (more ++ rest)
      (some (Char.ofNat (codePoint (lead :: more))), rest) :=
  .char (charBytes_codePoint h)

/-- Nothing more fits where the bytes end. -/
theorem Fits.ended (h : Fits lead more)
    (hshort : more.length + 1 < announced lead) :
    Takes lead more (none, []) := by
  have htakes : Takes lead (more ++ []) (none, []) :=
    .broken h hshort nofun
  rwa [List.append_nil] at htakes

/-- A byte that does not fit is left. -/
theorem Fits.stopped (h : Fits lead more)
    (hshort : more.length + 1 < announced lead)
    (hb : ¬ Fits lead (more ++ [b])) :
    Takes lead (more ++ b :: rest) (none, b :: rest) :=
  .broken h hshort fun _ hd => by cases hd; exact hb

/-- Behind a lead byte of two any continuation may stand. -/
theorem admitsSecond_of_two (h : announced lead = 2) :
    admitsSecond lead b = true ↔ isContinuation b = true := by
  have hlead := announced_cases lead
  rw [admitsSecond_iff, isContinuation_iff]
  omega

/-- The reader takes off what it should. -/
theorem takeChar_takes (lead : UInt8) (rest : Bytes) :
    Takes lead rest (takeChar lead rest) := by
  have hnone : Fits lead [] := trivial
  have hone {b : UInt8} (hb : admitsSecond lead b = true) :
      Fits lead [b] := ⟨hb, List.forall_mem_nil _⟩
  have htwo {b d : UInt8} (hb : admitsSecond lead b = true)
      (hd : isContinuation d = true) : Fits lead [b, d] :=
    ⟨hb, List.forall_mem_singleton.2 hd⟩
  fun_cases takeChar lead rest with
  | case1 _ hlead =>
      have hcomplete : Complete lead [] := ⟨hlead.symm, hnone⟩
      exact Takes.complete hcomplete
  | case2 hlead b r hb =>
      have hcomplete : Complete lead [b] :=
        ⟨hlead.symm, hone ((admitsSecond_of_two hlead).2 hb)⟩
      exact Takes.complete hcomplete
  | case3 hlead b r hb =>
      exact hnone.stopped (by simp [hlead])
        fun h => hb ((admitsSecond_of_two hlead).1 h.1)
  | case4 hlead => exact hnone.ended (by simp [hlead])
  | case5 hlead b hb d r hd =>
      have hcomplete : Complete lead [b, d] := ⟨hlead.symm, htwo hb hd⟩
      exact Takes.complete hcomplete
  | case6 hlead b hb d r hd =>
      exact (hone hb).stopped (by simp [hlead])
        fun h => hd (h.2 d (List.mem_singleton_self d))
  | case7 hlead b hb => exact (hone hb).ended (by simp [hlead])
  | case8 hlead b r hb =>
      exact hnone.stopped (by simp [hlead]) fun h => hb h.1
  | case9 hlead => exact hnone.ended (by simp [hlead])
  | case10 hlead b hb d hd e r he =>
      have hfits : Fits lead [b, d, e] :=
        ⟨hb, List.forall_mem_cons.2
          ⟨hd, List.forall_mem_singleton.2 he⟩⟩
      have hcomplete : Complete lead [b, d, e] := ⟨hlead.symm, hfits⟩
      exact Takes.complete hcomplete
  | case11 hlead b hb d hd e r he =>
      exact (htwo hb hd).stopped (by simp [hlead]) fun h => he (h.2 e
        (List.mem_cons_of_mem d (List.mem_singleton_self e)))
  | case12 hlead b hb d hd => exact (htwo hb hd).ended (by simp [hlead])
  | case13 hlead b hb d r hd =>
      exact (hone hb).stopped (by simp [hlead])
        fun h => hd (h.2 d (List.mem_singleton_self d))
  | case14 hlead b hb => exact (hone hb).ended (by simp [hlead])
  | case15 hlead b r hb =>
      exact hnone.stopped (by simp [hlead]) fun h => hb h.1
  | case16 hlead => exact hnone.ended (by simp [hlead])
  | case17 _ h1 h2 h3 h4 =>
      rcases announced_cases lead with h | h | h | h | h
      · exact absurd h.1 h1
      · exact absurd h.1 h2
      · exact absurd h.1 h3
      · exact absurd h.1 h4
      · exact .stray h.1

/-- Where nothing more fits, nothing longer does. -/
theorem length_le_of_stop {more' rest' : Bytes}
    (hsame : more ++ rest = more' ++ rest')
    (hstop : ∀ b ∈ rest.head?, ¬ Fits lead (more ++ [b]))
    (hfits : Fits lead more') : more'.length ≤ more.length := by
  rcases List.append_eq_append_iff.1 hsame with
    ⟨between, hmore', hrest⟩ | ⟨between, hmore, -⟩
  · cases between with
    | nil => exact Nat.le_of_eq (by rw [hmore', List.append_nil])
    | cons b between =>
        have hnext : Fits lead ((more ++ [b]) ++ between) := by
          rw [List.append_assoc, List.singleton_append, ← hmore']
          exact hfits
        refine absurd hnext.append_left (hstop b ?_)
        rw [hrest]
        rfl
  · rw [hmore, List.length_append]
    exact Nat.le_add_right ..

/-- There is one way to take something off. -/
theorem Takes.unique {x y : Option Char × Bytes} (hx : Takes lead bs x)
    (hy : Takes lead bs y) : x = y := by
  generalize hbs : bs = bs' at hy
  cases hx with
  | @char c more rest hc =>
      obtain ⟨hlength, hfits⟩ := complete_of_charBytes hc
      cases hy with
      | @char c' more' rest' hc' =>
          obtain ⟨hlength', -⟩ := complete_of_charBytes hc'
          obtain ⟨rfl, rfl⟩ := List.append_inj hbs (by omega)
          rw [charBytes_inj (hc.trans hc'.symm)]
      | stray hnone => omega
      | broken hfits' hshort hstop =>
          have := length_le_of_stop hbs.symm hstop hfits
          omega
  | stray hnone =>
      cases hy with
      | char hc' =>
          obtain ⟨hlength', -⟩ := complete_of_charBytes hc'
          omega
      | stray _ => rw [hbs]
      | broken _ hshort _ => omega
  | @broken more rest hfits hshort hstop =>
      cases hy with
      | char hc' =>
          obtain ⟨hlength', hfits'⟩ := complete_of_charBytes hc'
          have := length_le_of_stop hbs hstop hfits'
          omega
      | stray hnone => omega
      | @broken more' rest' hfits' hshort' hstop' =>
          have hle := length_le_of_stop hbs hstop hfits'
          have hge := length_le_of_stop hbs.symm hstop' hfits
          obtain ⟨-, rfl⟩ := List.append_inj hbs (by omega)
          rfl

theorem takeChar_eq_iff {x : Option Char × Bytes} :
    takeChar lead rest = x ↔ Takes lead rest x :=
  ⟨fun h => h ▸ takeChar_takes lead rest,
    fun h => (takeChar_takes lead rest).unique h⟩

end RemoteProvision.Text
