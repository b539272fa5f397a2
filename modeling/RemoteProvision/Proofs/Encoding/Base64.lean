/-
One written form.

Every byte list has exactly one written form, and reading accepts
nothing else (`decode_ok_iff`): what is written is read back, and what
is read was written so.  Both directions go group by group.  A full
group is four symbols for three bytes (`encode_groupBytes`); the last
one is judged by its symbols alone once its fill is known
(`decodeLast_symbols`, `of_decodeLast`).

What the written form is can be said by its bits (`Canonical`): the bits
of the bytes, filled up with zeros to whole sixes, each six a letter of
the alphabet, and the letters filled up with `=` to whole fours.  That
determines the text, and the text is what is written
(`canonical_iff`).
-/
import RemoteProvision.Encoding.Base64
import RemoteProvision.Proofs.Text.Ascii

namespace RemoteProvision.Encoding.Base64

open RemoteProvision.Text (asChars)

-- ========================================================= symbols

theorem value?_symbol {n : Nat} (h : n < 64) :
    value? (symbol n) = some n := by
  have hall : ∀ n < 64, value? (symbol n) = some n := by decide
  exact hall n h

/-- A symbol is the one of its value. -/
theorem symbol_of_value? {b : UInt8} {n : Nat} (h : value? b = some n) :
    n < 64 ∧ symbol n = b := by
  have hall : ∀ m < 256, ((value? (UInt8.ofNat m)).all fun n =>
      n < 64 && symbol n == UInt8.ofNat m) = true := by
    decide +kernel
  have hb := hall b.toNat b.toNat_lt
  rw [UInt8.ofNat_toNat, h, Option.all_some, Bool.and_eq_true,
    decide_eq_true_iff, beq_iff_eq] at hb
  exact hb

theorem symbol_ne_pad {n : Nat} (h : n < 64) : symbol n ≠ pad := by
  intro hpad
  have hvalue := value?_symbol h
  rw [hpad] at hvalue
  cases hvalue

theorem symbol_lt {n : Nat} (h : n < 64) : (symbol n).toNat < 128 := by
  have hall : ∀ n < 64, (symbol n).toNat < 128 := by decide
  exact hall n h

/-- Symbols are read as their values. -/
theorem values_symbols {offset : Nat} {ds : List Nat}
    (h : ∀ d ∈ ds, d < 64) : values offset (ds.map symbol) = .ok ds := by
  induction ds generalizing offset with
  | nil => rfl
  | cons d ds ih =>
      have hd := h d (List.mem_cons_self ..)
      have hds := fun e he => h e (List.mem_cons_of_mem _ he)
      rw [List.map_cons, values, value?_symbol hd]
      simp only
      rw [ih hds]
      rfl

/-- What is read as values are the symbols of these. -/
theorem of_values {offset : Nat} {bs : List UInt8} {ds : List Nat}
    (h : values offset bs = .ok ds) :
    (∀ d ∈ ds, d < 64) ∧ bs = ds.map symbol := by
  induction bs generalizing offset ds with
  | nil => cases h; exact ⟨nofun, rfl⟩
  | cons b bs ih =>
      rw [values] at h
      cases hvalue : value? b with
      | none => rw [hvalue] at h; cases h
      | some n =>
          rw [hvalue] at h
          cases hrest : values (offset + 1) bs with
          | error fault => rw [hrest] at h; cases h
          | ok ns =>
              rw [hrest] at h
              cases h
              obtain ⟨hn, hb⟩ := symbol_of_value? hvalue
              obtain ⟨hns, hbs⟩ := ih hrest
              refine ⟨List.forall_mem_cons.2 ⟨hn, hns⟩, ?_⟩
              rw [List.map_cons, hb, hbs]

-- =========================================================== sixes

/-- The values of the symbols that some bytes are written with. -/
def sixes : List UInt8 → List Nat
  | [] => []
  | [a] => [a.toNat / 4, a.toNat % 4 * 16]
  | [a, b] =>
    [a.toNat / 4, a.toNat % 4 * 16 + b.toNat / 16, b.toNat % 16 * 4]
  | a :: b :: c :: rest =>
    a.toNat / 4 :: (a.toNat % 4 * 16 + b.toNat / 16)
      :: (b.toNat % 16 * 4 + c.toNat / 64) :: c.toNat % 64
      :: sixes rest

/-- How many fill symbols a number of bytes needs. -/
def fillCount (count : Nat) : Nat := (3 - count % 3) % 3

/-- What is written are the symbols of the sixes, and fill. -/
theorem encode_eq (bytes : List UInt8) :
    encode bytes = (sixes bytes).map symbol
      ++ List.replicate (fillCount bytes.length) pad := by
  fun_induction encode bytes with
  | case1 => rfl
  | case2 a => rfl
  | case3 a b => rfl
  | case4 a b c rest ih =>
      have hfill : fillCount (a :: b :: c :: rest).length
          = fillCount rest.length := by
        simp only [fillCount, List.length_cons]
        omega
      rw [hfill, ih]
      rfl

theorem sixes_lt (bytes : List UInt8) : ∀ d ∈ sixes bytes, d < 64 := by
  fun_induction sixes bytes with
  | case1 => exact nofun
  | case2 a =>
      have ha : a.toNat < 256 := a.toNat_lt
      simp only [List.forall_mem_cons]
      exact ⟨by omega, by omega, nofun⟩
  | case3 a b =>
      have ha : a.toNat < 256 := a.toNat_lt
      have hb : b.toNat < 256 := b.toNat_lt
      simp only [List.forall_mem_cons]
      exact ⟨by omega, by omega, by omega, nofun⟩
  | case4 a b c rest ih =>
      have ha : a.toNat < 256 := a.toNat_lt
      have hb : b.toNat < 256 := b.toNat_lt
      have hc : c.toNat < 256 := c.toNat_lt
      simp only [List.forall_mem_cons]
      exact ⟨by omega, by omega, by omega, by omega, ih⟩

/-- All that is written is ASCII. -/
theorem encode_ascii (bytes : List UInt8) :
    ∀ b ∈ encode bytes, b.toNat < 128 := by
  intro b hb
  rw [encode_eq, List.mem_append, List.mem_map, List.mem_replicate] at hb
  rcases hb with ⟨d, hd, rfl⟩ | ⟨-, rfl⟩
  · exact symbol_lt (sixes_lt bytes d hd)
  · decide

-- ====================================================== full groups

/-- Four values below 64 make three bytes whose symbols they are. -/
theorem encode_groupBytes {a b c d : Nat} (ha : a < 64) (hb : b < 64)
    (hc : c < 64) (hd : d < 64) (bytes : List UInt8) :
    encode (groupBytes a b c d ++ bytes)
      = [a, b, c, d].map symbol ++ encode bytes := by
  have hx : (UInt8.ofNat (a * 4 + b / 16)).toNat = a * 4 + b / 16 :=
    UInt8.toNat_ofNat_of_lt' (by show _ < 256; omega)
  have hy : (UInt8.ofNat (b % 16 * 16 + c / 4)).toNat
      = b % 16 * 16 + c / 4 :=
    UInt8.toNat_ofNat_of_lt' (by show _ < 256; omega)
  have hz : (UInt8.ofNat (c % 4 * 64 + d)).toNat = c % 4 * 64 + d :=
    UInt8.toNat_ofNat_of_lt' (by show _ < 256; omega)
  have ha' : (a * 4 + b / 16) / 4 = a := by omega
  have hb' : (a * 4 + b / 16) % 4 * 16 + (b % 16 * 16 + c / 4) / 16
      = b := by omega
  have hc' : (b % 16 * 16 + c / 4) % 16 * 4 + (c % 4 * 64 + d) / 64
      = c := by omega
  have hd' : (c % 4 * 64 + d) % 64 = d := by omega
  rw [groupBytes, List.cons_append, List.cons_append, List.cons_append,
    List.nil_append, encode, hx, hy, hz, ha', hb', hc', hd']
  rfl

/-- The symbols of three bytes give the bytes back. -/
theorem groupBytes_bytes (a b c : UInt8) :
    groupBytes (a.toNat / 4) (a.toNat % 4 * 16 + b.toNat / 16)
      (b.toNat % 16 * 4 + c.toNat / 64) (c.toNat % 64) = [a, b, c] := by
  have ha : a.toNat < 256 := a.toNat_lt
  have hb : b.toNat < 256 := b.toNat_lt
  have hc : c.toNat < 256 := c.toNat_lt
  have hx : a.toNat / 4 * 4 + (a.toNat % 4 * 16 + b.toNat / 16) / 16
      = a.toNat := by omega
  have hy : (a.toNat % 4 * 16 + b.toNat / 16) % 16 * 16
      + (b.toNat % 16 * 4 + c.toNat / 64) / 4 = b.toNat := by omega
  have hz : (b.toNat % 16 * 4 + c.toNat / 64) % 4 * 64 + c.toNat % 64
      = c.toNat := by omega
  rw [groupBytes, hx, hy, hz, UInt8.ofNat_toNat, UInt8.ofNat_toNat,
    UInt8.ofNat_toNat]

-- =================================================== the last group

section LastGroup

variable {offset : Nat} {group bytes : List UInt8} {last : UInt8}
  {ds : List Nat}

/-- A last group of symbols and fill, cut in two. -/
theorem cut_lastGroup (h : ∀ d ∈ ds, d < 64) (count : Nat) :
    (ds.map symbol ++ List.replicate count pad).takeWhile (· != pad)
        = ds.map symbol ∧
      (ds.map symbol ++ List.replicate count pad).dropWhile (· != pad)
        = List.replicate count pad := by
  have hsymbols : ∀ b ∈ ds.map symbol, (b != pad) = true := by
    intro b hb
    obtain ⟨d, hd, rfl⟩ := List.mem_map.1 hb
    exact bne_iff_ne.2 (symbol_ne_pad (h d hd))
  rw [List.takeWhile_append_of_pos hsymbols,
    List.dropWhile_append_of_pos hsymbols]
  cases count with
  | zero => exact ⟨List.append_nil _, rfl⟩
  | succ count => exact ⟨List.append_nil _, rfl⟩

/-- A last group with the right fill is judged by its symbols. -/
theorem decodeLast_symbols {count : Nat} (h : ∀ d ∈ ds, d < 64)
    (hfew : 2 ≤ ds.length) (hfour : ds.length + count = 4) :
    decodeLast offset (ds.map symbol ++ List.replicate count pad)
      = lastGroupBytes offset ((ds.map symbol).getLast?.getD pad) ds := by
  obtain ⟨htake, hdrop⟩ := cut_lastGroup h count
  have hlength : ¬ (ds.map symbol).length < 2 := by
    rw [List.length_map]
    omega
  have hfill : (List.replicate count pad).any (· != pad) = false := by
    simp [List.any_replicate]
  have htotal :
      (ds.map symbol ++ List.replicate count pad).length = 4 := by
    rw [List.length_append, List.length_map, List.length_replicate,
      hfour]
  unfold decodeLast
  simp only [bind, Except.bind, throw, throwThe, MonadExceptOf.throw]
  rw [htake, hdrop, values_symbols h, hfill, htotal,
    decide_eq_false hlength, Bool.or_self, Bool.and_false]
  simp only
  rw [if_neg Bool.false_ne_true, if_neg hlength]
  rfl

/-- A last group that is read has symbols, and fill up to four. -/
theorem of_decodeLast (h : decodeLast offset group = .ok bytes) :
    ∃ ds last, (∀ d ∈ ds, d < 64) ∧ 2 ≤ ds.length ∧
      group = ds.map symbol ++ List.replicate (4 - ds.length) pad ∧
      lastGroupBytes offset last ds = .ok bytes := by
  have hcut := List.takeWhile_append_dropWhile (p := (· != pad))
    (l := group)
  unfold decodeLast at h
  simp only [bind, Except.bind, throw, throwThe, MonadExceptOf.throw] at h
  generalize group.takeWhile (· != pad) = body at h hcut
  generalize group.dropWhile (· != pad) = fill at h hcut
  cases hvalues : values offset body with
  | error fault => rw [hvalues] at h; cases h
  | ok ds =>
      obtain ⟨hds, rfl⟩ := of_values hvalues
      rw [hvalues] at h
      simp only at h
      split at h
      · cases h
      · next hbad =>
          split at h
          · cases h
          · next hfew =>
              split at h
              · cases h
              · next hfour =>
                  rw [bne_iff_ne, Decidable.not_not] at hfour
                  rw [List.length_map] at hfew
                  refine ⟨ds, _, hds, by omega, ?_, h⟩
                  have hfill : ∀ b ∈ fill, b = pad := by
                    intro b hb
                    refine Decidable.byContradiction fun hne => hbad ?_
                    rw [Bool.and_eq_true, Bool.or_eq_true,
                      List.any_eq_true]
                    refine ⟨?_, .inr ⟨b, hb, bne_iff_ne.2 hne⟩⟩
                    cases fill with
                    | nil => cases hb
                    | cons _ _ => rfl
                  have hlength : ds.length + fill.length = 4 := by
                    rw [← hcut, List.length_append, List.length_map]
                      at hfour
                    exact hfour
                  rw [← hcut, List.eq_replicate_of_mem hfill]
                  congr 2
                  omega

/-- The symbols and fill of what a last group is read as. -/
theorem encode_of_lastGroup (hds : ∀ d ∈ ds, d < 64)
    (hfew : 2 ≤ ds.length) (hmany : ds.length ≤ 4)
    (h : lastGroupBytes offset last ds = .ok bytes) :
    encode bytes
      = ds.map symbol ++ List.replicate (4 - ds.length) pad := by
  match ds with
  | [] => cases hfew
  | [_] =>
      simp only [List.length_singleton] at hfew
      omega
  | [a, b] =>
      have ha : a < 64 := hds a (by simp)
      have hb : b < 64 := hds b (by simp)
      rw [lastGroupBytes] at h
      split at h
      · next hzero =>
          cases h
          have hx : (UInt8.ofNat (a * 4 + b / 16)).toNat
              = a * 4 + b / 16 :=
            UInt8.toNat_ofNat_of_lt' (by show _ < 256; omega)
          have ha' : (a * 4 + b / 16) / 4 = a := by omega
          have hb' : (a * 4 + b / 16) % 4 * 16 = b := by omega
          rw [encode, hx, ha', hb']
          rfl
      · cases h
  | [a, b, c] =>
      have ha : a < 64 := hds a (by simp)
      have hb : b < 64 := hds b (by simp)
      have hc : c < 64 := hds c (by simp)
      rw [lastGroupBytes] at h
      split at h
      · next hzero =>
          cases h
          have hx : (UInt8.ofNat (a * 4 + b / 16)).toNat
              = a * 4 + b / 16 :=
            UInt8.toNat_ofNat_of_lt' (by show _ < 256; omega)
          have hy : (UInt8.ofNat (b % 16 * 16 + c / 4)).toNat
              = b % 16 * 16 + c / 4 :=
            UInt8.toNat_ofNat_of_lt' (by show _ < 256; omega)
          have ha' : (a * 4 + b / 16) / 4 = a := by omega
          have hb' : (a * 4 + b / 16) % 4 * 16
              + (b % 16 * 16 + c / 4) / 16 = b := by omega
          have hc' : (b % 16 * 16 + c / 4) % 16 * 4 = c := by omega
          rw [encode, hx, hy, ha', hb', hc']
          rfl
      · cases h
  | [a, b, c, d] =>
      rw [lastGroupBytes] at h
      cases h
      have hgroup := encode_groupBytes (hds a (by simp))
        (hds b (by simp)) (hds c (by simp)) (hds d (by simp)) []
      rw [List.append_nil] at hgroup
      exact hgroup
  | a :: b :: c :: d :: e :: rest =>
      simp only [List.length_cons] at hmany
      omega

end LastGroup

-- ====================================================== round trips

/-- Whole fours are written. -/
theorem length_encode (bytes : List UInt8) :
    (encode bytes).length % 4 = 0 := by
  fun_induction encode bytes with
  | case1 => rfl
  | case2 a => simp
  | case3 a b => simp
  | case4 a b c rest ih =>
      simp only [List.length_cons]
      omega

theorem encode_eq_nil_iff {bytes : List UInt8} :
    encode bytes = [] ↔ bytes = [] := by
  fun_cases encode bytes <;> simp

/-- Groups are read back one by one. -/
theorem decodeFrom_encode {bytes : List UInt8} (h : bytes ≠ [])
    (offset : Nat) : decodeFrom offset (encode bytes) = .ok bytes := by
  fun_induction encode bytes generalizing offset with
  | case1 => exact absurd rfl h
  | case2 a =>
      have hx : a.toNat / 4 * 4 + a.toNat % 4 * 16 / 16 = a.toNat := by
        omega
      show decodeLast offset ((sixes [a]).map symbol
        ++ List.replicate 2 pad) = _
      rw [decodeLast_symbols (sixes_lt [a]) (by simp [sixes])
        (by simp [sixes]), sixes, lastGroupBytes, if_pos (by omega), hx,
        UInt8.ofNat_toNat]
  | case3 a b =>
      have hb : b.toNat < 256 := b.toNat_lt
      have hx : a.toNat / 4 * 4 + (a.toNat % 4 * 16 + b.toNat / 16) / 16
          = a.toNat := by omega
      have hy : (a.toNat % 4 * 16 + b.toNat / 16) % 16 * 16
          + b.toNat % 16 * 4 / 4 = b.toNat := by omega
      show decodeLast offset ((sixes [a, b]).map symbol
        ++ List.replicate 1 pad) = _
      rw [decodeLast_symbols (sixes_lt [a, b]) (by simp [sixes])
        (by simp [sixes]), sixes, lastGroupBytes, if_pos (by omega), hx,
        hy, UInt8.ofNat_toNat, UInt8.ofNat_toNat]
  | case4 a b c rest ih =>
      rw [decodeFrom]
      by_cases hrest : rest = []
      · subst hrest
        rw [encode, List.isEmpty_nil, if_pos rfl]
        show decodeLast offset ((sixes [a, b, c]).map symbol
          ++ List.replicate 0 pad) = _
        rw [decodeLast_symbols (sixes_lt [a, b, c]) (by simp [sixes])
          (by simp [sixes]), sixes, sixes, lastGroupBytes,
          groupBytes_bytes]
      · have hmore : (encode rest).isEmpty = false := by
          rw [List.isEmpty_eq_false_iff]
          exact mt encode_eq_nil_iff.1 hrest
        have hvalues : values offset ((sixes [a, b, c]).map symbol)
            = .ok (sixes [a, b, c]) :=
          values_symbols (sixes_lt [a, b, c])
        simp only [sixes, List.map_cons, List.map_nil] at hvalues
        rw [hmore, if_neg Bool.false_ne_true]
        simp only [bind, Except.bind]
        rw [hvalues]
        simp only
        rw [ih hrest, groupBytes_bytes]
        rfl

/-- What groups are read as is written by them. -/
theorem encode_of_decodeFrom {offset : Nat} {input bytes : List UInt8}
    (h : decodeFrom offset input = .ok bytes) : encode bytes = input := by
  have hlast : ∀ {offset : Nat} {group bytes : List UInt8},
      group.length ≤ 4 → decodeLast offset group = .ok bytes →
      encode bytes = group := by
    intro offset group bytes hfour h
    obtain ⟨ds, last, hds, hfew, hgroup, hbytes⟩ := of_decodeLast h
    rw [hgroup] at hfour ⊢
    rw [List.length_append, List.length_map] at hfour
    exact encode_of_lastGroup hds hfew (by omega) hbytes
  fun_induction decodeFrom offset input generalizing bytes with
  | case1 offset a b c d rest hempty =>
      obtain rfl := List.isEmpty_iff.1 hempty
      exact hlast (by simp) h
  | case2 offset a b c d rest hmore ih =>
      simp only [bind, Except.bind] at h
      cases hvalues : values offset [a, b, c, d] with
      | error fault => rw [hvalues] at h; cases h
      | ok ds =>
          obtain ⟨hds, hsymbols⟩ := of_values hvalues
          rw [hvalues] at h
          match ds with
          | [x, y, z, w] =>
              simp only at h
              cases hrest : decodeFrom (offset + 4) rest with
              | error fault => rw [hrest] at h; cases h
              | ok more =>
                  rw [hrest] at h
                  cases h
                  rw [encode_groupBytes (hds x (by simp))
                    (hds y (by simp)) (hds z (by simp))
                    (hds w (by simp)), ih hrest, ← hsymbols]
                  rfl
  | case3 offset group hshort =>
      refine hlast ?_ h
      match group with
      | [] => simp
      | [_] => simp
      | [_, _] => simp
      | [_, _, _] => simp
      | a :: b :: c :: d :: rest => exact absurd rfl (hshort a b c d rest)

/-- Reading accepts the written form and nothing else. -/
theorem decode_ok_iff {input bytes : List UInt8} :
    decode input = .ok bytes ↔ encode bytes = input := by
  constructor
  · intro h
    unfold decode at h
    cases hlast : input.getLast? with
    | none =>
        rw [hlast] at h
        cases h
        rw [List.getLast?_eq_none_iff.1 hlast]
        rfl
    | some last =>
        rw [hlast] at h
        simp only at h
        split at h
        · cases h
        · exact encode_of_decodeFrom h
  · rintro rfl
    unfold decode
    by_cases hbytes : bytes = []
    · subst hbytes
      rfl
    · cases hlast : (encode bytes).getLast? with
      | none =>
          exact absurd (encode_eq_nil_iff.1
            (List.getLast?_eq_none_iff.1 hlast)) hbytes
      | some last =>
          simp only [length_encode]
          exact decodeFrom_encode hbytes 0

-- ================================================== canonical texts

/-- The letters of the values, in their order. -/
def alphabet : List Char :=
  "ABCDEFGHIJKLMNOPQRSTUVWXYZabcdefghijklmnopqrstuvwxyz0123456789+/".toList

theorem length_alphabet : alphabet.length = 64 := by decide +kernel

/-- The letter of a value. -/
def letter (d : Fin 64) : Char :=
  alphabet.get (d.cast length_alphabet.symm)

/-- The lowest bits of a number, the highest of them first. -/
def bits : Nat → Nat → List Bool
  | 0, _ => []
  | width + 1, n => n.testBit width :: bits width n

/-- The bits of some bytes. -/
def byteBits (bytes : List UInt8) : List Bool :=
  bytes.flatMap fun b => bits 8 b.toNat

/-- A text is the canonical form of some bytes: their bits and fewer
than six zeros, each six bits a letter, and fewer than four fill letters
that make whole fours. -/
def Canonical (bytes : List UInt8) (text : List Char) : Prop :=
  ∃ (values : List (Fin 64)) (zeros fill : Nat),
    values.flatMap (fun d => bits 6 d.val)
        = byteBits bytes ++ List.replicate zeros false ∧
      zeros < 6 ∧
      text = values.map letter ++ List.replicate fill '=' ∧
      fill < 4 ∧ text.length % 4 = 0

theorem letter_eq (d : Fin 64) :
    letter d = Char.ofNat (symbol d.val).toNat := by
  have hall : ∀ d : Fin 64, letter d = Char.ofNat (symbol d.val).toNat := by
    decide +kernel
  exact hall d

theorem length_bits (width n : Nat) : (bits width n).length = width := by
  induction width with
  | zero => rfl
  | succ width ih => rw [bits, List.length_cons, ih]

/-- Equal bits are equal at each place. -/
theorem testBit_of_bits {width m n : Nat}
    (h : bits width m = bits width n) :
    ∀ i < width, m.testBit i = n.testBit i := by
  induction width with
  | zero => exact fun i hi => absurd hi (Nat.not_lt_zero i)
  | succ width ih =>
      rw [bits, bits, List.cons.injEq] at h
      intro i hi
      rcases Nat.lt_succ_iff_lt_or_eq.1 hi with hlt | rfl
      · exact ih h.2 i hlt
      · exact h.1

theorem bits_inj {d e : Fin 64} (h : bits 6 d.val = bits 6 e.val) :
    d = e := by
  refine Fin.ext (Nat.eq_of_testBit_eq fun i => ?_)
  by_cases hi : i < 6
  · exact testBit_of_bits h i hi
  · have hfar : 64 ≤ 2 ^ i :=
      Nat.pow_le_pow_right (n := 2) (by decide) (Nat.not_lt.1 hi)
    rw [Nat.testBit_lt_two_pow (Nat.lt_of_lt_of_le d.isLt hfar),
      Nat.testBit_lt_two_pow (Nat.lt_of_lt_of_le e.isLt hfar)]

/-- Six bits are one value, so the bits tell the values. -/
theorem values_inj {ds es : List (Fin 64)}
    (h : ds.flatMap (fun d => bits 6 d.val)
      = es.flatMap fun d => bits 6 d.val)
    (hlength : ds.length = es.length) : ds = es := by
  induction ds generalizing es with
  | nil => exact (List.length_eq_zero_iff.1 hlength.symm).symm
  | cons d ds ih =>
      cases es with
      | nil => cases hlength
      | cons e es =>
          rw [List.flatMap_cons, List.flatMap_cons] at h
          obtain ⟨hbits, hrest⟩ := List.append_inj h
            (by rw [length_bits, length_bits])
          rw [bits_inj hbits, ih hrest (Nat.succ.inj hlength)]

theorem length_flatMap_bits {α : Type} (width : Nat) (f : α → Nat)
    (xs : List α) :
    (xs.flatMap fun x => bits width (f x)).length
      = width * xs.length := by
  induction xs with
  | nil => rfl
  | cons x xs ih =>
      rw [List.flatMap_cons, List.length_append, length_bits, ih,
        List.length_cons, Nat.mul_succ, Nat.add_comm]

/-- Bytes have one canonical form. -/
theorem Canonical.unique {bytes : List UInt8} {text text' : List Char}
    (h : Canonical bytes text) (h' : Canonical bytes text') :
    text = text' := by
  obtain ⟨values, zeros, fill, hbits, hzeros, rfl, hfill, hfours⟩ := h
  obtain ⟨values', zeros', fill', hbits', hzeros', rfl, hfill', hfours'⟩ :=
    h'
  have hlength := congrArg List.length hbits
  have hlength' := congrArg List.length hbits'
  rw [length_flatMap_bits, List.length_append, List.length_replicate]
    at hlength hlength'
  rw [List.length_append, List.length_map, List.length_replicate]
    at hfours hfours'
  have hvalues : values = values' := by
    refine values_inj ?_ (by omega)
    rw [hbits, hbits']
    congr 2
    omega
  rw [hvalues] at hfours ⊢
  congr 2
  omega

-- -------------------------------------------- what is written is it

theorem bits_congr {width m n : Nat}
    (h : m % (1 <<< width) = n % (1 <<< width)) :
    bits width m = bits width n := by
  rw [Nat.one_shiftLeft] at h
  have hbit : ∀ i < width, m.testBit i = n.testBit i := by
    intro i hi
    have hi' := congrArg (fun x => x.testBit i) h
    simpa [Nat.testBit_mod_two_pow, hi] using hi'
  clear h
  induction width with
  | zero => rfl
  | succ width ih =>
      rw [bits, bits, hbit width (Nat.lt_succ_self _),
        ih fun i hi => hbit i (Nat.lt_succ_of_lt hi)]

/-- The bits of a number cut in two: those of what stands above, and
those of what stands below. -/
theorem bits_cut {m n x y z : Nat}
    (hy : (x >>> n) % (1 <<< m) = y % (1 <<< m))
    (hz : x % (1 <<< n) = z % (1 <<< n)) :
    bits (m + n) x = bits m y ++ bits n z := by
  rw [← bits_congr hy, ← bits_congr hz]
  clear hy hz
  induction m with
  | zero => rw [Nat.zero_add]; rfl
  | succ m ih =>
      rw [Nat.succ_add, bits, bits, ih, Nat.testBit_shiftRight,
        Nat.add_comm n m]
      rfl

/-- A byte after two bits, after four and after six. -/
theorem bits_byte (n : Nat) :
    bits 8 n = bits 6 (n / 4) ++ bits 2 n ∧
      bits 8 n = bits 4 (n / 16) ++ bits 4 n ∧
      bits 8 n = bits 2 (n / 64) ++ bits 6 (n % 64) := by
  refine ⟨bits_cut (m := 6) (n := 2) ?_ rfl,
    bits_cut (m := 4) (n := 4) ?_ rfl,
    bits_cut (m := 2) (n := 6) ?_ (Nat.mod_mod n 64).symm⟩
  · simp only [Nat.shiftRight_eq_div_pow]
  · simp only [Nat.shiftRight_eq_div_pow]
  · simp only [Nat.shiftRight_eq_div_pow]

/-- The second six: two bits of one byte and four of the next. -/
theorem bits_second (a : Nat) {b : Nat} (hb : b < 256) :
    bits 6 (a % 4 * 16 + b / 16) = bits 2 a ++ bits 4 (b / 16) := by
  refine bits_cut (m := 2) (n := 4) ?_ ?_
  · simp only [Nat.shiftRight_eq_div_pow, Nat.one_shiftLeft]
    omega
  · simp only [Nat.one_shiftLeft]
    omega

/-- The third six: four bits of one byte and two of the next. -/
theorem bits_third (b : Nat) {c : Nat} (hc : c < 256) :
    bits 6 (b % 16 * 4 + c / 64) = bits 4 b ++ bits 2 (c / 64) := by
  refine bits_cut (m := 4) (n := 2) ?_ ?_
  · simp only [Nat.shiftRight_eq_div_pow, Nat.one_shiftLeft]
    omega
  · simp only [Nat.one_shiftLeft]
    omega

/-- The sixes of some bytes have the bits of the bytes, and zeros. -/
theorem bits_sixes (bytes : List UInt8) :
    ∃ zeros < 6, (sixes bytes).flatMap (bits 6)
      = byteBits bytes ++ List.replicate zeros false := by
  fun_induction sixes bytes with
  | case1 => exact ⟨0, by decide, rfl⟩
  | case2 a =>
      have hsecond := bits_second a.toNat (b := 0) (by decide)
      have hzeros : bits 4 (0 / 16) = List.replicate 4 false := by decide
      rw [hzeros, Nat.zero_div, Nat.add_zero] at hsecond
      refine ⟨4, by decide, ?_⟩
      simp only [byteBits, List.flatMap_cons, List.flatMap_nil,
        List.append_nil]
      rw [(bits_byte a.toNat).1, hsecond, List.append_assoc]
  | case3 a b =>
      have hthird := bits_third b.toNat (c := 0) (by decide)
      have hzeros : bits 2 (0 / 64) = List.replicate 2 false := by decide
      rw [hzeros, Nat.zero_div, Nat.add_zero] at hthird
      refine ⟨2, by decide, ?_⟩
      simp only [byteBits, List.flatMap_cons, List.flatMap_nil,
        List.append_nil]
      rw [(bits_byte a.toNat).1, bits_second _ b.toNat_lt,
        (bits_byte b.toNat).2.1, hthird]
      simp only [List.append_assoc]
  | case4 a b c rest ih =>
      obtain ⟨zeros, hzeros, hrest⟩ := ih
      refine ⟨zeros, hzeros, ?_⟩
      simp only [byteBits, List.flatMap_cons] at hrest ⊢
      rw [hrest, (bits_byte a.toNat).1, bits_second _ b.toNat_lt,
        (bits_byte b.toNat).2.1, bits_third _ c.toNat_lt,
        (bits_byte c.toNat).2.2]
      simp only [List.append_assoc]

/-- What is written is the canonical form. -/
theorem canonical_encode (bytes : List UInt8) :
    Canonical bytes (asChars (encode bytes)) := by
  obtain ⟨zeros, hzeros, hbits⟩ := bits_sixes bytes
  obtain ⟨values, hvalues⟩ :
      ∃ values : List (Fin 64), values.map Fin.val = sixes bytes :=
    ⟨(sixes bytes).pmap Fin.mk (sixes_lt bytes), by
      rw [List.map_pmap]
      exact List.pmap_eq_self.2 fun _ _ => rfl⟩
  have hletters : values.map letter
      = asChars ((sixes bytes).map symbol) := by
    rw [← hvalues, asChars, List.map_map, List.map_map]
    exact List.map_congr_left fun d _ => letter_eq d
  refine ⟨values, zeros, fillCount bytes.length, ?_, hzeros, ?_, ?_, ?_⟩
  · rw [← hbits, ← hvalues, List.flatMap_map]
  · rw [hletters, encode_eq, asChars, List.map_append,
      List.map_replicate]
    rfl
  · rw [fillCount]
    omega
  · rw [asChars, List.length_map]
    exact length_encode bytes

/-- The characters of what is written. -/
theorem mem_asChars_encode {bytes : List UInt8} {c : Char}
    (h : c ∈ asChars (encode bytes)) : c ∈ '=' :: alphabet := by
  obtain ⟨values, _, fill, -, -, htext, -, -⟩ := canonical_encode bytes
  rw [htext, List.mem_append, List.mem_map, List.mem_replicate] at h
  rcases h with ⟨d, -, rfl⟩ | ⟨-, rfl⟩
  · exact List.mem_cons_of_mem _ (List.get_mem ..)
  · exact List.mem_cons_self ..

/-- The canonical form of some bytes is what is written. -/
theorem canonical_iff {bytes : List UInt8} {text : List Char} :
    Canonical bytes text ↔ text = asChars (encode bytes) := by
  constructor
  · exact fun h => h.unique (canonical_encode bytes)
  · rintro rfl
    exact canonical_encode bytes

end RemoteProvision.Encoding.Base64
