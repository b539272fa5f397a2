/-
What the lenient reader makes of any bytes.

Which bytes are a broken part can be said by the bytes of characters
alone: the longest ones in front with which the bytes of some character
begin, or one byte if no character begins with it (`Broken`).  A text is
decoded from bytes that are cut into characters and broken parts
(`Decoded`), and the lenient reader gives the one text that is
(`decoded_iff`).

A broken part holds no ASCII byte, unless it is nothing else.  So such a
byte stands for itself wherever it is, and the bytes before it and the
bytes behind it are read as if they were alone (`lenient_append`).
-/
import RemoteProvision.Proofs.Text.Utf8

namespace RemoteProvision.Text

variable {lead b : UInt8} {more rest part bs : Bytes} {c : Char}

-- ======================================================= broken parts

/-- Bytes with which the bytes of some character begin. -/
def BeginsChar (front : Bytes) : Prop :=
  ∃ c, front <+: charBytes c

/-- A broken part, in front of other bytes: no character stands there,
and it is the longest part with which a character begins, or one byte if
there is no such part. -/
structure Broken (part rest : Bytes) : Prop where
  ne_nil : part ≠ []
  noChar : ∀ c, ¬ charBytes c <+: part ++ rest
  begun : BeginsChar part ∨ part.length = 1
  longest : ∀ front, front <+: part ++ rest → BeginsChar front →
    front.length ≤ part.length

/-- Some byte may stand behind a lead byte. -/
theorem exists_admitted (lead : UInt8) :
    ∃ b, admitsSecond lead b = true := by
  by_cases hlow : lead.toNat = 237 ∨ lead.toNat = 244
  · refine ⟨0x80, admitsSecond_iff.2 ?_⟩
    simp only [UInt8.reduceToNat]
    omega
  · refine ⟨0xA0, admitsSecond_iff.2 ?_⟩
    simp only [UInt8.reduceToNat]
    omega

/-- What fits can be completed, unless it is too long. -/
theorem Fits.completes (h : Fits lead more)
    (hshort : more.length + 1 ≤ announced lead) :
    ∃ behind, Complete lead (more ++ behind) := by
  have hfill : ∀ n, ∀ d ∈ List.replicate n (0x80 : UInt8),
      isContinuation d = true := by
    intro n d hd
    rw [List.eq_of_mem_replicate hd]
    decide
  cases more with
  | nil =>
      obtain ⟨b, hb⟩ := exists_admitted lead
      simp only [List.length_nil] at hshort
      by_cases hone : announced lead = 1
      · exact ⟨[], hone.symm, trivial⟩
      · refine ⟨b :: List.replicate (announced lead - 2) 0x80, ?_, hb,
          hfill _⟩
        simp only [List.nil_append, List.length_cons,
          List.length_replicate]
        omega
  | cons b more =>
      simp only [List.length_cons] at hshort
      refine ⟨List.replicate (announced lead - (more.length + 2)) 0x80,
        ?_, h.1, ?_⟩
      · simp only [List.length_append, List.length_cons,
          List.length_replicate]
        omega
      · exact List.forall_mem_append.2 ⟨h.2, hfill _⟩

/-- What characters begin with: bytes that fit, and no more of them than
are announced. -/
theorem beginsChar_iff :
    BeginsChar (lead :: more)
      ↔ Fits lead more ∧ more.length + 1 ≤ announced lead := by
  constructor
  · rintro ⟨c, behind, hc⟩
    rw [List.cons_append] at hc
    obtain ⟨hlength, hfits⟩ := complete_of_charBytes hc.symm
    rw [List.length_append] at hlength
    exact ⟨hfits.append_left, by omega⟩
  · rintro ⟨hfits, hshort⟩
    obtain ⟨behind, hcomplete⟩ := hfits.completes hshort
    obtain ⟨c, hc⟩ := exists_charBytes_iff.2 hcomplete
    exact ⟨c, behind, by rw [hc, List.cons_append]⟩

/-- What begins a character in front of some bytes has their lead
byte. -/
private theorem fits_of_begins {front : Bytes}
    (hfront : front <+: lead :: bs) (hbegins : BeginsChar front) :
    front = [] ∨ ∃ more behind, front = lead :: more ∧
      bs = more ++ behind ∧ Fits lead more ∧
      more.length + 1 ≤ announced lead := by
  cases front with
  | nil => exact .inl rfl
  | cons a more =>
      obtain ⟨rfl, behind, hbehind⟩ := List.cons_prefix_cons.1 hfront
      obtain ⟨hfits, hshort⟩ := beginsChar_iff.1 hbegins
      exact .inr ⟨more, behind, rfl, hbehind.symm, hfits, hshort⟩

/-- A character in front of some bytes has their lead byte. -/
private theorem complete_of_prefix (h : charBytes c <+: lead :: bs) :
    ∃ more behind, bs = more ++ behind ∧ Complete lead more := by
  obtain ⟨-, a, more, hc, hcomplete⟩ := charBytes_spells c
  rw [hc] at h
  obtain ⟨rfl, behind, hbehind⟩ := List.cons_prefix_cons.1 h
  exact ⟨more, behind, hbehind.symm, hcomplete⟩

/-- Where the reader finds no character it takes off a broken part. -/
theorem Takes.broken_part (h : Takes lead bs (none, rest)) :
    ∃ part, lead :: bs = part ++ rest ∧ Broken part rest := by
  cases h with
  | stray hnone =>
      refine ⟨[lead], rfl, ⟨List.cons_ne_nil _ _, ?_, .inr rfl, ?_⟩⟩
      · intro c hc
        obtain ⟨more, -, -, hlength, -⟩ := complete_of_prefix hc
        omega
      · intro front hfront hbegins
        rcases fits_of_begins hfront hbegins with
          rfl | ⟨more, -, -, -, -, hshort⟩
        · exact Nat.zero_le _
        · omega
  | @broken more rest hfits hshort hstop =>
      refine ⟨lead :: more, rfl, ⟨List.cons_ne_nil _ _, ?_,
        .inl (beginsChar_iff.2 ⟨hfits, Nat.le_of_lt hshort⟩), ?_⟩⟩
      · intro c hc
        obtain ⟨more', behind, hsame, hlength, hfits'⟩ :=
          complete_of_prefix hc
        have := length_le_of_stop hsame hstop hfits'
        omega
      · intro front hfront hbegins
        rcases fits_of_begins hfront hbegins with
          rfl | ⟨more', behind, rfl, hsame, hfits', -⟩
        · exact Nat.zero_le _
        · exact Nat.succ_le_succ (length_le_of_stop hsame hstop hfits')

/-- Of two broken parts in front of the same bytes none is longer. -/
theorem Broken.length_le {part' rest' : Bytes} (h : Broken part rest)
    (h' : Broken part' rest') (hsame : part ++ rest = part' ++ rest') :
    part'.length ≤ part.length := by
  rcases h'.begun with hbegins | hone
  · exact h.longest part' (hsame ▸ List.prefix_append ..) hbegins
  · rw [hone]
    exact List.length_pos_iff.2 h.ne_nil

-- ======================================================== whole texts

/-- A text decoded from bytes: characters for their bytes, and U+FFFD for
each broken part. -/
inductive Decoded : Bytes → List Char → Prop
  | nil : Decoded [] []
  | char {rest : Bytes} {text : List Char} (c : Char) :
      Decoded rest text → Decoded (charBytes c ++ rest) (c :: text)
  | broken {part rest : Bytes} {text : List Char} :
      Broken part rest → Decoded rest text →
      Decoded (part ++ rest) (replacement :: text)

/-- The lenient reading, as characters. -/
def lenient (bs : Bytes) : List Char :=
  (ofBytesLossy bs).toList

theorem lenient_nil : lenient [] = [] := by
  rw [lenient, ofBytesLossy, pieces, String.toList_ofList]
  rfl

theorem lenient_cons (lead : UInt8) (bs : Bytes) :
    lenient (lead :: bs) = (takeChar lead bs).1.getD replacement
      :: lenient (takeChar lead bs).2 := by
  rw [lenient, lenient, ofBytesLossy, ofBytesLossy, pieces,
    String.toList_ofList, String.toList_ofList, List.map_cons]

theorem pieces_charBytes (c : Char) (rest : Bytes) :
    pieces (charBytes c ++ rest) = some c :: pieces rest := by
  obtain ⟨-, lead, more, hc, -⟩ := charBytes_spells c
  rw [hc, List.cons_append, pieces, takeChar_eq_iff.2 (.char hc)]

/-- A character in front is read. -/
theorem lenient_charBytes (c : Char) (rest : Bytes) :
    lenient (charBytes c ++ rest) = c :: lenient rest := by
  rw [lenient, lenient, ofBytesLossy, ofBytesLossy, pieces_charBytes,
    String.toList_ofList, String.toList_ofList]
  rfl

/-- A broken part in front is replaced. -/
theorem lenient_broken (h : Broken part rest) :
    lenient (part ++ rest) = replacement :: lenient rest := by
  obtain ⟨lead, more, rfl⟩ := List.exists_cons_of_ne_nil h.ne_nil
  rw [List.cons_append, lenient_cons]
  have htakes := takeChar_takes lead (more ++ rest)
  generalize takeChar lead (more ++ rest) = taken at htakes
  obtain ⟨read, left⟩ := taken
  cases read with
  | some c =>
      generalize hbs : more ++ rest = bs at htakes
      cases htakes with
      | char hc =>
          refine absurd ?_ (h.noChar c)
          rw [List.cons_append, hbs, hc, ← List.cons_append]
          exact List.prefix_append ..
  | none =>
      obtain ⟨part, hsame, hpart⟩ := htakes.broken_part
      have hle := h.length_le hpart hsame
      have hge := hpart.length_le h hsame.symm
      obtain ⟨-, rfl⟩ := List.append_inj hsame (Nat.le_antisymm hge hle)
      rfl

/-- The lenient reading of some bytes is the one text that is decoded
from them. -/
theorem decoded_iff {text : List Char} :
    Decoded bs text ↔ lenient bs = text := by
  constructor
  · intro h
    induction h with
    | nil => exact lenient_nil
    | char c _ ih => rw [lenient_charBytes, ih]
    | broken hpart _ ih => rw [lenient_broken hpart, ih]
  · rintro rfl
    induction bs using pieces.induct with
    | case1 =>
        rw [lenient_nil]
        exact .nil
    | case2 lead bs ih =>
        rw [lenient_cons]
        have htakes := takeChar_takes lead bs
        generalize takeChar lead bs = taken at htakes ih
        obtain ⟨read, left⟩ := taken
        cases read with
        | some c =>
            cases htakes with
            | char hc =>
                have hdecoded := ih.char c
                rwa [hc] at hdecoded
        | none =>
            obtain ⟨part, hsame, hpart⟩ := htakes.broken_part
            rw [hsame]
            exact .broken hpart ih

-- ======================================================= ASCII bytes

/-- Every byte that fits is above the ASCII bytes. -/
theorem Fits.not_ascii (h : Fits lead more) (hb : b ∈ more) :
    128 ≤ b.toNat := by
  cases more with
  | nil => cases hb
  | cons first more =>
      rcases List.mem_cons.1 hb with rfl | hb
      · exact (admitsSecond_iff.1 h.1).1
      · exact (isContinuation_iff.1 (h.2 b hb)).1

/-- What is taken off before an ASCII byte does not depend on it. -/
theorem Takes.append {read : Option Char} (h : Takes lead bs (read, rest))
    (hb : b.toNat < 128) (tail : Bytes) :
    Takes lead (bs ++ b :: tail) (read, rest ++ b :: tail) := by
  cases h with
  | char hc =>
      rw [List.append_assoc]
      exact .char hc
  | stray hnone => exact .stray hnone
  | @broken more rest hfits hshort hstop =>
      rw [List.append_assoc]
      refine .broken hfits hshort fun d hd => ?_
      cases rest with
      | nil =>
          cases hd
          intro hfits
          have := hfits.not_ascii
            (List.mem_append_right more (List.mem_singleton_self b))
          omega
      | cons first rest => exact hstop d hd

/-- The character of an ASCII byte. -/
abbrev asciiChar (b : UInt8) : Char :=
  Char.ofNat b.toNat

/-- An ASCII byte stands for itself, and what is before it is read as if
it were alone. -/
theorem lenient_append (hb : b.toNat < 128) (bs rest : Bytes) :
    lenient (bs ++ b :: rest)
      = lenient bs ++ asciiChar b :: lenient rest := by
  induction bs using pieces.induct with
  | case1 =>
      have hchar : charBytes (asciiChar b) = [b] := charBytes_asChar hb
      have hread := lenient_charBytes (asciiChar b) rest
      rw [hchar] at hread
      rw [lenient_nil]
      exact hread
  | case2 lead bs ih =>
      rw [List.cons_append, lenient_cons, lenient_cons]
      have htakes := takeChar_takes lead bs
      generalize takeChar lead bs = taken at htakes ih ⊢
      obtain ⟨read, left⟩ := taken
      rw [takeChar_eq_iff.2 (htakes.append hb rest), ih,
        ← List.cons_append]

/-- No broken part is written as an ASCII character. -/
theorem replacement_ne (hb : b.toNat < 128) : replacement ≠ asciiChar b := by
  intro h
  have hnumber := congrArg Char.toNat h
  rw [toNat_asChar] at hnumber
  have hreplacement : replacement.toNat = 0xFFFD := by decide
  omega

/-- An ASCII character that is read was there as its byte. -/
theorem asciiChar_mem_lenient (hb : b.toNat < 128) :
    asciiChar b ∈ lenient bs ↔ b ∈ bs := by
  constructor
  · intro h
    have hdecoded := decoded_iff.2 (rfl : lenient bs = lenient bs)
    generalize lenient bs = text at h hdecoded
    induction hdecoded with
    | nil => cases h
    | char c _ ih =>
        rcases List.mem_cons.1 h with rfl | h
        · rw [charBytes_asChar hb]
          exact List.mem_cons_self ..
        · exact List.mem_append_right _ (ih h)
    | broken _ _ ih =>
        rcases List.mem_cons.1 h with heq | h
        · exact absurd heq.symm (replacement_ne hb)
        · exact List.mem_append_right _ (ih h)
  · intro h
    obtain ⟨before, behind, rfl⟩ := List.append_of_mem h
    rw [lenient_append hb]
    exact List.mem_append_right _ (List.mem_cons_self ..)

/-- So was one that is read last. -/
theorem getLast?_lenient (hb : b.toNat < 128) :
    (lenient bs).getLast? = some (asciiChar b) ↔ bs.getLast? = some b := by
  constructor
  · intro h
    have hdecoded := decoded_iff.2 (rfl : lenient bs = lenient bs)
    generalize lenient bs = text at h hdecoded
    induction hdecoded with
    | nil => cases h
    | @char rest text c hrest ih =>
        cases text with
        | nil =>
            obtain rfl : c = asciiChar b := Option.some.inj h
            cases hrest
            rw [charBytes_asChar hb]
            rfl
        | cons d text =>
            rw [List.getLast?_cons_cons] at h
            rw [List.getLast?_append, ih h]
            rfl
    | @broken part rest text _ hrest ih =>
        cases text with
        | nil => exact absurd (Option.some.inj h) (replacement_ne hb)
        | cons d text =>
            rw [List.getLast?_cons_cons] at h
            rw [List.getLast?_append, ih h]
            rfl
  · intro h
    obtain ⟨before, rfl⟩ := List.getLast?_eq_some_iff.1 h
    rw [lenient_append hb, lenient_nil]
    exact List.getLast?_concat

-- =========================================================== UTF-8

/-- The bytes of a text are read as the text. -/
theorem lenient_toBytes (text : String) :
    lenient (toBytes text) = text.toList := by
  rw [toBytes]
  generalize text.toList = cs
  induction cs with
  | nil => exact lenient_nil
  | cons c cs ih => rw [List.flatMap_cons, lenient_charBytes, ih]

/-- What is read without a break is the bytes of what is read. -/
theorem pieces_eq_iff {cs : List Char} :
    pieces bs = cs.map some ↔ bs = cs.flatMap charBytes := by
  constructor
  · intro h
    induction bs using pieces.induct generalizing cs with
    | case1 =>
        rw [pieces] at h
        rw [List.map_eq_nil_iff.1 h.symm]
        rfl
    | case2 lead bs ih =>
        rw [pieces] at h
        obtain ⟨c, cs, rfl, hc, hcs⟩ := List.map_eq_cons_iff.1 h.symm
        have htakes := takeChar_takes lead bs
        generalize takeChar lead bs = taken at htakes hc hcs ih
        obtain ⟨read, left⟩ := taken
        cases hc
        cases htakes with
        | char hbytes =>
            rw [List.flatMap_cons, hbytes, ← ih hcs.symm]
            rfl
  · rintro rfl
    induction cs with
    | nil => rw [List.flatMap_nil, pieces]; rfl
    | cons c cs ih =>
        rw [List.flatMap_cons, pieces_charBytes, ih, List.map_cons]

/-- All entries are there if each is. -/
private theorem mapM_id_eq_some {read : List (Option Char)}
    {cs : List Char} : read.mapM id = some cs ↔ read = cs.map some := by
  constructor
  · intro h
    induction read generalizing cs with
    | nil =>
        cases h
        rfl
    | cons p read ih =>
        rw [List.mapM_cons] at h
        obtain ⟨c, hp, h⟩ := Option.bind_eq_some_iff.1 h
        obtain ⟨cs, hread, h⟩ := Option.bind_eq_some_iff.1 h
        cases h
        obtain rfl : p = some c := hp
        rw [ih hread, List.map_cons]
  · rintro rfl
    induction cs with
    | nil => rfl
    | cons c cs ih =>
        rw [List.map_cons, List.mapM_cons, ih]
        rfl

/-- The strict reader reads the bytes of a text, and no others. -/
theorem ofBytes?_eq_some {text : String} :
    ofBytes? bs = some text ↔ bs = toBytes text := by
  constructor
  · intro h
    obtain ⟨cs, hcs, rfl⟩ := Option.map_eq_some_iff.1 h
    rw [toBytes, String.toList_ofList]
    exact pieces_eq_iff.1 (mapM_id_eq_some.1 hcs)
  · intro h
    rw [ofBytes?, mapM_id_eq_some.2 (pieces_eq_iff.2 h), Option.map_some,
      String.ofList_toList]

end RemoteProvision.Text
