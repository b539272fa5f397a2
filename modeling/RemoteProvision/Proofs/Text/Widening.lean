/-
How long bytes are when they are read leniently.

Any bytes are cut into characters and broken parts, and in one way only
(`Torn.unique`).  The lenient reader keeps the characters and puts U+FFFD
for each broken part.  So written out again, what is read has three bytes
for each broken part in place of its own (`Torn.balance`).

A broken part has three bytes at most, since a fourth would make it a
character (`Broken.length_le_three`).  What is read is therefore never
shorter than what was there, and it is as long just when every broken
part has three bytes (`Torn.exact_iff`).  The bytes of a text have no
broken part, and for them it always is.
-/
import RemoteProvision.Proofs.Text.Lenient

namespace RemoteProvision.Text

variable {rest part bs : Bytes} {parts : List Bytes}

-- ======================================================== torn bytes

/-- Bytes that are cut into characters and broken parts, with the broken
parts in their order. -/
inductive Torn : Bytes → List Bytes → Prop
  | nil : Torn [] []
  | char {rest : Bytes} {parts : List Bytes} (c : Char) :
      Torn rest parts → Torn (charBytes c ++ rest) parts
  | broken {part rest : Bytes} {parts : List Bytes} :
      Broken part rest → Torn rest parts →
      Torn (part ++ rest) (part :: parts)

/-- Any bytes can be cut. -/
theorem exists_torn (bs : Bytes) : ∃ parts, Torn bs parts := by
  have hdecoded := decoded_iff.2 (rfl : lenient bs = lenient bs)
  generalize lenient bs = text at hdecoded
  induction hdecoded with
  | nil => exact ⟨[], .nil⟩
  | char c _ ih =>
      obtain ⟨parts, htorn⟩ := ih
      exact ⟨parts, htorn.char c⟩
  | broken hpart _ ih =>
      obtain ⟨parts, htorn⟩ := ih
      exact ⟨_ :: parts, .broken hpart htorn⟩

/-- A text has nothing that is broken. -/
theorem torn_toBytes (text : String) : Torn (toBytes text) [] := by
  rw [toBytes]
  generalize text.toList = cs
  induction cs with
  | nil => exact .nil
  | cons c cs ih =>
      rw [List.flatMap_cons]
      exact ih.char c

/-- What begins with the bytes of a character does so with those of no
other, and behind them there is only one rest. -/
theorem charBytes_append_inj {c d : Char} {rest rest' : Bytes}
    (h : charBytes c ++ rest = charBytes d ++ rest') :
    c = d ∧ rest = rest' := by
  have hread := congrArg lenient h
  rw [lenient_charBytes, lenient_charBytes] at hread
  obtain ⟨rfl, -⟩ := List.cons.inj hread
  exact ⟨rfl, List.append_cancel_left h⟩

/-- There is one way to cut bytes. -/
theorem Torn.unique {parts' : List Bytes} (h : Torn bs parts)
    (h' : Torn bs parts') : parts = parts' := by
  induction h generalizing parts' with
  | nil =>
      generalize hbs : ([] : Bytes) = bs at h'
      cases h' with
      | nil => rfl
      | char c _ =>
          obtain ⟨-, lead, more, hc, -⟩ := charBytes_spells c
          rw [hc] at hbs
          cases hbs
      | broken hpart _ =>
          exact absurd (List.append_eq_nil_iff.1 hbs.symm).1 hpart.ne_nil
  | @char rest parts c _ ih =>
      generalize hbs : charBytes c ++ rest = bs at h'
      cases h' with
      | nil =>
          obtain ⟨-, lead, more, hc, -⟩ := charBytes_spells c
          rw [hc] at hbs
          cases hbs
      | char d hrest =>
          obtain ⟨-, rfl⟩ := charBytes_append_inj hbs
          exact ih hrest
      | broken hpart _ =>
          refine absurd ?_ (hpart.noChar c)
          rw [← hbs]
          exact List.prefix_append ..
  | @broken part rest parts hpart _ ih =>
      generalize hbs : part ++ rest = bs at h'
      cases h' with
      | nil =>
          exact absurd (List.append_eq_nil_iff.1 hbs).1 hpart.ne_nil
      | char d _ =>
          refine absurd ?_ (hpart.noChar d)
          rw [hbs]
          exact List.prefix_append ..
      | broken hpart' hrest =>
          have hle := hpart.length_le hpart' hbs
          have hge := hpart'.length_le hpart hbs.symm
          obtain ⟨rfl, rfl⟩ :=
            List.append_inj hbs (Nat.le_antisymm hge hle)
          rw [ih hrest]

-- ============================================================ lengths

/-- A broken part has three bytes at most: what begins a character with
four is the character. -/
theorem Broken.length_le_three (h : Broken part rest) :
    part.length ≤ 3 := by
  rcases h.begun with hbegins | hone
  · obtain ⟨lead, more, rfl⟩ := List.exists_cons_of_ne_nil h.ne_nil
    obtain ⟨hfits, hshort⟩ := beginsChar_iff.1 hbegins
    have hnot : more.length + 1 ≠ announced lead := by
      intro hlength
      obtain ⟨c, hc⟩ := exists_charBytes_iff.2 ⟨hlength, hfits⟩
      refine h.noChar c ?_
      rw [hc]
      exact List.prefix_append ..
    have hlead := announced_cases lead
    rw [List.length_cons]
    omega
  · omega

theorem Torn.length_le_three (h : Torn bs parts) :
    ∀ part ∈ parts, part.length ≤ 3 := by
  induction h with
  | nil => exact nofun
  | char _ _ ih => exact ih
  | broken hpart _ ih =>
      exact List.forall_mem_cons.2 ⟨hpart.length_le_three, ih⟩

/-- How many bytes the lenient reading of some bytes is written with. -/
def lenientLength (bs : Bytes) : Nat :=
  (toBytes (ofBytesLossy bs)).length

theorem lenientLength_eq (bs : Bytes) :
    lenientLength bs = ((lenient bs).flatMap charBytes).length := rfl

/-- Every broken part is counted with three bytes in place of its own. -/
theorem Torn.balance (h : Torn bs parts) :
    lenientLength bs + parts.flatten.length
      = bs.length + 3 * parts.length := by
  induction h with
  | nil =>
      rw [lenientLength_eq, lenient_nil]
      rfl
  | char c _ ih =>
      rw [lenientLength_eq] at ih ⊢
      rw [lenient_charBytes, List.flatMap_cons, List.length_append,
        List.length_append]
      omega
  | broken hpart _ ih =>
      have hthree : (charBytes replacement).length = 3 := by decide
      rw [lenientLength_eq] at ih ⊢
      rw [lenient_broken hpart, List.flatMap_cons, List.flatten_cons,
        List.length_append, List.length_append, List.length_append,
        List.length_cons, hthree]
      omega

/-- Lists that are no longer than a bound fill it if each of them
does. -/
theorem length_flatten_eq_iff {α : Type} {n : Nat} {lists : List (List α)}
    (h : ∀ list ∈ lists, list.length ≤ n) :
    lists.flatten.length ≤ n * lists.length ∧
    (lists.flatten.length = n * lists.length
      ↔ ∀ list ∈ lists, list.length = n) := by
  induction lists with
  | nil => exact ⟨Nat.zero_le _, fun _ => nofun, fun _ => rfl⟩
  | cons list lists ih =>
      obtain ⟨hfirst, hrest⟩ := List.forall_mem_cons.1 h
      obtain ⟨hle, hiff⟩ := ih hrest
      rw [List.flatten_cons, List.length_append, List.length_cons,
        Nat.mul_succ, List.forall_mem_cons, ← hiff]
      omega

/-- What is read is never shorter than what was there. -/
theorem Torn.length_le (h : Torn bs parts) :
    bs.length ≤ lenientLength bs := by
  have hle := (length_flatten_eq_iff h.length_le_three).1
  have hbalance := h.balance
  omega

/-- It is as long just when every broken part has three bytes. -/
theorem Torn.exact_iff (h : Torn bs parts) :
    lenientLength bs = bs.length ↔ ∀ part ∈ parts, part.length = 3 := by
  have hbalance := h.balance
  rw [← (length_flatten_eq_iff h.length_le_three).2]
  omega

/-- A text is as long as it was. -/
theorem lenientLength_toBytes (text : String) :
    lenientLength (toBytes text) = (toBytes text).length :=
  (torn_toBytes text).exact_iff.2 nofun

end RemoteProvision.Text
