/-
Characters of ids.

Ids become part of file names and of the names of tasks, and are not
quoted there.  So it matters that they are plain: letters, digits and
hyphens only.  Both sources of ids give such ids, the one that counts up
if its stem is plain.
-/
import RemoteProvision.Ids

namespace RemoteProvision.Ids

-- ============================================================= plain

/-- A text of ASCII letters, digits and hyphens. -/
def Plain (text : String) : Prop :=
  ∀ c ∈ text.toList, c.isAlphanum = true ∨ c = '-'

theorem plain_iff_all {text : String} :
    Plain text
      ↔ (text.toList.all fun c => c.isAlphanum || c == '-') = true := by
  simp only [Plain, List.all_eq_true, Bool.or_eq_true, beq_iff_eq]

instance (text : String) : Decidable (Plain text) :=
  decidable_of_iff _ plain_iff_all.symm

theorem Plain.append {a b : String} (ha : Plain a) (hb : Plain b) :
    Plain (a ++ b) := by
  rw [Plain, String.toList_append]
  exact List.forall_mem_append.2 ⟨ha, hb⟩

/-- A plain text holds none of the other characters. -/
theorem Plain.notMem {text : String} (h : Plain text) {x : Char}
    (hx : x.isAlphanum = false) (hx' : x ≠ '-') : x ∉ text.toList := by
  intro hmem
  rcases h x hmem with halnum | hhyphen
  · rw [hx] at halnum
    cases halnum
  · exact hx' hhyphen

-- =========================================================== sources

theorem plain_toString (n : Nat) : Plain (toString n) := by
  intro c hc
  have hdigit : c.isDigit = true := by
    rw [show toString n = String.ofList (Nat.toDigits 10 n) from rfl,
      String.toList_ofList] at hc
    exact Nat.isDigit_of_mem_toDigits (by decide) (by decide) hc
  rw [Char.isAlphanum, hdigit, Bool.or_true]
  exact .inl rfl

/-- The ids that count up are plain if their stem is. -/
theorem plain_counting {stem : String} (h : Plain stem) (n : Nat) :
    Plain ((counting stem).answer n) :=
  h.append (plain_toString _)

/-- Numbers that are written alike are equal. -/
theorem toString_inj {m n : Nat} (h : toString m = toString n) :
    m = n := by
  have hdigits : Nat.toDigits 10 m = Nat.toDigits 10 n := by
    rw [← String.toList_ofList (l := Nat.toDigits 10 m),
      ← String.toList_ofList (l := Nat.toDigits 10 n)]
    exact congrArg String.toList h
  have hbase : 1 < 10 ∧ 10 ≤ 10 := by decide
  rw [← Nat.ofDigitChars_toDigits (n := m) hbase.1 hbase.2, hdigits,
    Nat.ofDigitChars_toDigits hbase.1 hbase.2]

/-- Until the counter begins again, no id comes twice, whatever the stem
is. -/
theorem counting_inj {stem : String} {m n : Nat}
    (hm : m + 1 < counterValues) (hn : n + 1 < counterValues)
    (h : (counting stem).answer m = (counting stem).answer n) :
    m = n := by
  have hcounter : toString ((m + 1) % counterValues)
      = toString ((n + 1) % counterValues) :=
    (String.append_right_inj stem).1 h
  have hnumber := toString_inj hcounter
  rw [Nat.mod_eq_of_lt hm, Nat.mod_eq_of_lt hn] at hnumber
  exact Nat.succ.inj hnumber

theorem hexDigits_alphanum (count n : Nat) :
    ∀ c ∈ hexDigits count n, c.isAlphanum = true := by
  have hdigit : ∀ k < 16, (hexDigit k).isAlphanum = true := by decide
  induction count generalizing n with
  | zero => exact nofun
  | succ count ih =>
      intro c hc
      rcases List.mem_append.1 hc with hmem | hmem
      · exact ih (n / 16) c hmem
      · obtain rfl := List.mem_singleton.1 hmem
        exact hdigit _ (Nat.mod_lt n (by decide))

/-- The time-ordered ids are plain. -/
theorem plain_timeOrdered (millis n : Nat) :
    Plain ((timeOrdered millis).answer n) := by
  show Plain (uuid7 _ _)
  rw [Plain, uuid7, String.toList_ofList]
  have hdigits : ∀ count k, ∀ c ∈ hexDigits count k,
      c.isAlphanum = true ∨ c = '-' :=
    fun count k c hc => .inl (hexDigits_alphanum count k c hc)
  have hhyphen : '-'.isAlphanum = true ∨ '-' = '-' := .inr rfl
  have hversion : '7'.isAlphanum = true ∨ '7' = '-' := .inl (by decide)
  refine List.forall_mem_append.2 ⟨List.forall_mem_append.2
    ⟨List.forall_mem_append.2 ⟨List.forall_mem_append.2
      ⟨hdigits _ _, ?_⟩, ?_⟩, ?_⟩, ?_⟩
  · exact List.forall_mem_cons.2 ⟨hhyphen, hdigits _ _⟩
  · exact List.forall_mem_cons.2 ⟨hhyphen,
      List.forall_mem_cons.2 ⟨hversion, hdigits _ _⟩⟩
  · exact List.forall_mem_cons.2 ⟨hhyphen, hdigits _ _⟩
  · exact List.forall_mem_cons.2 ⟨hhyphen, hdigits _ _⟩

end RemoteProvision.Ids
