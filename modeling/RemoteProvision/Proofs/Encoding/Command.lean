/-
Commands and their arguments, back and forth.

Three codecs stand one behind the other: a text and its units, units and
their bytes, bytes and their written form.  Each reads exactly what it
writes, so an argument carries a command just if it is what the command
is written as, blanks at its ends aside (`decodeCommand_ok_iff`).

Which arguments carry a command at all is then the question of which
bytes are those of a text: an even number, and no surrogate alone
(`WellFormed`).
-/
import RemoteProvision.Encoding.Command
import RemoteProvision.Proofs.Encoding.Base64
import RemoteProvision.Proofs.Encoding.Utf16
import RemoteProvision.Proofs.Text.Trim

namespace RemoteProvision.Encoding

open RemoteProvision.Text (asChars trim trim_of_noBlank isBlank
  flatMap_charBytes_iff)

/-- The bytes of a command. -/
def commandBytes (command : String) : List UInt8 :=
  unitBytes (units command.toList)

/-- Bytes that are a text in UTF-16, low bytes first. -/
def WellFormed (bytes : List UInt8) : Prop :=
  bytes.length % 2 = 0 ∧ Paired (ofUnitBytes bytes)

-- ======================================================= the argument

theorem toList_encodeCommand (command : String) :
    (encodeCommand command).toList
      = asChars (Base64.encode (commandBytes command)) :=
  String.toList_ofList

/-- What holds of the alphabet and the fill holds of the characters of
an argument. -/
theorem encodeCommand_all {p : Char → Bool}
    (h : ('=' :: Base64.alphabet).all p = true) (command : String) :
    ∀ c ∈ (encodeCommand command).toList, p c = true := by
  rw [toList_encodeCommand]
  exact fun c hc => List.all_eq_true.1 h c (Base64.mem_asChars_encode hc)

theorem notMem_encodeCommand {x : Char}
    (h : ('=' :: Base64.alphabet).all (· != x) = true)
    (command : String) : x ∉ (encodeCommand command).toList :=
  fun hx => bne_iff_ne.1 (encodeCommand_all h command x hx) rfl

/-- An argument has no blanks to lose. -/
theorem trim_encodeCommand (command : String) :
    trim (encodeCommand command).toList = (encodeCommand command).toList := by
  have hall : ('=' :: Base64.alphabet).all (fun c => !isBlank c) = true := by
    decide +kernel
  refine trim_of_noBlank fun c hc => ?_
  rw [← Bool.not_eq_true']
  exact encodeCommand_all hall command c hc

-- =========================================================== the bytes

/-- The bytes of a command are read as the command. -/
theorem ofUnits?_commandBytes (command : String) :
    ofUnits? (ofUnitBytes (commandBytes command)) = some command.toList := by
  rw [commandBytes, ofUnitBytes_unitBytes, ofUnits?_units]

theorem wellFormed_commandBytes (command : String) :
    WellFormed (commandBytes command) := by
  refine ⟨?_, (exists_ofUnits?_iff _).1 ⟨_, ofUnits?_commandBytes command⟩⟩
  rw [commandBytes, length_unitBytes, Nat.mul_mod_right]

/-- Bytes that are read as a command are the command's. -/
theorem commandBytes_of_read {bytes : List UInt8} {cs : List Char}
    (heven : bytes.length % 2 = 0)
    (hread : ofUnits? (ofUnitBytes bytes) = some cs) :
    commandBytes (String.ofList cs) = bytes := by
  rw [commandBytes, String.toList_ofList, units_of_ofUnits? hread,
    unitBytes_ofUnitBytes heven]

/-- Well-formed bytes are those of some command. -/
theorem WellFormed.exists_command {bytes : List UInt8}
    (h : WellFormed bytes) : ∃ command, commandBytes command = bytes := by
  obtain ⟨cs, hcs⟩ := (exists_ofUnits?_iff _).2 h.2
  exact ⟨String.ofList cs, commandBytes_of_read h.1 hcs⟩

-- ============================================================ reading

/-- An argument carries a command just if it is what the command is
written as, blanks at its ends aside. -/
theorem decodeCommand_ok_iff {argument command : String} :
    decodeCommand argument = .ok command
      ↔ trim argument.toList = (encodeCommand command).toList := by
  rw [toList_encodeCommand, ← flatMap_charBytes_iff
    (Base64.encode_ascii (commandBytes command))]
  unfold decodeCommand
  generalize (trim argument.toList).flatMap Text.charBytes = trimmed
  constructor
  · intro h
    cases hdecode : Base64.decode trimmed with
    | error fault => simp only [hdecode] at h; cases h
    | ok bytes =>
        simp only [hdecode] at h
        split at h
        · cases h
        · next heven =>
            cases hread : ofUnits? (ofUnitBytes bytes) with
            | none => rw [hread] at h; cases h
            | some cs =>
                rw [hread] at h
                cases h
                rw [commandBytes_of_read (Decidable.not_not.1 heven)
                  hread]
                exact (Base64.decode_ok_iff.1 hdecode).symm
  · rintro rfl
    have heven := (wellFormed_commandBytes command).1
    simp only [Base64.decode_ok_iff.2 rfl, ofUnits?_commandBytes, heven,
      ne_eq, not_true_eq_false, if_false, String.ofList_toList]

/-- A command is read back from its argument. -/
theorem decodeCommand_encodeCommand (command : String) :
    decodeCommand (encodeCommand command) = .ok command :=
  decodeCommand_ok_iff.2 (trim_encodeCommand command)

/-- Reading and writing commands are inverse to each other, up to blanks
around an argument.  An argument carries a command if it is the base64
form of well-formed bytes, and no two commands share an argument. -/
theorem decodeCommand_canonical (argument command other : String) :
    decodeCommand (encodeCommand command) = .ok command ∧
    (decodeCommand argument = .ok command
      ↔ encodeCommand command = String.ofList (trim argument.toList)) ∧
    ((∃ carried, decodeCommand argument = .ok carried)
      ↔ ∃ bytes, Base64.Canonical bytes (trim argument.toList) ∧
          WellFormed bytes) ∧
    (encodeCommand command = encodeCommand other ↔ command = other) := by
  refine ⟨decodeCommand_encodeCommand command, ?_, ?_, ?_⟩
  · rw [decodeCommand_ok_iff, ← String.toList_inj, String.toList_ofList]
    exact eq_comm
  · constructor
    · rintro ⟨carried, h⟩
      rw [decodeCommand_ok_iff, toList_encodeCommand] at h
      exact ⟨commandBytes carried, Base64.canonical_iff.2 h,
        wellFormed_commandBytes carried⟩
    · rintro ⟨bytes, hcanonical, hformed⟩
      obtain ⟨carried, rfl⟩ := hformed.exists_command
      refine ⟨carried, decodeCommand_ok_iff.2 ?_⟩
      rw [toList_encodeCommand]
      exact Base64.canonical_iff.1 hcanonical
  · refine ⟨fun h => ?_, fun h => h ▸ rfl⟩
    have hread := decodeCommand_encodeCommand command
    rw [h, decodeCommand_encodeCommand other] at hread
    cases hread
    rfl

end RemoteProvision.Encoding
