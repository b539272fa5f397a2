/-
Records are read back.

A record is three fields, each a name and a string, so it is cut into
tokens string by string (`tokens_record`), and the reader finds each of
its fields once.  It stands on one line, since no string has a control
character in it.
-/
import RemoteProvision.Stamp
import RemoteProvision.Ui.Record
import RemoteProvision.Proofs.Json.Strings
import RemoteProvision.Proofs.Stamp

namespace RemoteProvision.Ui

open Json (quoted tokens tokens_cons tokens_quoted textOfUnits?
  textOfUnits?_units)
open Encoding (units)

-- ============================================================= writing

/-- The characters of a record. -/
theorem toList_record (time : String) (entry : Entry) :
    (entry.record time).toList
      = '\x7b' :: ((quoted "ts").toList
        ++ ':' :: ((quoted time).toList
        ++ ',' :: ((quoted "kind").toList
        ++ ':' :: ((quoted entry.kind.name).toList
        ++ ',' :: ((quoted "message").toList
        ++ ':' :: ((quoted entry.text).toList ++ ['\x7d'])))))) := by
  have hts : ("\x7b\"ts\":").toList
      = '\x7b' :: ((quoted "ts").toList ++ [':']) := by decide
  have hkind : (",\"kind\":").toList
      = ',' :: ((quoted "kind").toList ++ [':']) := by decide
  have hmessage : (",\"message\":").toList
      = ',' :: ((quoted "message").toList ++ [':']) := by decide
  simp only [Entry.record, String.toList_append, hts, hkind, hmessage,
    List.append_assoc, List.cons_append, List.nil_append]
  rfl

/-- A record stands on one line. -/
theorem feed_notMem_record (time : String) (entry : Entry) :
    '\n' ∉ (entry.record time).toList := by
  have hquoted : ∀ text, '\n' ∉ (quoted text).toList :=
    fun text hmem => absurd (Json.le_quoted text '\n' hmem) (by decide)
  rw [toList_record]
  simp only [List.mem_cons, List.mem_append, hquoted]
  decide

-- ============================================================= reading

/-- The tokens of a record. -/
theorem tokens_record (time : String) (entry : Entry) :
    tokens (entry.record time).toList
      = some [.openObject,
        .string (units "ts".toList), .colon,
        .string (units time.toList), .comma,
        .string (units "kind".toList), .colon,
        .string (units entry.kind.name.toList), .comma,
        .string (units "message".toList), .colon,
        .string (units entry.text.toList), .closeObject] := by
  have hcolon (rest : List Char) :
      tokens (':' :: rest) = (tokens rest).map (.colon :: ·) :=
    tokens_cons rfl rfl
  have hcomma (rest : List Char) :
      tokens (',' :: rest) = (tokens rest).map (.comma :: ·) :=
    tokens_cons rfl rfl
  have hopen (rest : List Char) :
      tokens ('\x7b' :: rest) = (tokens rest).map (.openObject :: ·) :=
    tokens_cons rfl rfl
  have hclose : tokens ['\x7d'] = some [.closeObject] := by
    rw [tokens_cons rfl (show Json.readToken ['\x7d'] = some (.closeObject, [])
      from rfl), tokens]
    rfl
  rw [toList_record, hopen, tokens_quoted, hcolon, tokens_quoted, hcomma,
    tokens_quoted, hcolon, tokens_quoted, hcomma, tokens_quoted, hcolon,
    tokens_quoted, hclose]
  rfl

/-- The tokens of an object with three fields, all of them strings, are
read as that object. -/
theorem reader_fields (name₁ text₁ name₂ text₂ name₃ text₃ : List UInt16) :
    ([.openObject,
        .string name₁, .colon, .string text₁, .comma,
        .string name₂, .colon, .string text₂, .comma,
        .string name₃, .colon, .string text₃,
        .closeObject].foldlM Json.Reader.step Json.Reader.start).bind
          Json.Reader.result?
      = some (.object
        [(textOfUnits? name₁, .string (textOfUnits? text₁)),
          (textOfUnits? name₂, .string (textOfUnits? text₂)),
          (textOfUnits? name₃, .string (textOfUnits? text₃))]) :=
  rfl

/-- The value of a record. -/
theorem read?_record (time : String) (entry : Entry) :
    Json.read? (entry.record time) = some (.object
      [(some "ts", .string (some time)),
        (some "kind", .string (some entry.kind.name)),
        (some "message", .string (some entry.text))]) := by
  have hvalue := reader_fields (units "ts".toList) (units time.toList)
    (units "kind".toList) (units entry.kind.name.toList)
    (units "message".toList) (units entry.text.toList)
  simp only [textOfUnits?_units] at hvalue
  rw [Json.read?, tokens_record]
  exact hvalue

/-- An object with the three fields of a record is read from their
values. -/
theorem ofValue?_fields (time kind text : Json.Value) :
    Record.ofValue? (.object
        [(some "ts", time), (some "kind", kind), (some "message", text)])
      = Record.ofValues? time kind text := by
  simp [Record.ofValue?, valuesOf]

/-- A record at the time of a stamp is read back. -/
theorem Record.read?_record (stamp : Stamp) (entry : Entry) :
    Record.read? (entry.record stamp.text)
      = some ⟨stamp.moment, entry⟩ := by
  rw [Record.read?, Ui.read?_record, Option.bind_eq_bind,
    Option.bind_some, ofValue?_fields, Record.ofValues?, readTime,
    readKind, readText, Stamp.read?_text, Kind.ofName?_name]
  rfl

end RemoteProvision.Ui
