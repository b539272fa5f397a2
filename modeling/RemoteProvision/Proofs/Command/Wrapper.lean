/-
The wrapper script is always there.

The wrapper is filled from a template that is not the user's, and its
six slots name fields that every task has.  So filling it cannot fail,
whatever the credentials, the description and the command hold, and the
script is the fixed pieces with the six values between them
(`ElevatedTask.wrapper_eq`).

The pieces hold single braces, as scripts do.  That none of them holds
`{{` is read off their lines.
-/
import RemoteProvision.Command.Elevated
import RemoteProvision.Proofs.Template.Joining

namespace RemoteProvision.Command

open RemoteProvision.Template
open RemoteProvision.Text (isBlank)

-- ======================================================== the pieces

/-- No piece holds `{{`, and none with a slot behind it ends in a
brace. -/
theorem pieces_plain :
    cutAtDouble '\x7b' (wrapperHead.toList ++ ['\x7b']) = none ∧
    cutAtDouble '\x7b' (wrapperTask.toList ++ ['\x7b']) = none ∧
    cutAtDouble '\x7b' (wrapperSettings.toList ++ ['\x7b']) = none ∧
    cutAtDouble '\x7b' (wrapperLog.toList ++ ['\x7b']) = none ∧
    cutAtDouble '\x7b' (wrapperRegister.toList ++ ['\x7b']) = none ∧
    cutAtDouble '\x7b' (wrapperPair.toList ++ ['\x7b']) = none ∧
    cutAtDouble '\x7b' wrapperTail.toList = none := by
  rw [wrapperHead, wrapperTask, wrapperSettings, wrapperLog,
    wrapperRegister, wrapperPair, wrapperTail]
  simp only [String.toList_intercalate, List.map, String.toList_append]
  repeat rw [String.toList_ofList]
  decide +kernel

-- ======================================================== the script

/-- A slot is its name behind a dot, between double braces. -/
theorem toList_slot (name : String) :
    (slot name).toList
      = '\x7b' :: '\x7b' :: ('.' :: name.toList ++ ['\x7d', '\x7d']) := by
  have hopen : "\x7b\x7b.".toList = ['\x7b', '\x7b', '.'] := by decide
  have hclose : "\x7d\x7d".toList = ['\x7d', '\x7d'] := by decide
  rw [slot, String.toList_append, String.toList_append, hopen, hclose]
  rfl

theorem getLast?_slot (name : String) :
    (slot name).toList.getLast? = some '\x7d' := by
  have hclose : "\x7d\x7d".toList.getLast? = some '\x7d' := by decide
  rw [slot, String.toList_append, List.getLast?_append, hclose]
  rfl

/-- A piece of a template with a slot behind it. -/
private theorem fills_slot {fields : Fields} {piece name value : String}
    {rest out : List Char}
    (hpiece : cutAtDouble '\x7b' (piece.toList ++ ['\x7b']) = none)
    (hname : (name.toList.all fun c => !isBlank c && c != '\x7d') = true)
    (hvalue : fields name = some value) (hrest : Fills fields rest out) :
    Fills fields (piece.toList ++ ((slot name).toList ++ rest))
      (piece.toList ++ (value.toList ++ out)) := by
  have hplain : ∀ c ∈ name.toList, isBlank c = false ∧ c ≠ '\x7d' := by
    intro c hc
    have hc := List.all_eq_true.1 hname c hc
    rw [Bool.and_eq_true, Bool.not_eq_true', bne_iff_ne] at hc
    exact hc
  rw [cutAtDouble_eq_none_iff, pair_append_iff, not_or, not_or] at hpiece
  have hcopied : Fills fields piece.toList piece.toList :=
    .plain (cutAtDouble_eq_none_iff.2 hpiece.1)
  have hslot : Fills fields (slot name).toList value.toList := by
    rw [toList_slot]
    exact .reference hplain hvalue
  have hbefore : Apart piece.toList ((slot name).toList ++ rest) :=
    .of_last (fun hlast => hpiece.2.2 ⟨hlast, rfl⟩) _
  have hbehind : Apart (slot name).toList rest := by
    refine .of_last ?_ _
    rw [getLast?_slot]
    decide
  exact hcopied.append (hslot.append hrest hbehind) hbefore

namespace ElevatedTask

/-- The fixed pieces with the values of a task between them. -/
def script (task : ElevatedTask) : String :=
  wrapperHead ++ (task.name
    ++ (wrapperTask ++ (escapeXml task.description
    ++ (wrapperSettings ++ (task.encodedCommand
    ++ (wrapperLog ++ (task.name
    ++ (wrapperRegister ++ (quoteSingle task.user
    ++ (wrapperPair ++ (quoteSingle task.password
    ++ wrapperTail)))))))))))

/-- Filling the wrapper cannot fail, and this is what comes out. -/
theorem wrapper_eq (task : ElevatedTask) :
    task.wrapper = .ok task.script := by
  have hfills : Fills (Fields.ofList task.fields)
      wrapperTemplate.toList task.script.toList := by
    simp only [wrapperTemplate, script, String.toList_append,
      List.append_assoc]
    obtain ⟨hhead, htask, hsettings, hlog, hregister, hpair, htail⟩ :=
      pieces_plain
    refine fills_slot hhead (by decide) ?_ ?_
    · rfl
    refine fills_slot htask (by decide) ?_ ?_
    · rfl
    refine fills_slot hsettings (by decide) ?_ ?_
    · rfl
    refine fills_slot hlog (by decide) ?_ ?_
    · rfl
    refine fills_slot hregister (by decide) ?_ ?_
    · rfl
    refine fills_slot hpair (by decide) ?_ ?_
    · rfl
    exact Fills.plain htail
  rw [wrapper, render_of_fills hfills, String.ofList_toList]

end ElevatedTask

end RemoteProvision.Command
