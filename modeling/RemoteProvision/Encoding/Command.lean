/-
Commands as one safe argument.

PowerShell takes a whole command as the argument of `-EncodedCommand`:
the base64 form of its UTF-16 bytes, low bytes first.  The result has
only letters, digits, `+`, `/` and `=`, so no shell in between can read
anything into it.

Reading the argument back allows blanks around it and refuses whatever
no command is written as.
-/
import RemoteProvision.Encoding.Base64
import RemoteProvision.Encoding.Utf16
import RemoteProvision.Text.Blank
import RemoteProvision.Text.Utf8

namespace RemoteProvision.Encoding

-- ========================================================= writing

/-- The argument that carries a command. -/
def encodeCommand (command : String) : String :=
  String.ofList
    ((Base64.encode (unitBytes (units command.toList))).map
      fun b => Char.ofNat b.toNat)

-- ========================================================== faults

/-- Why an argument carries no command. -/
inductive CommandFault where
  /-- The argument is not base64. -/
  | notBase64 (fault : Base64.Fault)
  /-- The bytes are not pairs. -/
  | oddLength (length : Nat)
  /-- A surrogate stands alone. -/
  | loneSurrogate
deriving DecidableEq

/-- The text of a fault. -/
def CommandFault.message : CommandFault → String
  | .notBase64 fault => "invalid base64: " ++ fault.message
  | .oddLength length =>
    "decoded payload has odd length " ++ toString length
      ++ " (expected UTF-16LE)"
  | .loneSurrogate =>
    "invalid UTF-16: invalid utf-16: lone surrogate found"

-- ========================================================= reading

/-- The command that an argument carries, blanks around it ignored. -/
def decodeCommand (argument : String) : Except CommandFault String :=
  let trimmed := (Text.trim argument.toList).flatMap Text.charBytes
  match Base64.decode trimmed with
  | .error fault => .error (.notBase64 fault)
  | .ok bytes =>
    if bytes.length % 2 ≠ 0 then .error (.oddLength bytes.length)
    else
      match ofUnits? (ofUnitBytes bytes) with
      | none => .error .loneSurrogate
      | some cs => .ok (String.ofList cs)

end RemoteProvision.Encoding
