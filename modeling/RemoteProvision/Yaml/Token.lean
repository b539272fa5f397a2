/-
The tokens of a YAML text.

A text is cut into tokens before its structure is known.  Indentation is
part of the tokens already: a block of entries or of keys begins and
ends with a token of its own, although the text shows no character for
it.
-/
import RemoteProvision.Yaml.Cursor

namespace RemoteProvision.Yaml

/-- How a scalar is written. -/
inductive Style where
  | plain
  | singleQuoted
  | doubleQuoted
  /-- A block whose line ends count. -/
  | literal
  /-- A block whose line ends are folded. -/
  | folded
deriving DecidableEq

/-- The kinds of tokens. -/
inductive TokenKind where
  | streamEnd
  | versionDirective (major minor : Nat)
  | tagDirective (handle stem : String)
  | documentStart
  | documentEnd
  | blockSequenceStart
  | blockMappingStart
  | blockEnd
  | flowSequenceStart
  | flowSequenceEnd
  | flowMappingStart
  | flowMappingEnd
  | blockEntry
  | flowEntry
  | key
  | value
  | aliasOf (name : String)
  | anchor (name : String)
  | tag (handle suffix : String)
  | scalar (style : Style) (text : String)
deriving DecidableEq

/-- A token, and where it begins, counted from zero. -/
structure Token where
  kind : TokenKind
  line : Nat
  column : Nat

/-- A fault at a token. -/
def Token.fault {α : Type} (t : Token) (problem : String) :
    Except Fault α :=
  .error ⟨problem, t.line + 1, t.column + 1⟩

end RemoteProvision.Yaml
