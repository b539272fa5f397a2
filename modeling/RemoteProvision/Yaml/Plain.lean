/-
Plain scalars.

A plain scalar stands without quotes.  It ends before a colon that a
blank follows, before a comment, and between brackets also before a
comma or a bracket.  It may go on on further lines as long as they are
indented deeper than what it belongs to.
-/
import RemoteProvision.Yaml.Folding

namespace RemoteProvision.Yaml.Plain

/-- The characters that have a meaning between brackets. -/
def isFlowMark (c : Char) : Bool :=
  c == ',' || c == '[' || c == ']' || c == '\x7b' || c == '\x7d'

/-- Whether a word of a plain scalar ends here. -/
def endsHere (inFlow : Bool) (c : Cursor) : Bool :=
  (c.sees ':' && endsWord (c.ahead 1))
    || (inFlow && c.here.any isFlowMark)

/-- Whether a colon here can be neither part of the scalar nor its
end. -/
def strayColon (inFlow : Bool) (c : Cursor) : Bool :=
  inFlow && c.sees ':'
    && (c.ahead 1).any fun ch => isFlowMark ch || ch == '?'

/-- Takes one word. -/
def word (inFlow : Bool) :
    Nat → String → Cursor → Except Fault (String × Cursor)
  | 0, text, c => .ok (text, c)
  | fuel + 1, text, c =>
    match c.here with
    | none => .ok (text, c)
    | some ch =>
      if endsWord (some ch) then .ok (text, c)
      else if strayColon inFlow c then c.fault "found unexpected ':'"
      else if endsHere inFlow c then .ok (text, c)
      else word inFlow fuel (text.push ch) (c.skip 1)

/-- Takes words and the gaps between them.  Answers with the text, the
cursor behind it and whether it ends with a line end. -/
def words (inFlow : Bool) (margin : Nat) :
    Nat → String → Gap → Cursor → Except Fault (String × Cursor × Bool)
  | 0, text, g, c => .ok (text, c, g.broken)
  | fuel + 1, text, g, c => do
    if c.seesDocumentMarker || c.sees '#' then
      return (text, c, g.broken)
    let (next, c') ← word inFlow (c.rest.length + 1) "" c
    let joined :=
      if next.isEmpty then text
      else text ++ String.ofList g.text ++ next
    let carried : Gap := if next.isEmpty then g else {}
    match c'.here with
    | none => return (joined, c', carried.broken)
    | some ch =>
      if endsWord (some ch) then
        let (g', c'') ← Gap.read margin carried c'
        if !inFlow && c''.column < margin then
          return (joined, c'', g'.broken)
        words inFlow margin fuel joined g' c''
      else return (joined, c', carried.broken)

/-- Takes a plain scalar. -/
def read (inFlow : Bool) (margin : Nat) (c : Cursor) :
    Except Fault (String × Cursor × Bool) :=
  words inFlow margin (c.rest.length + 1) "" {} c

end RemoteProvision.Yaml.Plain
