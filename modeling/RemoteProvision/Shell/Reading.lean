/-
Reading a shell script.

A script is read token by token, one complete line of commands at a
time, since a line may change how the next one is read.  A line that
cannot be read spoils the rest of the script, but not what stands before
it.

Inside quotes, braces and expressions other characters have a meaning
than outside.  The rules for each are one manner of reading; a part that
is replaced is read in a manner of its own, whatever is around it.
-/
import RemoteProvision.Shell.Token

namespace RemoteProvision.Shell

-- ======================================================== manners

/-- The manners of reading text. -/
inductive Manner where
  /-- A word outside of all quotes. -/
  | bare
  | quotes
  /-- The word of a parameter in braces, outside of quotes. -/
  | braces
  /-- The same inside quotes; inside further quotes a brace does not
  close it. -/
  | quotedBraces (inner : Bool)
  /-- The same in a text in the script. -/
  | hereBraces (inner : Bool)
  /-- A text in the script. -/
  | here
  | expression (depth : Nat)
  /-- The line that ends a text in the script. -/
  | marker
deriving DecidableEq

/-- Whether what is read in a manner counts as quoted. -/
def Manner.quoted : Manner → Bool
  | .bare | .braces | .marker => false
  | _ => true

/-- The manner of the word of a parameter in braces. -/
def Manner.inBraces : Manner → Manner
  | .bare | .braces | .marker => .braces
  | .here | .hereBraces _ => .hereBraces false
  | _ => .quotedBraces false

/-- What is wrong when the script ends in a manner. -/
def Manner.unfinished : Manner → String
  | .braces | .hereBraces _ => "Missing '\x7d'"
  | .expression _ => "Missing '))'"
  | _ => "Unterminated quoted string"

/-- The characters that a backslash takes the meaning from. -/
def Manner.escapes : Manner → List Char
  | .quotes => ['\x5c', '\x60', '$', '\x22']
  | .quotedBraces _ | .hereBraces _ =>
    ['\x5c', '\x60', '$', '\x22', '\x7d']
  | _ => ['\x5c', '\x60', '$']

/-- Parts with one more character of text. -/
def pushChar (parts : List Part) (c : Char) (quoted : Bool) : List Part :=
  match parts with
  | .text s q :: more =>
    if q == quoted then .text (s.push c) q :: more
    else .text c.toString quoted :: parts
  | _ => .text c.toString quoted :: parts

/-- Takes the text behind a single quote. -/
def singleQuoted : Nat → String → Read String
  | 0, text => return text
  | fuel + 1, text => do
    match ← peekRaw with
    | none => refuse "Unterminated quoted string"
    | some '\x27' => skipOne; return text
    | some c => skipOne; singleQuoted fuel (text.push c)

/-- Takes the text behind a back quote, as it is to be read. -/
def backQuoted (quoted : Bool) : Nat → List Char → Read (List Char)
  | 0, text => return text.reverse
  | fuel + 1, text => do
    match ← peek with
    | none => refuse "EOF in backquote substitution"
    | some '\x60' => skipOne; return text.reverse
    | some '\x5c' =>
      skipOne
      match ← peekRaw with
      | none => refuse "EOF in backquote substitution"
      | some c =>
        skipOne
        if c == '\x60' || c == '\x5c' || c == '$'
            || (quoted && c == '\x22') then
          backQuoted quoted fuel (c :: text)
        else backQuoted quoted fuel (c :: '\x5c' :: text)
    | some c => skipOne; backQuoted quoted fuel (c :: text)

/-- The operator that a character stands for. -/
def operator? (c : Char) : Option Operator :=
  match c with
  | '-' => some .instead
  | '=' => some .assigned
  | '?' => some .complain
  | '+' => some .present
  | _ => none

-- =========================================================== lines

/-- Takes a line with its end. -/
def takeLine : Read (List Char) := do
  let rest := (← get).rest
  let line := rest.takeWhile (· != '\n')
  let whole := if line.length < rest.length then line ++ ['\n'] else line
  skip whole.length
  return whole

/-- Whether a line ends in a backslash that has a meaning. -/
def isJoined (line : List Char) : Bool :=
  let back := (line.reverse.drop 1).takeWhile (· == '\x5c')
  back.length % 2 == 1

/-- Takes the lines of an awaited text. -/
def textLines (a : Awaited) : Nat → Bool → List (List Char) →
    Read (List Char)
  | 0, _, found => return found.reverse.flatten
  | fuel + 1, joined, found => do
    if (← get).rest.isEmpty then return found.reverse.flatten
    let line ← takeLine
    let line :=
      if a.dropsTabs && !joined then line.dropWhile (· == '\t') else line
    let bare := line.takeWhile (· != '\n')
    if !joined && bare == a.marker.toList then
      return found.reverse.flatten
    textLines a fuel (a.active && isJoined line) (line :: found)

mutual

-- =========================================================== parts

/-- Takes parts in a manner, up to what ends it. -/
def parts : Nat → Manner → List Part → Read (List Part)
  | 0, manner, _ => refuse manner.unfinished
  | fuel + 1, manner, found => do
    let plain (c : Char) : Read (List Part) := do
      skipOne
      parts fuel manner (pushChar found c manner.quoted)
    match ← peek with
    | none =>
      match manner with
      | .bare | .here | .marker => return found.reverse
      | _ => refuse manner.unfinished
    | some c =>
      match manner, c with
      | .quotes, '\x22' => skipOne; return found.reverse
      | .quotedBraces inner, '\x22' =>
        skipOne
        parts fuel (.quotedBraces !inner) found
      | .hereBraces inner, '\x22' =>
        skipOne
        parts fuel (.hereBraces !inner) found
      | .quotedBraces false, '\x7d' => skipOne; return found.reverse
      | .hereBraces false, '\x7d' => skipOne; return found.reverse
      | .braces, '\x7d' => skipOne; return found.reverse
      | .expression depth, '(' =>
        skipOne
        parts fuel (.expression (depth + 1)) (pushChar found c true)
      | .expression 0, ')' =>
        skipOne
        if ← accept ')' then return found.reverse
        parts fuel manner (pushChar found c true)
      | .expression (depth + 1), ')' =>
        skipOne
        parts fuel (.expression depth) (pushChar found c true)
      | _, '$' => parts fuel manner ((← dollar fuel manner) :: found)
      | _, '\x60' =>
        parts fuel manner ((← backTicks fuel manner.quoted) :: found)
      | _, '\x5c' =>
        skipOne
        match ← peekRaw with
        | none => parts fuel manner (pushChar found '\x5c' true)
        | some d =>
          skipOne
          if manner.quoted && !manner.escapes.contains d then
            parts fuel manner
              (pushChar (pushChar found '\x5c' true) d true)
          else parts fuel manner (pushChar found d true)
      | _, '\x27' =>
        if manner.quoted then plain c
        else
          skipOne
          let text ← singleQuoted (← left) ""
          parts fuel manner (.text text true :: found)
      | _, '\x22' =>
        if manner.quoted then plain c
        else
          skipOne
          let inside ← parts fuel .quotes []
          let inside := if inside.isEmpty then [.text "" true] else inside
          parts fuel manner (inside.reverse ++ found)
      | _, c =>
        if (manner == .bare || manner == .marker) && endsWord c then
          return found.reverse
        plain c

/-- Takes what is replaced behind a dollar sign. -/
def dollar : Nat → Manner → Read Part
  | 0, manner => refuse manner.unfinished
  | fuel + 1, manner => do
    skipOne
    let quoted := manner.quoted
    match ← peek with
    | none => return .text "$" quoted
    | some c =>
      if manner == .marker then return .text "$" quoted
      else if c == '(' then
        skipOne
        if ← accept '(' then
          return .number (← parts fuel (.expression 0) []) quoted
        let awaited := (← get).awaited
        modify fun s => { s with awaited := [] }
        let body ← list fuel .free
        let t ← token fuel false false
        match t with
        | .mark ")" => pure ()
        | _ => unexpected (some (.mark ")"))
        awaitedTexts fuel
        modify fun s => { s with awaited := awaited }
        return .output (body.getD []) quoted
      else if c == '\x7b' then
        skipOne
        braced fuel manner
      else if startsName c then
        let name ← takeWhile isNameChar (← left) ""
        return .parameter name .plain false [] quoted
      else if isSpecial c then
        skipOne
        return .parameter c.toString .plain false [] quoted
      else return .text "$" quoted

/-- Takes a parameter in braces, behind the opening one. -/
def braced : Nat → Manner → Read Part
  | 0, manner => refuse manner.unfinished
  | fuel + 1, manner => do
    let quoted := manner.quoted
    let within (name : String) (op : Operator) (emptyToo : Bool)
        (manner : Manner) : Read Part := do
      return .parameter name op emptyToo (← parts fuel manner []) quoted
    let bad : Read Part := do
      if (← peekRaw) == some '\n' then
        modify fun s => { s with line := s.line - 1 }
      within "" .unknown false manner.inBraces
    let behind (name : String) : Read Part := do
      match ← peek with
      | some '\x7d' => skipOne; return .parameter name .plain false [] quoted
      | some '#' =>
        skipOne
        let twice ← accept '#'
        within name (.trimFront twice) false .braces
      | some '%' =>
        skipOne
        let twice ← accept '%'
        within name (.trimBack twice) false .braces
      | some ':' =>
        skipOne
        match ← peek with
        | some c =>
          match operator? c with
          | some op => skipOne; within name op true manner.inBraces
          | none => bad
        | none => bad
      | some c =>
        match operator? c with
        | some op => skipOne; within name op false manner.inBraces
        | none => bad
      | none => bad
    let counted (name : String) : Read Part := do
      if ← accept '\x7d' then
        return .parameter name .length false [] quoted
      bad
    match ← peek with
    | some '#' =>
      skipOne
      match ← peek with
      | some c =>
        if startsName c then
          counted (← takeWhile isNameChar (← left) "")
        else if c.isDigit then
          counted (← takeWhile Char.isDigit (← left) "")
        else if c != '\x7d' && isSpecial c then
          let before ← get
          skipOne
          if (← peek) == some '\x7d' then counted c.toString
          else
            set before
            behind "#"
        else behind "#"
      | none => behind "#"
    | some c =>
      if startsName c then behind (← takeWhile isNameChar (← left) "")
      else if c.isDigit then behind (← takeWhile Char.isDigit (← left) "")
      else if isSpecial c then do skipOne; behind c.toString
      else bad
    | none => bad

/-- Takes commands between back quotes. -/
def backTicks : Nat → Bool → Read Part
  | 0, _ => refuse "EOF in backquote substitution"
  | fuel + 1, quoted => do
    let line := (← get).line
    skipOne
    let text ← backQuoted quoted (← left) []
    let outer ← get
    set
      { outer with
        rest := text, line := line, last := .ending, putBack := false
        awaited := [], replaced := [] }
    let body ← list fuel .free
    awaitedTexts fuel
    modify fun s =>
      { outer with texts := s.texts, nextText := s.nextText }
    return .output (body.getD []) quoted

-- ========================================================== tokens

/-- Takes a redirection behind its digit, if there was one. -/
def arrow : Nat → Option Nat → Read Token
  | 0, _ => return .ending
  | _ + 1, stream => do
    if ← accept '>' then
      let direction ←
        if ← accept '>' then pure Direction.append
        else if ← accept '|' then pure .force
        else if ← accept '&' then pure .same
        else pure .output
      return .arrow (.file (stream.getD 1) direction)
    skipOne
    if ← accept '<' then
      let dropsTabs ← accept '-'
      return .arrow (.here (stream.getD 0) dropsTabs)
    let direction ←
      if ← accept '&' then pure Direction.same
      else if ← accept '>' then pure .both
      else pure .input
    return .arrow (.file (stream.getD 0) direction)

/-- Takes the next token as it stands. -/
def rawToken : Nat → Manner → Read Token
  | 0, _ => return .ending
  | fuel + 1, manner => do
    let single (text : String) : Read Token := do
      skipOne
      return .mark text
    let maybeTwice (c : Char) : Read Token := do
      skipOne
      if ← accept c then return .mark (c.toString ++ c.toString)
      return .mark c.toString
    match ← peek with
    | none => return .ending
    | some ' ' | some '\t' => skipOne; rawToken fuel manner
    | some '#' =>
      skip ((← get).rest.takeWhile (· != '\n')).length
      rawToken fuel manner
    | some '\n' => skipOne; return .newline
    | some '&' => maybeTwice '&'
    | some '|' => maybeTwice '|'
    | some ';' => maybeTwice ';'
    | some '(' => single "("
    | some ')' => single ")"
    | some '<' | some '>' => arrow fuel none
    | some c =>
      match c.isDigit, (← get).rest.tail.head? with
      | true, some '<' | true, some '>' =>
        skipOne
        arrow fuel (some (c.toNat - 48))
      | _, _ =>
        let found ← parts fuel manner []
        let bare :=
          match found with
          | [.text s false] => some s
          | _ => none
        return .word found bare

/-- Takes the next token; perhaps behind line ends, perhaps as a word
with a meaning. -/
def token : Nat → Bool → Bool → Read Token
  | 0, _, _ => return .ending
  | fuel + 1, behindLines, meaning => do
    let t ←
      if (← get).putBack then do
        modify fun s => { s with putBack := false }
        pure (← get).last
      else rawToken fuel .bare
    match t with
    | .newline =>
      if behindLines then
        awaitedTexts fuel
        token fuel true meaning
      else
        modify fun s => { s with last := .newline }
        return .newline
    | .word _ (some bare) =>
      if meaning && keywords.contains bare then
        modify fun s => { s with last := .keyword bare }
        return .keyword bare
      let s ← get
      let inUse := s.replaced.filter fun r => r.2 < s.rest.length
      match meaning, s.aliases.lookup bare with
      | true, some text =>
        if (inUse.lookup bare).isSome then
          set { s with last := t }
          return t
        set
          { s with
            rest := text.toList ++ s.rest
            replaced := (bare, s.rest.length) :: inUse }
        token fuel behindLines meaning
      | _, _ =>
        set { s with last := t }
        return t
    | t =>
      modify fun s => { s with last := t }
      return t

/-- Takes the texts that are awaited behind this line. -/
def awaitedTexts : Nat → Read Unit
  | 0 => pure ()
  | fuel + 1 => do
    match (← get).awaited with
    | [] => pure ()
    | a :: more =>
      modify fun s => { s with awaited := more }
      let line := (← get).line
      let text ← textLines a (← left) false []
      let word ←
        if a.active then do
          let outer ← get
          set
            { outer with
              rest := text, line := line, putBack := false, awaited := [] }
          let found ← parts fuel .here []
          modify fun s =>
            { outer with texts := s.texts, nextText := s.nextText }
          pure found
        else pure [.text (String.ofList text) true]
      modify fun s => { s with texts := (a.number, word) :: s.texts }
      awaitedTexts fuel

-- ======================================================== commands

/-- Takes commands up to a token that ends a list.  A `line` ends with
the line; an `inner` list must not be empty; a `free` one may be. -/
def list : Nat → ListKind → Read (Option (List Command))
  | 0, _ => refuse "out of room"
  | fuel + 1, kind => listFrom fuel kind true []

/-- Takes more commands of a list. -/
def listFrom : Nat → ListKind → Bool → List Command →
    Read (Option (List Command))
  | 0, _, _, _ => refuse "out of room"
  | fuel + 1, kind, isFirst, found => do
    let putBack : Read Unit := modify fun s => { s with putBack := true }
    let t ← token fuel (kind != .line) true
    match t with
    | .newline =>
      awaitedTexts fuel
      return some found.reverse
    | .ending =>
      awaitedTexts fuel
      modify fun s => { s with putBack := true, last := .ending }
      if kind == .line && isFirst then return none
      return some found.reverse
    | _ => putBack
    if t.endsList && (kind == .free || (kind == .inner && !isFirst)) then
      return some found.reverse
    let c ← joined fuel
    let t ← token fuel false false
    let c :=
      match t with
      | .mark "&" => .background c
      | _ => c
    let found := c :: found
    match t with
    | .ending =>
      awaitedTexts fuel
      modify fun s => { s with putBack := true, last := .ending }
      return some found.reverse
    | .newline =>
      putBack
      listFrom fuel kind false found
    | .mark "&" | .mark ";" => listFrom fuel kind false found
    | _ =>
      if kind == .line then unexpected none
      putBack
      return some found.reverse

/-- Takes pipelines joined by `&&` and `||`. -/
def joined : Nat → Read Command
  | 0 => refuse "out of room"
  | fuel + 1 => do joinedTo fuel (← pipeline fuel false)

/-- Takes more pipelines behind a first one. -/
def joinedTo : Nat → Command → Read Command
  | 0, first => return first
  | fuel + 1, first => do
    match ← token fuel false false with
    | .mark "&&" => joinedTo fuel (.both first (← pipeline fuel true))
    | .mark "||" => joinedTo fuel (.either first (← pipeline fuel true))
    | _ =>
      modify fun s => { s with putBack := true }
      return first

/-- Takes a pipeline, perhaps behind line ends. -/
def pipeline : Nat → Bool → Read Command
  | 0, _ => refuse "out of room"
  | fuel + 1, behindLines => do
    let t ← token fuel behindLines behindLines
    let inverted :=
      match t with
      | .keyword "!" => true
      | _ => false
    if !inverted then modify fun s => { s with putBack := true }
    let c ← command fuel false inverted
    let stages ← moreStages fuel
    let c := if stages.isEmpty then c else .pipeline (c :: stages)
    return if inverted then .inverted c else c

/-- Takes the stages behind the first. -/
def moreStages : Nat → Read (List Command)
  | 0 => return []
  | fuel + 1 => do
    match ← token fuel false false with
    | .mark "|" =>
      let c ← command fuel true true
      return c :: (← moreStages fuel)
    | _ =>
      modify fun s => { s with putBack := true }
      return []

/-- Takes a certain word with a meaning. -/
def need : Nat → Token → Read Unit
  | 0, _ => pure ()
  | fuel + 1, wanted => do
    let t ← token fuel false false
    if t.shown != wanted.shown then unexpected (some wanted)

/-- Takes one command. -/
def command : Nat → Bool → Bool → Read Command
  | 0, _, _ => refuse "out of room"
  | fuel + 1, behindLines, meaning => do
    let line := (← get).line
    let t ← token fuel behindLines meaning
    let inner : Read (List Command) := return (← list fuel .inner).getD []
    let closed (name : String) (c : Command) : Read Command := do
      need fuel (.keyword name)
      redirected fuel line c
    match t with
    | .keyword "if" => closed "fi" (← branch fuel)
    | .keyword "while" | .keyword "until" =>
      let condition ← inner
      need fuel (.keyword "do")
      let body ← inner
      closed "done" (.loop (t.shown == "\"while\"") condition body)
    | .keyword "for" =>
      let name ←
        match ← token fuel false false with
        | .word _ (some bare) =>
          if isName bare then pure bare
          else refuse "Bad for loop variable"
        | _ => refuse "Bad for loop variable"
      let words ←
        match ← token fuel true true with
        | .keyword "in" =>
          let words ← wordList fuel
          match (← get).last with
          | .newline | .mark ";" => pure ()
          | _ => unexpected none
          pure words
        | .mark ";" => pure [[.parameter "@" .plain false [] true]]
        | _ =>
          modify fun s => { s with putBack := true }
          pure [[.parameter "@" .plain false [] true]]
      match ← token fuel true true with
      | .keyword "do" => pure ()
      | _ => unexpected (some (.keyword "do"))
      let body ← inner
      closed "done" (.each line name words body)
    | .keyword "case" =>
      let word ←
        match ← token fuel false false with
        | .word found _ => pure found
        | _ => unexpected (some (.word [] none))
      match ← token fuel true true with
      | .keyword "in" => pure ()
      | _ => unexpected (some (.keyword "in"))
      redirected fuel line (.choice line word (← cases fuel))
    | .mark "(" =>
      let body ← inner
      need fuel (.mark ")")
      let found ← redirects fuel
      return .subshell line body found
    | .keyword "\x7b" =>
      let body ← inner
      closed "\x7d" (.group body)
    | .word _ _ | .arrow _ =>
      modify fun s => { s with putBack := true }
      simple fuel (← get).line true [] [] []
    | _ => unexpected none

/-- Takes the redirections behind a command. -/
def redirected : Nat → Nat → Command → Read Command
  | 0, _, c => return c
  | fuel + 1, line, c => do
    let found ← redirects fuel
    return if found.isEmpty then c else .redirected line c found

/-- Takes redirections. -/
def redirects : Nat → Read (List Redirect)
  | 0 => return []
  | fuel + 1 => do
    match ← token fuel false true with
    | .arrow a =>
      let r ← redirect fuel a
      return r :: (← redirects fuel)
    | _ =>
      modify fun s => { s with putBack := true }
      return []

/-- Takes the target of a redirection. -/
def redirect : Nat → Arrow → Read Redirect
  | 0, _ => refuse "out of room"
  | fuel + 1, a => do
    match a with
    | .file stream direction =>
      match ← token fuel false false with
      | .word found _ =>
        return .file stream direction found
      | _ => unexpected none
    | .here stream dropsTabs =>
      match ← rawToken fuel .marker with
      | .word found bare =>
        let s ← get
        let text := String.join (found.map fun p =>
          match p with
          | .text s _ => s
          | _ => "")
        set
          { s with
            last := .word found bare
            awaited := s.awaited
              ++ [Awaited.mk s.nextText text dropsTabs bare.isSome]
            nextText := s.nextText + 1 }
        return .here stream s.nextText
      | t =>
        modify fun s => { s with last := t }
        unexpected none

/-- Takes the words, assignments and redirections of a simple
command. -/
def simple : Nat → Nat → Bool → List (String × Word) → List Word →
    List Redirect → Read Command
  | 0, _, _, _, _, _ => refuse "out of room"
  | fuel + 1, line, open_, assignments, words, found => do
    let t ← token fuel false false
    let s ← get
    let t ←
      match open_, t with
      | true, .word _ (some bare) =>
        let inUse := s.replaced.filter fun r => r.2 < s.rest.length
        match s.aliases.lookup bare with
        | some text =>
          if !assignments.isEmpty && (inUse.lookup bare).isNone then do
            set
              { s with
                rest := text.toList ++ s.rest
                replaced := (bare, s.rest.length) :: inUse }
            token fuel false false
          else pure t
        | none => pure t
      | _, _ => pure t
    let finish : Read Command := do
      modify fun s => { s with putBack := true }
      return .simple line assignments words found
    match t with
    | .arrow a =>
      let r ← redirect fuel a
      simple fuel line open_ assignments words (found ++ [r])
    | .word w _ =>
      let asWord : Read Command :=
        simple fuel line false assignments (words ++ [w]) found
      match open_, w with
      | true, .text s false :: more =>
        let name := String.ofList (s.toList.takeWhile (· != '='))
        let behind := s.toList.drop name.length
        if isName name && behind.head? == some '=' then
          let first := String.ofList behind.tail
          let value :=
            if first.isEmpty then more else .text first false :: more
          simple fuel line true (assignments ++ [(name, value)]) words
            found
        else asWord
      | _, _ => asWord
    | .mark "(" =>
      match assignments, words, found with
      | [], [w], [] =>
        match ← token fuel false false with
        | .mark ")" => pure ()
        | _ => unexpected (some (.mark ")"))
        let name :=
          match w with
          | [.text s false] => s
          | _ => ""
        if !isName name || specialNames.contains name then
          refuse "Bad function name"
        return .definition name (← command fuel true true)
      | _, _, _ => finish
    | _ => finish

/-- Takes the rest of a branch behind its first word. -/
def branch : Nat → Read Command
  | 0 => refuse "out of room"
  | fuel + 1 => do
    let condition := (← list fuel .inner).getD []
    need fuel (.keyword "then")
    let body := (← list fuel .inner).getD []
    match ← token fuel false false with
    | .keyword "elif" => return .branch condition body [← branch fuel]
    | .keyword "else" =>
      return .branch condition body ((← list fuel .inner).getD [])
    | _ =>
      modify fun s => { s with putBack := true }
      return .branch condition body []

/-- Takes words up to another token. -/
def wordList : Nat → Read (List Word)
  | 0 => return []
  | fuel + 1 => do
    match ← token fuel false false with
    | .word w _ => return w :: (← wordList fuel)
    | _ => return []

/-- Takes patterns separated by bars, from a first token on. -/
def patterns : Nat → Token → Read (List Word)
  | 0, _ => return []
  | fuel + 1, t => do
    let w :=
      match t with
      | .word w _ => w
      | .keyword name => [.text name false]
      | _ => []
    match ← token fuel false false with
    | .mark "|" => return w :: (← patterns fuel (← token fuel false false))
    | .mark ")" => return [w]
    | _ => unexpected (some (.mark ")"))

/-- Takes the cases of a choice. -/
def cases : Nat → Read (List (List Word × List Command))
  | 0 => return []
  | fuel + 1 => do
    let t ← token fuel true true
    match t with
    | .keyword "esac" => return []
    | _ =>
      let t ←
        match t with
        | .mark "(" => token fuel false false
        | t => pure t
      let ps ← patterns fuel t
      let body := (← list fuel .free).getD []
      match ← token fuel true true with
      | .keyword "esac" => return [(ps, body)]
      | .mark ";;" => return (ps, body) :: (← cases fuel)
      | _ => unexpected (some (.mark ";;"))

end

-- ========================================================= scripts

/-- Reads the commands of the next line, or of the lines that a command
spans; nothing at the end of the script. -/
def nextCommands (s : Source) :
    Except Fault (Option (List Command) × Source) :=
  let limit := 16 * s.rest.length + 64
  (list limit .line).run { s with putBack := false }

end RemoteProvision.Shell
