/-
The words of a command line.

Spaces, tabs and line feeds separate words.  Single quotes keep
everything up to the next one.  Double quotes keep everything but a
backslash before `$`, a back quote, `"` or another backslash, which is
dropped, and a backslash before a line feed, which goes with it.
Elsewhere a backslash keeps the next character from having a meaning; at
the very end it stands for itself.  A `#` where a word could begin starts
a comment up to the end of its line.  A quote that is never closed leaves
no words at all.

The scan reads each character once and carries a state.  It answers with
the rest of the word it is in and the words behind that one.
-/

namespace RemoteProvision.Local

/-- Where a scan stands. -/
inductive WordState where
  /-- Between words. -/
  | between
  /-- Between words, behind a backslash. -/
  | betweenEscaped
  /-- In a word, outside quotes. -/
  | bare
  /-- In a word, behind a backslash outside quotes. -/
  | bareEscaped
  | singleQuoted
  | doubleQuoted
  /-- Between double quotes, behind a backslash. -/
  | doubleEscaped
  | comment
deriving DecidableEq

/-- The rest of a word, and the words behind it. -/
abbrev Scanned := List Char × List (List Char)

/-- One more character at the front of the word. -/
def Scanned.push (c : Char) (s : Scanned) : Scanned :=
  (c :: s.1, s.2)

/-- The word ends up among the words behind. -/
def Scanned.close (s : Scanned) : Scanned :=
  ([], s.1 :: s.2)

/-- The characters that separate words. -/
def isSeparator (c : Char) : Bool :=
  c == ' ' || c == '\t' || c == '\n'

/-- The characters that a backslash keeps between double quotes. -/
def isKeptInDouble (c : Char) : Bool :=
  c == '$' || c == '\x60' || c == '\x22' || c == '\x5c'

/-- Scans from a state; `none` if a quote stays open. -/
def scanWords : WordState → List Char → Option Scanned
  | .between, [] => some ([], [])
  | .between, c :: rest =>
    if c = '\x27' then
      (scanWords .singleQuoted rest).map Scanned.close
    else if c = '\x22' then
      (scanWords .doubleQuoted rest).map Scanned.close
    else if c = '\x5c' then scanWords .betweenEscaped rest
    else if isSeparator c then scanWords .between rest
    else if c = '#' then scanWords .comment rest
    else (scanWords .bare rest).map fun s => (s.push c).close
  | .betweenEscaped, [] => some ([], [['\x5c']])
  | .betweenEscaped, c :: rest =>
    if c = '\n' then scanWords .between rest
    else (scanWords .bare rest).map fun s => (s.push c).close
  | .bare, [] => some ([], [])
  | .bare, c :: rest =>
    if c = '\x27' then scanWords .singleQuoted rest
    else if c = '\x22' then scanWords .doubleQuoted rest
    else if c = '\x5c' then scanWords .bareEscaped rest
    else if isSeparator c then scanWords .between rest
    else (scanWords .bare rest).map (Scanned.push c)
  | .bareEscaped, [] => some (['\x5c'], [])
  | .bareEscaped, c :: rest =>
    if c = '\n' then scanWords .bare rest
    else (scanWords .bare rest).map (Scanned.push c)
  | .singleQuoted, [] => none
  | .singleQuoted, c :: rest =>
    if c = '\x27' then scanWords .bare rest
    else (scanWords .singleQuoted rest).map (Scanned.push c)
  | .doubleQuoted, [] => none
  | .doubleQuoted, c :: rest =>
    if c = '\x22' then scanWords .bare rest
    else if c = '\x5c' then scanWords .doubleEscaped rest
    else (scanWords .doubleQuoted rest).map (Scanned.push c)
  | .doubleEscaped, [] => none
  | .doubleEscaped, c :: rest =>
    if c = '\n' then scanWords .doubleQuoted rest
    else if isKeptInDouble c then
      (scanWords .doubleQuoted rest).map (Scanned.push c)
    else
      (scanWords .doubleQuoted rest).map fun s =>
        (s.push c).push '\x5c'
  | .comment, [] => some ([], [])
  | .comment, c :: rest =>
    if c = '\n' then scanWords .between rest
    else scanWords .comment rest

/-- The words of a command line; `none` if a quote stays open. -/
def splitWords (line : String) : Option (List String) :=
  (scanWords .between line.toList).map fun s =>
    s.2.map String.ofList

end RemoteProvision.Local
