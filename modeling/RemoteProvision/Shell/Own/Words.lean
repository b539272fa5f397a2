/-
The words of commands of the shell itself.

Options are letters behind a dash, and some of them take a word.  A value
is shown between single quotes, in which a single quote itself stands
between double ones, so that the shell reads it back.
-/
import RemoteProvision.Shell.State

namespace RemoteProvision.Shell

-- ========================================================= options

/-- Takes the options of some words; `known` tells for each letter
whether it takes a word.  Answers with the options in order and the words
behind them. -/
def takeOptions (known : List (Char × Bool)) :
    Nat → List Char → List String →
    Sh (List (Char × String) × List String)
  | 0, _, words => return ([], words)
  | fuel + 1, [], words =>
    match words with
    | [] => return ([], [])
    | word :: rest =>
      match word.toList with
      | ['-', '-'] => return ([], rest)
      | '-' :: c :: cs => takeOptions known fuel (c :: cs) rest
      | _ => return ([], words)
  | fuel + 1, c :: cs, words => do
    match known.lookup c with
    | none => fault ("Illegal option -" ++ c.toString)
    | some false =>
      let (more, left) ← takeOptions known fuel cs words
      return ((c, "") :: more, left)
    | some true =>
      match cs, words with
      | [], [] => fault ("No arg for -" ++ c.toString ++ " option")
      | [], word :: rest =>
        let (more, left) ← takeOptions known fuel [] rest
        return ((c, word) :: more, left)
      | cs, words =>
        let (more, left) ← takeOptions known fuel [] words
        return ((c, String.ofList cs) :: more, left)

/-- The options of some words, and the words behind them. -/
def options (known : List (Char × Bool)) (words : List String) :
    Sh (List (Char × String) × List String) :=
  let size := words.foldl (fun n w => n + w.length + 1) 1
  takeOptions known size [] words

-- ========================================================= quoting

/-- A text between quotes; runs of single quotes in it stand between
double ones. -/
def quotedPieces : Nat → List Char → List Char
  | 0, _ => []
  | fuel + 1, cs =>
    let plain := cs.takeWhile (· != '\x27')
    let behind := cs.drop plain.length
    let quotes := behind.takeWhile (· == '\x27')
    let rest := behind.drop quotes.length
    ['\x27'] ++ plain ++ ['\x27']
      ++ (if quotes.isEmpty then []
          else ['\x22'] ++ quotes ++ ['\x22'])
      ++ (if rest.isEmpty then [] else quotedPieces fuel rest)

/-- A text between quotes. -/
def quoted (text : String) : String :=
  String.ofList (quotedPieces (text.length + 1) text.toList)

/-- The name in front of the equals sign of a word, and the value behind
it if there is one. -/
def cutAtEquals (word : String) : String × Option String :=
  let cs := word.toList
  let name := cs.takeWhile (· != '=')
  match cs.drop name.length with
  | [] => (word, none)
  | _ :: value => (String.ofList name, some (String.ofList value))

end RemoteProvision.Shell
