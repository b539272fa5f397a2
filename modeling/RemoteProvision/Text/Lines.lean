/-
The lines of a byte stream.

A line ends at a line feed, which does not belong to it; neither does
one carriage return directly before that line feed.  Bytes after the
last line feed form a last line, which keeps its carriage return.  No
line arises from nothing: the empty stream has no lines.

Lines are cut before they are decoded, so a stream in any code page
still breaks at the same places.
-/
import RemoteProvision.Text.Utf8

namespace RemoteProvision.Text

-- ==================================================== cutting bytes

/-- The lines of a stream, as bytes. -/
def cutLines : Bytes → List Bytes
  | [] => []
  | 13 :: 10 :: rest => [] :: cutLines rest
  | 10 :: rest => [] :: cutLines rest
  | b :: rest =>
    match cutLines rest with
    | [] => [[b]]
    | line :: lines => (b :: line) :: lines

-- ================================================== lines as texts

/-- The lines of a stream as texts, broken characters replaced. -/
def lossyLines (stream : Bytes) : List String :=
  (cutLines stream).map ofBytesLossy

end RemoteProvision.Text
