/-
Lines of bytes and lines of the text they are.

A row that is cut at every line feed falls into pieces and a rest in one
way (`CutAt`).  The lines of a stream are its pieces, each without one
carriage return at its end, and its rest as it is, unless nothing is left
(`linesOf`).

An ASCII byte stands for itself wherever it is.  So what is decoded is
cut where the bytes are, its pieces are the decoded pieces
(`CutAt.lenient`), and a carriage return ends the one where it ends the
other.  It makes no difference whether a stream is cut first and then
decoded, or decoded first and then cut.
-/
import RemoteProvision.Text.Lines
import RemoteProvision.Proofs.Text.Lenient

namespace RemoteProvision.Text

-- ============================================================ cutting

section Cutting

variable {α : Type} {mark : α} {row rest piece : List α}
  {pieces : List (List α)}

/-- A row cut at every mark: the pieces that a mark ends, and what is
behind the last mark. -/
inductive CutAt (mark : α) : List α → List (List α) → List α → Prop
  | rest {row : List α} : mark ∉ row → CutAt mark row [] row
  | piece {piece row rest : List α} {pieces : List (List α)} :
      mark ∉ piece → CutAt mark row pieces rest →
      CutAt mark (piece ++ mark :: row) (piece :: pieces) rest

/-- Every row can be cut. -/
theorem CutAt.exists (mark : α) (row : List α) :
    ∃ pieces rest, CutAt mark row pieces rest := by
  induction row with
  | nil => exact ⟨[], [], .rest (List.not_mem_nil)⟩
  | cons a row ih =>
      obtain ⟨pieces, rest, hcut⟩ := ih
      by_cases ha : a = mark
      · subst ha
        exact ⟨[] :: pieces, rest, .piece (List.not_mem_nil) hcut⟩
      have hmore : ∀ {more : List α}, mark ∉ more → mark ∉ a :: more :=
        fun hnot hmem => (List.mem_cons.1 hmem).elim
          (fun h => ha h.symm) hnot
      cases hcut with
      | rest hnot => exact ⟨[], a :: row, .rest (hmore hnot)⟩
      | @piece piece row _ pieces hnot hcut =>
          exact ⟨(a :: piece) :: pieces, rest, .piece (hmore hnot) hcut⟩

/-- The first mark is in one place. -/
private theorem before_mark {piece' row' : List α} (h : mark ∉ piece)
    (h' : mark ∉ piece')
    (hsame : piece ++ mark :: row = piece' ++ mark :: row') :
    piece = piece' ∧ row = row' := by
  rcases List.append_eq_append_iff.1 hsame with
    ⟨between, rfl, hrow⟩ | ⟨between, rfl, hrow⟩
  · cases between with
    | nil => exact ⟨(List.append_nil _).symm, (List.cons.inj hrow).2⟩
    | cons a between =>
        obtain ⟨rfl, -⟩ := List.cons.inj hrow
        exact absurd (List.mem_append_right _ (.head _)) h'
  · cases between with
    | nil => exact ⟨List.append_nil _, (List.cons.inj hrow).2.symm⟩
    | cons a between =>
        obtain ⟨rfl, -⟩ := List.cons.inj hrow
        exact absurd (List.mem_append_right _ (.head _)) h

/-- There is one way to cut a row. -/
theorem CutAt.unique {pieces' : List (List α)} {rest' : List α}
    (h : CutAt mark row pieces rest) (h' : CutAt mark row pieces' rest') :
    pieces' = pieces ∧ rest' = rest := by
  induction h generalizing pieces' rest' with
  | rest hnot =>
      cases h' with
      | rest _ => exact ⟨rfl, rfl⟩
      | piece _ _ =>
          exact absurd (List.mem_append_right _ (.head _)) hnot
  | @piece piece row rest pieces hnot hcut ih =>
      generalize hrow : piece ++ mark :: row = whole at h'
      cases h' with
      | rest hnot' =>
          refine absurd ?_ hnot'
          rw [← hrow]
          exact List.mem_append_right _ (.head _)
      | piece hnot' hcut' =>
          obtain ⟨rfl, rfl⟩ := before_mark hnot hnot' hrow
          obtain ⟨rfl, rfl⟩ := ih hcut'
          exact ⟨rfl, rfl⟩

/-- What was cut is the pieces, a mark behind each, and the rest. -/
theorem CutAt.row_eq (h : CutAt mark row pieces rest) :
    row = pieces.flatMap (· ++ [mark]) ++ rest := by
  induction h with
  | rest _ => rfl
  | piece _ _ ih =>
      rw [List.flatMap_cons, List.append_assoc, List.append_assoc, ← ih]
      rfl

/-- Pieces in which no mark is, each with a mark behind it, are cut where
they were joined. -/
theorem CutAt.joined (h : ∀ piece ∈ pieces, mark ∉ piece) :
    CutAt mark (pieces.flatMap (· ++ [mark])) pieces [] := by
  induction pieces with
  | nil => exact .rest List.not_mem_nil
  | cons piece pieces ih =>
      obtain ⟨hpiece, hpieces⟩ := List.forall_mem_cons.1 h
      rw [List.flatMap_cons, List.append_assoc]
      exact .piece hpiece (ih hpieces)

end Cutting

-- ============================================================== lines

section Lines

variable {α : Type} [DecidableEq α]

/-- A piece without one return at its end. -/
def dropReturn (ret : α) (piece : List α) : List α :=
  if piece.getLast? = some ret then piece.dropLast else piece

/-- The lines of what was cut: the pieces, each without one return at its
end, and the rest as it is, unless nothing is left. -/
def linesOf (ret : α) (pieces : List (List α)) (rest : List α) :
    List (List α) :=
  pieces.map (dropReturn ret) ++ if rest = [] then [] else [rest]

/-- A first element stays, unless it is the only one. -/
theorem dropReturn_cons {ret a : α} {piece : List α}
    (h : piece = [] → a ≠ ret) :
    dropReturn ret (a :: piece) = a :: dropReturn ret piece := by
  cases piece with
  | nil =>
      have hlast : [a].getLast? ≠ some ret :=
        fun hsome => h rfl (Option.some.inj hsome)
      rw [dropReturn, if_neg hlast]
      rfl
  | cons b piece =>
      rw [dropReturn, dropReturn, List.getLast?_cons_cons]
      split
      · rfl
      · rfl

end Lines

variable {bs rest piece : Bytes} {pieces : List Bytes} {b : UInt8}

/-- Away from a line end, a byte belongs to the line that follows. -/
theorem cutLines_cons (hfeed : b ≠ 10)
    (hreturn : b = 13 → rest.head? ≠ some 10) :
    cutLines (b :: rest)
      = match cutLines rest with
        | [] => [[b]]
        | line :: lines => (b :: line) :: lines := by
  refine cutLines.eq_4 b rest ?_ hfeed
  rintro more hb rfl
  exact hreturn hb rfl

/-- A piece up to a line feed is the first line, without one carriage
return at its end. -/
theorem cutLines_piece (h : 10 ∉ piece) :
    cutLines (piece ++ 10 :: rest)
      = dropReturn 13 piece :: cutLines rest := by
  induction piece with
  | nil => rw [List.nil_append, cutLines]; rfl
  | cons b piece ih =>
      obtain ⟨hfeed, hpiece⟩ := not_or.1 (mt List.mem_cons.2 h)
      by_cases hreturn : piece = [] ∧ b = 13
      · obtain ⟨rfl, rfl⟩ := hreturn
        rw [List.cons_append, List.nil_append, cutLines]
        rfl
      have hhead : b = 13 → (piece ++ 10 :: rest).head? ≠ some 10 := by
        intro hb
        cases piece with
        | nil => exact absurd ⟨rfl, hb⟩ hreturn
        | cons d piece =>
            rintro hd
            obtain rfl : d = 10 := Option.some.inj hd
            exact hpiece (.head _)
      rw [List.cons_append, cutLines_cons (Ne.symm hfeed) hhead, ih hpiece,
        dropReturn_cons fun hnil hb => hreturn ⟨hnil, hb⟩]

/-- Bytes without a line feed are the last line, or none. -/
theorem cutLines_rest (h : 10 ∉ bs) :
    cutLines bs = if bs = [] then [] else [bs] := by
  induction bs with
  | nil => rw [cutLines]; rfl
  | cons b bs ih =>
      obtain ⟨hfeed, hbs⟩ := not_or.1 (mt List.mem_cons.2 h)
      have hhead : b = 13 → bs.head? ≠ some 10 :=
        fun _ hhead => hbs (List.mem_of_head? hhead)
      rw [cutLines_cons (Ne.symm hfeed) hhead, ih hbs,
        if_neg (List.cons_ne_nil b bs)]
      cases bs with
      | nil => rfl
      | cons d bs => rfl

/-- The lines of a stream are those of what it is cut into. -/
theorem cutLines_eq (h : CutAt 10 bs pieces rest) :
    cutLines bs = linesOf 13 pieces rest := by
  induction h with
  | rest hnot => exact cutLines_rest hnot
  | piece hnot _ ih =>
      rw [cutLines_piece hnot, ih]
      rfl

-- =========================================================== decoding

/-- The decoded text is cut where the bytes are. -/
theorem CutAt.lenient (h : CutAt 10 bs pieces rest) :
    CutAt '\n' (lenient bs) (pieces.map lenient) (lenient rest) := by
  have hkept : ∀ {bs : Bytes}, 10 ∉ bs → '\n' ∉ Text.lenient bs :=
    fun hnot hmem => hnot
      ((asciiChar_mem_lenient (b := 10) (by decide)).1 hmem)
  induction h with
  | rest hnot => exact .rest (hkept hnot)
  | piece hnot _ ih =>
      rw [lenient_append (b := 10) (by decide)]
      exact .piece (hkept hnot) ih

/-- A carriage return at the end is dropped before or after decoding. -/
theorem lenient_dropReturn (piece : Bytes) :
    lenient (dropReturn 13 piece) = dropReturn '\r' (lenient piece) := by
  have hlast : (lenient piece).getLast? = some '\r' ↔ _ :=
    getLast?_lenient (b := 13) (by decide)
  by_cases hreturn : piece.getLast? = some 13
  · rw [dropReturn, dropReturn, if_pos hreturn, if_pos (hlast.2 hreturn)]
    obtain ⟨before, rfl⟩ := List.getLast?_eq_some_iff.1 hreturn
    rw [lenient_append (b := 13) (by decide), lenient_nil,
      List.dropLast_concat, List.dropLast_concat]
  · rw [dropReturn, dropReturn, if_neg hreturn,
      if_neg (mt hlast.1 hreturn)]

/-- Nothing is decoded from nothing, and from nothing else. -/
theorem lenient_eq_nil : lenient bs = [] ↔ bs = [] := by
  cases bs with
  | nil => exact ⟨fun _ => rfl, fun _ => lenient_nil⟩
  | cons lead bs =>
      rw [lenient_cons]
      exact ⟨nofun, nofun⟩

/-- The decoded lines are the lines of what is decoded. -/
theorem lenient_linesOf (pieces : List Bytes) (rest : Bytes) :
    (linesOf 13 pieces rest).map lenient
      = linesOf '\r' (pieces.map lenient) (lenient rest) := by
  rw [linesOf, linesOf, List.map_append, List.map_map, List.map_map]
  congr 1
  · exact List.map_congr_left fun piece _ => lenient_dropReturn piece
  · by_cases hrest : rest = []
    · rw [if_pos hrest, if_pos (lenient_eq_nil.2 hrest), List.map_nil]
    · rw [if_neg hrest, if_neg (mt lenient_eq_nil.1 hrest)]
      rfl

/-- The lines of a stream, from what it is cut into. -/
theorem lossyLines_eq (h : CutAt 10 bs pieces rest) :
    lossyLines bs = (linesOf 13 pieces rest).map ofBytesLossy := by
  rw [lossyLines, cutLines_eq h]

/-- So they are from the decoded text. -/
theorem lossyLines_text {pieces : List (List Char)} {rest : List Char}
    (h : CutAt '\n' (lenient bs) pieces rest) :
    lossyLines bs = (linesOf '\r' pieces rest).map String.ofList := by
  obtain ⟨pieces', rest', hbytes⟩ := CutAt.exists 10 bs
  obtain ⟨rfl, rfl⟩ := hbytes.lenient.unique h
  rw [lossyLines_eq hbytes, ← lenient_linesOf, List.map_map]
  exact List.map_congr_left fun line _ => String.ofList_toList.symm

/-- Without returns in front of them, line feeds cut off whole pieces. -/
theorem linesOf_pieces {α : Type} [DecidableEq α] {ret : α}
    {pieces : List (List α)}
    (h : ∀ piece ∈ pieces, piece.getLast? ≠ some ret) :
    linesOf ret pieces [] = pieces := by
  have hpieces : pieces.map (dropReturn ret) = pieces :=
    (List.map_congr_left fun piece hpiece => if_neg (h piece hpiece)).trans
      (List.map_id pieces)
  rw [linesOf, hpieces, if_pos rfl, List.append_nil]

-- ============================================================= writing

theorem toBytes_append (front behind : String) :
    toBytes (front ++ behind) = toBytes front ++ toBytes behind := by
  rw [toBytes, toBytes, toBytes, String.toList_append,
    List.flatMap_append]

/-- Joined with line feeds, texts have the characters of each and a line
feed behind it. -/
theorem toList_join (lines : List String) :
    (String.join (lines.map (· ++ "\n"))).toList
      = (lines.map String.toList).flatMap (· ++ ['\n']) := by
  induction lines with
  | nil => rfl
  | cons line lines ih =>
      rw [List.map_cons, String.join_cons, String.toList_append,
        String.toList_append, ih, List.map_cons, List.flatMap_cons]
      rfl

/-- So they have the bytes of each and that of a line feed. -/
theorem toBytes_join (lines : List String) :
    toBytes (String.join (lines.map (· ++ "\n")))
      = (lines.map toBytes).flatMap (· ++ [10]) := by
  rw [toBytes, toList_join, List.flatMap_assoc, List.flatMap_map,
    List.flatMap_map]
  congr 1
  funext line
  rw [List.flatMap_append]
  rfl

/-- A text without line feeds has no byte of one. -/
theorem feed_notMem_toBytes {text : String} (h : '\n' ∉ text.toList) :
    10 ∉ toBytes text := by
  have hfeed : '\n' ∈ lenient (toBytes text) ↔ 10 ∈ toBytes text :=
    asciiChar_mem_lenient (b := 10) (by decide)
  rw [← hfeed, lenient_toBytes]
  exact h

/-- Lines that are written with a line feed behind each are cut off
again. -/
theorem cutAt_toBytes_join {lines : List String}
    (h : ∀ line ∈ lines, '\n' ∉ line.toList) :
    CutAt 10 (toBytes (String.join (lines.map (· ++ "\n"))))
      (lines.map toBytes) [] := by
  rw [toBytes_join]
  refine CutAt.joined fun piece hpiece => ?_
  obtain ⟨line, hline, rfl⟩ := List.mem_map.1 hpiece
  exact feed_notMem_toBytes (h line hline)

/-- A text written with a line feed behind each line is its lines, joined
with line feeds. -/
theorem join_lossyLines {text : String}
    (hcut : CutAt 10 (toBytes text) pieces [])
    (hreturn : ∀ piece ∈ pieces, piece.getLast? ≠ some 13) :
    String.join ((lossyLines (toBytes text)).map (· ++ "\n")) = text := by
  have hlines : (lossyLines (toBytes text)).map String.toList
      = pieces.map lenient := by
    rw [lossyLines_eq hcut, linesOf_pieces hreturn, List.map_map]
    rfl
  have htext := hcut.lenient.row_eq
  rw [lenient_nil, List.append_nil, lenient_toBytes] at htext
  rw [← String.toList_inj, toList_join, hlines, htext]

-- ========================================================== the lines

/-- Any bytes can be cut at their line feeds in one way, and each piece is
a line without one carriage return at its end, and the rest is one as it
is, unless nothing is left.  A line is decoded so that each broken part
becomes U+FFFD, and nothing else changes.  The same lines come from the
decoded text, cut in the same way.  Where nothing is broken, no rest is
left and no piece ends in a carriage return, the lines, a line feed behind
each, are the text again. -/
theorem lossyLines_spec (stream : Bytes) :
    (∃ pieces rest, CutAt 10 stream pieces rest ∧
      (∀ pieces' rest', CutAt 10 stream pieces' rest' →
        pieces' = pieces ∧ rest' = rest) ∧
      lossyLines stream = (linesOf 13 pieces rest).map ofBytesLossy) ∧
    (∀ line text,
      Decoded line text ↔ (ofBytesLossy line).toList = text) ∧
    (∃ pieces rest, CutAt '\n' (ofBytesLossy stream).toList pieces rest ∧
      (∀ pieces' rest',
        CutAt '\n' (ofBytesLossy stream).toList pieces' rest' →
          pieces' = pieces ∧ rest' = rest) ∧
      lossyLines stream = (linesOf '\r' pieces rest).map String.ofList) ∧
    (∀ text pieces, stream = toBytes text → CutAt 10 stream pieces [] →
      (∀ piece ∈ pieces, piece.getLast? ≠ some 13) →
      toBytes (String.join ((lossyLines stream).map (· ++ "\n")))
        = stream) := by
  refine ⟨?_, fun line text => decoded_iff, ?_, ?_⟩
  · obtain ⟨pieces, rest, hcut⟩ := CutAt.exists 10 stream
    exact ⟨pieces, rest, hcut, fun _ _ hcut' => hcut.unique hcut',
      lossyLines_eq hcut⟩
  · obtain ⟨pieces, rest, hcut⟩ :=
      CutAt.exists '\n' (ofBytesLossy stream).toList
    exact ⟨pieces, rest, hcut, fun _ _ hcut' => hcut.unique hcut',
      lossyLines_text hcut⟩
  · rintro text pieces rfl hcut hreturn
    rw [join_lossyLines hcut hreturn]

/-- A text of two lines, one of them empty, is given back. -/
theorem lossyLines_spec_twoLines :
    toBytes "é\n\n" = [0xC3, 0xA9, 10, 10] ∧
      CutAt 10 (toBytes "é\n\n") [[0xC3, 0xA9], []] [] ∧
      toBytes (String.join ((lossyLines (toBytes "é\n\n")).map (· ++ "\n")))
        = toBytes "é\n\n" := by
  have hbytes : toBytes "é\n\n" = [0xC3, 0xA9, 10, 10] := by decide
  have hcut : CutAt 10 (toBytes "é\n\n") [[0xC3, 0xA9], []] [] := by
    have hfree : ∀ piece ∈ [[0xC3, 0xA9], []], (10 : UInt8) ∉ piece := by
      decide
    rw [hbytes]
    exact CutAt.joined hfree
  exact ⟨hbytes, hcut, (lossyLines_spec (toBytes "é\n\n")).2.2.2 _ _ rfl hcut
    (by decide)⟩

end RemoteProvision.Text
