/-
Texts between marks.

What a script says in one of its places is read between two marks:
behind the first place where the one stands, up to the next place where
the other stands (`between`).

A text that is made of pieces is searched piece by piece.  A piece in
which no mark begins is passed over (`cutAtMark_skip`), and a mark that
is found in a piece is found there whatever follows
(`cutAtMark_append`).  Only the passing over needs care, since a mark
may begin in one piece and end in the next.
-/

namespace RemoteProvision.Text

-- =========================================================== cutting

/-- The texts before and behind the first place where a mark stands. -/
def cutAtMark (mark : List Char) :
    List Char → Option (List Char × List Char)
  | [] => none
  | c :: cs =>
    if mark.isPrefixOf (c :: cs) then
      some ([], (c :: cs).drop mark.length)
    else (cutAtMark mark cs).map fun p => (c :: p.1, p.2)

/-- The text between the first place of one mark and the next place of
another. -/
def between (opening closing text : String) : Option String :=
  (cutAtMark opening.toList text.toList).bind fun p =>
    (cutAtMark closing.toList p.2).map fun q => String.ofList q.1

variable {mark piece text before behind : List Char}

/-- A mark is found at the front. -/
theorem cutAtMark_front (hmark : mark ≠ []) :
    cutAtMark mark (mark ++ text) = some ([], text) := by
  cases mark with
  | nil => exact absurd rfl hmark
  | cons m mark =>
      rw [List.cons_append, cutAtMark, if_pos, ← List.cons_append,
        List.drop_left]
      exact List.isPrefixOf_iff_prefix.2 (List.prefix_append ..)

/-- A piece in which no mark begins is passed over. -/
theorem cutAtMark_skip
    (h : ∀ rest, rest <:+ piece → rest ≠ [] → ¬ mark <+: rest ++ text) :
    cutAtMark mark (piece ++ text)
      = (cutAtMark mark text).map fun p => (piece ++ p.1, p.2) := by
  induction piece with
  | nil => simp
  | cons c piece ih =>
      have hhere : ¬ mark.isPrefixOf (c :: (piece ++ text)) = true := by
        rw [List.isPrefixOf_iff_prefix]
        exact h (c :: piece) List.suffix_rfl (List.cons_ne_nil c piece)
      rw [List.cons_append, cutAtMark, if_neg hhere,
        ih fun rest hrest => h rest (hrest.trans (List.suffix_cons ..)),
        Option.map_map]
      rfl

/-- Nothing begins in a piece that does not hold the first character of
the mark. -/
theorem cutAtMark_skip_head {m : Char} (h : m ∉ piece) :
    cutAtMark (m :: mark) (piece ++ text)
      = (cutAtMark (m :: mark) text).map
          fun p => (piece ++ p.1, p.2) := by
  refine cutAtMark_skip fun rest hrest hne hmark => ?_
  cases rest with
  | nil => exact hne rfl
  | cons c rest =>
      obtain ⟨rfl, -⟩ := List.cons_prefix_cons.1 hmark
      exact h (hrest.mem (List.mem_cons_self ..))

/-- A mark is found behind a piece that does not hold its first
character. -/
theorem cutAtMark_behind {m : Char} (h : m ∉ piece) :
    cutAtMark (m :: mark) (piece ++ (m :: mark ++ text))
      = some (piece, text) := by
  rw [cutAtMark_skip_head h, cutAtMark_front (List.cons_ne_nil m mark)]
  simp

/-- Nothing begins in a piece that lacks a character of the mark, if the
character behind the piece is none of the mark. -/
theorem cutAtMark_skip_closed {m x : Char} (hm : m ∈ mark)
    (hx : x ∉ mark) (h : m ∉ piece) :
    cutAtMark mark (piece ++ x :: text)
      = (cutAtMark mark (x :: text)).map
          fun p => (piece ++ p.1, p.2) := by
  refine cutAtMark_skip fun rest hrest _ hmark => ?_
  have hclosed : rest ++ [x] <+: rest ++ x :: text :=
    ⟨text, by rw [List.append_assoc, List.singleton_append]⟩
  rcases List.prefix_or_prefix_of_prefix hmark hclosed with
    hinside | hacross
  · rcases List.mem_append.1 (hinside.mem hm) with hmem | hmem
    · exact h (hrest.mem hmem)
    · exact hx (List.mem_singleton.1 hmem ▸ hm)
  · exact hx (hacross.mem (List.mem_append_right _ (.head _)))

/-- A text with a mark in it is long enough for the mark. -/
theorem length_of_cutAtMark
    (h : cutAtMark mark text = some (before, behind)) :
    mark.length ≤ text.length := by
  induction text generalizing before behind with
  | nil => cases h
  | cons c cs ih =>
      rw [cutAtMark] at h
      split at h
      · next hmark =>
          exact (List.isPrefixOf_iff_prefix.1 hmark).length_le
      · obtain ⟨p, hp, -⟩ := Option.map_eq_some_iff.1 h
        exact Nat.le_succ_of_le (ih hp)

/-- A mark that is found is found whatever follows. -/
theorem cutAtMark_append
    (h : cutAtMark mark text = some (before, behind))
    (rest : List Char) :
    cutAtMark mark (text ++ rest) = some (before, behind ++ rest) := by
  induction text generalizing before behind with
  | nil => cases h
  | cons c cs ih =>
      have hlength := length_of_cutAtMark h
      rw [cutAtMark] at h
      rw [List.cons_append, cutAtMark]
      split at h
      · next hmark =>
          cases h
          have hfront := List.isPrefixOf_iff_prefix.1 hmark
          rw [if_pos, ← List.cons_append,
            List.drop_append_of_le_length hlength]
          exact List.isPrefixOf_iff_prefix.2
            (hfront.trans (List.prefix_append ..))
      · next hmark =>
          obtain ⟨p, hp, hcut⟩ := Option.map_eq_some_iff.1 h
          cases hcut
          -- the mark is not longer than the text, so it does not end
          -- in what follows
          have hhere :
              ¬ mark.isPrefixOf (c :: (cs ++ rest)) = true := by
            rw [List.isPrefixOf_iff_prefix] at hmark ⊢
            exact fun hlonger => hmark (List.prefix_of_prefix_length_le
              hlonger (List.prefix_append (c :: cs) rest) hlength)
          rw [if_neg hhere, ih hp]
          rfl

-- =========================================================== reading

/-- A value behind the first opening mark is read, if it does not hold
the first character of the closing mark behind it. -/
theorem between_eq {opening closing whole value : String} {m : Char}
    (hopening : cutAtMark opening.toList whole.toList
      = some (before, value.toList ++ (closing.toList ++ behind)))
    (hclosing : closing.toList = m :: mark)
    (hvalue : m ∉ value.toList) :
    between opening closing whole = some value := by
  rw [between, hopening, Option.bind_some, hclosing,
    cutAtMark_behind hvalue, Option.map_some, String.ofList_toList]

/-- So it is if nothing in front of the mark holds the mark's first
character. -/
theorem between_behind {opening closing whole value : String}
    {m n : Char} {mark' : List Char}
    (hwhole : whole.toList = piece ++ (opening.toList
      ++ (value.toList ++ (closing.toList ++ behind))))
    (hopening : opening.toList = m :: mark)
    (hclosing : closing.toList = n :: mark')
    (hpiece : m ∉ piece) (hvalue : n ∉ value.toList) :
    between opening closing whole = some value := by
  have hcut : cutAtMark opening.toList whole.toList
      = some (piece, value.toList ++ (closing.toList ++ behind)) := by
    rw [hwhole, hopening]
    exact cutAtMark_behind hpiece
  exact between_eq hcut hclosing hvalue

end RemoteProvision.Text
