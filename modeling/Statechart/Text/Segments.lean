namespace Statechart.Text

-- The pieces of a text between its marks. There is always one more piece than
-- there are marks, so the empty text has one empty piece.
def piecesAt (mark : Char) : List Char → List (List Char)
  | [] => [[]]
  | c :: rest =>
      if c = mark then [] :: piecesAt mark rest
      else match piecesAt mark rest with
        | [] => [[c]]
        | piece :: pieces => (c :: piece) :: pieces

def segments (mark : Char) (s : String) : List String :=
  (piecesAt mark s.toList).map String.ofList

theorem piecesAt_ne_nil (mark : Char) (cs : List Char) : piecesAt mark cs ≠ [] := by
  cases cs with
  | nil => simp [piecesAt]
  | cons c rest =>
      simp only [piecesAt]
      split
      · simp
      · split <;> simp

theorem segments_ne_nil (mark : Char) (s : String) : segments mark s ≠ [] := by
  simp [segments, piecesAt_ne_nil]

end Statechart.Text
