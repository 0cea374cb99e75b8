namespace LoopProgress

/-- The pieces of a list lie between its separators. There is one more of them. -/
def pieces (separator : UInt8) : List UInt8 → List (List UInt8)
  | [] => [[]]
  | byte :: rest =>
      if byte = separator then [] :: pieces separator rest
      else
        match pieces separator rest with
        | [] => [[byte]]
        | first :: others => (byte :: first) :: others

@[simp] theorem pieces_nil (separator : UInt8) : pieces separator [] = [[]] := rfl

theorem pieces_ne_nil (separator : UInt8) (bytes : List UInt8) : pieces separator bytes ≠ [] := by
  cases bytes with
  | nil => simp
  | cons byte rest =>
      rw [pieces]
      split
      · simp
      · split <;> simp

/-- A piece ends at the first separator. -/
theorem pieces_append (separator : UInt8) (piece rest : List UInt8) (absent : separator ∉ piece) :
    pieces separator (piece ++ separator :: rest) = piece :: pieces separator rest := by
  induction piece with
  | nil => simp [pieces]
  | cons byte piece inductionHypothesis =>
      have different : byte ≠ separator := fun same => absent (by simp [same])
      have absentBelow : separator ∉ piece := fun present => absent (by simp [present])
      simp [pieces, different, inductionHypothesis absentBelow]

/-- A list without a separator is a single piece. -/
theorem pieces_of_not_mem (separator : UInt8) (piece : List UInt8) (absent : separator ∉ piece) :
    pieces separator piece = [piece] := by
  induction piece with
  | nil => rfl
  | cons byte piece inductionHypothesis =>
      have different : byte ≠ separator := fun same => absent (by simp [same])
      have absentBelow : separator ∉ piece := fun present => absent (by simp [present])
      simp [pieces, different, inductionHypothesis absentBelow]

/-- Pieces that are all ended by a separator are cut from each other and from what comes last. -/
theorem pieces_ended {separator : UInt8} {ended : List (List UInt8)} {rest : List UInt8}
    (absent : ∀ piece ∈ ended, separator ∉ piece) (absentLast : separator ∉ rest) :
    pieces separator (ended.flatMap (· ++ [separator]) ++ rest) = ended ++ [rest] := by
  induction ended with
  | nil => exact pieces_of_not_mem separator rest absentLast
  | cons piece others inductionHypothesis =>
      have behind := inductionHypothesis fun other listed => absent other (.tail _ listed)
      rw [List.flatMap_cons, List.append_assoc, List.append_assoc, List.singleton_append,
        pieces_append separator piece _ (absent piece (.head _)), behind, List.cons_append]

/-- A list is its first piece, and each later piece behind a separator. -/
theorem eq_of_pieces {separator : UInt8} {bytes first : List UInt8} {others : List (List UInt8)}
    (cut : pieces separator bytes = first :: others) :
    bytes = first ++ others.flatMap (separator :: ·) := by
  induction bytes generalizing first others with
  | nil =>
      cases cut
      rfl
  | cons byte rest inductionHypothesis =>
      rw [pieces] at cut
      split at cut
      · next same =>
          cases later : pieces separator rest with
          | nil => exact absurd later (pieces_ne_nil separator rest)
          | cons next following =>
              rw [later] at cut
              cases cut
              rw [inductionHypothesis later, same]
              rfl
      · split at cut
        · next nothing => exact absurd nothing (pieces_ne_nil separator rest)
        · next later =>
            cases cut
            rw [inductionHypothesis later]
            rfl

/-- Pieces without a separator can be joined and cut again. -/
theorem pieces_joined {separator : UInt8} {first : List UInt8} {others : List (List UInt8)}
    (absent : ∀ piece ∈ first :: others, separator ∉ piece) :
    pieces separator (first ++ others.flatMap (separator :: ·)) = first :: others := by
  induction others generalizing first with
  | nil => simpa using pieces_of_not_mem separator first (absent first (.head _))
  | cons next following inductionHypothesis =>
      have behind := inductionHypothesis fun piece listed => absent piece (.tail _ listed)
      rw [List.flatMap_cons, List.cons_append,
        pieces_append separator first _ (absent first (.head _)), behind]

end LoopProgress
