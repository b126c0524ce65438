/-! # Control sequences of terminals

A control sequence is an escape character, an opening bracket, digits, semicolons and question
marks, and a letter. Terminals take it for a command, so messages that may go elsewhere are written
without such sequences. -/

namespace BlockCalc

/-- The escape character. -/
abbrev escapeMark : Char := Char.ofNat 27

/-- Characters between the bracket and the letter of a control sequence. -/
def isParameter (c : Char) : Bool := c == ';' || c == '?' || c.isDigit

/-- What follows a control sequence, if a text starts with one. -/
def afterSequence? : List Char → Option (List Char)
  | e :: '[' :: r =>
    match r.dropWhile isParameter with
    | c :: rest => if e = escapeMark && c.isAlpha then some rest else none
    | [] => none
  | _ => none

theorem afterSequence?_length {cs rest : List Char} (h : afterSequence? cs = some rest) :
    rest.length < cs.length := by
  unfold afterSequence? at h
  split at h
  · rename_i e r
    have hle := (List.dropWhile_suffix isParameter (l := r)).length_le
    split at h
    · rename_i c rest' hr
      rw [hr] at hle
      split at h
      · cases h
        simp only [List.length_cons] at hle ⊢
        omega
      · cases h
    · cases h
  · cases h

/-- A text without its control sequences. What is left may look like one again. -/
def withoutSequences : List Char → List Char
  | [] => []
  | c :: r =>
    match h : afterSequence? (c :: r) with
    | some rest =>
      have := afterSequence?_length h
      withoutSequences rest
    | none => c :: withoutSequences r
termination_by cs => cs.length
decreasing_by
  · assumption
  · exact Nat.lt_succ_self r.length

end BlockCalc
