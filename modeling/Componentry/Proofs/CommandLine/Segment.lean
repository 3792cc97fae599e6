import Componentry.Proofs.CommandLine.Word

/-!
# Segments of joined words

Words among which there is no operator make one segment, and a line that is joined from words makes
the segments of these words.

* `segments_joinWords`: the segments of a joined line;
* `segmentsFrom_eq_ofWords`: words without an operator.
-/

namespace Componentry.CommandLine

/-- A word is no operator if it is none of the three. -/
theorem Operator.ofWord?_eq_none {word : Text}
    (h : word ≠ "&&".toList ∧ word ≠ "||".toList ∧ word ≠ ";".toList) :
    Operator.ofWord? word = none := by
  rw [Operator.ofWord?, if_neg h.1, if_neg h.2.1, if_neg h.2.2]

/-- Words without an operator go to the segment that has been begun. -/
theorem segmentsFrom_eq_ofWords {operator? : Option Operator} {current words : List Text}
    (h : ∀ word ∈ words, Operator.ofWord? word = none) :
    segmentsFrom operator? current words = Segment.ofWords operator? (current ++ words) := by
  induction words generalizing current with
  | nil => rw [segmentsFrom, List.append_nil]
  | cons word words ih =>
    rw [List.forall_mem_cons] at h
    rw [segmentsFrom, h.1]
    dsimp only
    rw [ih h.2, List.append_assoc]
    rfl

/-- The segments of a joined line are those of the words that it was joined from. -/
theorem segments_joinWords (words : List Text) :
    segments (joinWords words) = segmentsFrom none [] words := by
  rw [segments, wordsOf_joinWords]

end Componentry.CommandLine
