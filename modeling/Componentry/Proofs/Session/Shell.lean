import Componentry.Proofs.CommandLine.Segment
import Componentry.Session.Shell

/-!
# Arguments of the program

The arguments of the program are joined to a line, which is cut into words again before a command
gets them. The command gets what the program got, whatever characters the arguments hold, as long as
none of them is an operator.

* `passes_arguments`: the one command that is run, and its arguments.
-/

namespace Componentry.Session

open CommandLine

/-- A single command that no operator precedes is run. -/
theorem run_singleton {σ : Type} (handlers : Text → Option (Handler σ)) (name : Text)
    (arguments : List Text) (state : σ) :
    CommandLine.run handlers [⟨name, arguments, none⟩] state =
      call handlers ⟨name, arguments, none⟩ state := by
  rw [CommandLine.run, runFrom, if_neg (by simp [isSkipped])]
  dsimp only
  split
  · rfl
  · rw [runFrom, List.append_nil]

/-- Arguments among which there is no operator make one command, which gets them as they are and
whose exit code is that of the program. -/
theorem passes_arguments {name : Text} {arguments : List Text}
    (h : ∀ word ∈ name :: arguments,
      word ≠ "&&".toList ∧ word ≠ "||".toList ∧ word ≠ ";".toList) :
    segments (joinWords (name :: arguments)) = [⟨name, arguments, none⟩] ∧
      ∀ s, runArguments (name :: arguments) s =
        { call handlers ⟨name, arguments, none⟩ s with
          code := programCode (call handlers ⟨name, arguments, none⟩ s).code } := by
  have hsegments : segments (joinWords (name :: arguments)) = [⟨name, arguments, none⟩] := by
    rw [segments_joinWords,
      segmentsFrom_eq_ofWords fun word hword => Operator.ofWord?_eq_none (h word hword)]
    rfl
  refine ⟨hsegments, fun s => ?_⟩
  rw [runArguments, runLine, hsegments, run_singleton]

/-- Arguments with blanks, quotation marks, a backslash, a line end and operators inside words, an
empty one, and one that is half an operator. -/
theorem passes_arguments_hard :
    (∀ word ∈ ["convert".toList, "it's a \"b\";\\ &&\n#é.html".toList, [], "|".toList],
      word ≠ "&&".toList ∧ word ≠ "||".toList ∧ word ≠ ";".toList) ∧
    segments (joinWords
        ["convert".toList, "it's a \"b\";\\ &&\n#é.html".toList, [], "|".toList]) =
      [⟨"convert".toList, ["it's a \"b\";\\ &&\n#é.html".toList, [], "|".toList], none⟩] :=
  ⟨by decide, (passes_arguments (by decide)).1⟩

end Componentry.Session
