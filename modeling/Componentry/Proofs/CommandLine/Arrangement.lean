import Componentry.CommandLine.Chain
import Componentry.Proofs.CommandLine.Quoting

/-!
# Commands among the words of a line

The words of a line are those of its commands and the operators before, between and after them.
Between two neighbouring commands there is at least one operator, and the last one of them belongs
to the later command. Operators may also stand before the first command, which then has the last one
of these.

* `Arranged`: commands with operators around them;
* `arranged_segmentsFrom`: the reader of commands finds the arrangement of the words;
* `Arranged.exists_place`, `Arranged.exists_between`: where commands are in an arrangement;
* `Arranged.eq_nil_iff_adjacent`: which words are in the same command;
* `segments_follow_words`: the commands of a line.
-/

namespace Componentry.CommandLine

/-- The words that are no operators. -/
def plainWords (words : List Text) : List Text :=
  words.filter fun word => (Operator.ofWord? word).isNone

/-- The words `x` and `y` follow one another in one of the segments, after the words `before` in it
and in the segments before it. -/
def Adjacent (segments : List Segment) (before : List Text) (x y : Text) : Prop :=
  ∃ earlier s later front back, segments = earlier ++ s :: later ∧
    s.words = front ++ x :: y :: back ∧ before = earlier.flatMap Segment.words ++ front

/-- Words are arranged in segments: each segment comes after operators, the last of which it has,
and what comes after a segment begins with an operator, if there is anything. -/
inductive Arranged : List Text → List Segment → Prop
  /-- Only operators are left. -/
  | done (operators : List Operator) : Arranged (operators.map Operator.word) []
  /-- Operators, the words of a segment, and what comes after them. -/
  | segment {words : List Text} {segments : List Segment} (operators : List Operator) (s : Segment)
      (hplain : ∀ word ∈ s.words, Operator.ofWord? word = none)
      (hoperator : s.operator? = operators.getLast?)
      (hnext : ∀ word ∈ words.head?, Operator.ofWord? word ≠ none)
      (hrest : Arranged words segments) :
      Arranged (operators.map Operator.word ++ (s.words ++ words)) (s :: segments)

theorem Operator.word_of_ofWord? {word : Text} {o : Operator} (h : ofWord? word = some o) :
    word = o.word := by
  rw [ofWord?] at h
  split_ifs at h with hsuccess hfailure halways
  · exact Option.some.inj h ▸ hsuccess
  · exact Option.some.inj h ▸ hfailure
  · exact Option.some.inj h ▸ halways

@[simp]
theorem plainWords_append (words more : List Text) :
    plainWords (words ++ more) = plainWords words ++ plainWords more := List.filter_append _ _

@[simp]
theorem plainWords_map_word (operators : List Operator) :
    plainWords (operators.map Operator.word) = [] := by
  simp [plainWords, List.filter_eq_nil_iff]

theorem plainWords_eq_self {words : List Text}
    (h : ∀ word ∈ words, Operator.ofWord? word = none) : plainWords words = words :=
  List.filter_eq_self.2 fun word hword => by simp [h word hword]

theorem plainWords_cons_of_none {word : Text} {words : List Text}
    (h : Operator.ofWord? word = none) : plainWords (word :: words) = word :: plainWords words :=
  List.filter_cons_of_pos (by simp [h])

/-- The segments of words are an arrangement of the words. The words `current` have been read since
the last one of `operators`. -/
theorem arranged_segmentsFrom (operators : List Operator) {current words : List Text}
    (h : ∀ word ∈ current, Operator.ofWord? word = none) :
    Arranged (operators.map Operator.word ++ (current ++ words))
      (segmentsFrom operators.getLast? current words) := by
  induction words generalizing operators current with
  | nil =>
    cases current with
    | nil => simpa [segmentsFrom, Segment.ofWords] using Arranged.done operators
    | cons name arguments =>
      refine .segment operators ⟨name, arguments, _⟩ h rfl ?_ (.done [])
      intro word hword
      cases hword
  | cons word words ih =>
    rw [segmentsFrom]
    cases hword : Operator.ofWord? word with
    | none =>
      have hih := @ih operators (current ++ [word])
        (List.forall_mem_append.2 ⟨h, List.forall_mem_singleton.2 hword⟩)
      rwa [List.append_assoc] at hih
    | some o =>
      obtain rfl := Operator.word_of_ofWord? hword
      cases current with
      | nil =>
        -- the operator is one more before the next segment
        have hih := ih (operators ++ [o]) (List.forall_mem_nil _)
        rw [List.getLast?_concat] at hih
        simpa [Segment.ofWords] using hih
      | cons name arguments =>
        -- the operator is the first one after the segment that ends here
        refine .segment operators ⟨name, arguments, _⟩ h rfl ?_ (ih [o] (List.forall_mem_nil _))
        simp [hword]

theorem arranged_segments (line : Text) : Arranged (wordsOf line) (segments line) :=
  arranged_segmentsFrom [] (List.forall_mem_nil _)

namespace Arranged

variable {words : List Text} {segments earlier later : List Segment} {s next : Segment}

/-- Segments have all words that are no operators, in their order. -/
theorem flatMap_words (h : Arranged words segments) :
    segments.flatMap Segment.words = plainWords words := by
  induction h with
  | done operators => rw [plainWords_map_word, List.flatMap_nil]
  | segment operators s hplain _ _ _ ih =>
    rw [List.flatMap_cons, ih, plainWords_append, plainWords_append, plainWords_map_word,
      plainWords_eq_self hplain, List.nil_append]

/-- A segment comes right after operators, the last of which it has. -/
theorem exists_head (h : Arranged words (s :: later)) :
    ∃ (operators : List Operator) (rest : List Text),
      words = operators.map Operator.word ++ (s.words ++ rest) ∧
      s.operator? = operators.getLast? := by
  cases h with
  | segment operators _ _ hoperator _ _ => exact ⟨operators, _, rfl, hoperator⟩

/-- The words of a segment stand together in the line, after the words of the segments before it.
What follows them is an arrangement of its own, which does not go on with a word. -/
theorem exists_place (h : Arranged words (earlier ++ s :: later)) :
    ∃ before rest, words = before ++ (s.words ++ rest) ∧
      plainWords before = earlier.flatMap Segment.words ∧
      (∀ word ∈ s.words, Operator.ofWord? word = none) ∧
      (∀ word ∈ rest.head?, Operator.ofWord? word ≠ none) ∧ Arranged rest later := by
  induction earlier generalizing words with
  | nil =>
    cases h with
    | segment operators _ hplain _ hnext hrest =>
      exact ⟨_, _, rfl, plainWords_map_word operators, hplain, hnext, hrest⟩
  | cons first earlier ih =>
    cases h with
    | segment operators _ hplain _ _ hrest =>
      obtain ⟨before, rest, rfl, hbefore, hlater⟩ := ih hrest
      refine ⟨operators.map Operator.word ++ (first.words ++ before), rest,
        by simp only [List.append_assoc], ?_, hlater⟩
      rw [plainWords_append, plainWords_append, plainWords_map_word, plainWords_eq_self hplain,
        hbefore, List.nil_append, List.flatMap_cons]

/-- Between two neighbouring segments there are operators and nothing else, and the later segment
has the last one of them. -/
theorem exists_between (h : Arranged words (earlier ++ s :: next :: later)) :
    ∃ (before : List Text) (operators : List Operator) (rest : List Text),
      words = before ++ (s.words ++ (operators.map Operator.word ++ (next.words ++ rest))) ∧
      plainWords before = earlier.flatMap Segment.words ∧ operators ≠ [] ∧
      next.operator? = operators.getLast? := by
  obtain ⟨before, words', rfl, hbefore, -, hnext, hrest⟩ := h.exists_place
  cases hrest with
  | segment operators _ hplain hoperator _ _ =>
    refine ⟨before, operators, _, rfl, hbefore, ?_, hoperator⟩
    rintro rfl
    exact hnext next.name rfl (hplain next.name List.mem_cons_self)

end Arranged

/-- The place of a word is known from the number of words of its sort before it. -/
theorem eq_of_length_filter_eq {α : Type} {p : α → Bool} {before before' rest rest' : List α}
    {x x' : α} (h : before ++ x :: rest = before' ++ x' :: rest') (hx : p x) (hx' : p x')
    (hlength : (before.filter p).length = (before'.filter p).length) : before = before' := by
  rcases List.append_eq_append_iff.1 h with ⟨more, rfl, hmore⟩ | ⟨more, rfl, hmore⟩
  · cases more with
    | nil => exact (List.append_nil _).symm
    | cons a more =>
      -- the word itself would be one more before the other place
      obtain ⟨rfl, -⟩ := List.cons.inj hmore
      simp [hx] at hlength
  · cases more with
    | nil => exact List.append_nil _
    | cons a more =>
      obtain ⟨rfl, -⟩ := List.cons.inj hmore
      simp [hx'] at hlength

/-- A word of some segments is a word of one of them. -/
theorem exists_segment_of_flatMap_eq {segments : List Segment} {front rest : List Text} {x : Text}
    (h : segments.flatMap Segment.words = front ++ x :: rest) :
    ∃ earlier s later front' back, segments = earlier ++ s :: later ∧
      s.words = front' ++ x :: back ∧ front = earlier.flatMap Segment.words ++ front' ∧
      rest = back ++ later.flatMap Segment.words := by
  induction segments generalizing front with
  | nil => simp at h
  | cons s segments ih =>
    rw [List.flatMap_cons] at h
    rcases List.append_eq_append_iff.1 h with ⟨more, rfl, hmore⟩ | ⟨more, hwords, hmore⟩
    · -- the word is in a later segment
      obtain ⟨earlier, t, later, front', back, rfl, ht, rfl, hrest⟩ := ih hmore
      exact ⟨s :: earlier, t, later, front', back, rfl, ht, by simp, hrest⟩
    · cases more with
      | nil =>
        -- the word is the first one after this segment
        obtain ⟨earlier, t, later, front', back, rfl, ht, hfront, hrest⟩ :=
          @ih [] hmore.symm
        refine ⟨s :: earlier, t, later, front', back, rfl, ht, ?_, hrest⟩
        rw [List.flatMap_cons, List.append_assoc, ← hfront, hwords, List.append_nil,
          List.append_nil]
      | cons a back =>
        obtain ⟨rfl, rfl⟩ := List.cons.inj hmore
        exact ⟨[], s, segments, front, back, rfl, hwords, rfl, rfl⟩

/-- Two neighbouring words are in the same segment exactly if there is no operator between them. -/
theorem Arranged.eq_nil_iff_adjacent {words before rest : List Text} {segments : List Segment}
    {operators : List Operator} {x y : Text} (h : Arranged words segments)
    (hwords : words = before ++ x :: (operators.map Operator.word ++ y :: rest))
    (hx : Operator.ofWord? x = none) (hy : Operator.ofWord? y = none) :
    operators = [] ↔ Adjacent segments (plainWords before) x y := by
  -- what follows the first word is known if its place is
  have hplace : ∀ before' rest' : List Text, words = before' ++ x :: rest' →
      plainWords before' = plainWords before →
      rest' = operators.map Operator.word ++ y :: rest := by
    intro before' rest' hwords' hbefore
    have heq := hwords'.symm.trans hwords
    obtain rfl := eq_of_length_filter_eq heq (by simp [hx]) (by simp [hx])
      (congrArg List.length hbefore)
    exact (List.cons.inj (List.append_cancel_left heq)).2
  constructor
  · rintro rfl
    have hflat := h.flatMap_words
    rw [hwords, plainWords_append, plainWords_cons_of_none hx, List.map_nil, List.nil_append,
      plainWords_cons_of_none hy] at hflat
    obtain ⟨earlier, s, later, front, back, rfl, hs, hfront, hrest⟩ :=
      exists_segment_of_flatMap_eq hflat
    cases back with
    | cons z back =>
      obtain ⟨rfl, -⟩ := List.cons.inj hrest
      exact ⟨earlier, s, later, front, back, rfl, hs, hfront⟩
    | nil =>
      -- if the segment ended here, an operator would follow
      obtain ⟨before', rest', hsplit, hbefore, hplain, hnext, -⟩ := h.exists_place
      rw [hs, List.forall_mem_append] at hplain
      have hrest' := hplace (before' ++ front) rest' (by simp [hsplit, hs])
        (by rw [plainWords_append, hbefore, plainWords_eq_self hplain.1, hfront])
      exact absurd hy (hnext y (by rw [hrest']; rfl))
  · rintro ⟨earlier, s, later, front, back, rfl, hs, hfront⟩
    obtain ⟨before', rest', hsplit, hbefore, hplain, -, -⟩ := h.exists_place
    rw [hs, List.forall_mem_append] at hplain
    have hrest' := hplace (before' ++ front) (y :: back ++ rest') (by simp [hsplit, hs])
      (by rw [plainWords_append, hbefore, plainWords_eq_self hplain.1, hfront])
    cases operators with
    | nil => rfl
    | cons o operators =>
      rw [(List.cons.inj hrest').1, Operator.ofWord?_word] at hy
      cases hy

/-- The commands of a line have all its words that are no operators, in their order. The first one
has the last of the operators that the line begins with, and none only if the line begins with none;
it is left out if that operator asks for a failure. Every later one has the last of the operators
between it and the command before it, of which there is at least one. Two neighbouring words are in
the same command exactly if there is no operator between them. -/
theorem segments_follow_words (line : Text) :
    (segments line).flatMap Segment.words = plainWords (wordsOf line) ∧
      (∀ first later, segments line = first :: later →
        ∃ (operators : List Operator) (rest : List Text),
          wordsOf line = operators.map Operator.word ++ (first.words ++ rest) ∧
          first.operator? = operators.getLast? ∧ (first.operator? = none ↔ operators = []) ∧
          (isSkipped first.operator? 0 = true ↔ operators.getLast? = some .onFailure)) ∧
      (∀ earlier s next later, segments line = earlier ++ s :: next :: later →
        ∃ (before : List Text) (operators : List Operator) (rest : List Text),
          wordsOf line =
            before ++ (s.words ++ (operators.map Operator.word ++ (next.words ++ rest))) ∧
          plainWords before = earlier.flatMap Segment.words ∧ operators ≠ [] ∧
          next.operator? = operators.getLast?) ∧
      ∀ (before : List Text) (x : Text) (operators : List Operator) (y : Text) (rest : List Text),
        wordsOf line = before ++ x :: (operators.map Operator.word ++ y :: rest) →
        Operator.ofWord? x = none → Operator.ofWord? y = none →
        (operators = [] ↔ Adjacent (segments line) (plainWords before) x y) := by
  have harranged := arranged_segments line
  refine ⟨harranged.flatMap_words, ?_, ?_, ?_⟩
  · intro first later hsegments
    rw [hsegments] at harranged
    obtain ⟨operators, rest, hwords, hoperator⟩ := harranged.exists_head
    refine ⟨operators, rest, hwords, hoperator, ?_, ?_⟩
    · rw [hoperator, List.getLast?_eq_none_iff]
    · rw [hoperator]
      cases operators.getLast? with
      | none => decide
      | some o => cases o <;> decide
  · intro earlier s next later hsegments
    rw [hsegments] at harranged
    exact harranged.exists_between
  · intro before x operators y rest hwords hx hy
    exact harranged.eq_nil_iff_adjacent hwords hx hy

/-- A line that begins with an operator has it before its first command. No command of this line is
run, not even one of those that count their calls. -/
theorem leading_operator_skips_first :
    wordsOf "|| quit" = ["||".toList, "quit".toList] ∧
      segments "|| quit" = [⟨"quit", [], some .onFailure⟩] ∧
      isSkipped (some .onFailure) 0 = true ∧
      (run (fun _ => some fun _ calls => ⟨.value (.int 0), calls + 1, []⟩) (segments "|| quit")
        0).state = 0 := by
  decide +kernel

end Componentry.CommandLine
