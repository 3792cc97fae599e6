import Componentry.Proofs.CommandLine.Segment

/-!
# Words and how they are written

The words of a line are runs of its characters. Spaces and separators that stand between quotation
marks or after a backslash are characters of words like any others, so that a word may look like an
operator only because it was quoted. Which words these are is seen in the line and no longer in its
words.

* `words?_eq`: the words of a line are the texts of its runs, if its quotation marks are closed;
* `divide`, `segmentsFrom_eq_divide`: commands as the parts of a line between operators;
* `flatMap_words_divide`: commands have all words that are no operators, and no others;
* `segments_eq_divide_iff`: when a line is divided at the operators that were not quoted, and at
  those only.
-/

namespace Componentry.CommandLine

/-! ### Characters as they are written -/

/-- A character of a line together with what quotation marks and backslashes make of it. -/
inductive Symbol
  /-- It is outside quotation marks and has no backslash before it. -/
  | bare (c : Char)
  /-- It is between quotation marks or has a backslash before it. -/
  | quoted (c : Char)
  /-- It is a quotation mark or a backslash that quotes others and belongs to no word itself. -/
  | mark
  deriving DecidableEq, Repr

/-- What a symbol can be a part of. -/
inductive Kind
  /-- The space between words. -/
  | space
  /-- A run of separators. -/
  | separators
  /-- A word. -/
  | word
  deriving DecidableEq, Repr

namespace Symbol

/-- The character that a symbol adds to its word. -/
def char? : Symbol → Option Char
  | .bare c => some c
  | .quoted c => some c
  | .mark => none

/-- Nothing quotes the symbol, and it quotes nothing. -/
def isBare : Symbol → Bool
  | .bare _ => true
  | _ => false

/-- Only a bare character can be more than a part of a word. -/
def kind : Symbol → Kind
  | .bare c => if isSpace c then .space else if isSeparator c then .separators else .word
  | _ => .word

/-- The text of some symbols. -/
def text (symbols : List Symbol) : Text := symbols.filterMap char?

@[simp]
theorem text_nil : text [] = [] := rfl

@[simp]
theorem text_bare (c : Char) (symbols : List Symbol) :
    text (.bare c :: symbols) = c :: text symbols := rfl

@[simp]
theorem text_quoted (c : Char) (symbols : List Symbol) :
    text (.quoted c :: symbols) = c :: text symbols := rfl

@[simp]
theorem text_mark (symbols : List Symbol) : text (.mark :: symbols) = text symbols := rfl

theorem text_append (symbols more : List Symbol) :
    text (symbols ++ more) = text symbols ++ text more := List.filterMap_append

end Symbol

/-- What quotes the next character of a line. -/
inductive Quoting
  /-- Nothing. -/
  | outside
  /-- The quotation mark `mark`, which is not closed yet. -/
  | within (mark : Char)
  /-- A backslash outside quotation marks. -/
  | escaped
  /-- A backslash between double quotation marks. -/
  | escapedWithin
  deriving DecidableEq, Repr

namespace Quoting

/-- What quotes the character after `c`, and the symbols of `c`. Between double quotation marks a
backslash is known to be a mark only when the next character is read. -/
def step : Quoting → Char → Quoting × List Symbol
  | .outside, c =>
    if isQuote c then (.within c, [.mark])
    else if c = '\\' then (.escaped, [.mark])
    else (.outside, [.bare c])
  | .within mark, c =>
    if c = mark then (.outside, [.mark])
    else if c = '\\' && mark = '"' then (.escapedWithin, [])
    else (.within mark, [.quoted c])
  | .escaped, c => (.outside, [.quoted c])
  | .escapedWithin, c =>
    if c = '\\' || c = '"' then (.within '"', [.mark, .quoted c])
    else (.within '"', [.quoted '\\', .quoted c])

/-- What quotes the character after a text. -/
def after (q : Quoting) (t : Text) : Quoting := t.foldl (fun q c => (q.step c).1) q

/-- The symbols of a text. -/
def symbols : Quoting → Text → List Symbol
  | _, [] => []
  | q, c :: rest => (q.step c).2 ++ symbols (q.step c).1 rest

end Quoting

/-- All quotation marks of a line are closed, and no backslash is its last character. -/
def IsClosed (line : Text) : Prop := Quoting.outside.after line = .outside

instance (line : Text) : Decidable (IsClosed line) := inferInstanceAs (Decidable (_ = _))

/-- The words that symbols make: the longest runs of a kind, without the space between them. -/
def wordsOfSymbols (symbols : List Symbol) : List (List Symbol) :=
  (symbols.splitBy fun a b => a.kind == b.kind).filter fun run => run.all (·.kind ≠ .space)

/-- The words of a line as they are written. -/
def writtenWords (line : Text) : List (List Symbol) :=
  wordsOfSymbols (Quoting.outside.symbols line)

/-! ### Runs -/

theorem wordsOfSymbols_append {current symbols : List Symbol}
    (h : ∀ a ∈ current, ∀ b ∈ symbols.head?, a.kind ≠ b.kind) :
    wordsOfSymbols (current ++ symbols) = wordsOfSymbols current ++ wordsOfSymbols symbols := by
  rw [wordsOfSymbols, List.splitBy_append, List.filter_append]
  · rfl
  · intro a ha b hb
    exact beq_false_of_ne (h a (List.mem_of_getLast? ha) b hb)

theorem splitBy_kind {symbols : List Symbol} {kind : Kind} (hne : symbols ≠ [])
    (h : ∀ a ∈ symbols, a.kind = kind) :
    symbols.splitBy (fun a b => a.kind == b.kind) = [symbols] := by
  refine List.splitBy_of_isChain hne (List.Pairwise.isChain ?_)
  refine List.pairwise_of_forall_mem_list fun a ha b hb => ?_
  rw [h a ha, h b hb, beq_self_eq_true]

/-- Symbols that make one run are one word, unless they are space. -/
theorem wordsOfSymbols_kind {symbols : List Symbol} {kind : Kind} (hne : symbols ≠ [])
    (h : ∀ a ∈ symbols, a.kind = kind) :
    wordsOfSymbols symbols = if kind = .space then [] else [symbols] := by
  rw [wordsOfSymbols, splitBy_kind hne h]
  obtain ⟨a, ha⟩ := List.exists_mem_of_ne_nil symbols hne
  split
  next hspace =>
    refine List.filter_eq_nil_iff.2 fun word hword hall => ?_
    rw [List.mem_singleton.1 hword, List.all_eq_true] at hall
    simpa [h a ha, hspace] using hall a ha
  next hspace =>
    refine List.filter_eq_self.2 fun word hword => ?_
    rw [List.mem_singleton.1 hword, List.all_eq_true]
    exact fun b hb => by simpa [h b hb] using hspace

/-! ### The reader of words -/

namespace Place

/-- The kind of the run that the reader is in. -/
def kind : Place → Kind
  | .between => .space
  | .separators => .separators
  | _ => .word

theorem kind_eq_space_iff {place : Place} : place.kind = .space ↔ place = .between := by
  cases place <;> simp [kind]

/-- What quotes the next character. -/
def quoting : Place → Quoting
  | .between => .outside
  | .word => .outside
  | .separators => .outside
  | .quoted mark => .within mark
  | .escaped => .escaped
  | .escapedInQuotes => .escapedWithin

/-- The reader is at `place` with `word` in hand after the symbols of one run. -/
structure Holds (place : Place) (symbols : List Symbol) (word : Text) : Prop where
  /-- The run is of the kind that the reader is in. -/
  kind : ∀ a ∈ symbols, a.kind = place.kind
  /-- Between words the run may be empty. -/
  begun : place ≠ .between → symbols ≠ []
  /-- The word in hand is the text of the run. -/
  text : place ≠ .between → Symbol.text symbols = word.reverse

/-- The word that ends where the reader is. -/
def ended (place : Place) (word : Text) : List Text :=
  if place = .between then [] else [word.reverse]

/-- The words of the run, if it ends where the reader is. -/
theorem Holds.texts_eq {place : Place} {symbols : List Symbol} {word : Text}
    (h : place.Holds symbols word) :
    (wordsOfSymbols symbols).map Symbol.text = place.ended word := by
  rw [ended]
  by_cases hplace : place = .between
  · rw [if_pos hplace]
    by_cases hne : symbols = []
    · rw [hne]
      rfl
    · rw [wordsOfSymbols_kind hne h.kind, if_pos (by rw [hplace]; rfl), List.map_nil]
  · rw [if_neg hplace, wordsOfSymbols_kind (h.begun hplace) h.kind,
      if_neg (mt kind_eq_space_iff.1 hplace), List.map_singleton, h.text hplace]

/-- Symbols that belong to the run that the reader is in go to its word. -/
theorem Holds.append {place next : Place} {current symbols : List Symbol} {word : Text}
    (h : place.Holds current word) (hbegun : place ≠ .between) (hnext : next.kind = place.kind)
    (hkind : ∀ a ∈ symbols, a.kind = place.kind) :
    next.Holds (current ++ symbols) ((Symbol.text symbols).reverse ++ word) := by
  refine ⟨?_, fun _ => List.append_ne_nil_of_left_ne_nil (h.begun hbegun) _, fun _ => ?_⟩
  · rw [hnext]
    exact List.forall_mem_append.2 ⟨h.kind, hkind⟩
  · rw [Symbol.text_append, h.text hbegun, List.reverse_append, List.reverse_reverse]

/-- Symbols of another run end the run that the reader is in. -/
theorem Holds.apart {place next : Place} {current symbols : List Symbol} {word word' : Text}
    (h : place.Holds current word) (hnext : next.Holds symbols word')
    (hkind : next.kind ≠ place.kind) (hne : symbols ≠ []) (more : List Symbol) :
    ∀ a ∈ current, ∀ b ∈ (symbols ++ more).head?, a.kind ≠ b.kind := by
  intro a ha b hb
  rw [List.head?_append_of_ne_nil _ hne] at hb
  rw [h.kind a ha, hnext.kind b (List.mem_of_mem_head? hb)]
  exact hkind.symm

end Place

/-- What a character can be outside quotation marks. -/
inductive Meaning (c : Char) : Prop
  /-- It is space between words. -/
  | space (hspace : isSpace c = true) (hseparator : isSeparator c = false)
    (hquote : isQuote c = false) (hslash : c ≠ '\\')
  /-- It is a separator. -/
  | separator (hspace : isSpace c = false) (hseparator : isSeparator c = true)
    (hquote : isQuote c = false) (hslash : c ≠ '\\')
  /-- It opens a quoted text. -/
  | quote (hspace : isSpace c = false) (hseparator : isSeparator c = false)
    (hquote : isQuote c = true) (hslash : c ≠ '\\')
  /-- It quotes the next character. -/
  | slash (hslash : c = '\\')
  /-- It is a part of a word. -/
  | ordinary (hspace : isSpace c = false) (hseparator : isSeparator c = false)
    (hquote : isQuote c = false) (hslash : c ≠ '\\')

theorem meaning (c : Char) : Meaning c := by
  by_cases hslash : c = '\\'
  · exact .slash hslash
  cases hspace : isSpace c with
  | true =>
    simp only [isSpace, Bool.or_eq_true, decide_eq_true_eq] at hspace
    rcases hspace with ((rfl | rfl) | rfl) | rfl <;> exact .space rfl rfl rfl hslash
  | false =>
    cases hseparator : isSeparator c with
    | true =>
      simp only [isSeparator, Bool.or_eq_true, decide_eq_true_eq] at hseparator
      rcases hseparator with (rfl | rfl) | rfl <;> exact .separator rfl rfl rfl hslash
    | false =>
      cases hquote : isQuote c with
      | true => exact .quote hspace hseparator hquote hslash
      | false => exact .ordinary hspace hseparator hquote hslash

theorem Place.Holds.singleton {place : Place} {symbol : Symbol} {word : Text}
    (hkind : symbol.kind = place.kind)
    (htext : place ≠ .between → Symbol.text [symbol] = word.reverse) :
    place.Holds [symbol] word :=
  ⟨List.forall_mem_singleton.2 hkind, fun _ => List.cons_ne_nil _ _, htext⟩

/-- Where the reader is after a character that opens something. -/
theorem holds_opened (c : Char) :
    (opened c).1.quoting = (Quoting.outside.step c).1 ∧
      (opened c).1.Holds (Quoting.outside.step c).2 (opened c).2 ∧
      (Quoting.outside.step c).2 ≠ [] := by
  cases meaning c with
  | space hspace hseparator hquote hslash =>
    simp only [opened, Quoting.step, hspace, hquote, hslash, if_true, if_false, Bool.false_eq_true]
    exact ⟨rfl, .singleton (by simp [Symbol.kind, Place.kind, hspace]) (absurd rfl),
      List.cons_ne_nil _ _⟩
  | separator hspace hseparator hquote hslash =>
    simp only [opened, Quoting.step, hspace, hseparator, hquote, hslash, if_true, if_false,
      Bool.false_eq_true]
    exact ⟨rfl, .singleton (by simp [Symbol.kind, Place.kind, hspace, hseparator]) fun _ => rfl,
      List.cons_ne_nil _ _⟩
  | quote hspace hseparator hquote hslash =>
    simp only [opened, Quoting.step, hspace, hseparator, hquote, hslash, if_true, if_false,
      Bool.false_eq_true]
    exact ⟨rfl, .singleton rfl fun _ => rfl, List.cons_ne_nil _ _⟩
  | slash hslash =>
    rw [hslash]
    exact ⟨rfl, .singleton rfl fun _ => rfl, List.cons_ne_nil _ _⟩
  | ordinary hspace hseparator hquote hslash =>
    simp only [opened, Quoting.step, hspace, hseparator, hquote, hslash, if_false,
      Bool.false_eq_true]
    exact ⟨rfl, .singleton (by simp [Symbol.kind, Place.kind, hspace, hseparator]) fun _ => rfl,
      List.cons_ne_nil _ _⟩

/-- A character that opens another run ends the word in hand. -/
theorem wordsFrom?_opened {place : Place} {c : Char} (hquoting : place.quoting = .outside)
    (hkind : (opened c).1.kind ≠ place.kind) (word rest : Text) :
    wordsFrom? place word (c :: rest) =
      (wordsFrom? (opened c).1 (opened c).2 rest).map (place.ended word ++ ·) := by
  cases place with
  | between => simp [wordsFrom?, Place.ended]
  | word =>
    cases meaning c with
    | space hspace => simp [wordsFrom?, opened, Place.ended, hspace]
    | separator hspace hseparator hquote hslash =>
      simp [wordsFrom?, opened, Place.ended, hspace, hseparator, hquote, hslash]
    -- a quotation mark, a backslash and any other character go on with a word
    | quote hspace hseparator hquote hslash =>
      simp [opened, hspace, hseparator, hquote, hslash, Place.kind] at hkind
    | slash hslash => exact absurd (by rw [hslash]; rfl) hkind
    | ordinary hspace hseparator hquote hslash =>
      simp [opened, hspace, hseparator, hquote, hslash, Place.kind] at hkind
  | separators =>
    -- a separator would go on with the run
    have hnone : isSeparator c = false := by
      cases meaning c with
      | separator hspace hseparator hquote hslash =>
        simp [opened, hspace, hseparator, hslash, Place.kind] at hkind
      | slash hslash =>
        rw [hslash]
        rfl
      | _ => assumption
    simp [wordsFrom?, hnone, Place.ended]
  | quoted mark => cases hquoting
  | escaped => cases hquoting
  | escapedInQuotes => cases hquoting

/-- Symbols of the run that the reader is in go to the word in hand. -/
theorem exists_wordsFrom?_eq {place : Place} {c : Char} (hplace : place ≠ .between)
    (hkind : ∀ a ∈ (place.quoting.step c).2, a.kind = place.kind) :
    ∃ next : Place, next.quoting = (place.quoting.step c).1 ∧ next.kind = place.kind ∧
      ∀ word rest, wordsFrom? place word (c :: rest) =
        wordsFrom? next ((Symbol.text (place.quoting.step c).2).reverse ++ word) rest := by
  cases place with
  | between => exact absurd rfl hplace
  | word =>
    cases meaning c with
    -- a space and a separator would end the word
    | space hspace hseparator hquote hslash =>
      simp [Place.quoting, Quoting.step, Symbol.kind, Place.kind, hspace, hquote, hslash] at hkind
    | separator hspace hseparator hquote hslash =>
      simp [Place.quoting, Quoting.step, Symbol.kind, Place.kind, hspace, hseparator, hquote,
        hslash] at hkind
    | quote hspace hseparator hquote hslash =>
      refine ⟨.quoted c, ?_, rfl, fun word rest => ?_⟩ <;>
        simp [wordsFrom?, Place.quoting, Quoting.step, hspace, hquote]
    | slash hslash =>
      rw [hslash]
      exact ⟨.escaped, rfl, rfl, fun word rest => rfl⟩
    | ordinary hspace hseparator hquote hslash =>
      refine ⟨.word, ?_, rfl, fun word rest => ?_⟩ <;>
        simp [wordsFrom?, Place.quoting, Quoting.step, hspace, hseparator, hquote, hslash]
  | separators =>
    cases meaning c with
    | separator hspace hseparator hquote hslash =>
      refine ⟨.separators, ?_, rfl, fun word rest => ?_⟩ <;>
        simp [wordsFrom?, Place.quoting, Quoting.step, hseparator, hquote, hslash]
    -- only a separator goes on with a run of them
    | slash hslash =>
      rw [hslash] at hkind
      cases hkind .mark List.mem_cons_self
    | _ => simp_all [Place.quoting, Quoting.step, Symbol.kind, Place.kind]
  | quoted mark =>
    by_cases hclose : c = mark
    · refine ⟨.word, ?_, rfl, fun word rest => ?_⟩ <;>
        simp [wordsFrom?, Place.quoting, Quoting.step, hclose]
    · -- a backslash quotes the next character between double quotation marks only
      by_cases hslash : c = '\\' ∧ mark = '"'
      · rw [hslash.1, hslash.2]
        exact ⟨.escapedInQuotes, rfl, rfl, fun word rest => rfl⟩
      · refine ⟨.quoted mark, ?_, rfl, fun word rest => ?_⟩ <;>
          simp [wordsFrom?, Place.quoting, Quoting.step, hclose, hslash]
  | escaped => exact ⟨.word, rfl, rfl, fun word rest => rfl⟩
  | escapedInQuotes =>
    by_cases hspecial : c = '\\' ∨ c = '"'
    all_goals
      refine ⟨.quoted '"', ?_, rfl, fun word rest => ?_⟩ <;>
        simp [wordsFrom?, Place.quoting, Quoting.step, hspecial]

/-- Between quotation marks and after a backslash nothing is more than a part of a word. -/
theorem kind_of_mem_step {q : Quoting} (hq : q ≠ .outside) {c : Char} {a : Symbol}
    (h : a ∈ (q.step c).2) : a.kind = .word := by
  have hbare : ∀ a ∈ (q.step c).2, a = .mark ∨ ∃ d, a = .quoted d := by
    cases q <;> grind [Quoting.step]
  obtain rfl | ⟨d, rfl⟩ := hbare a h
  · rfl
  · rfl

/-- The reader takes a character into the run that it is in, or ends the word of the run and opens
the next one. -/
theorem wordsFrom?_step {place : Place} {current : List Symbol} {word : Text}
    (h : place.Holds current word) (c : Char) :
    ∃ next word', next.quoting = (place.quoting.step c).1 ∧
      ((∀ rest, wordsFrom? place word (c :: rest) = wordsFrom? next word' rest) ∧
          next.Holds (current ++ (place.quoting.step c).2) word' ∨
        (∀ rest, wordsFrom? place word (c :: rest) =
            (wordsFrom? next word' rest).map (place.ended word ++ ·)) ∧
          next.Holds (place.quoting.step c).2 word' ∧ next.kind ≠ place.kind ∧
          (place.quoting.step c).2 ≠ []) := by
  obtain ⟨hopened, hholds, hne⟩ := holds_opened c
  by_cases hquoting : place.quoting = .outside
  · by_cases hkind : (opened c).1.kind = place.kind
    · have hsymbols : ∀ a ∈ (place.quoting.step c).2, a.kind = place.kind := fun a ha =>
        (hholds.kind a (hquoting ▸ ha)).trans hkind
      by_cases hplace : place = .between
      · -- the space between words grows
        rw [hplace] at h hkind hsymbols ⊢
        refine ⟨_, _, hopened, .inl ⟨fun rest => rfl, ?_⟩⟩
        rw [Place.kind_eq_space_iff.1 hkind]
        exact ⟨List.forall_mem_append.2 ⟨h.kind, hsymbols⟩, absurd rfl, absurd rfl⟩
      · obtain ⟨next, hnext, hsame, hread⟩ := exists_wordsFrom?_eq hplace hsymbols
        exact ⟨next, _, hnext, .inl ⟨hread word, h.append hplace hsame hsymbols⟩⟩
    · -- another run begins
      rw [hquoting]
      exact ⟨_, _, hopened, .inr ⟨wordsFrom?_opened hquoting hkind word, hholds, hkind, hne⟩⟩
  · -- something quotes the character, so that the word goes on
    have hword : place ≠ .between ∧ place.kind = .word := by
      cases place <;> first | exact absurd rfl hquoting | simp [Place.kind]
    have hsymbols : ∀ a ∈ (place.quoting.step c).2, a.kind = place.kind := fun a ha =>
      (kind_of_mem_step hquoting ha).trans hword.2.symm
    obtain ⟨next, hnext, hsame, hread⟩ := exists_wordsFrom?_eq hword.1 hsymbols
    exact ⟨next, _, hnext, .inl ⟨hread word, h.append hword.1 hsame hsymbols⟩⟩

/-- The reader gets the words that the symbols make, if nothing is left open. -/
theorem wordsFrom?_eq {place : Place} {current : List Symbol} {word : Text}
    (h : place.Holds current word) (rest : Text) :
    wordsFrom? place word rest =
      if place.quoting.after rest = .outside then
        some ((wordsOfSymbols (current ++ place.quoting.symbols rest)).map Symbol.text)
      else none := by
  -- along the line the symbols of the run that the reader is in are kept apart from later ones
  induction rest generalizing place current word with
  | nil =>
    rw [Quoting.symbols, List.append_nil, h.texts_eq]
    cases place <;> rfl
  | cons c rest ih =>
    rw [Quoting.symbols, Quoting.after, List.foldl_cons, ← Quoting.after]
    obtain ⟨next, word', hquoting, ⟨hread, hholds⟩ | ⟨hread, hholds, hkind, hne⟩⟩ :=
      wordsFrom?_step h c
    · rw [hread, ih hholds, hquoting, List.append_assoc]
    · rw [hread, ih hholds, hquoting, wordsOfSymbols_append (h.apart hholds hkind hne _),
        List.map_append, h.texts_eq, Option.map_if]

/-- The words of a line are the texts of the words that are written in it. A line that leaves
something open has none. -/
theorem words?_eq (line : Text) :
    words? line =
      if IsClosed line then some ((writtenWords line).map Symbol.text) else none := by
  have hstart : Place.between.Holds [] [] := 
    ⟨List.forall_mem_nil _, absurd rfl, absurd rfl⟩
  exact wordsFrom?_eq hstart line

/-! ### Dividing words at operators -/

/-- The words of a command: its name and its arguments. -/
def Segment.words (s : Segment) : List Text := s.name :: s.arguments

theorem Segment.flatMap_words_ofWords (operator? : Option Operator) (words : List Text) :
    (Segment.ofWords operator? words).flatMap Segment.words = words := by
  cases words with
  | nil => rfl
  | cons name arguments => exact List.flatMap_singleton _ _

section Divide

variable {α : Type} (operator? : α → Option Operator) (text : α → Text)

/-- The parts of a line between its operators, each with the operator before it. The first one comes
after `before?`. -/
def partsOf (before? : Option Operator) (words : List α) : List (Option Operator × List α) :=
  (before? :: (words.filterMap operator?).map some).zip
    (words.splitOnP fun word => (operator? word).isSome)

/-- The commands of a line: its parts between operators that are not empty. -/
def divide (words : List α) : List Segment :=
  (partsOf operator? none words).flatMap fun part => Segment.ofWords part.1 (part.2.map text)

variable {operator? text}

theorem partsOf_cons_of_some {before? : Option Operator} {word : α} {words : List α} {o : Operator}
    (h : operator? word = some o) :
    partsOf operator? before? (word :: words) =
      (before?, []) :: partsOf operator? (some o) words := by
  simp [partsOf, List.splitOnP_cons_eq_if_modifyHead, h]

/-- A word that is no operator goes to the first part. -/
theorem exists_partsOf_cons_of_none (before? : Option Operator) {word : α} {words : List α}
    (h : operator? word = none) :
    ∃ first rest, partsOf operator? before? words = (before?, first) :: rest ∧
      partsOf operator? before? (word :: words) = (before?, word :: first) :: rest := by
  obtain ⟨first, rest, hsplit⟩ := List.exists_cons_of_ne_nil
    (List.splitOnP_ne_nil (fun word => (operator? word).isSome) words)
  refine ⟨first, _, by rw [partsOf, hsplit, List.zip_cons_cons], ?_⟩
  simp [partsOf, List.splitOnP_cons_eq_if_modifyHead, h, hsplit]

/-- Commands have all words that are no operators, in their order and with their text. -/
theorem flatMap_words_divide (words : List α) :
    (divide operator? text words).flatMap Segment.words =
      (words.filter fun word => (operator? word).isNone).map text := by
  have hparts : ∀ before?, ((partsOf operator? before? words).flatMap fun part => part.2) =
      words.filter fun word => (operator? word).isNone := by
    induction words with
    | nil => exact fun before? => rfl
    | cons word words ih =>
      intro before?
      cases hword : operator? word with
      | some o =>
        rw [partsOf_cons_of_some hword, List.flatMap_cons, List.nil_append, ih,
          List.filter_cons_of_neg (by simp [hword])]
      | none =>
        obtain ⟨first, rest, hfirst, hcons⟩ := exists_partsOf_cons_of_none before? hword
        have hih := ih before?
        rw [hfirst, List.flatMap_cons] at hih
        rw [hcons, List.flatMap_cons, List.cons_append, hih,
          List.filter_cons_of_pos (by simp [hword])]
  rw [divide, List.flatMap_assoc, ← hparts none, List.map_flatMap]
  exact List.flatMap_congr fun part _ => Segment.flatMap_words_ofWords _ _

/-- The reader of commands divides the words at those whose texts are operators. -/
theorem segmentsFrom_eq_divide {words : List α}
    (h : ∀ word ∈ words, Operator.ofWord? (text word) = operator? word) :
    segmentsFrom none [] (words.map text) = divide operator? text words := by
  have hfrom : ∀ before? current, ∃ first rest,
      partsOf operator? before? words = (before?, first) :: rest ∧
        segmentsFrom before? current (words.map text) =
          Segment.ofWords before? (current ++ first.map text) ++
            rest.flatMap fun part => Segment.ofWords part.1 (part.2.map text) := by
    induction words with
    | nil => exact fun before? current => ⟨[], [], rfl, by simp [segmentsFrom]⟩
    | cons word words ih =>
      intro before? current
      rw [List.forall_mem_cons] at h
      rw [List.map_cons, segmentsFrom, h.1]
      cases hword : operator? word with
      | some o =>
        obtain ⟨first, rest, hfirst, hsegments⟩ := ih h.2 (some o) []
        refine ⟨[], _, partsOf_cons_of_some hword, ?_⟩
        dsimp only
        rw [hsegments, hfirst, List.map_nil, List.append_nil, List.nil_append, List.flatMap_cons]
      | none =>
        obtain ⟨first, rest, hfirst, hcons⟩ := exists_partsOf_cons_of_none before? hword
        obtain ⟨first', rest', hfirst', hsegments⟩ := ih h.2 before? (current ++ [text word])
        -- the part that the word goes to is the one that the rest begins with
        rw [hfirst] at hfirst'
        cases hfirst'
        exact ⟨_, _, hcons, by rw [hsegments, List.append_assoc, List.map_cons]; rfl⟩
  obtain ⟨first, rest, hfirst, hsegments⟩ := hfrom none []
  rw [hsegments, divide, hfirst, List.flatMap_cons, List.nil_append]

/-- A line is divided in the same way at fewer operators only if these are all of them. -/
theorem isNone_of_divide_eq {fewer? : α → Option Operator} {words : List α}
    (hfewer : ∀ word, operator? word = none → fewer? word = none)
    (h : divide operator? text words = divide fewer? text words) :
    ∀ word ∈ words, fewer? word = none → operator? word = none := by
  have hwords := congrArg (·.flatMap Segment.words) h
  simp only [flatMap_words_divide] at hwords
  have hsub := List.monotone_filter_right words
    (p := fun word => (operator? word).isNone) (q := fun word => (fewer? word).isNone)
    fun word hword => by simpa using hfewer word (by simpa using hword)
  -- both divisions have the same number of words in their commands
  have heq := hsub.eq_of_length (by simpa using congrArg List.length hwords)
  intro word hword hnone
  have hmem : word ∈ words.filter fun word => (fewer? word).isNone :=
    List.mem_filter.2 ⟨hword, by simp [hnone]⟩
  rw [← heq, List.mem_filter] at hmem
  simpa using hmem.2

end Divide

/-! ### Quoted operators -/

/-- The operator that a word is as it is written: one that nothing quotes. -/
def Operator.ofWritten? (word : List Symbol) : Option Operator :=
  if word.all Symbol.isBare then Operator.ofWord? (Symbol.text word) else none

theorem Operator.ofWritten?_of_not_isBare {word : List Symbol}
    (h : ∃ symbol ∈ word, ¬ symbol.isBare) : Operator.ofWritten? word = none := by
  rw [ofWritten?, if_neg (by simpa using h)]

/-- A line with closed quotation marks has the words that are written in it. Its commands are those
between operators that nothing quotes exactly if no word in which something is quoted looks like an
operator. -/
theorem segments_eq_divide_iff {line : Text} (h : IsClosed (Text.trim line)) :
    wordsOf line = (writtenWords (Text.trim line)).map Symbol.text ∧
      (segments line = divide Operator.ofWritten? Symbol.text (writtenWords (Text.trim line)) ↔
        ∀ word ∈ writtenWords (Text.trim line), (∃ symbol ∈ word, ¬ symbol.isBare) →
          Operator.ofWord? (Symbol.text word) = none) := by
  have hwords : wordsOf line = (writtenWords (Text.trim line)).map Symbol.text := by
    rw [wordsOf, words?_eq, if_pos h, Option.getD_some]
  refine ⟨hwords, ?_⟩
  rw [segments, hwords]
  constructor
  · intro hdivide word hword hquoted
    rw [segmentsFrom_eq_divide fun _ _ => rfl] at hdivide
    refine isNone_of_divide_eq (fun word hnone => ?_) hdivide word hword
      (Operator.ofWritten?_of_not_isBare hquoted)
    rw [Operator.ofWritten?, hnone, ite_self]
  · intro hnone
    refine segmentsFrom_eq_divide fun word hword => ?_
    by_cases hquoted : ∃ symbol ∈ word, ¬ symbol.isBare
    · rw [hnone word hword hquoted, Operator.ofWritten?_of_not_isBare hquoted]
    · rw [Operator.ofWritten?, if_pos (by simpa using hquoted)]

/-- An operator between quotation marks with other characters, and one that nothing quotes. -/
theorem segments_eq_divide_iff_longer :
    IsClosed (Text.trim "echo \"a && b\" ; x") ∧
      segments "echo \"a && b\" ; x" = divide Operator.ofWritten? Symbol.text
        (writtenWords (Text.trim "echo \"a && b\" ; x")) := by
  have hclosed : IsClosed (Text.trim "echo \"a && b\" ; x") := by decide +kernel
  exact ⟨hclosed, (segments_eq_divide_iff hclosed).2.2 (by decide +kernel)⟩

/-- An operator between quotation marks divides the line that it stands in. -/
theorem quoted_operator_divides :
    IsClosed (Text.trim "echo ';' x") ∧
      segments "echo ';' x" = [⟨"echo", [], none⟩, ⟨"x", [], some .always⟩] ∧
      divide Operator.ofWritten? Symbol.text (writtenWords (Text.trim "echo ';' x")) =
        [⟨"echo", [";", "x"], none⟩] := by
  decide +kernel

end Componentry.CommandLine
