import Componentry.Proofs.Text
import Componentry.Template.Escape

/-!
# Reading templates

A reader of templates, by which emitting is judged. It goes through a template once, from left to
right, and is told nothing about how the template was made. Tokens come first: tags with their
props, comments and characters. They are then put together into trees, with the elements that are
still open on a stack; every closing tag has to be that of the innermost open element, and at the
end no element may be open.

Values between quotation marks are decoded. Expressions are not: the reader only has to find the
brace that ends one, past all braces inside it and all string literals.

* `Reader.lex_append`: a text whose start is a token is read as that token and what the rest is
  read as;
* `Reader.expression_append`: so is an expression that goes on after some of its characters.
-/

namespace Componentry.Template.Reader

/-- The value of a prop. -/
inductive Value
  /-- What stands between quotation marks, with its characters decoded. -/
  | quoted (value : Text)
  /-- What stands between braces. -/
  | braced (source : Text)
  deriving DecidableEq, Repr

/-- The props of a tag with their names. -/
abbrev Props := List (Text × Value)

/-- What a template is read as. -/
inductive Tree
  /-- An element with an opening and a closing tag, and what stands between them. -/
  | element (name : Text) (props : Props) (children : List Tree)
  /-- An element whose opening tag is closed at once. -/
  | closed (name : Text) (props : Props)
  /-- Running text. -/
  | text (content : Text)
  /-- A comment, without the blanks around it. -/
  | comment (content : Text)
  deriving Repr

/-! ### Names and values -/

/-- A character of the name of a tag or of a prop. -/
def isNameChar (c : Char) : Bool :=
  c.isAlphanum || c = '_' || c = '$' || c = '-' || c = '.' || c = ':' || 128 ≤ c.toNat

/-- The name that a text starts with, and what follows it. -/
def name? (t : Text) : Option (Text × Text) :=
  if (t.takeWhile isNameChar).isEmpty then none
  else some (t.takeWhile isNameChar, t.dropWhile isNameChar)

/-- A text with its character references decoded. An ampersand stands in one of them only. -/
def decode? : Text → Option Text
  | [] => some []
  | '&' :: 'a' :: 'm' :: 'p' :: ';' :: rest => (decode? rest).map ('&' :: ·)
  | '&' :: 'q' :: 'u' :: 'o' :: 't' :: ';' :: rest => (decode? rest).map ('"' :: ·)
  | c :: rest => if c = '&' then none else (decode? rest).map (c :: ·)

/-- A text that can be a name. Identifiers can, and so can tags of letters, digits and hyphens. -/
def IsName (t : Text) : Prop := t ≠ [] ∧ ∀ c ∈ t, isNameChar c

instance (t : Text) : Decidable (IsName t) :=
  decidable_of_iff (t ≠ [] ∧ t.all isNameChar) (by rw [IsName, List.all_eq_true])

/-- A name is read up to the first character that cannot be a part of it. -/
theorem name?_append {name rest : Text} {c : Char} (hname : IsName name) (hc : ¬ isNameChar c) :
    name? (name ++ c :: rest) = some (name, c :: rest) := by
  obtain ⟨hne, hall⟩ := hname
  have htake : (name ++ c :: rest).takeWhile isNameChar = name := by
    rw [List.takeWhile_append_of_pos hall, List.takeWhile_cons_of_neg hc, List.append_nil]
  have hdrop : (name ++ c :: rest).dropWhile isNameChar = c :: rest := by
    rw [List.dropWhile_append_of_pos hall, List.dropWhile_cons_of_neg hc]
  rw [name?, htake, hdrop, if_neg (by simpa using hne)]

theorem decode?_escapeAttribute (value : Text) : decode? (escapeAttribute value) = some value := by
  induction value with
  | nil => rfl
  | cons c value ih =>
    rw [escapeAttribute] at ih
    rw [escapeAttribute, List.flatMap_cons, attributeChar]
    split
    next hc =>
      subst hc
      -- the reference of an ampersand is decoded
      change (decode? (value.flatMap attributeChar)).map ('&' :: ·) = _
      rw [ih]
      rfl
    next hamp =>
      split
      next hc =>
        subst hc
      -- so is that of a quotation mark
        change (decode? (value.flatMap attributeChar)).map ('"' :: ·) = _
        rw [ih]
        rfl
      next =>
        rw [List.singleton_append, decode?, if_neg hamp, ih]
        · rfl
        all_goals
          intro rest h
          exact absurd h hamp

/-- An escaped value does not contain the mark that ends it. -/
theorem quotationMark_not_mem_escapeAttribute (value : Text) : '"' ∉ escapeAttribute value := by
  rw [escapeAttribute, List.mem_flatMap]
  rintro ⟨c, -, h⟩
  rw [attributeChar] at h
  split at h
  · revert h
    decide
  · split at h
    · revert h
      decide
    next hc => exact hc (List.mem_singleton.1 h).symm

theorem cut?_append {mark : Char} {before : Text} (h : mark ∉ before) (after : Text) :
    Text.cut? mark (before ++ mark :: after) = some (before, after) := by
  induction before with
  | nil => simp [Text.cut?]
  | cons c before ih =>
    rw [List.mem_cons, not_or] at h
    rw [List.cons_append, Text.cut?, if_neg (Ne.symm h.1), ih h.2]
    rfl

/-- Where inside an expression a character stands. The last argument is the number of braces that
are open there. -/
inductive Place
  /-- Outside of string literals. -/
  | code (depth : Nat)
  /-- In a string literal between two marks `mark`. -/
  | literal (mark : Char) (depth : Nat)
  /-- After a backslash in a string literal. -/
  | escape (mark : Char) (depth : Nat)

/-- The place after a character, unless the character is the brace that ends the expression. -/
def Place.next : Place → Char → Option Place
  | .escape mark depth, _ => some (.literal mark depth)
  | .literal mark depth, c =>
    if c = '\\' then some (.escape mark depth)
    else if c = mark then some (.code depth)
    else some (.literal mark depth)
  | .code depth, c =>
    if c = '"' || c = '\'' || c = '\x60' then some (.literal c depth)
    else if c = '\x7b' then some (.code (depth + 1))
    else if c = '\x7d' then
      match depth with
      | 0 => none
      | depth + 1 => some (.code depth)
    else some (.code depth)

/-- The rest of an expression, up to the brace that ends it, and what follows that brace. -/
def expression : Place → Text → Option (Text × Text)
  | _, [] => none
  | place, c :: rest =>
    match place.next c with
    | none => some ([], rest)
    | some place => (expression place rest).map fun (source, after) => (c :: source, after)

/-- The value of a prop, and what follows it. -/
def value? : Text → Option (Value × Text)
  | '"' :: rest => do
    let (raw, after) ← Text.cut? '"' rest
    let value ← decode? raw
    some (.quoted value, after)
  | '\x7b' :: rest => do
    let (source, after) ← expression (.code 0) rest
    some (.braced source, after)
  | _ => none

/-- The place after some characters, unless the expression ends within them. -/
def Place.after (place : Place) (s : Text) : Option Place := s.foldlM Place.next place

theorem Place.after_cons (place : Place) (c : Char) (s : Text) :
    place.after (c :: s) = (place.next c).bind (·.after s) := rfl

theorem Place.after_append (place : Place) (s t : Text) :
    place.after (s ++ t) = (place.after s).bind (·.after t) := List.foldlM_append

/-- Characters that change nothing one by one change nothing together. -/
theorem Place.after_eq_self {place : Place} {s : Text}
    (h : ∀ c ∈ s, place.next c = some place) : place.after s = some place := by
  induction s with
  | nil => rfl
  | cons c s ih =>
    obtain ⟨hc, hs⟩ := List.forall_mem_cons.1 h
    rw [after_cons, hc]
    exact ih hs

/-- Texts that change nothing one by one change nothing together. -/
theorem Place.after_flatten_eq_self {place : Place} {ts : List Text}
    (h : ∀ t ∈ ts, place.after t = some place) : place.after ts.flatten = some place := by
  induction ts with
  | nil => rfl
  | cons t ts ih =>
    obtain ⟨ht, hts⟩ := List.forall_mem_cons.1 h
    rw [List.flatten_cons, after_append, ht]
    exact ih hts

theorem Place.next_code {depth : Nat} {c : Char} (hc : isNameChar c) :
    (Place.code depth).next c = some (.code depth) := by
  have hother : ∀ d, ¬ isNameChar d → c ≠ d := fun d hd h => hd (h ▸ hc)
  rw [next.eq_def]
  simp [hother '"' (by decide), hother '\'' (by decide), hother '\x60' (by decide),
    hother '\x7b' (by decide), hother '\x7d' (by decide)]

theorem Place.next_literal {mark : Char} {depth : Nat} {c : Char} (hslash : c ≠ '\\')
    (hmark : c ≠ mark) : (Place.literal mark depth).next c = some (.literal mark depth) := by
  rw [next, if_neg hslash, if_neg hmark]

/-- An expression that goes on after some characters has them in its source. -/
theorem expression_append {place next : Place} {s : Text} (h : place.after s = some next)
    (rest : Text) :
    expression place (s ++ rest) =
      (expression next rest).map fun (source, after) => (s ++ source, after) := by
  induction s generalizing place with
  | nil =>
    obtain rfl : place = next := Option.some.inj h
    cases hrest : expression place rest <;> simp [hrest]
  | cons c s ih =>
    rw [Place.after_cons] at h
    -- the first character does not end the expression
    obtain ⟨second, hsecond, h⟩ := Option.bind_eq_some_iff.1 h
    rw [List.cons_append, expression, hsecond]
    dsimp only
    rw [ih h]
    cases expression next rest <;> rfl

theorem value?_quoted (value rest : Text) :
    value? ('"' :: (escapeAttribute value ++ '"' :: rest)) = some (.quoted value, rest) := by
  have hcut := cut?_append (quotationMark_not_mem_escapeAttribute value) rest
  simp only [value?, hcut, Option.bind_eq_bind, Option.bind_some, decode?_escapeAttribute]

/-- An expression ends at the first brace that closes nothing inside it. -/
theorem value?_braced {source : Text} (h : (Place.code 0).after source = some (.code 0))
    (rest : Text) :
    value? ('\x7b' :: (source ++ '\x7d' :: rest)) = some (.braced source, rest) := by
  have hexpression : expression (.code 0) (source ++ '\x7d' :: rest) = some (source, rest) := by
    rw [expression_append h]
    simp [expression, Place.next]
  simp only [value?, hexpression, Option.bind_eq_bind, Option.bind_some]

/-- A prop, and what follows it. -/
def prop? (t : Text) : Option ((Text × Value) × Text) := do
  let (name, after) ← name? t
  match after with
  | '=' :: after => do
    let (value, after) ← value? after
    some ((name, value), after)
  | _ => none

/-- The props of an opening tag with a blank before each, whether the tag is closed at once, and
what follows the tag. -/
def props? (t : Text) : Option (Props × Bool × Text) :=
  match t with
  | '>' :: rest => some ([], false, rest)
  | ' ' :: '/' :: '>' :: rest => some ([], true, rest)
  | ' ' :: rest =>
    match prop? rest with
    | none => none
    | some (prop, after) =>
      if after.length ≤ rest.length then
        (props? after).map fun (props, closed, after) => (prop :: props, closed, after)
      else none
  | _ => none
termination_by t.length

theorem prop?_append {name value rest : Text} {v : Value} (hname : IsName name)
    (hvalue : value? (value ++ rest) = some (v, rest)) :
    prop? (name ++ '=' :: (value ++ rest)) = some ((name, v), rest) := by
  have hname : name? (name ++ '=' :: (value ++ rest)) = some (name, '=' :: (value ++ rest)) :=
    name?_append hname (by decide)
  simp only [prop?, hname, hvalue, Option.bind_eq_bind, Option.bind_some]

theorem props?_cons {t after : Text} {prop : Text × Value} (h : prop? t = some (prop, after))
    (hlength : after.length ≤ t.length) :
    props? (' ' :: t) = (props? after).map fun (props, closed, after) =>
      (prop :: props, closed, after) := by
  rw [props?.eq_def]
  split
  next heq => exact absurd (List.cons.inj heq).1 (by decide)
  next heq =>
    -- a slash starts no prop
    obtain ⟨-, rfl⟩ := List.cons.inj heq
    cases h
  next heq =>
    obtain ⟨-, rfl⟩ := List.cons.inj heq
    simp only [h, hlength, if_true]
  next hblank => exact absurd rfl (hblank t)

/-! ### Tokens -/

/-- A part of a template that is read in one go. -/
inductive Token
  /-- An opening tag, which is perhaps closed at once. -/
  | opening (name : Text) (props : Props) (closed : Bool)
  /-- A closing tag. -/
  | closing (name : Text)
  /-- A comment. -/
  | comment (content : Text)
  /-- A character of running text. -/
  | char (c : Char)

/-- The rest of a comment, and what follows its end. -/
def cutComment? : Text → Option (Text × Text)
  | [] => none
  | '*' :: '/' :: rest => some ([], rest)
  | c :: rest => (cutComment? rest).map fun (content, after) => (c :: content, after)

/-- The tag that a text starts with after the angle bracket, and what follows it. -/
def tag? : Text → Option (Token × Text)
  | '/' :: rest => do
    let (name, after) ← name? rest
    match after with
    | '>' :: after => some (.closing name, after)
    | _ => none
  | rest => do
    let (name, after) ← name? rest
    let (props, closed, after) ← props? after
    some (.opening name props closed, after)

/-- The comment or the character that stands between braces where a text starts after the first of
them, and what follows. -/
def container? : Text → Option (Token × Text)
  | '/' :: '*' :: rest => do
    let (content, after) ← cutComment? rest
    match after with
    | '\x7d' :: after => some (.comment (Text.trim content), after)
    | _ => none
  | '"' :: c :: '"' :: '\x7d' :: after =>
    if c = '"' || c = '\\' then none else some (.char c, after)
  | _ => none

/-- The token that a text starts with, and what follows it. -/
def token? : Text → Option (Token × Text)
  | [] => none
  | c :: rest =>
    if c = '<' then tag? rest
    else if c = '\x7b' then container? rest
    else if isTemplateChar c then none
    else some (.char c, rest)

/-- The tokens of a text. -/
def lex (t : Text) : Option (List Token) :=
  if t.isEmpty then some []
  else
    match token? t with
    | none => none
    | some (token, rest) =>
      if rest.length < t.length then (lex rest).map (token :: ·) else none
termination_by t.length

/-- A text whose start is a token is read as that token and what the rest is read as. -/
theorem lex_append {s rest : Text} {token : Token} (h : token? (s ++ rest) = some (token, rest))
    (hs : s ≠ []) : lex (s ++ rest) = (lex rest).map (token :: ·) := by
  have hlength : rest.length < (s ++ rest).length := by
    have := List.length_pos_iff.2 hs
    rw [List.length_append]
    omega
  rw [lex, if_neg (by simp [hs]), h]
  dsimp only
  rw [if_pos hlength]

/-! ### Texts and comments -/

theorem textChar_ne_nil (c : Char) : textChar c ≠ [] := by
  rw [textChar]
  split <;> exact List.cons_ne_nil _ _

theorem escapeText_ne_nil {t : Text} (h : t ≠ []) : escapeText t ≠ [] := by
  obtain ⟨c, t, rfl⟩ := List.exists_cons_of_ne_nil h
  exact List.append_ne_nil_of_left_ne_nil (textChar_ne_nil c) _

theorem token?_textChar (c : Char) (rest : Text) :
    token? (textChar c ++ rest) = some (.char c, rest) := by
  rw [textChar]
  split
  next hc =>
    -- none of the escaped characters means anything in a string literal
    have hliteral : ¬ (c = '"' || c = '\\') := by
      rintro h
      rcases Bool.or_eq_true _ _ |>.mp h with h | h <;>
        · rw [of_decide_eq_true h] at hc
          revert hc
          decide
    change container? ('"' :: c :: '"' :: '\x7d' :: rest) = _
    rw [container?, if_neg hliteral]
  next hc =>
    have hbracket : c ≠ '<' := fun h => hc (by rw [h]; decide)
    have hbrace : c ≠ '\x7b' := fun h => hc (by rw [h]; decide)
    rw [List.singleton_append, token?, if_neg hbracket, if_neg hbrace, if_neg hc]

/-- Escaped running text is read as its characters. -/
theorem lex_escapeText (t rest : Text) :
    lex (escapeText t ++ rest) = (lex rest).map (t.map .char ++ ·) := by
  induction t with
  | nil => simp [escapeText]
  | cons c t ih =>
    rw [escapeText] at ih
    rw [escapeText, List.flatMap_cons, List.append_assoc,
      lex_append (token?_textChar c _) (textChar_ne_nil c), ih]
    cases lex rest <;> rfl

theorem head?_defuseComment (t : Text) : (defuseComment t).head? = t.head? := by
  fun_cases defuseComment t <;> rfl

theorem getLast?_defuseComment (t : Text) : (defuseComment t).getLast? = t.getLast? := by
  fun_induction defuseComment t with
  | case1 rest ih => simp [List.getLast?_cons, ih]
  | case2 c rest _ ih => simp [List.getLast?_cons, ih]
  | case3 => rfl

/-- A defused comment ends where it is meant to. -/
theorem cutComment?_defuseComment (t rest : Text) :
    cutComment? (defuseComment t ++ ' ' :: '*' :: '/' :: rest) =
      some (defuseComment t ++ [' '], rest) := by
  fun_induction defuseComment t with
  | case1 t ih => simp [cutComment?, ih]
  | case2 c t hc ih =>
    rw [List.cons_append, cutComment?, ih]
    · rfl
    · -- the end of a comment would be there before
      rintro after rfl hafter
      have hhead : (defuseComment t ++ ' ' :: '*' :: '/' :: rest).head? = some '/' := by
        rw [hafter]
        rfl
      rw [List.head?_append, head?_defuseComment] at hhead
      cases t with
      | nil => cases hhead
      | cons d t =>
        obtain rfl : d = '/' := Option.some.inj hhead
        exact hc t rfl rfl
  | case3 => simp [cutComment?]

theorem token?_comment (t rest : Text) :
    token? (comment t ++ rest) = some (.comment (defuseComment (Text.trim t)), rest) := by
  have hfirst : ∀ c ∈ (defuseComment (Text.trim t)).head?, ¬ isBlank c := by
    intro c hc
    rw [head?_defuseComment] at hc
    obtain ⟨after, hafter⟩ := List.head?_eq_some_iff.1 hc
    exact Text.not_isBlank_of_trim_eq_cons hafter
  have hlast : ∀ c ∈ (defuseComment (Text.trim t)).getLast?, ¬ isBlank c := by
    intro c hc
    rw [getLast?_defuseComment] at hc
    obtain ⟨before, hbefore⟩ := List.getLast?_eq_some_iff.1 hc
    exact Text.not_isBlank_of_trim_eq_concat hbefore
  -- the blanks that pad the comment are read with it, and trimmed
  have hcut : cutComment? (' ' :: (defuseComment (Text.trim t) ++ ' ' :: '*' :: '/' ::
      '\x7d' :: rest)) = some (' ' :: (defuseComment (Text.trim t) ++ [' ']), '\x7d' :: rest) := by
    simp [cutComment?, cutComment?_defuseComment]
  have hcomment : comment t = '\x7b' :: '/' :: '*' :: ' ' ::
      (defuseComment (Text.trim t) ++ [' ', '*', '/', '\x7d']) := rfl
  rw [hcomment, List.cons_append, List.cons_append, List.cons_append, List.cons_append,
    List.append_assoc]
  simp only [List.cons_append, List.nil_append]
  change container? ('/' :: '*' :: ' ' :: _) = _
  simp only [container?, hcut, Option.bind_eq_bind, Option.bind_some,
    Text.trim_padded hfirst hlast]

/-! ### Trees -/

/-- Trees with one more tree after them, where the last one comes first. A text becomes a part of
the text that it follows. -/
def push : List Tree → Tree → List Tree
  | .text before :: trees, .text after => .text (before ++ after) :: trees
  | trees, tree => tree :: trees

/-- Trees in which no two texts follow each other. -/
def merge (trees : List Tree) : List Tree := (trees.foldl push []).reverse

/-- An element that is still open. -/
structure Frame where
  /-- Its name. -/
  name : Text
  /-- Its props. -/
  props : Props
  /-- The trees before it in the element around it, the last one first. -/
  before : List Tree

/-- The trees that tokens make up, inside the open elements `stack`, the innermost one first, and
after the trees `done`, the last one first. -/
def build : List Frame → List Tree → List Token → Option (List Tree)
  | [], done, [] => some done.reverse
  | _ :: _, _, [] => none
  | stack, done, .char c :: tokens => build stack (push done (.text [c])) tokens
  | stack, done, .comment content :: tokens => build stack (push done (.comment content)) tokens
  | stack, done, .opening name props closed :: tokens =>
    if closed then build stack (push done (.closed name props)) tokens
    else build (⟨name, props, done⟩ :: stack) [] tokens
  | [], _, .closing _ :: _ => none
  | frame :: stack, done, .closing name :: tokens =>
    if name = frame.name then
      build stack (push frame.before (.element name frame.props done.reverse)) tokens
    else none

theorem push_text_text (done : List Tree) (s t : Text) :
    push (push done (.text s)) (.text t) = push done (.text (s ++ t)) := by
  cases done with
  | nil => rfl
  | cons tree done => cases tree <;> simp [push]

/-- Characters make up a text. -/
theorem build_chars (stack : List Frame) (done : List Tree) (c : Char) (t : Text)
    (tokens : List Token) :
    build stack done ((c :: t).map .char ++ tokens) =
      build stack (push done (.text (c :: t))) tokens := by
  induction t generalizing done c with
  | nil => simp [build]
  | cons d t ih =>
    -- the second character joins the first one, and the others follow
    rw [List.map_cons, List.cons_append, build, ih, push_text_text, List.singleton_append]

/-- The trees that a template is read as, if it is one. -/
def read (t : Text) : Option (List Tree) := (lex t).bind (build [] [])

end Componentry.Template.Reader
