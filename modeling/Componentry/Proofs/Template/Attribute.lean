import Componentry.Proofs.Numeral.Integer
import Componentry.Proofs.Template.Tag

/-!
# Attributes as props

The text of the prop that an attribute becomes: a name in which nothing ends, and a body that says
what the value of the attribute said. Whatever follows the prop, a reader takes the two as one prop,
so that no attribute ends the value, the expression or the tag that it stands in.

* `IsBody`, `isBody_render`: the body by the kind of the prop;
* `fragment?_closed`: the text of the prop.
-/

namespace Componentry.Template

open Reader

/-- A character that the name of a prop cannot have: a blank, a quotation mark, a brace, or what
separates the parts of a tag. -/
def isDelimiter (c : Char) : Bool :=
  isBlank c || c = '"' || c = '\'' || c = '\x60' || c = '\x7b' || c = '\x7d' || c = '=' ||
    c = '<' || c = '>' || c = '/'

/-- The body of the prop of an attribute `name` with the value `value`. -/
inductive IsBody (name value : Text) : Text → Prop
  /-- The value between quotation marks, with its character references to be decoded. -/
  | quoted {inner : Text} (hclosed : '"' ∉ inner) (hvalue : decode? inner = some value) :
    IsBody name value ('"' :: (inner ++ ['"']))
  /-- The constant of a prop that is switched on. -/
  | on (hprop : booleanProps.contains (propName name)) (hvalue : isTruthyFlag name value) :
    IsBody name value "\x7btrue\x7d"
  /-- The integer that the value is. -/
  | integer (hprop : numericProps.contains (propName name))
    (hvalue : isInteger (Text.trim value)) :
    IsBody name value ("\x7b" ++ Text.ofInt (integerValue (Text.trim value)) ++ "\x7d")
  /-- The placeholder of an event handler, whatever the value is. -/
  | placeholder (hprop : isEventName (propName name)) :
    IsBody name value ("\x7b() => console.log(\"" ++ propName name ++ " triggered\")\x7d")
  /-- The declarations of a style, of which there are some. -/
  | style (hprop : propName name = "style") (hvalue : Declarations.parse value ≠ []) :
    IsBody name value ("\x7b" ++ (Declarations.parse value).objectLiteral ++ "\x7d")

theorem expression?_of_fragment? {name value tag : Text} {bound : Bool} {f : Fragment}
    (h : fragment? name value bound tag = .ok (some f)) :
    expression? name (propName name) value = .ok (some f.value) := by
  rw [fragment?] at h
  split at h
  · cases h
  · dsimp only at h
    split at h
    · cases h
    · split at h
      · cases h
      · obtain ⟨x?, hx, hsome⟩ := Except.map_eq_ok.1 h
        obtain ⟨x, rfl, rfl⟩ := Option.map_eq_some_iff.1 hsome
        exact hx

/-- The expression of a prop has a body of the kind that the prop calls for. -/
theorem isBody_render {name value : Text} {x : Expression}
    (h : expression? name (propName name) value = .ok (some x)) :
    IsBody name value (x.render (propName name)) := by
  rw [expression?] at h
  split at h
  next hstyle =>
    -- a style that declares nothing is left out
    dsimp only at h
    split at h
    · cases h
    next hsome =>
      cases h
      exact .style hstyle fun hnil => hsome (List.isEmpty_iff.2 hnil)
  split at h
  next hevent =>
    cases h
    exact .placeholder hevent
  split at h
  next hboolean =>
    split at h
    next htruthy =>
      cases h
      exact .on hboolean htruthy
    · cases h
  split at h
  · cases h
  split at h
  next hnumeric =>
    rw [Bool.and_eq_true] at hnumeric
    obtain ⟨n, hn, hx⟩ := Except.map_eq_ok.1 h
    cases hx
    -- the integer is the one that the digits write
    rw [readInteger_eq hnumeric.2] at hn
    split at hn
    · cases hn
    · cases hn
      exact .integer hnumeric.1 hnumeric.2
  · cases h
    exact .quoted (quotationMark_not_mem_escapeAttribute value) (decode?_escapeAttribute value)

theorem not_isDelimiter_of_isNameChar {c : Char} (hname : isNameChar c) (hblank : ¬ isBlank c) :
    ¬ isDelimiter c := by
  have hother : ∀ d, ¬ isNameChar d → c ≠ d := fun d hd h => hd (h ▸ hname)
  simp [isDelimiter, hblank, hother '"' (by decide), hother '\'' (by decide),
    hother '\x60' (by decide), hother '\x7b' (by decide), hother '\x7d' (by decide),
    hother '=' (by decide), hother '<' (by decide), hother '>' (by decide),
    hother '/' (by decide)]

/-- An attribute becomes no prop, or one with the name that belongs to it and with a body of the
kind that the name calls for. There is nothing in the name that a name, a value or a tag could end
with, and a reader of templates takes the prop as a whole, whatever follows it. -/
theorem fragment?_closed {name value tag : Text} {bound : Bool} {f? : Option Fragment}
    (hline : '\n' ∉ name) (h : fragment? name value bound tag = .ok f?) :
    f? = none ∨ ∃ f body, f? = some f ∧ f.render = propName name ++ '=' :: body ∧
      (propName name ≠ [] ∧ ∀ c ∈ propName name, ¬ isDelimiter c) ∧
      IsBody name value body ∧ ∀ rest, prop? (f.render ++ rest) = some (f.shown, rest) := by
  cases f? with
  | none => exact .inl rfl
  | some f =>
    -- the name comes from the attribute's, and so does the expression from its value
    obtain ⟨hprop, hname, -, hplain⟩ := fromAttribute_of_fragment? h
    have hexpression := expression?_of_fragment? h
    have hisName := isName_propName hprop hline
    refine .inr ⟨f, f.value.render f.name, rfl, ?_, ⟨hisName.1, fun c hc => ?_⟩, ?_, ?_⟩
    · rw [Fragment.render, hname, List.append_assoc]
      rfl
    · exact not_isDelimiter_of_isNameChar (hisName.2 c hc)
        (not_isBlank_of_mem_propName hprop hline c hc)
    · rw [hname]
      exact isBody_render hexpression
    · exact prop?_render (reads_of_isPlain (hname ▸ hisName) hplain)

/-- Quotation marks and ampersands in the title of a heading. -/
theorem fragment?_closed_title :
    '\n' ∉ "title".toList ∧
      fragment? "title" "a\"b&c>" false "h1" = .ok (some ⟨"title", .quoted "a\"b&c>"⟩) ∧
      ∃ body, (Fragment.mk "title" (.quoted "a\"b&c>")).render = "title" ++ '=' :: body ∧
        IsBody "title" "a\"b&c>" body := by
  have hline : '\n' ∉ "title".toList := by decide
  have hfragment : fragment? "title" "a\"b&c>" false "h1" =
      .ok (some ⟨"title", .quoted "a\"b&c>"⟩) := by decide
  refine ⟨hline, hfragment, ?_⟩
  obtain hnone | ⟨f, body, hf, hrender, -, hbody, -⟩ := fragment?_closed hline hfragment
  · cases hnone
  · cases hf
    exact ⟨body, hrender, hbody⟩

end Componentry.Template
