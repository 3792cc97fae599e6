import Componentry.Proofs.Template.Fragment
import Componentry.Proofs.Template.PropName
import Componentry.Template.Emit

/-!
# Tags are read back

What a reader of templates takes a tag for: its name, and its props with their values. The values of
attributes and styles stand in string literals, which the reader passes over as a whole, so that no
quotation mark or brace in them ends anything.

* `after_literal`: a string literal is passed over as a whole;
* `reads_of_isPlain`, `reads_of_mem_binding`: every prop is read as itself;
* `token?_opening`, `token?_closing`: a tag is read as its name and its props.
-/

namespace Componentry.Template

open Reader

/-! ### Expressions -/

theorem after_unitEscape {n : Nat} (hn : n < 0x20) (depth : Nat) :
    (Place.literal '"' depth).after (Json.unitEscape n) = some (.literal '"' depth) := by
  have hdigits : ∀ n < 0x20, (Text.hexDigits 4 n).all fun c => c ≠ '\\' && c ≠ '"' := by decide
  rw [Json.unitEscape, Place.after_append]
  refine Place.after_eq_self fun c hc => ?_
  have hplain := List.all_eq_true.1 (hdigits n hn) c hc
  simp only [Bool.and_eq_true, decide_eq_true_eq] at hplain
  exact Place.next_literal hplain.1 hplain.2

/-- A character inside a string literal does not end it. -/
theorem after_literalChar (c : Char) (depth : Nat) :
    (Place.literal '"' depth).after (Json.literalChar c) = some (.literal '"' depth) := by
  rw [Json.literalChar]
  split
  next escape h =>
    -- a short escape is a backslash and one more character
    rw [Json.shortEscape?] at h
    repeat' split at h
    all_goals
      cases h
      try rfl
  next h =>
    split
    next hcontrol =>
      -- a control character is written by its unit, any other one as itself
      exact after_unitEscape hcontrol depth
    next =>
      refine Place.after_eq_self fun d hd => ?_
      obtain rfl := List.mem_singleton.1 hd
      refine Place.next_literal ?_ ?_
      all_goals
        rintro rfl
        cases h

/-- A string literal is passed over as a whole. -/
theorem after_literal (t : Text) (depth : Nat) :
    (Place.code depth).after (Json.literal t) = some (.code depth) := by
  have hcontent : (Place.literal '"' depth).after (t.flatMap Json.literalChar) =
      some (.literal '"' depth) := by
    refine Place.after_flatten_eq_self fun s hs => ?_
    obtain ⟨c, -, rfl⟩ := List.mem_map.1 hs
    exact after_literalChar c depth
  rw [Json.literal, List.cons_append, Place.after_cons]
  -- the first quotation mark opens the literal, and the last one closes it
  change (Place.literal '"' depth).after _ = _
  rw [Place.after_append, hcontent]
  rfl

/-- Texts and separators that change nothing one by one change nothing together. -/
theorem after_intercalate {place : Place} {separator : Text} {ts : List Text}
    (hseparator : place.after separator = some place) (h : ∀ t ∈ ts, place.after t = some place) :
    place.after (List.intercalate separator ts) = some place := by
  induction ts with
  | nil => rfl
  | cons t ts ih =>
    obtain ⟨ht, hts⟩ := List.forall_mem_cons.1 h
    cases ts with
    | nil => rwa [List.intercalate_singleton]
    | cons u ts =>
      rw [List.intercalate_cons_cons, Place.after_append, Place.after_append, ht]
      change (place.after separator).bind _ = _
      rw [hseparator]
      exact ih hts

theorem after_objectLiteral (declarations : Declarations) :
    (Place.code 0).after declarations.objectLiteral = some (.code 0) := by
  have hentry : ∀ t ∈ declarations.map Declarations.entry,
      (Place.code 1).after t = some (.code 1) := by
    intro t ht
    obtain ⟨declaration, -, rfl⟩ := List.mem_map.1 ht
    rw [Declarations.entry, Place.after_append, Place.after_append, after_literal]
    exact after_literal declaration.2 1
  have hseparator : (Place.code 1).after [',', ' '] = some (.code 1) := rfl
  -- the entries stand one brace deep
  have hentries := after_intercalate hseparator hentry
  rw [Declarations.objectLiteral, Place.after_append, Place.after_append]
  change ((Place.code 1).after _).bind _ = _
  rw [hentries]
  rfl

/-- What the expression of the prop `name` is to be read as. -/
def Expression.shown (name : Text) : Expression → Value
  | .quoted value => .quoted value
  | .on => .braced "true"
  | .integer n => .braced (Text.ofInt n)
  | .style declarations => .braced declarations.objectLiteral
  | .placeholder => .braced ("() => console.log(\"" ++ name ++ " triggered\")")
  | .state key => .braced ("state." ++ key)
  | .update key source => .braced ("(e) => update(\"" ++ key ++ "\", e.target." ++ source ++ ")")

/-- What a prop is to be read as. -/
def Fragment.shown (f : Fragment) : Text × Value := (f.name, f.value.shown f.name)

/-- A reader takes a prop as what it is to be read as, whatever follows it. -/
def Fragment.Reads (f : Fragment) : Prop :=
  IsName f.name ∧ ∀ rest, value? (f.value.render f.name ++ rest) = some (f.value.shown f.name, rest)

/-- It is enough that what stands between the braces is passed over. -/
theorem reads_of_source {f : Fragment} {source : Text} (hname : IsName f.name)
    (hrender : f.value.render f.name = '\x7b' :: (source ++ ['\x7d']))
    (hshown : f.value.shown f.name = .braced source)
    (hsource : (Place.code 0).after source = some (.code 0)) : f.Reads := by
  refine ⟨hname, fun rest => ?_⟩
  rw [hrender, hshown, List.cons_append, List.append_assoc, List.singleton_append]
  exact value?_braced hsource rest

theorem after_code {s : Text} (h : ∀ c ∈ s, isNameChar c) (depth : Nat) :
    (Place.code depth).after s = some (.code depth) :=
  Place.after_eq_self fun c hc => Place.next_code (h c hc)

theorem after_quoted {s : Text} (h : ∀ c ∈ s, isNameChar c) (depth : Nat) :
    (Place.literal '"' depth).after s = some (.literal '"' depth) := by
  refine Place.after_eq_self fun c hc => Place.next_literal ?_ ?_
  all_goals
    rintro rfl
    exact absurd (h _ hc) (by decide)

/-- The prop of an attribute is read as itself. -/
theorem reads_of_isPlain {f : Fragment} (hname : IsName f.name) (h : f.value.IsPlain) :
    f.Reads := by
  obtain ⟨name, expression⟩ := f
  cases expression with
  | quoted value =>
    refine ⟨hname, fun rest => ?_⟩
    change value? ('"' :: (escapeAttribute value ++ ['"']) ++ rest) = some (.quoted value, rest)
    rw [List.cons_append, List.append_assoc]
    exact value?_quoted value rest
  | on => exact reads_of_source hname rfl rfl rfl
  | integer n =>
    have hdigits : ∀ c ∈ Text.ofInt n, isNameChar c := by
      intro c hc
      rcases Text.minus_or_isDigit_of_mem_ofInt hc with rfl | hdigit
      · decide
      · exact isNameChar_of_isAlphanum (by simp [Char.isAlphanum, hdigit])
    exact reads_of_source hname rfl rfl (after_code hdigits 0)
  | style declarations => exact reads_of_source hname rfl rfl (after_objectLiteral declarations)
  | placeholder =>
    have hsource : (Place.code 0).after
        ("() => console.log(\"" ++ name ++ " triggered\")") = some (.code 0) := by
      rw [Place.after_append, Place.after_append]
      -- the name of the event stands in a string literal
      change ((Place.literal '"' 0).after name).bind _ = _
      rw [after_quoted hname.2]
      rfl
    have hopen : "\x7b() => console.log(\"".toList = '\x7b' :: "() => console.log(\"".toList := rfl
    have hclose : " triggered\")\x7d".toList = " triggered\")".toList ++ ['\x7d'] := rfl
    refine reads_of_source hname ?_ rfl hsource
    change "\x7b() => console.log(\"".toList ++ name ++ " triggered\")\x7d".toList = _
    simp only [hopen, hclose, List.cons_append, List.append_assoc]
  | state key => exact h.elim
  | update key source => exact h.elim

theorem reads_state {name key : Text} (hname : IsName name) (hkey : IsName key) :
    (Fragment.mk name (.state key)).Reads := by
  have hsource : (Place.code 0).after ("state." ++ key) = some (.code 0) := by
    rw [Place.after_append]
    exact after_code hkey.2 0
  exact reads_of_source hname rfl rfl hsource

theorem reads_update {name key source : Text} (hname : IsName name) (hkey : IsName key)
    (hsource : IsName source) : (Fragment.mk name (.update key source)).Reads := by
  have hafter : (Place.code 0).after
      ("(e) => update(\"" ++ key ++ "\", e.target." ++ source ++ ")") = some (.code 0) := by
    rw [Place.after_append, Place.after_append, Place.after_append, Place.after_append]
    -- the key stands in a string literal, and the source after it
    change ((((Place.literal '"' 0).after key).bind _).bind _).bind _ = _
    rw [after_quoted hkey.2]
    change ((Place.code 0).after source).bind _ = _
    rw [after_code hsource.2]
    rfl
  have hopen : "\x7b(e) => update(\"".toList = '\x7b' :: "(e) => update(\"".toList := rfl
  have hclose : ")\x7d".toList = ")".toList ++ ['\x7d'] := rfl
  refine reads_of_source hname ?_ rfl hafter
  change "\x7b(e) => update(\"".toList ++ key ++ "\", e.target.".toList ++ source ++
    ")\x7d".toList = _
  simp only [hopen, hclose, List.cons_append, List.append_assoc]

/-- The props that tie a control to its state are read as themselves. -/
theorem reads_of_mem_binding {field : Field} {f : Fragment} (hkey : IsName field.key)
    (hf : f ∈ binding field) : f.Reads := by
  rw [binding] at hf
  split at hf
  all_goals
    simp only [List.mem_cons, List.not_mem_nil, or_false] at hf
    rcases hf with rfl | rfl
  · exact reads_state (by decide) hkey
  · exact reads_update (by decide) hkey (by decide)
  · exact reads_state (by decide) hkey
  · exact reads_update (by decide) hkey (by decide)

/-! ### Tags -/

/-- The end of an opening tag, which is perhaps closed at once. -/
def tagEnd (closed : Bool) : Text := if closed then [' ', '/', '>'] else ['>']

theorem props?_tagEnd (closed : Bool) (rest : Text) :
    props? (tagEnd closed ++ rest) = some ([], closed, rest) := by
  cases closed <;> simp [tagEnd, props?]

theorem prop?_render {f : Fragment} (hf : f.Reads) (rest : Text) :
    prop? (f.render ++ rest) = some (f.shown, rest) := by
  have htext : f.render ++ rest = f.name ++ '=' :: (f.value.render f.name ++ rest) := by
    rw [Fragment.render, List.append_assoc, List.append_assoc]
    rfl
  rw [htext]
  exact prop?_append hf.1 (hf.2 rest)

section

variable {α : Type} {text : α → Text} {shown : α → Text × Value}

/-- Props with blanks before them are read one by one. -/
theorem props?_flatMap {items : List α}
    (h : ∀ a ∈ items, ∀ rest, prop? (text a ++ rest) = some (shown a, rest)) (closed : Bool)
    (rest : Text) :
    props? (items.flatMap (fun a => ' ' :: text a) ++ (tagEnd closed ++ rest)) =
      some (items.map shown, closed, rest) := by
  induction items with
  | nil => exact props?_tagEnd closed rest
  | cons a items ih =>
    obtain ⟨ha, hitems⟩ := List.forall_mem_cons.1 h
    rw [List.flatMap_cons, List.append_assoc, List.cons_append,
      props?_cons (ha _) (List.suffix_append _ _).length_le, ih hitems]
    rfl

/-- An opening tag is read as its name and its props. -/
theorem token?_opening {name : Text} {items : List α} (hname : IsName name)
    (h : ∀ a ∈ items, ∀ rest, prop? (text a ++ rest) = some (shown a, rest)) (closed : Bool)
    (rest : Text) :
    token? ('<' :: (name ++ (items.flatMap (fun a => ' ' :: text a) ++ (tagEnd closed ++ rest)))) =
      some (.opening name (items.map shown) closed, rest) := by
  -- a blank or an angle bracket ends the name
  have hnext : ∃ c t, ¬ isNameChar c ∧
      items.flatMap (fun a => ' ' :: text a) ++ (tagEnd closed ++ rest) = c :: t := by
    cases items with
    | nil => cases closed <;> exact ⟨_, _, by decide, rfl⟩
    | cons a items => exact ⟨_, _, by decide, rfl⟩
  obtain ⟨c, t, hc, htext⟩ := hnext
  have hprops := props?_flatMap h closed rest
  have hread : name? (name ++ c :: t) = some (name, c :: t) := name?_append hname hc
  rw [htext] at hprops ⊢
  change tag? (name ++ c :: t) = _
  rw [tag?]
  · simp only [hread, hprops, Option.bind_eq_bind, Option.bind_some]
  · -- a name does not start with a slash
    intro after hafter
    rw [hafter] at hread
    cases hread

end

theorem token?_closing {name : Text} (hname : IsName name) (rest : Text) :
    token? ('<' :: '/' :: (name ++ '>' :: rest)) = some (.closing name, rest) := by
  have hread : name? (name ++ '>' :: rest) = some (name, '>' :: rest) :=
    name?_append hname (by decide)
  change tag? ('/' :: (name ++ '>' :: rest)) = _
  simp only [tag?, hread, Option.bind_eq_bind, Option.bind_some]

/-- A prop whose value is the constant of the same name. -/
theorem prop?_constant {name : Text} (hname : IsName name) (rest : Text) :
    prop? (name ++ ['=', '\x7b'] ++ name ++ ['\x7d'] ++ rest) =
      some ((name, .braced name), rest) := by
  have hvalue : value? ('\x7b' :: (name ++ ['\x7d']) ++ rest) = some (.braced name, rest) := by
    rw [List.cons_append, List.append_assoc]
    exact value?_braced (after_code hname.2 0) rest
  have hprop := prop?_append hname hvalue
  simpa only [List.append_assoc, List.cons_append, List.nil_append] using hprop

theorem isName_tagName {tag? : Option Text} (h : ∃ tag ∈ tag?, IsName tag) :
    IsName (tagName tag?) := by
  have hcased : ∀ row ∈ casedTags, IsName row.2 := by decide +kernel
  obtain ⟨tag, rfl, htag⟩ := h
  rw [tagName]
  cases hlookup : casedTags.lookup tag with
  | none => exact htag
  | some cased => exact hcased _ (List.mem_of_lookup_eq_some hlookup)

end Componentry.Template
