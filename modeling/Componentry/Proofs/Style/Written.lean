import Componentry.Proofs.Outcome
import Componentry.Proofs.Style.Declarations

/-!
# Written declarations

Declarations that are written one after the other, as in `margin: 0; color: red`, and what a style
keeps of them. A style is cut at every semicolon, also between quotation marks and parentheses. So
it keeps all of them if no value has a semicolon, and a value that has one never arrives whole.

* `Declarations.parse_printed`: when the declarations are kept;
* `Declarations.data_url_cut`: a value whose only semicolon stands between parentheses.
-/

namespace Componentry.Declarations

/-- A declaration as it is written. -/
structure Declaration where
  /-- The name of the property. -/
  name : Text
  /-- The value. -/
  value : Text
  /-- The name is not blank. -/
  name_ne_nil : Text.trim name ≠ []
  /-- The name ends where the colon stands. -/
  colon_not_mem : ':' ∉ name
  /-- The name stands in one segment. -/
  semicolon_not_mem : ';' ∉ name
  /-- The value is not blank. -/
  value_ne_nil : Text.trim value ≠ []

namespace Declaration

/-- The declaration in the form `name: value`. -/
def text (d : Declaration) : Text := d.name ++ ": " ++ d.value

/-- The name under which the property is found. -/
def target (d : Declaration) : Text := propertyName (Text.trim d.name)

/-- What a segment with nothing but the declaration declares. -/
def pair (d : Declaration) : Text × Text := (d.target, Text.trim d.value)

theorem declaration?_text (d : Declaration) : declaration? d.text = some d.pair := by
  rw [declaration?_eq_some_iff]
  refine ⟨_, _, ⟨d.name, ' ' :: d.value, by simp [text], d.colon_not_mem, rfl, ?_, d.name_ne_nil,
    d.value_ne_nil⟩, rfl⟩
  rw [Text.trim_cons_of_isBlank (by decide)]

theorem declared_text {d : Declaration} (h : ';' ∉ d.value) : declared d.text = [d.pair] := by
  have htext : ';' ∉ d.text := by simp [text, d.semicolon_not_mem, h]
  rw [declared, Text.splitOn_eq_singleton htext]
  simp [declaration?_text]

end Declaration

/-- Declarations one after the other. -/
def printed (ds : List Declaration) : Text :=
  List.intercalate [';', ' '] (ds.map Declaration.text)

/-! ### What is declared -/

/-- A blank before a segment does not count. -/
theorem declaration?_cons_of_isBlank {c : Char} (h : isBlank c) (segment : Text) :
    declaration? (c :: segment) = declaration? segment := by
  have hcolon : c ≠ ':' := by
    rintro rfl
    cases h
  unfold declaration?
  rw [Text.cut?, if_neg hcolon]
  cases Text.cut? ':' segment with
  | none => rfl
  | some parts => simp only [Option.map_some, Text.trim_cons_of_isBlank h]

theorem declared_cons_of_isBlank {c : Char} (h : isBlank c) (style : Text) :
    declared (c :: style) = declared style := by
  have hsemicolon : c ≠ ';' := by
    rintro rfl
    cases h
  obtain ⟨first, more, hpieces⟩ := List.exists_cons_of_ne_nil (Text.splitOn_ne_nil ';' style)
  rw [declared, declared, Text.splitOn, hpieces]
  simp only [if_neg hsemicolon, List.filterMap_cons, declaration?_cons_of_isBlank h]

theorem declared_printed {ds : List Declaration} (h : ∀ d ∈ ds, ';' ∉ d.value) :
    declared (printed ds) = ds.map Declaration.pair := by
  induction ds with
  | nil => rfl
  | cons d ds ih =>
    obtain ⟨hd, hds⟩ := List.forall_mem_cons.1 h
    rcases ds with _ | ⟨e, ds⟩
    · rw [printed, List.map_singleton, List.intercalate_singleton]
      exact d.declared_text hd
    · -- the blank after the semicolon belongs to the next segment, where it does not count
      have hprinted : printed (d :: e :: ds) = d.text ++ ';' :: ' ' :: printed (e :: ds) := by
        simp [printed, List.intercalate_cons_cons]
      rw [hprinted, declared_append, d.declared_text hd, declared_cons_of_isBlank (by decide),
        ih hds]
      rfl

/-- No value of a map has a semicolon, since the style is cut there first. -/
theorem semicolon_not_mem_of_lookup_parse {style property value : Text}
    (h : (parse style).lookup property = some value) : ';' ∉ value := by
  have hmem := mem_of_mem_ofPairs (List.mem_of_lookup_eq_some h)
  obtain ⟨segment, hsegment, key, _, hdeclares, heq⟩ := mem_declared_iff.1 hmem
  cases heq
  obtain ⟨before, after, rfl, -, -, rfl, -⟩ := hdeclares
  intro hvalue
  refine Text.not_mem_of_mem_splitOn hsegment (List.mem_append_right before ?_)
  exact List.mem_cons_of_mem _ (Text.mem_of_mem_trim hvalue)

/-! ### What is kept -/

/-- A declaration is the last one for its property. -/
def Counts (ds : List Declaration) (d : Declaration) : Prop :=
  ∃ before after, ds = before ++ d :: after ∧ ∀ later ∈ after, later.target ≠ d.target

/-- A map has the properties that are declared, each once and with the value, without the blanks
around it, of the last declaration for it. -/
structure Keeps (declarations : Declarations) (ds : List Declaration) : Prop where
  nodup : declarations.properties.Nodup
  properties : ∀ property,
    property ∈ declarations.properties ↔ ∃ d ∈ ds, d.target = property
  value : ∀ d, Counts ds d → declarations.lookup d.target = some (Text.trim d.value)

/-- Pairs are kept by the map that is made of them. -/
theorem keeps_ofPairs (ds : List Declaration) : Keeps (ofPairs (ds.map Declaration.pair)) ds := by
  refine ⟨nodup_properties_ofPairs _, fun property => ?_, ?_⟩
  · rw [mem_properties_ofPairs_iff, List.map_map, List.mem_map]
    rfl
  · rintro d ⟨before, after, rfl, hafter⟩
    -- no pair after that of the declaration has its target name
    have hlater : (after.map Declaration.pair).filter (·.1 = d.target) = [] := by
      simpa [Declaration.pair] using hafter
    rw [lookup_ofPairs, List.map_append, List.map_cons, List.filter_append, List.filter_cons,
      hlater]
    simp [Declaration.pair]

/-- Written declarations are kept if no value has a semicolon, and only if no value that counts has
one, whatever stands around it. -/
theorem parse_printed (ds : List Declaration) :
    ((∀ d ∈ ds, ';' ∉ d.value) → Keeps (parse (printed ds)) ds) ∧
      (Keeps (parse (printed ds)) ds → ∀ d, Counts ds d → ';' ∉ d.value) := by
  constructor
  · intro h
    rw [parse_eq_ofPairs, declared_printed h]
    exact keeps_ofPairs ds
  · intro h d hd hsemicolon
    -- a semicolon is not trimmed off
    exact semicolon_not_mem_of_lookup_parse (h.value d hd)
      (Text.mem_trim_of_not_isBlank hsemicolon (by decide))

/-! ### Guarded semicolons -/

/-- After an open quotation mark, if there is one, and `depth` open parentheses, the rest of a value
has semicolons between quotation marks and parentheses only, and closes what is open. A backslash
takes the next character with it. -/
def guardedFrom (quote : Option Char) (depth : Nat) : Text → Bool
  | [] => quote.isNone && depth = 0
  | '\\' :: _ :: rest => guardedFrom quote depth rest
  | c :: rest =>
    match quote with
    | some mark => guardedFrom (if c = mark then none else some mark) depth rest
    | none =>
      if c = '"' || c = '\'' then guardedFrom (some c) depth rest
      else if c = '(' then guardedFrom none (depth + 1) rest
      else if c = ')' then depth ≠ 0 && guardedFrom none (depth - 1) rest
      else (c ≠ ';' || depth ≠ 0) && guardedFrom none depth rest

/-- A value has semicolons between quotation marks and parentheses only. -/
def isGuarded (value : Text) : Bool := guardedFrom none 0 value

/-- An image that is written out in the style is cut at the semicolon in its address. -/
theorem data_url_cut :
    let d : Declaration := ⟨"background", "url(data:image/png;base64,AA==)", by decide, by decide,
      by decide, by decide⟩
    isGuarded d.value ∧
      parse (printed [d]) = [("background".toList, "url(data:image/png".toList)] ∧
      ¬ Keeps (parse (printed [d])) [d] := by
  intro d
  have hparse : parse (printed [d]) = [("background".toList, "url(data:image/png".toList)] := by
    decide +kernel
  refine ⟨by decide, hparse, fun h => ?_⟩
  have hvalue := h.value d ⟨[], [], rfl, List.forall_mem_nil _⟩
  rw [hparse] at hvalue
  exact absurd hvalue (by decide +kernel)

end Componentry.Declarations
