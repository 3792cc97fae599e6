import Componentry.Component.Module
import Componentry.Proofs.State.Initial

/-!
# The initial state read back

The declaration of the initial state is read line by line: a line is the entry of a field, whose
value is read as JSON, until one closes the declaration. What is read are the inferred fields, since
no value takes more than its own line and reading a value stops at the comma that ends its entry.

* `Module.readState?`: a declaration of the initial state, read back;
* `Module.readState_initialState`: the keys and the values of the inferred fields come back, and a
  text in the place of a value changes that value only.
-/

namespace Componentry

namespace Initial

/-- The value that a JSON value stands for. -/
def ofJson? : Json → Option Initial
  | .bool value => some (.flag value)
  | .int n => some (.integer n)
  | .float x => some (.decimal x)
  | .string t => some (.text t)
  | _ => none

theorem ofJson?_toJson (initial : Initial) : ofJson? initial.toJson = some initial := by
  cases initial <;> rfl

end Initial

namespace Module

/-! ### Reading -/

/-- The line before the entries. -/
def stateOpening : Text := "const INITIAL_STATE = \x7b"

/-- The line after the entries. -/
def stateClosing : Text := "\x7d;"

/-- The key and the value of an entry, which takes a whole line. -/
def readField? (line : Text) : Option (Text × Initial) := do
  let entry ← Text.dropPrefix? "  " line
  let key := entry.takeWhile Char.isAlphanum
  let written ← Text.dropPrefix? ": " (entry.dropWhile Char.isAlphanum)
  if key.head?.any Char.isAlpha then
    match Json.readValue 0 1 written with
    | .ok (value, [',']) => (Initial.ofJson? value).map ((key, ·))
    | _ => none
  else none

/-- The keys and the values of entries up to the line that closes them, which is the last one. -/
def readEntries? : List Text → Option (List (Text × Initial))
  | [] => none
  | line :: lines =>
    if line = stateClosing then if lines.isEmpty then some [] else none
    else do
      let entry ← readField? line
      let entries ← readEntries? lines
      some (entry :: entries)

/-- The keys and the values of a declaration of the initial state. A declaration without entries
takes one line. -/
def readState? (declaration : Text) : Option (List (Text × Initial)) :=
  match Text.splitOn '\n' declaration with
  | [] => none
  | line :: lines =>
    if line = stateOpening ++ stateClosing then if lines.isEmpty then some [] else none
    else if line = stateOpening then readEntries? lines
    else none

/-! ### Entries -/

variable {field : Field} {fields : List Field}

/-- What holds of a field whose entry can be read. -/
structure Readable (field : Field) : Prop where
  /-- The key is an identifier. -/
  key : Naming.IsIdentifier field.key
  /-- The value has a literal. -/
  initial : field.initial.WellFormed

/-- The inferred fields can be read. -/
theorem readable_of_mem_inferFields (root : Node) :
    ∀ field ∈ inferFields root, Readable field :=
  fun field hfield => ⟨isIdentifier_key field hfield,
    forall_inferFields (P := fun field => field.initial.WellFormed)
      (fun _ node => Initial.wellFormed_initial node) field hfield⟩

/-- The field may start with any text instead. -/
theorem Readable.withText (h : Readable field) (t : Text) :
    Readable { field with initial := .text t } :=
  ⟨h.key, trivial⟩

/-- An entry is read as the key and the value of its field. -/
theorem readField?_stateEntry (h : Readable field) :
    readField? (stateEntry field) = some (field.key, field.initial) := by
  have hentry : stateEntry field =
      ' ' :: ' ' :: (field.key ++ ':' :: ' ' :: (field.initial.literal ++ [','])) := by
    simp [stateEntry]
  -- the key ends at the colon
  have hcolon : ∀ c ∈ (':' :: ' ' :: (field.initial.literal ++ [','])).head?, ¬ c.isAlphanum := by
    intro c hc
    cases hc
    decide
  have hletter : field.key.head?.any Char.isAlpha := by
    obtain ⟨c, rest, hkey, hc, -⟩ := h.key
    rw [hkey]
    simp [Char.isAlpha, hc]
  -- and the value at the comma, which is the last character of the line
  have hvalue : Json.readValue 0 1 (field.initial.literal ++ [',']) =
      .ok (field.initial.toJson, [',']) := Initial.readValue_literal h.initial []
  simp [readField?, hentry, Text.takeWhile_append_eq h.key.isAlphanum hcolon,
    Text.dropWhile_append_eq h.key.isAlphanum hcolon, Text.dropPrefix?, hletter, hvalue,
    Initial.ofJson?_toJson]

/-- An entry stands on one line. -/
theorem newline_not_mem_stateEntry (h : Readable field) : '\n' ∉ stateEntry field := by
  have hkey : '\n' ∉ field.key := fun hmem => absurd (h.key.isAlphanum _ hmem) (by decide)
  simp [stateEntry, hkey, Initial.newline_not_mem_literal h.initial]

/-- An entry does not close the declaration, since it starts with a blank. -/
theorem stateEntry_ne_stateClosing (field : Field) : stateEntry field ≠ stateClosing := by
  simp [stateEntry, stateClosing]

/-- Entries are read one after the other up to the line that closes the declaration. -/
theorem readEntries?_map_stateEntry (h : ∀ field ∈ fields, Readable field) :
    readEntries? (fields.map stateEntry ++ [stateClosing]) =
      some (fields.map fun field => (field.key, field.initial)) := by
  induction fields with
  | nil => rfl
  | cons field fields ih =>
    rw [List.forall_mem_cons] at h
    rw [List.map_cons, List.cons_append, readEntries?, if_neg (stateEntry_ne_stateClosing field),
      readField?_stateEntry h.1, ih h.2]
    rfl

/-! ### The declaration -/

/-- The lines of a declaration with entries. -/
theorem initialState_eq_intercalate (h : fields ≠ []) :
    initialState fields = List.intercalate ['\n']
      (stateOpening :: (fields.map stateEntry ++ [stateClosing])) := by
  have hopening : ("const INITIAL_STATE = \x7b\n" : Text) = stateOpening ++ ['\n'] := rfl
  have hclosing : ("\n\x7d;" : Text) = '\n' :: stateClosing := rfl
  obtain ⟨first, more, rfl⟩ := List.exists_cons_of_ne_nil h
  rw [← List.cons_append, Text.intercalate_concat (List.cons_ne_nil _ _), List.map_cons,
    List.intercalate_cons_cons, ← hopening, List.append_assoc, List.singleton_append, ← hclosing]
  rfl

/-- Fields that can be read are read back from their declaration. -/
theorem readState?_of_readable (h : ∀ field ∈ fields, Readable field) :
    readState? (initialState fields) =
      some (fields.map fun field => (field.key, field.initial)) := by
  rcases eq_or_ne fields [] with rfl | hne
  · rfl
  · -- no line has a line end inside, so that the lines are what was joined
    have hlines : ∀ line ∈ stateOpening :: (fields.map stateEntry ++ [stateClosing]),
        '\n' ∉ line := by
      refine List.forall_mem_cons.2 ⟨by decide,
        List.forall_mem_append.2 ⟨?_, List.forall_mem_singleton.2 (by decide)⟩⟩
      exact List.forall_mem_map.2 fun field hfield => newline_not_mem_stateEntry (h field hfield)
    rw [readState?, initialState_eq_intercalate hne,
      Text.splitOn_intercalate (List.cons_ne_nil _ _) hlines]
    exact readEntries?_map_stateEntry h

/-- Fields can still be read when one of them starts with another text. -/
theorem readable_modify (h : ∀ field ∈ fields, Readable field) (i : Nat) (t : Text) :
    ∀ field ∈ fields.modify i fun field => { field with initial := .text t }, Readable field := by
  intro field hfield
  obtain ⟨j, hj⟩ := List.mem_iff_getElem?.1 hfield
  rw [List.getElem?_modify] at hj
  -- the field at a place is the one that was there, with another value perhaps
  obtain ⟨old, hold, rfl⟩ := Option.map_eq_some_iff.1 hj
  have hreadable := h old (List.mem_of_getElem? hold)
  split
  · exact hreadable.withText t
  · exact hreadable

/-- A field that starts with another text changes one value among the keys and the values. -/
theorem map_modify_initial (fields : List Field) (i : Nat) (t : Text) :
    (fields.modify i fun field => { field with initial := .text t }).map
        (fun field => (field.key, field.initial)) =
      (fields.map fun field => (field.key, field.initial)).modify i
        fun entry => (entry.1, .text t) := by
  refine List.ext_getElem? fun j => ?_
  rw [List.getElem?_map, List.getElem?_modify, List.getElem?_modify, List.getElem?_map]
  cases fields[j]? with
  | none => rfl
  | some field =>
    simp only [Option.map_eq_map, Option.map_some]
    split <;> rfl

/-- Reading the declaration of the initial state gives the keys and the values of the inferred
fields, in the order of the document. Any text in the place of one of the values is read back as
well, and changes no other entry. -/
theorem readState_initialState (root : Node) :
    readState? (initialState (inferFields root)) =
        some ((inferFields root).map fun field => (field.key, field.initial)) ∧
      ∀ (i : Nat) (t : Text),
        readState? (initialState
            ((inferFields root).modify i fun field => { field with initial := .text t })) =
          some (((inferFields root).map fun field => (field.key, field.initial)).modify i
            fun entry => (entry.1, .text t)) := by
  have hreadable := readable_of_mem_inferFields root
  refine ⟨readState?_of_readable hreadable, fun i t => ?_⟩
  rw [readState?_of_readable (readable_modify hreadable i t), map_modify_initial]

end Module

end Componentry
