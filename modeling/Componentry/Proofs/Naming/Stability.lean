import Componentry.Proofs.Naming.Search
import Componentry.Proofs.State.Key

/-!
# Names of names

A name that has been made from a label is a label itself. It consists of letters and digits, so that
its words make it up without a gap, and all of them but the first start with a capital. Joining them
again gives the name back.

* `Naming.wordsFrom_eq_cons`: the words of a name;
* `Naming.pascalCase_eq_capitalized`, `Naming.IsIdentifier.identifier_eq`: what a name gives as a
  label;
* `keysFrom_eq_map_ownName`: the keys of controls that have identifiers for names;
* `names_give_themselves`: names of components and keys of controls as labels.
-/

namespace Componentry

namespace Naming

/-! ### The words of a name -/

theorem startsHump_of_capital {word : Text} {c : Char} (h : startsHump word c) : c.isUpper :=
  (Bool.and_eq_true_iff.1 h).1

theorem capitalized_of_isUpper {c : Char} (h : c.isUpper) (rest : Text) :
    capitalized (c :: rest) = c :: rest := by
  have hlower : ¬ c.isLower := fun hlower => Char.not_isUpper_of_isLower hlower h
  rw [capitalized, Char.toUpper_eq_of_not_isLower hlower]

/-- Where nothing but letters and digits follows a word that has been begun, the words leave nothing
out, and a capital starts every one that follows the first. -/
theorem wordsFrom_eq_cons {word name : Text} (hword : word ≠ []) (h : ∀ c ∈ name, c.isAlphanum) :
    ∃ first rest, wordsFrom word name = first :: rest ∧ first ≠ [] ∧
      first ++ rest.flatten = word.reverse ++ name ∧ ∀ w ∈ rest, capitalized w = w := by
  induction name generalizing word with
  | nil =>
    refine ⟨word.reverse, [], ?_, List.reverse_ne_nil_iff.2 hword, rfl, List.forall_mem_nil _⟩
    rw [wordsFrom, finished, List.isEmpty_eq_false_iff.2 hword]
    rfl
  | cons c name ih =>
    rw [List.forall_mem_cons] at h
    rw [wordsFrom, if_pos h.1]
    split
    next hhump =>
      -- a hump ends the word, and the next one starts with its capital
      obtain ⟨first, rest, hwords, hne, hjoined, hrest⟩ := ih (List.cons_ne_nil c []) h.2
      obtain ⟨d, tail, rfl⟩ := List.exists_cons_of_ne_nil hne
      obtain ⟨rfl, -⟩ := List.cons.inj hjoined
      refine ⟨word.reverse, (d :: tail) :: rest, ?_, List.reverse_ne_nil_iff.2 hword, ?_, ?_⟩
      · rw [finished, List.isEmpty_eq_false_iff.2 hword, hwords]
        rfl
      · rw [List.flatten_cons, hjoined]
        rfl
      · exact List.forall_mem_cons.2
          ⟨capitalized_of_isUpper (startsHump_of_capital hhump) tail, hrest⟩
    next =>
      obtain ⟨first, rest, hwords, hne, hjoined, hrest⟩ := ih (List.cons_ne_nil c word) h.2
      refine ⟨first, rest, hwords, hne, ?_, hrest⟩
      rw [hjoined, List.reverse_cons, List.append_assoc, List.singleton_append]

/-- The words of a name of letters and digits make it up, and a capital starts every one that
follows the first. -/
theorem words_eq_cons_of_isAlphanum {c : Char} {name : Text} (hc : c.isAlphanum)
    (h : ∀ d ∈ name, d.isAlphanum) :
    ∃ first rest, words (c :: name) = (c :: first) :: rest ∧
      first ++ rest.flatMap capitalized = name := by
  obtain ⟨word, rest, hwords, hne, hjoined, hrest⟩ := wordsFrom_eq_cons (List.cons_ne_nil c []) h
  obtain ⟨d, first, rfl⟩ := List.exists_cons_of_ne_nil hne
  obtain ⟨rfl, hname⟩ := List.cons.inj hjoined
  refine ⟨first, rest, ?_, ?_⟩
  · -- nothing precedes the first character, so that it ends no word
    have hhump : startsHump [] d = false := Bool.and_false _
    rw [words, wordsFrom, if_pos hc, hhump]
    exact hwords
  · rw [List.flatMap_def, List.map_congr_left hrest, List.map_id']
    exact hname

/-! ### Names as labels -/

/-- A name of letters and digits gives itself with a capital in front. -/
theorem pascalCase_eq_capitalized {name : Text} (h : ∀ c ∈ name, c.isAlphanum) :
    pascalCase name = capitalized name := by
  cases name with
  | nil => rfl
  | cons c name =>
    rw [List.forall_mem_cons] at h
    obtain ⟨first, rest, hwords, hjoined⟩ := words_eq_cons_of_isAlphanum h.1 h.2
    rw [pascalCase, hwords, List.flatMap_cons, capitalized, List.cons_append, hjoined]
    rfl

/-- The name that a label gives, gives itself. -/
theorem pascalCase_pascalCase (label : Text) :
    pascalCase (pascalCase label) = pascalCase label := by
  rw [pascalCase_eq_capitalized fun c => isAlphanum_of_mem_pascalCase]
  cases hname : pascalCase label with
  | nil => rfl
  | cons c name =>
    have hhead : ((words label).flatMap capitalized).head? = some c := by
      rw [← pascalCase, hname, List.head?_cons]
    obtain ⟨d, rfl⟩ := exists_toUpper_of_head? hhead
    rw [capitalized, Char.toUpper_toUpper_eq_toUpper]

/-- An identifier gives itself. -/
theorem IsIdentifier.identifier_eq {name : Text} (h : IsIdentifier name) :
    identifier name = name := by
  obtain ⟨c, tail, rfl, hc, htail⟩ := h
  have hletter : c.isAlphanum := by simp [Char.isAlphanum, Char.isAlpha, hc]
  obtain ⟨first, rest, hwords, hjoined⟩ := words_eq_cons_of_isAlphanum hletter htail
  have hsmall : c.toLower = c :=
    Char.toLower_eq_of_not_isUpper (Char.not_isUpper_of_isLower hc)
  have hdigit : c.isDigit = false := by
    rw [Bool.eq_false_iff]
    intro hdigit
    have hlower := Text.toNat_of_isLower hc
    have hpoint := Char.isDigit_iff_toNat.1 hdigit
    simp only [Char.reduceToNat] at hpoint
    omega
  have hname : uncapitalized (c :: first) ++ rest.flatMap capitalized = c :: tail := by
    rw [uncapitalized, hsmall, List.cons_append, hjoined]
  rw [identifier, hwords]
  simp only [hname, List.head?_cons, Option.any_some, hdigit, Bool.false_eq_true, if_false]

/-- The identifier that a label gives, gives itself. -/
theorem identifier_identifier (label : Text) :
    identifier (identifier label) = identifier label := by
  by_cases hwords : words label = []
  · rw [identifier_eq_nil hwords]
    rfl
  · exact (isIdentifier_identifier hwords).identifier_eq

/-- A component name that comes from its label gives itself, whatever is fallen back on. -/
theorem componentName_componentName (label fallback : Text) (reserved : List Text) :
    componentName label fallback reserved = fallback ∨ ∀ other,
      componentName (componentName label fallback reserved) other reserved =
        componentName label fallback reserved := by
  rw [componentName]
  split
  next husable =>
    refine .inr fun other => ?_
    rw [componentName, pascalCase_pascalCase]
    exact if_pos husable
  next => exact .inl rfl

end Naming

/-! ### Controls with identifiers for names -/

/-- There are no blanks around an identifier. -/
theorem Naming.IsIdentifier.trim_eq {name : Text} (h : Naming.IsIdentifier name) :
    Text.trim name = name := by
  have hblank : ∀ c ∈ name, ¬ isBlank c :=
    fun c hc => Text.not_isBlank_of_isAlphanum (h.isAlphanum c hc)
  exact Text.trim_eq_self (fun c hc => hblank c (List.mem_of_head? hc))
    (fun c hc => hblank c (List.mem_of_getLast? hc))

namespace Control

/-- The name that is written at a control, which is empty if there is none. -/
def ownName (attributes : List (Text × Text)) : Text := valueOf "name" attributes

/-- A control with an identifier for a name is called by it, and would like to have it for a key. -/
theorem baseKey_givenName {attributes : List (Text × Text)}
    (h : Naming.IsIdentifier (ownName attributes)) (ordinal : Nat) :
    baseKey ordinal (givenName ordinal attributes) = ownName attributes := by
  have hne : (ownName attributes).isEmpty = false := by
    obtain ⟨c, rest, hname, -⟩ := h
    rw [hname, List.isEmpty_cons]
  have hgiven : givenName ordinal attributes = ownName attributes := by
    rw [givenName, ← ownName, h.trim_eq, hne]
    rfl
  rw [hgiven, baseKey, h.identifier_eq, hne]
  rfl

end Control

/-- Controls that have different identifiers for names have them for keys. -/
theorem keysFrom_eq_map_ownName {count : Nat} {taken : List Text}
    {controls : List (List (Text × Text))}
    (hidentifier : ∀ name ∈ controls.map Control.ownName, Naming.IsIdentifier name)
    (hnodup : (controls.map Control.ownName).Nodup)
    (hfree : ∀ name ∈ controls.map Control.ownName, name ∉ taken) :
    keysFrom count taken controls = controls.map Control.ownName := by
  induction controls generalizing count taken with
  | nil => rfl
  | cons attributes controls ih =>
    rw [List.map_cons, List.forall_mem_cons] at hidentifier hfree
    rw [List.map_cons, List.nodup_cons] at hnodup
    have hkey : Naming.unique taken (Control.baseKey (count + 1)
        (Control.givenName (count + 1) attributes)) [] = Control.ownName attributes := by
      rw [Control.baseKey_givenName hidentifier.1, Naming.unique_of_not_mem hfree.1]
    rw [keysFrom, hkey, List.map_cons]
    refine congrArg _ (ih hidentifier.2 hnodup.2 fun name hname => ?_)
    -- the names of the other controls differ from the key that is taken now
    rw [List.mem_cons, not_or]
    exact ⟨fun h => hnodup.1 (h ▸ hname), hfree.2 name hname⟩

/-- Controls that are named by the keys of a tree keep them. -/
theorem keys_of_ownNames {root other : Node} (hother : other.DistinctWith)
    (h : (Control.reached other).map (Control.ownName ∘ Node.attributes) =
      (inferFields root).map Field.key) :
    (inferFields other).map Field.key = (inferFields root).map Field.key := by
  rw [← List.map_map] at h
  rw [(map_inferFields hother).2, ← h]
  refine keysFrom_eq_map_ownName ?_ (h ▸ (sound_inferFields root).1) fun _ _ => List.not_mem_nil
  rw [h]
  exact List.forall_mem_map.2 isIdentifier_key

/-- Names that have been made from labels stay what they are when they are labels themselves: those
of words with capitals and identifiers. So does the name of a component, unless it is the one that
is fallen back on, and so do the keys of a document when its controls are named by them. -/
theorem names_give_themselves :
    (∀ label, Naming.pascalCase (Naming.pascalCase label) = Naming.pascalCase label) ∧
      (∀ label, Naming.identifier (Naming.identifier label) = Naming.identifier label) ∧
      (∀ label fallback reserved, let name := Naming.componentName label fallback reserved
        name = fallback ∨ ∀ other, Naming.componentName name other reserved = name) ∧
      ∀ root other : Node, other.DistinctWith →
        (Control.reached other).map (Control.ownName ∘ Node.attributes) =
          (inferFields root).map Field.key →
        (inferFields other).map Field.key = (inferFields root).map Field.key :=
  ⟨Naming.pascalCase_pascalCase, Naming.identifier_identifier,
    Naming.componentName_componentName, fun _ _ => keys_of_ownNames⟩

/-- A name in which capitals, digits and humps meet, and controls of which one has been counted. -/
theorem names_give_themselves_mixed :
    Naming.pascalCase "2ndHTMLParser v1B" = "2ndHTMLParserV1B".toList ∧
      Naming.pascalCase "2ndHTMLParserV1B" = "2ndHTMLParserV1B".toList ∧
      Naming.identifier "2nd e-mail" = "field2ndEMail".toList ∧
      Naming.identifier "field2ndEMail" = "field2ndEMail".toList ∧
      (inferFields (formOf ["email2", "email", "2. Wahl", "email"])).map Field.key =
        (["email2", "email", "field2Wahl", "email3"] : List Text) ∧
      (inferFields (formOf ["email2", "email", "field2Wahl", "email3"])).map Field.key =
        (["email2", "email", "field2Wahl", "email3"] : List Text) := by
  have hpascal : Naming.pascalCase "2ndHTMLParser v1B" = "2ndHTMLParserV1B".toList := by decide
  have hidentifier : Naming.identifier "2nd e-mail" = "field2ndEMail".toList := by decide
  have hkeys : (inferFields (formOf ["email2", "email", "2. Wahl", "email"])).map Field.key =
      (["email2", "email", "field2Wahl", "email3"] : List Text) := by
    decide +kernel
  have hform : (formOf ["email2", "email", "field2Wahl", "email3"]).DistinctWith := by
    rw [Node.DistinctWith]
    decide
  obtain ⟨hname, hsame, -, hcontrols⟩ := names_give_themselves
  refine ⟨hpascal, ?_, hidentifier, ?_, hkeys, ?_⟩
  · have := hname "2ndHTMLParser v1B"
    rwa [hpascal] at this
  · have := hsame "2nd e-mail"
    rwa [hidentifier] at this
  · rw [← hkeys]
    exact hcontrols _ _ hform (by rw [hkeys]; decide +kernel)

end Componentry
