import Componentry.Proofs.Naming.Search
import Componentry.Proofs.Unit.Decomposition

/-!
# The names of units

Units get their names one after the other, in the order in which they are claimed. What a root is
called, the number of the claim and a number that keeps the name apart can add up to the name of an
earlier unit in many ways; since every name is looked up among those that are taken, it does not
matter which labels the roots have, nor in which order they are claimed:

* `names_claims`: the names of units are found one after another among the same taken names;
* `isComponentName_of_mem_decompose`: what the names of the units look like;
* `nodup_names_decompose`: no two units have the same name;
* `not_mem_taken_of_mem_decompose`: no unit has a reserved name.
-/

namespace Componentry

open Node

/-- A character of the name of a unit. -/
def IsNameChar (c : Char) : Prop := c.isAlphanum ∨ c = '_'

/-- A text names a component: a capital is followed by letters, digits and underscores. -/
structure IsComponentName (name : Text) : Prop where
  /-- It starts with a capital. -/
  capital : ∃ c, name.head? = some c ∧ c.isUpper
  /-- It has letters, digits and underscores only. -/
  chars : ∀ c ∈ name, IsNameChar c

theorem IsComponentName.append {name more : Text} (h : IsComponentName name)
    (hmore : ∀ c ∈ more, IsNameChar c) : IsComponentName (name ++ more) := by
  obtain ⟨c, hhead, hupper⟩ := h.capital
  refine ⟨⟨c, ?_, hupper⟩, fun d hd => (List.mem_append.1 hd).elim (h.chars d) (hmore d)⟩
  rw [List.head?_append, hhead, Option.some_or]

theorem isNameChar_of_mem_ofNat {n : Nat} {c : Char} (h : c ∈ Text.ofNat n) : IsNameChar c := by
  rw [IsNameChar, Char.isAlphanum, Text.isDigit_of_mem_ofNat h, Bool.or_true]
  exact .inl rfl

/-- The name that a label gives is that of a component if it starts with a letter. -/
theorem isComponentName_pascalCase {label : Text}
    (h : (Naming.pascalCase label).head?.any Char.isAlpha) :
    IsComponentName (Naming.pascalCase label) := by
  obtain ⟨c, hhead, hletter⟩ := (Option.any_eq_true _ _).1 h
  exact ⟨⟨c, hhead, Naming.isUpper_of_head?_pascalCase hhead hletter⟩,
    fun _ hc => .inl (Naming.isAlphanum_of_mem_pascalCase hc)⟩

/-- What a root is called is the name of a component, whatever its labels are. -/
theorem isComponentName_unitBaseName (root : Node) : IsComponentName root.unitBaseName := by
  have hunit : IsComponentName "Unit" :=
    ⟨⟨'U', rfl, by decide⟩, fun c hc => .inl (List.all_eq_true.1 (by decide) c hc)⟩
  rw [unitBaseName]
  split
  next name hname =>
    obtain ⟨label, -, rfl⟩ := List.mem_map.1 (List.mem_of_find?_eq_some hname)
    split
    next hletter => exact isComponentName_pascalCase hletter
    next => exact hunit.append fun _ hc => .inl (Naming.isAlphanum_of_mem_pascalCase hc)
  next => exact hunit

/-- Keeping the name of a component apart adds at most an underscore and a number. -/
theorem IsComponentName.unique {base : Text} (h : IsComponentName base) (taken : List Text) :
    IsComponentName (Naming.unique taken base "_") := by
  rcases Naming.unique_eq taken base "_" with heq | ⟨n, heq⟩
  · rwa [heq]
  · rw [heq]
    have hseparated : IsComponentName (base ++ "_") :=
      h.append fun c hc => .inr (List.mem_singleton.1 hc)
    exact hseparated.append fun _ => isNameChar_of_mem_ofNat

/-- The names that are looked for when roots are claimed, counted from `ordinal`: what each root is
called, with its number. -/
def nameRequests (ordinal : Nat) : List Node → List (Text × Text)
  | [] => []
  | root :: roots =>
    (root.unitBaseName ++ Text.ofNat ordinal, "_") :: nameRequests (ordinal + 1) roots

section

variable (top : List Int) (taken : List Text) (ordinal : Nat) (roots : List Node)

/-- The names of claims are found one after another. -/
theorem names_claims :
    (claims top taken ordinal roots).map Claim.name =
      (Naming.drawAll taken (nameRequests ordinal roots)).1 := by
  induction roots generalizing taken ordinal with
  | nil => rfl
  | cons root roots ih =>
    rw [claims, List.map_cons, ih]
    rfl

/-- No two claims have the same name. -/
theorem nodup_names_claims : ((claims top taken ordinal roots).map Claim.name).Nodup := by
  rw [names_claims]
  exact (Naming.nodup_drawAll _ _).1

end

section

variable {top : List Int} {taken : List Text} {ordinal : Nat} {roots : List Node} {claim : Claim}

theorem not_mem_taken_of_mem_claims (h : claim ∈ claims top taken ordinal roots) :
    claim.name ∉ taken := by
  have hname : claim.name ∈ (claims top taken ordinal roots).map Claim.name :=
    List.mem_map_of_mem h
  rw [names_claims] at hname
  exact (Naming.nodup_drawAll _ _).2 _ hname

theorem isComponentName_of_mem_claims (h : claim ∈ claims top taken ordinal roots) :
    IsComponentName claim.name := by
  obtain ⟨used, number, hclaim⟩ := exists_of_mem_claims h
  have hbase := (isComponentName_unitBaseName claim.root).append
    fun _ => isNameChar_of_mem_ofNat (n := number)
  rw [congrArg Claim.name hclaim]
  exact hbase.unique used

end

section

variable {body : Node} {reserved : List Text}

/-- A unit is named like a component. -/
theorem isComponentName_of_mem_decompose {claim : Claim} (h : claim ∈ decompose body reserved) :
    IsComponentName claim.name :=
  isComponentName_of_mem_claims ((List.mergeSort_perm _ _).mem_iff.1 h)

/-- No unit has a reserved name. -/
theorem not_mem_taken_of_mem_decompose {claim : Claim} (h : claim ∈ decompose body reserved) :
    claim.name ∉ reservedNames ++ reserved :=
  not_mem_taken_of_mem_claims ((List.mergeSort_perm _ _).mem_iff.1 h)

variable (body reserved)

/-- No two units have the same name. -/
theorem nodup_names_decompose : ((decompose body reserved).map Claim.name).Nodup := by
  rw [decompose, ((List.mergeSort_perm _ _).map Claim.name).nodup_iff]
  exact nodup_names_claims ..

end

end Componentry
