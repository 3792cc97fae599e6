import Componentry.Proofs.Naming

/-!
# Searching for a free name

The search for a free name tries one candidate after another: the name itself, and then the name
with a number from two on. Nothing in it says when to stop. It ends since the candidates differ from
each other and there are only so many taken names, and it ends at the first candidate that is free.

* `Search`: the search as it is made;
* `search_candidate_iff`: where it ends;
* `exists_candidate_of_unique`, `search_unique`: the name that is found;
* `drawAll`: names that are drawn one after another from the same taken names;
* `finds_least_free_names`: what holds of one search and of any sequence of them.
-/

namespace Componentry.Naming

variable {taken : List Text} {base separator : Text}

/-! ### Candidates -/

/-- The candidates for a name, in the order in which they are tried. -/
def candidate (base separator : Text) : Nat → Text
  | 0 => base
  | k + 1 => base ++ separator ++ Text.ofNat (k + 2)

/-- No two candidates are the same, whatever the name ends in. -/
theorem candidate_injective (base separator : Text) :
    Function.Injective (candidate base separator) := by
  -- a number has a digit, so that the name with a number is longer than the name
  have hlonger : ∀ k, candidate base separator (k + 1) ≠ base := by
    intro k h
    rw [candidate, List.append_assoc, List.append_right_eq_self, List.append_eq_nil_iff] at h
    exact Text.ofNat_ne_nil _ h.2
  intro i j h
  cases i with
  | zero =>
    cases j with
    | zero => rfl
    | succ j => exact absurd h.symm (hlonger j)
  | succ i =>
    cases j with
    | zero => exact absurd h (hlonger i)
    | succ j =>
      have hnumber := Text.ofNat_injective (List.append_cancel_left h)
      omega

/-! ### The search -/

/-- The search at the candidate `tried`, where the next one has the number `counter`, ends with
`name` after that many turns. -/
inductive Search (taken : List Text) (base separator : Text) : Text → Nat → Nat → Text → Prop
  /-- The candidate is free. -/
  | free {tried : Text} {counter : Nat} (h : tried ∉ taken) :
    Search taken base separator tried counter 0 tried
  /-- The candidate is taken, and the search goes on with the next one. -/
  | next {tried name : Text} {counter turns : Nat} (h : tried ∈ taken)
    (rest : Search taken base separator (base ++ separator ++ Text.ofNat counter) (counter + 1)
      turns name) :
    Search taken base separator tried counter (turns + 1) name

/-- The search ends at the first candidate that is free. -/
theorem search_candidate_iff {i turns : Nat} {name : Text} :
    Search taken base separator (candidate base separator i) (i + 2) turns name ↔
      name = candidate base separator (i + turns) ∧ name ∉ taken ∧
        ∀ j < turns, candidate base separator (i + j) ∈ taken := by
  induction turns generalizing i with
  | zero =>
    constructor
    · rintro ⟨hfree⟩
      exact ⟨rfl, hfree, fun j hj => absurd hj (Nat.not_lt_zero j)⟩
    · rintro ⟨rfl, hfree, -⟩
      exact .free hfree
  -- the first candidate is taken, and the search goes on from the second one
  | succ turns ih =>
    have hstep : i + 1 + turns = i + (turns + 1) := by omega
    constructor
    · rintro (_ | ⟨htaken, hrest⟩)
      obtain ⟨rfl, hfree, hbefore⟩ := (ih (i := i + 1)).1 hrest
      refine ⟨by rw [hstep], hfree, fun j hj => ?_⟩
      cases j with
      | zero => exact htaken
      | succ j =>
        have hj' := hbefore j (by omega)
        rwa [Nat.add_assoc, Nat.add_comm 1 j] at hj'
    · rintro ⟨rfl, hfree, hbefore⟩
      refine .next (hbefore 0 (by omega)) ((ih (i := i + 1)).2 ⟨by rw [hstep], hfree, ?_⟩)
      intro j hj
      rw [Nat.add_assoc, Nat.add_comm 1 j]
      exact hbefore (j + 1) (by omega)

/-- The name that is found is the first free candidate. -/
theorem exists_candidate_of_unique (taken : List Text) (base separator : Text) :
    ∃ turns, unique taken base separator = candidate base separator turns ∧
      ∀ i < turns, candidate base separator i ∈ taken := by
  rw [unique]
  split
  next htaken =>
    obtain ⟨k, -, heq, hbefore, -⟩ := firstFree_eq taken (base ++ separator) taken.length 2
    refine ⟨k + 1, by rw [heq, candidate, Nat.add_comm 2 k], fun i hi => ?_⟩
    cases i with
    | zero => exact List.contains_iff_mem.1 htaken
    | succ i =>
      have hi' := hbefore i (by omega)
      rwa [Nat.add_comm 2 i] at hi'
  next => exact ⟨0, rfl, fun i hi => absurd hi (Nat.not_lt_zero i)⟩

/-- The search ends, with the name that is found, and it takes no more turns than there are taken
names. -/
theorem search_unique (taken : List Text) (base separator : Text) :
    ∃ turns ≤ taken.length,
      Search taken base separator base 2 turns (unique taken base separator) := by
  obtain ⟨turns, heq, hbefore⟩ := exists_candidate_of_unique taken base separator
  have hsearch : Search taken base separator (candidate base separator 0) (0 + 2) turns
      (unique taken base separator) := by
    refine search_candidate_iff.2 ⟨?_, unique_not_mem taken base separator, fun j hj => ?_⟩
    · rw [heq, Nat.zero_add]
    · rw [Nat.zero_add]
      exact hbefore j hj
  exact ⟨turns, le_length_of_injective (candidate_injective base separator) hbefore, hsearch⟩

/-- The search ends in one way only. -/
theorem Search.eq {tried name other : Text} {counter turns turns' : Nat}
    (h : Search taken base separator tried counter turns name)
    (h' : Search taken base separator tried counter turns' other) : name = other := by
  induction h generalizing turns' with
  | free hfree =>
    cases h' with
    | free => rfl
    | next htaken => exact absurd htaken hfree
  | next htaken _ ih =>
    cases h' with
    | free hfree => exact absurd htaken hfree
    | next _ hrest => exact ih hrest

/-- A name that is free is kept. -/
theorem unique_of_not_mem (h : base ∉ taken) (separator : Text) :
    unique taken base separator = base := by
  rw [unique, if_neg (mt List.contains_iff_mem.1 h)]

/-- A name that is taken gets the least number from two on that makes it free. -/
theorem exists_least_of_mem (h : base ∈ taken) (separator : Text) :
    ∃ n ≥ 2, unique taken base separator = base ++ separator ++ Text.ofNat n ∧
      ∀ m ≥ 2, m < n → base ++ separator ++ Text.ofNat m ∈ taken := by
  obtain ⟨turns, heq, hbefore⟩ := exists_candidate_of_unique taken base separator
  cases turns with
  | zero => exact absurd (heq ▸ h) (unique_not_mem taken base separator)
  | succ k =>
    refine ⟨k + 2, by omega, heq, fun m hm hless => ?_⟩
    obtain ⟨i, rfl⟩ := Nat.exists_eq_add_of_le' hm
    exact hbefore (i + 1) (by omega)

/-! ### One name after another -/

/-- A name that is not taken is found, and is taken from then on. -/
def draw (taken : List Text) (base separator : Text) : Text × List Text :=
  let name := unique taken base separator
  (name, name :: taken)

/-- The names that are found one after another, each for a name and a separator, and the names that
are taken in the end. -/
def drawAll (taken : List Text) : List (Text × Text) → List Text × List Text
  | [] => ([], taken)
  | (base, separator) :: requests =>
    let (name, taken) := draw taken base separator
    let (names, taken) := drawAll taken requests
    (name :: names, taken)

theorem length_drawAll (taken : List Text) (requests : List (Text × Text)) :
    (drawAll taken requests).1.length = requests.length := by
  induction requests generalizing taken with
  | nil => rfl
  | cons request requests ih => exact congrArg (· + 1) (ih _)

/-- In the end the names that were found are taken besides those that were taken before. -/
theorem mem_drawAll_iff {requests : List (Text × Text)} {name : Text} :
    name ∈ (drawAll taken requests).2 ↔ name ∈ (drawAll taken requests).1 ∨ name ∈ taken := by
  induction requests generalizing taken with
  | nil => exact (or_iff_right List.not_mem_nil).symm
  | cons request requests ih =>
    obtain ⟨base, separator⟩ := request
    refine ih.trans ?_
    rw [drawAll, draw, List.mem_cons, List.mem_cons]
    tauto

/-- No name is found twice, and none that was taken before. -/
theorem nodup_drawAll (taken : List Text) (requests : List (Text × Text)) :
    (drawAll taken requests).1.Nodup ∧ ∀ name ∈ (drawAll taken requests).1, name ∉ taken := by
  induction requests generalizing taken with
  | nil => exact ⟨List.nodup_nil, List.forall_mem_nil _⟩
  | cons request requests ih =>
    obtain ⟨base, separator⟩ := request
    -- the first name is taken when the others are looked for
    obtain ⟨hnodup, hfresh⟩ := ih (draw taken base separator).2
    refine ⟨List.nodup_cons.2 ⟨fun hmem => ?_, hnodup⟩, List.forall_mem_cons.2 ⟨?_, ?_⟩⟩
    · exact hfresh _ hmem List.mem_cons_self
    · exact unique_not_mem taken base separator
    · exact fun name hname htaken => hfresh name hname (List.mem_cons_of_mem _ htaken)

/-- The search for a free name ends, with one name only, and after no more turns than there are
taken names. A name that is free is kept, and one that is taken gets the least number from two on
that makes it free. What is found was not taken and is taken then, and nothing else is. Names that
are found one after another, for any names and separators, are different. -/
theorem finds_least_free_names (taken : List Text) :
    (∀ base separator, let name := (draw taken base separator).1
      (∃ turns ≤ taken.length, Search taken base separator base 2 turns name) ∧
      (∀ turns other, Search taken base separator base 2 turns other → other = name) ∧
      (base ∉ taken → name = base) ∧
      (base ∈ taken → ∃ n ≥ 2, name = base ++ separator ++ Text.ofNat n ∧
        ∀ m ≥ 2, m < n → base ++ separator ++ Text.ofNat m ∈ taken) ∧
      name ∉ taken ∧
      ∀ other, other ∈ (draw taken base separator).2 ↔ other = name ∨ other ∈ taken) ∧
    ∀ requests, let drawn := drawAll taken requests
      drawn.1.length = requests.length ∧ drawn.1.Nodup ∧ (∀ name ∈ drawn.1, name ∉ taken) ∧
        ∀ name, name ∈ drawn.2 ↔ name ∈ drawn.1 ∨ name ∈ taken := by
  refine ⟨fun base separator => ?_, fun requests => ?_⟩
  · obtain ⟨turns, hturns, hsearch⟩ := search_unique taken base separator
    exact ⟨⟨turns, hturns, hsearch⟩, fun _ _ hother => hother.eq hsearch,
      fun hfree => unique_of_not_mem hfree separator,
      fun htaken => exists_least_of_mem htaken separator,
      unique_not_mem taken base separator, fun _ => List.mem_cons⟩
  · obtain ⟨hnodup, hfresh⟩ := nodup_drawAll taken requests
    exact ⟨length_drawAll taken requests, hnodup, hfresh, fun _ => mem_drawAll_iff⟩

/-- Bases that look like numbered candidates do not come into conflict with them. -/
example :
    (drawAll ["a"] [("a", "_"), ("a", "_"), ("a_2", []), ("a", []), ("a_2", "_")]).1 =
      (["a_2", "a_3", "a_22", "a2", "a_2_2"] : List Text) := by
  decide

end Componentry.Naming
