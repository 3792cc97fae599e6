import Mathlib.Data.List.Basic

/-!
# Successions

Things that happen one after another, each of which starts where the one before it has ended. What
each of them preserves is preserved by all, and what they yield adds up.

* `Succession.preserves`, `Succession.lift`: from one to all;
* `Succession.accumulates`: a state that tells of all that has happened before it.
-/

namespace Componentry

variable {α σ : Type} {before after : α → σ}

/-- The elements of a list happen one after another and lead from one state to another; each of them
has a state before it and a state after it. -/
inductive Succession (before after : α → σ) : σ → List α → σ → Prop
  /-- Nothing happens. -/
  | nil (s : σ) : Succession before after s [] s
  /-- Something happens in a state, and the rest in the state after it. -/
  | cons {x : α} {xs : List α} {s t : σ} (start : before x = s)
      (rest : Succession before after (after x) xs t) : Succession before after s (x :: xs) t

namespace Succession

variable {s t u : σ} {x : α} {xs ys : List α}

theorem nil_iff : Succession before after s [] t ↔ s = t := by
  constructor
  · rintro ⟨⟩
    rfl
  · rintro rfl
    exact .nil s

theorem cons_iff :
    Succession before after s (x :: xs) t ↔
      before x = s ∧ Succession before after (after x) xs t := by
  constructor
  · rintro ⟨⟩
    exact ⟨‹_›, ‹_›⟩
  · rintro ⟨start, rest⟩
    exact .cons start rest

theorem append_iff :
    Succession before after s (xs ++ ys) u ↔
      ∃ t, Succession before after s xs t ∧ Succession before after t ys u := by
  induction xs generalizing s with
  | nil => simp [nil_iff]
  | cons x xs ih => simp [cons_iff, ih, and_assoc]

/-- In the end the state is the one after the last of them. -/
theorem eq_last (h : Succession before after s xs t) : t = (xs.getLast?.map after).getD s := by
  induction h with
  | nil => rfl
  | @cons x xs s t start rest ih =>
    rw [ih]
    cases hlast : xs.getLast? with
    | none => simp [List.getLast?_eq_none_iff.1 hlast]
    | some last => simp [List.getLast?_cons, hlast]

/-- What each preserves, all preserve. -/
theorem preserves {P : σ → Prop} (h : Succession before after s xs t)
    (hstep : ∀ x ∈ xs, P (before x) → P (after x)) (hs : P s) : P t := by
  induction h with
  | nil => exact hs
  | cons start rest ih =>
    rw [List.forall_mem_cons] at hstep
    exact ih hstep.2 (hstep.1 (start ▸ hs))

/-- How each relates what is before it to what is after it, all do. -/
theorem lift {R : σ → σ → Prop} (hrefl : ∀ s, R s s) (htrans : ∀ {s t u}, R s t → R t u → R s u)
    (h : Succession before after s xs t) (hstep : ∀ x ∈ xs, R (before x) (after x)) : R s t :=
  preserves h (fun x hx hs => htrans hs (hstep x hx)) (hrefl s)

/-- If each makes a state that tells of some things tell of its own yield too, then in the end the
state tells of the yield of all of them, in order. -/
theorem accumulates {β : Type} {yield : α → List β} {T : σ → List β → Prop}
    (h : Succession before after s xs t)
    (hstep : ∀ x ∈ xs, ∀ told, T (before x) told → T (after x) (told ++ yield x))
    {told : List β} (hs : T s told) : T t (told ++ xs.flatMap yield) := by
  induction h generalizing told with
  | nil => simpa using hs
  | cons start rest ih =>
    rw [List.forall_mem_cons] at hstep
    have hnext := ih hstep.2 (hstep.1 told (start ▸ hs))
    simpa using hnext

end Succession

end Componentry
