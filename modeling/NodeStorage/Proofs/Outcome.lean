/-
**Steps that may fail, when they have worked.**

A chain of steps works when each of them does (`bind_eq_ok`, `ok_bind`, `map_eq_ok`), and a step is
taken for every element of a list when it works for each (`forall₂_of_mapM`, `mem_of_mapM`). What
worked is known by its result (`eq_ok_of_toOption`), also where errors cannot be compared.
-/

import Mathlib.Data.List.Forall2

namespace NodeStorage

variable {ε α β : Type}

theorem bind_eq_ok {first : Except ε α} {next : α → Except ε β} {value : β}
    (worked : first >>= next = .ok value) :
    ∃ given, first = .ok given ∧ next given = .ok value := by
  cases first with
  | error cause => cases worked
  | ok given => exact ⟨given, rfl, worked⟩

/-- A chain goes on with the result of a step that works. -/
theorem ok_bind {first : Except ε α} {next : α → Except ε β} {given : α} {value : β}
    (worked : first = .ok given) (rest : next given = .ok value) : first >>= next = .ok value := by
  rw [worked]
  exact rest

theorem map_eq_ok {first : Except ε α} {f : α → β} {value : β}
    (worked : first.map f = .ok value) : ∃ given, first = .ok given ∧ f given = value := by
  cases first with
  | error cause => cases worked
  | ok given => exact ⟨given, rfl, Except.ok.inj worked⟩

theorem eq_ok_of_toOption {outcome : Except ε α} {value : α}
    (worked : outcome.toOption = some value) : outcome = .ok value := by
  cases outcome with
  | error cause => cases worked
  | ok given =>
    cases worked
    rfl

theorem forall₂_of_mapM {step : α → Except ε β} {elements : List α} {results : List β}
    (worked : elements.mapM step = .ok results) :
    List.Forall₂ (fun element result => step element = .ok result) elements results := by
  induction elements generalizing results with
  | nil =>
    cases worked
    exact .nil
  | cons element elements ih =>
    rw [List.mapM_cons] at worked
    obtain ⟨result, first, rest⟩ := bind_eq_ok worked
    obtain ⟨others, later, last⟩ := bind_eq_ok rest
    cases last
    exact .cons first (ih later)

/-- What is related to the elements of a list, one by one, is related to some element. -/
theorem exists_mem_of_forall₂ {related : α → β → Prop} {elements : List α} {results : List β}
    (each : List.Forall₂ related elements results) {result : β} (member : result ∈ results) :
    ∃ element ∈ elements, related element result := by
  induction each with
  | nil => cases member
  | cons first _ ih =>
    rcases List.mem_cons.mp member with rfl | member
    · exact ⟨_, List.mem_cons_self, first⟩
    · obtain ⟨element, later, is⟩ := ih member
      exact ⟨element, List.mem_cons_of_mem _ later, is⟩

/-- Every result of a step taken for a list comes from an element. -/
theorem mem_of_mapM {step : α → Except ε β} {elements : List α} {results : List β}
    (worked : elements.mapM step = .ok results) {result : β} (member : result ∈ results) :
    ∃ element ∈ elements, step element = .ok result :=
  exists_mem_of_forall₂ (forall₂_of_mapM worked) member

end NodeStorage
