/-
**A table filled from a list of entries.**

`fill key value table entries` enters the entries one after the other. What stands under a key afterwards
was entered for it last, or stood there before (`fill_cases`); where the keys are distinct, exactly the
entries are found (`getElem?_fill_iff`). A table whose entries are visited and entered again has the results of the
visits in their place (`getElem?_fill_visited`).
-/

import Mathlib.Data.List.Forall2
import Mathlib.Data.List.Nodup
import Mathlib.Tactic

namespace Library

namespace Table

variable {κ ν ε : Type*} {cmp : κ → κ → Ordering} [Std.TransCmp cmp]

/-- Enter the entries one after the other. -/
def fill (key : ε → κ) (value : ε → ν) (table : Std.ExtTreeMap κ ν cmp) (entries : List ε) : Std.ExtTreeMap κ ν cmp :=
  entries.foldl (fun table entry => table.insert (key entry) (value entry)) table

variable (key : ε → κ) (value : ε → ν)

@[simp] theorem fill_nil (table : Std.ExtTreeMap κ ν cmp) : fill key value table [] = table := rfl

@[simp] theorem fill_cons (table : Std.ExtTreeMap κ ν cmp) (entry : ε) (entries : List ε) :
    fill key value table (entry :: entries) = fill key value (table.insert (key entry) (value entry)) entries := rfl

theorem fill_append (table : Std.ExtTreeMap κ ν cmp) (first second : List ε) :
    fill key value table (first ++ second) = fill key value (fill key value table first) second := List.foldl_append

variable [Std.LawfulEqCmp cmp]

/-- What stands under the key just entered, and under every other one. -/
theorem getElem?_insert_eq (table : Std.ExtTreeMap κ ν cmp) (entered : κ) (entry : ν) (asked : κ)
    [Decidable (entered = asked)] :
    (table.insert entered entry)[asked]? = if entered = asked then some entry else table[asked]? := by
  rw [Std.ExtTreeMap.getElem?_insert]
  refine if_congr Std.LawfulEqCmp.compare_eq_iff_eq rfl rfl

/-- What is entered last stands. -/
theorem insert_insert [DecidableEq κ] (table : Std.ExtTreeMap κ ν cmp) (entered : κ) (first second : ν) :
    (table.insert entered first).insert entered second = table.insert entered second := by
  refine Std.ExtTreeMap.ext_getElem? fun asked => ?_
  rw [getElem?_insert_eq, getElem?_insert_eq, getElem?_insert_eq]
  split_ifs <;> rfl

/-- What stands under a key was entered for it, or stood there before. -/
theorem fill_cases (table : Std.ExtTreeMap κ ν cmp) (entries : List ε) (asked : κ) :
    (∃ entry ∈ entries, key entry = asked ∧ (fill key value table entries)[asked]? = some (value entry)) ∨
      (∀ entry ∈ entries, key entry ≠ asked) ∧ (fill key value table entries)[asked]? = table[asked]? := by
  classical
  induction entries generalizing table with
  | nil => exact Or.inr ⟨fun _ member => absurd member List.not_mem_nil, rfl⟩
  | cons entry entries ih =>
      rw [fill_cons]
      rcases ih (table.insert (key entry) (value entry)) with ⟨later, member, found, read⟩ | ⟨other, read⟩
      · exact Or.inl ⟨later, List.mem_cons_of_mem _ member, found, read⟩
      · rw [getElem?_insert_eq] at read
        by_cases here : key entry = asked
        · rw [if_pos here] at read
          exact Or.inl ⟨entry, List.mem_cons_self, here, read⟩
        · rw [if_neg here] at read
          exact Or.inr ⟨List.forall_mem_cons.mpr ⟨here, other⟩, read⟩

/-- Where the keys are distinct, exactly the entries are found in a table that was empty. -/
theorem getElem?_fill_iff {entries : List ε} (distinct : (entries.map key).Nodup) (asked : κ) (found : ν) :
    (fill key value (∅ : Std.ExtTreeMap κ ν cmp) entries)[asked]? = some found ↔
      ∃ entry ∈ entries, key entry = asked ∧ value entry = found := by
  rcases fill_cases key value (∅ : Std.ExtTreeMap κ ν cmp) entries asked with
    ⟨entry, member, here, read⟩ | ⟨other, read⟩
  · rw [read]
    constructor
    · exact fun same => ⟨entry, member, here, Option.some_injective _ same⟩
    · rintro ⟨second, there, also, rfl⟩
      rw [List.inj_on_of_nodup_map distinct member there (here.trans also.symm)]
  · rw [read]
    constructor
    · intro impossible
      rw [Std.ExtTreeMap.getElem?_empty] at impossible
      exact (nomatch impossible)
    · rintro ⟨entry, member, here, _⟩
      exact absurd here (other entry member)

/-! ### Visiting all entries -/

section Visit

/-- A visit of a list in which nothing fails. -/
theorem mapM_eq_some_iff {α β : Type*} (visit : α → Option β) (list : List α) (results : List β) :
    list.mapM visit = some results ↔ List.Forall₂ (fun each result => visit each = some result) list results := by
  induction list generalizing results with
  | nil =>
      rw [List.mapM_nil, List.forall₂_nil_left_iff]
      exact ⟨fun same => (Option.some_injective _ same).symm, fun same => congrArg some same.symm⟩
  | cons each rest ih =>
      rw [List.mapM_cons, List.forall₂_cons_left_iff]
      cases first : visit each with
      | none => exact iff_of_false (fun impossible => nomatch impossible) fun ⟨_, _, impossible, _⟩ => nomatch impossible
      | some result =>
          cases others : rest.mapM visit with
          | none =>
              refine iff_of_false (fun impossible => nomatch impossible) fun ⟨_, tail, _, visited, _⟩ => ?_
              rw [(ih tail).mpr visited] at others
              exact nomatch others
          | some tail =>
              constructor
              · intro same
                exact ⟨result, tail, rfl, (ih tail).mp others, (Option.some_injective _ same).symm⟩
              · rintro ⟨second, tail', same, visited, rfl⟩
                rw [← Option.some_injective _ same]
                rw [(ih tail').mpr visited] at others
                rw [← Option.some_injective _ others]
                rfl

/-- Where no visit fails, the whole does not. -/
theorem exists_mapM {α β : Type*} {visit : α → Option β} {list : List α}
    (each : ∀ one ∈ list, ∃ result, visit one = some result) : ∃ results, list.mapM visit = some results := by
  induction list with
  | nil => exact ⟨[], rfl⟩
  | cons one rest ih =>
      obtain ⟨⟨result, first⟩, others⟩ := List.forall_mem_cons.mp each
      obtain ⟨results, visited⟩ := ih others
      refine ⟨result :: results, ?_⟩
      rw [List.mapM_cons, first, visited]
      rfl

/-- Every result of a visit is that of an element. -/
theorem exists_of_mem_mapM {α β : Type*} {visit : α → Option β} {list : List α} {results : List β}
    (visited : list.mapM visit = some results) {result : β} (member : result ∈ results) :
    ∃ each ∈ list, visit each = some result := by
  have pairs := (mapM_eq_some_iff visit _ results).mp visited
  obtain ⟨index, below, rfl⟩ := List.mem_iff_getElem.mp member
  have within : index < list.length := pairs.length_eq ▸ below
  exact ⟨_, List.getElem_mem within, pairs.get within below⟩

variable {visit : κ × ν → Option ε} {table : Std.ExtTreeMap κ ν cmp} {results : List ε}

/-- Every entry of a table that is visited has a result. -/
theorem exists_result (visited : table.toList.mapM visit = some results) {asked : κ} {found : ν}
    (entry : table[asked]? = some found) : ∃ result ∈ results, visit (asked, found) = some result := by
  have pairs := (mapM_eq_some_iff visit _ results).mp visited
  obtain ⟨index, below, same⟩ := List.mem_iff_getElem.mp (Std.ExtTreeMap.mem_toList_iff_getElem?_eq_some.mpr entry)
  have one := pairs.get below (pairs.length_eq ▸ below)
  rw [List.get_eq_getElem, same] at one
  exact ⟨_, List.get_mem _ _, one⟩

/-- The results of a visit are those of the entries. -/
theorem mem_results_iff (visited : table.toList.mapM visit = some results) (result : ε) :
    result ∈ results ↔ ∃ asked found, table[asked]? = some found ∧ visit (asked, found) = some result := by
  constructor
  · intro member
    obtain ⟨entry, listed, one⟩ := exists_of_mem_mapM visited member
    exact ⟨_, _, Std.ExtTreeMap.mem_toList_iff_getElem?_eq_some.mp listed, one⟩
  · rintro ⟨asked, found, entry, one⟩
    obtain ⟨other, member, same⟩ := exists_result visited entry
    rwa [Option.some_injective _ (one.symm.trans same)]

/-- **Where every entry is visited and entered again**, its result stands under its key. -/
theorem getElem?_fill_visited (keeps : ∀ entry result, visit entry = some result → key result = entry.1)
    (visited : table.toList.mapM visit = some results) (asked : κ) :
    (∃ found result, table[asked]? = some found ∧ visit (asked, found) = some result ∧
        (fill key value table results)[asked]? = some (value result)) ∨
      table[asked]? = none ∧ (fill key value table results)[asked]? = none := by
  rcases fill_cases key value table results asked with ⟨result, member, here, read⟩ | ⟨other, read⟩
  · obtain ⟨place, found, entry, one⟩ := (mem_results_iff visited result).mp member
    obtain rfl : place = asked := (keeps _ _ one).symm.trans here
    exact Or.inl ⟨found, result, entry, one, read⟩
  · cases entry : table[asked]? with
    | some found =>
        obtain ⟨result, member, one⟩ := exists_result visited entry
        exact absurd (keeps _ _ one) (other result member)
    | none => exact Or.inr ⟨rfl, read.trans entry⟩

end Visit

end Table

end Library
