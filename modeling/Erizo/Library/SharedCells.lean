/-
**Objects that share cells.**

A value has a part of its own and a content that is kept in a cell (`split`). An object is its own part with the place of
its cell; to change an object is to change its value and to write back both parts, so that the objects with the same
cell change with it.

* `load_change_of_shared`: objects with the same cell have the new content.
* `read_changeAll`: a row of copies of one object, which have one cell, reads as objects that share nothing as long as no
  two of them are changed.
-/

import Mathlib.Data.List.Induction
import Mathlib.Logic.Equiv.Defs
import Mathlib.Tactic.Common

namespace Library

/-- Objects, each with the place of its cell, and the cells. -/
structure SharedCells (α β : Type*) where
  objects : List (α × ℕ)
  cells : List β

namespace SharedCells

variable {σ α β : Type*}

/-- Copies of one object. A copy has the same cell. -/
def copies (split : σ ≃ α × β) (value : σ) (count : ℕ) : SharedCells α β where
  objects := List.replicate count ((split value).1, 0)
  cells := [(split value).2]

/-- The value of an object. -/
def load (split : σ ≃ α × β) (shared : SharedCells α β) (index : ℕ) : Option σ :=
  shared.objects[index]?.bind fun object => shared.cells[object.2]?.map fun content => split.symm (object.1, content)

/-- An object is changed. -/
def change (split : σ ≃ α × β) (shared : SharedCells α β) (index : ℕ) (f : σ → σ) : SharedCells α β :=
  match shared.objects[index]?, shared.load split index with
  | some object, some value =>
      { objects := shared.objects.set index ((split (f value)).1, object.2)
        cells := shared.cells.set object.2 (split (f value)).2 }
  | _, _ => shared

/-- Objects are changed one after the other. -/
def changeAll (split : σ ≃ α × β) (shared : SharedCells α β) (changes : List (ℕ × (σ → σ))) : SharedCells α β :=
  changes.foldl (fun shared change => shared.change split change.1 change.2) shared

variable {split : σ ≃ α × β} {shared : SharedCells α β}

/-- An object that has a value has a cell. -/
theorem load_eq_some {index : ℕ} {value : σ} (loaded : shared.load split index = some value) :
    ∃ cell, shared.objects[index]? = some ((split value).1, cell) ∧ shared.cells[cell]? = some (split value).2 := by
  obtain ⟨object, here, mapped⟩ := Option.bind_eq_some_iff.mp loaded
  obtain ⟨content, stored, rfl⟩ := Option.map_eq_some_iff.mp mapped
  rw [Equiv.apply_symm_apply]
  exact ⟨object.2, here, stored⟩

theorem load_of_object {index cell : ℕ} {own : α} {content : β} (here : shared.objects[index]? = some (own, cell))
    (stored : shared.cells[cell]? = some content) : shared.load split index = some (split.symm (own, content)) := by
  rw [load, here, Option.bind_some, stored, Option.map_some]

theorem change_eq {index cell : ℕ} {value : σ} (f : σ → σ) (loaded : shared.load split index = some value)
    (here : shared.objects[index]? = some ((split value).1, cell)) :
    shared.change split index f =
      { objects := shared.objects.set index ((split (f value)).1, cell)
        cells := shared.cells.set cell (split (f value)).2 } := by
  rw [change, here, loaded]

/-- The object that is changed has its new value. -/
theorem load_change_self {index : ℕ} {value : σ} (f : σ → σ) (loaded : shared.load split index = some value) :
    (shared.change split index f).load split index = some (f value) := by
  obtain ⟨cell, here, stored⟩ := load_eq_some loaded
  obtain ⟨inside, -⟩ := List.getElem?_eq_some_iff.mp here
  obtain ⟨within, -⟩ := List.getElem?_eq_some_iff.mp stored
  rw [change_eq f loaded here, load_of_object (List.getElem?_set_self inside) (List.getElem?_set_self within)]
  exact congrArg some (split.symm_apply_apply _)

/-- No object but the one that is changed has another part of its own afterwards, or another cell. -/
theorem objects_change_of_ne {index other : ℕ} (f : σ → σ) (different : other ≠ index) :
    (shared.change split index f).objects[other]? = shared.objects[other]? := by
  unfold change
  split
  · exact List.getElem?_set_ne different.symm
  · rfl

/-- **Objects with the same cell have the new content.** -/
theorem load_change_of_shared {index other cell : ℕ} {value : σ} {own : α} (f : σ → σ)
    (loaded : shared.load split index = some value) (here : shared.objects[index]? = some ((split value).1, cell))
    (there : shared.objects[other]? = some (own, cell)) (different : other ≠ index) :
    (shared.change split index f).load split other = some (split.symm (own, (split (f value)).2)) := by
  obtain ⟨place, same, stored⟩ := load_eq_some loaded
  obtain rfl : place = cell := congrArg Prod.snd (Option.some.inj (same.symm.trans here))
  obtain ⟨within, -⟩ := List.getElem?_eq_some_iff.mp stored
  refine load_of_object ((objects_change_of_ne f different).trans there) ?_
  rw [change_eq f loaded here]
  exact List.getElem?_set_self within

/-- The cells stay where they are, and the objects keep theirs. -/
theorem places_change (index : ℕ) (f : σ → σ) :
    (shared.change split index f).objects.map Prod.snd = shared.objects.map Prod.snd ∧
      (shared.change split index f).cells.length = shared.cells.length := by
  unfold change
  split
  · next object _ here _ =>
      obtain ⟨inside, rfl⟩ := List.getElem?_eq_some_iff.mp here
      refine ⟨List.ext_getElem? fun place => ?_, List.length_set⟩
      rw [List.getElem?_map, List.getElem?_map]
      by_cases same : index = place
      · rw [← same, List.getElem?_set_self inside, List.getElem?_eq_getElem inside]
        rfl
      · rw [List.getElem?_set_ne same]
  · exact ⟨rfl, rfl⟩

/-! ### Copies -/

theorem changeAll_concat (changes : List (ℕ × (σ → σ))) (change : ℕ × (σ → σ)) :
    shared.changeAll split (changes ++ [change]) =
      (shared.changeAll split changes).change split change.1 change.2 :=
  List.foldl_append

/-- Objects that are not changed keep their own part. -/
theorem objects_changeAll_of_ne {other : ℕ} {changes : List (ℕ × (σ → σ))}
    (different : ∀ change ∈ changes, other ≠ change.1) :
    (shared.changeAll split changes).objects[other]? = shared.objects[other]? := by
  induction changes using List.reverseRecOn with
  | nil => rfl
  | append_singleton changes change ih =>
      rw [changeAll_concat, objects_change_of_ne _ (different change (by simp))]
      exact ih fun earlier member => different earlier (List.mem_append_left _ member)

theorem places_changeAll (changes : List (ℕ × (σ → σ))) :
    (shared.changeAll split changes).objects.map Prod.snd = shared.objects.map Prod.snd ∧
      (shared.changeAll split changes).cells.length = shared.cells.length := by
  induction changes using List.reverseRecOn with
  | nil => exact ⟨rfl, rfl⟩
  | append_singleton changes change ih =>
      rw [changeAll_concat]
      obtain ⟨places, cells⟩ := @places_change _ _ _ split (shared.changeAll split changes) change.1 change.2
      exact ⟨places.trans ih.1, cells.trans ih.2⟩

/-- The value of an object alone, when it is changed as the object of an index is. -/
def alone (value : σ) (changes : List (ℕ × (σ → σ))) (index : ℕ) : σ :=
  (changes.filter fun change => change.1 = index).foldl (fun value change => change.2 value) value

theorem alone_concat (value : σ) (changes : List (ℕ × (σ → σ))) (change : ℕ × (σ → σ)) (index : ℕ) :
    alone value (changes ++ [change]) index =
      if change.1 = index then change.2 (alone value changes index) else alone value changes index := by
  rw [alone, List.filter_append, List.foldl_append]
  by_cases same : change.1 = index
  · rw [if_pos same, @List.filter_cons_of_pos _ _ change [] (decide_eq_true same)]
    rfl
  · rw [if_neg same, @List.filter_cons_of_neg _ _ change [] (by simpa using same)]
    rfl

section Copies

variable {value : σ} {count : ℕ}

theorem objects_copies {index : ℕ} (inside : index < count) :
    (copies split value count).objects[index]? = some ((split value).1, 0) :=
  List.getElem?_replicate_of_lt inside

theorem load_copies {index : ℕ} (inside : index < count) : (copies split value count).load split index = some value := by
  rw [load_of_object (objects_copies inside) rfl]
  exact congrArg some (split.symm_apply_apply value)

/-- All copies have the cell of the object that was copied. -/
theorem load_changeAll_copies (changes : List (ℕ × (σ → σ))) {index : ℕ} (inside : index < count) :
    ∃ current, ((copies split value count).changeAll split changes).load split index = some current ∧
      ((copies split value count).changeAll split changes).objects[index]? = some ((split current).1, 0) := by
  obtain ⟨places, cells⟩ := @places_changeAll _ _ _ split (copies split value count) changes
  generalize (copies split value count).changeAll split changes = shared at places cells
  have place := congrArg (fun places => places[index]?) places
  simp only [List.getElem?_map, objects_copies inside, Option.map_some] at place
  obtain ⟨object, here, same⟩ := Option.map_eq_some_iff.mp place
  obtain ⟨content, stored⟩ : ∃ content, shared.cells[0]? = some content :=
    ⟨_, List.getElem?_eq_getElem (cells.symm ▸ Nat.one_pos)⟩
  obtain ⟨own, cell⟩ := object
  obtain rfl : cell = 0 := same
  refine ⟨_, load_of_object here stored, ?_⟩
  rw [here, Equiv.apply_symm_apply]

/-- An object that is changed by all the changes is changed as one alone. -/
theorem load_changeAll_of_forall_eq {changes : List (ℕ × (σ → σ))} {index : ℕ} (inside : index < count)
    (same : ∀ change ∈ changes, change.1 = index) :
    ((copies split value count).changeAll split changes).load split index = some (alone value changes index) := by
  induction changes using List.reverseRecOn with
  | nil => exact load_copies inside
  | append_singleton changes change ih =>
      have this := same change (by simp)
      rw [changeAll_concat, alone_concat, if_pos this, this]
      exact load_change_self _ (ih fun earlier member => same earlier (List.mem_append_left _ member))

/-- **A row of copies of which one is changed reads as a row of objects that share nothing**, if what is read of an
object that has not been changed does not depend on the content of the cell. -/
theorem read_changeAll {ρ : Type*} {reading : σ → ρ}
    (unused : ∀ content, reading (split.symm ((split value).1, content)) = reading value)
    {changes : List (ℕ × (σ → σ))} (single : ∀ first ∈ changes, ∀ second ∈ changes, first.1 = second.1) {index : ℕ}
    (inside : index < count) :
    (((copies split value count).changeAll split changes).load split index).map reading =
      some (reading (alone value changes index)) := by
  by_cases changed : ∃ change ∈ changes, change.1 = index
  · obtain ⟨change, member, same⟩ := changed
    have all : ∀ other ∈ changes, other.1 = index := fun other also => (single other also change member).trans same
    rw [load_changeAll_of_forall_eq inside all, Option.map_some]
  · have none : ∀ change ∈ changes, index ≠ change.1 := fun change member same => changed ⟨change, member, same.symm⟩
    obtain ⟨current, loaded, here⟩ := @load_changeAll_copies _ _ _ split value count changes index inside
    rw [objects_changeAll_of_ne none, objects_copies inside] at here
    have own : (split current).1 = (split value).1 := (congrArg Prod.fst (Option.some.inj here)).symm
    have still : alone value changes index = value := by
      rw [alone, List.filter_eq_nil_iff.mpr fun change member => by simpa using (none change member).symm]
      rfl
    rw [loaded, Option.map_some, still, ← unused (split current).2, ← own]
    exact congrArg some (congrArg reading (split.symm_apply_apply current).symm)

end Copies

end SharedCells

end Library
