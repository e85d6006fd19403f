/-
**Cutting a text at delimiters.**

`cut` reads a text from the front. At a delimiter, as long as the limit of cuts is not reached, it
completes a piece; everything else is added to what remains. `split` gives the completed pieces and what
remains, when that is not empty.

* `cut_append` and `fold_free`, `fold_delimiter`: how a text that is written as pieces and delimiters is cut.
* `cut_snoc`: what one more character at the end changes.
* `split_segments`, `split_flatMap`: pieces with delimiters between them are cut into the pieces, and terminated lines
  into the lines. `split_segments_within` is the former with a limit, past which nothing is cut.
-/

import Mathlib.Tactic

namespace Library

/-- The completed pieces and what remains. -/
structure Cut (α : Type*) where
  pieces : List (List α)
  rest : List α
  deriving DecidableEq

namespace Cut

variable {α : Type*} (isDelimiter : α → Bool) (limit : Option ℕ)

/-- One more character. -/
def step (state : Cut α) (character : α) : Cut α :=
  if isDelimiter character ∧ ∀ bound ∈ limit, state.pieces.length < bound then ⟨state.pieces ++ [state.rest], []⟩
  else ⟨state.pieces, state.rest ++ [character]⟩

/-- A text, cut. -/
def cut (text : List α) : Cut α := text.foldl (step isDelimiter limit) ⟨[], []⟩

/-- The pieces, and what remains when it is not empty. -/
def toList (state : Cut α) : List (List α) :=
  match state.rest with
  | [] => state.pieces
  | character :: rest => state.pieces ++ [character :: rest]

/-- The pieces of a text. -/
def split (text : List α) : List (List α) := (cut isDelimiter limit text).toList

@[simp] theorem toList_nil (pieces : List (List α)) : (⟨pieces, []⟩ : Cut α).toList = pieces := rfl

theorem toList_of_ne_nil {state : Cut α} (remains : state.rest ≠ []) : state.toList = state.pieces ++ [state.rest] := by
  obtain ⟨pieces, rest⟩ := state
  cases rest with
  | nil => exact absurd rfl remains
  | cons character rest => rfl

/-- What is completed is a piece, whatever remains. -/
theorem getElem?_toList {state : Cut α} {index : ℕ} (completed : index < state.pieces.length) :
    state.toList[index]? = state.pieces[index]? := by
  obtain ⟨pieces, rest⟩ := state
  cases rest with
  | nil => rfl
  | cons character rest => exact List.getElem?_append_left completed

variable {isDelimiter limit}

theorem cut_append (first second : List α) :
    cut isDelimiter limit (first ++ second) = second.foldl (step isDelimiter limit) (cut isDelimiter limit first) :=
  List.foldl_append

/-- A text without delimiters is added to what remains. -/
theorem fold_free {text : List α} (free : ∀ character ∈ text, isDelimiter character = false) (state : Cut α) :
    text.foldl (step isDelimiter limit) state = ⟨state.pieces, state.rest ++ text⟩ := by
  induction text generalizing state with
  | nil => rw [List.append_nil, List.foldl_nil]
  | cons character text ih =>
      have other : ¬ (isDelimiter character = true ∧ ∀ bound ∈ limit, state.pieces.length < bound) := by
        rw [free character List.mem_cons_self]
        exact fun both => Bool.false_ne_true both.1
      rw [List.foldl_cons, step, if_neg other, ih fun later member => free later (List.mem_cons_of_mem _ member),
        List.append_assoc, List.singleton_append]

/-- At a delimiter a piece is completed. -/
theorem fold_delimiter {delimiter : α} (delimits : isDelimiter delimiter = true) {state : Cut α}
    (more : ∀ bound ∈ limit, state.pieces.length < bound) (text : List α) :
    (delimiter :: text).foldl (step isDelimiter limit) state =
      text.foldl (step isDelimiter limit) ⟨state.pieces ++ [state.rest], []⟩ := by
  rw [List.foldl_cons, step, if_pos ⟨delimits, more⟩]

/-- One more character at the end. -/
theorem cut_snoc (text : List α) (character : α) :
    cut isDelimiter limit (text ++ [character]) = step isDelimiter limit (cut isDelimiter limit text) character := by
  rw [cut_append, List.foldl_cons, List.foldl_nil]

/-- No more pieces are completed than the limit allows. -/
theorem length_pieces_le {bound : ℕ} (limited : limit = some bound) (text : List α) :
    (cut isDelimiter limit text).pieces.length ≤ bound := by
  induction text using List.reverseRecOn with
  | nil => exact Nat.zero_le bound
  | append_singleton text character ih =>
      rw [cut_snoc, step]
      split_ifs with more
      · rw [List.length_append, List.length_singleton]
        exact more.2 bound limited
      · exact ih

/-- What comes past the limit is not empty. -/
theorem ne_nil_of_getElem?_split {bound : ℕ} {text piece : List α}
    (found : (split isDelimiter (some bound) text)[bound]? = some piece) : piece ≠ [] := by
  rintro rfl
  have few := @length_pieces_le α isDelimiter (some bound) bound rfl text
  by_cases remains : (cut isDelimiter (some bound) text).rest = []
  · rw [split, toList, remains, List.getElem?_eq_none few] at found
    exact (nomatch found)
  · rw [split, toList_of_ne_nil remains, List.getElem?_append_right few] at found
    exact remains (List.mem_singleton.mp (List.mem_of_getElem? found)).symm

/-- A text that is not empty has a piece. -/
theorem split_ne_nil {text : List α} (some : text ≠ []) : split isDelimiter limit text ≠ [] := by
  induction text using List.reverseRecOn with
  | nil => exact absurd rfl some
  | append_singleton text character ih =>
      rw [split, cut_snoc, step]
      split_ifs
      · rw [toList_nil]
        exact List.append_ne_nil_of_right_ne_nil _ (List.cons_ne_nil _ _)
      · rw [toList_of_ne_nil (List.append_ne_nil_of_right_ne_nil _ (List.cons_ne_nil _ _))]
        exact List.append_ne_nil_of_right_ne_nil _ (List.cons_ne_nil _ _)

/-- A piece was completed, or it remains. -/
theorem mem_of_mem_toList {state : Cut α} {piece : List α} (member : piece ∈ state.toList) :
    piece ∈ state.pieces ++ [state.rest] := by
  by_cases remains : state.rest = []
  · rw [toList, remains] at member
    exact List.mem_append_left _ member
  · rwa [toList_of_ne_nil remains] at member

/-- Every piece is of characters of the text. -/
theorem subset_of_mem_split {text piece : List α} (member : piece ∈ split isDelimiter limit text) : piece ⊆ text := by
  have all : ∀ piece ∈ (cut isDelimiter limit text).pieces ++ [(cut isDelimiter limit text).rest], piece ⊆ text := by
    clear member
    induction text using List.reverseRecOn with
    | nil =>
        intro piece member
        rw [List.mem_singleton.mp member]
        exact List.Subset.refl _
    | append_singleton text character ih =>
        have before : ∀ piece ∈ (cut isDelimiter limit text).pieces ++ [(cut isDelimiter limit text).rest],
            piece ⊆ text ++ [character] := fun piece member => List.Subset.trans (ih piece member)
              (List.subset_append_left _ _)
        rw [cut_snoc, step]
        split_ifs
        · exact List.forall_mem_append.mpr ⟨before, List.forall_mem_singleton.mpr (List.nil_subset _)⟩
        · obtain ⟨pieces, rest⟩ := List.forall_mem_append.mp ih
          refine List.forall_mem_append.mpr ⟨fun piece member => ?_, List.forall_mem_singleton.mpr ?_⟩
          · exact List.Subset.trans (pieces piece member) (List.subset_append_left _ _)
          · exact List.append_subset.mpr ⟨List.Subset.trans (rest _ List.mem_cons_self) (List.subset_append_left _ _),
              List.subset_append_right _ _⟩
  exact all piece (mem_of_mem_toList member)

/-- **Without a limit no delimiter is left in a piece.** -/
theorem free_of_mem_split {text piece : List α} (member : piece ∈ split isDelimiter none text) :
    ∀ character ∈ piece, isDelimiter character = false := by
  have all : ∀ piece ∈ (cut isDelimiter none text).pieces ++ [(cut isDelimiter none text).rest],
      ∀ character ∈ piece, isDelimiter character = false := by
    clear member
    induction text using List.reverseRecOn with
    | nil => exact List.forall_mem_singleton.mpr fun _ member => absurd member List.not_mem_nil
    | append_singleton text character ih =>
        rw [cut_snoc, step]
        split_ifs with delimits
        · exact List.forall_mem_append.mpr
            ⟨ih, List.forall_mem_singleton.mpr fun _ member => absurd member List.not_mem_nil⟩
        · obtain ⟨pieces, rest⟩ := List.forall_mem_append.mp ih
          have other : isDelimiter character = false :=
            Bool.eq_false_iff.mpr fun is => delimits ⟨is, fun _ bounded => absurd bounded (Option.not_mem_none _)⟩
          refine List.forall_mem_append.mpr ⟨pieces, List.forall_mem_singleton.mpr ?_⟩
          exact List.forall_mem_append.mpr ⟨rest _ List.mem_cons_self, List.forall_mem_singleton.mpr other⟩
  exact all piece (mem_of_mem_toList member)

/-- Pieces, each with its own delimiter, are completed. -/
theorem fold_flatMap {segments : List (List α × α)} (delimits : ∀ segment ∈ segments, isDelimiter segment.2 = true)
    (free : ∀ segment ∈ segments, ∀ character ∈ segment.1, isDelimiter character = false) (pieces : List (List α)) :
    (segments.flatMap fun segment => segment.1 ++ [segment.2]).foldl (step isDelimiter none) ⟨pieces, []⟩ =
      ⟨pieces ++ segments.map Prod.fst, []⟩ := by
  induction segments generalizing pieces with
  | nil => rw [List.flatMap_nil, List.foldl_nil, List.map_nil, List.append_nil]
  | cons segment segments ih =>
      obtain ⟨here, others⟩ := List.forall_mem_cons.mp delimits
      obtain ⟨first, rest⟩ := List.forall_mem_cons.mp free
      rw [List.flatMap_cons, List.append_assoc, List.foldl_append, fold_free first, List.singleton_append,
        fold_delimiter here fun _ bounded => absurd bounded (Option.not_mem_none _), ih others rest, List.append_assoc]
      rfl

/-- **Pieces with delimiters between them are cut into the pieces.** -/
theorem split_segments {segments : List (List α × α)} {last : List α}
    (delimits : ∀ segment ∈ segments, isDelimiter segment.2 = true)
    (free : ∀ segment ∈ segments, ∀ character ∈ segment.1, isDelimiter character = false) (remains : last ≠ [])
    (lastFree : ∀ character ∈ last, isDelimiter character = false) :
    split isDelimiter none ((segments.flatMap fun segment => segment.1 ++ [segment.2]) ++ last) =
      segments.map Prod.fst ++ [last] := by
  rw [split, cut_append, cut, fold_flatMap delimits free, fold_free lastFree, toList_of_ne_nil remains]
  rfl

/-- Terminated lines are cut into the lines. -/
theorem split_flatMap {terminator : α} (terminates : isDelimiter terminator = true) {lines : List (List α)}
    (free : ∀ line ∈ lines, ∀ character ∈ line, isDelimiter character = false) :
    split isDelimiter none (lines.flatMap fun line => line ++ [terminator]) = lines := by
  have fold := @fold_flatMap α isDelimiter (lines.map fun line => (line, terminator))
    (List.forall_mem_map.mpr fun _ _ => terminates) (List.forall_mem_map.mpr free) []
  rw [List.flatMap_map, List.map_map] at fold
  rw [split, cut, fold, toList_nil, List.nil_append]
  exact List.map_id lines

/-! ### Up to a limit -/

/-- Pieces, each with its own delimiter, are completed as far as the limit allows. -/
theorem fold_segments {segments : List (List α × α)} (delimits : ∀ segment ∈ segments, isDelimiter segment.2 = true)
    (free : ∀ segment ∈ segments, ∀ character ∈ segment.1, isDelimiter character = false) {pieces : List (List α)}
    (few : ∀ bound ∈ limit, pieces.length + segments.length ≤ bound) :
    (segments.flatMap fun segment => segment.1 ++ [segment.2]).foldl (step isDelimiter limit) ⟨pieces, []⟩ =
      ⟨pieces ++ segments.map Prod.fst, []⟩ := by
  induction segments generalizing pieces with
  | nil => rw [List.flatMap_nil, List.foldl_nil, List.map_nil, List.append_nil]
  | cons segment segments ih =>
      obtain ⟨here, others⟩ := List.forall_mem_cons.mp delimits
      obtain ⟨first, rest⟩ := List.forall_mem_cons.mp free
      simp only [List.length_cons] at few
      have more : ∀ bound ∈ limit, pieces.length < bound := fun bound bounded => by
        have enough := few bound bounded
        omega
      rw [List.flatMap_cons, List.append_assoc, List.foldl_append, fold_free first, List.singleton_append,
        fold_delimiter here more, ih others rest, List.append_assoc]
      · rfl
      · intro bound bounded
        have enough := few bound bounded
        rw [List.length_append, List.length_singleton]
        dsimp only
        omega

/-- Past the limit nothing is cut. -/
theorem fold_full {bound : ℕ} {state : Cut α} (full : bound ≤ state.pieces.length) (text : List α) :
    text.foldl (step isDelimiter (some bound)) state = ⟨state.pieces, state.rest ++ text⟩ := by
  induction text generalizing state with
  | nil => rw [List.append_nil, List.foldl_nil]
  | cons character text ih =>
      have stays : ¬ (isDelimiter character = true ∧ ∀ limit ∈ some bound, state.pieces.length < limit) :=
        fun both => absurd (both.2 bound rfl) (not_lt.mpr full)
      rw [List.foldl_cons, step, if_neg stays, @ih ⟨state.pieces, state.rest ++ [character]⟩ full, List.append_assoc,
        List.singleton_append]

/-- **Pieces with delimiters between them are cut into the pieces**, and what comes past the limit is one. -/
theorem split_segments_within {segments : List (List α × α)} {last : List α}
    (delimits : ∀ segment ∈ segments, isDelimiter segment.2 = true)
    (free : ∀ segment ∈ segments, ∀ character ∈ segment.1, isDelimiter character = false)
    (few : ∀ bound ∈ limit, segments.length ≤ bound) (remains : last ≠ [])
    (whole : (∀ character ∈ last, isDelimiter character = false) ∨ limit = some segments.length) :
    split isDelimiter limit ((segments.flatMap fun segment => segment.1 ++ [segment.2]) ++ last) =
      segments.map Prod.fst ++ [last] := by
  have cutSegments : cut isDelimiter limit (segments.flatMap fun segment => segment.1 ++ [segment.2]) =
      ⟨segments.map Prod.fst, []⟩ := fold_segments delimits free fun bound bounded => by
    rw [List.length_nil, Nat.zero_add]
    exact few bound bounded
  have cutLast : last.foldl (step isDelimiter limit) ⟨segments.map Prod.fst, []⟩ = ⟨segments.map Prod.fst, last⟩ := by
    rcases whole with lastFree | full
    · rw [fold_free lastFree, List.nil_append]
    · rw [full, fold_full (by rw [List.length_map]), List.nil_append]
  rw [split, cut_append, cutSegments, cutLast, toList_of_ne_nil remains]

end Cut

end Library
