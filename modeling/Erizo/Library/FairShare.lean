/-
**Sharing a budget among capped items.**

`shares` walks a list and gives every item its cap or the average of what is left, whichever is less.
On a list in increasing order of the caps this is the max-min fair share, up to rounding:

* `sum_shares`: the budget is used up to the sum of the caps;
* `shares_le_cap`: no item gets more than its cap;
* `shares_fair`: nobody gets two more than an item that is below its cap.

`averages` are the averages along the walk. They never fall below the first (`le_averages`), and what
is shared depends on the caps alone (`map_snd_shares`).
-/

import Mathlib.Algebra.BigOperators.Group.List.Basic
import Mathlib.Tactic

namespace Library

namespace FairShare

variable {α : Type*} (cap : α → ℕ)

/-- The items with what they get. -/
def shares : List α → ℕ → List (α × ℕ)
  | [], _ => []
  | item :: rest, budget =>
      (item, min (cap item) (budget / (rest.length + 1))) ::
        shares rest (budget - min (cap item) (budget / (rest.length + 1)))

/-- The items with the average of what is left before each. -/
def averages : List α → ℕ → List (α × ℕ)
  | [], _ => []
  | item :: rest, budget =>
      (item, budget / (rest.length + 1)) :: averages rest (budget - min (cap item) (budget / (rest.length + 1)))

variable {cap} {items : List α} {budget : ℕ}

/-- A share is the cap or the average, whichever is less. -/
theorem map_averages (items : List α) (budget : ℕ) :
    (averages cap items budget).map (fun given => (given.1, min (cap given.1) given.2)) = shares cap items budget := by
  induction items generalizing budget with
  | nil => rfl
  | cons item rest ih => rw [averages, List.map_cons, ih, shares]

/-- What is shared depends on the caps alone. -/
theorem map_snd_shares (items : List α) (budget : ℕ) :
    (shares cap items budget).map Prod.snd = (shares id (items.map cap) budget).map Prod.snd := by
  induction items generalizing budget with
  | nil => rfl
  | cons item rest ih =>
      rw [shares, List.map_cons, ih, List.map_cons, shares, List.map_cons, List.length_map]
      rfl

theorem map_fst_shares (items : List α) (budget : ℕ) : (shares cap items budget).map Prod.fst = items := by
  induction items generalizing budget with
  | nil => rfl
  | cons item rest ih => rw [shares, List.map_cons, ih]

theorem shares_le_cap : ∀ given ∈ shares cap items budget, given.2 ≤ cap given.1 := by
  induction items generalizing budget with
  | nil => exact fun _ member => absurd member List.not_mem_nil
  | cons item rest ih =>
      refine List.forall_mem_cons.mpr ⟨?_, ih⟩
      exact min_le_left _ _

/-- A share of at most the average leaves as much to each of the others. -/
theorem mul_le_left {share count : ℕ} (small : share ≤ budget / (count + 1)) : share * count ≤ budget - share := by
  have all := le_trans (Nat.mul_le_mul_right (count + 1) small) (Nat.div_mul_le_self budget (count + 1))
  rw [Nat.mul_succ] at all
  omega

/-- After the average, less than one more than it is left for each of the others. -/
theorem left_le_mul (budget count : ℕ) :
    budget - budget / (count + 1) ≤ (budget / (count + 1) + 1) * count := by
  have parts := Nat.div_add_mod budget (count + 1)
  have small : budget % (count + 1) < count + 1 := Nat.mod_lt budget (Nat.succ_pos count)
  rw [Nat.succ_mul, Nat.mul_comm count] at parts
  rw [Nat.succ_mul]
  omega

/-- **The averages do not fall**: what everybody could get at first stays below them. -/
theorem le_averages {least : ℕ} (enough : least * items.length ≤ budget) :
    ∀ given ∈ averages cap items budget, least ≤ given.2 := by
  induction items generalizing budget with
  | nil => exact fun _ member => absurd member List.not_mem_nil
  | cons item rest ih =>
      rw [List.length_cons] at enough
      have first : least ≤ budget / (rest.length + 1) := (Nat.le_div_iff_mul_le (Nat.succ_pos _)).mpr enough
      refine List.forall_mem_cons.mpr ⟨first, ih ?_⟩
      calc least * rest.length
          ≤ budget / (rest.length + 1) * rest.length := Nat.mul_le_mul_right rest.length first
        _ ≤ budget - budget / (rest.length + 1) := mul_le_left le_rfl
        _ ≤ budget - min (cap item) (budget / (rest.length + 1)) := Nat.sub_le_sub_left (min_le_right _ _) budget

/-- What everybody could get, everybody gets. -/
theorem le_shares {least : ℕ} (caps : ∀ item ∈ items, least ≤ cap item) (enough : least * items.length ≤ budget) :
    ∀ given ∈ shares cap items budget, least ≤ given.2 := by
  intro given member
  have item : given.1 ∈ items := by
    rw [← @map_fst_shares _ cap items budget]
    exact List.mem_map_of_mem member
  rw [← map_averages] at member
  obtain ⟨average, here, rfl⟩ := List.mem_map.mp member
  exact le_min (caps average.1 item) (le_averages enough average here)

/-- When the average is less than the caps, rounded up, nobody gets more than that. -/
theorem shares_le {most : ℕ} (caps : ∀ item ∈ items, most ≤ cap item) (scarce : budget ≤ most * items.length) :
    ∀ given ∈ shares cap items budget, given.2 ≤ most := by
  induction items generalizing budget with
  | nil => exact fun _ member => absurd member List.not_mem_nil
  | cons item rest ih =>
      rw [List.length_cons] at scarce
      have average : budget / (rest.length + 1) ≤ most := Nat.div_le_of_le_mul (by rwa [Nat.mul_comm] at scarce)
      have first : min (cap item) (budget / (rest.length + 1)) = budget / (rest.length + 1) :=
        min_eq_right (le_trans average (caps item List.mem_cons_self))
      refine List.forall_mem_cons.mpr ⟨first.trans_le average,
        ih (fun other member => caps other (List.mem_cons_of_mem _ member)) ?_⟩
      rw [first]
      rcases Nat.lt_or_eq_of_le average with less | equal
      · exact le_trans (left_le_mul budget rest.length) (Nat.mul_le_mul_right rest.length less)
      · rw [equal]
        rw [Nat.mul_succ] at scarce
        omega

/-- **The budget is used**, up to the sum of the caps. -/
theorem sum_shares (sorted : items.Pairwise fun first second => cap first ≤ cap second) :
    ((shares cap items budget).map Prod.snd).sum = min budget (items.map cap).sum := by
  induction items generalizing budget with
  | nil => simp [shares]
  | cons item rest ih =>
      obtain ⟨above, tail⟩ := List.pairwise_cons.mp sorted
      have used := Nat.div_le_self budget (rest.length + 1)
      rw [shares, List.map_cons, List.sum_cons, ih tail, List.map_cons, List.sum_cons]
      by_cases capped : cap item ≤ budget / (rest.length + 1)
      · rw [min_eq_left capped]
        omega
      · -- the others can take all that is left
        have less : budget / (rest.length + 1) + 1 ≤ cap item := Nat.lt_of_not_le capped
        have rich : cap item * rest.length ≤ (rest.map cap).sum := by
          have each := List.card_nsmul_le_sum (rest.map cap) (cap item) fun value member => by
            obtain ⟨other, here, rfl⟩ := List.mem_map.mp member
            exact above other here
          rwa [List.length_map, smul_eq_mul, Nat.mul_comm] at each
        have left : budget - budget / (rest.length + 1) ≤ (rest.map cap).sum :=
          le_trans (left_le_mul budget rest.length) (le_trans (Nat.mul_le_mul_right rest.length less) rich)
        rw [min_eq_right (Nat.le_of_not_le capped), min_eq_left left]
        omega

/-- **Nobody gets two more than an item that is below its cap.** -/
theorem shares_fair (sorted : items.Pairwise fun first second => cap first ≤ cap second) :
    ∀ given ∈ shares cap items budget, ∀ other ∈ shares cap items budget,
      given.2 < cap given.1 → other.2 ≤ given.2 + 1 := by
  induction items generalizing budget with
  | nil => exact fun _ member => absurd member List.not_mem_nil
  | cons item rest ih =>
      obtain ⟨above, tail⟩ := List.pairwise_cons.mp sorted
      rw [shares]
      intro given here other there below
      rcases List.mem_cons.mp here with rfl | here
      · rcases List.mem_cons.mp there with rfl | there
        · exact Nat.le_succ _
        · -- the first item got the average, so the others get at most one more
          have average : min (cap item) (budget / (rest.length + 1)) = budget / (rest.length + 1) := by
            change min (cap item) (budget / (rest.length + 1)) < cap item at below
            omega
          rw [average] at below there ⊢
          exact shares_le (fun later member => le_trans below (above later member))
            (left_le_mul budget rest.length) other there
      · rcases List.mem_cons.mp there with rfl | there
        · refine le_trans ?_ (Nat.le_succ _)
          exact le_shares (fun later member => le_trans (min_le_left _ _) (above later member))
            (mul_le_left (min_le_right _ _)) given here
        · exact ih tail given here other there below

end FairShare

end Library
