/-
**Ring buffers.**

A `RingBuffer α size` is a block of `size` cells that is addressed by arbitrary naturals, each
read modulo the size. Two addresses share a cell exactly when they are congruent modulo `size`
(`get_set`), so what a buffer remembers about a range of addresses depends on how that range
folds onto the cells.

`writeRun` performs a run of writes at the addresses `key 0`, …, `key (count - 1)`. The two facts
that matter about such a run are that the last write to a cell wins (`get_writeRun_last`) and that
a run forgets whatever its own cells held before (`writeRun_absorb`).
-/

import Mathlib.Algebra.GroupWithZero.Nat
import Mathlib.Data.Fin.Basic
import Mathlib.Data.Nat.Find
import Mathlib.Tactic.Common

namespace Library

universe u

/-- A block of `size` cells addressed modulo `size`. -/
@[ext]
structure RingBuffer (α : Type u) (size : ℕ) where
  cells : Fin size → α

namespace RingBuffer

variable {α : Type u} {size : ℕ} [NeZero size]

/-- The buffer whose cells all hold one value. -/
def fill (size : ℕ) (value : α) : RingBuffer α size := ⟨fun _ => value⟩

/-- The cell at an address. -/
def get (buffer : RingBuffer α size) (address : ℕ) : α := buffer.cells (Fin.ofNat size address)

/-- Overwrite the cell at an address. -/
def set (buffer : RingBuffer α size) (address : ℕ) (value : α) : RingBuffer α size :=
  ⟨fun cell => if cell = Fin.ofNat size address then value else buffer.cells cell⟩

@[simp] theorem get_fill (value : α) (address : ℕ) : (fill size value).get address = value := rfl

theorem ofNat_eq_iff (first second : ℕ) :
    Fin.ofNat size first = Fin.ofNat size second ↔ first % size = second % size := by
  rw [Fin.ext_iff]
  rfl

/-- **A write is seen at the addresses congruent to its own, and nowhere else.** -/
theorem get_set (buffer : RingBuffer α size) (written read : ℕ) (value : α) :
    (buffer.set written value).get read =
      if read % size = written % size then value else buffer.get read := by
  simp only [get, set, ofNat_eq_iff]

@[simp] theorem get_set_self (buffer : RingBuffer α size) (address : ℕ) (value : α) :
    (buffer.set address value).get address = value := by
  rw [get_set, if_pos rfl]

theorem get_set_of_ne (buffer : RingBuffer α size) {written read : ℕ} (value : α)
    (apart : read % size ≠ written % size) :
    (buffer.set written value).get read = buffer.get read := by
  rw [get_set, if_neg apart]

/-- What every cell has is kept by a write of a value that has it. -/
theorem forall_get_set {holds : α → Prop} {buffer : RingBuffer α size} (each : ∀ address, holds (buffer.get address))
    (written : ℕ) {value : α} (here : holds value) : ∀ address, holds ((buffer.set written value).get address) := by
  intro address
  rw [get_set]
  split
  · exact here
  · exact each address

/-- Buffers that read alike everywhere are equal. -/
theorem ext_get {first second : RingBuffer α size} (same : ∀ address, first.get address = second.get address) :
    first = second := by
  apply RingBuffer.ext
  funext cell
  have here := same cell.val
  have self : Fin.ofNat size cell.val = cell := Fin.ext (Nat.mod_eq_of_lt cell.isLt)
  simpa only [get, self] using here

/-- Writing what a cell holds changes nothing. -/
theorem set_eq_self {buffer : RingBuffer α size} {address : ℕ} {value : α} (same : buffer.get address = value) :
    buffer.set address value = buffer := by
  refine ext_get fun read => ?_
  rw [get_set]
  by_cases hit : read % size = address % size
  · rw [if_pos hit, ← same]
    exact congrArg buffer.cells ((ofNat_eq_iff address read).mpr hit.symm)
  · rw [if_neg hit]

/-! ### Runs of writes -/

/-- Write `value 0`, …, `value (count - 1)` at the addresses `key 0`, …, `key (count - 1)`. -/
def writeRun (key : ℕ → ℕ) (value : ℕ → α) (buffer : RingBuffer α size) : ℕ → RingBuffer α size
  | 0 => buffer
  | count + 1 => (writeRun key value buffer count).set (key count) (value count)

theorem writeRun_succ (key : ℕ → ℕ) (value : ℕ → α) (buffer : RingBuffer α size) (count : ℕ) :
    writeRun key value buffer (count + 1) =
      (writeRun key value buffer count).set (key count) (value count) := rfl

/-- A run depends on its keys and values up to its length only. -/
theorem writeRun_congr {key key' : ℕ → ℕ} {value value' : ℕ → α} (buffer : RingBuffer α size) :
    ∀ {count : ℕ}, (∀ index < count, key index = key' index ∧ value index = value' index) →
      writeRun key value buffer count = writeRun key' value' buffer count
  | 0, _ => rfl
  | count + 1, same => by
      obtain ⟨sameKey, sameValue⟩ := same count (Nat.lt_succ_self count)
      rw [writeRun_succ, writeRun_succ, sameKey, sameValue,
        writeRun_congr buffer fun index below => same index (Nat.lt_succ_of_lt below)]

/-- What every cell and every new value has, every cell has after a run. -/
theorem forall_get_writeRun {holds : α → Prop} {buffer : RingBuffer α size}
    (each : ∀ address, holds (buffer.get address)) (key : ℕ → ℕ) {value : ℕ → α} (here : ∀ index, holds (value index)) :
    ∀ count address, holds ((writeRun key value buffer count).get address)
  | 0 => each
  | count + 1 => forall_get_set (forall_get_writeRun each key here count) _ (here count)

/-- A run can be started by its first write. -/
theorem writeRun_shift (key : ℕ → ℕ) (value : ℕ → α) (buffer : RingBuffer α size) (count : ℕ) :
    writeRun (fun index => key (index + 1)) (fun index => value (index + 1))
        (buffer.set (key 0) (value 0)) count =
      writeRun key value buffer (count + 1) := by
  induction count with
  | zero => rfl
  | succ count ih => rw [writeRun_succ, ih, writeRun_succ key value buffer (count + 1)]

/-- A run leaves the cells it does not address alone. -/
theorem get_writeRun_of_ne {key : ℕ → ℕ} (value : ℕ → α) (buffer : RingBuffer α size) {read : ℕ} :
    ∀ {count : ℕ}, (∀ index < count, read % size ≠ key index % size) →
      (writeRun key value buffer count).get read = buffer.get read
  | 0, _ => rfl
  | count + 1, apart => by
      rw [writeRun_succ, get_set_of_ne _ _ (apart count (Nat.lt_succ_self count))]
      exact get_writeRun_of_ne value buffer fun index below => apart index (Nat.lt_succ_of_lt below)

/-- **The last write to a cell wins.** -/
theorem get_writeRun_last {key : ℕ → ℕ} (value : ℕ → α) (buffer : RingBuffer α size) {read index : ℕ}
    (hit : read % size = key index % size) :
    ∀ {count : ℕ}, index < count →
      (∀ later, index < later → later < count → read % size ≠ key later % size) →
      (writeRun key value buffer count).get read = value index
  | 0, below, _ => absurd below (Nat.not_lt_zero index)
  | count + 1, below, apart => by
      rw [writeRun_succ]
      by_cases here : index = count
      · subst here
        rw [get_set, if_pos hit]
      · have before : index < count := by omega
        rw [get_set_of_ne _ _ (apart count before (Nat.lt_succ_self count))]
        exact get_writeRun_last value buffer hit before
          fun later after inside => apart later after (Nat.lt_succ_of_lt inside)

/-- A cell after a run depends on the buffer before only where the run does not write. -/
theorem get_writeRun_congr {key : ℕ → ℕ} (value : ℕ → α) {first second : RingBuffer α size} {read : ℕ} :
    ∀ {count : ℕ}, (first.get read = second.get read ∨ ∃ index < count, read % size = key index % size) →
      (writeRun key value first count).get read = (writeRun key value second count).get read
  | 0, same => by
      rcases same with same | ⟨index, below, _⟩
      · exact same
      · exact absurd below (Nat.not_lt_zero index)
  | count + 1, same => by
      rw [writeRun_succ, writeRun_succ, get_set, get_set]
      split
      · rfl
      · rename_i apart
        refine get_writeRun_congr value (same.imp id ?_)
        rintro ⟨index, below, hit⟩
        refine ⟨index, ?_, hit⟩
        rcases Nat.lt_succ_iff_lt_or_eq.mp below with before | last
        · exact before
        · subst last
          exact absurd hit apart

/-- **A run absorbs an earlier one that stayed on its cells.** -/
theorem writeRun_absorb {key key' : ℕ → ℕ} (value value' : ℕ → α) (buffer : RingBuffer α size)
    {count count' : ℕ} (covered : ∀ index < count', ∃ other < count, key' index % size = key other % size) :
    writeRun key value (writeRun key' value' buffer count') count = writeRun key value buffer count := by
  refine ext_get fun read => get_writeRun_congr value ?_
  by_cases touched : ∃ index < count', read % size = key' index % size
  · obtain ⟨index, below, hit⟩ := touched
    obtain ⟨other, inside, same⟩ := covered index below
    exact Or.inr ⟨other, inside, hit.trans same⟩
  · refine Or.inl (get_writeRun_of_ne value' buffer fun index below hit => ?_)
    exact touched ⟨index, below, hit⟩

/-! ### The most recent writes

A buffer that is written at a stream of addresses keeps what was written last at each cell. Counted
back from the most recent one, the addresses are `key 0`, `key 1`, …. -/

/-- No more recent address shares the cell of `key back`. -/
def Fresh (size : ℕ) (key : ℕ → ℕ) (back : ℕ) : Prop :=
  ∀ later < back, key later % size ≠ key back % size

/-- Among the last `reach + 1` addresses, the cell of each fresh one holds what it should. -/
def Recent (buffer : RingBuffer α size) (key : ℕ → ℕ) (holds : ℕ → α → Prop) (reach : ℕ) : Prop :=
  ∀ back ≤ reach, Fresh size key back → holds back (buffer.get (key back))

theorem get_congr (buffer : RingBuffer α size) {first second : ℕ} (same : first % size = second % size) :
    buffer.get first = buffer.get second :=
  congrArg buffer.cells ((ofNat_eq_iff first second).mpr same)

/-- Every address shares its cell with a fresh one that is at least as recent. -/
theorem exists_fresh (size : ℕ) (key : ℕ → ℕ) (back : ℕ) :
    ∃ first ≤ back, key first % size = key back % size ∧ Fresh size key first := by
  have shared : ∃ first, key first % size = key back % size := ⟨back, rfl⟩
  classical
  refine ⟨Nat.find shared, Nat.find_min' shared rfl, Nat.find_spec shared, fun later before same => ?_⟩
  exact Nat.find_min shared before (same.trans (Nat.find_spec shared))

/-- **A run of writes moves the stream on.** -/
theorem Recent.writeRun {buffer : RingBuffer α size} {key key' newKey : ℕ → ℕ} {newValue : ℕ → α}
    {holds holds' : ℕ → α → Prop} {reach reach' count : ℕ} (recent : buffer.Recent key holds reach)
    (short : reach' ≤ reach + count)
    (new : ∀ back < count, key' back % size = newKey (count - 1 - back) % size ∧
      holds' back (newValue (count - 1 - back)))
    (old : ∀ back ≤ reach, key' (back + count) % size = key back % size ∧
      ∀ value, holds back value → holds' (back + count) value) :
    (buffer.writeRun newKey newValue count).Recent key' holds' reach' := by
  intro back within fresh
  have keyOf : ∀ index < count, newKey index % size = key' (count - 1 - index) % size := by
    intro index below
    have here := (new (count - 1 - index) (by omega)).1
    rw [show count - 1 - (count - 1 - index) = index by omega] at here
    exact here.symm
  by_cases written : back < count
  · obtain ⟨hit, holdsNew⟩ := new back written
    rw [get_writeRun_last newValue buffer hit (by omega)]
    · exact holdsNew
    · intro later after below same
      rw [keyOf later below] at same
      exact fresh _ (by omega) same.symm
  · obtain ⟨before, rfl⟩ : ∃ before, back = before + count := ⟨back - count, by omega⟩
    obtain ⟨sameKey, keeps⟩ := old before (by omega)
    rw [get_writeRun_of_ne newValue buffer, get_congr buffer sameKey]
    · refine keeps _ (recent before (by omega) fun later earlier same => ?_)
      refine fresh (later + count) (by omega) ?_
      rw [(old later (by omega)).1, sameKey, same]
    · intro index below same
      rw [keyOf index below] at same
      exact fresh _ (by omega) same.symm

/-- Overwriting one cell keeps what the others hold. -/
theorem Recent.set {buffer : RingBuffer α size} {key : ℕ → ℕ} {holds : ℕ → α → Prop} {reach : ℕ}
    (recent : buffer.Recent key holds reach) {address : ℕ} {value : α}
    (hit : ∀ back ≤ reach, key back % size = address % size → holds back (buffer.get address) →
      holds back value) :
    (buffer.set address value).Recent key holds reach := by
  intro back within fresh
  have before := recent back within fresh
  rw [get_set]
  by_cases same : key back % size = address % size
  · rw [if_pos same]
    rw [get_congr buffer same] at before
    exact hit back within same before
  · rwa [if_neg same]

end RingBuffer

end Library
