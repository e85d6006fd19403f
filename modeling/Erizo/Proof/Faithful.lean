/-
**Which entry the window reads.**

Counted back from `lastInput`, the numbers of the window are `behind 0`, `behind 1`, …. In every
reachable state the cell of each of them holds the entry of the most recent number that shares it
(`recorded_after`), so a window reads back its own entries exactly when no two of its numbers share
a cell (`faithful_iff_fresh`).

* A standard translator has 1024 cells, which divides `2 ^ 16`: its windows are always faithful.
* The picture id translator has 511 cells, and `2 ^ 15` is 64 more than a multiple of 511: numbers
  on the two sides of the wrap share a cell when they are 64 apart.
-/

import Erizo.Proof.Window

namespace Erizo

open Library Library.Serial RtpUtils

namespace SequenceNumberTranslator

variable {config : Config}

/-! ### The numbers of the window -/

/-- The number `back` steps behind the last input. -/
def behind (translator : SequenceNumberTranslator config) (back : ℕ) : UInt16 :=
  config.boundedSequenceNumber (translator.lastInput - UInt16.ofNat back)

/-- The addresses of the window, the most recent first. -/
def address (translator : SequenceNumberTranslator config) (back : ℕ) : ℕ := (translator.behind back).toNat

theorem bounded_eq_self (serial : config.Serial) {input : UInt16} (reduced : input.toNat < 2 ^ config.bits) :
    config.boundedSequenceNumber input = input := by
  rw [← UInt16.toNat_inj, Config.toNat_bounded serial, Nat.mod_eq_of_lt reduced]

/-- A number is the one as far behind the last input as its distance. -/
theorem behind_ahead (serial : config.Serial) (translator : SequenceNumberTranslator config) {input : UInt16}
    (reduced : input.toNat < 2 ^ config.bits) :
    translator.behind (ahead config.bits input translator.lastInput) = input := by
  have start := sub_eq_sub serial.narrow (le_refl (ahead config.bits input translator.lastInput))
  rw [Nat.sub_self] at start
  have same := Config.bounded_congr serial start
  rw [show input - UInt16.ofNat 0 = input from sub_zero input, bounded_eq_self serial reduced] at same
  exact same

theorem ahead_behind (serial : config.Serial) (translator : SequenceNumberTranslator config) {back : ℕ}
    (short : back < 2 ^ config.bits) :
    ahead config.bits (translator.behind back) translator.lastInput = back := by
  rw [behind, ahead_congr serial.narrow (Config.toNat_bounded_mod serial _) rfl]
  exact ahead_sub serial.narrow translator.lastInput short

/-- The window is shorter than the range of its numbers. -/
theorem span_lt (serial : config.Serial) {translator : SequenceNumberTranslator config}
    (spanned : translator.span ≤ config.maxDistance.toNat) : translator.span < 2 ^ (config.bits - 4) :=
  lt_of_le_of_lt spanned serial.near

/-- The numbers of the window, by their distance to its two ends. -/
theorem window_iff (serial : config.Serial) (translator : SequenceNumberTranslator config) (input : UInt16) :
    ahead config.bits translator.firstInput input ≤ translator.span ↔
      ahead config.bits input translator.lastInput ≤ translator.span := by
  have split := ahead_triangle serial.narrow translator.firstInput input translator.lastInput
  have left := ahead_lt config.bits translator.firstInput input
  have right := ahead_lt config.bits input translator.lastInput
  unfold span
  omega

/-- **A number of the window is looked up.** -/
theorem get_window (serial : config.Serial) {translator : SequenceNumberTranslator config}
    (started : translator.initialized = true) (spanned : translator.span ≤ config.maxDistance.toNat)
    {input : UInt16} (inside : ahead config.bits translator.firstInput input ≤ translator.span) (skip : Bool) :
    translator.get input skip = (translator.afterLate input skip, translator.lateEntry input skip) := by
  have short := span_lt serial spanned
  have twice := two_mul_threshold_le serial
  have split := ahead_triangle serial.narrow translator.firstInput translator.lastInput input
  rcases get_cases serial translator started spanned input skip with ⟨old, _⟩ | ⟨away, near, _⟩ | ⟨_, same⟩
  · omega
  · unfold span at *
    omega
  · rw [same, getLate_eq translator started]

/-! ### The invariant -/

/-- A cell holds an entry stored for a number. -/
def HoldsInput (number : UInt16) (cell : Option SequenceNumber) : Prop :=
  cell.map SequenceNumber.input = some number

/-- Every number of the window that shares its cell with no more recent one is in its cell. -/
def Recorded (translator : SequenceNumberTranslator config) : Prop :=
  translator.inOutBuffer.Recent translator.address (fun back => HoldsInput (translator.behind back))
    translator.span

/-- The state of an initialised translator: a short window, and its numbers in their cells. -/
structure Ready (translator : SequenceNumberTranslator config) : Prop where
  reduced : translator.lastInput.toNat < 2 ^ config.bits
  spanned : translator.span ≤ config.maxDistance.toNat
  recorded : translator.Recorded

/-- The entry `index` steps up from the old last input, counted back from the new one. -/
theorem newEntry_input (serial : config.Serial) (translator : SequenceNumberTranslator config) {input : UInt16}
    (reduced : input.toNat < 2 ^ config.bits) (skip : Bool)
    (new : 0 < ahead config.bits translator.lastInput input) {back : ℕ}
    (short : back < ahead config.bits translator.lastInput input) :
    (translator.newEntry input skip (ahead config.bits (translator.lastInput + 1) input - back)).input =
      (translator.afterNew input skip).behind back := by
  have step := ahead_succ serial.narrow new
  show _ = config.boundedSequenceNumber (input - UInt16.ofNat back)
  unfold newEntry
  by_cases last : back = 0
  · subst last
    rw [Nat.sub_zero, if_pos rfl, show input - UInt16.ofNat 0 = input from sub_zero input,
      bounded_eq_self serial reduced]
  · rw [if_neg (by omega)]
    refine Config.bounded_congr serial ?_
    have total := add_ahead serial.narrow (translator.lastInput + 1) input
    rw [← sub_congr serial.narrow (UInt16.ofNat back) total]
    congr 2
    have split : UInt16.ofNat (ahead config.bits (translator.lastInput + 1) input) =
        UInt16.ofNat (ahead config.bits (translator.lastInput + 1) input - back) + UInt16.ofNat back := by
      rw [← UInt16.ofNat_add, Nat.sub_add_cancel (by omega)]
    rw [split]
    abel

/-- The old numbers, counted back from the new last input. -/
theorem behind_afterNew (serial : config.Serial) (translator : SequenceNumberTranslator config) (input : UInt16)
    (skip : Bool) (back : ℕ) :
    (translator.afterNew input skip).behind (back + ahead config.bits translator.lastInput input) =
      translator.behind back := by
  have same := sub_eq_sub serial.narrow (Nat.le_add_left (ahead config.bits translator.lastInput input) back)
  rw [Nat.add_sub_cancel] at same
  exact Config.bounded_congr serial same

/-- **A new input moves the window on**: what the cells hold follows from what the new entries are
and what the old cells held. -/
theorem recent_afterNew (serial : config.Serial) {translator : SequenceNumberTranslator config}
    {holds holds' : ℕ → Option SequenceNumber → Prop}
    (recent : translator.inOutBuffer.Recent translator.address holds translator.span) {input : UInt16}
    (reduced : input.toNat < 2 ^ config.bits) (skip : Bool)
    (new : 0 < ahead config.bits translator.lastInput input)
    (near : translator.span + ahead config.bits translator.lastInput input < 2 ^ (config.bits - 4))
    (fresh : ∀ back < ahead config.bits translator.lastInput input,
      holds' back (some (translator.newEntry input skip (ahead config.bits (translator.lastInput + 1) input - back))))
    (kept : ∀ back ≤ translator.span, ∀ cell, holds back cell →
      holds' (back + ahead config.bits translator.lastInput input) cell) :
    (translator.afterNew input skip).inOutBuffer.Recent (translator.afterNew input skip).address holds'
      (translator.afterNew input skip).span := by
  have step := ahead_succ serial.narrow new
  refine RingBuffer.Recent.writeRun recent ?_ ?_ ?_
  · rw [span_afterNew serial translator skip near, step]
    exact min_le_left _ _
  · intro back below
    rw [step] at below
    rw [Nat.add_sub_cancel]
    refine ⟨?_, fresh back below⟩
    rw [newEntry_input serial translator reduced skip new below]
    rfl
  · intro back inside
    rw [step]
    refine ⟨?_, kept back inside⟩
    show ((translator.afterNew input skip).behind _).toNat % _ = _
    rw [behind_afterNew serial translator input skip back]
    rfl

theorem recorded_afterNew (serial : config.Serial) {translator : SequenceNumberTranslator config}
    (recorded : translator.Recorded) {input : UInt16} (reduced : input.toNat < 2 ^ config.bits) (skip : Bool)
    (new : 0 < ahead config.bits translator.lastInput input)
    (near : translator.span + ahead config.bits translator.lastInput input < 2 ^ (config.bits - 4)) :
    (translator.afterNew input skip).Recorded := by
  refine recent_afterNew serial recorded reduced skip new near ?_ ?_
  · intro back below
    exact congrArg some (newEntry_input serial translator reduced skip new below)
  · intro back _ cell holds
    rw [behind_afterNew serial translator input skip back]
    exact holds

/-- Some number of the window is recorded in the cell of every one. -/
theorem recorded_cell {translator : SequenceNumberTranslator config}
    (recorded : translator.Recorded) {back : ℕ} (inside : back ≤ translator.span) :
    ∃ first ≤ back, RingBuffer.Fresh config.maxNumberInBuffer translator.address first ∧
      HoldsInput (translator.behind first) (translator.inOutBuffer.get (translator.address back)) := by
  obtain ⟨first, before, same, fresh⟩ := RingBuffer.exists_fresh config.maxNumberInBuffer translator.address back
  have holds := recorded first (le_trans before inside) fresh
  rw [RingBuffer.get_congr translator.inOutBuffer same] at holds
  exact ⟨first, before, fresh, holds⟩

theorem lateEntry_input (translator : SequenceNumberTranslator config) (input : UInt16) (skip : Bool) :
    (translator.lateEntry input skip).input = (translator.internalGet input).input := by
  unfold lateEntry
  by_cases valid : (translator.internalGet input).type = .valid
  · simp only [if_pos valid]
  · simp only [if_neg valid]

theorem recorded_afterLate {translator : SequenceNumberTranslator config} (recorded : translator.Recorded)
    (input : UInt16) (skip : Bool) : (translator.afterLate input skip).Recorded := by
  show RingBuffer.Recent _ translator.address (fun back => HoldsInput (translator.behind back)) translator.span
  unfold afterLate
  by_cases valid : (translator.internalGet input).type = .valid
  · simp only [if_pos valid]
    refine RingBuffer.Recent.set recorded fun back _ _ holds => ?_
    obtain ⟨entry, stored, number⟩ := Option.map_eq_some_iff.mp holds
    show some _ = some _
    rw [lateEntry_input, internalGet, stored, ← number]
    rfl
  · simp only [if_neg valid]
    exact recorded

theorem recorded_afterFirst {translator : SequenceNumberTranslator config} (serial : config.Serial)
    {input : UInt16} (reduced : input.toNat < 2 ^ config.bits) : (translator.afterFirst input).Recorded := by
  intro back inside _
  have single : back = 0 := by
    have nothing : (translator.afterFirst input).span = 0 := ahead_self input
    omega
  subst single
  have here : (translator.afterFirst input).behind 0 = input := by
    show config.boundedSequenceNumber (input - UInt16.ofNat 0) = input
    rw [show input - UInt16.ofNat 0 = input from sub_zero input, bounded_eq_self serial reduced]
  show HoldsInput ((translator.afterFirst input).behind 0)
    ((translator.afterFirst input).inOutBuffer.get ((translator.afterFirst input).behind 0).toNat)
  rw [here]
  show ((translator.inOutBuffer.set input.toNat _).get input.toNat).map _ = _
  rw [RingBuffer.get_set_self]
  rfl

/-! ### Reachable states -/

/-- The inputs of a call are numbers of the translator's width. -/
def Call.Reduced (config : Config) : Call → Prop
  | .get input _ => input.toNat < 2 ^ config.bits
  | .generate => True
  | .reset => True

theorem ready_get (serial : config.Serial) {translator : SequenceNumberTranslator config} {input : UInt16}
    (reduced : input.toNat < 2 ^ config.bits) (skip : Bool)
    (ready : translator.initialized = true → translator.Ready)
    (running : (translator.get input skip).1.initialized = true) :
    (translator.get input skip).1.Ready := by
  have spanned := spanned_step serial translator (.get input skip) (fun started => (ready started).spanned) running
  change (translator.get input skip).1.span ≤ _ at spanned
  by_cases started : translator.initialized = true
  · have before := ready started
    rcases get_cases serial translator started before.spanned input skip with
      ⟨_, same⟩ | ⟨new, near, same⟩ | ⟨_, same⟩
    · rw [same]
      exact before
    · rw [same] at spanned ⊢
      exact ⟨reduced, spanned, recorded_afterNew serial before.recorded reduced skip new near⟩
    · rw [same, getLate_eq translator started]
      exact ⟨before.reduced, before.spanned, recorded_afterLate before.recorded input skip⟩
  · have waiting : translator.initialized = false := by simpa using started
    rw [get_waiting translator waiting] at running spanned ⊢
    cases skip with
    | false =>
        rw [getFirst_forward translator waiting] at spanned ⊢
        exact ⟨reduced, spanned, recorded_afterFirst serial reduced⟩
    | true =>
        rw [getFirst_skip translator] at running
        exact absurd running started

theorem ready_step (serial : config.Serial) (translator : SequenceNumberTranslator config) (call : Call)
    (reduced : call.Reduced config) (ready : translator.initialized = true → translator.Ready) :
    (translator.step call).1.initialized = true → (translator.step call).1.Ready := by
  intro running
  cases call with
  | get input skip => exact ready_get serial reduced skip ready running
  | generate =>
      obtain ⟨last, spanned, recorded⟩ := ready running
      exact ⟨last, spanned, recorded⟩
  | reset => exact absurd running (by rw [step, reset_initialized]; exact Bool.false_ne_true)

/-- **The window of every reachable state is short, and its numbers are in their cells.** -/
theorem ready_after (serial : config.Serial) {calls : List Call} (reduced : ∀ call ∈ calls, call.Reduced config) :
    (after config calls).initialized = true → (after config calls).Ready :=
  Machine.run_invariant step (fun state call allowed holds => ready_step serial state call allowed holds)
    (fun running => absurd running Bool.false_ne_true) reduced

/-! ### Faithful windows -/

/-- **The ring buffer is faithful to the window**: the entry that `get` consults for a number of the
window was recorded for that number, and so is the one it returns. -/
def Faithful (translator : SequenceNumberTranslator config) : Prop :=
  ∀ number : UInt16, number.toNat < 2 ^ config.bits →
    ahead config.bits translator.firstInput number ≤
      ahead config.bits translator.firstInput translator.lastInput →
    (∃ entry, translator.inOutBuffer.get number.toNat = some entry ∧ entry.input = number) ∧
      ∀ skip, (translator.get number skip).2.input = number

/-- **A window is faithful exactly when no two of its numbers share a cell.** -/
theorem faithful_iff_fresh (serial : config.Serial) {translator : SequenceNumberTranslator config}
    (started : translator.initialized = true) (ready : translator.Ready) :
    translator.Faithful ↔
      ∀ back ≤ translator.span, RingBuffer.Fresh config.maxNumberInBuffer translator.address back := by
  obtain ⟨_, spanned, recorded⟩ := ready
  have short : translator.span < 2 ^ config.bits :=
    lt_of_lt_of_le (span_lt serial spanned) (by have := two_mul_threshold_le serial; omega)
  constructor
  · intro faithful back inside
    obtain ⟨first, before, fresh, holds⟩ := recorded_cell recorded inside
    have reach : ahead config.bits (translator.behind back) translator.lastInput = back :=
      ahead_behind serial translator (by omega)
    have within := (window_iff serial translator (translator.behind back)).mpr (by omega)
    obtain ⟨⟨entry, stored, number⟩, _⟩ :=
      faithful (translator.behind back) (Config.toNat_bounded_lt serial _) within
    change translator.inOutBuffer.get (translator.address back) = some entry at stored
    rw [stored] at holds
    have same : translator.behind first = translator.behind back :=
      (Option.some_injective _ holds).symm.trans number
    have reachFirst := ahead_behind serial translator (show first < 2 ^ config.bits by omega)
    rw [same, reach] at reachFirst
    rwa [reachFirst]
  · intro fresh number reduced inside
    have within := (window_iff serial translator number).mp inside
    have holds := recorded _ within (fresh _ within)
    change HoldsInput (translator.behind _) (translator.inOutBuffer.get (translator.behind _).toNat) at holds
    rw [behind_ahead serial translator reduced] at holds
    obtain ⟨entry, stored, same⟩ := Option.map_eq_some_iff.mp holds
    refine ⟨⟨entry, stored, same⟩, fun skip => ?_⟩
    rw [get_window serial started spanned inside skip]
    show (translator.lateEntry number skip).input = number
    rw [lateEntry_input, internalGet, stored]
    exact same

theorem address_eq (serial : config.Serial) (translator : SequenceNumberTranslator config) {back : ℕ}
    (short : back ≤ 2 ^ 16) :
    translator.address back = (translator.lastInput.toNat + 2 ^ 16 - back) % 2 ^ 16 % 2 ^ config.bits := by
  rw [address, behind, Config.toNat_bounded serial, UInt16.toNat_sub, UInt16.toNat_ofNat']
  congr 1
  have below := translator.lastInput.toNat_lt
  omega

/-- Numbers counted back from any word, in `1024` cells. -/
theorem fresh_back (word : UInt16) {back : ℕ} (inside : back ≤ 500) :
    RingBuffer.Fresh 1024 (fun steps => (word - UInt16.ofNat steps).toNat) back := by
  intro later before
  simp only [UInt16.toNat_sub, UInt16.toNat_ofNat']
  omega

/-- The cells of a standard translator. -/
theorem fresh_standard (translator : SequenceNumberTranslator .standard) {back : ℕ} (inside : back ≤ 500) :
    RingBuffer.Fresh 1024 translator.address back :=
  fresh_back translator.lastInput inside

/-- The cells of the picture id translator. -/
theorem fresh_pictureId_iff {translator : SequenceNumberTranslator .pictureId}
    (reduced : translator.lastInput.toNat < 2 ^ 15) (spanned : translator.span ≤ 250) :
    (∀ back ≤ translator.span, RingBuffer.Fresh 511 translator.address back) ↔
      ¬ (translator.lastInput.toNat < translator.span ∧ 64 ≤ translator.span) := by
  have cell : ∀ back ≤ 250, translator.address back =
      if back ≤ translator.lastInput.toNat then translator.lastInput.toNat - back
      else translator.lastInput.toNat + 2 ^ 15 - back := by
    intro back short
    rw [address_eq Config.pictureId_serial translator (by omega)]
    change _ % 2 ^ 16 % 2 ^ 15 = _
    split <;> omega
  constructor
  · rintro fresh ⟨wraps, long⟩
    have shared := fresh (max 64 (translator.lastInput.toNat + 1)) (by omega)
      (max 64 (translator.lastInput.toNat + 1) - 64) (by omega)
    rw [cell _ (by omega), cell _ (by omega), if_pos (by omega), if_neg (by omega)] at shared
    omega
  · intro unshared back inside later before
    rw [cell _ (by omega), cell _ (by omega)]
    split <;> split <;> omega

/-- The window straddles the wrap when its last number is below its first one. -/
theorem lt_span_iff {translator : SequenceNumberTranslator .pictureId}
    (reduced : translator.lastInput.toNat < 2 ^ 15) :
    translator.lastInput.toNat < translator.span ↔
      translator.lastInput.toNat < translator.firstInput.toNat % 2 ^ 15 := by
  have balance : (translator.span + translator.firstInput.toNat) % 2 ^ 15 = translator.lastInput.toNat % 2 ^ 15 :=
    ahead_balance Config.pictureId_serial.narrow translator.firstInput translator.lastInput
  have below : translator.span < 2 ^ 15 := ahead_lt 15 translator.firstInput translator.lastInput
  omega

/-- **The faithful windows.** The windows of a standard translator are all faithful. Those of the
picture id translator are, unless they straddle the wrap of the picture ids and hold more than 64
numbers; its runs are those on ids of fifteen bits, without the `-1` of a packet that has none. -/
theorem faithful_iff (calls : List Call) :
    ((after .standard calls).initialized = true → (after .standard calls).Faithful) ∧
      ((∀ call ∈ calls, call.Reduced .pictureId) → (after .pictureId calls).initialized = true →
        ((after .pictureId calls).Faithful ↔
          ¬ ((after .pictureId calls).lastInput.toNat < (after .pictureId calls).firstInput.toNat % 2 ^ 15 ∧
            64 ≤ ahead 15 (after .pictureId calls).firstInput (after .pictureId calls).lastInput))) := by
  constructor
  · intro started
    have reduced : ∀ call ∈ calls, call.Reduced .standard := by
      intro call _
      cases call with
      | get input skip => exact input.toNat_lt
      | generate => trivial
      | reset => trivial
    have ready := ready_after Config.standard_serial reduced started
    rw [faithful_iff_fresh Config.standard_serial started ready]
    exact fun back inside => fresh_standard _ (le_trans inside ready.spanned)
  · intro reduced started
    have ready := ready_after Config.pictureId_serial reduced started
    rw [faithful_iff_fresh Config.pictureId_serial started ready, ← lt_span_iff ready.reduced]
    exact fresh_pictureId_iff ready.reduced ready.spanned

/-- Both parts apply after the first picture. -/
theorem faithful_after_one :
    (after .standard [.get 7 false]).Faithful ∧ (after .pictureId [.get 7 false]).Faithful :=
  ⟨(faithful_iff [.get 7 false]).1 (by decide),
    ((faithful_iff [.get 7 false]).2 (by simp [Call.Reduced, Config.pictureId]) (by decide)).mpr (by decide)⟩

/-- Picture id 32767 reads the entry of picture id 63. -/
theorem not_faithful_across_wrap :
    ¬ ∀ calls : List Call, (∀ call ∈ calls, call.Reduced .pictureId) →
      (after .pictureId calls).initialized = true → (after .pictureId calls).Faithful := by
  intro always
  have here := always [.get 32767 false, .get 63 false] (by simp [Call.Reduced, Config.pictureId])
    (by decide +kernel) 32767 (by decide) (by decide +kernel)
  have other : ((after .pictureId [.get 32767 false, .get 63 false]).get 32767 false).2 = ⟨63, 63, .valid⟩ := by
    decide +kernel
  have wrong := here.2 false
  rw [other] at wrong
  exact absurd wrong (by decide)

end SequenceNumberTranslator

end Erizo
