/-
**Which runs give two packets one number.**

A run of a standard translator is followed by a ledger: the outputs without their wrap, and who
holds each of them (`Ledger`). The numbers up to `lastOutput + offset` have been taken, those of the
window are known by their distance to the last input, and a valid entry holds its own number
(`Accounts`). Every call that is `Sound` keeps the ledger (`accounts_step`); a call that issues a
number issues one that it holds, so that two calls that issue the same number hold it both
(`issued_unique`).

The calls that are not sound are the ways in which a translator loses count:

* an input is skipped across a gap: the numbers the gap was given are given out again;
* an input of the window is forwarded whose number is `2 ^ 12` or more behind the last output: the
  comparison takes it for one ahead and the output goes back to it;
* `2 ^ 15` numbers are taken while an input stays in the window, or packets generated in a row.
-/

import Erizo.Proof.Shift

namespace Erizo

open Library Library.Serial RtpUtils

namespace SequenceNumberTranslator

variable {translator : SequenceNumberTranslator .standard}

/-! ### Sound calls -/

/-- The comparison of `updateLastOutputSequenceNumber` would take the number of an input of the
window, which is behind the last output, for one ahead of it. -/
def Regresses (translator : SequenceNumberTranslator .standard) (input : UInt16) : Prop :=
  2 ^ 12 ≤ ahead 16 (translator.internalGet input).output translator.lastOutput ∧
    ahead 16 (translator.internalGet input).output translator.lastOutput < 2 ^ 15

/-- **The calls that keep count.** -/
def Sound (translator : SequenceNumberTranslator .standard) (call : Call) : Prop :=
  translator.offset.toNat < 2 ^ 15 ∧
    (translator.initialized = true →
      ahead 16 (translator.internalGet translator.firstInput).output
        (translator.lastOutput + translator.offset + 1) < 2 ^ 15) ∧
    match call with
    | .get input true =>
        translator.initialized = true → numberLessThan input translator.firstInput 16 = false →
          numberLessThan translator.lastInput input 16 = true → input = translator.lastInput + 1
    | .get input false =>
        translator.initialized = true → numberLessThan input translator.firstInput 16 = false →
          numberLessThan translator.lastInput input 16 = false → ¬ translator.Regresses input
    | .generate => True
    | .reset => True

instance (translator : SequenceNumberTranslator .standard) (input : UInt16) : Decidable (translator.Regresses input) :=
  inferInstanceAs (Decidable (_ ∧ _))

instance (translator : SequenceNumberTranslator .standard) : ∀ call, Decidable (translator.Sound call)
  | .get _ true => inferInstanceAs (Decidable (_ ∧ (_ → _) ∧ (_ → _ → _ → _)))
  | .get _ false => inferInstanceAs (Decidable (_ ∧ (_ → _) ∧ (_ → _ → _ → ¬ _)))
  | .generate => inferInstanceAs (Decidable (_ ∧ (_ → _) ∧ True))
  | .reset => inferInstanceAs (Decidable (_ ∧ (_ → _) ∧ True))

/-- The numbers a call takes: one for a generated packet, and for a forwarded input those of the
inputs lost before it as well. -/
def taken (translator : SequenceNumberTranslator .standard) : Call → ℕ
  | .get input false =>
      if translator.initialized = false then 1
      else if numberLessThan input translator.firstInput 16 then 0
      else if numberLessThan translator.lastInput input 16 then ahead 16 translator.lastInput input
      else if numberLessThan translator.lastOutput (translator.internalGet input).output 16 then
        ahead 16 translator.lastOutput (translator.internalGet input).output
      else 0
  | .get _ true => 0
  | .generate => 1
  | .reset => 0

/-- The numbers taken along a run. -/
def takenAlong : SequenceNumberTranslator .standard → List Call → ℕ
  | _, [] => 0
  | translator, call :: rest => translator.taken call + takenAlong (translator.step call).1 rest

/-! ### The ledger -/

/-- The outputs of a run without their wrap. -/
structure Ledger where
  /-- The last output. -/
  last : ℕ
  /-- The numbers of the window, counted back from the last input. -/
  number : ℕ → ℕ
  /-- Who holds a number: nobody, a generated packet or an input. -/
  owner : ℕ → Option (Option UInt16)

/-- The last number that was taken. -/
def Ledger.top (ledger : Ledger) (translator : SequenceNumberTranslator .standard) : ℕ :=
  ledger.last + translator.offset.toNat

/-- A cell holds the entry of an input with its number. A valid entry holds the number. -/
def HoldsNumber (ledger : Ledger) (input : UInt16) (number : ℕ) (cell : Option SequenceNumber) : Prop :=
  ∃ type, cell = some ⟨input, UInt16.ofNat number, type⟩ ∧ type ≠ .generated ∧
    (type = .valid → ledger.owner number = some (some input))

/-- The window of an initialised translator, with its numbers. -/
structure Booked (translator : SequenceNumberTranslator .standard) (ledger : Ledger) : Prop where
  spanned : translator.span ≤ 500
  cells : translator.inOutBuffer.Recent translator.address
    (fun back => HoldsNumber ledger (translator.behind back) (ledger.number back)) translator.span
  sorted : ∀ first second, first ≤ second → second ≤ translator.span → ledger.number second ≤ ledger.number first
  top : ledger.number 0 ≤ ledger.top translator + 1
  bottom : ledger.top translator + 1 < ledger.number translator.span + 2 ^ 16

/-- A ledger that follows a translator. -/
structure Accounts (translator : SequenceNumberTranslator .standard) (ledger : Ledger) : Prop where
  last : translator.lastOutput = UInt16.ofNat ledger.last
  free : ∀ number, ledger.top translator < number → ledger.owner number = none
  empty : translator.initialized = false → translator.wasReset = false → translator.offset = 0 →
    ∀ number, ledger.owner number = none
  booked : translator.initialized = true → translator.Booked ledger

/-- Whom a call issues a number to. -/
def holder : Call → Option UInt16
  | .get input _ => some input
  | .generate => none
  | .reset => none

/-- A number that is held keeps its owner. -/
def Ledger.Keeps (ledger ledger' : Ledger) : Prop :=
  ∀ number, ledger.owner number ≠ none → ledger'.owner number = ledger.owner number

/-- What one call does to the ledger. -/
structure Advances (translator : SequenceNumberTranslator .standard) (call : Call) (ledger ledger' : Ledger) : Prop where
  accounts : (translator.step call).1.Accounts ledger'
  top : (∃ number, ledger.owner number ≠ none) →
    ledger'.top (translator.step call).1 = ledger.top translator + translator.taken call
  keeps : ledger.Keeps ledger'
  issues : ∀ output, issued (translator.step call).2 = some output →
    ∃ number, output = UInt16.ofNat number ∧ number ≤ ledger'.top (translator.step call).1 ∧
      ledger'.top (translator.step call).1 < number + 2 ^ 15 ∧ ledger'.owner number = some (holder call) ∧
      (call = .generate → ledger.owner number = none)

theorem accounts_init : (init .standard).Accounts ⟨0, fun _ => 0, fun _ => none⟩ where
  last := rfl
  free := fun _ _ => rfl
  empty := fun _ _ _ _ => rfl
  booked := fun running => absurd running Bool.false_ne_true

variable {ledger : Ledger}

theorem Accounts.nextOutput (accounts : translator.Accounts ledger) :
    translator.nextOutput = UInt16.ofNat (ledger.top translator + 1) := by
  show translator.lastOutput + translator.offset + 1 = _
  rw [accounts.last, Ledger.top, UInt16.ofNat_add, UInt16.ofNat_add, UInt16.ofNat_toNat]
  rfl

/-- A ledger in which the `count` numbers after `top` were taken. -/
def Ledger.take (ledger : Ledger) (top count : ℕ) (owner : ℕ → Option UInt16) : ℕ → Option (Option UInt16) :=
  fun number => if top < number ∧ number ≤ top + count then some (owner number) else ledger.owner number

theorem Accounts.take_keeps (accounts : translator.Accounts ledger) {top : ℕ}
    (taken : ledger.top translator ≤ top) (count last : ℕ) (number : ℕ → ℕ) (owner : ℕ → Option UInt16) :
    ledger.Keeps ⟨last, number, ledger.take top count owner⟩ :=
  fun other held => if_neg fun inside => held (accounts.free other (lt_of_le_of_lt taken inside.1))

theorem Accounts.take_free (accounts : translator.Accounts ledger) {top : ℕ} (taken : ledger.top translator ≤ top)
    {count : ℕ} {owner : ℕ → Option UInt16} {number : ℕ} (above : top + count < number) :
    ledger.take top count owner number = none := by
  rw [Ledger.take, if_neg (by omega)]
  exact accounts.free number (by omega)

theorem Ledger.take_new (ledger : Ledger) {top count : ℕ} (owner : ℕ → Option UInt16) {number : ℕ}
    (above : top < number) (below : number ≤ top + count) : ledger.take top count owner number = some (owner number) :=
  if_pos ⟨above, below⟩

theorem HoldsNumber.mono {ledger' : Ledger} (keeps : ledger.Keeps ledger') {input : UInt16} {number : ℕ}
    {cell : Option SequenceNumber} (holds : HoldsNumber ledger input number cell) :
    HoldsNumber ledger' input number cell := by
  obtain ⟨type, stored, plain, held⟩ := holds
  refine ⟨type, stored, plain, fun valid => ?_⟩
  rw [keeps number (by rw [held valid]; exact Option.some_ne_none _), held valid]

/-- The window after a call that does not move it. -/
theorem Booked.frame {other : SequenceNumberTranslator .standard} {ledger' : Ledger} (booked : translator.Booked ledger)
    (first : other.firstInput = translator.firstInput) (last : other.lastInput = translator.lastInput)
    (cells : other.inOutBuffer.Recent translator.address
      (fun back => HoldsNumber ledger (translator.behind back) (ledger.number back)) translator.span)
    (number : ledger'.number = ledger.number)
    (keeps : ledger.Keeps ledger') (grows : ledger.top translator ≤ ledger'.top other)
    (bottom : ledger'.top other + 1 < ledger.number translator.span + 2 ^ 16) : other.Booked ledger' := by
  have span : other.span = translator.span := by rw [span, span, first, last]
  have behind : other.behind = translator.behind := by
    funext back
    rw [behind_standard, behind_standard, last]
  have address : other.address = translator.address := by
    funext back
    rw [address, address, behind]
  have top := booked.top
  refine ⟨by rw [span]; exact booked.spanned, ?_, ?_, by rw [number]; omega, by rw [number, span]; exact bottom⟩
  · rw [address, behind, span, number]
    exact fun back inside fresh => (cells back inside fresh).mono keeps
  · rw [number, span]
    exact booked.sorted

/-- The distance the guard looks at, without the wrap. -/
theorem Booked.room (booked : translator.Booked ledger) (accounts : translator.Accounts ledger)
    (near : ahead 16 (translator.internalGet translator.firstInput).output
      (translator.lastOutput + translator.offset + 1) < 2 ^ 15) :
    ledger.top translator + 1 < ledger.number translator.span + 2 ^ 15 := by
  have spanned := booked.spanned
  have first : translator.behind translator.span = translator.firstInput :=
    behind_ahead Config.standard_serial translator translator.firstInput.toNat_lt
  obtain ⟨type, stored, _, _⟩ := booked.cells translator.span le_rfl (fresh_standard translator spanned)
  unfold address at stored
  rw [first] at stored
  have next : translator.lastOutput + translator.offset + 1 = UInt16.ofNat (ledger.top translator + 1) :=
    accounts.nextOutput
  have below := le_trans (booked.sorted 0 translator.span (Nat.zero_le _) le_rfl) booked.top
  have short := booked.bottom
  rw [internalGet, stored, next] at near
  change ahead 16 (UInt16.ofNat _) _ < _ at near
  rw [ahead_ofNat below (by omega)] at near
  omega

/-! ### Generated packets and resets -/

theorem advances_generate (accounts : translator.Accounts ledger)
    (sound : translator.Sound .generate) : ∃ ledger', translator.Advances .generate ledger ledger' := by
  have few := sound.1
  have offset : (translator.offset + 1).toNat = translator.offset.toNat + 1 := by
    rw [UInt16.toNat_add]
    exact Nat.mod_eq_of_lt (by show _ + 1 < 2 ^ 16; omega)
  let ledger' : Ledger :=
    { ledger with owner := ledger.take (ledger.top translator) 1 fun _ => none }
  have next : ledger'.top translator.generate.1 = ledger.top translator + 1 := by
    show ledger.last + (translator.offset + 1).toNat = _
    rw [offset]
    rfl
  have keeps : ledger.Keeps ledger' := accounts.take_keeps le_rfl 1 _ _ _
  refine ⟨ledger', ⟨⟨accounts.last, ?_, ?_, ?_⟩, fun _ => next, keeps, ?_⟩⟩
  · intro number above
    change ledger'.top translator.generate.1 < number at above
    have beyond : ledger.top translator + 1 < number := by omega
    show ledger.take (ledger.top translator) 1 (fun _ => none) number = none
    exact accounts.take_free le_rfl beyond
  · intro _ _ zero
    change translator.offset + 1 = 0 at zero
    rw [zero] at offset
    exact absurd offset (by simp)
  · intro running
    have booked := accounts.booked running
    have room := booked.room accounts (sound.2.1 running)
    refine booked.frame rfl rfl booked.cells rfl keeps ?_ ?_
    · show _ ≤ ledger'.top translator.generate.1
      omega
    · show ledger'.top translator.generate.1 + 1 < _
      omega
  · intro output same
    refine ⟨ledger.top translator + 1, ?_, le_of_eq next.symm, ?_,
      ledger.take_new (fun _ => none) (Nat.lt_succ_self _) le_rfl, ?_⟩
    · have number : translator.offset + 1 + translator.lastOutput = translator.nextOutput := by
        show _ = translator.lastOutput + translator.offset + 1
        abel
      rw [← accounts.nextOutput, ← number]
      exact (Option.some_injective _ same).symm
    · show ledger'.top translator.generate.1 < _
      omega
    · exact fun _ => accounts.free _ (by omega)

theorem advances_reset (accounts : translator.Accounts ledger) : translator.Advances .reset ledger ledger := by
  have stopped := reset_initialized translator
  have same : translator.reset.lastOutput = translator.lastOutput ∧ translator.reset.offset = translator.offset := by
    unfold reset
    split <;> exact ⟨rfl, rfl⟩
  have top : ledger.top translator.reset = ledger.top translator := by rw [Ledger.top, Ledger.top, same.2]
  refine ⟨⟨same.1.trans accounts.last, ?_, ?_, ?_⟩, fun _ => top, fun _ _ => rfl, fun output issues => nomatch issues⟩
  · show ∀ number, ledger.top translator.reset < number → _
    rw [top]
    exact accounts.free
  · show _ → translator.reset.wasReset = false → translator.reset.offset = 0 → _
    unfold reset
    by_cases started : translator.initialized = true
    · rw [started]
      exact fun _ first => absurd first (by simp)
    · have waiting : translator.initialized = false := by simpa using started
      rw [waiting]
      exact fun _ => accounts.empty waiting
  · exact fun running => absurd (stopped.symm.trans running) (by decide)

/-! ### New inputs -/

/-- The numbers of the window after a new input. -/
def Ledger.numberNew (ledger : Ledger) (top distance : ℕ) : ℕ → ℕ :=
  fun back => if back < distance then top + (distance - back) else ledger.number (back - distance)

/-- Who holds the numbers up to a new input. -/
def newOwner (input : UInt16) (top : ℕ) : ℕ → Option UInt16 :=
  fun number => some (input - UInt16.ofNat (top - number))

theorem Ledger.numberNew_new (ledger : Ledger) {top distance back : ℕ} (below : back < distance) :
    ledger.numberNew top distance back = top + (distance - back) := if_pos below

theorem Ledger.numberNew_old (ledger : Ledger) (top distance back : ℕ) :
    ledger.numberNew top distance (back + distance) = ledger.number back := by
  rw [numberNew, if_neg (Nat.not_lt.mpr (Nat.le_add_left _ back)), Nat.add_sub_cancel]

section New

variable {input : UInt16} {skip : Bool}

/-- The entry stored for the number `back` behind a new input. -/
theorem newEntry_back (accounts : translator.Accounts ledger) (new : 0 < ahead 16 translator.lastInput input)
    {back : ℕ} (below : back < ahead 16 translator.lastInput input) :
    translator.newEntry input skip (ahead 16 (translator.lastInput + 1) input - back) =
      ⟨(translator.afterNew input skip).behind back,
        UInt16.ofNat (ledger.top translator + (ahead 16 translator.lastInput input - back)),
        if back = 0 then storedType skip else .valid⟩ := by
  have step : ahead 16 (translator.lastInput + 1) input + 1 = ahead 16 translator.lastInput input :=
    ahead_succ (le_refl 16) new
  have output : translator.nextOutput + UInt16.ofNat (ahead 16 (translator.lastInput + 1) input - back) =
      UInt16.ofNat (ledger.top translator + (ahead 16 translator.lastInput input - back)) := by
    rw [accounts.nextOutput, ← UInt16.ofNat_add]
    congr 1
    omega
  have type : (ahead 16 (translator.lastInput + 1) input - back = ahead 16 (translator.lastInput + 1) input) =
      (back = 0) := by
    rw [eq_iff_iff]
    omega
  rw [newEntry_standard, behind_new translator (by omega), output]
  simp only [type]
  rfl

/-- The numbers of a window that moved on are sorted. -/
theorem numberNew_sorted (booked : translator.Booked ledger) {distance first second : ℕ}
    (order : first ≤ second) (inside : second ≤ translator.span + distance) :
    ledger.numberNew (ledger.top translator) distance second ≤
      ledger.numberNew (ledger.top translator) distance first := by
  have top := booked.top
  unfold Ledger.numberNew
  by_cases early : second < distance
  · rw [if_pos early, if_pos (by omega)]
    omega
  · rw [if_neg early]
    by_cases mixed : first < distance
    · have below := booked.sorted 0 (second - distance) (Nat.zero_le _) (by omega)
      rw [if_pos mixed]
      omega
    · rw [if_neg mixed]
      exact booked.sorted _ _ (by omega) (by omega)

/-- The window after a new input. -/
theorem booked_new (accounts : translator.Accounts ledger) (booked : translator.Booked ledger)
    (new : 0 < ahead 16 translator.lastInput input)
    (near : translator.span + ahead 16 translator.lastInput input < 2 ^ 12)
    (room : ledger.top translator + 1 < ledger.number translator.span + 2 ^ 15) {ledger' : Ledger}
    (numbers : ledger'.number = ledger.numberNew (ledger.top translator) (ahead 16 translator.lastInput input))
    (keeps : ledger.Keeps ledger')
    (holds : ∀ back < ahead 16 translator.lastInput input,
      (if back = 0 then storedType skip else .valid) = .valid →
      ledger'.owner (ledger.top translator + (ahead 16 translator.lastInput input - back)) =
        some (some ((translator.afterNew input skip).behind back)))
    (covers : ledger.top translator + ahead 16 translator.lastInput input ≤
      ledger'.top (translator.afterNew input skip) + 1)
    (high : ledger'.top (translator.afterNew input skip) ≤
      ledger.top translator + ahead 16 translator.lastInput input) :
    (translator.afterNew input skip).Booked ledger' := by
  have serial := Config.standard_serial
  have span : (translator.afterNew input skip).span =
      min (translator.span + ahead 16 translator.lastInput input) 500 := span_afterNew serial translator skip near
  refine ⟨?_, ?_, ?_, ?_, ?_⟩
  · rw [span]
    exact min_le_right _ _
  · refine recent_afterNew serial booked.cells input.toNat_lt skip new near ?_ ?_
    · intro back below
      change back < ahead 16 translator.lastInput input at below
      rw [numbers, ledger.numberNew_new below]
      refine ⟨if back = 0 then storedType skip else .valid, ?_, ?_, holds back below⟩
      · exact congrArg some (newEntry_back accounts new below)
      · cases skip <;> split <;> decide
    · intro back inside cell held
      have same : ledger'.number (back + ahead Config.standard.bits translator.lastInput input) =
          ledger.number back := by
        rw [numbers]
        exact ledger.numberNew_old _ _ _
      rw [behind_afterNew serial translator input skip back, same]
      exact held.mono keeps
  · intro first second order inside
    rw [numbers]
    exact numberNew_sorted booked order (by omega)
  · rw [numbers, ledger.numberNew_new new]
    omega
  · have shorter : (translator.afterNew input skip).span ≤
        translator.span + ahead 16 translator.lastInput input := by omega
    have oldest := numberNew_sorted booked shorter le_rfl
    rw [ledger.numberNew_old] at oldest
    rw [numbers]
    omega

/-- A forwarded new input takes the numbers of the inputs before it and its own. -/
theorem advances_forward (accounts : translator.Accounts ledger) (started : translator.initialized = true)
    (new : 0 < ahead 16 translator.lastInput input)
    (near : translator.span + ahead 16 translator.lastInput input < 2 ^ 12)
    (same : translator.get input false =
      (translator.afterNew input false, ⟨input, translator.newOutput input, .valid⟩))
    (counts : translator.taken (.get input false) = ahead 16 translator.lastInput input)
    (sound : translator.Sound (.get input false)) :
    ∃ ledger', translator.Advances (.get input false) ledger ledger' := by
  have few := sound.1
  have booked := accounts.booked started
  have room := booked.room accounts (sound.2.1 started)
  have step : ahead 16 (translator.lastInput + 1) input + 1 = ahead 16 translator.lastInput input :=
    ahead_succ (le_refl 16) new
  have tops : ledger.top translator = ledger.last + translator.offset.toNat := rfl
  let last := ledger.top translator + ahead 16 translator.lastInput input
  let ledger' : Ledger := ⟨last, ledger.numberNew (ledger.top translator) (ahead 16 translator.lastInput input),
    ledger.take (ledger.top translator) (ahead 16 translator.lastInput input) (newOwner input last)⟩
  have keeps : ledger.Keeps ledger' := accounts.take_keeps le_rfl _ _ _ _
  have output : translator.newOutput input = UInt16.ofNat last := by
    show translator.nextOutput + UInt16.ofNat (ahead 16 (translator.lastInput + 1) input) = _
    rw [accounts.nextOutput, ← UInt16.ofNat_add]
    congr 1
    omega
  have moves : (translator.afterNew input false).lastOutput = UInt16.ofNat last := by
    have above : numberLessThan translator.lastOutput (UInt16.ofNat last) 16 = true := by
      have reach : ahead 16 (UInt16.ofNat ledger.last) (UInt16.ofNat last) = last - ledger.last :=
        ahead_ofNat (by omega) (by omega)
      rw [numberLessThan_iff_ahead _ _ (by decide) (le_refl 16), accounts.last, reach]
      omega
    show translator.updatedOutput false (translator.newOutput input) = _
    rw [output]
    exact if_pos above
  have top : ledger'.top (translator.afterNew input false) = last := rfl
  have held : ∀ back < ahead 16 translator.lastInput input,
      ledger'.owner (ledger.top translator + (ahead 16 translator.lastInput input - back)) =
        some (some ((translator.afterNew input false).behind back)) := by
    intro back below
    have owner := ledger.take_new (newOwner input last)
      (show ledger.top translator < ledger.top translator + (ahead 16 translator.lastInput input - back) by omega)
      (show _ ≤ ledger.top translator + ahead 16 translator.lastInput input by omega)
    refine owner.trans ?_
    rw [newOwner, show last - (ledger.top translator + (ahead 16 translator.lastInput input - back)) = back by omega]
    rfl
  have state : (translator.step (.get input false)).1 = translator.afterNew input false := congrArg Prod.fst same
  have answer : (translator.step (.get input false)).2 = some ⟨input, UInt16.ofNat last, .valid⟩ := by
    rw [← output]
    exact congrArg some (congrArg Prod.snd same)
  refine ⟨ledger', ⟨?_, ?_, keeps, ?_⟩⟩
  · rw [state]
    refine ⟨moves, ?_, fun waiting => absurd (started.symm.trans waiting) (by decide), fun _ => ?_⟩
    · intro number above
      rw [top] at above
      exact accounts.take_free le_rfl above
    · exact booked_new accounts booked new near room rfl keeps (fun back below _ => held back below)
        (by omega) (by omega)
  · intro _
    rw [state, counts, top]
  · intro number issues
    rw [answer] at issues
    obtain rfl := Option.some_injective _ issues
    rw [state, top]
    refine ⟨last, rfl, le_rfl, by omega, ?_, fun generates => nomatch generates⟩
    have own := held 0 new
    rw [Nat.sub_zero, behind_standard] at own
    exact own.trans (congrArg (fun word => some (some word)) (sub_zero input))

/-- A skipped new input right after the last one takes nothing. -/
theorem advances_skip (accounts : translator.Accounts ledger) (started : translator.initialized = true)
    (one : ahead 16 translator.lastInput input = 1)
    (near : translator.span + ahead 16 translator.lastInput input < 2 ^ 12)
    (same : translator.get input true = (translator.afterNew input true, ⟨input, translator.newOutput input, .skip⟩))
    (sound : translator.Sound (.get input true)) :
    ∃ ledger', translator.Advances (.get input true) ledger ledger' := by
  have booked := accounts.booked started
  have room := booked.room accounts (sound.2.1 started)
  let ledger' : Ledger := { ledger with number := ledger.numberNew (ledger.top translator) 1 }
  have top : ledger'.top (translator.afterNew input true) = ledger.top translator := rfl
  have keeps : ledger.Keeps ledger' := fun _ _ => rfl
  have state : (translator.step (.get input true)).1 = translator.afterNew input true := congrArg Prod.fst same
  have answer : (translator.step (.get input true)).2 = some ⟨input, translator.newOutput input, .skip⟩ :=
    congrArg some (congrArg Prod.snd same)
  refine ⟨ledger', ⟨?_, ?_, keeps, ?_⟩⟩
  · rw [state]
    refine ⟨accounts.last, accounts.free, fun waiting => absurd (started.symm.trans waiting) (by decide), fun _ => ?_⟩
    refine booked_new accounts booked (by omega) near room (by rw [one]) keeps ?_ (by omega) (by omega)
    intro back below valid
    obtain rfl : back = 0 := by omega
    exact nomatch valid
  · intro _
    rw [state, top]
    rfl
  · intro number issues
    rw [answer] at issues
    exact nomatch issues

end New

/-! ### Inputs of the window -/

section Late

variable {input : UInt16} {skip : Bool}

/-- The entry of an input of the window, and where its number stands. -/
theorem Booked.entry (booked : translator.Booked ledger)
    (room : ledger.top translator + 1 < ledger.number translator.span + 2 ^ 15)
    (inside : ahead 16 input translator.lastInput ≤ translator.span) :
    ∃ number type, translator.internalGet input = ⟨input, UInt16.ofNat number, type⟩ ∧ type ≠ .generated ∧
      (type = .valid → ledger.owner number = some (some input)) ∧ number ≤ ledger.top translator + 1 ∧
      ledger.top translator + 1 < number + 2 ^ 15 := by
  have here : translator.behind (ahead 16 input translator.lastInput) = input :=
    behind_ahead Config.standard_serial translator input.toNat_lt
  obtain ⟨type, stored, plain, held⟩ :=
    booked.cells _ inside (fresh_standard translator (le_trans inside booked.spanned))
  simp only [address, here] at stored held
  have above := booked.sorted _ _ inside le_rfl
  have below := le_trans (booked.sorted 0 _ (Nat.zero_le _) inside) booked.top
  refine ⟨_, type, ?_, plain, held, below, by omega⟩
  rw [internalGet, stored]
  rfl

/-- The cells after an input of the window. -/
theorem Booked.cells_late (booked : translator.Booked ledger) :
    (translator.afterLate input skip).inOutBuffer.Recent translator.address
      (fun back => HoldsNumber ledger (translator.behind back) (ledger.number back)) translator.span := by
  unfold afterLate
  by_cases valid : (translator.internalGet input).type = .valid
  · simp only [if_pos valid]
    refine RingBuffer.Recent.set booked.cells fun back _ _ holds => ?_
    obtain ⟨type, stored, plain, held⟩ := holds
    have found : translator.internalGet input = ⟨translator.behind back, UInt16.ofNat (ledger.number back), type⟩ := by
      rw [internalGet, stored]
      rfl
    rw [found] at valid
    refine ⟨if skip then .discard else .valid, ?_, ?_, fun _ => held valid⟩
    · rw [lateEntry, found, if_pos valid]
    · cases skip <;> decide
  · simp only [if_neg valid]
    exact booked.cells

/-- A skipped input of the window takes and issues nothing. -/
theorem advances_discard (accounts : translator.Accounts ledger) (started : translator.initialized = true)
    (inside : ahead 16 input translator.lastInput ≤ translator.span)
    (same : translator.get input true = (translator.afterLate input true, translator.lateEntry input true))
    (sound : translator.Sound (.get input true)) : translator.Advances (.get input true) ledger ledger := by
  have booked := accounts.booked started
  have room := booked.room accounts (sound.2.1 started)
  have state : (translator.step (.get input true)).1 = translator.afterLate input true := congrArg Prod.fst same
  have answer : (translator.step (.get input true)).2 = some (translator.lateEntry input true) :=
    congrArg some (congrArg Prod.snd same)
  have top : ledger.top (translator.afterLate input true) = ledger.top translator := rfl
  obtain ⟨number, type, found, plain, _, _, _⟩ := booked.entry room inside
  refine ⟨?_, fun _ => by rw [state, top]; rfl, fun _ _ => rfl, ?_⟩
  · rw [state]
    refine ⟨accounts.last, accounts.free, fun waiting => absurd (started.symm.trans waiting) (by decide), fun _ => ?_⟩
    exact booked.frame rfl rfl booked.cells_late rfl (fun _ _ => rfl) le_rfl (by rw [top]; omega)
  · intro output issues
    rw [answer, lateEntry, found] at issues
    cases type with
    | valid | skip | discard => cases issues
    | generated => exact absurd rfl plain

/-- The last output stays, or moves up to the number of a skipped input. -/
theorem late_lastOutput (accounts : translator.Accounts ledger) (few : translator.offset.toNat < 2 ^ 15)
    {number : ℕ} {type : SequenceNumberType} (found : translator.internalGet input = ⟨input, UInt16.ofNat number, type⟩)
    (below : number ≤ ledger.top translator + 1) (above : ledger.top translator + 1 < number + 2 ^ 15)
    (steady : ¬ translator.Regresses input) :
    ∃ last, (translator.afterLate input false).lastOutput = UInt16.ofNat last ∧
      last = ledger.last + (if numberLessThan translator.lastOutput (translator.internalGet input).output 16 then
        ahead 16 translator.lastOutput (translator.internalGet input).output else 0) ∧
      last ≤ ledger.last + 2 ^ 15 ∧ last + translator.offset.toNat < number + 2 ^ 15 := by
  have tops : ledger.top translator = ledger.last + translator.offset.toNat := rfl
  have update : (translator.afterLate input false).lastOutput =
      if numberLessThan translator.lastOutput (UInt16.ofNat number) 16 then UInt16.ofNat number
      else translator.lastOutput := by
    show translator.updatedOutput false (translator.internalGet input).output = _
    rw [found]
    rfl
  rw [update]
  unfold Regresses at steady
  rw [found] at steady ⊢
  change ¬ (2 ^ 12 ≤ ahead 16 (UInt16.ofNat number) translator.lastOutput ∧
    ahead 16 (UInt16.ofNat number) translator.lastOutput < 2 ^ 15) at steady
  simp only
  by_cases behind : number ≤ ledger.last
  · have distance : ahead 16 (UInt16.ofNat number) translator.lastOutput = ledger.last - number := by
      rw [accounts.last]
      exact ahead_ofNat behind (by omega)
    have stays : ¬ numberLessThan translator.lastOutput (UInt16.ofNat number) 16 = true := by
      rw [numberLessThan_iff _ _ (by decide) (le_refl 16)]
      omega
    rw [if_neg stays, if_neg stays]
    exact ⟨ledger.last, accounts.last, rfl, by omega, by omega⟩
  · have distance : ahead 16 translator.lastOutput (UInt16.ofNat number) = number - ledger.last := by
      rw [accounts.last]
      exact ahead_ofNat (by omega) (by omega)
    have moves : numberLessThan translator.lastOutput (UInt16.ofNat number) 16 = true := by
      rw [numberLessThan_iff_ahead _ _ (by decide) (le_refl 16), distance]
      omega
    rw [if_pos moves, if_pos moves, distance]
    exact ⟨number, rfl, by omega, by omega, by omega⟩

/-- **A forwarded input of the window issues its own number.** -/
theorem advances_late (accounts : translator.Accounts ledger) (started : translator.initialized = true)
    (inside : ahead 16 input translator.lastInput ≤ translator.span)
    (same : translator.get input false = (translator.afterLate input false, translator.lateEntry input false))
    (counts : translator.taken (.get input false) =
      if numberLessThan translator.lastOutput (translator.internalGet input).output 16 then
        ahead 16 translator.lastOutput (translator.internalGet input).output else 0)
    (sound : translator.Sound (.get input false)) (steady : ¬ translator.Regresses input) :
    ∃ ledger', translator.Advances (.get input false) ledger ledger' := by
  have few := sound.1
  have booked := accounts.booked started
  have room := booked.room accounts (sound.2.1 started)
  have tops : ledger.top translator = ledger.last + translator.offset.toNat := rfl
  obtain ⟨number, type, found, plain, held, below, above⟩ := booked.entry room inside
  have state : (translator.step (.get input false)).1 = translator.afterLate input false := congrArg Prod.fst same
  have answer : (translator.step (.get input false)).2 = some ⟨input, UInt16.ofNat number, type⟩ := by
    refine (congrArg some (congrArg Prod.snd same)).trans (congrArg some ?_)
    show translator.lateEntry input false = _
    rw [lateEntry, found]
    cases type <;> rfl
  obtain ⟨last, output, moved, grows, close⟩ := late_lastOutput accounts few found below above steady
  rw [← counts] at moved
  let ledger' : Ledger := { ledger with last := last }
  have top : ledger'.top (translator.afterLate input false) =
      ledger.top translator + translator.taken (.get input false) := by
    show last + translator.offset.toNat = _
    omega
  have owned : type = .valid → number ≤ ledger.top translator := by
    intro valid
    by_contra beyond
    have nobody := accounts.free number (by omega)
    rw [held valid] at nobody
    exact absurd nobody (Option.some_ne_none _)
  refine ⟨ledger', ⟨?_, fun _ => by rw [state]; exact top, fun _ _ => rfl, ?_⟩⟩
  · rw [state]
    refine ⟨output, fun other beyond => accounts.free other (by omega),
      fun waiting => absurd (started.symm.trans waiting) (by decide), fun _ => ?_⟩
    refine booked.frame rfl rfl booked.cells_late rfl (fun _ _ => rfl) (by omega) ?_
    omega
  · intro output issues
    rw [answer] at issues
    rw [state]
    have within : ledger'.top (translator.afterLate input false) < number + 2 ^ 15 := close
    cases type with
    | valid =>
        obtain rfl := Option.some_injective _ issues
        have own := owned rfl
        exact ⟨number, rfl, by omega, within, held rfl, fun generates => by cases generates⟩
    | skip | discard => cases issues
    | generated => exact absurd rfl plain

end Late

/-! ### The first input -/

section First

variable {input : UInt16}

/-- The number of the first input: the next one, unless nothing was issued before. -/
theorem Accounts.firstNumber (accounts : translator.Accounts ledger) (waiting : translator.initialized = false)
    (input : UInt16) :
    ∃ number, translator.firstOutput input = UInt16.ofNat number ∧ ledger.top translator < number ∧
      ((∃ other, ledger.owner other ≠ none) → number = ledger.top translator + 1) := by
  by_cases continued : (translator.wasReset || decide (translator.offset > 0)) = true
  · refine ⟨ledger.top translator + 1, ?_, Nat.lt_succ_self _, fun _ => rfl⟩
    rw [← accounts.nextOutput, firstOutput, continued]
    rfl
  · have fresh : (translator.wasReset || decide (translator.offset > 0)) = false := by simpa using continued
    have nobody : ∀ other, ledger.owner other = none := by
      refine accounts.empty waiting (Bool.or_eq_false_iff.mp fresh).1 ?_
      have zero := of_decide_eq_false (Bool.or_eq_false_iff.mp fresh).2
      rw [gt_iff_lt, UInt16.lt_iff_toNat_lt] at zero
      exact UInt16.toNat_inj.mp (Nat.le_zero.mp (Nat.not_lt.mp zero))
    refine ⟨ledger.top translator + 1 + ahead 16 (UInt16.ofNat (ledger.top translator + 1)) input, ?_, by omega,
      fun held => held.elim fun other owned => absurd (nobody other) owned⟩
    rw [UInt16.ofNat_add, add_ahead_full, firstOutput, fresh]
    rfl

/-- **The first forwarded input takes the next number.** -/
theorem advances_first (accounts : translator.Accounts ledger) (waiting : translator.initialized = false)
    (sound : translator.Sound (.get input false)) :
    ∃ ledger', translator.Advances (.get input false) ledger ledger' := by
  have few := sound.1
  have same : translator.get input false =
      (translator.afterFirst input, ⟨input, translator.firstOutput input, .valid⟩) := by
    rw [get_waiting translator waiting, getFirst_forward translator waiting]
  obtain ⟨number, output, fresh, next⟩ := accounts.firstNumber waiting input
  have last : (translator.afterFirst input).lastOutput = UInt16.ofNat number := by
    rw [← output]
    exact afterFirst_lastOutput Config.standard_serial translator (by show _ + 1 + 2 ^ 12 ≤ 2 ^ 16; omega) input
  have state : (translator.step (.get input false)).1 = translator.afterFirst input := congrArg Prod.fst same
  have answer : (translator.step (.get input false)).2 = some ⟨input, UInt16.ofNat number, .valid⟩ := by
    rw [← output]
    exact congrArg some (congrArg Prod.snd same)
  have single : (translator.afterFirst input).span = 0 := ahead_self input
  have here : (translator.afterFirst input).behind 0 = input := sub_zero input
  let ledger' : Ledger := ⟨number, fun _ => number, ledger.take (number - 1) 1 fun _ => some input⟩
  have before : ledger.top translator ≤ number - 1 := by omega
  have top : ledger'.top (translator.afterFirst input) = number := rfl
  have own : ledger'.owner number = some (some input) :=
    ledger.take_new (fun _ => some input) (by omega) (by omega)
  refine ⟨ledger', ⟨?_, ?_, accounts.take_keeps before _ _ _ _, ?_⟩⟩
  · rw [state]
    refine ⟨last, fun other above => ?_, fun stopped => absurd stopped (by simp [afterFirst]), fun _ => ?_⟩
    · rw [top] at above
      have beyond : number - 1 + 1 < other := by omega
      show ledger.take (number - 1) 1 (fun _ => some input) other = none
      exact accounts.take_free before beyond
    · refine ⟨by rw [single]; exact Nat.zero_le _, ?_, fun _ _ _ _ => le_rfl, Nat.le_succ _, ?_⟩
      · intro back inside _
        obtain rfl : back = 0 := Nat.le_zero.mp (single ▸ inside)
        simp only [address, here]
        refine ⟨.valid, ?_, by decide, fun _ => own⟩
        rw [← output]
        exact RingBuffer.get_set_self _ _ _
      · show number + 1 < number + 2 ^ 16
        omega
  · intro held
    have counts : translator.taken (.get input false) = 1 := if_pos waiting
    rw [state, top, counts, next held]
  · intro other issues
    rw [answer] at issues
    obtain rfl := Option.some_injective _ issues
    rw [state, top]
    exact ⟨number, rfl, le_rfl, by omega, own, fun generates => by cases generates⟩

/-- A skipped input before the first forwarded one changes no count. -/
theorem advances_first_skip (accounts : translator.Accounts ledger) (waiting : translator.initialized = false) :
    translator.Advances (.get input true) ledger ledger := by
  have same : translator.get input true = _ := get_waiting translator waiting input true
  rw [getFirst_skip] at same
  have state := congrArg Prod.fst same
  have answer := congrArg Prod.snd same
  refine ⟨?_, ?_, fun _ _ => rfl, ?_⟩
  · show (translator.get input true).1.Accounts ledger
    rw [state]
    exact ⟨accounts.last, accounts.free, accounts.empty, fun running => absurd (waiting.symm.trans running) (by decide)⟩
  · intro _
    show ledger.top (translator.get input true).1 = _
    rw [state]
    rfl
  · intro output issues
    change issued (some (translator.get input true).2) = _ at issues
    rw [answer] at issues
    exact nomatch issues

end First

/-! ### Runs -/

/-- An input that is too old changes nothing. -/
theorem advances_old (accounts : translator.Accounts ledger) {input : UInt16} {skip : Bool}
    (same : translator.get input skip = (translator, ⟨input, 0, .skip⟩))
    (counts : translator.taken (.get input skip) = 0) : translator.Advances (.get input skip) ledger ledger := by
  have state : (translator.step (.get input skip)).1 = translator := congrArg Prod.fst same
  have answer : (translator.step (.get input skip)).2 = some ⟨input, 0, .skip⟩ :=
    congrArg some (congrArg Prod.snd same)
  refine ⟨by rw [state]; exact accounts, fun _ => by rw [state, counts]; rfl, fun _ _ => rfl, ?_⟩
  intro output issues
  rw [answer] at issues
  exact nomatch issues

theorem advances_get (accounts : translator.Accounts ledger) (started : translator.initialized = true)
    {input : UInt16} {skip : Bool} (sound : translator.Sound (.get input skip)) :
    ∃ ledger', translator.Advances (.get input skip) ledger ledger' := by
  have booked := accounts.booked started
  have spanned : translator.span ≤ 500 := booked.spanned
  have isOld := numberLessThan_iff input translator.firstInput (show 4 < 16 by decide) (le_refl 16)
  have isNew := numberLessThan_iff_ahead translator.lastInput input (show 4 < 16 by decide) (le_refl 16)
  have running : ¬ translator.initialized = false := by rw [started]; decide
  have split : translator.span + ahead 16 translator.lastInput input = ahead 16 translator.firstInput input ∨
      translator.span + ahead 16 translator.lastInput input = ahead 16 translator.firstInput input + 2 ^ 16 :=
    ahead_triangle (le_refl 16) translator.firstInput translator.lastInput input
  rcases get_cases Config.standard_serial translator started spanned input skip with
    ⟨far, same⟩ | ⟨new, near, same⟩ | ⟨inside, same⟩
  · have old : numberLessThan input translator.firstInput 16 = true := isOld.mpr far
    refine ⟨ledger, advances_old accounts same ?_⟩
    cases skip with
    | false => exact (if_neg running).trans (if_pos old)
    | true => rfl
  · change translator.span + ahead 16 translator.lastInput input < 2 ^ 12 at near
    change 0 < ahead 16 translator.lastInput input at new
    have young : ¬ numberLessThan input translator.firstInput 16 = true := by rw [isOld]; omega
    have later : numberLessThan translator.lastInput input 16 = true := isNew.mpr (by omega)
    cases skip with
    | false =>
        exact advances_forward accounts started new near same
          ((if_neg running).trans ((if_neg young).trans (if_pos later))) sound
    | true =>
        have next := sound.2.2 started (by simpa using young) later
        refine advances_skip accounts started ?_ near same sound
        rw [next]
        exact ahead_add (le_refl 16) translator.lastInput (show 1 < 2 ^ 16 by decide)
  · change ahead 16 input translator.lastInput ≤ translator.span at inside
    have within : ahead 16 translator.firstInput input ≤ translator.span :=
      (window_iff Config.standard_serial translator input).mpr inside
    have young : ¬ numberLessThan input translator.firstInput 16 = true := by rw [isOld]; omega
    have late : ¬ numberLessThan translator.lastInput input 16 = true := by
      rw [numberLessThan_iff _ _ (by decide) (le_refl 16)]
      omega
    rw [getLate_eq translator started] at same
    cases skip with
    | false =>
        exact advances_late accounts started inside same
          ((if_neg running).trans ((if_neg young).trans (if_neg late))) sound
          (sound.2.2 started (by simpa using young) (by simpa using late))
    | true => exact ⟨ledger, advances_discard accounts started inside same sound⟩

/-- **Every sound call keeps the ledger.** -/
theorem accounts_step (accounts : translator.Accounts ledger) {call : Call} (sound : translator.Sound call) :
    ∃ ledger', translator.Advances call ledger ledger' := by
  cases call with
  | get input skip =>
      by_cases started : translator.initialized = true
      · exact advances_get accounts started sound
      · have waiting : translator.initialized = false := by simpa using started
        cases skip with
        | false => exact advances_first accounts waiting sound
        | true => exact ⟨ledger, advances_first_skip accounts waiting⟩
  | generate => exact advances_generate accounts sound
  | reset => exact ⟨ledger, advances_reset accounts⟩

/-- A ledger for every sound run. -/
theorem accounts_run {calls : List Call} (accounts : translator.Accounts ledger)
    (sound : Machine.Guarded step Sound translator calls) :
    ∃ ledger', (Machine.run step translator calls).Accounts ledger' ∧ ledger.Keeps ledger' ∧
      ((∃ number, ledger.owner number ≠ none) →
        ledger'.top (Machine.run step translator calls) = ledger.top translator + translator.takenAlong calls) := by
  induction calls generalizing translator ledger with
  | nil => exact ⟨ledger, accounts, fun _ _ => rfl, fun _ => rfl⟩
  | cons call rest ih =>
      obtain ⟨middle, advances⟩ := accounts_step accounts sound.1
      obtain ⟨ledger', accounts', keeps, top⟩ := ih advances.accounts sound.2
      refine ⟨ledger', accounts', fun number held => ?_, fun ⟨number, held⟩ => ?_⟩
      · have before := advances.keeps number held
        rw [keeps number (by rw [before]; exact held), before]
      · have still : ∃ number, middle.owner number ≠ none :=
          ⟨number, by rw [advances.keeps number held]; exact held⟩
        rw [Machine.run_cons, top still, advances.top ⟨number, held⟩, takenAlong, Nat.add_assoc]

theorem takenAlong_append_singleton (translator : SequenceNumberTranslator .standard) (calls : List Call)
    (call : Call) :
    translator.takenAlong (calls ++ [call]) =
      translator.takenAlong calls + (Machine.run step translator calls).taken call := by
  induction calls generalizing translator with
  | nil => exact Nat.add_comm _ 0
  | cons head rest ih =>
      rw [List.cons_append, takenAlong, ih, takenAlong, Nat.add_assoc]
      rfl

/-- **No number for two packets.** In a run of sound calls, two calls that issue the same number,
with at most `2 ^ 15` numbers taken from after the first to the second, are calls for one input. -/
theorem issued_unique (earlier between : List Call) (first second : Call) (output : UInt16)
    (sound : Machine.Guarded step Sound (init .standard) (earlier ++ first :: (between ++ [second])))
    (near : ((after .standard earlier).step first).1.takenAlong (between ++ [second]) ≤ 2 ^ 15)
    (issuedFirst : issued ((after .standard earlier).step first).2 = some output)
    (issuedSecond : issued
      ((Machine.run step ((after .standard earlier).step first).1 between).step second).2 = some output) :
    ∃ input skip skip', first = .get input skip ∧ second = .get input skip' := by
  obtain ⟨soundEarlier, soundFirst, soundRest⟩ := Machine.guarded_append.mp sound
  obtain ⟨soundBetween, soundSecond, _⟩ := Machine.guarded_append.mp soundRest
  obtain ⟨ledger₀, accounts₀, _, _⟩ := accounts_run accounts_init soundEarlier
  obtain ⟨ledger₁, one⟩ := accounts_step accounts₀ soundFirst
  obtain ⟨ledger₂, accounts₂, keeps, top⟩ := accounts_run one.accounts soundBetween
  obtain ⟨ledger₃, two⟩ := accounts_step accounts₂ soundSecond
  obtain ⟨number, word, low, high, held, _⟩ := one.issues output issuedFirst
  obtain ⟨other, word', low', high', held', fresh⟩ := two.issues output issuedSecond
  have owned : ∃ number, ledger₁.owner number ≠ none := ⟨number, by rw [held]; exact Option.some_ne_none _⟩
  have kept : ledger₂.owner number = some (holder first) := by
    rw [keeps number (by rw [held]; exact Option.some_ne_none _), held]
  have reach : ledger₃.top _ = _ := two.top ⟨number, by rw [kept]; exact Option.some_ne_none _⟩
  rw [top owned, Nat.add_assoc, ← takenAlong_append_singleton] at reach
  unfold after at near
  have same : number = other := by
    have congruent : number % 2 ^ 16 = other % 2 ^ 16 := by
      have equal := congrArg UInt16.toNat (word.symm.trans word')
      rwa [UInt16.toNat_ofNat', UInt16.toNat_ofNat'] at equal
    omega
  subst same
  have holders : holder first = holder second := by
    rw [two.keeps number (by rw [kept]; exact Option.some_ne_none _), kept] at held'
    exact Option.some_injective _ held'
  cases second with
  | get input skip =>
      cases first with
      | get input' skip' =>
          obtain rfl := Option.some_injective _ holders
          exact ⟨input', skip', skip, rfl, rfl⟩
      | generate => exact nomatch holders
      | reset => exact nomatch holders
  | generate =>
      rw [fresh rfl] at kept
      exact nomatch kept
  | reset => exact nomatch issuedSecond

/-- A sound run in which an input is asked for twice and a lost one comes late. -/
theorem issued_unique_duplicate :
    ∃ input skip skip', Call.get 8 false = .get input skip ∧ Call.get 8 false = .get input skip' :=
  issued_unique [.get 5 false] [.generate, .get 6 false] (.get 8 false) (.get 8 false) 8
    (by decide +kernel) (by decide +kernel) (by decide +kernel) (by decide +kernel)

/-- Input 10 is skipped across a gap: input 11 is given number 6, and so is input 6 when it comes. -/
theorem issued_twice :
    ¬ ∀ (earlier between : List Call) (first second : Call) (output : UInt16), .reset ∉ between →
      ((Machine.outputs step ((after .standard earlier).step first).1 between).filterMap issued).length < 2 ^ 15 →
      issued ((after .standard earlier).step first).2 = some output →
      issued ((Machine.run step ((after .standard earlier).step first).1 between).step second).2 = some output →
      ∃ input skip skip', first = .get input skip ∧ second = .get input skip' := by
  intro always
  obtain ⟨input, skip, skip', one, two⟩ := always [.get 5 false, .get 10 true] [] (.get 11 false) (.get 6 false) 6
    (by decide) (by decide) (by decide +kernel) (by decide +kernel)
  injection one with eleven
  injection two with six
  exact absurd (eleven.trans six.symm) (by decide)

end SequenceNumberTranslator

end Erizo
