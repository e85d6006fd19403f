/-
**Lines that end in LF or in CRLF.**

`std::getline` leaves the carriage return at the end of a line. A line says the same with it when what it is
read for does not stand at its end (`EndsAlike`): `updatesOf_cr`. A text whose lines all end alike is
processed alike (`processSdp_lineEndings`).
-/

import Erizo.Proof.HostileText
import Mathlib.Data.List.TakeWhile

namespace Erizo

namespace SdpInfo

open Library StringUtil Reading

variable (unset : Uninitialised)

/-- A line with a carriage return. -/
def withCr (line : Text) : Text := line ++ ['\r']

/-- Lines, each terminated by LF. -/
def textOf (lines : List Text) : Text := lines.flatMap fun line => line ++ ['\n']

/-! ### Pieces of a line with a carriage return -/

/-- The completed pieces of a text, and what remains. -/
def cutOf (str delims : Text) (maxSplits : ℕ) : Cut Char :=
  Cut.cut (fun character => decide (character ∈ delims)) (if maxSplits = 0 then none else some maxSplits) str

/-- A text ends where its piece at an index would begin. -/
def EndsBefore (str delims : Text) (maxSplits index : ℕ) : Prop :=
  (cutOf str delims maxSplits).pieces.length = index ∧ (cutOf str delims maxSplits).rest = []

instance (str delims : Text) (maxSplits index : ℕ) : Decidable (EndsBefore str delims maxSplits index) :=
  inferInstanceAs (Decidable (_ ∧ _))

section Pieces

variable {line delims pattern : Text} {maxSplits index : ℕ}

/-- A pattern without a carriage return is found as before. -/
theorem find_withCr (free : '\r' ∉ pattern) : (withCr line).find pattern = line.find pattern := by
  refine decide_eq_decide.mpr ⟨fun found => ?_, fun found => found.trans (List.prefix_append line _).isInfix⟩
  rcases List.infix_concat_iff.mp found with ⟨early, same⟩ | inside
  · rcases List.eq_nil_or_concat pattern with rfl | ⟨init, last, rfl⟩
    · exact List.nil_infix
    · rw [List.concat_eq_append, ← List.append_assoc] at same
      have cr := List.append_inj_right' same rfl
      exact absurd (by simp [List.singleton_inj.mp cr]) free
  · exact inside

/-- The carriage return is added to what remains. -/
theorem cutOf_withCr (free : '\r' ∉ delims) : cutOf (withCr line) delims maxSplits =
    ⟨(cutOf line delims maxSplits).pieces, (cutOf line delims maxSplits).rest ++ ['\r']⟩ := by
  rw [cutOf, withCr, Cut.cut_snoc, Cut.step, if_neg fun both => absurd both.1 (by simp [free])]
  rfl

/-- The pieces of a line with a carriage return. -/
theorem splitOneOf_withCr (free : '\r' ∉ delims) : splitOneOf (withCr line) delims maxSplits =
    (cutOf line delims maxSplits).pieces ++ [(cutOf line delims maxSplits).rest ++ ['\r']] := by
  refine (congrArg Cut.toList (cutOf_withCr free)).trans ?_
  exact Cut.toList_of_ne_nil (List.append_ne_nil_of_right_ne_nil _ (List.cons_ne_nil _ _))

/-- There is no piece past the last one. -/
theorem getElem?_past (past : (cutOf line delims maxSplits).pieces.length < index) :
    (splitOneOf line delims maxSplits)[index]? = none := by
  change (cutOf line delims maxSplits).toList[index]? = none
  by_cases remains : (cutOf line delims maxSplits).rest = []
  · rw [Cut.toList, remains, List.getElem?_eq_none past.le]
  · rw [Cut.toList_of_ne_nil remains, List.getElem?_eq_none]
    rwa [List.length_append, List.length_singleton]

theorem length_splitOneOf_le :
    (splitOneOf line delims maxSplits).length ≤ (cutOf line delims maxSplits).pieces.length + 1 := by
  change (cutOf line delims maxSplits).toList.length ≤ _
  by_cases remains : (cutOf line delims maxSplits).rest = []
  · rw [Cut.toList, remains]
    exact Nat.le_succ _
  · rw [Cut.toList_of_ne_nil remains, List.length_append, List.length_singleton]

/-- A piece that is not the last one stays. -/
theorem getElem?_withCr (free : '\r' ∉ delims) (other : (cutOf line delims maxSplits).pieces.length ≠ index) :
    (splitOneOf (withCr line) delims maxSplits)[index]? = (splitOneOf line delims maxSplits)[index]? := by
  rw [splitOneOf_withCr free]
  change _ = (cutOf line delims maxSplits).toList[index]?
  rcases lt_or_gt_of_ne other with past | before
  · refine Eq.trans ?_ (getElem?_past past).symm
    rw [List.getElem?_eq_none]
    rwa [List.length_append, List.length_singleton]
  · rw [List.getElem?_append_left before, Cut.getElem?_toList before]

/-- The last piece gets the carriage return. -/
theorem getElem?_last_withCr (free : '\r' ∉ delims) (last : (cutOf line delims maxSplits).pieces.length = index)
    (remains : (cutOf line delims maxSplits).rest ≠ []) :
    (splitOneOf line delims maxSplits)[index]? = some (cutOf line delims maxSplits).rest ∧
      (splitOneOf (withCr line) delims maxSplits)[index]? = some (withCr (cutOf line delims maxSplits).rest) := by
  constructor
  · change (cutOf line delims maxSplits).toList[index]? = _
    rw [Cut.toList_of_ne_nil remains, ← last, List.getElem?_concat_length]
  · rw [splitOneOf_withCr free, ← last, List.getElem?_concat_length]
    rfl

/-- What reads a piece alike reads a line alike that does not end before it. -/
theorem bind_withCr {α : Type} {read : Text → Option α} (free : '\r' ∉ delims)
    (ends : ¬ EndsBefore line delims maxSplits index)
    (alike : ∀ piece, (splitOneOf line delims maxSplits)[index]? = some piece → read (withCr piece) = read piece) :
    ((splitOneOf (withCr line) delims maxSplits)[index]?).bind read =
      ((splitOneOf line delims maxSplits)[index]?).bind read := by
  by_cases last : (cutOf line delims maxSplits).pieces.length = index
  · obtain ⟨here, there⟩ := getElem?_last_withCr free last fun nothing => ends ⟨last, nothing⟩
    rw [here, there, Option.bind_some, Option.bind_some]
    exact alike _ here
  · rw [getElem?_withCr free last]

end Pieces

/-! ### What is read alike -/

/-- A blank at the end does not change a number. -/
theorem digits_withCr (text : Text) : digits (withCr text) = digits text ∧ (sign (withCr text)).1 = (sign text).1 := by
  have blank : isSpace '\r' = true := rfl
  have skip : (withCr text).dropWhile isSpace =
      if text.dropWhile isSpace = [] then [] else text.dropWhile isSpace ++ ['\r'] := by
    rw [withCr, List.dropWhile_append]
    simp [blank, List.isEmpty_iff]
  have number : ∀ rest : Text, (rest ++ ['\r']).takeWhile Char.isDigit = rest.takeWhile Char.isDigit := by
    intro rest
    rw [List.takeWhile_append]
    split_ifs with all
    · rw [List.takeWhile_cons_of_neg (by decide), List.append_nil]
      exact ((List.takeWhile_prefix _).eq_of_length all).symm
    · rfl
  unfold digits sign
  rw [skip]
  split_ifs with empty
  · rw [empty]
    exact ⟨rfl, rfl⟩
  · cases stripped : text.dropWhile isSpace with
    | nil => exact absurd stripped empty
    | cons character rest =>
        rw [List.cons_append]
        by_cases minus : character = '-'
        · rw [minus]
          exact ⟨number rest, rfl⟩
        · by_cases plus : character = '+'
          · rw [plus]
            exact ⟨number rest, rfl⟩
          · simpa [minus, plus] using number (character :: rest)

theorem toUnsigned_withCr (text : Text) : toUnsigned (withCr text) = toUnsigned text := by
  obtain ⟨number, minus⟩ := digits_withCr text
  rw [toUnsigned, toUnsigned, strtoul, strtoul, digitsValue, digitsValue, number, minus]

/-- Whether a text starts with a word does not depend on a carriage return at its end. -/
theorem take_withCr_iff {text word : Text} (free : '\r' ∉ word) :
    (withCr text).take word.length = word ↔ text.take word.length = word := by
  by_cases long : word.length ≤ text.length
  · rw [withCr, List.take_append_of_le_length long]
  · rw [not_le] at long
    refine iff_of_false (fun same => free ?_) fun same => ?_
    · rw [List.take_of_length_le (by simp [withCr]; omega)] at same
      rw [← same]
      exact List.mem_append_right _ List.mem_cons_self
    · rw [List.take_of_length_le long.le] at same
      exact absurd (congrArg List.length same) long.ne

/-- A restriction identifier is read up to its direction. -/
theorem ridOf_withCr (raw : Text) : ridOf (withCr raw) = ridOf raw := by
  unfold ridOf
  rw [find_withCr (by decide)]
  split_ifs with blank
  · have member : ' ' ∈ raw := by
      obtain ⟨early, late, same⟩ := of_decide_eq_true blank
      rw [← same]
      simp
    have part : (raw.takeWhile (· ≠ ' ')).length ≠ raw.length := by
      intro all
      have every := List.takeWhile_eq_self_iff.mp ((List.takeWhile_prefix _).eq_of_length all) ' ' member
      exact absurd every (by decide)
    have id : (withCr raw).takeWhile (· ≠ ' ') = raw.takeWhile (· ≠ ' ') := by
      rw [withCr, List.takeWhile_append, if_neg part]
    have short : (raw.takeWhile (· ≠ ' ')).length + 1 ≤ raw.length :=
      lt_of_le_of_ne (List.takeWhile_prefix _).length_le part
    have direction : (withCr raw).drop ((raw.takeWhile (· ≠ ' ')).length + 1) =
        withCr (raw.drop ((raw.takeWhile (· ≠ ' ')).length + 1)) := List.drop_append_of_le_length short
    have send := @take_withCr_iff (raw.drop ((raw.takeWhile (· ≠ ' ')).length + 1)) "send".toList (by decide)
    have recv := @take_withCr_iff (raw.drop ((raw.takeWhile (· ≠ ' ')).length + 1)) "recv".toList (by decide)
    simp only [id, direction]
    refine ite_congr (propext send) (fun _ => rfl) fun _ => ite_congr (propext recv) (fun _ => rfl) fun _ => rfl
  · rfl

theorem dtlsRoleOf_withCr (value : Text) : dtlsRoleOf (withCr value) = dtlsRoleOf value := by
  unfold dtlsRoleOf
  rw [find_withCr (by decide), find_withCr (by decide)]

/-- What comes before the carriage return. -/
theorem splitOneOf_cr {value : Text} (free : '\r' ∉ value) (some : value ≠ []) :
    splitOneOf (withCr value) "\r".toList 1 = [value] ∧ splitOneOf value "\r".toList 1 = [value] := by
  have unbroken : Cut.cut (fun character => decide (character ∈ "\r".toList)) (Option.some 1) value = ⟨[], value⟩ := by
    refine (Cut.fold_free (fun character member => ?_) ⟨[], []⟩).trans rfl
    have other : character ≠ '\r' := fun same => free (same ▸ member)
    simp [other]
  constructor
  · have broken : Cut.cut (fun character => decide (character ∈ "\r".toList)) (Option.some 1) (withCr value) =
        ⟨[value], []⟩ := by
      rw [withCr, Cut.cut_snoc, unbroken]
      rfl
    exact congrArg Cut.toList broken
  · exact (congrArg Cut.toList unbroken).trans (Cut.toList_of_ne_nil some)

/-! ### Lines that end alike -/

/-- A line that ends in the piece at an index. -/
def EndsIn (str delims : Text) (maxSplits index : ℕ) : Prop := (cutOf str delims maxSplits).pieces.length = index

instance (str delims : Text) (maxSplits index : ℕ) : Decidable (EndsIn str delims maxSplits index) :=
  inferInstanceAs (Decidable (_ = _))

/-- The last part of an `fmtp` line is not empty, and gives the same parameter, or none, with and without its last
character. -/
def LastPartAlike (line : Text) : Prop :=
  3 ≤ (splitOneOf line " :;".toList 40).length → ∀ last ∈ (splitOneOf line " :;".toList 40).getLast?,
    last ≠ [] ∧ parameterOf last.dropLast = parameterOf last

instance (line : Text) : Decidable (LastPartAlike line) :=
  inferInstanceAs (Decidable (_ → ∀ last ∈ (splitOneOf line " :;".toList 40).getLast?, _))

/-- What a line is read for does not stand at its end. -/
structure EndsAlike (line : Text) (mtype : MediaType) : Prop where
  fingerprint : line.find fp → ∀ value ∈ (splitOneOf line ":".toList 1)[1]?, ¬ EndsIn value " ".toList 0 1
  setup : line.find setup → ¬ EndsBefore line ":".toList 1 1
  group : line.find group → (cutOf line ":  \r\n".toList 10).rest ≠ [] ∧ (cutOf line ":  \r\n".toList 10).pieces.length < 10
  candidate : line.find cand → candidateOf unset (splitOneOf line " :".toList 0) mtype line = some none
  crypto : line.find crypto → ¬ EndsIn line " :".toList 0 4
  username : line.find iceUser → ¬ EndsBefore line ":".toList 1 1
  password : line.find icePass → ¬ EndsBefore line ":".toList 1 1
  mid : line.find mid → ¬ EndsBefore line ": \r\n".toList 4 1
  rid : line.find rid → mtype = .video → ¬ EndsBefore line ":".toList 2 1
  rtpmap : line.find rtpmap → ¬ EndsBefore line " :/\n".toList 4 3
  extmap : ¬ line.find extmap
  feedback : ¬ line.find rtcpfb
  fmtp : line.find fmtp → LastPartAlike line ∧
    (EndsBefore line " :;".toList 40 2 → line.find bas → mtype ≠ .video)
  bandwidth : line.find bas → mtype = .video → ¬ EndsBefore line ":".toList 2 1

section Kinds

variable {line : Text} {mtype : MediaType}

theorem fingerprintUpdates_withCr
    (alike : line.find fp → ∀ value ∈ (splitOneOf line ":".toList 1)[1]?, ¬ EndsIn value " ".toList 0 1) :
    fingerprintUpdates (withCr line) = fingerprintUpdates line := by
  unfold fingerprintUpdates
  rw [find_withCr (by decide)]
  refine ite_congr rfl (fun here => ?_) fun _ => rfl
  by_cases nothing : EndsBefore line ":".toList 1 1
  · -- the carriage return is no fingerprint either
    have absent : (splitOneOf line ":".toList 1)[1]? = none := by
      change (cutOf line ":".toList 1).toList[1]? = none
      obtain ⟨one, remains⟩ := nothing
      rw [Cut.toList, remains, List.getElem?_eq_none one.le]
    have present : (splitOneOf (withCr line) ":".toList 1)[1]? = some ['\r'] := by
      rw [splitOneOf_withCr (by decide), nothing.2, List.getElem?_append_right nothing.1.le, nothing.1]
      rfl
    rw [absent, present]
    rfl
  · exact bind_withCr (by decide) nothing fun value found =>
      congrArg (Option.bind · _) (getElem?_withCr (by decide) (alike here value found))

theorem setupUpdates_withCr (alike : line.find setup → ¬ EndsBefore line ":".toList 1 1) :
    setupUpdates (withCr line) = setupUpdates line := by
  unfold setupUpdates
  rw [find_withCr (by decide)]
  refine ite_congr rfl (fun here => ?_) fun _ => rfl
  exact bind_withCr (by decide) (alike here) fun value _ => by rw [dtlsRoleOf_withCr]

/-- A carriage return that completes the last piece. -/
theorem splitOneOf_completed {delims : Text} {maxSplits : ℕ} (delimits : '\r' ∈ delims)
    (more : ∀ bound ∈ (if maxSplits = 0 then none else some maxSplits),
      (cutOf line delims maxSplits).pieces.length < bound) :
    splitOneOf (withCr line) delims maxSplits =
      (cutOf line delims maxSplits).pieces ++ [(cutOf line delims maxSplits).rest] := by
  rw [splitOneOf, Cut.split, withCr, Cut.cut_snoc, Cut.step, if_pos ⟨by simp [delimits], more⟩, Cut.toList_nil]
  rfl

theorem groupUpdates_withCr (alike : line.find group → (cutOf line ":  \r\n".toList 10).rest ≠ [] ∧
    (cutOf line ":  \r\n".toList 10).pieces.length < 10) : groupUpdates (withCr line) = groupUpdates line := by
  unfold groupUpdates
  rw [find_withCr (by decide)]
  refine ite_congr rfl (fun here => ?_) fun _ => rfl
  obtain ⟨remains, few⟩ := alike here
  have same : splitOneOf (withCr line) ":  \r\n".toList 10 = splitOneOf line ":  \r\n".toList 10 := by
    rw [splitOneOf_completed (by decide) fun bound is => by simpa [← Option.some_injective _ is] using few]
    exact (Cut.toList_of_ne_nil remains).symm
  rw [same]

theorem credentialUpdates_withCr {pattern : Text} (free : '\r' ∉ pattern) (clean : '\r' ∉ line)
    (update : MediaType → Text → Update) (alike : line.find pattern → ¬ EndsBefore line ":".toList 1 1) :
    credentialUpdates (withCr line) mtype pattern update = credentialUpdates line mtype pattern update := by
  unfold credentialUpdates
  rw [find_withCr free]
  refine ite_congr rfl (fun here => ?_) fun _ => rfl
  refine bind_withCr (by decide) (alike here) fun value found => ?_
  have some : value ≠ [] := Cut.ne_nil_of_getElem?_split found
  have part : '\r' ∉ value := fun cr => clean (Cut.subset_of_mem_split (List.mem_of_getElem? found) cr)
  obtain ⟨with_cr, without⟩ := splitOneOf_cr part some
  rw [with_cr, without]

theorem midUpdates_withCr (alike : line.find mid → ¬ EndsBefore line ": \r\n".toList 4 1) :
    midUpdates (withCr line) mtype = midUpdates line mtype := by
  unfold midUpdates
  rw [find_withCr (by decide)]
  refine ite_congr rfl (fun here => ?_) fun _ => rfl
  have ends := alike here
  have same : (splitOneOf (withCr line) ": \r\n".toList 4)[1]? = (splitOneOf line ": \r\n".toList 4)[1]? := by
    change _ = (cutOf line ": \r\n".toList 4).toList[1]?
    by_cases few : (cutOf line ": \r\n".toList 4).pieces.length < 4
    · rw [splitOneOf_completed (by decide) fun bound is => by simpa [← Option.some_injective _ is] using few]
      by_cases remains : (cutOf line ": \r\n".toList 4).rest = []
      · have other : (cutOf line ": \r\n".toList 4).pieces.length ≠ 1 := fun one => ends ⟨one, remains⟩
        rw [Cut.toList, remains]
        simp only
        rcases Nat.lt_or_ge 1 (cutOf line ": \r\n".toList 4).pieces.length with more | less
        · rw [List.getElem?_append_left more]
        · rw [List.getElem?_eq_none less, List.getElem?_eq_none (by rw [List.length_append, List.length_singleton]; omega)]
      · rw [Cut.toList_of_ne_nil remains]
    · have completed : 1 < (cutOf line ": \r\n".toList 4).pieces.length := by omega
      have full : (cutOf (withCr line) ": \r\n".toList 4) =
          ⟨(cutOf line ": \r\n".toList 4).pieces, (cutOf line ": \r\n".toList 4).rest ++ ['\r']⟩ := by
        rw [cutOf, withCr, Cut.cut_snoc, Cut.step, if_neg fun both => few (both.2 4 rfl)]
        rfl
      change (cutOf (withCr line) ": \r\n".toList 4).toList[1]? = _
      rw [full, Cut.getElem?_toList completed]
      exact @Cut.getElem?_toList _ ⟨_, _⟩ 1 completed
  rw [same]

theorem ridUpdates_withCr (alike : line.find rid → mtype = .video → ¬ EndsBefore line ":".toList 2 1) :
    ridUpdates (withCr line) mtype = ridUpdates line mtype := by
  unfold ridUpdates
  rw [find_withCr (by decide)]
  refine ite_congr rfl (fun here => ite_congr rfl (fun video => ?_) fun _ => rfl) fun _ => rfl
  exact bind_withCr (by decide) (alike here video) fun value _ => by rw [ridOf_withCr]

theorem rtpmapUpdates_withCr (alike : line.find rtpmap → ¬ EndsBefore line " :/\n".toList 4 3) :
    rtpmapUpdates (withCr line) mtype = rtpmapUpdates line mtype := by
  unfold rtpmapUpdates
  rw [find_withCr (by decide)]
  refine ite_congr rfl (fun here => ?_) fun _ => rfl
  simp only
  by_cases few : (cutOf line " :/\n".toList 4).pieces.length < 3
  · -- there is no third piece either way
    have absent : (splitOneOf line " :/\n".toList 4)[3]? = none := getElem?_past (by omega)
    have absentCr : (splitOneOf (withCr line) " :/\n".toList 4)[3]? = none := by
      rw [getElem?_withCr (by decide) (by omega), absent]
    rw [absent, absentCr]
    cases (splitOneOf line " :/\n".toList 4)[1]? <;> cases (splitOneOf line " :/\n".toList 4)[2]? <;>
      cases (splitOneOf (withCr line) " :/\n".toList 4)[1]? <;> cases
        (splitOneOf (withCr line) " :/\n".toList 4)[2]? <;> rfl
  · rw [getElem?_withCr (by decide) (by omega), getElem?_withCr (by decide) (by omega)]
    refine Option.bind_congr fun pt _ => Option.bind_congr fun name _ => ?_
    exact bind_withCr (by decide) (alike here) fun value _ => by rw [toUnsigned_withCr]

theorem bandwidthUpdates_withCr (alike : line.find bas → mtype = .video → ¬ EndsBefore line ":".toList 2 1) :
    bandwidthUpdates (withCr line) mtype = bandwidthUpdates line mtype := by
  unfold bandwidthUpdates
  rw [find_withCr (by decide)]
  refine ite_congr rfl (fun here => ite_congr rfl (fun video => ?_) fun _ => rfl) fun _ => rfl
  rw [Option.map_eq_bind, Option.map_eq_bind]
  refine congrArg Option.toList (bind_withCr (by decide) (alike here video) fun value _ => ?_)
  rw [Function.comp_apply, Function.comp_apply, toUnsigned_withCr]

theorem cryptoUpdates_withCr (alike : line.find crypto → ¬ EndsIn line " :".toList 0 4) :
    cryptoUpdates (withCr line) mtype = cryptoUpdates line mtype := by
  unfold cryptoUpdates
  rw [find_withCr (by decide)]
  refine ite_congr rfl (fun here => ?_) fun _ => rfl
  simp only
  rw [getElem?_withCr (by decide) (alike here)]
  by_cases few : (cutOf line " :".toList 0).pieces.length = 2
  · have absent : (splitOneOf line " :".toList 0)[4]? = none := getElem?_past (by omega)
    rw [absent]
    cases (splitOneOf line " :".toList 0)[2]? <;> cases (splitOneOf (withCr line) " :".toList 0)[2]? <;> rfl
  · rw [getElem?_withCr (by decide) few]

/-- A piece with or without the carriage return. -/
theorem getElem?_withCr_cases {delims piece : Text} {maxSplits index : ℕ} (free : '\r' ∉ delims)
    (found : (splitOneOf line delims maxSplits)[index]? = some piece) :
    (splitOneOf (withCr line) delims maxSplits)[index]? = some piece ∨
      (splitOneOf (withCr line) delims maxSplits)[index]? = some (withCr piece) := by
  by_cases last : (cutOf line delims maxSplits).pieces.length = index
  · by_cases remains : (cutOf line delims maxSplits).rest = []
    · change (cutOf line delims maxSplits).toList[index]? = some piece at found
      rw [Cut.toList, remains, List.getElem?_eq_none last.le] at found
      exact absurd found (Option.some_ne_none _).symm
    · obtain ⟨here, there⟩ := getElem?_last_withCr free last remains
      rw [here] at found
      rw [← Option.some_injective _ found]
      exact Or.inr there
  · rw [getElem?_withCr free last]
    exact Or.inl found

/-- What is not a word is not one with a carriage return. -/
theorem withCr_ne {piece word : Text} (free : '\r' ∉ word) : withCr piece ≠ word := by
  rintro rfl
  exact free (List.mem_append_right _ List.mem_cons_self)

/-- A candidate is ignored for its protocol or for the word before its type. -/
theorem candidateOf_ignored_iff (pieces : List Text) : candidateOf unset pieces mtype line = some none ↔
    (∃ netProtocol, pieces[3]? = some netProtocol ∧ netProtocol ≠ "UDP".toList ∧ netProtocol ≠ "udp".toList) ∨
      (pieces[3]? = some "UDP".toList ∨ pieces[3]? = some "udp".toList) ∧
        ∃ typ, pieces[7]? = some typ ∧ typ ≠ "typ".toList := by
  have piece : ∀ {index later : ℕ} {value}, pieces[later]? = some value → index ≤ later → ∃ value,
    pieces[index]? = some value :=
    fun found le => ⟨_, List.getElem?_eq_getElem (lt_of_le_of_lt le (List.getElem?_eq_some_iff.mp found).1)⟩
  constructor
  · intro ignored
    obtain ⟨_, -, ignored⟩ := Option.bind_eq_some_iff.mp ignored
    obtain ⟨_, -, ignored⟩ := Option.bind_eq_some_iff.mp ignored
    obtain ⟨netProtocol, found, ignored⟩ := Option.bind_eq_some_iff.mp ignored
    split_ifs at ignored with other
    · exact Or.inl ⟨netProtocol, found, other⟩
    · obtain ⟨_, -, ignored⟩ := Option.bind_eq_some_iff.mp ignored
      obtain ⟨_, -, ignored⟩ := Option.bind_eq_some_iff.mp ignored
      obtain ⟨_, -, ignored⟩ := Option.bind_eq_some_iff.mp ignored
      obtain ⟨typ, typed, ignored⟩ := Option.bind_eq_some_iff.mp ignored
      split_ifs at ignored with untyped
      · refine Or.inr ⟨?_, typ, typed, untyped⟩
        rw [found, Option.some_inj, Option.some_inj]
        tauto
      · obtain ⟨type, -, ignored⟩ := Option.bind_eq_some_iff.mp ignored
        simp only at ignored
        split_ifs at ignored
        · obtain ⟨_, -, ignored⟩ := Option.bind_eq_some_iff.mp ignored
          obtain ⟨_, -, ignored⟩ := Option.bind_eq_some_iff.mp ignored
          exact (nomatch ignored)
        · exact (nomatch ignored)
  · rintro (⟨netProtocol, found, other⟩ | ⟨udp, typ, typed, untyped⟩)
    · obtain ⟨foundation, first⟩ := piece found (show 1 ≤ 3 by decide)
      obtain ⟨componentId, second⟩ := piece found (show 2 ≤ 3 by decide)
      rw [candidateOf, first, second, found]
      exact if_pos other
    · obtain ⟨foundation, first⟩ := piece typed (show 1 ≤ 7 by decide)
      obtain ⟨componentId, second⟩ := piece typed (show 2 ≤ 7 by decide)
      obtain ⟨netProtocol, found⟩ := piece typed (show 3 ≤ 7 by decide)
      obtain ⟨priority, fourth⟩ := piece typed (show 4 ≤ 7 by decide)
      obtain ⟨hostAddress, fifth⟩ := piece typed (show 5 ≤ 7 by decide)
      obtain ⟨hostPort, sixth⟩ := piece typed (show 6 ≤ 7 by decide)
      rw [found, Option.some_inj, Option.some_inj] at udp
      rw [candidateOf, first, second, found, fourth, fifth, sixth, typed]
      refine (if_neg ?_).trans (if_pos untyped)
      tauto

theorem candidateUpdates_withCr
    (alike : line.find cand → candidateOf unset (splitOneOf line " :".toList 0) mtype line = some none) :
    candidateUpdates unset (withCr line) mtype = candidateUpdates unset line mtype := by
  unfold candidateUpdates
  rw [find_withCr (by decide)]
  refine ite_congr rfl (fun here => ?_) fun _ => rfl
  have ignored := alike here
  have again : candidateOf unset (splitOneOf (withCr line) " :".toList 0) mtype (withCr line) = some none := by
    rw [candidateOf_ignored_iff] at ignored ⊢
    rcases ignored with ⟨netProtocol, found, upper, lower⟩ | ⟨udp, typ, found, ne⟩
    · rcases getElem?_withCr_cases (by decide) found with same | with_cr
      · exact Or.inl ⟨netProtocol, same, upper, lower⟩
      · exact Or.inl ⟨withCr netProtocol, with_cr, withCr_ne (by decide), withCr_ne (by decide)⟩
    · have later : (cutOf line " :".toList 0).pieces.length ≠ 3 := by
        intro three
        rw [getElem?_past (by omega)] at found
        exact (nomatch found)
      refine Or.inr ⟨?_, ?_⟩
      · rwa [getElem?_withCr (by decide) later]
      · rcases getElem?_withCr_cases (by decide) found with same | with_cr
        · exact ⟨typ, same, ne⟩
        · exact ⟨withCr typ, with_cr, withCr_ne (by decide)⟩
  rw [ignored, again]

/-- The parameters of parts and a last one. -/
theorem parametersOf_snoc (parts : List Text) (last : Text) : parametersOf (parts ++ [last]) =
    (popBack last).map fun last => (parts.flatMap fun part => (parameterOf part).toList) ++ (parameterOf last).toList := by
  induction parts with
  | nil =>
      rw [List.nil_append, parametersOf]
      cases popBack last <;> rfl
  | cons part parts ih =>
      rw [List.cons_append, parametersOf.eq_3 part (parts ++ [last])
        (List.append_ne_nil_of_right_ne_nil _ (List.cons_ne_nil _ _)), ih]
      cases popBack last <;> simp

theorem popBack_withCr (text : Text) : popBack (withCr text) = some text := by
  have remains : withCr text ≠ [] := List.append_ne_nil_of_right_ne_nil _ (List.cons_ne_nil _ _)
  rw [popBack, if_neg remains, withCr, List.dropLast_concat]

/-- The parts of an `fmtp` line. -/
theorem parametersOf_withCr (enough : 3 ≤ (splitOneOf line " :;".toList 40).length) (alike : LastPartAlike line) :
    parametersOf ((splitOneOf (withCr line) " :;".toList 40).drop 2) =
      parametersOf ((splitOneOf line " :;".toList 40).drop 2) := by
  have ends := alike enough
  have whole : splitOneOf line " :;".toList 40 = (cutOf line " :;".toList 40).toList := rfl
  rw [splitOneOf_withCr (by decide), whole]
  rw [whole] at ends enough
  by_cases remains : (cutOf line " :;".toList 40).rest = []
  · -- the last part was completed, and the carriage return stands alone
    rw [Cut.toList, remains] at ends enough ⊢
    simp only at ends enough ⊢
    obtain ⟨init, last, same⟩ : ∃ init last, (cutOf line " :;".toList 40).pieces = init ++ [last] :=
      ⟨_, _, (List.dropLast_append_getLast (List.ne_nil_of_length_pos (by omega))).symm⟩
    rw [same] at ends enough ⊢
    rw [List.length_append, List.length_singleton] at enough
    obtain ⟨remains, parameter⟩ := ends last (by simp)
    have alone : parameterOf [] = none := rfl
    have shortened : popBack last = some last.dropLast := if_neg remains
    rw [List.drop_append_of_le_length (by simp; omega), List.drop_append_of_le_length (by omega), parametersOf_snoc,
      parametersOf_snoc, shortened, Option.map_some, parameter, List.flatMap_append]
    change (popBack (withCr [])).map _ = _
    rw [popBack_withCr, Option.map_some, alone]
    simp
  · rw [Cut.toList_of_ne_nil remains] at ends enough ⊢
    rw [List.length_append, List.length_singleton] at enough
    obtain ⟨-, parameter⟩ := ends _ List.getLast?_concat
    rw [List.drop_append_of_le_length (by omega), List.drop_append_of_le_length (by omega), parametersOf_snoc,
      parametersOf_snoc]
    change (popBack (withCr _)).map _ = _
    rw [popBack_withCr, popBack, if_neg remains, Option.map_some, Option.map_some, parameter]

theorem fmtpUpdates_withCr (alike : line.find fmtp → LastPartAlike line ∧
      (EndsBefore line " :;".toList 40 2 → line.find bas → mtype ≠ .video))
    (bandwidth : line.find bas → mtype = .video → ¬ EndsBefore line ":".toList 2 1) :
    fmtpUpdates (withCr line) mtype = fmtpUpdates line mtype := by
  unfold fmtpUpdates
  rw [find_withCr (by decide), bandwidthUpdates_withCr bandwidth]
  refine ite_congr rfl (fun here => ?_) fun _ => rfl
  obtain ⟨lastPart, short⟩ := alike here
  simp only
  by_cases enough : 3 ≤ (splitOneOf line " :;".toList 40).length
  · have completed : (splitOneOf line " :;".toList 40).length ≤ (cutOf line " :;".toList 40).pieces.length + 1 :=
      length_splitOneOf_le
    have more : 3 ≤ (splitOneOf (withCr line) " :;".toList 40).length := by
      rw [splitOneOf_withCr (by decide), List.length_append, List.length_singleton]
      omega
    rw [if_neg (not_lt.mpr enough), if_neg (not_lt.mpr more), getElem?_withCr (by decide) (by omega),
      parametersOf_withCr enough lastPart]
  · rw [if_pos (not_le.mp enough)]
    by_cases again : (splitOneOf (withCr line) " :;".toList 40).length < 3
    · rw [if_pos again]
    · -- the carriage return is a third part, and no parameter
      have whole : splitOneOf line " :;".toList 40 = (cutOf line " :;".toList 40).toList := rfl
      rw [splitOneOf_withCr (by decide), List.length_append, List.length_singleton] at again
      have remains : (cutOf line " :;".toList 40).rest = [] := by
        by_contra some
        rw [whole, Cut.toList_of_ne_nil some, List.length_append, List.length_singleton] at enough
        exact again (not_le.mp enough)
      rw [whole, Cut.toList, remains] at enough
      simp only at enough
      have two : (cutOf line " :;".toList 40).pieces.length = 2 := by omega
      have silent : bandwidthUpdates line mtype = [] := by
        unfold bandwidthUpdates
        split_ifs with found video
        · exact absurd video (short ⟨two, remains⟩ found)
        · rfl
        · rfl
      have alone : parametersOf [[] ++ ['\r']] = some [] := rfl
      rw [splitOneOf_withCr (by decide), if_neg (by rwa [List.length_append, List.length_singleton]),
        List.getElem?_append_left (by omega), List.drop_append_of_le_length two.ge, List.drop_eq_nil_of_le two.le,
        List.nil_append, remains, alone, silent, List.getElem?_eq_getElem (by omega)]
      rfl

/-- **A line that ends alike says the same** with and without a carriage return. -/
theorem updatesOf_withCr (clean : '\r' ∉ line) (mlineNum : ℤ) (alike : EndsAlike unset line (mediaAfter line mtype)) :
    updatesOf unset (withCr line) mtype mlineNum = updatesOf unset line mtype mlineNum := by
  have section_eq : mediaAfter (withCr line) mtype = mediaAfter line mtype := by
    rw [mediaAfter, find_withCr (by decide), find_withCr (by decide), mediaAfter]
  have mlines : mlineUpdates (withCr line) mlineNum = mlineUpdates line mlineNum := by
    rw [mlineUpdates, mlinesOf, find_withCr (by decide), find_withCr (by decide), mlineUpdates, mlinesOf]
  have session : sessionUpdates (withCr line) mtype = sessionUpdates line mtype := by
    unfold sessionUpdates rtcpMuxUpdates directionUpdates profileUpdates
    rw [find_withCr (by decide), find_withCr (by decide), find_withCr (by decide), find_withCr (by decide),
      find_withCr (by decide), fingerprintUpdates_withCr alike.fingerprint, setupUpdates_withCr alike.setup,
      groupUpdates_withCr alike.group]
  have noExtmap : ∀ mtype, extMapUpdates (withCr line) mtype = extMapUpdates line mtype := by
    intro mtype
    rw [extMapUpdates, find_withCr (by decide), if_neg alike.extmap, extMapUpdates, if_neg alike.extmap]
  have noFeedback : feedbackUpdates (withCr line) = feedbackUpdates line := by
    rw [feedbackUpdates, find_withCr (by decide), if_neg alike.feedback, feedbackUpdates, if_neg alike.feedback]
  rw [updatesOf, section_eq, mlines, session, attributeUpdates, candidateUpdates_withCr unset alike.candidate,
    cryptoUpdates_withCr alike.crypto, credentialUpdates_withCr (by decide) clean _ alike.username,
    credentialUpdates_withCr (by decide) clean _ alike.password, midUpdates_withCr alike.mid, ridUpdates_withCr alike.rid,
    rtpmapUpdates_withCr alike.rtpmap, noExtmap, noFeedback, fmtpUpdates_withCr alike.fmtp alike.bandwidth]
  rfl

end Kinds

/-! ### A text -/

/-- Lines that end alike say the same with and without carriage returns. -/
theorem describe_withCr (lines : List Text) (clean : ∀ line ∈ lines, '\r' ∉ line) (mtype : MediaType) (mlineNum : ℤ)
    (alike : ∀ said ∈ sections lines mtype, EndsAlike unset said.1 said.2) :
    describe unset (lines.map withCr) mtype mlineNum = describe unset lines mtype mlineNum := by
  induction lines generalizing mtype mlineNum with
  | nil => rfl
  | cons line lines ih =>
      rw [sections, List.forall_mem_cons] at alike
      rw [List.forall_mem_cons] at clean
      have section_eq : mediaAfter (withCr line) mtype = mediaAfter line mtype := by
        rw [mediaAfter, find_withCr (by decide), find_withCr (by decide), mediaAfter]
      have mlines : mlinesOf (withCr line) = mlinesOf line := by
        rw [mlinesOf, find_withCr (by decide), find_withCr (by decide), mlinesOf]
      rw [List.map_cons, describe, updatesOf_withCr unset clean.1 mlineNum alike.1, section_eq, mlines,
        ih clean.2 _ _ alike.2, describe]

/-- The lines of a text of terminated lines. -/
theorem getLines_textOf {lines : List Text} (free : ∀ line ∈ lines, '\n' ∉ line) : getLines (textOf lines) = lines := by
  refine Cut.split_flatMap (by decide) fun line member character here => ?_
  exact decide_eq_false fun same => free line member (same ▸ here)

/-- **A text whose lines end alike is processed alike**, whether its lines are terminated by LF or by CRLF. -/
theorem processSdp_lineEndings (sdp : SdpInfo) (lines : List Text) (media : Text)
    (clean : ∀ line ∈ lines, '\r' ∉ line ∧ '\n' ∉ line)
    (alike : ∀ said ∈ sections lines (mediaOf media), EndsAlike unset said.1 said.2) :
    processSdp unset sdp (textOf (lines.map withCr)) media = processSdp unset sdp (textOf lines) media := by
  have free : ∀ line ∈ lines.map withCr, '\n' ∉ line := by
    intro ended member
    obtain ⟨line, listed, rfl⟩ := List.mem_map.mp member
    rw [withCr, List.mem_append]
    exact not_or.mpr ⟨(clean line listed).2, by decide⟩
  rw [processSdp_eq, processSdp_eq, updatesOfText, updatesOfText, getLines_textOf free,
    getLines_textOf fun line member => (clean line member).2,
    describe_withCr unset lines (fun line member => (clean line member).1) _ _ alike]

/-- The lines of a description with a codec. -/
def codecLines : List Text := ["m=video".toList, "a=ice-ufrag:u".toList, "a=rtpmap:96 VP8/90000".toList]

/-- The description of a codec can be terminated either way. -/
theorem processSdp_lineEndings_codec : processSdp zeros (init zeros [vp8]) (textOf (codecLines.map withCr)) [] =
    processSdp zeros (init zeros [vp8]) (textOf codecLines) [] := by
  refine processSdp_lineEndings zeros (init zeros [vp8]) codecLines [] (by decide +kernel) ?_
  have video : sections codecLines (mediaOf []) = codecLines.map fun line => (line, .video) := by decide +kernel
  rw [video]
  simp only [codecLines, List.map_cons, List.map_nil, List.forall_mem_cons]
  refine ⟨?_, ?_, ?_, fun _ member => absurd member List.not_mem_nil⟩ <;> constructor <;> decide +kernel

/-- **Line endings matter**: a fingerprint keeps the carriage return. -/
theorem processSdp_lineEndings_fingerprint : ¬ ∀ (unset : Uninitialised) (sdp : SdpInfo) (lines : List Text) (media : Text),
    (∀ line ∈ lines, '\r' ∉ line ∧ '\n' ∉ line) →
      processSdp unset sdp (textOf (lines.map withCr)) media = processSdp unset sdp (textOf lines) media := by
  intro always
  have same := always zeros (init zeros []) ["a=fingerprint:sha-256 AB".toList] [] (by decide +kernel)
  have read := congrArg (Option.map fun result : Bool × SdpInfo => result.2.fingerprint) same
  exact absurd read (by decide +kernel)

end SdpInfo

end Erizo
