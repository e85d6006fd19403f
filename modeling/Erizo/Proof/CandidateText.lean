/-
**Candidates, written and read.**

`stringifyCandidate` writes a candidate with blanks between its fields; `processCandidate` finds the fields of a line by
their places, once it is cut at blanks and at colons. The colon after `a=candidate` has its place in both. One within a
field moves the fields behind it, and the piece in the place of the field is never the field.

* `candidate_survives_iff`: a candidate is read back as it was written exactly when there is no colon in its foundation
  or in its addresses.
-/

import Erizo.Model.SdpText
import Erizo.Proof.PayloadTables
import Mathlib.Data.List.TakeWhile

namespace Erizo

open Library StringUtil

/-! ### Numbers -/

section Numbers

theorem isDigit_of_mem_toDigits {number : ℕ} {character : Char} (member : character ∈ Nat.toDigits 10 number) :
    character.isDigit = true :=
  Nat.isDigit_of_mem_toDigits (by decide) (by decide) member

theorem isDigit_iff (character : Char) : character.isDigit = true ↔ 48 ≤ character.toNat ∧ character.toNat ≤ 57 := by
  simp only [Char.isDigit, Bool.and_eq_true, decide_eq_true_eq]
  rfl

/-- A digit is no blank. -/
theorem isSpace_of_isDigit {character : Char} (digit : character.isDigit = true) : isSpace character = false := by
  rw [isDigit_iff] at digit
  have blank : character ≠ ' ' := by
    rintro rfl
    exact absurd digit.1 (by decide)
  simp only [isSpace, blank, decide_false, Bool.false_or, Bool.and_eq_false_iff, decide_eq_false_iff_not]
  omega

/-- The digits of a number come first in its text, and have no sign. -/
theorem sign_toDigits (number : ℕ) : sign (Nat.toDigits 10 number) = (false, Nat.toDigits 10 number) := by
  obtain ⟨first, rest, digits⟩ := List.exists_cons_of_ne_nil (@Nat.toDigits_ne_nil number 10)
  have digit := isDigit_of_mem_toDigits (digits ▸ List.mem_cons_self : first ∈ Nat.toDigits 10 number)
  have kept : (Nat.toDigits 10 number).dropWhile isSpace = Nat.toDigits 10 number := by
    rw [digits, List.dropWhile_cons_of_neg (by rw [isSpace_of_isDigit digit]; exact Bool.false_ne_true)]
  rw [sign, kept, digits]
  split
  · next same =>
      obtain ⟨rfl, -⟩ := List.cons_eq_cons.mp same
      exact absurd digit (by decide)
  · next same =>
      obtain ⟨rfl, -⟩ := List.cons_eq_cons.mp same
      exact absurd digit (by decide)
  · rfl

/-- What is read of a text with a sign and digits. -/
theorem digitsValue_of_sign {text : Text} {minus : Bool} {number : ℕ}
    (signed : sign text = (minus, Nat.toDigits 10 number)) :
    digitsValue text = number := by
  have all : (Nat.toDigits 10 number).takeWhile Char.isDigit = Nat.toDigits 10 number :=
    List.takeWhile_eq_self_iff.mpr fun _ member => isDigit_of_mem_toDigits member
  rw [digitsValue, digits, signed, all, Nat.ofDigitChars_ten_toDigits]

/-- **A number is read back as it was written**, modulo `2 ^ 32`. -/
theorem toBitVec_toUnsigned {number : ℤ} (small : number.natAbs < 2 ^ 64) :
    (toUnsigned (toText number)).toBitVec = BitVec.ofInt 32 number := by
  cases number with
  | ofNat number =>
      have signed : sign (toText (Int.ofNat number)) = (false, Nat.toDigits 10 number) := sign_toDigits number
      have fits : ¬ 2 ^ 64 ≤ number := not_le.mpr small
      rw [toUnsigned, strtoul, digitsValue_of_sign signed, if_neg fits, signed,
        if_neg Bool.false_ne_true, UInt64.toUInt32_ofNat', Int.ofNat_eq_natCast, BitVec.ofInt_natCast]
      rfl
  | negSucc number =>
      have signed : sign (toText (Int.negSucc number)) = (true, Nat.toDigits 10 (number + 1)) := rfl
      have fits : ¬ 2 ^ 64 ≤ number + 1 := not_le.mpr small
      rw [toUnsigned, strtoul, digitsValue_of_sign signed, if_neg fits, signed, if_pos rfl,
        UInt64.toUInt32_neg, UInt64.toUInt32_ofNat', Int.negSucc_eq, BitVec.ofInt_neg, UInt32.toBitVec_neg]
      rfl

/-- An unsigned number is read back. -/
@[simp] theorem toUnsigned_toText_nat (number : UInt32) : toUnsigned (toText number.toNat) = number := by
  have small : (number.toNat : ℤ).natAbs < 2 ^ 64 := by
    have word := number.toNat_lt
    omega
  rw [← UInt32.toBitVec_inj, toBitVec_toUnsigned small, BitVec.ofInt_natCast]
  exact (BitVec.ofNat_toNat 32 number.toBitVec).trans (BitVec.setWidth_eq _)

/-- A number with a sign is read back. -/
@[simp] theorem toUnsigned_toText_int (number : Int32) : (toUnsigned (toText number.toInt)).toInt32 = number := by
  have small : number.toInt.natAbs < 2 ^ 64 := by
    have least := number.le_toInt
    have greatest := number.toInt_lt
    omega
  rw [← Int32.toBitVec_inj, UInt32.toBitVec_toInt32, toBitVec_toUnsigned small]
  exact BitVec.ofInt_toInt

/-- The text of a number has no delimiter. -/
theorem free_toText (number : ℤ) : ∀ character ∈ toText number, character ∉ " :".toList := by
  have digits : ∀ number, ∀ character ∈ Nat.toDigits 10 number, character ∉ " :".toList := by
    intro number character member delimits
    have digit := isDigit_of_mem_toDigits member
    rcases List.mem_cons.mp delimits with rfl | colon
    · exact absurd digit (by decide)
    · rw [List.mem_singleton.mp colon] at digit
      exact absurd digit (by decide)
  cases number with
  | ofNat number => exact digits number
  | negSucc number => exact List.forall_mem_cons.mpr ⟨by decide, digits (number + 1)⟩

end Numbers

namespace SdpInfo

/-! ### The fields of a candidate -/

/-- A candidate with a related address. -/
abbrev Reflexive (candidate : CandidateInfo) : Prop := candidate.hostType = .srflx ∨ candidate.hostType = .relay

/-- The fields of a candidate in its text, each with the delimiter behind it. -/
def segments (candidate : CandidateInfo) : List (Text × Char) :=
  [("a=candidate".toList, ':'), (candidate.foundation, ' '), (toText candidate.componentId.toNat, ' '),
      (candidate.netProtocol, ' '), (toText candidate.priority.toNat, ' '), (candidate.hostAddress, ' '),
      (toText candidate.hostPort.toInt, ' '), ("typ".toList, ' '), (hostTypeName candidate.hostType, ' ')] ++
    (if Reflexive candidate then
      [("raddr".toList, ' '), (candidate.rAddress, ' '), ("rport".toList, ' '), (toText candidate.rPort.toInt, ' ')]
    else []) ++
    [("generation".toList, ' ')]

/-- The text of a candidate is its fields. -/
theorem stringifyCandidate_eq (candidate : CandidateInfo) :
    stringifyCandidate candidate =
      ((segments candidate).flatMap fun segment => segment.1 ++ [segment.2]) ++ "0".toList := by
  unfold stringifyCandidate segments
  by_cases reflexive : Reflexive candidate
  · rw [if_pos reflexive, if_pos reflexive]
    simp only [List.flatMap_append, List.flatMap_cons, List.flatMap_nil, List.append_assoc, List.append_nil]
    rfl
  · rw [if_neg reflexive, if_neg reflexive]
    simp only [List.flatMap_append, List.flatMap_cons, List.flatMap_nil, List.append_assoc, List.append_nil]
    rfl

/-- What a candidate that is read says: the fields it was written with. -/
structure SameCandidate (candidate read : CandidateInfo) : Prop where
  foundation : read.foundation = candidate.foundation
  componentId : read.componentId = candidate.componentId
  netProtocol : read.netProtocol = candidate.netProtocol
  priority : read.priority = candidate.priority
  hostAddress : read.hostAddress = candidate.hostAddress
  hostPort : read.hostPort = candidate.hostPort
  hostType : read.hostType = candidate.hostType
  related : Reflexive candidate → read.rAddress = candidate.rAddress ∧ read.rPort = candidate.rPort

/-- The pieces `processSdp` cuts a line with a candidate into. -/
def piecesOf (line : Text) : List Text := splitOneOf line " :".toList 0

/-- The text of a candidate is accepted, and a candidate with the same fields is added. -/
def Survives (unset : Uninitialised) (sdp : SdpInfo) (mediaType : MediaType) (candidate : CandidateInfo) : Prop :=
  ∃ read, processCandidate unset sdp (piecesOf (stringifyCandidate candidate)) mediaType (stringifyCandidate candidate) =
      some (true, { sdp with candidateVector := sdp.candidateVector ++ [read] }) ∧
    SameCandidate candidate read

/-- A candidate that may be written: it is of UDP, and no text in it has a blank. -/
structure Printable (candidate : CandidateInfo) : Prop where
  udp : candidate.netProtocol = "UDP".toList ∨ candidate.netProtocol = "udp".toList
  foundation : ' ' ∉ candidate.foundation
  hostAddress : ' ' ∉ candidate.hostAddress
  rAddress : ' ' ∉ candidate.rAddress

/-- No text of a candidate that is written has a colon. -/
structure WithoutColons (candidate : CandidateInfo) : Prop where
  foundation : ':' ∉ candidate.foundation
  hostAddress : ':' ∉ candidate.hostAddress
  rAddress : Reflexive candidate → ':' ∉ candidate.rAddress

/-! ### Reading what was written -/

@[simp] theorem hostTypeOf_hostTypeName (hostType : HostType) : hostTypeOf (hostTypeName hostType) = hostType := by
  cases hostType <;> decide

/-- A text without blanks and colons is not cut. -/
theorem free_of_notMem {text : Text} (blank : ' ' ∉ text) (colon : ':' ∉ text) :
    ∀ character ∈ text, decide (character ∈ " :".toList) = false := by
  intro character member
  refine decide_eq_false fun delimits => ?_
  rcases List.mem_cons.mp delimits with rfl | last
  · exact blank member
  · rw [List.mem_singleton.mp last] at member
    exact colon member

/-- A text is not cut when the test of its characters says so. -/
theorem free_of_all {text : Text} (tested : (text.all fun character => !decide (character ∈ " :".toList)) = true) :
    ∀ character ∈ text, decide (character ∈ " :".toList) = false := by
  intro character member
  exact Bool.not_inj (List.all_eq_true.mp tested character member)

/-- **The pieces of a text without colons** are the fields. -/
theorem piecesOf_stringifyCandidate {candidate : CandidateInfo} (printable : Printable candidate)
    (colons : WithoutColons candidate) :
    piecesOf (stringifyCandidate candidate) = (segments candidate).map Prod.fst ++ ["0".toList] := by
  have number : ∀ number, ∀ character ∈ toText number, decide (character ∈ " :".toList) = false :=
    fun number character member => decide_eq_false (free_toText number character member)
  have protocol : ∀ character ∈ candidate.netProtocol, decide (character ∈ " :".toList) = false := by
    rcases printable.udp with upper | lower
    · rw [upper]
      exact free_of_all (by decide)
    · rw [lower]
      exact free_of_all (by decide)
  have type : ∀ character ∈ hostTypeName candidate.hostType, decide (character ∈ " :".toList) = false := by
    cases candidate.hostType <;> exact free_of_all (by decide)
  rw [piecesOf, splitOneOf, if_pos rfl, stringifyCandidate_eq]
  refine Cut.split_segments ?_ ?_ (by decide) (free_of_all (by decide))
  · unfold segments
    split_ifs <;> simp
  · refine List.forall_mem_append.mpr
      ⟨List.forall_mem_append.mpr ⟨?_, ?_⟩, List.forall_mem_singleton.mpr (free_of_all (by decide))⟩
    · simp only [List.forall_mem_cons]
      exact ⟨free_of_all (by decide), free_of_notMem printable.foundation colons.foundation, number _, protocol, number _,
        free_of_notMem printable.hostAddress colons.hostAddress, number _, free_of_all (by decide), type,
        fun _ member => absurd member List.not_mem_nil⟩
    · split_ifs with reflexive
      · simp only [List.forall_mem_cons]
        exact ⟨free_of_all (by decide), free_of_notMem printable.rAddress (colons.rAddress reflexive),
          free_of_all (by decide), number _, fun _ member => absurd member List.not_mem_nil⟩
      · exact fun _ member => absurd member List.not_mem_nil

/-- The candidate that is read from the fields of a candidate. -/
def readBack (unset : Uninitialised) (mediaType : MediaType) (line : Text) (candidate : CandidateInfo) : CandidateInfo :=
  { candidate with
    isBundle := unset.isBundle
    rAddress := if Reflexive candidate then candidate.rAddress else []
    rPort := if Reflexive candidate then candidate.rPort else unset.rPort
    username := []
    password := []
    mediaType := mediaType
    sdp := line }

theorem sameCandidate_readBack (unset : Uninitialised) (mediaType : MediaType) (line : Text) (candidate : CandidateInfo) :
    SameCandidate candidate (readBack unset mediaType line candidate) :=
  ⟨rfl, rfl, rfl, rfl, rfl, rfl, rfl, fun reflexive => ⟨if_pos reflexive, if_pos reflexive⟩⟩

/-- **The fields are read back**, each from its place. -/
theorem candidateOf_segments (unset : Uninitialised) (mediaType : MediaType) (line : Text) {candidate : CandidateInfo}
    (udp : candidate.netProtocol = "UDP".toList ∨ candidate.netProtocol = "udp".toList) {last : Text} :
    candidateOf unset ((segments candidate).map Prod.fst ++ [last]) mediaType line =
      some (some (readBack unset mediaType line candidate)) := by
  have fields : (segments candidate).map Prod.fst ++ [last] =
      ["a=candidate".toList, candidate.foundation, toText candidate.componentId.toNat, candidate.netProtocol,
        toText candidate.priority.toNat, candidate.hostAddress, toText candidate.hostPort.toInt, "typ".toList,
        hostTypeName candidate.hostType] ++
      ((if Reflexive candidate then ["raddr".toList, candidate.rAddress, "rport".toList, toText candidate.rPort.toInt]
        else []) ++ ["generation".toList, last]) := by
    unfold segments
    split_ifs <;> rfl
  rw [fields]
  unfold candidateOf readBack
  by_cases reflexive : Reflexive candidate
  · rcases udp with upper | lower
    · simp [reflexive, upper]
    · simp [reflexive, lower]
  · rcases udp with upper | lower
    · simp [reflexive, upper]
    · simp [reflexive, lower]

/-! ### Colons -/

/-- **No piece has a colon.** -/
theorem colon_notMem_of_piece {line piece : Text} {index : ℕ} (found : (piecesOf line)[index]? = some piece) :
    ':' ∉ piece := by
  intro member
  have free := Cut.free_of_mem_split (List.mem_of_getElem? found) ':' member
  exact absurd free (by decide)

/-- What `candidateOf` reads, it reads from its places. -/
theorem candidateOf_pieces {unset : Uninitialised} {pieces : List Text} {mediaType : MediaType} {line : Text}
    {read : CandidateInfo} (result : candidateOf unset pieces mediaType line = some (some read)) :
    pieces[1]? = some read.foundation ∧ pieces[5]? = some read.hostAddress ∧
      (Reflexive read → pieces[10]? = some read.rAddress) := by
  unfold candidateOf at result
  obtain ⟨foundation, atOne, result⟩ := Option.bind_eq_some_iff.mp result
  obtain ⟨_, _, result⟩ := Option.bind_eq_some_iff.mp result
  obtain ⟨netProtocol, _, result⟩ := Option.bind_eq_some_iff.mp result
  split_ifs at result
  · exact nomatch result
  obtain ⟨_, _, result⟩ := Option.bind_eq_some_iff.mp result
  obtain ⟨hostAddress, atFive, result⟩ := Option.bind_eq_some_iff.mp result
  obtain ⟨_, _, result⟩ := Option.bind_eq_some_iff.mp result
  obtain ⟨typ, _, result⟩ := Option.bind_eq_some_iff.mp result
  split_ifs at result
  · exact nomatch result
  obtain ⟨name, _, result⟩ := Option.bind_eq_some_iff.mp result
  dsimp only at result
  split_ifs at result with related
  · obtain ⟨rAddress, atTen, result⟩ := Option.bind_eq_some_iff.mp result
    obtain ⟨_, _, result⟩ := Option.bind_eq_some_iff.mp result
    obtain rfl := Option.some.inj (Option.some.inj result)
    exact ⟨atOne, atFive, fun _ => atTen⟩
  · obtain rfl := Option.some.inj (Option.some.inj result)
    exact ⟨atOne, atFive, fun reflexive => absurd reflexive related⟩

/-- **When a candidate survives being written and read.** For every candidate of UDP whose texts have no blanks:
exactly when they have no colons either. -/
theorem candidate_survives_iff (unset : Uninitialised) (sdp : SdpInfo) (mediaType : MediaType) {candidate : CandidateInfo}
    (printable : Printable candidate) : Survives unset sdp mediaType candidate ↔ WithoutColons candidate := by
  constructor
  · rintro ⟨read, processed, same⟩
    obtain ⟨found, result, added⟩ := Option.map_eq_some_iff.mp processed
    cases found with
    | none => simp at added
    | some found =>
        obtain ⟨-, description⟩ := Prod.mk.inj added
        obtain rfl : found = read := by
          have vectors := congrArg SdpInfo.candidateVector description
          exact List.singleton_inj.mp (List.append_cancel_left vectors)
        obtain ⟨foundation, hostAddress, rAddress⟩ := candidateOf_pieces result
        refine ⟨?_, ?_, fun reflexive => ?_⟩
        · exact same.foundation ▸ colon_notMem_of_piece foundation
        · exact same.hostAddress ▸ colon_notMem_of_piece hostAddress
        · rw [← (same.related reflexive).1]
          refine colon_notMem_of_piece (rAddress ?_)
          rwa [Reflexive, same.hostType]
  · intro colons
    refine ⟨_, ?_, sameCandidate_readBack unset mediaType (stringifyCandidate candidate) candidate⟩
    rw [processCandidate, piecesOf_stringifyCandidate printable colons,
      candidateOf_segments unset mediaType _ printable.udp]
    rfl

/-- A relayed candidate of IPv4. -/
def relayed : CandidateInfo where
  isBundle := false
  priority := 33562367
  componentId := 1
  foundation := "4".toList
  hostAddress := "138.4.0.1".toList
  rAddress := "192.168.0.12".toList
  hostPort := 49462
  rPort := 53531
  netProtocol := "udp".toList
  hostType := .relay
  username := []
  password := []
  mediaType := .video
  sdp := []

/-- A candidate of IPv4 survives. -/
theorem candidate_survives_iff_relayed : Survives zeros (init zeros []) .video relayed :=
  (candidate_survives_iff zeros (init zeros []) .video ⟨Or.inr rfl, by decide, by decide, by decide⟩).mpr
    ⟨by decide, by decide, fun _ => by decide⟩

/-- A candidate of IPv6. -/
def loopback : CandidateInfo := { relayed with hostAddress := "::1".toList, hostType := .host }

/-- **A candidate of IPv6 does not survive**: it is ignored. -/
theorem candidate_survives_iff_loopback : ¬ ∀ (unset : Uninitialised) (sdp : SdpInfo) (mediaType : MediaType)
    (candidate : CandidateInfo), Printable candidate → Survives unset sdp mediaType candidate := by
  intro always
  obtain ⟨read, processed, -⟩ :=
    always zeros (init zeros []) .video loopback ⟨Or.inr rfl, by decide, by decide, by decide⟩
  have ignored : (processCandidate zeros (init zeros []) (piecesOf (stringifyCandidate loopback)) .video
      (stringifyCandidate loopback)).map Prod.fst = some false := by decide +kernel
  rw [processed] at ignored
  exact Bool.false_ne_true (Option.some.inj ignored).symm

end SdpInfo

end Erizo
