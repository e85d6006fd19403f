/-
**Texts** (`StringUtil.cpp`, and what is used of `std::string`, `std::to_string`, `std::getline` and `strtoul`).

A text is a list of characters. `splitOneOf` goes through the text once; a number of cuts of zero stands
for no limit. `strtoul` skips blanks, takes a sign and reads digits; it stops at the largest value of 64
bits. `stoul` throws where there is no digit or the value does not fit.
-/

import Erizo.Library.Cut
import Mathlib.Data.Char
import Mathlib.Data.List.Infix
import Mathlib.Data.UInt
import Mathlib.Tactic

namespace Erizo

open Library

/-- `std::string`. -/
abbrev Text := List Char

/-- `std::to_string` of a whole number. -/
def toText : ℤ → Text
  | .ofNat number => Nat.toDigits 10 number
  | .negSucc number => '-' :: Nat.toDigits 10 (number + 1)

/-- `find(pattern) != npos`. -/
def Text.find (text pattern : Text) : Bool := decide (pattern <:+: text)

namespace StringUtil

/-- `splitOneOf`. -/
def splitOneOf (str delims : Text) (maxSplits : ℕ) : List Text :=
  Cut.split (fun character => decide (character ∈ delims)) (if maxSplits = 0 then none else some maxSplits) str

/-- The lines `std::getline` gives. -/
def getLines (str : Text) : List Text := Cut.split (fun character => decide (character = '\n')) none str

/-- `pop_back`, which is undefined on an empty text. -/
def popBack (text : Text) : Option Text := if text = [] then none else some text.dropLast

/-- `isspace`. -/
def isSpace (character : Char) : Bool := character = ' ' || (9 ≤ character.toNat && character.toNat ≤ 13)

/-- What is left of a text after its blanks, and whether a minus sign comes first. -/
def sign (text : Text) : Bool × Text :=
  match text.dropWhile isSpace with
  | '-' :: rest => (true, rest)
  | '+' :: rest => (false, rest)
  | rest => (false, rest)

/-- The digits a number starts with. -/
def digits (text : Text) : Text := (sign text).2.takeWhile Char.isDigit

/-- The value of the digits. -/
def digitsValue (text : Text) : ℕ := Nat.ofDigitChars 10 (digits text) 0

/-- `strtoul(text, nullptr, 10)`. -/
def strtoul (text : Text) : UInt64 :=
  if 2 ^ 64 ≤ digitsValue text then UInt64.ofNat (2 ^ 64 - 1)
  else if (sign text).1 then -UInt64.ofNat (digitsValue text)
  else UInt64.ofNat (digitsValue text)

/-- `strtoul`, assigned to an `unsigned int`. -/
def toUnsigned (text : Text) : UInt32 := (strtoul text).toUInt32

/-- `std::stoul`, which throws where nothing or too much is read. -/
def stoul (text : Text) : Option UInt64 :=
  if digits text = [] ∨ 2 ^ 64 ≤ digitsValue text then none else some (strtoul text)

end StringUtil

end Erizo
