/-! Numerals.

Hexadecimal text of a fixed least width, and the reader of unsigned 32-bit numbers in a given base.
The reader takes one leading plus sign and any number of leading zeros, goes from left to right, and
reports the first thing that is wrong: a character that is no digit, or a value that no longer
fits. -/
namespace Gossip.Text.Numeral

/-- Hexadecimal digits, padded with zeros on the left. -/
def hexadecimal (width n : Nat) : List Char :=
  let digits := Nat.toDigits 16 n
  List.replicate (width - digits.length) '0' ++ digits

/-- Lower-case hexadecimal text of at least the given width. -/
def lowerHex (width n : Nat) : String :=
  String.ofList (hexadecimal width n)

/-- Upper-case hexadecimal text of at least the given width. -/
def upperHex (width n : Nat) : String :=
  String.ofList ((hexadecimal width n).map Char.toUpper)

/-- Why a text is no unsigned 32-bit number. -/
inductive Fault where
  | empty
  | invalidDigit
  | tooLarge
  deriving DecidableEq, Repr

def Fault.message : Fault → String
  | .empty => "cannot parse integer from empty string"
  | .invalidDigit => "invalid digit found in string"
  | .tooLarge => "number too large to fit in target type"

/-- What a character is worth in a base of at most sixteen; letters count in either case. -/
def digit? (base : Nat) (c : Char) : Option Nat :=
  let value :=
    if '0' ≤ c ∧ c ≤ '9' then c.toNat - '0'.toNat
    else if 'a' ≤ c ∧ c ≤ 'f' then c.toNat - 'a'.toNat + 10
    else if 'A' ≤ c ∧ c ≤ 'F' then c.toNat - 'A'.toNat + 10
    else 16
  if value < base then some value else none

/-- Goes through the digits with the value of those before. -/
def readDigits (base value : Nat) : List Char → Except Fault Nat
  | [] => .ok value
  | c :: rest =>
    match digit? base c with
    | none => .error .invalidDigit
    | some digit =>
      if value * base + digit < UInt32.size then readDigits base (value * base + digit) rest
      else .error .tooLarge

/-- Reads an unsigned 32-bit number. -/
def read (base : Nat) : List Char → Except Fault UInt32
  | [] => .error .empty
  | ['+'] => .error .invalidDigit
  | '+' :: digits => (readDigits base 0 digits).map UInt32.ofNat
  | digits => (readDigits base 0 digits).map UInt32.ofNat

end Gossip.Text.Numeral
