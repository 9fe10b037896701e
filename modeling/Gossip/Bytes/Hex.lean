import Gossip.Bytes.Octets
import Gossip.Text.Quoted
import Gossip.Text.Utf8

/-! Hexadecimal text of byte strings.

`Hex.encode` writes two lower-case digits a byte. `Hex.decode` reads a text into a fixed number of
bytes and takes either case. It looks at the UTF-8 form of the text, and refuses an odd length
first, then any other wrong length, then the first byte that is no digit, by its position. -/
namespace Gossip.Hex

/-- The digits of a byte string, in lower case. -/
def digits (bytes : Bytes) : List Char :=
  bytes.flatMap fun byte => [Nat.digitChar (byte.toNat / 16), Nat.digitChar (byte.toNat % 16)]

/-- The text of a byte string. -/
def encode (bytes : Bytes) : String :=
  String.ofList (digits bytes)

/-- Why a text names no byte string of the wanted length. -/
inductive Fault where
  | oddLength
  | wrongLength
  | invalidDigit (byte : UInt8) (position : Nat)
  deriving DecidableEq, Repr

def Fault.message : Fault → String
  | .oddLength => "Odd number of digits"
  | .wrongLength => "Invalid string length"
  | .invalidDigit byte position =>
    "Invalid character " ++ Text.Quoted.character (Char.ofNat byte.toNat) ++ " at position " ++
      toString position

/-- What a digit is worth, by its ASCII code. -/
def value? (code : UInt8) : Option UInt8 :=
  if 0x30 ≤ code ∧ code ≤ 0x39 then some (code - 0x30)
  else if 0x61 ≤ code ∧ code ≤ 0x66 then some (code - 0x61 + 10)
  else if 0x41 ≤ code ∧ code ≤ 0x46 then some (code - 0x41 + 10)
  else none

/-- Reads pairs of digits, the first of them at the given position. -/
def readPairs (position : Nat) : Bytes → Except Fault Bytes
  | high :: low :: rest =>
    match value? high, value? low with
    | none, _ => .error (.invalidDigit high position)
    | _, none => .error (.invalidDigit low (position + 1))
    | some h, some l =>
      match readPairs (position + 2) rest with
      | .error fault => .error fault
      | .ok bytes => .ok ((h * 16 + l) :: bytes)
  | _ => .ok []

theorem length_readPairs {position : Nat} {codes bytes : Bytes}
    (read : readPairs position codes = .ok bytes) : bytes.length = codes.length / 2 := by
  fun_induction readPairs position codes generalizing bytes with
  | case1 | case2 | case3 => simp at read
  | case4 position high low rest h l _ _ tail found ih =>
    cases read
    simp only [List.length_cons, ih found]
    omega
  | case5 codes _ short =>
    cases read
    match codes with
    | [] => rfl
    | [_] => simp
    | a :: b :: rest => exact (short a b rest rfl).elim

/-- Reads the text of `width` bytes. -/
def decode (width : Nat) (text : String) : Except Fault (Octets width) :=
  let codes := Text.utf8 text
  if codes.length % 2 = 1 then .error .oddLength
  else if exact : codes.length = 2 * width then
    match read : readPairs 0 codes with
    | .error fault => .error fault
    | .ok bytes => .ok ⟨bytes, by rw [length_readPairs read]; omega⟩
  else .error .wrongLength

end Gossip.Hex
