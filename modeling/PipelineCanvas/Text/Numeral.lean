/-!
# Numerals and machine words

Counts and placements are 32-bit words. This module reads them from text and
moves them without wrapping:

* `Text.digits?` – the value of a text of digits in a base;
* `Text.word?` – a decimal word: an optional `+`, then one or more ASCII digits
  of value below 2³²;
* `Word.add`, `Word.mul` – sums and products that stop at the greatest word
  (`Word.toNat_add`, `Word.toNat_mul`).
-/

namespace PipelineCanvas

namespace Text

/-- The value of a character as a digit below sixteen. -/
def digitValue? (c : Char) : Option Nat :=
  if '0' ≤ c ∧ c ≤ '9' then some (c.toNat - '0'.toNat)
  else if 'a' ≤ c ∧ c ≤ 'f' then some (c.toNat - 'a'.toNat + 10)
  else if 'A' ≤ c ∧ c ≤ 'F' then some (c.toNat - 'A'.toNat + 10)
  else none

/-- Whether a character is one of `0` to `9`. -/
def isDigit (c : Char) : Bool := '0' ≤ c && c ≤ '9'

/-- The value of digits in a base, carried on from a value to their left. -/
def digitsFrom? (base : Nat) : Nat → List Char → Option Nat
  | value, [] => some value
  | value, c :: cs =>
    match digitValue? c with
    | some d => if d < base then digitsFrom? base (value * base + d) cs else none
    | none => none

/-- The value of one or more digits in a base of at most sixteen. -/
def digits? (base : Nat) : List Char → Option Nat
  | [] => none
  | cs => digitsFrom? base 0 cs

/-- The value of decimal digits, one per element. -/
def decimalValue (ds : List Char) : Nat :=
  ds.foldl (fun n c => n * 10 + (c.toNat - '0'.toNat)) 0

/-- A value read as a word, if it is one. -/
def toWord? (n : Nat) : Option UInt32 :=
  if n < UInt32.size then some (UInt32.ofNat n) else none

/-- Reads a decimal word: an optional `+`, then digits. -/
def word? (cs : List Char) : Option UInt32 :=
  let digits := match cs with
    | '+' :: rest => rest
    | _ => cs
  (digits? 10 digits).bind toWord?

/-- The decimal text of a number. -/
def decimal (n : Nat) : String := String.ofList (Nat.toDigits 10 n)

/-- The decimal text of an integer, with a `-` in front of a negative one. -/
def decimalInt : Int → String
  | .ofNat n => decimal n
  | .negSucc n => "-" ++ decimal (n + 1)

/-- A number in a given count of lower-case hexadecimal digits, the last ones. -/
def hexDigits : Nat → Nat → List Char
  | 0, _ => []
  | width + 1, n => hexDigits width (n / 16) ++ [Nat.digitChar (n % 16)]

end Text

namespace Word

/-- The greatest word, 2³² − 1. -/
def greatest : UInt32 := 4294967295

/-- A number as a word, the greatest one standing for all that are larger. -/
def clamp (n : Nat) : UInt32 := UInt32.ofNat (min n greatest.toNat)

/-- The sum of two words, at most the greatest. -/
def add (a b : UInt32) : UInt32 := clamp (a.toNat + b.toNat)

/-- The product of two words, at most the greatest. -/
def mul (a b : UInt32) : UInt32 := clamp (a.toNat * b.toNat)

@[simp] theorem toNat_clamp (n : Nat) : (clamp n).toNat = min n (UInt32.size - 1) := by
  simp only [clamp, greatest, UInt32.toNat_ofNat', UInt32.size]
  have : (4294967295 : UInt32).toNat = 4294967295 := rfl
  omega

@[simp] theorem toNat_add (a b : UInt32) :
    (add a b).toNat = min (a.toNat + b.toNat) (UInt32.size - 1) := toNat_clamp _

@[simp] theorem toNat_mul (a b : UInt32) :
    (mul a b).toNat = min (a.toNat * b.toNat) (UInt32.size - 1) := toNat_clamp _

end Word

end PipelineCanvas
