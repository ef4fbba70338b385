import PipelineCanvas.Binary64

/-!
# What plain YAML scalars stand for

A plain scalar is a text unless it spells something else: nothing, a truth value,
an integer in one of four bases, or a decimal fraction. Digits behind a leading
zero are a text, and so is anything with an underscore.
-/

namespace PipelineCanvas.Yaml

/-- The spellings of nothing, besides the empty one. -/
def isNull (s : String) : Bool := s == "null" || s == "Null" || s == "NULL" || s == "~"

/-- The truth value that a text spells. -/
def bool? (s : String) : Option Bool :=
  if s == "true" || s == "True" || s == "TRUE" then some true
  else if s == "false" || s == "False" || s == "FALSE" then some false
  else none

/-- A text without a sign. -/
def unsigned : List Char → List Char
  | '+' :: rest => rest
  | '-' :: rest => rest
  | cs => cs

/-- Whether a text is a zero with further digits behind it. -/
def isPaddedDigits (cs : List Char) : Bool :=
  match unsigned cs with
  | '0' :: d :: rest => (d :: rest).all Text.isDigit
  | _ => false

/-- The value of digits in the base that their first two characters name, or in base
ten. -/
def magnitude? (cs : List Char) : Option Nat :=
  match cs with
  | '0' :: 'x' :: rest => Text.digits? 16 rest
  | '0' :: 'o' :: rest => Text.digits? 8 rest
  | '0' :: 'b' :: rest => Text.digits? 2 rest
  | _ => if isPaddedDigits cs then none else Text.digits? 10 cs

/-- The natural number that a text spells, with an optional `+`. -/
def natural? (cs : List Char) : Option Nat :=
  match cs with
  | '+' :: rest => magnitude? rest
  | _ => magnitude? cs

/-- The integer that a text spells: whether it has a minus, and its absolute value. -/
def integer? (cs : List Char) : Option (Bool × Nat) :=
  match cs with
  | '-' :: rest => (magnitude? rest).map fun n => (true, n)
  | _ => (natural? cs).map fun n => (false, n)

/-- The spellings of infinities, with or without a sign, and of what is not a number,
which has none. -/
def isNotFinite (s : String) : Bool :=
  [".inf", ".Inf", ".INF", "+.inf", "+.Inf", "+.INF", "-.inf", "-.Inf", "-.INF",
    ".nan", ".NaN", ".NAN"].contains s

/-- The finite number that decimal digits with an optional point and an optional
exponent stand for. -/
def decimal? (cs : List Char) : Option Binary64 :=
  let negative := cs.head? == some '-'
  let cs := unsigned cs
  let (whole, rest) := (cs.takeWhile Text.isDigit, cs.dropWhile Text.isDigit)
  let (fraction, rest) := match rest with
    | '.' :: rest => (rest.takeWhile Text.isDigit, rest.dropWhile Text.isDigit)
    | _ => ([], rest)
  let exponent : Option Int := match rest with
    | [] => some 0
    | e :: rest =>
      if e = 'e' ∨ e = 'E' then
        (Text.digits? 10 (unsigned rest)).map fun n =>
          if rest.head? == some '-' then -(n : Int) else n
      else none
  if whole.isEmpty && fraction.isEmpty then none
  else exponent.bind fun e =>
    let digits := Text.decimalValue (whole ++ fraction)
    let order := e - fraction.length
    let magnitude : Option Binary64.Magnitude :=
      if digits = 0 ∨ order < -400 - (whole.length + fraction.length) then some .zero
      else if 400 < order then none
      else match order with
        | .ofNat k => Binary64.Magnitude.ofRatio? (digits * Nat.pow 10 k) 1
        | .negSucc k => Binary64.Magnitude.ofRatio? digits (Nat.pow 10 (k + 1))
    magnitude.map fun m => ⟨negative, m⟩

end PipelineCanvas.Yaml
