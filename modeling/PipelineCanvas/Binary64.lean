import PipelineCanvas.Text.Numeral

/-!
# Finite binary floating-point numbers

JSON texts may hold numbers with a fraction or an exponent. They are kept as
64-bit binary floating-point numbers, and the arithmetic that reading and
printing need is exact arithmetic on natural numbers followed by one rounding:

* `Binary64` – sign, mantissa and exponent of a finite number;
* `Binary64.Magnitude.ofRatio?` – the nearest number to a ratio, ties to the even
  mantissa, `none` past the greatest;
* `Binary64.Magnitude.ofDecimal?` – the number a decimal numeral is read as: its
  coefficient is rounded, then multiplied or divided by a rounded power of ten;
* `Binary64.Magnitude.shortest` – the fewest decimal digits that round back;
* `Binary64.text` – how those digits are written.
-/

namespace PipelineCanvas

namespace Binary64

/-- An unsigned number, `mantissa · 2 ^ exponent`. -/
structure Magnitude where
  /-- At most 53 bits. -/
  mantissa : Nat
  /-- At least −1074. -/
  exponent : Int
deriving DecidableEq, Repr

namespace Magnitude

/-- Zero. -/
def zero : Magnitude := ⟨0, -1074⟩

/-- The least number that is too great for a mantissa, 2⁵³. -/
def mantissaBound : Nat := 9007199254740992

/-- The least mantissa of full length, 2⁵². -/
def leadingBit : Nat := 4503599627370496

/-- A quotient rounded to the nearest natural number, a half to the even one. -/
def roundHalfEven (num den : Nat) : Nat :=
  let q := num / den
  let r := num % den
  if 2 * r < den then q
  else if den < 2 * r then q + 1
  else if q % 2 = 0 then q else q + 1

/-- The ratio `num / (den · 2 ^ e)` as numerator and denominator. -/
def scaleDown (num den : Nat) : Int → Nat × Nat
  | .ofNat e => (num, den * Nat.pow 2 e)
  | .negSucc e => (num * Nat.pow 2 (e + 1), den)

/-- The magnitude nearest to `num / den`, ties to the even mantissa; `none` when
it is past the greatest finite one. -/
def ofRatio? (num den : Nat) : Option Magnitude :=
  if num = 0 then some zero
  else
    let low : Int := (Nat.log2 num : Int) - Nat.log2 den - 53
    let (n, d) := scaleDown num den low
    let exact := if n < d * mantissaBound then low else low + 1
    let e := max exact (-1074)
    let (n, d) := scaleDown num den e
    let m := roundHalfEven n d
    let (m, e) := if m = mantissaBound then (leadingBit, e + 1) else (m, e)
    if 971 < e then none else some ⟨m, e⟩

/-- The magnitude nearest to a natural number. -/
def ofNat? (n : Nat) : Option Magnitude := ofRatio? n 1

/-- Numerator and denominator of a magnitude. -/
def ratio (x : Magnitude) : Nat × Nat :=
  match x.exponent with
  | .ofNat e => (x.mantissa * Nat.pow 2 e, 1)
  | .negSucc e => (x.mantissa, Nat.pow 2 (e + 1))

/-- The rounded product. -/
def mul? (x y : Magnitude) : Option Magnitude :=
  let (a, b) := x.ratio
  let (c, d) := y.ratio
  ofRatio? (a * c) (b * d)

/-- The rounded quotient; by zero there is none. -/
def div? (x y : Magnitude) : Option Magnitude :=
  let (a, b) := x.ratio
  let (c, d) := y.ratio
  if c = 0 then none else ofRatio? (a * d) (b * c)

/-- The magnitude of `coefficient · 10 ^ exponent`, reached by rounding the
coefficient and then dividing or multiplying by rounded powers of ten, of which
the greatest is `10 ^ 308`. `none` past the greatest finite magnitude. -/
def ofDecimal? (coefficient : Nat) (exponent : Int) : Option Magnitude :=
  match ofNat? coefficient with
  | none => none
  | some x => scale 3 x exponent
where
  /-- Scales by a power of ten; a number that small vanishes in three steps. -/
  scale : Nat → Magnitude → Int → Option Magnitude
    | _, x, .ofNat e =>
      if x.mantissa = 0 then some x
      else if 308 < e then none
      else (ofNat? (Nat.pow 10 e)).bind x.mul?
    | 0, _, .negSucc _ => some zero
    | steps + 1, x, .negSucc e =>
      if x.mantissa = 0 then some x
      else if e + 1 ≤ 308 then (ofNat? (Nat.pow 10 (e + 1))).bind x.div?
      else
        match (ofNat? (Nat.pow 10 308)).bind x.div? with
        | none => none
        | some y => scale steps y (Int.negSucc e + 308)

/-- Whether `num / den` is below `10 ^ k`. -/
def belowPower (num den : Nat) : Int → Bool
  | .ofNat k => num < den * Nat.pow 10 k
  | .negSucc k => num * Nat.pow 10 (k + 1) < den

/-- The least `k`, from a start on, with `num / den < 10 ^ k`. -/
def decimalOrder (num den : Nat) : Nat → Int → Int
  | 0, k => k
  | steps + 1, k => if belowPower num den k then k else decimalOrder num den steps (k + 1)

/-- The decimal digits and the power of ten of a magnitude: of the decimals that
round to it, one with the fewest digits, and of those the nearest. -/
def shortest (x : Magnitude) : Nat × Int :=
  if x.mantissa = 0 then (0, 0)
  else
    -- The interval that rounds to `x`, in quarters of the unit of its mantissa.
    let (num, den) := Magnitude.ratio ⟨4 * x.mantissa, x.exponent - 2⟩
    let (quarter, _) := Magnitude.ratio ⟨1, x.exponent - 2⟩
    let below := if x.mantissa = leadingBit ∧ -1074 < x.exponent then quarter else 2 * quarter
    let lower := num - below
    let upper := num + 2 * quarter
    let closed := x.mantissa % 2 = 0
    let guess : Int := ((Nat.log2 num : Int) - Nat.log2 den) * 1233 / 4096 - 1
    let order := decimalOrder num den 8 guess
    search num den lower upper closed order 17 1
where
  /-- Whether `candidate / scale` lies in the interval `lower / den … upper / den`. -/
  inside (den lower upper : Nat) (closed : Bool) (candidate scale : Nat) : Bool :=
    let c := candidate * den
    if closed then lower * scale ≤ c && c ≤ upper * scale
    else lower * scale < c && c < upper * scale
  /-- Tries one digit more at each step. -/
  search (num den lower upper : Nat) (closed : Bool) (order : Int) : Nat → Nat → Nat × Int
    | 0, _ => (0, 0)
    | steps + 1, digits =>
      let power := order - digits
      -- `num / den` on the grid of spacing `10 ^ power` is `n / d`.
      let (n, d, up, scale) : Nat × Nat × Nat × Nat := match power with
        | .ofNat p => (num, den * Nat.pow 10 p, Nat.pow 10 p, 1)
        | .negSucc p => (num * Nat.pow 10 (p + 1), den, 1, Nat.pow 10 (p + 1))
      let floor := n / d
      let rest := n % d
      let lowIn := inside den lower upper closed (floor * up) scale
      let highIn := inside den lower upper closed ((floor + 1) * up) scale
      let pick : Option Nat :=
        match lowIn, highIn with
        | false, false => none
        | true, false => some floor
        | false, true => some (floor + 1)
        | true, true =>
          if 2 * rest < d then some floor
          else if d < 2 * rest then some (floor + 1)
          else if floor % 2 = 0 then some floor else some (floor + 1)
      match pick with
      | some c => (c, power)
      | none => search num den lower upper closed order steps (digits + 1)

end Magnitude

end Binary64

/-- A finite binary floating-point number. -/
structure Binary64 where
  /-- The sign; zero has one too. -/
  negative : Bool
  /-- The absolute value. -/
  magnitude : Binary64.Magnitude
deriving DecidableEq, Repr

namespace Binary64

/-- The digits and the decimal order of a number: `0.digits · 10 ^ order`, the last
digit not zero. -/
def decimalParts (x : Binary64) : List Char × Int :=
  let (digits, power) := x.magnitude.shortest
  let all := Nat.toDigits 10 digits
  ((all.reverse.dropWhile (· = '0')).reverse, power + all.length)

/-- A sign in front of a text. -/
def signed (negative : Bool) (cs : List Char) : String :=
  String.ofList (if negative then '-' :: cs else cs)

/-- The digits written out around the point, with at least one digit on either
side of it. -/
def positionalChars (digits : List Char) : Int → List Char
  | .ofNat order =>
    if order = 0 then '0' :: '.' :: digits
    else if digits.length ≤ order then
      digits ++ List.replicate (order - digits.length) '0' ++ ['.', '0']
    else digits.take order ++ '.' :: digits.drop order
  | .negSucc n => '0' :: '.' :: List.replicate (n + 1) '0' ++ digits

/-- The mark of a power of ten, which always has a sign. -/
def exponentChars (power : Int) : List Char :=
  let digits := (Text.decimalInt power).toList
  'e' :: if power < 0 then digits else '+' :: digits

/-- The number in positional notation when its decimal order is from −4 to 16,
else with an exponent after one leading digit. -/
def text (x : Binary64) : String :=
  if x.magnitude.mantissa = 0 then signed x.negative ['0', '.', '0']
  else
    let (digits, order) := x.decimalParts
    if -5 < order ∧ order ≤ 16 then signed x.negative (positionalChars digits order)
    else
      let exponent := exponentChars (order - 1)
      match digits with
      | [] => signed x.negative exponent
      | [d] => signed x.negative (d :: exponent)
      | d :: ds => signed x.negative (d :: '.' :: ds ++ exponent)

end Binary64

end PipelineCanvas
