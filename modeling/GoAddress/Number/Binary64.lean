/-!
# Binary floating-point numbers

A number with a fraction is kept in the format with 53 bits of precision. Reading a decimal number
takes the nearest such number, a tie going to the even one; writing takes the fewest digits that
read back, in positional notation.
-/

namespace GoAddress

/-- The nearest whole number to `n / d`; a tie goes to the even one. -/
def roundHalfEven (n d : Nat) : Nat :=
  let q := n / d
  let r := n % d
  if 2 * r < d then q
  else if 2 * r > d then q + 1
  else if q % 2 = 0 then q else q + 1

/-- A number in the format: `significand * 2 ^ exponent`, or no finite number. -/
inductive Binary64 where
  | finite (negative : Bool) (significand : Nat) (exponent : Int)
  | infinite (negative : Bool)
  | notANumber
deriving DecidableEq, Repr

/-- The ratio of two whole numbers that is `n` times a power of `base`. -/
def scaledRatio (base n : Nat) (exponent : Int) : Nat × Nat :=
  match exponent with
  | .ofNat k => (n * Nat.pow base k, 1)
  | .negSucc k => (n, Nat.pow base (k + 1))

namespace Binary64

/-- The least exponent of the format. -/
def minExponent : Int := -1074

/-- The exponent with which a positive ratio has 53 bits before the point, or the least one. -/
def exponentOf (n d : Nat) : Int :=
  let guess : Int := (n.log2 : Int) - (d.log2 : Int) - 52
  let (a, b) := scaledRatio 2 n (-guess)
  let exponent := if a < Nat.pow 2 52 * (b * d) then guess - 1 else guess
  max exponent minExponent

/-- The nearest number of the format to a ratio. -/
def ofRatio (negative : Bool) (n d : Nat) : Binary64 :=
  if n = 0 then .finite negative 0 minExponent
  else
    let exponent := exponentOf n d
    let (a, b) := scaledRatio 2 n (-exponent)
    let m := roundHalfEven a (b * d)
    let (m, exponent) := if m = Nat.pow 2 53 then (Nat.pow 2 52, exponent + 1) else (m, exponent)
    if exponent > 971 then .infinite negative else .finite negative m exponent

/-- The nearest number of the format to `digits * 10 ^ exponent`. Far outside the range of the
format no power has to be computed. -/
def ofDecimal (negative : Bool) (digits : Nat) (exponent : Int) : Binary64 :=
  let high := ((Nat.toDigits 10 digits).length : Int) + exponent
  if digits = 0 || high < -400 then .finite negative 0 minExponent
  else if high > 400 then .infinite negative
  else
    let (n, d) := scaledRatio 10 digits exponent
    ofRatio negative n d

/-- The number of digits before the point of a positive ratio; not positive for one below a
tenth. At most `fuel` leading zeros are counted. -/
def magnitude : (fuel n d : Nat) → Int
  | 0, _, _ => 0
  | fuel + 1, n, d =>
    if d ≤ n then ((Nat.toDigits 10 (n / d)).length : Int) else magnitude fuel (n * 10) d - 1

/-- The decimal with a given exponent next to a ratio that reads back as `x`: of two the nearer. -/
def nearbyDecimal? (x : Binary64) (n d : Nat) (exponent : Int) : Option Nat :=
  let (a, b) := scaledRatio 10 n (-exponent)
  let below := a / (b * d)
  let remainder := a % (b * d)
  let first := if 2 * remainder ≤ b * d then below else below + 1
  let second := if 2 * remainder ≤ b * d then below + 1 else below
  [first, second].find? fun digits => ofDecimal false digits exponent == x

/-- The fewest digits that read back as `x`, with their exponent. -/
def shortest (x : Binary64) (n d : Nat) : Nat × Int :=
  let high := magnitude 400 n d
  ((List.range 17).findSome? fun (k : Nat) =>
    let exponent : Int := high - ((k : Int) + 1)
    (nearbyDecimal? x n d exponent).map fun digits => (digits, exponent)).getD (n / d, 0)

/-- Digits with an exponent in positional notation. -/
def positional (digits : Nat) (exponent : Int) : String :=
  let text := Nat.toDigits 10 digits
  match exponent with
  | .ofNat k => String.ofList (text ++ List.replicate k '0')
  | .negSucc k =>
    let padded := List.replicate (k + 2 - text.length) '0' ++ text
    let whole := padded.take (padded.length - (k + 1))
    let fraction := ((padded.drop (padded.length - (k + 1))).reverse.dropWhile (· == '0')).reverse
    String.ofList (if fraction.isEmpty then whole else whole ++ '.' :: fraction)

/-- The written form of a number. -/
def text : Binary64 → String
  | finite negative m exponent =>
    let sign := if negative then "-" else ""
    if m = 0 then sign ++ "0"
    else
      let (n, d) := scaledRatio 2 m exponent
      let (digits, exponent) := shortest (.finite false m exponent) n d
      sign ++ positional digits exponent
  | infinite negative => if negative then "-inf" else "inf"
  | notANumber => "NaN"

end Binary64

end GoAddress
