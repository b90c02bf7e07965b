/-!
# Floating-point numbers of 64 bits

A number is not a number, an infinity, or a signed multiple of a power of two with a mantissa of at
most 53 bits. Reading a decimal gives the nearest such number, of two the one with the even mantissa
(`ofDecimal`).
-/

namespace PetriCluster

/-- A floating-point number. -/
inductive Binary64 where
  | nan
  | infinity (negative : Bool)
  | finite (negative : Bool) (mantissa : Nat) (exponent : Int)
  deriving DecidableEq, Repr

namespace Binary64

/-- Two to a power, or 1 if the power is negative. -/
def pow2 (e : Int) : Nat := Nat.pow 2 e.toNat

/-- Ten to a power, or 1 if the power is negative. -/
def pow10 (e : Int) : Nat := Nat.pow 10 e.toNat

/-- The nearest whole number to a quotient, of two the even one. -/
def roundDiv (num den : Nat) : Nat :=
  let floor := num / den
  let twice := 2 * (num % den)
  if twice < den then floor
  else if den < twice then floor + 1
  else if floor % 2 = 0 then floor
  else floor + 1

/-! ## Reading -/

/-- The nearest number to a positive quotient. -/
def ofQuotient (negative : Bool) (num den : Nat) : Binary64 :=
  let guess : Int := (num.log2 : Int) - den.log2 - 53
  let fits := decide (num * pow2 (-(guess + 53)) < den * pow2 (guess + 53))
  let exponent := max (if fits then guess else guess + 1) (-1074)
  let mantissa := roundDiv (num * pow2 (-exponent)) (den * pow2 exponent)
  let (mantissa, exponent) :=
    if mantissa = pow2 53 then (pow2 52, exponent + 1) else (mantissa, exponent)
  if 971 < exponent then .infinity negative else .finite negative mantissa exponent

/-- The nearest number to `digits` times ten to the `scale`. -/
def ofDecimal (negative : Bool) (digits : Nat) (scale : Int) : Binary64 :=
  let length : Int := (toString digits).length
  if digits = 0 ∨ length + scale < -330 then .finite negative 0 0
  else if 310 < length + scale then .infinity negative
  else ofQuotient negative (digits * pow10 scale) (pow10 (-scale))

/-- The number that digits spell. -/
def digitsValue (cs : List Char) : Nat :=
  cs.foldl (fun n c => 10 * n + (c.toNat - 48)) 0

/-- The sign in front of a number, if there is one. -/
def splitSign : List Char → Bool × List Char
  | '-' :: rest => (true, rest)
  | '+' :: rest => (false, rest)
  | cs => (false, cs)

/-- The exponent at the end of a number: nothing, or a mark, a sign and digits. -/
def readExponent? : List Char → Option Int
  | [] => some 0
  | c :: rest =>
    if c = 'e' ∨ c = 'E' then
      let (negative, digits) := splitSign rest
      if digits ≠ [] ∧ digits.all Char.isDigit then
        let n : Int := digitsValue digits
        some (if negative then -n else n)
      else none
    else none

/-- Read a number without its sign: digits with a point somewhere, and an exponent. -/
def readMagnitude? (negative : Bool) (cs : List Char) : Option Binary64 :=
  let whole := cs.takeWhile Char.isDigit
  let rest := cs.dropWhile Char.isDigit
  let (places, rest) := match rest with
    | '.' :: rest => (rest.takeWhile Char.isDigit, rest.dropWhile Char.isDigit)
    | rest => ([], rest)
  if whole = [] ∧ places = [] then none
  else
    (readExponent? rest).map fun e =>
      ofDecimal negative (digitsValue (whole ++ places)) (e - places.length)

/-- Read a number: a decimal, `inf`, `infinity` or `nan` in any case, with a sign or without. -/
def read? (s : String) : Option Binary64 :=
  let (negative, cs) := splitSign s.toList
  let word := String.ofList (cs.map Char.toLower)
  if word = "inf" ∨ word = "infinity" then some (.infinity negative)
  else if word = "nan" then some .nan
  else readMagnitude? negative cs

/-! ## Writing -/

/-- A whole number with zeros taken off its end, and how many they were. -/
def stripZeros : (fuel : Nat) → Nat → Int → Nat × Int
  | 0, d, e => (d, e)
  | fuel + 1, d, e => if d % 10 = 0 then stripZeros fuel (d / 10) (e + 1) else (d, e)

/-- The multiple of ten to the `scale` that is read back as the given number and nearest to it, of two
the larger. -/
def onGrid? (mantissa : Nat) (exponent scale : Int) : Option Nat :=
  let unit := pow2 (exponent - 2) * pow10 (-scale)
  let grid := pow10 scale * pow2 (2 - exponent)
  let value := 4 * mantissa * unit
  let low := (4 * mantissa - (if mantissa = pow2 52 ∧ -1074 < exponent then 1 else 2)) * unit
  let high := (4 * mantissa + 2) * unit
  let inside := fun d =>
    if mantissa % 2 = 0 then decide (low ≤ d * grid) && decide (d * grid ≤ high)
    else decide (low < d * grid) && decide (d * grid < high)
  let floor := value / grid
  let nearer := decide (2 * (value % grid) < grid)
  if inside floor && (nearer || !inside (floor + 1)) then some floor
  else if inside (floor + 1) then some (floor + 1)
  else none

/-- The coarsest grid, from the given scale down, that has a number read back as the given one. -/
def shortestFrom (mantissa : Nat) (exponent : Int) : (fuel : Nat) → (scale : Int) → Nat × Int
  | 0, scale => (0, scale)
  | fuel + 1, scale =>
    match onGrid? mantissa exponent scale with
    | some d => (d, scale)
    | none => shortestFrom mantissa exponent fuel (scale - 1)

/-- The shortest decimal that is read back as a positive number: digits and scale. -/
def shortest (mantissa : Nat) (exponent : Int) : Nat × Int :=
  let (d, scale) := shortestFrom mantissa exponent 700 310
  stripZeros 400 d scale

/-- Digits times ten to the scale, without an exponent. -/
def positional (digits : Nat) (scale : Int) : String :=
  let ds := (toString digits).toList
  if 0 ≤ scale then String.ofList (ds ++ List.replicate scale.toNat '0')
  else
    let places := (-scale).toNat
    let padded := List.replicate (places + 1 - ds.length) '0' ++ ds
    let whole := padded.take (padded.length - places)
    String.ofList (whole ++ '.' :: padded.drop (padded.length - places))

/-- The shortest text of a number. -/
def text : Binary64 → String
  | nan => "NaN"
  | infinity negative => if negative then "-inf" else "inf"
  | finite negative mantissa exponent =>
    let magnitude :=
      if mantissa = 0 then "0"
      else
        let (digits, scale) := shortest mantissa exponent
        positional digits scale
    if negative then "-" ++ magnitude else magnitude

/-! ## Whole numbers -/

/-- Whether a number is different from zero. -/
def isNonzero : Binary64 → Bool
  | finite _ mantissa _ => decide (mantissa ≠ 0)
  | _ => true

/-- The nearest whole number in the range of a 64-bit word, halves going away from zero; what is not
a number counts as zero. -/
def toWord : Binary64 → Nat
  | nan => 0
  | infinity negative => if negative then 0 else UInt64.size - 1
  | finite negative mantissa exponent =>
    if negative then 0
    else
      let den := pow2 (-exponent)
      min ((2 * mantissa * pow2 exponent + den) / (2 * den)) (UInt64.size - 1)

end Binary64

end PetriCluster
