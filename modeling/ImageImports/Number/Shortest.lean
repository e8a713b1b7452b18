import ImageImports.Number.Binary64

/-!
# Shortest decimals

The decimal with the fewest digits that still reads back as a given number, and the way such a
decimal is written.

## Main definitions

* `Shortest.digits`: the digits, and where the point stands.
* `Shortest.render`: positional up to sixteen places before the point and five after it, with
  an exponent beyond.
-/

namespace ImageImports.Shortest

/-- The numbers that read as a given one: their ends as multiples of `2 ^ (exponent - 2)`, and
whether the ends belong to them. -/
structure Interval where
  low : Nat
  middle : Nat
  high : Nat
  closed : Bool

/-- The interval around a number. Below a power of two the neighbours are twice as close. -/
def interval (x : Binary64) : Interval :=
  let middle := 4 * x.mantissa
  let low := if x.mantissa = Nat.pow 2 52 ∧ -1074 < x.exponent then middle - 1 else middle - 2
  ⟨low, middle, middle + 2, x.mantissa % 2 = 0⟩

/-- A fraction lies in an interval whose ends are scaled by a common fraction. -/
def Interval.admits (i : Interval) (unit value : Nat × Nat) : Bool :=
  let left := i.low * unit.1 * value.2
  let right := i.high * unit.1 * value.2
  let v := value.1 * unit.2
  if i.closed then decide (left ≤ v) && decide (v ≤ right)
  else decide (left < v) && decide (v < right)

/-- A power of ten as a fraction. -/
def powerRatio : Int → Nat × Nat
  | .ofNat k => (Nat.pow 10 k, 1)
  | .negSucc k => (1, Nat.pow 10 (k + 1))

/-- The least power of ten above a fraction, searched upwards. -/
def pointAbove (num den : Nat) : Nat → Int → Int
  | 0, k => k
  | fuel + 1, k =>
    let (p, q) := powerRatio k
    if num * q < p * den then k else pointAbove num den fuel (k + 1)

/-- A fraction on the grid of `10 ^ k` whose distance to the middle is least, if one of the two
neighbours of the middle lies in the interval. Of two that are equally near the even one is
taken. -/
def onGrid? (i : Interval) (unit : Nat × Nat) (k : Int) : Option Nat :=
  let (p, q) := powerRatio k
  let num := i.middle * unit.1 * q
  let den := unit.2 * p
  let below := num / den
  let inside := fun n => i.admits unit (n * p, q)
  match inside below, inside (below + 1) with
  | false, false => none
  | true, false => some below
  | false, true => some (below + 1)
  | true, true =>
    let twice := 2 * (num % den)
    if twice < den then some below
    else if den < twice then some (below + 1)
    else some (below + below % 2)

/-- The coarsest grid with a hit, from one digit to seventeen. -/
def search (i : Interval) (unit : Nat × Nat) (point : Int) : Nat → Nat → Nat × Int
  | 0, _ => (0, point)
  | fuel + 1, count =>
    let k := point - count
    match onGrid? i unit k with
    | some n => (n, k)
    | none => search i unit point fuel (count + 1)

/-- The digits of the shortest decimal of a positive number, and the number of places before
its point. -/
def digits (x : Binary64) : List Char × Int :=
  let unit : Nat × Nat := (Binary64.mk 1 (x.exponent - 2)).toRatio
  let (num, den) := x.toRatio
  let guess : Int := ((num.log2 : Int) - (den.log2 : Int)) * 3 / 10 - 2
  let point := pointAbove num den 40 guess
  let (n, k) := search (interval x) unit point 17 1
  let shown := Nat.toDigits 10 n
  let kept := (shown.reverse.dropWhile (· == '0')).reverse
  (kept, k + shown.length)

/-- The text of a positive number: positional while the point stands at most sixteen places
after the first digit or at most four zeros before it, with an exponent otherwise. -/
def renderDigits (ds : List Char) (point : Int) : List Char :=
  let count : Int := ds.length
  if count ≤ point ∧ point ≤ 16 then
    ds ++ List.replicate (point - count).toNat '0' ++ ['.', '0']
  else if 0 < point ∧ point ≤ 16 then
    ds.take point.toNat ++ '.' :: ds.drop point.toNat
  else if -5 < point ∧ point ≤ 0 then
    ['0', '.'] ++ List.replicate (-point).toNat '0' ++ ds
  else
    let exponent := (toString (point - 1)).toList
    match ds with
    | [d] => d :: 'e' :: exponent
    | d :: rest => d :: '.' :: rest ++ 'e' :: exponent
    | [] => []

/-- The text of a number with its sign. -/
def render (negative : Bool) (x : Binary64) : String :=
  let body :=
    if x.mantissa = 0 then ['0', '.', '0']
    else
      let (ds, point) := digits x
      renderDigits ds point
  String.ofList (if negative then '-' :: body else body)

end ImageImports.Shortest
