import ShaderKnobs.Number.Decimal

set_option autoImplicit false

namespace ShaderKnobs.Number

inductive Tie where
  | up
  | even
deriving DecidableEq

def Ratio.log10 (r : Ratio) : Int :=
  if r.den ≤ r.num then digitCount (r.num / r.den) - 1
  else -(digitCount ((r.den - 1) / r.num) : Int)

def Decimal.trim (d : Decimal) : Decimal :=
  go (digitCount d.significand) d
where
  go : Nat → Decimal → Decimal
    | 0, d => d
    | n + 1, d =>
        if d.significand ≠ 0 ∧ d.significand % 10 = 0 then
          go n ⟨d.significand / 10, d.exponent + 1⟩
        else d

def Finite.exactDecimal {f : Format} (x : Finite f) : Decimal :=
  match x.exponent with
  | .ofNat k => ⟨x.mantissa * 2 ^ k, 0⟩
  | .negSucc k => ⟨x.mantissa * 5 ^ (k + 1), .negSucc k⟩

def Finite.readsBack {f : Format} (x : Finite f) (d : Decimal) : Bool :=
  d.toBinary f x.negative = .finite x

-- On the grid of multiples of `10 ^ k`: the neighbour of the number that reads back, the nearer one if
-- both do.
def Finite.onGrid? {f : Format} (x : Finite f) (tie : Tie) (k : Int) : Option Decimal :=
  let r := x.ratio.scaleTen (-k)
  let q := r.num / r.den
  let rest := 2 * (r.num % r.den)
  let below : Decimal := ⟨q, k⟩
  let above : Decimal := ⟨q + 1, k⟩
  match x.readsBack below, x.readsBack above with
  | false, false => none
  | true, false => some below
  | false, true => some above
  | true, true =>
      if rest < r.den then some below
      else if r.den < rest then some above
      else match tie with
        | .up => some above
        | .even => some (if q % 2 = 0 then below else above)

-- The digits of a finite number: the first grid, from one digit on, that has a numeral which reads back.
-- Seventeen digits are enough for either format; the exact spelling ends the search.
def Finite.shortest {f : Format} (x : Finite f) (tie : Tie) : Decimal :=
  if x.mantissa = 0 then ⟨0, 0⟩
  else
    let top := x.ratio.log10
    let found := (List.range 17).findSome? fun (n : Nat) => x.onGrid? tie (top - n)
    (found.getD x.exactDecimal).trim

end ShaderKnobs.Number
