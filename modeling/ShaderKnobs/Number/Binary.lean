set_option autoImplicit false

namespace ShaderKnobs.Number

-- One reading of `^` on whole numbers in every module, whatever else the module imports.
@[default_instance 20000]
instance (priority := 20000) natPower {α : Type} [NatPow α] : Pow α Nat := instPowNat

structure Format where
  precision : Nat
  minExponent : Int
  maxExponent : Int

def double : Format := ⟨53, -1074, 971⟩

def single : Format := ⟨24, -149, 104⟩

def Format.Canonical (f : Format) (m : Nat) (e : Int) : Prop :=
  m < 2 ^ f.precision ∧ f.minExponent ≤ e ∧ e ≤ f.maxExponent ∧
    (2 ^ (f.precision - 1) ≤ m ∨ e = f.minExponent)

instance (f : Format) (m : Nat) (e : Int) : Decidable (f.Canonical m e) := by
  unfold Format.Canonical
  infer_instance

/-- The number `± mantissa · 2 ^ exponent`. -/
structure Finite (f : Format) where
  negative : Bool
  mantissa : Nat
  exponent : Int
  canonical : f.Canonical mantissa exponent
deriving DecidableEq

inductive Binary (f : Format) where
  | nan
  | infinite (negative : Bool)
  | finite (x : Finite f)
deriving DecidableEq

abbrev Double := Binary double
abbrev Single := Binary single

structure Ratio where
  num : Nat
  den : Nat

def Ratio.scale (r : Ratio) : Int → Ratio
  | .ofNat k => ⟨r.num * 2 ^ k, r.den⟩
  | .negSucc k => ⟨r.num, r.den * 2 ^ (k + 1)⟩

def Ratio.scaleTen (r : Ratio) : Int → Ratio
  | .ofNat k => ⟨r.num * 10 ^ k, r.den⟩
  | .negSucc k => ⟨r.num, r.den * 10 ^ (k + 1)⟩

def Ratio.roundEven (r : Ratio) : Nat :=
  let q := r.num / r.den
  let rest := 2 * (r.num % r.den)
  if rest < r.den then q
  else if r.den < rest then q + 1
  else if q % 2 = 0 then q else q + 1

def Ratio.log2 (r : Ratio) : Int :=
  let guess : Int := (r.num.log2 : Int) - (r.den.log2 : Int)
  let scaled := r.scale (-guess)
  if scaled.den ≤ scaled.num then guess else guess - 1

def Binary.ofParts (f : Format) (negative : Bool) (m : Nat) (e : Int) : Binary f :=
  if h : f.Canonical m e then .finite ⟨negative, m, e, h⟩ else .infinite negative

def Binary.ofRatio (f : Format) (negative : Bool) (r : Ratio) : Binary f :=
  if r.num = 0 then ofParts f negative 0 f.minExponent
  else
    let e := max f.minExponent (r.log2 - (f.precision - 1 : Nat))
    let m := (r.scale (-e)).roundEven
    if m = 2 ^ f.precision then ofParts f negative (2 ^ (f.precision - 1)) (e + 1)
    else ofParts f negative m e

def Binary.ofInt (f : Format) (n : Int) : Binary f :=
  ofRatio f (decide (n < 0)) ⟨n.natAbs, 1⟩

def Finite.ratio {f : Format} (x : Finite f) : Ratio :=
  Ratio.scale ⟨x.mantissa, 1⟩ x.exponent

def Binary.convert {f : Format} (g : Format) : Binary f → Binary g
  | .nan => .nan
  | .infinite s => .infinite s
  | .finite x => ofRatio g x.negative x.ratio

def Binary.neg {f : Format} : Binary f → Binary f
  | .nan => .nan
  | .infinite s => .infinite !s
  | .finite x => .finite { x with negative := !x.negative }

def Binary.over {f : Format} (n : Ratio) : Binary f → Binary f
  | .nan => .nan
  | .infinite s => .infinite s
  | .finite x => ofRatio f x.negative ⟨x.ratio.num * n.den, x.ratio.den * n.num⟩

def Binary.plusHalf {f : Format} : Binary f → Binary f
  | .nan => .nan
  | .infinite s => .infinite s
  | .finite x =>
      let r := x.ratio
      let signed : Int := if x.negative then -(2 * r.num : Int) else 2 * r.num
      let sum := signed + r.den
      ofRatio f (decide (sum < 0)) ⟨sum.natAbs, 2 * r.den⟩

def Finite.floorInt {f : Format} (x : Finite f) : Int :=
  let r := x.ratio
  let signed : Int := if x.negative then -(r.num : Int) else r.num
  signed.fdiv r.den

def Binary.floor {f : Format} : Binary f → Binary f
  | .nan => .nan
  | .infinite s => .infinite s
  | .finite x => if x.mantissa = 0 then .finite x else ofInt f x.floorInt

-- Rounds to the nearest integer, halves going up: one half is added in the format's own arithmetic and
-- the sum rounded down.
def Binary.roundHalfUp {f : Format} (x : Binary f) : Binary f :=
  x.plusHalf.floor

def clamp (lo hi n : Int) : Int :=
  if n < lo then lo else if hi < n then hi else n

def Binary.toInt64 {f : Format} : Binary f → Int64
  | .nan => 0
  | .infinite true => Int64.minValue
  | .infinite false => Int64.maxValue
  | .finite x =>
      let r := x.ratio
      let magnitude : Int := (r.num / r.den : Nat)
      Int64.ofInt (clamp (-2 ^ 63) (2 ^ 63 - 1) (if x.negative then -magnitude else magnitude))

end ShaderKnobs.Number
