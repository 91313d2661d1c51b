import ShaderKnobs.Number.Shortest

set_option autoImplicit false

namespace ShaderKnobs.Number

-- A way to write finite numbers. With the first digit worth `10 ^ e`, the number is written positionally
-- when `e` lies in `positional`, always if there are no bounds.
structure Layout where
  positional : Option (Int × Int)
  wholePoint : Bool
  plusSign : Bool
  tie : Tie

def Layout.dataDouble : Layout := ⟨some (-5, 15), true, true, .even⟩

def Layout.dataSingle : Layout := ⟨some (-6, 12), true, true, .even⟩

def Layout.plain : Layout := ⟨none, false, false, .up⟩

def Layout.diagnostic : Layout := ⟨some (-4, 15), true, false, .up⟩

def natDigits (n : Nat) : List Char := Nat.toDigits 10 n

def intDigits (n : Int) : List Char :=
  if n < 0 then '-' :: natDigits n.natAbs else natDigits n.natAbs

def positionalText (wholePoint : Bool) (digits : List Char) (point : Int) : List Char :=
  if point ≤ 0 then
    '0' :: '.' :: (List.replicate (-point).toNat '0' ++ digits)
  else if digits.length ≤ point.toNat then
    digits ++ List.replicate (point.toNat - digits.length) '0' ++
      (if wholePoint then ['.', '0'] else [])
  else digits.take point.toNat ++ '.' :: digits.drop point.toNat

def exponentText (plusSign : Bool) (digits : List Char) (power : Int) : List Char :=
  let mantissa := match digits with
    | first :: second :: rest => first :: '.' :: second :: rest
    | short => short
  mantissa ++ 'e' :: ((if plusSign ∧ 0 < power then ['+'] else []) ++ intDigits power)

def Layout.magnitude (style : Layout) (d : Decimal) : List Char :=
  let digits := natDigits d.significand
  let power : Int := if d.significand = 0 then 0 else d.exponent + digits.length - 1
  match style.positional with
  | none => positionalText style.wholePoint digits (power + 1)
  | some (least, most) =>
      if d.significand = 0 ∨ (least ≤ power ∧ power ≤ most) then
        positionalText style.wholePoint digits (power + 1)
      else exponentText style.plusSign digits power

def Layout.finite {f : Format} (style : Layout) (x : Finite f) : List Char :=
  (if x.negative then ['-'] else []) ++ style.magnitude (x.shortest style.tie)

def Layout.text {f : Format} (style : Layout) : Binary f → String
  | .nan => "NaN"
  | .infinite true => "-inf"
  | .infinite false => "inf"
  | .finite x => String.ofList (style.finite x)

def Layout.dataText {f : Format} (style : Layout) : Binary f → List Char
  | .finite x => style.finite x
  | _ => ['n', 'u', 'l', 'l']

end ShaderKnobs.Number
