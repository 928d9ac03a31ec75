import MappedSql.Number.Shortest

namespace MappedSql

structure NumberNotation where
  tie : TieRule
  /-- The places of the decimal point that are written without an exponent. -/
  positional : Int → Bool
  /-- What follows a whole number written without an exponent. -/
  wholeMark : String
  /-- The mark of an exponent that is not negative. -/
  risingMark : String

namespace NumberNotation

def plain : NumberNotation :=
  ⟨.up, fun _ => true, "", "e"⟩

/-- JSON shows every float with a point or an exponent, the latter from `1e16` up and below
`1e-5`. -/
def json : NumberNotation :=
  ⟨.toEven, fun point => -5 < point && point ≤ 16, ".0", "e+"⟩

/-- Error messages show whole numbers with a point, and an exponent from `1e16` up and below
`1e-4`. -/
def token : NumberNotation :=
  ⟨.up, fun point => -4 < point && point ≤ 16, ".0", "e"⟩

def zeros (count : Nat) : String :=
  String.ofList (List.replicate count '0')

def exponentMark (style : NumberNotation) (n : Int) : String :=
  (if n < 0 then "e-" else style.risingMark) ++ toString n.natAbs

def writePositional (style : NumberNotation) (digits : List Char) (point : Int) : String :=
  if point ≤ 0 then "0." ++ zeros (-point).toNat ++ String.ofList digits
  else if digits.length ≤ point.toNat then
    String.ofList digits ++ zeros (point.toNat - digits.length) ++ style.wholeMark
  else
    String.ofList (digits.take point.toNat) ++ "." ++ String.ofList (digits.drop point.toNat)

def writeExponent (style : NumberNotation) (digits : List Char) (point : Int) : String :=
  String.ofList (digits.take 1) ++ (if digits.length ≤ 1 then "" else ".")
    ++ String.ofList (digits.drop 1) ++ style.exponentMark (point - 1)

def write (style : NumberNotation) (x : Binary64) : String :=
  if x.isNaN then "NaN"
  else
    let sign := if x.isNegative then "-" else ""
    if !x.isFinite then sign ++ "inf"
    else if x.isZero then sign ++ "0" ++ style.wholeMark
    else
      let decimal := x.shortest style.tie
      let digits := (toString decimal.digits).toList
      sign ++ (if style.positional decimal.point then style.writePositional digits decimal.point
        else style.writeExponent digits decimal.point)

end NumberNotation

end MappedSql
