import PageBundle.Number.Binary64

/-!
Decimal text of a quotient with a fixed number of places.
-/

namespace PageBundle.Decimal

/-- Decimal digits with zeros in front up to the given width. -/
def padded (width n : Nat) : List Char :=
  let ds := Nat.toDigits 10 n
  List.replicate (width - ds.length) '0' ++ ds

/-- The quotient `num / den` with `places` digits after the point, rounded to the nearest such number; a tie
goes to the one with an even last digit. -/
def fixed (places num den : Nat) : String :=
  let scaled := Binary64.nearest (num * Nat.pow 10 places) den
  let whole := Nat.toDigits 10 (scaled / Nat.pow 10 places)
  String.ofList (whole ++ '.' :: padded places (scaled % Nat.pow 10 places))

end PageBundle.Decimal
