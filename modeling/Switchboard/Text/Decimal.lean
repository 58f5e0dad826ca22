/-!
# Decimal numbers

Numbers written with ASCII digits, perhaps with a sign in front.
-/

namespace Switchboard.Text

/-- The number that digits stand for. There is at least one digit; zeros in front do not count. -/
def digits? (cs : List Char) : Option Nat :=
  if cs ≠ [] ∧ cs.all Char.isDigit then
    some (cs.foldl (fun n c => 10 * n + (c.toNat - '0'.toNat)) 0)
  else none

/-- Digits, perhaps after a plus sign. -/
def natural? : List Char → Option Nat
  | '+' :: cs => digits? cs
  | cs => digits? cs

/-- Digits, perhaps after a sign. -/
def integer? : List Char → Option Int
  | '-' :: cs => (digits? cs).map (fun n => -(n : Int))
  | cs => (natural? cs).map Int.ofNat

end Switchboard.Text
