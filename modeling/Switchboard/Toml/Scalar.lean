import Switchboard.Document
import Switchboard.Toml.Text

/-!
# Scalars in settings files

Booleans, whole numbers of 64 bits, fractional numbers and dates. What fractional numbers and dates
stand for is not kept, only that they are well formed.
-/

namespace Switchboard.Toml

def isDigit (c : Char) : Bool := '0' ≤ c && c ≤ '9'

/-- The rest of a run of digits, in which single underscores may stand between digits. -/
def digitsRest (ok : Char → Bool) : List Char → List Char → List Char × List Char
  | read, '_' :: c :: cs =>
    if ok c then digitsRest ok (c :: read) cs else (read.reverse, '_' :: c :: cs)
  | read, c :: cs => if ok c then digitsRest ok (c :: read) cs else (read.reverse, c :: cs)
  | read, [] => (read.reverse, [])

/-- One digit or more, given without the underscores. -/
def digits? (ok : Char → Bool) : Reader (List Char)
  | c :: cs => if ok c then some (digitsRest ok [c] cs) else none
  | [] => none

def ofDigits (base : Nat) (digits : List Char) : Nat :=
  digits.foldl (fun n c => base * n + (hexValue? c).getD 0) 0

def sign : List Char → Bool × List Char
  | '-' :: cs => (true, cs)
  | '+' :: cs => (false, cs)
  | cs => (false, cs)

/-- Decimal digits without a needless zero in front. -/
def decimal? : Reader (List Char)
  | '0' :: cs => some (['0'], cs)
  | cs => digits? isDigit cs

def inRange? (n : Int) : Option Document :=
  if Int64.minValue.toInt ≤ n ∧ n ≤ Int64.maxValue.toInt then some (.int n) else none

def based? (base : Nat) (ok : Char → Bool) (cs : List Char) : Option (Document × List Char) := do
  let (ds, cs) ← digits? ok cs
  return (← inRange? (ofDigits base ds), cs)

def integer? : Reader Document
  | '0' :: 'x' :: cs => based? 16 (fun c => (hexValue? c).isSome) cs
  | '0' :: 'o' :: cs => based? 8 (fun c => '0' ≤ c && c ≤ '7') cs
  | '0' :: 'b' :: cs => based? 2 (fun c => c = '0' || c = '1') cs
  | cs => do
    let (negative, cs) := sign cs
    let (ds, cs) ← decimal? cs
    let n : Int := ofDigits 10 ds
    return (← inRange? (if negative then -n else n), cs)

/-- The least number too large for a double: half a unit in the last place above the largest one. -/
def doubleLimit : Nat := Nat.pow 2 1024 - Nat.pow 2 970

/-- Whether a number written with these digits and this power of ten is too large for a double. -/
def overflows (digits : List Char) (negativeExponent : Bool) (exponent : Nat) : Bool :=
  let m := ofDigits 10 digits
  let size := (Nat.toDigits 10 m).length
  if m = 0 then false
  else if negativeExponent then
    if size < exponent then false
    else m ≥ doubleLimit * Nat.pow 10 exponent
  else if 310 < size + exponent then true
  else m * Nat.pow 10 exponent ≥ doubleLimit

def exponent? : Reader (Bool × Nat)
  | c :: cs =>
    if c = 'e' || c = 'E' then do
      let (negative, cs) := sign cs
      let (ds, cs) ← digits? isDigit cs
      return ((negative, ofDigits 10 ds), cs)
    else none
  | [] => none

/-- The exponent of a number with `places` digits behind the point. -/
def shift (places : Nat) (negative : Bool) (exponent : Nat) : Bool × Nat :=
  if negative then (true, exponent + places)
  else if places ≤ exponent then (false, exponent - places)
  else (true, places - exponent)

/-- A number with a fraction or an exponent, or one of the two special ones. A positive number must
not be too large. -/
def float? (cs : List Char) : Option (Document × List Char) :=
  let (negative, cs) := sign cs
  match cs with
  | 'i' :: 'n' :: 'f' :: cs => some (.float, cs)
  | 'n' :: 'a' :: 'n' :: cs => some (.float, cs)
  | cs => do
    let (whole, cs) ← decimal? cs
    let (fraction, cs) ←
      match cs with
      | '.' :: cs => (digits? isDigit cs).map (fun (ds, cs) => (some ds, cs))
      | cs => some (none, cs)
    let ((down, exponent), cs) ←
      match exponent? cs, fraction with
      | some r, _ => some r
      | none, some _ => some ((false, 0), cs)
      | none, none => none
    let ds := fraction.getD []
    let (down, exponent) := shift ds.length down exponent
    if !negative && overflows (whole ++ ds) down exponent then none else some (.float, cs)

/-! ## Dates and times -/

/-- Exactly `count` digits whose number lies between `lo` and `hi`. -/
def fixed? (count lo hi : Nat) (cs : List Char) : Option (Nat × List Char) :=
  let ds := cs.take count
  let n := ofDigits 10 ds
  if ds.length = count ∧ ds.all isDigit ∧ lo ≤ n ∧ n ≤ hi then some (n, cs.drop count) else none

def char? (c : Char) : List Char → Option (List Char)
  | d :: cs => if c = d then some cs else none
  | [] => none

def daysIn (year month : Nat) : Nat :=
  if month = 2 then
    if year % 4 = 0 ∧ (year % 100 ≠ 0 ∨ year % 400 = 0) then 29 else 28
  else if month = 4 ∨ month = 6 ∨ month = 9 ∨ month = 11 then 30
  else 31

def fullDate? (cs : List Char) : Option (List Char) := do
  let (year, cs) ← fixed? 4 0 9999 cs
  let (month, cs) ← fixed? 2 1 12 (← char? '-' cs)
  let (_, cs) ← fixed? 2 1 (daysIn year month) (← char? '-' cs)
  return cs

def time? (cs : List Char) : Option (List Char) := do
  let (_, cs) ← fixed? 2 0 23 cs
  let (_, cs) ← fixed? 2 0 59 (← char? ':' cs)
  let (_, cs) ← fixed? 2 0 60 (← char? ':' cs)
  match cs with
  | '.' :: c :: rest => return if isDigit c then rest.dropWhile isDigit else cs
  | _ => return cs

def offset? : List Char → Option (List Char)
  | 'Z' :: cs => some cs
  | 'z' :: cs => some cs
  | c :: cs =>
    if c = '+' || c = '-' then do
      let (_, cs) ← fixed? 2 0 23 cs
      let (_, cs) ← fixed? 2 0 59 (← char? ':' cs)
      return cs
    else none
  | [] => none

/-- A date, a time, or a date with a time and perhaps an offset. -/
def date? (cs : List Char) : Option (Document × List Char) :=
  match fullDate? cs with
  | some rest =>
    let withTime := do
      match rest with
      | c :: cs =>
        if c = 'T' || c = 't' || c = ' ' then
          let cs ← time? cs
          return (offset? cs).getD cs
        else none
      | [] => none
    some (.date, withTime.getD rest)
  | none => (time? cs).map (fun cs => (.date, cs))

def scalar? (cs : List Char) : Option (Document × List Char) :=
  match cs with
  | 't' :: 'r' :: 'u' :: 'e' :: cs => some (.bool true, cs)
  | 'f' :: 'a' :: 'l' :: 's' :: 'e' :: cs => some (.bool false, cs)
  | '"' :: _ | '\'' :: _ => (text? cs).map (fun (s, cs) => (.text s, cs))
  | cs => date? cs <|> float? cs <|> integer? cs

end Switchboard.Toml
