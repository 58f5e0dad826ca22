import Switchboard.Directory
import Switchboard.Medium
import Switchboard.Status

/-!
# Endpoints

An endpoint is named by a short text. Lengths are counted in bytes of UTF-8, and ids are ordered
by their bytes, which for UTF-8 is the order of their code points.
-/

namespace Switchboard

structure EndpointId where
  text : String
  deriving DecidableEq, Repr, Inhabited

namespace EndpointId

instance : Ord EndpointId := ⟨fun a b => compare a.text b.text⟩

theorem compare_def (a b : EndpointId) : compare a b = compare a.text b.text := rfl

instance : Std.TransOrd EndpointId where
  eq_swap {a b} := @Std.OrientedCmp.eq_swap String compare _ a.text b.text
  isLE_trans {a b c} := @Std.TransCmp.isLE_trans String compare _ a.text b.text c.text

instance : Std.LawfulEqOrd EndpointId where
  compare_self {a} := Directory.compare_self_eq a.text
  eq_of_compare {a b} h := by
    cases a; cases b
    exact congrArg _ (Directory.eq_of_compare (κ := String) h)

def bytes (id : EndpointId) : List UInt8 := id.text.toUTF8.data.toList

/-- Length in bytes. -/
def size (id : EndpointId) : Nat := id.text.utf8ByteSize

def isEmpty (id : EndpointId) : Bool := id.size = 0

/-- The distinct ids of a list in ascending order. -/
def sortDistinct (ids : List EndpointId) : List EndpointId :=
  (Directory.ofList (ids.map (fun id => (id, ())))).keys

/-- A number in decimal with at least four digits. -/
def fourDigits (n : Nat) : String :=
  let digits := toString n
  String.ofList (List.replicate (4 - digits.length) '0') ++ digits

/-- The short code both sides can compare by eye: the sum of the id's bytes, in four digits. -/
def token (id : EndpointId) : String :=
  fourDigits (id.bytes.foldl (fun n b => n + b.toNat) 0 % 10000)

end EndpointId

/-- How far away a discovered endpoint seems to be. -/
inductive Distance where
  | unknown
  | veryClose
  | close
  | far
  deriving DecidableEq, Repr

namespace Distance

def name : Distance → String
  | unknown => "Unknown"
  | veryClose => "VeryClose"
  | close => "Close"
  | far => "Far"

def ofName? (n : String) : Option Distance :=
  [unknown, veryClose, close, far].find? (·.name == n)

end Distance

/-- An endpoint learned over another channel, to be reported by a discovery that is under way. -/
structure OutOfBand where
  medium : Medium
  address : List UInt8
  id : EndpointId
  info : List UInt8
  deriving DecidableEq, Repr

namespace OutOfBand

def addressLength : Nat := 6

def idLength : Nat := 4

def maxInfoLength : Nat := 131

/-- Well-formed metadata names a Bluetooth address of six bytes, an id of four bytes and between
one and 131 bytes of info. -/
def check (m : OutOfBand) : Status :=
  if m.medium ≠ .bluetooth ∨ m.address.length ≠ addressLength then .error
  else if m.id.size ≠ idLength then .error
  else if m.info = [] ∨ maxInfoLength < m.info.length then .error
  else .success

end OutOfBand

end Switchboard
