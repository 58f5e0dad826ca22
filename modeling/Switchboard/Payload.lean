/-!
# Payloads

A unit of data sent to one or more endpoints, and the reports on its transfer. Sizes are unsigned
64-bit numbers, the numbers in a progress report are signed 64-bit numbers, and a total of `-1`
stands for a size nobody knows.
-/

namespace Switchboard

/-- An id is chosen by the sender or drawn at random; drawn ids differ from every other id. -/
inductive PayloadId where
  | chosen (value : Int64)
  | drawn (serial : Nat)
  deriving DecidableEq, Repr

inductive PayloadKind where
  | bytes
  | stream
  | file
  deriving DecidableEq, Repr

namespace PayloadKind

def name : PayloadKind → String
  | bytes => "Bytes"
  | stream => "Stream"
  | file => "File"

end PayloadKind

inductive PayloadContent where
  | bytes (data : List UInt8)
  | stream (data : List UInt8)
  | file (path : String) (size : UInt64)
  deriving DecidableEq, Repr

structure Payload where
  id : PayloadId
  content : PayloadContent
  deriving DecidableEq, Repr

namespace Payload

def kind (p : Payload) : PayloadKind :=
  match p.content with
  | .bytes _ => .bytes
  | .stream _ => .stream
  | .file .. => .file

/-- The size in bytes; that of a stream is not known. -/
def size? (p : Payload) : Option UInt64 :=
  match p.content with
  | .bytes data => some data.length.toUInt64
  | .stream _ => none
  | .file _ size => some size

def bytes? (p : Payload) : Option (List UInt8) :=
  match p.content with
  | .bytes data => some data
  | _ => none

/-- A one-line description of a payload whose id was chosen. -/
def summary? (p : Payload) : Option String :=
  match p.id with
  | .chosen value =>
    let size := match p.size? with
      | some n => "Some(" ++ toString n.toNat ++ ")"
      | none => "None"
    some ("Payload \x7b id: " ++ toString value.toInt ++ ", kind: " ++ p.kind.name ++ ", size: "
      ++ size ++ " \x7d")
  | .drawn _ => none

end Payload

inductive TransferStatus where
  | success
  | failure
  | inProgress
  | canceled
  deriving DecidableEq, Repr

namespace TransferStatus

def name : TransferStatus → String
  | success => "Success"
  | failure => "Failure"
  | inProgress => "InProgress"
  | canceled => "Canceled"

def ofName? (n : String) : Option TransferStatus :=
  [success, failure, inProgress, canceled].find? (·.name == n)

end TransferStatus

structure Progress where
  payload : PayloadId
  status : TransferStatus
  total : Int64
  transferred : Int64
  deriving DecidableEq, Repr

namespace Progress

/-- The size as a signed number, `-1` when it is not known. -/
def totalOf (size : Option UInt64) : Int64 :=
  match size with
  | some n => n.toInt64
  | none => -1

/-- The report on a transfer that is over: all of it arrived, or nothing. -/
def settled (p : Payload) (delivered : Bool) : Progress :=
  { payload := p.id
    status := if delivered then .success else .failure
    total := totalOf p.size?
    transferred := if delivered then max (totalOf p.size?) 0 else 0 }

end Progress

end Switchboard
