import Switchboard.Document

/-!
# Tables in settings files

Where a line of a settings file puts its value. A table is defined in one place only: no key is
given twice, a header does not reopen a table, and dotted keys add only to tables that dotted keys
have made.
-/

namespace Switchboard.Toml

abbrev Fields := List (String × Document)

/-- Replaces the value under a name, or puts it at the end. -/
def write (name : String) (d : Document) : Fields → Fields
  | [] => [(name, d)]
  | f :: fs => if f.1 = name then (name, d) :: fs else f :: write name d fs

/-- Changes the fields of the last table of an array of tables. -/
def inLast (f : Fields → Option Fields) : List Document → Option (List Document)
  | [] => none
  | [.table origin fs] => (f fs).map (fun fs => [.table origin fs])
  | [_] => none
  | d :: ds => (inLast f ds).map (d :: ·)

/-- Puts a value under a dotted key. -/
def put (key : String) (d : Document) : List String → Fields → Option Fields
  | [], fs => if (fs.lookup key).isSome then none else some (write key d fs)
  | name :: path, fs =>
    match fs.lookup name with
    | none => (put key d path []).map (fun t => write name (.table .dotted t) fs)
    | some (.table .dotted t) =>
      (put key d path t).map (fun t => write name (.table .dotted t) fs)
    | some (.table .implied t) =>
      if path = [] then none
      else (put key d path t).map (fun t => write name (.table .implied t) fs)
    | some (.array .headed ts) =>
      if path = [] then none
      else (inLast (put key d path) ts).map (fun ts => write name (.array .headed ts) fs)
    | some _ => none

/-- Changes the fields of the table that a header names, making the tables on the way. -/
def inTable (f : Fields → Option Fields) : List String → Fields → Option Fields
  | [], fs => f fs
  | name :: path, fs =>
    match fs.lookup name with
    | none => (inTable f path []).map (fun t => write name (.table .implied t) fs)
    | some (.table .whole _) => none
    | some (.table origin t) =>
      (inTable f path t).map (fun t => write name (.table origin t) fs)
    | some (.array .headed ts) =>
      (inLast (inTable f path) ts).map (fun ts => write name (.array .headed ts) fs)
    | some _ => none

/-- Opens a table. It may have been implied before, but not defined. -/
def openTable (name : String) (fs : Fields) : Option Fields :=
  match fs.lookup name with
  | none => some (write name (.table .headed []) fs)
  | some (.table .implied t) => some (write name (.table .headed t) fs)
  | some _ => none

/-- Adds a table to an array of tables. -/
def openItem (name : String) (fs : Fields) : Option Fields :=
  match fs.lookup name with
  | none => some (write name (.array .headed [.table .headed []]) fs)
  | some (.array .headed ts) => some (write name (.array .headed (ts ++ [.table .headed []])) fs)
  | some _ => none

end Switchboard.Toml
