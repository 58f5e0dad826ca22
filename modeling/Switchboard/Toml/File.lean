import Switchboard.Toml.Scalar
import Switchboard.Toml.Table

/-!
# Settings files

Reads a whole file in the TOML format. Every line is a key with a value, a header, or empty but for
a comment.
-/

namespace Switchboard.Toml

mutual

/-- Reads a value. The fuel bounds the number of steps, `depth` how deeply values may still nest. -/
def value? : Nat → Nat → Reader Document
  | 0, _, _ => none
  | fuel + 1, depth, cs =>
    match cs, depth with
    | '[' :: cs, depth + 1 => items? fuel depth [] (skipBlankLines cs.length cs)
    | '{' :: cs, depth + 1 =>
      match skipSpaces cs with
      | '}' :: cs => some (.table .whole [], cs)
      | cs => inline? fuel depth [] cs
    | '[' :: _, 0 => none
    | '{' :: _, 0 => none
    | cs, _ => scalar? cs

/-- The rest of an array, at an item or the closing bracket. -/
def items? : Nat → Nat → List Document → Reader Document
  | 0, _, _, _ => none
  | fuel + 1, depth, read, cs =>
    match cs with
    | ']' :: cs => some (.array .whole read.reverse, cs)
    | cs => do
      let (d, cs) ← value? fuel depth cs
      match skipBlankLines cs.length cs with
      | ',' :: cs => items? fuel depth (d :: read) (skipBlankLines cs.length cs)
      | ']' :: cs => return (.array .whole (d :: read).reverse, cs)
      | _ => none

/-- The rest of a table on one line, at a key. -/
def inline? : Nat → Nat → Fields → Reader Document
  | 0, _, _, _ => none
  | fuel + 1, depth, fields, cs => do
    let (path, cs) ← key? cs
    let cs ← char? '=' cs
    let (d, cs) ← value? fuel depth (skipSpaces cs)
    let fields ← put (path.getLastD "") d path.dropLast fields
    match skipSpaces cs with
    | ',' :: cs => inline? fuel depth fields cs
    | '}' :: cs => return (.table .whole fields, cs)
    | _ => none

end

/-- What has been read so far, and the table that the next keys belong to. -/
structure State where
  root : Fields := []
  table : List String := []

/-- The rest of a header after its opening brackets. -/
def header? (closing : List Char) (enter : String → Fields → Option Fields) (s : State)
    (cs : List Char) : Option (State × List Char) := do
  let (path, cs) ← key? cs
  let cs ← closing.foldlM (fun cs c => char? c cs) cs
  let root ← inTable (enter (path.getLastD "")) path.dropLast s.root
  return (⟨root, path⟩, ← endOfLine cs)

def keyValue? (s : State) (cs : List Char) : Option (State × List Char) := do
  let (path, cs) ← key? cs
  let cs ← char? '=' cs
  let (d, cs) ← value? (2 * cs.length + 1) depthLimit (skipSpaces cs)
  let root ← inTable (put (path.getLastD "") d path.dropLast) s.table s.root
  return ({ s with root := root }, ← endOfLine cs)

def lines? : Nat → State → List Char → Option Fields
  | 0, _, _ => none
  | fuel + 1, s, cs =>
    match skipSpaces cs with
    | [] => some s.root
    | '[' :: '[' :: cs => do
      let (s, cs) ← header? [']', ']'] openItem s cs
      lines? fuel s cs
    | '[' :: cs => do
      let (s, cs) ← header? [']'] openTable s cs
      lines? fuel s cs
    | cs =>
      match endOfLine cs with
      | some rest => lines? fuel s rest
      | none => do
        let (s, cs) ← keyValue? s cs
        lines? fuel s cs

/-- Reads a file; a byte order mark at the front is passed over. -/
def read? (text : String) : Option Document :=
  let cs := match text.toList with
    | '\ufeff' :: cs => cs
    | cs => cs
  (lines? (cs.length + 1) {} cs).map (.table .headed)

end Switchboard.Toml
