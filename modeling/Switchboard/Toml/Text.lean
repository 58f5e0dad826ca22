/-!
# Text in settings files

Strings, bare keys, blanks and comments. Every reader takes the characters that are left and gives
back what it read with the characters after it.
-/

namespace Switchboard.Toml

/-- Reads something from the front of the text that is left. -/
abbrev Reader (α : Type) := List Char → Option (α × List Char)

def isSpace (c : Char) : Bool := c = ' ' || c = '\t'

def skipSpaces (cs : List Char) : List Char := cs.dropWhile isSpace

/-- Whether a character may stand in a comment or, quotes and backslashes apart, in a string. -/
def isPlain (c : Char) : Bool := c = '\t' || (' ' ≤ c && c ≠ '\x7f')

def newline? : List Char → Option (List Char)
  | '\n' :: cs => some cs
  | '\r' :: '\n' :: cs => some cs
  | _ => none

def skipComment : List Char → List Char
  | '#' :: cs => cs.dropWhile isPlain
  | cs => cs

/-- The rest of a line holds nothing but blanks and a comment. -/
def endOfLine (cs : List Char) : Option (List Char) :=
  match skipComment (skipSpaces cs) with
  | [] => some []
  | cs => newline? cs

/-- Skips blanks, ends of lines and comments; each turn uses up at least one character. -/
def skipBlankLines : Nat → List Char → List Char
  | 0, cs => cs
  | fuel + 1, cs =>
    match skipSpaces cs with
    | '#' :: rest => skipBlankLines fuel (rest.dropWhile isPlain)
    | cs =>
      match newline? cs with
      | some rest => skipBlankLines fuel rest
      | none => cs

/-! ## Strings -/

def hexValue? (c : Char) : Option Nat :=
  if '0' ≤ c && c ≤ '9' then some (c.toNat - '0'.toNat)
  else if 'a' ≤ c && c ≤ 'f' then some (c.toNat - 'a'.toNat + 10)
  else if 'A' ≤ c && c ≤ 'F' then some (c.toNat - 'A'.toNat + 10)
  else none

/-- The character with a code point written in hexadecimal. -/
def codePoint? (digits : List Char) : Option Char := do
  let values ← digits.mapM hexValue?
  let n := values.foldl (fun n d => 16 * n + d) 0
  if n.isValidChar then some (Char.ofNat n) else none

/-- What may follow a backslash. -/
def escape? : Reader Char
  | 'b' :: cs => some ('\x08', cs)
  | 't' :: cs => some ('\t', cs)
  | 'n' :: cs => some ('\n', cs)
  | 'f' :: cs => some ('\x0c', cs)
  | 'r' :: cs => some ('\r', cs)
  | '"' :: cs => some ('"', cs)
  | '\\' :: cs => some ('\\', cs)
  | 'u' :: cs =>
    if cs.length < 4 then none else (codePoint? (cs.take 4)).map (fun c => (c, cs.drop 4))
  | 'U' :: cs =>
    if cs.length < 8 then none else (codePoint? (cs.take 8)).map (fun c => (c, cs.drop 8))
  | _ => none

/-- The rest of a string on one line, with escapes. -/
def basicRest : Nat → List Char → Reader String
  | 0, _, _ => none
  | fuel + 1, read, cs =>
    match cs with
    | '"' :: cs => some (String.ofList read.reverse, cs)
    | '\\' :: cs => (escape? cs).bind (fun (c, cs) => basicRest fuel (c :: read) cs)
    | c :: cs => if isPlain c then basicRest fuel (c :: read) cs else none
    | [] => none

/-- The rest of a string on one line, without escapes. -/
def literalRest : List Char → Reader String
  | read, '\'' :: cs => some (String.ofList read.reverse, cs)
  | read, c :: cs => if isPlain c then literalRest (c :: read) cs else none
  | _, [] => none

/-- Splits a run of quotes at the front of a string over several lines: three quotes end it, and up
to two more may stand right before them. -/
def closing? (quote : Char) (cs : List Char) : Option (Option (Nat × List Char)) :=
  let run := (cs.takeWhile (· = quote)).length
  if run < 3 then some none
  else if run ≤ 5 then some (some (run - 3, cs.drop run))
  else none

/-- The rest of a string over several lines. With `escapes`, a backslash at the end of a line joins
the line to the next text. -/
def multiLineRest (quote : Char) (escapes : Bool) : Nat → List Char → Reader String
  | 0, _, _ => none
  | fuel + 1, read, cs => do
    match ← closing? quote cs with
    | some (extra, rest) =>
      return (String.ofList (List.replicate extra quote ++ read).reverse, rest)
    | none =>
      match newline? cs with
      | some rest => multiLineRest quote escapes fuel ('\n' :: read) rest
      | none =>
        match cs with
        | '\\' :: rest =>
          if !escapes then multiLineRest quote escapes fuel ('\\' :: read) rest
          else
            match newline? (skipSpaces rest) with
            | some rest => multiLineRest quote escapes fuel read (skipBlank rest.length rest)
            | none =>
              let (c, rest) ← escape? rest
              multiLineRest quote escapes fuel (c :: read) rest
        | c :: rest => if isPlain c then multiLineRest quote escapes fuel (c :: read) rest else none
        | [] => none
where
  skipBlank : Nat → List Char → List Char
    | 0, cs => cs
    | fuel + 1, cs =>
      match newline? (skipSpaces cs) with
      | some rest => skipBlank fuel rest
      | none => skipSpaces cs

/-- A line end right after the opening quotes does not count. -/
def dropFirstNewline (cs : List Char) : List Char := (newline? cs).getD cs

def text? : Reader String
  | '"' :: '"' :: '"' :: cs => multiLineRest '"' true (cs.length + 1) [] (dropFirstNewline cs)
  | '"' :: cs => basicRest (cs.length + 1) [] cs
  | '\'' :: '\'' :: '\'' :: cs =>
    multiLineRest '\'' false (cs.length + 1) [] (dropFirstNewline cs)
  | '\'' :: cs => literalRest [] cs
  | _ => none

/-! ## Keys -/

def isBare (c : Char) : Bool := c.isAlphanum || c = '_' || c = '-'

def simpleKey? : Reader String
  | '"' :: cs => basicRest (cs.length + 1) [] cs
  | '\'' :: cs => literalRest [] cs
  | cs =>
    match cs.takeWhile isBare with
    | [] => none
    | key => some (String.ofList key, cs.dropWhile isBare)

/-- How long a dotted key may be, and how deeply values may be nested. -/
def depthLimit : Nat := 79

/-- Keys separated by dots, with blanks around each; `fuel` bounds their number. -/
def dottedKey? : Nat → Reader (List String)
  | 0, _ => none
  | fuel + 1, cs => do
    let (key, cs) ← simpleKey? (skipSpaces cs)
    match skipSpaces cs with
    | '.' :: cs =>
      let (keys, cs) ← dottedKey? fuel cs
      return (key :: keys, cs)
    | cs => return ([key], cs)

def key? : Reader (List String) := dottedKey? depthLimit

end Switchboard.Toml
