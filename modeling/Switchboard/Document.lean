/-!
# Documents

Structured data as it is read from a settings file or a message: scalars, arrays and tables with
named fields.
-/

namespace Switchboard

/-- How a table or an array came into being, which decides whether a later line may add to it. -/
inductive Origin where
  /-- Written out as one value. -/
  | whole
  /-- Only named on the way to another table. -/
  | implied
  /-- Made by a dotted key. -/
  | dotted
  /-- Opened by a header of its own. -/
  | headed
  deriving DecidableEq, Repr

inductive Document where
  | null
  | bool (value : Bool)
  | int (value : Int)
  | float
  | text (value : String)
  | date
  | array (origin : Origin) (items : List Document)
  | table (origin : Origin) (fields : List (String × Document))
  deriving Repr, Inhabited

end Switchboard
