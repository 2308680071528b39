import EdgeGateway.Decimal.Literal
import EdgeGateway.Text.Ends

/-!
# Log levels

A level is named by a word in any case, or by a number from one to five. Blanks around the name
are ignored, and what names no level stands for `info`.
-/

namespace EdgeGateway

/-- How much is logged. -/
inductive Level where
  | error
  | warn
  | info
  | debug
  | trace
  deriving DecidableEq, Repr

namespace Level

/-- The levels in the order of their numbers, which count from one. -/
def all : List Level := [error, warn, info, debug, trace]

/-- The name of a level. -/
def name : Level → String
  | error => "ERROR"
  | warn => "WARN"
  | info => "INFO"
  | debug => "DEBUG"
  | trace => "TRACE"

/-- The level of a number. -/
def ofNumber? : Nat → Option Level
  | 0 => none
  | number + 1 => all[number]?

/-- The level that a text names. -/
def ofText (text : String) : Level :=
  let folded := (Text.trimmed text.toList).map Char.toUpper
  let word := String.ofList folded
  if word = "WARNING" then warn
  else
    match all.find? (·.name = word) with
    | some level => level
    | none => ((Decimal.natural64? folded).bind ofNumber?).getD info

/-- A level is named by its own name. -/
theorem ofText_name (level : Level) : ofText level.name = level := by
  cases level <;> decide +kernel

end Level

end EdgeGateway
