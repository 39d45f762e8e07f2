/-
# Plain data as JSON in one line

Data written as JSON text without blanks between its parts. Binary fractions have
words for what is no finite number.
-/

import FsmCompiler.Datum.Json

namespace FsmCompiler.Datum

/-- A binary fraction as a number or a word. -/
def jsonNumber : Binary64 → String
  | .infinite negative => (if negative then "-" else "") ++ "Infinity"
  | .notANumber => "NaN"
  | value => value.text

mutual

/-- A value as JSON in one line. -/
def jsonLine : Datum → String
  | null => "null"
  | bool value => if value then "true" else "false"
  | whole value => toString value
  | fraction value => jsonNumber value
  | moment name => jsonText name
  | text value => jsonText value
  | list items => "[" ++ ",".intercalate (lineItems items) ++ "]"
  | record fields => "\x7b" ++ ",".intercalate (lineFields fields) ++ "\x7d"

/-- The entries of a list. -/
def lineItems : List Datum → List String
  | [] => []
  | item :: rest => jsonLine item :: lineItems rest

/-- The fields of a record. -/
def lineFields : List (String × Datum) → List String
  | [] => []
  | (name, value) :: rest => (jsonText name ++ ":" ++ jsonLine value) :: lineFields rest

end

end FsmCompiler.Datum
