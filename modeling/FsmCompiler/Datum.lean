/-
# Plain data

Values without a type of their own: what configuration files and serialized
machines hold, and what guards and actions are given. Numbers are whole or
binary fractions; the two are different even where they are equal, and are
compared by their exact sizes.
-/

import FsmCompiler.Binary64.Shortest
import FsmCompiler.Magnitude
import FsmCompiler.Text.Quoted
import FsmCompiler.Text.Line

namespace FsmCompiler

/-- A plain value. -/
inductive Datum
  | null
  | bool (value : Bool)
  | whole (value : Int)
  | fraction (value : Binary64)
  | text (value : String)
  | moment (text : String)
  | list (items : List Datum)
  | record (fields : List (String × Datum))
  deriving Repr, Inhabited

namespace Datum

/-- The value of a field of a record. -/
def field? (name : String) : Datum → Option Datum
  | record fields => fields.lookup name
  | _ => none

/-- The number that a value stands for; truth values count as one and zero. -/
def number? : Datum → Option Magnitude
  | bool value => some (.ofWhole (if value then 1 else 0))
  | whole value => some (.ofWhole value)
  | fraction value => some (.ofBinary value)
  | _ => none

/-- Whether a value counts as true: all but null, false, zero and what is empty. -/
def truthy : Datum → Bool
  | null => false
  | bool value => value
  | whole value => value != 0
  | fraction value => !value.isZero
  | text value => value != ""
  | list items => !items.isEmpty
  | record fields => !fields.isEmpty
  | moment _ => true

/-- The name of a value's type. -/
def typeName : Datum → String
  | null => "NoneType"
  | bool _ => "bool"
  | whole _ => "int"
  | fraction _ => "float"
  | text _ => "str"
  | moment _ => "datetime"
  | list _ => "list"
  | record _ => "dict"

mutual

/-- A value as a message shows it. -/
def shown : Datum → String
  | null => "None"
  | bool value => if value then "True" else "False"
  | whole value => toString value
  | fraction value => value.text
  | text value => Text.quoted value
  | moment value => value
  | list items => "[" ++ Text.commaList (shownItems items) ++ "]"
  | record fields => "\x7b" ++ Text.commaList (shownFields fields) ++ "\x7d"

/-- The entries of a list as a message shows them. -/
def shownItems : List Datum → List String
  | [] => []
  | item :: rest => shown item :: shownItems rest

/-- The fields of a record as a message shows them. -/
def shownFields : List (String × Datum) → List String
  | [] => []
  | (name, value) :: rest => (Text.quoted name ++ ": " ++ shown value) :: shownFields rest

end

/-- A value as text: a text is its own. -/
def plainText : Datum → String
  | text value => value
  | value => value.shown

mutual

/-- Whether two values are equal; numbers and truth values are compared as
numbers. -/
def equal : Datum → Datum → Bool
  | null, null => true
  | text a, text b => a == b
  | moment a, moment b => a == b
  | list a, list b => equalItems a b
  | record a, record b => a.length == b.length && fieldsIn b a
  | a, b =>
    match a.number?, b.number? with
    | some a, some b => a.equal b
    | _, _ => false

/-- Whether two lists have equal entries. -/
def equalItems : List Datum → List Datum → Bool
  | [], [] => true
  | a :: as, b :: bs => equal a b && equalItems as bs
  | _, _ => false

/-- Whether every field has an equal field in `other`. -/
def fieldsIn (other : List (String × Datum)) : List (String × Datum) → Bool
  | [] => true
  | (name, value) :: rest =>
    (match other.lookup name with
      | some found => equal value found
      | none => false) && fieldsIn other rest

end

mutual

/-- Whether one value comes before another: numbers by size, texts by their
characters, lists by their first entries that differ. Of values that cannot be
ordered the names of their types are given. -/
def less : Datum → Datum → Except (String × String) Bool
  | text a, text b => .ok (a < b)
  | list a, list b => lessItems a b
  | a, b =>
    match a.number?, b.number? with
    | some a, some b => .ok (a.less b)
    | _, _ => .error (a.typeName, b.typeName)

/-- Whether one list comes before another; a list comes before what extends it. -/
def lessItems : List Datum → List Datum → Except (String × String) Bool
  | [], others => .ok !others.isEmpty
  | _ :: _, [] => .ok false
  | a :: as, b :: bs => if equal a b then lessItems as bs else less a b

end

end Datum

end FsmCompiler
