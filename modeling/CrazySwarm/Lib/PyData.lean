import CrazySwarm.Lib.Dict
import CrazySwarm.Numbers

/-! Python values as JSON gives them, with the tuples that a program builds of them: truth, `str`,
`isinstance`, iteration and the dictionary lookups of untyped data. -/
namespace CrazySwarm
open PyFloat

inductive PyData (F : Type) where
  | none
  | bool (value : Bool)
  | int (value : Int)
  | float (value : F)
  | text (value : String)
  | list (items : List (PyData F))
  | tuple (items : List (PyData F))
  | mapping (items : List (String × PyData F))

/-- What untyped code raises, beside the faults of the application. -/
inductive DataError where
  | type
  | attribute
  | key (name : String)
  | value (message : String)
  | validation (model : String) (fields : List String)
  deriving DecidableEq, Repr

/-- The built-in functions that print floats and read them, and round them to an integer. -/
class PyBuiltins (F : Type) extends PyMath F where
  floor : F → Int
  ceil : F → Int
  /-- `str` of a float. -/
  floatStr : F → String
  /-- `str` of a list, a tuple or a dictionary. -/
  containerStr : PyData F → String
  /-- `format(value, ".3f")`. -/
  format3 : F → String
  /-- The float that a contract model reads from a text. -/
  parseFloat : String → Option F

/-- For evaluating models; texts are not read as numbers. -/
instance : PyBuiltins ℚ where
  floor := Rat.floor
  ceil := Rat.ceil
  floatStr value := toString value
  containerStr _ := "..."
  format3 value := toString value
  parseFloat _ := none

abbrev PyMapping (F : Type) := List (String × PyData F)

variable {F : Type}

namespace PyMapping

/-- `mapping.get(key, default)`. -/
def getD (items : PyMapping F) (key : String) (default : PyData F) : PyData F :=
  (Dict.lookup key items).getD default

/-- `mapping.get(key)`. -/
def get (items : PyMapping F) (key : String) : PyData F := items.getD key .none

def keys (items : PyMapping F) : List String := items.map (·.1)

end PyMapping

namespace PyData

/-- `value if isinstance(value, Mapping) else {}`. -/
def asMapping : PyData F → PyMapping F
  | mapping items => items
  | _ => []

def isMapping : PyData F → Bool
  | mapping _ => true
  | _ => false

def field (items : PyMapping F) (key : String) : PyMapping F := (items.get key).asMapping

def isTrue : PyData F → Bool
  | bool true => true
  | _ => false

/-- `isinstance(value, bool)`. -/
def asBool : PyData F → Option Bool
  | bool value => some value
  | _ => Option.none

/-- The number of an `int`; truth values are among them. -/
def asInt : PyData F → Option Int
  | bool value => some value.toNat
  | int value => some value
  | _ => Option.none

/-- `set(value)` of texts, when nothing else is in the value; `TypeError` at what cannot be in a
set. -/
def hashable : PyData F → Bool
  | list _ | mapping _ => false
  | tuple items => items.attach.all fun ⟨item, _⟩ => item.hashable
  | _ => true

def asText : PyData F → Option String
  | text value => some value
  | _ => Option.none

/-- `for item in value`. -/
def iterate : PyData F → Except DataError (List (PyData F))
  | list items | tuple items => .ok items
  | mapping items => .ok (items.map fun item => text item.1)
  | text value => .ok (value.toList.map fun c => text (String.singleton c))
  | _ => .error .type

def asSequence : PyData F → Option (List (PyData F))
  | list items | tuple items => some items
  | _ => Option.none

def asList : PyData F → Option (List (PyData F))
  | list items => some items
  | _ => Option.none

/-- `set(items) == names`, of a sequence of items. -/
def sameNames (items : List (PyData F)) (names : List String) : Except DataError Bool :=
  if items.all hashable then
    .ok (items.all (fun item => item.asText.any names.contains) &&
      names.all fun name => items.any fun item => item.asText = some name)
  else .error .type

section Numbers
variable [PyFloat F]

def truthy : PyData F → Bool
  | none => false
  | bool value => value
  | int value => value ≠ 0
  | float value => !eq value zero
  | text value => value ≠ ""
  | list items | tuple items => !items.isEmpty
  | mapping items => !items.isEmpty

/-- `left or right`. -/
def or (left right : PyData F) : PyData F := if left.truthy then left else right

/-- `float(value) if isinstance(value, (int, float)) else None`. -/
def asNumber : PyData F → Option F
  | bool value => some (ofRat value.toNat)
  | int value => some (ofRat value)
  | float value => some value
  | _ => Option.none

end Numbers

/-- `str(value)`. -/
def str [PyBuiltins F] : PyData F → String
  | none => "None"
  | bool true => "True"
  | bool false => "False"
  | int value => toString value
  | float value => PyBuiltins.floatStr value
  | text value => value
  | value => PyBuiltins.containerStr value

/-- The texts are their own strings, so a string other than theirs is of another value. -/
theorem eq_of_str_eq [PyBuiltins F] {first second : PyData F} {name name' : String}
    (left : first.asText = some name) (right : second.asText = some name')
    (same : first.str = second.str) : first = second := by
  cases first <;> cases second <;> simp_all [asText, str]

end PyData

end CrazySwarm
