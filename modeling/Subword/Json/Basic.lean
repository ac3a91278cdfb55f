import Subword.Decimal.Number
import Subword.Text.Quoted
import Subword.Text.Search

/-!
# Document values

The values of a JSON document. Integers are exact and of any size, and apart
from the numbers with a point or an exponent. The fields of an object keep
their order, and no key comes twice.

Values turn up in messages in two forms. The literal is how a value is named
when it is out of place: texts between quotes, brackets around lists and
objects. The display form is the same but for a text, which stands as it is.

## Main definitions

* `Json`: A document value.
* `Json.literal`, `Json.display`: The two forms in messages.
* `Json.get?`: A field of an object.
* `Json.holds`: Whether a value counts as true where a condition is asked for.
* `Json.mentions`: Whether a word turns up in a value.
* `Json.equalsInt`, `Json.isLess`: Values compared with integers as numbers.
-/

namespace Subword

/-- A document value. -/
inductive Json where
  | null
  | bool (b : Bool)
  | int (n : Int)
  | float (x : Float)
  | str (s : String)
  | arr (items : List Json)
  | obj (fields : List (String × Json))
  deriving Inhabited

namespace Json

mutual

/-- The literal of a value. -/
def literal : Json → String
  | null => "None"
  | bool true => "True"
  | bool false => "False"
  | int n => toString n
  | float x => Decimal.ofFloat x
  | str s => Text.quote s
  | arr items => "[" ++ ", ".intercalate (literals items) ++ "]"
  | obj fields => "\x7b" ++ ", ".intercalate (fieldLiterals fields) ++ "\x7d"

/-- The literals of the items of a list. -/
def literals : List Json → List String
  | [] => []
  | item :: rest => literal item :: literals rest

/-- The literals of the fields of an object, each with its key. -/
def fieldLiterals : List (String × Json) → List String
  | [] => []
  | (key, value) :: rest => (Text.quote key ++ ": " ++ literal value) :: fieldLiterals rest

end

/-- The display form of a value. -/
def display : Json → String
  | str s => s
  | value => value.literal

/-- The name of a value's kind. -/
def kind : Json → String
  | null => "NoneType"
  | bool _ => "bool"
  | int _ => "int"
  | float _ => "float"
  | str _ => "str"
  | arr _ => "list"
  | obj _ => "dict"

/-- The field of an object with a given key. Other values have no fields. -/
def get? (key : String) : Json → Option Json
  | obj fields => fields.lookup key
  | _ => none

/-- The field of an object with a given key, null when it is missing. -/
def get (key : String) (value : Json) : Json :=
  (value.get? key).getD null

/-- Whether a value counts as true: all but null, false, zero and the empty ones do. -/
def holds : Json → Bool
  | null => false
  | bool b => b
  | int n => n ≠ 0
  | float x => !(x == 0.0)
  | str s => !s.isEmpty
  | arr items => !items.isEmpty
  | obj fields => !fields.isEmpty

/-- Whether a value is null. -/
def isNull : Json → Bool
  | null => true
  | _ => false

/-- Whether a word turns up in a value: as a key of an object, as an item of a list, or within a
    text. -/
def mentions (word : String) : Json → Bool
  | obj fields => fields.any fun field => field.1 = word
  | arr items => items.any fun item =>
    match item with
    | str s => s = word
    | _ => false
  | str s => Text.occurs word.toList s.toList
  | _ => false

/-- The text of a text value. -/
def str? : Json → Option String
  | str s => some s
  | _ => none

/-- The flag of a flag value. -/
def bool? : Json → Option Bool
  | bool b => some b
  | _ => none

/-- The integer of an integer value; flags are not integers. -/
def int? : Json → Option Int
  | int n => some n
  | _ => none

/-- Whether a value is an object. -/
def isObject : Json → Bool
  | obj _ => true
  | _ => false

/-- What a value yields when its parts are gone through: the items of a list, the keys of an
    object, the characters of a text. -/
def items : Json → List Json
  | arr items => items
  | obj fields => fields.map fun field => str field.1
  | str s => s.toList.map fun c => str (String.singleton c)
  | _ => []

/-- Whether a value is of a kind that can be gone through. -/
def hasItems : Json → Bool
  | arr _ | obj _ | str _ => true
  | _ => false

/-- Whether a value can stand where items are asked for: it has some, or it counts as nothing. -/
def standsForItems (value : Json) : Bool :=
  !value.holds || value.hasItems

/-- The integer that a value is equal to as a number, where flags count as one and zero. -/
def numeric? : Json → Option Int
  | bool b => some (if b then 1 else 0)
  | int n => some n
  | float x => Decimal.toInt? x
  | _ => none

/-- Whether a value is equal to an integer as a number. -/
def equalsInt (value : Json) (n : Int) : Bool :=
  value.numeric? = some n

/-- Whether a value is less than an integer as a number. -/
def isLess (value : Json) (n : Int) : Bool :=
  match value with
  | float x => x < Decimal.ofInt n
  | value => value.numeric?.any (· < n)

end Json

end Subword
