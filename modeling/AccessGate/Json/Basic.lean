import AccessGate.Keyed
import AccessGate.Number.Binary64

/-! # JSON values

Objects keep the order in which their keys first came, integers are told from numbers with a fraction
or an exponent, and the numbers include the infinities and the value that is no number. -/
namespace AccessGate

inductive Json where
  | null
  | bool (b : Bool)
  | int (n : Int)
  | float (x : Binary64)
  | str (s : String)
  | arr (items : List Json)
  | obj (members : List (String × Json))
  deriving Inhabited, Repr

namespace Json

/-- The members of an object from all pairs written in it: of a repeated key the last value counts,
in the place of the first. -/
def membersOf (pairs : List (String × Json)) : List (String × Json) := Keyed.ofList pairs

def member? (key : String) (members : List (String × Json)) : Option Json :=
  members.lookup key

def isNull : Json → Bool
  | .null => true
  | _ => false

end AccessGate.Json
