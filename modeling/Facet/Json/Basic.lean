import Facet.Number.Binary

namespace Facet

inductive Json
  | null : Json
  | bool : Bool → Json
  | integer : Int → Json
  | real : Number.Binary .double → Json
  | string : String → Json
  | array : List Json → Json
  | object : List (String × Json) → Json

namespace Json

instance : Inhabited Json := ⟨.null⟩

mutual

/-- Equality of values. Objects are kept with sorted keys, so their fields are compared in order. -/
def eqv : Json → Json → Bool
  | .null, .null => true
  | .bool a, .bool b => a == b
  | .integer a, .integer b => a == b
  | .real a, .real b => a.eqv b
  | .string a, .string b => a == b
  | .array as, .array bs => eqvItems as bs
  | .object as, .object bs => eqvFields as bs
  | _, _ => false

def eqvItems : List Json → List Json → Bool
  | [], [] => true
  | a :: as, b :: bs => eqv a b && eqvItems as bs
  | _, _ => false

def eqvFields : List (String × Json) → List (String × Json) → Bool
  | [], [] => true
  | (k, a) :: as, (l, b) :: bs => k == l && eqv a b && eqvFields as bs
  | _, _ => false

end

mutual

def hasNull : Json → Bool
  | .null => true
  | .array items => itemsHaveNull items
  | .object fields => fieldsHaveNull fields
  | _ => false

def itemsHaveNull : List Json → Bool
  | [] => false
  | a :: as => hasNull a || itemsHaveNull as

def fieldsHaveNull : List (String × Json) → Bool
  | [] => false
  | (_, a) :: as => hasNull a || fieldsHaveNull as

end

end Json

end Facet
