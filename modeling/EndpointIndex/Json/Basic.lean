import EndpointIndex.Number.Double

/-!
# JSON values

Objects keep their members in order, one for each key: a repeated key takes the value given last and
the place of the first.
-/

namespace EndpointIndex

inductive Json where
  | null
  | bool (b : Bool)
  | int (i : Int)
  /-- A number with a fraction or an exponent. -/
  | double (x : Double)
  | string (s : String)
  | array (items : List Json)
  | object (members : List (String × Json))
  deriving Inhabited

namespace Json

/-- Sets a member of an object. -/
def setMember (key : String) (value : Json) : List (String × Json) → List (String × Json)
  | [] => [(key, value)]
  | (k, v) :: rest => if k = key then (k, value) :: rest else (k, v) :: setMember key value rest

/-- The member of an object with the given key. -/
def member? (key : String) : Json → Option Json
  | object members => (members.find? (·.1 == key)).map Prod.snd
  | _ => none

end Json

end EndpointIndex
