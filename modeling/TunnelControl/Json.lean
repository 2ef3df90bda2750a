/-!
# JSON values

Records are exchanged as JSON. No record holds a number with a fraction or an
exponent, so such a number is only known to be one.
-/

namespace TunnelControl

inductive Json
  | null
  | bool (b : Bool)
  | int (n : Int)
  | fraction
  | str (s : String)
  | arr (elems : List Json)
  | obj (fields : List (String × Json))

namespace Json

/-- What an object holds under a key. -/
def field? (key : String) (fields : List (String × Json)) : Option Json := fields.lookup key

/-- The entries of an object; other values have none. -/
def entries : Json → List (String × Json)
  | .obj fields => fields
  | _ => []

/-- A text, or null for none. -/
def ofText? : Option String → Json
  | none => .null
  | some s => .str s

def ofInt32 (n : Int32) : Json := .int n.toInt

def ofNat (n : Nat) : Json := .int n

end Json
end TunnelControl
