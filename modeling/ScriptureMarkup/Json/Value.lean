namespace ScriptureMarkup.Json

/-- Numbers without fraction and power that fit 64 bits are integers; all others are
read as doubles. -/
inductive Number
  | integer (n : Int)
  | real (x : Float)

/-- A value that holds no other value. -/
inductive Scalar
  | null
  | bool (b : Bool)
  | number (n : Number)
  | string (text : String)

/-- A value kept whole. The fields of an object stand in the order in which they are
written or, after reading, in ascending order of keys. -/
inductive Value
  | scalar (s : Scalar)
  | array (items : List Value)
  | object (fields : List (String × Value))

namespace Value

abbrev null : Value := .scalar .null

abbrev bool (b : Bool) : Value := .scalar (.bool b)

abbrev integer (n : Int) : Value := .scalar (.number (.integer n))

abbrev string (text : String) : Value := .scalar (.string text)

/-- What an object holds under a key; nothing for any other value. -/
def field? (key : String) : Value → Option Value
  | .object fields => fields.lookup key
  | _ => none

end Value

/-- What stands at a place: a scalar that has been read, or the first bracket of the rest. -/
inductive Found
  | scalar (s : Scalar)
  | sequence
  | map

def Value.found : Value → Found
  | .scalar s => .scalar s
  | .array _ => .sequence
  | .object _ => .map

end ScriptureMarkup.Json
