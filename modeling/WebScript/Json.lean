/-!
# JSON values

The values of the interchange format, as they are handed to renderers and read from data files.
-/

namespace WebScript

/-- A JSON value. Whole numbers are kept apart from numbers with a fraction or an exponent. -/
inductive Json where
  | null
  | bool (b : Bool)
  | integer (n : Int)
  | real (x : Float)
  | string (s : String)
  | array (items : List Json)
  | object (members : List (String × Json))
  deriving Inhabited

end WebScript
