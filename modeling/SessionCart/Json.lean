/-!
JSON values. An object is a list of named fields; looking a name up finds its last field, so a
repeated name counts once.
-/

namespace SessionCart

/-- A JSON value; a number is `mantissa · 10^(-places)`. -/
inductive Json
  | null
  | bool (b : Bool)
  | num (mantissa : Int) (places : Nat)
  | str (s : String)
  | arr (items : List Json)
  | obj (fields : List (String × Json))

namespace Json

instance : Inhabited Json := ⟨.null⟩

def int (n : Int) : Json := .num n 0

def nat (n : Nat) : Json := .num n 0

def optionStr : Option String → Json
  | none => .null
  | some s => .str s

/-- The field of a name, the last one if the name is repeated. -/
def fieldIn (name : String) : List (String × Json) → Option Json
  | [] => none
  | (n, v) :: rest => (fieldIn name rest).or (if n = name then some v else none)

def withField (name : String) (value : Json) : List (String × Json) → List (String × Json)
  | [] => [(name, value)]
  | f :: rest => if f.1 = name then (name, value) :: rest else f :: withField name value rest

def str? : Json → Option String
  | .str s => some s
  | _ => none

def arr? : Json → Option (List Json)
  | .arr l => some l
  | _ => none

def nullable? {α : Type} (read : Json → Option α) : Json → Option (Option α)
  | .null => some none
  | j => (read j).map some

end Json

end SessionCart
