import Docwright.Number

namespace Docwright

inductive Json where
  | null
  | bool (b : Bool)
  | num (n : Number)
  | str (s : String)
  | arr (items : List Json)
  | obj (members : List (String × Json))

namespace Json

instance : Inhabited Json := ⟨.null⟩
instance : Coe String Json := ⟨.str⟩
instance : Coe Bool Json := ⟨.bool⟩
instance : Coe Number Json := ⟨.num⟩
instance : Coe Int Json := ⟨fun n => .num (.int n)⟩

/-- The value of a name in a list of members. -/
def lookup (name : String) : List (String × Json) → Option Json
  | [] => none
  | (n, v) :: rest => if n = name then some v else lookup name rest

/-- A new name goes to the end; a name that is present keeps its place and takes the new value. -/
def put (name : String) (value : Json) : List (String × Json) → List (String × Json)
  | [] => [(name, value)]
  | (n, v) :: rest => if n = name then (n, value) :: rest else (n, v) :: put name value rest

/-- The object with these members, later values taking the place of earlier ones. -/
def ofPairs (pairs : List (String × Json)) : Json :=
  .obj (pairs.foldl (fun members p => put p.1 p.2 members) [])

def members : Json → List (String × Json)
  | .obj ms => ms
  | _ => []

def items : Json → List Json
  | .arr xs => xs
  | _ => []

def get? (v : Json) (name : String) : Option Json :=
  lookup name v.members

/-- The member `name`, or nothing when it is absent or null. -/
def value? (v : Json) (name : String) : Option Json :=
  match v.get? name with
  | some .null => none
  | other => other

def str? : Json → Option String
  | .str s => some s
  | _ => none

def num? : Json → Option Number
  | .num n => some n
  | _ => none

def int? : Json → Option Int
  | .num (.int n) => some n
  | _ => none

def bool? : Json → Option Bool
  | .bool b => some b
  | _ => none

def isObj : Json → Bool
  | .obj _ => true
  | _ => false

def strings (v : Json) : List String :=
  v.items.filterMap str?

/-- Null, false, zero and everything empty count as nothing. -/
def truthy : Json → Bool
  | .null => false
  | .bool b => b
  | .num n => !n.isZero
  | .str s => s != ""
  | .arr xs => !xs.isEmpty
  | .obj ms => !ms.isEmpty

end Json

end Docwright
