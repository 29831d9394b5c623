import ImportBoundary.Number.Binary64

/-!
# JSON values

Numbers with a fraction or an exponent are kept apart from integers, and an object keeps the order
in which its names first appear (`Json.put`, `keys_put`). A name given twice has its last value.
-/

namespace ImportBoundary

/-- A JSON value. -/
inductive Json
  | null
  | bool (value : Bool)
  | int (value : Int)
  | float (value : Binary64)
  | str (value : String)
  | arr (items : List Json)
  | obj (fields : List (String × Json))

namespace Json

/-- Sets a name's value: in its place if the name is there, at the end otherwise. -/
def put (fields : List (String × Json)) (name : String) (value : Json) : List (String × Json) :=
  if fields.any (·.1 == name) then
    fields.map fun f => if f.1 == name then (name, value) else f
  else fields ++ [(name, value)]

/-- The fields of an object whose members are read in this order. -/
def ofMembers (members : List (String × Json)) : List (String × Json) :=
  members.foldl (fun fields m => put fields m.1 m.2) []

/-- The names are unchanged if the name is among them, else it comes last. -/
theorem keys_put (fields : List (String × Json)) (name : String) (value : Json) :
    (put fields name value).map (·.1) =
      if fields.any (·.1 == name) then fields.map (·.1) else fields.map (·.1) ++ [name] := by
  unfold put
  split
  · simp only [List.map_map]
    apply List.map_congr_left
    intro f _
    rw [Function.comp_apply]
    split
    · next h => exact (beq_iff_eq.mp h).symm
    · rfl
  · simp

/-- The value of a name, when the value is an object that has it. -/
def get? (v : Json) (name : String) : Option Json :=
  match v with
  | .obj fields => fields.lookup name
  | _ => none

/-- Values that count as missing: null, false, zero and everything empty. -/
def isEmptyValue : Json → Bool
  | .null => true
  | .bool b => !b
  | .int n => n == 0
  | .float x => x.isZero
  | .str s => s.isEmpty
  | .arr items => items.isEmpty
  | .obj fields => fields.isEmpty

/-- The word by which messages name the kind of a value. -/
def kindWord : Json → String
  | .null => "NoneType"
  | .bool _ => "bool"
  | .int _ => "int"
  | .float _ => "float"
  | .str _ => "str"
  | .arr _ => "list"
  | .obj _ => "dict"

end Json

end ImportBoundary
