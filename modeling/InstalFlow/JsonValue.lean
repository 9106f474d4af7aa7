import Mathlib.Data.Rat.Defs

/-!
# JSON values

A parsed body and a stored session, as JavaScript reads them
-/

namespace InstalFlow

inductive JsonValue
  | null
  | bool (b : Bool)
  | number (x : ℚ)
  | string (s : String)
  | array (items : List JsonValue)
  | object (fields : List (String × JsonValue))

namespace JsonValue

/-- Whether a value counts as true -/
def truthy : JsonValue → Bool
  | .null => false
  | .bool b => b
  | .number x => x ≠ 0
  | .string s => s ≠ ""
  | .array _ | .object _ => true

def isNull : JsonValue → Bool
  | .null => true
  | _ => false

/-- A field of an object; of two fields of one name the last stands. -/
def field (name : String) : JsonValue → Option JsonValue
  | .object fields => (fields.reverse.find? fun f => f.1 = name).map Prod.snd
  | _ => none

theorem object_ne (name : String) (value : JsonValue) : object [(name, value)] ≠ value := by
  intro h
  have hsize := congrArg sizeOf h
  simp only [JsonValue.object.sizeOf_spec, List.cons.sizeOf_spec, List.nil.sizeOf_spec,
    Prod.mk.sizeOf_spec] at hsize
  omega

end JsonValue
end InstalFlow
