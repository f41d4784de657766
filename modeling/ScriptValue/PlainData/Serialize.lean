import ScriptValue.PlainData.Basic

set_option autoImplicit false

namespace ScriptValue

/-- What a format makes of each shape of data, lists and maps from what it made of their parts. -/
structure Serializer (α : Type) where
  unit : α
  bool : Bool → α
  int64 : Int64 → α
  float64 : Double → α
  str : String → α
  seq : List α → α
  map : List (String × α) → α

namespace PlainData

variable {α : Type} (s : Serializer α)

mutual

def serialize : PlainData → α
  | .null => s.unit
  | .bool b => s.bool b
  | .integer n => s.int64 n
  | .float x => s.float64 x
  | .string t => s.str t
  | .array items => s.seq (serializeItems items)
  | .map entries => s.map (serializeEntries entries)

def serializeItems : List PlainData → List α
  | [] => []
  | d :: ds => serialize d :: serializeItems ds

def serializeEntries : List (String × PlainData) → List (String × α)
  | [] => []
  | (key, d) :: es => (key, serialize d) :: serializeEntries es

end

theorem serializeItems_eq_map (ds : List PlainData) :
    serializeItems s ds = ds.map (serialize s) := by
  induction ds with
  | nil => rfl
  | cons d ds ih => rw [serializeItems, ih, List.map_cons]

theorem serializeEntries_eq_map (es : List (String × PlainData)) :
    serializeEntries s es = es.map fun e => (e.1, serialize s e.2) := by
  induction es with
  | nil => rfl
  | cons e es ih => rw [serializeEntries, ih, List.map_cons]

end PlainData

end ScriptValue
