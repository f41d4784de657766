import Std.Data.HashMap
import ScriptValue.Hash.MapKey

set_option autoImplicit false

namespace ScriptValue

structure KeyedMap (seeds : HashSeeds) (α : Type) where
  entries : Std.HashMap (MapKey seeds) α

namespace KeyedMap

variable {seeds : HashSeeds} {α : Type}

def empty : KeyedMap seeds α := ⟨∅⟩

def size (m : KeyedMap seeds α) : Nat := m.entries.size

def get? (m : KeyedMap seeds α) (k : MapKey seeds) : Option α := m.entries[k]?

def find? (m : KeyedMap seeds α) (k : MapKey seeds) : Option (MapKey seeds × α) :=
  match m.entries.getKey? k, m.entries[k]? with
  | some stored, some v => some (stored, v)
  | _, _ => none

def contains (m : KeyedMap seeds α) (k : MapKey seeds) : Bool := m.entries.contains k

def insert (m : KeyedMap seeds α) (k : MapKey seeds) (v : α) : Option α × KeyedMap seeds α :=
  (m.entries[k]?, ⟨m.entries.insert (m.entries.getKeyD k k) v⟩)

def erase (m : KeyedMap seeds α) (k : MapKey seeds) :
    Option (MapKey seeds × α) × KeyedMap seeds α :=
  (m.find? k, ⟨m.entries.erase k⟩)

end KeyedMap

end ScriptValue
