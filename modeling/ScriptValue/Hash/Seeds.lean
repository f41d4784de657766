set_option autoImplicit false

namespace ScriptValue

structure HashSeeds where
  ofTrue : UInt64
  ofFalse : UInt64
  ofNull : UInt64
  ofUndefined : UInt64
  ofText : String → UInt64

namespace HashSeeds

def scramble (w : UInt64) : UInt64 :=
  let w := (w ^^^ (w >>> 30)) * 0xBF58476D1CE4E5B9
  let w := (w ^^^ (w >>> 27)) * 0x94D049BB133111EB
  w ^^^ (w >>> 31)

def draw (seed : UInt64) (n : UInt64) : UInt64 := scramble (scramble seed + n * 0x9E3779B97F4A7C15)

def textHash (key : UInt64) (s : String) : UInt64 :=
  scramble (s.toList.foldl (fun h c => scramble (h ^^^ c.val.toUInt64) + key) key)

def ofSeed (seed : UInt64) : HashSeeds where
  ofTrue := draw seed 1
  ofFalse := draw seed 2
  ofNull := draw seed 3
  ofUndefined := draw seed 4
  ofText := textHash (draw seed 5)

end HashSeeds

end ScriptValue
