import ScriptValue.Accounting.Context
import ScriptValue.Host

set_option autoImplicit false

namespace ScriptValue

def sizeOfBool : UInt64 := 1
def sizeOfNumber : UInt64 := 8
def sizeOfEmpty : UInt64 := 8
def sizeOfString : UInt64 := 16

def textSize (s : String) : UInt64 := UInt64.ofNat s.utf8ByteSize

def Value.flatUsage : Value → Usage
  | .number _ => .uniform sizeOfNumber
  | .boolean _ => .uniform sizeOfBool
  | .null | .undefined => .uniform sizeOfEmpty
  | .string s => .uniform (textSize s + sizeOfString)
  | .symbol s =>
      match s.description with
      | some d => .uniform (textSize d + sizeOfString)
      | none => .uniform sizeOfEmpty
  | .unresolved name => ⟨textSize name, textSize name + sizeOfString⟩
  | .object _ | .slot _ => .zero

def Slot.parts (s : Slot) : List Value :=
  s.value?.toList ++ (s.getter?.toList ++ s.setter?.toList).map .object

structure Memory where
  resource : ObjectId → Option String
  appraisal : ObjectId → Appraisal
  slots : Array Slot

namespace Memory

def parts (memory : Memory) (s : SlotId) : List Value :=
  match memory.slots[s.index]? with
  | some slot => slot.parts
  | none => []

section Requests

variable {C : Type} (requests : Requests C) (memory : Memory)

def nativeSize (o : ObjectId) (c : C) : Except AccountingError (Option UInt64) × C :=
  match memory.resource o with
  | some kind => requests.nativeSize ⟨o, kind⟩ c
  | none => (.ok none, c)

/-- The walk over any context, down to a bounded number of nested values. Nothing is returned when
the bound is reached. -/
def accountVia : Nat → Value → C → Option (Outcome × C)
  | n + 1, .slot s, c => (Appraisal.sum .ok .zero (memory.parts s)).run (accountVia n) c
  | n + 1, .object o, c =>
      match requests.visit o c with
      | (false, c) => some (.ok .zero, c)
      | (true, c) =>
          match memory.nativeSize requests o c with
          | (.error e, c) => some (.error e, c)
          | (.ok (some size), c) => some (.ok (.uniform size), c)
          | (.ok none, c) =>
              match requests.enter c with
              | (.error e, c) => some (.error e, c)
              | (.ok (), c) =>
                  ((memory.appraisal o).run (accountVia n) c).map fun (outcome, c) =>
                    (outcome, requests.leave c)
  | 0, .slot _, _ | 0, .object _, _ => none
  | _, v, c => some (.ok v.flatUsage, c)

end Requests

def account (memory : Memory) (n : Nat) (v : Value) (ctx : Context) : Option (Outcome × Context) :=
  memory.accountVia Context.requests n v ctx

-- Between two objects on the way down there are at most as many slots as there are in all, and
-- the objects are at most as many as the limit of the context: only slots that hold each other
-- in a circle nest deeper.
def nestingBound (memory : Memory) (ctx : Context) : Nat :=
  (ctx.maxDepth + 2) * (memory.slots.size + 2)

def usage? (memory : Memory) (v : Value) (ctx : Context) : Option (Outcome × Context) :=
  memory.account (memory.nestingBound ctx) v ctx

end Memory

def World.heap {σ : Type} (host : Host σ) (w : World σ) : Memory where
  resource o := (host.behaviour w o).resource
  appraisal o := (host.behaviour w o).holdings
  slots := w.slots

end ScriptValue
