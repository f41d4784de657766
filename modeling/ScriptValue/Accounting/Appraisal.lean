import ScriptValue.Accounting.Usage
import ScriptValue.Error
import ScriptValue.Value

set_option autoImplicit false

namespace ScriptValue

abbrev Outcome := Except AccountingError Usage

/-- How an object accounts for itself: it may ask for the size of one value after another, and what
it does next may depend on what came of that, an error included. -/
inductive Appraisal where
  | done (outcome : Outcome)
  | count (v : Value) (next : Outcome → Appraisal)

namespace Appraisal

def run {C : Type} (count : Value → C → Option (Outcome × C)) :
    Appraisal → C → Option (Outcome × C)
  | .done outcome, c => some (outcome, c)
  | .count v next, c =>
      match count v c with
      | some (outcome, c) => (next outcome).run count c
      | none => none

-- The first error ends the sum.
def sum (finish : Usage → Outcome) : Usage → List Value → Appraisal
  | total, [] => .done (finish total)
  | total, v :: vs => .count v fun
      | .ok u => sum finish (total + u) vs
      | .error e => .done (.error e)

end Appraisal

structure Holdings where
  own : Usage := .zero
  values : List Value := []
  failure : Option AccountingError := none
  deriving DecidableEq

namespace Holdings

def finish (h : Holdings) (total : Usage) : Outcome :=
  match h.failure with
  | some e => .error e
  | none => .ok total

def appraisal (h : Holdings) : Appraisal := .sum h.finish h.own h.values

instance : Coe Holdings Appraisal := ⟨appraisal⟩

end Holdings

end ScriptValue
