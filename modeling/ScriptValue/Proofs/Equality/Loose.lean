import ScriptValue.Equality
import ScriptValue.Proofs.Number.Exact

set_option autoImplicit false

namespace ScriptValue

theorem Quantity.agree_comm (p q : Quantity) : p.Agree q ↔ q.Agree p := by
  constructor
  · rintro ⟨rfl, number⟩
    exact ⟨rfl, number⟩
  · rintro ⟨rfl, number⟩
    exact ⟨rfl, number⟩

namespace Value

def isSymbol : Value → Bool
  | .symbol _ => true
  | _ => false

def isText : Value → Bool
  | .string _ => true
  | _ => false

def LooselyEqual (a b : Value) : Prop :=
  if a.isSlot ∨ b.isSlot then False
  else if a.isNullish ∨ b.isNullish then a.isNullish ∧ b.isNullish
  else if a.isSymbol ∨ b.isSymbol then
    ∃ s t, a = .symbol s ∧ b = .symbol t ∧ s.serial = t.serial
  else if a.isText ∧ b.isText then a = b
  else ∃ m n, NumericTable.number.row a = .ok m ∧ NumericTable.number.row b = .ok n ∧
    m.quantity.Agree n.quantity

def isNumeric : Value → Bool
  | .number _ | .boolean _ | .string _ => true
  | _ => false

theorem looseNumber_iff (n : Number) {v : Value} {m : Number} (numeric : v.isNumeric = true)
    (converted : NumericTable.number.row v = .ok m) :
    looseNumber n v = true ↔ n.quantity.Agree m.quantity := by
  cases v <;> simp only [isNumeric, Bool.false_eq_true] at numeric
  all_goals
    simp only [NumericTable.row, NumericTable.number, Except.ok.injEq] at converted
    subst converted
    exact Number.equals_iff_agree _ _

theorem quantity_ofBool_agree (a b : Bool) :
    (Number.integer (if a then 1 else 0)).quantity.Agree
      (Number.integer (if b then 1 else 0)).quantity ↔ a = b := by
  cases a <;> cases b <;> decide

theorem row_of_isNumeric {v : Value} (numeric : v.isNumeric = true) :
    ∃ n, NumericTable.number.row v = .ok n := by
  cases v <;> first | exact ⟨_, rfl⟩ | simp [isNumeric] at numeric

-- A truth value goes first on either side, then a number; two texts are not compared as numbers.
theorem looseContent_numeric {a b : Value} {m n : Number} (ha : a.isNumeric = true)
    (hb : b.isNumeric = true) (texts : ¬(a.isText = true ∧ b.isText = true))
    (hm : NumericTable.number.row a = .ok m) (hn : NumericTable.number.row b = .ok n) :
    looseContent a b = true ↔ m.quantity.Agree n.quantity := by
  have left (k : Number) := looseNumber_iff k ha hm
  have right (k : Number) := looseNumber_iff k hb hn
  cases a <;> cases b <;> simp only [isNumeric, Bool.false_eq_true] at ha hb
  case boolean.boolean p q =>
    simp only [NumericTable.row, NumericTable.number, Except.ok.injEq] at hm hn
    subst hm hn
    rw [quantity_ofBool_agree]
    exact beq_iff_eq
  case string.string => exact absurd ⟨rfl, rfl⟩ texts
  case boolean.number | boolean.string | number.number | number.string =>
    simp only [NumericTable.row, NumericTable.number, Except.ok.injEq] at hm
    subst hm
    exact right _
  case number.boolean | string.boolean | string.number =>
    simp only [NumericTable.row, NumericTable.number, Except.ok.injEq] at hn
    subst hn
    rw [Quantity.agree_comm]
    exact left _

theorem looseContent_iff {a b : Value} (ha : a.isObject = false) (hb : b.isObject = false)
    (ra : ∀ name, a ≠ .unresolved name) (rb : ∀ name, b ≠ .unresolved name) :
    looseContent a b = true ↔ LooselyEqual a b := by
  unfold LooselyEqual
  split
  case isTrue slot =>
    cases a <;> cases b <;> simp_all [isSlot, looseContent]
  split
  case isTrue nullish =>
    cases a <;> cases b <;> simp_all [isSlot, isNullish, looseContent]
  split
  case isTrue symbol =>
    cases a <;> cases b <;>
      simp_all [isSlot, isNullish, isSymbol, looseContent, looseNumber, Symbol.same]
  split
  case isTrue texts =>
    cases a <;> cases b <;> simp_all [isText, looseContent]
  case isFalse slots nullish symbols texts =>
    have numeric {v : Value} (slot : ¬v.isSlot = true) (nullish : ¬v.isNullish = true)
        (symbol : ¬v.isSymbol = true) (object : v.isObject = false)
        (resolved : ∀ name, v ≠ .unresolved name) : v.isNumeric = true := by
      cases v <;> simp_all [isSlot, isNullish, isSymbol, isObject, isNumeric]
    rw [not_or] at slots nullish symbols
    have numA := numeric slots.1 nullish.1 symbols.1 ha ra
    have numB := numeric slots.2 nullish.2 symbols.2 hb rb
    obtain ⟨m, hm⟩ := row_of_isNumeric numA
    obtain ⟨n, hn⟩ := row_of_isNumeric numB
    rw [looseContent_numeric numA numB texts hm hn, hm, hn]
    simp

end Value

namespace Host

variable {σ : Type} (host : Host σ)

def silent : Host Unit where
  behaviour _ _ := { number := pure .undefined, string := pure .undefined }
  prototype _ := pure ⟨0⟩
  adopt _ _ _ _ := pure ()

theorem runIn_looseEquals (w : World σ) {a b : Value} (ha : a.isObject = false)
    (hb : b.isObject = false) (resolved : a.checkResolved b = .ok ()) :
    (host.looseEquals a b).runIn w = (.ok (a.looseContent b), w) := by
  unfold looseEquals
  rw [Guest.runIn_bind, Guest.runIn_ofExcept, resolved]
  cases a <;> cases b <;> first | rfl | simp [Value.isObject] at ha hb

theorem looseEquals_exact (w : World σ) (a b : Value) (ha : a.isObject = false)
    (hb : b.isObject = false) (ra : ∀ name, a ≠ .unresolved name)
    (rb : ∀ name, b ≠ .unresolved name) :
    ∃ r, (host.looseEquals a b).runIn w = (.ok r, w) ∧ (r = true ↔ a.LooselyEqual b) := by
  have resolved : a.checkResolved b = .ok () := by
    cases a <;> cases b <;> simp_all [Value.checkResolved, Value.unresolvedName?]
  exact ⟨a.looseContent b, runIn_looseEquals host w ha hb resolved,
    Value.looseContent_iff ha hb ra rb⟩

-- The text denotes an odd integer above `2 ^ 53`, which no double is.
theorem looseEquals_exact_rounded_text :
    (silent.looseEquals (.string "9007199254740993") (.bigInteger 9007199254740993)).runIn
      { host := () } = (.ok false, { host := () }) := by
  obtain ⟨r, run, meaning⟩ := silent.looseEquals_exact { host := () }
    (.string "9007199254740993") (.bigInteger 9007199254740993) rfl rfl nofun nofun
  have read : Number.ofDouble (Double.ofText "9007199254740993") = .float ⟨0x4340000000000000⟩ := by
    decide +kernel
  have apart : ¬(Number.float ⟨0x4340000000000000⟩).quantity.Agree
      (Number.bigInteger 9007199254740993).quantity := by
    rw [← Number.equals_iff_agree]
    decide
  have result : ¬r = true := by
    rw [meaning]
    simpa [Value.LooselyEqual, Value.isSlot, Value.isNullish, Value.isSymbol, Value.isText,
      Value.bigInteger, NumericTable.row, NumericTable.number, read] using apart
  rw [run, Bool.eq_false_of_not_eq_true result]

end Host

end ScriptValue
