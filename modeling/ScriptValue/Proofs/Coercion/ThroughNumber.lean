import ScriptValue.Coercion
import ScriptValue.Proofs.Host.Recorded
import ScriptValue.Proofs.Number.Conversion

set_option autoImplicit false

namespace ScriptValue

namespace NumericTable

variable {α : Type} {t : NumericTable α}

/-- A table whose entries are all made from the number that stands in their place. -/
structure ThroughNumber (t : NumericTable α) : Prop where
  ofBool : ∀ b, t.ofBool b = t.ofNumber (number.ofBool b)
  ofNull : t.ofNull = t.ofNumber number.ofNull
  ofNothing : t.ofNothing = t.ofNumber number.ofNothing
  ofDouble : ∀ x, t.ofDouble x = t.ofNumber (number.ofDouble x)

theorem ThroughNumber.row_eq (through : t.ThroughNumber) (v : Value) :
    t.row v = (number.row v).map t.ofNumber := by
  cases v with
  | number => rfl
  | boolean b => simp only [row, Except.map, through.ofBool]
  | null => simp only [row, Except.map, through.ofNull]
  | undefined | slot => simp only [row, Except.map, through.ofNothing]
  | string => simp only [row, Except.map, through.ofDouble]
  | symbol | object | unresolved => rfl

-- A double and its canonical encoding have one quantity, and the other entries are constants.
theorem ofDouble_of_quantity {view : Quantity → α} (numbers : ∀ n, t.ofNumber n = view n.quantity)
    (doubles : ∀ x, t.ofDouble x = view x.quantity) (x : Double) :
    t.ofDouble x = t.ofNumber (number.ofDouble x) := by
  rw [doubles, numbers, number, Number.quantity_ofDouble]

theorem throughNumber_number : number.ThroughNumber where
  ofBool _ := rfl
  ofNull := rfl
  ofNothing := rfl
  ofDouble _ := rfl

theorem throughNumber_double : double.ThroughNumber where
  ofBool b := by cases b <;> rfl
  ofNull := by decide
  ofNothing := rfl
  ofDouble x := (Number.toDouble_ofDouble x).symm

theorem throughNumber_int64 : int64.ThroughNumber where
  ofBool b := by cases b <;> decide
  ofNull := by decide
  ofNothing := by decide
  ofDouble := ofDouble_of_quantity Number.toInt64_eq_clip64 Double.toInt64_eq_clip64

theorem throughNumber_int32 : int32.ThroughNumber where
  ofBool b := by cases b <;> decide
  ofNull := by decide
  ofNothing := by decide
  ofDouble := ofDouble_of_quantity Number.toInt32_eq_wrapSigned Double.toInt32_eq_wrapSigned

theorem throughNumber_uint32 : uint32.ThroughNumber where
  ofBool b := by cases b <;> decide
  ofNull := by decide
  ofNothing := by decide
  ofDouble := ofDouble_of_quantity Number.toUInt32_eq_wrapUnsigned Double.toUInt32_eq_wrapUnsigned

end NumericTable

namespace Host

variable {σ α : Type} (host : Host σ)

def numberValue (v : Value) : Guest σ Value := Value.number <$> host.toNumber v

def viaNumber (coercion : Value → Guest σ α) (v : Value) : Guest σ α := do
  coercion (← host.numberValue v)

theorem coerce_asks (hint : Hint) (table : Value → Except GuestError α) (w : World σ) (v : Value) :
    host.Asks (fun _ h => h.coerce hint table v) w
      (v.object?.toList.map fun o => .primitive o hint) := by
  cases v with
  | object o => exact asks_primitive fun τ h u => h.runIn_coerce_object hint table o u
  | _ => exact asks_nothing fun τ h u => Guest.runIn_ofExcept _ u

-- The object is asked before either table is looked up, so what raises raises in both.
theorem runIn_coerce_map {β : Type} {f : α → β} {table : Value → Except GuestError α}
    {table' : Value → Except GuestError β} (mapped : ∀ v, table' v = (table v).map f) (hint : Hint)
    (v : Value) (w : World σ) :
    (host.coerce hint table' v).runIn w = (f <$> host.coerce hint table v).runIn w := by
  rw [Guest.runIn_map]
  cases v with
  | object o =>
    rw [runIn_coerce_object, runIn_coerce_object]
    rcases ((host.behaviour w o).primitive hint).runIn w with ⟨e | p, after⟩
    · rfl
    · dsimp only
      rw [mapped]
      cases table p <;> rfl
  | _ =>
    simp only [coerce, Guest.runIn_ofExcept, mapped]
    cases table _ <;> rfl

theorem runIn_viaNumber (t : NumericTable α) (v : Value) (w : World σ) :
    (host.viaNumber (host.coerce .number t.row) v).runIn w =
      (t.ofNumber <$> host.toNumber v).runIn w := by
  rw [viaNumber, numberValue, Guest.runIn_bind, Guest.runIn_map, Guest.runIn_map]
  rcases (host.toNumber v).runIn w with ⟨e | n, after⟩ <;> rfl

theorem coerce_alike {t : NumericTable α} (through : t.ThroughNumber) (w : World σ) (v : Value) :
    host.Alike (fun _ h => h.coerce .number t.row v)
      (fun _ h => h.viaNumber (h.coerce .number t.row) v) w :=
  (host.coerce_asks .number t.row w v).alike fun _ h u =>
    (h.runIn_coerce_map through.row_eq .number v u).trans (h.runIn_viaNumber t v u).symm

/-- A numeric coercion of a value is the coercion of the value's number: the answer or the error is
the same, down to the bits of a double, and so are the hooks and the state they leave. -/
theorem numeric_coercions_factor (w : World σ) (v : Value) :
    (∀ n after, (host.numberValue v).runIn w = (.ok n, after) → n.isNumber = true) ∧
      host.Alike (fun _ h => h.toNumber v) (fun _ h => h.viaNumber h.toNumber v) w ∧
      host.Alike (fun _ h => h.toDouble v) (fun _ h => h.viaNumber h.toDouble v) w ∧
      host.Alike (fun _ h => h.toInt64 v) (fun _ h => h.viaNumber h.toInt64 v) w ∧
      host.Alike (fun _ h => h.toInt32 v) (fun _ h => h.viaNumber h.toInt32 v) w ∧
      host.Alike (fun _ h => h.toUInt32 v) (fun _ h => h.viaNumber h.toUInt32 v) w := by
  refine ⟨?_, host.coerce_alike NumericTable.throughNumber_number w v,
    host.coerce_alike NumericTable.throughNumber_double w v,
    host.coerce_alike NumericTable.throughNumber_int64 w v,
    host.coerce_alike NumericTable.throughNumber_int32 w v,
    host.coerce_alike NumericTable.throughNumber_uint32 w v⟩
  intro n after
  rw [numberValue, Guest.runIn_map]
  rcases (host.toNumber v).runIn w with ⟨e | m, u⟩
  · exact nofun
  · rintro ⟨⟩
    rfl

end Host

end ScriptValue
