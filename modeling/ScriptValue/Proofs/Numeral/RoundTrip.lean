import ScriptValue.Proofs.Equality.Loose
import ScriptValue.Proofs.Number.Conversion
import ScriptValue.Proofs.Numeral.Formatting

set_option autoImplicit false

namespace ScriptValue

namespace Formatting

variable {f : Formatting} (rounds : f.RoundsBack) (integers : f.ShowsIntegers)

include rounds integers

theorem ofText_numberText (n : Number) :
    Double.ofText (f.numberText n) = n.toDouble.canonical := by
  cases n with
  | float x => exact ofText_text rounds x
  | integer n =>
    rw [integers.narrow, Double.ofText, String.toList_ofList, Numeral.read_integerText,
      Number.toDouble, Double.canonical_ofInt]
  | bigInteger n =>
    rw [integers.wide, Double.ofText, String.toList_ofList, Numeral.read_integerText,
      Number.toDouble, Double.canonical_ofInt]

omit rounds integers in
theorem numberText_ofDouble_of_isNaN {x : Double} (h : x.isNaN = true) :
    f.numberText (.ofDouble x) = "NaN" := by
  rw [Number.ofDouble, Narrowing.ofDouble_eq, Double.integer?_of_isNaN h]
  exact text_of_isNaN h

omit rounds in
theorem numberText_ofDouble_of_isZero {x : Double} (h : x.isZero = true) :
    f.numberText (.ofDouble x) = "0" := by
  have whole : x.integer? = some 0 := by
    rw [Double.integer?_eq_some_iff, Double.quantity_of_isZero h, Int.cast_zero]
  rw [Number.ofDouble, Narrowing.ofDouble_eq, whole]
  dsimp only
  split
  · rw [integers.narrow]
    decide
  · exact text_of_isZero h

omit rounds in
theorem numberText_ofDouble_canonical (x : Double) :
    f.numberText (.ofDouble x.canonical) = f.numberText (.ofDouble x) := by
  unfold Double.canonical
  split
  case isTrue number =>
    rw [numberText_ofDouble_of_isNaN number, numberText_ofDouble_of_isNaN (x := .nan) (by decide)]
  split
  case isTrue zero =>
    rw [numberText_ofDouble_of_isZero integers zero,
      numberText_ofDouble_of_isZero integers (x := .zero) (by decide)]
  rfl

theorem numberText_ofText (s : String) :
    f.numberText (.ofText (f.numberText (.ofText s))) = f.numberText (.ofText s) := by
  have read : Double.ofText (f.numberText (.ofText s)) = (Double.ofText s).canonical := by
    rw [ofText_numberText rounds integers, Number.ofText, Number.toDouble_ofDouble]
  conv_lhs => rw [Number.ofText, read, numberText_ofDouble_canonical integers]
  rfl

end Formatting

namespace Host

variable {σ : Type} (host : Host σ)

def respell (s : String) : Guest σ String := do
  let n ← host.toNumber (.string s)
  host.toText (.number n)

theorem runIn_toText_number (w : World σ) (n : Number) :
    (host.toText (.number n)).runIn w = (.ok (host.formatting.numberText n), w) := rfl

theorem runIn_toDouble_number (w : World σ) (n : Number) :
    (host.toDouble (.number n)).runIn w = (.ok n.toDouble, w) := rfl

theorem runIn_respell (w : World σ) (s : String) :
    (host.respell s).runIn w = (.ok (host.formatting.numberText (.ofText s)), w) := by
  rw [respell, Guest.runIn_bind]
  rfl

theorem text_round_trip (rounds : host.formatting.RoundsBack)
    (integers : host.formatting.ShowsIntegers) (w : World σ) :
    (∀ n : Number, ∃ t x, (host.toText (.number n)).runIn w = (.ok t, w) ∧
      (host.toDouble (.number n)).runIn w = (.ok x, w) ∧
      Double.ofText t = if x.isNaN then .nan else if x.isZero then .zero else x) ∧
    ∀ s : String, ∃ t, (host.respell s).runIn w = (.ok t, w) ∧
      (host.respell t).runIn w = (.ok t, w) := by
  constructor
  · intro n
    exact ⟨_, n.toDouble, host.runIn_toText_number w n, host.runIn_toDouble_number w n,
      Formatting.ofText_numberText rounds integers n⟩
  · intro s
    refine ⟨_, host.runIn_respell w s, ?_⟩
    rw [runIn_respell, Formatting.numberText_ofText rounds integers]

theorem text_round_trip_least :
    Host.silent.formatting.RoundsBack ∧ Host.silent.formatting.ShowsIntegers ∧
      (Host.silent.toText (.number (.float ⟨1⟩))).runIn { host := () } =
        (.ok "5e-324", { host := () }) ∧
      Double.ofText "5e-324" = ⟨1⟩ := by
  have rounds := Formatting.standard_shortest.roundsBack
  have integers := Formatting.standard_showsIntegers
  obtain ⟨t, x, text, double, read⟩ :=
    (Host.silent.text_round_trip rounds integers { host := () }).1 (.float ⟨1⟩)
  have shown : Host.silent.formatting.numberText (.float ⟨1⟩) = "5e-324" := by decide +kernel
  rw [runIn_toText_number, shown] at text ⊢
  rw [runIn_toDouble_number] at double
  cases text
  cases double
  exact ⟨rounds, integers, rfl, read⟩

end Host

end ScriptValue
