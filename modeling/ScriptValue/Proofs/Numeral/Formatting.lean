import ScriptValue.Proofs.Decimal.Rendering

set_option autoImplicit false

namespace ScriptValue

/-- The plain decimal numeral of an integer: no zero stands before other digits. -/
inductive Numeral.IntegerNumeral : List Char → ℤ → Prop
  | zero : IntegerNumeral ['0'] 0
  | nonzero (negative : Bool) {c : Char} {ds : List Char} (digits : Digits (c :: ds))
      (leading : c ≠ '0') :
      IntegerNumeral (Layout.sign negative ++ c :: ds)
        (signed negative (Nat.ofDigitChars 10 (c :: ds) 0))

theorem Numeral.integerNumeral_integerText (n : ℤ) : IntegerNumeral (integerText n) n := by
  rcases eq_or_ne n 0 with rfl | nonzero
  · exact .zero
  · have head := Decimal.head?_toDigits (Int.natAbs_pos.2 nonzero)
    have digits := digits_toDigits n.natAbs
    have value := Nat.ofDigitChars_ten_toDigits (n := n.natAbs)
    obtain ⟨c, ds, written⟩ := List.exists_cons_of_ne_nil
      (Nat.toDigits_ne_nil (b := 10) (n := n.natAbs))
    rw [written] at head digits value
    have number : signed (decide (n < 0)) (Nat.ofDigitChars 10 (c :: ds) 0) = n := by
      simp only [value, signed, decide_eq_true_eq]
      split <;> omega
    have numeral := IntegerNumeral.nonzero (decide (n < 0)) digits (by simpa using head)
    rwa [number, ← written] at numeral

theorem Numeral.IntegerNumeral.eq_integerText {cs : List Char} {n : ℤ}
    (numeral : IntegerNumeral cs n) : cs = integerText n := by
  cases numeral with
  | zero => rfl
  | @nonzero negative c ds digits leading =>
    obtain ⟨positive, written⟩ := Decimal.toDigits_ofDigitChars digits leading
    generalize Nat.ofDigitChars 10 (c :: ds) 0 = n at positive written
    have size : (signed negative n).natAbs = n := by cases negative <;> simp [signed]
    have sign : decide (signed negative n < 0) = negative := by
      cases negative <;> simp [signed, positive]
    rw [integerText, size, sign, written]

namespace Formatting

/-- A rendering denotes a decimal, and has fewer characters than words can count. -/
structure Renders (f : Formatting) (x : Double) (q : ℚ) : Prop where
  literal : Numeral.DecimalLiteral (f.double x.absolutely) q
  short : (f.double x.absolutely).length < 2 ^ 30

def RoundsBack (f : Formatting) : Prop :=
  ∀ x : Double, x.isFinite = true → x.isZero = false → ∃ q, f.Renders x q ∧ x.IsNearest q

def Shortest (f : Formatting) : Prop :=
  ∀ x : Double, x.isFinite = true → x.isZero = false →
    ∃ ds n, f.Renders x (pointed ds n) ∧ x.Spelling ds n

def ShowsIntegers (f : Formatting) : Prop :=
  ∀ n : Int64, Numeral.IntegerNumeral (f.integer n.toInt) n.toInt

variable {f : Formatting} {x : Double}

theorem Shortest.roundsBack (shortest : f.Shortest) : f.RoundsBack := by
  intro x finite nonzero
  obtain ⟨ds, n, renders, spelling⟩ := shortest x finite nonzero
  exact ⟨pointed ds n, renders, spelling.rounds⟩

theorem ShowsIntegers.wide (integers : f.ShowsIntegers) (n : Int64) :
    f.numberText (.bigInteger n) = String.ofList (integerText n.toInt) := by
  rw [numberText, (integers n).eq_integerText]

theorem ShowsIntegers.narrow (integers : f.ShowsIntegers) (n : Int32) :
    f.numberText (.integer n) = String.ofList (integerText n.toInt) := by
  have numeral := integers n.toInt64
  rw [Int32.toInt_toInt64] at numeral
  rw [numberText, numeral.eq_integerText]

theorem text_of_isNaN (h : x.isNaN = true) : f.text x = "NaN" := by
  rw [text, Double.parts_of_isNaN h]

theorem text_of_isInfinite (h : x.isInfinite = true) :
    f.text x = if x.negative then "-Infinity" else "Infinity" := by
  rw [text, Double.parts_of_isInfinite h]

theorem text_of_isZero (h : x.isZero = true) : f.text x = "0" := by
  have finite := Double.isFinite_of_quantity (Double.quantity_of_isZero h)
  rw [text, Double.parts_of_isFinite finite]
  exact if_pos h

section Nonzero

variable (finite : x.isFinite = true) (nonzero : x.isZero = false) {q : ℚ}

include finite nonzero

theorem Renders.significant (renders : f.Renders x q) (rounds : x.IsNearest q) :
    ∃ ds p, Decimal.significant (f.double x.absolutely) = (ds, p.toInt) ∧
      Decimal.significantWord? (f.double x.absolutely) = some (ds, p) ∧
      Decimal.Significant ds ∧ pointed ds p.toInt = q := by
  obtain ⟨whole, fraction, e, rendered, rfl, short⟩ := Decimal.exists_rendered renders.literal
  have value : (Decimal.ofDigits whole fraction e).value ≠ 0 := by
    intro zero
    have reads := (x.isNearest_value_iff _).1 rounds
    have nothing : (⟨0, 0⟩ : Decimal).value = 0 := by simp [Decimal.value]
    rw [Decimal.nearestMagnitude_congr (zero.trans nothing.symm)] at reads
    exact Double.coefficient_ne_zero_of_reads nonzero reads rfl
  obtain ⟨n, ds, m, -, proper, -, shown⟩ := rendered.padded value
  obtain ⟨d, -, -, point, same⟩ := Decimal.exists_of_significant proper (whole.length + e - n)
  have range : -400 < d.point ∧ d.point ≤ 400 := by
    apply Double.point_of_reads finite nonzero
    rwa [← Double.isNearest_value_iff, same, shown]
  rw [point] at range
  have fits := rendered.fits (short.trans_lt renders.short) proper shown.symm (by omega)
  exact rendered.significant value fits

theorem text_of_renders (renders : f.Renders x q) (rounds : x.IsNearest q) :
    ∃ ds p, Decimal.Significant ds ∧ pointed ds p = q ∧
      (f.text x).toList = Layout.sign x.negative ++ Layout.number.write ds p := by
  obtain ⟨ds, p, taken, -, proper, value⟩ := renders.significant finite nonzero rounds
  refine ⟨ds, p.toInt, proper, value, ?_⟩
  rw [text, Double.parts_of_isFinite finite]
  dsimp only
  rw [taken, if_neg (by simp [nonzero]), String.toList_ofList]

end Nonzero

section Reading

theorem ofText_text (rounds : f.RoundsBack) (x : Double) :
    Double.ofText (f.text x) = x.canonical := by
  rcases x.trichotomy with number | bounded | finite
  · rw [text_of_isNaN number, Double.canonical, if_pos number]
    decide
  · have number : ¬x.isNaN = true := by simp [Double.not_isNaN_of_isInfinite bounded]
    have nonzero : ¬x.isZero = true := by
      rw [Double.isZero, beq_iff_eq, beq_iff_eq.1 bounded]
      decide
    have same : Double.infinity x.negative = x := by
      rw [Double.infinity, ← beq_iff_eq.1 bounded, Double.ofMagnitude_negative_magnitude]
    rw [text_of_isInfinite bounded, Double.canonical, if_neg number, if_neg nonzero]
    cases sign : x.negative <;> rw [sign] at same <;> rw [← same] <;> decide
  · have number : ¬x.isNaN = true := by simp [Double.not_isNaN_of_isFinite finite]
    rw [Double.canonical, if_neg number]
    split
    case isTrue zero =>
      rw [text_of_isZero zero]
      decide
    case isFalse nonzero =>
      rw [Bool.not_eq_true] at nonzero
      obtain ⟨q, renders, nearest⟩ := rounds x finite nonzero
      obtain ⟨ds, p, proper, value, written⟩ := text_of_renders finite nonzero renders nearest
      obtain ⟨d, -, rfl, rfl, same⟩ := Decimal.exists_of_significant proper p
      rw [← value, ← same, Double.isNearest_value_iff] at nearest
      rw [Double.ofText, written, Numeral.read_write, Decimal.nearest, nearest,
        Double.ofMagnitude_negative_magnitude]

theorem text_eq_iff (rounds : f.RoundsBack) (x y : Double) :
    f.text x = f.text y ↔ x.quantity = y.quantity := by
  constructor
  · intro same
    rw [← x.quantity_canonical, ← y.quantity_canonical, ← ofText_text rounds, ← ofText_text rounds,
      same]
  · intro same
    rcases (Double.quantity_eq_iff x y).1 same with ⟨hx, hy⟩ | rfl | ⟨hx, hy⟩
    · rw [text_of_isNaN hx, text_of_isNaN hy]
    · rfl
    · rw [text_of_isZero hx, text_of_isZero hy]

end Reading

section Standard

theorem length_write_le (layout : Layout) (ds : List Char) {p : ℤ} (near : p.natAbs ≤ 400) :
    (layout.write ds p).length ≤ ds.length + 410 := by
  unfold Layout.write
  split
  · unfold Layout.positional
    split
    · simp only [List.length_cons, List.length_append, List.length_replicate]
      omega
    split
    · have zero : (if layout.pointZero then ['.', '0'] else []).length ≤ 2 := by
        cases layout.pointZero <;> simp
      simp only [List.length_append, List.length_replicate]
      omega
    · simp only [List.length_append, List.length_cons, List.length_take, List.length_drop]
      omega
  · have sign : (layout.exponentSign (p - 1)).length ≤ 1 := by
      unfold Layout.exponentSign
      split
      · simp
      · cases layout.plus <;> simp
    have power : (Nat.toDigits 10 (p - 1).natAbs).length ≤ 3 := by
      rw [Nat.length_toDigits_le_iff (by decide) (by decide)]
      omega
    have rest : (if ds.length ≤ 1 then [] else '.' :: ds.drop 1).length ≤ ds.length + 1 := by
      split <;> simp
    unfold Layout.scientific
    simp only [List.length_append, List.length_cons, List.length_take]
    omega

theorem length_shortest_le (tie : Tie) (finite : x.isFinite = true) (nonzero : x.isZero = false) :
    (x.shortest tie).digits.length ≤ 1200 := by
  have fewest := (Double.shortest_spec finite nonzero tie x.expansion
    (Double.expansion_readsBack finite)).1
  refine fewest.trans ?_
  rw [Decimal.length_digits_le_iff _ (by decide), Double.expansion, Decimal.ofBinary]
  have short := x.significand_lt
  have most := Double.exponent_le finite
  have least := x.exponent_ge
  split
  · calc x.significand * 2 ^ x.exponent.toNat ≤ 2 ^ 53 * 2 ^ 971 := by
          gcongr
          · decide
          · omega
      _ < 10 ^ 1200 := by decide +kernel
  · calc x.significand * 5 ^ (-x.exponent).toNat ≤ 2 ^ 53 * 5 ^ 1074 := by
          gcongr
          · decide
          · omega
      _ < 10 ^ 1200 := by decide +kernel

theorem standard_shortest : standard.Shortest := by
  intro x finite nonzero
  have spelling := Double.spelling_shortest .even finite nonzero
  have proper := spelling.significant
  have range := Double.point_of_reads finite nonzero (Double.shortest_readsBack .even finite)
  have length := length_shortest_le .even finite nonzero
  have text : standard.double x.absolutely = Layout.rendering.write (x.shortest .even).digits
      (x.shortest .even).point := by
    rw [← Double.shortest_absolutely]
    simp [standard, Layout.writeDouble, Layout.sign, Layout.rendering]
  refine ⟨_, _, ⟨?_, ?_⟩, spelling⟩
  · rw [text, Numeral.decimalLiteral_iff]
    exact Numeral.readDecimal?_write Layout.rendering proper.digits proper.nonempty _
  · rw [text]
    have bound := length_write_le Layout.rendering (x.shortest .even).digits
      (p := (x.shortest .even).point) (by omega)
    exact lt_of_le_of_lt bound (by omega)

theorem standard_showsIntegers : standard.ShowsIntegers := fun n =>
  Numeral.integerNumeral_integerText n.toInt

end Standard

/-- Number texts, for every rendering of doubles in their shortest digits. Every number but zero has
the one text that these digits and their point make, which denotes what they are; and numbers have
one text exactly where they are equal. -/
theorem text_spelled (f : Formatting) (shortest : f.Shortest) :
    (∀ (x : Double) (q : ℚ), x.quantity = .finite q → q ≠ 0 →
      ∃ ds n, f.Renders x (pointed ds n) ∧ x.Spelling ds n ∧
        (∀ es m, x.Spelling es m →
          es = ds ∧ m = n ∨ pointed es m - |q| = |q| - pointed ds n) ∧
        (f.text x).toList = (if q < 0 then ['-'] else []) ++ canonicalText ds n ∧
        Numeral.Denotes (f.text x).toList (if q < 0 then -pointed ds n else pointed ds n)) ∧
      ∀ x y : Double, f.text x = f.text y ↔
        x.equals y = true ∨ x.isNaN = true ∧ y.isNaN = true := by
  refine ⟨fun x q h nonzero => ?_, fun x y => (text_eq_iff shortest.roundsBack x y).trans
    (Double.quantity_eq_iff_equals x y)⟩
  obtain ⟨finite, zero, sign, size⟩ := Double.of_quantity_ne_zero h nonzero
  obtain ⟨ds, n, renders, spelling⟩ := shortest x finite zero
  obtain ⟨es, m, proper, value, written⟩ := text_of_renders finite zero renders spelling.rounds
  obtain ⟨rfl, rfl⟩ := eq_of_pointed_eq proper spelling.significant value
  rw [write_number proper.nonempty] at written
  have denotes := denotes_canonicalText proper m x.negative
  rw [← written, sign] at denotes
  refine ⟨es, m, renders, spelling, fun ds n other => ?_, ?_, by simpa using denotes⟩
  · rw [← size]
    exact spelling.unique other
  · rw [written, sign, Layout.sign]
    simp only [decide_eq_true_eq]

theorem text_spelled_half_way :
    standard.Shortest ∧ (⟨0x4310000000000001⟩ : Double).quantity = .finite (4503599627370497 / 4) ∧
      ∃ ds n, (⟨0x4310000000000001⟩ : Double).Spelling ds n ∧
        "1125899906842624.2".toList = canonicalText ds n := by
  have value : (⟨0x4310000000000001⟩ : Double).quantity = .finite (4503599627370497 / 4) := by
    decide +kernel
  have text : standard.text ⟨0x4310000000000001⟩ = "1125899906842624.2" := by decide +kernel
  obtain ⟨ds, n, -, spelling, -, written, -⟩ :=
    (text_spelled standard standard_shortest).1 _ _ value (by norm_num)
  rw [text, if_neg (by norm_num), List.nil_append] at written
  exact ⟨standard_shortest, value, ds, n, spelling, written⟩

end Formatting

end ScriptValue
