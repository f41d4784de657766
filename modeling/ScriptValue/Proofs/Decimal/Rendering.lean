import ScriptValue.Proofs.Numeral.Canonical

set_option autoImplicit false

namespace ScriptValue

namespace Decimal

open Numeral

/-- A rendering with the digits before and after its point and with its power of ten. -/
inductive Rendered : List Char → List Char → List Char → ℤ → Prop
  | whole {ds power : List Char} {e : ℤ} (digits : Digits ds) (exponent : ExponentPart power e) :
      Rendered (ds ++ power) ds [] e
  | point {ds fs power : List Char} {e : ℤ} (digits : Digits ds) (fraction : Digits fs)
      (exponent : ExponentPart power e) : Rendered (ds ++ '.' :: (fs ++ power)) ds fs e

def IsWord (n : ℤ) : Prop := -2 ^ 31 ≤ n ∧ n < 2 ^ 31

instance (n : ℤ) : Decidable (IsWord n) := inferInstanceAs (Decidable (_ ∧ _))

def word? (n : ℤ) : Option Int32 := if IsWord n then some (Int32.ofInt n) else none

/-- The point where every step is taken in words: the digits before it are counted, it is moved by
the power of ten, and the zeros that lead are passed over. -/
def pointWord? (count : ℕ) (e : ℤ) (zeros : ℕ) : Option Int32 := do
  let count ← word? count
  let moved ← word? (count.toInt + e)
  let zeros ← word? zeros
  word? (moved.toInt - zeros.toInt)

def significantWord? (rendering : List Char) : Option (List Char × Int32) :=
  let (mantissa, power) := splitOnce isExponentMark rendering
  let (whole, fraction) := splitOnce isPoint mantissa
  let digits := whole ++ fraction
  let leading := (digits.takeWhile isZeroDigit).length
  (pointWord? whole.length ((readInt32? power).getD 0) leading).map
    fun point => (trimZerosEnd (digits.drop leading), point)

structure FitsWords (whole fraction : List Char) (e : ℤ) : Prop where
  length : IsWord (whole.length + fraction.length)
  exponent : IsWord e
  moved : IsWord (whole.length + e)
  point : IsWord (whole.length + e - ((whole ++ fraction).takeWhile isZeroDigit).length)

section Zeros

theorem exists_zeros (cs : List Char) :
    ∃ n rest, cs = List.replicate n '0' ++ rest ∧ rest.head? ≠ some '0' := by
  induction cs with
  | nil => exact ⟨0, [], rfl, nofun⟩
  | cons c cs ih =>
    by_cases zero : c = '0'
    · obtain ⟨n, rest, split, head⟩ := ih
      exact ⟨n + 1, rest, by rw [zero, split, List.replicate_succ, List.cons_append], head⟩
    · exact ⟨0, c :: cs, rfl, by simpa using zero⟩

theorem exists_padded {cs : List Char} (digits : Digits cs)
    (nonzero : Nat.ofDigitChars 10 cs 0 ≠ 0) :
    ∃ n ds m, cs = List.replicate n '0' ++ (ds ++ List.replicate m '0') ∧ Significant ds := by
  obtain ⟨n, rest, rfl, head⟩ := exists_zeros cs
  obtain ⟨m, back, behind, last⟩ := exists_zeros rest.reverse
  obtain rfl : rest = back.reverse ++ List.replicate m '0' := by
    rw [← List.reverse_reverse rest, behind, List.reverse_append, List.reverse_replicate]
  have nonempty : back.reverse ≠ [] := by
    intro empty
    simp [empty, Nat.ofDigitChars_replicate_zero] at nonzero
  refine ⟨n, back.reverse, m, rfl, (digits_append.1 (digits_append.1 digits).2).1, nonempty, ?_, ?_⟩
  · rwa [List.head?_append_of_ne_nil _ nonempty] at head
  · rwa [List.getLast?_reverse]

theorem pointed_of_padded {whole fraction ds : List Char} {n m : ℕ}
    (padded : whole ++ fraction = List.replicate n '0' ++ (ds ++ List.replicate m '0')) (e : ℤ) :
    pointed ds (whole.length + e - n) = (ofDigits whole fraction e).value := by
  have digits : Nat.ofDigitChars 10 (whole ++ fraction) 0 = 10 ^ m * Nat.ofDigitChars 10 ds 0 := by
    simp [padded, Nat.ofDigitChars_append, Nat.ofDigitChars_replicate_zero]
  have length : whole.length + fraction.length = n + (ds.length + m) := by
    simpa using congrArg List.length padded
  have exponent : (whole.length + e - n - ds.length : ℤ) = m + (e - fraction.length) := by omega
  rw [pointed, value_ofDigits, digits, exponent, zpow_add₀ (by norm_num), zpow_natCast]
  push_cast
  ring

end Zeros

section Parts

theorem exponent_word {mark : Char} {power : List Char} {e : ℤ}
    (exponent : ExponentPart (mark :: power) e) (word : IsWord e) : readInt32? power = some e := by
  cases exponent with
  | power marked signs digits nonempty =>
    rw [readInt32?, signs.split digits.unsigned]
    dsimp only
    rw [readNat?_digits digits nonempty, Option.map_some, Option.filter_some,
      if_pos (by simpa [IsWord] using word)]

-- The mantissa has no mark of a power of ten, so that the first mark is the one before the power.
theorem Shows.split_power {mantissa whole fraction power : List Char} {e : ℤ}
    (shows : Shows mantissa whole fraction) (exponent : ExponentPart power e) (word : IsWord e) :
    ∃ rest, splitOnce isExponentMark (mantissa ++ power) = (mantissa, rest) ∧
      (readInt32? rest).getD 0 = e := by
  cases power with
  | nil =>
    cases exponent
    rw [List.append_nil]
    exact ⟨[], splitOnce_of_forall shows.plain, rfl⟩
  | cons mark rest =>
    have marked : isExponentMark mark = true := by
      cases exponent with
      | power marked => simpa [isExponentMark] using marked
    exact ⟨rest, splitOnce_append shows.plain marked rest, by rw [exponent_word exponent word]; rfl⟩

theorem Rendered.split {rendering whole fraction : List Char} {e : ℤ}
    (rendered : Rendered rendering whole fraction e) (word : IsWord e) :
    ∃ mantissa power, splitOnce isExponentMark rendering = (mantissa, power) ∧
      splitOnce isPoint mantissa = (whole, fraction) ∧ (readInt32? power).getD 0 = e := by
  cases rendered with
  | whole digits exponent =>
    obtain ⟨rest, marked, read⟩ := (shows_whole digits).split_power exponent word
    exact ⟨_, rest, marked, (shows_whole digits).split, read⟩
  | point digits fraction exponent =>
    obtain ⟨rest, marked, read⟩ := (shows_point digits fraction).split_power exponent word
    refine ⟨_, rest, ?_, (shows_point digits fraction).split, read⟩
    rw [← marked, List.append_assoc, List.cons_append]

theorem Rendered.digits {rendering whole fraction : List Char} {e : ℤ}
    (rendered : Rendered rendering whole fraction e) : Digits (whole ++ fraction) := by
  cases rendered with
  | whole digits => rwa [List.append_nil]
  | point digits fraction => exact digits_append.2 ⟨digits, fraction⟩

theorem Rendered.literal {rendering whole fraction : List Char} {e : ℤ}
    (rendered : Rendered rendering whole fraction e) (nonempty : whole ++ fraction ≠ []) :
    DecimalLiteral rendering (ofDigits whole fraction e).value := by
  cases rendered with
  | whole digits exponent =>
    have literal := DecimalLiteral.whole digits (by simpa using nonempty) exponent
    simpa [value_ofDigits] using literal
  | point digits fraction exponent =>
    rw [value_ofDigits_point]
    by_cases empty : whole = []
    · subst empty
      have literal := DecimalLiteral.fraction fraction (by simpa using nonempty) exponent
      simpa using literal
    · exact .point digits empty fraction exponent

end Parts

section Words

theorem word?_of_isWord {n : ℤ} (word : IsWord n) : ∃ w, word? n = some w ∧ w.toInt = n :=
  ⟨_, if_pos word, Int32.toInt_ofInt_of_le word.1 word.2⟩

theorem pointWord?_of_fits {whole fraction : List Char} {e : ℤ}
    (fits : FitsWords whole fraction e) :
    ∃ p, pointWord? whole.length e ((whole ++ fraction).takeWhile isZeroDigit).length = some p ∧
      p.toInt = whole.length + e - ((whole ++ fraction).takeWhile isZeroDigit).length := by
  have leading := ((whole ++ fraction).takeWhile_sublist isZeroDigit).length_le
  have bound := fits.length.2
  rw [List.length_append] at leading
  obtain ⟨count, counted, whole_eq⟩ := word?_of_isWord (n := whole.length) ⟨by omega, by omega⟩
  obtain ⟨moved, shifted, moved_eq⟩ := word?_of_isWord fits.moved
  obtain ⟨zeros, passed, zeros_eq⟩ := word?_of_isWord
    (n := ((whole ++ fraction).takeWhile isZeroDigit).length) ⟨by omega, by omega⟩
  obtain ⟨p, point, point_eq⟩ := word?_of_isWord fits.point
  refine ⟨p, ?_, point_eq⟩
  simp only [pointWord?, counted, whole_eq, shifted, moved_eq, passed, zeros_eq, point,
    Option.bind_eq_bind, Option.bind_some]

theorem significantWord?_of_split {rendering mantissa power whole fraction : List Char}
    (marked : splitOnce isExponentMark rendering = (mantissa, power))
    (split : splitOnce isPoint mantissa = (whole, fraction)) :
    significantWord? rendering =
      (pointWord? whole.length ((readInt32? power).getD 0)
        ((whole ++ fraction).takeWhile isZeroDigit).length).map
          ((Decimal.significant rendering).1, ·) := by
  rw [significantWord?, Decimal.significant, marked]
  dsimp only
  rw [split]

end Words

section Value

variable {rendering whole fraction : List Char} {e : ℤ}

theorem Rendered.padded (rendered : Rendered rendering whole fraction e)
    (nonzero : (ofDigits whole fraction e).value ≠ 0) :
    ∃ n ds m, whole ++ fraction = List.replicate n '0' ++ (ds ++ List.replicate m '0') ∧
      Significant ds ∧ ((whole ++ fraction).takeWhile isZeroDigit).length = n ∧
      pointed ds (whole.length + e - n) = (ofDigits whole fraction e).value := by
  have count : Nat.ofDigitChars 10 (whole ++ fraction) 0 ≠ 0 := by
    intro zero
    exact nonzero (by rw [value_ofDigits, zero, Nat.cast_zero, zero_mul])
  obtain ⟨n, ds, m, padded, proper⟩ := exists_padded rendered.digits count
  refine ⟨n, ds, m, padded, proper, ?_, pointed_of_padded padded e⟩
  rw [padded, takeWhile_isZeroDigit proper, List.length_replicate]

theorem Rendered.significant (rendered : Rendered rendering whole fraction e)
    (nonzero : (ofDigits whole fraction e).value ≠ 0) (fits : FitsWords whole fraction e) :
    ∃ ds p, Decimal.significant rendering = (ds, p.toInt) ∧
      significantWord? rendering = some (ds, p) ∧
      Significant ds ∧ pointed ds p.toInt = (ofDigits whole fraction e).value := by
  obtain ⟨n, ds, m, padded, proper, leading, pointed⟩ := rendered.padded nonzero
  obtain ⟨mantissa, power, marked, split, read⟩ := rendered.split fits.exponent
  obtain ⟨p, point, value⟩ := pointWord?_of_fits fits
  have taken := significant_of_split proper marked split padded
  rw [leading] at value
  rw [read, ← value] at taken
  refine ⟨ds, p, taken, ?_, proper, ?_⟩
  · rw [significantWord?_of_split marked split, read, point, taken, Option.map_some]
  · rw [value, pointed]

theorem Rendered.fits (rendered : Rendered rendering whole fraction e)
    (short : whole.length + fraction.length < 2 ^ 30) {ds : List Char} (proper : Significant ds)
    {p : ℤ} (value : (ofDigits whole fraction e).value = pointed ds p)
    (range : -2 ^ 30 < p ∧ p < 2 ^ 30) : FitsWords whole fraction e := by
  have nonzero : (ofDigits whole fraction e).value ≠ 0 := by
    rw [value, pointed]
    have positive := proper.toDigits.1
    positivity
  obtain ⟨n, es, m, -, proper', leading, pointed⟩ := rendered.padded nonzero
  obtain ⟨-, point⟩ := eq_of_pointed_eq proper' proper (pointed.trans value)
  have zeros := ((whole ++ fraction).takeWhile_sublist isZeroDigit).length_le
  rw [leading, List.length_append] at zeros
  refine ⟨?_, ?_, ?_, ?_⟩
  · exact ⟨by omega, by omega⟩
  · exact ⟨by omega, by omega⟩
  · exact ⟨by omega, by omega⟩
  · rw [leading, point]
    exact ⟨by omega, by omega⟩

theorem exists_rendered {cs : List Char} {q : ℚ} (literal : DecimalLiteral cs q) :
    ∃ whole fraction e, Rendered cs whole fraction e ∧ (ofDigits whole fraction e).value = q ∧
      whole.length + fraction.length ≤ cs.length := by
  cases literal with
  | @whole ds power e digits nonempty exponent =>
    exact ⟨ds, [], e, .whole digits exponent, by simp [value_ofDigits], by simp⟩
  | @point ds fs power e digits nonempty fraction exponent =>
    refine ⟨ds, fs, e, .point digits fraction exponent, value_ofDigits_point ds fs e, ?_⟩
    simp
    omega
  | @fraction fs power e digits nonempty exponent =>
    have rendered : Rendered ([] ++ '.' :: (fs ++ power)) [] fs e := .point nofun digits exponent
    refine ⟨[], fs, e, rendered, by simp [value_ofDigits_point], ?_⟩
    simp
    omega

end Value

/-- Any rendering of a number other than zero is taken apart without loss: digits with no zero at
either end, and the point that makes them the number, which is found also where it is counted in
words and all numbers on the way to it are words. -/
theorem significant_exact {rendering whole fraction : List Char} {e : ℤ}
    (rendered : Rendered rendering whole fraction e)
    (nonzero : (ofDigits whole fraction e).value ≠ 0) (fits : FitsWords whole fraction e) :
    DecimalLiteral rendering (ofDigits whole fraction e).value ∧
      ∃ ds p, Decimal.significant rendering = (ds, p.toInt) ∧
        significantWord? rendering = some (ds, p) ∧
        Significant ds ∧ pointed ds p.toInt = (ofDigits whole fraction e).value := by
  refine ⟨rendered.literal fun empty => nonzero ?_, rendered.significant nonzero fits⟩
  rw [value_ofDigits, empty, Nat.ofDigitChars_nil, Nat.cast_zero, zero_mul]

theorem significant_exact_padded :
    Rendered "0012.300E-07".toList "0012".toList "300".toList (-7) ∧
      (ofDigits "0012".toList "300".toList (-7)).value ≠ 0 ∧
      FitsWords "0012".toList "300".toList (-7) ∧
      significantWord? "0012.300E-07".toList = some ("123".toList, -5) ∧
      Significant "123".toList ∧
      pointed "123".toList (-5) = (ofDigits "0012".toList "300".toList (-7)).value := by
  have whole : Digits "0012".toList := by simp [Digits]
  have fraction : Digits "300".toList := by simp [Digits]
  have power : Digits "07".toList := by simp [Digits]
  have rendered : Rendered "0012.300E-07".toList "0012".toList "300".toList (-7) :=
    .point whole fraction (.power (.inr rfl) .minus power (by decide))
  have nonzero : (ofDigits "0012".toList "300".toList (-7)).value ≠ 0 := by
    have digits : Nat.ofDigitChars 10 ("0012".toList ++ "300".toList) 0 = 12300 := by decide
    rw [value_ofDigits, digits]
    positivity
  have fits : FitsWords "0012".toList "300".toList (-7) :=
    ⟨by decide, by decide, by decide, by decide⟩
  have found : significantWord? "0012.300E-07".toList = some ("123".toList, -5) := by decide
  obtain ⟨-, ds, p, -, same, proper, value⟩ := significant_exact rendered nonzero fits
  rw [found, Option.some.injEq, Prod.mk.injEq] at same
  obtain ⟨rfl, rfl⟩ := same
  exact ⟨rendered, nonzero, fits, found, proper, value⟩

end Decimal

end ScriptValue
