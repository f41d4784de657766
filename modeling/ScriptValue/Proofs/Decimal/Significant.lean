import Mathlib.Data.List.TakeWhile
import ScriptValue.Decimal.Layout
import ScriptValue.Proofs.Numeral.Written

set_option autoImplicit false

namespace ScriptValue

namespace Decimal

open Numeral

structure Significant (ds : List Char) : Prop where
  digits : Digits ds
  nonempty : ds ≠ []
  head : ds.head? ≠ some '0'
  last : ds.getLast? ≠ some '0'

section Coefficient

theorem digitChar_of_isDigit {c : Char} (digit : c.isDigit = true) :
    c.toNat - '0'.toNat < 10 ∧ Nat.digitChar (c.toNat - '0'.toNat) = c := by
  simp only [Char.isDigit, Bool.and_eq_true, decide_eq_true_eq, ge_iff_le,
    UInt32.le_iff_toNat_le] at digit
  have lower : 48 ≤ c.toNat := digit.1
  have upper : c.toNat ≤ 57 := digit.2
  have zero : '0'.toNat = 48 := rfl
  refine ⟨by omega, Char.toNat_inj.1 ?_⟩
  rw [Nat.toNat_digitChar_of_lt_ten (by omega)]
  omega

theorem digitChar_ne_zero {n : ℕ} (positive : 0 < n) (small : n < 10) : Nat.digitChar n ≠ '0' := by
  have value := Nat.toNat_digitChar_of_lt_ten small
  have zero : '0'.toNat = 48 := rfl
  intro same
  rw [same] at value
  omega

theorem toDigits_append {ds : List Char} (digits : Digits ds) {n : ℕ} (positive : 0 < n) :
    Nat.toDigits 10 n ++ ds = Nat.toDigits 10 (Nat.ofDigitChars 10 ds n) := by
  induction ds generalizing n with
  | nil => rw [List.append_nil, Nat.ofDigitChars_nil]
  | cons c cs ih =>
    obtain ⟨small, char⟩ := digitChar_of_isDigit (digits c (by simp))
    have rest : Digits cs := fun d h => digits d (by simp [h])
    have step := Nat.toDigits_append_toDigits (b := 10) (by decide) positive small
    rw [Nat.toDigits_of_lt_base small, char] at step
    rw [Nat.ofDigitChars_cons, ← ih rest (by omega), ← step, List.append_assoc]
    rfl

theorem toDigits_ofDigitChars {c : Char} {cs : List Char} (digits : Digits (c :: cs))
    (leading : c ≠ '0') :
    0 < Nat.ofDigitChars 10 (c :: cs) 0 ∧
      Nat.toDigits 10 (Nat.ofDigitChars 10 (c :: cs) 0) = c :: cs := by
  obtain ⟨small, char⟩ := digitChar_of_isDigit (digits c (by simp))
  have rest : Digits cs := fun d h => digits d (by simp [h])
  have positive : 0 < c.toNat - '0'.toNat := by
    by_contra zero
    rw [Nat.eq_zero_of_not_pos zero] at char
    exact leading (by rw [← char]; rfl)
  have value := toDigits_append rest positive
  rw [Nat.toDigits_of_lt_base small, char] at value
  rw [Nat.ofDigitChars_cons, Nat.mul_zero, Nat.zero_add, ← value]
  refine ⟨?_, rfl⟩
  rw [Nat.ofDigitChars_eq_ofDigitChars_zero]
  positivity

theorem Significant.toDigits {ds : List Char} (proper : Significant ds) :
    0 < Nat.ofDigitChars 10 ds 0 ∧ Nat.toDigits 10 (Nat.ofDigitChars 10 ds 0) = ds := by
  obtain ⟨c, cs, rfl⟩ := List.exists_cons_of_ne_nil proper.nonempty
  exact toDigits_ofDigitChars proper.digits (by simpa using proper.head)

theorem head?_toDigits {n : ℕ} (positive : 0 < n) : (Nat.toDigits 10 n).head? ≠ some '0' := by
  induction n using Nat.strongRecOn with
  | _ n ih =>
    rcases Nat.lt_or_ge n 10 with small | large
    · rw [Nat.toDigits_of_lt_base small]
      simpa using digitChar_ne_zero positive small
    · rw [Nat.toDigits_of_base_le (by decide) large,
        List.head?_append_of_ne_nil _ Nat.toDigits_ne_nil]
      exact ih (n / 10) (by omega) (by omega)

theorem getLast?_toDigits (n : ℕ) :
    (Nat.toDigits 10 n).getLast? = some (Nat.digitChar (n % 10)) := by
  rcases Nat.lt_or_ge n 10 with small | large
  · rw [Nat.toDigits_of_lt_base small, Nat.mod_eq_of_lt small]
    rfl
  · rw [Nat.toDigits_of_base_le (by decide) large, List.getLast?_concat]

theorem significant_toDigits_iff {n : ℕ} (positive : 0 < n) :
    Significant (Nat.toDigits 10 n) ↔ n % 10 ≠ 0 := by
  constructor
  · intro proper zero
    apply proper.last
    rw [getLast?_toDigits, zero]
    rfl
  · intro nonzero
    refine ⟨digits_toDigits n, Nat.toDigits_ne_nil, head?_toDigits positive, ?_⟩
    rw [getLast?_toDigits, ne_eq, Option.some.injEq]
    exact digitChar_ne_zero (by omega) (by omega)

end Coefficient

section Split

variable {isMark : Char → Bool} {a : List Char}

theorem splitOnce_append (before : ∀ c ∈ a, isMark c = false) {c : Char} (mark : isMark c = true)
    (b : List Char) : splitOnce isMark (a ++ c :: b) = (a, b) := by
  have pass : ∀ c ∈ a, (!isMark c) = true := fun c h => by simp [before c h]
  rw [splitOnce, List.takeWhile_append_of_pos pass, List.dropWhile_append_of_pos pass]
  simp [mark]

theorem splitOnce_of_forall (before : ∀ c ∈ a, isMark c = false) :
    splitOnce isMark a = (a, []) := by
  have pass : ∀ c ∈ a, (!isMark c) = true := fun c h => by simp [before c h]
  rw [splitOnce, List.takeWhile_eq_self_iff.2 pass, List.dropWhile_eq_nil_iff.2 pass]
  rfl

theorem not_mark_of_digits {cs : List Char} (digits : Digits cs) :
    ∀ c ∈ cs, isExponentMark c = false ∧ isPoint c = false := by
  intro c h
  have digit := digits c h
  constructor
  · by_contra mark
    simp only [isExponentMark, Bool.not_eq_false, Bool.or_eq_true, beq_iff_eq] at mark
    rcases mark with rfl | rfl <;> exact absurd digit (by decide)
  · by_contra mark
    simp only [isPoint, Bool.not_eq_false, beq_iff_eq] at mark
    subst mark
    exact absurd digit (by decide)

structure Shows (mantissa whole fraction : List Char) : Prop where
  plain : ∀ c ∈ mantissa, isExponentMark c = false
  split : splitOnce isPoint mantissa = (whole, fraction)

theorem shows_whole {whole : List Char} (digits : Digits whole) : Shows whole whole [] where
  plain c h := (not_mark_of_digits digits c h).1
  split := splitOnce_of_forall fun c h => (not_mark_of_digits digits c h).2

theorem shows_point {whole fraction : List Char} (hw : Digits whole) (hf : Digits fraction) :
    Shows (whole ++ '.' :: fraction) whole fraction where
  plain := List.forall_mem_append.2 ⟨fun c h => (not_mark_of_digits hw c h).1,
    List.forall_mem_cons.2 ⟨rfl, fun c h => (not_mark_of_digits hf c h).1⟩⟩
  split := splitOnce_append (fun c h => (not_mark_of_digits hw c h).2) rfl fraction

end Split

section Zeros

variable {ds : List Char} (proper : Significant ds) (n : ℕ)

include proper

theorem takeWhile_isZeroDigit (rest : List Char) :
    (List.replicate n '0' ++ (ds ++ rest)).takeWhile isZeroDigit = List.replicate n '0' := by
  obtain ⟨c, cs, rfl⟩ := List.exists_cons_of_ne_nil proper.nonempty
  have stop : isZeroDigit c = false := by simpa [isZeroDigit] using proper.head
  rw [List.takeWhile_append_of_pos fun c h => by rw [List.eq_of_mem_replicate h]; rfl]
  simp [stop]

theorem trimZerosEnd_append : trimZerosEnd (ds ++ List.replicate n '0') = ds := by
  have ends : ds.reverse.dropWhile isZeroDigit = ds.reverse := by
    have last := proper.last
    rw [← List.head?_reverse] at last
    cases back : ds.reverse with
    | nil => rfl
    | cons c cs =>
      have stop : isZeroDigit c = false := by simpa [isZeroDigit, back] using last
      simp [stop]
  rw [trimZerosEnd, List.reverse_append, List.reverse_replicate,
    List.dropWhile_append_of_pos fun c h => by rw [List.eq_of_mem_replicate h]; rfl, ends,
    List.reverse_reverse]

end Zeros

section Write

variable {ds : List Char} (proper : Significant ds)

include proper

theorem significant_of_split {rendering mantissa power whole fraction : List Char} {n m : ℕ}
    (marked : splitOnce isExponentMark rendering = (mantissa, power))
    (pointed : splitOnce isPoint mantissa = (whole, fraction))
    (padded : whole ++ fraction = List.replicate n '0' ++ (ds ++ List.replicate m '0')) :
    Decimal.significant rendering =
      (ds, whole.length + (readInt32? power).getD 0 - n) := by
  rw [Decimal.significant, marked]
  dsimp only
  rw [pointed]
  dsimp only
  rw [padded, takeWhile_isZeroDigit proper, List.drop_left, trimZerosEnd_append proper,
    List.length_replicate]

end Write

end Decimal

end ScriptValue
