import ScriptValue.Decimal.Layout
import ScriptValue.Numeral
import ScriptValue.Proofs.Decimal.ReadBack

set_option autoImplicit false

namespace ScriptValue

namespace Numeral

def Digits (cs : List Char) : Prop := ∀ c ∈ cs, c.isDigit = true

theorem digits_toDigits (n : ℕ) : Digits (Nat.toDigits 10 n) := fun _ h =>
  Nat.isDigit_of_mem_toDigits (by decide) (by decide) h

theorem digitRun_append {ds rest : List Char} (digits : Digits ds)
    (stop : ∀ c ∈ rest.head?, c.isDigit = false) : digitRun (ds ++ rest) = (ds, rest) := by
  rw [digitRun, List.takeWhile_append_of_pos digits, List.dropWhile_append_of_pos digits]
  cases rest with
  | nil => simp
  | cons c cs =>
    have first : c.isDigit = false := stop c rfl
    simp [first]

def Exponent (cs : List Char) : Prop := ∀ c ∈ cs.head?, c = 'e'

def Ends (cs : List Char) : Prop := ∀ c ∈ cs.head?, c.isDigit = false ∧ c ≠ '.'

theorem Exponent.ends {cs : List Char} (exponent : Exponent cs) : Ends cs := by
  intro c h
  rw [exponent c h]
  decide

theorem readDecimal?_whole {whole rest : List Char} (digits : Digits whole) (nonempty : whole ≠ [])
    (ends : Ends rest) :
    readDecimal? (whole ++ rest) = (readExponent? rest).map (Decimal.ofDigits whole []) := by
  have run : digitRun (whole ++ rest) = (whole, rest) :=
    digitRun_append digits fun c h => (ends c h).1
  rw [readDecimal?, run]
  cases rest with
  | nil => simp [nonempty]
  | cons c cs =>
    have point : c ≠ '.' := (ends c rfl).2
    simp [nonempty, point]

theorem readDecimal?_point {whole fraction rest : List Char} (hw : Digits whole)
    (hf : Digits fraction) (nonempty : whole ≠ [] ∨ fraction ≠ []) (ends : Ends rest) :
    readDecimal? (whole ++ '.' :: (fraction ++ rest)) =
      (readExponent? rest).map (Decimal.ofDigits whole fraction) := by
  have first : digitRun (whole ++ '.' :: (fraction ++ rest)) = (whole, '.' :: (fraction ++ rest)) :=
    digitRun_append hw fun c h => by
      obtain rfl : '.' = c := by simpa using h
      decide
  have second : digitRun (fraction ++ rest) = (fraction, rest) :=
    digitRun_append hf fun c h => (ends c h).1
  rw [readDecimal?, first]
  rcases nonempty with nonempty | nonempty <;> simp [second, nonempty]

theorem splitSign_unsigned {cs : List Char} (unsigned : ∀ c ∈ cs.head?, c ≠ '+' ∧ c ≠ '-') :
    splitSign cs = (false, cs) := by
  unfold splitSign
  split
  case h_1 => exact absurd rfl (unsigned '+' rfl).1
  case h_2 => exact absurd rfl (unsigned '-' rfl).2
  case h_3 => rfl

theorem Digits.unsigned {ds : List Char} (digits : Digits ds) :
    ∀ c ∈ ds.head?, c ≠ '+' ∧ c ≠ '-' := by
  intro c first
  have digit : c.isDigit = true := digits c (List.mem_of_mem_head? first)
  constructor <;> rintro rfl <;> exact absurd digit (by decide)

theorem splitSign_of_digits {ds : List Char} (digits : Digits ds) : splitSign ds = (false, ds) :=
  splitSign_unsigned digits.unsigned

theorem readNat?_digits {ds : List Char} (digits : Digits ds) (nonempty : ds ≠ []) :
    readNat? ds = some (Nat.ofDigitChars 10 ds 0) := by
  have all : ds.all Char.isDigit = true := List.all_eq_true.2 digits
  simp [readNat?, all, nonempty]

theorem readNat?_toDigits (n : ℕ) : readNat? (Nat.toDigits 10 n) = some n := by
  rw [readNat?_digits (digits_toDigits n) Nat.toDigits_ne_nil, Nat.ofDigitChars_ten_toDigits]

theorem readExponent?_write (f : Layout) (e : ℤ) :
    readExponent? ('e' :: (f.exponentSign e ++ Nat.toDigits 10 e.natAbs)) = some e := by
  have split : splitSign (f.exponentSign e ++ Nat.toDigits 10 e.natAbs) =
      (decide (e < 0), Nat.toDigits 10 e.natAbs) := by
    rw [Layout.exponentSign]
    by_cases negative : e < 0
    · simp [negative, splitSign]
    · cases plus : f.plus with
      | false => simp [negative, splitSign_of_digits (digits_toDigits e.natAbs)]
      | true => simp [negative, splitSign]
  simp only [readExponent?, true_or, if_true, split, readNat?_toDigits, Option.map_some, signed,
    decide_eq_true_eq]
  split <;> simp only [Option.some.injEq] <;> omega

end Numeral

namespace Decimal

theorem value_ofDigits (whole fraction : List Char) (e : ℤ) :
    (ofDigits whole fraction e).value =
      (Nat.ofDigitChars 10 (whole ++ fraction) 0 : ℕ) * 10 ^ (e - fraction.length) := rfl

end Decimal

namespace Numeral

theorem exponent_nil : Exponent [] := nofun

theorem exponent_cons (cs : List Char) : Exponent ('e' :: cs) := by
  rintro c ⟨⟩
  rfl

theorem digits_append {a b : List Char} : Digits (a ++ b) ↔ Digits a ∧ Digits b := by
  simp [Digits, or_imp, forall_and]

theorem digits_zeros (n : ℕ) : Digits (List.replicate n '0') := by
  intro c h
  rw [List.eq_of_mem_replicate h]
  decide

section Layout

variable (f : Layout) {ds : List Char} (digits : Digits ds) (nonempty : ds ≠ []) (p : ℤ)

include digits nonempty

-- One case for each place of the point: before the digits, after them, and among them.
theorem readDecimal?_positional :
    ∃ d, readDecimal? (f.positional ds p) = some d ∧
      d.value = (Nat.ofDigitChars 10 ds 0 : ℕ) * 10 ^ (p - ds.length) := by
  unfold Layout.positional
  split
  case isTrue before =>
    have fraction : Digits (List.replicate (-p).toNat '0' ++ ds) :=
      digits_append.2 ⟨digits_zeros _, digits⟩
    have read := readDecimal?_point (digits_zeros 1) fraction (by simp) exponent_nil.ends
    rw [List.append_nil] at read
    refine ⟨_, read, ?_⟩
    have exponent : (0 : ℤ) - (List.replicate (-p).toNat '0' ++ ds).length = p - ds.length := by
      simp only [List.length_append, List.length_replicate]
      omega
    rw [Decimal.value_ofDigits, exponent, ← List.append_assoc, List.replicate_append_replicate,
      Nat.ofDigitChars_append, Nat.ofDigitChars_replicate_zero, Nat.mul_zero]
  split
  case isTrue inside after =>
    have zeros : Digits (ds ++ List.replicate (p.toNat - ds.length) '0') :=
      digits_append.2 ⟨digits, digits_zeros _⟩
    have padded : Nat.ofDigitChars 10 (ds ++ List.replicate (p.toNat - ds.length) '0') 0 =
        10 ^ (p.toNat - ds.length) * Nat.ofDigitChars 10 ds 0 := by
      rw [Nat.ofDigitChars_append, Nat.ofDigitChars_replicate_zero]
    have power : (10 : ℚ) ^ (p - ds.length) = 10 ^ (p.toNat - ds.length) := by
      rw [← zpow_natCast]
      congr 1
      omega
    cases f.pointZero with
    | false =>
      refine ⟨_, readDecimal?_whole zeros (by simp [nonempty]) exponent_nil.ends, ?_⟩
      rw [Decimal.value_ofDigits, List.append_nil, padded, power]
      push_cast
      simp [mul_comm]
    | true =>
      refine ⟨_, readDecimal?_point zeros (digits_zeros 1) (by simp [nonempty])
        exponent_nil.ends, ?_⟩
      rw [Decimal.value_ofDigits, Nat.ofDigitChars_append, padded, Nat.ofDigitChars_replicate_zero,
        power]
      push_cast
      simp
      ring
  case isFalse inside among =>
    have cut := digits_append.1 ((List.take_append_drop p.toNat ds).symm ▸ digits)
    have front : ds.take p.toNat ≠ [] := by
      simp only [ne_eq, List.take_eq_nil_iff, nonempty, or_false]
      omega
    have read := readDecimal?_point cut.1 cut.2 (.inl front) exponent_nil.ends
    rw [List.append_nil] at read
    refine ⟨_, read, ?_⟩
    have exponent : (0 : ℤ) - (ds.drop p.toNat).length = p - ds.length := by
      simp only [List.length_drop]
      omega
    rw [Decimal.value_ofDigits, exponent, List.take_append_drop]

theorem readDecimal?_scientific (e : ℤ) :
    ∃ d, readDecimal? (f.scientific ds e) = some d ∧
      d.value = (Nat.ofDigitChars 10 ds 0 : ℕ) * 10 ^ (e + 1 - ds.length) := by
  have size : 0 < ds.length := List.length_pos_of_ne_nil nonempty
  have cut := digits_append.1 ((List.take_append_drop 1 ds).symm ▸ digits)
  have front : ds.take 1 ≠ [] := by simp [nonempty]
  unfold Layout.scientific
  split
  case isTrue short =>
    have read := readDecimal?_whole cut.1 front
      (exponent_cons (f.exponentSign e ++ Nat.toDigits 10 e.natAbs)).ends
    rw [readExponent?_write f e, Option.map_some] at read
    refine ⟨_, by rw [List.append_nil, read], ?_⟩
    have exponent : e - ([] : List Char).length = e + 1 - ds.length := by
      simp only [List.length_nil]
      omega
    rw [Decimal.value_ofDigits, exponent, List.append_nil, List.take_of_length_le short]
  case isFalse long =>
    have read := readDecimal?_point cut.1 cut.2 (.inl front)
      (exponent_cons (f.exponentSign e ++ Nat.toDigits 10 e.natAbs)).ends
    rw [readExponent?_write f e, Option.map_some] at read
    refine ⟨_, by rw [List.append_assoc, List.cons_append, read], ?_⟩
    have exponent : e - (ds.drop 1).length = e + 1 - ds.length := by
      simp only [List.length_drop]
      omega
    rw [Decimal.value_ofDigits, exponent, List.take_append_drop]

theorem readDecimal?_write :
    ∃ d, readDecimal? (f.write ds p) = some d ∧
      d.value = (Nat.ofDigitChars 10 ds 0 : ℕ) * 10 ^ (p - ds.length) := by
  unfold Layout.write
  split
  · exact readDecimal?_positional f digits nonempty p
  · have written := readDecimal?_scientific f digits nonempty (p - 1)
    rwa [sub_add_cancel] at written

end Layout

def isPlain (c : Char) : Bool := c.isDigit || ['.', 'e', '+', '-'].contains c

structure Plain (body : List Char) : Prop where
  head : ∃ c cs, body = c :: cs ∧ c.isDigit = true
  chars : ∀ c ∈ body, isPlain c = true

theorem isBlank_of_isPlain {c : Char} (h : isPlain c = true) : isBlank c = false := by
  simp only [isPlain, Bool.or_eq_true, List.contains_eq_mem, decide_eq_true_eq] at h
  rcases h with digit | mark
  · simp only [Char.isDigit, Bool.and_eq_true, decide_eq_true_eq, ge_iff_le,
      UInt32.le_iff_toNat_le] at digit
    have lower : 48 ≤ c.toNat := digit.1
    have upper : c.toNat ≤ 57 := digit.2
    simp [isBlank]
    omega
  · simp only [List.mem_cons, List.not_mem_nil, or_false] at mark
    rcases mark with rfl | rfl | rfl | rfl <;> decide

theorem radix?_of_isPlain {c : Char} (h : isPlain c = true) : radix? c = none := by
  unfold radix?
  split <;> first | rfl | exact absurd h (by decide)

theorem trimBlank_of_forall {cs : List Char} (h : ∀ c ∈ cs, isBlank c = false) :
    trimBlank cs = cs := by
  have keep {l : List Char} (inside : ∀ c ∈ l, isBlank c = false) : l.dropWhile isBlank = l := by
    cases l with
    | nil => rfl
    | cons c l => simp [inside c (by simp)]
  rw [trimBlank, keep h, keep (by simpa using h), List.reverse_reverse]

theorem trimBlank_of_isPlain {cs : List Char} (h : ∀ c ∈ cs, isPlain c = true) :
    trimBlank cs = cs := trimBlank_of_forall fun c inside => isBlank_of_isPlain (h c inside)

theorem readTrimmed?_of_unmarked {cs : List Char} (nonempty : cs ≠ [])
    (unmarked : ∀ mark body, cs = '0' :: mark :: body → radix? mark = none) :
    readTrimmed? cs = readSigned? cs := by
  unfold readTrimmed?
  split
  case h_1 => exact absurd rfl nonempty
  case h_2 mark body => rw [unmarked mark body rfl]
  case h_3 => rfl

theorem readTrimmed?_of_isPlain {cs : List Char} (nonempty : cs ≠ [])
    (h : ∀ c ∈ cs, isPlain c = true) : readTrimmed? cs = readSigned? cs :=
  readTrimmed?_of_unmarked nonempty fun mark _ shape =>
    radix?_of_isPlain (h mark (by simp [shape]))

theorem splitSign_sign_append {body : List Char} (plain : Plain body) (s : Bool) :
    splitSign (Layout.sign s ++ body) = (s, body) := by
  obtain ⟨c, cs, rfl, digit⟩ := plain.head
  cases s with
  | true => rfl
  | false =>
    have leading : Digits [c] := by simpa [Digits] using digit
    have first := splitSign_of_digits leading
    simp only [Layout.sign, Bool.false_eq_true, if_false, List.nil_append]
    unfold splitSign at first ⊢
    split <;> simp_all

theorem readSigned?_sign_append {body : List Char} (plain : Plain body) (s : Bool) :
    readSigned? (Layout.sign s ++ body) = (readDecimal? body).map (Decimal.nearest s) := by
  have number : body ≠ "Infinity".toList := by
    obtain ⟨c, cs, rfl, digit⟩ := plain.head
    intro same
    rw [(List.cons.inj same).1] at digit
    exact absurd digit (by decide)
  unfold readSigned?
  rw [splitSign_sign_append plain s]
  exact if_neg number

theorem read_sign_append {body : List Char} (plain : Plain body) (s : Bool) :
    read (Layout.sign s ++ body) =
      ((readDecimal? body).map (Decimal.nearest s)).getD Double.nan := by
  have chars : ∀ c ∈ Layout.sign s ++ body, isPlain c = true := by
    intro c h
    rcases List.mem_append.1 h with sign | inside
    · cases s <;> simp_all [Layout.sign, isPlain]
    · exact plain.chars c inside
  have nonempty : Layout.sign s ++ body ≠ [] := by
    obtain ⟨c, cs, rfl, _⟩ := plain.head
    simp
  rw [read, trimBlank_of_isPlain chars, readTrimmed?_of_isPlain nonempty chars,
    readSigned?_sign_append plain s]

theorem isPlain_of_digits {ds : List Char} (digits : Digits ds) : ∀ c ∈ ds, isPlain c = true := by
  intro c h
  simp [isPlain, digits c h]

theorem plain_of_digits {ds : List Char} (digits : Digits ds) (nonempty : ds ≠ []) : Plain ds := by
  refine ⟨?_, isPlain_of_digits digits⟩
  cases ds with
  | nil => exact absurd rfl nonempty
  | cons c cs => exact ⟨c, cs, rfl, digits c (by simp)⟩

theorem plain_append {a b : List Char} (ha : Plain a) (hb : ∀ c ∈ b, isPlain c = true) :
    Plain (a ++ b) := by
  refine ⟨?_, List.forall_mem_append.2 ⟨ha.chars, hb⟩⟩
  obtain ⟨c, cs, rfl, digit⟩ := ha.head
  exact ⟨c, cs ++ b, rfl, digit⟩

theorem plain_write (f : Layout) {ds : List Char} (digits : Digits ds) (nonempty : ds ≠ [])
    (p : ℤ) : Plain (f.write ds p) := by
  have pointed {cs : List Char} (h : Digits cs) : ∀ c ∈ '.' :: cs, isPlain c = true :=
    List.forall_mem_cons.2 ⟨rfl, isPlain_of_digits h⟩
  have cut (n : ℕ) := digits_append.1 ((List.take_append_drop n ds).symm ▸ digits)
  have start (n : ℕ) (positive : 0 < n) : Plain (ds.take n) :=
    plain_of_digits (cut n).1 (by simp [nonempty, positive.ne'])
  unfold Layout.write
  split
  case isTrue =>
    unfold Layout.positional
    split
    case isTrue before =>
      exact plain_append (plain_of_digits (digits_zeros 1) (by simp))
        (pointed (digits_append.2 ⟨digits_zeros _, digits⟩))
    split
    case isTrue inside after =>
      refine plain_append (plain_append (plain_of_digits digits nonempty)
        (isPlain_of_digits (digits_zeros _))) ?_
      cases f.pointZero
      · nofun
      · exact pointed (digits_zeros 1)
    case isFalse inside among =>
      exact plain_append (start p.toNat (by omega)) (pointed (cut p.toNat).2)
  case isFalse =>
    refine plain_append (plain_append (start 1 (by decide)) ?_) ?_
    · split
      · nofun
      · exact pointed (cut 1).2
    · refine List.forall_mem_cons.2 ⟨rfl, List.forall_mem_append.2 ⟨?_, ?_⟩⟩
      · rw [Layout.exponentSign]
        split
        · simp [isPlain]
        · cases f.plus <;> simp [isPlain]
      · exact isPlain_of_digits (digits_toDigits _)

theorem read_write (f : Layout) (s : Bool) (d : Decimal) :
    read (Layout.sign s ++ f.write d.digits d.point) = Decimal.nearest s d := by
  have digits : Digits d.digits := digits_toDigits d.coefficient
  have nonempty : d.digits ≠ [] := Nat.toDigits_ne_nil
  obtain ⟨c, written, value⟩ := readDecimal?_write f digits nonempty d.point
  have same : c.value = d.value := by
    have exponent : d.point - d.digits.length = d.exponent := by
      rw [Decimal.point]
      omega
    rw [value, exponent, Decimal.digits, Nat.ofDigitChars_ten_toDigits, Decimal.value]
  rw [read_sign_append (plain_write f digits nonempty d.point), written]
  exact Decimal.nearest_congr s same

theorem read_integerText (n : ℤ) : read (integerText n) = Double.ofInt n := by
  have digits := digits_toDigits n.natAbs
  have nonempty : Nat.toDigits 10 n.natAbs ≠ [] := Nat.toDigits_ne_nil
  have whole := readDecimal?_whole digits nonempty exponent_nil.ends
  rw [List.append_nil] at whole
  rw [integerText, read_sign_append (plain_of_digits digits nonempty), whole]
  have written : Decimal.ofDigits (Nat.toDigits 10 n.natAbs) [] 0 = ⟨n.natAbs, 0⟩ := by
    simp [Decimal.ofDigits]
  simp [readExponent?, written, Decimal.nearest, Decimal.nearestMagnitude_eq, Decimal.numerator,
    Decimal.denominator, Double.ofInt, Double.nearest]

end Numeral

end ScriptValue
