import Mathlib.Data.List.TakeWhile
import ScriptValue.Proofs.Double.Nearest
import ScriptValue.Proofs.Numeral.Radix

set_option autoImplicit false

namespace ScriptValue

namespace Numeral

def whiteSpace : List ℕ :=
  [0x09, 0x0B, 0x0C, 0xFEFF] ++
    [0x20, 0xA0, 0x1680] ++ List.range' 0x2000 11 ++ [0x202F, 0x205F, 0x3000]

def lineTerminators : List ℕ := [0x0A, 0x0D, 0x2028, 0x2029]

def Blank (c : Char) : Prop := c.toNat ∈ whiteSpace ∨ c.toNat ∈ lineTerminators

structure Trimmed (cs t : List Char) : Prop where
  inside : ∃ before after, cs = before ++ (t ++ after) ∧
    (∀ c ∈ before, Blank c) ∧ ∀ c ∈ after, Blank c
  head : ∀ c ∈ t.head?, ¬Blank c
  last : ∀ c ∈ t.getLast?, ¬Blank c

inductive Sign : List Char → Bool → Prop
  | bare : Sign [] false
  | plus : Sign ['+'] false
  | minus : Sign ['-'] true

inductive ExponentPart : List Char → ℤ → Prop
  | absent : ExponentPart [] 0
  | power {mark : Char} {sign ds : List Char} {negative : Bool} (marked : mark = 'e' ∨ mark = 'E')
      (signs : Sign sign negative) (digits : Digits ds) (nonempty : ds ≠ []) :
      ExponentPart (mark :: (sign ++ ds)) (signed negative (Nat.ofDigitChars 10 ds 0))

/-- An unsigned decimal and the number it denotes: digits, perhaps with a point and more digits
behind it, or a point and at least one digit, each with an optional power of ten. -/
inductive DecimalLiteral : List Char → ℚ → Prop
  | whole {ds power : List Char} {e : ℤ} (digits : Digits ds) (nonempty : ds ≠ [])
      (exponent : ExponentPart power e) :
      DecimalLiteral (ds ++ power) ((Nat.ofDigitChars 10 ds 0 : ℕ) * 10 ^ e)
  | point {ds fs power : List Char} {e : ℤ} (digits : Digits ds) (nonempty : ds ≠ [])
      (fraction : Digits fs) (exponent : ExponentPart power e) :
      DecimalLiteral (ds ++ '.' :: (fs ++ power))
        (((Nat.ofDigitChars 10 ds 0 : ℕ) + (Nat.ofDigitChars 10 fs 0 : ℕ) / 10 ^ fs.length) *
          10 ^ e)
  | fraction {fs power : List Char} {e : ℤ} (digits : Digits fs) (nonempty : fs ≠ [])
      (exponent : ExponentPart power e) :
      DecimalLiteral ('.' :: (fs ++ power))
        ((Nat.ofDigitChars 10 fs 0 : ℕ) / 10 ^ fs.length * 10 ^ e)

inductive RadixLiteral : List Char → Prop
  | hexadecimal {mark : Char} {ds : List Char} (marked : mark = 'x' ∨ mark = 'X')
      (nonempty : ds ≠ []) (digits : ∀ d ∈ ds, d ∈ "0123456789abcdefABCDEF".toList) :
      RadixLiteral ('0' :: mark :: ds)
  | octal {mark : Char} {ds : List Char} (marked : mark = 'o' ∨ mark = 'O')
      (nonempty : ds ≠ []) (digits : ∀ d ∈ ds, d ∈ "01234567".toList) :
      RadixLiteral ('0' :: mark :: ds)
  | binary {mark : Char} {ds : List Char} (marked : mark = 'b' ∨ mark = 'B')
      (nonempty : ds ≠ []) (digits : ∀ d ∈ ds, d ∈ "01".toList) :
      RadixLiteral ('0' :: mark :: ds)

inductive Literal : List Char → Prop
  | empty : Literal []
  | radix {t : List Char} (marked : RadixLiteral t) : Literal t
  | infinity {sign : List Char} {negative : Bool} (signs : Sign sign negative) :
      Literal (sign ++ "Infinity".toList)
  | decimal {sign body : List Char} {negative : Bool} {q : ℚ} (signs : Sign sign negative)
      (number : DecimalLiteral body q) : Literal (sign ++ body)

end Numeral

namespace Numeral

section Blanks

theorem isBlank_iff (c : Char) : isBlank c = true ↔ Blank c := by
  simp [isBlank, Blank, whiteSpace, lineTerminators]
  omega

theorem not_blank_iff (c : Char) : ¬Blank c ↔ isBlank c = false := by
  rw [← isBlank_iff, Bool.not_eq_true]

theorem dropWhile_isBlank {before rest : List Char} (blank : ∀ c ∈ before, Blank c)
    (stop : ∀ c ∈ rest.head?, ¬Blank c) : (before ++ rest).dropWhile isBlank = rest := by
  rw [List.dropWhile_append_of_pos fun c h => (isBlank_iff c).2 (blank c h)]
  cases rest with
  | nil => rfl
  | cons c cs =>
    have first : isBlank c = false := (not_blank_iff c).1 (stop c rfl)
    simp [first]

theorem exists_blanks (cs : List Char) :
    ∃ before, cs = before ++ cs.dropWhile isBlank ∧ (∀ c ∈ before, Blank c) ∧
      ∀ c ∈ (cs.dropWhile isBlank).head?, ¬Blank c := by
  refine ⟨cs.takeWhile isBlank, List.takeWhile_append_dropWhile.symm, fun c h => ?_, fun c h => ?_⟩
  · exact (isBlank_iff c).1 (List.mem_takeWhile_imp h)
  · have stop := List.head?_dropWhile_not isBlank cs
    rw [h] at stop
    exact (not_blank_iff c).2 stop

theorem trimmed_trimBlank (cs : List Char) : Trimmed cs (trimBlank cs) := by
  obtain ⟨before, front, blank, head⟩ := exists_blanks cs
  obtain ⟨after, back, tail, last⟩ := exists_blanks (cs.dropWhile isBlank).reverse
  have split : cs.dropWhile isBlank = trimBlank cs ++ after.reverse := by
    rw [trimBlank, ← List.reverse_append, ← back, List.reverse_reverse]
  refine ⟨⟨before, after.reverse, split ▸ front, blank, by simpa using tail⟩, fun c h => ?_, ?_⟩
  · rw [split, List.head?_append, h] at head
    exact head c rfl
  · rwa [trimBlank, List.getLast?_reverse]

theorem Trimmed.eq_trimBlank {cs t : List Char} (trimmed : Trimmed cs t) : t = trimBlank cs := by
  obtain ⟨before, after, rfl, blank, tail⟩ := trimmed.inside
  have back : (after.reverse ++ t.reverse).dropWhile isBlank = t.reverse :=
    dropWhile_isBlank (by simpa using tail) (by simpa using trimmed.last)
  cases t with
  | nil =>
    have all : (before ++ after).dropWhile isBlank = [] :=
      List.dropWhile_eq_nil_iff.2 fun c h =>
        (isBlank_iff c).2 ((List.mem_append.1 h).elim (blank c) (tail c))
    rw [trimBlank, List.nil_append, all]
    rfl
  | cons c t =>
    have front : (before ++ (c :: t ++ after)).dropWhile isBlank = c :: t ++ after :=
      dropWhile_isBlank blank trimmed.head
    rw [trimBlank, front, List.reverse_append, back, List.reverse_reverse]

theorem trimmed_iff {cs t : List Char} : Trimmed cs t ↔ t = trimBlank cs :=
  ⟨Trimmed.eq_trimBlank, fun h => h ▸ trimmed_trimBlank cs⟩

end Blanks

section Soundness

theorem splitSign_sound (cs : List Char) :
    ∃ sign, cs = sign ++ (splitSign cs).2 ∧ Sign sign (splitSign cs).1 := by
  unfold splitSign
  split
  · exact ⟨['+'], rfl, .plus⟩
  · exact ⟨['-'], rfl, .minus⟩
  · exact ⟨[], rfl, .bare⟩

theorem readNat?_sound {cs : List Char} {n : ℕ} (h : readNat? cs = some n) :
    Digits cs ∧ cs ≠ [] ∧ n = Nat.ofDigitChars 10 cs 0 := by
  unfold readNat? at h
  split at h
  case isTrue => cases h
  case isFalse shape =>
    simp only [Bool.or_eq_true, Bool.not_eq_true', not_or, Bool.not_eq_true, Bool.not_eq_false,
      List.isEmpty_eq_false_iff, List.all_eq_true] at shape
    exact ⟨shape.2, shape.1, (Option.some.inj h).symm⟩

theorem readExponent?_sound {cs : List Char} {e : ℤ} (h : readExponent? cs = some e) :
    ExponentPart cs e := by
  unfold readExponent? at h
  split at h
  · cases h
    exact .absent
  · split at h
    case isFalse => cases h
    case isTrue c rest marked =>
      obtain ⟨n, value, rfl⟩ := Option.map_eq_some_iff.1 h
      obtain ⟨digits, nonempty, rfl⟩ := readNat?_sound value
      obtain ⟨sign, text, signs⟩ := splitSign_sound rest
      have power := ExponentPart.power marked signs digits nonempty
      rwa [← text] at power

theorem digitRun_sound (cs : List Char) :
    cs = (digitRun cs).1 ++ (digitRun cs).2 ∧ Digits (digitRun cs).1 :=
  ⟨List.takeWhile_append_dropWhile.symm, fun _ h => List.mem_takeWhile_imp h⟩

theorem value_ofDigits_point (ds fs : List Char) (e : ℤ) :
    (Decimal.ofDigits ds fs e).value =
      ((Nat.ofDigitChars 10 ds 0 : ℕ) + (Nat.ofDigitChars 10 fs 0 : ℕ) / 10 ^ fs.length) *
        10 ^ e := by
  rw [Decimal.value_ofDigits, Nat.ofDigitChars_append, Nat.ofDigitChars_eq_ofDigitChars_zero,
    zpow_sub₀ (by norm_num), zpow_natCast]
  push_cast
  field_simp

theorem readDecimal?_sound {cs : List Char} {d : Decimal} (h : readDecimal? cs = some d) :
    DecimalLiteral cs d.value := by
  obtain ⟨text, digits⟩ := digitRun_sound cs
  unfold readDecimal? at h
  generalize digitRun cs = run at h text digits
  obtain ⟨whole, rest⟩ := run
  obtain rfl : cs = whole ++ rest := text
  simp only at h
  split at h
  case h_1 more =>
    obtain ⟨behind, fraction⟩ := digitRun_sound more
    generalize digitRun more = run at h behind fraction
    obtain ⟨fs, rest⟩ := run
    obtain rfl : more = fs ++ rest := behind
    split at h
    case isTrue => cases h
    case isFalse shape =>
      obtain ⟨e, exponent, rfl⟩ := Option.map_eq_some_iff.1 h
      have power := readExponent?_sound exponent
      rw [value_ofDigits_point]
      by_cases nonempty : whole = []
      · subst nonempty
        have some : fs ≠ [] := by simpa using shape
        simpa using DecimalLiteral.fraction fraction some power
      · exact .point digits nonempty fraction power
  case h_2 =>
    split at h
    case isTrue => cases h
    case isFalse shape =>
      obtain ⟨e, exponent, rfl⟩ := Option.map_eq_some_iff.1 h
      have nonempty : whole ≠ [] := by simpa using shape
      rw [Decimal.value_ofDigits]
      simpa using DecimalLiteral.whole digits nonempty (readExponent?_sound exponent)

end Soundness

section Completeness

theorem Sign.split {sign : List Char} {negative : Bool} (signs : Sign sign negative)
    {body : List Char} (unsigned : ∀ c ∈ body.head?, c ≠ '+' ∧ c ≠ '-') :
    splitSign (sign ++ body) = (negative, body) := by
  cases signs with
  | bare => exact splitSign_unsigned unsigned
  | plus => rfl
  | minus => rfl

theorem ExponentPart.ends {cs : List Char} {e : ℤ} (power : ExponentPart cs e) : Ends cs := by
  cases power with
  | absent => nofun
  | power marked =>
    rintro c ⟨⟩
    rcases marked with rfl | rfl <;> decide

theorem ExponentPart.read {cs : List Char} {e : ℤ} (power : ExponentPart cs e) :
    readExponent? cs = some e := by
  cases power with
  | absent => rfl
  | power marked signs digits nonempty =>
    rw [readExponent?, if_pos marked, signs.split digits.unsigned, readNat?_digits digits nonempty]
    rfl

theorem DecimalLiteral.read {cs : List Char} {q : ℚ} (literal : DecimalLiteral cs q) :
    ∃ d, readDecimal? cs = some d ∧ d.value = q := by
  cases literal with
  | whole digits nonempty exponent =>
    have read := readDecimal?_whole digits nonempty exponent.ends
    rw [exponent.read, Option.map_some] at read
    exact ⟨_, read, by simp [Decimal.value_ofDigits]⟩
  | point digits nonempty fraction exponent =>
    have read := readDecimal?_point digits fraction (.inl nonempty) exponent.ends
    rw [exponent.read, Option.map_some] at read
    exact ⟨_, read, value_ofDigits_point ..⟩
  | fraction digits nonempty exponent =>
    have none : Digits [] := nofun
    have read := readDecimal?_point none digits (.inr nonempty) exponent.ends
    rw [exponent.read, Option.map_some] at read
    exact ⟨_, read, by simp [value_ofDigits_point]⟩

theorem decimalLiteral_iff {cs : List Char} {q : ℚ} :
    DecimalLiteral cs q ↔ ∃ d, readDecimal? cs = some d ∧ d.value = q := by
  refine ⟨DecimalLiteral.read, ?_⟩
  rintro ⟨d, read, rfl⟩
  exact readDecimal?_sound read

theorem DecimalLiteral.head {cs : List Char} {q : ℚ} (literal : DecimalLiteral cs q) :
    ∃ c rest, cs = c :: rest ∧ (c.isDigit = true ∨ c = '.') := by
  have leading {ds rest : List Char} (digits : Digits ds) (nonempty : ds ≠ []) :
      ∃ c cs, ds ++ rest = c :: cs ∧ (c.isDigit = true ∨ c = '.') := by
    obtain ⟨c, ds, rfl⟩ := List.exists_cons_of_ne_nil nonempty
    exact ⟨c, ds ++ rest, rfl, .inl (digits c (by simp))⟩
  cases literal with
  | whole digits nonempty => exact leading digits nonempty
  | point digits nonempty => exact leading digits nonempty
  | fraction => exact ⟨'.', _, rfl, .inr rfl⟩

theorem DecimalLiteral.unsigned {cs : List Char} {q : ℚ} (literal : DecimalLiteral cs q) :
    ∀ c ∈ cs.head?, c ≠ '+' ∧ c ≠ '-' := by
  obtain ⟨c, rest, rfl, first⟩ := literal.head
  rintro c ⟨⟩
  constructor <;> rintro rfl <;> exact absurd first (by decide)

theorem Digits.unmarked {ds : List Char} (digits : Digits ds) : ∀ c ∈ ds, radix? c = none :=
  fun c h => radix?_of_isPlain (isPlain_of_digits digits c h)

theorem Sign.unmarked {sign : List Char} {negative : Bool} (signs : Sign sign negative) :
    ∀ c ∈ sign, radix? c = none := by
  cases signs <;> simp [radix?]

theorem ExponentPart.unmarked {cs : List Char} {e : ℤ} (power : ExponentPart cs e) :
    ∀ c ∈ cs, radix? c = none := by
  cases power with
  | absent => nofun
  | power marked signs digits =>
    refine List.forall_mem_cons.2 ⟨?_, List.forall_mem_append.2 ⟨signs.unmarked, digits.unmarked⟩⟩
    rcases marked with rfl | rfl <;> rfl

theorem DecimalLiteral.unmarked {cs : List Char} {q : ℚ} (literal : DecimalLiteral cs q) :
    ∀ c ∈ cs, radix? c = none := by
  cases literal with
  | whole digits nonempty exponent =>
    exact List.forall_mem_append.2 ⟨digits.unmarked, exponent.unmarked⟩
  | point digits nonempty fraction exponent =>
    exact List.forall_mem_append.2 ⟨digits.unmarked, List.forall_mem_cons.2
      ⟨rfl, List.forall_mem_append.2 ⟨fraction.unmarked, exponent.unmarked⟩⟩⟩
  | fraction digits nonempty exponent =>
    exact List.forall_mem_cons.2
      ⟨rfl, List.forall_mem_append.2 ⟨digits.unmarked, exponent.unmarked⟩⟩

theorem readTrimmed?_decimal {sign body : List Char} {negative : Bool} {q : ℚ}
    (signs : Sign sign negative) (literal : DecimalLiteral body q) :
    ∃ d, d.value = q ∧ readTrimmed? (sign ++ body) = some (Decimal.nearest negative d) := by
  obtain ⟨d, read, value⟩ := literal.read
  obtain ⟨c, rest, shape, first⟩ := literal.head
  have nonempty : sign ++ body ≠ [] := by simp [shape]
  have number : body ≠ "Infinity".toList := by
    rw [shape]
    rintro same
    rw [(List.cons.inj same).1] at first
    exact absurd first (by decide)
  have unmarked : ∀ c ∈ sign ++ body, radix? c = none :=
    List.forall_mem_append.2 ⟨signs.unmarked, literal.unmarked⟩
  refine ⟨d, value, ?_⟩
  rw [readTrimmed?_of_unmarked nonempty fun mark _ shape => unmarked mark (by simp [shape])]
  unfold readSigned?
  rw [signs.split literal.unsigned]
  exact (if_neg number).trans (congrArg _ read)

theorem readTrimmed?_infinity {sign : List Char} {negative : Bool} (signs : Sign sign negative) :
    readTrimmed? (sign ++ "Infinity".toList) = some (Double.infinity negative) := by
  cases signs <;> rfl

end Completeness

section Radix

-- Beyond the first 128 code points there are no digits, and below them they are counted out.
theorem digit?_isSome_iff {radix : ℕ} {ds : List Char}
    (low : ∀ n < 128, (digit? radix (Char.ofNat n)).isSome = true ↔ Char.ofNat n ∈ ds)
    (ascii : ds.all (·.toNat < 128) = true) (c : Char) :
    (digit? radix c).isSome = true ↔ c ∈ ds := by
  by_cases small : c.toNat < 128
  · have counted := low c.toNat small
    rwa [Char.ofNat_toNat] at counted
  · have few : c ∉ ds := fun member =>
      small (of_decide_eq_true (List.all_eq_true.1 ascii c member))
    refine iff_of_false (fun digit => ?_) few
    obtain ⟨d, value⟩ := Option.isSome_iff_exists.1 digit
    have range := toNat_of_digit? value
    omega

theorem hexadecimal_iff (c : Char) :
    (digit? 16 c).isSome = true ↔ c ∈ "0123456789abcdefABCDEF".toList :=
  digit?_isSome_iff (by decide +kernel) (by decide) c

theorem octal_iff (c : Char) : (digit? 8 c).isSome = true ↔ c ∈ "01234567".toList :=
  digit?_isSome_iff (by decide +kernel) (by decide) c

theorem binary_iff (c : Char) : (digit? 2 c).isSome = true ↔ c ∈ "01".toList :=
  digit?_isSome_iff (by decide +kernel) (by decide) c

theorem radixLiteral_iff {t : List Char} :
    RadixLiteral t ↔ ∃ mark radix ds, t = '0' :: mark :: ds ∧ radix? mark = some radix ∧ ds ≠ [] ∧
      ∀ d ∈ ds, (digit? radix d).isSome = true := by
  constructor
  · rintro (⟨marked, nonempty, digits⟩ | ⟨marked, nonempty, digits⟩ | ⟨marked, nonempty, digits⟩)
    · exact ⟨_, 16, _, rfl, by rcases marked with rfl | rfl <;> rfl, nonempty,
        fun d h => (hexadecimal_iff d).2 (digits d h)⟩
    · exact ⟨_, 8, _, rfl, by rcases marked with rfl | rfl <;> rfl, nonempty,
        fun d h => (octal_iff d).2 (digits d h)⟩
    · exact ⟨_, 2, _, rfl, by rcases marked with rfl | rfl <;> rfl, nonempty,
        fun d h => (binary_iff d).2 (digits d h)⟩
  · rintro ⟨mark, radix, ds, rfl, marked, nonempty, digits⟩
    unfold radix? at marked
    split at marked <;> cases marked
    · exact .hexadecimal (.inl rfl) nonempty fun d h => (hexadecimal_iff d).1 (digits d h)
    · exact .hexadecimal (.inr rfl) nonempty fun d h => (hexadecimal_iff d).1 (digits d h)
    · exact .octal (.inl rfl) nonempty fun d h => (octal_iff d).1 (digits d h)
    · exact .octal (.inr rfl) nonempty fun d h => (octal_iff d).1 (digits d h)
    · exact .binary (.inl rfl) nonempty fun d h => (binary_iff d).1 (digits d h)
    · exact .binary (.inr rfl) nonempty fun d h => (binary_iff d).1 (digits d h)

theorem digits_of_foldlM {radix : ℕ} {cs : List Char} {x y : Double}
    (h : cs.foldlM (fun x c => (digit? radix c).map (appendDigit radix x)) x = some y) :
    ∀ c ∈ cs, (digit? radix c).isSome = true := by
  induction cs generalizing x with
  | nil => nofun
  | cons c cs ih =>
    rw [List.foldlM_cons] at h
    obtain ⟨z, first, rest⟩ := Option.bind_eq_some_iff.1 h
    obtain ⟨d, digit, -⟩ := Option.map_eq_some_iff.1 first
    exact List.forall_mem_cons.2 ⟨Option.isSome_iff_exists.2 ⟨d, digit⟩, ih rest⟩

theorem readRadix?_sound {radix : ℕ} {body : List Char} {x : Double}
    (h : readRadix? radix body = some x) :
    body ≠ [] ∧ ∀ c ∈ body, (digit? radix c).isSome = true := by
  unfold readRadix? at h
  split at h
  case isTrue => cases h
  case isFalse nonempty => exact ⟨by simpa using nonempty, digits_of_foldlM h⟩

theorem RadixLiteral.read {t : List Char} (literal : RadixLiteral t) :
    ∃ n : ℕ, readTrimmed? t = some (Double.nearest false n 1) := by
  obtain ⟨mark, radix, ds, rfl, marked, nonempty, digits⟩ := radixLiteral_iff.1 literal
  exact ⟨held radix ds, readTrimmed?_radix marked nonempty digits⟩

end Radix

theorem readSigned?_sound {cs : List Char} {x : Double} (h : readSigned? cs = some x) :
    Literal cs := by
  obtain ⟨sign, text, signs⟩ := splitSign_sound cs
  unfold readSigned? at h
  generalize splitSign cs = parts at h text signs
  obtain ⟨negative, body⟩ := parts
  obtain rfl : cs = sign ++ body := text
  simp only at h
  split at h
  case isTrue infinite =>
    rw [infinite]
    exact .infinity signs
  case isFalse =>
    obtain ⟨d, read, -⟩ := Option.map_eq_some_iff.1 h
    exact .decimal signs (readDecimal?_sound read)

theorem readTrimmed?_sound {t : List Char} {x : Double} (h : readTrimmed? t = some x) :
    Literal t := by
  unfold readTrimmed? at h
  split at h
  case h_1 => exact .empty
  case h_2 c body =>
    split at h
    case h_1 radix marked =>
      obtain ⟨nonempty, digits⟩ := readRadix?_sound h
      exact .radix (radixLiteral_iff.2 ⟨c, radix, body, rfl, marked, nonempty, digits⟩)
    case h_2 => exact readSigned?_sound h
  case h_3 => exact readSigned?_sound h

theorem Literal.read {t : List Char} (literal : Literal t) :
    ∃ x, readTrimmed? t = some x ∧ x.isNaN = false := by
  cases literal with
  | empty => exact ⟨Double.zero, rfl, by decide⟩
  | radix marked =>
    obtain ⟨n, read⟩ := marked.read
    exact ⟨_, read, Double.isNaN_nearest ..⟩
  | @infinity sign negative signs =>
    exact ⟨_, readTrimmed?_infinity signs, by cases negative <;> decide⟩
  | decimal signs number =>
    obtain ⟨d, -, read⟩ := readTrimmed?_decimal signs number
    exact ⟨_, read, (Decimal.nearest_isNearest ..).number⟩

theorem isNaN_read_iff (cs : List Char) : (read cs).isNaN = false ↔ Literal (trimBlank cs) := by
  unfold read
  constructor
  · intro number
    cases value : readTrimmed? (trimBlank cs) with
    | none =>
      rw [value] at number
      exact absurd number (by decide)
    | some x => exact readTrimmed?_sound value
  · intro literal
    obtain ⟨x, value, number⟩ := literal.read
    rwa [value]

end Numeral

end ScriptValue
