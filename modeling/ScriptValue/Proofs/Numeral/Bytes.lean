import ScriptValue.Proofs.Numeral.Grammar

set_option autoImplicit false

namespace ScriptValue

namespace Numeral

def bytes (cs : List Char) : List UInt8 := cs.flatMap String.utf8EncodeChar

def textFrom? : ℕ → List Char → Option (List Char)
  | 0, cs => some cs
  | _ + 1, [] => none
  | n + 1, c :: cs => if c.utf8Size ≤ n + 1 then textFrom? (n + 1 - c.utf8Size) cs else none

def bytesFrom? (n : ℕ) (bs : List UInt8) : Option (List UInt8) :=
  if n ≤ bs.length then some (bs.drop n) else none

def isDigitByte (b : UInt8) : Bool := '0'.toUInt8 ≤ b && b ≤ '9'.toUInt8

def countDigits (bs : List UInt8) : ℕ := (bs.takeWhile isDigitByte).length

def radixByte? (b : UInt8) : Option ℕ :=
  if b = 'x'.toUInt8 ∨ b = 'X'.toUInt8 then some 16
  else if b = 'o'.toUInt8 ∨ b = 'O'.toUInt8 then some 8
  else if b = 'b'.toUInt8 ∨ b = 'B'.toUInt8 then some 2
  else none

def scanFraction? (bs : List UInt8) (i : ℕ) : Option (ℕ × ℕ) :=
  if bs[i]? = some '.'.toUInt8 then do
    let digits := countDigits (← bytesFrom? (i + 1) bs)
    return (digits, i + 1 + digits)
  else return (0, i)

def skipSign (bs : List UInt8) (i : ℕ) : ℕ :=
  if bs[i]? = some '+'.toUInt8 ∨ bs[i]? = some '-'.toUInt8 then i + 1 else i

def scanEnd? (bs : List UInt8) (i : ℕ) : Option Bool :=
  if bs[i]? = some 'e'.toUInt8 ∨ bs[i]? = some 'E'.toUInt8 then do
    let j := skipSign bs (i + 1)
    let digits := countDigits (← bytesFrom? j bs)
    if digits = 0 then return false
    return j + digits = bs.length
  else return i = bs.length

def scanDecimal? (bs : List UInt8) : Option Bool := do
  let whole := countDigits (← bytesFrom? 0 bs)
  let (fraction, i) ← scanFraction? bs whole
  if whole = 0 ∧ fraction = 0 then return false
  scanEnd? bs i

-- The outer option is the failure, the inner one tells whether the text is of this kind.
def parseRadix? (cs : List Char) : Option (Option Double) := do
  let bs := bytes cs
  if bs.length < 2 then return none
  if (← bs[0]?) ≠ '0'.toUInt8 then return none
  match radixByte? (← bs[1]?) with
  | some radix => return some ((readRadix? radix (← textFrom? 2 cs)).getD Double.nan)
  | none => return none

section Host

variable (parse : List Char → Option Double)

def parseUnsigned? (negative : Bool) (cs : List Char) : Option (Option Double) := do
  if cs = "Infinity".toList then return some (Double.infinity negative)
  if !(← scanDecimal? (bytes cs)) then return none
  return (parse cs).map fun x => if negative then x.negate else x

def parseDecimal? (cs : List Char) : Option (Option Double) := do
  let first ← (bytes cs)[0]?
  if first = '+'.toUInt8 then parseUnsigned? parse false (← textFrom? 1 cs)
  else if first = '-'.toUInt8 then parseUnsigned? parse true (← textFrom? 1 cs)
  else parseUnsigned? parse false cs

def parseText? (s : String) : Option Double := do
  let t := trimBlank s.toList
  if t = [] then return Double.zero
  match ← parseRadix? t with
  | some x => return x
  | none => return (← parseDecimal? parse t).getD Double.nan

/-- A reader of every unsigned decimal that gives the nearest double. -/
def RoundsCorrectly : Prop := ∀ {cs : List Char} {q : ℚ}, DecimalLiteral cs q →
  ∃ x, parse cs = some x ∧ x.negative = false ∧ x.IsNearest q

end Host

section Encoding

theorem utf8Size_ascii {c : Char} (ascii : c.toNat < 128) : c.utf8Size = 1 := by
  rw [Char.utf8Size_eq_one_iff, UInt32.le_iff_toNat_le]
  exact Nat.le_of_lt_succ ascii

theorem toNat_toUInt8 {c : Char} (ascii : c.toNat < 128) : c.toUInt8.toNat = c.toNat := by
  change c.val.toUInt8.toNat = c.toNat
  rw [UInt32.toNat_toUInt8]
  exact Nat.mod_eq_of_lt (by change c.toNat < 256; omega)

theorem toUInt8_inj {a c : Char} (ha : a.toNat < 128) (hc : c.toNat < 128) :
    c.toUInt8 = a.toUInt8 ↔ c = a := by
  rw [← UInt8.toNat_inj, toNat_toUInt8 ha, toNat_toUInt8 hc, Char.toNat_inj]

theorem isDigitByte_toUInt8 {c : Char} (ascii : c.toNat < 128) :
    isDigitByte c.toUInt8 = c.isDigit := by
  have value := toNat_toUInt8 ascii
  rw [Bool.eq_iff_iff]
  simp only [isDigitByte, Char.isDigit, Bool.and_eq_true, decide_eq_true_eq, UInt8.le_iff_toNat_le,
    ge_iff_le, UInt32.le_iff_toNat_le, value]
  rfl

theorem bytes_ascii {c : Char} (ascii : c.toNat < 128) (cs : List Char) :
    bytes (c :: cs) = c.toUInt8 :: bytes cs := by
  rw [bytes, List.flatMap_cons, String.utf8EncodeChar_eq_singleton (utf8Size_ascii ascii)]
  rfl

theorem bytes_wide {c : Char} (wide : 128 ≤ c.toNat) (cs : List Char) :
    ∃ b bs, bytes (c :: cs) = b :: bs ∧ 128 ≤ b.toNat := by
  rw [bytes, List.flatMap_cons, String.utf8EncodeChar]
  have value : c.val.toNat = c.toNat := rfl
  simp only [value]
  split
  case isTrue => omega
  split
  case isTrue => exact ⟨_, _, rfl, by simp; omega⟩
  split
  case isTrue => exact ⟨_, _, rfl, by simp; omega⟩
  case isFalse => exact ⟨_, _, rfl, by simp; omega⟩

theorem head?_bytes {a : Char} (ascii : a.toNat < 128) (cs : List Char) :
    (bytes cs).head? = some a.toUInt8 ↔ cs.head? = some a := by
  cases cs with
  | nil => simp [bytes]
  | cons c cs =>
    by_cases small : c.toNat < 128
    · rw [bytes_ascii small]
      simp [toUInt8_inj ascii small]
    · obtain ⟨b, bs, first, wide⟩ := bytes_wide (Nat.le_of_not_lt small) cs
      rw [first]
      have apart : b ≠ a.toUInt8 := by
        rintro rfl
        rw [toNat_toUInt8 ascii] at wide
        omega
      have other : c ≠ a := by
        rintro rfl
        exact small ascii
      simp [apart, other]

-- Digits are one byte each, and the byte behind them belongs to no digit.
theorem takeWhile_bytes (cs : List Char) :
    countDigits (bytes cs) = (digitRun cs).1.length ∧
      (bytes cs).drop (countDigits (bytes cs)) = bytes (digitRun cs).2 := by
  unfold countDigits digitRun
  induction cs with
  | nil => exact ⟨rfl, rfl⟩
  | cons c cs ih =>
    by_cases small : c.toNat < 128
    · rw [bytes_ascii small]
      cases digit : c.isDigit with
      | true => simpa [isDigitByte_toUInt8 small, digit] using ih
      | false => simp [isDigitByte_toUInt8 small, digit, bytes_ascii small]
    · obtain ⟨b, bs, first, wide⟩ := bytes_wide (Nat.le_of_not_lt small) cs
      have byte : isDigitByte b = false := by
        simp only [isDigitByte, Bool.and_eq_false_iff, decide_eq_false_iff_not,
          UInt8.le_iff_toNat_le]
        exact .inr (by change ¬b.toNat ≤ 57; omega)
      have digit : c.isDigit = false := by
        simp only [Char.isDigit, Bool.and_eq_false_iff, decide_eq_false_iff_not,
          UInt32.le_iff_toNat_le]
        exact .inr (by change ¬c.toNat ≤ 57; omega)
      rw [first]
      simp [byte, digit, first]

end Encoding

structure At (bs : List UInt8) (i : ℕ) (rest : List Char) : Prop where
  bound : i ≤ bs.length
  drop : bs.drop i = bytes rest

namespace At

variable {bs : List UInt8} {i : ℕ} {rest : List Char}

theorem start (cs : List Char) : At (bytes cs) 0 cs := ⟨Nat.zero_le _, rfl⟩

theorem bytesFrom? (here : At bs i rest) : bytesFrom? i bs = some (bytes rest) := by
  rw [Numeral.bytesFrom?, if_pos here.bound, here.drop]

theorem byte_iff (here : At bs i rest) {a : Char} (ascii : a.toNat < 128) :
    bs[i]? = some a.toUInt8 ↔ rest.head? = some a := by
  rw [← head?_bytes ascii, ← here.drop, List.head?_drop]

theorem next {a : Char} (ascii : a.toNat < 128) (here : At bs i (a :: rest)) :
    At bs (i + 1) rest := by
  have drop := here.drop
  rw [bytes_ascii ascii] at drop
  have inside : i < bs.length := by
    by_contra past
    rw [List.drop_eq_nil_of_le (Nat.le_of_not_lt past)] at drop
    cases drop
  refine ⟨inside, ?_⟩
  rw [← List.drop_drop, drop]
  rfl

theorem digits (here : At bs i rest) :
    At bs (i + countDigits (bytes rest)) (digitRun rest).2 := by
  refine ⟨?_, ?_⟩
  · have size := congrArg List.length here.drop
    have run := (List.takeWhile_sublist (p := isDigitByte) (l := bytes rest)).length_le
    have bound := here.bound
    rw [List.length_drop] at size
    unfold countDigits
    omega
  · rw [← List.drop_drop, here.drop, (takeWhile_bytes rest).2]

theorem end_iff (here : At bs i rest) : i = bs.length ↔ rest = [] := by
  have bound := here.bound
  have drop := here.drop
  constructor
  · rintro rfl
    rw [List.drop_length] at drop
    cases rest with
    | nil => rfl
    | cons c rest => simp [bytes] at drop
  · rintro rfl
    have size := congrArg List.length drop
    rw [List.length_drop] at size
    have none : (bytes []).length = 0 := rfl
    omega

end At

section Scan

variable {bs : List UInt8} {i : ℕ} {rest : List Char}

theorem scanFraction?_point (here : At bs i ('.' :: rest)) :
    ∃ j, scanFraction? bs i = some ((digitRun rest).1.length, j) ∧ At bs j (digitRun rest).2 := by
  have point : bs[i]? = some '.'.toUInt8 := (here.byte_iff (by decide)).2 rfl
  have behind := here.next (by decide)
  refine ⟨_, ?_, behind.digits⟩
  rw [scanFraction?, if_pos point, behind.bytesFrom?]
  simp [(takeWhile_bytes rest).1]

theorem scanFraction?_other (here : At bs i rest) (other : ∀ more, rest ≠ '.' :: more) :
    scanFraction? bs i = some (0, i) := by
  refine if_neg fun point => ?_
  rw [here.byte_iff (by decide)] at point
  obtain ⟨more, shape⟩ := List.head?_eq_some_iff.1 point
  exact other more shape

theorem At.skipSign (here : At bs i rest) :
    At bs (skipSign bs i) (splitSign rest).2 := by
  have plus : bs[i]? = some '+'.toUInt8 ↔ rest.head? = some '+' := here.byte_iff (by decide)
  have minus : bs[i]? = some '-'.toUInt8 ↔ rest.head? = some '-' := here.byte_iff (by decide)
  simp only [Numeral.skipSign, plus, minus]
  by_cases signed : rest.head? = some '+' ∨ rest.head? = some '-'
  · rw [if_pos signed]
    rcases signed with first | first <;>
      obtain ⟨more, rfl⟩ := List.head?_eq_some_iff.1 first <;>
      exact here.next (by decide)
  · have unsigned : ∀ c ∈ rest.head?, c ≠ '+' ∧ c ≠ '-' := fun c first =>
      ⟨fun same => signed (.inl (same ▸ first)), fun same => signed (.inr (same ▸ first))⟩
    rwa [if_neg signed, splitSign_unsigned unsigned]

theorem readNat?_isSome_iff (cs : List Char) :
    (readNat? cs).isSome = true ↔ (digitRun cs).1 ≠ [] ∧ (digitRun cs).2 = [] := by
  obtain ⟨text, digits⟩ := digitRun_sound cs
  constructor
  · intro read
    obtain ⟨n, value⟩ := Option.isSome_iff_exists.1 read
    obtain ⟨all, nonempty, -⟩ := readNat?_sound value
    have behind : (digitRun cs).2 = [] := List.dropWhile_eq_nil_iff.2 all
    rw [behind, List.append_nil] at text
    exact ⟨text ▸ nonempty, behind⟩
  · rintro ⟨nonempty, behind⟩
    rw [behind, List.append_nil] at text
    rw [← text] at digits nonempty
    rw [readNat?_digits digits nonempty]
    rfl

theorem scanEnd?_eq (here : At bs i rest) :
    scanEnd? bs i = some (readExponent? rest).isSome := by
  have lower : bs[i]? = some 'e'.toUInt8 ↔ rest.head? = some 'e' := here.byte_iff (by decide)
  have upper : bs[i]? = some 'E'.toUInt8 ↔ rest.head? = some 'E' := here.byte_iff (by decide)
  simp only [scanEnd?, lower, upper]
  cases rest with
  | nil => simp [here.end_iff, readExponent?]
  | cons c rest =>
    by_cases marked : c = 'e' ∨ c = 'E'
    · have behind : At bs (i + 1) rest := by
        rcases marked with rfl | rfl <;> exact here.next (by decide)
      have body := behind.skipSign
      have done := body.digits.end_iff
      have number := readNat?_isSome_iff (splitSign rest).2
      rw [(takeWhile_bytes _).1] at done
      rw [if_pos (by simpa using marked), readExponent?, if_pos marked, Option.isSome_map,
        body.bytesFrom?]
      simp only [Option.bind_eq_bind, Option.bind_some, (takeWhile_bytes _).1, done]
      by_cases empty : (digitRun (splitSign rest).2).1 = []
      · have failed : (readNat? (splitSign rest).2).isSome = false := by
          rw [Bool.eq_false_iff, ne_eq, number]
          simp [empty]
        rw [failed, if_pos (by simp [empty])]
        rfl
      · rw [if_neg (by simpa using empty)]
        refine congrArg some ?_
        rw [Bool.eq_iff_iff, number, decide_eq_true_iff]
        simp [empty]
    · rw [if_neg (by simpa using marked), readExponent?, if_neg marked]
      simp [here.end_iff]

theorem scanDecimal?_bytes (cs : List Char) :
    scanDecimal? (bytes cs) = some (readDecimal? cs).isSome := by
  have here := At.start cs
  have whole := here.digits
  rw [Nat.zero_add, (takeWhile_bytes cs).1] at whole
  unfold scanDecimal? readDecimal?
  rw [here.bytesFrom?, Option.bind_eq_bind, Option.bind_some]
  simp only [(takeWhile_bytes cs).1]
  generalize digitRun cs = run at whole
  obtain ⟨ds, rest⟩ := run
  simp only at whole ⊢
  split
  case h_1 more =>
    obtain ⟨j, scanned, behind⟩ := scanFraction?_point whole
    rw [scanned, Option.bind_eq_bind, Option.bind_some, scanEnd?_eq behind]
    by_cases empty : ds = [] ∧ (digitRun more).1 = []
    · simp [empty]
    · simp [empty]
  case h_2 other =>
    rw [scanFraction?_other whole other, Option.bind_eq_bind, Option.bind_some, scanEnd?_eq whole]
    by_cases empty : ds = []
    · simp [empty]
    · simp [empty]

end Scan

section Parse

theorem bytes_cons (c : Char) (cs : List Char) :
    ∃ b bs, bytes (c :: cs) = b :: bs ∧ ∀ a : Char, a.toNat < 128 → (b = a.toUInt8 ↔ c = a) := by
  cases shape : bytes (c :: cs) with
  | nil => simp [bytes] at shape
  | cons b bs =>
    refine ⟨b, bs, rfl, fun a ascii => ?_⟩
    have same := head?_bytes ascii (c :: cs)
    rw [shape] at same
    simpa using same

theorem radixByte?_eq {b : UInt8} {c : Char}
    (same : ∀ a : Char, a.toNat < 128 → (b = a.toUInt8 ↔ c = a)) : radixByte? b = radix? c := by
  have hexadecimal := or_congr (same 'x' (by decide)) (same 'X' (by decide))
  have octal := or_congr (same 'o' (by decide)) (same 'O' (by decide))
  have binary := or_congr (same 'b' (by decide)) (same 'B' (by decide))
  simp only [radixByte?, hexadecimal, octal, binary]
  split
  case isTrue marked => rcases marked with rfl | rfl <;> rfl
  split
  case isTrue marked => rcases marked with rfl | rfl <;> rfl
  split
  case isTrue marked => rcases marked with rfl | rfl <;> rfl
  case isFalse =>
    unfold radix?
    split <;> simp_all

theorem radix?_ascii {c : Char} {radix : ℕ} (marked : radix? c = some radix) : c.toNat < 128 := by
  unfold radix? at marked
  split at marked <;> first | decide | cases marked

theorem textFrom?_ascii {c : Char} (ascii : c.toNat < 128) (n : ℕ) (cs : List Char) :
    textFrom? (n + 1) (c :: cs) = textFrom? n cs := by
  rw [textFrom?, utf8Size_ascii ascii, if_pos (by omega), Nat.add_sub_cancel]

theorem parseRadix?_marked {mark : Char} {radix : ℕ} (marked : radix? mark = some radix)
    (body : List Char) : parseRadix? ('0' :: mark :: body) =
      some (some ((readRadix? radix body).getD Double.nan)) := by
  obtain ⟨b, bs, second, same⟩ := bytes_cons mark body
  have ascii := radix?_ascii marked
  have byte : radixByte? b = some radix := (radixByte?_eq same).trans marked
  have cut : textFrom? 2 ('0' :: mark :: body) = some body := by
    rw [textFrom?_ascii (by decide), textFrom?_ascii ascii, textFrom?]
  simp [parseRadix?, bytes_ascii (show '0'.toNat < 128 by decide), second, byte, cut]

theorem parseRadix?_unmarked {cs : List Char}
    (unmarked : ∀ mark body, cs = '0' :: mark :: body → radix? mark = none) :
    parseRadix? cs = some none := by
  cases cs with
  | nil => rfl
  | cons c cs =>
    obtain ⟨b, bs, first, same⟩ := bytes_cons c cs
    by_cases zero : c = '0'
    · subst zero
      cases cs with
      | nil => rfl
      | cons mark body =>
        obtain ⟨b, bs, second, same⟩ := bytes_cons mark body
        have byte : radixByte? b = none := (radixByte?_eq same).trans (unmarked mark body rfl)
        simp [parseRadix?, bytes_ascii (show '0'.toNat < 128 by decide), second, byte]
    · have other : b ≠ '0'.toUInt8 := fun h => zero ((same '0' (by decide)).1 h)
      simp [parseRadix?, first, other]

variable {parse : List Char → Option Double}

theorem RoundsCorrectly.eq_nearest (correct : RoundsCorrectly parse) {cs : List Char} {d : Decimal}
    (read : readDecimal? cs = some d) : parse cs = some (Decimal.nearest false d) := by
  obtain ⟨x, value, sign, nearest⟩ := correct (readDecimal?_sound read)
  have same : x = Decimal.nearest false d := by
    apply Double.ext_magnitude
    · rw [sign, Decimal.negative_nearest]
    · exact nearest.magnitude_eq (Decimal.nearest_isNearest false d)
  rw [value, same]

theorem negate_nearest (d : Decimal) :
    (Decimal.nearest false d).negate = Decimal.nearest true d := by
  rw [Double.negate, Decimal.negative_nearest, Decimal.nearest_eq, Double.magnitude_nearest,
    Decimal.nearest_eq, Double.nearest]
  rfl

theorem parseUnsigned?_eq (correct : RoundsCorrectly parse) (negative : Bool) (cs : List Char) :
    parseUnsigned? parse negative cs =
      some (if cs = "Infinity".toList then some (Double.infinity negative)
        else (readDecimal? cs).map (Decimal.nearest negative)) := by
  unfold parseUnsigned?
  rw [scanDecimal?_bytes]
  split
  case isTrue => rfl
  case isFalse =>
    cases read : readDecimal? cs with
    | none => rfl
    | some d =>
      simp [correct.eq_nearest read]
      cases negative with
      | false => rfl
      | true => exact negate_nearest d

theorem parseDecimal?_eq (correct : RoundsCorrectly parse) {cs : List Char} (nonempty : cs ≠ []) :
    parseDecimal? parse cs = some (readSigned? cs) := by
  obtain ⟨c, cs, rfl⟩ := List.exists_cons_of_ne_nil nonempty
  obtain ⟨b, bs, first, same⟩ := bytes_cons c cs
  have plus : b = '+'.toUInt8 ↔ c = '+' := same '+' (by decide)
  have minus : b = '-'.toUInt8 ↔ c = '-' := same '-' (by decide)
  simp only [parseDecimal?, first, plus, minus, List.getElem?_cons_zero, Option.bind_eq_bind,
    Option.bind_some]
  split
  case isTrue h =>
    subst h
    rw [textFrom?_ascii (by decide), textFrom?]
    exact parseUnsigned?_eq correct false cs
  split
  case isTrue h =>
    subst h
    rw [textFrom?_ascii (by decide), textFrom?]
    exact parseUnsigned?_eq correct true cs
  case isFalse noPlus noMinus =>
    unfold readSigned?
    rw [splitSign_unsigned (by simpa using ⟨noPlus, noMinus⟩)]
    exact parseUnsigned?_eq correct false (c :: cs)

theorem parseText?_eq (correct : RoundsCorrectly parse) (s : String) :
    parseText? parse s = some (Double.ofText s) := by
  unfold parseText? Double.ofText read
  generalize trimBlank s.toList = t
  dsimp only
  split
  case isTrue empty => rw [empty]; rfl
  case isFalse nonempty =>
    by_cases marked : ∃ mark radix body, t = '0' :: mark :: body ∧ radix? mark = some radix
    · obtain ⟨mark, radix, body, rfl, marked⟩ := marked
      rw [parseRadix?_marked marked, readTrimmed?, marked]
      rfl
    · have unmarked : ∀ mark body, t = '0' :: mark :: body → radix? mark = none :=
        fun mark body shape => Option.eq_none_iff_forall_ne_some.2 fun radix h =>
          marked ⟨mark, radix, body, shape, h⟩
      rw [parseRadix?_unmarked unmarked, readTrimmed?_of_unmarked nonempty unmarked]
      simp [parseDecimal?_eq correct nonempty]

end Parse

/-- A text is a number exactly if the grammar has it, apart from the blanks around it: nothing is
zero, and a decimal is the nearest double with its sign. The reader over bytes never fails and
agrees. -/
theorem text_to_number {parse : List Char → Option Double} (correct : RoundsCorrectly parse)
    (s : String) :
    ∃ t, (∀ u, Trimmed s.toList u ↔ u = t) ∧
      parseText? parse s = some (Double.ofText s) ∧
      ((Double.ofText s).isNaN = false ↔ Literal t) ∧
      (t = [] → Double.ofText s = Double.zero) ∧
      (∀ sign negative, Sign sign negative → t = sign ++ "Infinity".toList →
        Double.ofText s = Double.infinity negative) ∧
      ∀ sign body negative q, Sign sign negative → DecimalLiteral body q → t = sign ++ body →
        (Double.ofText s).negative = negative ∧ (Double.ofText s).IsNearest q := by
  refine ⟨trimBlank s.toList, fun u => trimmed_iff, parseText?_eq correct s,
    isNaN_read_iff s.toList, fun empty => ?_, fun sign negative signs shape => ?_,
    fun sign body negative q signs literal shape => ?_⟩
  · rw [Double.ofText, read, empty]
    rfl
  · rw [Double.ofText, read, shape, readTrimmed?_infinity signs]
    rfl
  · obtain ⟨d, rfl, value⟩ := readTrimmed?_decimal signs literal
    rw [Double.ofText, read, shape, value]
    exact ⟨Decimal.negative_nearest negative d, Decimal.nearest_isNearest negative d⟩

def wideReader (cs : List Char) : Option Double :=
  if cs = ['i', 'n', 'f'] then some (Double.infinity false)
  else if cs = ['n', 'a', 'n'] then some Double.nan
  else (readDecimal? cs).map (Decimal.nearest false)

theorem wideReader_correct : RoundsCorrectly wideReader := by
  intro cs q literal
  obtain ⟨c, rest, rfl, first⟩ := literal.head
  obtain ⟨d, value, rfl⟩ := literal.read
  have other {a : Char} {word : List Char} (letter : ¬(a.isDigit = true ∨ a = '.')) :
      c :: rest ≠ a :: word := by
    intro same
    exact letter ((List.cons.inj same).1 ▸ first)
  refine ⟨Decimal.nearest false d, ?_, Decimal.negative_nearest false d,
    Decimal.nearest_isNearest false d⟩
  rw [wideReader, if_neg (other (by decide)), if_neg (other (by decide)), value]
  rfl

theorem text_to_number_spaced :
    RoundsCorrectly wideReader ∧ parseText? wideReader " -12.5e-1" = some ⟨0xbff4000000000000⟩ ∧
      (Double.ofText " -12.5e-1").negative = true ∧
      (Double.ofText " -12.5e-1").IsNearest ((12 + 5 / 10 ^ 1) * 10 ^ (-1 : ℤ)) := by
  obtain ⟨t, trimmed, parsed, -, -, -, decimal⟩ := text_to_number wideReader_correct " -12.5e-1"
  have bits : Double.ofText " -12.5e-1" = ⟨0xbff4000000000000⟩ := by decide +kernel
  have text : Trimmed " -12.5e-1".toList "-12.5e-1".toList := by
    rw [trimmed_iff]
    decide
  have one : Digits ['1'] := by simp [Digits]
  have power : ExponentPart ['e', '-', '1'] (-1) := .power (.inl rfl) .minus one (by decide)
  have whole : Digits ['1', '2'] := by simp [Digits]
  have fraction : Digits ['5'] := by simp [Digits]
  have literal : DecimalLiteral "12.5e-1".toList ((12 + 5 / 10 ^ 1) * 10 ^ (-1 : ℤ)) :=
    .point whole (by decide) fraction power
  obtain ⟨sign, nearest⟩ := decimal ['-'] _ true _ .minus literal ((trimmed _).1 text).symm
  exact ⟨wideReader_correct, bits ▸ parsed, sign, nearest⟩

end Numeral

end ScriptValue
