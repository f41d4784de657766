import ScriptValue.PlainData.Json
import ScriptValue.Proofs.Numeral.Formatting

set_option autoImplicit false

namespace ScriptValue

namespace Json

open Numeral

section Strings

def hexValue? (ds : List Char) : Option ℕ :=
  ds.foldlM (fun n c => (digit? 16 c).map (n * 16 + ·)) 0

def shortEscapes : List (Char × Char) :=
  "\"\\/\x08\x0c\n\r\t".toList.zip "\"\\/bfnrt".toList

inductive Escape : Char → List Char → Prop
  | stands {c : Char} (printable : 0x20 ≤ c.toNat) (quote : c ≠ '"') (backslash : c ≠ '\\') :
      Escape c [c]
  | short {c d : Char} (pair : (c, d) ∈ shortEscapes) : Escape c ['\\', d]
  | unicode {c d₁ d₂ d₃ d₄ : Char} (value : hexValue? [d₁, d₂, d₃, d₄] = some c.toNat) :
      Escape c ['\\', 'u', d₁, d₂, d₃, d₄]

def Quoted (cs text : List Char) : Prop :=
  ∃ bodies, List.Forall₂ Escape cs bodies ∧ text = '"' :: (bodies.flatten ++ ['"'])

def unescaped : List Char → Option (Char × List Char)
  | 'u' :: d₁ :: d₂ :: d₃ :: d₄ :: cs =>
      (hexValue? [d₁, d₂, d₃, d₄]).map fun n => (Char.ofNat n, cs)
  | d :: cs => (shortEscapes.find? (·.2 == d)).map fun pair => (pair.1, cs)
  | [] => none

def unescape : List Char → Option (Char × List Char)
  | '"' :: _ => none
  | '\\' :: cs => unescaped cs
  | c :: cs => some (c, cs)
  | [] => none

theorem Escape.unescape {c : Char} {es : List Char} (escape : Escape c es) (rest : List Char) :
    Json.unescape (es ++ rest) = some (c, rest) := by
  cases escape with
  | stands _ quote backslash => rw [List.singleton_append, unescape.eq_3 _ _ quote backslash]
  | short pair =>
    simp [shortEscapes] at pair
    rcases pair with h | h | h | h | h | h | h | h <;> obtain ⟨rfl, rfl⟩ := h <;> rfl
  | unicode value => simp [Json.unescape, unescaped, value, Char.ofNat_toNat]

theorem Quoted.append_inj {cs ds text text' rest rest' : List Char} (first : Quoted cs text)
    (other : Quoted ds text') (same : text ++ rest = text' ++ rest') : cs = ds ∧ rest = rest' := by
  obtain ⟨bodies, escapes, rfl⟩ := first
  obtain ⟨bodies', escapes', rfl⟩ := other
  have stop (rest : List Char) : unescape ('"' :: rest) = none := rfl
  simp only [List.cons_append, List.append_assoc, List.nil_append, List.cons.injEq,
    true_and] at same
  induction escapes generalizing ds bodies' with
  | nil =>
    cases escapes' with
    | nil => simpa using same
    | cons escape' escapes' =>
      have decoded := congrArg unescape same
      simp [stop, escape'.unescape] at decoded
  | cons escape escapes ih =>
    have decoded := congrArg unescape same
    cases escapes' with
    | nil => simp [stop, escape.unescape] at decoded
    | cons escape' escapes' =>
      simp only [List.flatten_cons, List.append_assoc, escape.unescape, escape'.unescape,
        Option.some.injEq, Prod.mk.injEq] at decoded
      obtain ⟨strings, rests⟩ := ih _ escapes' decoded.2
      exact ⟨by rw [decoded.1, strings], rests⟩

end Strings

section Numbers

def isNumberChar (c : Char) : Bool := c.isDigit || ['.', 'e', 'E', '+', '-'].contains c

/-- The text of a double: a minus where it is negative, and a decimal that rounds to it, which has
a point or a power of ten. -/
structure FloatNumeral (text : List Char) (x : Double) : Prop where
  decimal : ∃ body q, text = Layout.sign x.negative ++ body ∧ DecimalLiteral body q ∧
    x.IsNearest q ∧ ∀ c ∈ body.head?, c.isDigit = true
  marked : '.' ∈ text ∨ 'e' ∈ text ∨ 'E' ∈ text

def Closed (rest : List Char) : Prop := ∀ c ∈ rest.head?, isNumberChar c = false

theorem closed_nil : Closed [] := nofun

theorem closed_cons {c : Char} (rest : List Char) (h : isNumberChar c = false) :
    Closed (c :: rest) := by
  rintro d ⟨⟩
  exact h

theorem Closed.append_inj {a b rest rest' : List Char} (closed : Closed rest)
    (closed' : Closed rest') (ha : ∀ c ∈ a, isNumberChar c = true)
    (hb : ∀ c ∈ b, isNumberChar c = true) (same : a ++ rest = b ++ rest') :
    a = b ∧ rest = rest' := by
  have run {a rest : List Char} (closed : Closed rest) (ha : ∀ c ∈ a, isNumberChar c = true) :
      (a ++ rest).takeWhile isNumberChar = a := by
    rw [List.takeWhile_append_of_pos ha]
    cases rest with
    | nil => simp
    | cons c cs => simp [closed c rfl]
  have texts : a = b := by rw [← run closed ha, same, run closed' hb]
  exact ⟨texts, List.append_cancel_left (texts ▸ same)⟩

theorem isNumberChar_of_digits {ds : List Char} (digits : Digits ds) :
    ∀ c ∈ ds, isNumberChar c = true := by
  intro c h
  simp [isNumberChar, digits c h]

theorem isNumberChar_sign (negative : Bool) :
    ∀ c ∈ Layout.sign negative, isNumberChar c = true := by
  cases negative <;> simp [Layout.sign, isNumberChar]

theorem isNumberChar_exponentPart {power : List Char} {e : ℤ} (exponent : ExponentPart power e) :
    ∀ c ∈ power, isNumberChar c = true := by
  cases exponent with
  | absent => simp
  | power marked signs digits =>
    refine List.forall_mem_cons.2 ⟨?_, List.forall_mem_append.2 ⟨?_, isNumberChar_of_digits digits⟩⟩
    · rcases marked with rfl | rfl <;> rfl
    · cases signs <;> simp [isNumberChar]

theorem isNumberChar_decimalLiteral {cs : List Char} {q : ℚ} (literal : DecimalLiteral cs q) :
    ∀ c ∈ cs, isNumberChar c = true := by
  have pointed {fs power : List Char} {e : ℤ} (fraction : Digits fs)
      (exponent : ExponentPart power e) : ∀ c ∈ '.' :: (fs ++ power), isNumberChar c = true :=
    List.forall_mem_cons.2 ⟨rfl, List.forall_mem_append.2
      ⟨isNumberChar_of_digits fraction, isNumberChar_exponentPart exponent⟩⟩
  cases literal with
  | whole digits _ exponent =>
    exact List.forall_mem_append.2
      ⟨isNumberChar_of_digits digits, isNumberChar_exponentPart exponent⟩
  | point digits _ fraction exponent =>
    exact List.forall_mem_append.2 ⟨isNumberChar_of_digits digits, pointed fraction exponent⟩
  | fraction digits _ exponent => exact pointed digits exponent

structure IsNumberText (text : List Char) : Prop where
  chars : ∀ c ∈ text, isNumberChar c = true
  head : ∃ c cs, text = c :: cs ∧ (c == '-' || c.isDigit) = true

theorem isNumberText_of_sign {negative : Bool} {body : List Char}
    (chars : ∀ c ∈ body, isNumberChar c = true)
    (head : ∃ c cs, body = c :: cs ∧ c.isDigit = true) :
    IsNumberText (Layout.sign negative ++ body) := by
  refine ⟨List.forall_mem_append.2 ⟨isNumberChar_sign negative, chars⟩, ?_⟩
  obtain ⟨c, cs, rfl, digit⟩ := head
  cases negative with
  | true => exact ⟨'-', c :: cs, rfl, rfl⟩
  | false => exact ⟨c, cs, rfl, by simp [digit]⟩

theorem isNumberText_integer {text : List Char} {n : ℤ} (numeral : IntegerNumeral text n) :
    IsNumberText text := by
  cases numeral with
  | zero => exact ⟨by simp [isNumberChar], '0', [], rfl, rfl⟩
  | nonzero negative digits leading =>
    exact isNumberText_of_sign (isNumberChar_of_digits digits) ⟨_, _, rfl, digits _ (by simp)⟩

theorem isNumberText_float {text : List Char} {x : Double} (numeral : FloatNumeral text x) :
    IsNumberText text := by
  obtain ⟨body, q, rfl, literal, -, head⟩ := numeral.decimal
  obtain ⟨c, cs, rfl, -⟩ := literal.head
  exact isNumberText_of_sign (isNumberChar_decimalLiteral literal) ⟨c, cs, rfl, head c rfl⟩

theorem integer_eq_of_text {text : List Char} {m n : ℤ} (first : IntegerNumeral text m)
    (other : IntegerNumeral text n) : m = n := by
  have parts (n : ℤ) : splitSign (integerText n) = (decide (n < 0), Nat.toDigits 10 n.natAbs) :=
    splitSign_sign_append (plain_of_digits (digits_toDigits n.natAbs) Nat.toDigits_ne_nil) _
  have split := congrArg splitSign (first.eq_integerText.symm.trans other.eq_integerText)
  simp only [parts, Prod.mk.injEq, decide_eq_decide] at split
  have digits := congrArg (Nat.ofDigitChars 10 · 0) split.2
  simp only [Nat.ofDigitChars_ten_toDigits] at digits
  omega

theorem float_eq_of_text {text : List Char} {x y : Double} (first : FloatNumeral text x)
    (other : FloatNumeral text y) : x = y := by
  obtain ⟨body, q, rfl, literal, nearest, head⟩ := first.decimal
  obtain ⟨body', q', same, literal', nearest', lead⟩ := other.decimal
  have parts : x.negative = y.negative ∧ body = body' := by
    cases sign : x.negative <;> cases sign' : y.negative <;> rw [sign, sign'] at same
    · exact ⟨rfl, same⟩
    · rw [Layout.sign, if_neg Bool.false_ne_true, List.nil_append] at same
      subst same
      exact absurd (head '-' rfl) (by decide)
    · rw [Layout.sign, Layout.sign, if_neg Bool.false_ne_true, List.nil_append] at same
      subst same
      exact absurd (lead '-' rfl) (by decide)
    · exact ⟨rfl, List.append_cancel_left same⟩
  obtain ⟨negative, rfl⟩ := parts
  obtain ⟨d, read, rfl⟩ := literal.read
  obtain ⟨d', read', rfl⟩ := literal'.read
  rw [read, Option.some.injEq] at read'
  subst read'
  rw [← x.ofMagnitude_negative_magnitude, nearest.magnitude_eq nearest', negative,
    y.ofMagnitude_negative_magnitude]

-- The point or the power of ten of a double is in no integer.
theorem not_float_of_integer {text : List Char} {x : Double} {n : ℤ}
    (float : FloatNumeral text x) (integer : IntegerNumeral text n) : False := by
  have whole {c : Char} (inside : c ∈ text) : c = '-' ∨ c.isDigit = true := by
    rw [integer.eq_integerText] at inside
    rcases List.mem_append.1 inside with sign | digit
    · left
      simp_all [Layout.sign]
    · exact .inr (digits_toDigits _ c digit)
  rcases float.marked with mark | mark | mark <;> exact absurd (whole mark) (by decide)

end Numbers

end Json

structure Serializer.WritesJson (s : Serializer (List Char)) : Prop where
  unit : s.unit = "null".toList
  bool (b : Bool) : s.bool b = if b then "true".toList else "false".toList
  int64 (n : Int64) : Numeral.IntegerNumeral (s.int64 n) n.toInt
  float64 (x : Double) : x.isFinite = true → Json.FloatNumeral (s.float64 x) x
  unbounded (x : Double) : x.isFinite = false → s.float64 x = "null".toList
  str (t : String) : Json.Quoted t.toList (s.str t)
  seq (texts : List (List Char)) : s.seq texts = '[' :: (Json.separated texts ++ [']'])
  map (entries : List (String × List Char)) : s.map entries =
    '\x7b' :: (Json.separated (entries.map fun e => s.str e.1 ++ ':' :: e.2) ++ ['\x7d'])

namespace Json

open Numeral

section Compact

theorem escape_escape (c : Char) : Escape c (escape c) := by
  unfold escape
  split
  case h_8 quote backslash _ _ _ _ _ =>
    split
    case isTrue control =>
      apply Escape.unicode
      have each : ∀ n < 0x20, hexValue? ['0', '0', hexDigit (n / 16), hexDigit n] = some n := by
        decide +kernel
      exact each c.toNat control
    case isFalse printable => exact .stands (by omega) quote backslash
  all_goals exact .short (by decide)

theorem quoted_quoted (cs : List Char) : Quoted cs (quoted cs) := by
  refine ⟨cs.map escape, ?_, by rw [quoted, List.flatMap]⟩
  rw [List.forall₂_map_right_iff, List.forall₂_same]
  exact fun c _ => escape_escape c

theorem marked_write {f : Layout} (pointZero : f.pointZero = true) (ds : List Char) (p : ℤ) :
    '.' ∈ f.write ds p ∨ 'e' ∈ f.write ds p := by
  unfold Layout.write
  split
  case isTrue =>
    left
    unfold Layout.positional
    split
    · simp
    · split <;> simp
  case isFalse =>
    right
    simp [Layout.scientific]

theorem floatNumeral_floatText {x : Double} (finite : x.isFinite = true) :
    FloatNumeral (floatText x) x := by
  have shown : floatText x =
      if x.isZero then Layout.sign x.negative ++ "0.0".toList else floatLayout.writeDouble x := by
    simp [floatText, Double.parts_of_isFinite finite]
  rw [shown]
  split
  case isTrue zero =>
    have literal : DecimalLiteral "0.0".toList (⟨0, -1⟩ : Decimal).value :=
      decimalLiteral_iff.2 ⟨⟨0, -1⟩, by decide, rfl⟩
    have nearest : x.IsNearest (⟨0, -1⟩ : Decimal).value := by
      rw [Double.isNearest_value_iff, beq_iff_eq.1 zero]
      rfl
    exact ⟨⟨_, _, rfl, literal, nearest, by simp⟩, by simp⟩
  case isFalse nonzero =>
    rw [Bool.not_eq_true] at nonzero
    have spelling := Double.spelling_shortest floatLayout.tie finite nonzero
    have proper := spelling.significant
    have literal : DecimalLiteral _ (pointed _ _) := decimalLiteral_iff.2
      (readDecimal?_write floatLayout proper.digits proper.nonempty
        (x.shortest floatLayout.tie).point)
    obtain ⟨c, cs, written, digit⟩ := (plain_write floatLayout proper.digits proper.nonempty
      (x.shortest floatLayout.tie).point).head
    refine ⟨⟨_, _, rfl, literal, spelling.rounds, ?_⟩, ?_⟩
    · rw [written]
      rintro d ⟨⟩
      exact digit
    · rcases marked_write (f := floatLayout) rfl (x.shortest floatLayout.tie).digits
        (x.shortest floatLayout.tie).point with point | power
      · exact .inl (List.mem_append_right _ point)
      · exact .inr (.inl (List.mem_append_right _ power))

theorem floatText_of_unbounded {x : Double} (unbounded : x.isFinite = false) :
    floatText x = "null".toList := by
  rcases x.trichotomy with number | bounded | finite
  · rw [floatText, Double.parts_of_isNaN number]
  · rw [floatText, Double.parts_of_isInfinite bounded]
  · rw [unbounded] at finite
    cases finite

end Compact

end Json

theorem Serializer.writesJson_json : Serializer.json.WritesJson where
  unit := rfl
  bool _ := rfl
  int64 n := Numeral.integerNumeral_integerText n.toInt
  float64 _ := Json.floatNumeral_floatText
  unbounded _ := Json.floatText_of_unbounded
  str t := Json.quoted_quoted t.toList
  seq _ := rfl
  map _ := rfl

end ScriptValue
