import ScriptValue.Proofs.Double.Nearest
import ScriptValue.Proofs.Number.Conversion
import ScriptValue.Proofs.Numeral.Written

set_option autoImplicit false

namespace ScriptValue

theorem log2_shift_add {n : ℕ} (positive : 0 < n) {j t : ℕ} (small : t < 2 ^ j) :
    (n * 2 ^ j + t).log2 = n.log2 + j := by
  have nonzero : n * 2 ^ j + t ≠ 0 := by
    have := Nat.mul_pos positive (Nat.two_pow_pos j)
    omega
  rw [Nat.log2_eq_iff nonzero]
  have lower := Nat.log2_self_le positive.ne'
  have upper := Nat.lt_log2_self (n := n)
  constructor
  · calc 2 ^ (n.log2 + j) = 2 ^ n.log2 * 2 ^ j := Nat.pow_add _ _ _
      _ ≤ n * 2 ^ j := Nat.mul_le_mul_right _ lower
      _ ≤ n * 2 ^ j + t := Nat.le_add_right _ _
  · calc n * 2 ^ j + t < n * 2 ^ j + 2 ^ j := by omega
      _ = (n + 1) * 2 ^ j := (Nat.succ_mul n _).symm
      _ ≤ 2 ^ (n.log2 + 1) * 2 ^ j := Nat.mul_le_mul_right _ upper
      _ = 2 ^ (n.log2 + j + 1) := by rw [← Nat.pow_add]; congr 1; omega

theorem halfEven_quotient_add (q : ℕ) {r den : ℕ} (below : r < den) :
    halfEven (q * den + r) den =
      if 2 * r < den then q else if den < 2 * r then q + 1 else q + q % 2 := by
  have quotient : (q * den + r) / den = q := by
    rw [Nat.add_comm, Nat.add_mul_div_right _ _ (by omega), Nat.div_eq_of_lt below, Nat.zero_add]
  have remainder : (q * den + r) % den = r := by
    rw [Nat.add_comm, Nat.add_mul_mod_self_right, Nat.mod_eq_of_lt below]
  simp only [halfEven, quotient, remainder]

-- A part too small to reach the next integer decides a tie and nothing else.
theorem halfEven_mul_add (n : ℕ) {half step t : ℕ} (positive : 0 < half) (small : t < step) :
    halfEven (n * step + t) (2 * half * step) =
      if n % (2 * half) = half ∧ t ≠ 0 then n / (2 * half) + 1 else halfEven n (2 * half) := by
  have below : n % (2 * half) < 2 * half := Nat.mod_lt _ (by omega)
  have digits : n = n / (2 * half) * (2 * half) + n % (2 * half) := (Nat.div_add_mod' n _).symm
  generalize n / (2 * half) = q at digits
  generalize n % (2 * half) = r at below digits
  have size : 2 * half * step = 2 * (half * step) := Nat.mul_assoc _ _ _
  have edge : r * step + t < 2 * half * step := by
    calc r * step + t < r * step + step := by omega
      _ = (r + 1) * step := (Nat.succ_mul r step).symm
      _ ≤ 2 * half * step := Nat.mul_le_mul_right step below
  have split : n * step + t = q * (2 * half * step) + (r * step + t) := by
    rw [digits]
    ring
  rw [split, halfEven_quotient_add q edge, size]
  conv_rhs => rw [digits, halfEven_quotient_add q below]
  rcases Nat.lt_trichotomy r half with less | rfl | more
  · have low : r * step + step ≤ half * step := by
      rw [← Nat.succ_mul]
      exact Nat.mul_le_mul_right step less
    rw [if_pos (by omega), if_neg (by omega), if_pos (by omega)]
  · rw [if_neg (by omega)]
    rcases Nat.eq_zero_or_pos t with rfl | nonzero
    · simp
    · rw [if_pos (by omega), if_pos ⟨rfl, by omega⟩]
  · have high : half * step + step ≤ r * step := by
      rw [← Nat.succ_mul]
      exact Nat.mul_le_mul_right step more
    rw [if_neg (by omega), if_pos (by omega), if_neg (by omega), if_neg (by omega),
      if_pos (by omega)]

namespace Double

theorem floorLog2_natural {n : ℕ} (positive : 0 < n) : floorLog2 n 1 = n.log2 := by
  have one : (1 : ℕ).log2 = 0 := by decide
  have reached : atLeastPow n 1 n.log2 = true := by
    simpa [atLeastPow] using Nat.log2_self_le positive.ne'
  simp [floorLog2, one, reached]

theorem nearestMagnitude_large {n : ℕ} (large : 2 ^ 52 ≤ n) :
    nearestMagnitude n 1 =
      min ((n.log2 - 52 + 1074) * 2 ^ 52 + halfEven n (2 ^ (n.log2 - 52))) infiniteMagnitude := by
  have bits : 52 ≤ n.log2 := (Nat.le_log2 (by omega)).2 large
  have exponent : spacing n 1 = (n.log2 - 52 : ℕ) := by
    rw [spacing, floorLog2_natural (by omega)]
    omega
  have nonzero : n ≠ 0 := by omega
  have up : (-((n.log2 - 52 : ℕ) : ℤ)).toNat = 0 := by omega
  have shifted : (((n.log2 - 52 : ℕ) : ℤ) + 1074).toNat = n.log2 - 52 + 1074 := by omega
  simp only [nearestMagnitude, nonzero, if_false, exponent, up, shifted, Int.toNat_natCast,
    pow_zero, mul_one, one_mul]

theorem nearestMagnitude_shift_add {n : ℕ} (large : 2 ^ 53 ≤ n) {j t : ℕ} (small : t < 2 ^ j) :
    nearestMagnitude (n * 2 ^ j + t) 1 =
      min ((n.log2 - 52 + 1074) * 2 ^ 52 +
        (if n % 2 ^ (n.log2 - 52) = 2 ^ (n.log2 - 53) ∧ t ≠ 0 then n / 2 ^ (n.log2 - 52) + 1
          else halfEven n (2 ^ (n.log2 - 52))) + j * 2 ^ 52) infiniteMagnitude := by
  have bits : 53 ≤ n.log2 := (Nat.le_log2 (by omega)).2 large
  have wide : 2 ^ 52 ≤ n * 2 ^ j + t := by
    have := Nat.le_mul_of_pos_right n (Nat.two_pow_pos j)
    omega
  have shifted : (n * 2 ^ j + t).log2 - 52 = n.log2 - 52 + j := by
    rw [log2_shift_add (by omega) small]
    omega
  have step : 2 ^ (n.log2 - 52) = 2 * 2 ^ (n.log2 - 53) := by
    rw [← Nat.pow_succ']
    congr 1
    omega
  rw [nearestMagnitude_large wide, shifted, Nat.pow_add, step,
    halfEven_mul_add n (Nat.two_pow_pos _) small]
  refine congrArg (min · infiniteMagnitude) ?_
  omega

theorem nearestMagnitude_shift {n : ℕ} (large : 2 ^ 53 ≤ n) (j : ℕ) :
    nearestMagnitude (n * 2 ^ j) 1 =
      min (nearestMagnitude n 1 + j * 2 ^ 52) infiniteMagnitude := by
  have shifted := nearestMagnitude_shift_add large (Nat.two_pow_pos j)
  simp only [Nat.add_zero, ne_eq, not_true_eq_false, and_false, if_false] at shifted
  rw [shifted, nearestMagnitude_large (by omega)]
  omega

theorem truncate?_of_quantity {x : Double} {n : ℤ} (h : x.quantity = .finite n) :
    x.truncate? = some n := by
  have value := h
  rw [quantity, parts_of_isFinite (isFinite_of_quantity h), Parts.quantity,
    Quantity.finite.injEq] at value
  rw [truncate?, parts_of_isFinite (isFinite_of_quantity h), Parts.truncate?,
    towardZero_eq_truncation, value, truncation_intCast]

theorem quantity_of_absolute {x : Double} (finite : x.isFinite = true) (sign : x.negative = false) :
    x.quantity = .finite x.absolute := by
  rw [quantity_of_isFinite finite, sign]
  rfl

theorem quantity_nearest_natural {n : ℕ} (short : n < 2 ^ 53) :
    (nearest false n 1).quantity = .finite n := by
  have fraction : (n : ℚ) / (1 : ℕ) = n := by rw [Nat.cast_one, div_one]
  rw [quantity_nearest_integer false Nat.one_pos fraction short, cast_signed]
  rfl

theorem exponent_of_large {x : Double} {n : ℕ} (large : 2 ^ 53 ≤ n)
    (size : x.magnitude = nearestMagnitude n 1) : 1 ≤ x.exponent := by
  have bits : 53 ≤ n.log2 := (Nat.le_log2 (by omega)).2 large
  have leading : 2 ^ 52 ≤ n / 2 ^ (n.log2 - 52) := by
    rw [Nat.le_div_iff_mul_le (Nat.two_pow_pos _), ← Nat.pow_add]
    exact (Nat.pow_le_pow_right two_pos (by omega)).trans (Nat.log2_self_le (by omega))
  have rounded := div_le_halfEven n (2 ^ (n.log2 - 52))
  rw [nearestMagnitude_large (by omega), infiniteMagnitude] at size
  rw [exponent]
  omega

theorem nearestMagnitude_of_exponent {x : Double} (positive : 1 ≤ x.exponent) {k d : ℕ}
    (small : d < 2 ^ k) :
    nearestMagnitude (x.significand * 2 ^ x.exponent.toNat * 2 ^ k + d) 1 =
      min (x.magnitude + k * 2 ^ 52) infiniteMagnitude := by
  have leading : 2 ^ 52 ≤ x.significand := x.leading_bit.resolve_left (by omega)
  have short := x.significand_lt
  have size := x.magnitude_eq
  obtain ⟨e, exponent⟩ : ∃ e : ℕ, x.exponent = e + 1 := ⟨(x.exponent - 1).toNat, by omega⟩
  have places : x.exponent.toNat = e + 1 := by omega
  rw [places]
  have bits : (x.significand * 2 ^ (e + 1)).log2 = 52 + (e + 1) := by
    rw [← Nat.add_zero (x.significand * _), log2_shift_add (by omega) (Nat.two_pow_pos _)]
    congr 1
    exact (Nat.log2_eq_iff (by omega)).2 ⟨leading, short⟩
  have large : 2 ^ 53 ≤ x.significand * 2 ^ (e + 1) := by
    have := Nat.mul_le_mul leading (Nat.pow_le_pow_right two_pos (Nat.le_add_left 1 e))
    omega
  have even : x.significand * 2 ^ (e + 1) % 2 ^ (e + 1) ≠ 2 ^ e := by
    rw [Nat.mul_mod_left]
    exact (Nat.two_pow_pos e).ne
  have exponents : 52 + (e + 1) - 52 = e + 1 ∧ 52 + (e + 1) - 53 = e := by omega
  have field : (x.exponent + 1074).toNat = e + 1 + 1074 := by omega
  rw [nearestMagnitude_shift_add large small, bits, exponents.1, exponents.2,
    if_neg fun tie => even tie.1, halfEven_mul_self _ (Nat.two_pow_pos _), size, field]

end Double

namespace Numeral

theorem appendDigit_of_quantity {x : Double} {n : ℕ} (h : x.quantity = .finite n) (radix d : ℕ) :
    appendDigit radix x d = Double.nearest false (n * radix + d) 1 := by
  have whole : x.truncate? = some (n : ℤ) := Double.truncate?_of_quantity (by exact_mod_cast h)
  rw [appendDigit, whole]
  rfl

theorem appendDigit_of_isInfinite {x : Double} (h : x.isInfinite = true) (radix d : ℕ) :
    appendDigit radix x d = x := by
  rw [appendDigit, Double.truncate?, Double.parts_of_isInfinite h, Double.Parts.truncate?]

theorem negative_appendDigit {x : Double} (sign : x.negative = false) (radix d : ℕ) :
    (appendDigit radix x d).negative = false := by
  rw [appendDigit]
  split
  · exact Double.negative_nearest _ _ _
  · exact sign

theorem appendDigit_nearest {k d : ℕ} (digit : d < 2 ^ k) (n : ℕ) :
    appendDigit (2 ^ k) (Double.nearest false n 1) d =
      Double.nearest false (if n < 2 ^ 53 then n * 2 ^ k + d else n * 2 ^ k) 1 := by
  split
  case isTrue short =>
    exact appendDigit_of_quantity (Double.quantity_nearest_natural short) _ d
  case isFalse large =>
    rw [not_lt] at large
    have sign := Double.negative_nearest false n 1
    have size := Double.magnitude_nearest false n 1
    have number := Double.isNaN_nearest false n 1
    generalize Double.nearest false n 1 = x at sign size number
    have exponent := Double.exponent_of_large large size
    apply Double.ext_magnitude
    · rw [negative_appendDigit sign, Double.negative_nearest]
    rw [Double.magnitude_nearest, Double.nearestMagnitude_shift large, ← size]
    rcases x.trichotomy with nan | infinite | finite
    · exact absurd number (by simp [nan])
    · rw [appendDigit_of_isInfinite infinite, beq_iff_eq.1 infinite]
      omega
    · have value : x.quantity = .finite (x.significand * 2 ^ x.exponent.toNat : ℕ) := by
        have power : (2 : ℚ) ^ x.exponent = 2 ^ x.exponent.toNat := by
          rw [← zpow_natCast]
          congr 1
          omega
        rw [Double.quantity_of_absolute finite sign, Double.absolute, power]
        push_cast
        rfl
      rw [appendDigit_of_quantity value, Double.magnitude_nearest,
        Double.nearestMagnitude_of_exponent exponent digit]

def digitValues (radix : ℕ) (cs : List Char) : List ℕ := cs.filterMap (digit? radix)

def digitsFrom (radix n : ℕ) (ds : List ℕ) : ℕ := ds.foldl (fun n d => n * radix + d) n

/-- As `digitsFrom`, but digits that follow a number of more than 53 bits count as zeros. -/
def heldFrom (radix n : ℕ) (ds : List ℕ) : ℕ :=
  ds.foldl (fun n d => if n < 2 ^ 53 then n * radix + d else n * radix) n

theorem digit?_lt {radix d : ℕ} {c : Char} (h : digit? radix c = some d) : d < radix := by
  rw [digit?, Option.filter_eq_some_iff] at h
  exact of_decide_eq_true h.2

theorem lt_of_mem_digitValues {radix : ℕ} {cs : List Char} :
    ∀ d ∈ digitValues radix cs, d < radix := by
  intro d inside
  obtain ⟨c, -, digit⟩ := List.mem_filterMap.1 inside
  exact digit?_lt digit

theorem foldlM_appendDigit {k : ℕ} {cs : List Char}
    (digits : ∀ c ∈ cs, (digit? (2 ^ k) c).isSome = true) (n : ℕ) :
    cs.foldlM (fun x c => (digit? (2 ^ k) c).map (appendDigit (2 ^ k) x))
        (Double.nearest false n 1) =
      some (Double.nearest false (heldFrom (2 ^ k) n (digitValues (2 ^ k) cs)) 1) := by
  induction cs generalizing n with
  | nil => rfl
  | cons c cs ih =>
    obtain ⟨d, value⟩ := Option.isSome_iff_exists.1 (digits c (by simp))
    have rest := ih fun c inside => digits c (by simp [inside])
    rw [List.foldlM_cons, value, Option.map_some, appendDigit_nearest (digit?_lt value)]
    simpa [digitValues, heldFrom, value] using rest _

theorem readRadix?_digits {k : ℕ} {cs : List Char} (nonempty : cs ≠ [])
    (digits : ∀ c ∈ cs, (digit? (2 ^ k) c).isSome = true) :
    readRadix? (2 ^ k) cs =
      some (Double.nearest false (heldFrom (2 ^ k) 0 (digitValues (2 ^ k) cs)) 1) := by
  have start : Double.zero = Double.nearest false 0 1 := by simp [Double.zero, Double.nearest]
  rw [readRadix?, List.isEmpty_eq_false_iff.2 nonempty, start]
  exact foldlM_appendDigit digits 0

theorem digitsFrom_eq (radix n : ℕ) (ds : List ℕ) :
    digitsFrom radix n ds = n * radix ^ ds.length + digitsFrom radix 0 ds := by
  induction ds generalizing n with
  | nil => simp [digitsFrom]
  | cons d ds ih =>
    have first (m : ℕ) : digitsFrom radix m (d :: ds) = digitsFrom radix (m * radix + d) ds := rfl
    rw [first, first, ih (n * radix + d), ih (0 * radix + d), List.length_cons, Nat.pow_succ']
    ring

theorem digitsFrom_lt {radix : ℕ} {ds : List ℕ} (digits : ∀ d ∈ ds, d < radix) :
    digitsFrom radix 0 ds < radix ^ ds.length := by
  induction ds with
  | nil => simp [digitsFrom]
  | cons d ds ih =>
    have first : digitsFrom radix 0 (d :: ds) = digitsFrom radix (0 * radix + d) ds := rfl
    have rest := ih fun d inside => digits d (by simp [inside])
    have digit : d + 1 ≤ radix := digits d (by simp)
    rw [first, digitsFrom_eq, List.length_cons, Nat.pow_succ']
    calc (0 * radix + d) * radix ^ ds.length + digitsFrom radix 0 ds
        < d * radix ^ ds.length + radix ^ ds.length := by rw [Nat.zero_mul, Nat.zero_add]; omega
      _ = (d + 1) * radix ^ ds.length := (Nat.succ_mul _ _).symm
      _ ≤ radix * radix ^ ds.length := Nat.mul_le_mul_right _ digit

theorem heldFrom_large {radix n : ℕ} (positive : 0 < radix) (large : 2 ^ 53 ≤ n) (ds : List ℕ) :
    heldFrom radix n ds = n * radix ^ ds.length := by
  induction ds generalizing n with
  | nil => simp [heldFrom]
  | cons d ds ih =>
    have first : heldFrom radix n (d :: ds) = heldFrom radix (n * radix) ds := by
      rw [heldFrom, List.foldl_cons, if_neg (by omega)]
      rfl
    rw [first, ih (large.trans (Nat.le_mul_of_pos_right n positive)), List.length_cons,
      Nat.pow_succ', Nat.mul_assoc]

-- What is held ends in as many zeros as digits were dropped, and these fit into the zeros.
theorem heldFrom_split {radix : ℕ} {ds : List ℕ} (positive : 0 < radix)
    (digits : ∀ d ∈ ds, d < radix) (n : ℕ) :
    ∃ p j t, heldFrom radix n ds = p * radix ^ j ∧ digitsFrom radix n ds = p * radix ^ j + t ∧
      t < radix ^ j ∧ (t = 0 ∨ 2 ^ 53 ≤ p) := by
  induction ds generalizing n with
  | nil => exact ⟨n, 0, 0, by simp [heldFrom], by simp [digitsFrom], by simp, .inl rfl⟩
  | cons d ds ih =>
    have rest : ∀ d ∈ ds, d < radix := fun d inside => digits d (by simp [inside])
    by_cases short : n < 2 ^ 53
    · have held : heldFrom radix n (d :: ds) = heldFrom radix (n * radix + d) ds := by
        rw [heldFrom, List.foldl_cons, if_pos short]
        rfl
      rw [held]
      exact ih rest (n * radix + d)
    · rw [not_lt] at short
      exact ⟨n, (d :: ds).length, digitsFrom radix 0 (d :: ds), heldFrom_large positive short _,
        digitsFrom_eq radix n _, digitsFrom_lt digits, .inr short⟩

end Numeral

namespace Double

def HalfAbove (x : Double) (q : ℚ) : Prop :=
  x.isFinite = true ∧ ∃ y : Double, y.magnitude = x.magnitude + 1 ∧ x.absolute + y.absolute = 2 * q

theorem HalfAbove.not_isNearest {x : Double} {q r : ℚ} (half : x.HalfAbove q) (above : q < r) :
    ¬x.IsNearest r := by
  obtain ⟨finite, y, next, middle⟩ := half
  intro nearest
  have number : y.isNaN = false := by
    simp only [isFinite, decide_eq_true_eq] at finite
    simp only [isNaN, next, decide_eq_false_iff_not]
    omega
  have less : x.absolute < y.absolute := absolute_lt (by omega)
  have closest := nearest.closest y number
  rw [abs_of_neg (by linarith : x.absolute - r < 0), le_abs] at closest
  rcases closest with beyond | short <;> linarith

theorem halfAbove_of_tie {p e : ℕ} (bits : p.log2 = e + 53) (large : 2 ^ 53 ≤ p)
    (tie : p % 2 ^ (e + 1) = 2 ^ e) {x : Double} (finite : x.isFinite = true) {j : ℕ}
    (size : x.magnitude = (e + 1 + 1074) * 2 ^ 52 + p / 2 ^ (e + 1) + j * 2 ^ 52) :
    x.HalfAbove (p * 2 ^ j : ℕ) := by
  have digits : p = p / 2 ^ (e + 1) * 2 ^ (e + 1) + 2 ^ e := by
    conv_lhs => rw [← Nat.div_add_mod' p (2 ^ (e + 1)), tie]
  have leading : 2 ^ 52 ≤ p / 2 ^ (e + 1) := by
    rw [Nat.le_div_iff_mul_le (Nat.two_pow_pos _), ← Nat.pow_add]
    have lower := Nat.log2_self_le (n := p) (by omega)
    rwa [bits, Nat.add_comm e, show 53 + e = 52 + (e + 1) by omega] at lower
  have short : p / 2 ^ (e + 1) < 2 ^ 53 := by
    rw [Nat.div_lt_iff_lt_mul (Nat.two_pow_pos _), ← Nat.pow_add]
    have upper := Nat.lt_log2_self (n := p)
    rwa [bits, show e + 53 + 1 = 53 + (e + 1) by omega] at upper
  generalize p / 2 ^ (e + 1) = q at digits leading short size
  obtain ⟨y, next⟩ : ∃ y : Double, y.magnitude = x.magnitude + 1 := by
    have bounded : x.magnitude < infiniteMagnitude := of_decide_eq_true finite
    rw [infiniteMagnitude] at bounded
    exact ⟨ofMagnitude false (x.magnitude + 1), magnitude_ofMagnitude false (by omega)⟩
  refine ⟨finite, y, next, ?_⟩
  have place : (((e + 1 + j : ℕ) : ℤ) + 1074).toNat = e + 1 + j + 1074 := by omega
  have below : x.absolute = q * 2 ^ ((e + 1 + j : ℕ) : ℤ) :=
    absolute_of_magnitude (by omega) (.inr leading) short.le (by rw [place, size]; omega)
  have above : y.absolute = (q + 1 : ℕ) * 2 ^ ((e + 1 + j : ℕ) : ℤ) :=
    absolute_of_magnitude (by omega) (.inr (by omega)) short (by rw [place, next, size]; omega)
  rw [below, above, zpow_natCast, digits]
  push_cast
  ring

-- From a tie to the odd neighbour is one step, unless both are beyond the top.
theorem min_up_of_half {base q shift top m : ℕ} (size : m = min (base + (q + q % 2) + shift) top)
    (half : m = base + q + shift → ¬m < top) : m = min (base + (q + 1) + shift) top := by
  omega

-- A part below the last kept place is lost only from half way up.
theorem nearest_shift_add_eq_iff {p j t : ℕ} (large : 2 ^ 53 ≤ p) (small : t < 2 ^ j) :
    nearest false (p * 2 ^ j) 1 = nearest false (p * 2 ^ j + t) 1 ↔
      ¬(t ≠ 0 ∧ (nearest false (p * 2 ^ j) 1).HalfAbove (p * 2 ^ j : ℕ)) := by
  constructor
  · rintro same ⟨nonzero, half⟩
    have nearest := nearest_isNearest false (p * 2 ^ j + t) Nat.one_pos
    rw [Nat.cast_one, div_one, ← same] at nearest
    refine half.not_isNearest ?_ nearest
    exact_mod_cast Nat.lt_add_of_pos_right (Nat.pos_of_ne_zero nonzero)
  · intro untied
    obtain ⟨e, bits⟩ : ∃ e, p.log2 = e + 53 :=
      ⟨p.log2 - 53, by have := (Nat.le_log2 (by omega)).2 large; omega⟩
    have places : e + 53 - 52 = e + 1 ∧ e + 53 - 53 = e := by omega
    have held := nearestMagnitude_shift_add large (Nat.two_pow_pos j)
    have full := nearestMagnitude_shift_add large small
    rw [bits, places.1, places.2] at held full
    rw [Nat.add_zero, if_neg (by simp)] at held
    have size := magnitude_nearest false (p * 2 ^ j) 1
    have number := isNaN_nearest false (p * 2 ^ j) 1
    have sign := negative_nearest false (p * 2 ^ j) 1
    generalize nearest false (p * 2 ^ j) 1 = x at untied size number sign
    apply ext_magnitude
    · rw [sign, negative_nearest]
    rw [magnitude_nearest, full]
    rw [held] at size
    by_cases tie : p % 2 ^ (e + 1) = 2 ^ e ∧ t ≠ 0
    · have rounded : halfEven p (2 ^ (e + 1)) = p / 2 ^ (e + 1) + p / 2 ^ (e + 1) % 2 := by
        rw [halfEven, tie.1, Nat.pow_succ, if_neg (by omega), if_neg (by omega)]
      have half (down : x.magnitude = (e + 1 + 1074) * 2 ^ 52 + p / 2 ^ (e + 1) + j * 2 ^ 52) :
          x.isFinite = false := by
        by_contra finite
        rw [Bool.not_eq_false] at finite
        exact untied ⟨tie.2, halfAbove_of_tie bits large tie.1 finite down⟩
      rw [isFinite, decide_eq_false_iff_not] at half
      rw [rounded] at size
      rw [if_pos tie]
      exact min_up_of_half size half
    · rw [size, if_neg tie]

end Double

namespace Numeral

def whole (radix : ℕ) (cs : List Char) : ℕ := digitsFrom radix 0 (digitValues radix cs)

def held (radix : ℕ) (cs : List Char) : ℕ := heldFrom radix 0 (digitValues radix cs)

theorem radix?_eq_pow {c : Char} {radix : ℕ} (h : radix? c = some radix) :
    ∃ k, radix = 2 ^ k := by
  have shape : radix = 2 ^ 4 ∨ radix = 2 ^ 3 ∨ radix = 2 ^ 1 := by
    unfold radix? at h
    split at h <;> simp_all
  rcases shape with rfl | rfl | rfl <;> exact ⟨_, rfl⟩

theorem isBlank_of_radix? {c : Char} {radix : ℕ} (h : radix? c = some radix) :
    isBlank c = false := by
  unfold radix? at h
  split at h <;> first | decide | cases h

theorem toNat_of_digit? {radix d : ℕ} {c : Char} (h : digit? radix c = some d) :
    48 ≤ c.toNat ∧ c.toNat ≤ 57 ∨ 97 ≤ c.toNat ∧ c.toNat ≤ 102 ∨
      65 ≤ c.toNat ∧ c.toNat ≤ 70 := by
  rw [digit?, Option.filter_eq_some_iff] at h
  have value := h.1
  split at value
  case isTrue decimal =>
    simp only [Char.isDigit, Bool.and_eq_true, decide_eq_true_eq, ge_iff_le,
      UInt32.le_iff_toNat_le] at decimal
    exact .inl decimal
  split at value
  case isTrue lower => exact .inr (.inl lower)
  split at value
  case isTrue upper => exact .inr (.inr upper)
  case isFalse => cases value

theorem isBlank_of_digit? {radix d : ℕ} {c : Char} (h : digit? radix c = some d) :
    isBlank c = false := by
  have range := toNat_of_digit? h
  simp [isBlank]
  omega

section Marked

variable {mark : Char} {radix : ℕ} (marked : radix? mark = some radix) {cs : List Char}
  (nonempty : cs ≠ []) (digits : ∀ c ∈ cs, (digit? radix c).isSome = true)

include marked nonempty digits

theorem readTrimmed?_radix :
    readTrimmed? ('0' :: mark :: cs) = some (Double.nearest false (held radix cs) 1) := by
  obtain ⟨k, rfl⟩ := radix?_eq_pow marked
  rw [readTrimmed?, marked]
  exact readRadix?_digits nonempty digits

theorem read_radix : read ('0' :: mark :: cs) = Double.nearest false (held radix cs) 1 := by
  have inside : ∀ c ∈ '0' :: mark :: cs, isBlank c = false := by
    simp only [List.forall_mem_cons]
    refine ⟨by decide, isBlank_of_radix? marked, fun c inside => ?_⟩
    obtain ⟨d, value⟩ := Option.isSome_iff_exists.1 (digits c inside)
    exact isBlank_of_digit? value
  rw [read, trimBlank_of_forall inside, readTrimmed?_radix marked nonempty digits]
  rfl

end Marked

theorem ofText_toString (n : ℕ) : Double.ofText (toString n) = Double.nearest false n 1 := by
  have written : (toString n).toList = integerText n := by
    simp [integerText, Layout.sign]
  rw [Double.ofText, written, read_integerText, Double.ofInt, decide_eq_false (by omega),
    Int.natAbs_natCast]

/-- A numeral with a radix mark reads as the double nearest to what is held of its integer. That is
the double that the integer reads as in decimal, which is the one nearest to it, unless digits were
dropped that would have lifted the rest from half way between two doubles. -/
theorem radix_numeral {s : String} {mark : Char} {radix : ℕ} {cs : List Char}
    (text : s.toList = '0' :: mark :: cs) (marked : radix? mark = some radix) (nonempty : cs ≠ [])
    (digits : ∀ c ∈ cs, (digit? radix c).isSome = true) :
    (Double.ofText s).negative = false ∧ (Double.ofText s).IsNearest (held radix cs) ∧
    (Double.ofText (toString (whole radix cs))).negative = false ∧
    (Double.ofText (toString (whole radix cs))).IsNearest (whole radix cs) ∧
    (Double.ofText s = Double.ofText (toString (whole radix cs)) ↔
      ¬(held radix cs < whole radix cs ∧ (Double.ofText s).HalfAbove (held radix cs))) := by
  have value : Double.ofText s = Double.nearest false (held radix cs) 1 := by
    rw [Double.ofText, text]
    exact read_radix marked nonempty digits
  have nearest (n : ℕ) : (Double.nearest false n 1).IsNearest n := by
    simpa using Double.nearest_isNearest false n Nat.one_pos
  rw [value, ofText_toString]
  refine ⟨Double.negative_nearest _ _ _, nearest _, Double.negative_nearest _ _ _, nearest _, ?_⟩
  obtain ⟨k, rfl⟩ := radix?_eq_pow marked
  have below : ∀ d ∈ digitValues (2 ^ k) cs, d < 2 ^ k := lt_of_mem_digitValues
  obtain ⟨p, j, t, heldIs, wholeIs, small, large⟩ := heldFrom_split (Nat.two_pow_pos k) below 0
  have heldIs : held (2 ^ k) cs = p * (2 ^ k) ^ j := heldIs
  have wholeIs : whole (2 ^ k) cs = p * (2 ^ k) ^ j + t := wholeIs
  rw [heldIs, wholeIs]
  rcases large with rfl | large
  · simp
  · rw [← Nat.pow_mul] at small ⊢
    rw [Double.nearest_shift_add_eq_iff large small]
    simp [Nat.pos_iff_ne_zero]

-- The integer is half way between two doubles, and no digit but zero is dropped.
theorem radix_numeral_tie :
    radix? 'x' = some 16 ∧ (∀ c ∈ "200000000000010".toList, (digit? 16 c).isSome = true) ∧
      Double.ofText "0x200000000000010" = Double.ofText "144115188075855888" := by
  have digits : ∀ c ∈ "200000000000010".toList, (digit? 16 c).isSome = true :=
    List.all_eq_true.1 (by decide)
  have exact : held 16 "200000000000010".toList = whole 16 "200000000000010".toList := by decide
  have decimal : toString (whole 16 "200000000000010".toList) = "144115188075855888" := by decide
  have text : "0x200000000000010".toList = '0' :: 'x' :: "200000000000010".toList := by decide
  have numeral := radix_numeral text rfl (by decide) digits
  refine ⟨rfl, digits, ?_⟩
  rw [← decimal]
  exact numeral.2.2.2.2.2 fun lost => (exact ▸ lost.1).false

theorem radix_numeral_rounded_twice :
    (Double.ofText "0x200000000000011").bits = 0x4380000000000000 ∧
      (Double.ofText "144115188075855889").bits = 0x4380000000000001 ∧
      (Double.ofText "144115188075855889").IsNearest 0x200000000000011 ∧
      ¬(Double.ofText "0x200000000000011").IsNearest 0x200000000000011 := by
  have marked : Double.ofText "0x200000000000011" = ⟨0x4380000000000000⟩ := by decide +kernel
  have decimal : Double.ofText "144115188075855889" = ⟨0x4380000000000001⟩ := by decide +kernel
  have correct : Double.ofText "144115188075855889" = Double.nearest false 0x200000000000011 1 :=
    ofText_toString 0x200000000000011
  have half : Double.HalfAbove ⟨0x4380000000000000⟩ (0x200000000000010 : ℕ) :=
    ⟨by decide, ⟨0x4380000000000001⟩, by decide, by decide +kernel⟩
  refine ⟨congrArg (·.bits) marked, congrArg (·.bits) decimal, ?_, ?_⟩
  · rw [correct]
    simpa using Double.nearest_isNearest false 0x200000000000011 Nat.one_pos
  · rw [marked]
    exact half.not_isNearest (by norm_num)

end Numeral

end ScriptValue
