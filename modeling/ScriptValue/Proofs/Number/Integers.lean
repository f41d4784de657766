import Mathlib.Data.Int.ModEq
import ScriptValue.Proofs.Equality.Loose
import ScriptValue.Proofs.Number.Conversion

set_option autoImplicit false

namespace ScriptValue

structure Residue (least n r : ℤ) : Prop where
  lower : least ≤ r
  upper : r < least + 2 ^ 32
  congruent : r ≡ n [ZMOD 2 ^ 32]

theorem Residue.unique {least n r s : ℤ} (first : Residue least n r) (second : Residue least n s) :
    r = s := by
  have same := first.congruent.trans second.congruent.symm
  have := first.lower
  have := first.upper
  have := second.lower
  have := second.upper
  rw [Int.ModEq] at same
  omega

theorem Residue.iff_eq {least n s : ℤ} (residue : Residue least n s) (r : ℤ) :
    Residue least n r ↔ r = s :=
  ⟨fun other => other.unique residue, fun same => same ▸ residue⟩

theorem residue_toUInt32 (n : ℤ) : Residue 0 n (UInt32.ofInt n).toNat := by
  have value : ((UInt32.ofInt n).toNat : ℤ) = n % 2 ^ 32 := by
    rw [UInt32.ofInt, UInt32.toNat_ofNat']
    omega
  rw [value]
  exact ⟨by omega, by omega, Int.mod_modEq n _⟩

theorem residue_toInt32 (n : ℤ) : Residue (-2 ^ 31) n (Int32.ofInt n).toInt := by
  rw [Int32.toInt_ofInt]
  refine ⟨?_, ?_, Int.bmod_emod⟩
  · exact Int.le_bmod (by decide)
  · exact Int.bmod_lt (by decide)

theorem toInt_ofIntClamp (n : ℤ) :
    (Int64.ofIntClamp n).toInt = max (-2 ^ 63) (min n (2 ^ 63 - 1)) := by
  have least : Int64.minValue.toInt = -2 ^ 63 := rfl
  have most : Int64.maxValue.toInt = 2 ^ 63 - 1 := rfl
  rw [Int64.ofIntClamp]
  split
  case isTrue lower =>
    split
    case isTrue upper =>
      rw [Int64.toInt_ofIntLE]
      omega
    case isFalse => omega
  case isFalse => omega

namespace Double

variable {σ : Type} (host : Host σ)

theorem runIn_narrow {x : Double} {n : Int64} (h : x.quantity = .finite n.toInt) (w : World σ) :
    (host.toInt32 (.number (.float x))).runIn w = (.ok n.toInt32, w) ∧
      (host.toUInt32 (.number (.float x))).runIn w = (.ok n.toInt32.toUInt32, w) := by
  have same : (Number.float x).quantity = (Number.bigInteger n).quantity := h
  constructor
  · have answer : x.toInt32 = n.toInt32 := by
      have wrapped := Number.toInt32_eq_wrapSigned (.float x)
      rwa [same, ← Number.toInt32_eq_wrapSigned] at wrapped
    rw [← answer]
    rfl
  · have answer : x.toUInt32 = n.toInt32.toUInt32 := by
      have wrapped := Number.toUInt32_eq_wrapUnsigned (.float x)
      rwa [same, ← Number.toUInt32_eq_wrapUnsigned] at wrapped
    rw [← answer]
    rfl

/-- Conversions of doubles to integers are exact. What an infinite double gives is a bound of the
range, and the two narrow conversions only give different bits there. -/
theorem integer_conversions_exact (x : Double) (w : World σ) :
    x.toInt64.toInt = x.quantity.convert 0 (fun s => if s then -2 ^ 63 else 2 ^ 63 - 1)
        (fun n => max (-2 ^ 63) (min n (2 ^ 63 - 1))) ∧
      (∀ q, x.quantity = .finite q →
        (∀ r, Residue 0 (truncation q) r ↔ r = x.toUInt32.toNat) ∧
          (∀ r, Residue (-2 ^ 31) (truncation q) r ↔ r = x.toInt32.toInt) ∧
          x.toUInt32.toInt32 = x.toInt32 ∧ x.toInt32.toUInt32 = x.toUInt32) ∧
      (∀ n : Int64, x.quantity = .finite n.toInt →
        (host.toInt32 (.number (.float x))).runIn w =
            (host.toInt32 (.number (.bigInteger n))).runIn w ∧
          (host.toUInt32 (.number (.float x))).runIn w =
            (host.toUInt32 (.number (.bigInteger n))).runIn w) ∧
      (x.quantity = .nan → x.toInt32.toInt = 0 ∧ x.toUInt32.toNat = 0) ∧
      (x.quantity = .infinite false →
        x.toInt32.toInt = 2 ^ 31 - 1 ∧ x.toUInt32.toNat = 2 ^ 32 - 1) ∧
      (x.quantity = .infinite true → x.toInt32.toInt = -2 ^ 31 ∧ x.toUInt32.toNat = 0) := by
  rw [toInt64_eq_clip64, toInt32_eq_wrapSigned, toUInt32_eq_wrapUnsigned]
  refine ⟨?_, ?_, ?_, ?_, ?_, ?_⟩
  · cases x.quantity with
    | nan => rfl
    | infinite s => cases s <;> rfl
    | finite q => exact toInt_ofIntClamp (truncation q)
  · intro q h
    have signed : x.quantity.wrapSigned = Int32.ofInt (truncation q) := by rw [h]; rfl
    have unsigned : x.quantity.wrapUnsigned = UInt32.ofInt (truncation q) := by rw [h]; rfl
    rw [signed, unsigned]
    refine ⟨(residue_toUInt32 _).iff_eq, (residue_toInt32 _).iff_eq, ?_, toUInt32_ofInt _⟩
    rw [← toUInt32_ofInt, Int32.toInt32_toUInt32]
  · intro n h
    exact runIn_narrow host h w
  · intro h
    rw [h]
    exact ⟨rfl, rfl⟩
  · intro h
    rw [h]
    exact ⟨rfl, rfl⟩
  · intro h
    rw [h]
    exact ⟨rfl, rfl⟩

theorem integer_conversions_exact_wrapped :
    (⟨0xC1F0000000180000⟩ : Double).quantity = .finite (-8589934595 / 2) ∧
      (∀ r, Residue 0 (truncation (-8589934595 / 2)) r ↔ r = 2 ^ 32 - 1) ∧
      (∀ r, Residue (-2 ^ 31) (truncation (-8589934595 / 2)) r ↔ r = -1) ∧
      (⟨0xC3E0000000000000⟩ : Double).quantity = .finite Int64.minValue.toInt ∧
      (Host.silent.toInt32 (.number (.float ⟨0xC3E0000000000000⟩))).runIn { host := () } =
        (Host.silent.toInt32 (.number (.bigInteger Int64.minValue))).runIn { host := () } ∧
      (nan.quantity = .nan ∧ nan.toInt32.toInt = 0) ∧
      ((infinity false).quantity = .infinite false ∧ (infinity false).toUInt32.toNat = 2 ^ 32 - 1) ∧
      ((infinity true).quantity = .infinite true ∧ (infinity true).toInt32.toInt = -2 ^ 31) := by
  have fraction : (⟨0xC1F0000000180000⟩ : Double).quantity = .finite (-8589934595 / 2) := by
    decide +kernel
  have whole : (⟨0xC3E0000000000000⟩ : Double).quantity = .finite Int64.minValue.toInt := by
    decide +kernel
  have exact (x : Double) := integer_conversions_exact Host.silent x { host := () }
  obtain ⟨-, wraps, -⟩ := exact ⟨0xC1F0000000180000⟩
  obtain ⟨unsigned, signed, -⟩ := wraps _ fraction
  obtain ⟨-, -, agrees, -⟩ := exact ⟨0xC3E0000000000000⟩
  obtain ⟨-, -, -, ofNaN, -⟩ := exact nan
  obtain ⟨-, -, -, -, above, -⟩ := exact (infinity false)
  obtain ⟨-, -, -, -, -, below⟩ := exact (infinity true)
  have bits : (⟨0xC1F0000000180000⟩ : Double).toUInt32 = -1 := by decide +kernel
  have reinterpreted : (⟨0xC1F0000000180000⟩ : Double).toInt32 = -1 := by decide +kernel
  rw [bits] at unsigned
  rw [reinterpreted] at signed
  refine ⟨fraction, unsigned, signed, whole, (agrees _ whole).1, ⟨?_, ?_⟩, ⟨?_, ?_⟩, ?_, ?_⟩
  · rfl
  · exact (ofNaN rfl).1
  · rfl
  · exact (above rfl).2
  · rfl
  · exact (below rfl).1

end Double

end ScriptValue
