import Mathlib.Algebra.BigOperators.Group.Finset.Basic
import Mathlib.Algebra.GroupWithZero.Nat
import Mathlib.Data.Finset.Card
import Mathlib.Data.Fintype.Card
import Mathlib.Logic.Relation
import ScriptValue.Proofs.Accounting.Requests

set_option autoImplicit false

namespace ScriptValue

namespace Usage

def exact (u : Usage) : ℕ × ℕ := (u.current.toNat, u.projected.toNat)

def saturated (size : ℕ × ℕ) : Usage :=
  ⟨UInt64.ofNat (min size.1 (2 ^ 64 - 1)), UInt64.ofNat (min size.2 (2 ^ 64 - 1))⟩

theorem saturated_add (a b : ℕ × ℕ) : saturated (a + b) = saturated a + saturated b := by
  apply Usage.ext <;> apply UInt64.toNat_inj.mp <;>
    simp only [saturated, current_add, projected_add, toNat_addSaturating, UInt64.toNat_ofNat',
      Prod.fst_add, Prod.snd_add] <;>
    omega

@[simp] theorem saturated_zero : saturated 0 = 0 := rfl

@[simp] theorem saturated_exact (u : Usage) : saturated u.exact = u := by
  have current := u.current.toNat_lt
  have projected := u.projected.toNat_lt
  apply Usage.ext <;> apply UInt64.toNat_inj.mp <;>
    simp only [saturated, exact, UInt64.toNat_ofNat'] <;>
    omega

end Usage

/-- A memory whose objects have a size of their own and count the values they hold in order. -/
structure Heap where
  resource : ObjectId → Option String
  holdings : ObjectId → Holdings
  slots : Array Slot

namespace Heap

variable (heap : Heap)

def memory : Memory where
  resource := heap.resource
  appraisal o := (heap.holdings o).appraisal
  slots := heap.slots

def parts (s : SlotId) : List Value := heap.memory.parts s

def nativeSize (o : ObjectId) (ctx : Context) : Except AccountingError (Option UInt64) × Context :=
  heap.memory.nativeSize Context.requests o ctx

def account (n : ℕ) (v : Value) (ctx : Context) : Option (Outcome × Context) :=
  heap.memory.account n v ctx

def usage? (v : Value) (ctx : Context) : Option (Outcome × Context) := heap.memory.usage? v ctx

theorem nativeSize_eq (o : ObjectId) (ctx : Context) :
    heap.nativeSize o ctx =
      match heap.resource o with
      | some kind => ctx.nativeSize ⟨o, kind⟩
      | none => (.ok none, ctx) := rfl

theorem account_slot (n : ℕ) (s : SlotId) (ctx : Context) :
    heap.account (n + 1) (.slot s) ctx =
      (Appraisal.sum .ok .zero (heap.parts s)).run (heap.account n) ctx := rfl

def Contains (s t : SlotId) : Prop := .slot t ∈ heap.parts s

def SlotsAcyclic : Prop := ∀ s, ¬Relation.TransGen heap.Contains s s

theorem slotsAcyclic_of_lt {heap : Heap} (height : SlotId → ℕ)
    (falls : ∀ s t, heap.Contains s t → height t < height s) : heap.SlotsAcyclic := by
  intro s cycle
  have below (t : SlotId) (path : Relation.TransGen heap.Contains s t) : height t < height s := by
    induction path with
    | single step => exact falls _ _ step
    | tail _ step ih => exact (falls _ _ step).trans ih
  exact (below s cycle).ne rfl

def Circular (s : SlotId) : Prop :=
  ∃ t, Relation.ReflTransGen heap.Contains s t ∧ Relation.TransGen heap.Contains t t

inductive Edge (isOpen : ObjectId → Prop) : Value → Value → Prop
  | part {s : SlotId} {v : Value} : v ∈ heap.parts s → Edge isOpen (.slot s) v
  | held {o : ObjectId} {v : Value} :
      isOpen o → v ∈ (heap.holdings o).values → Edge isOpen (.object o) v

theorem Edge.mono {heap : Heap} {isOpen isOpen' : ObjectId → Prop}
    (opens : ∀ o, isOpen o → isOpen' o) {v w : Value} (edge : heap.Edge isOpen v w) :
    heap.Edge isOpen' v w := by
  cases edge with
  | part inside => exact .part inside
  | held isOpen inside => exact .held (opens _ isOpen) inside

def Reaches (isOpen : ObjectId → Prop) (v : Value) (o : ObjectId) : Prop :=
  Relation.ReflTransGen (heap.Edge isOpen) v (.object o)

def Shows (v : Value) (o : ObjectId) : Prop := heap.Reaches (fun _ => False) v o

def flatDown : ℕ → Value → ℕ × ℕ
  | n + 1, .slot s => ((heap.parts s).map (flatDown n)).sum
  | 0, .slot _ => 0
  | _, v => v.flatUsage.exact

def flat (v : Value) : ℕ × ℕ := heap.flatDown (heap.slots.size + 1) v

def share (size? : Option UInt64) (o : ObjectId) : ℕ × ℕ :=
  match size? with
  | some size => (Usage.uniform size).exact
  | none => (heap.holdings o).own.exact + ((heap.holdings o).values.map heap.flat).sum

section Rank

open Classical in
noncomputable def rank (s : SlotId) : ℕ :=
  (Finset.univ.filter fun i : Fin heap.slots.size =>
    Relation.ReflTransGen heap.Contains s ⟨i⟩).card

noncomputable def valueRank : Value → ℕ
  | .slot s => heap.rank s
  | _ => 0

theorem rank_le (s : SlotId) : heap.rank s ≤ heap.slots.size := by
  rw [rank]
  exact (Finset.card_le_univ _).trans_eq (Fintype.card_fin _)

theorem valueRank_le (v : Value) : heap.valueRank v ≤ heap.slots.size := by
  cases v <;> first | exact heap.rank_le _ | exact Nat.zero_le _

variable {heap}

theorem index_lt_of_mem_parts {s : SlotId} {v : Value} (h : v ∈ heap.parts s) :
    s.index < heap.slots.size := by
  by_contra outside
  have missing : heap.slots[s.index]? = none := by simpa using outside
  simp [parts, Memory.parts, memory, missing] at h

-- The container is among the slots it leads to, and no part leads back to it.
theorem rank_lt {s t : SlotId} (apart : ¬Relation.TransGen heap.Contains s s)
    (h : heap.Contains s t) :
    heap.rank t < heap.rank s := by
  apply Finset.card_lt_card
  rw [Finset.ssubset_iff_of_subset]
  · refine ⟨⟨s.index, index_lt_of_mem_parts h⟩, by simpa using .refl, ?_⟩
    intro back
    exact apart (.head' h (by simpa using back))
  · intro i reached
    simp only [Finset.mem_filter, Finset.mem_univ, true_and] at reached ⊢
    exact .head h reached

theorem valueRank_lt {s : SlotId} {v : Value} (apart : ¬Relation.TransGen heap.Contains s s)
    (h : v ∈ heap.parts s) : heap.valueRank v < heap.rank s := by
  have positive : 0 < heap.rank s := by
    apply Finset.card_pos.2
    exact ⟨⟨s.index, index_lt_of_mem_parts h⟩, by simpa using .refl⟩
  cases v with
  | slot t => exact rank_lt apart h
  | _ => exact positive

theorem flatDown_succ (acyclic : heap.SlotsAcyclic) {n : ℕ} {v : Value}
    (deep : heap.valueRank v ≤ n) : heap.flatDown (n + 1) v = heap.flatDown n v := by
  induction n generalizing v with
  | zero =>
    cases v with
    | slot s =>
      have empty : heap.parts s = [] := by
        apply List.eq_nil_iff_forall_not_mem.2
        intro v inside
        have below := valueRank_lt (acyclic s) inside
        have bound : heap.rank s ≤ 0 := deep
        omega
      simp [flatDown, empty]
    | _ => rfl
  | succ n ih =>
    cases v with
    | slot s =>
      rw [flatDown, flatDown]
      congr 1
      apply List.map_congr_left
      intro v inside
      have below := valueRank_lt (acyclic s) inside
      have bound : heap.rank s ≤ n + 1 := deep
      exact ih (by omega)
    | _ => rfl

theorem flat_slot (acyclic : heap.SlotsAcyclic) (s : SlotId) :
    heap.flat (.slot s) = ((heap.parts s).map heap.flat).sum := by
  rw [flat, flatDown]
  congr 1
  apply List.map_congr_left
  intro v inside
  have below := valueRank_lt (acyclic s) inside
  have bound := heap.rank_le s
  exact (flatDown_succ acyclic (by omega)).symm

theorem flat_object (o : ObjectId) : heap.flat (.object o) = 0 := rfl

end Rank

end Heap

end ScriptValue
