import ScriptValue.Proofs.Accounting.Walk
import ScriptValue.Proofs.Equality.Loose
import ScriptValue.Slot.Access

set_option autoImplicit false

namespace ScriptValue

namespace Heap

variable {heap : Heap}

def Computes (heap : Heap) (n : ℕ) : Task → Context → Outcome → Context → Prop
  | .one v, ctx, result, after => heap.account n v ctx = some (result, after)
  | .all vs, ctx, held, after => ∀ (finish : Usage → Outcome) (total : Usage),
      (Appraisal.sum finish total vs).run (heap.account n) ctx =
        some (held.bind fun u => finish (total + u), after)

theorem Walk.computes {task : Task} {ctx after : Context} {result : Outcome}
    (walk : heap.Walk task ctx result after) :
    ∃ bound, ∀ n, heap.Computes (n + bound) task ctx result after := by
  induction walk with
  | @scalar v ctx notObject notSlot =>
    refine ⟨1, ?_⟩
    intro n
    cases v with
    | object o => exact absurd rfl (notObject o)
    | slot s => exact absurd rfl (notSlot s)
    | _ => rfl
  | slot _ ih =>
    obtain ⟨bound, parts⟩ := ih
    refine ⟨bound + 1, ?_⟩
    intro n
    rw [Computes, ← Nat.add_assoc, account_slot, parts n, Outcome.bind_zero_add]
  | again seen => exact ⟨1, fun n => account_again seen⟩
  | unsized seen size | sized seen size =>
    refine ⟨1, ?_⟩
    intro n
    rw [Computes, account_first seen, size]
  | deep seen size limit =>
    refine ⟨1, ?_⟩
    intro n
    rw [Computes, account_first seen, size]
    simp [limit]
  | @held o ctx met entered after result seen size enters _ ih =>
    obtain ⟨bound, values⟩ := ih
    refine ⟨bound + 1, ?_⟩
    intro n
    have appraised : (heap.holdings o).appraisal.run (heap.account (n + bound)) entered =
        some ((heap.holdings o).outcome result, after) := values n _ _
    rw [Computes, ← Nat.add_assoc, account_first seen, size]
    simp [enters, appraised]
  | nil => exact ⟨0, fun n finish total => by simp [Appraisal.sum, Appraisal.run, Except.bind]⟩
  | @cons v vs ctx mid after u rest _ _ first later =>
    obtain ⟨bound, first⟩ := first
    obtain ⟨bound', later⟩ := later
    refine ⟨bound' + bound, ?_⟩
    intro n finish total
    have value : heap.account (n + (bound' + bound)) v ctx = some (.ok u, mid) := by
      rw [← Nat.add_assoc]
      exact first (n + bound')
    have values := later (n + bound) finish (total + u)
    rw [Nat.add_right_comm, Nat.add_assoc] at values
    rw [Appraisal.sum, Appraisal.run, value, Outcome.bind_map_add]
    exact values
  | @stop v vs ctx after e _ first =>
    obtain ⟨bound, first⟩ := first
    refine ⟨bound, ?_⟩
    intro n finish total
    have value : heap.account (n + bound) v ctx = some (.error e, after) := first n
    rw [Appraisal.sum, Appraisal.run, value]
    rfl

theorem Walk.unique {v : Value} {ctx after after' : Context} {result result' : Outcome}
    (walk : heap.Walk (.one v) ctx result after) (walk' : heap.Walk (.one v) ctx result' after') :
    result = result' ∧ after = after' := by
  obtain ⟨bound, computes⟩ := walk.computes
  obtain ⟨bound', computes'⟩ := walk'.computes
  have first : heap.account (bound' + bound) v ctx = some (result, after) := computes bound'
  have second : heap.account (bound + bound') v ctx = some (result', after') := computes' bound
  rw [Nat.add_comm, second] at first
  simpa [eq_comm] using first

-- The value of a slot comes before its functions, which are objects.
theorem parts_of_contains {s t : SlotId} (contains : heap.Contains s t) :
    ∃ functions, heap.parts s = .slot t :: functions := by
  rw [Contains, parts, Memory.parts] at contains
  rw [parts, Memory.parts]
  split at contains
  next slot found =>
    obtain value | function := List.mem_append.1 contains
    · obtain stored := Option.mem_toList.1 value
      exact ⟨_, by rw [Slot.parts, stored]; rfl⟩
    · simp at function
  next => cases contains

theorem Circular.next {s : SlotId} (circular : heap.Circular s) :
    ∃ t functions, heap.parts s = .slot t :: functions ∧ heap.Circular t := by
  obtain ⟨t, path, circle⟩ := circular
  obtain rfl | ⟨u, step, rest⟩ := path.cases_head
  · obtain ⟨u, step, rest⟩ := Relation.TransGen.head'_iff.1 circle
    obtain ⟨functions, parts⟩ := parts_of_contains step
    exact ⟨u, functions, parts, _, rest, circle⟩
  · obtain ⟨functions, parts⟩ := parts_of_contains step
    exact ⟨u, functions, parts, t, rest, circle⟩

-- The first part of a slot that leads into a circle is the next slot on the way, so a walk of the
-- one would begin with a walk of the other.
theorem Walk.not_trapped {task : Task} {ctx after : Context} {result : Outcome}
    (walk : heap.Walk task ctx result after) : ¬heap.Trapped task ctx := by
  induction walk with
  | scalar notObject notSlot =>
    intro trapped
    cases trapped with
    | circle | slot => exact notSlot _ rfl
    | held => exact notObject _ rfl
  | slot _ ih =>
    intro trapped
    cases trapped with
    | circle circular =>
      obtain ⟨t, functions, parts, next⟩ := circular.next
      rw [parts] at ih
      exact ih (.first (.circle next))
    | slot parts => exact ih parts
  | again seen =>
    intro trapped
    cases trapped with
    | held unseen => simp [seen] at unseen
  | unsized _ size | sized _ size =>
    intro trapped
    cases trapped with
    | held _ size' => simp [size] at size'
  | deep _ size limit =>
    intro trapped
    cases trapped with
    | held _ size' enters =>
      simp only [size, Prod.mk.injEq, true_and] at size'
      subst size'
      simp [limit] at enters
  | held _ size enters _ ih =>
    intro trapped
    cases trapped with
    | held _ size' enters' values =>
      simp only [size, Prod.mk.injEq, true_and] at size'
      subst size'
      simp only [enters, Except.ok.injEq] at enters'
      subst enters'
      exact ih values
  | nil => exact nofun
  | cons walk _ first rest =>
    intro trapped
    cases trapped with
    | first value => exact first value
    | later walk' values =>
      obtain ⟨-, rfl⟩ := walk.unique walk'
      exact rest values
  | stop walk first =>
    intro trapped
    cases trapped with
    | first value => exact first value
    | later walk' => exact absurd (walk.unique walk').1 (by simp)

theorem Trapped.account_eq_none {v : Value} {ctx : Context} (trapped : heap.Trapped (.one v) ctx)
    (n : ℕ) : heap.account n v ctx = none := by
  by_contra ends
  obtain ⟨⟨result, after⟩, run⟩ := Option.ne_none_iff_exists'.1 ends
  exact (walk_of_account run).not_trapped trapped

theorem Walk.hasVisited_mono {task : Task} {ctx after : Context} {result : Outcome}
    (walk : heap.Walk task ctx result after) {o : ObjectId} (seen : ctx.hasVisited o = true) :
    after.hasVisited o = true := by
  induction walk with
  | scalar | nil => exact seen
  | slot _ ih | stop _ ih => exact ih seen
  | again => simp [seen]
  | unsized _ size | sized _ size | deep _ size =>
    obtain ⟨-, -, -, visited⟩ := met_context size
    simp [visited, seen]
  | held _ size enters _ ih =>
    obtain ⟨-, -, -, visited⟩ := entered_context size enters
    exact ih (by simp [visited, seen])
  | cons _ _ first rest => exact rest (first seen)

-- What is still to be met after a walk was to be met before it, and so it is on the way down.

theorem Walk.unseen {task : Task} {ctx after : Context} {result : Outcome}
    (walk : heap.Walk task ctx result after) {o : ObjectId} (unseen : after.hasVisited o = false) :
    ctx.hasVisited o = false :=
  Bool.eq_false_iff.2 fun seen => Bool.eq_false_iff.1 unseen (walk.hasVisited_mono seen)

theorem unseen_of_entered {o : ObjectId} {ctx met entered : Context}
    {reply : Except AccountingError (Option UInt64)}
    (size : heap.nativeSize o (ctx.visit o).2 = (reply, met)) (enters : met.enter = .ok entered)
    {p : ObjectId} (unseen : entered.hasVisited p = false) :
    p ≠ o ∧ ctx.hasVisited p = false := by
  obtain ⟨-, -, -, visited⟩ := entered_context size enters
  simpa [visited] using unseen

theorem Trapped.reaches {task : Task} {ctx : Context} (trapped : heap.Trapped task ctx) :
    ∃ v ∈ task.values, ∃ s,
      Relation.ReflTransGen (heap.Edge fun o => ctx.hasVisited o = false) v (.slot s) ∧
        Relation.TransGen heap.Contains s s := by
  induction trapped with
  | @circle s ctx circular =>
    obtain ⟨t, path, circle⟩ := circular
    refine ⟨_, .head _, t, ?_, circle⟩
    exact path.lift Value.slot fun _ _ contains => .part contains
  | slot _ ih =>
    obtain ⟨v, inside, s, path, circle⟩ := ih
    exact ⟨_, .head _, s, .head (.part inside) path, circle⟩
  | held unseen size enters _ ih =>
    obtain ⟨v, inside, s, path, circle⟩ := ih
    refine ⟨_, .head _, s, .head (.held unseen inside) ?_, circle⟩
    refine Relation.ReflTransGen.mono (fun _ _ => Edge.mono ?_) _ _ path
    exact fun p later => (unseen_of_entered size enters later).2
  | first _ ih =>
    obtain ⟨v, inside, found⟩ := ih
    obtain rfl := List.mem_singleton.1 inside
    exact ⟨v, .head _, found⟩
  | later walk _ ih =>
    obtain ⟨v, inside, s, path, circle⟩ := ih
    refine ⟨v, .tail _ inside, s, ?_, circle⟩
    refine Relation.ReflTransGen.mono (fun _ _ => Edge.mono ?_) _ _ path
    exact fun p later => walk.unseen later

/-- Accounting ends, with a size or an error, unless the walk comes to a slot from which slots lead
into a circle; then no bound on nested values is enough. Such a circle can be reached through
objects that were not visited before, and a slot that leads into a circle is never done with. -/
theorem usage_endless (heap : Heap) (v : Value) (ctx : Context) :
    (heap.usage? v ctx = none ↔ ∀ n, heap.account n v ctx = none) ∧
    (heap.usage? v ctx = none ↔ heap.Trapped (.one v) ctx) ∧
    (heap.usage? v ctx = none → ∃ s,
      Relation.ReflTransGen (heap.Edge fun o => ctx.hasVisited o = false) v (.slot s) ∧
        Relation.TransGen heap.Contains s s) ∧
    ∀ s, heap.Circular s → heap.usage? (.slot s) ctx = none := by
  have trapped : heap.usage? v ctx = none ↔ heap.Trapped (.one v) ctx := by
    constructor
    · intro endless
      by_contra free
      exact usage?_ne_none_of_not_trapped free endless
    · exact fun trapped => trapped.account_eq_none _
  refine ⟨?_, trapped, ?_, ?_⟩
  · constructor
    · intro endless
      exact (trapped.1 endless).account_eq_none
    · exact fun endless => endless _
  · intro endless
    obtain ⟨w, inside, found⟩ := (trapped.1 endless).reaches
    obtain rfl := List.mem_singleton.1 inside
    exact found
  · intro s circular
    exact (Trapped.circle circular).account_eq_none _

end Heap

namespace Host

theorem account_selfStored :
    ∃ made stored : World Unit,
      (World.newSlot (.data .undefined .all)).run { host := () } = (⟨0⟩, made) ∧
      (silent.setSlot ⟨0⟩ .undefined (.slot ⟨0⟩)).runIn made = (.ok (), stored) ∧
      ∀ n, (stored.heap silent).account n (.slot ⟨0⟩) {} = none := by
  let made : World Unit := ((World.newSlot (.data .undefined .all)).run { host := () }).2
  let stored := ((silent.setSlot ⟨0⟩ .undefined (.slot ⟨0⟩)).runIn made).2
  let heap : Heap := ⟨fun _ => none, fun _ => {}, stored.slots⟩
  have same : heap.memory = stored.heap silent := rfl
  have contains : heap.Contains ⟨0⟩ ⟨0⟩ := by
    change Value.slot ⟨0⟩ ∈ [Value.slot ⟨0⟩]
    exact .head _
  have circular : heap.Circular ⟨0⟩ := ⟨⟨0⟩, .refl, .single contains⟩
  refine ⟨made, stored, rfl, rfl, ?_⟩
  rw [← same]
  exact (Heap.Trapped.circle circular).account_eq_none

end Host

end ScriptValue
