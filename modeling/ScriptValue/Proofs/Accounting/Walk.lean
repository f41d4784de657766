import ScriptValue.Proofs.Accounting.Heap

set_option autoImplicit false

namespace ScriptValue

def Holdings.outcome (h : Holdings) (held : Outcome) : Outcome :=
  held.bind fun u => h.finish (h.own + u)

theorem Context.enter_eq_ok {ctx entered : Context} :
    ctx.enter = .ok entered ↔
      ctx.depth < ctx.maxDepth ∧ entered = { ctx with depth := ctx.depth + 1 } := by
  rw [enter]
  split
  next deep => simp [deep]
  next room => simp [Nat.lt_of_not_le room, eq_comm]

theorem Holdings.finish_eq_ok {h : Holdings} {total u : Usage} :
    h.finish total = .ok u ↔ h.failure = none ∧ u = total := by
  cases failure : h.failure <;> simp [finish, failure, eq_comm]

theorem Holdings.outcome_eq_ok {h : Holdings} {result : Outcome} {u : Usage} :
    h.outcome result = .ok u ↔ ∃ held, result = .ok held ∧ h.failure = none ∧ u = h.own + held := by
  cases result with
  | error e => simp [outcome, Except.bind]
  | ok held => simp [outcome, Except.bind, finish_eq_ok]

theorem Outcome.bind_zero_add (result : Outcome) :
    (result.bind fun u => .ok (Usage.zero + u)) = result := by
  cases result with
  | ok u => exact congrArg Except.ok (Usage.zero_add u)
  | error e => rfl

theorem Outcome.bind_map_add (result : Outcome) (finish : Usage → Outcome) (total u : Usage) :
    ((result.map (u + ·)).bind fun w => finish (total + w)) =
      result.bind fun w => finish (total + u + w) := by
  cases result with
  | ok w => exact congrArg finish (Usage.add_assoc total u w).symm
  | error e => rfl

namespace Heap

inductive Task
  | one (v : Value)
  | all (vs : List Value)

def Task.values : Task → List Value
  | .one v => [v]
  | .all vs => vs

inductive Walk (heap : Heap) : Task → Context → Outcome → Context → Prop
  | scalar {v : Value} {ctx : Context} :
      (∀ o, v ≠ .object o) → (∀ s, v ≠ .slot s) → Walk heap (.one v) ctx (.ok v.flatUsage) ctx
  | slot {s : SlotId} {ctx after : Context} {result : Outcome} :
      Walk heap (.all (heap.parts s)) ctx result after → Walk heap (.one (.slot s)) ctx result after
  | again {o : ObjectId} {ctx : Context} :
      ctx.hasVisited o = true → Walk heap (.one (.object o)) ctx (.ok 0) (ctx.visit o).2
  | unsized {o : ObjectId} {ctx after : Context} {e : AccountingError} :
      ctx.hasVisited o = false → heap.nativeSize o (ctx.visit o).2 = (.error e, after) →
      Walk heap (.one (.object o)) ctx (.error e) after
  | sized {o : ObjectId} {ctx after : Context} {size : UInt64} :
      ctx.hasVisited o = false → heap.nativeSize o (ctx.visit o).2 = (.ok (some size), after) →
      Walk heap (.one (.object o)) ctx (.ok (.uniform size)) after
  | deep {o : ObjectId} {ctx after : Context} {e : AccountingError} :
      ctx.hasVisited o = false → heap.nativeSize o (ctx.visit o).2 = (.ok none, after) →
      after.enter = .error e → Walk heap (.one (.object o)) ctx (.error e) after
  | held {o : ObjectId} {ctx met entered after : Context} {result : Outcome} :
      ctx.hasVisited o = false → heap.nativeSize o (ctx.visit o).2 = (.ok none, met) →
      met.enter = .ok entered → Walk heap (.all (heap.holdings o).values) entered result after →
      Walk heap (.one (.object o)) ctx ((heap.holdings o).outcome result) after.leave
  | nil {ctx : Context} : Walk heap (.all []) ctx (.ok 0) ctx
  | cons {v : Value} {vs : List Value} {ctx mid after : Context} {u : Usage} {rest : Outcome} :
      Walk heap (.one v) ctx (.ok u) mid → Walk heap (.all vs) mid rest after →
      Walk heap (.all (v :: vs)) ctx (rest.map (u + ·)) after
  | stop {v : Value} {vs : List Value} {ctx after : Context} {e : AccountingError} :
      Walk heap (.one v) ctx (.error e) after → Walk heap (.all (v :: vs)) ctx (.error e) after

inductive Trapped (heap : Heap) : Task → Context → Prop
  | circle {s : SlotId} {ctx : Context} :
      heap.Circular s → Trapped heap (.one (.slot s)) ctx
  | slot {s : SlotId} {ctx : Context} :
      Trapped heap (.all (heap.parts s)) ctx → Trapped heap (.one (.slot s)) ctx
  | held {o : ObjectId} {ctx met entered : Context} :
      ctx.hasVisited o = false → heap.nativeSize o (ctx.visit o).2 = (.ok none, met) →
      met.enter = .ok entered → Trapped heap (.all (heap.holdings o).values) entered →
      Trapped heap (.one (.object o)) ctx
  | first {v : Value} {vs : List Value} {ctx : Context} :
      Trapped heap (.one v) ctx → Trapped heap (.all (v :: vs)) ctx
  | later {v : Value} {vs : List Value} {ctx mid : Context} {u : Usage} :
      Walk heap (.one v) ctx (.ok u) mid → Trapped heap (.all vs) mid →
      Trapped heap (.all (v :: vs)) ctx

variable {heap : Heap}

theorem walk_of_sum {count : Value → Context → Option (Outcome × Context)}
    (walk_of : ∀ {v ctx result after}, count v ctx = some (result, after) →
      heap.Walk (.one v) ctx result after)
    {finish : Usage → Outcome} {total : Usage} {vs : List Value} {ctx after : Context}
    {result : Outcome}
    (run : (Appraisal.sum finish total vs).run count ctx = some (result, after)) :
    ∃ held : Outcome, (result = held.bind fun u => finish (total + u)) ∧
      heap.Walk (.all vs) ctx held after := by
  induction vs generalizing total ctx with
  | nil =>
    cases run
    exact ⟨.ok 0, by simp [Except.bind], .nil⟩
  | cons v vs ih =>
    rw [Appraisal.sum, Appraisal.run] at run
    split at run
    next outcome mid first =>
      cases outcome with
      | error e =>
        cases run
        exact ⟨.error e, rfl, .stop (walk_of first)⟩
      | ok u =>
        obtain ⟨rest, rfl, walked⟩ := ih run
        exact ⟨rest.map (u + ·), (Outcome.bind_map_add rest finish total u).symm,
          .cons (walk_of first) walked⟩
    next => cases run

theorem account_again {n : ℕ} {o : ObjectId} {ctx : Context} (seen : ctx.hasVisited o = true) :
    heap.account (n + 1) (.object o) ctx = some (.ok 0, (ctx.visit o).2) :=
  Memory.account_again seen

theorem account_first {n : ℕ} {o : ObjectId} {ctx : Context} (unseen : ctx.hasVisited o = false) :
    heap.account (n + 1) (.object o) ctx =
      match heap.nativeSize o (ctx.visit o).2 with
      | (.error e, met) => some (.error e, met)
      | (.ok (some size), met) => some (.ok (.uniform size), met)
      | (.ok none, met) =>
          match met.enter with
          | .error e => some (.error e, met)
          | .ok entered =>
              ((heap.holdings o).appraisal.run (heap.account n) entered).map
                fun (result, after) => (result, after.leave) :=
  Memory.account_first unseen

theorem walk_of_account {n : ℕ} {v : Value} {ctx after : Context} {result : Outcome}
    (run : heap.account n v ctx = some (result, after)) :
    heap.Walk (.one v) ctx result after := by
  induction n generalizing v ctx result after with
  | zero =>
    cases v with
    | object | slot => cases run
    | _ =>
      cases run
      exact .scalar (by simp) (by simp)
  | succ n ih =>
    cases v with
    | slot s =>
      rw [account_slot] at run
      obtain ⟨held, rfl, walked⟩ := walk_of_sum ih run
      rw [Outcome.bind_zero_add]
      exact .slot walked
    | object o =>
      cases seen : ctx.hasVisited o with
      | true =>
        rw [account_again seen] at run
        cases run
        exact .again seen
      | false =>
        rw [account_first seen] at run
        split at run
        case h_1 e met size =>
          cases run
          exact .unsized seen size
        case h_2 bytes met size =>
          cases run
          exact .sized seen size
        case h_3 met size =>
          split at run
          case h_1 e limit =>
            cases run
            exact .deep seen size limit
          case h_2 entered enters =>
            obtain ⟨⟨own, inner⟩, appraised, rest⟩ := Option.map_eq_some_iff.1 run
            cases rest
            obtain ⟨held, rfl, walked⟩ := walk_of_sum ih appraised
            exact .held seen size enters walked
    | _ =>
      cases run
      exact .scalar (by simp) (by simp)

theorem nativeSize_context {o : ObjectId} {ctx met : Context}
    {reply : Except AccountingError (Option UInt64)} (size : heap.nativeSize o ctx = (reply, met)) :
    ∃ asked, met = { ctx with asked := asked } := by
  rw [nativeSize_eq] at size
  cases resource : heap.resource o with
  | none =>
    rw [resource] at size
    cases size
    exact ⟨ctx.asked, rfl⟩
  | some kind =>
    rw [resource] at size
    obtain sizer | ⟨answer, sizer⟩ := Option.eq_none_or_eq_some ctx.sizer
    · simp only [Context.nativeSize, sizer] at size
      cases size
      exact ⟨ctx.asked, rfl⟩
    · simp only [Context.nativeSize, sizer] at size
      cases size
      exact ⟨⟨o, kind⟩ :: ctx.asked, by rw [← sizer]⟩

theorem met_context {o : ObjectId} {ctx met : Context}
    {reply : Except AccountingError (Option UInt64)}
    (size : heap.nativeSize o (ctx.visit o).2 = (reply, met)) :
    met.depth = ctx.depth ∧ met.maxDepth = ctx.maxDepth ∧ met.sizer = ctx.sizer ∧
      ∀ p, met.hasVisited p = (decide (p = o) || ctx.hasVisited p) := by
  obtain ⟨asked, rfl⟩ := nativeSize_context size
  exact ⟨rfl, rfl, rfl, Context.hasVisited_visit ctx o⟩

theorem entered_context {o : ObjectId} {ctx met entered : Context}
    {reply : Except AccountingError (Option UInt64)}
    (size : heap.nativeSize o (ctx.visit o).2 = (reply, met)) (enters : met.enter = .ok entered) :
    ctx.depth < ctx.maxDepth ∧ entered.depth = ctx.depth + 1 ∧ entered.maxDepth = ctx.maxDepth ∧
      ∀ p, entered.hasVisited p = (decide (p = o) || ctx.hasVisited p) := by
  obtain ⟨depth, limit, -, visited⟩ := met_context size
  obtain ⟨room, rfl⟩ := Context.enter_eq_ok.1 enters
  exact ⟨depth ▸ limit ▸ room, by rw [← depth], limit, visited⟩

theorem Walk.depth_eq {task : Task} {ctx after : Context} {result : Outcome}
    (walk : heap.Walk task ctx result after) :
    after.depth = ctx.depth ∧ after.maxDepth = ctx.maxDepth := by
  induction walk with
  | scalar | again | nil => exact ⟨rfl, rfl⟩
  | slot _ ih | stop _ ih => exact ih
  | unsized _ size | sized _ size | deep _ size =>
    obtain ⟨depth, limit, -⟩ := met_context size
    exact ⟨depth, limit⟩
  | held _ size enters _ ih =>
    obtain ⟨-, deeper, limit, -⟩ := entered_context size enters
    exact ⟨by simp [Context.leave, ih.1, deeper], ih.2.trans limit⟩
  | cons _ _ first rest => exact ⟨rest.1.trans first.1, rest.2.trans first.2⟩

theorem run_sum_ne_none {n : ℕ} {vs : List Value} {ctx : Context} (finish : Usage → Outcome)
    (total : Usage) (free : ¬heap.Trapped (.all vs) ctx)
    (each : ∀ v ∈ vs, ∀ mid : Context, mid.depth = ctx.depth → mid.maxDepth = ctx.maxDepth →
      ¬heap.Trapped (.one v) mid → heap.account n v mid ≠ none) :
    (Appraisal.sum finish total vs).run (heap.account n) ctx ≠ none := by
  induction vs generalizing total ctx with
  | nil => exact Option.some_ne_none _
  | cons v vs ih =>
    have ends := each v (by simp) ctx rfl rfl fun trapped => free (.first trapped)
    obtain ⟨⟨result, mid⟩, run⟩ := Option.ne_none_iff_exists'.1 ends
    rw [Appraisal.sum, Appraisal.run, run]
    cases result with
    | error e => exact Option.some_ne_none _
    | ok u =>
      obtain ⟨depth, limit⟩ := (walk_of_account run).depth_eq
      apply ih
      · exact fun trapped => free (.later (walk_of_account run) trapped)
      · intro w inside later atDepth atLimit
        exact each w (by simp [inside]) later (atDepth.trans depth) (atLimit.trans limit)

-- Going down along parts of slots the rank falls, and every object on the way uses up a level of
-- what the context still allows.
theorem account_ne_none {n : ℕ} {v : Value} {ctx : Context} (free : ¬heap.Trapped (.one v) ctx)
    (enough : (ctx.maxDepth - ctx.depth) * (heap.slots.size + 2) + heap.valueRank v < n) :
    heap.account n v ctx ≠ none := by
  induction n generalizing v ctx with
  | zero => omega
  | succ n ih =>
    cases v with
    | slot s =>
      have apart : ¬Relation.TransGen heap.Contains s s := fun circle =>
        free (.circle ⟨s, .refl, circle⟩)
      rw [account_slot]
      apply run_sum_ne_none
      · exact fun trapped => free (.slot trapped)
      · intro w inside mid atDepth limit freeLater
        have lower := valueRank_lt apart inside
        have bound : heap.valueRank (.slot s) = heap.rank s := rfl
        apply ih freeLater
        rw [atDepth, limit]
        omega
    | object o =>
      cases seen : ctx.hasVisited o with
      | true => simp [account_again seen]
      | false =>
        rw [account_first seen]
        split
        case h_1 | h_2 => simp
        case h_3 met size =>
          split
          case h_1 => simp
          case h_2 entered enters =>
            have freeHeld : ¬heap.Trapped (.all (heap.holdings o).values) entered :=
              fun trapped => free (.held seen size enters trapped)
            obtain ⟨room, deeper, limited, -⟩ := entered_context size enters
            refine mt Option.map_eq_none_iff.1 (run_sum_ne_none _ _ freeHeld ?_)
            intro w _ mid atDepth limit freeLater
            have bound := heap.valueRank_le w
            have levels : ctx.maxDepth - ctx.depth = ctx.maxDepth - (ctx.depth + 1) + 1 := by omega
            rw [levels, Nat.succ_mul] at enough
            apply ih freeLater
            rw [atDepth, limit, deeper, limited]
            omega
    | _ => exact nofun

theorem usage?_ne_none_of_not_trapped {v : Value} {ctx : Context}
    (free : ¬heap.Trapped (.one v) ctx) : heap.usage? v ctx ≠ none := by
  apply account_ne_none free
  have levels := Nat.mul_le_mul_right (heap.slots.size + 2) (Nat.sub_le ctx.maxDepth ctx.depth)
  have rank := heap.valueRank_le v
  have slots : heap.memory.slots = heap.slots := rfl
  rw [Memory.nestingBound, slots, Nat.add_mul]
  omega

theorem Trapped.exists_circle {task : Task} {ctx : Context} (trapped : heap.Trapped task ctx) :
    ∃ s, Relation.TransGen heap.Contains s s := by
  induction trapped with
  | circle circular => exact circular.imp fun _ => And.right
  | slot _ ih | held _ _ _ _ ih | first _ ih | later _ _ ih => exact ih

theorem usage?_ne_none (acyclic : heap.SlotsAcyclic) (v : Value) (ctx : Context) :
    heap.usage? v ctx ≠ none := by
  apply usage?_ne_none_of_not_trapped
  intro trapped
  obtain ⟨s, circle⟩ := trapped.exists_circle
  exact acyclic s circle

end Heap

end ScriptValue
