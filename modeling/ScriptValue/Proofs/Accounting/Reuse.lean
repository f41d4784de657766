import Mathlib.Data.List.Count
import ScriptValue.Proofs.Accounting.Walk

set_option autoImplicit false

namespace ScriptValue

inductive Note where
  | visited (o : ObjectId) (first : Bool)
  | asked (h : Handle)
  | entered
  | refused
  | left (depth : ℕ)
  deriving DecidableEq

structure Noted where
  context : Context
  notes : List Note

namespace Noted

def requests : Requests Noted where
  visit o c :=
    let (first, ctx) := c.context.visit o
    (first, ⟨ctx, c.notes ++ [.visited o first]⟩)
  nativeSize h c :=
    let (reply, ctx) := c.context.nativeSize h
    (reply, ⟨ctx, c.notes ++ [.asked h]⟩)
  enter c :=
    match c.context.enter with
    | .ok ctx => (.ok (), ⟨ctx, c.notes ++ [.entered]⟩)
    | .error e => (.error e, ⟨c.context, c.notes ++ [.refused]⟩)
  leave c := ⟨c.context.leave, c.notes ++ [.left c.context.depth]⟩

theorem requests_respects : requests.Respects Context.requests Noted.context where
  visit _ _ := rfl
  nativeSize _ _ := rfl
  enter c := by
    cases enters : c.context.enter <;> simp [requests, Context.requests, enters]
  leave _ := rfl

theorem enter_eq_ok {c d : Noted} :
    requests.enter c = (.ok (), d) ↔
      ∃ ctx, c.context.enter = .ok ctx ∧ d = ⟨ctx, c.notes ++ [.entered]⟩ := by
  cases enters : c.context.enter <;> simp [requests, enters, eq_comm]

theorem enter_eq_error {c d : Noted} {e : AccountingError} :
    requests.enter c = (.error e, d) ↔
      c.context.enter = .error e ∧ d = ⟨c.context, c.notes ++ [.refused]⟩ := by
  cases enters : c.context.enter <;> simp [requests, enters, eq_comm]

end Noted

/-- Notes in which every level that is entered is left once, from the depth it was entered at. -/
inductive Bracketed : ℕ → List Note → Prop
  | nil {depth : ℕ} : Bracketed depth []
  | visited {depth : ℕ} {notes : List Note} (o : ObjectId) (first : Bool) :
      Bracketed depth notes → Bracketed depth (.visited o first :: notes)
  | asked {depth : ℕ} {notes : List Note} (h : Handle) :
      Bracketed depth notes → Bracketed depth (.asked h :: notes)
  | refused {depth : ℕ} {notes : List Note} :
      Bracketed depth notes → Bracketed depth (.refused :: notes)
  | level {depth : ℕ} {inner notes : List Note} :
      Bracketed (depth + 1) inner → Bracketed depth notes →
      Bracketed depth (.entered :: inner ++ .left (depth + 1) :: notes)

theorem Bracketed.append {depth : ℕ} {notes later : List Note} (first : Bracketed depth notes)
    (second : Bracketed depth later) : Bracketed depth (notes ++ later) := by
  induction first with
  | nil => exact second
  | visited o first _ ih => exact .visited o first (ih second)
  | asked h _ ih => exact .asked h (ih second)
  | refused _ ih => exact .refused (ih second)
  | level inner _ _ ih =>
    rw [List.append_assoc]
    exact .level inner (ih second)

theorem Bracketed.lt_of_left {depth : ℕ} {notes : List Note} (bracketed : Bracketed depth notes)
    {d : ℕ} (leaves : .left d ∈ notes) : depth < d := by
  induction bracketed with
  | nil => cases leaves
  | visited _ _ _ ih | asked _ _ ih | refused _ ih => exact ih (by simpa using leaves)
  | @level depth inner notes _ _ inside after =>
    simp only [List.cons_append, List.mem_cons, List.mem_append, reduceCtorEq, false_or,
      Note.left.injEq] at leaves
    obtain within | rfl | later := leaves
    · exact (Nat.lt_succ_self depth).trans (inside within)
    · exact Nat.lt_succ_self depth
    · exact after later

theorem Context.visit_fst (ctx : Context) (o : ObjectId) :
    (ctx.visit o).1 = !ctx.hasVisited o := rfl

structure Context.Serves (ctx : Context) (notes : List Note) (after : Context) : Prop where
  depth : after.depth = ctx.depth
  limit : after.maxDepth = ctx.maxDepth
  bracketed : Bracketed ctx.depth notes
  visited : ∀ o, after.hasVisited o = true ↔ ctx.hasVisited o = true ∨ .visited o true ∈ notes
  once : ∀ o, notes.count (.visited o true) ≤ if ctx.hasVisited o then 0 else 1

namespace Context.Serves

theorem nothing (ctx : Context) : ctx.Serves [] ctx :=
  ⟨rfl, rfl, .nil, by simp, by simp⟩

theorem append {ctx mid after : Context} {notes later : List Note} (first : ctx.Serves notes mid)
    (second : mid.Serves later after) : ctx.Serves (notes ++ later) after where
  depth := second.depth.trans first.depth
  limit := second.limit.trans first.limit
  bracketed := first.bracketed.append (first.depth ▸ second.bracketed)
  visited := by
    intro o
    rw [second.visited, first.visited, List.mem_append, or_assoc]
  once := by
    intro o
    have early := first.once o
    have late := second.once o
    rw [List.count_append]
    cases met : mid.hasVisited o with
    | true =>
      simp only [met, if_true, Nat.le_zero] at late
      omega
    | false =>
      have never : ¬(ctx.hasVisited o = true ∨ .visited o true ∈ notes) := by
        rw [← first.visited, met]
        decide
      rw [not_or] at never
      rw [List.count_eq_zero.2 never.2]
      simp only [never.1]
      simpa [met] using late

theorem visit (ctx : Context) (o : ObjectId) :
    ctx.Serves [.visited o (ctx.visit o).1] (ctx.visit o).2 where
  depth := rfl
  limit := rfl
  bracketed := .visited o _ .nil
  visited := by
    intro p
    rw [visit_fst, hasVisited_visit]
    by_cases same : p = o
    · subst same
      cases ctx.hasVisited p <;> simp
    · simp [same]
  once := by
    intro p
    rw [visit_fst]
    by_cases same : p = o
    · subst same
      cases ctx.hasVisited p <;> simp
    · simp [Ne.symm same]

theorem nativeSize (ctx : Context) (h : Handle) :
    ctx.Serves [.asked h] (ctx.nativeSize h).2 := by
  rw [Context.nativeSize]
  cases ctx.sizer with
  | none => exact ⟨rfl, rfl, .asked h .nil, by simp, by simp⟩
  | some sizer => exact ⟨rfl, rfl, .asked h .nil, by simp [hasVisited], by simp⟩

theorem refused (ctx : Context) : ctx.Serves [.refused] ctx :=
  ⟨rfl, rfl, .refused .nil, by simp, by simp⟩

theorem level {ctx entered after : Context} {notes : List Note} (enters : ctx.enter = .ok entered)
    (inside : entered.Serves notes after) :
    ctx.Serves (.entered :: notes ++ [.left after.depth]) after.leave := by
  obtain ⟨_, rfl⟩ := Context.enter_eq_ok.1 enters
  have deeper : after.depth = ctx.depth + 1 := inside.depth
  refine ⟨?_, inside.limit, ?_, ?_, ?_⟩
  · simp [leave, deeper]
  · rw [deeper]
    exact .level inside.bracketed .nil
  · intro o
    have visited : after.hasVisited o = true ↔
        ctx.hasVisited o = true ∨ .visited o true ∈ notes := inside.visited o
    have same : after.leave.hasVisited o = after.hasVisited o := rfl
    rw [same, visited]
    simp
  · intro o
    have once : notes.count (.visited o true) ≤ if ctx.hasVisited o then 0 else 1 := inside.once o
    simpa [List.count_append] using once

end Context.Serves

theorem Noted.requests_keep : Noted.requests.Keep fun c d =>
    ∃ notes, d.notes = c.notes ++ notes ∧ c.context.Serves notes d.context where
  refl c := ⟨[], by simp, .nothing _⟩
  trans := by
    rintro c d e ⟨notes, early, first⟩ ⟨later, late, second⟩
    exact ⟨notes ++ later, by rw [late, early, List.append_assoc], first.append second⟩
  visit o c := ⟨_, rfl, .visit c.context o⟩
  nativeSize h c := ⟨_, rfl, .nativeSize c.context h⟩
  refused := by
    intro c d e refuses
    rw [(Noted.enter_eq_error.1 refuses).2]
    exact ⟨_, rfl, .refused c.context⟩
  level := by
    rintro c d d' enters ⟨notes, inner, inside⟩
    obtain ⟨entered, opens, rfl⟩ := Noted.enter_eq_ok.1 enters
    refine ⟨_, ?_, .level opens inside⟩
    simp [requests, inner]

theorem Context.requests_keep_visited : Context.requests.Keep fun ctx later =>
    ∀ o, ctx.hasVisited o = true → later.hasVisited o = true where
  refl _ _ seen := seen
  trans first second o seen := second o (first o seen)
  visit o ctx p seen := by
    rw [requests, hasVisited_visit, seen, Bool.or_true]
  nativeSize h ctx o seen := ((Serves.nativeSize ctx h).visited o).2 (.inl seen)
  refused := by
    intro ctx later e refuses o seen
    rw [requests] at refuses
    dsimp only at refuses
    split at refuses <;> cases refuses
    exact seen
  level := by
    intro ctx entered after enters inside o seen
    rw [requests] at enters
    dsimp only at enters
    split at enters
    next _ opens =>
      cases enters
      obtain ⟨_, rfl⟩ := enter_eq_ok.1 opens
      exact inside o seen
    next => cases enters

namespace Memory

variable {memory other : Memory} {n : ℕ}

theorem hasVisited_of_account {v : Value} {ctx after : Context} {result : Outcome}
    (run : memory.account n v ctx = some (result, after)) {o : ObjectId}
    (seen : ctx.hasVisited o = true) : after.hasVisited o = true :=
  kept_of_accountVia Context.requests_keep_visited run o seen

def noted (memory : Memory) (n : ℕ) (v : Value) (ctx : Context) : Option (Outcome × Noted) :=
  memory.accountVia Noted.requests n v ⟨ctx, []⟩

theorem exists_notes {v : Value} {ctx after : Context} {result : Outcome}
    (returns : memory.account n v ctx = some (result, after)) :
    ∃ notes, memory.noted n v ctx = some (result, ⟨after, notes⟩) ∧ ctx.Serves notes after := by
  have mapped : memory.account n v ctx = (memory.noted n v ctx).map (Prod.map id Noted.context) :=
    accountVia_map Noted.requests_respects n v ⟨ctx, []⟩
  rw [returns] at mapped
  obtain ⟨⟨result', noted⟩, run, same⟩ := Option.map_eq_some_iff.1 mapped.symm
  cases same
  obtain ⟨notes, all, serves⟩ := kept_of_accountVia Noted.requests_keep run
  rw [List.nil_append] at all
  exact ⟨notes, by rw [run, ← all]; rfl, serves⟩

structure AgreesUnseen (memory other : Memory) (ctx : Context) : Prop where
  slots : other.slots = memory.slots
  resource : ∀ o, ctx.hasVisited o = false → other.resource o = memory.resource o
  appraisal : ∀ o, ctx.hasVisited o = false → other.appraisal o = memory.appraisal o

theorem AgreesUnseen.later {ctx later : Context} (agree : memory.AgreesUnseen other ctx)
    (visited : ∀ o, ctx.hasVisited o = true → later.hasVisited o = true) :
    memory.AgreesUnseen other later := by
  have unseen (o : ObjectId) (h : later.hasVisited o = false) : ctx.hasVisited o = false := by
    rw [← Bool.not_eq_true] at h ⊢
    exact mt (visited o) h
  exact ⟨agree.slots, fun o h => agree.resource o (unseen o h),
    fun o h => agree.appraisal o (unseen o h)⟩

-- Whatever a program makes of the answers, it gets the same ones.
theorem run_congr {ctx : Context} (agree : memory.AgreesUnseen other ctx)
    (each : ∀ v mid, memory.AgreesUnseen other mid →
      other.account n v mid = memory.account n v mid) (a : Appraisal) :
    a.run (other.account n) ctx = a.run (memory.account n) ctx := by
  induction a generalizing ctx with
  | done => rfl
  | count v next ih =>
    rw [Appraisal.run, Appraisal.run, each v ctx agree]
    rcases counted : memory.account n v ctx with _ | ⟨outcome, mid⟩
    · rfl
    · exact ih outcome (agree.later fun o => hasVisited_of_account counted)

theorem account_congr {v : Value} {ctx : Context} (agree : memory.AgreesUnseen other ctx) :
    other.account n v ctx = memory.account n v ctx := by
  induction n generalizing v ctx with
  | zero => cases v <;> rfl
  | succ n ih =>
    cases v with
    | slot s =>
      have parts : other.parts s = memory.parts s := by rw [Memory.parts, Memory.parts, agree.slots]
      rw [account, accountVia, parts]
      exact run_congr agree (fun _ _ => ih) _
    | object o =>
      cases seen : ctx.hasVisited o with
      | true => rw [account_again seen, account_again seen]
      | false =>
        have size (met : Context) : other.nativeSize Context.requests o met =
            memory.nativeSize Context.requests o met := by
          rw [nativeSize, nativeSize, agree.resource o seen]
        rw [account_first seen, account_first seen, size, agree.appraisal o seen]
        have visited := Context.requests_keep_visited.visit o ctx
        have asked (p : ObjectId) : (ctx.visit o).2.hasVisited p = true →
            (memory.nativeSize Context.requests o (ctx.visit o).2).2.hasVisited p = true :=
          kept_of_nativeSize Context.requests_keep_visited o (ctx.visit o).2 p
        split
        case h_1 | h_2 => rfl
        case h_3 met asks =>
          rw [asks] at asked
          split
          case h_1 => rfl
          case h_2 entered enters =>
            obtain ⟨_, rfl⟩ := Context.enter_eq_ok.1 enters
            have inside : memory.AgreesUnseen other { met with depth := met.depth + 1 } :=
              agree.later fun p h => asked p (visited p h)
            rw [run_congr inside fun _ _ => ih]
    | _ => rfl

def without (memory : Memory) (ctx : Context) : Memory where
  resource o := if ctx.hasVisited o then none else memory.resource o
  appraisal o := if ctx.hasVisited o then .done (.ok 0) else memory.appraisal o
  slots := memory.slots

theorem agreesUnseen_without (memory : Memory) (ctx : Context) :
    memory.AgreesUnseen (memory.without ctx) ctx where
  slots := rfl
  resource o unseen := by simp [without, unseen]
  appraisal o unseen := by simp [without, unseen]

end Memory

/-- One use of a context: a walk over any memory, or a request made directly. -/
inductive Context.Use : Context → Context → Prop
  | walk {ctx after : Context} {memory : Memory} {n : ℕ} {v : Value} {result : Outcome} :
      memory.account n v ctx = some (result, after) → Use ctx after
  | visit (ctx : Context) (o : ObjectId) : Use ctx (ctx.visit o).2
  | nativeSize (ctx : Context) (h : Handle) : Use ctx (ctx.nativeSize h).2
  | enter {ctx after : Context} : ctx.enter = .ok after → Use ctx after
  | leave (ctx : Context) : Use ctx ctx.leave

theorem Context.Use.hasVisited_mono {ctx after : Context} (use : ctx.Use after) {o : ObjectId}
    (seen : ctx.hasVisited o = true) : after.hasVisited o = true := by
  cases use with
  | walk returns => exact Memory.hasVisited_of_account returns seen
  | visit o => simp [seen]
  | nativeSize h => exact ((Serves.nativeSize ctx h).visited o).2 (.inl seen)
  | enter enters =>
    obtain ⟨_, rfl⟩ := Context.enter_eq_ok.1 enters
    exact seen
  | leave => exact seen

theorem Context.hasVisited_of_uses {ctx later : Context}
    (uses : Relation.ReflTransGen Context.Use ctx later) {o : ObjectId}
    (seen : ctx.hasVisited o = true) : later.hasVisited o = true := by
  induction uses with
  | refl => exact seen
  | tail _ use ih => exact use.hasVisited_mono ih

namespace Memory

/-- Whatever the objects make of what they are told of their values, and whether the walk ends with
a size or an error: it gives its context back at the depth at which it was given, with the limit it
had. Every level that was entered on the way was left once, never from the depth of the start or
above; what is visited was visited before, or is an object whose first visit is among the notes,
where it stands once. In later walks, after any other uses, the visited objects count as nothing,
and the memory may as well have nothing in them. -/
theorem context_reusable (memory : Memory) (n : ℕ) (v : Value) (ctx : Context) {result : Outcome}
    {after : Context} (returns : memory.account n v ctx = some (result, after)) :
    after.depth = ctx.depth ∧ after.maxDepth = ctx.maxDepth ∧
      (∃ notes, memory.noted n v ctx = some (result, ⟨after, notes⟩) ∧
        Bracketed ctx.depth notes ∧ (∀ depth, .left depth ∈ notes → ctx.depth < depth) ∧
        (∀ o, after.hasVisited o = true ↔ ctx.hasVisited o = true ∨ .visited o true ∈ notes) ∧
        ∀ o, notes.count (.visited o true) ≤ if ctx.hasVisited o then 0 else 1) ∧
      ∀ later, Relation.ReflTransGen Context.Use after later → ∀ (memory' : Memory) (m : ℕ),
        (∀ o, after.hasVisited o = true →
          memory'.account (m + 1) (.object o) later = some (.ok 0, (later.visit o).2)) ∧
        ∀ w, (memory'.without later).account m w later = memory'.account m w later := by
  obtain ⟨notes, run, serves⟩ := exists_notes returns
  refine ⟨serves.depth, serves.limit, ⟨notes, run, serves.bracketed, ?_, serves.visited,
    serves.once⟩, ?_⟩
  · intro depth leaves
    exact serves.bracketed.lt_of_left leaves
  · intro later uses memory' m
    constructor
    · intro o seen
      exact account_again (Context.hasVisited_of_uses uses seen)
    · intro w
      exact account_congr (memory'.agreesUnseen_without later)

def stubborn : Memory where
  resource _ := none
  appraisal o := .count (.object ⟨o.serial + 1⟩) fun _ => .count (.object ⟨o.serial + 2⟩) .done
  slots := #[]

-- The walk is refused twice at its third level, and still ends with a size.
theorem context_reusable_stubborn :
    ∃ after, stubborn.usage? (.object ⟨0⟩) { trail := [⟨7⟩], depth := 3, maxDepth := 5 } =
        some (.ok 0, after) ∧
      after.depth = 3 ∧
      stubborn.usage? (.object ⟨3⟩) after = some (.ok 0, (after.visit ⟨3⟩).2) := by
  have ended : (stubborn.usage? (.object ⟨0⟩) { trail := [⟨7⟩], depth := 3, maxDepth := 5 }).map
      (fun r => (r.1, r.2.maxDepth, r.2.hasVisited ⟨3⟩)) = some (.ok 0, 5, true) := by
    decide +kernel
  obtain ⟨⟨result, after⟩, run, same⟩ := Option.map_eq_some_iff.1 ended
  simp only [Prod.mk.injEq] at same
  obtain ⟨rfl, limit, seen⟩ := same
  obtain ⟨depth, -, -, later⟩ := stubborn.context_reusable _ _ _ run
  refine ⟨after, run, depth, ?_⟩
  rw [usage?, nestingBound, limit]
  exact (later after .refl stubborn 13).1 ⟨3⟩ seen

end Memory

end ScriptValue
