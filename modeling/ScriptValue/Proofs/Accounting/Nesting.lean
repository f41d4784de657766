import Mathlib.Data.List.Nodup
import Mathlib.Data.List.Perm.Subperm
import ScriptValue.Proofs.Accounting.Endless
import ScriptValue.Proofs.Accounting.Exact

set_option autoImplicit false

namespace ScriptValue

theorem Context.enter_eq_error {ctx : Context} {e : AccountingError} :
    ctx.enter = .error e ↔ ctx.maxDepth ≤ ctx.depth ∧ e = .depthLimit ctx.maxDepth := by
  rw [enter]
  split
  next deep => simp [deep, eq_comm]
  next room => simp [room]

theorem Holdings.outcome_eq_error {h : Holdings} (complete : h.failure = none) {result : Outcome}
    {e : AccountingError} (failed : h.outcome result = .error e) : result = .error e := by
  cases result with
  | ok held => simp [outcome, finish, complete, Except.bind] at failed
  | error e' => exact failed

def Context.raise (ctx : Context) (levels : ℕ) : Context :=
  { ctx with maxDepth := ctx.maxDepth + levels }

namespace Heap

variable {heap : Heap} {sizer : Option Sizer} {size : ObjectId → Option UInt64}

/-- However often it is asked about an object of the heap, the sizer gives the same size or none,
and it never fails. -/
def SizedBy (heap : Heap) (sizer : Option Sizer) (size : ObjectId → Option UInt64) : Prop :=
  ∀ ctx : Context, ctx.sizer = sizer → ∀ o, (heap.nativeSize o ctx).1 = .ok (size o)

def Leads (heap : Heap) (o p : ObjectId) : Prop := ∃ v ∈ (heap.holdings o).values, heap.Shows v p

/-- The objects on a way down from a value, none of them with a size of its own. Slots on the way
are part of the steps between objects; a slot is opened wherever it is met, so it may recur. -/
inductive Path (heap : Heap) (size : ObjectId → Option UInt64) : Value → List ObjectId → Prop
  | last {v : Value} {o : ObjectId} : heap.Shows v o → size o = none → Path heap size v [o]
  | step {v w : Value} {o : ObjectId} {path : List ObjectId} :
      heap.Shows v o → size o = none → w ∈ (heap.holdings o).values → Path heap size w path →
      Path heap size v (o :: path)

theorem Path.part {s : SlotId} {v : Value} {path : List ObjectId} (inside : v ∈ heap.parts s)
    (way : heap.Path size v path) : heap.Path size (.slot s) path := by
  cases way with
  | last shows unsized => exact .last (shows_slot.2 ⟨v, inside, shows⟩) unsized
  | step shows unsized held rest =>
    exact .step (shows_slot.2 ⟨v, inside, shows⟩) unsized held rest

theorem Path.unsized {v : Value} {path : List ObjectId} (way : heap.Path size v path) :
    ∀ o ∈ path, size o = none := by
  induction way with
  | last _ unsized => simpa using unsized
  | step _ unsized _ _ ih => exact List.forall_mem_cons.2 ⟨unsized, ih⟩

structure Settled (heap : Heap) (sizer : Option Sizer) (size : ObjectId → Option UInt64)
    (ctx : Context) : Prop where
  sizer : ctx.sizer = sizer
  visited : ∀ p, ctx.hasVisited p = true → heap.reported ctx p = size p

theorem Settled.enter {ctx entered : Context} (settled : heap.Settled sizer size ctx)
    (enters : ctx.enter = .ok entered) : heap.Settled sizer size entered := by
  obtain ⟨_, rfl⟩ := Context.enter_eq_ok.1 enters
  exact ⟨settled.sizer, settled.visited⟩

theorem Settled.meet (sizes : heap.SizedBy sizer size) {ctx met : Context}
    (settled : heap.Settled sizer size ctx) {o : ObjectId}
    {reply : Except AccountingError (Option UInt64)}
    (asks : heap.nativeSize o (ctx.visit o).2 = (reply, met)) :
    reply = .ok (size o) ∧ heap.Settled sizer size met := by
  have answer : reply = .ok (size o) := by
    rw [← sizes (ctx.visit o).2 settled.sizer o, asks]
  subst answer
  obtain ⟨-, -, keeps, visited⟩ := met_context asks
  refine ⟨rfl, keeps.trans settled.sizer, ?_⟩
  intro p seen
  rw [reported_nativeSize asks, reported_visit]
  by_cases same : p = o
  · rw [same, Function.update_self]
  · rw [Function.update_of_ne same]
    exact settled.visited p (by simpa [visited, same] using seen)

theorem Walk.settled (sizes : heap.SizedBy sizer size) {task : Task} {ctx after : Context}
    {result : Outcome} (walk : heap.Walk task ctx result after)
    (before : heap.Settled sizer size ctx) : heap.Settled sizer size after := by
  induction walk with
  | scalar | nil => exact before
  | slot _ ih | stop _ ih => exact ih before
  | @again o ctx seen =>
    refine ⟨before.sizer, ?_⟩
    intro p visited
    rw [reported_visit]
    by_cases same : p = o
    · exact before.visited p (same ▸ seen)
    · exact before.visited p (by simpa [same] using visited)
  | unsized _ asks | sized _ asks | deep _ asks => exact (before.meet sizes asks).2
  | held _ asks enters _ ih =>
    have inside := ih ((before.meet sizes asks).2.enter enters)
    exact ⟨inside.sizer, inside.visited⟩
  | cons _ _ first later => exact later (first before)

structure TooLong (heap : Heap) (size : ObjectId → Option UInt64) (ctx : Context) (v : Value)
    (path : List ObjectId) : Prop where
  way : heap.Path size v path
  distinct : path.Nodup
  unseen : ∀ o ∈ path, ctx.hasVisited o = false
  long : ctx.maxDepth < ctx.depth + path.length

theorem TooLong.part {ctx : Context} {s : SlotId} {v : Value} {path : List ObjectId}
    (inside : v ∈ heap.parts s) (tooLong : heap.TooLong size ctx v path) :
    heap.TooLong size ctx (.slot s) path :=
  ⟨tooLong.way.part inside, tooLong.distinct, tooLong.unseen, tooLong.long⟩

theorem TooLong.held {ctx met : Context} {o : ObjectId} {v : Value} {path : List ObjectId}
    (unseen : ctx.hasVisited o = false) (unsized : size o = none)
    (inside : v ∈ (heap.holdings o).values)
    (apart : ∀ p, met.hasVisited p = false → p ≠ o ∧ ctx.hasVisited p = false)
    (deeper : met.depth = ctx.depth + 1) (limit : met.maxDepth = ctx.maxDepth)
    (tooLong : heap.TooLong size met v path) : heap.TooLong size ctx (.object o) (o :: path) := by
  have apart (p : ObjectId) (on : p ∈ path) := apart p (tooLong.unseen p on)
  refine ⟨.step .refl unsized inside tooLong.way, ?_, ?_, ?_⟩
  · exact List.nodup_cons.2 ⟨fun again => (apart o again).1 rfl, tooLong.distinct⟩
  · intro p on
    obtain rfl | on := List.mem_cons.1 on
    · exact unseen
    · exact (apart p on).2
  · have long := tooLong.long
    rw [deeper, limit] at long
    rw [List.length_cons]
    omega

theorem TooLong.earlier {ctx mid : Context} {v : Value} {path : List ObjectId}
    (tooLong : heap.TooLong size mid v path)
    (unseen : ∀ o, mid.hasVisited o = false → ctx.hasVisited o = false)
    (depth : mid.depth = ctx.depth) (limit : mid.maxDepth = ctx.maxDepth) :
    heap.TooLong size ctx v path := by
  refine ⟨tooLong.way, tooLong.distinct, ?_, ?_⟩
  · exact fun o on => unseen o (tooLong.unseen o on)
  · rw [← depth, ← limit]
    exact tooLong.long

theorem Walk.exists_tooLong (sizes : heap.SizedBy sizer size)
    (complete : ∀ o, (heap.holdings o).failure = none) {task : Task} {ctx after : Context}
    {result : Outcome} (walk : heap.Walk task ctx result after)
    (before : heap.Settled sizer size ctx) {e : AccountingError} (failed : result = .error e) :
    e = .depthLimit ctx.maxDepth ∧
      ∃ v ∈ task.values, ∃ path, heap.TooLong size ctx v path := by
  induction walk generalizing e with
  | scalar | again | sized | nil => cases failed
  | slot _ ih =>
    obtain ⟨limit, v, inside, path, tooLong⟩ := ih before failed
    exact ⟨limit, _, .head _, path, tooLong.part inside⟩
  | unsized _ asks =>
    obtain ⟨answered, -⟩ := before.meet sizes asks
    cases answered
  | @deep o ctx met e' unseen asks refused =>
    cases failed
    obtain ⟨answered, -⟩ := before.meet sizes asks
    obtain ⟨depth, limit, -⟩ := met_context asks
    obtain ⟨full, rfl⟩ := Context.enter_eq_error.1 refused
    refine ⟨by rw [limit], _, .head _, [o], .last .refl (Except.ok.inj answered).symm, ?_, ?_, ?_⟩
    · exact List.nodup_singleton o
    · simpa using unseen
    · rw [List.length_singleton]
      omega
  | held unseen asks enters _ ih =>
    obtain ⟨answered, settled⟩ := before.meet sizes asks
    obtain ⟨-, deeper, limit, -⟩ := entered_context asks enters
    obtain ⟨error, v, inside, path, tooLong⟩ :=
      ih (settled.enter enters) (Holdings.outcome_eq_error (complete _) failed)
    have unsized := (Except.ok.inj answered).symm
    exact ⟨by rw [error, limit], _, .head _, _,
      tooLong.held unseen unsized inside (fun _ => unseen_of_entered asks enters) deeper limit⟩
  | @cons v vs ctx mid after u rest first _ _ later =>
    have rest_failed : rest = .error e := by
      cases rest with
      | error e' => exact failed
      | ok w => cases failed
    obtain ⟨depth, limit⟩ := first.depth_eq
    obtain ⟨error, w, inside, path, tooLong⟩ := later (first.settled sizes before) rest_failed
    refine ⟨by rw [error, limit], w, .tail _ inside, path, ?_⟩
    exact tooLong.earlier (fun _ => first.unseen) depth limit
  | stop _ ih =>
    obtain ⟨limit, v, inside, path, tooLong⟩ := ih before failed
    obtain rfl := List.mem_singleton.1 inside
    exact ⟨limit, v, .head _, path, tooLong⟩

structure Within (heap : Heap) (size : ObjectId → Option UInt64) (ctx : Context) (v : Value)
    (o : ObjectId) (path : List ObjectId) : Prop where
  way : heap.Path size v path
  last : path.getLast? = some o
  short : ctx.depth + path.length ≤ ctx.maxDepth

theorem Within.part {ctx : Context} {s : SlotId} {v : Value} {o : ObjectId} {path : List ObjectId}
    (inside : v ∈ heap.parts s) (within : heap.Within size ctx v o path) :
    heap.Within size ctx (.slot s) o path :=
  ⟨within.way.part inside, within.last, within.short⟩

theorem Within.held {ctx met : Context} {p o : ObjectId} {v : Value} {path : List ObjectId}
    (unsized : size p = none) (inside : v ∈ (heap.holdings p).values)
    (deeper : met.depth = ctx.depth + 1) (limit : met.maxDepth = ctx.maxDepth)
    (within : heap.Within size met v o path) : heap.Within size ctx (.object p) o (p :: path) where
  way := .step .refl unsized inside within.way
  last := by
    rw [List.getLast?_cons, within.last]
    rfl
  short := by
    have short := within.short
    rw [deeper, limit] at short
    rw [List.length_cons]
    omega

-- An object that is met for the first time is met at the end of what is open then.
theorem Walk.exists_within (sizes : heap.SizedBy sizer size) {task : Task} {ctx after : Context}
    {result : Outcome} (walk : heap.Walk task ctx result after)
    (before : heap.Settled sizer size ctx) {u : Usage} (ok : result = .ok u) {o : ObjectId}
    (unseen : ctx.hasVisited o = false) (seen : after.hasVisited o = true)
    (unsized : size o = none) :
    ∃ v ∈ task.values, ∃ path, heap.Within size ctx v o path := by
  induction walk generalizing u with
  | scalar | nil =>
    rw [unseen] at seen
    cases seen
  | slot _ ih =>
    obtain ⟨v, inside, path, within⟩ := ih before ok unseen seen
    exact ⟨_, .head _, path, within.part inside⟩
  | @again p ctx again =>
    have same : o = p := by simpa [unseen] using seen
    rw [same, again] at unseen
    cases unseen
  | unsized | deep | stop => cases ok
  | @sized p ctx met bytes _ asks =>
    obtain ⟨answered, -⟩ := before.meet sizes asks
    obtain ⟨-, -, -, visited⟩ := met_context asks
    have same : o = p := by simpa [visited, unseen] using seen
    rw [← same, unsized] at answered
    cases answered
  | @held p ctx met entered after result _ asks enters _ ih =>
    obtain ⟨answered, settled⟩ := before.meet sizes asks
    obtain ⟨room, deeper, limit, visited⟩ := entered_context asks enters
    obtain ⟨held, ok, -, -⟩ := Holdings.outcome_eq_ok.1 ok
    by_cases same : o = p
    · subst same
      exact ⟨_, .head _, [o], .last .refl unsized, rfl, room⟩
    · have unseen : entered.hasVisited o = false := by simpa [visited, same] using unseen
      obtain ⟨v, inside, path, within⟩ := ih (settled.enter enters) ok unseen seen
      have unsized := (Except.ok.inj answered).symm
      exact ⟨_, .head _, _, within.held unsized inside deeper limit⟩
  | @cons v vs ctx mid after u' rest first _ early later =>
    cases rest with
    | error e => cases ok
    | ok w =>
      cases met : mid.hasVisited o with
      | true =>
        obtain ⟨v', inside, found⟩ := early before rfl unseen met
        obtain rfl := List.mem_singleton.1 inside
        exact ⟨v', .head _, found⟩
      | false =>
        obtain ⟨depth, limit⟩ := first.depth_eq
        obtain ⟨v', inside, path, way, last, short⟩ :=
          later (first.settled sizes before) rfl met seen
        rw [depth, limit] at short
        exact ⟨v', .tail _ inside, path, way, last, short⟩

theorem Tour.visited_of_path {v : Value} {ctx after : Context} {u : Usage}
    {fresh : Finset ObjectId} (tour : heap.Tour [v] ctx after u fresh)
    (opens : ∀ p, size p = none → after.hasVisited p = true →
      p ∈ fresh ∧ heap.reported after p = none)
    {w : Value} (surface : ∀ o, heap.Shows w o → after.hasVisited o = true)
    {path : List ObjectId} (way : heap.Path size w path) :
    ∀ o ∈ path, after.hasVisited o = true := by
  induction way with
  | last shows _ => simpa using surface _ shows
  | step shows unsized inside _ ih =>
    obtain ⟨met, unreported⟩ := opens _ unsized (surface _ shows)
    rw [List.forall_mem_cons]
    exact ⟨surface _ shows, ih fun q => tour.closed _ met unreported _ inside q⟩

theorem nativeSize_raise (o : ObjectId) (ctx : Context) (levels : ℕ) :
    heap.nativeSize o (ctx.raise levels) =
      ((heap.nativeSize o ctx).1, (heap.nativeSize o ctx).2.raise levels) := by
  cases resource : heap.resource o with
  | none => simp only [nativeSize_eq, resource]
  | some kind =>
    have same : (ctx.raise levels).sizer = ctx.sizer := rfl
    cases known : ctx.sizer with
    | none => simp only [nativeSize_eq, resource, Context.nativeSize, same, known]
    | some sizer =>
      simp only [nativeSize_eq, resource, Context.nativeSize, same, known]
      rfl

theorem nativeSize_visit_raise {o : ObjectId} {ctx met : Context}
    {reply : Except AccountingError (Option UInt64)}
    (asks : heap.nativeSize o (ctx.visit o).2 = (reply, met)) (levels : ℕ) :
    heap.nativeSize o ((ctx.raise levels).visit o).2 = (reply, met.raise levels) := by
  have visit : ((ctx.raise levels).visit o).2 = (ctx.visit o).2.raise levels := rfl
  rw [visit, nativeSize_raise, asks]

-- A walk that succeeds never comes to the limit, so it goes the same way under a higher one.
theorem Walk.raise {task : Task} {ctx after : Context} {result : Outcome}
    (walk : heap.Walk task ctx result after) {u : Usage} (ok : result = .ok u) (levels : ℕ) :
    heap.Walk task (ctx.raise levels) result (after.raise levels) := by
  induction walk generalizing u with
  | scalar noObject noSlot => exact .scalar noObject noSlot
  | slot _ ih => exact .slot (ih ok)
  | again seen => exact .again seen
  | unsized | deep | stop => cases ok
  | sized unseen asks => exact .sized unseen (nativeSize_visit_raise asks levels)
  | @held o ctx met entered after result unseen asks enters _ ih =>
    obtain ⟨held, ok, -, -⟩ := Holdings.outcome_eq_ok.1 ok
    have enters' : (met.raise levels).enter = .ok (entered.raise levels) := by
      obtain ⟨room, rfl⟩ := Context.enter_eq_ok.1 enters
      exact Context.enter_eq_ok.2 ⟨Nat.lt_add_right levels room, rfl⟩
    have unseen' : (ctx.raise levels).hasVisited o = false := unseen
    exact .held unseen' (nativeSize_visit_raise asks levels) enters' (ih ok)
  | nil => exact .nil
  | @cons v vs ctx mid after w rest _ _ first later =>
    cases rest with
    | error e => cases ok
    | ok w => exact .cons (first rfl) (later rfl)

theorem usage?_of_walk (acyclic : heap.SlotsAcyclic) {v : Value} {ctx after : Context}
    {result : Outcome} (walk : heap.Walk (.one v) ctx result after) :
    heap.usage? v ctx = some (result, after) := by
  obtain ⟨⟨result', after'⟩, run⟩ := Option.ne_none_iff_exists'.1 (usage?_ne_none acyclic v ctx)
  obtain ⟨rfl, rfl⟩ := walk.unique (walk_of_account run)
  exact run

/-- Objects of which each leads to the next and to no other, but the last to none or back to the
first. -/
structure Chain (heap : Heap) (size : ObjectId → Option UInt64) (chain : List ObjectId) : Prop where
  distinct : chain.Nodup
  unsized : ∀ o ∈ chain, size o = none
  linked : chain.IsChain heap.Leads
  only : ∀ i o p, chain[i]? = some o → heap.Leads o p →
    chain[i + 1]? = some p ∨ chain[i + 1]? = none ∧ chain.head? = some p

theorem path_of_isChain {v : Value} {o : ObjectId} {rest : List ObjectId}
    (shows : heap.Shows v o) (unsized : ∀ p ∈ o :: rest, size p = none)
    (linked : (o :: rest).IsChain heap.Leads) : heap.Path size v (o :: rest) := by
  induction rest generalizing v o with
  | nil => exact .last shows (unsized o (.head _))
  | cons p rest ih =>
    obtain ⟨⟨w, inside, shows'⟩, linked⟩ := List.isChain_cons_cons.1 linked
    have way := ih shows' (fun q on => unsized q (.tail _ on)) linked
    exact .step shows (unsized o (.head _)) inside way

-- Every step goes at most one place down the chain.
theorem Chain.position {chain : List ObjectId} (links : heap.Chain size chain) {v : Value}
    {path : List ObjectId} (way : heap.Path size v path) {j : ℕ}
    (near : ∀ p, heap.Shows v p → ∃ i ≤ j, chain[i]? = some p) (k : ℕ) (o : ObjectId)
    (on : path[k]? = some o) : ∃ i ≤ j + k, chain[i]? = some o := by
  induction way generalizing j k with
  | last shows _ =>
    cases k with
    | zero =>
      obtain rfl := Option.some.inj on
      exact near _ shows
    | succ k => simp at on
  | @step v w p path shows _ inside _ ih =>
    cases k with
    | zero =>
      obtain rfl := Option.some.inj on
      exact near _ shows
    | succ k =>
      obtain ⟨i, close, place⟩ := near p shows
      have below (q : ObjectId) (shows' : heap.Shows w q) : ∃ i ≤ j + 1, chain[i]? = some q := by
        obtain next | ⟨-, first⟩ := links.only i p q place ⟨w, inside, shows'⟩
        · exact ⟨i + 1, by omega, next⟩
        · exact ⟨0, by omega, by rw [← List.head?_eq_getElem?, first]⟩
      obtain ⟨i, close, place⟩ := ih below k (by simpa using on)
      exact ⟨i, by omega, place⟩

theorem Chain.near_first {chain : List ObjectId} {o : ObjectId} (first : chain.head? = some o)
    (p : ObjectId) (shows : heap.Shows (.object o) p) : ∃ i ≤ 0, chain[i]? = some p := by
  rw [shows_object.1 shows]
  exact ⟨0, Nat.le_refl 0, by rw [← List.head?_eq_getElem?, first]⟩

theorem Chain.length_le {chain path : List ObjectId} {o : ObjectId} (links : heap.Chain size chain)
    (first : chain.head? = some o) (way : heap.Path size (.object o) path)
    (distinct : path.Nodup) : path.length ≤ chain.length := by
  refine (distinct.subperm ?_).length_le
  intro p on
  obtain ⟨k, on⟩ := List.mem_iff_getElem?.1 on
  obtain ⟨i, -, place⟩ := links.position way (near_first first) k p on
  exact List.mem_of_getElem? place

theorem Chain.le_length {chain path : List ObjectId} {o p : ObjectId}
    (links : heap.Chain size chain) (first : chain.head? = some o)
    (way : heap.Path size (.object o) path) (last : chain.getLast? = some p)
    (reached : path.getLast? = some p) : chain.length ≤ path.length := by
  rw [List.getLast?_eq_getElem?] at last reached
  obtain ⟨i, close, place⟩ := links.position way (near_first first) _ p reached
  obtain ⟨short, at_i⟩ := List.getElem?_eq_some_iff.1 place
  obtain ⟨_, at_last⟩ := List.getElem?_eq_some_iff.1 last
  have same := (links.distinct.getElem_inj_iff).1 (at_i.trans at_last.symm)
  have positive : path.length ≠ 0 := by
    intro empty
    simp [List.length_eq_zero_iff.1 empty] at reached
  omega

theorem Chain.path {chain : List ObjectId} {o : ObjectId} (links : heap.Chain size chain)
    (first : chain.head? = some o) : heap.Path size (.object o) chain := by
  cases chain with
  | nil => cases first
  | cons p rest =>
    obtain rfl := Option.some.inj first
    exact path_of_isChain .refl links.unsized links.linked

section Usage

variable {v : Value} {m : ℕ} {after : Context} {u : Usage}

theorem settled_fresh (heap : Heap) (sizer : Option Sizer) (size : ObjectId → Option UInt64)
    (m : ℕ) : heap.Settled sizer size { maxDepth := m, sizer := sizer } :=
  ⟨rfl, by simp [Context.hasVisited]⟩

theorem exists_short_of_ok (acyclic : heap.SlotsAcyclic) (sizes : heap.SizedBy sizer size)
    (run : heap.usage? v { maxDepth := m, sizer := sizer } = some (.ok u, after)) {o : ObjectId}
    {path : List ObjectId} (leads : heap.Path size v path) (on : o ∈ path)
    (unsized : size o = none) :
    ∃ short, heap.Path size v short ∧ short.getLast? = some o ∧ short.length ≤ m := by
  have walk := walk_of_account run
  have settled := settled_fresh heap sizer size m
  obtain ⟨fresh, tour⟩ := walk.tour acyclic rfl
  have seen : after.hasVisited o = true := by
    refine tour.visited_of_path ?_ (tour.surface v (.head _)) leads o on
    intro p sizeless visited
    refine ⟨tour.mem_of_hasVisited visited rfl, ?_⟩
    rw [(walk.settled sizes settled).visited p visited, sizeless]
  obtain ⟨w, inside, path, within⟩ := walk.exists_within sizes settled rfl rfl seen unsized
  obtain rfl := List.mem_singleton.1 inside
  exact ⟨path, within.way, within.last, by simpa using within.short⟩

theorem exists_tooLong_of_error (sizes : heap.SizedBy sizer size)
    (complete : ∀ o, (heap.holdings o).failure = none) {e : AccountingError}
    (run : heap.usage? v { maxDepth := m, sizer := sizer } = some (.error e, after)) :
    e = .depthLimit m ∧ ∃ path, heap.Path size v path ∧ path.Nodup ∧ m < path.length := by
  obtain ⟨limit, w, inside, path, tooLong⟩ :=
    (walk_of_account run).exists_tooLong sizes complete (settled_fresh heap sizer size m) rfl
  obtain rfl := List.mem_singleton.1 inside
  exact ⟨limit, path, tooLong.way, tooLong.distinct, by simpa using tooLong.long⟩

theorem usage?_of_higher_limit (acyclic : heap.SlotsAcyclic) {m' : ℕ} (higher : m ≤ m')
    (run : heap.usage? v { maxDepth := m, sizer := sizer } = some (.ok u, after)) :
    ∃ after', heap.usage? v { maxDepth := m', sizer := sizer } = some (.ok u, after') ∧
      ∀ o, after'.hasVisited o = after.hasVisited o := by
  obtain ⟨levels, rfl⟩ := Nat.exists_eq_add_of_le higher
  have walk := (walk_of_account run).raise rfl levels
  exact ⟨after.raise levels, usage?_of_walk acyclic walk, fun _ => rfl⟩

end Usage

/-- The limit on depth is on how many distinct objects nest. A walk that fails has come to the limit
on a path that is longer, along which no object recurs; where an object can only be reached by
longer paths it does fail; and where it succeeds, more levels make no difference. A chain of
objects, open or closed, is counted exactly if the limit is no less than its length. -/
theorem depth_limit_exact (acyclic : heap.SlotsAcyclic) (sizes : heap.SizedBy sizer size)
    (complete : ∀ o, (heap.holdings o).failure = none) (v : Value) (m : ℕ) :
    ∃ result after, heap.usage? v { maxDepth := m, sizer := sizer } = some (result, after) ∧
      (∀ e, result = .error e → e = .depthLimit m ∧
        ∃ path, heap.Path size v path ∧ path.Nodup ∧ m < path.length) ∧
      (∀ o, (∃ path, heap.Path size v path ∧ path.getLast? = some o) →
        (∀ path, heap.Path size v path → path.getLast? = some o → m < path.length) →
        ∃ e, result = .error e) ∧
      (∀ u, result = .ok u → ∀ m', m ≤ m' → ∃ after',
        heap.usage? v { maxDepth := m', sizer := sizer } = some (.ok u, after') ∧
          ∀ o, after'.hasVisited o = after.hasVisited o) ∧
      ∀ chain o, heap.Chain size chain → chain.head? = some o → v = .object o →
        ((∃ u, result = .ok u) ↔ chain.length ≤ m) := by
  obtain ⟨⟨result, after⟩, run⟩ := Option.ne_none_iff_exists'.1
    (usage?_ne_none acyclic v { maxDepth := m, sizer := sizer })
  have tooLong (e : AccountingError) (failed : result = .error e) :=
    exists_tooLong_of_error sizes complete (failed ▸ run)
  have beyond (o : ObjectId) (reached : ∃ path, heap.Path size v path ∧ path.getLast? = some o)
      (long : ∀ path, heap.Path size v path → path.getLast? = some o → m < path.length) :
      ∃ e, result = .error e := by
    cases result with
    | error e => exact ⟨e, rfl⟩
    | ok u =>
      obtain ⟨path, way, last⟩ := reached
      have on := List.mem_of_getLast? last
      obtain ⟨short, way, last, within⟩ :=
        exists_short_of_ok acyclic sizes run way on (way.unsized o on)
      exact absurd (long short way last) (Nat.not_lt.2 within)
  refine ⟨result, after, run, tooLong, beyond, ?_, ?_⟩
  · rintro u rfl m' higher
    exact usage?_of_higher_limit acyclic higher run
  · rintro chain o links first rfl
    constructor
    · rintro ⟨u, rfl⟩
      by_contra longer
      have some_last : chain.getLast? ≠ none := by
        cases chain <;> simp at first ⊢
      obtain ⟨p, last⟩ := Option.ne_none_iff_exists'.1 some_last
      obtain ⟨e, failed⟩ := beyond p ⟨chain, links.path first, last⟩ fun path way reached =>
        (Nat.lt_of_not_le longer).trans_le (links.le_length first way last reached)
      cases failed
    · intro fits
      cases result with
      | ok u => exact ⟨u, rfl⟩
      | error e =>
        obtain ⟨-, path, way, distinct, long⟩ := tooLong e rfl
        exact absurd (links.length_le first way distinct) (by omega)

-- Two objects share a slot that leads to one of them and to a third. The walk has the three nested,
-- and the slot open twice.
def sharedAccessor : Heap where
  resource _ := none
  holdings o := if o = ⟨2⟩ then {} else { values := [.slot ⟨0⟩] }
  slots := #[.accessor (some ⟨1⟩) (some ⟨2⟩) true true]

theorem slotsAcyclic_sharedAccessor : sharedAccessor.SlotsAcyclic := by
  apply slotsAcyclic_of_lt fun _ => 0
  rintro ⟨_ | i⟩ t contains <;>
    simp [Contains, parts, Memory.parts, memory, sharedAccessor, Slot.parts,
      Slot.accessor] at contains

theorem depth_limit_exact_sharedAccessor :
    (∃ path, sharedAccessor.Path (fun _ => none) (.object ⟨0⟩) path ∧ path.Nodup ∧
        2 < path.length) ∧
      ∃ after, sharedAccessor.usage? (.object ⟨0⟩) { maxDepth := 5 } = some (.ok 0, after) := by
  have sizes : sharedAccessor.SizedBy none fun _ => none := fun _ _ _ => rfl
  have complete (o : ObjectId) : (sharedAccessor.holdings o).failure = none := by
    by_cases third : o = ⟨2⟩ <;> simp [sharedAccessor, third]
  constructor
  · obtain ⟨result, after, run, tooLong, -⟩ :=
      depth_limit_exact slotsAcyclic_sharedAccessor sizes complete (.object ⟨0⟩) 2
    have failed : (sharedAccessor.usage? (.object ⟨0⟩) { maxDepth := 2 }).map Prod.fst =
        some (.error (.depthLimit 2)) := by decide +kernel
    rw [run] at failed
    exact (tooLong _ (Option.some.inj failed)).2
  · obtain ⟨result, after, run, -, -, higher, -⟩ :=
      depth_limit_exact slotsAcyclic_sharedAccessor sizes complete (.object ⟨0⟩) 3
    have counted : (sharedAccessor.usage? (.object ⟨0⟩) { maxDepth := 3 }).map Prod.fst =
        some (.ok 0) := by decide +kernel
    rw [run] at counted
    obtain ⟨after', run', -⟩ := higher 0 (Option.some.inj counted) 5 (by decide)
    exact ⟨after', run'⟩

end Heap

end ScriptValue
