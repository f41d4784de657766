import ScriptValue.Proofs.Accounting.Walk

set_option autoImplicit false

namespace ScriptValue

def latestReply (sizer : Sizer) (wanted : Handle) : List Handle → Option UInt64
  | [] => none
  | asked :: earlier =>
      if asked = wanted then
        match sizer earlier asked with
        | .ok size? => size?
        | .error _ => none
      else latestReply sizer wanted earlier

def Context.Steady (ctx : Context) : Prop :=
  ∀ sizer, ctx.sizer = some sizer → ∀ earlier earlier' h, sizer earlier h = sizer earlier' h

theorem Context.Steady.of_sizer {ctx mid : Context} (steady : ctx.Steady)
    (same : mid.sizer = ctx.sizer) : mid.Steady := by
  intro sizer known
  exact steady sizer (same ▸ known)

namespace Heap

def reported (heap : Heap) (ctx : Context) (o : ObjectId) : Option UInt64 :=
  match heap.resource o, ctx.sizer with
  | some kind, some sizer => latestReply sizer ⟨o, kind⟩ ctx.asked
  | _, _ => none

variable {heap : Heap}

@[simp] theorem reported_visit (ctx : Context) (o : ObjectId) :
    heap.reported (ctx.visit o).2 = heap.reported ctx := rfl

theorem reported_nativeSize {o : ObjectId} {ctx met : Context} {size? : Option UInt64}
    (size : heap.nativeSize o ctx = (.ok size?, met)) :
    heap.reported met = Function.update (heap.reported ctx) o size? := by
  rw [nativeSize_eq] at size
  cases resource : heap.resource o with
  | none =>
    rw [resource] at size
    cases size
    exact (Function.update_eq_self_iff.2 (by simp [reported, resource])).symm
  | some kind =>
    rw [resource] at size
    obtain sizer | ⟨sizer, known⟩ := Option.eq_none_or_eq_some ctx.sizer
    · simp only [Context.nativeSize, sizer] at size
      cases size
      exact (Function.update_eq_self_iff.2 (by simp [reported, sizer])).symm
    · simp only [Context.nativeSize, known, Prod.mk.injEq] at size
      obtain ⟨reply, rfl⟩ := size
      funext p
      by_cases same : p = o
      · subst same
        simp [reported, resource, latestReply, reply]
      · rw [Function.update_of_ne same]
        cases other : heap.resource p with
        | none => simp [reported, other]
        | some kind' =>
          have differs : (⟨o, kind⟩ : Handle) ≠ ⟨p, kind'⟩ := by simp [Ne.symm same]
          simp [reported, other, known, latestReply, differs]

theorem nativeSize_fst_of_steady {ctx mid : Context} (steady : ctx.Steady)
    (sizer : mid.sizer = ctx.sizer) (o : ObjectId) :
    (heap.nativeSize o mid).1 = (heap.nativeSize o ctx).1 := by
  simp only [nativeSize_eq, Context.nativeSize, sizer]
  cases heap.resource o with
  | none => rfl
  | some kind =>
    obtain known | ⟨reply, known⟩ := Option.eq_none_or_eq_some ctx.sizer
    · simp [known]
    · simp [known, steady reply known mid.asked ctx.asked]

/-- What a successful walk over values has done: which objects it met for the first time, what is
visited afterwards, and what the sizes add up to. -/
structure Tour (heap : Heap) (vs : List Value) (ctx after : Context) (u : Usage)
    (fresh : Finset ObjectId) : Prop where
  unseen : ∀ o ∈ fresh, ctx.hasVisited o = false
  visited : ∀ o, after.hasVisited o = true ↔ ctx.hasVisited o = true ∨ o ∈ fresh
  kept : ∀ o ∉ fresh, heap.reported after o = heap.reported ctx o
  surface : ∀ v ∈ vs, ∀ o, heap.Shows v o → after.hasVisited o = true
  closed : ∀ p ∈ fresh, heap.reported after p = none → ∀ v ∈ (heap.holdings p).values,
    ∀ o, heap.Shows v o → after.hasVisited o = true
  reached : ∀ o ∈ fresh, ∃ v ∈ vs,
    heap.Reaches (fun p => p ∈ fresh ∧ heap.reported after p = none) v o
  sizer : after.sizer = ctx.sizer
  replies : ctx.Steady → ∀ o ∈ fresh, (heap.nativeSize o ctx).1 = .ok (heap.reported after o)
  total : u = .saturated
    ((vs.map heap.flat).sum + ∑ o ∈ fresh, heap.share (heap.reported after o) o)

theorem Reaches.mono {isOpen isOpen' : ObjectId → Prop} {v : Value} {o : ObjectId}
    (reaches : heap.Reaches isOpen v o) (opens : ∀ p, isOpen p → isOpen' p) :
    heap.Reaches isOpen' v o :=
  Relation.ReflTransGen.mono (fun _ _ => Edge.mono opens) _ _ reaches

theorem shows_object {o p : ObjectId} : heap.Shows (.object o) p ↔ p = o := by
  constructor
  · intro shows
    obtain same | ⟨_, step, _⟩ := Relation.ReflTransGen.cases_head shows
    · exact (Value.object.inj same).symm
    · cases step with
      | held isOpen => exact isOpen.elim
  · intro same
    rw [same]
    exact .refl

theorem shows_slot {s : SlotId} {o : ObjectId} :
    heap.Shows (.slot s) o ↔ ∃ v ∈ heap.parts s, heap.Shows v o := by
  constructor
  · intro shows
    obtain same | ⟨v, step, rest⟩ := Relation.ReflTransGen.cases_head shows
    · simp at same
    · cases step with
      | part inside => exact ⟨v, inside, rest⟩
  · intro shows
    obtain ⟨v, inside, shows⟩ := shows
    exact .head (.part inside) shows

structure Meets (heap : Heap) (o : ObjectId) (size? : Option UInt64) (ctx met : Context) :
    Prop where
  unseen : ctx.hasVisited o = false
  visited : ∀ p, met.hasVisited p = (decide (p = o) || ctx.hasVisited p)
  reports : heap.reported met = Function.update (heap.reported ctx) o size?
  sizer : met.sizer = ctx.sizer
  reply : ctx.Steady → (heap.nativeSize o ctx).1 = .ok size?

theorem meets_of_nativeSize {o : ObjectId} {ctx met : Context} {size? : Option UInt64}
    (unseen : ctx.hasVisited o = false)
    (size : heap.nativeSize o (ctx.visit o).2 = (.ok size?, met)) : heap.Meets o size? ctx met where
  unseen := unseen
  visited := (met_context size).2.2.2
  reports := by rw [reported_nativeSize size, reported_visit]
  sizer := (met_context size).2.2.1
  reply := by
    intro steady
    have visited : (ctx.visit o).2.sizer = ctx.sizer := rfl
    rw [← nativeSize_fst_of_steady steady visited, size]

theorem Meets.enter {o : ObjectId} {ctx met entered : Context} {size? : Option UInt64}
    (meets : heap.Meets o size? ctx met) (enters : met.enter = .ok entered) :
    heap.Meets o size? ctx entered := by
  obtain ⟨_, rfl⟩ := Context.enter_eq_ok.1 enters
  exact ⟨meets.unseen, meets.visited, meets.reports, meets.sizer, meets.reply⟩

namespace Tour

theorem nil (ctx : Context) : heap.Tour [] ctx ctx 0 ∅ where
  unseen := by simp
  visited := by simp
  kept := by simp
  surface := by simp
  closed := by simp
  reached := by simp
  sizer := rfl
  replies := by simp
  total := by simp

theorem append {vs ws : List Value} {ctx mid after : Context} {u w : Usage}
    {fresh later : Finset ObjectId} (first : heap.Tour vs ctx mid u fresh)
    (second : heap.Tour ws mid after w later) :
    heap.Tour (vs ++ ws) ctx after (u + w) (fresh ∪ later) := by
  have apart : Disjoint fresh later := by
    rw [Finset.disjoint_left]
    intro o early late
    have seen := (first.visited o).2 (.inr early)
    rw [second.unseen o late] at seen
    simp at seen
  have settled : ∀ o ∈ fresh, heap.reported after o = heap.reported mid o := fun o early =>
    second.kept o (Finset.disjoint_left.1 apart early)
  have remains : ∀ o, mid.hasVisited o = true → after.hasVisited o = true := fun o seen =>
    (second.visited o).2 (.inl seen)
  constructor
  case unseen =>
    intro o met
    obtain early | late := Finset.mem_union.1 met
    · exact first.unseen o early
    · by_contra seen
      have before := (first.visited o).2 (.inl (by simpa using seen))
      rw [second.unseen o late] at before
      simp at before
  case visited =>
    intro o
    rw [second.visited, first.visited, Finset.mem_union, or_assoc]
  case kept =>
    intro o never
    rw [Finset.mem_union, not_or] at never
    rw [second.kept o never.2, first.kept o never.1]
  case surface =>
    intro v inside o shows
    obtain early | late := List.mem_append.1 inside
    · exact remains o (first.surface v early o shows)
    · exact second.surface v late o shows
  case closed =>
    intro p met unreported v inside o shows
    obtain early | late := Finset.mem_union.1 met
    · rw [settled p early] at unreported
      exact remains o (first.closed p early unreported v inside o shows)
    · exact second.closed p late unreported v inside o shows
  case reached =>
    intro o met
    obtain early | late := Finset.mem_union.1 met
    · obtain ⟨v, inside, reaches⟩ := first.reached o early
      refine ⟨v, List.mem_append_left _ inside, reaches.mono ?_⟩
      intro p opened
      exact ⟨Finset.mem_union_left _ opened.1, (settled p opened.1).trans opened.2⟩
    · obtain ⟨v, inside, reaches⟩ := second.reached o late
      refine ⟨v, List.mem_append_right _ inside, reaches.mono ?_⟩
      intro p opened
      exact ⟨Finset.mem_union_right _ opened.1, opened.2⟩
  case sizer => exact second.sizer.trans first.sizer
  case replies =>
    intro steady o met
    obtain early | late := Finset.mem_union.1 met
    · rw [settled o early]
      exact first.replies steady o early
    · rw [← nativeSize_fst_of_steady steady first.sizer]
      exact second.replies (steady.of_sizer first.sizer) o late
  case total =>
    have shares : ∑ o ∈ fresh, heap.share (heap.reported after o) o =
        ∑ o ∈ fresh, heap.share (heap.reported mid o) o :=
      Finset.sum_congr rfl fun o early => by rw [settled o early]
    rw [first.total, second.total, ← Usage.saturated_add, List.map_append, List.sum_append,
      Finset.sum_union apart, shares, add_add_add_comm]

theorem scalar {v : Value} (ctx : Context) (noObject : ∀ o, v ≠ .object o)
    (noSlot : ∀ s, v ≠ .slot s) : heap.Tour [v] ctx ctx v.flatUsage ∅ where
  unseen := by simp
  visited := by simp
  kept := by simp
  surface := by
    rw [List.forall_mem_singleton]
    intro o shows
    obtain same | ⟨_, step, _⟩ := Relation.ReflTransGen.cases_head shows
    · exact absurd same (noObject o)
    · cases step with
      | part => exact absurd rfl (noSlot _)
      | held => exact absurd rfl (noObject _)
  closed := by simp
  reached := by simp
  sizer := rfl
  replies := by simp
  total := by
    have flat : heap.flat v = v.flatUsage.exact := by
      cases v with
      | slot s => exact absurd rfl (noSlot s)
      | _ => rfl
    simp [flat]

theorem slot (acyclic : heap.SlotsAcyclic) {s : SlotId} {ctx after : Context} {u : Usage}
    {fresh : Finset ObjectId} (parts : heap.Tour (heap.parts s) ctx after u fresh) :
    heap.Tour [.slot s] ctx after u fresh where
  unseen := parts.unseen
  visited := parts.visited
  kept := parts.kept
  surface := by
    rw [List.forall_mem_singleton]
    intro o shows
    obtain ⟨v, inside, shows⟩ := shows_slot.1 shows
    exact parts.surface v inside o shows
  closed := parts.closed
  reached := by
    intro o met
    obtain ⟨v, inside, reaches⟩ := parts.reached o met
    exact ⟨.slot s, by simp, .head (.part inside) reaches⟩
  sizer := parts.sizer
  replies := parts.replies
  total := by
    rw [parts.total, List.map_singleton, List.sum_singleton, flat_slot acyclic]

theorem again {o : ObjectId} {ctx : Context} (seen : ctx.hasVisited o = true) :
    heap.Tour [.object o] ctx (ctx.visit o).2 0 ∅ where
  unseen := by simp
  visited := by
    intro p
    by_cases same : p = o
    · simp [same, seen]
    · simp [same]
  kept := by simp
  surface := by
    rw [List.forall_mem_singleton]
    intro p shows
    simp [shows_object.1 shows]
  closed := by simp
  reached := by simp
  sizer := rfl
  replies := by simp
  total := by simp [flat_object]

theorem sized {o : ObjectId} {ctx met : Context} {size : UInt64}
    (meets : heap.Meets o (some size) ctx met) :
    heap.Tour [.object o] ctx met (.uniform size) {o} where
  unseen := by simp [meets.unseen]
  visited := by simp [meets.visited, or_comm]
  kept := by
    intro p other
    rw [meets.reports, Function.update_of_ne (by simpa using other)]
  surface := by
    rw [List.forall_mem_singleton]
    intro p shows
    simp [meets.visited, shows_object.1 shows]
  closed := by simp [meets.reports]
  reached := by
    intro p met
    exact ⟨.object o, by simp, by rw [Finset.mem_singleton.1 met]; exact .refl⟩
  sizer := meets.sizer
  replies := by
    intro steady p met
    rw [Finset.mem_singleton.1 met, meets.reports, Function.update_self]
    exact meets.reply steady
  total := by simp [meets.reports, flat_object, share]

theorem held {o : ObjectId} {ctx met after : Context} {u : Usage} {fresh : Finset ObjectId}
    (meets : heap.Meets o none ctx met)
    (inner : heap.Tour (heap.holdings o).values met after u fresh) :
    heap.Tour [.object o] ctx after ((heap.holdings o).own + u) (insert o fresh) := by
  have metOnce : o ∉ fresh := by
    intro again
    have unseen := inner.unseen o again
    simp [meets.visited] at unseen
  have unreported : heap.reported after o = none := by
    rw [inner.kept o metOnce, meets.reports, Function.update_self]
  constructor
  case unseen =>
    intro p new
    obtain rfl | deeper := Finset.mem_insert.1 new
    · exact meets.unseen
    · have unseen := inner.unseen p deeper
      rw [meets.visited, Bool.or_eq_false_iff] at unseen
      exact unseen.2
  case visited =>
    intro p
    rw [inner.visited, meets.visited, Finset.mem_insert, Bool.or_eq_true, decide_eq_true_iff]
    tauto
  case kept =>
    intro p never
    rw [Finset.mem_insert, not_or] at never
    rw [inner.kept p never.2, meets.reports, Function.update_of_ne never.1]
  case surface =>
    rw [List.forall_mem_singleton]
    intro p shows
    rw [shows_object.1 shows, inner.visited, meets.visited]
    simp
  case closed =>
    intro p new sizeless v inside q shows
    obtain rfl | deeper := Finset.mem_insert.1 new
    · exact inner.surface v inside q shows
    · exact inner.closed p deeper sizeless v inside q shows
  case reached =>
    intro p new
    refine ⟨.object o, by simp, ?_⟩
    obtain rfl | deeper := Finset.mem_insert.1 new
    · exact .refl
    · obtain ⟨v, inside, reaches⟩ := inner.reached p deeper
      refine .head (.held ⟨Finset.mem_insert_self o fresh, unreported⟩ inside) (reaches.mono ?_)
      intro q opened
      exact ⟨Finset.mem_insert_of_mem opened.1, opened.2⟩
  case sizer => exact inner.sizer.trans meets.sizer
  case replies =>
    intro steady p new
    obtain rfl | deeper := Finset.mem_insert.1 new
    · rw [unreported]
      exact meets.reply steady
    · rw [← nativeSize_fst_of_steady steady meets.sizer]
      exact inner.replies (steady.of_sizer meets.sizer) p deeper
  case total =>
    have own : Usage.saturated (heap.holdings o).own.exact = (heap.holdings o).own :=
      Usage.saturated_exact _
    rw [Finset.sum_insert metOnce, unreported, share, List.map_singleton, List.sum_singleton,
      flat_object, zero_add, add_assoc, Usage.saturated_add, own, ← inner.total]

theorem leave {vs : List Value} {ctx after : Context} {u : Usage} {fresh : Finset ObjectId}
    (tour : heap.Tour vs ctx after u fresh) : heap.Tour vs ctx after.leave u fresh :=
  ⟨tour.unseen, tour.visited, tour.kept, tour.surface, tour.closed, tour.reached, tour.sizer,
    tour.replies, tour.total⟩

end Tour

theorem Walk.tour (acyclic : heap.SlotsAcyclic) {task : Task} {ctx after : Context}
    {result : Outcome} (walk : heap.Walk task ctx result after) {u : Usage} (ok : result = .ok u) :
    ∃ fresh, heap.Tour task.values ctx after u fresh := by
  induction walk generalizing u with
  | unsized | deep | stop => simp at ok
  | scalar noObject noSlot =>
    cases ok
    exact ⟨∅, .scalar _ noObject noSlot⟩
  | slot _ ih =>
    obtain ⟨fresh, tour⟩ := ih ok
    exact ⟨fresh, tour.slot acyclic⟩
  | again seen =>
    cases ok
    exact ⟨∅, .again seen⟩
  | sized unseen size =>
    cases ok
    exact ⟨_, .sized (meets_of_nativeSize unseen size)⟩
  | held unseen size enters _ ih =>
    obtain ⟨held, sum, _, rfl⟩ := Holdings.outcome_eq_ok.1 ok
    obtain ⟨fresh, tour⟩ := ih sum
    have meets := (meets_of_nativeSize unseen size).enter enters
    exact ⟨_, (tour.held meets).leave⟩
  | nil =>
    cases ok
    exact ⟨∅, .nil _⟩
  | @cons v vs ctx mid after u rest _ _ first later =>
    cases rest with
    | error e => simp [Except.map] at ok
    | ok w =>
      cases ok
      obtain ⟨fresh, front⟩ := first rfl
      obtain ⟨more, back⟩ := later rfl
      exact ⟨_, front.append back⟩

section Reach

variable {v : Value} {ctx after : Context} {u : Usage} {fresh : Finset ObjectId}

theorem Tour.mem_of_hasVisited (tour : heap.Tour [v] ctx after u fresh) {o : ObjectId}
    (seen : after.hasVisited o = true) (unseen : ctx.hasVisited o = false) : o ∈ fresh := by
  have before : ¬ctx.hasVisited o = true := by simp [unseen]
  exact ((tour.visited o).1 seen).resolve_left before

theorem Tour.reaches_of_mem (tour : heap.Tour [v] ctx after u fresh) {o : ObjectId}
    (met : o ∈ fresh) : heap.Reaches (fun p => p ∈ fresh ∧ heap.reported after p = none) v o := by
  obtain ⟨w, inside, reaches⟩ := tour.reached o met
  rw [List.mem_singleton] at inside
  rw [← inside]
  exact reaches

-- From what is visited afterwards no step through an open object leads away.
theorem Tour.visited_of_reaches (tour : heap.Tour [v] ctx after u fresh)
    {isOpen : ObjectId → Prop}
    (opens : ∀ p, isOpen p → after.hasVisited p = true → p ∈ fresh ∧ heap.reported after p = none)
    {o : ObjectId} (reaches : heap.Reaches isOpen v o) : after.hasVisited o = true := by
  have spreads (w : Value) (path : Relation.ReflTransGen (heap.Edge isOpen) v w) :
      ∀ p, heap.Shows w p → after.hasVisited p = true := by
    induction path with
    | refl => exact tour.surface v (by simp)
    | tail _ step ih =>
      intro p shows
      cases step with
      | part inside => exact ih p (shows_slot.2 ⟨_, inside, shows⟩)
      | @held q _ isOpen inside =>
        obtain ⟨met, unreported⟩ := opens q isOpen (ih q .refl)
        exact tour.closed q met unreported _ inside p shows
  exact spreads _ reaches o .refl

theorem Tour.mem_iff (tour : heap.Tour [v] ctx after u fresh) (o : ObjectId) :
    o ∈ fresh ↔ ctx.hasVisited o = false ∧
      heap.Reaches (fun p => ctx.hasVisited p = false ∧ heap.reported after p = none) v o := by
  constructor
  · intro met
    refine ⟨tour.unseen o met, (tour.reaches_of_mem met).mono ?_⟩
    intro p opened
    exact ⟨tour.unseen p opened.1, opened.2⟩
  · intro outside
    obtain ⟨unseen, reaches⟩ := outside
    refine tour.mem_of_hasVisited (tour.visited_of_reaches ?_ reaches) unseen
    intro p opened seen
    exact ⟨tour.mem_of_hasVisited seen opened.1, opened.2⟩

end Reach

/-- The same objects and slots, but for the order in which objects account for their values. -/
structure Rearranged (heap other : Heap) : Prop where
  resource : other.resource = heap.resource
  slots : other.slots = heap.slots
  own : ∀ o, (other.holdings o).own = (heap.holdings o).own
  values : ∀ o, (other.holdings o).values.Perm (heap.holdings o).values

namespace Rearranged

variable {other : Heap}

theorem symm (alike : heap.Rearranged other) : other.Rearranged heap where
  resource := alike.resource.symm
  slots := alike.slots.symm
  own o := (alike.own o).symm
  values o := (alike.values o).symm

theorem parts_eq (alike : heap.Rearranged other) : other.parts = heap.parts := by
  funext s
  have same : other.memory.slots = heap.memory.slots := alike.slots
  rw [parts, parts, Memory.parts, Memory.parts, same]

theorem slotsAcyclic (alike : heap.Rearranged other) (acyclic : heap.SlotsAcyclic) :
    other.SlotsAcyclic := by
  have same : other.Contains = heap.Contains := by
    funext s t
    rw [Contains, Contains, alike.parts_eq]
  rw [SlotsAcyclic, same]
  exact acyclic

theorem flat_eq (alike : heap.Rearranged other) : other.flat = heap.flat := by
  have same (n : ℕ) : other.flatDown n = heap.flatDown n := by
    induction n with
    | zero =>
      funext v
      cases v <;> rfl
    | succ n ih =>
      funext v
      cases v with
      | slot s => rw [flatDown, flatDown, ih, alike.parts_eq]
      | _ => rfl
  funext v
  rw [flat, flat, alike.slots, same]

theorem share_eq (alike : heap.Rearranged other) (size? : Option UInt64) (o : ObjectId) :
    other.share size? o = heap.share size? o := by
  cases size? with
  | some size => rfl
  | none =>
    rw [share, share, alike.own, alike.flat_eq]
    exact congrArg _ ((alike.values o).map heap.flat).sum_eq

theorem reaches (alike : heap.Rearranged other) {isOpen : ObjectId → Prop} {v : Value}
    {o : ObjectId} (reaches : other.Reaches isOpen v o) : heap.Reaches isOpen v o := by
  refine Relation.ReflTransGen.mono ?_ _ _ reaches
  intro w w' edge
  cases edge with
  | part inside =>
    rw [alike.parts_eq] at inside
    exact .part inside
  | held isOpen inside => exact .held isOpen ((alike.values _).mem_iff.1 inside)

theorem nativeSize_eq (alike : heap.Rearranged other) (o : ObjectId) (ctx : Context) :
    other.nativeSize o ctx = heap.nativeSize o ctx := by
  rw [Heap.nativeSize_eq, Heap.nativeSize_eq, alike.resource]

variable {v : Value} {ctx after after' : Context} {u u' : Usage} {fresh fresh' : Finset ObjectId}

theorem subset (alike : heap.Rearranged other) (tour : heap.Tour [v] ctx after u fresh)
    (tour' : other.Tour [v] ctx after' u' fresh')
    (agree : ∀ o ∈ fresh, o ∈ fresh' → other.reported after' o = heap.reported after o) :
    fresh' ⊆ fresh := by
  intro o new
  have unseen := tour'.unseen o new
  have reaches := alike.reaches (tour'.reaches_of_mem new)
  refine tour.mem_of_hasVisited (tour.visited_of_reaches ?_ reaches) unseen
  intro p opened seen
  have met := tour.mem_of_hasVisited seen (tour'.unseen p opened.1)
  exact ⟨met, (agree p met opened.1).symm.trans opened.2⟩

theorem reported_eq (alike : heap.Rearranged other) (tour : heap.Tour [v] ctx after u fresh)
    (tour' : other.Tour [v] ctx after' u' fresh') (steady : ctx.Steady) {o : ObjectId}
    (met : o ∈ fresh) (new : o ∈ fresh') : other.reported after' o = heap.reported after o := by
  have reply := tour.replies steady o met
  have reply' := tour'.replies steady o new
  rw [alike.nativeSize_eq, reply] at reply'
  exact (Except.ok.inj reply').symm

theorem total_eq (alike : heap.Rearranged other) (tour : heap.Tour [v] ctx after u fresh)
    (tour' : other.Tour [v] ctx after' u' fresh')
    (agree : ∀ o ∈ fresh, o ∈ fresh' → other.reported after' o = heap.reported after o) :
    u' = u ∧ ∀ o, after'.hasVisited o = after.hasVisited o := by
  have same : fresh' = fresh := by
    apply (alike.subset tour tour' agree).antisymm
    exact alike.symm.subset tour' tour fun o new met => (agree o met new).symm
  subst same
  constructor
  · have shares : ∑ o ∈ fresh', other.share (other.reported after' o) o =
        ∑ o ∈ fresh', heap.share (heap.reported after o) o :=
      Finset.sum_congr rfl fun o met => by rw [alike.share_eq, agree o met met]
    rw [tour.total, tour'.total, alike.flat_eq, shares]
  · intro o
    rw [Bool.eq_iff_iff, tour.visited, tour'.visited]

end Rearranged

-- Reported sizes are read off the context afterwards. A rearranged heap may be asked about in
-- another order, and comes to the same total where replies do not depend on that order.
theorem usage_exact {heap : Heap} (acyclic : heap.SlotsAcyclic) (v : Value) (ctx : Context) :
    ∃ result after, heap.usage? v ctx = some (result, after) ∧ ∀ u, result = .ok u →
      ∃ fresh : Finset ObjectId,
        (∀ o, o ∈ fresh ↔ ctx.hasVisited o = false ∧
          heap.Reaches (fun p => ctx.hasVisited p = false ∧ heap.reported after p = none) v o) ∧
        (∀ o, after.hasVisited o = true ↔ ctx.hasVisited o = true ∨ o ∈ fresh) ∧
        u = .saturated (heap.flat v + ∑ o ∈ fresh, heap.share (heap.reported after o) o) ∧
        ∀ other : Heap, heap.Rearranged other → ∀ u' after',
          other.usage? v ctx = some (.ok u', after') →
          (ctx.Steady ∨ ∀ o ∈ fresh, after'.hasVisited o = true →
            other.reported after' o = heap.reported after o) →
          u' = u ∧ ∀ o, after'.hasVisited o = after.hasVisited o := by
  obtain ⟨⟨result, after⟩, run⟩ := Option.ne_none_iff_exists'.1 (usage?_ne_none acyclic v ctx)
  refine ⟨result, after, run, ?_⟩
  intro u ok
  obtain ⟨fresh, tour⟩ := (walk_of_account run).tour acyclic ok
  refine ⟨fresh, tour.mem_iff, tour.visited, by simpa [Task.values] using tour.total, ?_⟩
  intro other alike u' after' run' answers
  obtain ⟨fresh', tour'⟩ := (walk_of_account run').tour (alike.slotsAcyclic acyclic) rfl
  refine alike.total_eq tour tour' ?_
  intro o met new
  obtain steady | agree := answers
  · exact alike.reported_eq tour tour' steady met new
  · exact agree o met ((tour'.visited o).2 (.inr new))

def nested (values : List Value) : Heap where
  resource o := if o = ⟨0⟩ then none else some "buffer"
  holdings o :=
    if o = ⟨0⟩ then { values := values }
    else if o = ⟨2⟩ then { own := .uniform 2, values := [.object ⟨1⟩] }
    else { own := .uniform 1 }
  slots := #[]

theorem rearranged_nested {values values' : List Value} (perm : values'.Perm values) :
    (nested values).Rearranged (nested values') where
  resource := rfl
  slots := rfl
  own o := by by_cases first : o = ⟨0⟩ <;> simp [nested, first]
  values o := by by_cases first : o = ⟨0⟩ <;> simp [nested, first, perm]

theorem slotsAcyclic_nested (values : List Value) : (nested values).SlotsAcyclic := by
  apply slotsAcyclic_of_lt fun _ => 0
  intro s t contains
  simp [Contains, parts, Memory.parts, memory, nested] at contains

theorem exists_after {x : Option (Outcome × Context)} {outcome : Outcome}
    (found : x.map Prod.fst = some outcome) : ∃ after, x = some (outcome, after) := by
  obtain ⟨⟨_, after⟩, rfl, rfl⟩ := Option.map_eq_some_iff.1 found
  exact ⟨after, rfl⟩

def firstOnly : Sizer := fun earlier _ => .ok (if earlier.isEmpty then some 10 else none)

/-- The order of an object's values matters where only the first buffer asked about has a size: both
walks succeed, with different totals. Where no size is reported one order may succeed and the other
nest too deeply. -/
theorem usage_order_matters :
    (nested [.object ⟨1⟩, .object ⟨2⟩]).SlotsAcyclic ∧
      (nested [.object ⟨1⟩, .object ⟨2⟩]).Rearranged (nested [.object ⟨2⟩, .object ⟨1⟩]) ∧
      (∃ after, (nested [.object ⟨1⟩, .object ⟨2⟩]).usage? (.object ⟨0⟩)
        { sizer := some firstOnly } = some (.ok (.uniform 12), after)) ∧
      (∃ after, (nested [.object ⟨2⟩, .object ⟨1⟩]).usage? (.object ⟨0⟩)
        { sizer := some firstOnly } = some (.ok (.uniform 11), after)) ∧
      (∃ after, (nested [.object ⟨1⟩, .object ⟨2⟩]).usage? (.object ⟨0⟩)
        { maxDepth := 2 } = some (.ok (.uniform 3), after)) ∧
      ∃ after, (nested [.object ⟨2⟩, .object ⟨1⟩]).usage? (.object ⟨0⟩)
        { maxDepth := 2 } = some (.error (.depthLimit 2), after) := by
  refine ⟨slotsAcyclic_nested _, rearranged_nested (.swap ..), ?_, ?_, ?_, ?_⟩
  all_goals
    apply exists_after
    decide +kernel

def sharedBuffer : Heap where
  resource o := if o = ⟨2⟩ then some "buffer" else none
  holdings o :=
    if o = ⟨0⟩ then
      { own := .uniform 10, values := [.slot ⟨0⟩, .object ⟨2⟩, .slot ⟨0⟩] }
    else { own := .uniform 20, values := [.object ⟨0⟩, .object ⟨2⟩, .boolean true] }
  slots := #[.data (.slot ⟨1⟩) {}, .accessor (some ⟨1⟩) none true true]

theorem slotsAcyclic_sharedBuffer : sharedBuffer.SlotsAcyclic := by
  apply slotsAcyclic_of_lt fun s => 2 - s.index
  rintro ⟨_ | _ | i⟩ t contains <;>
    simp [Contains, parts, Memory.parts, memory, sharedBuffer, Slot.parts, Slot.data,
      Slot.accessor] at contains
  subst contains
  decide

theorem usage_exact_sharedBuffer :
    ∃ after, ∃ fresh : Finset ObjectId,
      sharedBuffer.usage? (.object ⟨0⟩) { maxDepth := 8, sizer := some fun _ _ => .ok (some 100) } =
        some (.ok (.uniform 131), after) ∧
      (∀ o, after.hasVisited o = true ↔ o ∈ fresh) ∧
      Usage.uniform 131 =
        .saturated (∑ o ∈ fresh, sharedBuffer.share (sharedBuffer.reported after o) o) := by
  obtain ⟨result, after, run, exact⟩ := usage_exact slotsAcyclic_sharedBuffer (.object ⟨0⟩)
    { maxDepth := 8, sizer := some fun _ _ => .ok (some 100) }
  have outcome : result = .ok (.uniform 131) := by
    have computed : (sharedBuffer.usage? (.object ⟨0⟩)
        { maxDepth := 8, sizer := some fun _ _ => .ok (some 100) }).map Prod.fst =
          some (.ok (.uniform 131)) := by decide +kernel
    rw [run] at computed
    exact Option.some.inj computed
  obtain ⟨fresh, _, visited, total, _⟩ := exact _ outcome
  refine ⟨after, fresh, by rw [run, outcome], ?_, ?_⟩
  · intro o
    rw [visited]
    simp [Context.hasVisited]
  · rw [total, flat_object, zero_add]

end Heap

end ScriptValue
