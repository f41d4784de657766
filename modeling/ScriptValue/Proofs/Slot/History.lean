import Mathlib.Data.List.Induction
import ScriptValue.Proofs.Host.Recorded
import ScriptValue.Slot.Access

set_option autoImplicit false

namespace ScriptValue

inductive SlotEvent where
  | set (receiver v : Value)
  | setFlags (flags : Flags)
  | setFunction (role : Role) (candidate : Value) (accepted : Bool)
  deriving DecidableEq

namespace SlotEvent

def converts : SlotEvent → Bool
  | .setFunction _ _ accepted => accepted
  | _ => false

def stored? : SlotEvent → Option Value
  | .set _ v => some v
  | _ => none

-- Clearing a function installs none.
def installed? (role : Role) : SlotEvent → Option (Option ObjectId)
  | .setFunction other candidate true => if other = role then some candidate.object? else none
  | _ => none

def writable? : SlotEvent → Option Bool
  | .setFlags flags => some flags.writable
  | .setFunction _ _ true => some false
  | _ => none

variable {α : Type}

def latest (kind : SlotEvent → Option α) (before : α) (events : List SlotEvent) : α :=
  (events.filterMap kind).getLast?.getD before

@[simp] theorem latest_concat (kind : SlotEvent → Option α) (before : α)
    (events : List SlotEvent) (e : SlotEvent) :
    latest kind before (events ++ [e]) = (kind e).getD (latest kind before events) := by
  cases found : kind e <;> simp [latest, List.filterMap_append, found]

theorem latest_of_mem {kind : SlotEvent → Option α} {before before' a : α}
    {events : List SlotEvent} {e : SlotEvent} (inside : e ∈ events) (found : kind e = some a) :
    latest kind before events = latest kind before' events := by
  have happened : events.filterMap kind ≠ [] :=
    List.ne_nil_of_mem (List.mem_filterMap.2 ⟨e, inside, found⟩)
  rw [latest, latest, List.getLast?_eq_some_getLast happened]
  rfl

end SlotEvent

namespace Slot

def after (slot : Slot) : SlotEvent → Slot
  | .set _ v => if slot.isAccessor then slot else slot.store v
  | .setFlags flags => slot.withFlags flags
  | .setFunction role candidate true => slot.install role candidate.object?
  | .setFunction _ _ false => slot

theorem isAccessor_after (slot : Slot) (e : SlotEvent) :
    (slot.after e).isAccessor = (slot.isAccessor || e.converts) := by
  cases e with
  | set receiver v => cases mode : slot.isAccessor <;> simp [after, mode, store, SlotEvent.converts]
  | setFlags flags => exact (Bool.or_false _).symm
  | setFunction role candidate accepted => cases accepted <;> simp [after, SlotEvent.converts]

theorem function?_after (slot : Slot) (role : Role) (e : SlotEvent) :
    (slot.after e).function? role = (e.installed? role).getD (slot.function? role) := by
  cases e with
  | set receiver v =>
    cases mode : slot.isAccessor <;> cases role <;> simp [after, mode, store] <;> rfl
  | setFlags flags => cases role <;> rfl
  | setFunction other candidate accepted =>
    cases accepted with
    | false => rfl
    | true =>
      by_cases same : role = other
      · simp [after, SlotEvent.installed?, function?_install, same]
      · simp [after, SlotEvent.installed?, function?_install, same, Ne.symm same]

theorem writable_after (slot : Slot) (e : SlotEvent) :
    (slot.after e).flags.writable = e.writable?.getD slot.flags.writable := by
  cases e with
  | set receiver v =>
    cases mode : slot.isAccessor <;> simp [after, mode, store, SlotEvent.writable?]
  | setFlags flags => rfl
  | setFunction role candidate accepted => cases accepted <;> simp [after, SlotEvent.writable?]

/-- What keeps the fields apart: without accessor mode there is a value and no function, and in
accessor mode there is no value. -/
structure Exclusive (slot : Slot) : Prop where
  value : slot.isAccessor = false → ∃ v, slot.value? = some v
  functions : slot.isAccessor = false → ∀ role, slot.function? role = none
  empty : slot.isAccessor = true → slot.value? = none

theorem Exclusive.store {slot : Slot} (exclusive : slot.Exclusive)
    (mode : slot.isAccessor = false) (v : Value) : (slot.store v).Exclusive where
  value _ := ⟨v, rfl⟩
  functions := exclusive.functions
  empty accessor := by
    rw [show (slot.store v).isAccessor = slot.isAccessor from rfl, mode] at accessor
    cases accessor

theorem exclusive_install (slot : Slot) (role : Role) (f : Option ObjectId) :
    (slot.install role f).Exclusive where
  value mode := by simp at mode
  functions mode := by simp at mode
  empty _ := value?_install slot role f

theorem Exclusive.after {slot : Slot} (exclusive : slot.Exclusive) (e : SlotEvent) :
    (slot.after e).Exclusive := by
  cases e with
  | set receiver v =>
    rw [Slot.after]
    split
    case isTrue => exact exclusive
    case isFalse mode => exact exclusive.store (by simpa using mode) v
  | setFlags flags => exact ⟨exclusive.value, exclusive.functions, exclusive.empty⟩
  | setFunction role candidate accepted =>
    cases accepted with
    | false => exact exclusive
    | true => exact exclusive_install slot role candidate.object?

def installed (initial : Slot) (role : Role) (events : List SlotEvent) : Option ObjectId :=
  SlotEvent.latest (SlotEvent.installed? role) (initial.function? role) events

variable {events : List SlotEvent} {initial : Slot}

def afterAll (initial : Slot) (events : List SlotEvent) : Slot := events.foldl after initial

theorem afterAll_concat (e : SlotEvent) :
    initial.afterAll (events ++ [e]) = (initial.afterAll events).after e := by
  simp [afterAll]

theorem observe_afterAll {α : Type} (observe : Slot → α) {kind : SlotEvent → Option α}
    (step : ∀ slot e, observe (slot.after e) = (kind e).getD (observe slot)) :
    observe (initial.afterAll events) = SlotEvent.latest kind (observe initial) events := by
  induction events using List.reverseRecOn with
  | nil => rfl
  | append_singleton events e ih => rw [afterAll_concat, step, ih, SlotEvent.latest_concat]

theorem function?_afterAll (role : Role) :
    (initial.afterAll events).function? role = initial.installed role events :=
  observe_afterAll (·.function? role) fun slot e => slot.function?_after role e

theorem writable_afterAll : (initial.afterAll events).flags.writable =
    SlotEvent.latest SlotEvent.writable? initial.flags.writable events :=
  observe_afterAll (·.flags.writable) writable_after

theorem isAccessor_afterAll :
    (initial.afterAll events).isAccessor = true ↔
      initial.isAccessor = true ∨ ∃ e ∈ events, e.converts = true := by
  induction events using List.reverseRecOn with
  | nil => simp [afterAll]
  | append_singleton events e ih =>
    rw [afterAll_concat, isAccessor_after, Bool.or_eq_true, ih]
    simp [or_assoc, or_and_right, exists_or]

theorem Exclusive.afterAll (exclusive : initial.Exclusive) :
    (initial.afterAll events).Exclusive := by
  induction events using List.reverseRecOn with
  | nil => exact exclusive
  | append_singleton events e ih =>
    rw [afterAll_concat]
    exact ih.after e

-- Values are stored in data mode only, and data mode is never come back to.
theorem value?_afterAll {v : Value} (data : initial.value? = some v)
    (mode : (initial.afterAll events).isAccessor = false) :
    (initial.afterAll events).value? = some (SlotEvent.latest SlotEvent.stored? v events) := by
  induction events using List.reverseRecOn with
  | nil => exact data
  | append_singleton events e ih =>
    rw [afterAll_concat] at mode ⊢
    rw [isAccessor_after, Bool.or_eq_false_iff] at mode
    rw [SlotEvent.latest_concat]
    cases e with
    | set receiver v => simp [Slot.after, mode.1, Slot.store, SlotEvent.stored?]
    | setFlags flags => exact ih mode.1
    | setFunction role candidate accepted =>
      cases accepted with
      | false => exact ih mode.1
      | true => simp [SlotEvent.converts] at mode

inductive Made : Slot → Prop
  | data (v : Value) (flags : Flags) : Made (data v flags)
  | accessor (getter setter : Option ObjectId) (configurable enumerable : Bool) :
      Made (accessor getter setter configurable enumerable)

theorem Made.exclusive (made : initial.Made) : initial.Exclusive := by
  cases made with
  | data v flags => exact ⟨fun _ => ⟨v, rfl⟩, fun _ role => by cases role <;> rfl, nofun⟩
  | accessor => exact ⟨nofun, nofun, fun _ => rfl⟩

theorem Made.writable_afterAll (made : initial.Made)
    (mode : (initial.afterAll events).isAccessor = true) :
    (initial.afterAll events).flags.writable =
      SlotEvent.latest SlotEvent.writable? false events := by
  rw [Slot.writable_afterAll]
  cases made with
  | accessor => rfl
  | data v flags =>
    obtain accessor | ⟨e, inside, converts⟩ := isAccessor_afterAll.1 mode
    · cases accessor
    · apply SlotEvent.latest_of_mem inside
      cases e with
      | setFunction role candidate accepted =>
        cases converts
        rfl
      | _ => cases converts

end Slot

namespace World

variable {σ : Type}

theorem slot_eq {w : World σ} {s : SlotId} {slot : Slot} (found : w.slots[s.index]? = some slot) :
    w.slot s = slot := by
  simp [World.slot, found]

theorem updateSlot_found {w : World σ} {s : SlotId} {slot : Slot}
    (found : w.slots[s.index]? = some slot) (f : Slot → Slot) :
    (w.updateSlot s f).slots[s.index]? = some (f slot) := by
  simp [updateSlot, Array.getElem?_modify, found]

theorem newSlot_found {before start : World σ} {initial : Slot} {s : SlotId}
    (created : (newSlot initial).run before = (s, start)) :
    start.slots[s.index]? = some initial := by
  rw [run_newSlot, Prod.mk.injEq] at created
  obtain ⟨rfl, rfl⟩ := created
  simp

end World

namespace Host

variable {σ : Type} (host : Host σ)

/-- A call on a slot, up to the moment when it has taken effect. Where a setter is called, the call
itself changes nothing, and the setter starts where it left off. -/
inductive SlotStep (s : SlotId) : World σ → SlotEvent → World σ → Prop
  | set {w : World σ} {receiver v : Value} :
      (w.slot s).isAccessor = false ∨ (w.slot s).function? .setter = none →
      SlotStep s w (.set receiver v) ((host.setSlot s receiver v).runIn w).2
  | setter {w : World σ} {receiver v : Value} {f : ObjectId} :
      (w.slot s).isAccessor = true → (w.slot s).function? .setter = some f →
      SlotStep s w (.set receiver v) w
  | setFlags {w : World σ} {flags : Flags} :
      SlotStep s w (.setFlags flags) ((setSlotFlags s flags).run w).2
  | accepted {w after : World σ} {role : Role} {candidate : Value} :
      (host.setSlotFunction s role candidate).runIn w = (.ok (), after) →
      SlotStep s w (.setFunction role candidate true) after
  | refused {w after : World σ} {role : Role} {candidate : Value} {e : GuestError} :
      (host.setSlotFunction s role candidate).runIn w = (.error e, after) →
      SlotStep s w (.setFunction role candidate false) after

/-- A run of any program, seen from a slot. Between the calls on it the world may become any other
that has the slot as it was. -/
inductive SlotRun (s : SlotId) (start : World σ) : List SlotEvent → World σ → Prop
  | start : SlotRun s start [] start
  | call {events : List SlotEvent} {e : SlotEvent} {w after : World σ} :
      SlotRun s start events w → host.SlotStep s w e after → SlotRun s start (events ++ [e]) after
  | elsewhere {events : List SlotEvent} {w after : World σ} :
      SlotRun s start events w → after.slots[s.index]? = w.slots[s.index]? →
      SlotRun s start events after

def accepts (w : World σ) : Value → Bool
  | .undefined => true
  | .object o => (host.behaviour w o).callable
  | _ => false

theorem runIn_setSlotFunction (s : SlotId) (role : Role) (candidate : Value) (w : World σ) :
    (host.setSlotFunction s role candidate).runIn w =
      if host.accepts w candidate then
        (.ok (), w.updateSlot s (·.install role candidate.object?))
      else (.error (host.error (.notAnAccessor role (host.display w candidate))), w) := by
  rw [setSlotFunction, Guest.runIn_bind]
  cases candidate with
  | undefined => rfl
  | object o =>
    cases callable : (host.behaviour w o).callable <;>
      simp [accessorFunction, accessorFunction.refuse, accepts, callable, Guest.runIn_bind,
        Value.object?]
  | _ => rfl

theorem runIn_getSlot (s : SlotId) (receiver : Value) (w : World σ) :
    (host.getSlot s receiver).runIn w =
      if (w.slot s).isAccessor then
        match (w.slot s).function? .getter with
        | none => (.ok .undefined, w)
        | some getter => (host.call getter receiver []).runIn w
      else (.ok ((w.slot s).value?.getD .undefined), w) := by
  simp only [getSlot, Guest.runIn_bind, Guest.runIn_get, Slot.function?]
  cases (w.slot s).isAccessor with
  | false => rfl
  | true => cases (w.slot s).getter? <;> rfl

theorem runIn_setSlot (s : SlotId) (receiver v : Value) (w : World σ) :
    (host.setSlot s receiver v).runIn w =
      if (w.slot s).isAccessor then
        match (w.slot s).function? .setter with
        | none => (.ok (), w)
        | some setter =>
            match (host.call setter receiver [v]).runIn w with
            | (.ok _, after) => (.ok (), after)
            | (.error e, after) => (.error e, after)
      else (.ok (), w.updateSlot s (·.store v)) := by
  simp only [setSlot, Guest.runIn_bind, Guest.runIn_get, Slot.function?]
  cases (w.slot s).isAccessor with
  | false => rfl
  | true =>
    cases (w.slot s).setter? with
    | none => rfl
    | some setter =>
      refine (Guest.runIn_map (fun _ => ()) (host.call setter receiver [v]) w).trans ?_
      dsimp only
      rcases (host.call setter receiver [v]).runIn w with ⟨e | u, after⟩ <;> rfl

variable {host} {s : SlotId} {w after : World σ}

theorem SlotStep.found {e : SlotEvent} {slot : Slot} (step : host.SlotStep s w e after)
    (found : w.slots[s.index]? = some slot) : after.slots[s.index]? = some (slot.after e) := by
  cases step with
  | @set receiver v quiet =>
    rw [World.slot_eq found] at quiet
    rw [runIn_setSlot, World.slot_eq found, Slot.after]
    cases mode : slot.isAccessor with
    | false => exact World.updateSlot_found found _
    | true =>
      obtain without := quiet.resolve_left (by simp [mode])
      rw [if_pos rfl, without]
      exact found
  | setter mode _ =>
    rw [World.slot_eq found] at mode
    rw [Slot.after, if_pos mode]
    exact found
  | setFlags => exact World.updateSlot_found found _
  | @accepted _ role candidate run =>
    rw [runIn_setSlotFunction] at run
    split at run
    · cases run
      exact World.updateSlot_found found _
    · simp at run
  | refused run =>
    rw [runIn_setSlotFunction] at run
    split at run
    · simp at run
    · cases run
      exact found

theorem SlotRun.found {start : World σ} {events : List SlotEvent} {initial : Slot}
    (run : host.SlotRun s start events w) (found : start.slots[s.index]? = some initial) :
    w.slots[s.index]? = some (initial.afterAll events) := by
  induction run with
  | start => exact found
  | call _ step ih =>
    rw [Slot.afterAll_concat]
    exact step.found ih
  | elsewhere _ same ih => rw [same, ih]

theorem SlotRun.slot_eq {before start : World σ} {events : List SlotEvent} {initial : Slot}
    (run : host.SlotRun s start events w)
    (created : (World.newSlot initial).run before = (s, start)) :
    w.slot s = initial.afterAll events :=
  World.slot_eq (run.found (World.newSlot_found created))

theorem SlotRun.trans {start : World σ} {events later : List SlotEvent}
    (run : host.SlotRun s start events w) (rest : host.SlotRun s w later after) :
    host.SlotRun s start (events ++ later) after := by
  induction rest with
  | start => simpa using run
  | call _ step ih =>
    rw [← List.append_assoc]
    exact ih.call step
  | elsewhere _ same ih => exact ih.elsewhere same

theorem SlotRun.setSlot {start : World σ} {events later : List SlotEvent} {receiver v : Value}
    {f : ObjectId} (run : host.SlotRun s start events w) (mode : (w.slot s).isAccessor = true)
    (installed : (w.slot s).function? .setter = some f)
    (inner : host.SlotRun s w later ((host.call f receiver [v]).runIn w).2) :
    host.SlotRun s start (events ++ .set receiver v :: later)
      ((host.setSlot s receiver v).runIn w).2 := by
  have step : host.SlotStep s w (.set receiver v) w := .setter mode installed
  have whole := (run.call step).trans inner
  rw [List.append_assoc] at whole
  rw [runIn_setSlot, if_pos mode, installed]
  dsimp only
  rcases answer : (host.call f receiver [v]).runIn w with ⟨e | u, after⟩
  · rwa [answer] at whole
  · rwa [answer] at whole

end Host

end ScriptValue
