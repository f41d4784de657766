import ScriptValue.Proofs.Slot.Access

set_option autoImplicit false

namespace ScriptValue

variable {σ α β : Type}

/-- What a hook does, step by step, until it returns or raises. A step that raises hands the error
to the hook. -/
inductive Hook (σ : Type) where
  | finish (outcome : Except GuestError Value)
  | own (change : σ → σ) (next : σ → Hook σ)
  | create (slot : Slot) (next : SlotId → Hook σ)
  | look (s : SlotId) (next : Slot → Hook σ)
  | setFlags (s : SlotId) (flags : Flags) (next : Hook σ)
  | setFunction (s : SlotId) (role : Role) (candidate : Value)
      (next : Except GuestError Unit → Hook σ)
  | getSlot (s : SlotId) (receiver : Value) (next : Except GuestError Value → Hook σ)
  | setSlot (s : SlotId) (receiver v : Value) (next : Except GuestError Unit → Hook σ)
  | call (f : ObjectId) (receiver : Value) (arguments : List Value)
      (next : Except GuestError Value → Hook σ)

def Guest.attempt (g : Guest σ α) : Guest σ (Except GuestError α) :=
  ExceptT.mk (Except.ok <$> g.run)

@[simp] theorem Guest.runIn_attempt (g : Guest σ α) (w : World σ) :
    g.attempt.runIn w = (.ok (g.runIn w).1, (g.runIn w).2) := rfl

def World.changeHost (change : σ → σ) : Effect σ σ := do
  modify fun w => { w with host := change w.host }
  return (← get).host

def Hook.run (host : Host σ) : Hook σ → Guest σ Value
  | .finish outcome => Guest.ofExcept outcome
  | .own change next => do (next (← (World.changeHost change : Effect σ σ))).run host
  | .create slot next => do (next (← (World.newSlot slot : Effect σ SlotId))).run host
  | .look s next => do (next ((← get).slot s)).run host
  | .setFlags s flags next => do
      (Host.setSlotFlags s flags : Effect σ Unit)
      next.run host
  | .setFunction s role candidate next => do
      (next (← (host.setSlotFunction s role candidate).attempt)).run host
  | .getSlot s receiver next => do (next (← (host.getSlot s receiver).attempt)).run host
  | .setSlot s receiver v next => do (next (← (host.setSlot s receiver v).attempt)).run host
  | .call f receiver arguments next => do
      (next (← (host.call f receiver arguments).attempt)).run host

/-- A host whose functions are hooks that call each other at most `n` deep; beneath that, functions
are those of the host given. -/
def Host.nested (host : Host σ) (code : ObjectId → Value → List Value → Hook σ) : ℕ → Host σ
  | 0 => host
  | n + 1 =>
      { host with
        behaviour w o :=
          { host.behaviour w o with
            call receiver arguments := (code o receiver arguments).run (host.nested code n) } }

inductive Access where
  | read
  | write

inductive Use where
  | readers (n : ℕ)
  | writer

def Use.begin? : Use → Access → Option Use
  | .readers n, .read => some (.readers (n + 1))
  | .readers 0, .write => some .writer
  | _, _ => none

def Use.finish : Use → Access → Use
  | .readers n, .read => .readers (n - 1)
  | _, _ => .readers 0

theorem Use.begin_finish (a : Access) :
    ∃ u, (Use.readers 0).begin? a = some u ∧ u.finish a = .readers 0 := by
  cases a <;> exact ⟨_, rfl, rfl⟩

structure Watched (σ : Type) where
  world : World σ
  uses : SlotId → Use

def World.idle (w : World σ) : Watched σ := ⟨w, fun _ => .readers 0⟩

-- Guest code under watch. Without a result it was stopped, at a slot that was in use.
abbrev Watching (σ : Type) := ExceptT GuestError (StateT (Watched σ) Option)

namespace Watching

def runOn (g : Watching σ α) (w : Watched σ) : Option (Except GuestError α × Watched σ) :=
  StateT.run (ExceptT.run g) w

def ofGuest (g : Guest σ α) : Watching σ α := ExceptT.mk fun w =>
  some ((g.runIn w.world).1, { w with world := (g.runIn w.world).2 })

def begin (a : Access) (s : SlotId) : Watching σ Unit := ExceptT.mk fun w =>
  ((w.uses s).begin? a).map fun use => (.ok (), { w with uses := Function.update w.uses s use })

def finish (a : Access) (s : SlotId) : Watching σ Unit := ExceptT.mk fun w =>
  some (.ok (), { w with uses := Function.update w.uses s ((w.uses s).finish a) })

def attempt (g : Watching σ α) : Watching σ (Except GuestError α) :=
  ExceptT.mk (Except.ok <$> g.run)

def holding (a : Access) (s : SlotId) (m : Effect σ α) : Watching σ α := do
  begin a s
  let x ← ofGuest m
  finish a s
  return x

section Slots

variable (call : ObjectId → Value → List Value → Watching σ Value)

-- The slot is no longer held when the getter is called.
def getSlot (s : SlotId) (receiver : Value) : Watching σ Value := do
  let slot ← holding .read s (return (← get).slot s)
  if slot.isAccessor then
    match slot.getter? with
    | none => return .undefined
    | some getter => call getter receiver []
  else return slot.value?.getD .undefined

def storeOrSetter (s : SlotId) (v : Value) : Effect σ (Option ObjectId) := do
  let slot := (← get).slot s
  if slot.isAccessor then return slot.setter?
  else
    World.modifySlot s (·.store v)
    return none

def setSlot (s : SlotId) (receiver v : Value) : Watching σ Unit := do
  match ← holding .write s (storeOrSetter s v) with
  | none => return ()
  | some setter => discard <| call setter receiver [v]

def setSlotFunction (host : Host σ) (s : SlotId) (role : Role) (candidate : Value) :
    Watching σ Unit := do
  let function? ← ofGuest (host.accessorFunction role candidate)
  holding .write s (World.modifySlot s (·.install role function?))

end Slots

end Watching

def Hook.watch (host : Host σ) (call : ObjectId → Value → List Value → Watching σ Value) :
    Hook σ → Watching σ Value
  | .finish outcome => Watching.ofGuest (Guest.ofExcept outcome)
  | .own change next => do
      (next (← Watching.ofGuest (World.changeHost change : Effect σ σ))).watch host call
  | .create slot next => do
      (next (← Watching.ofGuest (World.newSlot slot : Effect σ SlotId))).watch host call
  | .look s next => do
      (next (← Watching.holding .read s (return (← get).slot s))).watch host call
  | .setFlags s flags next => do
      Watching.holding .write s (Host.setSlotFlags s flags)
      next.watch host call
  | .setFunction s role candidate next => do
      (next (← (Watching.setSlotFunction host s role candidate).attempt)).watch host call
  | .getSlot s receiver next => do
      (next (← (Watching.getSlot call s receiver).attempt)).watch host call
  | .setSlot s receiver v next => do
      (next (← (Watching.setSlot call s receiver v).attempt)).watch host call
  | .call f receiver arguments next => do
      (next (← (call f receiver arguments).attempt)).watch host call

def Host.watchedCall (host : Host σ) (code : ObjectId → Value → List Value → Hook σ) :
    ℕ → ObjectId → Value → List Value → Watching σ Value
  | 0, f, receiver, arguments => Watching.ofGuest (host.call f receiver arguments)
  | n + 1, f, receiver, arguments =>
      (code f receiver arguments).watch (host.nested code n) (host.watchedCall code n)

namespace Watching

theorem runOn_bind (m : Watching σ α) (f : α → Watching σ β) (w : Watched σ) :
    (m >>= f).runOn w =
      match m.runOn w with
      | none => none
      | some (.ok a, after) => (f a).runOn after
      | some (.error e, after) => some (.error e, after) := by
  simp only [runOn, ExceptT.run_bind, StateT.run_bind]
  rcases (ExceptT.run m).run w with _ | ⟨_ | _, _⟩ <;> rfl

theorem runOn_begin (a : Access) (s : SlotId) (w : Watched σ) :
    (begin a s).runOn w = ((w.uses s).begin? a).map fun use =>
      (.ok (), { w with uses := Function.update w.uses s use }) := rfl

theorem runOn_finish (a : Access) (s : SlotId) (w : Watched σ) :
    (finish a s).runOn w =
      some (.ok (), { w with uses := Function.update w.uses s ((w.uses s).finish a) }) := rfl

theorem runOn_ofGuest (g : Guest σ α) (w : Watched σ) :
    (ofGuest g).runOn w = some ((g.runIn w.world).1, { w with world := (g.runIn w.world).2 }) := rfl

/-- A watched program is never stopped: from a world where no slot is in use it does what the
program does that is not watched, and leaves a world where no slot is in use. -/
def Follows (m : Watching σ α) (g : Guest σ α) : Prop :=
  ∀ w : World σ, m.runOn w.idle = some ((g.runIn w).1, (g.runIn w).2.idle)

theorem follows_ofGuest (g : Guest σ α) : Follows (ofGuest g) g := fun _ => rfl

theorem Follows.bind {m : Watching σ α} {g : Guest σ α} (first : Follows m g)
    {f : α → Watching σ β} {k : α → Guest σ β} (rest : ∀ a, Follows (f a) (k a)) :
    Follows (m >>= f) (g >>= k) := by
  intro w
  rw [runOn_bind, first, Guest.runIn_bind]
  rcases g.runIn w with ⟨e | a, after⟩
  · rfl
  · exact rest a after

theorem follows_pure (a : α) : Follows (pure a : Watching σ α) (pure a) := fun _ => rfl

theorem Follows.discard {m : Watching σ α} {g : Guest σ α} (follows : Follows m g) :
    Follows (discard m) (discard g) := by
  change Follows (Function.const α () <$> m) (Function.const α () <$> g)
  rw [← bind_pure_comp, ← bind_pure_comp]
  exact follows.bind fun _ => follows_pure ()

theorem Follows.attempt {m : Watching σ α} {g : Guest σ α} (follows : Follows m g) :
    Follows m.attempt g.attempt := by
  intro w
  have run : m.attempt.runOn w.idle = (m.runOn w.idle).map fun r => (.ok r.1, r.2) := by
    simp only [runOn, Watching.attempt, ExceptT.run_mk, StateT.run_map, Option.map_eq_map]
  rw [run, follows, Guest.runIn_attempt]
  rfl

theorem follows_holding (a : Access) (s : SlotId) (m : Effect σ α) :
    Follows (holding a s m) (liftM m) := by
  intro w
  obtain ⟨u, begun, ended⟩ := Use.begin_finish a
  have begun : (w.idle.uses s).begin? a = some u := begun
  have freed : Function.update (Function.update w.idle.uses s u) s (.readers 0) = w.idle.uses := by
    rw [Function.update_idem]
    exact Function.update_eq_self s w.idle.uses
  simp only [holding, runOn_bind, runOn_begin, begun, Option.map_some, runOn_ofGuest,
    Guest.runIn_lift, runOn_finish, Function.update_self, ended, freed]
  rfl

theorem Follows.congr {m : Watching σ α} {g g' : Guest σ α} (follows : Follows m g)
    (same : ∀ w, g.runIn w = g'.runIn w) : Follows m g' := by
  intro w
  rw [← same]
  exact follows w

theorem run_storeOrSetter (s : SlotId) (v : Value) (w : World σ) :
    (storeOrSetter s v).run w =
      if (w.slot s).isAccessor then ((w.slot s).setter?, w)
      else (none, w.updateSlot s (·.store v)) := by
  have found : (storeOrSetter s v).run w = ((if (w.slot s).isAccessor then return (w.slot s).setter?
      else do
        World.modifySlot s (·.store v)
        return none : Effect σ (Option ObjectId))).run w := rfl
  rw [found]
  cases (w.slot s).isAccessor <;> rfl

section Slots

variable {host : Host σ} {call : ObjectId → Value → List Value → Watching σ Value}
  (calls : ∀ f receiver arguments,
    Follows (call f receiver arguments) (host.call f receiver arguments))

include calls

theorem follows_getSlot (s : SlotId) (receiver : Value) :
    Follows (getSlot call s receiver) (host.getSlot s receiver) := by
  have looked := follows_holding (σ := σ) .read s (return (← get).slot s)
  refine (looked.bind (k := fun slot =>
    if slot.isAccessor then
      match slot.getter? with
      | none => return .undefined
      | some getter => host.call getter receiver []
    else return slot.value?.getD .undefined) ?_).congr fun w => rfl
  intro slot
  cases slot.isAccessor with
  | false => exact follows_pure _
  | true =>
    cases slot.getter? with
    | none => exact follows_pure Value.undefined
    | some getter => exact calls getter receiver []

theorem follows_setSlot (s : SlotId) (receiver v : Value) :
    Follows (setSlot call s receiver v) (host.setSlot s receiver v) := by
  have stored := follows_holding (σ := σ) .write s (storeOrSetter s v)
  refine (stored.bind (k := fun setter? => match setter? with
    | none => return ()
    | some setter => discard <| host.call setter receiver [v]) ?_).congr fun w => ?_
  · rintro (_ | setter)
    · exact follows_pure ()
    · exact (calls setter receiver [v]).discard
  · rw [Guest.runIn_bind, Guest.runIn_lift, Host.setSlot, Guest.runIn_bind, Guest.runIn_get]
    dsimp only
    rw [run_storeOrSetter]
    cases (w.slot s).isAccessor with
    | false => rfl
    | true => cases (w.slot s).setter? <;> rfl

end Slots

theorem follows_setSlotFunction (host : Host σ) (s : SlotId) (role : Role) (candidate : Value) :
    Follows (setSlotFunction host s role candidate) (host.setSlotFunction s role candidate) :=
  (follows_ofGuest _).bind fun _ => follows_holding .write s _

end Watching

theorem Hook.watch_follows {host : Host σ}
    {call : ObjectId → Value → List Value → Watching σ Value}
    (calls : ∀ f receiver arguments,
      Watching.Follows (call f receiver arguments) (host.call f receiver arguments))
    (h : Hook σ) : Watching.Follows (h.watch host call) (h.run host) := by
  induction h with
  | finish outcome => exact Watching.follows_ofGuest _
  | own change next ih => exact (Watching.follows_ofGuest _).bind ih
  | create slot next ih => exact (Watching.follows_ofGuest _).bind ih
  | look s next ih => exact (Watching.follows_holding .read s _).bind ih
  | setFlags s flags next ih => exact (Watching.follows_holding .write s _).bind fun _ => ih
  | setFunction s role candidate next ih =>
    exact (Watching.follows_setSlotFunction host s role candidate).attempt.bind ih
  | getSlot s receiver next ih =>
    exact (Watching.follows_getSlot calls s receiver).attempt.bind ih
  | setSlot s receiver v next ih =>
    exact (Watching.follows_setSlot calls s receiver v).attempt.bind ih
  | call f receiver arguments next ih => exact (calls f receiver arguments).attempt.bind ih

namespace Host

variable (host : Host σ) (code : ObjectId → Value → List Value → Hook σ)

theorem call_nested (n : ℕ) (f : ObjectId) (receiver : Value) (arguments : List Value)
    (w : World σ) : ((host.nested code (n + 1)).call f receiver arguments).runIn w =
      ((code f receiver arguments).run (host.nested code n)).runIn w := rfl

theorem watchedCall_follows (n : ℕ) : ∀ f receiver arguments,
    Watching.Follows (host.watchedCall code n f receiver arguments)
      ((host.nested code n).call f receiver arguments) := by
  induction n with
  | zero => exact fun f receiver arguments => Watching.follows_ofGuest _
  | succ n ih =>
    intro f receiver arguments
    exact (Hook.watch_follows ih (code f receiver arguments)).congr fun w =>
      (host.call_nested code n f receiver arguments w).symm

/-- Reading or writing an accessor runs the hook that was installed when the call began, in the
world as it was then. What the hook gives or raises is the outcome, and the world that the hook
leaves is the world that the call leaves. No slot is found in use on the way, whatever the hook
does to this slot and to others. -/
theorem accessor_reentrant (n : ℕ) {s : SlotId} {w : World σ}
    (mode : (w.slot s).isAccessor = true) :
    (∀ receiver,
      ((host.nested code (n + 1)).getSlot s receiver).runIn w =
        (match (w.slot s).function? .getter with
        | none => (.ok .undefined, w)
        | some getter => ((code getter receiver []).run (host.nested code n)).runIn w) ∧
      (host.nested code (n + 1)).Asks (fun _ h => h.getSlot s receiver) w
        (((w.slot s).function? .getter).toList.map fun getter => .call getter receiver []) ∧
      (Watching.getSlot (host.watchedCall code (n + 1)) s receiver).Follows
        ((host.nested code (n + 1)).getSlot s receiver)) ∧
    ∀ receiver v,
      ((host.nested code (n + 1)).setSlot s receiver v).runIn w =
        (match (w.slot s).function? .setter with
        | none => (.ok (), w)
        | some setter =>
            match ((code setter receiver [v]).run (host.nested code n)).runIn w with
            | (.ok _, after) => (.ok (), after)
            | (.error e, after) => (.error e, after)) ∧
      (host.nested code (n + 1)).Asks (fun _ h => h.setSlot s receiver v) w
        (((w.slot s).function? .setter).toList.map fun setter => .call setter receiver [v]) ∧
      (Watching.setSlot (host.watchedCall code (n + 1)) s receiver v).Follows
        ((host.nested code (n + 1)).setSlot s receiver v) := by
  have calls := host.watchedCall_follows code (n + 1)
  constructor
  · intro receiver
    have reads := runIn_getSlot (host.nested code (n + 1)) s receiver w
    have asks := getSlot_asks (host.nested code (n + 1)) s receiver w
    simp only [mode, if_true, call_nested] at reads asks
    exact ⟨reads, asks, Watching.follows_getSlot calls s receiver⟩
  · intro receiver v
    have writes := runIn_setSlot (host.nested code (n + 1)) s receiver v w
    have asks := setSlot_asks (host.nested code (n + 1)) s receiver v w
    simp only [mode, if_true, call_nested] at writes asks
    exact ⟨writes, asks, Watching.follows_setSlot calls s receiver v⟩

-- A getter that replaces itself, takes the setter away, gives the slot other flags, reads it again,
-- writes what it gets to another slot, and raises.
def replacing (f : ObjectId) (receiver : Value) (_ : List Value) : Hook Unit :=
  if f = ⟨1⟩ then
    .setFunction ⟨0⟩ .getter (.object ⟨2⟩) fun _ =>
    .setFunction ⟨0⟩ .setter .undefined fun _ =>
    .setFlags ⟨0⟩ ⟨true, false, true⟩ <|
    .getSlot ⟨0⟩ receiver fun
      | .ok v =>
          .setSlot ⟨1⟩ receiver v fun _ => .finish (.error (Cause.notCallable "Object").error)
      | .error e => .finish (.error e)
  else .finish (.ok (.boolean true))

theorem accessor_reentrant_replaced :
    ∃ start after : World Unit,
      start.slots = #[.accessor (some ⟨1⟩) (some ⟨1⟩) true true, .data .null .all] ∧
      after.slots = #[(Slot.accessor (some ⟨2⟩) none true true).withFlags ⟨true, false, true⟩,
        .data (.boolean true) .all] ∧
      ((once.nested replacing 2).getSlot ⟨0⟩ .null).runIn start =
        (.error (Cause.notCallable "Object").error, after) ∧
      (once.nested replacing 2).Asks (fun _ h => h.getSlot ⟨0⟩ .null) start [.call ⟨1⟩ .null []] ∧
      (Watching.getSlot (once.watchedCall replacing 2) ⟨0⟩ .null).runOn start.idle =
        some (.error (Cause.notCallable "Object").error, after.idle) := by
  let start : World Unit :=
    { slots := #[.accessor (some ⟨1⟩) (some ⟨1⟩) true true, .data .null .all], host := () }
  have mode : (start.slot ⟨0⟩).isAccessor = true := rfl
  obtain ⟨reads, asks, follows⟩ := (once.accessor_reentrant replacing 1 mode).1 .null
  exact ⟨start, _, rfl, rfl, reads, asks, follows start⟩

end Host

end ScriptValue
