import ScriptValue.Host

set_option autoImplicit false

namespace ScriptValue

inductive HookCall where
  | primitive (o : ObjectId) (hint : Hint)
  | call (function : ObjectId) (receiver : Value) (arguments : List Value)
  | selfEquals (o other : ObjectId)
  | exported (o : ObjectId)
  | prototype (wrapper : Wrapper)
  | wrap (primitive : Value) (prototype : ObjectId) (wrapper : Wrapper)
  deriving DecidableEq

structure Recorded (σ : Type) where
  state : σ
  calls : List HookCall

variable {σ α : Type}

namespace World

def recorded (w : World σ) (calls : List HookCall) : World (Recorded σ) :=
  { w with host := ⟨w.host, calls⟩ }

def unrecorded (w : World (Recorded σ)) : World σ := { w with host := w.host.state }

@[simp] theorem slot_recorded (w : World σ) (calls : List HookCall) (s : SlotId) :
    (w.recorded calls).slot s = w.slot s := rfl

end World

def Effect.noting (c : HookCall) (m : Effect σ α) : Effect (Recorded σ) α := fun w =>
  let (a, after) := m.run w.unrecorded
  (a, after.recorded (w.host.calls ++ [c]))

def Guest.noting (c : HookCall) (g : Guest σ α) : Guest (Recorded σ) α :=
  ExceptT.mk (Effect.noting c g.run)

@[simp] theorem Guest.runIn_noting (c : HookCall) (g : Guest σ α) (w : World σ)
    (earlier : List HookCall) :
    (g.noting c).runIn (w.recorded earlier) =
      ((g.runIn w).1, (g.runIn w).2.recorded (earlier ++ [c])) := rfl

def Behaviour.recorded (o : ObjectId) (b : Behaviour σ) : Behaviour (Recorded σ) where
  className := b.className
  callable := b.callable
  number := b.number.noting (.primitive o .number)
  string := b.string.noting (.primitive o .string)
  default := b.default.noting (.primitive o .default)
  call receiver arguments := (b.call receiver arguments).noting (.call o receiver arguments)
  selfEquals other := (b.selfEquals other).noting (.selfEquals o other)
  resource := b.resource
  holdings := b.holdings
  exported := ExceptT.mk (Effect.noting (.exported o) b.exported.run)

theorem Behaviour.primitive_recorded (o : ObjectId) (b : Behaviour σ) (hint : Hint) :
    (b.recorded o).primitive hint = (b.primitive hint).noting (.primitive o hint) := by
  cases hint <;> rfl

namespace Host

def recorded (host : Host σ) : Host (Recorded σ) where
  behaviour w o := (host.behaviour w.unrecorded o).recorded o
  prototype wrapper := (host.prototype wrapper).noting (.prototype wrapper)
  wrap v prototype wrapper := (host.wrap v prototype wrapper).noting (.wrap v prototype wrapper)
  typeError := host.typeError
  referenceError := host.referenceError
  formatting := host.formatting

/-- A program of the library asks for exactly these hooks, in this order: on record it comes to the
same end in the same state, and the record has grown by them. -/
def Asks (host : Host σ) (program : (τ : Type) → Host τ → Guest τ α) (w : World σ)
    (calls : List HookCall) : Prop :=
  ∀ earlier, (program _ host.recorded).runIn (w.recorded earlier) =
    (((program _ host).runIn w).1, ((program _ host).runIn w).2.recorded (earlier ++ calls))

def Alike (host : Host σ) (program program' : (τ : Type) → Host τ → Guest τ α) (w : World σ) :
    Prop :=
  (program _ host).runIn w = (program' _ host).runIn w ∧
    ∃ calls, host.Asks program w calls ∧ host.Asks program' w calls

variable {host : Host σ} {program program' : (τ : Type) → Host τ → Guest τ α} {w : World σ}

theorem Asks.alike {calls : List HookCall} (asks : host.Asks program w calls)
    (same : ∀ (τ : Type) (h : Host τ) (v : World τ),
      (program τ h).runIn v = (program' τ h).runIn v) : host.Alike program program' w := by
  refine ⟨same _ host w, calls, asks, fun earlier => ?_⟩
  rw [← same, ← same]
  exact asks earlier

theorem asks_nothing {x : Except GuestError α}
    (decided : ∀ (τ : Type) (h : Host τ) (v : World τ), (program τ h).runIn v = (x, v)) :
    host.Asks program w [] := by
  intro earlier
  rw [decided, decided]
  simp

theorem asks_primitive {o : ObjectId} {hint : Hint} {judge : Value → Except GuestError α}
    (reduces : ∀ (τ : Type) (h : Host τ) (v : World τ), (program τ h).runIn v =
      match ((h.behaviour v o).primitive hint).runIn v with
      | (.ok p, after) => (judge p, after)
      | (.error e, after) => (.error e, after)) :
    host.Asks program w [.primitive o hint] := by
  intro earlier
  rw [reduces, reduces]
  have hook : (host.recorded.behaviour (w.recorded earlier) o).primitive hint =
      ((host.behaviour w o).primitive hint).noting (.primitive o hint) :=
    Behaviour.primitive_recorded o _ hint
  rw [hook, Guest.runIn_noting]
  rcases ((host.behaviour w o).primitive hint).runIn w with ⟨p | e, after⟩ <;> rfl

theorem asks_call (host : Host σ) (w : World σ) (f : ObjectId) (receiver : Value)
    (arguments : List Value) :
    host.Asks (fun _ h => h.call f receiver arguments) w [.call f receiver arguments] := by
  intro earlier
  rfl

end Host

end ScriptValue
