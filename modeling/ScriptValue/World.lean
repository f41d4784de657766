import ScriptValue.Slot.Basic

set_option autoImplicit false

namespace ScriptValue

structure World (σ : Type) where
  nextSymbol : UInt64 := 1
  nextObject : UInt64 := 1
  slots : Array Slot := #[]
  host : σ

-- An effect changes the world and always returns; guest code may raise instead.
abbrev Effect (σ : Type) := StateM (World σ)
abbrev Guest (σ : Type) := ExceptT GuestError (Effect σ)

variable {σ α β : Type}

def raise (c : Cause) : Guest σ α := throw c.error

namespace Guest

def ofExcept : Except GuestError α → Guest σ α
  | .ok a => pure a
  | .error e => throw e

def runIn (g : Guest σ α) (w : World σ) : Except GuestError α × World σ :=
  StateT.run (ExceptT.run g) w

@[simp] theorem runIn_pure (a : α) (w : World σ) : (pure a : Guest σ α).runIn w = (.ok a, w) := rfl

@[simp] theorem runIn_throw (e : GuestError) (w : World σ) :
    (throw e : Guest σ α).runIn w = (.error e, w) := rfl

@[simp] theorem runIn_raise (c : Cause) (w : World σ) :
    (raise c : Guest σ α).runIn w = (.error c.error, w) := rfl

@[simp] theorem runIn_get (w : World σ) : (get : Guest σ (World σ)).runIn w = (.ok w, w) := rfl

@[simp] theorem runIn_lift (m : Effect σ α) (w : World σ) :
    (liftM m : Guest σ α).runIn w = (.ok (m.run w).1, (m.run w).2) := rfl

@[simp] theorem runIn_ofExcept (x : Except GuestError α) (w : World σ) :
    (ofExcept x).runIn w = (x, w) := by cases x <;> rfl

theorem runIn_bind (g : Guest σ α) (f : α → Guest σ β) (w : World σ) :
    (g >>= f).runIn w =
      match g.runIn w with
      | (.ok a, w) => (f a).runIn w
      | (.error e, w) => (.error e, w) := by
  simp only [runIn, ExceptT.run_bind, StateT.run_bind]
  generalize (ExceptT.run g).run w = r
  rcases r with ⟨a | a, w⟩ <;> rfl

theorem runIn_map (f : α → β) (g : Guest σ α) (w : World σ) :
    (f <$> g).runIn w =
      match g.runIn w with
      | (.ok a, w) => (.ok (f a), w)
      | (.error e, w) => (.error e, w) := by
  rw [← bind_pure_comp, runIn_bind]
  rfl

end Guest

namespace World

def newSymbol (description : Option String) : Effect σ Symbol := do
  let w ← get
  set { w with nextSymbol := w.nextSymbol + 1 }
  return ⟨w.nextSymbol, description⟩

@[simp] theorem run_newSymbol (d : Option String) (w : World σ) :
    (newSymbol d).run w = (⟨w.nextSymbol, d⟩, { w with nextSymbol := w.nextSymbol + 1 }) := rfl

def newObject : Effect σ ObjectId := do
  let w ← get
  set { w with nextObject := w.nextObject + 1 }
  return ⟨w.nextObject⟩

@[simp] theorem run_newObject (w : World σ) :
    newObject.run w = (⟨w.nextObject⟩, { w with nextObject := w.nextObject + 1 }) := rfl

def newSlot (s : Slot) : Effect σ SlotId := do
  let w ← get
  set { w with slots := w.slots.push s }
  return ⟨w.slots.size⟩

@[simp] theorem run_newSlot (s : Slot) (w : World σ) :
    (newSlot s).run w = (⟨w.slots.size⟩, { w with slots := w.slots.push s }) := rfl

def slot (w : World σ) (s : SlotId) : Slot := w.slots[s.index]?.getD (.data .undefined .none)

def updateSlot (w : World σ) (s : SlotId) (f : Slot → Slot) : World σ :=
  { w with slots := w.slots.modify s.index f }

def modifySlot (s : SlotId) (f : Slot → Slot) : Effect σ Unit := modify fun w => w.updateSlot s f

@[simp] theorem run_modifySlot (s : SlotId) (f : Slot → Slot) (w : World σ) :
    (modifySlot s f).run w = ((), w.updateSlot s f) := rfl

theorem slot_updateSlot {w : World σ} {s : SlotId} (f : Slot → Slot)
    (known : s.index < w.slots.size) (t : SlotId) :
    (w.updateSlot s f).slot t = if t = s then f (w.slot s) else w.slot t := by
  by_cases same : t = s
  next =>
    subst same
    simp [slot, updateSlot, known, Array.getElem_modify]
  next =>
    have apart : s.index ≠ t.index := fun h => same (by cases s; cases t; simp_all)
    simp [slot, updateSlot, Array.getElem?_modify, apart, same]

end World

end ScriptValue
