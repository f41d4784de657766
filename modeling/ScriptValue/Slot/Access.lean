import ScriptValue.Display

set_option autoImplicit false

namespace ScriptValue

namespace Host

variable {σ : Type} (host : Host σ)

def getSlot (s : SlotId) (receiver : Value) : Guest σ Value := do
  let slot := (← get).slot s
  if slot.isAccessor then
    match slot.getter? with
    | none => return .undefined
    | some getter => host.call getter receiver []
  else return slot.value?.getD .undefined

def setSlot (s : SlotId) (receiver : Value) (v : Value) : Guest σ Unit := do
  let slot := (← get).slot s
  if slot.isAccessor then
    match slot.setter? with
    | none => return ()
    | some setter => discard <| host.call setter receiver [v]
  else (World.modifySlot s (·.store v) : Effect σ Unit)

def setSlotFlags (s : SlotId) (flags : Flags) : Effect σ Unit :=
  World.modifySlot s (·.withFlags flags)

def accessorFunction (role : Role) (candidate : Value) : Guest σ (Option ObjectId) := do
  match candidate with
  | .undefined => return none
  | .object o => if (← host.behaviourOf o).callable then return some o else refuse
  | _ => refuse
where
  refuse : Guest σ (Option ObjectId) := do
    host.reject (.notAnAccessor role (host.display (← get) candidate))

def setSlotFunction (s : SlotId) (role : Role) (candidate : Value) : Guest σ Unit := do
  let function? ← host.accessorFunction role candidate
  (World.modifySlot s (·.install role function?) : Effect σ Unit)

end Host

end ScriptValue
