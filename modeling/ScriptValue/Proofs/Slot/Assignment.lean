import ScriptValue.Proofs.Equality.Loose
import ScriptValue.Proofs.Slot.History

set_option autoImplicit false

namespace ScriptValue

namespace Host

variable {σ : Type} (host : Host σ)

def RaisesTypeErrors : Prop := ∀ message, host.typeError message = ⟨.type, message⟩

def Callable (w : World σ) (o : ObjectId) : Prop := (host.behaviour w o).callable = true

theorem accepts_iff (w : World σ) (candidate : Value) :
    host.accepts w candidate = true ↔
      candidate = .undefined ∨ ∃ o, candidate = .object o ∧ host.Callable w o := by
  cases candidate <;> simp [accepts, Callable]

structure Installs (s : SlotId) (role : Role) (candidate : Value) (w after : World σ) : Prop where
  accessor : (after.slot s).isAccessor = true
  empty : (after.slot s).value? = none
  writable : (after.slot s).flags.writable = false
  configurable : (after.slot s).flags.configurable = (w.slot s).flags.configurable
  enumerable : (after.slot s).flags.enumerable = (w.slot s).flags.enumerable
  function : (after.slot s).function? role = candidate.object?
  otherFunction : ∀ other, other ≠ role →
    (after.slot s).function? other = (w.slot s).function? other
  otherSlots : ∀ t, t ≠ s → after.slot t = w.slot t
  otherState : after = { w with slots := after.slots }

theorem installs_updateSlot {w : World σ} {s : SlotId} (known : s.index < w.slots.size)
    (role : Role) (candidate : Value) :
    Installs s role candidate w (w.updateSlot s (·.install role candidate.object?)) := by
  have slot : (w.updateSlot s (·.install role candidate.object?)).slot s =
      (w.slot s).install role candidate.object? := by
    simp [World.slot_updateSlot _ known]
  exact
    { accessor := by simp [slot]
      empty := by simp [slot]
      writable := by simp [slot]
      configurable := by simp [slot]
      enumerable := by simp [slot]
      function := by rw [slot, Slot.function?_install, if_pos rfl]
      otherFunction := fun other apart => by rw [slot, Slot.function?_install, if_neg apart]
      otherSlots := fun t apart => by rw [World.slot_updateSlot _ known, if_neg apart]
      otherState := rfl }

theorem setSlotFunction_asks (s : SlotId) (role : Role) (candidate : Value) (w : World σ) :
    host.Asks (fun _ h => h.setSlotFunction s role candidate) w [] := by
  intro earlier
  have judged :
      host.recorded.accepts (w.recorded earlier) candidate = host.accepts w candidate := by
    cases candidate <;> rfl
  have shown : host.recorded.display (w.recorded earlier) candidate = host.display w candidate := by
    cases candidate <;> rfl
  rw [runIn_setSlotFunction, runIn_setSlotFunction, judged, shown, List.append_nil]
  cases host.accepts w candidate <;> rfl

/-- A run seen from a slot, with the world in which each call on the slot was made. -/
inductive Chronicle (s : SlotId) (start : World σ) :
    List (World σ × SlotEvent) → World σ → Prop
  | start : Chronicle s start [] start
  | call {past : List (World σ × SlotEvent)} {e : SlotEvent} {w after : World σ} :
      Chronicle s start past w → host.SlotStep s w e after →
      Chronicle s start (past ++ [(w, e)]) after
  | elsewhere {past : List (World σ × SlotEvent)} {w after : World σ} :
      Chronicle s start past w → after.slots[s.index]? = w.slots[s.index]? →
      Chronicle s start past after

variable {host} {s : SlotId} {start w after : World σ} {past : List (World σ × SlotEvent)}

theorem Chronicle.run (chronicle : host.Chronicle s start past w) :
    host.SlotRun s start (past.map Prod.snd) w := by
  induction chronicle with
  | start => exact .start
  | call _ step ih =>
    rw [List.map_append]
    exact ih.call step
  | elsewhere _ same ih => exact ih.elsewhere same

theorem SlotStep.callable {role : Role} {f : ObjectId}
    (step : host.SlotStep s w (.setFunction role (.object f) true) after) : host.Callable w f := by
  cases step with
  | accepted run =>
    rw [runIn_setSlotFunction] at run
    split at run
    case isTrue accepted => simpa using (host.accepts_iff w (.object f)).1 accepted
    case isFalse => simp at run

def Vouched (host : Host σ) (start : World σ) (past : List (World σ × SlotEvent))
    (f : ObjectId) : Prop :=
  host.Callable start f ∨
    ∃ v role, (v, .setFunction role (.object f) true) ∈ past ∧ host.Callable v f

theorem Vouched.later {f : ObjectId} (vouched : host.Vouched start past f)
    (more : List (World σ × SlotEvent)) : host.Vouched start (past ++ more) f := by
  rcases vouched with first | ⟨v, role, inside, callable⟩
  · exact .inl first
  · exact .inr ⟨v, role, List.mem_append_left more inside, callable⟩

-- One call: a function that was not there before is the one that the call installed.
theorem SlotStep.vouched {slot : Slot} {e : SlotEvent} {role : Role} {f : ObjectId}
    (step : host.SlotStep s w e after) (present : (slot.after e).function? role = some f)
    (before : slot.function? role = some f → host.Vouched start past f) :
    host.Vouched start (past ++ [(w, e)]) f := by
  rw [Slot.function?_after] at present
  cases installed : e.installed? role with
  | none =>
    rw [installed] at present
    exact (before present).later _
  | some found =>
    rw [installed, Option.getD_some] at present
    subst present
    cases e with
    | set | setFlags => cases installed
    | setFunction other candidate accepted =>
      cases accepted with
      | false => cases installed
      | true =>
        obtain ⟨-, object⟩ : other = role ∧ candidate.object? = some f := by
          simpa [SlotEvent.installed?] using installed
        obtain rfl : candidate = .object f := by
          cases candidate <;> simp_all [Value.object?]
        exact .inr ⟨w, other, List.mem_append_right _ (.head _), step.callable⟩

theorem Chronicle.vouched {initial : Slot} (chronicle : host.Chronicle s start past w)
    (found : start.slots[s.index]? = some initial)
    (given : ∀ role f, initial.function? role = some f → host.Callable start f)
    (role : Role) (f : ObjectId) (present : (w.slot s).function? role = some f) :
    host.Vouched start past f := by
  induction chronicle generalizing role f with
  | start =>
    rw [World.slot_eq found] at present
    exact .inl (given role f present)
  | call earlier step ih =>
    have slot := step.found (earlier.run.found found)
    have prior := World.slot_eq (earlier.run.found found)
    rw [World.slot_eq slot] at present
    refine step.vouched present fun before => ih role f ?_
    rw [prior]
    exact before
  | elsewhere earlier same ih =>
    have slot := earlier.run.found found
    rw [World.slot_eq (same.trans slot)] at present
    refine ih role f ?_
    rw [World.slot_eq slot]
    exact present

/-- Giving a function to a slot, in any state that the slot can be in. Undefined and callable
objects are accepted and change what they must; anything else is refused with an error that shows
it, and nothing has changed. So a slot that was made with callable functions has no others. -/
theorem assignment_atomic (host : Host σ) {before start w : World σ} {initial : Slot} {s : SlotId}
    {past : List (World σ × SlotEvent)} (created : (World.newSlot initial).run before = (s, start))
    (chronicle : host.Chronicle s start past w) :
    (∀ role candidate,
      ((∃ after, (host.setSlotFunction s role candidate).runIn w = (.ok (), after)) ↔
        candidate = .undefined ∨ ∃ o, candidate = .object o ∧ host.Callable w o) ∧
      (∀ e after, (host.setSlotFunction s role candidate).runIn w = (.error e, after) →
        e = host.typeError (role.title ++ " must be a function: " ++ host.display w candidate) ∧
          (host.RaisesTypeErrors →
            e = ⟨.type, role.title ++ " must be a function: " ++ host.display w candidate⟩) ∧
          after = w) ∧
      (∀ after, (host.setSlotFunction s role candidate).runIn w = (.ok (), after) →
        Installs s role candidate w after) ∧
      host.Asks (fun _ h => h.setSlotFunction s role candidate) w []) ∧
    ((∀ role f, initial.function? role = some f → host.Callable start f) →
      ∀ role f, (w.slot s).function? role = some f →
        host.Vouched start past f ∧
          ((∀ u v, host.Callable u f ↔ host.Callable v f) → host.Callable w f)) := by
  have found := World.newSlot_found created
  have known : s.index < w.slots.size :=
    (Array.getElem?_eq_some_iff.1 (chronicle.run.found found)).1
  refine ⟨fun role candidate => ?_, fun given role f present => ?_⟩
  · have run := host.runIn_setSlotFunction s role candidate w
    have judged := host.accepts_iff w candidate
    refine ⟨?_, ?_, ?_, host.setSlotFunction_asks s role candidate w⟩
    · rw [← judged, run]
      cases host.accepts w candidate <;> simp
    · intro e after failed
      rw [run] at failed
      split at failed
      case isTrue => simp at failed
      case isFalse =>
        cases failed
        exact ⟨rfl, fun raises => raises _, rfl⟩
    · intro after done
      rw [run] at done
      split at done
      case isTrue =>
        cases done
        exact installs_updateSlot known role candidate
      case isFalse => simp at done
  · have vouched := chronicle.vouched found given role f present
    refine ⟨vouched, fun lasting => ?_⟩
    rcases vouched with callable | ⟨v, -, -, callable⟩
    · exact (lasting start w).1 callable
    · exact (lasting v w).1 callable

def oneFunction : Host Unit :=
  { silent with
    behaviour _ o :=
      { number := pure .undefined
        string := pure .undefined
        className := if o = ⟨1⟩ then "Function" else "Date"
        callable := o = ⟨1⟩ } }

theorem assignment_atomic_refused :
    ∃ w, (do oneFunction.setSlotFunction ⟨0⟩ .getter .undefined
             oneFunction.setSlotFunction ⟨0⟩ .getter (.object ⟨1⟩)).runIn
          { slots := #[.accessor (some ⟨1⟩) none true false], host := () } = (.ok (), w) ∧
      (oneFunction.setSlotFunction ⟨0⟩ .setter (.object ⟨2⟩)).runIn w =
        (.error ⟨.type, "Setter must be a function: [object Date]"⟩, w) ∧
      Installs ⟨0⟩ .setter (.object ⟨1⟩) w
        ((oneFunction.setSlotFunction ⟨0⟩ .setter (.object ⟨1⟩)).runIn w).2 ∧
      oneFunction.Callable w ⟨1⟩ := by
  let initial : Slot := .accessor (some ⟨1⟩) none true false
  let start : World Unit := { slots := #[initial], host := () }
  let cleared := ((oneFunction.setSlotFunction ⟨0⟩ .getter .undefined).runIn start).2
  let w := ((oneFunction.setSlotFunction ⟨0⟩ .getter (.object ⟨1⟩)).runIn cleared).2
  have created : (World.newSlot initial).run { host := () } = (⟨0⟩, start) := rfl
  have clears : oneFunction.SlotStep ⟨0⟩ start (.setFunction .getter .undefined true) cleared :=
    .accepted rfl
  have sets : oneFunction.SlotStep ⟨0⟩ cleared (.setFunction .getter (.object ⟨1⟩) true) w :=
    .accepted rfl
  obtain ⟨assign, functions⟩ :=
    oneFunction.assignment_atomic created ((Chronicle.start.call clears).call sets)
  have given (role : Role) (f : ObjectId) (present : initial.function? role = some f) :
      oneFunction.Callable start f := by
    cases role <;> cases present
    rfl
  refine ⟨w, rfl, ?_, (assign .setter (.object ⟨1⟩)).2.2.1 _ rfl, ?_⟩
  · have refused := (assign .setter (.object ⟨2⟩)).2.1 _ _ rfl
    exact Prod.ext (congrArg Except.error (refused.2.1 fun _ => rfl)) refused.2.2
  · exact (functions given .getter ⟨1⟩ rfl).2 fun _ _ => Iff.rfl

end Host

end ScriptValue
