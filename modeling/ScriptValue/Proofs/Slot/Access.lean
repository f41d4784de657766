import ScriptValue.Proofs.Equality.Loose
import ScriptValue.Proofs.Slot.History

set_option autoImplicit false

namespace ScriptValue

namespace Host

variable {σ : Type} (host : Host σ) (s : SlotId) (receiver v : Value) (w : World σ)

theorem getSlot_asks : host.Asks (fun _ h => h.getSlot s receiver) w
    (if (w.slot s).isAccessor then
      ((w.slot s).function? .getter).toList.map fun getter => .call getter receiver []
    else []) := by
  intro earlier
  rw [runIn_getSlot, runIn_getSlot, World.slot_recorded]
  cases (w.slot s).isAccessor with
  | false => simp
  | true =>
    cases (w.slot s).function? .getter with
    | none => simp
    | some getter => exact asks_call host w getter receiver [] earlier

theorem setSlot_asks : host.Asks (fun _ h => h.setSlot s receiver v) w
    (if (w.slot s).isAccessor then
      ((w.slot s).function? .setter).toList.map fun setter => .call setter receiver [v]
    else []) := by
  intro earlier
  rw [runIn_setSlot, runIn_setSlot, World.slot_recorded]
  cases (w.slot s).isAccessor with
  | false => simp [World.recorded, World.updateSlot]
  | true =>
    cases (w.slot s).function? .setter with
    | none => simp
    | some setter =>
      have call := asks_call host w setter receiver [v] earlier
      dsimp only [if_true, Option.toList_some, List.map_cons, List.map_nil] at call ⊢
      rw [if_pos rfl, if_pos rfl, if_pos rfl, call]
      rcases (host.call setter receiver [v]).runIn w with ⟨e | u, after⟩ <;> rfl

/-- What a slot does after any history. It became an accessor with the first function it accepted
and remains one. Until then it gives back what was stored last; from then on it stores nothing, and
reads and writes are calls of the functions installed last, one call each. -/
theorem slot_history (host : Host σ) {before start w : World σ} {initial : Slot} {s : SlotId}
    {events : List SlotEvent} (made : initial.Made)
    (created : (World.newSlot initial).run before = (s, start))
    (run : host.SlotRun s start events w) :
    ((w.slot s).isAccessor = true ↔
      initial.isAccessor = true ∨ ∃ e ∈ events, e.converts = true) ∧
    ((w.slot s).isAccessor = false →
      (∀ role, (w.slot s).function? role = none) ∧
      ∃ v, initial.value? = some v ∧ ∀ receiver,
        (host.getSlot s receiver).runIn w = (.ok (SlotEvent.latest SlotEvent.stored? v events), w) ∧
        host.Asks (fun _ h => h.getSlot s receiver) w []) ∧
    ((w.slot s).isAccessor = true →
      (w.slot s).value? = none ∧
      (∀ receiver,
        (host.getSlot s receiver).runIn w =
          (match initial.installed .getter events with
          | none => (.ok .undefined, w)
          | some getter => (host.call getter receiver []).runIn w) ∧
        host.Asks (fun _ h => h.getSlot s receiver) w
          ((initial.installed .getter events).toList.map fun getter => .call getter receiver [])) ∧
      ∀ receiver v,
        (host.setSlot s receiver v).runIn w =
          (match initial.installed .setter events with
          | none => (.ok (), w)
          | some setter =>
              match (host.call setter receiver [v]).runIn w with
              | (.ok _, after) => (.ok (), after)
              | (.error e, after) => (.error e, after)) ∧
        host.Asks (fun _ h => h.setSlot s receiver v) w
          ((initial.installed .setter events).toList.map
            fun setter => .call setter receiver [v])) := by
  have slot : w.slot s = initial.afterAll events := run.slot_eq created
  have function? (role : Role) : (w.slot s).function? role = initial.installed role events := by
    rw [slot]
    exact Slot.function?_afterAll role
  have exclusive : (w.slot s).Exclusive := by
    rw [slot]
    exact made.exclusive.afterAll
  refine ⟨?_, ?_, ?_⟩
  · rw [slot]
    exact Slot.isAccessor_afterAll
  · intro mode
    have first : initial.isAccessor = false := by
      rw [slot] at mode
      by_contra accessor
      simp [Slot.isAccessor_afterAll.2 (.inl (by simpa using accessor))] at mode
    obtain ⟨v, stored⟩ := made.exclusive.value first
    have data : (w.slot s).value? = some (SlotEvent.latest SlotEvent.stored? v events) := by
      rw [slot] at mode ⊢
      exact Slot.value?_afterAll stored mode
    refine ⟨exclusive.functions mode, v, stored, ?_⟩
    intro receiver
    have reads := runIn_getSlot host s receiver w
    have asks := getSlot_asks host s receiver w
    rw [mode, data] at reads
    rw [mode] at asks
    exact ⟨reads, asks⟩
  · intro mode
    refine ⟨exclusive.empty mode, ?_, ?_⟩
    · intro receiver
      have reads := runIn_getSlot host s receiver w
      have asks := getSlot_asks host s receiver w
      rw [if_pos mode] at reads asks
      rw [← function?]
      exact ⟨reads, asks⟩
    · intro receiver v
      have writes := runIn_setSlot host s receiver v w
      have asks := setSlot_asks host s receiver v w
      rw [if_pos mode] at writes asks
      rw [← function?]
      exact ⟨writes, asks⟩

def once : Host Unit :=
  { silent with
    behaviour _ o :=
      { number := pure .undefined
        string := pure .undefined
        callable := true
        call _ _ := do
          silent.setSlotFunction ⟨0⟩ .setter .undefined
          return .object o } }

theorem slot_history_once :
    ∃ w, (do once.setSlotFunction ⟨0⟩ .setter (.object ⟨1⟩)
             once.setSlot ⟨0⟩ .null (.boolean true)).runIn
          { slots := #[.data .null .all], host := () } = (.ok (), w) ∧
      (w.slot ⟨0⟩).isAccessor = true ∧
      (once.getSlot ⟨0⟩ .null).runIn w = (.ok .undefined, w) ∧
      once.Asks (fun _ h => h.setSlot ⟨0⟩ .null (.boolean false)) w [] := by
  let start : World Unit := { slots := #[.data .null .all], host := () }
  let made := ((once.setSlotFunction ⟨0⟩ .setter (.object ⟨1⟩)).runIn start).2
  let w := ((once.setSlot ⟨0⟩ .null (.boolean true)).runIn made).2
  have created : (World.newSlot (.data .null .all)).run { host := () } = (⟨0⟩, start) := rfl
  have setter : once.SlotRun ⟨0⟩ start [.setFunction .setter (.object ⟨1⟩) true] made :=
    .call .start (.accepted rfl)
  have cleared : once.SlotRun ⟨0⟩ made [.setFunction .setter .undefined true]
      ((once.call ⟨1⟩ .null [.boolean true]).runIn made).2 :=
    .call .start (.accepted rfl)
  obtain ⟨mode, -, accessor⟩ :=
    once.slot_history (.data _ _) created (setter.setSlot rfl rfl cleared)
  have converted : (w.slot ⟨0⟩).isAccessor = true := mode.2 (.inr ⟨_, .head _, rfl⟩)
  obtain ⟨-, reads, writes⟩ := accessor converted
  exact ⟨w, rfl, converted, (reads .null).1, (writes .null (.boolean false)).2⟩

/-- An accessor has the writable flag when it was given it after the last function it accepted.
Then it counts as writable without a setter. -/
theorem writable_history (host : Host σ) {before start w : World σ} {initial : Slot} {s : SlotId}
    {events : List SlotEvent} (made : initial.Made)
    (created : (World.newSlot initial).run before = (s, start))
    (run : host.SlotRun s start events w) (mode : (w.slot s).isAccessor = true) :
    (w.slot s).flags.writable = SlotEvent.latest SlotEvent.writable? false events ∧
    (w.slot s).isWritable = (SlotEvent.latest SlotEvent.writable? false events ||
      (initial.installed .setter events).isSome) := by
  have slot : w.slot s = initial.afterAll events := run.slot_eq created
  have writable : (w.slot s).flags.writable =
      SlotEvent.latest SlotEvent.writable? false events := by
    rw [slot] at mode ⊢
    exact made.writable_afterAll mode
  have setter : (w.slot s).setter? = initial.installed .setter events := by
    rw [slot]
    exact Slot.function?_afterAll .setter
  exact ⟨writable, by rw [Slot.isWritable, writable, setter]⟩

theorem writable_history_cleared :
    ∃ flagged w : World Unit,
      (setSlotFlags ⟨0⟩ .all).run { slots := #[.data .null .none], host := () } = ((), flagged) ∧
      (silent.setSlotFunction ⟨0⟩ .getter .undefined).runIn flagged = (.ok (), w) ∧
      (w.slot ⟨0⟩).flags.writable = false ∧ (w.slot ⟨0⟩).isWritable = false := by
  let start : World Unit := { slots := #[.data .null .none], host := () }
  let flagged := ((setSlotFlags ⟨0⟩ .all).run start).2
  let w := ((silent.setSlotFunction ⟨0⟩ .getter .undefined).runIn flagged).2
  have created : (World.newSlot (.data .null .none)).run { host := () } = (⟨0⟩, start) := rfl
  have run : silent.SlotRun ⟨0⟩ start [.setFlags .all, .setFunction .getter .undefined true] w :=
    .call (.call .start .setFlags) (.accepted rfl)
  exact ⟨flagged, w, rfl, rfl, silent.writable_history (.data _ _) created run rfl⟩

theorem accessor_given_writable :
    ∃ start w : World Unit,
      (World.newSlot (.accessor none none true true)).run { host := () } = (⟨0⟩, start) ∧
      (setSlotFlags ⟨0⟩ .all).run start = ((), w) ∧
      (w.slot ⟨0⟩).isAccessor = true ∧ (w.slot ⟨0⟩).flags.writable = true ∧
      (w.slot ⟨0⟩).isWritable = true ∧ (w.slot ⟨0⟩).function? .setter = none :=
  ⟨_, _, rfl, rfl, rfl, rfl, rfl, rfl⟩

end Host

end ScriptValue
