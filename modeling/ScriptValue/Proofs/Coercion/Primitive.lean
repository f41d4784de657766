import ScriptValue.Proofs.Coercion.Failures

set_option autoImplicit false

namespace ScriptValue

def Value.forced : Value → Except GuestError Value
  | .unresolved name => .error (Cause.unresolved name).error
  | v => .ok v

theorem Value.forced_of_resolved {v : Value} (resolved : v.isUnresolved = false) :
    v.forced = .ok v := by
  cases v <;> first | rfl | cases resolved

theorem Value.resolved_of_forced {v p : Value} (given : v.forced = .ok p) :
    p = v ∧ v.isUnresolved = false := by
  cases v <;> cases given <;> exact ⟨rfl, rfl⟩

namespace Host

variable {σ : Type} (host : Host σ)

theorem toPrimitive_of_not_isObject {v : Value} (primitive : v.isObject = false) :
    host.toPrimitive v = Guest.ofExcept v.forced := by
  cases v <;> first | rfl | cases primitive

theorem runIn_toPrimitive_of_not_isObject {v : Value} (primitive : v.isObject = false)
    (w : World σ) : (host.toPrimitive v).runIn w = (v.forced, w) := by
  rw [toPrimitive_of_not_isObject host primitive, Guest.runIn_ofExcept]

theorem toPrimitive_inert {v : Value} (primitive : v.isObject = false) (w : World σ) :
    host.Inert (fun _ h => h.toPrimitive v) w :=
  host.inert_of_decided (fun _ h => h.runIn_toPrimitive_of_not_isObject primitive) w

theorem toPrimitive_object_eq_ok_iff {o : ObjectId} {p : Value} {w after : World σ} :
    (host.toPrimitive (.object o)).runIn w = (.ok p, after) ↔
      host.answer .default w o = (.ok p, after) ∧ p.isObject = false := by
  rw [runIn_toPrimitive_object, answer]
  rcases ((host.behaviour w o).primitive .default).runIn w with ⟨e | given, left⟩
  · simp
  · cases object : given.isObject with
    | true =>
      simp only [object, if_true, Prod.mk.injEq, reduceCtorEq, false_and, Except.ok.injEq,
        false_iff]
      rintro ⟨⟨rfl, -⟩, primitive⟩
      rw [object] at primitive
      cases primitive
    | false =>
      simp only [object, Bool.false_eq_true, if_false, iff_self_and, Prod.mk.injEq, Except.ok.injEq]
      rintro ⟨rfl, -⟩
      exact object

-- A result is the value itself, which then is resolved, or what the hook of an object gave.
theorem toPrimitive_eq_ok {v p : Value} {w after : World σ}
    (run : (host.toPrimitive v).runIn w = (.ok p, after)) :
    p.isObject = false ∧
      (p = v ∧ v.isUnresolved = false ∨
        ∃ o, v = .object o ∧ host.answer .default w o = (.ok p, after)) := by
  cases object : v.isObject with
  | true =>
    obtain ⟨o, rfl⟩ := Value.eq_object_of_isObject object
    obtain ⟨given, primitive⟩ := (toPrimitive_object_eq_ok_iff host).1 run
    exact ⟨primitive, .inr ⟨o, rfl, given⟩⟩
  | false =>
    rw [runIn_toPrimitive_of_not_isObject host object, Prod.mk.injEq] at run
    obtain ⟨rfl, resolved⟩ := Value.resolved_of_forced run.1
    exact ⟨object, .inl ⟨rfl, resolved⟩⟩

/-- A result is no object, and if it is resolved it is its own primitive, for which no hook is
asked. An unresolved name raises as a value. As a result it appears only where the hook of an
object hands it back, exactly then, and raises when it is reduced in turn. -/
theorem toPrimitive_idempotent (w : World σ) (v : Value) :
    (∀ p after, (host.toPrimitive v).runIn w = (.ok p, after) →
      p.isObject = false ∧
        (∀ u, host.Inert (fun _ h => h.toPrimitive p) u) ∧
        (p.isUnresolved = false → ∀ u, (host.toPrimitive p).runIn u = (.ok p, u)) ∧
        (∀ name, p = .unresolved name →
          ∀ u, (host.toPrimitive p).runIn u =
            (.error ⟨.reference, name ++ " is not defined"⟩, u))) ∧
      (∀ name after, (host.toPrimitive v).runIn w = (.ok (.unresolved name), after) ↔
        ∃ o, v = .object o ∧ host.answer .default w o = (.ok (.unresolved name), after)) ∧
      ∀ name, v = .unresolved name →
        host.Inert (fun _ h => h.toPrimitive v) w ∧
          (host.toPrimitive v).runIn w = (.error ⟨.reference, name ++ " is not defined"⟩, w) := by
  refine ⟨?_, ?_, ?_⟩
  · intro p after run
    obtain ⟨primitive, -⟩ := toPrimitive_eq_ok host run
    refine ⟨primitive, host.toPrimitive_inert primitive, ?_, ?_⟩
    · intro resolved u
      rw [runIn_toPrimitive_of_not_isObject host primitive, Value.forced_of_resolved resolved]
    · rintro name rfl u
      exact runIn_toPrimitive_of_not_isObject host primitive u
  · intro name after
    constructor
    · intro run
      obtain ⟨-, ⟨rfl, resolved⟩ | handed⟩ := toPrimitive_eq_ok host run
      · cases resolved
      · exact handed
    · rintro ⟨o, rfl, given⟩
      exact (toPrimitive_object_eq_ok_iff host).2 ⟨given, rfl⟩
  · rintro name rfl
    exact ⟨host.toPrimitive_inert rfl w, host.runIn_toPrimitive_of_not_isObject rfl w⟩

def dangling : Host Unit where
  behaviour _ _ :=
    { number := pure (.unresolved "ghost"), string := pure (.unresolved "ghost") }
  prototype _ := pure ⟨0⟩
  adopt _ _ _ _ := pure ()

theorem toPrimitive_gives_unresolved :
    (dangling.toPrimitive (.object ⟨1⟩)).runIn { host := () } =
        (.ok (.unresolved "ghost"), { host := () }) ∧
      (dangling.toPrimitive (.unresolved "ghost")).runIn { host := () } =
        (.error ⟨.reference, "ghost is not defined"⟩, { host := () }) ∧
      (dangling.toNumber (.object ⟨1⟩)).runIn { host := () } =
        (.error ⟨.reference, "ghost is not defined"⟩, { host := () }) :=
  ⟨rfl, rfl, rfl⟩

end Host

end ScriptValue
