import ScriptValue.Boxing
import ScriptValue.Proofs.Coercion.Primitive

set_option autoImplicit false

namespace ScriptValue

def Value.wrapper? : Value → Option Wrapper
  | .number _ => some .number
  | .boolean _ => some .boolean
  | .string _ => some .string
  | .symbol _ => some .symbol
  | _ => none

theorem Value.not_isObject_of_wrapper? {v : Value} {wrapper : Wrapper}
    (boxable : v.wrapper? = some wrapper) : v.isObject = false := by
  cases v <;> first | rfl | cases boxable

theorem Value.reduced?_of_not_isObject {a b : Value} (left : a.isObject = false)
    (right : b.isObject = false) : a.reduced? b = none := by
  cases a <;> cases b <;> simp_all [reduced?, isObject]

-- Beside a value that reduces no object, an object and a boxable primitive count alike.
theorem Value.unreduced_alike {v x : Value} {wrapper : Wrapper}
    (boxable : v.wrapper? = some wrapper) (other : x.isObject = false)
    (unreduced : x.reducesObject = false) (o : ObjectId) :
    (Value.object o).checkResolved x = v.checkResolved x ∧
      (Value.object o).looseContent x = v.looseContent x := by
  cases x with
  | null | undefined | slot | unresolved =>
    cases v <;> first | exact ⟨rfl, rfl⟩ | cases boxable
  | object => cases other
  | _ => cases unreduced

variable {σ α : Type}

def Guest.SameEnd (g g' : Guest σ α) (w : World σ) : Prop := (g.runIn w).1 = (g'.runIn w).1

namespace Host

variable {host : Host σ} {v : Value} {o : ObjectId} {w : World σ}

def StandsFor (host : Host σ) (w : World σ) (o : ObjectId) (v : Value) : Prop :=
  ∀ hint, (host.answer hint w o).1 = .ok v

def WrapsFaithfully (host : Host σ) : Prop :=
  ∀ (w : World σ) (v : Value) (wrapper : Wrapper) (prototype : ObjectId),
    v.wrapper? = some wrapper →
      host.StandsFor ((host.wrap v prototype wrapper).run w).2
        ((host.wrap v prototype wrapper).run w).1 v

theorem runIn_toObject {wrapper : Wrapper} (boxable : v.wrapper? = some wrapper) (w : World σ) :
    (host.toObject v).runIn w = (Except.ok ((host.box v wrapper).run w).1,
      ((host.box v wrapper).run w).2) := by
  cases v <;> cases boxable <;> rfl

theorem standsFor_box (faithful : host.WrapsFaithfully) {wrapper : Wrapper}
    (boxable : v.wrapper? = some wrapper) (w : World σ) :
    host.StandsFor ((host.box v wrapper).run w).2 ((host.box v wrapper).run w).1 v :=
  faithful ((host.prototype wrapper).run w).2 v wrapper ((host.prototype wrapper).run w).1 boxable

section StandsFor

variable (stands : host.StandsFor w o v) (primitive : v.isObject = false)

include stands primitive

theorem StandsFor.coerce (hint : Hint) (table : Value → Except GuestError α) :
    (host.coerce hint table (.object o)).SameEnd (host.coerce hint table v) w := by
  have hook := stands hint
  rw [answer] at hook
  rw [Guest.SameEnd, coerce_eq_table host hint table primitive, Guest.runIn_ofExcept,
    runIn_coerce_object]
  rcases run : ((host.behaviour w o).primitive hint).runIn w with ⟨e | p, after⟩
  · rw [run] at hook
    cases hook
  · rw [run] at hook
    cases hook
    rfl

theorem StandsFor.toPrimitive (resolved : v.isUnresolved = false) :
    (host.toPrimitive (.object o)).SameEnd (host.toPrimitive v) w := by
  have given : host.answer .default w o = (.ok v, (host.answer .default w o).2) :=
    Prod.ext (stands .default) rfl
  rw [Guest.SameEnd, (toPrimitive_object_eq_ok_iff host).2 ⟨given, primitive⟩,
    runIn_toPrimitive_of_not_isObject host primitive, Value.forced_of_resolved resolved]

theorem StandsFor.looseEquals_of_reducesObject {x : Value} (reduces : x.reducesObject = true) :
    (host.looseEquals (.object o) x).SameEnd (host.looseEquals v x) w := by
  have other : x.isObject = false := by cases x <;> first | rfl | cases reduces
  have hook := stands .default
  rw [answer] at hook
  rw [Guest.SameEnd, runIn_looseEquals_object host reduces,
    runIn_looseEquals_unreduced host (by simp [primitive])
      (Value.reduced?_of_not_isObject primitive other)]
  rcases run : ((host.behaviour w o).primitive .default).runIn w with ⟨e | p, after⟩
  · rw [run] at hook
    cases hook
  · rw [run] at hook
    cases hook
    simp [Value.settle, primitive]

end StandsFor

theorem looseEquals_of_not_reducesObject {wrapper : Wrapper} (boxable : v.wrapper? = some wrapper)
    {x : Value} (other : x.isObject = false) (unreduced : x.reducesObject = false) :
    (host.looseEquals (.object o) x).SameEnd (host.looseEquals v x) w := by
  have box : (Value.object o).reduced? x = none := by
    cases x <;> first | rfl | cases unreduced
  have bare := Value.reduced?_of_not_isObject (Value.not_isObject_of_wrapper? boxable) other
  obtain ⟨resolved, content⟩ := Value.unreduced_alike boxable other unreduced o
  rw [Guest.SameEnd, runIn_looseEquals_unreduced host (by simp [other]) box,
    runIn_looseEquals_unreduced host (by simp [other]) bare, resolved, content]

theorem StandsFor.looseEquals (stands : host.StandsFor w o v) {wrapper : Wrapper}
    (boxable : v.wrapper? = some wrapper) {x : Value} (other : x.isObject = false) :
    (host.looseEquals (.object o) x).SameEnd (host.looseEquals v x) w ∧
      (host.looseEquals x (.object o)).SameEnd (host.looseEquals v x) w := by
  have left : (host.looseEquals (.object o) x).SameEnd (host.looseEquals v x) w := by
    cases reduces : x.reducesObject with
    | true =>
      have primitive := Value.not_isObject_of_wrapper? boxable
      exact stands.looseEquals_of_reducesObject primitive reduces
    | false => exact looseEquals_of_not_reducesObject boxable other reduces
  refine ⟨left, ?_⟩
  rw [Guest.SameEnd, ← looseEquals_comm host w (by simp [other]) (by simp [Value.isUnresolved])]
  exact left

/-- A primitive and the object it is boxed in coerce to the same result or error and are loosely
equal to the same values, on either side. This holds right after boxing and for as long as the
wrapper answers with what it wraps. Boxing the object again gives the object. -/
theorem boxing_transparent (faithful : host.WrapsFaithfully) {wrapper : Wrapper}
    (boxable : v.wrapper? = some wrapper) (w : World σ) :
    ∃ o boxed, (host.toObject v).runIn w = (.ok o, boxed) ∧ host.StandsFor boxed o v ∧
      ∀ u, host.StandsFor u o v →
        (host.toNumber (.object o)).SameEnd (host.toNumber v) u ∧
        (host.toDouble (.object o)).SameEnd (host.toDouble v) u ∧
        (host.toInt64 (.object o)).SameEnd (host.toInt64 v) u ∧
        (host.toInt32 (.object o)).SameEnd (host.toInt32 v) u ∧
        (host.toUInt32 (.object o)).SameEnd (host.toUInt32 v) u ∧
        (host.toText (.object o)).SameEnd (host.toText v) u ∧
        (host.toPrimitive (.object o)).SameEnd (host.toPrimitive v) u ∧
        (∀ x, x.isObject = false →
          (host.looseEquals (.object o) x).SameEnd (host.looseEquals v x) u ∧
            (host.looseEquals x (.object o)).SameEnd (host.looseEquals v x) u) ∧
        (host.toObject (.object o)).runIn u = (.ok o, u) := by
  refine ⟨_, _, runIn_toObject boxable w, standsFor_box faithful boxable w, ?_⟩
  intro u stands
  have primitive := Value.not_isObject_of_wrapper? boxable
  have resolved : v.isUnresolved = false := by cases v <;> first | rfl | cases boxable
  exact ⟨stands.coerce primitive _ _, stands.coerce primitive _ _, stands.coerce primitive _ _,
    stands.coerce primitive _ _, stands.coerce primitive _ _, stands.coerce primitive _ _,
    stands.toPrimitive primitive resolved, fun _ => stands.looseEquals boxable, rfl⟩

def wrapping : Host (ObjectId → Value) where
  behaviour w o := { number := pure (w.host o), string := pure (w.host o) }
  prototype _ := pure ⟨0⟩
  adopt o v _ _ := modify fun w => { w with host := Function.update w.host o v }

theorem wrapsFaithfully_wrapping : wrapping.WrapsFaithfully := by
  intro w v wrapper prototype _ hint
  have kept : (Function.update w.host ⟨w.nextObject⟩ v) ⟨w.nextObject⟩ = v :=
    Function.update_self ..
  cases hint <;> exact congrArg Except.ok kept

theorem boxing_transparent_text :
    ∃ o boxed, (wrapping.toObject (.string "1.0")).runIn { host := fun _ => .undefined } =
        (.ok o, boxed) ∧
      ((wrapping.looseEquals (.boolean true) (.object o)).runIn boxed).1 = .ok true ∧
      ((wrapping.toText (.object o)).runIn boxed).1 = .ok "1.0" := by
  have boxable : (Value.string "1.0").wrapper? = some .string := rfl
  obtain ⟨o, boxed, run, stands, same⟩ :=
    boxing_transparent wrapsFaithfully_wrapping boxable { host := fun _ => .undefined }
  obtain ⟨-, -, -, -, -, text, -, equal, -⟩ := same boxed stands
  refine ⟨o, boxed, run, (equal (.boolean true) rfl).2.trans ?_, text⟩
  have content : (Value.string "1.0").looseContent (.boolean true) = true := by decide +kernel
  exact congrArg Except.ok content

end Host

end ScriptValue
