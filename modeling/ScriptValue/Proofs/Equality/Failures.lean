import ScriptValue.Proofs.Coercion.Failures

set_option autoImplicit false

namespace ScriptValue

namespace Value

inductive NamesUnresolved : Value → Value → GuestError → Prop
  | left (name : String) (b : Value) :
      NamesUnresolved (.unresolved name) b ⟨.reference, name ++ " is not defined"⟩
  | right {a : Value} (name : String) (resolved : a.isUnresolved = false) :
      NamesUnresolved a (.unresolved name) ⟨.reference, name ++ " is not defined"⟩

def OneObject (o : ObjectId) (a b : Value) : Prop :=
  a = .object o ∧ b.reducesObject = true ∨ b = .object o ∧ a.reducesObject = true

theorem checkResolved_eq_error_iff (a b : Value) (e : GuestError) :
    a.checkResolved b = .error e ↔ a.NamesUnresolved b e := by
  constructor
  · intro failed
    cases a with
    | unresolved name =>
      cases failed
      exact .left name b
    | _ =>
      cases b with
      | unresolved name =>
        cases failed
        exact .right name rfl
      | _ => cases failed
  · rintro (⟨name, -⟩ | ⟨name, resolved⟩)
    · rfl
    · cases a <;> first | rfl | cases resolved

theorem map_checkResolved_eq_error_iff {α : Type} (a b : Value) (f : Unit → α) (e : GuestError) :
    (a.checkResolved b).map f = .error e ↔ a.NamesUnresolved b e := by
  rw [← checkResolved_eq_error_iff]
  cases a.checkResolved b <;> simp [Except.map]

theorem sameUpTo_eq_error_iff (zerosEqual : Bool) (a b : Value) (e : GuestError) :
    sameUpTo zerosEqual a b = .error e ↔ a.NamesUnresolved b e :=
  map_checkResolved_eq_error_iff a b _ e

theorem OneObject.unique {o o' : ObjectId} {a b : Value} (one : OneObject o a b)
    (other : OneObject o' a b) : o' = o := by
  have same := (reduced?_eq_some_iff.2 other).symm.trans (reduced?_eq_some_iff.2 one)
  exact Option.some.inj same

theorem OneObject.not_namesUnresolved {o : ObjectId} {a b : Value} (one : OneObject o a b)
    (e : GuestError) : ¬a.NamesUnresolved b e := by
  rintro (_ | ⟨name, resolved⟩)
  · obtain ⟨⟨⟩, -⟩ | ⟨-, ⟨⟩⟩ := one
  · obtain ⟨-, ⟨⟩⟩ | ⟨⟨⟩, -⟩ := one

theorem settle_eq_error_iff {v : Value} (reduces : v.reducesObject = true) (p : Value)
    (e : GuestError) :
    v.settle p = .error e ↔
      (∃ q, p = .object q ∧ e = ⟨.type, "Cannot convert object to primitive value"⟩) ∨
        ∃ name, p = .unresolved name ∧ e = ⟨.reference, name ++ " is not defined"⟩ := by
  cases again : p.isObject with
  | true =>
    obtain ⟨q, rfl⟩ := eq_object_of_isObject again
    constructor
    · rintro ⟨⟩
      exact .inl ⟨q, rfl, rfl⟩
    · rintro (⟨_, -, rfl⟩ | ⟨_, ⟨⟩, -⟩)
      rfl
  | false =>
    rw [settle, if_neg (by simp [again]), map_checkResolved_eq_error_iff]
    constructor
    · rintro (⟨name, -⟩ | ⟨name, -⟩)
      · exact .inr ⟨name, rfl, rfl⟩
      · cases reduces
    · rintro (⟨q, rfl, -⟩ | ⟨name, rfl, rfl⟩)
      · cases again
      · exact .left name v

end Value

namespace Host

variable {σ : Type} (host : Host σ)

inductive LooseFails (w : World σ) (a b : Value) : GuestError → Prop
  | operand {e : GuestError} (names : a.NamesUnresolved b e) : LooseFails w a b e
  | raised {o : ObjectId} {e : GuestError} (one : Value.OneObject o a b)
      (hook : (host.answer .default w o).1 = .error e) : LooseFails w a b e
  | object {o p : ObjectId} (one : Value.OneObject o a b)
      (hook : (host.answer .default w o).1 = .ok (.object p)) :
      LooseFails w a b ⟨.type, "Cannot convert object to primitive value"⟩
  | result {o : ObjectId} {name : String} (one : Value.OneObject o a b)
      (hook : (host.answer .default w o).1 = .ok (.unresolved name)) :
      LooseFails w a b ⟨.reference, name ++ " is not defined"⟩

theorem strictEquals_fails_iff (w : World σ) (a b : Value) (e : GuestError) :
    ((host.strictEquals a b).runIn w).1 = .error e ↔ a.NamesUnresolved b e := by
  obtain ⟨x, y, rfl, rfl⟩ | objects := Value.eq_objects_or a b
  · rw [runIn_strictEquals_object]
    constructor <;> rintro ⟨⟩
  · rw [runIn_strictEquals host objects]
    exact Value.map_checkResolved_eq_error_iff a b _ e

-- Without an object that is reduced, only the check of the operands is left to fail.
theorem looseFails_iff_of_unreduced {w : World σ} {a b : Value} (unreduced : a.reduced? b = none)
    (e : GuestError) : host.LooseFails w a b e ↔ a.NamesUnresolved b e := by
  have none (o : ObjectId) : ¬Value.OneObject o a b := by
    intro one
    rw [Value.reduced?_eq_some_iff.2 one] at unreduced
    cases unreduced
  constructor
  · rintro (names | ⟨one, -⟩ | ⟨one, -⟩ | ⟨one, -⟩)
    · exact names
    all_goals exact absurd one (none _)
  · exact .operand

theorem looseFails_iff_of_oneObject {w : World σ} {o : ObjectId} {a b : Value}
    (one : Value.OneObject o a b) (e : GuestError) :
    host.LooseFails w a b e ↔
      (host.answer .default w o).1 = .error e ∨
        ∃ p, (host.answer .default w o).1 = .ok p ∧
          ((∃ q, p = .object q ∧ e = ⟨.type, "Cannot convert object to primitive value"⟩) ∨
            ∃ name, p = .unresolved name ∧ e = ⟨.reference, name ++ " is not defined"⟩) := by
  have only {o' : ObjectId} (other : Value.OneObject o' a b) : o' = o := one.unique other
  constructor
  · rintro (names | ⟨other, hook⟩ | ⟨other, hook⟩ | ⟨other, hook⟩)
    · exact absurd names (one.not_namesUnresolved e)
    all_goals rw [only other] at hook
    · exact .inl hook
    · exact .inr ⟨_, hook, .inl ⟨_, rfl, rfl⟩⟩
    · exact .inr ⟨_, hook, .inr ⟨_, rfl, rfl⟩⟩
  · rintro (hook | ⟨p, hook, ⟨q, rfl, rfl⟩ | ⟨name, rfl, rfl⟩⟩)
    · exact .raised one hook
    · exact .object one hook
    · exact .result one hook

theorem looseEquals_oneObject {o : ObjectId} {a b : Value} (one : Value.OneObject o a b) :
    ∃ v, v.reducesObject = true ∧ host.looseEquals a b = host.looseEquals (.object o) v := by
  obtain ⟨rfl, reduces⟩ | ⟨rfl, reduces⟩ := one
  · exact ⟨b, reduces, rfl⟩
  · exact ⟨a, reduces, host.looseEquals_object_right reduces⟩

theorem looseEquals_fails_iff (w : World σ) (a b : Value) (e : GuestError) :
    ((host.looseEquals a b).runIn w).1 = .error e ↔ host.LooseFails w a b e := by
  obtain ⟨x, y, rfl, rfl⟩ | objects := Value.eq_objects_or a b
  · have compared : (host.looseEquals (.object x) (.object y)).runIn w =
        (.ok ((host.sameObject x y).run w).1, ((host.sameObject x y).run w).2) := rfl
    rw [host.looseFails_iff_of_unreduced rfl, compared]
    constructor <;> rintro ⟨⟩
  · cases reduced : a.reduced? b with
    | none =>
      rw [runIn_looseEquals_unreduced host objects reduced,
        looseFails_iff_of_unreduced host reduced]
      exact Value.map_checkResolved_eq_error_iff a b _ e
    | some o =>
      have one : Value.OneObject o a b := Value.reduced?_eq_some_iff.1 reduced
      obtain ⟨v, reduces, turned⟩ := host.looseEquals_oneObject one
      rw [looseFails_iff_of_oneObject host one, turned, runIn_looseEquals_object host reduces,
        answer]
      rcases ((host.behaviour w o).primitive .default).runIn w with ⟨raised | p, after⟩
      · simp
      · simp [Value.settle_eq_error_iff reduces]

theorem runIn_of_namesUnresolved {a b : Value} {e : GuestError} (names : a.NamesUnresolved b e)
    (w : World σ) :
    (host.strictEquals a b).runIn w = (.error e, w) ∧
      (host.looseEquals a b).runIn w = (.error e, w) := by
  have check := (Value.checkResolved_eq_error_iff a b e).2 names
  constructor
  · unfold strictEquals
    rw [Guest.runIn_bind, Guest.runIn_ofExcept, check]
  · unfold looseEquals
    rw [Guest.runIn_bind, Guest.runIn_ofExcept, check]

theorem LooseFails.imp {host : Host σ} {w : World σ} {a b a' b' : Value} {e : GuestError}
    (fails : host.LooseFails w a b e) (names : a.NamesUnresolved b e → a'.NamesUnresolved b' e)
    (one : ∀ o, Value.OneObject o a b → Value.OneObject o a' b') : host.LooseFails w a' b' e := by
  rcases fails with h | ⟨h, hook⟩ | ⟨h, hook⟩ | ⟨h, hook⟩
  · exact .operand (names h)
  · exact .raised (one _ h) hook
  · exact .object (one _ h) hook
  · exact .result (one _ h) hook

theorem looseFails_left_congr {v u : Value} (hv : v.reducesObject = true)
    (hu : u.reducesObject = true) (w : World σ) (b : Value) (e : GuestError) :
    host.LooseFails w v b e → host.LooseFails w u b e := by
  intro fails
  refine fails.imp ?_ ?_
  · rintro (_ | ⟨name, -⟩)
    · cases hv
    · exact .right name (by cases u <;> first | rfl | cases hu)
  · rintro o (⟨rfl, -⟩ | ⟨rfl, -⟩)
    · cases hv
    · exact .inr ⟨rfl, hu⟩

theorem looseFails_right_congr {v u : Value} (hv : v.reducesObject = true)
    (hu : u.reducesObject = true) (w : World σ) (a : Value) (e : GuestError) :
    host.LooseFails w a v e → host.LooseFails w a u e := by
  intro fails
  refine fails.imp ?_ ?_
  · rintro (⟨name, -⟩ | _)
    · exact .left name u
    · cases hv
  · rintro o (⟨rfl, -⟩ | ⟨rfl, -⟩)
    · exact .inl ⟨rfl, hu⟩
    · cases hv

/-- The failures of the four relations. An unresolved operand is found before any hook runs, and a
symbol fails only where a number would fail in its place. -/
theorem relation_failures (w : World σ) (a b : Value) (e : GuestError) :
    (a.same b = .error e ↔ a.NamesUnresolved b e) ∧
      (a.sameZero b = .error e ↔ a.NamesUnresolved b e) ∧
      (((host.strictEquals a b).runIn w).1 = .error e ↔ a.NamesUnresolved b e) ∧
      (((host.looseEquals a b).runIn w).1 = .error e ↔ host.LooseFails w a b e) ∧
      (a.NamesUnresolved b e →
        host.Inert (fun _ h => h.strictEquals a b) w ∧
          host.Inert (fun _ h => h.looseEquals a b) w) ∧
      ∀ (s : Symbol) (n : Number),
        (((host.looseEquals (.symbol s) b).runIn w).1 = .error e ↔
            ((host.looseEquals (.number n) b).runIn w).1 = .error e) ∧
          (((host.looseEquals a (.symbol s)).runIn w).1 = .error e ↔
            ((host.looseEquals a (.number n)).runIn w).1 = .error e) := by
  refine ⟨Value.sameUpTo_eq_error_iff false a b e, Value.sameUpTo_eq_error_iff true a b e,
    host.strictEquals_fails_iff w a b e, host.looseEquals_fails_iff w a b e, ?_, ?_⟩
  · intro names
    constructor
    · exact host.inert_of_decided (fun _ h u => (h.runIn_of_namesUnresolved names u).1) w
    · exact host.inert_of_decided (fun _ h u => (h.runIn_of_namesUnresolved names u).2) w
  · intro s n
    simp only [looseEquals_fails_iff]
    constructor
    · exact ⟨host.looseFails_left_congr rfl rfl w b e, host.looseFails_left_congr rfl rfl w b e⟩
    · exact ⟨host.looseFails_right_congr rfl rfl w a e, host.looseFails_right_congr rfl rfl w a e⟩

theorem relation_failures_first :
    (rising.looseEquals (.unresolved "x") (.object ⟨1⟩)).runIn { host := 1 } =
        (.error ⟨.reference, "x is not defined"⟩, { host := 1 }) ∧
      rising.Asks (fun _ h => h.looseEquals (.unresolved "x") (.object ⟨1⟩)) { host := 1 } [] := by
  obtain ⟨-, -, -, -, untouched, -⟩ := rising.relation_failures { host := 1 } (.unresolved "x")
    (.object ⟨1⟩) ⟨.reference, "x is not defined"⟩
  exact ⟨rfl, (untouched (.left "x" _)).2.asks⟩

end Host

end ScriptValue
