import ScriptValue.Hash.Basic
import ScriptValue.Proofs.Coercion.ThroughNumber
import ScriptValue.Proofs.Equality.Strict

set_option autoImplicit false

namespace ScriptValue

inductive Value.Refused (onSymbol : String) : Value → GuestError → Prop
  | symbol (s : Symbol) : Refused onSymbol (.symbol s) ⟨.type, onSymbol⟩
  | unresolved (name : String) :
      Refused onSymbol (.unresolved name) ⟨.reference, name ++ " is not defined"⟩

def Value.isCoercible : Value → Bool
  | .symbol _ | .object _ | .unresolved _ => false
  | _ => true

structure Refuses {α : Type} (onSymbol : String) (table : Value → Except GuestError α) : Prop where
  symbol : ∀ s, table (.symbol s) = .error ⟨.type, onSymbol⟩
  unresolved : ∀ name, table (.unresolved name) = .error ⟨.reference, name ++ " is not defined"⟩
  object : ∀ o, table (.object o) = .error ⟨.type, "Cannot convert object to primitive value"⟩
  others : ∀ v, v.isCoercible = true → ∃ a, table v = .ok a

theorem Refuses.eq_error_iff {α : Type} {onSymbol : String} {table : Value → Except GuestError α}
    (refuses : Refuses onSymbol table) (v : Value) (e : GuestError) :
    table v = .error e ↔
      (∃ o, v = .object o ∧ e = ⟨.type, "Cannot convert object to primitive value"⟩) ∨
        v.Refused onSymbol e := by
  constructor
  · intro failed
    cases coercible : v.isCoercible with
    | true =>
      obtain ⟨a, answer⟩ := refuses.others v coercible
      rw [answer] at failed
      cases failed
    | false =>
      cases v with
      | symbol s =>
        rw [refuses.symbol] at failed
        cases failed
        exact .inr (.symbol s)
      | unresolved name =>
        rw [refuses.unresolved] at failed
        cases failed
        exact .inr (.unresolved name)
      | object o =>
        rw [refuses.object] at failed
        cases failed
        exact .inl ⟨o, rfl, rfl⟩
      | _ => cases coercible
  · rintro (⟨o, rfl, rfl⟩ | ⟨s⟩ | ⟨name⟩)
    · exact refuses.object o
    · exact refuses.symbol s
    · exact refuses.unresolved name

theorem NumericTable.refuses_row {α : Type} (t : NumericTable α) :
    Refuses "Cannot convert a Symbol value to a number" t.row where
  symbol _ := rfl
  unresolved _ := rfl
  object _ := rfl
  others v coercible := by cases v <;> first | exact ⟨_, rfl⟩ | cases coercible

theorem Value.refuses_textRow (f : Formatting) :
    Refuses "Cannot convert a Symbol value to a string" (textRow f) where
  symbol _ := rfl
  unresolved _ := rfl
  object _ := rfl
  others v coercible := by cases v <;> first | exact ⟨_, rfl⟩ | cases coercible

theorem Value.truth_eq_error_iff (v : Value) (e : GuestError) :
    v.truth = .error e ↔
      ∃ name, v = .unresolved name ∧ e = ⟨.reference, name ++ " is not defined"⟩ := by
  constructor
  · intro failed
    cases v with
    | unresolved name =>
      cases failed
      exact ⟨name, rfl, rfl⟩
    | _ => cases failed
  · rintro ⟨name, rfl, rfl⟩
    rfl

namespace Host

variable {σ α : Type} (host : Host σ)

def answer (hint : Hint) (w : World σ) (o : ObjectId) : Except GuestError Value × World σ :=
  ((host.behaviour w o).primitive hint).runIn w

inductive CoercionFails (hint : Hint) (onSymbol : String) (w : World σ) :
    Value → GuestError → Prop
  | refused {v : Value} {e : GuestError} (refused : v.Refused onSymbol e) :
      CoercionFails hint onSymbol w v e
  | raised {o : ObjectId} {e : GuestError} (hook : (host.answer hint w o).1 = .error e) :
      CoercionFails hint onSymbol w (.object o) e
  | object {o p : ObjectId} (hook : (host.answer hint w o).1 = .ok (.object p)) :
      CoercionFails hint onSymbol w (.object o)
        ⟨.type, "Cannot convert object to primitive value"⟩
  | result {o : ObjectId} {p : Value} {e : GuestError}
      (hook : (host.answer hint w o).1 = .ok p) (refused : p.Refused onSymbol e) :
      CoercionFails hint onSymbol w (.object o) e

structure Inert (program : (τ : Type) → Host τ → Guest τ α) (w : World σ) : Prop where
  asks : host.Asks program w []
  leaves : ((program _ host).runIn w).2 = w

/-- A program that reduces a value once if it is an object, and touches nothing else. -/
structure Reduces (hint : Hint) (program : (τ : Type) → Host τ → Guest τ α) (w : World σ)
    (v : Value) : Prop where
  primitive : v.object? = none → host.Inert program w
  asks : ∀ o, v = .object o → host.Asks program w [.primitive o hint]
  leaves : ∀ o, v = .object o → ((program _ host).runIn w).2 = (host.answer hint w o).2

structure Coerces (hint : Hint) (onSymbol : String) (program : (τ : Type) → Host τ → Guest τ α)
    (w : World σ) (v : Value) : Prop extends host.Reduces hint program w v where
  fails : ∀ e, ((program _ host).runIn w).1 = .error e ↔ host.CoercionFails hint onSymbol w v e

theorem inert_of_decided {program : (τ : Type) → Host τ → Guest τ α} {x : Except GuestError α}
    (decided : ∀ (τ : Type) (h : Host τ) (u : World τ), (program τ h).runIn u = (x, u))
    (w : World σ) : host.Inert program w where
  asks := asks_nothing decided
  leaves := by rw [decided]

theorem inert_ofExcept (x : Except GuestError α) (w : World σ) :
    host.Inert (fun _ _ => Guest.ofExcept x) w :=
  host.inert_of_decided (fun _ _ => Guest.runIn_ofExcept x) w

theorem reduces_coerce (hint : Hint) (table : Value → Except GuestError α) (w : World σ)
    (v : Value) : host.Reduces hint (fun _ h => h.coerce hint table v) w v := by
  cases v with
  | object o =>
    refine ⟨nofun, ?_, ?_⟩
    · rintro _ ⟨⟩
      exact host.coerce_asks hint table w (.object o)
    · rintro _ ⟨⟩
      rw [runIn_coerce_object, answer]
      rcases ((host.behaviour w o).primitive hint).runIn w with ⟨e | p, after⟩ <;> rfl
  | _ => exact ⟨fun _ => host.inert_ofExcept (table _) w, nofun, nofun⟩

theorem coercionFails_iff_refused {hint : Hint} {onSymbol : String} {w : World σ} {v : Value}
    (primitive : v.isObject = false) (e : GuestError) :
    host.CoercionFails hint onSymbol w v e ↔ v.Refused onSymbol e := by
  constructor
  · rintro (refused | _ | _ | _)
    · exact refused
    all_goals cases primitive
  · exact .refused

theorem coercionFails_object_iff (hint : Hint) (onSymbol : String) (w : World σ) (o : ObjectId)
    (e : GuestError) :
    host.CoercionFails hint onSymbol w (.object o) e ↔
      (host.answer hint w o).1 = .error e ∨
        ∃ p, (host.answer hint w o).1 = .ok p ∧
          ((∃ q, p = .object q ∧ e = ⟨.type, "Cannot convert object to primitive value"⟩) ∨
            p.Refused onSymbol e) := by
  constructor
  · rintro (⟨⟨⟩⟩ | hook | hook | ⟨hook, refused⟩)
    · exact .inl hook
    · exact .inr ⟨_, hook, .inl ⟨_, rfl, rfl⟩⟩
    · exact .inr ⟨_, hook, .inr refused⟩
  · rintro (hook | ⟨p, hook, ⟨q, rfl, rfl⟩ | refused⟩)
    · exact .raised hook
    · exact .object hook
    · exact .result hook refused

theorem coerce_fails_iff {onSymbol : String} {table : Value → Except GuestError α}
    (refuses : Refuses onSymbol table) (hint : Hint) (w : World σ) (v : Value) (e : GuestError) :
    ((host.coerce hint table v).runIn w).1 = .error e ↔
      host.CoercionFails hint onSymbol w v e := by
  cases object : v.isObject with
  | false =>
    have none : ¬∃ o, v = .object o ∧
        e = ⟨.type, "Cannot convert object to primitive value"⟩ := by
      rintro ⟨o, rfl, -⟩
      cases object
    rw [coerce_eq_table host hint table object, Guest.runIn_ofExcept, refuses.eq_error_iff,
      or_iff_right none, coercionFails_iff_refused host object]
  | true =>
    obtain ⟨o, rfl⟩ := Value.eq_object_of_isObject object
    rw [runIn_coerce_object, coercionFails_object_iff, answer]
    -- What the hook gave goes through the table, where an object is an error of its own.
    rcases ((host.behaviour w o).primitive hint).runIn w with ⟨raised | p, after⟩
    · simp
    · simp [refuses.eq_error_iff]

theorem coerces_coerce {onSymbol : String} {table : Value → Except GuestError α}
    (refuses : Refuses onSymbol table) (hint : Hint) (w : World σ) (v : Value) :
    host.Coerces hint onSymbol (fun _ h => h.coerce hint table v) w v where
  toReduces := host.reduces_coerce hint table w v
  fails := host.coerce_fails_iff refuses hint w v

theorem coerces_toText (w : World σ) (v : Value) :
    host.Coerces .string "Cannot convert a Symbol value to a string" (fun _ h => h.toText v)
      w v := by
  have coerces := host.coerces_coerce (Value.refuses_textRow host.formatting) .string w v
  exact
    { primitive := fun scalar =>
        ⟨(coerces.primitive scalar).asks, (coerces.primitive scalar).leaves⟩
      asks := coerces.asks
      leaves := coerces.leaves
      fails := coerces.fails }

theorem reduces_toPrimitive (w : World σ) (v : Value) :
    host.Reduces .default (fun _ h => h.toPrimitive v) w v := by
  cases v with
  | object o =>
    refine ⟨nofun, ?_, ?_⟩
    · rintro _ ⟨⟩
      exact asks_primitive fun τ h u => h.runIn_toPrimitive_object o u
    · rintro _ ⟨⟩
      rw [runIn_toPrimitive_object, answer]
      rcases ((host.behaviour w o).primitive .default).runIn w with ⟨e | p, after⟩ <;> rfl
  | unresolved name =>
    have inert := host.inert_ofExcept (α := Value) (.error (Cause.unresolved name).error) w
    exact ⟨fun _ => inert, nofun, nofun⟩
  | _ => exact ⟨fun _ => host.inert_ofExcept (.ok _) w, nofun, nofun⟩

/-- Coercions to numbers and texts, and the reduction alone, ask for one hook of an object and for
nothing else, and the coercions fail for the listed reasons only. Truth, sameness and hashes ask
for nothing. -/
theorem coercion_effects (seeds : HashSeeds) (w : World σ) (v u : Value) :
    let onNumber := "Cannot convert a Symbol value to a number"
    let onText := "Cannot convert a Symbol value to a string"
    host.Coerces .number onNumber (fun _ h => h.toNumber v) w v ∧
      host.Coerces .number onNumber (fun _ h => h.toDouble v) w v ∧
      host.Coerces .number onNumber (fun _ h => h.toInt64 v) w v ∧
      host.Coerces .number onNumber (fun _ h => h.toInt32 v) w v ∧
      host.Coerces .number onNumber (fun _ h => h.toUInt32 v) w v ∧
      host.Coerces .string onText (fun _ h => h.toText v) w v ∧
      host.Reduces .default (fun _ h => h.toPrimitive v) w v ∧
      host.Inert (fun _ _ => Guest.ofExcept v.truth) w ∧
      (∀ e, v.truth = .error e ↔
        ∃ name, v = .unresolved name ∧ e = ⟨.reference, name ++ " is not defined"⟩) ∧
      host.Inert (fun _ _ => Guest.ofExcept (v.same u)) w ∧
      host.Inert (fun _ _ => Guest.ofExcept (v.sameZero u)) w ∧
      host.Inert (fun _ _ => Guest.ofExcept (.ok (v.hash seeds))) w :=
  ⟨host.coerces_coerce (NumericTable.refuses_row _) .number w v,
    host.coerces_coerce (NumericTable.refuses_row _) .number w v,
    host.coerces_coerce (NumericTable.refuses_row _) .number w v,
    host.coerces_coerce (NumericTable.refuses_row _) .number w v,
    host.coerces_coerce (NumericTable.refuses_row _) .number w v,
    host.coerces_toText w v,
    host.reduces_toPrimitive w v,
    host.inert_ofExcept _ w,
    v.truth_eq_error_iff,
    host.inert_ofExcept _ w,
    host.inert_ofExcept _ w,
    host.inert_ofExcept _ w⟩

end Host

end ScriptValue
