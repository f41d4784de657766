import ScriptValue.Proofs.Equality.Loose
import ScriptValue.Proofs.Host.Recorded

set_option autoImplicit false

namespace ScriptValue

theorem Number.equals_comm (m n : Number) : m.equals n = n.equals m := by
  rw [Bool.eq_iff_iff, equals_iff_agree, equals_iff_agree, Quantity.agree_comm]

namespace Value

def isUnresolved : Value → Bool
  | .unresolved _ => true
  | _ => false

def reducesObject : Value → Bool
  | .object _ | .null | .undefined | .slot _ | .unresolved _ => false
  | _ => true

def reduced? : Value → Value → Option ObjectId
  | .object o, v | v, .object o => if v.reducesObject then some o else none
  | _, _ => none

theorem reduced?_eq_some_iff {a b : Value} {o : ObjectId} :
    reduced? a b = some o ↔
      a = .object o ∧ b.reducesObject = true ∨ b = .object o ∧ a.reducesObject = true := by
  cases a <;> cases b <;> simp [reduced?, reducesObject]

theorem reduced?_comm (a b : Value) : a.reduced? b = b.reduced? a := by
  cases a <;> cases b <;> rfl

theorem looseContent_comm (a b : Value) : looseContent a b = looseContent b a := by
  cases a <;> cases b <;>
    simp only [looseContent, looseNumber, isNullish, Symbol.same, Number.equals_comm] <;>
    exact Bool.beq_comm

theorem checkResolved_comm {a b : Value}
    (names : ¬(a.isUnresolved = true ∧ b.isUnresolved = true)) :
    checkResolved a b = checkResolved b a := by
  cases a <;> cases b <;> simp_all [isUnresolved, checkResolved, unresolvedName?]

def settle (v p : Value) : Except GuestError Bool :=
  if p.isObject then .error Cause.objectToPrimitive.error
  else (p.checkResolved v).map fun _ => p.looseContent v

end Value

namespace Host

variable {σ : Type} (host : Host σ)

theorem runIn_toPrimitive_object (o : ObjectId) (w : World σ) :
    (host.toPrimitive (.object o)).runIn w =
      match ((host.behaviour w o).primitive .default).runIn w with
      | (.ok p, after) =>
          (if p.isObject then .error Cause.objectToPrimitive.error else .ok p, after)
      | (.error e, after) => (.error e, after) := by
  simp only [toPrimitive, Guest.runIn_bind, runIn_reduce]
  rcases ((host.behaviour w o).primitive .default).runIn w with ⟨e | p, after⟩
  · rfl
  · cases object : p.isObject <;> simp [object]

-- With an object on one side that is not reduced, the table says no.
theorem runIn_looseEquals_unreduced {a b : Value}
    (objects : ¬(a.isObject = true ∧ b.isObject = true)) (unreduced : a.reduced? b = none)
    (w : World σ) :
    (host.looseEquals a b).runIn w = ((a.checkResolved b).map fun _ => a.looseContent b, w) := by
  cases resolved : a.checkResolved b with
  | error e => simp [looseEquals, Guest.runIn_bind, resolved, Except.map]
  | ok _ =>
    cases left : a.isObject with
    | true =>
      cases a with
      | object o =>
        cases b with
        | null | undefined | slot => rfl
        | object => simp [Value.isObject] at objects
        | unresolved => simp [Value.checkResolved, Value.unresolvedName?] at resolved
        | _ => simp [Value.reduced?, Value.reducesObject] at unreduced
      | _ => simp [Value.isObject] at left
    | false =>
      cases right : b.isObject with
      | true =>
        cases b with
        | object o =>
          cases a with
          | null | undefined | slot => rfl
          | object => simp [Value.isObject] at left
          | unresolved => simp [Value.checkResolved, Value.unresolvedName?] at resolved
          | _ => simp [Value.reduced?, Value.reducesObject] at unreduced
        | _ => simp [Value.isObject] at right
      | false => exact runIn_looseEquals host w left right resolved

section Reduced

variable {o : ObjectId} {v : Value}

theorem looseEquals_object_left (reduced : v.reducesObject = true) :
    host.looseEquals (.object o) v = (do
      let p ← host.toPrimitive (.object o)
      Guest.ofExcept (p.checkResolved v)
      return p.looseContent v : Guest σ Bool) := by
  cases v <;> simp only [Value.reducesObject, Bool.false_eq_true] at reduced <;> rfl

theorem looseEquals_object_right (reduced : v.reducesObject = true) :
    host.looseEquals v (.object o) = host.looseEquals (.object o) v := by
  have content (p : Value) : v.looseContent p = p.looseContent v := Value.looseContent_comm v p
  have resolved (p : Value) : v.checkResolved p = p.checkResolved v := by
    apply Value.checkResolved_comm
    cases v <;> simp_all [Value.reducesObject, Value.isUnresolved]
  cases v <;> simp only [Value.reducesObject, Bool.false_eq_true] at reduced <;>
    simp only [looseEquals, resolved, content]

theorem runIn_looseEquals_object (reduced : v.reducesObject = true) (w : World σ) :
    (host.looseEquals (.object o) v).runIn w =
      match ((host.behaviour w o).primitive .default).runIn w with
      | (.ok p, after) => (v.settle p, after)
      | (.error e, after) => (.error e, after) := by
  rw [looseEquals_object_left host reduced, Guest.runIn_bind, runIn_toPrimitive_object]
  rcases ((host.behaviour w o).primitive .default).runIn w with ⟨e | p, after⟩
  · rfl
  · cases object : p.isObject with
    | true => simp [Value.settle, object]
    | false =>
      simp only [Value.settle, object, Bool.false_eq_true, ↓reduceIte]
      rw [Guest.runIn_bind, Guest.runIn_ofExcept]
      cases p.checkResolved v <;> rfl

theorem runIn_looseEquals_of_reduced {a b : Value} (reduced : a.reduced? b = some o) :
    ∃ judge : Value → Except GuestError Bool, ∀ (τ : Type) (h : Host τ) (w : World τ),
      (h.looseEquals a b).runIn w =
        match ((h.behaviour w o).primitive .default).runIn w with
        | (.ok p, after) => (judge p, after)
        | (.error e, after) => (.error e, after) := by
  obtain ⟨rfl, other⟩ | ⟨rfl, other⟩ := Value.reduced?_eq_some_iff.1 reduced
  · exact ⟨b.settle, fun τ h w => h.runIn_looseEquals_object other w⟩
  · refine ⟨a.settle, fun τ h w => ?_⟩
    rw [h.looseEquals_object_right other, h.runIn_looseEquals_object other w]

end Reduced

theorem looseEquals_comm (w : World σ) {a b : Value}
    (objects : ¬(a.isObject = true ∧ b.isObject = true))
    (names : ¬(a.isUnresolved = true ∧ b.isUnresolved = true)) :
    (host.looseEquals a b).runIn w = (host.looseEquals b a).runIn w := by
  cases reduced : a.reduced? b with
  | none =>
    have turned : b.reduced? a = none := by rw [← Value.reduced?_comm, reduced]
    rw [runIn_looseEquals_unreduced host objects reduced,
      runIn_looseEquals_unreduced host (fun both => objects both.symm) turned,
      Value.checkResolved_comm names, Value.looseContent_comm]
  | some o =>
    obtain ⟨rfl, other⟩ | ⟨rfl, other⟩ := Value.reduced?_eq_some_iff.1 reduced
    · rw [looseEquals_object_right host other]
    · rw [looseEquals_object_right host other]

theorem looseEquals_asks (w : World σ) {a b : Value}
    (objects : ¬(a.isObject = true ∧ b.isObject = true)) :
    host.Asks (fun _ h => h.looseEquals a b) w
      ((a.reduced? b).toList.map fun o => .primitive o .default) := by
  cases reduced : a.reduced? b with
  | none => exact asks_nothing fun τ h v => runIn_looseEquals_unreduced h objects reduced v
  | some o =>
    obtain ⟨judge, runs⟩ := runIn_looseEquals_of_reduced reduced
    exact asks_primitive runs

/-- Two operands may change places. The hooks that either order asks for itself are the same, at
most one, and that one reduces the object of a pair whose other side is compared with primitives. -/
theorem looseEquals_symmetric (w : World σ) {a b : Value}
    (objects : ¬(a.isObject = true ∧ b.isObject = true))
    (names : ¬(a.isUnresolved = true ∧ b.isUnresolved = true)) :
    (host.looseEquals a b).runIn w = (host.looseEquals b a).runIn w ∧
      ∃ calls : List HookCall,
        host.Asks (fun _ h => h.looseEquals a b) w calls ∧
        host.Asks (fun _ h => h.looseEquals b a) w calls ∧
        (calls = [] ∨ ∃ o, calls = [.primitive o .default]) ∧
        ∀ o, calls = [.primitive o .default] ↔
          a = .object o ∧ b.reducesObject = true ∨ b = .object o ∧ a.reducesObject = true := by
  refine ⟨looseEquals_comm host w objects names, _, looseEquals_asks host w objects, ?_, ?_, ?_⟩
  · rw [Value.reduced?_comm]
    exact looseEquals_asks host w fun both => objects both.symm
  · cases a.reduced? b <;> simp
  · intro o
    rw [← Value.reduced?_eq_some_iff]
    cases a.reduced? b <;> simp

def rising : Host ℕ where
  behaviour _ _ :=
    { number := pure .undefined
      string := pure .undefined
      default := do
        let w ← get
        set { w with host := w.host + 1 }
        return .integer (Int32.ofNat w.host) }
  prototype _ := pure ⟨0⟩
  adopt _ _ _ _ := pure ()

theorem looseEquals_symmetric_rising :
    (rising.looseEquals (.object ⟨1⟩) (.boolean true)).runIn { host := 1 } =
        (.ok true, { host := 2 }) ∧
      (rising.looseEquals (.boolean true) (.object ⟨1⟩)).runIn { host := 1 } =
        (.ok true, { host := 2 }) ∧
      rising.Asks (fun _ h => h.looseEquals (.boolean true) (.object ⟨1⟩)) { host := 1 }
        [.primitive ⟨1⟩ .default] := by
  obtain ⟨same, calls, -, asks, -, hook⟩ := rising.looseEquals_symmetric { host := 1 }
    (a := .object ⟨1⟩) (b := .boolean true) (by decide) (by decide)
  have reduced : calls = [.primitive ⟨1⟩ .default] := (hook ⟨1⟩).2 (.inl ⟨rfl, rfl⟩)
  have run : (rising.looseEquals (.object ⟨1⟩) (.boolean true)).runIn { host := 1 } =
      (.ok true, { host := 2 }) := by rfl
  rw [reduced] at asks
  exact ⟨run, same.symm.trans run, asks⟩

end Host

end ScriptValue
