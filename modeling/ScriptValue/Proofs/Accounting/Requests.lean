import Mathlib.Data.Nat.Notation
import ScriptValue.Accounting.Walk

set_option autoImplicit false

namespace ScriptValue

variable {C D : Type}

structure Requests.Keep (requests : Requests C) (kept : C → C → Prop) : Prop where
  refl : ∀ c, kept c c
  trans : ∀ {c d e}, kept c d → kept d e → kept c e
  visit : ∀ o c, kept c (requests.visit o c).2
  nativeSize : ∀ h c, kept c (requests.nativeSize h c).2
  refused : ∀ {c d e}, requests.enter c = (.error e, d) → kept c d
  level : ∀ {c d d'}, requests.enter c = (.ok (), d) → kept d d' → kept c (requests.leave d')

structure Requests.Respects (requests : Requests C) (requests' : Requests D) (f : C → D) :
    Prop where
  visit : ∀ o c, requests'.visit o (f c) = Prod.map id f (requests.visit o c)
  nativeSize : ∀ h c, requests'.nativeSize h (f c) = Prod.map id f (requests.nativeSize h c)
  enter : ∀ c, requests'.enter (f c) = Prod.map id f (requests.enter c)
  leave : ∀ c, requests'.leave (f c) = f (requests.leave c)

section Keep

variable {requests : Requests C} {kept : C → C → Prop} (keep : requests.Keep kept) {c d : C}
  {result : Outcome}

include keep

-- Whatever the program makes of an answer, the context goes on from where the answer left it.
theorem Appraisal.kept_of_run {count : Value → C → Option (Outcome × C)}
    (each : ∀ {v c d result}, count v c = some (result, d) → kept c d) {a : Appraisal}
    (run : a.run count c = some (result, d)) : kept c d := by
  induction a generalizing c with
  | done =>
    cases run
    exact keep.refl _
  | count v next ih =>
    rw [Appraisal.run] at run
    split at run
    next outcome mid first => exact keep.trans (each first) (ih outcome run)
    next => cases run

namespace Memory

variable {memory : Memory}

theorem kept_of_nativeSize (o : ObjectId) (c : C) : kept c (memory.nativeSize requests o c).2 := by
  rw [nativeSize]
  cases memory.resource o with
  | none => exact keep.refl _
  | some kind => exact keep.nativeSize _ c

theorem kept_of_accountVia {n : ℕ} {v : Value}
    (run : memory.accountVia requests n v c = some (result, d)) : kept c d := by
  induction n generalizing v c d result with
  | zero =>
    cases v with
    | object | slot => cases run
    | _ =>
      cases run
      exact keep.refl _
  | succ n ih =>
    cases v with
    | slot s => exact Appraisal.kept_of_run keep ih run
    | object o =>
      have visited := keep.visit o c
      rw [accountVia] at run
      rcases visit : requests.visit o c with ⟨_ | _, met⟩
      · rw [visit] at run visited
        cases run
        exact visited
      · rw [visit] at run visited
        have asked : kept met (memory.nativeSize requests o met).2 :=
          kept_of_nativeSize keep o met
        dsimp only at run
        rcases size : memory.nativeSize requests o met with ⟨e | _ | bytes, told⟩
        · rw [size] at run asked
          cases run
          exact keep.trans visited asked
        · rw [size] at run asked
          have before := keep.trans visited asked
          dsimp only at run
          rcases enters : requests.enter told with ⟨e | ⟨⟩, entered⟩
          · rw [enters] at run
            cases run
            exact keep.trans before (keep.refused enters)
          · rw [enters] at run
            obtain ⟨⟨own, inner⟩, appraised, rest⟩ := Option.map_eq_some_iff.1 run
            cases rest
            exact keep.trans before (keep.level enters (Appraisal.kept_of_run keep ih appraised))
        · rw [size] at run asked
          cases run
          exact keep.trans visited asked
    | _ =>
      cases run
      exact keep.refl _

end Memory

end Keep

section Respects

variable {requests : Requests C} {requests' : Requests D} {f : C → D}

theorem Appraisal.run_map {count : Value → C → Option (Outcome × C)}
    {count' : Value → D → Option (Outcome × D)}
    (each : ∀ v c, count' v (f c) = (count v c).map (Prod.map id f)) (a : Appraisal) (c : C) :
    a.run count' (f c) = (a.run count c).map (Prod.map id f) := by
  induction a generalizing c with
  | done => rfl
  | count v next ih =>
    rw [Appraisal.run, Appraisal.run, each]
    rcases count v c with _ | ⟨outcome, mid⟩
    · rfl
    · exact ih outcome mid

namespace Memory

variable {memory : Memory} (respects : requests.Respects requests' f)

include respects

theorem nativeSize_map (o : ObjectId) (c : C) :
    memory.nativeSize requests' o (f c) = Prod.map id f (memory.nativeSize requests o c) := by
  rw [nativeSize, nativeSize]
  cases memory.resource o with
  | none => rfl
  | some kind => exact respects.nativeSize _ c

theorem accountVia_map (n : ℕ) (v : Value) (c : C) :
    memory.accountVia requests' n v (f c) =
      (memory.accountVia requests n v c).map (Prod.map id f) := by
  induction n generalizing v c with
  | zero => cases v <;> rfl
  | succ n ih =>
    cases v with
    | slot s => exact Appraisal.run_map ih _ c
    | object o =>
      rw [accountVia, accountVia, respects.visit]
      rcases requests.visit o c with ⟨_ | _, met⟩
      · rfl
      · simp only [Prod.map_apply, id, nativeSize_map respects]
        rcases memory.nativeSize requests o met with ⟨e | _ | bytes, told⟩
        · rfl
        · simp only [Prod.map_apply, id, respects.enter]
          rcases requests.enter told with ⟨e | ⟨⟩, entered⟩
          · rfl
          · simp only [Prod.map_apply, id, Appraisal.run_map ih, Option.map_map]
            congr 1
            funext r
            exact Prod.ext rfl (respects.leave r.2)
        · rfl
    | _ => rfl

end Memory

end Respects

namespace Memory

variable {memory : Memory} {n : ℕ} {o : ObjectId} {ctx : Context}

theorem account_again (seen : ctx.hasVisited o = true) :
    memory.account (n + 1) (.object o) ctx = some (.ok 0, (ctx.visit o).2) := by
  have visit : Context.requests.visit o ctx = (false, (ctx.visit o).2) := by
    simp [Context.requests, Context.visit, seen]
  rw [account, accountVia, visit]
  rfl

theorem account_first (unseen : ctx.hasVisited o = false) :
    memory.account (n + 1) (.object o) ctx =
      match memory.nativeSize Context.requests o (ctx.visit o).2 with
      | (.error e, met) => some (.error e, met)
      | (.ok (some size), met) => some (.ok (.uniform size), met)
      | (.ok none, met) =>
          match met.enter with
          | .error e => some (.error e, met)
          | .ok entered =>
              ((memory.appraisal o).run (memory.account n) entered).map
                fun (result, after) => (result, after.leave) := by
  have visit : Context.requests.visit o ctx = (true, (ctx.visit o).2) := by
    simp [Context.requests, Context.visit, unseen]
  rw [account, accountVia, visit]
  dsimp only
  rcases memory.nativeSize Context.requests o (ctx.visit o).2 with ⟨e | _ | size, met⟩
  · rfl
  · cases enters : met.enter with
    | ok entered =>
      simp only [Context.requests, enters]
      rfl
    | error e => simp only [Context.requests, enters]
  · rfl

end Memory

end ScriptValue
