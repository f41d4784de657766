import Mathlib.Logic.Relation
import ScriptValue.Proofs.Coercion.Boxed

set_option autoImplicit false

namespace ScriptValue

/-- A reference to a symbol or an object, with the place of what it refers to among all symbols or
among all objects created. -/
inductive Reference where
  | symbol (s : Symbol) (creation : ℕ)
  | object (o : ObjectId) (creation : ℕ)
  deriving DecidableEq

/-- A world with all that was created on the way to it, the earliest first, and all references that
the program ever had. -/
structure Creations (σ : Type) where
  world : World σ
  symbols : List Symbol
  objects : List ObjectId
  held : List Reference

variable {σ : Type}

namespace Creations

def start (state : σ) : Creations σ := ⟨{ host := state }, [], [], []⟩

def newSymbol (c : Creations σ) (description : Option String) : Creations σ :=
  let (s, w) := (World.newSymbol description).run c.world
  { c with
    world := w
    symbols := c.symbols ++ [s]
    held := c.held ++ [.symbol s c.symbols.length] }

def newObject (c : Creations σ) : Creations σ :=
  let (o, w) := World.newObject.run c.world
  { c with
    world := w
    objects := c.objects ++ [o]
    held := c.held ++ [.object o c.objects.length] }

def copy (c : Creations σ) (r : Reference) : Creations σ := { c with held := c.held ++ [r] }

/-- What a program does, as far as identities go. Besides creating and copying it may do anything
that gives out no identity. -/
inductive Step : Creations σ → Creations σ → Prop
  | symbol {c : Creations σ} (description : Option String) : Step c (c.newSymbol description)
  | object {c : Creations σ} : Step c c.newObject
  | copy {c : Creations σ} {r : Reference} (known : r ∈ c.held) : Step c (c.copy r)
  | elsewhere {c : Creations σ} {w : World σ} (symbols : w.nextSymbol = c.world.nextSymbol)
      (objects : w.nextObject = c.world.nextObject) : Step c { c with world := w }

def Run : Creations σ → Creations σ → Prop := Relation.ReflTransGen Step

structure Extends (later earlier : Creations σ) : Prop where
  symbols : earlier.symbols <+: later.symbols
  objects : earlier.objects <+: later.objects
  held : earlier.held <+: later.held

theorem Step.extends {c later : Creations σ} (step : Step c later) : later.Extends c := by
  cases step with
  | symbol description => exact ⟨List.prefix_append _ _, List.prefix_rfl, List.prefix_append _ _⟩
  | object => exact ⟨List.prefix_rfl, List.prefix_append _ _, List.prefix_append _ _⟩
  | copy known => exact ⟨List.prefix_rfl, List.prefix_rfl, List.prefix_append _ _⟩
  | elsewhere => exact ⟨List.prefix_rfl, List.prefix_rfl, List.prefix_rfl⟩

theorem Run.extends {c later : Creations σ} (run : Run c later) : later.Extends c := by
  induction run with
  | refl => exact ⟨List.prefix_rfl, List.prefix_rfl, List.prefix_rfl⟩
  | tail _ step ih =>
    have next := step.extends
    exact ⟨ih.symbols.trans next.symbols, ih.objects.trans next.objects, ih.held.trans next.held⟩

end Creations

section Counting

variable {serials : List UInt64} {next : UInt64}

structure Counted (serials : List UInt64) (next : UInt64) : Prop where
  next : next = UInt64.ofNat (serials.length + 1)
  given : ∀ k x, serials[k]? = some x → x = UInt64.ofNat (k + 1)

theorem counted_nil : Counted [] 1 := ⟨rfl, nofun⟩

theorem Counted.give (counted : Counted serials next) :
    Counted (serials ++ [next]) (next + 1) := by
  constructor
  case next =>
    rw [counted.next, List.length_append, List.length_singleton, UInt64.ofNat_add (_ + 1) 1]
    rfl
  case given =>
    intro k x found
    by_cases earlier : k < serials.length
    · rw [List.getElem?_append_left earlier] at found
      exact counted.given k x found
    · have bound := (List.getElem?_eq_some_iff.1 found).1
      rw [List.length_append, List.length_singleton] at bound
      obtain rfl : k = serials.length := by omega
      rw [List.getElem?_concat_length] at found
      rw [← Option.some.inj found, counted.next]

-- The counter comes back to where it was only after all serials were given.
theorem Counted.lt (counted : Counted serials next) (few : serials.length < 2 ^ 64) {i j : ℕ}
    {x y : UInt64} (earlier : serials[i]? = some x) (later : serials[j]? = some y)
    (order : i < j) : x < y := by
  have bound : j < serials.length := (List.getElem?_eq_some_iff.1 later).1
  have small {k : ℕ} (within : k ≤ j) : (UInt64.ofNat (k + 1)).toNat = k + 1 :=
    UInt64.toNat_ofNat_of_lt' (lt_of_le_of_lt (by omega) few)
  rw [counted.given i x earlier, counted.given j y later, UInt64.lt_iff_toNat_lt,
    small order.le, small le_rfl]
  omega

theorem Counted.increasing (counted : Counted serials next) (few : serials.length < 2 ^ 64) :
    serials.Pairwise (· < ·) := by
  rw [List.pairwise_iff_getElem]
  intro i j hi hj order
  exact counted.lt few (List.getElem?_eq_getElem hi) (List.getElem?_eq_getElem hj) order

theorem Counted.eq_iff (counted : Counted serials next) (few : serials.length < 2 ^ 64) {i j : ℕ}
    {x y : UInt64} (left : serials[i]? = some x) (right : serials[j]? = some y) :
    x = y ↔ i = j := by
  constructor
  · rintro rfl
    rcases Nat.lt_trichotomy i j with less | same | greater
    · exact absurd (counted.lt few left right less) (UInt64.lt_irrefl _)
    · exact same
    · exact absurd (counted.lt few right left greater) (UInt64.lt_irrefl _)
  · rintro rfl
    exact Option.some.inj (left.symm.trans right)

end Counting

namespace Creations

/-- The serials of all symbols and objects are counted, and every reference has the identity that
was given out at the creation it goes back to. -/
structure Consistent (c : Creations σ) : Prop where
  symbols : Counted (c.symbols.map (·.serial)) c.world.nextSymbol
  objects : Counted (c.objects.map (·.serial)) c.world.nextObject
  symbol : ∀ s i, .symbol s i ∈ c.held → c.symbols[i]? = some s
  object : ∀ o i, .object o i ∈ c.held → c.objects[i]? = some o

theorem consistent_start (state : σ) : (start state).Consistent :=
  ⟨counted_nil, counted_nil, nofun, nofun⟩

theorem getElem?_concat_of_eq_some {α : Type} {xs : List α} {x : α} {i : ℕ}
    (found : xs[i]? = some x) (y : α) : (xs ++ [y])[i]? = some x := by
  obtain ⟨bound, -⟩ := List.getElem?_eq_some_iff.1 found
  rw [List.getElem?_append_left bound, found]

theorem Consistent.newSymbol {c : Creations σ} (consistent : c.Consistent)
    (description : Option String) : (c.newSymbol description).Consistent where
  symbols := by simpa [Creations.newSymbol] using consistent.symbols.give
  objects := consistent.objects
  symbol s i known := by
    rcases List.mem_append.1 known with earlier | last
    · exact getElem?_concat_of_eq_some (consistent.symbol s i earlier) _
    · cases List.mem_singleton.1 last
      exact List.getElem?_concat_length
  object o i known := by
    rcases List.mem_append.1 known with earlier | last
    · exact consistent.object o i earlier
    · cases List.mem_singleton.1 last

theorem Consistent.newObject {c : Creations σ} (consistent : c.Consistent) :
    c.newObject.Consistent where
  symbols := consistent.symbols
  objects := by simpa [Creations.newObject] using consistent.objects.give
  symbol s i known := by
    rcases List.mem_append.1 known with earlier | last
    · exact consistent.symbol s i earlier
    · cases List.mem_singleton.1 last
  object o i known := by
    rcases List.mem_append.1 known with earlier | last
    · exact getElem?_concat_of_eq_some (consistent.object o i earlier) _
    · cases List.mem_singleton.1 last
      exact List.getElem?_concat_length

theorem mem_held_copy {c : Creations σ} {r : Reference} (known : r ∈ c.held) {x : Reference} :
    x ∈ (c.copy r).held ↔ x ∈ c.held := by
  rw [copy, List.mem_append, List.mem_singleton]
  exact or_iff_left_of_imp fun last => last ▸ known

theorem Consistent.copy {c : Creations σ} (consistent : c.Consistent) {r : Reference}
    (known : r ∈ c.held) : (c.copy r).Consistent where
  symbols := consistent.symbols
  objects := consistent.objects
  symbol s i copied := consistent.symbol s i ((mem_held_copy known).1 copied)
  object o i copied := consistent.object o i ((mem_held_copy known).1 copied)

theorem Step.consistent {c later : Creations σ} (step : Step c later)
    (consistent : c.Consistent) : later.Consistent := by
  cases step with
  | symbol description => exact consistent.newSymbol description
  | object => exact consistent.newObject
  | copy known => exact consistent.copy known
  | elsewhere symbols objects =>
    exact ⟨symbols ▸ consistent.symbols, objects ▸ consistent.objects, consistent.symbol,
      consistent.object⟩

theorem Run.consistent {c later : Creations σ} (run : Run c later)
    (consistent : c.Consistent) : later.Consistent := by
  induction run with
  | refl => exact consistent
  | tail _ step ih => exact step.consistent ih

end Creations

structure Symbol.OneIff (host : Host σ) (a b : Symbol) (p : Prop) [Decidable p] : Prop where
  same : (Value.symbol a).same (.symbol b) = .ok (decide p)
  sameZero : (Value.symbol a).sameZero (.symbol b) = .ok (decide p)
  strictEquals (w : World σ) :
    (host.strictEquals (.symbol a) (.symbol b)).runIn w = (.ok (decide p), w)
  looseEquals (w : World σ) :
    (host.looseEquals (.symbol a) (.symbol b)).runIn w = (.ok (decide p), w)
  hash (seeds : HashSeeds) : ∃ h k, (Value.symbol a).hash seeds = .ok h ∧
    (Value.symbol b).hash seeds = .ok k ∧ (h = k ↔ p)

structure ObjectId.OneIff (a b : ObjectId) (p : Prop) [Decidable p] : Prop where
  same : (Value.object a).same (.object b) = .ok (decide p)
  sameZero : (Value.object a).sameZero (.object b) = .ok (decide p)
  hash (seeds : HashSeeds) : ∃ h k, (Value.object a).hash seeds = .ok h ∧
    (Value.object b).hash seeds = .ok k ∧ (h = k ↔ p)

theorem Symbol.oneIff_of_serial (host : Host σ) {a b : Symbol} {p : Prop} [Decidable p]
    (serial : a.serial = b.serial ↔ p) : a.OneIff host b p := by
  have same : a.same b = decide p := by
    rw [Symbol.same, Bool.beq_eq_decide_eq]
    exact decide_eq_decide.2 serial
  refine ⟨?_, ?_, fun w => ?_, fun w => ?_, fun seeds => ⟨_, _, rfl, rfl, serial⟩⟩
  all_goals rw [← same]; rfl

theorem ObjectId.serial_inj (a b : ObjectId) : a.serial = b.serial ↔ a = b := by
  cases a
  cases b
  simp

theorem ObjectId.oneIff_of_serial {a b : ObjectId} {p : Prop} [Decidable p]
    (serial : a.serial = b.serial ↔ p) : a.OneIff b p := by
  have same : (a == b) = decide p := by
    rw [Bool.beq_eq_decide_eq]
    exact decide_eq_decide.2 ((ObjectId.serial_inj a b).symm.trans serial)
  refine ⟨?_, ?_, fun seeds => ⟨_, _, rfl, rfl, serial⟩⟩
  all_goals rw [← same]; rfl

namespace Creations

variable {c : Creations σ} {state : σ}

theorem Consistent.symbols_increase (consistent : c.Consistent) (few : c.symbols.length < 2 ^ 64) :
    c.symbols.Pairwise (·.serial < ·.serial) :=
  List.pairwise_map.1 (consistent.symbols.increasing (by rwa [List.length_map]))

theorem Consistent.objects_increase (consistent : c.Consistent) (few : c.objects.length < 2 ^ 64) :
    c.objects.Pairwise (·.serial < ·.serial) :=
  List.pairwise_map.1 (consistent.objects.increasing (by rwa [List.length_map]))

theorem Consistent.symbol_oneIff (consistent : c.Consistent) (few : c.symbols.length < 2 ^ 64)
    (host : Host σ) {a b : Symbol} {i j : ℕ} (left : .symbol a i ∈ c.held)
    (right : .symbol b j ∈ c.held) : a.OneIff host b (i = j) := by
  apply Symbol.oneIff_of_serial
  apply consistent.symbols.eq_iff (by rwa [List.length_map])
  · rw [List.getElem?_map, consistent.symbol a i left, Option.map_some]
  · rw [List.getElem?_map, consistent.symbol b j right, Option.map_some]

theorem Consistent.object_oneIff (consistent : c.Consistent) (few : c.objects.length < 2 ^ 64)
    {a b : ObjectId} {i j : ℕ} (left : .object a i ∈ c.held) (right : .object b j ∈ c.held) :
    a.OneIff b (i = j) := by
  apply ObjectId.oneIff_of_serial
  apply consistent.objects.eq_iff (by rwa [List.length_map])
  · rw [List.getElem?_map, consistent.object a i left, Option.map_some]
  · rw [List.getElem?_map, consistent.object b j right, Option.map_some]

end Creations

namespace Host

/-- Boxing a primitive, seen from what is created on the way. The host may create whatever it wants
when it is asked for the prototype, which leads to `found`, and when it makes the wrapper `o`, which
leads to `later`. The wrapper is one of the objects that are created then. -/
structure Boxing (host : Host σ) (v : Value) (wrapper : Wrapper) (c found later : Creations σ)
    (o : ObjectId) : Prop where
  boxable : v.wrapper? = some wrapper
  asked : c.Run found
  prototype : ((host.prototype wrapper).run c.world).2 = found.world
  wrapped : found.Run later
  wrap : (host.wrap v ((host.prototype wrapper).run c.world).1 wrapper).run found.world =
    (o, later.world)
  created : ∃ i, found.objects.length ≤ i ∧ .object o i ∈ later.held

namespace Boxing

variable {host : Host σ} {v : Value} {wrapper : Wrapper} {c found later : Creations σ}
  {o : ObjectId}

theorem run (boxing : host.Boxing v wrapper c found later o) : c.Run later :=
  boxing.asked.trans boxing.wrapped

theorem runIn_toObject (boxing : host.Boxing v wrapper c found later o) :
    (host.toObject v).runIn c.world = (.ok o, later.world) := by
  have box : (host.box v wrapper).run c.world =
      (host.wrap v ((host.prototype wrapper).run c.world).1 wrapper).run
        ((host.prototype wrapper).run c.world).2 := rfl
  rw [Host.runIn_toObject boxing.boxable, box, boxing.prototype, boxing.wrap]

theorem of_adopt (boxable : v.wrapper? = some wrapper) (asked : c.Run found)
    (prototype : ((host.prototype wrapper).run c.world).2 = found.world)
    (adopts : host.wrap v ((host.prototype wrapper).run c.world).1 wrapper = do
      let o ← World.newObject
      host.adopt o v ((host.prototype wrapper).run c.world).1 wrapper
      return o)
    (wrapped : found.newObject.Run later)
    (adopted : ((host.adopt ⟨found.world.nextObject⟩ v ((host.prototype wrapper).run c.world).1
      wrapper).run found.newObject.world).2 = later.world) :
    host.Boxing v wrapper c found later ⟨found.world.nextObject⟩ where
  boxable := boxable
  asked := asked
  prototype := prototype
  wrapped := (Relation.ReflTransGen.single .object).trans wrapped
  wrap := by
    rw [adopts, ← adopted]
    rfl
  created := by
    refine ⟨found.objects.length, le_rfl, wrapped.extends.held.subset ?_⟩
    exact List.mem_append_right _ (List.mem_singleton.2 rfl)

end Boxing

/-- Over every run that creates fewer symbols and fewer objects than there are serials, serials
increase with every creation and stay what they are, and two references are equal, and hash alike,
exactly if they come from one creation. The object that a primitive is boxed in comes from a
creation of its own. -/
theorem identity_unique (host : Host σ) {state : σ} {c : Creations σ}
    (run : (Creations.start state).Run c) (symbols : c.symbols.length < 2 ^ 64)
    (objects : c.objects.length < 2 ^ 64) :
    (c.symbols.Pairwise (·.serial < ·.serial) ∧ c.objects.Pairwise (·.serial < ·.serial)) ∧
    (∀ later, c.Run later → later.Extends c) ∧
    (∀ s i, .symbol s i ∈ c.held → c.symbols[i]? = some s) ∧
    (∀ o i, .object o i ∈ c.held → c.objects[i]? = some o) ∧
    (∀ a b i j, .symbol a i ∈ c.held → .symbol b j ∈ c.held → a.OneIff host b (i = j)) ∧
    (∀ a b i j, .object a i ∈ c.held → .object b j ∈ c.held → a.OneIff b (i = j)) ∧
    (∀ v wrapper found later o, host.Boxing v wrapper c found later o →
      later.objects.length < 2 ^ 64 →
        (host.toObject v).runIn c.world = (.ok o, later.world) ∧
          ∃ i, found.objects.length ≤ i ∧ .object o i ∈ later.held ∧
            ∀ b j, .object b j ∈ later.held → o.OneIff b (i = j)) := by
  have consistent := run.consistent (Creations.consistent_start state)
  refine ⟨⟨consistent.symbols_increase symbols, consistent.objects_increase objects⟩,
    fun later rest => rest.extends, consistent.symbol, consistent.object, ?_, ?_, ?_⟩
  · intro a b i j left right
    exact consistent.symbol_oneIff symbols host left right
  · intro a b i j left right
    exact consistent.object_oneIff objects left right
  · intro v wrapper found later o boxing few
    obtain ⟨i, recent, created⟩ := boxing.created
    refine ⟨boxing.runIn_toObject, i, recent, created, fun b j known => ?_⟩
    exact (boxing.run.consistent consistent).object_oneIff few created known

def twins : Creations (ObjectId → Value) :=
  let first := (Creations.start fun _ => Value.undefined).newSymbol (some "tag")
  let copied := (first.newSymbol (some "tag")).copy (.symbol ⟨1, some "tag"⟩ 0)
  copied.newObject.newObject

theorem run_twins : (Creations.start fun _ : ObjectId => Value.undefined).Run twins := by
  have first : (Creations.start fun _ : ObjectId => Value.undefined).Run
    ((Creations.start fun _ => Value.undefined).newSymbol (some "tag")) := .single (.symbol _)
  have symbols := first.tail (.symbol (some "tag"))
  exact ((symbols.tail (.copy (List.mem_cons_self ..))).tail .object).tail .object

def boxedTwin : Creations (ObjectId → Value) :=
  { twins.newObject with
    world := ((wrapping.adopt ⟨3⟩ (.symbol ⟨1, some "tag"⟩) ⟨0⟩ .symbol).run
      twins.newObject.world).2 }

theorem boxing_boxedTwin :
    wrapping.Boxing (.symbol ⟨1, some "tag"⟩) .symbol twins twins boxedTwin ⟨3⟩ :=
  .of_adopt rfl .refl rfl rfl (.single (.elsewhere rfl rfl)) rfl

theorem identity_unique_twins :
    (Creations.start fun _ : ObjectId => Value.undefined).Run twins ∧
      (Value.symbol ⟨1, some "tag"⟩).same (.symbol ⟨2, some "tag"⟩) = .ok false ∧
      ((wrapping.looseEquals (.symbol ⟨1, some "tag"⟩) (.symbol ⟨1, some "tag"⟩)).runIn
        twins.world).1 = .ok true ∧
      (Value.object ⟨1⟩).sameZero (.object ⟨2⟩) = .ok false ∧
      ∃ o, (wrapping.toObject (.symbol ⟨1, some "tag"⟩)).runIn twins.world =
          (.ok o, boxedTwin.world) ∧
        (Value.object o).same (.object ⟨2⟩) = .ok false := by
  obtain ⟨-, -, -, -, symbol, object, boxed⟩ :=
    identity_unique wrapping run_twins (by decide) (by decide)
  have apart := symbol ⟨1, some "tag"⟩ ⟨2, some "tag"⟩ 0 1 (by decide) (by decide)
  have copy := symbol ⟨1, some "tag"⟩ ⟨1, some "tag"⟩ 0 0 (by decide) (by decide)
  have objects := object ⟨1⟩ ⟨2⟩ 0 1 (by decide) (by decide)
  obtain ⟨run, i, recent, -, unlike⟩ := boxed _ _ _ _ _ boxing_boxedTwin (by decide)
  have unequal : i ≠ 1 := by
    have two : twins.objects.length = 2 := rfl
    omega
  have other := unlike ⟨2⟩ 1 (by decide)
  refine ⟨run_twins, apart.same, congrArg Prod.fst (copy.looseEquals twins.world),
    objects.sameZero, ⟨3⟩, run, ?_⟩
  rw [other.same, decide_eq_false unequal]

end Host

end ScriptValue
