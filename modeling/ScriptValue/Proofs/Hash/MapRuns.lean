import Mathlib.Data.List.Induction
import ScriptValue.Hash.KeyedMap
import ScriptValue.Proofs.Hash.Keys

set_option autoImplicit false

namespace ScriptValue

namespace MapKey

variable {seeds : HashSeeds}

def Same (a b : MapKey seeds) : Prop := a.value.sameZero b.value = .ok true

instance (a b : MapKey seeds) : Decidable (a.Same b) := inferInstanceAs (Decidable (_ = _))

theorem sameZero_eq (a b : MapKey seeds) : a.value.sameZero b.value = .ok (a == b) := by
  have result := Value.sameZero_of_isKey a.isKey b.isKey
  simp only [BEq.beq, result]

theorem same_iff (a b : MapKey seeds) : a.Same b ↔ (a == b) = true := by
  rw [Same, sameZero_eq, Except.ok.injEq]

theorem Same.trans {a b c : MapKey seeds} (first : a.Same b) (second : b.Same c) : a.Same c :=
  (a.same_iff c).2 (BEq.trans ((a.same_iff b).1 first) ((b.same_iff c).1 second))

end MapKey

/-- A use of a map, and what it answers: an insertion the value it replaced, a lookup the entry
with the key it was stored under. -/
inductive MapUse (seeds : HashSeeds) (α : Type) where
  | insert (k : MapKey seeds) (v : α)
  | lookup (k : MapKey seeds)

inductive MapAnswer (seeds : HashSeeds) (α : Type) where
  | replaced (old : Option α)
  | found (entry : Option (MapKey seeds × α))

variable {seeds : HashSeeds} {α : Type}

namespace MapUse

def inserted? : MapUse seeds α → Option (MapKey seeds × α)
  | .insert k v => some (k, v)
  | .lookup _ => none

def inserted (uses : List (MapUse seeds α)) : List (MapKey seeds × α) := uses.filterMap inserted?

def lastValue? (k : MapKey seeds) (uses : List (MapUse seeds α)) : Option α :=
  ((inserted uses).findRev? fun entry => entry.1.Same k).map Prod.snd

def firstKey? (k : MapKey seeds) (uses : List (MapUse seeds α)) : Option (MapKey seeds) :=
  ((inserted uses).find? fun entry => entry.1.Same k).map Prod.fst

def expected (before : List (MapUse seeds α)) : MapUse seeds α → MapAnswer seeds α
  | .insert k _ => .replaced (lastValue? k before)
  | .lookup k => .found ((firstKey? k before).bind fun kept => (lastValue? k before).map (kept, ·))

theorem inserted_insert (uses : List (MapUse seeds α)) (k : MapKey seeds) (v : α) :
    inserted (uses ++ [.insert k v]) = inserted uses ++ [(k, v)] := by
  simp [inserted, inserted?]

@[simp] theorem inserted_lookup (uses : List (MapUse seeds α)) (k : MapKey seeds) :
    inserted (uses ++ [.lookup k]) = inserted uses := by
  simp [inserted, inserted?]

theorem mem_inserted {uses : List (MapUse seeds α)} {k : MapKey seeds} {v : α} :
    (k, v) ∈ inserted uses ↔ .insert k v ∈ uses := by
  rw [inserted, List.mem_filterMap]
  constructor
  · rintro ⟨_ | _, inside, ⟨⟩⟩
    exact inside
  · intro inside
    exact ⟨_, inside, rfl⟩

theorem lastValue?_insert (uses : List (MapUse seeds α)) (k a : MapKey seeds) (v : α) :
    lastValue? a (uses ++ [.insert k v]) = if k == a then some v else lastValue? a uses := by
  by_cases same : k.Same a
  · simp [lastValue?, inserted_insert, same, (k.same_iff a).1 same]
  · simp [lastValue?, inserted_insert, same, mt (k.same_iff a).2 same]

theorem firstKey?_insert (uses : List (MapUse seeds α)) (k a : MapKey seeds) (v : α) :
    firstKey? a (uses ++ [.insert k v]) =
      if k == a then some ((firstKey? a uses).getD k) else firstKey? a uses := by
  rw [firstKey?, firstKey?, inserted_insert, List.find?_append]
  cases (inserted uses).find? fun entry => entry.1.Same a with
  | some entry => simp
  | none =>
    by_cases same : k.Same a
    · simp [same, (k.same_iff a).1 same]
    · simp [same, mt (k.same_iff a).2 same]

theorem firstKey?_eq_none_iff (uses : List (MapUse seeds α)) (k : MapKey seeds) :
    firstKey? k uses = none ↔ ∀ entry ∈ inserted uses, ¬entry.1.Same k := by
  simp [firstKey?]

end MapUse

namespace KeyedMap

def use (m : KeyedMap seeds α) : MapUse seeds α → MapAnswer seeds α × KeyedMap seeds α
  | .insert k v => (.replaced (m.insert k v).1, (m.insert k v).2)
  | .lookup k => (.found (m.find? k), m)

def useAll (m : KeyedMap seeds α) :
    List (MapUse seeds α) → List (MapAnswer seeds α) × KeyedMap seeds α
  | [] => ([], m)
  | u :: uses =>
      let (answer, m) := m.use u
      let (answers, m) := m.useAll uses
      (answer :: answers, m)

theorem useAll_append (m : KeyedMap seeds α) (uses later : List (MapUse seeds α)) :
    m.useAll (uses ++ later) =
      ((m.useAll uses).1 ++ ((m.useAll uses).2.useAll later).1,
        ((m.useAll uses).2.useAll later).2) := by
  induction uses generalizing m with
  | nil => rfl
  | cons u uses ih => simp only [List.cons_append, useAll, ih]

theorem length_useAll (m : KeyedMap seeds α) (uses : List (MapUse seeds α)) :
    (m.useAll uses).1.length = uses.length := by
  induction uses generalizing m with
  | nil => rfl
  | cons u uses ih => simp only [useAll, List.length_cons, ih]

def key? (m : KeyedMap seeds α) (k : MapKey seeds) : Option (MapKey seeds) := m.entries.getKey? k

theorem find?_eq (m : KeyedMap seeds α) (k : MapKey seeds) :
    m.find? k = (m.key? k).bind fun kept => (m.get? k).map (kept, ·) := by
  rw [find?, key?, get?]
  cases m.entries.getKey? k <;> cases m.entries[k]? <;> rfl

theorem stored_same (m : KeyedMap seeds α) (k : MapKey seeds) :
    (m.entries.getKeyD k k == k) = true := by
  rw [Std.HashMap.getKeyD_eq_getD_getKey?]
  have kept := Std.HashMap.getKey?_beq (m := m.entries) (k := k)
  cases found : m.entries.getKey? k with
  | none => exact BEq.rfl
  | some stored => simpa [found] using kept

theorem get?_insert (m : KeyedMap seeds α) (k a : MapKey seeds) (v : α) :
    (m.insert k v).2.get? a = if k == a then some v else m.get? a := by
  rw [get?, insert, Std.HashMap.getElem?_insert, BEq.congr_left (m.stored_same k)]
  rfl

theorem key?_insert (m : KeyedMap seeds α) (k a : MapKey seeds) (v : α) :
    (m.insert k v).2.key? a = if k == a then some ((m.key? a).getD k) else m.key? a := by
  rw [key?, insert, Std.HashMap.getKey?_insert, BEq.congr_left (m.stored_same k)]
  split
  next same =>
    rw [Std.HashMap.getKeyD_eq_getD_getKey?, Std.HashMap.getKey?_congr same, key?]
  next => rfl

theorem size_insert (m : KeyedMap seeds α) (k : MapKey seeds) (v : α) :
    (m.insert k v).2.size = if (m.key? k).isSome then m.size else m.size + 1 := by
  have stored : m.entries.getKeyD k k ∈ m.entries ↔ (m.key? k).isSome = true := by
    rw [Std.HashMap.mem_iff_contains, Std.HashMap.contains_congr (m.stored_same k),
      ← Std.HashMap.isSome_getKey?_eq_contains]
    rfl
  simp only [size, insert, Std.HashMap.size_insert, stored]

structure Holds (m : KeyedMap seeds α) (uses : List (MapUse seeds α)) : Prop where
  value (k : MapKey seeds) : m.get? k = MapUse.lastValue? k uses
  key (k : MapKey seeds) : m.key? k = MapUse.firstKey? k uses

theorem holds_empty : (empty : KeyedMap seeds α).Holds [] where
  value k := by simp [get?, empty, MapUse.lastValue?, MapUse.inserted]
  key k := by simp [key?, empty, MapUse.firstKey?, MapUse.inserted]

theorem Holds.use {m : KeyedMap seeds α} {uses : List (MapUse seeds α)} (holds : m.Holds uses)
    (u : MapUse seeds α) :
    (m.use u).1 = MapUse.expected uses u ∧ (m.use u).2.Holds (uses ++ [u]) := by
  cases u with
  | insert k v =>
    refine ⟨?_, ?_, ?_⟩
    · exact congrArg MapAnswer.replaced (holds.value k)
    · intro a
      rw [MapUse.lastValue?_insert, ← holds.value]
      exact m.get?_insert k a v
    · intro a
      rw [MapUse.firstKey?_insert, ← holds.key]
      exact m.key?_insert k a v
  | lookup k =>
    refine ⟨?_, ?_, ?_⟩
    · rw [KeyedMap.use, find?_eq, holds.key, holds.value]
      rfl
    · intro a
      rw [MapUse.lastValue?, MapUse.inserted_lookup]
      exact holds.value a
    · intro a
      rw [MapUse.firstKey?, MapUse.inserted_lookup]
      exact holds.key a

theorem runs_hold (uses : List (MapUse seeds α)) :
    ((empty : KeyedMap seeds α).useAll uses).2.Holds uses := by
  induction uses using List.reverseRecOn with
  | nil => exact holds_empty
  | append_singleton uses u ih =>
    rw [useAll_append]
    exact (ih.use u).2

structure Classes (uses : List (MapUse seeds α)) (keys : List (MapKey seeds)) : Prop where
  inserted : ∀ k ∈ keys, ∃ v, .insert k v ∈ uses
  apart : keys.Pairwise fun a b => ¬a.Same b
  complete : ∀ k v, .insert k v ∈ uses → ∃ kept ∈ keys, kept.Same k

theorem Classes.lookup {uses : List (MapUse seeds α)} {keys : List (MapKey seeds)}
    (classes : Classes uses keys) (k : MapKey seeds) : Classes (uses ++ [.lookup k]) keys where
  inserted := by simpa using classes.inserted
  apart := classes.apart
  complete := by simpa using classes.complete

theorem Classes.again {uses : List (MapUse seeds α)} {keys : List (MapKey seeds)}
    (classes : Classes uses keys) {k : MapKey seeds} (v : α) (known : ∃ kept ∈ keys, kept.Same k) :
    Classes (uses ++ [.insert k v]) keys where
  inserted a inside := by
    obtain ⟨u, earlier⟩ := classes.inserted a inside
    exact ⟨u, List.mem_append_left _ earlier⟩
  apart := classes.apart
  complete a u inside := by
    rcases List.mem_append.1 inside with earlier | last
    · exact classes.complete a u earlier
    · cases List.mem_singleton.1 last
      exact known

theorem Classes.first {uses : List (MapUse seeds α)} {keys : List (MapKey seeds)}
    (classes : Classes uses keys) {k : MapKey seeds} (v : α) (unknown : ∀ a ∈ keys, ¬a.Same k) :
    Classes (uses ++ [.insert k v]) (keys ++ [k]) where
  inserted a inside := by
    rcases List.mem_append.1 inside with earlier | last
    · obtain ⟨u, earlier⟩ := classes.inserted a earlier
      exact ⟨u, List.mem_append_left _ earlier⟩
    · cases List.mem_singleton.1 last
      exact ⟨v, by simp⟩
  apart := List.pairwise_append.2
    ⟨classes.apart, List.pairwise_singleton _ _, by simpa using unknown⟩
  complete a u inside := by
    rcases List.mem_append.1 inside with earlier | last
    · obtain ⟨kept, stored, same⟩ := classes.complete a u earlier
      exact ⟨kept, List.mem_append_left _ stored, same⟩
    · cases List.mem_singleton.1 last
      exact ⟨k, by simp, (k.same_iff k).2 BEq.rfl⟩

-- A key was stored before exactly when its class is among those inserted so far.
theorem Holds.known_iff {m : KeyedMap seeds α} {uses : List (MapUse seeds α)} (holds : m.Holds uses)
    {keys : List (MapKey seeds)} (classes : Classes uses keys) (k : MapKey seeds) :
    (m.key? k).isSome = true ↔ ∃ kept ∈ keys, kept.Same k := by
  rw [holds.key, Option.isSome_iff_ne_none, ne_eq, MapUse.firstKey?_eq_none_iff]
  constructor
  · intro known
    obtain ⟨⟨a, v⟩, inside, same⟩ : ∃ entry ∈ MapUse.inserted uses, entry.1.Same k := by
      simpa using known
    obtain ⟨kept, stored, alike⟩ := classes.complete a v (MapUse.mem_inserted.1 inside)
    exact ⟨kept, stored, alike.trans same⟩
  · rintro ⟨kept, stored, same⟩ unknown
    obtain ⟨v, inside⟩ := classes.inserted kept stored
    exact unknown (kept, v) (MapUse.mem_inserted.2 inside) same

theorem exists_classes (uses : List (MapUse seeds α)) :
    ∃ keys, Classes uses keys ∧ ((empty : KeyedMap seeds α).useAll uses).2.size = keys.length := by
  induction uses using List.reverseRecOn with
  | nil =>
    refine ⟨[], ⟨nofun, .nil, nofun⟩, ?_⟩
    simp [useAll, empty, size]
  | append_singleton uses u ih =>
    obtain ⟨keys, classes, count⟩ := ih
    rw [useAll_append]
    cases u with
    | lookup k => exact ⟨keys, classes.lookup k, count⟩
    | insert k v =>
      have known := (runs_hold uses).known_iff classes k
      have grows := ((empty : KeyedMap seeds α).useAll uses).2.size_insert k v
      by_cases inside : ∃ kept ∈ keys, kept.Same k
      · rw [if_pos (known.2 inside), count] at grows
        exact ⟨keys, classes.again v inside, grows⟩
      · rw [if_neg (mt known.1 inside), count] at grows
        refine ⟨keys ++ [k], classes.first v (by simpa using inside), ?_⟩
        rw [List.length_append]
        exact grows

/-- Every use in a run is answered from the insertions before it, and a map has as many entries as
classes of keys were inserted. -/
theorem run_answers (seeds : HashSeeds) (α : Type) :
    (∀ (before after : List (MapUse seeds α)) (u : MapUse seeds α),
      (empty.useAll (before ++ u :: after)).1[before.length]? = some (u.expected before)) ∧
    ∀ uses : List (MapUse seeds α), ∃ keys, Classes uses keys ∧
      (empty.useAll uses).2.size = keys.length := by
  refine ⟨fun before after u => ?_, exists_classes⟩
  rw [useAll_append, List.getElem?_append_right (by rw [length_useAll]), length_useAll,
    Nat.sub_self]
  exact congrArg some ((runs_hold before).use u).1

end KeyedMap

end ScriptValue
