import Mathlib.Data.Int.Notation
import Mathlib.Data.List.Forall2
import ScriptValue.SmallBox

set_option autoImplicit false

namespace ScriptValue

open SmallBox (least place?)

namespace SmallBox

theorem place?_add_least (i : Fin 256) : place? (i + least) = some i := by
  have small : least ≤ i + least ∧ i + least ≤ greatest := by
    simp only [least, greatest]
    omega
  rw [place?, dif_pos small, Option.some.injEq, Fin.ext_iff]
  show ((i : ℤ) + least - least).toNat = i
  omega

theorem eq_add_least_of_place? {n : ℤ} {i : Fin 256} (place : place? n = some i) :
    n = i + least := by
  rw [place?] at place
  split at place
  next small =>
    obtain rfl := Option.some.inj place
    show n = ((n - least).toNat : ℤ) + least
    omega
  next => cases place

theorem toInt_ofInt32 (i : Fin 256) : (Int32.ofInt (i + least)).toInt = i + least := by
  apply Int32.toInt_ofInt_of_le <;> (simp only [least]; omega)

theorem toInt_ofInt64 (i : Fin 256) : (Int64.ofInt (i + least)).toInt = i + least := by
  apply Int64.toInt_ofInt_of_le <;> (simp only [least]; omega)

end SmallBox

namespace Value

def SameSmall (u v : Value) : Prop :=
  ∃ n : ℤ, -128 ≤ n ∧ n ≤ 127 ∧
    (u = .integer (Int32.ofInt n) ∧ v = .integer (Int32.ofInt n) ∨
      u = .bigInteger (Int64.ofInt n) ∧ v = .bigInteger (Int64.ofInt n))

def shared? : Value → Option ℕ
  | .number (.integer n) => (place? n.toInt).map Fin.val
  | .number (.bigInteger n) => (place? n.toInt).map fun i => 256 + i.val
  | _ => none

theorem shared?_integer (i : Fin 256) :
    (Value.integer (Int32.ofInt (i + least))).shared? = some i.val := by
  rw [Value.integer, shared?, SmallBox.toInt_ofInt32, SmallBox.place?_add_least, Option.map_some]

theorem shared?_bigInteger (i : Fin 256) :
    (Value.bigInteger (Int64.ofInt (i + least))).shared? = some (256 + i.val) := by
  rw [Value.bigInteger, shared?, SmallBox.toInt_ofInt64, SmallBox.place?_add_least,
    Option.map_some]

theorem exists_of_shared? {v : Value} {k : ℕ} (shared : v.shared? = some k) :
    ∃ i : Fin 256, v = .integer (Int32.ofInt (i + least)) ∧ k = i ∨
      v = .bigInteger (Int64.ofInt (i + least)) ∧ k = 256 + i := by
  unfold shared? at shared
  split at shared
  next n =>
    obtain ⟨i, place, rfl⟩ := Option.map_eq_some_iff.1 shared
    refine ⟨i, .inl ⟨?_, rfl⟩⟩
    rw [← SmallBox.eq_add_least_of_place? place, Int32.ofInt_toInt]
    rfl
  next n =>
    obtain ⟨i, place, rfl⟩ := Option.map_eq_some_iff.1 shared
    refine ⟨i, .inr ⟨?_, rfl⟩⟩
    rw [← SmallBox.eq_add_least_of_place? place, Int64.ofInt_toInt]
    rfl
  next => cases shared

theorem lt_of_shared? {v : Value} {k : ℕ} (shared : v.shared? = some k) : k < 512 := by
  obtain ⟨i, ⟨-, place⟩ | ⟨-, place⟩⟩ := exists_of_shared? shared <;> omega

theorem sameSmall_iff {u v : Value} :
    u.SameSmall v ↔ ∃ k, u.shared? = some k ∧ v.shared? = some k := by
  constructor
  · rintro ⟨n, low, high, values⟩
    obtain ⟨i, rfl⟩ : ∃ i : Fin 256, n = i + least :=
      ⟨⟨(n - least).toNat, by simp only [least]; omega⟩, by simp only [least]; omega⟩
    rcases values with ⟨rfl, rfl⟩ | ⟨rfl, rfl⟩
    · exact ⟨_, shared?_integer i, shared?_integer i⟩
    · exact ⟨_, shared?_bigInteger i, shared?_bigInteger i⟩
  · rintro ⟨k, left, right⟩
    obtain ⟨i, values⟩ := exists_of_shared? left
    obtain ⟨j, values'⟩ := exists_of_shared? right
    -- The places of the two widths do not meet, so it is one width and one place.
    obtain rfl : i = j := by omega
    refine ⟨i + least, by simp only [least]; omega, by simp only [least]; omega, ?_⟩
    rcases values with ⟨rfl, place⟩ | ⟨rfl, place⟩
    · exact .inl ⟨rfl, (values'.resolve_right (by omega)).1⟩
    · exact .inr ⟨rfl, (values'.resolve_left (by omega)).1⟩

theorem sameSmall_comm {u v : Value} : u.SameSmall v ↔ v.SameSmall u := by
  rw [sameSmall_iff, sameSmall_iff]
  exact exists_congr fun _ => and_comm

end Value

inductive BoxRequest where
  | integer (n : Int32)
  | bigInteger (n : Int64)
  | any (v : Value)

def BoxRequest.value : BoxRequest → Value
  | .integer n => .integer n
  | .bigInteger n => .bigInteger n
  | .any v => v

namespace BoxCache

def serve : BoxRequest → StateM BoxCache Box
  | .integer n => boxInteger n
  | .bigInteger n => boxBigInteger n
  | .any v => box v

def serveAll (cache : BoxCache) (requests : List BoxRequest) : List Box :=
  ((requests.mapM serve).run cache).1

theorem serve_eq (r : BoxRequest) : serve r = box r.value := by cases r <;> rfl

@[simp] theorem serveAll_cons (cache : BoxCache) (r : BoxRequest) (rest : List BoxRequest) :
    cache.serveAll (r :: rest) =
      ((box r.value).run cache).1 :: ((box r.value).run cache).2.serveAll rest := by
  rw [serveAll, List.mapM_cons, serve_eq]
  rfl

structure Intact (cache : BoxCache) : Prop where
  integers : cache.integers = initial.integers
  bigIntegers : cache.bigIntegers = initial.bigIntegers
  fresh : 512 ≤ cache.nextIdentity

theorem intact_initial : initial.Intact := ⟨rfl, rfl, Nat.le_refl _⟩

variable {cache : BoxCache} {v : Value}

theorem Intact.box_of_shared (intact : cache.Intact) {k : ℕ} (shared : v.shared? = some k) :
    (box v).run cache = (⟨k, v⟩, cache) := by
  obtain ⟨i, ⟨rfl, rfl⟩ | ⟨rfl, rfl⟩⟩ := Value.exists_of_shared? shared
  · rw [Value.integer, box, boxInteger, SmallBox.toInt_ofInt32, SmallBox.place?_add_least]
    show (cache.integers[i], cache) = _
    rw [intact.integers, initial, Fin.getElem_fin, Vector.getElem_ofFn]
    rfl
  · rw [Value.bigInteger, box, boxBigInteger, SmallBox.toInt_ofInt64, SmallBox.place?_add_least]
    show (cache.bigIntegers[i], cache) = _
    rw [intact.bigIntegers, initial, Fin.getElem_fin, Vector.getElem_ofFn]
    rfl

theorem box_of_unshared (unshared : v.shared? = none) (cache : BoxCache) :
    (box v).run cache =
      (⟨cache.nextIdentity, v⟩, { cache with nextIdentity := cache.nextIdentity + 1 }) := by
  unfold Value.shared? at unshared
  split at unshared
  next n =>
    rw [box, boxInteger, Option.map_eq_none_iff.1 unshared]
    rfl
  next n =>
    rw [box, boxBigInteger, Option.map_eq_none_iff.1 unshared]
    rfl
  next other alone =>
    rw [box]
    · rfl
    · exact other
    · exact alone

structure Given (next : ℕ) (v : Value) (b : Box) : Prop where
  content : b.content = v
  shared : ∀ k, v.shared? = some k → b.identity = k
  fresh : v.shared? = none → next ≤ b.identity

variable {next : ℕ} {b : Box}

theorem Given.mono (given : Given next v b) {earlier : ℕ} (le : earlier ≤ next) :
    Given earlier v b where
  content := given.content
  shared := given.shared
  fresh unshared := Nat.le_trans le (given.fresh unshared)

theorem Given.shared?_of_lt (given : Given next v b) (old : b.identity < next) :
    v.shared? = some b.identity := by
  cases shared : v.shared? with
  | some k => rw [given.shared k shared]
  | none => exact absurd (given.fresh shared) (Nat.not_le.2 old)

theorem given_shared {k : ℕ} (shared : v.shared? = some k) (next : ℕ) : Given next v ⟨k, v⟩ where
  content := rfl
  shared l same := Option.some.inj (shared.symm.trans same)
  fresh unshared := by cases shared.symm.trans unshared

theorem given_fresh (unshared : v.shared? = none) (next : ℕ) : Given next v ⟨next, v⟩ where
  content := rfl
  shared k same := by cases unshared.symm.trans same
  fresh _ := Nat.le_refl _

theorem Intact.exists_box (intact : cache.Intact) (v : Value) : ∃ b later,
    (box v).run cache = (b, later) ∧ later.Intact ∧
      Given cache.nextIdentity v b ∧ b.identity < later.nextIdentity ∧
      cache.nextIdentity ≤ later.nextIdentity := by
  cases shared : v.shared? with
  | some k =>
    have old : k < cache.nextIdentity :=
      Nat.lt_of_lt_of_le (Value.lt_of_shared? shared) intact.fresh
    exact ⟨_, _, intact.box_of_shared shared, intact, given_shared shared _, old, Nat.le_refl _⟩
  | none =>
    have kept : Intact { cache with nextIdentity := cache.nextIdentity + 1 } :=
      ⟨intact.integers, intact.bigIntegers, Nat.le_succ_of_le intact.fresh⟩
    exact ⟨_, _, box_of_unshared shared cache, kept, given_fresh shared _, Nat.lt_succ_self _,
      Nat.le_succ _⟩

theorem Intact.given_serveAll (intact : cache.Intact) (requests : List BoxRequest) :
    List.Forall₂ (fun r b => Given cache.nextIdentity r.value b) requests
      (cache.serveAll requests) := by
  induction requests generalizing cache with
  | nil => exact .nil
  | cons r rest ih =>
    obtain ⟨b, later, run, kept, given, -, grows⟩ := intact.exists_box r.value
    rw [serveAll_cons, run]
    exact .cons given ((ih kept).imp fun _ _ fresh => fresh.mono grows)

theorem Intact.pairwise_serveAll (intact : cache.Intact) (requests : List BoxRequest) :
    (requests.zip (cache.serveAll requests)).Pairwise fun p q =>
      p.2.identity = q.2.identity ↔ p.1.value.SameSmall q.1.value := by
  induction requests generalizing cache with
  | nil => exact .nil
  | cons r rest ih =>
    obtain ⟨b, later, run, kept, given, used, -⟩ := intact.exists_box r.value
    rw [serveAll_cons, run, List.zip_cons_cons]
    refine .cons ?_ (ih kept)
    rintro ⟨q, c⟩ inside
    have other := (List.forall₂_iff_zip.1 (kept.given_serveAll rest)).2 inside
    rw [Value.sameSmall_iff]
    constructor
    case mp =>
      -- A box that is given out again is one of the table, for the first request as for the other.
      intro same
      have again := other.shared?_of_lt (same ▸ used)
      have table := Nat.lt_of_lt_of_le (Value.lt_of_shared? again) intact.fresh
      exact ⟨_, same ▸ given.shared?_of_lt (same ▸ table), again⟩
    case mpr =>
      rintro ⟨k, left, right⟩
      rw [given.shared k left, other.shared k right]

theorem Intact.content_serveAll (intact : cache.Intact) (requests : List BoxRequest) :
    (cache.serveAll requests).map (·.content) = requests.map (·.value) := by
  have given := intact.given_serveAll requests
  generalize cache.serveAll requests = boxes at given ⊢
  induction given with
  | nil => rfl
  | cons given _ ih => rw [List.map_cons, List.map_cons, given.content, ih]

theorem Intact.identity_eq_iff_of_lt (intact : cache.Intact) {requests : List BoxRequest}
    {i j : ℕ} (order : i < j) {p q : BoxRequest} {a b : Box} (askedP : requests[i]? = some p)
    (givenA : (cache.serveAll requests)[i]? = some a) (askedQ : requests[j]? = some q)
    (givenB : (cache.serveAll requests)[j]? = some b) :
    a.identity = b.identity ↔ p.value.SameSmall q.value := by
  have first : (requests.zip (cache.serveAll requests))[i]? = some (p, a) :=
    List.getElem?_zip_eq_some.2 ⟨askedP, givenA⟩
  have second : (requests.zip (cache.serveAll requests))[j]? = some (q, b) :=
    List.getElem?_zip_eq_some.2 ⟨askedQ, givenB⟩
  obtain ⟨hi, at_i⟩ := List.getElem?_eq_some_iff.1 first
  obtain ⟨hj, at_j⟩ := List.getElem?_eq_some_iff.1 second
  have pair := List.pairwise_iff_getElem.1 (intact.pairwise_serveAll requests) i j hi hj order
  simpa only [at_i, at_j] using pair

/-- However boxes are asked for, every box holds the value asked for, and the boxes of two requests
are one box exactly if the same small integer of the same width was asked for both times. -/
theorem serveAll_exact (requests : List BoxRequest) :
    (initial.serveAll requests).map (·.content) = requests.map (·.value) ∧
      ∀ (i j : ℕ) (p q : BoxRequest) (a b : Box), i ≠ j →
        requests[i]? = some p → (initial.serveAll requests)[i]? = some a →
        requests[j]? = some q → (initial.serveAll requests)[j]? = some b →
          (a.identity = b.identity ↔ p.value.SameSmall q.value) := by
  refine ⟨intact_initial.content_serveAll requests, ?_⟩
  intro i j p q a b apart askedP givenA askedQ givenB
  rcases Nat.lt_or_gt_of_ne apart with earlier | later
  · exact intact_initial.identity_eq_iff_of_lt earlier askedP givenA askedQ givenB
  · rw [eq_comm, Value.sameSmall_comm]
    exact intact_initial.identity_eq_iff_of_lt later askedQ givenB askedP givenA

def edges : List BoxRequest :=
  [.integer (-128), .any (.integer (-128)), .bigInteger (-128), .integer 128, .integer 128]

theorem serveAll_exact_edges :
    initial.serveAll edges = [⟨0, .integer (-128)⟩, ⟨0, .integer (-128)⟩,
        ⟨256, .bigInteger (-128)⟩, ⟨512, .integer 128⟩, ⟨513, .integer 128⟩] ∧
      (Value.integer (-128)).SameSmall (.integer (-128)) ∧
      ¬(Value.integer (-128)).SameSmall (.bigInteger (-128)) ∧
      ¬(Value.integer 128).SameSmall (.integer 128) := by
  have boxes : initial.serveAll edges = [⟨0, .integer (-128)⟩, ⟨0, .integer (-128)⟩,
      ⟨256, .bigInteger (-128)⟩, ⟨512, .integer 128⟩, ⟨513, .integer 128⟩] := by decide +kernel
  have same := (serveAll_exact edges).2
  rw [boxes] at same
  have shared := same 0 1 _ _ _ _ (by decide) rfl rfl rfl rfl
  have widths := same 0 2 _ _ _ _ (by decide) rfl rfl rfl rfl
  have outside := same 3 4 _ _ _ _ (by decide) rfl rfl rfl rfl
  exact ⟨boxes, shared.1 rfl, mt widths.2 (by decide), mt outside.2 (by decide)⟩

end BoxCache

end ScriptValue
