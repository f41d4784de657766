import ScriptValue.Proofs.PlainData.Scalars

set_option autoImplicit false

namespace ScriptValue

namespace PlainData

open Json Numeral

mutual

def finite : PlainData → PlainData
  | .float x => if x.isFinite then .float x else .null
  | .array items => .array (finiteItems items)
  | .map entries => .map (finiteEntries entries)
  | d => d

def finiteItems : List PlainData → List PlainData
  | [] => []
  | d :: ds => finite d :: finiteItems ds

def finiteEntries : List (String × PlainData) → List (String × PlainData)
  | [] => []
  | (key, d) :: es => (key, finite d) :: finiteEntries es

end

def finiteEntry (e : String × PlainData) : String × PlainData := (e.1, finite e.2)

theorem finiteItems_eq_map (ds : List PlainData) : finiteItems ds = ds.map finite := by
  induction ds with
  | nil => rfl
  | cons d ds ih => rw [finiteItems, ih, List.map_cons]

theorem finiteEntries_eq_map (es : List (String × PlainData)) :
    finiteEntries es = es.map finiteEntry := by
  induction es with
  | nil => rfl
  | cons e es ih => rw [finiteEntries, ih, List.map_cons, finiteEntry]

inductive Kind where
  | null
  | truth
  | number
  | text
  | array
  | map

def kind : PlainData → Kind
  | .null => .null
  | .bool _ => .truth
  | .integer _ => .number
  | .float x => if x.isFinite then .number else .null
  | .string _ => .text
  | .array _ => .array
  | .map _ => .map

def Kind.ofLead? (c : Char) : Option Kind :=
  if c == '-' || c.isDigit then some .number
  else
    match c with
    | 'n' => some .null
    | 't' | 'f' => some .truth
    | '"' => some .text
    | '[' => some .array
    | '\x7b' => some .map
    | _ => none

variable {s : Serializer (List Char)}

mutual

theorem serialize_finite (json : s.WritesJson) :
    ∀ d : PlainData, serialize s (finite d) = serialize s d
  | .null | .bool _ | .integer _ | .string _ => by simp only [finite]
  | .float x => by
    cases bounded : x.isFinite with
    | true => simp [finite, bounded]
    | false => simp [finite, bounded, serialize, json.unit, json.unbounded x bounded]
  | .array items => by rw [finite, serialize, serialize, serializeItems_finiteItems json items]
  | .map entries => by
    rw [finite, serialize, serialize, serializeEntries_finiteEntries json entries]

theorem serializeItems_finiteItems (json : s.WritesJson) :
    ∀ ds : List PlainData, serializeItems s (finiteItems ds) = serializeItems s ds
  | [] => rfl
  | d :: ds => by
    rw [finiteItems, serializeItems, serializeItems, serialize_finite json d,
      serializeItems_finiteItems json ds]

theorem serializeEntries_finiteEntries (json : s.WritesJson) :
    ∀ es : List (String × PlainData),
      serializeEntries s (finiteEntries es) = serializeEntries s es
  | [] => rfl
  | (key, d) :: es => by
    rw [finiteEntries, serializeEntries, serializeEntries, serialize_finite json d,
      serializeEntries_finiteEntries json es]

end

section Kinds

variable (json : s.WritesJson)

include json

theorem isNumberText_of_kind {d : PlainData} (h : d.kind = .number) :
    IsNumberText (serialize s d) := by
  cases d with
  | integer n => exact isNumberText_integer (json.int64 n)
  | float x =>
    cases bounded : x.isFinite with
    | true => exact isNumberText_float (json.float64 x bounded)
    | false => simp [kind, bounded] at h
  | _ => cases h

theorem null_of_kind {d : PlainData} (h : d.kind = .null) :
    serialize s d = "null".toList ∧ finite d = .null := by
  cases d with
  | null => exact ⟨json.unit, rfl⟩
  | float x =>
    cases bounded : x.isFinite with
    | true => simp [kind, bounded] at h
    | false => exact ⟨json.unbounded x bounded, by simp [finite, bounded]⟩
  | _ => cases h

theorem exists_lead (d : PlainData) :
    ∃ c cs, serialize s d = c :: cs ∧ Kind.ofLead? c = some d.kind := by
  have number (h : d.kind = .number) :
      ∃ c cs, serialize s d = c :: cs ∧ Kind.ofLead? c = some .number := by
    obtain ⟨c, cs, text, first⟩ := (isNumberText_of_kind json h).head
    exact ⟨c, cs, text, if_pos first⟩
  cases d with
  | null => exact ⟨_, _, json.unit, rfl⟩
  | bool b =>
    rw [serialize, json.bool]
    cases b <;> exact ⟨_, _, rfl, rfl⟩
  | integer n => exact number rfl
  | float x =>
    cases bounded : x.isFinite with
    | true =>
      have known : (float x).kind = .number := by simp [kind, bounded]
      exact known ▸ number known
    | false =>
      have known : (float x).kind = .null := by simp [kind, bounded]
      exact known ▸ ⟨'n', _, (null_of_kind json known).1, rfl⟩
  | string t =>
    obtain ⟨bodies, -, text⟩ := json.str t
    exact ⟨_, _, text, rfl⟩
  | array items => exact ⟨_, _, json.seq _, rfl⟩
  | map entries => exact ⟨_, _, json.map _, rfl⟩

theorem kind_eq_of_append_eq {d e : PlainData} {rest rest' : List Char}
    (same : serialize s d ++ rest = serialize s e ++ rest') : d.kind = e.kind := by
  obtain ⟨c, cs, text, first⟩ := exists_lead json d
  obtain ⟨c', cs', text', first'⟩ := exists_lead json e
  rw [text, text'] at same
  obtain rfl : c = c' := (List.cons.inj same).1
  exact Option.some.inj (first.symm.trans first')

end Kinds

-- A text tells a value if no other value has a text that agrees with it up to where it ends.
def Tells {α β : Type} (text : α → List Char) (value : α → β) (a : α) : Prop :=
  ∀ ⦃b rest rest'⦄, Closed rest → Closed rest' → text a ++ rest = text b ++ rest' →
    value a = value b ∧ rest = rest'

section Separated

variable {α β : Type} {text : α → List Char} {value : α → β} {close : Char}

theorem separated_cons (t : List Char) (ts : List (List Char)) :
    separated (t :: ts) = t ++ ts.flatMap (',' :: ·) := by
  induction ts generalizing t with
  | nil => simp [separated]
  | cons u ts ih => simp [separated, ih]

theorem closed_tail (mark : isNumberChar close = false) (ts : List (List Char))
    (rest : List Char) : Closed (ts.flatMap (',' :: ·) ++ close :: rest) := by
  cases ts with
  | nil => exact closed_cons rest mark
  | cons t ts => exact closed_cons _ rfl

theorem tells_tail (mark : isNumberChar close = false) (apart : close ≠ ',') {as : List α}
    (each : ∀ a ∈ as, Tells text value a) {bs : List α} {rest rest' : List Char}
    (same : (as.map text).flatMap (',' :: ·) ++ close :: rest =
      (bs.map text).flatMap (',' :: ·) ++ close :: rest') :
    as.map value = bs.map value ∧ rest = rest' := by
  induction as generalizing bs with
  | nil =>
    cases bs with
    | nil => simpa using same
    | cons b bs => exact absurd (List.cons.inj same).1 apart
  | cons a as ih =>
    cases bs with
    | nil => exact absurd (List.cons.inj same).1.symm apart
    | cons b bs =>
      simp only [List.map_cons, List.flatMap_cons, List.cons_append, List.append_assoc,
        List.cons.injEq, true_and] at same
      have first := each a (by simp) (closed_tail mark _ _) (closed_tail mark _ _) same
      have others := ih (fun c inside => each c (List.mem_cons_of_mem a inside)) first.2
      simp [first.1, others]

-- An empty list shows its closing mark at once, and no text starts with that.
theorem tells_separated (mark : isNumberChar close = false) (apart : close ≠ ',')
    (leads : ∀ a rest rest', text a ++ rest ≠ close :: rest') {as : List α}
    (each : ∀ a ∈ as, Tells text value a) {bs : List α} {rest rest' : List Char}
    (same : separated (as.map text) ++ close :: rest =
      separated (bs.map text) ++ close :: rest') :
    as.map value = bs.map value ∧ rest = rest' := by
  cases as with
  | nil =>
    cases bs with
    | nil => simpa using same
    | cons b bs =>
      rw [List.map_cons, separated_cons, List.append_assoc] at same
      exact absurd same.symm (leads b _ _)
  | cons a as =>
    cases bs with
    | nil =>
      rw [List.map_cons, separated_cons, List.append_assoc] at same
      exact absurd same (leads a _ _)
    | cons b bs =>
      apply tells_tail mark apart each
      simpa [separated_cons] using same

end Separated

section Trees

variable (json : s.WritesJson)

include json

theorem tells_null {d : PlainData} (h : d.kind = .null) : Tells (serialize s) finite d := by
  intro e rest rest' _ _ same
  have texts := null_of_kind json h
  have texts' := null_of_kind json ((kind_eq_of_append_eq json same).symm.trans h)
  rw [texts.1, texts'.1] at same
  exact ⟨texts.2.trans texts'.2.symm, List.append_cancel_left same⟩

theorem tells_number {d : PlainData} (h : d.kind = .number) : Tells (serialize s) finite d := by
  intro e rest rest' closed closed' same
  have h' := (kind_eq_of_append_eq json same).symm.trans h
  obtain ⟨texts, rests⟩ := closed.append_inj closed' (isNumberText_of_kind json h).chars
    (isNumberText_of_kind json h').chars same
  refine ⟨?_, rests⟩
  have float {x : Double} (h : (float x).kind = .number) : FloatNumeral (s.float64 x) x :=
    json.float64 x (by simpa [kind] using h)
  cases d with
  | integer m =>
    have numeral : IntegerNumeral (serialize s e) m.toInt := texts ▸ json.int64 m
    cases e with
    | integer n => rw [Int64.toInt_inj.1 (integer_eq_of_text numeral (json.int64 n))]
    | float y => exact (not_float_of_integer (float h') numeral).elim
    | _ => cases h'
  | float x =>
    have numeral : FloatNumeral (serialize s e) x := texts ▸ float h
    cases e with
    | integer n => exact (not_float_of_integer numeral (json.int64 n)).elim
    | float y => rw [float_eq_of_text numeral (float h')]
    | _ => cases h'
  | _ => cases h

theorem tells_bool (b : Bool) : Tells (serialize s) finite (.bool b) := by
  intro e rest rest' _ _ same
  have kinds := kind_eq_of_append_eq json same
  cases e with
  | bool c =>
    simp only [serialize, json.bool] at same
    cases b <;> cases c <;> simp_all
  | float y => simp [kind, eq_ite_iff] at kinds
  | _ => cases kinds

theorem tells_string (t : String) : Tells (serialize s) finite (.string t) := by
  intro e rest rest' _ _ same
  have kinds := kind_eq_of_append_eq json same
  cases e with
  | string u =>
    obtain ⟨strings, rests⟩ := (json.str t).append_inj (json.str u) same
    exact ⟨by rw [String.toList_inj.1 strings], rests⟩
  | float y => simp [kind, eq_ite_iff] at kinds
  | _ => cases kinds

theorem tells_array {items : List PlainData} (each : ∀ d ∈ items, Tells (serialize s) finite d) :
    Tells (serialize s) finite (.array items) := by
  intro e rest rest' _ _ same
  have kinds := kind_eq_of_append_eq json same
  have leads (d : PlainData) (rest rest' : List Char) : serialize s d ++ rest ≠ ']' :: rest' := by
    obtain ⟨c, cs, text, first⟩ := exists_lead json d
    rintro same
    rw [text] at same
    obtain rfl : c = ']' := (List.cons.inj same).1
    cases first
  cases e with
  | array items' =>
    simp only [serialize, json.seq, serializeItems_eq_map, List.cons_append, List.append_assoc,
      List.cons.injEq, true_and, List.nil_append] at same
    have told := tells_separated rfl (by decide) leads each same
    simpa only [finite, finiteItems_eq_map, array.injEq] using told
  | float y => simp [kind, eq_ite_iff] at kinds
  | _ => cases kinds

omit json in
def entryText (s : Serializer (List Char)) (e : String × PlainData) : List Char :=
  s.str e.1 ++ ':' :: serialize s e.2

theorem tells_entry {e : String × PlainData} (h : Tells (serialize s) finite e.2) :
    Tells (entryText s) finiteEntry e := by
  intro f rest rest' closed closed' same
  simp only [entryText, List.append_assoc, List.cons_append] at same
  obtain ⟨keys, values⟩ := (json.str e.1).append_inj (json.str f.1) same
  have told := h closed closed' (List.cons.inj values).2
  exact ⟨by rw [finiteEntry, finiteEntry, told.1, String.toList_inj.1 keys], told.2⟩

theorem tells_map {entries : List (String × PlainData)}
    (each : ∀ e ∈ entries, Tells (serialize s) finite e.2) :
    Tells (serialize s) finite (.map entries) := by
  intro e rest rest' _ _ same
  have kinds := kind_eq_of_append_eq json same
  have text (es : List (String × PlainData)) : serialize s (.map es) =
      '\x7b' :: (separated (es.map (entryText s)) ++ ['\x7d']) := by
    rw [serialize, json.map, serializeEntries_eq_map, List.map_map]
    rfl
  have leads (e : String × PlainData) (rest rest' : List Char) :
      entryText s e ++ rest ≠ '\x7d' :: rest' := by
    obtain ⟨bodies, -, key⟩ := json.str e.1
    rw [entryText, key]
    exact fun same => absurd (List.cons.inj same).1 (by decide)
  cases e with
  | map entries' =>
    simp only [text, List.cons_append, List.append_assoc, List.cons.injEq, true_and,
      List.nil_append] at same
    have told := tells_separated rfl (by decide) leads
      (fun e inside => tells_entry json (each e inside)) same
    simpa only [finite, finiteEntries_eq_map, map.injEq] using told
  | float y => simp [kind, eq_ite_iff] at kinds
  | _ => cases kinds

end Trees

-- The induction is on the tree: what its items and entries tell, each before its own rest, it
-- tells before any.
mutual

theorem tells (json : s.WritesJson) : ∀ d : PlainData, Tells (serialize s) finite d
  | .null => tells_null json rfl
  | .bool b => tells_bool json b
  | .integer _ => tells_number json rfl
  | .float x => by
    cases bounded : x.isFinite with
    | true => exact tells_number json (by simp [kind, bounded])
    | false => exact tells_null json (by simp [kind, bounded])
  | .string t => tells_string json t
  | .array items => tells_array json (tells_items json items)
  | .map entries => tells_map json (tells_entries json entries)

theorem tells_items (json : s.WritesJson) :
    ∀ ds : List PlainData, ∀ d ∈ ds, Tells (serialize s) finite d
  | [] => nofun
  | d :: ds => List.forall_mem_cons.2 ⟨tells json d, tells_items json ds⟩

theorem tells_entries (json : s.WritesJson) :
    ∀ es : List (String × PlainData), ∀ e ∈ es, Tells (serialize s) finite e.2
  | [] => nofun
  | (_, d) :: es => List.forall_mem_cons.2 ⟨tells json d, tells_entries json es⟩

end

/-- In every format that writes compact JSON, two trees have one text exactly if they are equal up
to doubles that are not finite. -/
theorem serialize_eq_iff (json : s.WritesJson) (d e : PlainData) :
    d.serialize s = e.serialize s ↔ d.finite = e.finite := by
  constructor
  · intro same
    exact (tells json d closed_nil closed_nil (by simpa using same)).1
  · intro same
    rw [← serialize_finite json d, same, serialize_finite json e]

theorem serialize_eq_iff_numbers :
    Serializer.json.WritesJson ∧
      (array [null]).serialize .json = (array [float .nan]).serialize .json ∧
      (array [float .zero]).serialize .json ≠ (array [float .negativeZero]).serialize .json ∧
      (array [integer 1]).serialize .json ≠ (array [float (.ofInt 1)]).serialize .json := by
  have json := Serializer.writesJson_json
  have nan : Double.nan.isFinite = false := by decide
  have zeros : Double.zero.isFinite = true ∧ Double.negativeZero.isFinite = true := by decide
  have one : (Double.ofInt 1).isFinite = true := by decide
  refine ⟨json, ?_, ?_, ?_⟩
  · rw [serialize_eq_iff json]
    simp [finite, finiteItems, nan]
  · rw [ne_eq, serialize_eq_iff json]
    simp [finite, finiteItems, zeros]
    decide
  · rw [ne_eq, serialize_eq_iff json]
    simp [finite, finiteItems, one]

end PlainData

end ScriptValue
