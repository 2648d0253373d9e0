import Mathlib.Data.Prod.Lex
import Counterparty.Library.JsonCanonical
import Counterparty.Library.JsonOrder
import Counterparty.PyValue

/-! Python objects under `json.dumps(..., sort_keys=True, default=str)`, and when their text is
written again as it was after it has been read. -/
namespace Counterparty

open Json

/-! Strings as they come back. -/

theorem pair_lt {c d : CodePoint} (h : isHighSurrogate c.val ∧ isLowSurrogate d.val) :
    0x10000 + (c.val - 0xD800) * 0x400 + (d.val - 0xDC00) < 0x110000 := by
  simp only [isHighSurrogate, isLowSurrogate, Bool.and_eq_true, decide_eq_true_eq] at h
  omega

/-- The character that a high and a low surrogate are a pair for. -/
def pairPoint (c d : CodePoint) (h : isHighSurrogate c.val ∧ isLowSurrogate d.val) : CodePoint :=
  ⟨0x10000 + (c.val - 0xD800) * 0x400 + (d.val - 0xDC00), pair_lt h⟩

/-- A high surrogate right before a low one is read as the character they are a pair for. -/
def joinPairs : PyStr → PyStr
  | c :: d :: s =>
    if h : isHighSurrogate c.val ∧ isLowSurrogate d.val then pairPoint c d h :: joinPairs s
    else c :: joinPairs (d :: s)
  | s => s

theorem val_pairPoint {c d : CodePoint} (h : isHighSurrogate c.val ∧ isLowSurrogate d.val) :
    (pairPoint c d h).val = 0x10000 + (c.val - 0xD800) * 0x400 + (d.val - 0xDC00) := rfl

theorem le_pairPoint {c d : CodePoint} (h : isHighSurrogate c.val ∧ isLowSurrogate d.val) :
    0x10000 ≤ (pairPoint c d h).val := by
  rw [val_pairPoint, Nat.add_assoc]
  exact Nat.le_add_right _ _

theorem asciiEscape_low {d : CodePoint} (hd : isLowSurrogate d.val) :
    asciiEscape d = hexEscape d.val := by
  simp only [isLowSurrogate, Bool.and_eq_true, decide_eq_true_eq] at hd
  have hplain : (32 ≤ d.val && d.val ≤ 126) = false := by simp; omega
  rw [asciiEscape, if_pos (by omega), escape, shortEscape_eq_none (by omega) (by omega) (by omega)]
  simp only [hplain, Bool.false_eq_true, if_false]

/-- A pair of surrogates and the character it stands for are written alike. -/
theorem asciiEscape_pairPoint {c d : CodePoint} (h : isHighSurrogate c.val ∧ isLowSurrogate d.val) :
    asciiEscape (pairPoint c d h) = asciiEscape c ++ asciiEscape d := by
  rw [spells_asciiEscape.high c h.1, asciiEscape_low h.2, asciiEscape,
    if_neg (not_lt.2 (le_pairPoint h))]
  have hval := val_pairPoint h
  generalize pairPoint c d h = e at hval
  simp only [isHighSurrogate, isLowSurrogate, Bool.and_eq_true, decide_eq_true_eq] at h
  have hhigh : 0xD800 + (e.val - 0x10000) / 0x400 = c.val := by omega
  have hlow : 0xDC00 + (e.val - 0x10000) % 0x400 = d.val := by omega
  rw [hhigh, hlow]

theorem flatMap_joinPairs (s : PyStr) : (joinPairs s).flatMap asciiEscape = s.flatMap asciiEscape := by
  fun_induction joinPairs s with
  | case1 c d s h ih =>
    simp only [List.flatMap_cons, ih, asciiEscape_pairPoint h, List.append_assoc]
  | case2 c d s h ih => simp only [List.flatMap_cons, ih]
  | case3 s h => rfl

theorem head?_joinPairs {d e : CodePoint} {s : PyStr} (h : e ∈ (joinPairs (d :: s)).head?) :
    e = d ∨ 0x10000 ≤ e.val := by
  cases s with
  | nil =>
    left
    simpa [joinPairs, eq_comm] using h
  | cons d' s =>
    rw [joinPairs] at h
    split_ifs at h with hpair
    · right
      obtain rfl := Option.some.inj h
      exact le_pairPoint hpair
    · left
      exact (Option.some.inj h).symm

theorem joined_joinPairs (s : PyStr) : Joined (joinPairs s) := by
  fun_induction joinPairs s with
  | case1 c d s h ih =>
    refine .cons ih fun e _ hpair => ?_
    have hbig := le_pairPoint h
    simp only [isHighSurrogate, Bool.and_eq_true, decide_eq_true_eq] at hpair
    omega
  | case2 c d s h ih =>
    refine .cons ih fun e he hpair => ?_
    rcases head?_joinPairs he with rfl | hbig
    · exact h hpair
    · simp only [isLowSurrogate, Bool.and_eq_true, decide_eq_true_eq] at hpair
      omega
  | case3 s h =>
    cases s with
    | nil => exact .nil
    | cons c s =>
      cases s with
      | nil => exact .singleton c
      | cons d s => exact absurd rfl (h c d s)

theorem joinPairs_eq_self {s : PyStr} (h : Joined s) : joinPairs s = s := by
  fun_induction joinPairs s with
  | case1 c d s hpair ih => exact absurd hpair (List.isChain_cons_cons.1 h).1
  | case2 c d s hpair ih => rw [ih (List.isChain_cons_cons.1 h).2]
  | case3 s hs => rfl

/-- What is read where a value was written. -/
def readBack (j : PyJson) : PyJson := (j.mapStr joinPairs).collapse

theorem writable_joined (j : PyJson) : (j.mapStr joinPairs).Writable Joined fun _ => True :=
  writable_mapStr joined_joinPairs j

theorem render_joined (compact : Bool) (j : PyJson) :
    render (pyStyle compact) (j.mapStr joinPairs) = render (pyStyle compact) j :=
  render_mapStr (fun s => by simp only [pyStyle, flatMap_joinPairs]) j

/-- Any text of a value can be read, though strings may be joined and repeated keys dropped. -/
theorem loads_render (compact : Bool) (j : PyJson) :
    loads (render (pyStyle compact) j) = some (readBack j) := by
  rw [← render_joined]
  exact parse_render_collapse (lawful_pyStyle compact) (writable_joined j)

/-- Reading a text and writing it with sorted keys gives it again. -/
theorem dumps_readBack_iff (compact : Bool) (j : PyJson) :
    dumps compact (readBack j) = render (pyStyle compact) j ↔ Ascending (j.mapStr joinPairs) := by
  rw [← render_joined]
  exact render_sortKeys_collapse_iff (lawful_pyStyle compact) (writable_joined j)

/-! Objects. -/

/-- A key of a `dict`. -/
inductive PyKey
  | str (s : PyStr)
  | num (x : PyNumber)
  | bool (b : Bool)
  | none
  /-- Of any other type. -/
  | other
deriving DecidableEq

namespace PyKey

/-- The text a key is written as; one of another type is not. -/
def text : PyKey → PyStr
  | .str s => s
  | .num x => (numberText x).filterMap toPoint
  | .bool true => PyStr.ofString "true"
  | .bool false => PyStr.ofString "false"
  | .none => PyStr.ofString "null"
  | .other => []

/-- The number a key is to comparisons; booleans are the integers zero and one. -/
def number? : PyKey → Option PyNumber
  | .num x => some x
  | .bool b => some (.int (if b then 1 else 0))
  | _ => Option.none

def isStr : PyKey → Bool
  | .str _ => true
  | _ => false

/-- A NaN is neither below nor above anything. -/
def isNaN : PyKey → Bool
  | .num (.float .nan) => true
  | _ => false

/-- `k < k'`, of keys that can be compared. -/
def lt (k k' : PyKey) : Bool :=
  match k, k' with
  | .str s, .str t => s < t
  | k, k' =>
    match k.number?, k'.number? with
    | some x, some y => x.lt y
    | _, _ => false

/-- Keys that can be sorted and written: strings, or numbers and booleans, or one `None`. -/
def sortable (keys : List PyKey) : Bool :=
  keys.all isStr || keys.all (fun k => k.number?.isSome) || keys = [.none]

end PyKey

/-- What a payload consists of. -/
inductive PyObject
  | null
  | bool (b : Bool)
  | num (x : PyNumber)
  | str (s : PyStr)
  /-- A `list` or a `tuple`. -/
  | arr (items : List PyObject)
  | dict (entries : List (PyKey × PyObject))
  /-- Anything else: `default=str` writes its `str`. -/
  | other (str : PyStr)

/-- `sorted` on the items of a `dict`. No two of its keys are equal, so they alone are compared.
Where one is a NaN, the outcome depends on the algorithm. -/
structure KeySort where
  sort : ∀ {V : Type}, List (PyKey × V) → List (PyKey × V)
  sort_map : ∀ {V W : Type} (g : V → W) (items : List (PyKey × V)),
    sort (items.map fun e => (e.1, g e.2)) = (sort items).map fun e => (e.1, g e.2)
  perm : ∀ {V : Type} (items : List (PyKey × V)), (sort items).Perm items
  sorted : ∀ {V : Type} (items : List (PyKey × V)), PyKey.sortable (items.map Prod.fst) →
    (∀ e ∈ items, e.1.isNaN = false) → (sort items).Pairwise fun e f => f.1.lt e.1 = false

/-- What orders the keys of one `dict`: their texts, or else their values. -/
def PyKey.rank : PyKey → PyStr ×ₗ WithBot (WithTop ℚ)
  | .str s => toLex (s, ⊥)
  | k => toLex ([], (k.number?.bind PyNumber.value).getD ⊥)

theorem PyNumber.lt_of_le {x y : PyNumber} (h : x.value.getD ⊥ ≤ y.value.getD ⊥) :
    y.lt x = false := by
  unfold PyNumber.lt
  split
  · rename_i a b hy hx
    simpa [hx, hy] using h
  · rfl

theorem PyKey.rank_of_number? {k : PyKey} {x : PyNumber} (h : k.number? = some x) :
    k.rank = toLex ([], x.value.getD ⊥) := by
  cases k <;> cases h <;> rfl

theorem PyKey.lt_of_number? {k k' : PyKey} {x y : PyNumber} (h : k.number? = some x)
    (h' : k'.number? = some y) : k.lt k' = x.lt y := by
  cases k <;> cases h <;> cases k' <;> cases h' <;> rfl

theorem PyKey.lt_of_rank_le {k k' : PyKey} (h : k.rank ≤ k'.rank) : k'.lt k = false := by
  cases hk : k.number? with
  | some x =>
    cases hk' : k'.number? with
    | some y =>
      rw [lt_of_number? hk' hk]
      rw [rank_of_number? hk, rank_of_number? hk'] at h
      exact PyNumber.lt_of_le (by simpa [Prod.Lex.toLex_le_toLex] using h)
    | none => cases k' <;> cases hk' <;> cases k <;> cases hk <;> rfl
  | none =>
    cases k <;> cases hk
    · rename_i s
      cases k' with
      | str t =>
        rcases Prod.Lex.toLex_le_toLex.1 h with hlt | ⟨heq, -⟩
        · exact decide_eq_false (not_lt.2 hlt.le)
        · exact decide_eq_false (not_lt.2 heq.le)
      | _ => rfl
    all_goals cases k' <;> rfl

/-- An insertion sort. -/
def KeySort.byRank : KeySort where
  sort items := items.insertionSort fun e f => e.1.rank ≤ f.1.rank
  sort_map g items :=
    (List.map_insertionSort _ _ (fun e => (e.1, g e.2)) items fun _ _ _ _ => Iff.rfl).symm
  perm items := List.perm_insertionSort _ items
  sorted {V} items _ _ := by
    have : Std.Total fun e f : PyKey × V => e.1.rank ≤ f.1.rank := ⟨fun e f => le_total _ _⟩
    have : IsTrans (PyKey × V) fun e f => e.1.rank ≤ f.1.rank := ⟨fun _ _ _ h h' => le_trans h h'⟩
    exact (List.pairwise_insertionSort (fun e f : PyKey × V => e.1.rank ≤ f.1.rank) items).imp
      PyKey.lt_of_rank_le

/-- Entries under strings are sorted by them. -/
theorem KeySort.sort_str (K : KeySort) {V : Type} {fields : List (PyStr × V)}
    (h : (fields.map Prod.fst).Nodup) :
    (K.sort (fields.map fun f => (PyKey.str f.1, f.2))).map (fun e => (e.1.text, e.2)) =
      sortFields fields := by
  set items := fields.map fun f => (PyKey.str f.1, f.2) with hitems
  set sorted := (K.sort items).map fun e => (e.1.text, e.2) with hsorted
  have hperm : sorted.Perm fields := by
    have hback : items.map (fun e => (e.1.text, e.2)) = fields.map id := by
      rw [hitems, List.map_map]
      rfl
    rw [← List.map_id fields, ← hback]
    exact (K.perm items).map _
  have hnd : (sorted.map Prod.fst).Nodup := (hperm.map Prod.fst).nodup_iff.2 h
  have hle : (sorted.map Prod.fst).Pairwise (· ≤ ·) := by
    have hkeys := K.sorted items (by simp [PyKey.sortable, hitems, PyKey.isStr])
      (List.forall_mem_map.2 fun _ _ => rfl)
    rw [List.map_map, List.pairwise_map]
    refine hkeys.imp_of_mem fun he hf hlt => ?_
    obtain ⟨g, -, rfl⟩ := List.mem_map.1 ((K.perm items).mem_iff.1 he)
    obtain ⟨g', -, rfl⟩ := List.mem_map.1 ((K.perm items).mem_iff.1 hf)
    exact not_lt.1 (of_decide_eq_false hlt)
  rw [← sortFields_eq_self ((hle.and hnd).imp fun h => lt_of_le_of_ne h.1 h.2)]
  exact sortFields_eq_of_mem_iff hnd h fun f => hperm.mem_iff

namespace PyObject

/-- Induction with a hypothesis for every item and every value. -/
@[elab_as_elim, induction_eliminator]
theorem induction {P : PyObject → Prop} (null : P .null) (bool : ∀ b, P (.bool b))
    (num : ∀ x, P (.num x)) (str : ∀ s, P (.str s))
    (arr : ∀ items, (∀ x ∈ items, P x) → P (.arr items))
    (dict : ∀ entries, (∀ e ∈ entries, P e.2) → P (.dict entries)) (other : ∀ s, P (.other s))
    (o : PyObject) : P o :=
  @PyObject.rec P (fun items => ∀ x ∈ items, P x) (fun entries => ∀ e ∈ entries, P e.2)
    (fun e => P e.2) null bool num str arr dict other (List.forall_mem_nil _)
    (fun _ _ hx hxs => List.forall_mem_cons.2 ⟨hx, hxs⟩) (List.forall_mem_nil _)
    (fun _ _ he hes => List.forall_mem_cons.2 ⟨he, hes⟩) (fun _ _ h => h) o

mutual

/-- The value that is written, with the entries of every `dict` in the order of its sorted items. -/
def json (K : KeySort) : PyObject → PyJson
  | .null => .null
  | .bool b => .bool b
  | .num x => .num x
  | .str s => .str s
  | .arr items => .arr (jsonItems K items)
  | .dict entries => .obj ((K.sort (jsonEntries K entries)).map fun e => (e.1.text, e.2))
  | .other s => .str s

def jsonItems (K : KeySort) : List PyObject → List PyJson
  | [] => []
  | x :: items => json K x :: jsonItems K items

def jsonEntries (K : KeySort) : List (PyKey × PyObject) → List (PyKey × PyJson)
  | [] => []
  | (k, v) :: entries => (k, json K v) :: jsonEntries K entries

end

mutual

/-- Whether no `dict` in it raises a `TypeError` for its keys. -/
def serializable : PyObject → Bool
  | .arr items => serializableItems items
  | .dict entries => PyKey.sortable (entries.map Prod.fst) && serializableEntries entries
  | _ => true

def serializableItems : List PyObject → Bool
  | [] => true
  | x :: items => serializable x && serializableItems items

def serializableEntries : List (PyKey × PyObject) → Bool
  | [] => true
  | (_, v) :: entries => serializable v && serializableEntries entries

end

/-- `json.dumps(o, sort_keys=True, default=str)`; `none` is a `TypeError`. -/
def dumps (K : KeySort) (compact : Bool) (o : PyObject) : Option Text :=
  if o.serializable then some (render (pyStyle compact) (o.json K)) else none

theorem serializable_arr (items : List PyObject) :
    (arr items).serializable ↔ ∀ x ∈ items, x.serializable := by
  rw [serializable]
  induction items with
  | nil => simp [serializableItems]
  | cons x items ih => rw [serializableItems, Bool.and_eq_true, ih, List.forall_mem_cons]

theorem serializable_dict (entries : List (PyKey × PyObject)) :
    (dict entries).serializable ↔
      PyKey.sortable (entries.map Prod.fst) ∧ ∀ e ∈ entries, e.2.serializable := by
  rw [serializable, Bool.and_eq_true]
  refine and_congr Iff.rfl ?_
  induction entries with
  | nil => simp [serializableEntries]
  | cons e entries ih => rw [serializableEntries, Bool.and_eq_true, ih, List.forall_mem_cons]

variable {K : KeySort}

theorem jsonItems_eq_map (items : List PyObject) : jsonItems K items = items.map (json K) := by
  induction items with
  | nil => rfl
  | cons x items ih => rw [jsonItems, ih, List.map_cons]

theorem jsonEntries_eq_map (entries : List (PyKey × PyObject)) :
    jsonEntries K entries = entries.map fun e => (e.1, json K e.2) := by
  induction entries with
  | nil => rfl
  | cons e entries ih => rw [jsonEntries, ih, List.map_cons]

theorem json_arr (items : List PyObject) : json K (.arr items) = .arr (items.map (json K)) := by
  rw [json, jsonItems_eq_map]

theorem json_dict (entries : List (PyKey × PyObject)) :
    json K (.dict entries) = .obj ((K.sort entries).map fun e => (e.1.text, e.2.json K)) := by
  rw [json, jsonEntries_eq_map, K.sort_map, List.map_map]
  rfl

/-- In every `dict` the texts of the keys, as they are read back, ascend strictly in the order of
its sorted items. -/
inductive Stable (K : KeySort) : PyObject → Prop
  | null : Stable K .null
  | bool (b : Bool) : Stable K (.bool b)
  | num (x : PyNumber) : Stable K (.num x)
  | str (s : PyStr) : Stable K (.str s)
  | arr {items : List PyObject} : (∀ x ∈ items, Stable K x) → Stable K (.arr items)
  | dict {entries : List (PyKey × PyObject)} :
      ((K.sort entries).map fun e => joinPairs e.1.text).Pairwise (· < ·) →
      (∀ e ∈ entries, Stable K e.2) → Stable K (.dict entries)
  | other (s : PyStr) : Stable K (.other s)

theorem stable_iff (o : PyObject) : o.Stable K ↔ Ascending ((o.json K).mapStr joinPairs) := by
  induction o with
  | null => exact ⟨fun _ => .null, fun _ => .null⟩
  | bool b => exact ⟨fun _ => .bool b, fun _ => .bool b⟩
  | num x => exact ⟨fun _ => .num x, fun _ => .num x⟩
  | str s => exact ⟨fun _ => .str _, fun _ => .str s⟩
  | other s => exact ⟨fun _ => .str _, fun _ => .other s⟩
  | arr items ih =>
    rw [json_arr, mapStr_arr]
    constructor
    · intro h
      cases h with
      | arr hitems =>
        refine .arr fun x hx => ?_
        simp only [List.map_map, List.mem_map] at hx
        obtain ⟨y, hy, rfl⟩ := hx
        exact (ih y hy).1 (hitems y hy)
    · intro h
      cases h with
      | arr hitems => exact .arr fun x hx => (ih x hx).2 (hitems _ (by simpa using ⟨x, hx, rfl⟩))
  | dict entries ih =>
    rw [json_dict, mapStr_obj, List.map_map]
    have hmem : ∀ e, e ∈ K.sort entries ↔ e ∈ entries := fun e => (K.perm entries).mem_iff
    constructor
    · intro h
      cases h with
      | dict hkeys hvalues =>
        refine .obj (by rwa [List.map_map]) fun f hf => ?_
        obtain ⟨e, he, rfl⟩ := List.mem_map.1 hf
        exact (ih e ((hmem e).1 he)).1 (hvalues e ((hmem e).1 he))
    · intro h
      cases h with
      | obj hkeys hvalues =>
        refine .dict (by rwa [List.map_map] at hkeys) fun e he => ?_
        exact (ih e he).2 (hvalues _ (List.mem_map_of_mem ((hmem e).2 he)))

/-- Reading what was written of an object and writing it with sorted keys gives the text again. -/
theorem dumps_readBack_iff (compact : Bool) (o : PyObject) :
    Counterparty.dumps compact (readBack (o.json K)) = render (pyStyle compact) (o.json K) ↔
      o.Stable K := by
  rw [Counterparty.dumps_readBack_iff, stable_iff]

/-! JSON values are objects whose keys are strings. -/

mutual

def ofJson : PyJson → PyObject
  | .null => .null
  | .bool b => .bool b
  | .num x => .num x
  | .str s => .str s
  | .arr items => .arr (ofItems items)
  | .obj fields => .dict (ofFields fields)

def ofItems : List PyJson → List PyObject
  | [] => []
  | x :: items => ofJson x :: ofItems items

def ofFields : List (PyStr × PyJson) → List (PyKey × PyObject)
  | [] => []
  | (k, v) :: fields => (.str k, ofJson v) :: ofFields fields

end

theorem ofItems_eq_map (items : List PyJson) : ofItems items = items.map ofJson := by
  induction items with
  | nil => rfl
  | cons x items ih => rw [ofItems, ih, List.map_cons]

theorem ofFields_eq_map (fields : List (PyStr × PyJson)) :
    ofFields fields = fields.map fun f => (.str f.1, ofJson f.2) := by
  induction fields with
  | nil => rfl
  | cons f fields ih => rw [ofFields, ih, List.map_cons]

/-- They are written with their keys sorted. -/
theorem json_ofJson {j : PyJson} (h : j.DistinctKeys) : json K (ofJson j) = j.sortKeys := by
  induction h with
  | null | bool _ | num _ | str _ => rfl
  | @arr items _ ih =>
    rw [ofJson, json_arr, ofItems_eq_map, List.map_map, sortKeys_arr]
    exact congrArg _ (List.map_congr_left ih)
  | @obj fields hnd _ _ ih =>
    have hentries : jsonEntries K (ofFields fields) =
        (fields.map fun f => (f.1, f.2.sortKeys)).map fun f => (PyKey.str f.1, f.2) := by
      rw [jsonEntries_eq_map, ofFields_eq_map, List.map_map, List.map_map]
      exact List.map_congr_left fun f hf => by simp only [Function.comp_apply, ih f hf]
    rw [ofJson, json, hentries, K.sort_str (by rwa [map_fst_map_snd]), sortFields_map, sortKeys_obj]

/-- Where no string has surrogates to join, the keys are read back as they were sorted. -/
theorem stable_ofJson {j : PyJson} (h : j.Readable Joined fun _ => True) : (ofJson j).Stable K := by
  have hdistinct : j.DistinctKeys := h.imp (fun _ _ => trivial) fun _ _ => trivial
  rw [stable_iff, json_ofJson hdistinct, h.sortKeys.mapStr_eq fun _ => joinPairs_eq_self]
  exact ascending_of_sortKeys_eq hdistinct.sortKeys (sortKeys_sortKeys j)

theorem serializable_ofJson (j : PyJson) : (ofJson j).serializable := by
  induction j using Json.induction with
  | null | bool _ | num _ | str _ => rfl
  | arr items ih =>
    rw [ofJson, serializable_arr, ofItems_eq_map]
    exact List.forall_mem_map.2 ih
  | obj fields ih =>
    rw [ofJson, serializable_dict, ofFields_eq_map]
    exact ⟨by simp [PyKey.sortable, PyKey.isStr], List.forall_mem_map.2 ih⟩

end PyObject

end Counterparty
