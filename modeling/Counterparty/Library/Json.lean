import Mathlib.Data.List.Induction
import Mathlib.Data.List.Nodup
import Mathlib.Data.List.Sort

/-! JSON values over any strings and numbers, with the keys of an object in any order. -/

inductive Json (S N : Type)
  | null
  | bool (b : Bool)
  | num (x : N)
  | str (s : S)
  | arr (items : List (Json S N))
  | obj (fields : List (S × Json S N))

namespace Json

variable {S N : Type}

/-- Induction with a hypothesis for every item and every field. -/
@[elab_as_elim, induction_eliminator]
theorem induction {P : Json S N → Prop} (null : P .null) (bool : ∀ b, P (.bool b))
    (num : ∀ x, P (.num x)) (str : ∀ s, P (.str s))
    (arr : ∀ items, (∀ x ∈ items, P x) → P (.arr items))
    (obj : ∀ fields, (∀ f ∈ fields, P f.2) → P (.obj fields)) (j : Json S N) : P j :=
  @Json.rec S N P (fun items => ∀ x ∈ items, P x) (fun fields => ∀ f ∈ fields, P f.2)
    (fun f => P f.2) null bool num str arr obj (by simp)
    (fun x items hx hxs y hy => (List.mem_cons.1 hy).elim (fun h => h ▸ hx) (hxs y))
    (by simp)
    (fun f fields hf hfs g hg => (List.mem_cons.1 hg).elim (fun h => h ▸ hf) (hfs g))
    (fun _ _ h => h) j

/-- Of at most `n` levels, the value itself being the first, with keys that are taken. -/
def within (key : S → Bool) : ℕ → Json S N → Bool
  | 0, _ => false
  | n + 1, .arr items => items.all fun x => within key n x
  | n + 1, .obj fields => fields.all fun f => key f.1 && within key n f.2
  | _ + 1, _ => true

theorem within_mono {key : S → Bool} {m n : ℕ} (h : m ≤ n) {j : Json S N} (hj : j.within key m) :
    j.within key n := by
  induction m generalizing n j with
  | zero => cases hj
  | succ m ih =>
    obtain ⟨k, rfl⟩ := Nat.exists_eq_succ_of_ne_zero (by omega : n ≠ 0)
    have hk : m ≤ k := Nat.le_of_succ_le_succ h
    cases j with
    | arr items =>
      simp only [within, List.all_eq_true] at hj ⊢
      exact fun x hx => ih hk (hj x hx)
    | obj fields =>
      simp only [within, List.all_eq_true, Bool.and_eq_true] at hj ⊢
      exact fun f hf => ⟨(hj f hf).1, ih hk (hj f hf).2⟩
    | null => rfl
    | bool b => rfl
    | num x => rfl
    | str s => rfl

/-! Objects as finite maps. -/

/-- Assignment `d[k] = v`: a known key keeps its place. -/
def put [DecidableEq S] {V : Type} (k : S) (v : V) : List (S × V) → List (S × V)
  | [] => [(k, v)]
  | f :: fs => if f.1 = k then (k, v) :: fs else f :: put k v fs

/-- A display of entries, a later one overwriting an earlier. -/
def ofEntries [DecidableEq S] {V : Type} (entries : List (S × V)) : List (S × V) :=
  entries.foldl (fun fs f => put f.1 f.2 fs) []

section Put

variable [DecidableEq S] {V : Type} {k : S} {v : V} {fs : List (S × V)}

theorem mem_keys_put {k' : S} :
    k' ∈ (put k v fs).map Prod.fst ↔ k' = k ∨ k' ∈ fs.map Prod.fst := by
  induction fs with
  | nil => simp [put]
  | cons f fs ih =>
    by_cases h : f.1 = k
    · simp [put, h]
    · simp only [put, h, if_false, List.map_cons, List.mem_cons, ih]
      tauto

theorem nodup_put (h : (fs.map Prod.fst).Nodup) : ((put k v fs).map Prod.fst).Nodup := by
  induction fs with
  | nil => simp [put]
  | cons f fs ih =>
    obtain ⟨hf, hfs⟩ := List.nodup_cons.1 h
    by_cases hk : f.1 = k
    · simp only [put, hk, if_true, List.map_cons, List.nodup_cons]
      exact ⟨hk ▸ hf, hfs⟩
    · simp only [put, hk, if_false, List.map_cons, List.nodup_cons, mem_keys_put]
      exact ⟨fun hm => hm.elim id hf, ih hfs⟩

theorem mem_of_mem_put {f : S × V} (h : f ∈ put k v fs) : f = (k, v) ∨ f ∈ fs := by
  induction fs with
  | nil => simpa [put] using h
  | cons g fs ih =>
    by_cases hk : g.1 = k
    · simp only [put, hk, if_true, List.mem_cons] at h
      rcases h with h | h
      · exact .inl h
      · exact .inr (List.mem_cons_of_mem _ h)
    · simp only [put, hk, if_false, List.mem_cons] at h
      rcases h with rfl | h
      · exact .inr List.mem_cons_self
      · exact (ih h).imp_right (List.mem_cons_of_mem _)

/-- A key that is new goes to the end. -/
theorem put_of_not_mem (h : k ∉ fs.map Prod.fst) : put k v fs = fs ++ [(k, v)] := by
  induction fs with
  | nil => rfl
  | cons f fs ih =>
    simp only [List.map_cons, List.mem_cons, not_or] at h
    simp [put, Ne.symm h.1, ih h.2]

theorem nodup_ofEntries (entries : List (S × V)) : ((ofEntries entries).map Prod.fst).Nodup := by
  suffices h : ∀ acc : List (S × V), (acc.map Prod.fst).Nodup →
      ((entries.foldl (fun fs f => put f.1 f.2 fs) acc).map Prod.fst).Nodup from h [] (by simp)
  induction entries with
  | nil => exact fun _ h => h
  | cons f entries ih => exact fun acc h => ih _ (nodup_put h)

theorem mem_of_mem_ofEntries {entries : List (S × V)} {f : S × V} (h : f ∈ ofEntries entries) :
    f ∈ entries := by
  suffices hs : ∀ acc : List (S × V), f ∈ entries.foldl (fun fs g => put g.1 g.2 fs) acc →
      f ∈ acc ∨ f ∈ entries by simpa using hs [] h
  clear h
  induction entries with
  | nil => exact fun _ h => .inl h
  | cons g entries ih =>
    intro acc h
    rcases ih _ h with h | h
    · rcases mem_of_mem_put h with rfl | h
      · exact .inr List.mem_cons_self
      · exact .inl h
    · exact .inr (List.mem_cons_of_mem _ h)

/-- Entries with distinct keys are kept as they are. -/
theorem ofEntries_of_nodup {entries : List (S × V)} (h : (entries.map Prod.fst).Nodup) :
    ofEntries entries = entries := by
  suffices hs : ∀ acc : List (S × V), ((acc ++ entries).map Prod.fst).Nodup →
      entries.foldl (fun fs f => put f.1 f.2 fs) acc = acc ++ entries from hs [] h
  clear h
  induction entries with
  | nil => simp
  | cons f entries ih =>
    intro acc h
    have hf : f.1 ∉ acc.map Prod.fst := by
      intro hm
      rw [List.map_append, List.nodup_append] at h
      exact h.2.2 _ hm _ (by simp) rfl
    rw [List.foldl_cons, put_of_not_mem hf, ih _ (by simpa using h)]
    simp

end Put

section Lookup

variable [BEq S] [LawfulBEq S] {V W : Type} {fields : List (S × V)} {k : S} {v : V}

omit [LawfulBEq S] in
theorem lookup_map (g : V → W) (k : S) (fields : List (S × V)) :
    (fields.map fun f => (f.1, g f.2)).lookup k = (fields.lookup k).map g := by
  induction fields with
  | nil => rfl
  | cons f fields ih =>
    rw [List.map_cons, List.lookup_cons, List.lookup_cons]
    split
    · rfl
    · exact ih

theorem lookup_put_self [DecidableEq S] : (put k v fields).lookup k = some v := by
  induction fields with
  | nil => simp [put]
  | cons f fields ih =>
    by_cases h : f.1 = k
    · simp [put, h]
    · have hne : (k == f.1) = false := by simpa using Ne.symm h
      rw [put, if_neg h, List.lookup_cons, hne]
      exact ih

theorem lookup_put_of_ne [DecidableEq S] {k' : S} (hk : k' ≠ k) :
    (put k v fields).lookup k' = fields.lookup k' := by
  have hne : (k' == k) = false := by simpa using hk
  induction fields with
  | nil => simp [put, List.lookup_cons, hne]
  | cons f fields ih =>
    by_cases h : f.1 = k
    · rw [put, if_pos h, List.lookup_cons, List.lookup_cons, h, hne]
    · rw [put, if_neg h, List.lookup_cons, List.lookup_cons, ih]

theorem lookup_eq_some_iff_mem (h : (fields.map Prod.fst).Nodup) :
    fields.lookup k = some v ↔ (k, v) ∈ fields := by
  rw [List.lookup_eq_some_iff]
  constructor
  · rintro ⟨before, after, rfl, -⟩
    simp
  · intro hmem
    obtain ⟨before, after, rfl⟩ := List.append_of_mem hmem
    refine ⟨before, after, rfl, fun f hf => ?_⟩
    rw [List.map_append, List.nodup_append] at h
    simpa using (h.2.2 f.1 (List.mem_map_of_mem hf) k (by simp)).symm

/-- After an assignment a map holds the new entry, and the entries under other keys. -/
theorem mem_put_iff [DecidableEq S] (h : (fields.map Prod.fst).Nodup) {f : S × V} :
    f ∈ put k v fields ↔ f = (k, v) ∨ (f ∈ fields ∧ f.1 ≠ k) := by
  obtain ⟨k', w⟩ := f
  rw [← lookup_eq_some_iff_mem (nodup_put h), ← lookup_eq_some_iff_mem h]
  by_cases hk : k' = k
  · subst hk
    simp [lookup_put_self, eq_comm]
  · simp [lookup_put_of_ne hk, hk]

/-- The entries of a display that no later entry overwrites are left. -/
theorem mem_ofEntries_cons [DecidableEq S] {f g : S × V} {entries : List (S × V)} :
    g ∈ ofEntries (f :: entries) ↔
      (g = f ∧ f.1 ∉ entries.map Prod.fst) ∨ g ∈ ofEntries entries := by
  have hleft : ∀ entries : List (S × V), g ∈ entries.foldl (fun fs e => put e.1 e.2 fs) [f] ↔
      (g = f ∧ f.1 ∉ entries.map Prod.fst) ∨ g ∈ ofEntries entries := by
    intro entries
    induction entries using List.reverseRecOn with
    | nil => simp [ofEntries]
    | append_singleton entries e ih =>
      have hnd : ((entries.foldl (fun fs e => put e.1 e.2 fs) [f]).map Prod.fst).Nodup :=
        nodup_ofEntries (f :: entries)
      have hnew : ofEntries (entries ++ [e]) = put e.1 e.2 (ofEntries entries) := by
        simp [ofEntries]
      rw [List.foldl_append, List.foldl_cons, List.foldl_nil, mem_put_iff hnd, ih, hnew,
        mem_put_iff (nodup_ofEntries entries)]
      simp only [List.map_append, List.map_cons, List.map_nil, List.mem_append, List.mem_singleton,
        not_or]
      constructor
      · rintro (hg | ⟨⟨rfl, hf⟩ | hg, hne⟩)
        · exact .inr (.inl hg)
        · exact .inl ⟨rfl, hf, hne⟩
        · exact .inr (.inr ⟨hg, hne⟩)
      · rintro (⟨rfl, hf, hne⟩ | hg | ⟨hg, hne⟩)
        · exact .inr ⟨.inl ⟨rfl, hf⟩, hne⟩
        · exact .inl hg
        · exact .inr ⟨.inr hg, hne⟩
  exact hleft entries

end Lookup

/-! Values that can be written and read: distinct keys, and strings and numbers as described. -/

inductive Readable (goodStr : S → Prop) (goodNum : N → Prop) : Json S N → Prop
  | null : Readable goodStr goodNum .null
  | bool (b : Bool) : Readable goodStr goodNum (.bool b)
  | num {x : N} : goodNum x → Readable goodStr goodNum (.num x)
  | str {s : S} : goodStr s → Readable goodStr goodNum (.str s)
  | arr {items : List (Json S N)} :
      (∀ x ∈ items, Readable goodStr goodNum x) → Readable goodStr goodNum (.arr items)
  | obj {fields : List (S × Json S N)} : (fields.map Prod.fst).Nodup →
      (∀ f ∈ fields, goodStr f.1) → (∀ f ∈ fields, Readable goodStr goodNum f.2) →
      Readable goodStr goodNum (.obj fields)

theorem Readable.imp {goodStr goodStr' : S → Prop} {goodNum goodNum' : N → Prop} {j : Json S N}
    (h : Readable goodStr goodNum j) (hstr : ∀ s, goodStr s → goodStr' s)
    (hnum : ∀ x, goodNum x → goodNum' x) : Readable goodStr' goodNum' j := by
  induction h with
  | null => exact .null
  | bool b => exact .bool b
  | num hx => exact .num (hnum _ hx)
  | str hs => exact .str (hstr _ hs)
  | arr _ ih => exact .arr ih
  | obj hnd hkeys _ ih => exact .obj hnd (fun f hf => hstr _ (hkeys f hf)) ih

/-! Sorting the keys of every object. -/

section SortKeys

variable [LinearOrder S]

def sortFields {V : Type} (fields : List (S × V)) : List (S × V) :=
  fields.insertionSort fun f g => f.1 ≤ g.1

mutual

def sortKeys : Json S N → Json S N
  | .null => .null
  | .bool b => .bool b
  | .num x => .num x
  | .str s => .str s
  | .arr items => .arr (sortKeysItems items)
  | .obj fields => .obj (sortFields (sortKeysFields fields))

def sortKeysItems : List (Json S N) → List (Json S N)
  | [] => []
  | x :: items => sortKeys x :: sortKeysItems items

def sortKeysFields : List (S × Json S N) → List (S × Json S N)
  | [] => []
  | (k, v) :: fields => (k, sortKeys v) :: sortKeysFields fields

end

theorem sortKeysItems_eq_map (items : List (Json S N)) :
    sortKeysItems items = items.map sortKeys := by
  induction items with
  | nil => rfl
  | cons x items ih => simp [sortKeysItems, ih]

theorem sortKeysFields_eq_map (fields : List (S × Json S N)) :
    sortKeysFields fields = fields.map fun f => (f.1, sortKeys f.2) := by
  induction fields with
  | nil => rfl
  | cons f fields ih => simp [sortKeysFields, ih]

theorem perm_sortFields {V : Type} (fields : List (S × V)) : (sortFields fields).Perm fields :=
  List.perm_insertionSort _ _

theorem sortFields_sortFields {V : Type} (fields : List (S × V)) :
    sortFields (sortFields fields) = sortFields fields := by
  have : Std.Total fun f g : S × V => f.1 ≤ g.1 := ⟨fun f g => le_total f.1 g.1⟩
  have : IsTrans (S × V) fun f g => f.1 ≤ g.1 := ⟨fun _ _ _ h h' => le_trans h h'⟩
  exact (List.pairwise_insertionSort (fun f g : S × V => f.1 ≤ g.1) fields).insertionSort_eq

theorem sortFields_map {V W : Type} (g : V → W) (fields : List (S × V)) :
    sortFields (fields.map fun f => (f.1, g f.2)) =
      (sortFields fields).map fun f => (f.1, g f.2) :=
  (List.map_insertionSort _ _ (fun f : S × V => (f.1, g f.2)) fields fun _ _ _ _ => Iff.rfl).symm

@[simp] theorem sortKeys_obj (fields : List (S × Json S N)) :
    sortKeys (.obj fields) = .obj ((sortFields fields).map fun f => (f.1, sortKeys f.2)) := by
  rw [sortKeys, sortKeysFields_eq_map, sortFields_map]

@[simp] theorem sortKeys_arr (items : List (Json S N)) :
    sortKeys (.arr items) = .arr (items.map sortKeys) := by
  rw [sortKeys, sortKeysItems_eq_map]

/-- Sorting the keys again changes nothing. -/
@[simp] theorem sortKeys_sortKeys (j : Json S N) : sortKeys (sortKeys j) = sortKeys j := by
  induction j with
  | null | bool _ | num _ | str _ => rfl
  | arr items ih =>
    simp only [sortKeys_arr, List.map_map, arr.injEq]
    exact List.map_congr_left ih
  | obj fields ih =>
    simp only [sortKeys_obj, sortFields_map, sortFields_sortFields, List.map_map, obj.injEq]
    refine List.map_congr_left fun f hf => ?_
    simp [ih f ((perm_sortFields fields).mem_iff.1 hf)]

/-- Objects that are the same up to order agree on every key that the other one holds once. -/
theorem sortKeys_eq_of_obj {fields fields' : List (S × Json S N)} {k : S} {v v' : Json S N}
    (h : sortKeys (.obj fields) = sortKeys (.obj fields')) (hkeys : (fields'.map Prod.fst).Nodup)
    (hv : (k, v) ∈ fields) (hv' : (k, v') ∈ fields') : sortKeys v = sortKeys v' := by
  rw [sortKeys_obj, sortKeys_obj] at h
  have hmem : (k, sortKeys v) ∈ (sortFields fields).map fun f => (f.1, sortKeys f.2) :=
    List.mem_map.2 ⟨(k, v), (perm_sortFields fields).mem_iff.2 hv, rfl⟩
  rw [obj.inj h] at hmem
  obtain ⟨⟨k', w⟩, hw, heq⟩ := List.mem_map.1 hmem
  obtain ⟨rfl, hsort⟩ := Prod.mk.inj heq
  have hsame := List.inj_on_of_nodup_map hkeys ((perm_sortFields fields').mem_iff.1 hw) hv' rfl
  rw [← hsort, (Prod.mk.inj hsame).2]

/-- Sorting the keys moves no value to another key. -/
theorem lookup_sortFields [BEq S] [LawfulBEq S] {V : Type} {fields : List (S × V)} {k : S}
    (h : (fields.map Prod.fst).Nodup) : (sortFields fields).lookup k = fields.lookup k := by
  have hp := perm_sortFields fields
  apply Option.ext
  intro v
  rw [lookup_eq_some_iff_mem h, lookup_eq_some_iff_mem ((hp.map Prod.fst).nodup_iff.2 h),
    hp.mem_iff]

theorem Readable.sortKeys {goodStr : S → Prop} {goodNum : N → Prop} {j : Json S N}
    (h : Readable goodStr goodNum j) : Readable goodStr goodNum j.sortKeys := by
  induction h with
  | null => exact .null
  | bool b => exact .bool b
  | num hx => exact .num hx
  | str hs => exact .str hs
  | arr _ ih =>
    rw [sortKeys_arr]
    refine .arr fun x hx => ?_
    obtain ⟨y, hy, rfl⟩ := List.mem_map.1 hx
    exact ih y hy
  | @obj fields hnd hkeys _ ih =>
    have hp := perm_sortFields fields
    rw [sortKeys_obj]
    refine .obj ?_ ?_ ?_
    · rw [List.map_map]
      exact (hp.map Prod.fst).nodup_iff.2 hnd
    · intro f hf
      obtain ⟨g, hg, rfl⟩ := List.mem_map.1 hf
      exact hkeys g (hp.mem_iff.1 hg)
    · intro f hf
      obtain ⟨g, hg, rfl⟩ := List.mem_map.1 hf
      exact ih g (hp.mem_iff.1 hg)

end SortKeys

/-! Replacing every string. -/

section MapStr

variable {T : Type} {f : S → T}

mutual

def mapStr (f : S → T) : Json S N → Json T N
  | .null => .null
  | .bool b => .bool b
  | .num x => .num x
  | .str s => .str (f s)
  | .arr items => .arr (mapStrItems f items)
  | .obj fields => .obj (mapStrFields f fields)

def mapStrItems (f : S → T) : List (Json S N) → List (Json T N)
  | [] => []
  | x :: items => mapStr f x :: mapStrItems f items

def mapStrFields (f : S → T) : List (S × Json S N) → List (T × Json T N)
  | [] => []
  | (k, v) :: fields => (f k, mapStr f v) :: mapStrFields f fields

end

theorem mapStrItems_eq_map (items : List (Json S N)) :
    mapStrItems f items = items.map (mapStr f) := by
  induction items with
  | nil => rfl
  | cons x items ih => simp [mapStrItems, ih]

theorem mapStrFields_eq_map (fields : List (S × Json S N)) :
    mapStrFields f fields = fields.map fun e => (f e.1, mapStr f e.2) := by
  induction fields with
  | nil => rfl
  | cons e fields ih => simp [mapStrFields, ih]

@[simp] theorem mapStr_arr (items : List (Json S N)) :
    mapStr f (.arr items) = .arr (items.map (mapStr f)) := by
  rw [mapStr, mapStrItems_eq_map]

@[simp] theorem mapStr_obj (fields : List (S × Json S N)) :
    mapStr f (.obj fields) = .obj (fields.map fun e => (f e.1, mapStr f e.2)) := by
  rw [mapStr, mapStrFields_eq_map]

end MapStr

/-! Replacing every number. -/

section BindNum

mutual

def bindNum (f : N → Json S N) : Json S N → Json S N
  | .null => .null
  | .bool b => .bool b
  | .num x => f x
  | .str s => .str s
  | .arr items => .arr (bindNumItems f items)
  | .obj fields => .obj (bindNumFields f fields)

def bindNumItems (f : N → Json S N) : List (Json S N) → List (Json S N)
  | [] => []
  | x :: items => bindNum f x :: bindNumItems f items

def bindNumFields (f : N → Json S N) : List (S × Json S N) → List (S × Json S N)
  | [] => []
  | (k, v) :: fields => (k, bindNum f v) :: bindNumFields f fields

end

variable {f g : N → Json S N}

theorem bindNumItems_eq_map (items : List (Json S N)) :
    bindNumItems f items = items.map (bindNum f) := by
  induction items with
  | nil => rfl
  | cons x items ih => simp [bindNumItems, ih]

theorem bindNumFields_eq_map (fields : List (S × Json S N)) :
    bindNumFields f fields = fields.map fun e => (e.1, bindNum f e.2) := by
  induction fields with
  | nil => rfl
  | cons e fields ih => simp [bindNumFields, ih]

@[simp] theorem bindNum_arr (items : List (Json S N)) :
    bindNum f (.arr items) = .arr (items.map (bindNum f)) := by
  rw [bindNum, bindNumItems_eq_map]

@[simp] theorem bindNum_obj (fields : List (S × Json S N)) :
    bindNum f (.obj fields) = .obj (fields.map fun e => (e.1, bindNum f e.2)) := by
  rw [bindNum, bindNumFields_eq_map]

variable {goodStr : S → Prop} {goodNum goodNum' : N → Prop} {j : Json S N}

theorem Readable.bindNum (h : Readable goodStr goodNum j)
    (hf : ∀ x, goodNum x → Readable goodStr goodNum' (f x)) :
    Readable goodStr goodNum' (j.bindNum f) := by
  induction h with
  | null => exact .null
  | bool b => exact .bool b
  | num hx => exact hf _ hx
  | str hs => exact .str hs
  | arr _ ih =>
    rw [bindNum_arr]
    refine .arr fun x hx => ?_
    obtain ⟨y, hy, rfl⟩ := List.mem_map.1 hx
    exact ih y hy
  | @obj fields hnd hkeys _ ih =>
    rw [bindNum_obj]
    refine .obj ?_ ?_ ?_
    · rw [List.map_map]
      exact hnd
    · intro e he
      obtain ⟨d, hd, rfl⟩ := List.mem_map.1 he
      exact hkeys d hd
    · intro e he
      obtain ⟨d, hd, rfl⟩ := List.mem_map.1 he
      exact ih d hd

theorem bindNum_congr (h : Readable goodStr goodNum j) (hfg : ∀ x, goodNum x → f x = g x) :
    j.bindNum f = j.bindNum g := by
  induction h with
  | null | bool _ | str _ => rfl
  | num hx => exact hfg _ hx
  | arr _ ih =>
    simp only [bindNum_arr, arr.injEq]
    exact List.map_congr_left ih
  | obj _ _ _ ih =>
    simp only [bindNum_obj, obj.injEq]
    exact List.map_congr_left fun e he => by rw [ih e he]

theorem sortKeys_bindNum [LinearOrder S] (hf : ∀ x, sortKeys (f x) = f x) (j : Json S N) :
    sortKeys (j.bindNum f) = (sortKeys j).bindNum f := by
  induction j with
  | null | bool _ | str _ => rfl
  | num x => exact hf x
  | arr items ih =>
    simp only [bindNum_arr, sortKeys_arr, List.map_map, arr.injEq]
    exact List.map_congr_left ih
  | obj fields ih =>
    simp only [bindNum_obj, sortKeys_obj, sortFields_map, List.map_map, obj.injEq]
    refine List.map_congr_left fun e he => ?_
    simp [ih e ((perm_sortFields fields).mem_iff.1 he)]

end BindNum

end Json
