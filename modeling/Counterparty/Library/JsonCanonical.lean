import Mathlib.Algebra.BigOperators.Group.List.Basic
import Counterparty.Library.JsonText

/-! When the text of a value survives being read and written again with its keys sorted. -/
namespace Json

variable {S N : Type}

/-- Every object lists its keys in strictly increasing order. -/
inductive Ascending [LT S] : Json S N → Prop
  | null : Ascending .null
  | bool (b : Bool) : Ascending (.bool b)
  | num (x : N) : Ascending (.num x)
  | str (s : S) : Ascending (.str s)
  | arr {items : List (Json S N)} : (∀ x ∈ items, Ascending x) → Ascending (.arr items)
  | obj {fields : List (S × Json S N)} : (fields.map Prod.fst).Pairwise (· < ·) →
      (∀ f ∈ fields, Ascending f.2) → Ascending (.obj fields)

section Order

variable [LinearOrder S] {j : Json S N}

theorem Ascending.distinctKeys (h : Ascending j) : DistinctKeys j := by
  induction h with
  | null => exact .null
  | bool b => exact .bool b
  | num x => exact .num trivial
  | str s => exact .str trivial
  | arr _ ih => exact .arr ih
  | obj hkeys _ ih => exact .obj (hkeys.imp ne_of_lt) (fun _ _ => trivial) ih

theorem sortFields_eq_self {V : Type} {fields : List (S × V)}
    (h : (fields.map Prod.fst).Pairwise (· < ·)) : sortFields fields = fields :=
  List.Pairwise.insertionSort_eq ((List.pairwise_map.1 h).imp le_of_lt)

theorem Ascending.sortKeys_eq (h : Ascending j) : j.sortKeys = j := by
  induction h with
  | null | bool _ | num _ | str _ => rfl
  | arr _ ih => rw [sortKeys_arr, List.map_congr_left ih, List.map_id']
  | @obj fields hkeys _ ih =>
    have hvalues : fields.map (fun f => (f.1, f.2.sortKeys)) = fields.map id :=
      List.map_congr_left fun f hf => by rw [ih f hf, id]
    rw [sortKeys_obj, sortFields_eq_self hkeys, hvalues, List.map_id]

theorem ascending_of_sortKeys_eq (hj : DistinctKeys j) (h : j.sortKeys = j) : Ascending j := by
  induction hj with
  | null => exact .null
  | bool b => exact .bool b
  | num _ => exact .num _
  | str _ => exact .str _
  | @arr items _ ih =>
    rw [sortKeys_arr, arr.injEq] at h
    exact .arr fun x hx => ih x hx (List.map_inj_left.1 (h.trans (List.map_id items).symm) x hx)
  | @obj fields hnd _ _ ih =>
    rw [sortKeys_obj, obj.injEq] at h
    have hsorted : (fields.map Prod.fst).Pairwise (· ≤ ·) := by
      have : Std.Total fun f g : S × Json S N => f.1 ≤ g.1 := ⟨fun f g => le_total f.1 g.1⟩
      have : IsTrans (S × Json S N) fun f g => f.1 ≤ g.1 := ⟨fun _ _ _ h h' => le_trans h h'⟩
      rw [← h, List.map_map, List.pairwise_map]
      exact List.pairwise_insertionSort (fun f g : S × Json S N => f.1 ≤ g.1) fields
    refine .obj ((hsorted.and hnd).imp fun hle => lt_of_le_of_ne hle.1 hle.2) fun f hf => ?_
    refine ih f hf ?_
    rw [← h] at hf
    obtain ⟨g, -, rfl⟩ := List.mem_map.1 hf
    exact sortKeys_sortKeys g.2

/-- Keys ascend strictly where none is repeated and sorting changes nothing. -/
theorem ascending_iff : Ascending j ↔ DistinctKeys j ∧ j.sortKeys = j :=
  ⟨fun h => ⟨h.distinctKeys, h.sortKeys_eq⟩, fun h => ascending_of_sortKeys_eq h.1 h.2⟩

end Order

/-! Dropping repeated keys makes a text shorter. -/

section Length

theorem sum_map_le {α : Type} (size : α → ℕ) (f : α → α) {l : List α}
    (h : ∀ x ∈ l, size (f x) ≤ size x ∧ (size x ≤ size (f x) → f x = x)) :
    ((l.map f).map size).sum ≤ (l.map size).sum ∧
      ((l.map size).sum ≤ ((l.map f).map size).sum → l.map f = l) := by
  induction l with
  | nil => simp
  | cons x l ih =>
    obtain ⟨hx, hkeep⟩ := h x List.mem_cons_self
    obtain ⟨hl, hkeeps⟩ := ih fun y hy => h y (List.mem_cons_of_mem _ hy)
    simp only [List.map_cons, List.sum_cons, List.cons.injEq]
    exact ⟨by omega, fun hle => ⟨hkeep (by omega), hkeeps (by omega)⟩⟩

variable [DecidableEq S]

theorem sum_put {V : Type} (size : S × V → ℕ) (hpos : ∀ f, 0 < size f) (k : S) (v : V)
    (fs : List (S × V)) : ((put k v fs).map size).sum ≤ (fs.map size).sum + size (k, v) ∧
      (k ∈ fs.map Prod.fst → ((put k v fs).map size).sum < (fs.map size).sum + size (k, v)) := by
  induction fs with
  | nil => simp [put]
  | cons f fs ih =>
    have hf := hpos f
    by_cases hk : f.1 = k
    · simp only [put, hk, if_true, List.map_cons, List.sum_cons]
      exact ⟨by omega, fun _ => by omega⟩
    · simp only [put, hk, if_false, List.map_cons, List.sum_cons, List.mem_cons, Ne.symm hk,
        false_or]
      exact ⟨by omega, fun hmem => by have := ih.2 hmem; omega⟩

theorem sum_ofEntries {V : Type} (size : S × V → ℕ) (hpos : ∀ f, 0 < size f)
    (entries : List (S × V)) : ((ofEntries entries).map size).sum ≤ (entries.map size).sum ∧
      ((entries.map size).sum ≤ ((ofEntries entries).map size).sum → ofEntries entries = entries) := by
  induction entries using List.reverseRecOn with
  | nil => simp [ofEntries]
  | append_singleton entries f ih =>
    obtain ⟨k, v⟩ := f
    have hnew : ofEntries (entries ++ [(k, v)]) = put k v (ofEntries entries) := by simp [ofEntries]
    obtain ⟨hput, hold⟩ := sum_put size hpos k v (ofEntries entries)
    simp only [hnew, List.map_append, List.sum_append, List.map_singleton, List.sum_singleton]
    refine ⟨by omega, fun hle => ?_⟩
    by_cases hk : k ∈ (ofEntries entries).map Prod.fst
    · have := hold hk
      omega
    · rw [put_of_not_mem hk, ih.2 (by omega)]

theorem ofEntries_ne_nil {V : Type} {entries : List (S × V)} (h : entries ≠ []) :
    ofEntries entries ≠ [] := by
  obtain ⟨front, f, rfl⟩ := (List.eq_nil_or_concat entries).resolve_left h
  have hnew : ofEntries (front.concat f) = put f.1 f.2 (ofEntries front) := by simp [ofEntries]
  rw [hnew]
  cases ofEntries front with
  | nil => simp [put]
  | cons g fs =>
    rw [put]
    split_ifs <;> simp

omit [DecidableEq S] in
theorem length_intercalate (sep : Text) {ls : List Text} (h : ls ≠ []) :
    (sep.intercalate ls).length + sep.length = (ls.map fun l => l.length + sep.length).sum := by
  induction ls with
  | nil => exact absurd rfl h
  | cons l ls ih =>
    cases ls with
    | nil => simp
    | cons l' ls =>
      rw [List.intercalate_cons_cons, List.map_cons, List.sum_cons, ← ih (by simp)]
      simp only [List.length_append]
      omega

omit [DecidableEq S] in
theorem length_bracketed (first last : ℕ) (sep : Text) {ls : List Text} (h : ls ≠ []) :
    (first :: (sep.intercalate ls ++ [last])).length + sep.length =
      (ls.map fun l => l.length + sep.length).sum + 2 := by
  rw [← length_intercalate sep h, List.length_cons, List.length_append, List.length_singleton]
  omega

/-- How much an item adds to the text of its list, with a comma. -/
def itemSize (σ : Style S N) (x : Json S N) : ℕ := (render σ x).length + (44 :: σ.itemSpace).length

/-- How much an entry adds to the text of its object, with a comma. -/
def entrySize (σ : Style S N) (f : S × Json S N) : ℕ :=
  (34 :: (σ.stringBody f.1 ++ 58 :: (σ.keySpace ++ render σ f.2))).length + (44 :: σ.itemSpace).length

omit [DecidableEq S] in
theorem length_render_arr (σ : Style S N) {items : List (Json S N)} (h : items ≠ []) :
    (render σ (.arr items)).length + (44 :: σ.itemSpace).length =
      (items.map (itemSize σ)).sum + 2 := by
  have hne : renderItems σ items ≠ [] := by
    rw [renderItems_eq_map]
    simpa using h
  rw [render, length_bracketed 91 93 _ hne, renderItems_eq_map, List.map_map]
  rfl

omit [DecidableEq S] in
theorem length_render_obj (σ : Style S N) {fields : List (S × Json S N)} (h : fields ≠ []) :
    (render σ (.obj fields)).length + (44 :: σ.itemSpace).length =
      (fields.map (entrySize σ)).sum + 2 := by
  have hne : renderFields σ fields ≠ [] := by
    rw [renderFields_eq_map]
    simpa using h
  rw [render, length_bracketed 123 125 _ hne, renderFields_eq_map, List.map_map]
  rfl

/-- Reading shortens the text, unless it leaves the value as it is. -/
theorem length_render_collapse (σ : Style S N) (j : Json S N) :
    (render σ j.collapse).length ≤ (render σ j).length ∧
      ((render σ j).length ≤ (render σ j.collapse).length → j.collapse = j) := by
  induction j with
  | null | bool _ | num _ | str _ => exact ⟨le_rfl, fun _ => rfl⟩
  | arr items ih =>
    rw [collapse_arr]
    rcases eq_or_ne items [] with rfl | hne
    · exact ⟨le_rfl, fun _ => rfl⟩
    · have hlen := length_render_arr σ hne
      have hne' : items.map collapse ≠ [] := by simpa using hne
      have hlen' := length_render_arr σ hne'
      obtain ⟨hle, hkeep⟩ := sum_map_le (itemSize σ) collapse fun x hx =>
        ⟨Nat.add_le_add_right (ih x hx).1 _, fun h => (ih x hx).2 (Nat.le_of_add_le_add_right h)⟩
      exact ⟨by omega, fun h => by rw [hkeep (by omega)]⟩
  | obj fields ih =>
    rw [collapse_obj]
    rcases eq_or_ne fields [] with rfl | hne
    · exact ⟨le_rfl, fun _ => rfl⟩
    · have hvalues : ∀ f ∈ fields, entrySize σ (f.1, f.2.collapse) ≤ entrySize σ f ∧
          (entrySize σ f ≤ entrySize σ (f.1, f.2.collapse) → (f.1, f.2.collapse) = f) := by
        intro f hf
        obtain ⟨hle, hkeep⟩ := ih f hf
        simp only [entrySize, List.length_cons, List.length_append]
        exact ⟨by omega, fun h => by rw [hkeep (by omega)]⟩
      obtain ⟨hle, hkeep⟩ := sum_map_le (entrySize σ) (fun f => (f.1, f.2.collapse)) hvalues
      have hne' : fields.map (fun f => (f.1, f.2.collapse)) ≠ [] := by simpa using hne
      generalize fields.map (fun f => (f.1, f.2.collapse)) = entries at *
      obtain ⟨hdrop, hdropped⟩ := sum_ofEntries (entrySize σ) (fun f => by simp [entrySize]) entries
      have hlen := length_render_obj σ hne
      have hlen' := length_render_obj σ (ofEntries_ne_nil hne')
      exact ⟨by omega, fun h => by rw [hdropped (by omega), hkeep (by omega)]⟩

end Length

/-- A text that is read and written again with sorted keys is unchanged exactly where the keys of
every object ascend strictly. -/
theorem render_sortKeys_collapse_iff [LinearOrder S] [DecidableEq S] {σ : Style S N} {ρ : Reader S N}
    {goodStr : S → Prop} {goodNum : N → Prop} (hσ : σ.Lawful ρ goodStr goodNum) {j : Json S N}
    (hj : Writable goodStr goodNum j) : render σ j.collapse.sortKeys = render σ j ↔ Ascending j := by
  rw [ascending_iff]
  constructor
  · intro h
    have hread := parse_render hσ hj.collapse.sortKeys
    rw [h, parse_render_collapse hσ hj] at hread
    have hsorted : j.collapse.sortKeys = j.collapse := (Option.some.inj hread).symm
    rw [hsorted] at h
    have hkept : j.collapse = j := (length_render_collapse σ j).2 (by rw [h])
    rw [hkept] at hsorted
    exact ⟨hkept ▸ hj.collapse.imp (fun _ _ => trivial) fun _ _ => trivial, hsorted⟩
  · rintro ⟨hdistinct, hsorted⟩
    rw [hdistinct.collapse_eq, hsorted]

end Json
