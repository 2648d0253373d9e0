import Counterparty.Library.Json

/-! Values whose objects may repeat a key, and what is left of them when they are read. -/
namespace Json

variable {S N : Type}

/-- Values that can be written: strings and numbers as described, the keys however they come. -/
inductive Writable (goodStr : S → Prop) (goodNum : N → Prop) : Json S N → Prop
  | null : Writable goodStr goodNum .null
  | bool (b : Bool) : Writable goodStr goodNum (.bool b)
  | num {x : N} : goodNum x → Writable goodStr goodNum (.num x)
  | str {s : S} : goodStr s → Writable goodStr goodNum (.str s)
  | arr {items : List (Json S N)} :
      (∀ x ∈ items, Writable goodStr goodNum x) → Writable goodStr goodNum (.arr items)
  | obj {fields : List (S × Json S N)} : (∀ f ∈ fields, goodStr f.1) →
      (∀ f ∈ fields, Writable goodStr goodNum f.2) → Writable goodStr goodNum (.obj fields)

theorem Readable.writable {goodStr : S → Prop} {goodNum : N → Prop} {j : Json S N}
    (h : Readable goodStr goodNum j) : Writable goodStr goodNum j := by
  induction h with
  | null => exact .null
  | bool b => exact .bool b
  | num hx => exact .num hx
  | str hs => exact .str hs
  | arr _ ih => exact .arr ih
  | obj _ hkeys _ ih => exact .obj hkeys ih

/-- Strings may be replaced by ones that can be written. -/
theorem writable_mapStr {T : Type} {goodStr : T → Prop} {f : S → T} (hf : ∀ s, goodStr (f s))
    (j : Json S N) : (j.mapStr f).Writable goodStr fun _ => True := by
  induction j with
  | null => exact .null
  | bool b => exact .bool b
  | num x => exact .num trivial
  | str s => exact .str (hf s)
  | arr items ih =>
    rw [mapStr_arr]
    refine .arr fun x hx => ?_
    obtain ⟨y, hy, rfl⟩ := List.mem_map.1 hx
    exact ih y hy
  | obj fields ih =>
    rw [mapStr_obj]
    refine .obj ?_ ?_
    · intro e he
      obtain ⟨d, -, rfl⟩ := List.mem_map.1 he
      exact hf d.1
    · intro e he
      obtain ⟨d, hd, rfl⟩ := List.mem_map.1 he
      exact ih d hd

theorem Readable.mapStr_eq {goodStr : S → Prop} {goodNum : N → Prop} {f : S → S} {j : Json S N}
    (h : Readable goodStr goodNum j) (hf : ∀ s, goodStr s → f s = s) : j.mapStr f = j := by
  induction h with
  | null | bool _ | num _ => rfl
  | str hs => rw [mapStr, hf _ hs]
  | arr _ ih => rw [mapStr_arr, List.map_congr_left ih, List.map_id']
  | @obj fields _ hkeys _ ih =>
    have hfields : fields.map (fun e => (f e.1, e.2.mapStr f)) = fields.map id :=
      List.map_congr_left fun e he => by rw [hf _ (hkeys e he), ih e he, id]
    rw [mapStr_obj, hfields, List.map_id]

section Collapse

variable [DecidableEq S]

mutual

/-- Every object keeps the last entry under each key, where the first one stood. -/
def collapse : Json S N → Json S N
  | .null => .null
  | .bool b => .bool b
  | .num x => .num x
  | .str s => .str s
  | .arr items => .arr (collapseItems items)
  | .obj fields => .obj (ofEntries (collapseFields fields))

def collapseItems : List (Json S N) → List (Json S N)
  | [] => []
  | x :: items => collapse x :: collapseItems items

def collapseFields : List (S × Json S N) → List (S × Json S N)
  | [] => []
  | (k, v) :: fields => (k, collapse v) :: collapseFields fields

end

theorem collapseItems_eq_map (items : List (Json S N)) :
    collapseItems items = items.map collapse := by
  induction items with
  | nil => rfl
  | cons x items ih => simp [collapseItems, ih]

theorem collapseFields_eq_map (fields : List (S × Json S N)) :
    collapseFields fields = fields.map fun f => (f.1, collapse f.2) := by
  induction fields with
  | nil => rfl
  | cons f fields ih => simp [collapseFields, ih]

@[simp] theorem collapse_arr (items : List (Json S N)) :
    collapse (.arr items) = .arr (items.map collapse) := by
  rw [collapse, collapseItems_eq_map]

@[simp] theorem collapse_obj (fields : List (S × Json S N)) :
    collapse (.obj fields) = .obj (ofEntries (fields.map fun f => (f.1, collapse f.2))) := by
  rw [collapse, collapseFields_eq_map]

variable {goodStr : S → Prop} {goodNum : N → Prop} {j : Json S N}

/-- No object is left that repeats a key. -/
theorem Writable.collapse (h : Writable goodStr goodNum j) : Readable goodStr goodNum j.collapse := by
  induction h with
  | null => exact .null
  | bool b => exact .bool b
  | num hx => exact .num hx
  | str hs => exact .str hs
  | arr _ ih =>
    rw [collapse_arr]
    refine .arr fun x hx => ?_
    obtain ⟨y, hy, rfl⟩ := List.mem_map.1 hx
    exact ih y hy
  | obj hkeys _ ih =>
    rw [collapse_obj]
    refine .obj (nodup_ofEntries _) ?_ ?_
    · intro f hf
      obtain ⟨g, hg, rfl⟩ := List.mem_map.1 (mem_of_mem_ofEntries hf)
      exact hkeys g hg
    · intro f hf
      obtain ⟨g, hg, rfl⟩ := List.mem_map.1 (mem_of_mem_ofEntries hf)
      exact ih g hg

/-- A value that repeats no key is left as it is. -/
theorem Readable.collapse_eq (h : Readable goodStr goodNum j) : j.collapse = j := by
  induction h with
  | null | bool _ | num _ | str _ => rfl
  | arr _ ih =>
    rw [collapse_arr, List.map_congr_left ih, List.map_id']
  | @obj fields hnd _ _ ih =>
    have hvalues : fields.map (fun f => (f.1, f.2.collapse)) = fields.map id :=
      List.map_congr_left fun f hf => by rw [ih f hf, id]
    rw [collapse_obj, hvalues, List.map_id, ofEntries_of_nodup hnd]

end Collapse

end Json
