import Counterparty.Library.JsonText

/-! Equality of JSON values up to the order of keys, and sorted keys as its normal form. -/
namespace Json

variable {S N : Type}

/-- The same but for the order in which the keys of objects are listed. -/
inductive SameUpToOrder : Json S N → Json S N → Prop
  | null : SameUpToOrder .null .null
  | bool (b : Bool) : SameUpToOrder (.bool b) (.bool b)
  | num (x : N) : SameUpToOrder (.num x) (.num x)
  | str (s : S) : SameUpToOrder (.str s) (.str s)
  | arr {items items' : List (Json S N)} : items.length = items'.length →
      (∀ p ∈ items.zip items', SameUpToOrder p.1 p.2) → SameUpToOrder (.arr items) (.arr items')
  | obj {fields fields' : List (S × Json S N)} :
      (fields.map Prod.fst).Perm (fields'.map Prod.fst) →
      (∀ k v v', (k, v) ∈ fields → (k, v') ∈ fields' → SameUpToOrder v v') →
      SameUpToOrder (.obj fields) (.obj fields')

/-- Entries with distinct keys, sorted by them, depend on nothing but what the entries are. -/
theorem sortFields_eq_of_mem_iff [LinearOrder S] {V : Type} {fields fields' : List (S × V)}
    (h : (fields.map Prod.fst).Nodup) (h' : (fields'.map Prod.fst).Nodup)
    (hmem : ∀ f, f ∈ fields ↔ f ∈ fields') : sortFields fields = sortFields fields' := by
  have : Std.Total fun f g : S × V => f.1 ≤ g.1 := ⟨fun f g => le_total f.1 g.1⟩
  have : IsTrans (S × V) fun f g => f.1 ≤ g.1 := ⟨fun _ _ _ h h' => le_trans h h'⟩
  have hp : fields.Perm fields' :=
    (List.perm_ext_iff_of_nodup h.of_map h'.of_map).2 hmem
  have hsorted (l : List (S × V)) : (sortFields l).Pairwise fun f g => f.1 ≤ g.1 :=
    List.pairwise_insertionSort _ _
  refine List.Perm.eq_of_pairwise ?_ (hsorted fields) (hsorted fields')
    ((perm_sortFields fields).trans (hp.trans (perm_sortFields fields').symm))
  intro f g hf hg hfg hgf
  exact List.inj_on_of_nodup_map h ((perm_sortFields fields).mem_iff.1 hf)
    (hp.mem_iff.2 ((perm_sortFields fields').mem_iff.1 hg)) (le_antisymm hfg hgf)

theorem map_fst_map_snd {V W : Type} (g : V → W) (fields : List (S × V)) :
    (fields.map fun f => (f.1, g f.2)).map Prod.fst = fields.map Prod.fst := by
  rw [List.map_map]
  rfl

variable [LinearOrder S] {j j' : Json S N}

theorem SameUpToOrder.sortKeys_eq (h : SameUpToOrder j j') (hj : DistinctKeys j)
    (hj' : DistinctKeys j') : j.sortKeys = j'.sortKeys := by
  induction h with
  | null | bool _ | num _ | str _ => rfl
  | @arr items items' hlen _ ih =>
    cases hj with
    | arr hitems =>
      cases hj' with
      | arr hitems' =>
        rw [sortKeys_arr, sortKeys_arr]
        congr 1
        refine List.ext_getElem (by simpa using hlen) fun i hi hi' => ?_
        simp only [List.length_map] at hi hi'
        rw [List.getElem_map, List.getElem_map]
        have hzip : (items[i], items'[i]) ∈ items.zip items' := by
          rw [← List.getElem_zip (h := by simp [hi, hi'])]
          exact List.getElem_mem _
        exact ih _ hzip (hitems _ (List.getElem_mem hi)) (hitems' _ (List.getElem_mem hi'))
  | @obj fields fields' hkeys _ ih =>
    cases hj with
    | obj hnd _ hfields =>
      cases hj' with
      | obj hnd' _ hfields' =>
        have hone : ∀ (fs gs : List (S × Json S N)),
            (fs.map Prod.fst).Perm (gs.map Prod.fst) →
            (∀ k v w, (k, v) ∈ fs → (k, w) ∈ gs → v.sortKeys = w.sortKeys) →
            ∀ f, f ∈ fs.map (fun f => (f.1, f.2.sortKeys)) →
              f ∈ gs.map fun f => (f.1, f.2.sortKeys) := by
          intro fs gs hperm hvalues f hf
          obtain ⟨⟨k, v⟩, hv, rfl⟩ := List.mem_map.1 hf
          obtain ⟨⟨k', w⟩, hw, hk⟩ := List.mem_map.1 (hperm.mem_iff.1 (List.mem_map_of_mem hv))
          cases hk
          exact List.mem_map.2 ⟨(k, w), hw, by rw [hvalues k v w hv hw]⟩
        have hvalues : ∀ k v w, (k, v) ∈ fields → (k, w) ∈ fields' → v.sortKeys = w.sortKeys :=
          fun k v w hv hw => ih k v w hv hw (hfields _ hv) (hfields' _ hw)
        rw [sortKeys_obj, sortKeys_obj, ← sortFields_map, ← sortFields_map]
        congr 1
        refine sortFields_eq_of_mem_iff ?_ ?_ fun f => ⟨hone _ _ hkeys hvalues f, ?_⟩
        · rwa [map_fst_map_snd]
        · rwa [map_fst_map_snd]
        · exact hone _ _ hkeys.symm (fun k v w hv hw => (hvalues k w v hw hv).symm) f

theorem sameUpToOrder_of_sortKeys_eq (hj : DistinctKeys j) (hj' : DistinctKeys j')
    (h : j.sortKeys = j'.sortKeys) : SameUpToOrder j j' := by
  induction j generalizing j' with
  | null => cases j' <;> cases h; exact .null
  | bool b => cases j' <;> cases h; exact .bool b
  | num x => cases j' <;> cases h; exact .num x
  | str s => cases j' <;> cases h; exact .str s
  | arr items ih =>
    cases j' with
    | arr items' =>
      rw [sortKeys_arr, sortKeys_arr, arr.injEq] at h
      cases hj with
      | arr hitems =>
        cases hj' with
        | arr hitems' =>
          refine .arr (by simpa using congrArg List.length h) ?_
          rintro ⟨x, y⟩ hxy
          obtain ⟨i, hi, hget⟩ := List.getElem_of_mem hxy
          rw [List.getElem_zip, Prod.mk.injEq] at hget
          obtain ⟨rfl, rfl⟩ := hget
          rw [List.length_zip, lt_min_iff] at hi
          refine ih _ (List.getElem_mem hi.1) (hitems _ (List.getElem_mem hi.1))
            (hitems' _ (List.getElem_mem hi.2)) ?_
          have hsame := List.getElem_of_eq h (i := i) (by simpa using hi.1)
          simpa using hsame
    | _ => rw [sortKeys_arr] at h; cases h
  | obj fields ih =>
    cases j' with
    | obj fields' =>
      cases hj with
      | obj hnd _ hfields =>
        cases hj' with
        | obj hnd' _ hfields' =>
          refine .obj ?_ fun k v v' hv hv' => ?_
          · have hkeys := congrArg (List.map Prod.fst) (obj.inj (by simpa only [sortKeys_obj] using h))
            rw [map_fst_map_snd, map_fst_map_snd] at hkeys
            exact ((perm_sortFields fields).map Prod.fst).symm.trans
              (hkeys ▸ (perm_sortFields fields').map Prod.fst)
          · exact ih (k, v) hv (hfields _ hv) (hfields' _ hv') (sortKeys_eq_of_obj h hnd' hv hv')
    | _ => rw [sortKeys_obj] at h; cases h

/-- Sorting the keys tells apart what differs in more than the order of keys, and nothing else. -/
theorem sameUpToOrder_iff (hj : DistinctKeys j) (hj' : DistinctKeys j') :
    SameUpToOrder j j' ↔ j.sortKeys = j'.sortKeys :=
  ⟨fun h => h.sortKeys_eq hj hj', sameUpToOrder_of_sortKeys_eq hj hj'⟩

end Json
