import Counterparty.Library.Infix
import Counterparty.Library.JsonText

/-! The strings of a value, and the phrases that its text can contain. -/
namespace Json

open Infix

variable {S N : Type} {s : S} {j : Json S N}

/-- The string is a key or a string value, at any depth. -/
inductive Mentions (s : S) : Json S N → Prop
  | str : Mentions s (.str s)
  | item {items : List (Json S N)} {x : Json S N} : x ∈ items → Mentions s x → Mentions s (.arr items)
  | key {fields : List (S × Json S N)} {v : Json S N} : (s, v) ∈ fields → Mentions s (.obj fields)
  | value {fields : List (S × Json S N)} {f : S × Json S N} :
      f ∈ fields → Mentions s f.2 → Mentions s (.obj fields)

theorem mentions_arr {items : List (Json S N)} :
    Mentions s (.arr items) ↔ ∃ x ∈ items, Mentions s x := by
  constructor
  · intro h
    cases h with
    | item hx hs => exact ⟨_, hx, hs⟩
  · rintro ⟨x, hx, hs⟩
    exact .item hx hs

theorem mentions_obj {fields : List (S × Json S N)} :
    Mentions s (.obj fields) ↔ ∃ f ∈ fields, s = f.1 ∨ Mentions s f.2 := by
  constructor
  · intro h
    cases h with
    | key hf => exact ⟨_, hf, .inl rfl⟩
    | value hf hs => exact ⟨_, hf, .inr hs⟩
  · rintro ⟨f, hf, rfl | hs⟩
    · exact .key hf
    · exact .value hf hs

/-- Sorting keys loses no string and makes up none. -/
theorem mentions_sortKeys [LinearOrder S] : Mentions s j.sortKeys ↔ Mentions s j := by
  induction j with
  | null | bool | num | str => exact Iff.rfl
  | arr items ih =>
    rw [sortKeys_arr, mentions_arr, mentions_arr]
    simp only [List.mem_map, exists_exists_and_eq_and]
    exact exists_congr fun x => and_congr_right fun hx => ih x hx
  | obj fields ih =>
    rw [sortKeys_obj, mentions_obj, mentions_obj]
    simp only [List.mem_map, exists_exists_and_eq_and]
    refine exists_congr fun f => ?_
    rw [(perm_sortFields fields).mem_iff]
    exact and_congr_right fun hf => or_congr Iff.rfl (ih f hf)

/-! Rewriting the text of a value point by point. -/

/-- The style whose strings and numbers are rewritten. -/
def Style.rewrite (σ : Style S N) (f : ℕ → Text) : Style S N where
  itemSpace := σ.itemSpace
  keySpace := σ.keySpace
  stringBody s := (σ.stringBody s).flatMap f
  number x := (σ.number x).flatMap f

/-- Marks, spaces and the letters of `null`, `true` and `false` are kept. -/
structure Style.Kept (σ : Style S N) (f : ℕ → Text) : Prop where
  marks : ∀ c ∈ [34, 44, 58, 91, 93, 123, 125], f c = [c]
  words : ∀ w ∈ [codes "null", codes "true", codes "false"], w.flatMap f = w
  itemSpace : σ.itemSpace.flatMap f = σ.itemSpace
  keySpace : σ.keySpace.flatMap f = σ.keySpace

theorem flatMap_intercalate {α : Type} (f : α → List α) (sep : List α) (texts : List (List α)) :
    (sep.intercalate texts).flatMap f =
      (sep.flatMap f).intercalate (texts.map fun t => t.flatMap f) := by
  induction texts with
  | nil => rfl
  | cons text texts ih =>
    cases texts with
    | nil => simp
    | cons text' texts =>
      rw [List.intercalate_cons_cons, List.flatMap_append, List.flatMap_append, ih]
      simp only [List.map_cons, List.intercalate_cons_cons]

theorem flatMap_render {σ : Style S N} {f : ℕ → Text} (h : σ.Kept f) (j : Json S N) :
    (render σ j).flatMap f = render (σ.rewrite f) j := by
  have hmark (c : ℕ) (hc : c ∈ [34, 44, 58, 91, 93, 123, 125]) (t : Text) :
      (c :: t).flatMap f = c :: t.flatMap f := by
    rw [List.flatMap_cons, h.marks c hc, List.singleton_append]
  induction j with
  | null => exact h.words _ (by simp [render])
  | bool b => cases b <;> exact h.words _ (by simp [render])
  | num x => rfl
  | str s => exact hmark 34 (by decide) _
  | arr items ih =>
    have hitems : (items.map (render σ)).map (fun t => t.flatMap f) =
        items.map (render (σ.rewrite f)) := by
      rw [List.map_map]
      exact List.map_congr_left ih
    rw [render, render, renderItems_eq_map, renderItems_eq_map, hmark 91 (by decide),
      List.flatMap_append, flatMap_intercalate, hmark 44 (by decide), hmark 93 (by decide),
      h.itemSpace, hitems]
    rfl
  | obj fields ih =>
    have hfields : (renderFields σ fields).map (fun t => t.flatMap f) =
        renderFields (σ.rewrite f) fields := by
      rw [renderFields_eq_map, renderFields_eq_map, List.map_map]
      refine List.map_congr_left fun g hg => ?_
      rw [Function.comp_apply, hmark 34 (by decide), List.flatMap_append, hmark 58 (by decide),
        List.flatMap_append, h.keySpace, ih g hg]
      rfl
    rw [render, render, hmark 123 (by decide), List.flatMap_append, flatMap_intercalate,
      hmark 44 (by decide), hmark 125 (by decide), h.itemSpace, hfields]
    rfl

/-- The points of a text are those of its marks, words, strings and numbers. -/
theorem forall_mem_render {σ : Style S N} {p : ℕ → Bool}
    (h : σ.Kept fun c => if p c then [c] else []) (hstr : ∀ s, ∀ c ∈ σ.stringBody s, p c)
    (hnum : ∀ x, ∀ c ∈ σ.number x, p c) (j : Json S N) : ∀ c ∈ render σ j, p c := by
  have hfilter (t : Text) : (t.flatMap fun c => if p c then [c] else []) = t.filter p := by
    induction t with
    | nil => rfl
    | cons c t ih => cases hc : p c <;> simp [hc, ih]
  have hsame : σ.rewrite (fun c => if p c then [c] else []) = σ := by
    unfold Style.rewrite
    simp only [hfilter, List.filter_eq_self.2 (hstr _), List.filter_eq_self.2 (hnum _)]
  have hkept := flatMap_render h j
  rw [hsame, hfilter] at hkept
  exact List.filter_eq_self.1 hkept

/-! Phrases. -/

/-- What a phrase must be like to be found in strings only. -/
structure Phrase (σ : Style S N) (c : ℕ) (word : Text) : Prop where
  marks : ∀ d ∈ [34, 44, 58, 91, 93, 123, 125], d ∉ c :: word
  itemSpace : c ∉ σ.itemSpace
  keySpace : c ∉ σ.keySpace
  words : ∀ w ∈ [codes "null", codes "true", codes "false"], ¬c :: word <:+: w
  number : ∀ x, ¬c :: word <:+: σ.number x

/-- A phrase stands in the text of a value just when it stands in the text of one of its strings. -/
theorem infix_render_iff {σ : Style S N} {c : ℕ} {word : Text} (h : Phrase σ c word)
    (j : Json S N) :
    c :: word <:+: render σ j ↔ ∃ s, j.Mentions s ∧ c :: word <:+: σ.stringBody s := by
  have hne : c :: word ≠ [] := List.cons_ne_nil c word
  have hmark (d : ℕ) (hd : d ∈ [34, 44, 58, 91, 93, 123, 125]) (t : Text) :
      c :: word <:+: d :: t ↔ c :: word <:+: t := infix_cons_iff hne (h.marks d hd)
  have hend (d : ℕ) (hd : d ∈ [34, 44, 58, 91, 93, 123, 125]) (t : Text) :
      c :: word <:+: t ++ [d] ↔ c :: word <:+: t := by
    rw [infix_append_cons_iff (h.marks d hd)]
    simp
  have hjoin (texts : List Text) : c :: word <:+: (44 :: σ.itemSpace).intercalate texts ↔
      ∃ text ∈ texts, c :: word <:+: text :=
    infix_intercalate_iff hne (h.marks 44 (by decide)) fun _ => infix_append_iff_of_head h.itemSpace
  induction j with
  | null =>
    constructor
    · exact fun hw => absurd hw (h.words _ (by simp [render]))
    · rintro ⟨_, hs, -⟩
      cases hs
  | bool b =>
    constructor
    · intro hw
      cases b <;> exact absurd hw (h.words _ (by simp [render]))
    · rintro ⟨_, hs, -⟩
      cases hs
  | num x =>
    constructor
    · exact fun hw => absurd hw (h.number x)
    · rintro ⟨_, hs, -⟩
      cases hs
  | str s =>
    rw [render, hmark 34 (by decide)]
    constructor
    · exact fun hw => ⟨s, .str, hw⟩
    · rintro ⟨t, ht, hw⟩
      cases ht
      exact hw
  | arr items ih =>
    rw [render, hmark 91 (by decide), hend 93 (by decide), hjoin, renderItems_eq_map]
    simp only [mentions_arr, List.mem_map, exists_exists_and_eq_and]
    constructor
    · rintro ⟨x, hx, hw⟩
      obtain ⟨s, hs, hw⟩ := (ih x hx).1 hw
      exact ⟨s, ⟨x, hx, hs⟩, hw⟩
    · rintro ⟨s, ⟨x, hx, hs⟩, hw⟩
      exact ⟨x, hx, (ih x hx).2 ⟨s, hs, hw⟩⟩
  | obj fields ih =>
    have hfield (f : S × Json S N) :
        c :: word <:+: 34 :: (σ.stringBody f.1 ++ 58 :: (σ.keySpace ++ render σ f.2)) ↔
          c :: word <:+: σ.stringBody f.1 ∨ c :: word <:+: render σ f.2 := by
      rw [hmark 34 (by decide), infix_append_cons_iff (h.marks 58 (by decide)),
        infix_append_iff_of_head h.keySpace]
    rw [render, hmark 123 (by decide), hend 125 (by decide), hjoin, renderFields_eq_map]
    simp only [mentions_obj, List.mem_map, exists_exists_and_eq_and, hfield]
    constructor
    · rintro ⟨f, hf, hw | hw⟩
      · exact ⟨f.1, ⟨f, hf, .inl rfl⟩, hw⟩
      · obtain ⟨s, hs, hw⟩ := (ih f hf).1 hw
        exact ⟨s, ⟨f, hf, .inr hs⟩, hw⟩
    · rintro ⟨s, ⟨f, hf, rfl | hs⟩, hw⟩
      · exact ⟨f, hf, .inl hw⟩
      · exact ⟨f, hf, .inr ((ih f hf).2 ⟨s, hs, hw⟩)⟩

end Json
