import Mathlib.Data.List.Basic
import Mathlib.Data.List.Infix

/-! Words inside longer lists, and the separators that a word cannot lie across. -/
namespace Infix

variable {α β : Type} {c : α} {word before after sep : List α}

/-- A word without the separator lies on one side of it. -/
theorem infix_append_cons_iff (h : c ∉ word) :
    word <:+: before ++ c :: after ↔ word <:+: before ∨ word <:+: after := by
  constructor
  · rintro ⟨s, t, heq⟩
    rw [List.append_assoc] at heq
    rcases List.append_eq_append_iff.1 heq with ⟨a, rfl, hrest⟩ | ⟨a, rfl, hrest⟩
    · rcases List.append_eq_append_iff.1 hrest with ⟨b, rfl, -⟩ | ⟨b, rfl, hb⟩
      · exact .inl ⟨s, b, by simp⟩
      · cases b with
        | nil => exact .inl ⟨s, [], by simp⟩
        | cons d b =>
          cases (List.cons.inj hb).1
          exact absurd (by simp) h
    · cases a with
      | nil =>
        cases word with
        | nil => exact .inl (List.nil_infix)
        | cons d word =>
          cases (List.cons.inj hrest).1
          exact absurd (by simp) h
      | cons d a =>
        cases hrest
        exact .inr ⟨a, t, by simp⟩
  · rintro (h | h)
    · exact h.trans (List.prefix_append _ _).isInfix
    · exact h.trans ((List.suffix_cons c after).trans (List.suffix_append before _)).isInfix

theorem infix_cons_iff (hne : word ≠ []) (h : c ∉ word) : word <:+: c :: after ↔ word <:+: after := by
  have hsplit : word <:+: [] ++ c :: after ↔ word <:+: [] ∨ word <:+: after :=
    infix_append_cons_iff h
  simpa [hne] using hsplit

theorem infix_append_iff_right (hne : word ≠ []) (h : ∀ c ∈ sep, c ∉ word) :
    word <:+: sep ++ after ↔ word <:+: after := by
  induction sep with
  | nil => rfl
  | cons c sep ih =>
    rw [List.cons_append, infix_cons_iff hne (h c List.mem_cons_self)]
    exact ih fun d hd => h d (List.mem_cons_of_mem _ hd)

/-- A word cannot lie across a block that shares no member with it. -/
theorem infix_append_append_iff (hne : word ≠ []) (hsep : sep ≠ []) (h : ∀ c ∈ sep, c ∉ word) :
    word <:+: before ++ (sep ++ after) ↔ word <:+: before ∨ word <:+: after := by
  obtain ⟨c, sep, rfl⟩ := List.exists_cons_of_ne_nil hsep
  rw [List.cons_append, infix_append_cons_iff (h c List.mem_cons_self),
    infix_append_iff_right hne fun d hd => h d (List.mem_cons_of_mem _ hd)]

/-- What does not hold a word's first member can stand before it only. -/
theorem infix_append_iff_of_head (h : c ∉ sep) :
    c :: word <:+: sep ++ after ↔ c :: word <:+: after := by
  induction sep with
  | nil => rfl
  | cons d sep ih =>
    obtain ⟨hd, hsep⟩ := not_or.1 (mt List.mem_cons.2 h)
    rw [List.cons_append, List.infix_cons_iff, ih hsep]
    refine or_iff_right fun hprefix => ?_
    obtain ⟨t, ht⟩ := hprefix
    exact hd (List.cons.inj ht).1

theorem infix_intercalate_iff {texts : List (List α)} (hne : word ≠ []) (hc : c ∉ word)
    (hsep : ∀ after, word <:+: sep ++ after ↔ word <:+: after) :
    word <:+: (c :: sep).intercalate texts ↔ ∃ text ∈ texts, word <:+: text := by
  induction texts with
  | nil => simp [hne]
  | cons text texts ih =>
    cases texts with
    | nil => simp
    | cons text' texts =>
      rw [List.intercalate_cons_cons, List.append_assoc, List.cons_append,
        infix_append_cons_iff hc, hsep, ih]
      exact (List.exists_mem_cons_iff (fun t => word <:+: t) text (text' :: texts)).symm

/-- A word of one expansion is a word of the other, where they part only in blocks that share
nothing with the word. -/
theorem infix_flatMap {word : List β} {f g : α → List β} {l : List α} (hne : word ≠ [])
    (h : ∀ a ∈ l, g a = f a ∨ f a ≠ [] ∧ ∀ c ∈ f a, c ∉ word) (hword : word <:+: l.flatMap f) :
    word <:+: l.flatMap g := by
  suffices hbefore : ∀ before : List β, word <:+: before ++ l.flatMap f →
      word <:+: before ++ l.flatMap g from hbefore [] hword
  clear hword
  induction l with
  | nil => exact fun before hword => hword
  | cons a l ih =>
    intro before hword
    have hrest := ih fun b hb => h b (List.mem_cons_of_mem _ hb)
    rw [List.flatMap_cons] at hword ⊢
    rcases h a List.mem_cons_self with hsame | ⟨hblock, hfree⟩
    · rw [hsame, ← List.append_assoc]
      exact hrest _ (by rwa [List.append_assoc])
    · rcases (infix_append_append_iff hne hblock hfree).1 hword with hleft | hright
      · exact hleft.trans (List.prefix_append _ _).isInfix
      · exact (hrest [] hright).trans
          ((List.suffix_append _ _).trans (List.suffix_append _ _)).isInfix

end Infix
