import Counterparty.Library.JsonText

/-! JSON values carried over to other strings and numbers, and the records that objects have to fit. -/
namespace Json

variable {S S' N N' : Type}

section Translate

mutual

/-- Other strings for the strings and other values for the numbers. -/
def translate (f : S → S') (g : N → Json S' N') : Json S N → Json S' N'
  | .null => .null
  | .bool b => .bool b
  | .num x => g x
  | .str s => .str (f s)
  | .arr items => .arr (translateItems f g items)
  | .obj fields => .obj (translateFields f g fields)

def translateItems (f : S → S') (g : N → Json S' N') : List (Json S N) → List (Json S' N')
  | [] => []
  | x :: items => translate f g x :: translateItems f g items

def translateFields (f : S → S') (g : N → Json S' N') :
    List (S × Json S N) → List (S' × Json S' N')
  | [] => []
  | (k, v) :: fields => (f k, translate f g v) :: translateFields f g fields

end

variable {f : S → S'} {g : N → Json S' N'}

theorem translateItems_eq_map (items : List (Json S N)) :
    translateItems f g items = items.map (translate f g) := by
  induction items with
  | nil => rfl
  | cons x items ih => simp [translateItems, ih]

theorem translateFields_eq_map (fields : List (S × Json S N)) :
    translateFields f g fields = fields.map fun e => (f e.1, translate f g e.2) := by
  induction fields with
  | nil => rfl
  | cons e fields ih => simp [translateFields, ih]

@[simp] theorem translate_arr (items : List (Json S N)) :
    translate f g (.arr items) = .arr (items.map (translate f g)) := by
  rw [translate, translateItems_eq_map]

@[simp] theorem translate_obj (fields : List (S × Json S N)) :
    translate f g (.obj fields) = .obj (fields.map fun e => (f e.1, translate f g e.2)) := by
  rw [translate, translateFields_eq_map]

/-- Keys that were told apart still are. -/
theorem Readable.translate {goodStr : S → Prop} {goodStr' : S' → Prop} {goodNum : N → Prop}
    {goodNum' : N' → Prop} {j : Json S N} (h : Readable goodStr goodNum j)
    (hf : Function.Injective f) (hstr : ∀ s, goodStr s → goodStr' (f s))
    (hnum : ∀ x, goodNum x → Readable goodStr' goodNum' (g x)) :
    Readable goodStr' goodNum' (j.translate f g) := by
  induction h with
  | null => exact .null
  | bool b => exact .bool b
  | num hx => exact hnum _ hx
  | str hs => exact .str (hstr _ hs)
  | arr _ ih =>
    rw [translate_arr]
    refine .arr fun x hx => ?_
    obtain ⟨y, hy, rfl⟩ := List.mem_map.1 hx
    exact ih y hy
  | @obj fields hnd hkeys _ ih =>
    rw [translate_obj]
    refine .obj ?_ ?_ ?_
    · have hmap : (fields.map fun e => (f e.1, e.2.translate f g)).map Prod.fst =
          (fields.map Prod.fst).map f := by simp
      rw [hmap]
      exact hnd.map hf
    · intro e he
      obtain ⟨d, hd, rfl⟩ := List.mem_map.1 he
      exact hstr _ (hkeys d hd)
    · intro e he
      obtain ⟨d, hd, rfl⟩ := List.mem_map.1 he
      exact ih d hd

/-- Two styles that agree on strings and numbers write one text. -/
theorem render_translate {σ : Style S N} {σ' : Style S' N'}
    (hstr : ∀ s, σ'.stringBody (f s) = σ.stringBody s)
    (hnum : ∀ x, render σ' (g x) = σ.number x) (hitem : σ'.itemSpace = σ.itemSpace)
    (hkey : σ'.keySpace = σ.keySpace) (j : Json S N) :
    render σ' (j.translate f g) = render σ j := by
  induction j with
  | null => rfl
  | bool b => cases b <;> rfl
  | num x => exact hnum x
  | str s => simp only [translate, render, hstr]
  | arr items ih =>
    have hitems : items.map (render σ' ∘ translate f g) = items.map (render σ) :=
      List.map_congr_left ih
    rw [translate_arr, render, render, renderItems_eq_map, renderItems_eq_map, List.map_map, hitems,
      hitem]
  | obj fields ih =>
    have hfields : ∀ fields : List (S × Json S N),
        (∀ e ∈ fields, render σ' (e.2.translate f g) = render σ e.2) →
        renderFields σ' (fields.map fun e => (f e.1, e.2.translate f g)) = renderFields σ fields := by
      intro fields h
      induction fields with
      | nil => rfl
      | cons e fields ih =>
        simp only [List.map_cons, renderFields, hstr, hkey, h e List.mem_cons_self,
          ih fun d hd => h d (List.mem_cons_of_mem _ hd)]
    rw [translate_obj, render, render, hfields fields ih, hitem]

theorem lookup_translate [BEq S] [LawfulBEq S] [BEq S'] [LawfulBEq S'] (hf : Function.Injective f)
    (k : S) (fields : List (S × Json S N)) :
    (fields.map fun e => (f e.1, translate f g e.2)).lookup (f k) =
      (fields.lookup k).map (translate f g) := by
  induction fields with
  | nil => rfl
  | cons e fields ih =>
    have hkey : (f k == f e.1) = (k == e.1) := by
      rw [Bool.eq_iff_iff, beq_iff_eq, beq_iff_eq, hf.eq_iff]
    rw [List.map_cons, List.lookup_cons, List.lookup_cons, hkey]
    split
    · rfl
    · exact ih

end Translate

/-! Records. -/

/-- A key of a record: whether an object can do without it, and the values it takes. -/
structure Member (S N : Type) where
  key : S
  required : Bool
  takes : Json S N → Bool

section Record

variable [BEq S]

def Member.fits (member : Member S N) (entries : List (S × Json S N)) : Bool :=
  match entries.lookup member.key with
  | some j => member.takes j
  | none => !member.required

/-- An object with the keys of the record and no others. -/
def fits (members : List (Member S N)) : Json S N → Bool
  | .obj entries =>
    entries.all (fun e => members.any fun member => member.key == e.1) &&
      members.all fun member => member.fits entries
  | _ => false

variable {members : List (Member S N)} {entries : List (S × Json S N)} {member : Member S N}

theorem Member.fits_required (h : member.required = true) :
    member.fits entries ↔ ∃ j, entries.lookup member.key = some j ∧ member.takes j := by
  rw [Member.fits]
  cases entries.lookup member.key <;> simp [h]

theorem Member.fits_optional (h : member.required = false) :
    member.fits entries ↔ ∀ j, entries.lookup member.key = some j → member.takes j := by
  rw [Member.fits]
  cases entries.lookup member.key <;> simp [h]

theorem fits_obj [LawfulBEq S] : fits members (.obj entries) ↔
    (∀ e ∈ entries, e.1 ∈ members.map Member.key) ∧ ∀ member ∈ members, member.fits entries := by
  simp only [fits, Bool.and_eq_true, List.all_eq_true, List.any_eq_true, beq_iff_eq, List.mem_map]

theorem exists_of_fits {j : Json S N} (h : fits members j) : ∃ entries, j = .obj entries := by
  cases j with
  | obj entries => exact ⟨entries, rfl⟩
  | null | bool _ | num _ | str _ | arr _ => cases h

end Record

end Json
