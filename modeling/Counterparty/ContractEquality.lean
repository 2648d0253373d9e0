import Counterparty.VerificationSpec

/-! A delivery contract written twice: the `eq` of an assertion against the `const` of a schema. -/
namespace Counterparty

open Json

variable {J : JsonSchema} {output actual v a b x y : PyJson} {xs ys : List PyJson}
  {fs gs : List (PyStr × PyJson)}

/-! JSON values. -/

/-- A JSON document: no object repeats a key, and every number has a value. -/
abbrev IsJson (j : PyJson) : Prop := j.Readable (fun _ => True) fun x => x.value.isSome = true

mutual

/-- Equality of JSON values: numbers by value, booleans never equal to numbers. -/
def jsonEq : PyJson → PyJson → Bool
  | .null, .null => true
  | .bool b, .bool c => b = c
  | .num x, .num y => x.value == y.value
  | .str s, .str t => s = t
  | .arr xs, .arr ys => jsonItemsEq xs ys
  | .obj fs, .obj gs => fs.length = gs.length && jsonFieldsEq fs gs
  | _, _ => false

def jsonItemsEq : List PyJson → List PyJson → Bool
  | [], [] => true
  | x :: xs, y :: ys => jsonEq x y && jsonItemsEq xs ys
  | _, _ => false

def jsonFieldsEq : List (PyStr × PyJson) → List (PyStr × PyJson) → Bool
  | [], _ => true
  | (k, x) :: fs, gs => (gs.lookup k).any (jsonEq x ·) && jsonFieldsEq fs gs

end

/-- Somewhere in the two values one has a boolean where the other has a number. -/
inductive Mixed : PyJson → PyJson → Prop
  | boolean (b : Bool) (x : PyNumber) : Mixed (.bool b) (.num x)
  | number (x : PyNumber) (b : Bool) : Mixed (.num x) (.bool b)
  | item {xs ys : List PyJson} {i : ℕ} {x y : PyJson} :
      xs[i]? = some x → ys[i]? = some y → Mixed x y → Mixed (.arr xs) (.arr ys)
  | member {fs gs : List (PyStr × PyJson)} {k : PyStr} {x y : PyJson} :
      fs.lookup k = some x → gs.lookup k = some y → Mixed x y → Mixed (.obj fs) (.obj gs)

mutual

/-- The value with `false` and `true` read as zero and one. -/
def unbool : PyJson → PyJson
  | .bool b => .num (.int (if b then 1 else 0))
  | .arr xs => .arr (unboolItems xs)
  | .obj fs => .obj (unboolFields fs)
  | j => j

def unboolItems : List PyJson → List PyJson
  | [] => []
  | x :: xs => unbool x :: unboolItems xs

def unboolFields : List (PyStr × PyJson) → List (PyStr × PyJson)
  | [] => []
  | (k, x) :: fs => (k, unbool x) :: unboolFields fs

end

theorem unbool_arr (xs : List PyJson) : unbool (.arr xs) = .arr (xs.map unbool) := by
  rw [unbool]
  congr 1
  induction xs with
  | nil => rfl
  | cons x xs ih => rw [unboolItems, ih, List.map_cons]

theorem unbool_obj (fs : List (PyStr × PyJson)) :
    unbool (.obj fs) = .obj (fs.map fun f => (f.1, unbool f.2)) := by
  rw [unbool]
  congr 1
  induction fs with
  | nil => rfl
  | cons f fs ih => rw [unboolFields, ih, List.map_cons]

/-! Equality, container by container. -/

theorem jsonEq_arr : jsonEq (.arr xs) (.arr ys) = true ↔
    List.Forall₂ (fun x y => jsonEq x y = true) xs ys := by
  rw [jsonEq]
  induction xs generalizing ys with
  | nil => cases ys <;> simp [jsonItemsEq]
  | cons x xs ih => cases ys <;> simp [jsonItemsEq, ih]

theorem jsonEq_obj : jsonEq (.obj fs) (.obj gs) = true ↔
    fs.length = gs.length ∧ ∀ f ∈ fs, ∃ y, gs.lookup f.1 = some y ∧ jsonEq f.2 y = true := by
  rw [jsonEq, Bool.and_eq_true, decide_eq_true_iff]
  refine and_congr Iff.rfl ?_
  induction fs with
  | nil => simp [jsonFieldsEq]
  | cons f fs ih =>
    rw [jsonFieldsEq, Bool.and_eq_true, ih, List.forall_mem_cons, Option.any_eq_true]

theorem sameItem_iff (h : IsJson x) :
    (isNaN x && isNaN y || pyEq x y) = true ↔ pyEq x y = true := by
  have hnan : isNaN x = false := by
    cases h with
    | @num n hn =>
      rcases n with z | f
      · rfl
      · cases f with
        | nan => cases hn
        | finite | infinity => rfl
    | null | bool | str | arr | obj => rfl
  rw [hnan, Bool.false_and, Bool.false_or]

theorem pyEq_arr (h : ∀ x ∈ xs, IsJson x) : pyEq (.arr xs) (.arr ys) = true ↔
    List.Forall₂ (fun x y => pyEq x y = true) xs ys := by
  rw [pyEq]
  induction xs generalizing ys with
  | nil => cases ys <;> simp [itemsEq]
  | cons x xs ih =>
    cases ys with
    | nil => simp [itemsEq]
    | cons y ys =>
      rw [itemsEq, Bool.and_eq_true, sameItem_iff (h x List.mem_cons_self), List.forall₂_cons,
        ih fun x hx => h x (List.mem_cons_of_mem _ hx)]

theorem pyEq_obj (h : ∀ f ∈ fs, IsJson f.2) : pyEq (.obj fs) (.obj gs) = true ↔
    fs.length = gs.length ∧ ∀ f ∈ fs, ∃ y, gs.lookup f.1 = some y ∧ pyEq f.2 y = true := by
  rw [pyEq, Bool.and_eq_true, decide_eq_true_iff]
  refine and_congr Iff.rfl ?_
  induction fs with
  | nil => simp [fieldsEq]
  | cons f fs ih =>
    have hvalue (y : PyJson) := sameItem_iff (y := y) (h f List.mem_cons_self)
    rw [fieldsEq, Bool.and_eq_true, ih fun g hg => h g (List.mem_cons_of_mem _ hg),
      List.forall_mem_cons]
    refine and_congr_left fun _ => ?_
    cases gs.lookup f.1 with
    | none => simp
    | some y => simp [hvalue y]

theorem forall₂_congr_mem {R S : PyJson → PyJson → Prop} (h : ∀ x ∈ xs, ∀ y, R x y ↔ S x y) :
    List.Forall₂ R xs ys ↔ List.Forall₂ S xs ys := by
  induction xs generalizing ys with
  | nil => cases ys <;> simp
  | cons x xs ih =>
    cases ys with
    | nil => simp
    | cons y ys =>
      rw [List.forall₂_cons, List.forall₂_cons, h x List.mem_cons_self,
        ih fun x hx => h x (List.mem_cons_of_mem _ hx)]

/-! Python's equality is equality after reading booleans as numbers. -/

theorem numberEq_iff {m n : PyNumber} (hm : number? a = some m) (hn : number? b = some n)
    (h : m.value.isSome = true) : numberEq a b = (m.value == n.value) := by
  rw [numberEq, hm, hn]
  exact (congrArg (· && _) h).trans (Bool.true_and _)

theorem pyEq_iff_unbool (ha : IsJson a) (b : PyJson) :
    pyEq a b = true ↔ jsonEq (unbool a) (unbool b) = true := by
  induction ha generalizing b with
  | null => cases b <;> simp [pyEq, jsonEq, unbool, numberEq, number?]
  | str _ => cases b <;> simp [pyEq, jsonEq, unbool, numberEq, number?]
  | bool c =>
    cases b <;> simp [pyEq, jsonEq, unbool, numberEq, number?, PyNumber.value]
  | @num m hm =>
    cases b with
    | num n => rw [pyEq, numberEq_iff rfl rfl hm, unbool, unbool, jsonEq] <;> simp
    | bool c => rw [pyEq, numberEq_iff rfl rfl hm, unbool, unbool, jsonEq] <;> simp
    | null | str | arr | obj => simp [pyEq, jsonEq, unbool, numberEq, number?]
  | @arr xs hxs ih =>
    cases b with
    | arr ys =>
      rw [pyEq_arr hxs, unbool_arr, unbool_arr, jsonEq_arr, List.forall₂_map_left_iff,
        List.forall₂_map_right_iff]
      exact forall₂_congr_mem ih
    | null | bool | num | str | obj => simp [pyEq, jsonEq, unbool, numberEq, number?]
  | @obj fs _ _ hfs ih =>
    cases b with
    | obj gs =>
      rw [pyEq_obj hfs, unbool_obj, unbool_obj, jsonEq_obj, List.length_map, List.length_map,
        List.forall_mem_map]
      refine and_congr_right fun _ => forall₂_congr fun f hf => ?_
      rw [lookup_map]
      simp only [Option.map_eq_some_iff, exists_exists_and_eq_and]
      exact exists_congr fun y => and_congr_right fun _ => ih f hf y
    | null | bool | num | str | arr => simp [pyEq, jsonEq, unbool, numberEq, number?]

/-! Where the two equalities part. -/

theorem jsonEq_imp_pyEq (ha : IsJson a) (h : jsonEq a b = true) : pyEq a b = true := by
  induction ha generalizing b with
  | null | str _ | bool _ =>
    cases b <;> simp_all [pyEq, jsonEq, numberEq, number?, PyNumber.value]
  | @num m hm =>
    cases b with
    | num n =>
      rw [pyEq, numberEq_iff rfl rfl hm]
      · rwa [jsonEq] at h
      all_goals simp
    | null | bool | str | arr | obj => simp [jsonEq] at h
  | @arr xs hxs ih =>
    cases b with
    | arr ys =>
      rw [jsonEq_arr, List.forall₂_iff_get] at h
      rw [pyEq_arr hxs, List.forall₂_iff_get]
      exact ⟨h.1, fun i hi hj => ih _ (List.getElem_mem hi) (h.2 i hi hj)⟩
    | null | bool | num | str | obj => simp [jsonEq] at h
  | @obj fs _ _ hfs ih =>
    cases b with
    | obj gs =>
      rw [jsonEq_obj] at h
      rw [pyEq_obj hfs]
      refine ⟨h.1, fun f hf => ?_⟩
      obtain ⟨y, hlookup, heq⟩ := h.2 f hf
      exact ⟨y, hlookup, ih f hf heq⟩
    | null | bool | num | str | arr => simp [jsonEq] at h

theorem not_mixed_of_jsonEq (ha : IsJson a) (h : jsonEq a b = true) : ¬Mixed a b := by
  intro hmixed
  induction hmixed with
  | boolean | number => simp [jsonEq] at h
  | item hx hy _ ih =>
    cases ha with
    | arr hxs =>
      rw [jsonEq_arr, List.forall₂_iff_get] at h
      obtain ⟨hi, rfl⟩ := List.getElem?_eq_some_iff.1 hx
      obtain ⟨hj, rfl⟩ := List.getElem?_eq_some_iff.1 hy
      exact ih (hxs _ (List.getElem_mem hi)) (h.2 _ hi hj)
  | member hx hy _ ih =>
    cases ha with
    | obj hnodup hkeys hfs =>
      have hmem := (lookup_eq_some_iff_mem hnodup).1 hx
      obtain ⟨y, hlookup, heq⟩ := (jsonEq_obj.1 h).2 _ hmem
      obtain rfl := Option.some.inj (hlookup.symm.trans hy)
      exact ih (hfs _ hmem) heq

/-- Values that Python calls equal are equal, but for booleans that stand against numbers. -/
theorem jsonEq_of_pyEq (ha : IsJson a) (h : pyEq a b = true) (hmixed : ¬Mixed a b) :
    jsonEq a b = true := by
  induction ha generalizing b with
  | null | str _ =>
    cases b <;> simp_all [pyEq, jsonEq, numberEq, number?]
  | bool c =>
    cases b with
    | num x => exact absurd (.boolean c x) hmixed
    | bool d => cases c <;> cases d <;> simp_all [pyEq, jsonEq, numberEq, number?, PyNumber.value]
    | null | str | arr | obj => simp [pyEq, numberEq, number?] at h
  | @num m hm =>
    cases b with
    | bool d => exact absurd (.number m d) hmixed
    | num n =>
      rw [pyEq, numberEq_iff rfl rfl hm] at h
      · rwa [jsonEq]
      all_goals simp
    | null | str | arr | obj => simp [pyEq, numberEq, number?] at h
  | @arr xs hxs ih =>
    cases b with
    | arr ys =>
      rw [pyEq_arr hxs, List.forall₂_iff_get] at h
      rw [jsonEq_arr, List.forall₂_iff_get]
      refine ⟨h.1, fun i hi hj => ih _ (List.getElem_mem hi) (h.2 i hi hj) fun hbelow => ?_⟩
      exact hmixed (.item (List.getElem?_eq_getElem hi) (List.getElem?_eq_getElem hj) hbelow)
    | null | bool | num | str | obj => simp [pyEq, numberEq, number?] at h
  | @obj fs hnodup _ hfs ih =>
    cases b with
    | obj gs =>
      rw [pyEq_obj hfs] at h
      rw [jsonEq_obj]
      refine ⟨h.1, fun f hf => ?_⟩
      obtain ⟨y, hlookup, heq⟩ := h.2 f hf
      refine ⟨y, hlookup, ih f hf heq fun hbelow => ?_⟩
      exact hmixed (.member ((lookup_eq_some_iff_mem hnodup).2 hf) hlookup hbelow)
    | null | bool | num | str | arr => simp [pyEq, numberEq, number?] at h

/-- The equalities agree on two values unless they mix booleans with numbers and come out equal once
the booleans are read as numbers. -/
theorem equalities_agree_iff (ha : IsJson a) (b : PyJson) :
    (pyEq a b = true ↔ jsonEq a b = true) ↔
      ¬Mixed a b ∨ jsonEq (unbool a) (unbool b) = false := by
  rw [← Bool.not_eq_true, ← pyEq_iff_unbool ha]
  constructor
  · intro hagree
    by_cases h : pyEq a b = true
    · exact .inl (not_mixed_of_jsonEq ha (hagree.1 h))
    · exact .inr h
  · intro hcondition
    refine ⟨fun h => ?_, jsonEq_imp_pyEq ha⟩
    rcases hcondition with hmixed | hne
    · exact jsonEq_of_pyEq ha h hmixed
    · exact absurd h hne

/-! Contracts. -/

/-- `{"const": v}` -/
def constSchema (v : PyJson) : PyDict := dict [("const", v)]

/-- What JSON Schema says of `const`: any value may be given, and it is met by equal values only. -/
def JsonSchema.ConstIsEquality (J : JsonSchema) : Prop :=
  ∀ v actual, IsJson v → IsJson actual →
    J.Valid (constSchema v) ∧ (J.Satisfies (constSchema v) actual ↔ jsonEq actual v = true)

/-- The contract of the single assertion is met by the output. -/
def AssertionPasses (output : PyJson) (a : Assertion) : Prop :=
  ∃ p, assertionsProbe output [a] = .ok p ∧ p.state = .pass

theorem assertionPasses_iff {a : Assertion}
    (h : resolvePath output (PyStr.ofString a.path) = .ok (some actual)) :
    AssertionPasses output a ↔ a.check (some actual) = true := by
  rw [Assertion.check_iff h]
  constructor
  · rintro ⟨p, hp, hpass⟩
    exact ((assertionsProbe_state hp).2.2.1 hpass).2 a (List.mem_singleton_self a)
  · intro hholds
    cases hp : assertionsProbe output [a] with
    | ok p =>
      have hall : ∀ b ∈ [a], b.Holds output := fun b hb => List.mem_singleton.1 hb ▸ hholds
      exact ⟨p, hp, (assertionsProbe_state hp).2.2.2 ⟨List.cons_ne_nil _ _, hall⟩⟩
    | error e =>
      obtain ⟨b, hb, hraises⟩ := assertionsProbe_error_iff.1 ⟨e, hp⟩
      obtain rfl := List.mem_singleton.1 hb
      obtain ⟨e', he'⟩ := resolvePath_error_iff.2 hraises
      rw [h] at he'
      cases he'

theorem schemaProbe_const (hJ : J.ConstIsEquality) (hv : IsJson v) (hactual : IsJson actual) :
    (schemaProbe J actual (some (constSchema v))).state = .pass ↔ jsonEq actual v = true := by
  obtain ⟨hvalid, hsatisfies⟩ := hJ v actual hv hactual
  rw [schemaProbe_pass_iff, ← hsatisfies]
  constructor
  · rintro ⟨s, hs, -, -, hsat⟩
    exact Option.some.inj hs ▸ hsat
  · exact fun hsat => ⟨_, rfl, List.cons_ne_nil _ _, hvalid, hsat⟩

theorem walk_isJson {parts : List PyStr} (h : IsJson output)
    (hwalk : walk output parts = .ok (some actual)) : IsJson actual := by
  induction parts generalizing output with
  | nil =>
    rw [walk] at hwalk
    exact Option.some.inj (Except.ok.inj hwalk) ▸ h
  | cons part parts ih =>
    cases h with
    | @obj fields hnodup hkeys hvalues =>
      rw [walk] at hwalk
      cases hlookup : fields.lookup part with
      | none => simp [hlookup] at hwalk
      | some next =>
        rw [hlookup] at hwalk
        exact ih (hvalues _ ((lookup_eq_some_iff_mem hnodup).1 hlookup)) hwalk
    | @arr items hitems =>
      rw [walk] at hwalk
      split_ifs at hwalk
      · cases hint : part.int with
        | error e => simp [hint, bind, Except.bind] at hwalk
        | ok i =>
          simp only [hint, bind, Except.bind] at hwalk
          cases hitem : items[i]? with
          | none => simp [hitem] at hwalk
          | some next =>
            rw [hitem] at hwalk
            exact ih (hitems _ (List.mem_of_getElem? hitem)) hwalk
      · cases hwalk
    | null | bool | num | str => cases hwalk

theorem resolvePath_isJson {path : PyStr} (h : IsJson output)
    (hpath : resolvePath output path = .ok (some actual)) : IsJson actual := by
  rw [resolvePath] at hpath
  split_ifs at hpath
  · exact Option.some.inj (Except.ok.inj hpath) ▸ h
  · exact walk_isJson h hpath

/-- Over every document, path and value: the assertions say what the constant says just where no
boolean stands against a number, or the values differ even with booleans read as numbers. -/
theorem contracts_agree_iff (hJ : J.ConstIsEquality) (output v : PyJson) (houtput : IsJson output)
    (hv : IsJson v) (path : String) (actual : PyJson)
    (hpath : resolvePath output (PyStr.ofString path) = .ok (some actual)) :
    ((AssertionPasses output ⟨path, .eq, v⟩ ↔
        (schemaProbe J actual (some (constSchema v))).state = .pass) ∧
      (AssertionPasses output ⟨path, .ne, v⟩ ↔
        ¬(schemaProbe J actual (some (constSchema v))).state = .pass)) ↔
      ¬Mixed actual v ∨ jsonEq (unbool actual) (unbool v) = false := by
  have hactual := resolvePath_isJson houtput hpath
  have heq : AssertionPasses output ⟨path, .eq, v⟩ ↔ pyEq actual v = true :=
    assertionPasses_iff (a := ⟨path, .eq, v⟩) hpath
  have hne : AssertionPasses output ⟨path, .ne, v⟩ ↔ ¬pyEq actual v = true := by
    rw [assertionPasses_iff (a := ⟨path, .ne, v⟩) hpath]
    change (!pyEq actual v) = true ↔ _
    rw [Bool.not_eq_true, Bool.not_eq_true']
  rw [heq, hne, schemaProbe_const hJ hv hactual, ← equalities_agree_iff hactual v]
  exact ⟨fun h => h.1, fun h => ⟨h, not_congr h⟩⟩

/-- A validator that knows `const` only, for runs on fixed inputs. -/
def JsonSchema.constOnly : JsonSchema where
  Valid _ := True
  Satisfies schema output := (field schema "const").all (jsonEq output ·) = true
  checkSchema _ := none
  iterErrors schema output :=
    if (field schema "const").all (jsonEq output ·) then []
    else [⟨[], PyStr.ofString "is not the constant"⟩]
  checkSchema_eq_none := JsonSchema.checks_any
  iterErrors_eq_nil := by simp

theorem constIsEquality_constOnly : JsonSchema.constOnly.ConstIsEquality := by
  refine fun v actual _ _ => ⟨trivial, ?_⟩
  simp only [JsonSchema.constOnly, constSchema, field_dict, List.lookup_cons]
  exact Iff.rfl

/-- A delivery that acknowledges with a boolean. -/
def booleanAck : PyJson := .obj (dict [("ack", .bool true)])

theorem isJson_booleanAck : IsJson booleanAck :=
  readable_dict (fun _ => trivial) (by decide) (by simp [Readable.bool])

theorem contracts_agree_booleanAck :
    (AssertionPasses booleanAck ⟨"/ack", .eq, .bool true⟩ ↔
      (schemaProbe .constOnly (.bool true) (some (constSchema (.bool true)))).state = .pass) :=
  ((contracts_agree_iff constIsEquality_constOnly booleanAck (.bool true) isJson_booleanAck
    (.bool true) "/ack" (.bool true) rfl).2 (.inl nofun)).1

/-- `true` is asserted to equal one, and does; the constant one rejects it. -/
theorem contracts_disagree :
    JsonSchema.constOnly.ConstIsEquality ∧
      resolvePath booleanAck (PyStr.ofString "/ack") = .ok (some (.bool true)) ∧
      AssertionPasses booleanAck ⟨"/ack", .eq, pyInt 1⟩ ∧
      (schemaProbe .constOnly (.bool true) (some (constSchema (pyInt 1)))).state = .fail :=
  ⟨constIsEquality_constOnly, rfl, ⟨_, rfl, rfl⟩, rfl⟩

end Counterparty
