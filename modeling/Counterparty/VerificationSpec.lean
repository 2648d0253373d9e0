import Counterparty.Verification

/-! What each probe says of an output, and the inputs on which a probe raises. -/
namespace Counterparty

open Json

variable {J : JsonSchema} {output : PyJson} {p : ProbeResult}

/-! Fields. -/

theorem field_put {payload : PyDict} {key name : String} {j : PyJson} (h : name ≠ key) :
    field (put (PyStr.ofString key) j payload) name = field payload name :=
  lookup_put_of_ne (ofString_injective.ne h)

theorem field_dict (entries : List (String × PyJson)) (name : String) :
    field (dict entries) name = entries.lookup name := by
  induction entries with
  | nil => rfl
  | cons e entries ih =>
    simp only [field, dict, List.map_cons] at ih ⊢
    rw [List.lookup_cons, List.lookup_cons, ih]
    by_cases h : name = e.1
    · simp [h]
    · have hne := ofString_injective.ne h
      rw [beq_eq_false_iff_ne.2 h, beq_eq_false_iff_ne.2 hne]

/-! The schema probe. -/

/-- A schema is given, not empty, and valid. -/
def UsableSchema (J : JsonSchema) (schema : Option PyDict) : Prop :=
  ∃ s, schema = some s ∧ s ≠ [] ∧ J.Valid s

/-- The output satisfies a usable schema. -/
def SchemaHolds (J : JsonSchema) (output : PyJson) (schema : Option PyDict) : Prop :=
  ∃ s, schema = some s ∧ s ≠ [] ∧ J.Valid s ∧ J.Satisfies s output

theorem insertionSort_eq_nil {α : Type} {r : α → α → Prop} [DecidableRel r] {l : List α} :
    l.insertionSort r = [] ↔ l = [] := by
  rw [← List.length_eq_zero_iff, List.length_insertionSort, List.length_eq_zero_iff]

theorem schemaProbe_cases (J : JsonSchema) (output : PyJson) (schema : Option PyDict) :
    ((schemaProbe J output schema).state = .inconclusive ∧ ¬UsableSchema J schema) ∨
      ((schemaProbe J output schema).state = .fail ∧ UsableSchema J schema ∧
        ¬SchemaHolds J output schema) ∨
      ((schemaProbe J output schema).state = .pass ∧ SchemaHolds J output schema) := by
  cases schema with
  | none => exact .inl ⟨rfl, by simp [UsableSchema]⟩
  | some s =>
    cases s with
    | nil => exact .inl ⟨rfl, by simp [UsableSchema]⟩
    | cons f fs =>
      cases hcheck : J.checkSchema (f :: fs) with
      | some message =>
        refine .inl ⟨by simp [schemaProbe, hcheck], ?_⟩
        rintro ⟨s, hs, -, hvalid⟩
        obtain rfl := Option.some.inj hs
        rw [(J.checkSchema_eq_none _).2 hvalid] at hcheck
        cases hcheck
      | none =>
        have hvalid := (J.checkSchema_eq_none _).1 hcheck
        have husable : UsableSchema J (some (f :: fs)) := ⟨_, rfl, by simp, hvalid⟩
        by_cases herrors : J.iterErrors (f :: fs) output = []
        · have hsat := (J.iterErrors_eq_nil _ output hvalid).1 herrors
          refine .inr (.inr ⟨?_, _, rfl, by simp, hvalid, hsat⟩)
          simp [schemaProbe, hcheck, herrors]
        · refine .inr (.inl ⟨?_, husable, ?_⟩)
          · simp [schemaProbe, hcheck, insertionSort_eq_nil, herrors]
          · rintro ⟨s, hs, -, -, hsat⟩
            obtain rfl := Option.some.inj hs
            exact herrors ((J.iterErrors_eq_nil _ output hvalid).2 hsat)

theorem SchemaHolds.usable {schema : Option PyDict} (h : SchemaHolds J output schema) :
    UsableSchema J schema := by
  obtain ⟨s, hs, hne, hvalid, -⟩ := h
  exact ⟨s, hs, hne, hvalid⟩

theorem schemaProbe_pass_iff {schema : Option PyDict} :
    (schemaProbe J output schema).state = .pass ↔ SchemaHolds J output schema := by
  rcases schemaProbe_cases J output schema with ⟨hs, hu⟩ | ⟨hs, -, hh⟩ | ⟨hs, hh⟩
  · simp only [hs, reduceCtorEq, false_iff]
    exact fun hh => hu hh.usable
  · simp [hs, hh]
  · simp [hs, hh]

theorem schemaProbe_fail_iff {schema : Option PyDict} :
    (schemaProbe J output schema).state = .fail ↔
      UsableSchema J schema ∧ ¬SchemaHolds J output schema := by
  rcases schemaProbe_cases J output schema with ⟨hs, hu⟩ | ⟨hs, hu, hh⟩ | ⟨hs, hh⟩
  · simp [hs, hu]
  · simp [hs, hu, hh]
  · simp [hs, hh]

theorem schemaProbe_inconclusive_iff {schema : Option PyDict} :
    (schemaProbe J output schema).state = .inconclusive ↔ ¬UsableSchema J schema := by
  rcases schemaProbe_cases J output schema with ⟨hs, hu⟩ | ⟨hs, hu, -⟩ | ⟨hs, hh⟩
  · simp [hs, hu]
  · simp [hs, hu]
  · simp [hs, hh.usable]

/-! The injection probe. -/

/-- Some marker occurs in the lowered text of the output. -/
def Marked (output : PyJson) : Prop :=
  ∃ m ∈ injectionMarkers, codes m <:+: lower (dumpsUnicode output)

theorem markerHits_ne_nil : markerHits output ≠ [] ↔ Marked output := by
  simp [markerHits, insertionSort_eq_nil, Marked]

theorem injectionProbe_fail_iff : (injectionProbe output).state = .fail ↔ Marked output := by
  rw [← markerHits_ne_nil, injectionProbe]
  split_ifs with h <;> simp [h]

theorem injectionProbe_pass_iff : (injectionProbe output).state = .pass ↔ ¬Marked output := by
  rw [← markerHits_ne_nil, injectionProbe]
  split_ifs with h <;> simp [h]

/-! The contradiction probe. -/

/-- A negative word with extreme confidence, whose reason is to be looked up in a set. -/
def ExtremeNegative (fields : PyDict) : Prop :=
  verdictWord fields ∈ negativeWords ∧ extremeConfidence fields = true

/-- A confident or negative verdict that its confidence or its missing reason belies. -/
def SelfContradictory (output : PyJson) : Prop :=
  ∃ fields, output = .obj fields ∧
    (verdictWord fields ∈ positiveWords ∧ lowConfidence fields = true ∨
      ExtremeNegative fields ∧ inNoneOrEmpty (field fields "reason") = .ok true)

/-- An extreme negative verdict whose reason is a list or an object. -/
def UnhashableReason (output : PyJson) : Prop :=
  ∃ fields, output = .obj fields ∧ ExtremeNegative fields ∧
    ((∃ items, field fields "reason" = some (.arr items)) ∨
      ∃ inner, field fields "reason" = some (.obj inner))

theorem not_positive_of_negative {w : Text} (h : w ∈ negativeWords) : w ∉ positiveWords := by
  have hall : ∀ w ∈ negativeWords, w ∉ positiveWords := by decide
  exact hall w h

theorem inNoneOrEmpty_cases (value : Option PyJson) :
    (inNoneOrEmpty value = .error .typeError ∧
        ((∃ items, value = some (.arr items)) ∨ ∃ inner, value = some (.obj inner))) ∨
      ∃ b, inNoneOrEmpty value = .ok b ∧
        ¬((∃ items, value = some (.arr items)) ∨ ∃ inner, value = some (.obj inner)) := by
  cases value with
  | none => exact .inr ⟨true, rfl, by simp⟩
  | some v =>
    cases v with
    | null => exact .inr ⟨true, rfl, by simp⟩
    | bool b => exact .inr ⟨false, rfl, by simp⟩
    | num x => exact .inr ⟨false, rfl, by simp⟩
    | str s => cases s <;> exact .inr ⟨_, rfl, by simp⟩
    | arr items => exact .inl ⟨rfl, by simp⟩
    | obj inner => exact .inl ⟨rfl, by simp⟩

theorem contradictionProbe_cases (output : PyJson) :
    (contradictionProbe output = .error .typeError ∧ UnhashableReason output) ∨
      ∃ p, contradictionProbe output = .ok p ∧ ¬UnhashableReason output ∧
        (p.state = .fail ∧ SelfContradictory output ∨
          p.state = .pass ∧ ¬SelfContradictory output) := by
  cases output with
  | obj fields =>
    by_cases hlow : verdictWord fields ∈ positiveWords ∧ lowConfidence fields = true
    · refine .inr ⟨_, if_pos hlow, ?_, .inl ⟨rfl, fields, rfl, .inl hlow⟩⟩
      rintro ⟨fields', hf, ⟨hneg, -⟩, -⟩
      obtain rfl := Json.obj.inj hf
      exact not_positive_of_negative hneg hlow.1
    · by_cases hextreme : ExtremeNegative fields
      · have hprobe : contradictionProbe (.obj fields) =
            (do if ← inNoneOrEmpty (field fields "reason") then
                  return { probe := "self_consistency", state := .fail, score := some 0
                           reason := "Extreme negative certainty has no supporting reason" }
                else return consistent) := (if_neg hlow).trans (if_pos hextreme)
        rcases inNoneOrEmpty_cases (field fields "reason") with ⟨herr, hreason⟩ | ⟨b, hb, hreason⟩
        · refine .inl ⟨?_, fields, rfl, hextreme, hreason⟩
          rw [hprobe, herr]
          rfl
        · have hhash : ¬UnhashableReason (.obj fields) := by
            rintro ⟨fields', hf, -, hr⟩
            obtain rfl := Json.obj.inj hf
            exact hreason hr
          rw [hb] at hprobe
          cases b with
          | true => exact .inr ⟨_, hprobe, hhash, .inl ⟨rfl, fields, rfl, .inr ⟨hextreme, hb⟩⟩⟩
          | false =>
            refine .inr ⟨_, hprobe, hhash, .inr ⟨rfl, ?_⟩⟩
            rintro ⟨fields', hf, hc | ⟨-, hc⟩⟩
            · obtain rfl := Json.obj.inj hf
              exact hlow hc
            · obtain rfl := Json.obj.inj hf
              rw [hb] at hc
              cases hc
      · refine .inr ⟨_, (if_neg hlow).trans (if_neg hextreme), ?_, .inr ⟨rfl, ?_⟩⟩
        · rintro ⟨fields', hf, he, -⟩
          obtain rfl := Json.obj.inj hf
          exact hextreme he
        · rintro ⟨fields', hf, hc | ⟨hc, -⟩⟩
          · obtain rfl := Json.obj.inj hf
            exact hlow hc
          · obtain rfl := Json.obj.inj hf
            exact hextreme hc
  | null | bool | num | str | arr =>
    exact .inr ⟨consistent, rfl, by simp [UnhashableReason],
      .inr ⟨rfl, by simp [SelfContradictory]⟩⟩

theorem contradictionProbe_error_iff :
    (∃ e, contradictionProbe output = .error e) ↔ UnhashableReason output := by
  rcases contradictionProbe_cases output with ⟨h, hu⟩ | ⟨p, h, hu, -⟩ <;> simp [h, hu]

theorem contradictionProbe_state (h : contradictionProbe output = .ok p) :
    (p.state = .fail ↔ SelfContradictory output) ∧
      (p.state = .pass ↔ ¬SelfContradictory output) := by
  rcases contradictionProbe_cases output with ⟨h', -⟩ | ⟨q, h', -, hq⟩
  · rw [h'] at h
    cases h
  · rw [h'] at h
    cases h
    rcases hq with ⟨hs, hc⟩ | ⟨hs, hc⟩ <;> simp [hs, hc]

/-! Paths. -/

/-- A part that `isdigit` accepts and `int` refuses. -/
def OddDigits (part : PyStr) : Prop :=
  part.isDigit = true ∧ ∃ c ∈ part, UnicodeDigits.isDecimal c.val = false

/-- On the way some list is reached with a part of odd digits. -/
def WalkRaises (cur : PyJson) (parts : List PyStr) : Prop :=
  ∃ before part after items, parts = before ++ part :: after ∧
    walk cur before = .ok (some (.arr items)) ∧ OddDigits part

theorem int_cases (part : PyStr) :
    (part.int = .error .valueError ∧ ∃ c ∈ part, UnicodeDigits.isDecimal c.val = false) ∨
      ∃ n, part.int = .ok n ∧ ¬∃ c ∈ part, UnicodeDigits.isDecimal c.val = false := by
  have hnone : UnicodeDigits.decimal part.text = none ↔
      ∃ c ∈ part, UnicodeDigits.isDecimal c.val = false := by
    rw [UnicodeDigits.decimal_eq_none]
    simp [PyStr.text]
  rw [← hnone, PyStr.int]
  cases UnicodeDigits.decimal part.text with
  | none => exact .inl ⟨rfl, rfl⟩
  | some n => exact .inr ⟨n, rfl, by simp⟩

/-- One part of a path raises, ends the walk, or steps to a value. -/
theorem walk_cons_cases (cur : PyJson) (part : PyStr) :
    ((∃ items, cur = .arr items) ∧ OddDigits part ∧
        ∀ parts, walk cur (part :: parts) = .error .valueError) ∨
      ¬((∃ items, cur = .arr items) ∧ OddDigits part) ∧
        ((∀ parts, walk cur (part :: parts) = .ok none) ∨
          ∃ next, ∀ parts, walk cur (part :: parts) = walk next parts) := by
  cases cur with
  | obj fields =>
    refine .inr ⟨by simp, ?_⟩
    cases h : fields.lookup part with
    | none => exact .inl fun parts => by simp [walk, h]
    | some next => exact .inr ⟨next, fun parts => by simp [walk, h]⟩
  | arr items =>
    by_cases hdigit : part.isDigit = true
    · rcases int_cases part with ⟨hint, hodd⟩ | ⟨n, hint, hodd⟩
      · refine .inl ⟨⟨items, rfl⟩, ⟨hdigit, hodd⟩, fun parts => ?_⟩
        simp [walk, hdigit, hint, bind, Except.bind]
      · refine .inr ⟨fun h => hodd h.2.2, ?_⟩
        cases h : items[n]? with
        | none => exact .inl fun parts => by simp [walk, hdigit, hint, bind, Except.bind, h]
        | some next =>
          exact .inr ⟨next, fun parts => by simp [walk, hdigit, hint, bind, Except.bind, h]⟩
    · exact .inr ⟨fun h => hdigit h.2.1, .inl fun parts => by simp [walk, hdigit]⟩
  | null | bool | num | str => exact .inr ⟨by simp, .inl fun parts => rfl⟩

theorem walkRaises_cons {cur : PyJson} {part : PyStr} {parts : List PyStr} :
    WalkRaises cur (part :: parts) ↔ ((∃ items, cur = .arr items) ∧ OddDigits part) ∨
      ∃ before part' after items, parts = before ++ part' :: after ∧
        walk cur (part :: before) = .ok (some (.arr items)) ∧ OddDigits part' := by
  constructor
  · rintro ⟨before, part', after, items, hparts, hwalk, hodd⟩
    cases before with
    | nil =>
      obtain ⟨rfl, -⟩ := List.cons.inj hparts
      simp only [walk, Except.ok.injEq, Option.some.injEq] at hwalk
      exact .inl ⟨⟨items, hwalk⟩, hodd⟩
    | cons q before =>
      obtain ⟨rfl, htail⟩ := List.cons.inj hparts
      exact .inr ⟨before, part', after, items, htail, hwalk, hodd⟩
  · rintro (⟨⟨items, rfl⟩, hodd⟩ | ⟨before, part', after, items, rfl, hwalk, hodd⟩)
    · exact ⟨[], part, parts, items, rfl, rfl, hodd⟩
    · exact ⟨part :: before, part', after, items, rfl, hwalk, hodd⟩

theorem walk_error_iff {cur : PyJson} {parts : List PyStr} :
    (∃ e, walk cur parts = .error e) ↔ WalkRaises cur parts := by
  induction parts generalizing cur with
  | nil => simp [walk, WalkRaises]
  | cons part parts ih =>
    rw [walkRaises_cons]
    rcases walk_cons_cases cur part with ⟨hlist, hodd, hwalk⟩ | ⟨hodd, hwalk | ⟨next, hwalk⟩⟩
    · exact ⟨fun _ => .inl ⟨hlist, hodd⟩, fun _ => ⟨_, hwalk parts⟩⟩
    · simp [hwalk, hodd]
    · simp only [hwalk, hodd, false_or]
      exact ih

/-- The path leads to a list with a part of odd digits. -/
def PathRaises (doc : PyJson) (path : String) : Prop :=
  WalkRaises doc (pathParts (PyStr.ofString path))

theorem not_pathRaises {doc : PyJson} {path : String}
    (h : ∀ part ∈ pathParts (PyStr.ofString path), part.isDigit = false) : ¬PathRaises doc path := by
  rintro ⟨before, part, after, items, hparts, -, hdigit, -⟩
  have hfalse := h part (by rw [hparts]; simp)
  rw [hfalse] at hdigit
  cases hdigit

theorem resolvePath_error_iff {doc : PyJson} {path : String} :
    (∃ e, resolvePath doc (PyStr.ofString path) = .error e) ↔ PathRaises doc path := by
  rw [PathRaises, ← walk_error_iff, resolvePath]
  split_ifs with h
  · have hparts : pathParts (PyStr.ofString path) = [] := by
      rcases h with h | h <;> rw [h] <;> rfl
    simp [hparts, walk]
  · rfl

/-! The assertions probe. -/

/-- An assertion holds of what is found at its path. -/
def Assertion.Holds (output : PyJson) (a : Assertion) : Prop :=
  ∃ actual, resolvePath output (PyStr.ofString a.path) = .ok (some actual) ∧
    match a.op with
    | .exists => True
    | .eq => pyEq actual a.value = true
    | .ne => pyEq actual a.value = false
    | .contains => pyIn a.value actual = some true
    | .gte => pyOrder .gte actual a.value = some true
    | .lte => pyOrder .lte actual a.value = some true

theorem Assertion.check_iff {a : Assertion} {actual : Option PyJson}
    (h : resolvePath output (PyStr.ofString a.path) = .ok actual) :
    a.check actual = true ↔ a.Holds output := by
  cases actual with
  | none => cases hop : a.op <;> simp [Assertion.check, Assertion.Holds, h, hop]
  | some v =>
    cases hop : a.op <;>
      simp [Assertion.check, Assertion.Holds, h, hop, Option.getD_eq_iff]

/-- What is found at the path of an assertion. -/
def Assertion.found (output : PyJson) (a : Assertion) : Option PyJson :=
  match resolvePath output (PyStr.ofString a.path) with
  | .ok actual => actual
  | .error _ => none

theorem Assertion.check_found {a : Assertion} :
    a.check (a.found output) = true ↔ a.Holds output := by
  unfold Assertion.found
  cases h : resolvePath output (PyStr.ofString a.path) with
  | ok actual => exact Assertion.check_iff h
  | error e => cases hop : a.op <;> simp [Assertion.check, Assertion.Holds, h, hop]

instance : DecidablePred (Assertion.Holds output) :=
  fun _ => decidable_of_iff _ Assertion.check_found

/-- The assertions that do not hold, each with what is found at its path. -/
def shortfall (output : PyJson) (assertions : List Assertion) : List PyJson :=
  (assertions.filter fun a => ¬a.Holds output).map fun a => a.failure (a.found output)

/-- The loop collects the assertions that do not hold. -/
theorem assertionFailures_eq {assertions : List Assertion} {failures : List PyJson}
    (h : assertionFailures output assertions = .ok failures) :
    failures = shortfall output assertions := by
  induction assertions generalizing failures with
  | nil =>
    cases h
    rfl
  | cons a assertions ih =>
    cases hpath : resolvePath output (PyStr.ofString a.path) with
    | error e => simp [assertionFailures, hpath, bind, Except.bind] at h
    | ok actual =>
      cases hrest : assertionFailures output assertions with
      | error e => simp [assertionFailures, hpath, hrest, bind, Except.bind] at h
      | ok rest =>
        have hfound : a.found output = actual := by simp [Assertion.found, hpath]
        have hcheck := Assertion.check_iff hpath
        simp only [assertionFailures, hpath, hrest, bind, Except.bind, pure, Except.pure,
          Except.ok.injEq] at h
        subst h
        rw [ih hrest, shortfall, shortfall, List.filter_cons]
        by_cases hc : a.check actual = true
        · simp [hc, hcheck.1 hc]
        · have hnot : ¬a.Holds output := fun hholds => hc (hcheck.2 hholds)
          simp [hc, hnot, hfound]

theorem assertionFailures_cases (output : PyJson) (assertions : List Assertion) :
    ((∃ e, assertionFailures output assertions = .error e) ∧
        ∃ a ∈ assertions, PathRaises output a.path) ∨
      ∃ failures, assertionFailures output assertions = .ok failures ∧
        (¬∃ a ∈ assertions, PathRaises output a.path) ∧
        (failures = [] ↔ ∀ a ∈ assertions, a.Holds output) := by
  induction assertions with
  | nil => exact .inr ⟨[], rfl, by simp, by simp⟩
  | cons a assertions ih =>
    have hraises := @resolvePath_error_iff output a.path
    cases hpath : resolvePath output (PyStr.ofString a.path) with
    | error e =>
      have ha : PathRaises output a.path := hraises.1 ⟨e, hpath⟩
      exact .inl ⟨⟨e, by simp [assertionFailures, hpath, bind, Except.bind]⟩, a, by simp, ha⟩
    | ok actual =>
      have ha : ¬PathRaises output a.path := by
        rw [← hraises, hpath]
        simp
      have hcheck := Assertion.check_iff hpath
      rcases ih with ⟨⟨e, he⟩, hrest⟩ | ⟨failures, hf, hrest, hholds⟩
      · refine .inl ⟨⟨e, by simp [assertionFailures, hpath, he, bind, Except.bind]⟩, ?_⟩
        obtain ⟨b, hb, hraise⟩ := hrest
        exact ⟨b, by simp [hb], hraise⟩
      · refine .inr ⟨if a.check actual then failures else a.failure actual :: failures, ?_,
          by simpa [ha] using hrest, ?_⟩
        · simp [assertionFailures, hpath, hf, bind, Except.bind, pure, Except.pure]
        by_cases hc : a.check actual = true
        · simp [hc, hholds, hcheck.1 hc]
        · have hnot : ¬a.Holds output := fun h => hc (hcheck.2 h)
          simp [hc, hnot]

theorem assertionsProbe_cases (output : PyJson) (assertions : List Assertion) :
    ((∃ e, assertionsProbe output assertions = .error e) ∧
        ∃ a ∈ assertions, PathRaises output a.path) ∨
      ∃ p, assertionsProbe output assertions = .ok p ∧
        (¬∃ a ∈ assertions, PathRaises output a.path) ∧
        (p.state = .inconclusive ∧ assertions = [] ∨
          p.state = .fail ∧ assertions ≠ [] ∧ (¬∀ a ∈ assertions, a.Holds output) ∨
          p.state = .pass ∧ assertions ≠ [] ∧ ∀ a ∈ assertions, a.Holds output) := by
  by_cases hnil : assertions = []
  · exact .inr ⟨_, if_pos hnil, by simp [hnil], .inl ⟨rfl, hnil⟩⟩
  · rcases assertionFailures_cases output assertions with
      ⟨⟨e, he⟩, hraises⟩ | ⟨failures, hf, hraises, hholds⟩
    · refine .inl ⟨⟨e, ?_⟩, hraises⟩
      rw [assertionsProbe, if_neg hnil, he]
      rfl
    · rw [assertionsProbe, if_neg hnil, hf]
      by_cases hfail : failures = []
      · exact .inr ⟨_, if_neg (not_not.2 hfail), hraises, .inr (.inr ⟨rfl, hnil, hholds.1 hfail⟩)⟩
      · exact .inr ⟨_, if_pos hfail, hraises,
          .inr (.inl ⟨rfl, hnil, fun hall => hfail (hholds.2 hall)⟩)⟩

/-- What the probe reports: the first ten of the assertions that do not hold. -/
theorem assertionsProbe_evidence {assertions : List Assertion}
    (h : assertionsProbe output assertions = .ok p) :
    p.evidence = [] ∧ shortfall output assertions = [] ∨
      p.evidence = dict [("failures", .arr ((shortfall output assertions).take 10))] := by
  by_cases hnil : assertions = []
  · rw [assertionsProbe, if_pos hnil] at h
    cases h
    exact .inl ⟨rfl, by rw [hnil]; rfl⟩
  · rw [assertionsProbe, if_neg hnil] at h
    cases hf : assertionFailures output assertions with
    | error e =>
      rw [hf] at h
      cases h
    | ok failures =>
      rw [hf] at h
      rw [← assertionFailures_eq hf]
      by_cases hfail : failures = []
      · simp only [bind, Except.bind, hfail, ne_eq, not_true_eq_false, if_false] at h
        cases h
        exact .inl ⟨rfl, hfail⟩
      · simp only [bind, Except.bind, ne_eq, hfail, not_false_eq_true, if_true] at h
        cases h
        exact .inr rfl

theorem assertionsProbe_error_iff {assertions : List Assertion} :
    (∃ e, assertionsProbe output assertions = .error e) ↔
      ∃ a ∈ assertions, PathRaises output a.path := by
  rcases assertionsProbe_cases output assertions with ⟨h, hr⟩ | ⟨p, h, hr, -⟩
  · simp [h, hr]
  · simp [h, hr]

theorem assertionsProbe_state {assertions : List Assertion}
    (h : assertionsProbe output assertions = .ok p) :
    (p.state = .inconclusive ↔ assertions = []) ∧
      (p.state = .fail ↔ ∃ a ∈ assertions, ¬a.Holds output) ∧
      (p.state = .pass ↔ assertions ≠ [] ∧ ∀ a ∈ assertions, a.Holds output) := by
  rcases assertionsProbe_cases output assertions with ⟨⟨e, he⟩, -⟩ | ⟨q, hq, -, hstate⟩
  · rw [he] at h
    cases h
  · obtain rfl := Except.ok.inj (hq.symm.trans h)
    rcases hstate with ⟨hs, rfl⟩ | ⟨hs, hne, hall⟩ | ⟨hs, hne, hall⟩
    · simp [hs]
    · push Not at hall
      simp [hs, hne, hall]
    · simpa [hs, hne] using hall

/-! The verdict. -/

theorem aggregateState_fail_iff {probes : List ProbeResult} :
    aggregateState probes = .fail ↔ ∃ p ∈ probes, p.state = .fail := by
  unfold aggregateState
  split_ifs with hfail hinc
  · simpa using hfail
  · simpa using hfail
  · simpa using hfail

theorem aggregateState_pass_iff {probes : List ProbeResult} :
    aggregateState probes = .pass ↔ ∀ p ∈ probes, p.state = .pass := by
  unfold aggregateState
  split_ifs with hfail hinc
  · simp only [List.any_eq_true, decide_eq_true_eq] at hfail
    obtain ⟨p, hp, hs⟩ := hfail
    simp only [false_iff]
    exact fun hall => by simp [hall p hp] at hs
  · simp only [List.any_eq_true, decide_eq_true_eq] at hinc
    obtain ⟨p, hp, hs⟩ := hinc
    simp only [false_iff]
    exact fun hall => by simp [hall p hp] at hs
  · simp only [List.any_eq_true, decide_eq_true_eq, not_exists, not_and] at hfail hinc
    simp only [true_iff]
    intro p hp
    cases hs : p.state with
    | pass => rfl
    | fail => exact absurd hs (hfail p hp)
    | inconclusive => exact absurd hs (hinc p hp)

theorem aggregateState_inconclusive_iff {probes : List ProbeResult} :
    aggregateState probes = .inconclusive ↔
      (¬∃ p ∈ probes, p.state = .fail) ∧ ∃ p ∈ probes, p.state = .inconclusive := by
  unfold aggregateState
  split_ifs with hfail hinc
  · simpa using fun hnone => (List.any_eq_true.1 hfail).elim fun p hp =>
      absurd (by simpa using hp.2) (hnone p hp.1)
  · simp only [List.any_eq_true, decide_eq_true_eq] at hfail hinc
    exact iff_of_true rfl ⟨hfail, hinc⟩
  · simp only [List.any_eq_true, decide_eq_true_eq] at hinc
    simp [hinc]

end Counterparty
