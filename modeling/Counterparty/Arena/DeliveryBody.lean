import Counterparty.DeliveryModel
import Counterparty.Arena.Fingerprint
import Counterparty.Arena.Recording
import Counterparty.Arena.TrustedDelivery

/-! The body that is posted for a stored delivery, and which of them the backend takes. -/
namespace Counterparty.Arena

open Json Interleave

variable {isPrintable : CodePoint → Bool} {texts : NumberTexts} {url : PyStr → Bool}

/-! Values. -/

/-- Nothing, or a number that JSON has no text for. -/
def OrNull (P : JsJson → Prop) (j : JsJson) : Prop := written j = .null ∨ P j

def ObjectOf (P : JsObject → Prop) (j : JsJson) : Prop := ∃ object, j = .obj object ∧ P object

/-- Keys are strings of whole code points. -/
def ScalarKeys (object : JsObject) : Prop := ∀ f ∈ object, Scalar (codePoints f.1)

def OneOf (values : List String) (j : JsJson) : Prop := ∃ value ∈ values, j = jsText value

def ListOf (P : JsJson → Prop) (maxLength : ℕ) (j : JsJson) : Prop :=
  ∃ items, j = .arr items ∧ (∀ item ∈ items, P item) ∧ items.length ≤ maxLength

def IsUrl (url : PyStr → Bool) (j : JsJson) : Prop := ∃ s, j = .str s ∧ url (codePoints s)

/-- Only a list is read as one. -/
theorem received_eq_arr {j : JsJson} {received' : List PyJson} (h : received j = .arr received') :
    ∃ items, j = .arr items ∧ items.map received = received' := by
  cases j with
  | arr items =>
    rw [received_arr] at h
    exact ⟨items, rfl, Json.arr.inj h⟩
  | num x => rcases received_num_cases x with ⟨-, hx⟩ | ⟨-, y, hx⟩ <;> rw [hx] at h <;> cases h
  | obj fields =>
    rw [received_obj] at h
    cases h
  | null | bool _ | str _ => cases h

section Values

variable {takes : PyJson → Bool} {P : JsJson → Prop}

theorem orNone_received (h : ∀ j, takes (received j) ↔ P j) {j : JsJson} :
    orNone takes (received j) ↔ OrNull P j := by
  rw [OrNull, ← h]
  cases j with
  | null => exact iff_of_true rfl (.inl rfl)
  | num x =>
    rcases received_num_cases x with ⟨hwritten, hx⟩ | ⟨hwritten, y, hx⟩
    · exact iff_of_true (by rw [hx]; rfl) (.inl hwritten)
    · rw [or_iff_right hwritten, hx]
      rfl
  | bool b =>
    have hbool : written (.bool b) ≠ .null := by
      change Json.bool b ≠ .null
      simp
    exact (or_iff_right hbool).symm
  | str s =>
    have hstr : written (.str s) ≠ .null := by
      change Json.str s ≠ .null
      simp
    exact (or_iff_right hstr).symm
  | arr items =>
    rw [received_arr]
    exact (or_iff_right (by simp [written])).symm
  | obj fields =>
    rw [received_obj]
    exact (or_iff_right (by simp [written])).symm

theorem objectOf_received {Q : JsObject → Prop} (hobject : ∀ j, takes j → ∃ entries, j = .obj entries)
    (h : ∀ object, takes (received (.obj object)) ↔ Q object) {j : JsJson} :
    takes (received j) ↔ ObjectOf Q j := by
  constructor
  · intro htakes
    obtain ⟨entries, hentries⟩ := hobject _ htakes
    obtain ⟨object, rfl⟩ := received_eq_obj hentries
    exact ⟨object, rfl, (h object).1 htakes⟩
  · rintro ⟨object, rfl, hQ⟩
    exact (h object).2 hQ

theorem isDict_received {j : JsJson} : isDict (received j) ↔ ObjectOf ScalarKeys j := by
  apply objectOf_received
  · intro j hj
    cases j with
    | obj entries => exact ⟨entries, rfl⟩
    | null | bool _ | num _ | str _ | arr _ => cases hj
  · intro object
    rw [received_obj]
    simp [isDict, ScalarKeys]

theorem listOf_received (h : ∀ j, takes (received j) ↔ P j) {maxLength : ℕ} {j : JsJson} :
    isListOf takes maxLength (received j) ↔ ListOf P maxLength j := by
  have hitems : ∀ items : List JsJson, isListOf takes maxLength (received (.arr items)) ↔
      (∀ item ∈ items, P item) ∧ items.length ≤ maxLength := by
    intro items
    rw [received_arr]
    simp [isListOf, h]
  constructor
  · intro htakes
    generalize hr : received j = r at htakes
    cases r with
    | arr received' =>
      obtain ⟨items, rfl, -⟩ := received_eq_arr hr
      rw [← hr] at htakes
      exact ⟨items, rfl, (hitems items).1 htakes⟩
    | null | bool _ | num _ | str _ | obj _ => cases htakes
  · rintro ⟨items, rfl, hall⟩
    exact (hitems items).2 hall

theorem strOf_received {Q : PyStr → Bool} (hstr : ∀ j, takes j → ∃ s, j = .str s)
    (h : ∀ s, takes (.str s) ↔ Q s) {j : JsJson} :
    takes (received j) ↔ ∃ s, j = .str s ∧ Q (codePoints s) := by
  constructor
  · intro htakes
    obtain ⟨t, ht⟩ := hstr _ htakes
    obtain ⟨s, rfl, rfl⟩ := received_eq_str ht
    exact ⟨s, rfl, (h _).1 htakes⟩
  · rintro ⟨s, rfl, hQ⟩
    exact (h _).2 hQ

theorem isUrl_received {j : JsJson} : isHttpUrl url (received j) ↔ IsUrl url j := by
  apply strOf_received
  · intro j hj
    cases j with
    | str s => exact ⟨s, rfl⟩
    | null | bool _ | num _ | arr _ | obj _ => cases hj
  · exact fun s => Iff.rfl

theorem oneOf_received {values : List String}
    (hvalues : values.map PyStr.ofString = values.map fun value => codePoints (js value)) {j : JsJson} :
    isOneOf values (received j) ↔ OneOf values j := by
  have hread : isOneOf values (received j) ↔
      ∃ s, j = .str s ∧ (values.map PyStr.ofString).contains (codePoints s) := by
    apply strOf_received
    · intro j hj
      cases j with
      | str s => exact ⟨s, rfl⟩
      | null | bool _ | num _ | arr _ | obj _ => cases hj
    · exact fun s => Iff.rfl
  rw [hread, hvalues]
  constructor
  · rintro ⟨s, rfl, hs⟩
    obtain ⟨value, hvalue, hsame⟩ := List.mem_map.1 (List.contains_iff_mem.1 hs)
    exact ⟨value, hvalue, congrArg Json.str (codePoints_injective hsame).symm⟩
  · rintro ⟨value, hvalue, rfl⟩
    exact ⟨js value, rfl, List.contains_iff_mem.2 (List.mem_map.2 ⟨value, hvalue, rfl⟩)⟩

end Values

/-! The models. -/

structure AssertionInput (assertion : JsObject) : Prop where
  keys : OnlyKeys ["path", "op", "value"] assertion
  path : Has "path" (IsText 1 500) assertion
  op : Has "op" (OneOf ["eq", "ne", "contains", "gte", "lte", "exists"]) assertion

structure CheckInput (texts : NumberTexts) (check : JsObject) : Prop where
  keys : OnlyKeys ["probe", "state", "score", "reason", "evidence"] check
  probe : Has "probe" (IsText 1 100) check
  state : Has "state" (OneOf ["PASS", "FAIL", "INCONCLUSIVE"]) check
  score : MayHave "score" (OrNull (IsUnit texts)) check
  reason : Has "reason" (IsText 1 2000) check
  evidence : MayHave "evidence" (ObjectOf ScalarKeys) check

theorem assertion_accepted_iff {j : JsJson} :
    fits Assertion.fields (received j) ↔ ObjectOf AssertionInput j := by
  apply objectOf_received fun _ => exists_of_fits
  intro assertion
  rw [received_obj]
  change fits _ (.obj (receivedEntries assertion)) ↔ _
  rw [fits_obj, onlyKeys_received ["path", "op", "value"] (by decide)]
  simp only [Assertion.fields, List.forall_mem_cons, List.not_mem_nil, false_implies, implies_true,
    and_true]
  rw [fits_has "path" (by decide) fun _ => isStr_received,
    fits_has "op" (by decide) fun _ => oneOf_received (by decide),
    fits_mayHave "value" (P := fun _ => True) (by decide) fun _ => iff_of_true rfl trivial]
  constructor
  · rintro ⟨hkeys, hpath, hop, -⟩
    exact ⟨hkeys, hpath, hop⟩
  · intro h
    exact ⟨h.keys, h.path, h.op, fun _ _ => trivial⟩

theorem check_accepted_iff {j : JsJson} :
    fits (IndependentCheck.fields texts) (received j) ↔ ObjectOf (CheckInput texts) j := by
  apply objectOf_received fun _ => exists_of_fits
  intro check
  rw [received_obj]
  change fits _ (.obj (receivedEntries check)) ↔ _
  rw [fits_obj, onlyKeys_received ["probe", "state", "score", "reason", "evidence"] (by
    simp only [IndependentCheck.fields, List.map_cons, List.map_nil]
    decide)]
  simp only [IndependentCheck.fields, List.forall_mem_cons, List.not_mem_nil, false_implies,
    implies_true, and_true]
  rw [fits_has "probe" (by decide) fun _ => isStr_received,
    fits_has "state" (by decide) fun _ => oneOf_received (by decide),
    fits_mayHave "score" (by decide) fun _ => orNone_received fun _ => isUnit_received,
    fits_has "reason" (by decide) fun _ => isStr_received,
    fits_mayHave "evidence" (by decide) fun _ => isDict_received]
  constructor
  · rintro ⟨hkeys, hprobe, hstate, hscore, hreason, hevidence⟩
    exact ⟨hkeys, hprobe, hstate, hscore, hreason, hevidence⟩
  · rintro ⟨hkeys, hprobe, hstate, hscore, hreason, hevidence⟩
    exact ⟨hkeys, hprobe, hstate, hscore, hreason, hevidence⟩

/-- The keys of the body, in its order. -/
def deliveryKeys : List String :=
  ["delivery_id", "provider_id", "task", "task_type", "output", "expected_schema", "assertions",
    "cited_urls", "independent_checks"]

section Body

variable (isPrintable texts url)

/-- What the model asks of values that are found under its keys. -/
structure DeliveryFields (value : String → Option JsJson) : Prop where
  delivery_id : ∃ j, value "delivery_id" = some j ∧ IsText 1 200 j
  provider_id : ∃ j, value "provider_id" = some j ∧ IsText 1 200 j
  task : ∃ j, value "task" = some j ∧ IsText 1 12000 j
  task_type : ∀ j, value "task_type" = some j → IsText 1 100 j
  output : ∃ j, value "output" = some j ∧ Bounded isPrintable j
  expected_schema : ∀ j, value "expected_schema" = some j → OrNull (ObjectOf ScalarKeys) j
  assertions : ∀ j, value "assertions" = some j → ListOf (ObjectOf AssertionInput) 64 j
  cited_urls : ∀ j, value "cited_urls" = some j → ListOf (IsUrl url) 32 j
  independent_checks : ∀ j, value "independent_checks" = some j →
    ListOf (ObjectOf (CheckInput texts)) 16 j

end Body

theorem delivery_accepted_iff {body : JsObject} (hkeys : OnlyKeys deliveryKeys body) :
    DeliveryVerificationRequest.accepts isPrintable texts url (received (.obj body)) ↔
      DeliveryFields isPrintable texts url fun key => property key body := by
  rw [DeliveryVerificationRequest.accepts, received_obj]
  change fits _ (.obj (receivedEntries body)) ↔ _
  rw [fits_obj, onlyKeys_received deliveryKeys (by
    simp only [DeliveryVerificationRequest.fields, deliveryKeys, List.map_cons, List.map_nil]
    decide), and_iff_right hkeys]
  simp only [DeliveryVerificationRequest.fields, List.forall_mem_cons, List.not_mem_nil, false_implies,
    implies_true, and_true]
  rw [fits_has "delivery_id" (by decide) fun _ => isStr_received,
    fits_has "provider_id" (by decide) fun _ => isStr_received,
    fits_has "task" (by decide) fun _ => isStr_received,
    fits_mayHave "task_type" (by decide) fun _ => isStr_received,
    fits_has "output" (P := Bounded isPrintable) (by decide) fun _ => Iff.rfl,
    fits_mayHave "expected_schema" (by decide) fun _ => orNone_received fun _ => isDict_received,
    fits_mayHave "assertions" (by decide) fun _ => listOf_received fun _ => assertion_accepted_iff,
    fits_mayHave "cited_urls" (by decide) fun _ => listOf_received fun _ => isUrl_received,
    fits_mayHave "independent_checks" (by decide) fun _ => listOf_received fun _ => check_accepted_iff]
  constructor
  · rintro ⟨hid, hprovider, htask, htype, houtput, hschema, hassertions, hurls, hchecks⟩
    exact ⟨hid, hprovider, htask, htype, houtput, hschema, hassertions, hurls, hchecks⟩
  · rintro ⟨hid, hprovider, htask, htype, houtput, hschema, hassertions, hurls, hchecks⟩
    exact ⟨hid, hprovider, htask, htype, houtput, hschema, hassertions, hurls, hchecks⟩

/-! The body. -/

/-- `[...value]` -/
def spreadValue : Option JsJson → Option JsJson
  | some (.str s) => some (.arr ((points s).map .str))
  | value => value

/-- What the body has under a key, if it has it. -/
def sentValue (trusted : JsObject) (key : String) : Option JsJson :=
  if key = "task_type" then some (taskTypeOf trusted)
  else if key ∈ ["assertions", "cited_urls", "independent_checks"] then
    spreadValue (property key trusted)
  else property key trusted

def sentValues (trusted : JsObject) : List (String × Option JsJson) :=
  deliveryKeys.map fun key => (key, sentValue trusted key)

def givenAll (values : List (String × Option JsJson)) : JsObject :=
  values.flatMap fun v => given v.1 v.2

theorem spread_eq_some {key : String} {value : Option JsJson} {object : JsObject}
    (h : spread key value = some object) : object = given key (spreadValue value) := by
  rcases value with _ | j
  · exact (Option.some.inj h).symm
  · cases j with
    | arr items => exact (Option.some.inj h).symm
    | str s => exact (Option.some.inj h).symm
    | null | bool _ | num _ | obj _ => cases h

theorem verifyBody_eq {trusted body : JsObject} (h : verifyBody trusted = some body) :
    body = givenAll (sentValues trusted) := by
  simp only [verifyBody, Option.bind_eq_bind, Option.bind_eq_some_iff] at h
  obtain ⟨assertions, hassertions, citedUrls, hurls, checks, hchecks, hbody⟩ := h
  rw [spread_eq_some hassertions, spread_eq_some hurls, spread_eq_some hchecks] at hbody
  rw [← Option.some.inj hbody]
  simp [givenAll, sentValues, deliveryKeys, sentValue, given]

section Given

variable {key : String} {value : Option JsJson} {values : List (String × Option JsJson)}

theorem key_of_given {f : JsString × JsJson} (hf : f ∈ given key value) : f.1 = js key := by
  obtain ⟨j, -, rfl⟩ := List.mem_map.1 hf
  rfl

theorem mem_givenAll {f : JsString × JsJson} (hf : f ∈ givenAll values) :
    ∃ v ∈ values, f.1 = js v.1 ∧ v.2 = some f.2 := by
  obtain ⟨v, hv, hgiven⟩ := List.mem_flatMap.1 hf
  obtain ⟨j, hj, rfl⟩ := List.mem_map.1 hgiven
  exact ⟨v, hv, rfl, Option.mem_toList.1 hj⟩

theorem property_givenAll_none (h : ∀ v ∈ values, js v.1 ≠ js key) :
    property key (givenAll values) = none := by
  rw [property, List.lookup_eq_none_iff]
  intro f hf
  obtain ⟨v, hv, hkey, -⟩ := mem_givenAll hf
  rw [hkey]
  simpa using (h v hv).symm

/-- Under each of the keys stands what was given for it. -/
theorem property_givenAll (hnodup : (values.map fun v => js v.1).Nodup) (hmem : (key, value) ∈ values) :
    property key (givenAll values) = value := by
  induction values with
  | nil => cases hmem
  | cons v rest ih =>
    obtain ⟨hnew, hrest⟩ := List.nodup_cons.1 hnodup
    have hsplit : property key (givenAll (v :: rest)) =
        (property key (given v.1 v.2)).or (property key (givenAll rest)) := List.lookup_append
    rw [hsplit]
    rcases List.mem_cons.1 hmem with rfl | hmem
    · have hnone : property key (givenAll rest) = none := by
        apply property_givenAll_none
        intro v hv hsame
        exact hnew (List.mem_map.2 ⟨v, hv, hsame⟩)
      rw [hnone, Option.or_none]
      cases value with
      | none => rfl
      | some j => simp [property, given]
    · have hnone : property key (given v.1 v.2) = none := by
        rw [property, List.lookup_eq_none_iff]
        intro f hf
        rw [key_of_given hf]
        have hne : js key ≠ js v.1 := fun hsame =>
          hnew (List.mem_map.2 ⟨(key, value), hmem, hsame⟩)
        simpa using hne
      rw [hnone, Option.none_or]
      exact ih hrest hmem

theorem distinctKeys_givenAll (hnodup : (values.map fun v => js v.1).Nodup)
    (hvalues : ∀ v ∈ values, ∀ j, v.2 = some j → DistinctKeys j) :
    DistinctKeys (.obj (givenAll values)) := by
  refine .obj ?_ (fun _ _ => trivial) ?_
  · have hsublist : ((givenAll values).map Prod.fst).Sublist (values.map fun v => js v.1) := by
      clear hnodup hvalues
      induction values with
      | nil => exact .slnil
      | cons v rest ih =>
        change ((given v.1 v.2 ++ givenAll rest).map Prod.fst).Sublist _
        rw [List.map_append]
        rcases v with ⟨key, _ | j⟩
        · exact ih.cons _
        · exact ih.cons_cons _
    exact hnodup.sublist hsublist
  · intro f hf
    obtain ⟨v, hv, -, hsome⟩ := mem_givenAll hf
    exact hvalues v hv _ hsome

end Given

theorem nodup_deliveryKeys : (deliveryKeys.map js).Nodup := by decide

variable {trusted : JsObject}

theorem keys_sentValues (trusted : JsObject) :
    (sentValues trusted).map (fun v => js v.1) = deliveryKeys.map js := rfl

theorem onlyKeys_sent : OnlyKeys deliveryKeys (givenAll (sentValues trusted)) := by
  intro f hf
  obtain ⟨v, hv, hkey, -⟩ := mem_givenAll hf
  rw [hkey, ← keys_sentValues trusted]
  exact List.mem_map_of_mem hv

theorem property_sent {key : String} (hkey : key ∈ deliveryKeys) :
    property key (givenAll (sentValues trusted)) = sentValue trusted key := by
  apply property_givenAll
  · rw [keys_sentValues]
    exact nodup_deliveryKeys
  · exact List.mem_map_of_mem hkey

theorem distinctKeys_spreadValue {value : Option JsJson} (h : ∀ j, value = some j → DistinctKeys j)
    {j : JsJson} (hj : spreadValue value = some j) : DistinctKeys j := by
  rcases value with _ | i
  · cases hj
  · cases i with
    | str s =>
      cases hj
      apply Readable.arr
      intro item hitem
      obtain ⟨p, -, rfl⟩ := List.mem_map.1 hitem
      exact .str trivial
    | null | bool _ | num _ | arr _ | obj _ => exact h j hj

theorem distinctKeys_taskTypeOf (h : DistinctKeys (.obj trusted)) : DistinctKeys (taskTypeOf trusted) := by
  have hproperty : ∀ j, property "task_type" trusted = some j → DistinctKeys j :=
    fun j => distinctKeys_property h
  rw [taskTypeOf]
  split
  · exact .str trivial
  · exact .str trivial
  · rename_i htype
    exact hproperty _ htype

theorem distinctKeys_sent (h : DistinctKeys (.obj trusted)) :
    DistinctKeys (.obj (givenAll (sentValues trusted))) := by
  apply distinctKeys_givenAll
  · rw [keys_sentValues]
    exact nodup_deliveryKeys
  · intro v hv j hj
    obtain ⟨key, -, rfl⟩ := List.mem_map.1 hv
    simp only [sentValue] at hj
    split_ifs at hj
    · cases hj
      exact distinctKeys_taskTypeOf h
    · exact distinctKeys_spreadValue (fun j => distinctKeys_property h) hj
    · exact distinctKeys_property h hj

/-! What is put before the backend. -/

/-- Evidence that the backend takes, whatever else it says. -/
def DeliveryInput (isPrintable : CodePoint → Bool) (texts : NumberTexts) (url : PyStr → Bool)
    (trusted : JsObject) : Prop := DeliveryFields isPrintable texts url (sentValue trusted)

theorem DeliveryFields.of_same {value value' : String → Option JsJson}
    (hsame : ∀ key ∈ deliveryKeys, value key = value' key)
    (h : DeliveryFields isPrintable texts url value) : DeliveryFields isPrintable texts url value' := by
  simp only [deliveryKeys, List.forall_mem_cons, List.not_mem_nil, false_implies, implies_true,
    and_true] at hsame
  obtain ⟨hid, hprovider, htask, htype, houtput, hschema, hassertions, hurls, hchecks⟩ := hsame
  constructor
  · exact hid ▸ h.delivery_id
  · exact hprovider ▸ h.provider_id
  · exact htask ▸ h.task
  · exact htype ▸ h.task_type
  · exact houtput ▸ h.output
  · exact hschema ▸ h.expected_schema
  · exact hassertions ▸ h.assertions
  · exact hurls ▸ h.cited_urls
  · exact hchecks ▸ h.independent_checks

theorem sent_body {body : JsObject} (h : verifyBody trusted = some body)
    (hkeys : DistinctKeys (.obj trusted)) : ∃ read, loads (stringify (.obj body)) = some read ∧
      (DeliveryVerificationRequest.accepts isPrintable texts url read ↔
        DeliveryInput isPrintable texts url trusted) := by
  rw [verifyBody_eq h]
  refine ⟨_, loads_stringify (distinctKeys_sent hkeys), ?_⟩
  rw [delivery_accepted_iff onlyKeys_sent, DeliveryInput]
  constructor
  · exact DeliveryFields.of_same fun key hkey => property_sent hkey
  · exact DeliveryFields.of_same fun key hkey => (property_sent hkey).symm

theorem unspreadable_iff : verifyBody trusted = none ↔ Unspreadable trusted := by
  constructor
  · intro h
    by_contra hspread
    have hsome : ∀ key ∈ ["assertions", "cited_urls", "independent_checks"],
        ∃ object, spread key (property key trusted) = some object := by
      intro key hkey
      exact Option.ne_none_iff_exists'.1 fun hnone => hspread ⟨key, hkey, hnone⟩
    obtain ⟨assertions, hassertions⟩ := hsome "assertions" (by decide)
    obtain ⟨urls, hurls⟩ := hsome "cited_urls" (by decide)
    obtain ⟨checks, hchecks⟩ := hsome "independent_checks" (by decide)
    simp [verifyBody, hassertions, hurls, hchecks] at h
  · exact verifyBody_of_unspreadable

theorem TrustedDelivery.keys_read (delivery : TrustedDelivery) : DistinctKeys (.obj delivery.read) := by
  have hwritten : written (.obj delivery.evidence) = .obj delivery.read := bindNum_obj _
  rw [← hwritten]
  exact distinctKeys_written delivery.keys

/-! Runs. -/

variable {calls before after : EvidenceCalls} {t : TrustedDeliveries} {deliveryId : JsString}

/-- The delivery that a call stores in the row of a key. -/
def storedIn (key : JsString) : (op : EvidenceOp) × op.Result → Option TrustedDelivery
  | ⟨.storeTrustedDelivery delivery, .ok _⟩ =>
    if bindString delivery.deliveryId = key then some delivery else none
  | _ => none

/-- The delivery that was last stored in the row of the id; of ids that differ in lone surrogates the
row is one. -/
def lastUnder (deliveryId : JsString) (calls : EvidenceCalls) : Option TrustedDelivery :=
  (calls.filterMap (storedIn (bindString deliveryId))).getLast?

theorem lastUnder_snoc (calls : EvidenceCalls) (call : (op : EvidenceOp) × op.Result) :
    lastUnder deliveryId (calls ++ [call]) =
      (storedIn (bindString deliveryId) call).or (lastUnder deliveryId calls) := by
  rw [lastUnder, List.filterMap_append, List.getLast?_append]
  cases hstored : storedIn (bindString deliveryId) call <;> simp [hstored, lastUnder]

/-- The table has the delivery that was last stored in each row. -/
theorem row_lastUnder (h : Calls EvidenceOp.Exec (fun _ => none) calls t) (deliveryId : JsString) :
    t (bindString deliveryId) = (lastUnder deliveryId calls).map TrustedDelivery.evidenceJson := by
  induction h with
  | nil => rfl
  | @call past s s' op r hcalls hexec hok ih =>
    rw [lastUnder_snoc]
    rcases hexec with ⟨rfl, error, rfl⟩ | ⟨rfl, rfl⟩
    · have hnone : storedIn (bindString deliveryId) ⟨op, .error error⟩ = none := by cases op <;> rfl
      rw [hnone, Option.none_or]
      exact ih
    · cases op with
      | verifyDelivery arguments => exact ih
      | storeTrustedDelivery delivery =>
        change storeTrustedDelivery delivery s (bindString deliveryId) = _
        rw [storeTrustedDelivery]
        by_cases hid : bindString delivery.deliveryId = bindString deliveryId
        · rw [hid, Function.update_self]
          simp [storedIn, hid]
        · rw [Function.update_of_ne (Ne.symm hid), ih]
          simp [storedIn, hid]

/-- The evidence that is on record for an id: the last delivery of its row, if that has the id. -/
def onRecord (deliveryId : JsString) (calls : EvidenceCalls) : Option TrustedDelivery :=
  (lastUnder deliveryId calls).filter fun delivery => delivery.deliveryId = deliveryId

/-- Among ids without lone surrogates it is the delivery that was last stored under the id. -/
theorem onRecord_eq (hid : IsWellFormed deliveryId)
    (h : ∀ delivery r, ⟨.storeTrustedDelivery delivery, r⟩ ∈ calls → IsWellFormed delivery.deliveryId) :
    onRecord deliveryId calls = (calls.filterMap (storedUnder deliveryId)).getLast? := by
  have hcalls : ∀ call ∈ calls, storedIn (bindString deliveryId) call = storedUnder deliveryId call := by
    rintro ⟨op, r⟩ hmem
    cases op with
    | verifyDelivery arguments => rfl
    | storeTrustedDelivery delivery =>
      cases r with
      | error e => rfl
      | ok =>
        have hbound : bindString deliveryId = deliveryId := hid
        have hstored : bindString delivery.deliveryId = delivery.deliveryId := h delivery _ hmem
        rw [storedIn, storedUnder, hbound, hstored]
  rw [onRecord, lastUnder, List.filterMap_congr hcalls]
  cases hlast : (calls.filterMap (storedUnder deliveryId)).getLast? with
  | none => rfl
  | some delivery =>
    obtain ⟨call, -, hstored⟩ := List.mem_filterMap.1 (List.mem_of_getLast? hlast)
    rw [Option.filter_some, if_pos (decide_eq_true (storedUnder_deliveryId hstored))]

/-- What a call of the tool comes to, by the delivery that is on record for it. -/
inductive Verifies (isPrintable : CodePoint → Bool) (texts : NumberTexts) (url : PyStr → Bool) :
    Option TrustedDelivery → Invocation → Prop
  | noEvidence : Verifies isPrintable texts url none .noEvidence
  | thrown {delivery : TrustedDelivery} (h : Unspreadable delivery.read) :
    Verifies isPrintable texts url (some delivery) .thrown
  | sent {delivery : TrustedDelivery} {text : Text} {body : PyJson} (h : ¬Unspreadable delivery.read)
      (hloads : loads text = some body)
      (haccepts : DeliveryVerificationRequest.accepts isPrintable texts url body ↔
        DeliveryInput isPrintable texts url delivery.read) :
    Verifies isPrintable texts url (some delivery) (.sent text)

/-- Whoever stores what, a call of the tool goes by the delivery that is on record for its id: without
one nothing is sent, and what is sent is taken by the backend exactly when the fields that the model
knows are as it asks, whatever else was stored. -/
theorem stored_delivery_verified {Req α : Type} {program : Req → Prog EvidenceOp EvidenceOp.Result α}
    {history : List (Event Req EvidenceOp.Result α)}
    {c : Config Req EvidenceOp.Result α TrustedDeliveries}
    (hrun : Run EvidenceOp.Exec program (fun _ => none) history c) {arguments : JsObject}
    {invocation : Invocation}
    (hcalls : Interleave.calls history = before ++ ⟨.verifyDelivery arguments, .ok invocation⟩ :: after)
    (hparse : parseArguments arguments = some deliveryId) (isPrintable : CodePoint → Bool)
    (texts : NumberTexts) (url : PyStr → Bool) :
    Verifies isPrintable texts url (onRecord deliveryId before) invocation := by
  have hall := hrun.calls
  rw [hcalls] at hall
  obtain ⟨t, t', hbefore, ⟨-, error, herror⟩ | ⟨hinvocation, -⟩⟩ := hall.split
  · cases herror
  · obtain rfl : invocation = trustedVerifyDelivery arguments t := Except.ok.inj hinvocation
    rw [trustedVerifyDelivery_eq hparse, row_lastUnder hbefore, onRecord]
    cases hlast : lastUnder deliveryId before with
    | none => exact .noEvidence
    | some delivery =>
      change Verifies _ _ _ _ (invokeOn deliveryId delivery.evidenceJson)
      by_cases hid : delivery.deliveryId = deliveryId
      case neg =>
        have hother : invokeOn deliveryId delivery.evidenceJson = .noEvidence := by
          by_contra hfound
          exact hid (deliveryId_of_invokeOn hfound)
        rw [hother, Option.filter_some, if_neg (by simpa using hid)]
        exact .noEvidence
      subst hid
      rw [Option.filter_some, if_pos (decide_eq_true rfl), invokeOn_stored]
      cases hbody : verifyBody delivery.read with
      | none => exact .thrown (unspreadable_iff.1 hbody)
      | some body =>
        obtain ⟨read, hloads, haccepts⟩ := sent_body hbody delivery.keys_read
        refine .sent ?_ hloads haccepts
        rw [← unspreadable_iff, hbody]
        exact Option.some_ne_none body

/-- Of the optional fields the delivery has none. -/
theorem deliveryInput_one :
    DeliveryInput (fun _ => true) noTexts (fun _ => true) (deliveryOne true).read := by
  constructor
  · exact ⟨_, rfl, isStr_received.1 (by decide +kernel)⟩
  · exact ⟨_, rfl, isStr_received.1 (by decide +kernel)⟩
  · exact ⟨_, rfl, isStr_received.1 (by decide +kernel)⟩
  · intro j hj
    cases hj
    exact isStr_received.1 (by decide +kernel)
  · have hbounded : isBounded (fun _ => true) (received (.bool true)) := by decide +kernel
    exact ⟨.bool true, rfl, hbounded⟩
  · intro j hj
    cases hj
  · intro j hj
    cases hj
  · intro j hj
    cases hj
  · intro j hj
    cases hj

/-- A delivery is stored and then asked for, and what is sent of it is taken. -/
theorem stored_delivery_verified_one :
    ∃ (history : List (Event EvidenceOp EvidenceOp.Result Unit))
      (c : Config EvidenceOp EvidenceOp.Result Unit TrustedDeliveries) (before : EvidenceCalls)
      (text : Text) (body : PyJson),
      Run EvidenceOp.Exec oneCall (fun _ => none) history c ∧
      Interleave.calls history = before ++ [⟨.verifyDelivery askForOne, .ok (.sent text)⟩] ∧
      onRecord (js "delivery-1") before = some (deliveryOne true) ∧ loads text = some body ∧
      DeliveryVerificationRequest.accepts (fun _ => true) noTexts (fun _ => true) body := by
  have hfirst : Calls EvidenceOp.Exec (fun _ => none) [] (fun _ => none) := .nil
  have hstored := hfirst.answered (.storeTrustedDelivery (deliveryOne true)) trivial
  obtain ⟨history, hrun, hcalls⟩ := (hstored.answered (.verifyDelivery askForOne) trivial).exists_run
  have hrun : Run EvidenceOp.Exec oneCall (fun _ => none) history _ :=
    hrun.mono (fun _ _ _ _ hexec => hexec) fun _ _ _ _ => trivial
  have hparse : parseArguments askForOne = some (js "delivery-1") := by decide
  have hverified := stored_delivery_verified hrun hcalls hparse (fun _ => true) noTexts fun _ => true
  have hlast : onRecord (js "delivery-1") ([] ++ [⟨.storeTrustedDelivery (deliveryOne true), .ok ()⟩]) =
    some (deliveryOne true) := rfl
  change Verifies _ _ _ (onRecord (js "delivery-1")
    ([] ++ [⟨.storeTrustedDelivery (deliveryOne true), .ok ()⟩])) _ at hverified
  rw [hlast] at hverified
  generalize hinvocation : (EvidenceOp.answer (.verifyDelivery askForOne) _).1 = invocation
    at hcalls hverified
  cases hverified with
  | thrown h =>
    have hsome : (verifyBody (deliveryOne true).read).isSome := by decide +kernel
    rw [unspreadable_iff.2 h] at hsome
    cases hsome
  | sent h hloads haccepts =>
    exact ⟨history, _, _, _, _, hrun, hcalls, hlast, hloads, haccepts.2 deliveryInput_one⟩

end Counterparty.Arena
