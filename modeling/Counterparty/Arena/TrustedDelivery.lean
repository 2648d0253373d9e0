import Counterparty.Library.Calls
import Counterparty.Arena.Store

/-! The evidence of deliveries: stored by the host, and put before the backend by the tool that
verifies them. -/
namespace Counterparty.Arena

open Json Interleave

/-- An object with the `delivery_id` that it is stored under. -/
structure TrustedDelivery where
  evidence : JsObject
  deliveryId : JsString
  keys : DistinctKeys (.obj evidence)
  deliveryId_eq : property "delivery_id" evidence = some (.str deliveryId)

/-- `trusted_deliveries`, by its PRIMARY KEY(delivery_id): the evidence as JSON, which escapes what
would not be kept of it. -/
abbrev TrustedDeliveries := JsString → Option Text

def TrustedDelivery.evidenceJson (delivery : TrustedDelivery) : Text :=
  stringify (.obj delivery.evidence)

/-- `INSERT OR REPLACE` -/
def storeTrustedDelivery (delivery : TrustedDelivery) (t : TrustedDeliveries) : TrustedDeliveries :=
  Function.update t (bindString delivery.deliveryId) (some delivery.evidenceJson)

/-! The tool. -/

/-- What a call of the tool comes to; the answer of the backend is left open. -/
inductive Invocation
  | thrown
  | noEvidence
  | sent (body : Text)
deriving DecidableEq

def parseArguments (arguments : JsObject) : Option JsString :=
  match property "delivery_id" arguments with
  | some (.str deliveryId) =>
    if deliveryId.length = 0 ∨ deliveryId.length > 200 then none else some deliveryId
  | _ => none

/-- `{ key: value }`, of a value that may be undefined. -/
def given (key : String) (value : Option JsJson) : JsObject := value.toList.map fun v => (js key, v)

/-- `value === undefined ? {} : { key: [...value] }`; what cannot be spread throws. -/
def spread (key : String) : Option JsJson → Option JsObject
  | none => some []
  | some (.arr items) => some [(js key, .arr items)]
  | some (.str s) => some [(js key, .arr ((points s).map .str))]
  | some _ => none

/-- `trusted.task_type ?? "general"` -/
def taskTypeOf (trusted : JsObject) : JsJson :=
  match property "task_type" trusted with
  | none | some .null => .str (js "general")
  | some taskType => taskType

def verifyBody (trusted : JsObject) : Option JsObject := do
  let assertions ← spread "assertions" (property "assertions" trusted)
  let citedUrls ← spread "cited_urls" (property "cited_urls" trusted)
  let independentChecks ← spread "independent_checks" (property "independent_checks" trusted)
  return given "delivery_id" (property "delivery_id" trusted) ++
    given "provider_id" (property "provider_id" trusted) ++ given "task" (property "task" trusted) ++
    [(js "task_type", taskTypeOf trusted)] ++ given "output" (property "output" trusted) ++
    given "expected_schema" (property "expected_schema" trusted) ++ assertions ++ citedUrls ++
    independentChecks

/-- The call on evidence that was found for the id. -/
def invokeOn (deliveryId : JsString) (evidenceJson : Text) : Invocation :=
  match parseJson evidenceJson with
  | some (.obj trusted) =>
    if isDeliveryId deliveryId (property "delivery_id" trusted) then
      match verifyBody trusted with
      | some body => .sent (stringify (.obj body))
      | none => .thrown
    else .noEvidence
  | _ => .thrown
where
  /-- `trusted.delivery_id === deliveryId` -/
  isDeliveryId (deliveryId : JsString) : Option JsJson → Bool
    | some (.str id) => id == deliveryId
    | _ => false

def trustedVerifyDelivery (arguments : JsObject) (t : TrustedDeliveries) : Invocation :=
  match parseArguments arguments with
  | none => .thrown
  | some deliveryId =>
    match t (bindString deliveryId) with
    | none => .noEvidence
    | some evidenceJson => invokeOn deliveryId evidenceJson

inductive EvidenceOp
  | storeTrustedDelivery (delivery : TrustedDelivery)
  | verifyDelivery (arguments : JsObject)

@[reducible] def EvidenceOp.Ret : EvidenceOp → Type
  | .storeTrustedDelivery _ => Unit
  | .verifyDelivery _ => Invocation

def EvidenceOp.answer (op : EvidenceOp) (t : TrustedDeliveries) : op.Ret × TrustedDeliveries :=
  match op with
  | .storeTrustedDelivery delivery => ((), Arena.storeTrustedDelivery delivery t)
  | .verifyDelivery arguments => (trustedVerifyDelivery arguments t, t)

abbrev EvidenceOp.Result (op : EvidenceOp) : Type := Except StoreError op.Ret

abbrev EvidenceCalls := List ((op : EvidenceOp) × op.Result)

/-- Any statement may fail. -/
def EvidenceOp.Exec : (op : EvidenceOp) → TrustedDeliveries → op.Result → TrustedDeliveries → Prop :=
  Fallible EvidenceOp.answer

/-! What is read back of evidence that was stored. -/

def TrustedDelivery.read (delivery : TrustedDelivery) : JsObject :=
  delivery.evidence.map fun f => (f.1, written f.2)

theorem TrustedDelivery.parseJson_eq (delivery : TrustedDelivery) :
    parseJson delivery.evidenceJson = some (.obj delivery.read) := by
  have hread : parseJson delivery.evidenceJson = some (written (.obj delivery.evidence)) :=
    parseJson_stringify delivery.keys
  rw [hread]
  exact congrArg some (bindNum_obj _)

theorem TrustedDelivery.property_read (delivery : TrustedDelivery) :
    property "delivery_id" delivery.read = some (.str delivery.deliveryId) := by
  rw [TrustedDelivery.read, property_map, delivery.deliveryId_eq]
  rfl

theorem invokeOn_stored (delivery : TrustedDelivery) :
    invokeOn delivery.deliveryId delivery.evidenceJson =
      match verifyBody delivery.read with
      | some body => .sent (stringify (.obj body))
      | none => .thrown := by
  rw [invokeOn, delivery.parseJson_eq]
  simp only [delivery.property_read, invokeOn.isDeliveryId, beq_self_eq_true, if_true]

/-- Evidence that was stored is found under its id. -/
theorem invokeOn_ne_noEvidence (delivery : TrustedDelivery) :
    invokeOn delivery.deliveryId delivery.evidenceJson ≠ .noEvidence := by
  rw [invokeOn_stored]
  cases verifyBody delivery.read <;> simp

/-- All that the tool sends of two pieces of evidence, apart from their ids, is the same. -/
structure SameEvidence (trusted trusted' : JsObject) : Prop where
  providerId_eq : property "provider_id" trusted = property "provider_id" trusted'
  task_eq : property "task" trusted = property "task" trusted'
  taskType_eq : taskTypeOf trusted = taskTypeOf trusted'
  output_eq : property "output" trusted = property "output" trusted'
  expectedSchema_eq : property "expected_schema" trusted = property "expected_schema" trusted'
  lists_eq : ∀ key ∈ ["assertions", "cited_urls", "independent_checks"],
    spread key (property key trusted) = spread key (property key trusted')

/-- Evidence with something other than a list in the place of a list: the tool throws. -/
def Unspreadable (trusted : JsObject) : Prop :=
  ∃ key ∈ ["assertions", "cited_urls", "independent_checks"],
    spread key (property key trusted) = none

/-- The tool makes the same call on both, if they have the same id. -/
def SentAlike (trusted trusted' : JsObject) : Prop :=
  SameEvidence trusted trusted' ∨ (Unspreadable trusted ∧ Unspreadable trusted')

theorem verifyBody_of_unspreadable {trusted : JsObject} (h : Unspreadable trusted) :
    verifyBody trusted = none := by
  obtain ⟨key, hkey, hspread⟩ := h
  simp only [List.mem_cons, List.not_mem_nil, or_false] at hkey
  rw [verifyBody]
  rcases hkey with rfl | rfl | rfl
  · simp [hspread]
  · simp [hspread]
  · simp [hspread]

theorem SameEvidence.verifyBody_eq {trusted trusted' : JsObject} (h : SameEvidence trusted trusted')
    (hid : property "delivery_id" trusted = property "delivery_id" trusted') :
    verifyBody trusted = verifyBody trusted' := by
  have hassertions := h.lists_eq "assertions" (by decide)
  have hcitedUrls := h.lists_eq "cited_urls" (by decide)
  have hchecks := h.lists_eq "independent_checks" (by decide)
  simp only [verifyBody, hid, h.providerId_eq, h.task_eq, h.taskType_eq, h.output_eq,
    h.expectedSchema_eq, hassertions, hcitedUrls, hchecks]

theorem SameEvidence.refl (trusted : JsObject) : SameEvidence trusted trusted :=
  ⟨rfl, rfl, rfl, rfl, rfl, fun _ _ => rfl⟩

theorem SameEvidence.unspreadable_iff {trusted trusted' : JsObject} (h : SameEvidence trusted trusted') :
    Unspreadable trusted ↔ Unspreadable trusted' := by
  constructor
  · rintro ⟨key, hkey, hnone⟩
    exact ⟨key, hkey, (h.lists_eq key hkey).symm.trans hnone⟩
  · rintro ⟨key, hkey, hnone⟩
    exact ⟨key, hkey, (h.lists_eq key hkey).trans hnone⟩

theorem SameEvidence.trans {a b c : JsObject} (hab : SameEvidence a b) (hbc : SameEvidence b c) :
    SameEvidence a c where
  providerId_eq := hab.providerId_eq.trans hbc.providerId_eq
  task_eq := hab.task_eq.trans hbc.task_eq
  taskType_eq := hab.taskType_eq.trans hbc.taskType_eq
  output_eq := hab.output_eq.trans hbc.output_eq
  expectedSchema_eq := hab.expectedSchema_eq.trans hbc.expectedSchema_eq
  lists_eq key hkey := (hab.lists_eq key hkey).trans (hbc.lists_eq key hkey)

theorem SentAlike.trans {a b c : JsObject} (hab : SentAlike a b) (hbc : SentAlike b c) :
    SentAlike a c := by
  rcases hab with hab | ⟨ha, hb⟩
  · rcases hbc with hbc | ⟨hb, hc⟩
    · exact .inl (hab.trans hbc)
    · exact .inr ⟨hab.unspreadable_iff.2 hb, hc⟩
  · rcases hbc with hbc | ⟨-, hc⟩
    · exact .inr ⟨ha, hbc.unspreadable_iff.1 hb⟩
    · exact .inr ⟨ha, hc⟩

/-- The tool makes the same call on evidence that is the same to it. -/
theorem SentAlike.invokeOn_eq {delivery last : TrustedDelivery}
    (h : SentAlike delivery.read last.read) (hid : last.deliveryId = delivery.deliveryId) :
    invokeOn last.deliveryId last.evidenceJson = invokeOn delivery.deliveryId delivery.evidenceJson := by
  have hbody : verifyBody last.read = verifyBody delivery.read := by
    rcases h with hsame | ⟨hdelivery, hlast⟩
    · refine (hsame.verifyBody_eq ?_).symm
      rw [last.property_read, delivery.property_read, hid]
    · rw [verifyBody_of_unspreadable hlast, verifyBody_of_unspreadable hdelivery]
  rw [invokeOn_stored, invokeOn_stored, hbody]

/-- Evidence is used for its own id alone. -/
theorem deliveryId_of_invokeOn {delivery : TrustedDelivery} {deliveryId : JsString}
    (h : invokeOn deliveryId delivery.evidenceJson ≠ .noEvidence) : delivery.deliveryId = deliveryId := by
  by_contra hne
  refine h ?_
  rw [invokeOn, delivery.parseJson_eq]
  simp only [delivery.property_read, invokeOn.isDeliveryId, beq_iff_eq, hne, if_false]

/-! Runs. -/

/-- The delivery that a call stores under the id. -/
def storedUnder (deliveryId : JsString) : (op : EvidenceOp) × op.Result → Option TrustedDelivery
  | ⟨.storeTrustedDelivery delivery, .ok _⟩ =>
    if delivery.deliveryId = deliveryId then some delivery else none
  | _ => none

/-- The delivery that was first stored under the id. -/
def firstStored (deliveryId : JsString) (calls : EvidenceCalls) : Option TrustedDelivery :=
  calls.findSome? (storedUnder deliveryId)

/-- What is stored over evidence is the same to the tool. -/
def KeepsEvidence (t : TrustedDeliveries) : (op : EvidenceOp) → op.Result → Prop
  | .storeTrustedDelivery delivery, .ok _ => ∀ evidenceJson trusted trusted',
    t (bindString delivery.deliveryId) = some evidenceJson →
    parseJson evidenceJson = some (.obj trusted) →
    parseJson delivery.evidenceJson = some (.obj trusted') → SentAlike trusted trusted'
  | _, _ => True

/-- What is on record was stored under its id, and is to the tool what the first delivery under each
id was that is bound as its key. -/
structure SaysFirst (calls : EvidenceCalls) (t : TrustedDeliveries) : Prop where
  stored : ∀ key evidenceJson, t key = some evidenceJson → ∃ last : TrustedDelivery,
    evidenceJson = last.evidenceJson ∧ (firstStored last.deliveryId calls).isSome
  first : ∀ deliveryId delivery, firstStored deliveryId calls = some delivery →
    ∃ last : TrustedDelivery, t (bindString deliveryId) = some last.evidenceJson ∧
      SentAlike delivery.read last.read

/-- A call of the tool found no evidence, or what the first delivery under its id says. -/
def AnswersFirst (calls : EvidenceCalls) : Prop :=
  ∀ arguments deliveryId invocation,
    ⟨.verifyDelivery arguments, .ok invocation⟩ ∈ calls → parseArguments arguments = some deliveryId →
    invocation ≠ .noEvidence → ∃ delivery, firstStored deliveryId calls = some delivery ∧
      invocation = invokeOn deliveryId delivery.evidenceJson

variable {calls : EvidenceCalls} {t t' : TrustedDeliveries} {deliveryId : JsString}

theorem storedUnder_deliveryId {call : (op : EvidenceOp) × op.Result} {delivery : TrustedDelivery}
    (h : storedUnder deliveryId call = some delivery) : delivery.deliveryId = deliveryId := by
  obtain ⟨op, r⟩ := call
  cases op with
  | verifyDelivery arguments => cases h
  | storeTrustedDelivery stored =>
    cases r with
    | error e => cases h
    | ok =>
      rw [storedUnder] at h
      split_ifs at h with hid
      exact Option.some.inj h ▸ hid

theorem firstStored_snoc_of_some {delivery : TrustedDelivery}
    (h : firstStored deliveryId calls = some delivery) (call : (op : EvidenceOp) × op.Result) :
    firstStored deliveryId (calls ++ [call]) = some delivery := by
  rw [firstStored, List.findSome?_append]
  rw [firstStored] at h
  rw [h]
  rfl

theorem firstStored_snoc_of_none (h : firstStored deliveryId calls = none)
    (call : (op : EvidenceOp) × op.Result) :
    firstStored deliveryId (calls ++ [call]) = storedUnder deliveryId call := by
  rw [firstStored, List.findSome?_append]
  rw [firstStored] at h
  rw [h]
  simp

theorem firstStored_deliveryId {delivery : TrustedDelivery}
    (h : firstStored deliveryId calls = some delivery) : delivery.deliveryId = deliveryId := by
  obtain ⟨⟨op, r⟩, -, hstored⟩ := List.exists_of_findSome?_eq_some h
  exact storedUnder_deliveryId hstored

theorem isSome_firstStored_snoc {call : (op : EvidenceOp) × op.Result}
    (h : (firstStored deliveryId calls).isSome) : (firstStored deliveryId (calls ++ [call])).isSome := by
  obtain ⟨delivery, hfirst⟩ := Option.isSome_iff_exists.1 h
  rw [firstStored_snoc_of_some hfirst]
  rfl

theorem SaysFirst.snoc {call : (op : EvidenceOp) × op.Result} (h : SaysFirst calls t)
    (hcall : ∀ deliveryId, storedUnder deliveryId call = none) : SaysFirst (calls ++ [call]) t := by
  constructor
  · intro key evidenceJson hrow
    obtain ⟨last, hlast, hfirst⟩ := h.stored key evidenceJson hrow
    exact ⟨last, hlast, isSome_firstStored_snoc hfirst⟩
  · intro deliveryId delivery hfirst
    cases hbefore : firstStored deliveryId calls with
    | none =>
      rw [firstStored_snoc_of_none hbefore, hcall] at hfirst
      cases hfirst
    | some first =>
      rw [firstStored_snoc_of_some hbefore] at hfirst
      exact h.first deliveryId delivery (hbefore.trans hfirst)

/-- A delivery that is stored is to the tool what was there before. -/
theorem SaysFirst.store {delivery : TrustedDelivery} (h : SaysFirst calls t)
    (hkeeps : KeepsEvidence t (.storeTrustedDelivery delivery) (.ok ())) :
    SaysFirst (calls ++ [⟨.storeTrustedDelivery delivery, .ok ()⟩]) (storeTrustedDelivery delivery t) := by
  have hhere : storeTrustedDelivery delivery t (bindString delivery.deliveryId) =
      some delivery.evidenceJson := Function.update_self ..
  have hstored : storedUnder delivery.deliveryId ⟨.storeTrustedDelivery delivery, .ok ()⟩ =
      some delivery := if_pos rfl
  constructor
  · intro key evidenceJson hrow
    by_cases hkey : key = bindString delivery.deliveryId
    · subst hkey
      refine ⟨delivery, Option.some.inj (hrow.symm.trans hhere), ?_⟩
      cases hbefore : firstStored delivery.deliveryId calls with
      | none => rw [firstStored_snoc_of_none hbefore, hstored, Option.isSome_some]
      | some first => rw [firstStored_snoc_of_some hbefore, Option.isSome_some]
    · rw [storeTrustedDelivery, Function.update_of_ne hkey] at hrow
      obtain ⟨last, hlast, hfirst⟩ := h.stored key evidenceJson hrow
      exact ⟨last, hlast, isSome_firstStored_snoc hfirst⟩
  · intro deliveryId first hfirst
    cases hbefore : firstStored deliveryId calls with
    | none =>
      -- the first delivery under its id is the one that is stored now
      rw [firstStored_snoc_of_none hbefore, storedUnder] at hfirst
      split_ifs at hfirst with hid
      obtain rfl := Option.some.inj hfirst
      exact ⟨delivery, hid ▸ hhere, .inl (.refl _)⟩
    | some first' =>
      rw [firstStored_snoc_of_some hbefore] at hfirst
      obtain rfl := Option.some.inj hfirst
      obtain ⟨last, hlast, halike⟩ := h.first deliveryId first' hbefore
      by_cases hkey : bindString deliveryId = bindString delivery.deliveryId
      · rw [hkey] at hlast ⊢
        exact ⟨delivery, hhere, halike.trans (hkeeps _ _ _ hlast last.parseJson_eq delivery.parseJson_eq)⟩
      · refine ⟨last, ?_, halike⟩
        rw [storeTrustedDelivery, Function.update_of_ne hkey]
        exact hlast

/-- What is found for an id is what the first delivery under it says. -/
theorem SaysFirst.invokeOn_eq (h : SaysFirst calls t) {evidenceJson : Text}
    (hrow : t (bindString deliveryId) = some evidenceJson)
    (hfound : invokeOn deliveryId evidenceJson ≠ .noEvidence) :
    ∃ delivery, firstStored deliveryId calls = some delivery ∧
      invokeOn deliveryId evidenceJson = invokeOn deliveryId delivery.evidenceJson := by
  obtain ⟨last, rfl, hfirst⟩ := h.stored _ _ hrow
  obtain rfl := deliveryId_of_invokeOn hfound
  obtain ⟨delivery, hdelivery⟩ := Option.isSome_iff_exists.1 hfirst
  obtain ⟨last', hlast', halike⟩ := h.first _ _ hdelivery
  have hread : last'.read = last.read := by
    have hjson : last'.evidenceJson = last.evidenceJson := Option.some.inj (hlast'.symm.trans hrow)
    have hparse := last'.parseJson_eq
    rw [hjson, last.parseJson_eq] at hparse
    injection hparse with hparse
    injection hparse with hparse
    exact hparse.symm
  have hid : last.deliveryId = delivery.deliveryId := (firstStored_deliveryId hdelivery).symm
  rw [hread] at halike
  refine ⟨delivery, hdelivery, ?_⟩
  calc invokeOn last.deliveryId last.evidenceJson
      = invokeOn delivery.deliveryId delivery.evidenceJson := halike.invokeOn_eq hid
    _ = invokeOn last.deliveryId delivery.evidenceJson := by rw [hid]

theorem AnswersFirst.snoc {call : (op : EvidenceOp) × op.Result} (h : AnswersFirst calls)
    (hcall : ∀ arguments deliveryId invocation,
      call = ⟨.verifyDelivery arguments, .ok invocation⟩ →
      parseArguments arguments = some deliveryId → invocation ≠ .noEvidence →
      ∃ delivery, firstStored deliveryId (calls ++ [call]) = some delivery ∧
        invocation = invokeOn deliveryId delivery.evidenceJson) :
    AnswersFirst (calls ++ [call]) := by
  intro arguments deliveryId invocation hmem hparse hfound
  rcases List.mem_append.1 hmem with hmem | hmem
  · obtain ⟨delivery, hfirst, hsays⟩ := h arguments deliveryId invocation hmem hparse hfound
    exact ⟨delivery, firstStored_snoc_of_some hfirst _, hsays⟩
  · exact hcall arguments deliveryId invocation (List.mem_singleton.1 hmem).symm hparse hfound

theorem trustedVerifyDelivery_eq {arguments : JsObject}
    (h : parseArguments arguments = some deliveryId) : trustedVerifyDelivery arguments t =
      ((t (bindString deliveryId)).map (invokeOn deliveryId)).getD .noEvidence := by
  simp only [trustedVerifyDelivery, h]
  cases t (bindString deliveryId) with
  | none => rfl
  | some evidenceJson => rfl

/-- One call keeps what is on record, and what was answered, to the first delivery under each id. -/
theorem saysFirst_call {op : EvidenceOp} {r : op.Result} (hrows : SaysFirst calls t)
    (hanswers : AnswersFirst calls) (hexec : op.Exec t r t') (hkeeps : KeepsEvidence t op r) :
    SaysFirst (calls ++ [⟨op, r⟩]) t' ∧ AnswersFirst (calls ++ [⟨op, r⟩]) := by
  rcases hexec with ⟨rfl, error, rfl⟩ | ⟨rfl, rfl⟩
  · refine ⟨hrows.snoc fun deliveryId => ?_, hanswers.snoc ?_⟩
    · cases op <;> rfl
    · intro arguments deliveryId invocation hcall
      cases op <;> cases hcall
  · cases op with
    | storeTrustedDelivery delivery =>
      refine ⟨hrows.store hkeeps, hanswers.snoc ?_⟩
      intro arguments deliveryId invocation hcall
      cases hcall
    | verifyDelivery arguments =>
      refine ⟨hrows.snoc fun deliveryId => rfl, hanswers.snoc ?_⟩
      rintro _ deliveryId _ ⟨⟩ hparse hfound
      change trustedVerifyDelivery arguments t ≠ _ at hfound
      change ∃ delivery, _ ∧ trustedVerifyDelivery arguments t = _
      rw [trustedVerifyDelivery_eq hparse] at hfound ⊢
      cases hrow : t (bindString deliveryId) with
      | none =>
        rw [hrow] at hfound
        exact absurd rfl hfound
      | some evidenceJson =>
        rw [hrow] at hfound
        obtain ⟨delivery, hfirst, hsays⟩ := hrows.invokeOn_eq hrow hfound
        exact ⟨delivery, firstStored_snoc_of_some hfirst _, hsays⟩

theorem answersFirst_of_calls (h : CallsWhere KeepsEvidence EvidenceOp.Exec (fun _ => none) calls t) :
    SaysFirst calls t ∧ AnswersFirst calls := by
  induction h with
  | nil =>
    have hnone : ∀ deliveryId delivery, firstStored deliveryId [] ≠ some delivery :=
      fun _ _ h => Option.some_ne_none _ h.symm
    refine ⟨⟨fun _ _ h => absurd h.symm (Option.some_ne_none _), ?_⟩, nofun⟩
    exact fun _ _ h => absurd h (hnone _ _)
  | call hcalls hexec hok ih => exact saysFirst_call ih.1 ih.2 hexec hok

variable {Req α : Type} {program : Req → Prog EvidenceOp EvidenceOp.Result α}
  {history : List (Event Req EvidenceOp.Result α)}
  {c : Config Req EvidenceOp.Result α TrustedDeliveries}

/-- While no delivery is stored over one that differs in what the tool sends, the tool puts the first
delivery under an id before the backend, in every run. -/
theorem evidence_immutable (hrun : RunWhere (fun c _ e => e.Admitted (KeepsEvidence c.store))
    EvidenceOp.Exec program (fun _ => none) history c) {arguments : JsObject}
    {invocation : Invocation}
    (hcall : ⟨.verifyDelivery arguments, .ok invocation⟩ ∈ Interleave.calls history)
    (hparse : parseArguments arguments = some deliveryId) (hfound : invocation ≠ .noEvidence) :
    ∃ delivery, firstStored deliveryId (Interleave.calls history) = some delivery ∧
      invocation = invokeOn deliveryId delivery.evidenceJson :=
  (answersFirst_of_calls hrun.callsWhere).2 arguments deliveryId invocation hcall hparse hfound

/-! A delivery that is stored over. -/

def deliveryOne (output : Bool) : TrustedDelivery where
  evidence :=
    [(js "delivery_id", .str (js "delivery-1")), (js "provider_id", .str (js "i_AAAAAAAAAA")),
      (js "task", .str (js "task")), (js "output", .bool output)]
  deliveryId := js "delivery-1"
  keys := .obj (by simp only [List.map_cons, List.map_nil]; decide) (fun _ _ => trivial)
    (by simp [Readable.str, Readable.bool])
  deliveryId_eq := rfl

def askForOne : JsObject := [(js "delivery_id", .str (js "delivery-1"))]

/-- The same evidence is stored twice, and then asked for. -/
theorem evidence_immutable_one : ∃ (history : List (Event EvidenceOp EvidenceOp.Result Unit))
    (c : Config EvidenceOp EvidenceOp.Result Unit TrustedDeliveries) (delivery : TrustedDelivery),
    RunWhere (fun c _ e => e.Admitted (KeepsEvidence c.store)) EvidenceOp.Exec oneCall
      (fun _ => none) history c ∧
      firstStored (js "delivery-1") (Interleave.calls history) = some delivery ∧
      trustedVerifyDelivery askForOne c.store =
        invokeOn (js "delivery-1") delivery.evidenceJson := by
  have hfirst : CallsWhere KeepsEvidence EvidenceOp.Exec (fun _ => none) [] (fun _ => none) := .nil
  have hstored := hfirst.answered (.storeTrustedDelivery (deliveryOne true)) nofun
  have hagain := hstored.answered (.storeTrustedDelivery (deliveryOne true)) (by
    rintro _ trusted trusted' ⟨⟩ htrusted htrusted'
    cases htrusted.symm.trans htrusted'
    exact .inl (.refl _))
  obtain ⟨history, hrun, hcalls⟩ := (hagain.answered (.verifyDelivery askForOne) trivial).exists_run
  have hfound : invokeOn (js "delivery-1") (deliveryOne true).evidenceJson ≠ .noEvidence :=
    invokeOn_ne_noEvidence (deliveryOne true)
  have hcall : ⟨.verifyDelivery askForOne,
      .ok (invokeOn (js "delivery-1") (deliveryOne true).evidenceJson)⟩ ∈
        Interleave.calls history := by
    rw [hcalls]
    exact List.mem_append_right _ (List.mem_singleton_self _)
  obtain ⟨delivery, hfirst, hsays⟩ := evidence_immutable hrun hcall rfl hfound
  exact ⟨history, _, delivery, hrun, hfirst, hsays⟩

/-- The second delivery under an id is the one that is put before the backend. -/
theorem evidence_stored_over : ¬∀ (history : List (Event EvidenceOp EvidenceOp.Result Unit))
    (c : Config EvidenceOp EvidenceOp.Result Unit TrustedDeliveries) (arguments : JsObject)
    (deliveryId : JsString) (invocation : Invocation),
    Run EvidenceOp.Exec oneCall (fun _ => none) history c →
    ⟨.verifyDelivery arguments, .ok invocation⟩ ∈ Interleave.calls history →
    parseArguments arguments = some deliveryId → invocation ≠ .noEvidence →
    ∃ delivery, firstStored deliveryId (Interleave.calls history) = some delivery ∧
      invocation = invokeOn deliveryId delivery.evidenceJson := by
  intro h
  have hfirst : Calls EvidenceOp.Exec (fun _ => none) [] (fun _ => none) := .nil
  have hstored := hfirst.answered (.storeTrustedDelivery (deliveryOne true)) trivial
  have hover := hstored.answered (.storeTrustedDelivery (deliveryOne false)) trivial
  obtain ⟨history, hrun, hcalls⟩ := (hover.answered (.verifyDelivery askForOne) trivial).exists_run
  have hrun : Run EvidenceOp.Exec oneCall (fun _ => none) history _ :=
    hrun.mono (fun _ _ _ _ hexec => hexec) fun _ _ _ _ => trivial
  have hcall : ⟨.verifyDelivery askForOne,
      .ok (invokeOn (js "delivery-1") (deliveryOne false).evidenceJson)⟩ ∈
        Interleave.calls history := by
    rw [hcalls]
    exact List.mem_append_right _ (List.mem_singleton_self _)
  obtain ⟨delivery, hfirst, hsays⟩ := h history _ askForOne (js "delivery-1") _ hrun hcall rfl
    (invokeOn_ne_noEvidence (deliveryOne false))
  rw [hcalls] at hfirst
  cases Option.some.inj hfirst
  revert hsays
  decide +kernel

end Counterparty.Arena
