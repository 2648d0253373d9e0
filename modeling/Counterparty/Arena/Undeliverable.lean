import Counterparty.RequestModel
import Counterparty.Arena.Canary
import Counterparty.Arena.Wire

/-! The inputs of paid requests, and which of them the backend takes. -/
namespace Counterparty.Arena

open Json Session

/-! What is put before the backend. -/

/-- A request that is quoted, and executed once it is paid. -/
structure Quoted (message : SharedNetMessage) (parsed : ParsedRequest) : Prop where
  parsed_eq : parseRequest message = some parsed
  valid : validateInput parsed = none

/-- The Router calls the tool of the service, in a turn that was opened for the request. -/
def Forwards (req : ArenaRequest) (call : ToolCall) : Prop :=
  serviceTool req.parsed.service = some (.named call.tool) ∧
    ∃ traceId tools probeId nonce inputs fed, (fed, call) ∈
      issued (routerNext (arenaTurn (routerTurn req) traceId tools) probeId nonce) .opened inputs

/-- What the model of the endpoint says to the body that the tool posts. -/
def backendAccepts (texts : NumberTexts) (call : ToolCall) : Bool :=
  match loads (stringify (.obj call.arguments)) with
  | none => false
  | some body =>
    if call.tool = js "counterparty.trust_snapshot" then TrustSnapshotRequest.accepts body
    else if call.tool = js "counterparty.best_execution" then
      BestExecutionRequest.accepts texts body
    else false

/-! The inputs that the models take. -/

/-- A text with a length within bounds: whole code points, white space at the ends not counted. -/
def IsText (minLength maxLength : ℕ) (j : JsJson) : Prop :=
  ∃ s, j = .str s ∧ Scalar (codePoints s) ∧ minLength ≤ (stripped (codePoints s)).length ∧
    (stripped (codePoints s)).length ≤ maxLength

def intOf (texts : NumberTexts) : JsJson → Option ℤ
  | .bool b => some (if b then 1 else 0)
  | .num (.finite neg mag) => if mag.1.den = 1 then some (signed neg mag.1.num.natAbs) else none
  | .str s => texts.int (codePoints s)
  | _ => none

def IsInt (texts : NumberTexts) (lo hi : ℤ) (j : JsJson) : Prop :=
  ∃ z, intOf texts j = some z ∧ lo ≤ z ∧ z ≤ hi

/-- From zero to one; minus zero is zero. -/
def IsUnit (texts : NumberTexts) : JsJson → Prop
  | .bool _ => True
  | .num (.finite neg mag) => mag.1 = 0 ∨ neg = false ∧ mag.1 ≤ 1
  | .str s => texts.unit (codePoints s)
  | _ => False

def Has (key : String) (P : JsJson → Prop) (object : JsObject) : Prop :=
  ∃ j, property key object = some j ∧ P j

def MayHave (key : String) (P : JsJson → Prop) (object : JsObject) : Prop :=
  ∀ j, property key object = some j → P j

def OnlyKeys (keys : List String) (object : JsObject) : Prop := ∀ f ∈ object, f.1 ∈ keys.map js

structure SnapshotInput (input : JsObject) : Prop where
  keys : OnlyKeys ["service_id", "task_type"] input
  task_type : MayHave "task_type" (IsText 1 100) input

structure CandidateInput (texts : NumberTexts) (candidate : JsObject) : Prop where
  keys : OnlyKeys ["service_id", "price_credits", "task_fit", "latency_ms"] candidate
  service_id : Has "service_id" (IsText 1 200) candidate
  price_credits : Has "price_credits" (IsInt texts 0 100) candidate
  task_fit : MayHave "task_fit" (IsUnit texts) candidate
  latency_ms : MayHave "latency_ms" (fun j => written j = .null ∨ IsInt texts 0 300000 j) candidate

/-- `service_id`, stripped. -/
def candidateId : JsJson → Option PyStr
  | .obj candidate =>
    match property "service_id" candidate with
    | some (.str s) => some (stripped (codePoints s))
    | _ => none
  | _ => none

structure ExecutionInput (texts : NumberTexts) (input : JsObject) : Prop where
  keys : OnlyKeys ["task", "task_type", "budget_credits", "candidates", "mode"] input
  task : Has "task" (IsText 1 12000) input
  task_type : MayHave "task_type" (IsText 1 100) input
  budget_credits : Has "budget_credits" (IsInt texts 1 100) input
  mode : MayHave "mode" (fun j => j = jsText "safe" ∨ j = jsText "explore") input
  candidates : ∀ items, property "candidates" input = some (.arr items) →
    (∀ item ∈ items, ∃ candidate, item = .obj candidate ∧ CandidateInput texts candidate) ∧
      (items.map candidateId).Nodup

/-- An input that the backend takes, of one of the two services. -/
def Deliverable (texts : NumberTexts) (parsed : ParsedRequest) : Prop :=
  (parsed.service = js "trust_snapshot" → SnapshotInput parsed.input) ∧
    (parsed.service = js "best_execution" → ExecutionInput texts parsed.input)

/-! What is forwarded. -/

variable {texts : NumberTexts} {req : ArenaRequest} {call : ToolCall} {input : JsObject}

/-- The tool gets the input of the request. -/
theorem Forwards.arguments_eq (h : Forwards req call) : call.arguments = req.parsed.input := by
  obtain ⟨htool, traceId, tools, probeId, nonce, inputs, fed, hissued⟩ := h
  obtain ⟨s, hpath, -⟩ := exists_path
    (routerNext (arenaTurn (routerTurn req) traceId tools) probeId nonce) .opened inputs
  have hserviceTool := tool_of_service (mem_of_serviceTool htool)
  obtain ⟨-, hserves | ⟨id, -, hprobes | ⟨hrecords, -⟩⟩⟩ := (sequence_of_path hpath).mem hissued
  · exact congrArg Prod.snd hserves
  · exact absurd hprobes.tool_eq hserviceTool.1
  · exact absurd hrecords.tool_eq hserviceTool.2

/-- With nothing but its tool in sight the Router forwards a request at once. -/
theorem exists_forwards (req : ArenaRequest) {tool : JsString}
    (h : serviceTool req.parsed.service = some (.named tool))
    (hmessage : tool ≠ js "messages.request") :
    ∃ call, Forwards req call ∧ call.tool = tool := by
  set request := arenaTurn (routerTurn req) [] [tool] with hrequest
  have hbody : request.body.bind (property "service") = some (.str req.parsed.service) ∧
      request.body.bind (property "input") = some (.obj req.parsed.input) := ⟨rfl, rfl⟩
  have hname : serviceName request = some req.parsed.service := by
    rw [serviceName, hbody.1]
    simp [stringOf, h]
  have htool : toolName request = some (.named tool) := by rw [toolName, hname, Option.bind_some, h]
  have hinput : serviceInput request = some req.parsed.input := by
    rw [serviceInput, hbody.2]
    rfl
  have havailable : toolAvailable request := by
    rw [toolAvailable, htool]
    simp [hrequest, arenaTurn, ServiceTool.names]
  have hprobe : canActivelyProbe request = false := by
    have hunavailable : request.available "messages.request" = false := by
      simp [AgentTurnRequest.available, hrequest, arenaTurn, Ne.symm hmessage]
    simp [canActivelyProbe, hunavailable]
  let fed : Fed := ⟨⟨[], [], 0⟩, .other []⟩
  have hcalled : calledTool request = tool := by
    rw [calledTool, htool]
    rfl
  have hnext : ∃ call s, routerNext request [] [] .opened fed = (.call call, s) ∧
      call.tool = tool := by
    change ∃ call s, routerStart request [] [] .opened fed.1 = (.call call, s) ∧ call.tool = tool
    rw [routerStart, htool, hinput]
    dsimp only
    rw [if_neg (not_not_intro havailable), hprobe]
    exact ⟨_, _, rfl, hcalled⟩
  obtain ⟨call, s, hnext, hcall⟩ := hnext
  refine ⟨call, ⟨by rw [hcall, h], [], [tool], [], [], [fed], fed, ?_⟩, hcall⟩
  rw [← hrequest, issued_call hnext]
  exact List.mem_cons_self

/-! Values. -/

theorem isStr_received {minLength maxLength : ℕ} {j : JsJson} :
    isStr minLength maxLength (received j) ↔ IsText minLength maxLength j := by
  constructor
  · intro h
    generalize hr : received j = r at h
    cases r with
    | str t =>
      obtain ⟨s, rfl, rfl⟩ := received_eq_str hr
      simp only [isStr, Bool.and_eq_true, decide_eq_true_eq] at h
      exact ⟨s, rfl, h.1, h.2.1, h.2.2⟩
    | null | bool _ | num _ | arr _ | obj _ => cases h
  · rintro ⟨s, rfl, hscalar, hmin, hmax⟩
    change isStr minLength maxLength (.str (codePoints s))
    simp only [isStr, Bool.and_eq_true, decide_eq_true_eq]
    exact ⟨hscalar, hmin, hmax⟩

variable {neg : Bool} {mag : {q : ℚ // FloatFormat.binary64.Representable q}}

theorem signed_eq_iff {n : ℕ} {z : ℤ} :
    signed neg n = z ↔ n = z.natAbs ∧ signed neg z.natAbs = z := by
  constructor
  · rintro rfl
    have habs : (signed neg n).natAbs = n := by cases neg <;> simp [signed]
    rw [habs]
    exact ⟨rfl, rfl⟩
  · rintro ⟨rfl, h⟩
    exact h

/-- A number without a fraction, as an integer. -/
theorem whole_eq_some {z : ℤ} :
    (if mag.1.den = 1 then some (signed neg mag.1.num.natAbs) else none) = some z ↔
      mag.1 = z.natAbs ∧ signed neg z.natAbs = z := by
  rw [mag_eq_natCast]
  split_ifs with hden
  · rw [Option.some.injEq, signed_eq_iff]
    simp [hden]
  · simp [hden]

/-- Integers within 53 bits are read as the integers they were written for. -/
theorem laxInt_received {z : ℤ} (hz : z.natAbs < 2 ^ 53) (j : JsJson) :
    laxInt texts (received j) = some z ↔ intOf texts j = some z := by
  cases j with
  | null | bool _ | str _ | arr _ | obj _ => exact Iff.rfl
  | num x =>
    change laxInt texts (receivedNumber x) = some z ↔ _
    cases x with
    | infinity neg => exact Iff.rfl
    | nan => exact Iff.rfl
    | finite neg mag =>
      have hsign : (mag.1 = z.natAbs ∧ signed (wireNumeral neg mag).neg z.natAbs = z) ↔
          mag.1 = z.natAbs ∧ signed neg z.natAbs = z :=
        and_congr_right fun h => by rw [signed_wireNumeral h]
      rw [intOf, whole_eq_some, ← hsign, receivedNumber]
      split_ifs with hwhole
      · rw [laxInt, PyNumber.int?, Option.some.injEq, signed_eq_iff,
          significand_of_whole hwhole.1 hwhole.2 hz]
      · rw [laxInt, PyNumber.int?, whole_eq_some]

theorem isInt_received {bounds : ℤ → Bool} {lo hi : ℤ} {j : JsJson}
    (hbounds : ∀ z, bounds z ↔ lo ≤ z ∧ z ≤ hi) (hlo : -2 ^ 53 < lo) (hhi : hi < 2 ^ 53) :
    isInt texts bounds (received j) ↔ IsInt texts lo hi j := by
  rw [isInt, Option.any_eq_true, IsInt]
  refine exists_congr fun z => ?_
  rw [hbounds]
  refine and_congr_left fun hz => laxInt_received ?_ j
  omega

/-- The bounds, on a number that is read as one of this size. -/
theorem isUnit_num {x : PyNumber} {m : ℚ}
    (hx : x.value = some ((if (wireNumeral neg mag).neg then -m else m : ℚ) : WithTop ℚ))
    (h0 : 0 ≤ m) (hm : m ≤ 1 ∨ mag.1 ≤ 1 → mag.1 = m) :
    isUnit texts (.num x) ↔ mag.1 = 0 ∨ neg = false ∧ mag.1 ≤ 1 := by
  rw [isUnit_num_iff hx, (wireNumeral_spec neg mag).2.1]
  by_cases hzero : mag.1 = 0
  · have hm0 : m = 0 := by rw [← hm (.inr (by rw [hzero]; exact zero_le_one)), hzero]
    simp [hzero, hm0]
  · have hsize : m ≤ 1 ↔ mag.1 ≤ 1 :=
      ⟨fun h => hm (.inl h) ▸ h, fun h => hm (.inr h) ▸ h⟩
    cases neg with
    | false => simp [hzero, h0, hsize]
    | true =>
      have hne : m ≠ 0 := by
        intro hm0
        exact hzero (hm (.inl (by rw [hm0]; exact zero_le_one)) ▸ hm0)
      have hpos := lt_of_le_of_ne h0 hne.symm
      simp [hzero, hpos]

theorem isUnit_received {j : JsJson} : isUnit texts (received j) ↔ IsUnit texts j := by
  cases j with
  | null | bool _ | str _ | arr _ | obj _ => simp [isUnit, IsUnit, received, Json.translate]
  | num x =>
    change isUnit texts (receivedNumber x) ↔ _
    cases x with
    | infinity neg => exact iff_of_false (by simp [isUnit, receivedNumber]) (by simp [IsUnit])
    | nan => exact iff_of_false (by simp [isUnit, receivedNumber]) (by simp [IsUnit])
    | finite neg mag =>
      rw [IsUnit, receivedNumber]
      split_ifs with hwhole
      · refine isUnit_num (m := (wireNumeral neg mag).significand) ?_ (Nat.cast_nonneg _) ?_
        · simp only [PyNumber.value, signed]
          split_ifs <;> simp
        · rintro (h | h)
          · refine mag_of_whole hwhole.1 hwhole.2 (.inl ?_)
            have : (wireNumeral neg mag).significand ≤ 1 := by exact_mod_cast h
            omega
          · exact mag_of_whole hwhole.1 hwhole.2 (.inr (lt_of_le_of_lt h (by norm_num)))
      · exact isUnit_num rfl mag_nonneg fun _ => rfl

/-! Objects. -/

/-- The entries of an object as Python has them. -/
def receivedEntries (object : JsObject) : List (PyStr × PyJson) :=
  object.map fun f : JsString × JsJson => (codePoints f.1, received f.2)

theorem lookup_received (key : String) (hkey : PyStr.ofString key = codePoints (js key))
    (object : JsObject) : (receivedEntries object).lookup (PyStr.ofString key) =
      (property key object).map received := by
  rw [hkey]
  exact lookup_translate codePoints_injective (js key) object

section Fields

variable (key : String) {takes : PyJson → Bool} {P : JsJson → Prop} {object : JsObject}

theorem fits_has (hkey : PyStr.ofString key = codePoints (js key))
    (h : ∀ j, takes (received j) ↔ P j) :
    (Member.mk (PyStr.ofString key) true takes).fits (receivedEntries object) ↔
      Has key P object := by
  rw [Member.fits_required rfl]
  dsimp only
  rw [lookup_received key hkey]
  constructor
  · rintro ⟨_, hj, htakes⟩
    obtain ⟨j, hproperty, rfl⟩ := Option.map_eq_some_iff.1 hj
    exact ⟨j, hproperty, (h j).1 htakes⟩
  · rintro ⟨j, hproperty, hP⟩
    exact ⟨received j, by rw [hproperty, Option.map_some], (h j).2 hP⟩

theorem fits_mayHave (hkey : PyStr.ofString key = codePoints (js key))
    (h : ∀ j, takes (received j) ↔ P j) :
    (Member.mk (PyStr.ofString key) false takes).fits (receivedEntries object) ↔
      MayHave key P object := by
  rw [Member.fits_optional rfl]
  dsimp only
  rw [lookup_received key hkey]
  constructor
  · intro hall j hproperty
    exact (h j).1 (hall _ (by rw [hproperty, Option.map_some]))
  · rintro hall _ hj
    obtain ⟨j, hproperty, rfl⟩ := Option.map_eq_some_iff.1 hj
    exact (h j).2 (hall j hproperty)

omit key in
theorem onlyKeys_received (keys : List String) {fields : List (Member PyStr PyNumber)}
    (hkeys : fields.map Member.key = keys.map fun key => codePoints (js key)) :
    (∀ e ∈ receivedEntries object, e.1 ∈ fields.map Member.key) ↔ OnlyKeys keys object := by
  have hmem : ∀ f : JsString × JsJson,
      codePoints f.1 ∈ fields.map Member.key ↔ f.1 ∈ keys.map js := by
    intro f
    rw [hkeys, ← Function.comp_def, ← List.map_map, List.mem_map_of_injective codePoints_injective]
  simp only [receivedEntries, List.forall_mem_map, OnlyKeys, hmem]

end Fields

theorem snapshot_accepted_iff (hid : Has "service_id" (IsText 1 200) input) :
    TrustSnapshotRequest.accepts (received (.obj input)) ↔ SnapshotInput input := by
  rw [TrustSnapshotRequest.accepts, received_obj]
  change fits _ (.obj (receivedEntries input)) ↔ _
  rw [fits_obj, onlyKeys_received ["service_id", "task_type"] (by decide)]
  simp only [TrustSnapshotRequest.fields, List.forall_mem_cons, List.not_mem_nil, false_implies,
    implies_true, and_true]
  rw [fits_has "service_id" (by decide) fun _ => isStr_received,
    fits_mayHave "task_type" (by decide) fun _ => isStr_received]
  exact ⟨fun h => ⟨h.1, h.2.2⟩, fun h => ⟨h.keys, hid, h.task_type⟩⟩

theorem isLatency_received {j : JsJson} : CandidateRequest.fields.isLatency texts (received j) ↔
    written j = .null ∨ IsInt texts 0 300000 j := by
  have hint : isInt texts (fun z => 0 ≤ z && z ≤ 300000) (received j) ↔ IsInt texts 0 300000 j :=
    isInt_received (by simp) (by norm_num) (by norm_num)
  rw [← hint]
  cases j with
  | null => exact iff_of_true rfl (.inl rfl)
  | num x =>
    rcases received_num_cases x with ⟨hnull, hx⟩ | ⟨hnull, y, hx⟩
    · exact iff_of_true (by rw [hx]; rfl) (.inl hnull)
    · rw [or_iff_right hnull, hx]
      rfl
  | bool b => exact (or_iff_right (by nofun)).symm
  | str s => exact (or_iff_right (by nofun)).symm
  | arr items => exact (or_iff_right (by simp [written])).symm
  | obj fields => exact (or_iff_right (by simp [written])).symm

theorem candidate_accepted_iff {j : JsJson} :
    fits (CandidateRequest.fields texts) (received j) ↔
      ∃ candidate, j = .obj candidate ∧ CandidateInput texts candidate := by
  have hobject : ∀ candidate : JsObject, fits (CandidateRequest.fields texts)
      (received (.obj candidate)) ↔ CandidateInput texts candidate := by
    intro candidate
    have hprice : ∀ j, isInt texts (fun z => 0 ≤ z && z ≤ 100) (received j) ↔ IsInt texts 0 100 j :=
      fun _ => isInt_received (by simp) (by norm_num) (by norm_num)
    rw [received_obj]
    change fits _ (.obj (receivedEntries candidate)) ↔ _
    rw [fits_obj, onlyKeys_received ["service_id", "price_credits", "task_fit", "latency_ms"] (by
      simp only [CandidateRequest.fields, List.map_cons, List.map_nil]
      decide)]
    simp only [CandidateRequest.fields, List.forall_mem_cons, List.not_mem_nil, false_implies,
      implies_true, and_true]
    rw [fits_has "service_id" (by decide) fun _ => isStr_received,
      fits_has "price_credits" (by decide) hprice,
      fits_mayHave "task_fit" (by decide) fun _ => isUnit_received,
      fits_mayHave "latency_ms" (by decide) fun _ => isLatency_received]
    exact ⟨fun ⟨hkeys, hid, hprice, hfit, hlatency⟩ => ⟨hkeys, hid, hprice, hfit, hlatency⟩,
      fun h => ⟨h.keys, h.service_id, h.price_credits, h.task_fit, h.latency_ms⟩⟩
  constructor
  · intro h
    obtain ⟨entries, hentries⟩ := exists_of_fits h
    obtain ⟨candidate, rfl⟩ := received_eq_obj hentries
    exact ⟨candidate, rfl, (hobject candidate).1 h⟩
  · rintro ⟨candidate, rfl, h⟩
    exact (hobject candidate).2 h

theorem isMode_received {j : JsJson} :
    isMode (received j) ↔ j = jsText "safe" ∨ j = jsText "explore" := by
  have hsafe : PyStr.ofString "safe" = codePoints (js "safe") := by decide
  have hexplore : PyStr.ofString "explore" = codePoints (js "explore") := by decide
  constructor
  · intro h
    generalize hr : received j = r at h
    cases r with
    | str t =>
      obtain ⟨s, rfl, rfl⟩ := received_eq_str hr
      rw [isMode, Bool.or_eq_true, beq_iff_eq, beq_iff_eq, hsafe, hexplore,
        codePoints_injective.eq_iff, codePoints_injective.eq_iff] at h
      exact h.imp (congrArg Json.str) (congrArg Json.str)
    | null | bool _ | num _ | arr _ | obj _ => cases h
  · rintro (rfl | rfl) <;> decide

theorem serviceIdOf_received (j : JsJson) : serviceIdOf (received j) = candidateId j := by
  cases j with
  | obj candidate =>
    rw [received_obj]
    change serviceIdOf (.obj (receivedEntries candidate)) = _
    rw [serviceIdOf, lookup_received "service_id" (by decide), candidateId]
    cases property "service_id" candidate with
    | none => rfl
    | some j =>
      cases j with
      | num x =>
        rcases received_num_cases x with ⟨-, hx⟩ | ⟨-, y, hx⟩ <;> rw [Option.map_some, hx]
      | null | bool _ | str _ | arr _ | obj _ => rfl
  | num x => rcases received_num_cases x with ⟨-, hx⟩ | ⟨-, y, hx⟩ <;> rw [hx] <;> rfl
  | null | bool _ | str _ | arr _ => rfl

/-- An input with a list of candidates, neither empty nor too long. -/
theorem execution_accepted_iff {items : List JsJson}
    (hitems : property "candidates" input = some (.arr items)) (hlow : 1 ≤ items.length)
    (hhigh : items.length ≤ 32) :
    BestExecutionRequest.accepts texts (received (.obj input)) ↔ ExecutionInput texts input := by
  have hbudget : ∀ j, isInt texts (fun z => 0 < z && z ≤ 100) (received j) ↔ IsInt texts 1 100 j :=
    fun _ => isInt_received (by simp; omega) (by norm_num) (by norm_num)
  have hcandidates : isCandidates texts (received (.arr items)) ↔ ∀ item ∈ items,
      ∃ candidate, item = .obj candidate ∧ CandidateInput texts candidate := by
    rw [received_arr, isCandidates]
    simp [candidate_accepted_iff, hlow, hhigh, MAX_CANDIDATES]
  have hhas : Has "candidates" (fun j => isCandidates texts (received j) = true) input ↔
      ∀ item ∈ items, ∃ candidate, item = .obj candidate ∧ CandidateInput texts candidate := by
    rw [Has, hitems, ← hcandidates]
    simp
  have hunique : candidatesUnique (received (.obj input)) ↔ (items.map candidateId).Nodup := by
    rw [received_obj]
    change candidatesUnique (.obj (receivedEntries input)) ↔ _
    rw [candidatesUnique, lookup_received "candidates" (by decide), hitems, Option.map_some,
      received_arr]
    simp only [decide_eq_true_eq, List.map_map, Function.comp_def, serviceIdOf_received]
  rw [BestExecutionRequest.accepts, Bool.and_eq_true, hunique, received_obj]
  change fits _ (.obj (receivedEntries input)) ∧ _ ↔ _
  rw [fits_obj, onlyKeys_received ["task", "task_type", "budget_credits", "candidates", "mode"] (by
    simp only [BestExecutionRequest.fields, List.map_cons, List.map_nil]
    decide)]
  simp only [BestExecutionRequest.fields, List.forall_mem_cons, List.not_mem_nil, false_implies,
    implies_true, and_true]
  rw [fits_has "task" (by decide) fun _ => isStr_received,
    fits_mayHave "task_type" (by decide) fun _ => isStr_received,
    fits_has "budget_credits" (by decide) hbudget,
    fits_has "candidates" (by decide) fun _ => Iff.rfl, hhas,
    fits_mayHave "mode" (by decide) fun _ => isMode_received]
  constructor
  · rintro ⟨⟨hkeys, htask, htype, hbudget, hall, hmode⟩, hnodup⟩
    refine ⟨hkeys, htask, htype, hbudget, hmode, ?_⟩
    intro items' hitems'
    cases hitems.symm.trans hitems'
    exact ⟨hall, hnodup⟩
  · intro h
    obtain ⟨hall, hnodup⟩ := h.candidates items hitems
    exact ⟨⟨h.keys, h.task, h.task_type, h.budget_credits, hall, h.mode⟩, hnodup⟩

/-- Units that stand for themselves, none of them a space. -/
theorem codePoints_plain {s : JsString} (h : ∀ u ∈ s, 48 ≤ u.val ∧ u.val ≤ 122) :
    codePoints s = s.map (fun u => pointOf [u]) := by
  have hpoints : points s = s.map fun u => [u] := by
    induction s with
    | nil => rfl
    | cons u s ih =>
      cases s with
      | nil => rfl
      | cons v s =>
        have hu := h u List.mem_cons_self
        have hhigh : isHighSurrogate u.val = false := by
          simp only [isHighSurrogate, Bool.and_eq_false_iff, decide_eq_false_iff_not]
          omega
        rw [points, hhigh, Bool.false_and, if_neg Bool.false_ne_true,
          ih fun w hw => h w (List.mem_cons_of_mem _ hw), List.map_cons (a := u)]
  rw [codePoints, hpoints, List.map_map]
  rfl

theorem stripped_of_none {s : PyStr} (h : ∀ c ∈ s, isWhitespace c = false) : stripped s = s := by
  have hfront : s.dropWhile isWhitespace = s := by
    cases s with
    | nil => rfl
    | cons c s => rw [List.dropWhile_cons, h c List.mem_cons_self, if_neg Bool.false_ne_true]
  rw [stripped, hfront, List.rdropWhile_eq_self_iff]
  intro hne
  rw [h _ (List.getLast_mem hne)]
  exact Bool.false_ne_true

theorem seat_units {s : JsString} (h : sharednetSeatPattern s) :
    s.length = 12 ∧ ∀ u ∈ s, 48 ≤ u.val ∧ u.val ≤ 122 := by
  simp only [sharednetSeatPattern, addressPattern, List.any_cons, List.any_nil, Bool.or_false,
    Bool.and_eq_true, beq_iff_eq, List.all_eq_true] at h
  obtain ⟨⟨hseat, hlength⟩, hrest⟩ := h
  obtain ⟨t, rfl⟩ := List.isPrefixOf_iff_prefix.1 hseat
  refine ⟨hlength, fun u hu => ?_⟩
  rcases List.mem_append.1 hu with hu | hu
  · have hall : (js "i_").all (fun u => 48 ≤ u.val && u.val ≤ 122) := by decide
    simpa using List.all_eq_true.1 hall u hu
  · have hdrop : (js "i_" ++ t).drop "i_".length = t := List.drop_left' rfl
    rw [hdrop] at hrest
    have halnum := hrest u hu
    simp only [isAlphanumeric, Bool.or_eq_true, Bool.and_eq_true, decide_eq_true_eq] at halnum
    omega

/-- The address of a seat is a service id. -/
theorem isText_seat {s : JsString} (h : sharednetSeatPattern s) : IsText 1 200 (.str s) := by
  obtain ⟨hlength, hunits⟩ := seat_units h
  have hpoints : ∀ c ∈ codePoints s, 48 ≤ c.val ∧ c.val ≤ 122 := by
    intro c hc
    rw [codePoints_plain hunits] at hc
    obtain ⟨u, hu, rfl⟩ := List.mem_map.1 hc
    rw [val_pointOf_unit]
    exact hunits u hu
  have hstrip : stripped (codePoints s) = codePoints s := by
    refine stripped_of_none fun c hc => ?_
    have := hpoints c hc
    simp only [isWhitespace, Bool.or_eq_false_iff, Bool.and_eq_false_iff, decide_eq_false_iff_not,
      beq_eq_false_iff_ne]
    omega
  have hcount : (codePoints s).length = 12 := by
    rw [codePoints_plain hunits, List.length_map, hlength]
  refine ⟨s, rfl, fun c hc => ?_, ?_, ?_⟩
  · have := hpoints c hc
    simp only [isHighSurrogate, isLowSurrogate, Bool.and_eq_false_iff, decide_eq_false_iff_not]
    omega
  · rw [hstrip, hcount]
    norm_num
  · rw [hstrip, hcount]
    norm_num

theorem quoted_snapshot {message : SharedNetMessage} {parsed : ParsedRequest}
    (h : Quoted message parsed) (hservice : parsed.service = js "trust_snapshot") :
    Has "service_id" (IsText 1 200) parsed.input := by
  have hvalid := h.valid
  rw [validateInput, if_pos hservice] at hvalid
  split at hvalid
  · rename_i s hs
    split_ifs at hvalid with hseat
    exact ⟨.str s, hs, isText_seat hseat⟩
  · cases hvalid

theorem quoted_execution {message : SharedNetMessage} {parsed : ParsedRequest}
    (h : Quoted message parsed) (hservice : parsed.service = js "best_execution") :
    ∃ items, property "candidates" parsed.input = some (.arr items) ∧ 1 ≤ items.length ∧
      items.length ≤ 32 := by
  have hvalid := h.valid
  have hne : js "best_execution" ≠ js "trust_snapshot" ∧ js "best_execution" ≠ js "verify_delivery" := by
    decide
  rw [validateInput, hservice, if_neg hne.1, if_neg hne.2, if_pos rfl] at hvalid
  split at hvalid
  · rename_i items hitems
    split_ifs at hvalid with hlength
    exact ⟨items, hitems, by omega, by omega⟩
  · cases hvalid

theorem snapshot_tool :
    serviceTool (js "trust_snapshot") = some (.named (js "counterparty.trust_snapshot")) := rfl

theorem execution_tool :
    serviceTool (js "best_execution") = some (.named (js "counterparty.best_execution")) := rfl

/-- The body of a paid request is taken by the model of its endpoint exactly when its input is one
that the backend takes. -/
theorem body_accepted_iff (texts : NumberTexts) {message : SharedNetMessage}
    (hquoted : Quoted message req.parsed)
    (hservice : req.parsed.service = js "trust_snapshot" ∨ req.parsed.service = js "best_execution")
    (hforwards : Forwards req call) :
    backendAccepts texts call ↔ Deliverable texts req.parsed := by
  have hread := loads_stringify req.parsed.input_keys
  have htool := hforwards.1
  rw [backendAccepts, hforwards.arguments_eq, hread]
  dsimp only
  have hne : js "counterparty.best_execution" ≠ js "counterparty.trust_snapshot" ∧
      js "best_execution" ≠ js "trust_snapshot" := by decide
  rcases hservice with hservice | hservice
  · rw [hservice, snapshot_tool] at htool
    have hcall := ServiceTool.named.inj (Option.some.inj htool)
    rw [← hcall, if_pos rfl, snapshot_accepted_iff (quoted_snapshot hquoted hservice), Deliverable,
      hservice]
    exact ⟨fun h => ⟨fun _ => h, fun heq => absurd heq.symm hne.2⟩, fun h => h.1 rfl⟩
  · obtain ⟨items, hitems, hlow, hhigh⟩ := quoted_execution hquoted hservice
    rw [hservice, execution_tool] at htool
    have hcall := ServiceTool.named.inj (Option.some.inj htool)
    rw [← hcall, if_neg hne.1, if_pos rfl, execution_accepted_iff hitems hlow hhigh, Deliverable,
      hservice]
    exact ⟨fun h => ⟨fun heq => absurd heq hne.2, fun _ => h⟩, fun h => h.2 rfl⟩

/-- Texts are taken for no numbers; the inputs here hold none. -/
def noTexts : NumberTexts := ⟨fun _ => none, fun _ => false⟩

def researchMessage : SharedNetMessage where
  id := js "msg_1"
  content := codes ("\x7b\"type\":\"counterparty.service.request.v1\",\"request_id\":\"r\"," ++
    "\"service\":\"trust_snapshot\"," ++
    "\"input\":\x7b\"service_id\":\"i_AAAAAAAAAA\",\"task_type\":\"research\"\x7d\x7d")
  memberId := some (js "i_BBBBBBBBBB")

/-- A key that no model knows. -/
def extraMessage : SharedNetMessage where
  id := js "msg_1"
  content := codes ("\x7b\"type\":\"counterparty.service.request.v1\",\"request_id\":\"r\"," ++
    "\"service\":\"trust_snapshot\"," ++
    "\"input\":\x7b\"service_id\":\"i_AAAAAAAAAA\",\"extra\":true\x7d\x7d")
  memberId := some (js "i_BBBBBBBBBB")

def routeMessage : SharedNetMessage where
  id := js "msg_1"
  content := codes ("\x7b\"type\":\"counterparty.service.request.v1\",\"request_id\":\"r\"," ++
    "\"service\":\"best_execution\",\"input\":\x7b\"task\":\"t\",\"budget_credits\":10," ++
    "\"candidates\":[\x7b\"service_id\":\"i_AAAAAAAAAA\",\"price_credits\":3,\"task_fit\":0.5\x7d]\x7d\x7d")
  memberId := some (js "i_BBBBBBBBBB")

/-- A message that is quoted, and what the model says to the body it comes to. -/
theorem message_forwarded (message : SharedNetMessage) (process : Process) {service tool : JsString}
    {accepted : Bool} (htool : serviceTool service = some (.named tool))
    (hmessage : tool ≠ js "messages.request")
    (h : (parseRequest message).map (fun p => (p.service, validateInput p,
      backendAccepts noTexts ⟨[], tool, p.input, [], []⟩)) = some (service, none, accepted)) :
    ∃ req call, Quoted message req.parsed ∧ req.parsed.service = service ∧ Forwards req call ∧
      backendAccepts noTexts call = accepted := by
  obtain ⟨parsed, hparsed, hall⟩ := Option.map_eq_some_iff.1 h
  obtain ⟨hservice, hvalid, haccepts⟩ : parsed.service = service ∧ validateInput parsed = none ∧
      backendAccepts noTexts ⟨[], tool, parsed.input, [], []⟩ = accepted := by
    simpa only [Prod.mk.injEq] using hall
  obtain ⟨call, hforwards, hcall⟩ := exists_forwards ⟨parsed, process⟩ (hservice ▸ htool) hmessage
  refine ⟨⟨parsed, process⟩, call, ⟨hparsed, hvalid⟩, hservice, hforwards, ?_⟩
  rw [← haccepts, backendAccepts, backendAccepts, hforwards.arguments_eq, hcall]

/-- A task and a budget, and one candidate with a price and a fit. -/
def routesOne : JsObject → Bool
  | [(task, .str t), (budget, .num b), (candidates, .arr [.obj [(id, .str s), (price, .num p),
      (fit, .num f)]])] =>
    decide (task = js "task" ∧ t = js "t" ∧ budget = js "budget_credits" ∧
      intOf noTexts (.num b) = some 10 ∧ candidates = js "candidates" ∧ id = js "service_id" ∧
      s = js "i_AAAAAAAAAA" ∧ price = js "price_credits" ∧ intOf noTexts (.num p) = some 3 ∧
      fit = js "task_fit") &&
    match f with
    | .finite neg mag => decide (neg = false ∧ mag.1 ≤ 1)
    | _ => false
  | _ => false

theorem executionInput_of_routesOne (h : routesOne input) : ExecutionInput noTexts input := by
  unfold routesOne at h
  split at h
  · rename_i task t budget b candidates id s price p fit f
    simp only [Bool.and_eq_true, decide_eq_true_eq] at h
    obtain ⟨⟨rfl, rfl, rfl, hbudget, rfl, rfl, rfl, rfl, hprice, rfl⟩, hfit⟩ := h
    have hcandidate : CandidateInput noTexts [(js "service_id", .str (js "i_AAAAAAAAAA")),
        (js "price_credits", .num p), (js "task_fit", .num f)] := by
      have hunit : IsUnit noTexts (.num f) := by
        cases f with
        | finite neg mag => exact .inr (of_decide_eq_true hfit)
        | infinity neg => cases hfit
        | nan => cases hfit
      refine ⟨?_, ⟨_, rfl, _, rfl, by decide⟩, ⟨_, rfl, 3, hprice, by decide⟩, ?_, ?_⟩
      · have hkeys : [js "service_id", js "price_credits", js "task_fit"] ⊆
            ["service_id", "price_credits", "task_fit", "latency_ms"].map js := by decide
        exact fun _ hf => hkeys (List.mem_map_of_mem hf)
      · rintro j ⟨⟩
        exact hunit
      · rintro j ⟨⟩
    refine ⟨?_, ⟨_, rfl, _, rfl, by decide⟩, ?_, ⟨_, rfl, 10, hbudget, by decide⟩, ?_, ?_⟩
    · have hkeys : [js "task", js "budget_credits", js "candidates"] ⊆
          ["task", "task_type", "budget_credits", "candidates", "mode"].map js := by decide
      exact fun _ hf => hkeys (List.mem_map_of_mem hf)
    · rintro j ⟨⟩
    · rintro j ⟨⟩
    · rintro items ⟨⟩
      refine ⟨?_, List.nodup_singleton _⟩
      intro item hitem
      cases List.mem_singleton.1 hitem
      exact ⟨_, rfl, hcandidate⟩
  · cases h

/-- A message for each of the two services. -/
theorem body_accepted_iff_research :
    (∃ req call, Quoted researchMessage req.parsed ∧ Forwards req call ∧
      backendAccepts noTexts call ∧ Deliverable noTexts req.parsed) ∧
    ∃ req call, Quoted routeMessage req.parsed ∧ Forwards req call ∧
      backendAccepts noTexts call ∧ Deliverable noTexts req.parsed := by
  refine ⟨?_, ?_⟩
  · obtain ⟨req, call, hquoted, hservice, hforwards, haccepts⟩ :=
      message_forwarded researchMessage ⟨[], [], []⟩ snapshot_tool (by decide)
        (by decide +kernel : _ = some (_, _, true))
    exact ⟨req, call, hquoted, hforwards, haccepts,
      (body_accepted_iff noTexts hquoted (.inl hservice) hforwards).1 haccepts⟩
  · have hparsed : (parseRequest routeMessage).map (fun p => (p.service, validateInput p,
        routesOne p.input)) = some (js "best_execution", none, true) := by decide +kernel
    obtain ⟨parsed, hparsed, hall⟩ := Option.map_eq_some_iff.1 hparsed
    simp only [Prod.mk.injEq] at hall
    obtain ⟨hservice, hvalid, hroutes⟩ := hall
    obtain ⟨call, hforwards, -⟩ := exists_forwards ⟨parsed, ⟨[], [], []⟩⟩ (hservice ▸ execution_tool)
      (by decide)
    have hdeliverable : Deliverable noTexts parsed := by
      refine ⟨fun h => absurd (hservice.symm.trans h) (by decide), fun _ => ?_⟩
      exact executionInput_of_routesOne hroutes
    exact ⟨⟨parsed, ⟨[], [], []⟩⟩, call, ⟨hparsed, hvalid⟩, hforwards,
      (body_accepted_iff noTexts ⟨hparsed, hvalid⟩ (.inr hservice) hforwards).2 hdeliverable, hdeliverable⟩

/-- The input with an unknown key is quoted and forwarded, and no model takes it. -/
theorem extra_key_rejected : ¬∀ (texts : NumberTexts) (message : SharedNetMessage) (req : ArenaRequest)
    (call : ToolCall), Quoted message req.parsed →
    req.parsed.service = js "trust_snapshot" ∨ req.parsed.service = js "best_execution" →
    Forwards req call → backendAccepts texts call := by
  intro h
  obtain ⟨req, call, hquoted, hservice, hforwards, haccepts⟩ :=
    message_forwarded extraMessage ⟨[], [], []⟩ snapshot_tool (by decide)
      (by decide +kernel : _ = some (_, _, false))
  have haccepted := h noTexts extraMessage req call hquoted (.inl hservice) hforwards
  rw [haccepts] at haccepted
  cases haccepted

end Counterparty.Arena
