import Counterparty.Arena.Grants
import Counterparty.Arena.RouterDriver

/-! The grants of a paid turn: what each of them confers, on whom, and how they are read back. -/
namespace Counterparty.Arena

open Json

def COUNTERPARTY_PURPOSE : JsString := js "counterparty.verify-and-route-sharednet-services"

/-- What SharedOS makes capabilities with: to send to an address, and to execute an agent, each under
an owner. -/
structure CapabilityFunctions where
  messageSendCapability : Address → Address → JsObject
  agentExecutionCapability : Address → Address → JsObject

/-- A value that is read back as it was written. -/
abbrev Plain (j : JsJson) : Prop := j.Readable (fun _ => True) Written

theorem parseJson_plain {j : JsJson} (h : Plain j) : parseJson (stringify j) = some j :=
  parse_render lawful_jsStyle h

theorem stringify_inj {j j' : JsJson} (h : Plain j) (h' : Plain j')
    (htext : stringify j = stringify j') : j = j' := by
  have hread := parseJson_plain h
  rw [htext, parseJson_plain h'] at hread
  exact (Option.some.inj hread).symm

theorem plain_property {key : String} {object : JsObject} {j : JsJson} (h : Plain (.obj object))
    (hj : property key object = some j) : Plain j := by
  cases h with
  | obj _ _ hfields =>
    obtain ⟨before, after, rfl, -⟩ := List.lookup_eq_some_iff.1 hj
    exact hfields (js key, j) (by simp)

/-! Grants. -/

def bound (n : ℕ) : JsNumber := FloatFormat.binary64.ofRat n

/-- `{ purposes, maxUses }`; without a bound there is no `maxUses`. -/
def constraintsJson (maxUses : Option ℕ) : JsObject :=
  (js "purposes", .arr [.str COUNTERPARTY_PURPOSE]) ::
    maxUses.toList.map fun n => (js "maxUses", .num (bound n))

def capabilityGrant (id namespaceId : JsString) (subject owner : Address) (capability : JsObject)
    (maxUses : Option ℕ) (issuedAt : JsString) : CapabilityGrant where
  id := id
  grant :=
    [(js "id", .str id), (js "namespaceId", .str namespaceId), (js "subject", subject.json),
      (js "issuer", owner.json), (js "capabilities", .arr [.obj capability]),
      (js "constraints", .obj (constraintsJson maxUses)), (js "issuedAt", .str issuedAt)]

/-- One action on exactly one resource. -/
def exactCapability (resourceNamespace : JsString) (path : List JsString) (owner : Address)
    (action : JsString) : JsObject :=
  [(js "resource", .obj [(js "namespace", .str resourceNamespace), (js "path", .arr (path.map .str)),
      (js "owner", owner.json)]),
    (js "actions", .arr [.str action]), (js "scope", jsText "exact")]

/-- To invoke one of the services. -/
def serviceCapability (service : JsString) (owner : Address) : JsObject :=
  exactCapability (js "counterparty") [js "services", service] owner (js "invoke")

section Grants

variable (sdk : CapabilityFunctions) (owner : Address) (namespaceId id issuedAt : JsString)

def routerExecutionGrant (maxUses : ℕ) : CapabilityGrant :=
  capabilityGrant id namespaceId COUNTERPARTY_ROUTER owner
    (sdk.agentExecutionCapability COUNTERPARTY_ROUTER owner) (some maxUses) issuedAt

def probeExecutionGrant (maxUses : ℕ) : CapabilityGrant :=
  capabilityGrant id namespaceId COUNTERPARTY_PROBE owner
    (sdk.agentExecutionCapability COUNTERPARTY_PROBE owner) (some maxUses) issuedAt

def routerServiceGrant (service : JsString) : CapabilityGrant :=
  capabilityGrant (js "grant-router-" ++ service) namespaceId COUNTERPARTY_ROUTER owner
    (serviceCapability service owner) none issuedAt

def routerProbeMessageGrant (maxUses : ℕ) : CapabilityGrant :=
  capabilityGrant id namespaceId COUNTERPARTY_ROUTER owner
    (sdk.messageSendCapability COUNTERPARTY_PROBE owner) (some maxUses) issuedAt

/-- Without an id of its own the grant is named after its target. -/
def probeMessageGrant (targetServiceKey : JsString) (maxUses : ℕ) (id : Option JsString) :
    CapabilityGrant :=
  capabilityGrant (id.getD (js "grant-probe-message-" ++ targetServiceKey)) namespaceId
    COUNTERPARTY_PROBE owner (sdk.messageSendCapability (.service targetServiceKey) owner)
    (some maxUses) issuedAt

end Grants

/-! Reading grants back. -/

/-- What a kernel asks for grants with. -/
structure AccessContext where
  namespaceId : JsString
  actor : Address
  authority : Address

/-- `none` when reading the row throws; a value that is no object has no properties. -/
def readGrant (row : GrantRow) : Option (Option JsObject) :=
  match parseJson row.grantJson with
  | none | some .null => none
  | some (.obj grant) => some (some grant)
  | some _ => some none

/-- `JSON.stringify` of the subject and of the issuer are compared. -/
def heldBy (context : AccessContext) (grant : JsObject) : Bool :=
  (property "subject" grant).map stringify == some (stringify context.actor.json) &&
    (property "issuer" grant).map stringify == some (stringify context.authority.json)

/-- `rows.map((row) => JSON.parse(row.grant_json))`; one row that cannot be read makes it throw. -/
def readGrants : List GrantRow → Option (List JsObject)
  | [] => some []
  | row :: rows => do
    let grant ← readGrant row
    let grants ← readGrants rows
    return grant.toList ++ grants

/-- `ArenaStore.load`, on the rows that were selected. -/
def load (context : AccessContext) (rows : List GrantRow) : Option (List JsObject) :=
  (readGrants rows).map fun grants => grants.filter (heldBy context)

/-- `WHERE namespace_id=? AND revoked_at IS NULL` lists the rows in some order. -/
def Selected (namespaceId : JsString) (s : GrantState) (rows : List GrantRow) : Prop :=
  ∃ keys : List GrantKey, keys.Nodup ∧ rows = keys.filterMap s.grants ∧
    ∀ key, key ∈ keys ↔ key.namespaceId = namespaceId ∧
      ∃ row, s.grants key = some row ∧ row.revokedAt = none

/-- The grant names the capability. -/
def Confers (grant capability : JsObject) : Prop :=
  ∃ capabilities, property "capabilities" grant = some (.arr capabilities) ∧
    .obj capability ∈ capabilities

/-- The grant is kept under its key. -/
def KeyOf (grant : JsObject) (key : GrantKey) : Prop :=
  property "id" grant = some (.str key.grantId) ∧
    property "namespaceId" grant = some (.str key.namespaceId)

/-- `grant.constraints.maxUses` -/
def maxUsesOf (grant : JsObject) : Option JsJson :=
  (asObject (property "constraints" grant)).bind (property "maxUses")

/-! What is known of one grant. -/

section Grant

variable {id namespaceId issuedAt : JsString} {subject owner : Address} {capability : JsObject}
  {maxUses : Option ℕ} {context : AccessContext}

theorem plain_str (s : JsString) : Plain (.str s) := .str trivial

theorem jsText_plain (s : String) : Plain (jsText s) := plain_str _

theorem plain_address (address : Address) : Plain address.json := by
  cases address <;>
    exact .obj (by simp only [List.map_cons, List.map_nil]; decide) (fun _ _ => trivial)
      (by simp [jsText, plain_str])

theorem bound_cases {n : ℕ} (h : n < 2 ^ 53) : ∃ mag, bound n = .finite false mag ∧ mag.1 = n := by
  have hrepresentable : FloatFormat.binary64.Representable n :=
    ⟨n, 0, h, by decide, by decide, by simp⟩
  have hnearest : FloatFormat.binary64.nearest |(n : ℚ)| = n := by
    rw [Nat.abs_cast]
    exact FloatFormat.binary64.nearest_of_representable hrepresentable
  have hlt : FloatFormat.binary64.nearest |(n : ℚ)| < FloatFormat.binary64.limit := by
    rw [hnearest]
    exact FloatFormat.binary64.lt_limit hrepresentable
  refine ⟨⟨_, FloatFormat.binary64.representable_nearest (abs_nonneg _) hlt⟩, ?_, hnearest⟩
  rw [bound, FloatFormat.ofRat, dif_pos hlt]
  simp

/-- A bound is what it is written as. -/
theorem bound_inj {m n : ℕ} (hn : n < 2 ^ 53) (h : bound m = bound n) : m = n := by
  obtain ⟨mag, hbound, hmag⟩ := bound_cases hn
  rw [hbound, bound, FloatFormat.ofRat] at h
  split_ifs at h
  injection h with _ hvalue
  have habs : FloatFormat.binary64.nearest |(m : ℚ)| = n := (congrArg Subtype.val hvalue).trans hmag
  have hnearest : FloatFormat.binary64.nearest m = n := by
    rwa [Nat.abs_cast] at habs
  have hq : ((n : ℕ) : ℚ) < 2 ^ FloatFormat.binary64.precision := by
    change (n : ℚ) < 2 ^ 53
    exact_mod_cast hn
  have hcast := FloatFormat.binary64.eq_of_nearest_natCast (by decide) hq hnearest
  exact_mod_cast hcast.symm

theorem plain_bound {n : ℕ} (h : n < 2 ^ 53) : Plain (.num (bound n)) := by
  obtain ⟨mag, hbound, -⟩ := bound_cases h
  rw [hbound]
  exact .num fun _ => rfl

theorem plain_constraints (h : ∀ n ∈ maxUses, n < 2 ^ 53) : Plain (.obj (constraintsJson maxUses)) := by
  have hpurposes : Plain (.arr [.str COUNTERPARTY_PURPOSE]) := .arr (by simp [plain_str])
  cases maxUses with
  | none => exact .obj (by simp [constraintsJson]) (fun _ _ => trivial) (by simp [constraintsJson, hpurposes])
  | some n =>
    refine .obj ?_ (fun _ _ => trivial) ?_
    · simp only [constraintsJson, Option.toList_some, List.map_cons, List.map_nil]
      decide
    · simp [constraintsJson, hpurposes, plain_bound (h n rfl)]

theorem plain_exactCapability (resourceNamespace : JsString) (path : List JsString) (owner : Address)
    (action : JsString) : Plain (.obj (exactCapability resourceNamespace path owner action)) := by
  have hpath : Plain (.arr (path.map .str)) := by
    refine .arr ?_
    simp only [List.mem_map]
    rintro _ ⟨segment, -, rfl⟩
    exact plain_str segment
  have hresource : Plain (.obj [(js "namespace", .str resourceNamespace),
      (js "path", .arr (path.map .str)), (js "owner", owner.json)]) := by
    refine .obj ?_ (fun _ _ => trivial) ?_
    · simp only [List.map_cons, List.map_nil]
      decide
    · simp [plain_str, hpath, plain_address]
  have hactions : Plain (.arr [.str action]) := .arr (by simp [plain_str])
  refine .obj ?_ (fun _ _ => trivial) ?_
  · simp only [exactCapability, List.map_cons, List.map_nil]
    decide
  · simp [exactCapability, hresource, hactions, jsText_plain]

/-- Capabilities on different resources differ. -/
theorem exactCapability_resource {resourceNamespace resourceNamespace' action action' : JsString}
    {path path' : List JsString} {owner owner' : Address}
    (h : exactCapability resourceNamespace path owner action =
      exactCapability resourceNamespace' path' owner' action') :
    resourceNamespace = resourceNamespace' ∧ path = path' := by
  simp only [exactCapability, List.cons.injEq, Prod.mk.injEq, true_and, Json.obj.injEq, Json.str.injEq,
    Json.arr.injEq, and_true] at h
  obtain ⟨⟨hnamespace, hpath, -⟩, -⟩ := h
  have hinjective : Function.Injective (Json.str : JsString → JsJson) := fun _ _ => Json.str.inj
  exact ⟨hnamespace, hinjective.list_map hpath⟩

theorem plain_capabilityGrant (hcapability : Plain (.obj capability))
    (hbound : ∀ n ∈ maxUses, n < 2 ^ 53) :
    Plain (.obj (capabilityGrant id namespaceId subject owner capability maxUses issuedAt).grant) := by
  have hcapabilities : Plain (.arr [.obj capability]) := .arr (by simp [hcapability])
  refine .obj ?_ (fun _ _ => trivial) ?_
  · simp only [capabilityGrant, List.map_cons, List.map_nil]
    decide
  · simp [capabilityGrant, plain_str, plain_address, hcapabilities, plain_constraints hbound]

theorem confers_capabilityGrant {capability' : JsObject} :
    Confers (capabilityGrant id namespaceId subject owner capability maxUses issuedAt).grant capability' ↔
      capability' = capability := by
  constructor
  · rintro ⟨capabilities, hcapabilities, hmem⟩
    cases hcapabilities
    simpa using hmem
  · rintro rfl
    exact ⟨_, rfl, List.mem_singleton_self _⟩

theorem keyOf_capabilityGrant {key : GrantKey} :
    KeyOf (capabilityGrant id namespaceId subject owner capability maxUses issuedAt).grant key ↔
      key = ⟨namespaceId, id⟩ := by
  constructor
  · rintro ⟨hid, hnamespace⟩
    cases hid
    cases hnamespace
    rfl
  · rintro rfl
    exact ⟨rfl, rfl⟩

theorem maxUsesOf_capabilityGrant :
    maxUsesOf (capabilityGrant id namespaceId subject owner capability maxUses issuedAt).grant =
      maxUses.map fun n => .num (bound n) := by
  cases maxUses <;> rfl

/-- Comparing texts compares addresses. -/
theorem heldBy_iff {grant : JsObject} (h : Plain (.obj grant)) : heldBy context grant ↔
    property "subject" grant = some context.actor.json ∧
      property "issuer" grant = some context.authority.json := by
  have hproperty (key : String) (address : Address) :
      (property key grant).map stringify = some (stringify address.json) ↔
        property key grant = some address.json := by
    constructor
    · intro htext
      obtain ⟨j, hj, hj'⟩ := Option.map_eq_some_iff.1 htext
      rw [hj, stringify_inj (plain_property h hj) (plain_address address) hj']
    · intro hj
      rw [hj, Option.map_some]
  simp only [heldBy, Bool.and_eq_true, beq_iff_eq, hproperty]

/-- A grant is found by its subject and its issuer, whoever else there is. -/
theorem heldBy_capabilityGrant (hcapability : Plain (.obj capability))
    (hbound : ∀ n ∈ maxUses, n < 2 ^ 53) :
    heldBy context (capabilityGrant id namespaceId subject owner capability maxUses issuedAt).grant ↔
      context.actor = subject ∧ context.authority = owner := by
  rw [heldBy_iff (plain_capabilityGrant hcapability hbound)]
  have hsubject : property "subject"
      (capabilityGrant id namespaceId subject owner capability maxUses issuedAt).grant =
        some subject.json := rfl
  have hissuer : property "issuer"
      (capabilityGrant id namespaceId subject owner capability maxUses issuedAt).grant =
        some owner.json := rfl
  rw [hsubject, hissuer, Option.some.injEq, Option.some.injEq, Address.json_injective.eq_iff,
    Address.json_injective.eq_iff]
  exact ⟨fun h => ⟨h.1.symm, h.2.symm⟩, fun h => ⟨h.1.symm, h.2.symm⟩⟩

/-- What was stored is read back. -/
theorem readGrant_stored {grant : JsObject} {revokedAt : Option JsString} (h : Plain (.obj grant)) :
    readGrant ⟨stringify (.obj grant), revokedAt⟩ = some (some grant) := by
  rw [readGrant, parseJson_plain h]

end Grant

/-- What is read was a row. -/
theorem mem_readGrants {rows : List GrantRow} {grants : List JsObject} {grant : JsObject}
    (h : readGrants rows = some grants) (hmem : grant ∈ grants) :
    ∃ row ∈ rows, readGrant row = some (some grant) := by
  induction rows generalizing grants with
  | nil =>
    cases h
    cases hmem
  | cons row rows ih =>
    simp only [readGrants, Option.bind_eq_bind, Option.bind_eq_some_iff, Option.pure_def,
      Option.some.injEq] at h
    obtain ⟨read, hread, rest, hrest, rfl⟩ := h
    rcases List.mem_append.1 hmem with hmem | hmem
    · rw [Option.mem_toList] at hmem
      cases hmem
      exact ⟨row, by simp, hread⟩
    · obtain ⟨row', hrow', hread'⟩ := ih hrest hmem
      exact ⟨row', by simp [hrow'], hread'⟩

/-- Rows that can be read are all read. -/
theorem exists_readGrants {rows : List GrantRow}
    (h : ∀ row ∈ rows, ∃ grant, readGrant row = some grant) : ∃ grants, readGrants rows = some grants := by
  induction rows with
  | nil => exact ⟨[], rfl⟩
  | cons row rows ih =>
    obtain ⟨grant, hgrant⟩ := h row List.mem_cons_self
    obtain ⟨grants, hgrants⟩ := ih fun row hrow => h row (List.mem_cons_of_mem _ hrow)
    exact ⟨grant.toList ++ grants, by simp [readGrants, hgrant, hgrants]⟩

theorem mem_readGrants_of_row {rows : List GrantRow} {grants : List JsObject} {grant : JsObject}
    {row : GrantRow} (h : readGrants rows = some grants) (hrow : row ∈ rows)
    (hread : readGrant row = some (some grant)) : grant ∈ grants := by
  induction rows generalizing grants with
  | nil => cases hrow
  | cons row' rows ih =>
    simp only [readGrants, Option.bind_eq_bind, Option.bind_eq_some_iff, Option.pure_def,
      Option.some.injEq] at h
    obtain ⟨read, hread', rest, hrest, rfl⟩ := h
    rcases List.mem_cons.1 hrow with rfl | hrow
    · rw [hread] at hread'
      cases hread'
      simp
    · exact List.mem_append_right _ (ih hrest hrow)

/-- What is loaded was read from a row of the namespace, and is held by the actor. -/
theorem mem_load {context : AccessContext} {rows : List GrantRow} {grants : List JsObject}
    {grant : JsObject} (h : load context rows = some grants) (hmem : grant ∈ grants) :
    heldBy context grant ∧ ∃ row ∈ rows, readGrant row = some (some grant) := by
  obtain ⟨read, hread, rfl⟩ := Option.map_eq_some_iff.1 h
  obtain ⟨hmem', hheld⟩ := List.mem_filter.1 hmem
  exact ⟨hheld, mem_readGrants hread hmem'⟩

end Counterparty.Arena
