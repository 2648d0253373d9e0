import Counterparty.Library.Trace
import Counterparty.Arena.Host
import Counterparty.Arena.Resend

/-! Where authority comes from, in every run of any number of processes: what an actor is granted was
stored for a request that is paid for, and confers what the request asked for and nothing else. -/
namespace Counterparty.Arena

open Json Interleave

/-- What the capabilities of SharedOS are known to be: values that can be stored, for exactly one
recipient, and of their own kind. -/
structure CapabilityFunctions.Lawful (functions : CapabilityFunctions) : Prop where
  plain_send : ∀ address owner, Plain (.obj (functions.messageSendCapability address owner))
  plain_execution : ∀ address owner, Plain (.obj (functions.agentExecutionCapability address owner))
  send_recipient : ∀ address owner address' owner',
    functions.messageSendCapability address owner = functions.messageSendCapability address' owner' →
      address = address'
  send_ne_execution : ∀ address owner address' owner',
    functions.messageSendCapability address owner ≠ functions.agentExecutionCapability address' owner'
  send_ne_service : ∀ address owner service owner',
    functions.messageSendCapability address owner ≠ serviceCapability service owner'

/-- A payment is bound to the request, by a transfer that the process which claimed it found. -/
def PaidHere (sha256 : Text → Text) (history : List HostEvent) (s : ArenaState) (req : ArenaRequest) :
    Prop :=
  ∃ row ∈ s.payments.rows, row.requestId = req.parsed.requestId ∧
    row.fingerprint = requestFingerprint sha256 req.parsed ∧
    ∃ claimer, .called claimer (.arena (.claimPayment row)) (.ok .claimed) ∈ history ∧
      ∃ item ∈ s.ledger.rows,
        Pays item (expectedPayment ⟨req.parsed, claimer.request.process⟩ row.txnId)

/-- The request is for a snapshot of the seat. -/
def NamesSeller (req : ArenaRequest) (seat : JsString) : Prop :=
  req.parsed.service = js "trust_snapshot" ∧
    stringOf (property "service_id" req.parsed.input) = some seat ∧ sharednetSeatPattern seat

instance (req : ArenaRequest) (seat : JsString) : Decidable (NamesSeller req seat) :=
  inferInstanceAs (Decidable (_ ∧ _))

/-- What a turn confers, and on whom. -/
inductive Conferred (functions : CapabilityFunctions) (owner : Address) (turn : RouterTurn) :
    Address → JsObject → Prop
  | service : Conferred functions owner turn COUNTERPARTY_ROUTER (serviceCapability turn.service owner)
  | execution : Conferred functions owner turn COUNTERPARTY_ROUTER
      (functions.agentExecutionCapability COUNTERPARTY_ROUTER owner)
  | askProbe (h : turn.service = js "trust_snapshot") : Conferred functions owner turn
      COUNTERPARTY_ROUTER (functions.messageSendCapability COUNTERPARTY_PROBE owner)
  | probeExecution (h : turn.service = js "trust_snapshot") : Conferred functions owner turn
      COUNTERPARTY_PROBE (functions.agentExecutionCapability COUNTERPARTY_PROBE owner)
  | contact (h : turn.service = js "trust_snapshot") : Conferred functions owner turn
      COUNTERPARTY_PROBE (functions.messageSendCapability (.service (targetOf turn.input)) owner)

/-- The grant is for sending to the address. -/
def Covers (functions : CapabilityFunctions) (grant : JsObject) (address : Address) : Prop :=
  ∃ owner, Confers grant (functions.messageSendCapability address owner)

variable {os : SharedOS} {world : World} {turn : RouterTurn} {sha256 : Text → Text} {ledger : Ledger}
  {history' : List HostEvent} {c' : HostConfig} {attempt issuedAt : JsString} {grant : CapabilityGrant}

theorem js_append (s t : String) (rest : JsString) : js (s ++ t) ++ rest = js s ++ (js t ++ rest) := by
  simp [js]

/-- A grant of a turn is one capability for one subject, which may be used once, unless it is for the
service. -/
theorem minted_cases {make : JsString → CapabilityGrant} (h : make ∈ turnGrants os world turn attempt) :
    ∃ id subject capability maxUses, (∀ issuedAt, make issuedAt =
        capabilityGrant id world.namespaceId subject world.owner capability maxUses issuedAt) ∧
      Conferred os.functions world.owner turn subject capability ∧
      (maxUses = some 1 ∧ (subject = COUNTERPARTY_PROBE → ∃ rest, id = js "grant-probe-" ++ rest) ∨
        maxUses = none ∧ capability = serviceCapability turn.service world.owner ∧
          id = js "grant-router-" ++ turn.service) := by
  simp only [turnGrants, List.mem_append, List.mem_cons, List.not_mem_nil, or_false] at h
  rcases h with (rfl | rfl) | h
  · exact ⟨_, _, _, none, fun _ => rfl, .service, .inr ⟨rfl, rfl, rfl⟩⟩
  · exact ⟨_, _, _, some 1, fun _ => rfl, .execution, .inl ⟨rfl, fun h => absurd h (by decide)⟩⟩
  · split_ifs at h with hservice
    · simp only [List.mem_cons, List.not_mem_nil, or_false] at h
      rcases h with rfl | rfl | rfl
      · exact ⟨_, _, _, some 1, fun _ => rfl, .askProbe hservice, .inl ⟨rfl, fun h => absurd h (by decide)⟩⟩
      · exact ⟨_, _, _, some 1, fun _ => rfl, .probeExecution hservice,
          .inl ⟨rfl, fun _ => ⟨_, js_append "grant-probe-" "exec-" attempt⟩⟩⟩
      · exact ⟨_, _, _, some 1, fun _ => rfl, .contact hservice,
          .inl ⟨rfl, fun _ => ⟨_, js_append "grant-probe-" "target-" attempt⟩⟩⟩
    · cases h

theorem small_uses {P Q : Prop} {maxUses : Option ℕ} (h : maxUses = some 1 ∧ P ∨ maxUses = none ∧ Q) :
    ∀ n ∈ maxUses, n < 2 ^ 53 := by
  rcases h with ⟨rfl, -⟩ | ⟨rfl, -⟩ <;> simp

theorem Conferred.plain {functions : CapabilityFunctions} {owner subject : Address}
    {capability : JsObject} (hlawful : functions.Lawful)
    (h : Conferred functions owner turn subject capability) : Plain (.obj capability) := by
  cases h with
  | service => exact plain_exactCapability _ _ _ _
  | execution => exact hlawful.plain_execution _ _
  | askProbe h => exact hlawful.plain_send _ _
  | probeExecution h => exact hlawful.plain_execution _ _
  | contact h => exact hlawful.plain_send _ _

/-- Only the Probe may contact a seat, and only the seat the turn is about. -/
theorem Conferred.seat {functions : CapabilityFunctions} {owner owner' subject : Address}
    {capability : JsObject} {seat : JsString} (hlawful : functions.Lawful)
    (h : Conferred functions owner turn subject capability)
    (hseat : functions.messageSendCapability (.service seat) owner' = capability) :
    subject = COUNTERPARTY_PROBE ∧ turn.service = js "trust_snapshot" ∧ targetOf turn.input = seat := by
  cases h with
  | service => exact absurd hseat (hlawful.send_ne_service _ _ _ _)
  | execution => exact absurd hseat (hlawful.send_ne_execution _ _ _ _)
  | askProbe h => cases hlawful.send_recipient _ _ _ _ hseat
  | probeExecution h => exact absurd hseat (hlawful.send_ne_execution _ _ _ _)
  | contact h =>
    cases hlawful.send_recipient _ _ _ _ hseat
    exact ⟨rfl, h, rfl⟩

/-! What is stored. -/

/-- No step takes back a payment or a transfer. -/
theorem steps_le {c c₁ : ArenaConfig} {events : List (ℕ × ArenaEvent)}
    (h : Steps ArenaOp.Exec (processRequest sha256) c events c₁) : c.store.Le c₁.store := by
  induction h with
  | refl => exact .refl _
  | step h hstep ih =>
    rcases hstep.store_cases with hsame | ⟨op, r, hexec⟩
    · exact hsame ▸ ih
    · exact ih.trans (le_of_exec hexec)

/-- A request that calls anything is valid. -/
theorem valid_of_handler {history : List ArenaEvent} {c : ArenaConfig} {i : ℕ} {req : ArenaRequest}
    {op : ArenaOp} {next : op.Ret → Handler} (hrun : ArenaRun sha256 ledger history c)
    (h : c.handlers i = some (req, .call op next)) : validateInput req.parsed = none := by
  have hhandlers := hrun.handlers
    (P := fun req p => validateInput req.parsed = none ∨ ∃ a, p = .done a) ?_ ?_ i req _ h
  · rcases hhandlers with hvalid | ⟨a, hdone⟩
    · exact hvalid
    · cases hdone
  · intro req
    cases hvalid : validateInput req.parsed with
    | none => exact .inl rfl
    | some reason => exact .inr ⟨_, by rw [processRequest, hvalid]; rfl⟩
  · rintro req op next r (hvalid | ⟨a, hdone⟩)
    · exact .inl hvalid
    · cases hdone

/-- A valid request for a snapshot names a seat. -/
theorem namesSeller_of_valid {req : ArenaRequest} (hvalid : validateInput req.parsed = none)
    (hservice : req.parsed.service = js "trust_snapshot") :
    NamesSeller req (targetOf req.parsed.input) := by
  rw [validateInput, if_pos hservice] at hvalid
  split at hvalid
  · rename_i seat hseat
    split_ifs at hvalid with hpattern
    have hstring : stringOf (property "service_id" req.parsed.input) = some seat := by
      rw [hseat, stringOf]
    rw [targetOf, hstring]
    exact ⟨hservice, hstring, hpattern⟩
  · cases hvalid

theorem paidHere_of_shown {history : List ArenaEvent} {c : ArenaConfig} {req : ArenaRequest}
    (h : ShownArena os sha256 ledger history' c' history c)
    (hpaid : PaidByTransfer sha256 history c.store req) :
    PaidHere sha256 history' c'.store.arena req := by
  obtain ⟨row, hrow, hid, hfingerprint, claimer, hmem, item, hitem, hpays⟩ := hpaid
  obtain ⟨claimer', hclaimer, hmem'⟩ := h.called (by simp) hmem
  rw [h.store] at hrow hitem
  exact ⟨row, hrow, hid, hfingerprint, claimer', hmem', item, hitem, hclaimer ▸ hpays⟩

/-- A turn stores its own grants, and only for a request that is valid and paid for. -/
theorem stored_paid (hsha : Function.Injective sha256) (hrun : HostRun os sha256 ledger history' c')
    {req : HostRequest} {namespaceId : JsString} {r : (GrantOp.storeGrant namespaceId grant).Result}
    (hmem : .called req (.grant (.storeGrant namespaceId grant)) r ∈ history') :
    namespaceId = req.world.namespaceId ∧ validateInput req.request.parsed = none ∧
      PaidHere sha256 history' c'.store.arena req.request ∧ ∃ attempt issuedAt,
        ∃ make ∈ turnGrants os req.world (routerTurn req.request) attempt, grant = make issuedAt := by
  obtain ⟨history, c, hshown⟩ := exists_shownArena hrun
  obtain ⟨past, c₀, i, op, next, events, hrun₀, hhandler, hinside, hsteps, rfl⟩ :=
    hshown.within req (.grant (.storeGrant namespaceId grant)) r hmem
  cases op with
  | executeTurn turn =>
    obtain ⟨hnamespace, attempt, issuedAt, make, hmake, hgrant⟩ := hinside
    obtain ⟨⟨rfl, hpaid⟩, -⟩ := (arena_good hrun₀).keeps i _ _ hhandler
    have hsound := (arena_good hshown.run).inv
    have hnow : PaidFor c.store.payments (req.request.order sha256) := hpaid.mono (steps_le hsteps).2
    exact ⟨hnamespace, valid_of_handler hrun₀ hhandler,
      paidHere_of_shown hshown (paidByTransfer_of_sound hsha hsound hnow),
      attempt, issuedAt, make, hmake, hgrant⟩
  | _ => cases hinside

/-- What is stored under the key, where the statement did not fail. -/
def storeOf (key : GrantKey) : HostEvent → Option CapabilityGrant
  | .called _ (.grant (.storeGrant namespaceId grant)) (.ok _) =>
    if key = ⟨namespaceId, grant.id⟩ then some grant else none
  | _ => none

/-- What was last stored under the key. -/
def lastStored (key : GrantKey) (history : List HostEvent) : Option CapabilityGrant :=
  (history.filterMap (storeOf key)).getLast?

theorem lastStored_append (key : GrantKey) (history : List HostEvent) (e : HostEvent) :
    lastStored key (history ++ [e]) = (storeOf key e).or (lastStored key history) := by
  unfold lastStored
  rw [List.filterMap_append]
  cases h : storeOf key e <;> simp [h]

theorem tryConsume_grants (namespaceId grantId : JsString) (maximumUses : ℕ) (s : GrantState) :
    (tryConsume namespaceId grantId maximumUses s).2.grants = s.grants := by
  unfold tryConsume
  dsimp only
  split
  · rfl
  · split_ifs <;> rfl

/-- Nothing but a store of a grant changes the grants. -/
theorem grants_of_exec (req : HostRequest) {op : HostOp} {s s' : HostState} {r : op.Ret}
    (h : op.Exec s r s') (key : GrantKey) : s'.grants.grants key =
      ((storeOf key (.called req op r)).map fun grant => ⟨stringify (.obj grant.grant), none⟩).or
        (s.grants.grants key) := by
  cases op with
  | arena op =>
    obtain ⟨arena, -, rfl⟩ := h
    rfl
  | load context => exact congrArg (fun s => s.grants.grants key) h.1
  | randomUUID => exact congrArg (fun s => s.grants.grants key) h
  | isoTime => exact congrArg (fun s => s.grants.grants key) h
  | deliver envelope => exact congrArg (fun s => s.grants.grants key) h
  | outside question => exact congrArg (fun s => s.grants.grants key) h
  | grant op =>
    obtain ⟨grants, hexec, rfl⟩ := h
    rcases hexec with ⟨rfl, error, rfl⟩ | ⟨rfl, rfl⟩
    · cases op <;> rfl
    · cases op with
      | getUsage namespaceId grantId => rfl
      | tryConsume namespaceId grantId maximumUses =>
        exact congrFun (tryConsume_grants namespaceId grantId maximumUses s.grants) key
      | storeGrant namespaceId grant =>
        change Function.update s.grants.grants ⟨namespaceId, grant.id⟩
          (some ⟨stringify (.obj grant.grant), none⟩) key = _
        by_cases hkey : key = ⟨namespaceId, grant.id⟩
        · subst hkey
          simp [storeOf]
        · simp [storeOf, hkey]

/-- The table holds what was last stored under each key, as it was stored. -/
theorem table_eq (hrun : HostRun os sha256 ledger history' c') (key : GrantKey) :
    c'.store.grants.grants key =
      (lastStored key history').map fun grant => ⟨stringify (.obj grant.grant), none⟩ := by
  induction hrun with
  | init => rfl
  | @step history c c₁ i e hrun hstep hok ih =>
    rw [lastStored_append]
    cases hstep with
    | start req hnone => exact ih
    | finish hhandler => exact ih
    | crash hhandler => exact ih
    | @call req op next r s hhandler hexec =>
      have hafter := grants_of_exec req hexec key
      change s.grants.grants key = _
      rw [hafter, ih]
      cases storeOf key (.called req op r : HostEvent) <;> rfl

/-- A grant that was last stored was stored. -/
theorem stored_of_lastStored {key : GrantKey} (h : lastStored key history' = some grant) :
    ∃ req, .called req (.grant (.storeGrant key.namespaceId grant)) (.ok ()) ∈ history' ∧
      key.grantId = grant.id := by
  obtain ⟨e, he, hkey⟩ := List.mem_filterMap.1 (List.mem_of_getLast? h)
  unfold storeOf at hkey
  split at hkey
  · split_ifs at hkey with hsame
    cases hkey
    subst hsame
    exact ⟨_, he, rfl⟩
  · cases hkey

theorem plain_of_stored (hsha : Function.Injective sha256) (hlawful : os.functions.Lawful)
    (hrun : HostRun os sha256 ledger history' c') {req : HostRequest} {namespaceId : JsString}
    {r : (GrantOp.storeGrant namespaceId grant).Result}
    (hmem : .called req (.grant (.storeGrant namespaceId grant)) r ∈ history') :
    Plain (.obj grant.grant) := by
  obtain ⟨-, -, -, attempt, issuedAt, make, hmake, rfl⟩ := stored_paid hsha hrun hmem
  obtain ⟨id, subject, capability, maxUses, hform, hconferred, hbound⟩ := minted_cases hmake
  rw [hform]
  exact plain_capabilityGrant (hconferred.plain hlawful) (small_uses hbound)

/-- A row that is selected is read back as what was last stored under its key. -/
theorem read_selected (hsha : Function.Injective sha256) (hlawful : os.functions.Lawful)
    (hrun : HostRun os sha256 ledger history' c') {namespaceId : JsString} {rows : List GrantRow}
    (hselected : Selected namespaceId c'.store.grants rows) {row : GrantRow} (hrow : row ∈ rows) :
    ∃ grantId grant, lastStored ⟨namespaceId, grantId⟩ history' = some grant ∧
      readGrant row = some (some grant.grant) := by
  obtain ⟨keys, -, rfl, hkeys⟩ := hselected
  obtain ⟨⟨namespaceId', grantId⟩, hkey, hgrants⟩ := List.mem_filterMap.1 hrow
  obtain ⟨rfl, -⟩ := (hkeys _).1 hkey
  rw [table_eq hrun] at hgrants
  obtain ⟨grant, hlast, rfl⟩ := Option.map_eq_some_iff.1 hgrants
  obtain ⟨req, hstored, -⟩ := stored_of_lastStored hlast
  exact ⟨grantId, grant, hlast, readGrant_stored (plain_of_stored hsha hlawful hrun hstored)⟩

/-- All rows can be read, and what is read is what was last stored in the namespace. -/
theorem read_exact (hsha : Function.Injective sha256) (hlawful : os.functions.Lawful)
    (hrun : HostRun os sha256 ledger history' c') {namespaceId : JsString} {rows : List GrantRow}
    (hselected : Selected namespaceId c'.store.grants rows) :
    ∃ read, readGrants rows = some read ∧ ∀ granted, granted ∈ read ↔
      ∃ grantId grant, lastStored ⟨namespaceId, grantId⟩ history' = some grant ∧
        granted = grant.grant := by
  obtain ⟨read, hread⟩ : ∃ read, readGrants rows = some read :=
    exists_readGrants fun row hrow => by
      obtain ⟨grantId, grant, -, hgrant⟩ := read_selected hsha hlawful hrun hselected hrow
      exact ⟨_, hgrant⟩
  refine ⟨read, hread, ?_⟩
  intro granted
  constructor
  · intro hmem
    obtain ⟨row, hrow, hgranted⟩ := mem_readGrants hread hmem
    obtain ⟨grantId, grant, hlast, hgrant⟩ := read_selected hsha hlawful hrun hselected hrow
    rw [hgranted] at hgrant
    cases hgrant
    exact ⟨grantId, grant, hlast, rfl⟩
  · rintro ⟨grantId, grant, hlast, rfl⟩
    obtain ⟨req, hstored, -⟩ := stored_of_lastStored hlast
    obtain ⟨keys, -, rfl, hkeys⟩ := hselected
    have hrow : c'.store.grants.grants ⟨namespaceId, grantId⟩ =
        some ⟨stringify (.obj grant.grant), none⟩ := by
      rw [table_eq hrun, hlast, Option.map_some]
    have hkey : (⟨namespaceId, grantId⟩ : GrantKey) ∈ keys := (hkeys _).2 ⟨rfl, _, hrow, rfl⟩
    exact mem_readGrants_of_row hread (List.mem_filterMap.2 ⟨_, hkey, hrow⟩)
      (readGrant_stored (plain_of_stored hsha hlawful hrun hstored))

/-- What a load answers was stored before, in the namespace and for the actor that asks. -/
theorem stored_of_loaded (hsha : Function.Injective sha256) (hlawful : os.functions.Lawful)
    (hrun : HostRun os sha256 ledger history' c') {loader : HostRequest} {context : AccessContext}
    {grants : List JsObject} (hmem : .called loader (.load context) (.ok grants) ∈ history')
    {granted : JsObject} (hgranted : granted ∈ grants) : heldBy context granted ∧ ∃ req grant,
      .called req (.grant (.storeGrant context.namespaceId grant)) (.ok ()) ∈ history' ∧
        granted = grant.grant := by
  induction hrun with
  | init => cases hmem
  | @step history c c₁ i e hrun hstep hok ih =>
    rcases List.mem_append.1 hmem with hmem | hmem
    · obtain ⟨hheld, req, grant, hstored, hrest⟩ := ih hmem
      exact ⟨hheld, req, grant, List.mem_append_left _ hstored, hrest⟩
    · cases List.mem_singleton.1 hmem
      cases hstep with
      | call hhandler hexec =>
        obtain ⟨-, ⟨message, hfailed⟩ | ⟨rows, loaded, ⟨keys, hnodup, rfl, hkeys⟩, hload, hanswer⟩⟩ := hexec
        · cases hfailed
        · cases hanswer
          obtain ⟨hheld, row, hrow, hread⟩ := mem_load hload hgranted
          obtain ⟨grantId, grant, hlast, hgrant⟩ := read_selected hsha hlawful hrun ⟨keys, hnodup, rfl, hkeys⟩ hrow
          rw [hread] at hgrant
          cases hgrant
          obtain ⟨req, hstored, -⟩ := stored_of_lastStored hlast
          exact ⟨hheld, req, grant, List.mem_append_left _ hstored, rfl⟩

/-! A paid turn on its own, up to its kernel. -/

/-- The key of a grant that is stored. -/
def storedKey : HostEvent → Option GrantKey
  | .called _ (.grant (.storeGrant namespaceId grant)) _ => some ⟨namespaceId, grant.id⟩
  | _ => none

/-- The rows of a namespace can be listed. -/
theorem exists_selected (hrun : HostRun os sha256 ledger history' c') (namespaceId : JsString) :
    ∃ rows, Selected namespaceId c'.store.grants rows := by
  let live : GrantKey → Bool := fun key =>
    key.namespaceId = namespaceId ∧ (c'.store.grants.grants key).isSome
  refine ⟨_, (history'.filterMap storedKey).dedup.filter live, (List.nodup_dedup _).filter _, rfl, ?_⟩
  intro key
  rw [List.mem_filter, List.mem_dedup]
  simp only [live, decide_eq_true_eq]
  constructor
  · rintro ⟨-, hnamespace, hsome⟩
    obtain ⟨row, hrow⟩ := Option.isSome_iff_exists.1 hsome
    rw [table_eq hrun] at hrow
    obtain ⟨grant, hlast, rfl⟩ := Option.map_eq_some_iff.1 hrow
    exact ⟨hnamespace, _, by rw [table_eq hrun, hlast, Option.map_some], rfl⟩
  · rintro ⟨hnamespace, row, hrow, -⟩
    refine ⟨?_, hnamespace, by simp [hrow]⟩
    rw [table_eq hrun] at hrow
    obtain ⟨grant, hlast, -⟩ := Option.map_eq_some_iff.1 hrow
    obtain ⟨req, hstored, hid⟩ := stored_of_lastStored hlast
    have hkey : (⟨key.namespaceId, grant.id⟩ : GrantKey) = key := by rw [← hid]
    exact List.mem_filterMap.2 ⟨_, hstored, congrArg some hkey⟩

/-- A process with one namespace and one owner. -/
def arenaWorld : World := ⟨js "counterparty-arena", .human (js "counterparty-owner")⟩

def snapshotRequest : HostRequest := ⟨snapshotOrder, arenaWorld⟩

/-- The ledger after the snapshot was paid for. -/
def snapshotLedger : Ledger where
  rows :=
    [{ id := some (js "txn_AAAAAAAAAA")
       amount := some (Price.credits 4).number
       memo := some (js "Counterparty trust_snapshot order-1")
       roomId := some (js "rom_1")
       addressedTo := some (js "p_AAAAAAAAAA")
       byInstanceId := some (js "i_AAAAAAAAAA") }]
  apart := List.pairwise_singleton _ _

theorem payable_snapshot : Payable snapshotLedger snapshotOrder (js "txn_AAAAAAAAAA") :=
  ⟨by decide, rfl, by decide, by decide +kernel⟩

/-- The ticket of the first attempt. -/
def snapshotTicket (functions : CapabilityFunctions) : CapabilityGrant :=
  probeMessageGrant functions arenaWorld.owner arenaWorld.namespaceId (js "now") (js "i_BBBBBBBBBB") 1
    (some (js "grant-probe-target-" ++ js "attempt-1"))

def snapshotTicketKey : GrantKey := ⟨js "counterparty-arena", js "grant-probe-target-attempt-1"⟩

theorem storeOf_snapshotTicket (functions : CapabilityFunctions) :
    storeOf snapshotTicketKey (.called snapshotRequest (.grant (.storeGrant arenaWorld.namespaceId
      (snapshotTicket functions))) (.ok ()) : HostEvent) = some (snapshotTicket functions) := by
  have hid : js "grant-probe-target-attempt-1" = js "grant-probe-target-" ++ js "attempt-1" := by decide
  have hkey : snapshotTicketKey = ⟨arenaWorld.namespaceId, (snapshotTicket functions).id⟩ :=
    congrArg (GrantKey.mk (js "counterparty-arena")) hid
  change (if snapshotTicketKey = ⟨arenaWorld.namespaceId, (snapshotTicket functions).id⟩ then
    some (snapshotTicket functions) else none) = _
  rw [if_pos hkey]

theorem exec_storeGrant (namespaceId : JsString) (grant : CapabilityGrant) (s : HostState) :
    HostOp.Exec (.grant (.storeGrant namespaceId grant)) s (.ok ())
      { s with grants := storeGrant namespaceId grant s.grants } :=
  ⟨_, .inr ⟨rfl, rfl⟩, rfl⟩

theorem leads_storeGrants (os : SharedOS) (world : World) {α : Type} (front rest : List (JsString → CapabilityGrant))
    (next : Except JsString Unit → HostProgram α) (s : HostState) : ∃ calls s',
      Interleave.Leads HostOp.Exec (storeGrants os world (front ++ rest) >>= next) s calls
        (storeGrants os world rest >>= next) s' ∧ s'.grants.usage = s.grants.usage := by
  induction front generalizing s with
  | nil => exact ⟨_, _, .refl _ _, rfl⟩
  | cons grant front ih =>
    obtain ⟨calls, s', h, husage⟩ := ih { s with grants := storeGrant world.namespaceId (grant (js "now")) s.grants }
    have htime : HostOp.Exec .isoTime s (js "now") s := rfl
    refine ⟨⟨.isoTime, js "now"⟩ ::
      ⟨.grant (.storeGrant world.namespaceId (grant (js "now"))), .ok ()⟩ :: calls, s', ?_, husage⟩
    exact .call htime (.call (exec_storeGrant world.namespaceId (grant (js "now")) s) h)

/-- The claim succeeds, and the turn comes next. -/
theorem leads_claimed : ∃ calls s', Interleave.Leads HostOp.Exec (hostRequest os id snapshotRequest)
      (.initial snapshotLedger)
      (calls ++ [⟨.arena (.claimPayment (paymentOf id snapshotOrder (js "txn_AAAAAAAAAA"))), .ok .claimed⟩])
      ((executeAndSave id snapshotOrder (js "txn_AAAAAAAAAA")).expand (hostStep os arenaWorld)) s' ∧
    s'.grants = .empty := by
  have hpayable := payable_snapshot
  have hnumber : (paymentOf id snapshotOrder (js "txn_AAAAAAAAAA")).amount ≠ .nan :=
    (by decide +kernel : (Price.credits 4).number ≠ .nan)
  obtain ⟨payments, hclaim, -⟩ := claimPayment_first hnumber
  have hcached : HostOp.Exec (.arena (.cachedResponse snapshotOrder.parsed.requestId
      (requestFingerprint id snapshotOrder.parsed))) (.initial snapshotLedger) (.ok none)
      (.initial snapshotLedger) := ⟨_, ⟨rfl, false, rfl⟩, rfl⟩
  have hverified : HostOp.Exec (.arena (.verifyPayment (expectedPayment snapshotOrder
      (js "txn_AAAAAAAAAA")))) (.initial snapshotLedger) (.ok true) (.initial snapshotLedger) :=
    ⟨_, .inr ⟨snapshotLedger, snapshotLedger.rows, List.prefix_rfl, .refl _, rfl,
      by rw [hpayable.verified]⟩, rfl⟩
  have hclaimed : HostOp.Exec (.arena (.claimPayment (paymentOf id snapshotOrder (js "txn_AAAAAAAAAA"))))
      (.initial snapshotLedger) (.ok .claimed)
      ⟨{ ledger := snapshotLedger
         payments := (claimPayment (fun _ => false) 0
           (paymentOf id snapshotOrder (js "txn_AAAAAAAAAA")) .empty).2
         responses := fun _ => none }, .empty⟩ :=
    ⟨_, ⟨fun _ => false, 0, (congrArg Prod.fst hclaim).symm, rfl⟩, rfl⟩
  exact ⟨[_, _], _, .call hcached (.call hverified (.call hclaimed (.refl _ _))), rfl⟩

theorem turnGrants_snapshot : turnGrants os arenaWorld (routerTurn snapshotOrder) (js "attempt-1") =
    (turnGrants os arenaWorld (routerTurn snapshotOrder) (js "attempt-1")).take 4 ++
      [fun issuedAt => probeMessageGrant os.functions arenaWorld.owner arenaWorld.namespaceId issuedAt
        (js "i_BBBBBBBBBB") 1 (some (js "grant-probe-target-" ++ js "attempt-1"))] := by
  have hservice : (routerTurn snapshotOrder).service = js "trust_snapshot" := rfl
  rw [turnGrants, if_pos hservice]
  rfl

/-- The grants are stored, the ticket last, and the kernel comes next. -/
theorem leads_turn (os : SharedOS) (s : HostState) : ∃ calls s', Interleave.Leads HostOp.Exec
    (executeTurn os arenaWorld (routerTurn snapshotOrder)) s
    (calls ++ [⟨.isoTime, js "now"⟩,
      ⟨.grant (.storeGrant arenaWorld.namespaceId (snapshotTicket os.functions)), .ok ()⟩,
      ⟨.randomUUID, js "trace-1"⟩])
    ((os.execute arenaWorld (routerTurn snapshotOrder) (js "trace-1")).expand kernelStep) s' ∧
    s'.grants.usage = s.grants.usage := by
  have hattempt : HostOp.Exec .randomUUID s (js "attempt-1") s := rfl
  obtain ⟨calls, s₁, hfront, husage⟩ := leads_storeGrants os arenaWorld
    ((turnGrants os arenaWorld (routerTurn snapshotOrder) (js "attempt-1")).take 4)
    [fun issuedAt => probeMessageGrant os.functions arenaWorld.owner arenaWorld.namespaceId issuedAt
      (js "i_BBBBBBBBBB") 1 (some (js "grant-probe-target-" ++ js "attempt-1"))]
    (executeStored os arenaWorld (routerTurn snapshotOrder)) s
  rw [← turnGrants_snapshot] at hfront
  have htime : HostOp.Exec .isoTime s₁ (js "now") s₁ := rfl
  refine ⟨⟨.randomUUID, js "attempt-1"⟩ :: calls,
    { s₁ with grants := storeGrant arenaWorld.namespaceId (snapshotTicket os.functions) s₁.grants },
    .call hattempt ?_, husage⟩
  have htrace (s : HostState) : HostOp.Exec .randomUUID s (js "trace-1") s := rfl
  exact hfront.trans (.call htime (.call (exec_storeGrant _ _ s₁) (.call (htrace _) (.refl _ _))))

/-- A snapshot is paid for and its turn is begun, up to the kernel. -/
theorem exists_turnBegun (os : SharedOS) : ∃ history c next, HostRun os id snapshotLedger history c ∧
    c.handlers 0 = some (snapshotRequest, (os.execute arenaWorld (routerTurn snapshotOrder)
      (js "trace-1")).expand kernelStep >>= next) ∧
    .called snapshotRequest (.arena (.claimPayment (paymentOf id snapshotOrder (js "txn_AAAAAAAAAA"))))
      (.ok .claimed) ∈ history ∧
    lastStored snapshotTicketKey history = some (snapshotTicket os.functions) ∧
    c.store.grants.usage = fun _ => none := by
  obtain ⟨calls, s, hclaimed, hempty⟩ := leads_claimed
  obtain ⟨calls', s', hturn, husage⟩ := leads_turn os s
  obtain ⟨next, hnext⟩ : ∃ next,
      (executeAndSave id snapshotOrder (js "txn_AAAAAAAAAA")).expand (hostStep os arenaWorld) =
        executeTurn os arenaWorld (routerTurn snapshotOrder) >>= next := ⟨_, rfl⟩
  rw [hnext] at hclaimed
  have hstarted : HostRun os id snapshotLedger [.started snapshotRequest] _ :=
    RunWhere.init.step (.start 0 snapshotRequest rfl) trivial
  have hready := Run.leads hstarted (Function.update_self ..) (hclaimed.trans (hturn.bind _))
  refine ⟨_, _, next, hready, by simp only [Function.update_self], ?_, ?_,
    husage.trans (congrArg GrantState.usage hempty)⟩
  · simp [calledBy]
  · have hlast (past : List HostEvent) (e e' : HostEvent) (he' : storeOf snapshotTicketKey e' = none)
        (he : storeOf snapshotTicketKey e = some (snapshotTicket os.functions)) :
        lastStored snapshotTicketKey (past ++ [e, e']) = some (snapshotTicket os.functions) := by
      rw [List.append_cons, lastStored_append, lastStored_append, he', he]
      rfl
    have hsplit : [.started snapshotRequest] ++ calledBy snapshotRequest (calls ++
        [⟨.arena (.claimPayment (paymentOf id snapshotOrder (js "txn_AAAAAAAAAA"))), .ok .claimed⟩] ++
        (calls' ++ [⟨.isoTime, js "now"⟩,
          ⟨.grant (.storeGrant arenaWorld.namespaceId (snapshotTicket os.functions)), .ok ()⟩,
          ⟨.randomUUID, js "trace-1"⟩])) =
        ((.started snapshotRequest :: calledBy snapshotRequest (calls ++
          [⟨.arena (.claimPayment (paymentOf id snapshotOrder (js "txn_AAAAAAAAAA"))), .ok .claimed⟩] ++
          calls' ++ [⟨.isoTime, js "now"⟩])) ++
        [.called snapshotRequest (.grant (.storeGrant arenaWorld.namespaceId
          (snapshotTicket os.functions))) (.ok ()),
          .called snapshotRequest .randomUUID (js "trace-1")] : List HostEvent) := by
      simp [calledBy]
    rw [hsplit]
    exact hlast _ _ _ rfl (storeOf_snapshotTicket os.functions)

/-! A kernel that contacts the seller. -/

/-- The kind of an address, and its `addressIdentifier`. -/
def addressPath : Address → List JsString
  | .human userId => [js "human", userId]
  | .agent agentId => [js "agent", agentId]
  | .group conversationId => [js "group", conversationId]
  | .service serviceId => [js "service", serviceId]

theorem addressPath_injective : Function.Injective addressPath := by
  intro a b h
  cases a <;> cases b <;> simp only [addressPath, List.cons.injEq, and_true, true_and] at h
  case human.human => rw [h]
  case agent.agent => rw [h]
  case group.group => rw [h]
  case service.service => rw [h]
  all_goals exact absurd h.1 (by decide)

/-- Capabilities on the resources that are documented for them. -/
def documentedFunctions : CapabilityFunctions where
  messageSendCapability address owner :=
    exactCapability (js "sharedos.messaging") (addressPath address) owner (js "send")
  agentExecutionCapability address owner :=
    exactCapability (js "sharedos.execution") (addressPath address) owner (js "invoke")

theorem lawful_documentedFunctions : documentedFunctions.Lawful where
  plain_send _ _ := plain_exactCapability _ _ _ _
  plain_execution _ _ := plain_exactCapability _ _ _ _
  send_recipient _ _ _ _ h := addressPath_injective (exactCapability_resource h).2
  send_ne_execution _ _ _ _ h := absurd (exactCapability_resource h).1 (by decide)
  send_ne_service _ _ _ _ h := absurd (exactCapability_resource h).1 (by decide)

/-- One of the grants is for one contact of the address, and kept under the key. -/
def TicketFor (functions : CapabilityFunctions) (grants : List JsObject) (address : Address)
    (key : GrantKey) : Prop :=
  ∃ grant ∈ grants, KeyOf grant key ∧ maxUsesOf grant = some (.num (bound 1)) ∧
    Covers functions grant address

/-- What the Probe sends, without a challenge. -/
def canaryEnvelope (turn : RouterTurn) (traceId : JsString) : Envelope where
  id := traceId
  sender := COUNTERPARTY_PROBE
  receiver := .service (targetOf turn.input)
  payload := none
  traceId := traceId

def probeContext (world : World) : AccessContext := ⟨world.namespaceId, COUNTERPARTY_PROBE, world.owner⟩

open Classical in
/-- The Probe contacts the seller once a grant that it loaded lets it. -/
noncomputable def contactWith (functions : CapabilityFunctions) (turn : RouterTurn) (traceId : JsString)
    (grants : List JsObject) : KernelProgram :=
  if h : ∃ key, TicketFor functions grants (.service (targetOf turn.input)) key then do
    match ← Prog.perform (KernelOp.tryConsume h.choose.namespaceId h.choose.grantId 1) with
    | .ok true =>
      let sent ← Prog.perform (KernelOp.deliver (canaryEnvelope turn traceId))
      return sent.map fun _ => succeededTurn "trace-1"
    | _ => return .error (js "capability denied")
  else return .error (js "capability denied")

noncomputable def contactKernel (functions : CapabilityFunctions) (world : World) (turn : RouterTurn)
    (traceId : JsString) : KernelProgram := do
  match ← Prog.perform (KernelOp.load (probeContext world)) with
  | .error message => return .error message
  | .ok grants => contactWith functions turn traceId grants

noncomputable def contactSharedOS : SharedOS where
  functions := documentedFunctions
  execute := contactKernel documentedFunctions
  errorText _ := js "the store failed"

theorem heldBy_snapshotTicket :
    heldBy (probeContext arenaWorld) (snapshotTicket documentedFunctions).grant :=
  (heldBy_capabilityGrant (plain_exactCapability _ _ _ _) (by simp)).2 ⟨rfl, rfl⟩

theorem ticketFor_snapshot {grants : List JsObject}
    (hmem : (snapshotTicket documentedFunctions).grant ∈ grants) :
    TicketFor documentedFunctions grants (.service (js "i_BBBBBBBBBB"))
      ⟨arenaWorld.namespaceId, (snapshotTicket documentedFunctions).id⟩ :=
  ⟨_, hmem, keyOf_capabilityGrant.2 rfl, maxUsesOf_capabilityGrant, _, confers_capabilityGrant.2 rfl⟩

/-- A grant that was not used may be. -/
theorem exec_tryConsume {s : HostState} (key : GrantKey) (maximumUses : ℕ)
    (hunused : s.grants.usage = fun _ => none) : ∃ s', HostOp.Exec
      (.grant (.tryConsume key.namespaceId key.grantId maximumUses)) s (.ok true) s' := by
  have hallowed : (tryConsume key.namespaceId key.grantId maximumUses s.grants).1 = true := by
    rw [tryConsume, hunused]
  exact ⟨_, _, .inr ⟨congrArg Except.ok hallowed.symm, rfl⟩, rfl⟩

/-- With a ticket the Probe contacts the seat. -/
theorem leads_contact {functions : CapabilityFunctions} (turn : RouterTurn) {s : HostState} {grants : List JsObject}
    (hload : HostOp.Exec (.load (probeContext world)) s (.ok grants) s)
    (hticket : ∃ key, TicketFor functions grants (.service (targetOf turn.input)) key)
    (hunused : s.grants.usage = fun _ => none) (traceId : JsString) : ∃ key s', Interleave.Leads HostOp.Exec
      ((contactKernel functions world turn traceId).expand kernelStep) s
      [⟨.load (probeContext world), .ok grants⟩,
        ⟨.grant (.tryConsume (GrantKey.namespaceId key) key.grantId 1), .ok true⟩,
        ⟨.deliver (canaryEnvelope turn traceId), .ok ()⟩]
      (.done (.ok (succeededTurn "trace-1"))) s' := by
  obtain ⟨s', hconsume⟩ := exec_tryConsume hticket.choose 1 hunused
  have hdeliver : HostOp.Exec (.deliver (canaryEnvelope turn traceId)) s' (.ok ()) s' := rfl
  refine ⟨hticket.choose, s', .call hload ?_⟩
  change Interleave.Leads HostOp.Exec ((contactWith functions turn traceId grants).expand kernelStep) s _ _ s'
  rw [contactWith, dif_pos hticket]
  exact .call hconsume (.call hdeliver (.refl _ _))

/-- The snapshot is paid for, the Probe loads its grants, spends the ticket, and contacts the seat. -/
theorem exists_contact : ∃ history c grants, HostRun contactSharedOS id snapshotLedger history c ∧
    .called snapshotRequest (.arena (.claimPayment (paymentOf id snapshotOrder (js "txn_AAAAAAAAAA"))))
      (.ok .claimed) ∈ history ∧
    .called snapshotRequest (.load (probeContext arenaWorld)) (.ok grants) ∈ history ∧
    (snapshotTicket documentedFunctions).grant ∈ grants ∧
    .called snapshotRequest (.deliver (canaryEnvelope (routerTurn snapshotOrder) (js "trace-1")))
      (.ok ()) ∈ history := by
  obtain ⟨history, c, next, hrun, hhandler, hclaimed, hlast, hunused⟩ := exists_turnBegun contactSharedOS
  obtain ⟨rows, hselected⟩ := exists_selected hrun (probeContext arenaWorld).namespaceId
  obtain ⟨read, hread, hexact⟩ :=
    read_exact Function.injective_id lawful_documentedFunctions hrun hselected
  have hload : load (probeContext arenaWorld) rows =
      some (read.filter (heldBy (probeContext arenaWorld))) := by rw [load, hread, Option.map_some]
  have hmem : (snapshotTicket documentedFunctions).grant ∈
      read.filter (heldBy (probeContext arenaWorld)) :=
    List.mem_filter.2 ⟨(hexact _).2 ⟨_, _, hlast, rfl⟩, heldBy_snapshotTicket⟩
  have hexec : HostOp.Exec (.load (probeContext arenaWorld)) c.store
      (.ok (read.filter (heldBy (probeContext arenaWorld)))) c.store :=
    ⟨rfl, .inr ⟨rows, _, hselected, hload, rfl⟩⟩
  obtain ⟨key, s, hleads⟩ := leads_contact (routerTurn snapshotOrder) hexec
    ⟨_, ticketFor_snapshot hmem⟩ hunused (js "trace-1")
  refine ⟨_, _, _, Run.leads hrun hhandler (hleads.bind next), List.mem_append_left _ hclaimed, ?_, hmem, ?_⟩
  · simp [calledBy]
  · simp [calledBy]

/-! What an actor is granted. -/

/-- In every state that is reached a load answers, unless its statement fails, and answers exactly the
grants of the actor that were last stored in the namespace. -/
theorem load_exact (hsha : Function.Injective sha256) (hlawful : os.functions.Lawful)
    (hrun : HostRun os sha256 ledger history' c') (context : AccessContext) {rows : List GrantRow}
    (hselected : Selected context.namespaceId c'.store.grants rows) :
    ∃ grants, load context rows = some grants ∧ ∀ granted, granted ∈ grants ↔
      ∃ grantId grant, lastStored ⟨context.namespaceId, grantId⟩ history' = some grant ∧
        granted = grant.grant ∧ property "subject" granted = some context.actor.json ∧
        property "issuer" granted = some context.authority.json := by
  obtain ⟨read, hread, hexact⟩ := read_exact hsha hlawful hrun hselected
  refine ⟨read.filter (heldBy context), by rw [load, hread, Option.map_some], ?_⟩
  intro granted
  rw [List.mem_filter, hexact]
  constructor
  · rintro ⟨⟨grantId, grant, hlast, rfl⟩, hheld⟩
    obtain ⟨req, hstored, -⟩ := stored_of_lastStored hlast
    exact ⟨grantId, grant, hlast, rfl, (heldBy_iff (plain_of_stored hsha hlawful hrun hstored)).1 hheld⟩
  · rintro ⟨grantId, grant, hlast, rfl, hheld⟩
    obtain ⟨req, hstored, -⟩ := stored_of_lastStored hlast
    exact ⟨⟨grantId, grant, hlast, rfl⟩, (heldBy_iff (plain_of_stored hsha hlawful hrun hstored)).2 hheld⟩

/-- The Probe is answered its ticket. -/
theorem load_exact_snapshot : ∃ history c rows grants,
    HostRun contactSharedOS id snapshotLedger history c ∧
      Selected (probeContext arenaWorld).namespaceId c.store.grants rows ∧
      load (probeContext arenaWorld) rows = some grants ∧
      (snapshotTicket documentedFunctions).grant ∈ grants := by
  obtain ⟨history, c, next, hrun, -, -, hlast, -⟩ := exists_turnBegun contactSharedOS
  obtain ⟨rows, hselected⟩ := exists_selected hrun (probeContext arenaWorld).namespaceId
  obtain ⟨grants, hload, hexact⟩ := load_exact Function.injective_id lawful_documentedFunctions hrun
    (probeContext arenaWorld) hselected
  exact ⟨history, c, rows, grants, hrun, hselected, hload, (hexact _).2 ⟨_, _, hlast, rfl, rfl, rfl⟩⟩

/-- Whatever an actor is granted, it is granted for a request that is paid for, and names one
capability, which the request confers on this actor: the Router never a seat, the Probe the seat that
the request names. -/
theorem authority_paid (hsha : Function.Injective sha256) (hlawful : os.functions.Lawful)
    (hrun : HostRun os sha256 ledger history' c') {loader : HostRequest} {context : AccessContext}
    {grants : List JsObject} (hmem : .called loader (.load context) (.ok grants) ∈ history')
    {granted : JsObject} (hgranted : granted ∈ grants) : ∃ (req : HostRequest) (capability : JsObject),
      req.world = ⟨context.namespaceId, context.authority⟩ ∧
      PaidHere sha256 history' c'.store.arena req.request ∧
      Conferred os.functions context.authority (routerTurn req.request) context.actor capability ∧
      (∀ capability', Confers granted capability' ↔ capability' = capability) ∧
      ∀ seat owner, Confers granted (os.functions.messageSendCapability (.service seat) owner) →
        context.actor = COUNTERPARTY_PROBE ∧ NamesSeller req.request seat := by
  obtain ⟨hheld, req, grant, hstored, rfl⟩ := stored_of_loaded hsha hlawful hrun hmem hgranted
  obtain ⟨hnamespace, hvalid, hpaid, attempt, issuedAt, make, hmake, rfl⟩ :=
    stored_paid hsha hrun hstored
  obtain ⟨id, subject, capability, maxUses, hform, hconferred, hbound⟩ := minted_cases hmake
  rw [hform] at hheld ⊢
  obtain ⟨hactor, hauthority⟩ :=
    (heldBy_capabilityGrant (hconferred.plain hlawful) (small_uses hbound)).1 hheld
  subst hactor
  refine ⟨req, capability, ?_, hpaid, hauthority ▸ hconferred,
    fun capability' => confers_capabilityGrant, ?_⟩
  · rw [hnamespace, hauthority]
  · intro seat owner hseat
    obtain ⟨hprobe, hservice, htarget⟩ := hconferred.seat hlawful (confers_capabilityGrant.1 hseat)
    have hnames := namesSeller_of_valid hvalid hservice
    have htarget' : targetOf req.request.parsed.input = seat := htarget
    exact ⟨hprobe, htarget' ▸ hnames⟩

/-- The Probe may contact the seat of a snapshot that is paid for. -/
theorem authority_paid_snapshot : ∃ history c req,
    HostRun contactSharedOS id snapshotLedger history c ∧
      PaidHere id history c.store.arena req ∧ NamesSeller req (js "i_BBBBBBBBBB") := by
  obtain ⟨history, c, grants, hrun, -, hloaded, hticket, -⟩ := exists_contact
  obtain ⟨req, capability, -, hpaid, -, hconfers, hseat⟩ := authority_paid Function.injective_id
    lawful_documentedFunctions hrun hloaded hticket
  exact ⟨history, c, req.request, hrun, hpaid, (hseat _ _ (confers_capabilityGrant.2 rfl)).2⟩

/-! Whole turns. -/

/-- Processes that store and load grants, count uses and contact sellers in between each other do
nothing that they could not do with each turn as one step: the same answers and crashes in the same
order, the same calls on payments, ledger and responses in the same order, and the same state of them. -/
theorem host_refines_arena (hrun : HostRun os sha256 ledger history' c') :
    ∃ history c, ArenaRun sha256 ledger history c ∧ c.store = c'.store.arena ∧
      history'.filterMap hostOutcomeOf = history.filterMap outcomeOf ∧
      history'.filterMap hostStoreCallOf = history.filterMap storeCallOf := by
  obtain ⟨history, c, hshown⟩ := exists_shownArena hrun
  refine ⟨history, c, hshown.run, hshown.store, ?_, ?_⟩
  · exact hshown.refines.filterMap_eq (fun _ _ _ _ => rfl) fun _ _ => outcomeOf_of_shows
  · exact hshown.refines.filterMap_eq (fun _ _ _ => hostStoreCallOf_hidden) fun _ _ =>
      storeCallOf_of_shows

/-- A turn that contacted its seller is a turn. -/
theorem host_refines_arena_snapshot : ∃ history' c' history c,
    HostRun contactSharedOS id snapshotLedger history' c' ∧
      ArenaRun id snapshotLedger history c ∧ c.store = c'.store.arena ∧
      history'.filterMap hostStoreCallOf = history.filterMap storeCallOf := by
  obtain ⟨history', c', grants, hrun, -, -, -, -⟩ := exists_contact
  obtain ⟨history, c, harena, hstore, -, hcalls⟩ := host_refines_arena hrun
  exact ⟨history', c', history, c, hrun, harena, hstore, hcalls⟩

end Counterparty.Arena
