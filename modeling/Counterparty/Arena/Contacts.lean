import Counterparty.Library.Budget
import Counterparty.Arena.HostSpec

/-! How often sellers are contacted: in every run of any number of processes, no seat is contacted more
often than paid requests for a snapshot of it were claimed. -/
namespace Counterparty.Arena

open Json Interleave

/-! What a kernel keeps to. -/

/-- The grants a kernel loaded in a turn, and the uses it was allowed and has not spent. -/
structure Wallet where
  loaded : List JsObject
  allowed : List GrantKey

section Kernel

variable (functions : CapabilityFunctions)

/-- The key is that of a loaded grant for sending to the address. -/
def Wallet.Ticket (w : Wallet) (address : Address) (key : GrantKey) : Prop :=
  ∃ grant ∈ w.loaded, KeyOf grant key ∧ Covers functions grant address

/-- Uses are counted against the bound of a loaded grant, and what is delivered is covered by a grant
without a bound or by a use. -/
def Wallet.Permits (w : Wallet) : KernelOp → Prop
  | .tryConsume namespaceId grantId maximumUses => ∃ grant ∈ w.loaded,
    KeyOf grant ⟨namespaceId, grantId⟩ ∧ maxUsesOf grant = some (.num (bound maximumUses))
  | .deliver envelope =>
    (∃ grant ∈ w.loaded, maxUsesOf grant = none ∧ Covers functions grant envelope.receiver) ∨
      ∃ key ∈ w.allowed, w.Ticket functions envelope.receiver key
  | .load _ | .getUsage _ _ | .outside _ => True

open Classical in
/-- A delivery spends a use. -/
noncomputable def Wallet.after (w : Wallet) : (op : KernelOp) → op.Ret → Wallet
  | .load _, .ok grants => { w with loaded := grants ++ w.loaded }
  | .tryConsume namespaceId grantId _, .ok true =>
    { w with allowed := ⟨namespaceId, grantId⟩ :: w.allowed }
  | .deliver envelope, _ =>
    { w with allowed := w.allowed.eraseP fun key => w.Ticket functions envelope.receiver key }
  | _, _ => w

/-- Whatever it is answered, the kernel does what it is permitted. -/
def Disciplined : KernelProgram → Wallet → Prop
  | .done _, _ => True
  | .call op next, w => w.Permits functions op ∧ ∀ r, Disciplined (next r) (w.after functions op r)

end Kernel

/-- Every turn starts without grants. -/
def SharedOS.Disciplined (os : SharedOS) : Prop :=
  ∀ world turn traceId, Arena.Disciplined os.functions (os.execute world turn traceId) ⟨[], []⟩

/-! Counts. -/

/-- A canary to the seat. -/
def isContact (seat : JsString) : HostEvent → Bool
  | .called _ (.deliver envelope) _ => envelope.receiver = .service seat
  | _ => false

/-- A payment for a snapshot of the seat is claimed, for the first time or again. -/
def isSnapshotClaim (seat : JsString) : HostEvent → Bool
  | .called req (.arena (.claimPayment _)) (.ok claim) =>
    claim ≠ .conflict ∧ NamesSeller req.request seat
  | _ => false

def contacts (seat : JsString) (history : List HostEvent) : ℕ := history.countP (isContact seat)

def snapshotClaims (seat : JsString) (history : List HostEvent) : ℕ :=
  history.countP (isSnapshotClaim seat)

section Tickets

variable (functions : CapabilityFunctions) (seat : JsString)

open Classical in
/-- The key of a grant for the seat, where one is stored. -/
noncomputable def ticketOf : HostEvent → Option GrantKey
  | .called _ (.grant (.storeGrant namespaceId grant)) _ =>
    if Covers functions grant.grant (.service seat) then some ⟨namespaceId, grant.id⟩ else none
  | _ => none

noncomputable def tickets (history : List HostEvent) : List GrantKey :=
  history.filterMap (ticketOf functions seat)

/-- The key of a ticket that is used. -/
def usedTicket (tickets : List GrantKey) : HostEvent → Option GrantKey
  | .called _ (.grant (.tryConsume namespaceId grantId _)) (.ok true) =>
    if (⟨namespaceId, grantId⟩ : GrantKey) ∈ tickets then some ⟨namespaceId, grantId⟩ else none
  | _ => none

/-- A grant in the hands of a kernel: what covers the seat is a ticket, and tickets may be used once. -/
structure Genuine (tickets : List GrantKey) (grant : JsObject) : Prop where
  ticket : ∀ key, KeyOf grant key → Covers functions grant (.service seat) → key ∈ tickets
  limited : Covers functions grant (.service seat) → maxUsesOf grant ≠ none
  once : ∀ key, KeyOf grant key → key ∈ tickets → maxUsesOf grant = some (.num (bound 1))

/-- Loads answer genuine grants. -/
def GenuineLoad (tickets : List GrantKey) : (op : HostOp) → op.Ret → Prop
  | .load _, .ok grants => ∀ grant ∈ grants, Genuine functions seat tickets grant
  | _, _ => True

/-- Uses of tickets earn what contacts cost. -/
def contactTariff (tickets : List GrantKey) : Tariff HostRequest HostOp.Ret where
  earns req op r := ((usedTicket tickets (.called req op r : HostEvent)).toList).length
  costs req op r := (isContact seat (.called req op r : HostEvent)).toNat

/-- The use of a ticket is counted against another bound than its own. -/
def miscounted (tickets : List GrantKey) : HostOp → Bool
  | .grant (.tryConsume namespaceId grantId maximumUses) =>
    (⟨namespaceId, grantId⟩ : GrantKey) ∈ tickets ∧ maximumUses ≠ 1
  | _ => false

def boundTariff (tickets : List GrantKey) : Tariff HostRequest HostOp.Ret where
  earns _ _ _ := 0
  costs _ op _ := (miscounted tickets op).toNat

/-- Claims earn what tickets cost. -/
noncomputable def ticketTariff : Tariff HostRequest HostOp.Ret where
  earns req op r := (isSnapshotClaim seat (.called req op r : HostEvent)).toNat
  costs req op r := ((ticketOf functions seat (.called req op r : HostEvent)).toList).length

end Tickets

variable {os : SharedOS} {functions : CapabilityFunctions} {seat : JsString} {ticketKeys : List GrantKey}
  {req : HostRequest} {sha256 : Text → Text} {ledger : Ledger} {history : List HostEvent}
  {c : HostConfig} {w : Wallet}

/-! A kernel contacts a seat only with a ticket for it. -/

/-- The uses of tickets that a kernel has left. -/
def Wallet.tickets (w : Wallet) (ticketKeys : List GrantKey) : ℕ :=
  w.allowed.countP fun key => key ∈ ticketKeys

def Wallet.Genuine (functions : CapabilityFunctions) (seat : JsString) (ticketKeys : List GrantKey)
    (w : Wallet) : Prop :=
  ∀ grant ∈ w.loaded, Arena.Genuine functions seat ticketKeys grant

theorem Wallet.Genuine.ticket {key : GrantKey} (h : w.Genuine functions seat ticketKeys)
    (hkey : w.Ticket functions (.service seat) key) : key ∈ ticketKeys := by
  obtain ⟨grant, hgrant, hkeyOf, hcovers⟩ := hkey
  exact (h grant hgrant).ticket key hkeyOf hcovers

/-- A delivery spends no more than a ticket. -/
theorem Wallet.tickets_deliver_le (w : Wallet) (envelope : Envelope) (r : Except JsString Unit) :
    (w.after functions (.deliver envelope) r).tickets ticketKeys ≤ w.tickets ticketKeys :=
  List.eraseP_sublist.countP_le

/-- A contact spends a ticket. -/
theorem Wallet.Genuine.deliver {envelope : Envelope} (h : w.Genuine functions seat ticketKeys)
    (hpermits : w.Permits functions (.deliver envelope)) (hseat : envelope.receiver = .service seat)
    (r : Except JsString Unit) :
    (w.after functions (.deliver envelope) r).tickets ticketKeys + 1 ≤ w.tickets ticketKeys := by
  classical
  rcases hpermits with ⟨grant, hgrant, hnone, hcovers⟩ | ⟨key, hkey, hticket⟩
  · exact absurd hnone ((h grant hgrant).limited (hseat ▸ hcovers))
  · obtain ⟨spent, before, after, -, hspent, hsplit, herase⟩ := List.exists_of_eraseP
      (p := fun key => decide (w.Ticket functions envelope.receiver key)) hkey (by simpa using hticket)
    have hticket' : spent ∈ ticketKeys := h.ticket (by simpa [hseat] using hspent)
    have hleft : (w.after functions (.deliver envelope) r).allowed = before ++ after := by
      rw [← herase]
      unfold Wallet.after
      congr!
    rw [Wallet.tickets, hleft, Wallet.tickets, hsplit]
    simp only [List.countP_append, List.countP_cons, hticket', decide_true, if_true]
    omega

theorem affords_kernel {p : KernelProgram} {b : ℕ} (hdisciplined : Disciplined functions p w)
    (hgenuine : w.Genuine functions seat ticketKeys) (hb : w.tickets ticketKeys ≤ b) :
    (contactTariff seat ticketKeys).Affords (GenuineLoad functions seat ticketKeys) req
      (fun _ _ => True) (p.expand kernelStep) b := by
  induction p generalizing w b with
  | done a => trivial
  | call op next ih =>
    obtain ⟨hpermits, hnext⟩ := hdisciplined
    cases op with
    | load context =>
      intro r hr
      refine ⟨Nat.zero_le _, ?_⟩
      cases r with
      | error message => exact ih _ (hnext _) hgenuine hb
      | ok grants =>
        refine ih _ (hnext _) ?_ hb
        intro grant hgrant
        rcases List.mem_append.1 hgrant with hgrant | hgrant
        · exact hr grant hgrant
        · exact hgenuine grant hgrant
    | getUsage namespaceId grantId =>
      intro r hr
      exact ⟨Nat.zero_le _, ih _ (hnext _) hgenuine hb⟩
    | outside question =>
      intro r hr
      exact ⟨Nat.zero_le _, ih _ (hnext _) hgenuine hb⟩
    | tryConsume namespaceId grantId maximumUses =>
      intro r hr
      refine ⟨Nat.zero_le _, ?_⟩
      rcases r with error | (_ | _)
      · exact ih _ (hnext _) hgenuine hb
      · exact ih _ (hnext _) hgenuine hb
      · refine ih _ (hnext _) hgenuine ?_
        simp only [Wallet.tickets, Wallet.after, contactTariff, usedTicket, isContact,
          List.countP_cons, decide_eq_true_eq]
        unfold Wallet.tickets at hb
        split_ifs <;> simp <;> omega
    | deliver envelope =>
      intro r hr
      by_cases hseat : envelope.receiver = .service seat
      · have hspend := hgenuine.deliver hpermits hseat r
        have hcost : (contactTariff seat ticketKeys).costs req (.deliver envelope) r = 1 := by
          simp [contactTariff, isContact, hseat]
        refine ⟨?_, ih _ (hnext _) hgenuine ?_⟩
        · change (contactTariff seat ticketKeys).costs req (.deliver envelope) r ≤ b + 0
          omega
        · change _ ≤ b + 0 - (contactTariff seat ticketKeys).costs req (.deliver envelope) r
          omega
      · have hcost : (contactTariff seat ticketKeys).costs req (.deliver envelope) r = 0 := by
          simp [contactTariff, isContact, hseat]
        refine ⟨?_, ih _ (hnext _) hgenuine ?_⟩
        · change (contactTariff seat ticketKeys).costs req (.deliver envelope) r ≤ b + 0
          omega
        · change _ ≤ b + 0 - (contactTariff seat ticketKeys).costs req (.deliver envelope) r
          have hspend : (w.after functions (.deliver envelope) r).tickets ticketKeys ≤
              w.tickets ticketKeys := w.tickets_deliver_le envelope r
          omega

/-- A kernel counts the uses of a ticket against its bound. -/
theorem Wallet.Genuine.not_miscounted {op : HostOp} {namespaceId grantId : JsString} {maximumUses : ℕ}
    (h : w.Genuine functions seat ticketKeys)
    (hpermits : w.Permits functions (.tryConsume namespaceId grantId maximumUses))
    (hop : op = .grant (.tryConsume namespaceId grantId maximumUses)) :
    miscounted ticketKeys op = false := by
  subst hop
  obtain ⟨grant, hgrant, hkey, hbound⟩ := hpermits
  simp only [miscounted, decide_eq_false_iff_not, not_and, not_not]
  intro hticket
  have honce := (h grant hgrant).once _ hkey hticket
  rw [hbound] at honce
  exact bound_inj (by norm_num) (Json.num.inj (Option.some.inj honce))

theorem affords_bound {p : KernelProgram} {b : ℕ} (hdisciplined : Disciplined functions p w)
    (hgenuine : w.Genuine functions seat ticketKeys) :
    (boundTariff ticketKeys).Affords (GenuineLoad functions seat ticketKeys) req
      (fun _ _ => True) (p.expand kernelStep) b := by
  induction p generalizing w b with
  | done a => trivial
  | call op next ih =>
    obtain ⟨hpermits, hnext⟩ := hdisciplined
    cases op with
    | load context =>
      intro r hr
      refine ⟨Nat.zero_le _, ?_⟩
      cases r with
      | error message => exact ih _ (hnext _) hgenuine
      | ok grants =>
        refine ih _ (hnext _) ?_
        intro grant hgrant
        rcases List.mem_append.1 hgrant with hgrant | hgrant
        · exact hr grant hgrant
        · exact hgenuine grant hgrant
    | getUsage namespaceId grantId =>
      intro r hr
      exact ⟨Nat.zero_le _, ih _ (hnext _) hgenuine⟩
    | outside question =>
      intro r hr
      exact ⟨Nat.zero_le _, ih _ (hnext _) hgenuine⟩
    | tryConsume namespaceId grantId maximumUses =>
      intro r hr
      have hcost := hgenuine.not_miscounted hpermits rfl
      refine ⟨?_, ?_⟩
      · simp [boundTariff, hcost]
      · rcases r with error | (_ | _)
        all_goals exact ih _ (hnext _) hgenuine
    | deliver envelope =>
      intro r hr
      exact ⟨Nat.zero_le _, ih _ (hnext _) hgenuine⟩

/-! What comes before the kernel neither contacts a seat nor uses a ticket. -/

theorem affords_storeGrants {T : Tariff HostRequest HostOp.Ret}
    {Possible : (op : HostOp) → op.Ret → Prop} {world : World} {grants : List (JsString → CapabilityGrant)}
    {b : ℕ} (htime : ∀ r, T.costs req .isoTime r = 0)
    (hstore : ∀ namespaceId grant r, T.costs req (.grant (.storeGrant namespaceId grant)) r = 0) :
    T.Affords Possible req (fun _ _ => True) (storeGrants os world grants) b := by
  induction grants generalizing b with
  | nil => trivial
  | cons grant rest ih =>
    intro issuedAt _
    refine ⟨by rw [htime]; exact Nat.zero_le _, ?_⟩
    intro r _
    refine ⟨by rw [hstore]; exact Nat.zero_le _, ?_⟩
    cases r with
    | error e => trivial
    | ok u => exact ih

/-- A tariff by which only the kernel ever pays. -/
structure KernelPays (T : Tariff HostRequest HostOp.Ret) : Prop where
  arena : ∀ req op r, T.costs req (.arena op) r = 0
  randomUUID : ∀ req r, T.costs req .randomUUID r = 0
  isoTime : ∀ req r, T.costs req .isoTime r = 0
  storeGrant : ∀ req namespaceId grant r, T.costs req (.grant (.storeGrant namespaceId grant)) r = 0

theorem KernelPays.affords {T : Tariff HostRequest HostOp.Ret}
    {Possible : (op : HostOp) → op.Ret → Prop} (h : KernelPays T)
    (hkernel : ∀ world turn traceId b, T.Affords Possible req (fun _ _ => True)
      ((os.execute world turn traceId).expand kernelStep) b) :
    T.Affords Possible req (fun _ _ => True) (hostRequest os sha256 req) 0 := by
  refine Tariff.affords_expand ?_ _ _
  intro op b
  have harena (op : ArenaOp) :
      T.Affords Possible req (fun _ _ => True) (Prog.perform (HostOp.arena op)) b := by
    intro r _
    refine ⟨?_, trivial⟩
    rw [h.arena]
    exact Nat.zero_le _
  cases op with
  | executeTurn turn =>
    intro attempt _
    refine ⟨by rw [h.randomUUID]; exact Nat.zero_le _, ?_⟩
    change T.Affords Possible req _ (storeGrants os req.world (turnGrants os req.world turn attempt) >>= _) _
    refine .bind ((affords_storeGrants (h.isoTime req) (h.storeGrant req)).mono ?_)
    rintro b' (message | u) -
    · trivial
    · intro traceId _
      exact ⟨by rw [h.randomUUID]; exact Nat.zero_le _, hkernel _ _ _ _⟩
  | cachedResponse requestId fingerprint => exact harena _
  | verifyPayment expected => exact harena _
  | claimPayment input => exact harena _
  | saveResponse requestId fingerprint response => exact harena _

theorem kernelPays_contact : KernelPays (contactTariff seat ticketKeys) :=
  ⟨fun _ _ _ => rfl, fun _ _ => rfl, fun _ _ => rfl, fun _ _ _ _ => rfl⟩

theorem kernelPays_bound : KernelPays (boundTariff ticketKeys) :=
  ⟨fun _ _ _ => rfl, fun _ _ => rfl, fun _ _ => rfl, fun _ _ _ _ => rfl⟩

theorem genuine_nothing : (⟨[], []⟩ : Wallet).Genuine functions seat ticketKeys := by
  intro grant hgrant
  cases hgrant

/-! A turn stores a ticket only after a payment for a snapshot of the seat was claimed. -/

open Classical in
/-- How many of the grants are for the seat. -/
noncomputable def ticketCount (functions : CapabilityFunctions) (seat : JsString)
    (grants : List (JsString → CapabilityGrant)) : ℕ :=
  grants.countP fun make => ∃ issuedAt, Covers functions (make issuedAt).grant (.service seat)

theorem covers_capabilityGrant {id namespaceId issuedAt : JsString} {subject owner address : Address}
    {capability : JsObject} {maxUses : Option ℕ} :
    Covers functions (capabilityGrant id namespaceId subject owner capability maxUses issuedAt).grant
      address ↔ ∃ owner', functions.messageSendCapability address owner' = capability :=
  exists_congr fun _ => confers_capabilityGrant

theorem ticketCount_turnGrants {world : World} {turn : RouterTurn} {attempt : JsString}
    (hlawful : os.functions.Lawful) : ticketCount os.functions seat (turnGrants os world turn attempt) ≤
      if turn.service = js "trust_snapshot" ∧ targetOf turn.input = seat then 1 else 0 := by
  classical
  have hservice (issuedAt : JsString) : ¬Covers os.functions (routerServiceGrant world.owner
      world.namespaceId issuedAt turn.service).grant (.service seat) := by
    rintro ⟨owner, h⟩
    exact hlawful.send_ne_service _ _ _ _ (confers_capabilityGrant.1 h)
  have hrouter (id issuedAt : JsString) : ¬Covers os.functions (routerExecutionGrant os.functions
      world.owner world.namespaceId id issuedAt 1).grant (.service seat) := by
    rintro ⟨owner, h⟩
    exact hlawful.send_ne_execution _ _ _ _ (confers_capabilityGrant.1 h)
  have hask (id issuedAt : JsString) : ¬Covers os.functions (routerProbeMessageGrant os.functions
      world.owner world.namespaceId id issuedAt 1).grant (.service seat) := by
    rintro ⟨owner, h⟩
    cases hlawful.send_recipient _ _ _ _ (confers_capabilityGrant.1 h)
  have hprobe (id issuedAt : JsString) : ¬Covers os.functions (probeExecutionGrant os.functions
      world.owner world.namespaceId id issuedAt 1).grant (.service seat) := by
    rintro ⟨owner, h⟩
    exact hlawful.send_ne_execution _ _ _ _ (confers_capabilityGrant.1 h)
  have hcontact (target issuedAt : JsString) (id : Option JsString) (hother : target ≠ seat) :
      ¬Covers os.functions (probeMessageGrant os.functions world.owner world.namespaceId issuedAt
        target 1 id).grant (.service seat) := by
    rintro ⟨owner, h⟩
    cases hlawful.send_recipient _ _ _ _ (confers_capabilityGrant.1 h)
    exact hother rfl
  unfold ticketCount turnGrants
  by_cases htrust : turn.service = js "trust_snapshot"
  · rw [if_pos htrust]
    simp only [List.countP_append, List.countP_cons, List.countP_nil, hservice, hrouter, hask, hprobe,
      exists_false, decide_false, Bool.false_eq_true, if_false]
    by_cases htarget : targetOf turn.input = seat
    · rw [if_pos (⟨htrust, htarget⟩ : turn.service = js "trust_snapshot" ∧ targetOf turn.input = seat)]
      split_ifs <;> omega
    · simp only [hcontact _ _ _ htarget, exists_false, decide_false, Bool.false_eq_true, if_false]
      omega
  · rw [if_neg htrust]
    simp only [List.append_nil, List.countP_cons, List.countP_nil, hservice, hrouter, exists_false,
      decide_false, Bool.false_eq_true, if_false]
    omega

abbrev NoCondition : (op : HostOp) → op.Ret → Prop := fun _ _ => True

theorem affords_storeTickets {world : World} {grants : List (JsString → CapabilityGrant)} {b : ℕ}
    (h : ticketCount os.functions seat grants ≤ b) : (ticketTariff os.functions seat).Affords NoCondition
      req (fun _ _ => True) (storeGrants os world grants) b := by
  classical
  induction grants generalizing b with
  | nil => trivial
  | cons grant rest ih =>
    intro issuedAt _
    refine ⟨Nat.zero_le _, ?_⟩
    intro r _
    have hcost : (ticketTariff os.functions seat).costs req
        (.grant (.storeGrant world.namespaceId (grant issuedAt))) r + ticketCount os.functions seat rest ≤ b := by
      unfold ticketCount at h ⊢
      rw [List.countP_cons] at h
      by_cases hcovers : Covers os.functions (grant issuedAt).grant (.service seat)
      · have hsome : ∃ issuedAt, Covers os.functions (grant issuedAt).grant (.service seat) :=
          ⟨issuedAt, hcovers⟩
        simp only [hsome, decide_true, if_true] at h
        simp only [ticketTariff, ticketOf, hcovers, if_true, Option.toList_some, List.length_singleton]
        omega
      · simp only [ticketTariff, ticketOf, hcovers, if_false, Option.toList_none, List.length_nil]
        split_ifs at h <;> omega
    refine ⟨?_, ?_⟩
    · change (ticketTariff os.functions seat).costs req
        (.grant (.storeGrant world.namespaceId (grant issuedAt))) r ≤ b + 0 - 0 + 0
      omega
    · cases r with
      | error e => trivial
      | ok u =>
        refine ih ?_
        change _ ≤ b + 0 - 0 + 0 - (ticketTariff os.functions seat).costs req
          (.grant (.storeGrant world.namespaceId (grant issuedAt))) (.ok u)
        omega

/-- A program that only calls the arena stores no ticket. -/
theorem affords_arena {α : Type} {world : World} {p : Prog ArenaOp ArenaOp.Ret α} {b : ℕ}
    (h : p.Performs fun op => ∀ turn, op ≠ .executeTurn turn) :
    (ticketTariff functions seat).Affords NoCondition req (fun _ _ => True)
      (p.expand (hostStep os world)) b := by
  induction p generalizing b with
  | done a => trivial
  | call op next ih =>
    cases op with
    | executeTurn turn => exact absurd rfl (h.1 turn)
    | _ => exact fun r _ => ⟨Nat.zero_le _, ih r (h.2 r)⟩

/-- The kernel stores no grants. -/
theorem affords_kernelProgram {α : Type} {p : Prog KernelOp KernelOp.Ret α} {b : ℕ} :
    (ticketTariff functions seat).Affords NoCondition req (fun _ _ => True) (p.expand kernelStep) b := by
  induction p generalizing b with
  | done a => trivial
  | call op next ih => cases op <;> exact fun r _ => ⟨Nat.zero_le _, ih r⟩

theorem affords_executeTurn {world : World} {turn : RouterTurn} {b : ℕ} (hlawful : os.functions.Lawful)
    (hb : turn.service = js "trust_snapshot" → targetOf turn.input = seat → 1 ≤ b) :
    (ticketTariff os.functions seat).Affords NoCondition req (fun _ _ => True)
      (executeTurn os world turn) b := by
  intro attempt _
  refine ⟨Nat.zero_le _, ?_⟩
  change (ticketTariff os.functions seat).Affords NoCondition req _
    (storeGrants os world (turnGrants os world turn attempt) >>= _) _
  have hcount : ticketCount os.functions seat (turnGrants os world turn attempt) ≤
      if turn.service = js "trust_snapshot" ∧ targetOf turn.input = seat then 1 else 0 :=
    ticketCount_turnGrants hlawful
  refine .bind ((affords_storeTickets (b := b) ?_).mono ?_)
  · split_ifs at hcount with hticket
    · exact hcount.trans (hb hticket.1 hticket.2)
    · omega
  · rintro b' (message | u) -
    · trivial
    · exact fun traceId _ => ⟨Nat.zero_le _, affords_kernelProgram⟩

theorem affords_executeAndSave {txnId : JsString} {b : ℕ} (hlawful : os.functions.Lawful)
    (hvalid : validateInput req.request.parsed = none) (hb : NamesSeller req.request seat → 1 ≤ b) :
    (ticketTariff os.functions seat).Affords NoCondition req (fun _ _ => True)
      ((executeAndSave sha256 req.request txnId).expand (hostStep os req.world)) b := by
  have hturn : (ticketTariff os.functions seat).Affords NoCondition req (fun _ _ => True)
      (executeTurn os req.world (routerTurn req.request)) b := by
    refine affords_executeTurn hlawful ?_
    intro hservice htarget
    have hnames := namesSeller_of_valid hvalid hservice
    have htarget' : targetOf req.request.parsed.input = seat := htarget
    exact hb (htarget' ▸ hnames)
  refine Tariff.Affords.bind (hturn.mono ?_)
  rintro b' (message | turn) -
  · trivial
  · change (ticketTariff os.functions seat).Affords NoCondition req _
      ((if turn.Succeeded then saveAndReturn sha256 req.request txnId turn else _).expand _) _
    split_ifs
    · refine affords_arena ⟨by simp, ?_⟩
      rintro (e | u) <;> trivial
    · trivial

theorem affords_claim (hlawful : os.functions.Lawful) :
    (ticketTariff os.functions seat).Affords NoCondition req (fun _ _ => True)
      (hostRequest os sha256 req) 0 := by
  unfold hostRequest processRequest
  cases hvalid : validateInput req.request.parsed with
  | some reason => trivial
  | none =>
    refine fun cached _ => ⟨Nat.zero_le _, ?_⟩
    rcases cached with e | (_ | response)
    · trivial
    · change (ticketTariff os.functions seat).Affords NoCondition req _
        ((verifyAndExecute sha256 req.request).expand _) _
      unfold verifyAndExecute
      cases req.request.parsed.paymentTxnId with
      | none => trivial
      | some txnId =>
        dsimp only
        split_ifs
        · refine fun paid _ => ⟨Nat.zero_le _, ?_⟩
          rcases paid with message | (_ | _)
          · trivial
          · trivial
          · refine fun claim _ => ⟨Nat.zero_le _, ?_⟩
            rcases claim with e | claim
            · trivial
            · cases claim with
              | conflict => trivial
              | claimed =>
                refine affords_executeAndSave hlawful hvalid ?_
                intro hnames
                simp [ticketTariff, isSnapshotClaim, hnames, ticketOf]
              | sameRequest =>
                refine affords_executeAndSave hlawful hvalid ?_
                intro hnames
                simp [ticketTariff, isSnapshotClaim, hnames, ticketOf]
        · trivial
    · trivial

/-! Tickets are genuine, and each of them is used once. -/

theorem router_ne_probe (s t : JsString) : js "grant-router-" ++ s ≠ js "grant-probe-" ++ t := by
  intro h
  have htake := congrArg (List.take 7) h
  rw [List.take_append_of_le_length (by decide), List.take_append_of_le_length (by decide)] at htake
  revert htake
  decide

/-- A stored grant, by what it is made of. -/
theorem stored_form (hsha : Function.Injective sha256) (hrun : HostRun os sha256 ledger history c)
    {namespaceId : JsString} {grant : CapabilityGrant}
    {r : (GrantOp.storeGrant namespaceId grant).Result}
    (hmem : .called req (.grant (.storeGrant namespaceId grant)) r ∈ history) :
    ∃ id subject capability maxUses issuedAt, grant =
        capabilityGrant id namespaceId subject req.world.owner capability maxUses issuedAt ∧
      Conferred os.functions req.world.owner (routerTurn req.request) subject capability ∧
      (maxUses = some 1 ∧ (subject = COUNTERPARTY_PROBE → ∃ rest, id = js "grant-probe-" ++ rest) ∨
        maxUses = none ∧ capability = serviceCapability req.request.parsed.service req.world.owner ∧
          id = js "grant-router-" ++ req.request.parsed.service) := by
  obtain ⟨rfl, -, -, attempt, issuedAt, make, hmake, rfl⟩ := stored_paid hsha hrun hmem
  obtain ⟨id, subject, capability, maxUses, hform, hconferred, hbound⟩ := minted_cases hmake
  exact ⟨id, subject, capability, maxUses, issuedAt, hform issuedAt, hconferred, hbound⟩

theorem mem_tickets {key : GrantKey} : key ∈ tickets functions seat history ↔
    ∃ req namespaceId grant r, .called req (.grant (.storeGrant namespaceId grant)) r ∈ history ∧
      Covers functions grant.grant (.service seat) ∧ key = ⟨namespaceId, grant.id⟩ := by
  classical
  rw [tickets, List.mem_filterMap]
  constructor
  · rintro ⟨e, he, hkey⟩
    unfold ticketOf at hkey
    split at hkey
    · split_ifs at hkey with hcovers
      cases hkey
      exact ⟨_, _, _, _, he, hcovers, rfl⟩
    · cases hkey
  · rintro ⟨req, namespaceId, grant, r, he, hcovers, rfl⟩
    exact ⟨_, he, by simp [ticketOf, hcovers]⟩

theorem genuine_of_loaded (hsha : Function.Injective sha256) (hlawful : os.functions.Lawful)
    (hrun : HostRun os sha256 ledger history c) {context : AccessContext} {grants : List JsObject}
    (hmem : .called req (.load context) (.ok grants) ∈ history) {granted : JsObject}
    (hgranted : granted ∈ grants) :
    Genuine os.functions seat (tickets os.functions seat history) granted := by
  obtain ⟨-, storer, grant, hstored, rfl⟩ := stored_of_loaded hsha hlawful hrun hmem hgranted
  obtain ⟨id, subject, capability, maxUses, issuedAt, rfl, hconferred, hbound⟩ :=
    stored_form hsha hrun hstored
  refine ⟨?_, ?_, ?_⟩
  · intro key hkey hcovers
    rw [keyOf_capabilityGrant.1 hkey]
    exact mem_tickets.2 ⟨_, _, _, _, hstored, hcovers, rfl⟩
  · intro hcovers
    obtain ⟨owner, hsend⟩ := covers_capabilityGrant.1 hcovers
    rw [maxUsesOf_capabilityGrant]
    rcases hbound with ⟨rfl, -⟩ | ⟨-, rfl, -⟩
    · simp
    · exact absurd hsend (hlawful.send_ne_service _ _ _ _)
  · intro key hkey hticket
    rw [keyOf_capabilityGrant.1 hkey] at hticket
    rw [maxUsesOf_capabilityGrant]
    rcases hbound with ⟨rfl, -⟩ | ⟨-, -, rfl⟩
    · rfl
    · -- a ticket has the id of a grant for the Probe
      obtain ⟨storer', _, _, _, hstored', hcovers, hkey'⟩ := mem_tickets.1 hticket
      obtain ⟨id', subject', _, _, _, rfl, hconferred', hbound'⟩ := stored_form hsha hrun hstored'
      obtain ⟨owner, hsend⟩ := covers_capabilityGrant.1 hcovers
      cases hkey'
      rcases hbound' with ⟨-, hid⟩ | ⟨-, rfl, -⟩
      · obtain ⟨rest, hrest⟩ := hid (hconferred'.seat hlawful hsend).1
        exact absurd hrest (router_ne_probe _ _)
      · exact absurd hsend (hlawful.send_ne_service _ _ _ _)

theorem genuineLoad_of_called (hsha : Function.Injective sha256) (hlawful : os.functions.Lawful)
    (hrun : HostRun os sha256 ledger history c) {op : HostOp} {r : op.Ret}
    (hmem : .called req op r ∈ history) :
    GenuineLoad os.functions seat (tickets os.functions seat history) op r := by
  cases op with
  | load context =>
    cases r with
    | error message => trivial
    | ok grants => exact fun granted hgranted => genuine_of_loaded hsha hlawful hrun hmem hgranted
  | _ => trivial

/-- The calls on the table of grants. -/
def grantCallOf : HostEvent → Option ((op : GrantOp) × op.Result)
  | .called _ (.grant op) r => some ⟨op, r⟩
  | _ => none

def grantCalls (history : List HostEvent) : GrantCalls := history.filterMap grantCallOf

/-- What happens to the table is what the calls on it do, one after the other. -/
theorem calls_grants (hrun : HostRun os sha256 ledger history c) :
    Calls GrantOp.Exec .empty (grantCalls history) c.store.grants := by
  induction hrun with
  | init => exact .nil
  | @step history c c₁ i e hrun hstep hok ih =>
    rw [grantCalls, List.filterMap_append]
    have hother (he : grantCallOf e = none) (hgrants : c₁.store.grants = c.store.grants) :
        Calls GrantOp.Exec .empty (history.filterMap grantCallOf ++ [e].filterMap grantCallOf)
          c₁.store.grants := by
      rw [List.filterMap_cons_none he, List.filterMap_nil, List.append_nil, hgrants]
      exact ih
    cases hstep with
    | start req hnone => exact hother rfl rfl
    | finish hhandler => exact hother rfl rfl
    | crash hhandler => exact hother rfl rfl
    | @call req op next r s hhandler hexec =>
      cases op with
      | grant op =>
        obtain ⟨grants, hexec, rfl⟩ := hexec
        exact ih.call hexec trivial
      | arena op =>
        obtain ⟨arena, -, rfl⟩ := hexec
        exact hother rfl rfl
      | load context => exact hother rfl (congrArg HostState.grants hexec.1)
      | randomUUID => exact hother rfl (congrArg HostState.grants hexec)
      | isoTime => exact hother rfl (congrArg HostState.grants hexec)
      | deliver envelope => exact hother rfl (congrArg HostState.grants hexec)
      | outside question => exact hother rfl (congrArg HostState.grants hexec)

/-- The uses of a ticket are the allowed uses of its key. -/
theorem count_usedTicket {key : GrantKey} (hkey : key ∈ ticketKeys) (history : List HostEvent) :
    (history.filterMap (usedTicket ticketKeys)).count key =
      (uses key (grantCalls history)).count true := by
  induction history with
  | nil => rfl
  | cons e history ih =>
    have hhead : (usedTicket ticketKeys e).toList.count key =
        ((grantCallOf e).bind (useOf key)).toList.count true := by
      cases e with
      | called req op r =>
        cases op with
        | grant op =>
          cases op with
          | tryConsume namespaceId grantId maximumUses =>
            rcases r with error | (_ | _)
            · rfl
            · by_cases hsame : key = ⟨namespaceId, grantId⟩ <;> simp [usedTicket, grantCallOf, useOf, hsame]
            · by_cases hsame : key = ⟨namespaceId, grantId⟩
              · subst hsame
                simp [usedTicket, grantCallOf, useOf, hkey]
              · have hsame' : (⟨namespaceId, grantId⟩ : GrantKey) ≠ key := fun h => hsame h.symm
                by_cases hother : (⟨namespaceId, grantId⟩ : GrantKey) ∈ ticketKeys <;>
                  simp [usedTicket, grantCallOf, useOf, hsame, hother, hsame']
          | _ => rfl
        | _ => rfl
      | _ => rfl
    have hsplit {β γ : Type} (f : β → Option γ) (b : β) (l : List β) :
        (b :: l).filterMap f = (f b).toList ++ l.filterMap f := by
      cases hb : f b <;> simp [hb]
    have huses : uses key (grantCalls (e :: history)) =
        ((grantCallOf e).bind (useOf key)).toList ++ uses key (grantCalls history) := by
      unfold grantCalls uses
      rw [hsplit, List.filterMap_append]
      cases grantCallOf e <;> simp [List.filterMap_cons]
      cases useOf key _ <;> rfl
    rw [hsplit, huses, List.count_append, List.count_append, hhead, ih]

theorem nodup_usedTickets (hrun : HostRun os sha256 ledger history c)
    (hbound : ∀ req op r, .called req op r ∈ history → miscounted ticketKeys op = false) :
    (history.filterMap (usedTicket ticketKeys)).Nodup := by
  rw [List.nodup_iff_count_le_one]
  intro key
  by_cases hkey : key ∈ ticketKeys
  · rw [count_usedTicket hkey]
    have hboundedBy : BoundedBy key 1 (grantCalls history) := by
      intro maximumUses result hmem
      obtain ⟨e, he, hcall⟩ := List.mem_filterMap.1 hmem
      unfold grantCallOf at hcall
      split at hcall
      · cases hcall
        have hcounted := hbound _ _ _ he
        simp only [miscounted, decide_eq_false_iff_not, not_and, not_not] at hcounted
        exact hcounted hkey
      · cases hcall
    have hcounted := counted_of_calls (calls_grants hrun) rfl hboundedBy
    have hmin := hcounted.eq_min_iff.2 (.inl le_rfl)
    rw [hmin.1]
    exact Nat.min_le_right _ _
  · have hnone : key ∉ history.filterMap (usedTicket ticketKeys) := by
      intro hmem
      obtain ⟨e, -, he⟩ := List.mem_filterMap.1 hmem
      unfold usedTicket at he
      split at he
      · split_ifs at he with hother
        cases he
        exact hkey hother
      · cases he
    rw [List.count_eq_zero_of_not_mem hnone]
    exact Nat.zero_le _

theorem usedTickets_subset (history : List HostEvent) :
    history.filterMap (usedTicket ticketKeys) ⊆ ticketKeys := by
  intro key hmem
  obtain ⟨e, -, he⟩ := List.mem_filterMap.1 hmem
  unfold usedTicket at he
  split at he
  · split_ifs at he with hticket
    cases he
    exact hticket
  · cases he

/-- A kernel with a ticket keeps to it. -/
theorem disciplined_contactWith {turn : RouterTurn} {traceId : JsString} {grants : List JsObject} :
    Disciplined functions (contactWith functions turn traceId grants) ⟨grants, []⟩ := by
  unfold contactWith
  split_ifs with hticket
  · obtain ⟨grant, hgrant, hkey, honce, hcovers⟩ := hticket.choose_spec
    refine ⟨⟨grant, hgrant, hkey, honce⟩, ?_⟩
    rintro (error | (_ | _))
    · trivial
    · trivial
    · exact ⟨.inr ⟨_, List.mem_singleton_self _, grant, hgrant, hkey, hcovers⟩, fun sent => trivial⟩
  · trivial

theorem disciplined_contactSharedOS : contactSharedOS.Disciplined := by
  intro world turn traceId
  refine ⟨trivial, ?_⟩
  rintro (message | grants)
  · trivial
  · have hgrants : (⟨[], []⟩ : Wallet).after contactSharedOS.functions (.load (probeContext world))
        (.ok grants) = ⟨grants, []⟩ := by
      simp [Wallet.after]
    rw [hgrants]
    exact disciplined_contactWith

/-- However processes interleave, crash and retry, and whatever the kernel does within its grants, a
seat is contacted at most once for every claim of a payment for a snapshot of it. -/
theorem contacts_paid (hsha : Function.Injective sha256) (hlawful : os.functions.Lawful)
    (hdisciplined : os.Disciplined) (hrun : HostRun os sha256 ledger history c) (seat : JsString) :
    contacts seat history ≤ snapshotClaims seat history := by
  have hpossible : ∀ req op r, .called req op r ∈ history →
      GenuineLoad os.functions seat (tickets os.functions seat history) op r :=
    fun req op r hmem => genuineLoad_of_called hsha hlawful hrun hmem
  have hbound : ∀ req op r, .called req op r ∈ history →
      miscounted (tickets os.functions seat history) op = false := by
    intro req op r hmem
    have hspent := Tariff.spent_le_earned hrun
      (fun req => kernelPays_bound.affords fun world turn traceId b =>
        affords_bound (hdisciplined world turn traceId) genuine_nothing) hpossible
    have hearned : (boundTariff (tickets os.functions seat history)).earned history = 0 := by
      rw [Tariff.earned, List.sum_eq_zero]
      intro n hn
      obtain ⟨e, -, rfl⟩ := List.mem_map.1 hn
      cases e <;> rfl
    have hzero := Tariff.costs_eq_zero_of_spent (hearned ▸ hspent) hmem
    simpa [Tariff.eventCosts, boundTariff] using hzero
  calc contacts seat history
      = (contactTariff seat (tickets os.functions seat history)).spent history := by
        rw [contacts, ← Tariff.sum_toNat, Tariff.spent]
        refine congrArg List.sum (List.map_congr_left fun e _ => ?_)
        cases e <;> rfl
    _ ≤ (contactTariff seat (tickets os.functions seat history)).earned history :=
        Tariff.spent_le_earned hrun (fun req => kernelPays_contact.affords
          fun world turn traceId b => affords_kernel (hdisciplined world turn traceId)
            genuine_nothing (Nat.zero_le _)) hpossible
    _ = (history.filterMap (usedTicket (tickets os.functions seat history))).length := by
        rw [← Tariff.sum_toList, Tariff.earned]
        refine congrArg List.sum (List.map_congr_left fun e _ => ?_)
        cases e <;> rfl
    _ ≤ (tickets os.functions seat history).length :=
        ((nodup_usedTickets hrun hbound).subperm (usedTickets_subset history)).length_le
    _ = (ticketTariff os.functions seat).spent history := by
        rw [tickets, ← Tariff.sum_toList, Tariff.spent]
        refine congrArg List.sum (List.map_congr_left fun e _ => ?_)
        cases e <;> rfl
    _ ≤ (ticketTariff os.functions seat).earned history :=
        Tariff.spent_le_earned hrun (fun req => affords_claim hlawful) fun _ _ _ _ => trivial
    _ = snapshotClaims seat history := by
        rw [snapshotClaims, ← Tariff.sum_toNat, Tariff.earned]
        refine congrArg List.sum (List.map_congr_left fun e _ => ?_)
        cases e <;> rfl

/-- The seller of a paid snapshot is contacted, once. -/
theorem contacts_paid_snapshot : ∃ history c, HostRun contactSharedOS id snapshotLedger history c ∧
    1 ≤ contacts (js "i_BBBBBBBBBB") history ∧
    contacts (js "i_BBBBBBBBBB") history ≤ snapshotClaims (js "i_BBBBBBBBBB") history := by
  obtain ⟨history, c, grants, hrun, -, -, -, hdelivered⟩ := exists_contact
  refine ⟨history, c, hrun, ?_, contacts_paid Function.injective_id lawful_documentedFunctions
    disciplined_contactSharedOS hrun _⟩
  exact List.countP_pos_iff.2 ⟨_, hdelivered, by simp [isContact, canaryEnvelope]; decide⟩

end Counterparty.Arena
