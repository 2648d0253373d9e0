import Counterparty.Library.Refinement
import Counterparty.Arena.Authority
import Counterparty.Arena.Canary
import Counterparty.Arena.ServiceSpec

/-! A paid turn step by step: its grants are stored one by one, and the kernel that executes it loads
and spends grants, all of it interleaved with other turns. -/
namespace Counterparty.Arena

open Json Interleave

/-- What a process was configured with. -/
structure World where
  namespaceId : JsString
  owner : Address

structure HostRequest where
  request : ArenaRequest
  world : World

/-! Operations. -/

/-- What a kernel reaches of its host: the grants, their uses, the transport, and whatever is none of
the host's concern. -/
inductive KernelOp
  | load (context : AccessContext)
  | getUsage (namespaceId grantId : JsString)
  | tryConsume (namespaceId grantId : JsString) (maximumUses : ℕ)
  | deliver (envelope : Envelope)
  | outside (question : Text)

@[reducible] def KernelOp.Ret : KernelOp → Type
  | .load _ => Except JsString (List JsObject)
  | .getUsage namespaceId grantId => (GrantOp.getUsage namespaceId grantId).Result
  | .tryConsume namespaceId grantId maximumUses =>
    (GrantOp.tryConsume namespaceId grantId maximumUses).Result
  | .deliver _ => Except JsString Unit
  | .outside _ => Text

inductive HostOp
  | arena (op : ArenaOp)
  | randomUUID
  | isoTime
  | grant (op : GrantOp)
  | load (context : AccessContext)
  | deliver (envelope : Envelope)
  | outside (question : Text)

@[reducible] def HostOp.Ret : HostOp → Type
  | .arena op => op.Ret
  | .randomUUID | .isoTime => JsString
  | .grant op => op.Result
  | .load _ => Except JsString (List JsObject)
  | .deliver _ => Except JsString Unit
  | .outside _ => Text

structure HostState where
  arena : ArenaState
  grants : GrantState

def HostState.initial (ledger : Ledger) : HostState := ⟨.initial ledger, .empty⟩

/-- Ids and times are anything, and so is what comes of a delivery; a load that does not fail reads the
rows of the namespace. -/
def HostOp.Exec (op : HostOp) (s : HostState) (r : op.Ret) (s' : HostState) : Prop :=
  match op with
  | .arena op => ∃ arena, op.Exec s.arena r arena ∧ s' = { s with arena := arena }
  | .grant op => ∃ grants, op.Exec s.grants r grants ∧ s' = { s with grants := grants }
  | .load context => s' = s ∧ ((∃ message, r = .error message) ∨
      ∃ rows grants, Selected context.namespaceId s.grants rows ∧
        Arena.load context rows = some grants ∧ r = .ok grants)
  | .randomUUID | .isoTime | .deliver _ | .outside _ => s' = s

/-! The turn. -/

abbrev KernelProgram := Prog KernelOp KernelOp.Ret (Except JsString Turn)

abbrev HostProgram (α : Type) := Prog HostOp HostOp.Ret α

/-- What the host takes from SharedOS: its capabilities, the kernel that executes the turn of a trace,
and the texts of errors. -/
structure SharedOS where
  functions : CapabilityFunctions
  execute : World → RouterTurn → JsString → KernelProgram
  errorText : StoreError → JsString

/-- A kernel acts on the store of its host. -/
def kernelStep : (op : KernelOp) → HostProgram op.Ret
  | .load context => Prog.perform (HostOp.load context)
  | .getUsage namespaceId grantId => Prog.perform (HostOp.grant (.getUsage namespaceId grantId))
  | .tryConsume namespaceId grantId maximumUses =>
    Prog.perform (HostOp.grant (.tryConsume namespaceId grantId maximumUses))
  | .deliver envelope => Prog.perform (HostOp.deliver envelope)
  | .outside question => Prog.perform (HostOp.outside question)

section Turn

variable (os : SharedOS) (world : World)

/-- `String(request.input.service_id)`; it was seen to be a string. -/
def targetOf (input : JsObject) : JsString := (stringOf (property "service_id" input)).getD []

/-- The grants of one attempt at a turn, in the order they are stored, each to be given its time. -/
def turnGrants (turn : RouterTurn) (attempt : JsString) : List (JsString → CapabilityGrant) :=
  [fun issuedAt => routerServiceGrant world.owner world.namespaceId issuedAt turn.service,
    fun issuedAt => routerExecutionGrant os.functions world.owner world.namespaceId
      (js "grant-router-exec-" ++ attempt) issuedAt 1] ++
  if turn.service = js "trust_snapshot" then
    [fun issuedAt => routerProbeMessageGrant os.functions world.owner world.namespaceId
        (js "grant-router-probe-" ++ attempt) issuedAt 1,
      fun issuedAt => probeExecutionGrant os.functions world.owner world.namespaceId
        (js "grant-probe-exec-" ++ attempt) issuedAt 1,
      fun issuedAt => probeMessageGrant os.functions world.owner world.namespaceId issuedAt
        (targetOf turn.input) 1 (some (js "grant-probe-target-" ++ attempt))]
  else []

/-- One after the other; a statement that fails throws. -/
def storeGrants : List (JsString → CapabilityGrant) → HostProgram (Except JsString Unit)
  | [] => return .ok ()
  | grant :: rest => do
    let issuedAt ← Prog.perform HostOp.isoTime
    match ← Prog.perform (HostOp.grant (.storeGrant world.namespaceId (grant issuedAt))) with
    | .error e => return .error (os.errorText e)
    | .ok () => storeGrants rest

/-- The turn is executed once its grants are stored. -/
def executeStored (turn : RouterTurn) : Except JsString Unit → HostProgram (Except JsString Turn)
  | .error message => return .error message
  | .ok () => do
    let traceId ← Prog.perform HostOp.randomUUID
    (os.execute world turn traceId).expand kernelStep

/-- From the claim to the end of the turn. -/
def executeTurn (turn : RouterTurn) : HostProgram (Except JsString Turn) := do
  let attempt ← Prog.perform HostOp.randomUUID
  let stored ← storeGrants os world (turnGrants os world turn attempt)
  executeStored os world turn stored

def hostStep : (op : ArenaOp) → HostProgram op.Ret
  | .executeTurn turn => executeTurn os world turn
  | .cachedResponse requestId fingerprint =>
    Prog.perform (HostOp.arena (.cachedResponse requestId fingerprint))
  | .verifyPayment expected => Prog.perform (HostOp.arena (.verifyPayment expected))
  | .claimPayment input => Prog.perform (HostOp.arena (.claimPayment input))
  | .saveResponse requestId fingerprint response =>
    Prog.perform (HostOp.arena (.saveResponse requestId fingerprint response))

end Turn

/-- `processRequest`, with the turn as the steps it is made of. -/
def hostRequest (os : SharedOS) (sha256 : Text → Text) (req : HostRequest) :
    HostProgram (Except Thrown JsJson) :=
  (processRequest sha256 req.request).expand (hostStep os req.world)

abbrev HostEvent := Event HostRequest HostOp.Ret (Except Thrown JsJson)

abbrev HostConfig := Config HostRequest HostOp.Ret (Except Thrown JsJson) HostState

/-- Runs of any number of processes on one store that starts empty. -/
abbrev HostRun (os : SharedOS) (sha256 : Text → Text) (ledger : Ledger) :
    List HostEvent → HostConfig → Prop :=
  Run HostOp.Exec (hostRequest os sha256) (.initial ledger)

/-! A turn is one step of the arena. -/

/-- What a turn is made of: its own grants are stored, and the rest is the kernel's. -/
def PartOfTurn (os : SharedOS) (world : World) (turn : RouterTurn) : HostOp → Prop
  | .arena _ => False
  | .grant (.storeGrant namespaceId grant) => namespaceId = world.namespaceId ∧
      ∃ attempt issuedAt, ∃ make ∈ turnGrants os world turn attempt, grant = make issuedAt
  | _ => True

def arenaReading (os : SharedOS) :
    Reading ArenaRequest HostRequest ArenaOp.Ret HostOp.Ret ArenaState HostState where
  request := HostRequest.request
  state := HostState.arena
  Inside
    | req, .executeTurn turn, op' => PartOfTurn os req.world turn op'
    | _, op, op' => op' = .arena op
  Answers
    | .executeTurn _, _, _, _ => True
    | op, r, op', r' => (⟨op', r'⟩ : (op' : HostOp) × op'.Ret) = ⟨.arena op, r⟩
  Hidden op' := ∀ op, op' ≠ .arena op

variable {os : SharedOS} {world : World} {turn : RouterTurn} {sha256 : Text → Text} {ledger : Ledger}

/-- The step is part of the turn, and keeps what the arena reads. -/
def Unseen (os : SharedOS) (world : World) (turn : RouterTurn) (op' : HostOp) : Prop :=
  PartOfTurn os world turn op' ∧ (∀ op, op' ≠ .arena op) ∧
    ∀ (s : HostState) (r : op'.Ret) (s' : HostState), op'.Exec s r s' → s'.arena = s.arena

theorem unseen_of_part {op' : HostOp} (h : PartOfTurn os world turn op') : Unseen os world turn op' := by
  refine ⟨h, ?_, ?_⟩
  · rintro op rfl
    exact h
  · intro s r s' hexec
    cases op' with
    | arena op => exact h.elim
    | grant op =>
      obtain ⟨grants, -, rfl⟩ := hexec
      rfl
    | load context => exact congrArg HostState.arena hexec.1
    | randomUUID => exact congrArg HostState.arena hexec
    | isoTime => exact congrArg HostState.arena hexec
    | deliver envelope => exact congrArg HostState.arena hexec
    | outside question => exact congrArg HostState.arena hexec

theorem performs_kernelStep (op : KernelOp) : (kernelStep op).Performs (Unseen os world turn) := by
  cases op <;> exact ⟨unseen_of_part trivial, fun _ => trivial⟩

theorem performs_expand {α : Type} (p : Prog KernelOp KernelOp.Ret α) :
    (p.expand kernelStep).Performs (Unseen os world turn) := by
  induction p with
  | done a => trivial
  | call op next ih => exact Prog.Performs.bind (performs_kernelStep op) ih

theorem performs_storeGrants {grants : List (JsString → CapabilityGrant)} {attempt : JsString}
    (h : grants ⊆ turnGrants os world turn attempt) :
    (storeGrants os world grants).Performs (Unseen os world turn) := by
  induction grants with
  | nil => trivial
  | cons grant rest ih =>
    refine .perform_bind (unseen_of_part trivial) fun issuedAt => ?_
    refine .perform_bind (unseen_of_part ⟨rfl, attempt, issuedAt, grant, h List.mem_cons_self, rfl⟩) ?_
    rintro (e | u)
    · trivial
    · exact ih fun g hg => h (List.mem_cons_of_mem _ hg)

theorem performs_executeTurn : (executeTurn os world turn).Performs (Unseen os world turn) := by
  refine .perform_bind (unseen_of_part trivial) fun attempt => ?_
  refine .bind (performs_storeGrants fun g hg => hg) ?_
  rintro (message | u)
  · trivial
  · exact .perform_bind (unseen_of_part trivial) fun traceId => performs_expand _

/-- An operation of the arena that is one step here too. -/
theorem implements_perform {req : HostRequest} {op : ArenaOp}
    (hinside : (arenaReading os).Inside req op (.arena op))
    (hanswers : ∀ r, (arenaReading os).Answers op r (.arena op) r) :
    Implements (arenaReading os) ArenaOp.Exec HostOp.Exec req op (Prog.perform (HostOp.arena op)) := by
  refine ⟨hinside, ?_⟩
  rintro s r s' ⟨arena, hexec, rfl⟩
  exact .inr ⟨r, rfl, hexec, hanswers r⟩

theorem implements_hostStep (req : HostRequest) (op : ArenaOp) :
    Implements (arenaReading os) ArenaOp.Exec HostOp.Exec req op (hostStep os req.world op) := by
  cases op with
  | executeTurn turn =>
    exact implements_of_silent (fun _ _ => rfl) (fun _ _ _ => trivial) performs_executeTurn
      (by simp [hostStep, executeTurn])
  | cachedResponse requestId fingerprint => exact implements_perform rfl fun _ => rfl
  | verifyPayment expected => exact implements_perform rfl fun _ => rfl
  | claimPayment input => exact implements_perform rfl fun _ => rfl
  | saveResponse requestId fingerprint response => exact implements_perform rfl fun _ => rfl

variable {history' : List HostEvent} {c' : HostConfig}

/-- The arena that a run of the host shows. -/
structure ShownArena (os : SharedOS) (sha256 : Text → Text) (ledger : Ledger)
    (history' : List HostEvent) (c' : HostConfig) (history : List ArenaEvent) (c : ArenaConfig) :
    Prop where
  run : ArenaRun sha256 ledger history c
  refines : Refines (arenaReading os) history' history
  store : c.store = c'.store.arena
  within : ∀ req op' r', .called req op' r' ∈ history' →
    WasWithin (arenaReading os) ArenaOp.Exec (processRequest sha256) (.initial ledger) history c req op'

theorem exists_shownArena (hrun : HostRun os sha256 ledger history' c') :
    ∃ history c, ShownArena os sha256 ledger history' c' history c := by
  obtain ⟨history, c, hcoarse, hrefines, hrelated, hwithin⟩ :=
    Run.refines (M := arenaReading os) (processRequest sha256) implements_hostStep hrun
  exact ⟨history, c, hcoarse, hrefines, hrelated.store, hwithin⟩

/-- A call that the arena shows was made, unless it was a turn. -/
theorem ShownArena.called {history : List ArenaEvent} {c : ArenaConfig}
    (h : ShownArena os sha256 ledger history' c' history c) {req : ArenaRequest} {op : ArenaOp}
    {r : op.Ret} (hop : ∀ turn, op ≠ .executeTurn turn) (hmem : .called req op r ∈ history) :
    ∃ req', req'.request = req ∧ .called req' (.arena op) r ∈ history' := by
  obtain ⟨e', he', hshows⟩ := h.refines.exists_of_mem hmem
  cases hshows with
  | @called req' op r op' r' hinside hanswers =>
    refine ⟨req', rfl, ?_⟩
    cases op with
    | executeTurn turn => exact absurd rfl (hop turn)
    | _ =>
      cases hanswers
      exact he'

/-! What is seen from outside. -/

/-- A request is taken up, answered, or cut short. -/
def outcomeOf : ArenaEvent → Option (ArenaRequest × Option (Except Thrown JsJson))
  | .returned req a => some (req, some a)
  | .crashed req => some (req, none)
  | _ => none

def hostOutcomeOf : HostEvent → Option (ArenaRequest × Option (Except Thrown JsJson))
  | .returned req a => some (req.request, some a)
  | .crashed req => some (req.request, none)
  | _ => none

/-- A call on the payments, the ledger or the responses. -/
def storeCallOf : ArenaEvent → Option (ArenaRequest × (op : ArenaOp) × op.Ret)
  | .called _ (.executeTurn _) _ => none
  | .called req op r => some (req, ⟨op, r⟩)
  | _ => none

def hostStoreCallOf : HostEvent → Option (ArenaRequest × (op : ArenaOp) × op.Ret)
  | .called req (.arena op) r => some (req.request, ⟨op, r⟩)
  | _ => none

theorem outcomeOf_of_shows {e' : HostEvent} {e : ArenaEvent}
    (h : Interleave.Shows (arenaReading os) e' e) : hostOutcomeOf e' = outcomeOf e := by
  cases h <;> rfl

theorem storeCallOf_of_shows {e' : HostEvent} {e : ArenaEvent}
    (h : Interleave.Shows (arenaReading os) e' e) : hostStoreCallOf e' = storeCallOf e := by
  cases h with
  | @called req op r op' r' hinside hanswers =>
    cases op with
    | executeTurn turn =>
      cases op' with
      | arena op => exact hinside.elim
      | _ => rfl
    | _ =>
      cases hanswers
      rfl
  | _ => rfl

theorem hostStoreCallOf_hidden {req : HostRequest} {op' : HostOp} {r' : op'.Ret}
    (h : ∀ op, op' ≠ .arena op) : hostStoreCallOf (.called req op' r') = none := by
  cases op' with
  | arena op => exact absurd rfl (h op)
  | _ => rfl

end Counterparty.Arena
