import Mathlib.Data.List.DropRight
import Counterparty.Library.Sequence
import Counterparty.Arena.SharedNetCli
import Counterparty.Arena.ServiceSpec

/-! A batch of messages as one process handles it: the checks of its Room, its seat and its environment,
then the requests one after the other, and one answer for all of them. -/
namespace Counterparty.Arena

open Json Interleave

structure SharedNetWatchBatch where
  roomId : JsString
  memberId : JsString
  messages : List SharedNetMessage

/-- The variables that `process.env` has. -/
structure Environment where
  sharednetPayeeAddress : Option JsString
  counterpartyInternalToken : Option JsString
  sharednetRoomId : Option JsString

structure BatchRequest where
  batch : SharedNetWatchBatch
  env : Environment

/-- `/^rom_[0-9A-Za-z]+$/` -/
def sharednetRoomPattern (s : JsString) : Bool :=
  (js "rom_").isPrefixOf s && s.length != 4 && (s.drop 4).all isAlphanumeric

/-- `(process.env.KEY ?? "").trim()` -/
def trimmedVariable (value : Option JsString) : JsString :=
  ((value.getD []).dropWhile fun c => isTrimmed c.val).rdropWhile fun c => isTrimmed c.val

inductive BatchThrown
  | check (message : JsString)
  | request (thrown : Thrown)

/-- What is checked before anything is opened. -/
def arenaProcess (b : BatchRequest) : Except JsString Process :=
  if ¬sharednetRoomPattern b.batch.roomId then .error (js "invalid SharedNet room id")
  else if ¬sharednetSeatPattern b.batch.memberId then .error (js "invalid SharedNet member id")
  else if ¬sharednetAddressPattern (trimmedVariable b.env.sharednetPayeeAddress) then
    .error (js "SHAREDNET_PAYEE_ADDRESS must be a real p_, a_, or i_ SharedNet address")
  else if (trimmedVariable b.env.counterpartyInternalToken).length < 32 then
    .error (js "COUNTERPARTY_INTERNAL_TOKEN must be at least 32 characters")
  else .ok
    { payee := trimmedVariable b.env.sharednetPayeeAddress
      roomId := b.batch.roomId
      envRoomId := b.env.sharednetRoomId.getD [] }

/-- Nothing for no requests, and what a single request is answered as it is. -/
def batchResponse : List JsJson → Option JsJson
  | [] => none
  | [response] => some response
  | responses => some (.obj [(js "type", jsText "counterparty.batch.response.v1"),
      (js "responses", .arr responses)])

def batchAnswer : Except Thrown (List JsJson) → Except BatchThrown (Option JsJson)
  | .error e => .error (.request e)
  | .ok responses => .ok (batchResponse responses)

def batchRequests (batch : SharedNetWatchBatch) (process : Process) : List ArenaRequest :=
  (batch.messages.filterMap parseRequest).map fun parsed => ⟨parsed, process⟩

def runArenaBatch (sha256 : Text → Text) (b : BatchRequest) :
    Procedure (Except BatchThrown (Option JsJson)) :=
  match arenaProcess b with
  | .error message => return .error (.check message)
  | .ok process => Prog.inTurn (processRequest sha256) batchAnswer (batchRequests b.batch process) []

abbrev BatchEvent := Event BatchRequest ArenaOp.Ret (Except BatchThrown (Option JsJson))

abbrev BatchConfig := Config BatchRequest ArenaOp.Ret (Except BatchThrown (Option JsJson)) ArenaState

/-- Runs of any number of batches, side by side, on one store that starts empty. -/
abbrev BatchRun (sha256 : Text → Text) (ledger : Ledger) : List BatchEvent → BatchConfig → Prop :=
  Run ArenaOp.Exec (runArenaBatch sha256) (.initial ledger)

/-! Batches are requests one after the other. -/

/-- The requests of a batch that passes its checks. -/
def requestsOf (b : BatchRequest) : List ArenaRequest :=
  match arenaProcess b with
  | .error _ => []
  | .ok process => batchRequests b.batch process

def answerOf (b : BatchRequest) (r : Except Thrown (List JsJson)) : Except BatchThrown (Option JsJson) :=
  match arenaProcess b with
  | .error message => .error (.check message)
  | .ok _ => batchAnswer r

theorem runArenaBatch_eq (sha256 : Text → Text) : runArenaBatch sha256 = fun b =>
    Prog.inTurn (processRequest sha256) (answerOf b) (requestsOf b) [] := by
  funext b
  unfold runArenaBatch requestsOf
  cases hprocess : arenaProcess b with
  | error message =>
    simp only [Prog.inTurn, answerOf, hprocess]
    rfl
  | ok process =>
    have hanswer : answerOf b = batchAnswer := by
      funext r
      simp only [answerOf, hprocess]
    rw [hanswer]

variable {sha256 : Text → Text} {ledger : Ledger} {history' : List BatchEvent} {c' : BatchConfig}

/-- What a batch comes to, by what its requests were answered. -/
inductive BatchOutcome (history : List ArenaEvent) (b : BatchRequest) :
    Except BatchThrown (Option JsJson) → Prop
  | unchecked {message : JsString} (h : arenaProcess b = .error message) :
      BatchOutcome history b (.error (.check message))
  | answered {process : Process} {responses : List JsJson} (h : arenaProcess b = .ok process)
      (hreturned : Returned history (batchRequests b.batch process) responses) :
      BatchOutcome history b (.ok (batchResponse responses))
  | thrown {process : Process} {past rest : List ArenaRequest} {req : ArenaRequest}
      {responses : List JsJson} {e : Thrown} (h : arenaProcess b = .ok process)
      (hsplit : batchRequests b.batch process = past ++ req :: rest)
      (hreturned : Returned history past responses) (hthrown : .returned req (.error e) ∈ history) :
      BatchOutcome history b (.error (.request e))

theorem batchOutcome_of_answered {history : List ArenaEvent} {b : BatchRequest}
    {r : Except Thrown (List JsJson)} (h : AnsweredInTurn history (requestsOf b) r) :
    BatchOutcome history b (answerOf b r) := by
  unfold answerOf
  cases hprocess : arenaProcess b with
  | error message => exact .unchecked hprocess
  | ok process =>
    have hrequests : requestsOf b = batchRequests b.batch process := by
      simp only [requestsOf, hprocess]
    rw [hrequests] at h
    cases r with
    | ok responses => exact .answered hprocess h
    | error e =>
      obtain ⟨past, req, rest, responses, hsplit, hreturned, hthrown⟩ := h
      exact .thrown hprocess hsplit hreturned hthrown

/-- Batches that are handled side by side, in any order of their steps, and cut short anywhere, do what
their requests would do, each handled on its own: the same calls on the same store; and what a batch
comes to is made of what its requests were answered, each of them once, in their order. -/
theorem batch_refines_arena (hrun : BatchRun sha256 ledger history' c') :
    ∃ history c, ArenaRun sha256 ledger history c ∧ c.store = c'.store ∧
      calls history = calls history' ∧
      ∀ b output, .returned b output ∈ history' → BatchOutcome history b output := by
  rw [BatchRun, runArenaBatch_eq] at hrun
  obtain ⟨history, c, hcoarse, hturns⟩ := hrun.inTurns
  refine ⟨history, c, hcoarse, hturns.store_eq, hturns.calls_eq, ?_⟩
  intro b output hmem
  obtain ⟨r, rfl, hanswered⟩ := hturns.answered b output hmem
  exact batchOutcome_of_answered hanswered

/-- Small talk, and an order. -/
def orderBatch : BatchRequest where
  batch :=
    { roomId := js "rom_1"
      memberId := js "i_CCCCCCCCCC"
      messages :=
        [⟨js "msg_1", codes "hello", some (js "i_AAAAAAAAAA")⟩,
          { id := js "msg_2"
            content := codes ("\x7b\"type\":\"counterparty.service.request.v1\",\"request_id\":\"order-1\"," ++
              "\"service\":\"verify_delivery\",\"input\":\x7b\"delivery_id\":\"d\"\x7d\x7d")
            memberId := some (js "i_AAAAAAAAAA") }] }
  env :=
    { sharednetPayeeAddress := some (js " p_AAAAAAAAAA")
      counterpartyInternalToken := some (js "0123456789abcdef0123456789abcdef\n")
      sharednetRoomId := some (js "rom_1") }

/-- The order of the batch is answered, the small talk is not. -/
theorem batch_refines_arena_order : ∃ history' c' history process output,
    BatchRun id orderLedger history' c' ∧ .returned orderBatch output ∈ history' ∧
      arenaProcess orderBatch = .ok process ∧ (batchRequests orderBatch.batch process).length = 1 ∧
      BatchOutcome history orderBatch output := by
  obtain ⟨n, calls, hserved⟩ := Prog.exists_advance (ArenaOp.answer (succeededTurn "trace-1"))
    (runArenaBatch id orderBatch) (.initial orderLedger)
  have hrun := Run.serve_alone (exec_answer (succeededTurn "trace-1"))
    (.init : BatchRun id orderLedger [] _) hserved
  obtain ⟨history, c, -, -, -, houtcome⟩ := batch_refines_arena hrun
  have hprocess : arenaProcess orderBatch = .ok ⟨js "p_AAAAAAAAAA", js "rom_1", js "rom_1"⟩ := rfl
  refine ⟨_, _, history, _, _, hrun, List.mem_append_right _ (List.mem_singleton_self _), hprocess, ?_,
    houtcome orderBatch _ (List.mem_append_right _ (List.mem_singleton_self _))⟩
  decide +kernel

end Counterparty.Arena
