import Mathlib.Data.List.DropRight
import Counterparty.Arena.RouterDriver

/-! The canary that is said in the Room, and the reply that is waited for. -/
namespace Counterparty.Arena

open Json

/-! Reading what the CLI prints. -/

/-- `value.key`, of anything but null. -/
def fieldOf (key : String) : JsJson → Option JsJson
  | .obj object => property key object
  | _ => none

/-- The code points of a string. -/
def textOf (s : JsString) : Text :=
  (points s).flatMap fun
    | [u] => [u.val]
    | [u, v] => [0x10000 + (u.val - 0xD800) * 0x400 + (v.val - 0xDC00)]
    | _ => []

/-- The white space and the line ends that `String.prototype.trim` takes off. -/
def isTrimmed (c : ℕ) : Bool :=
  (9 ≤ c && c ≤ 13) || (0x2000 ≤ c && c ≤ 0x200A) ||
    [0x20, 0xA0, 0x1680, 0x2028, 0x2029, 0x202F, 0x205F, 0x3000, 0xFEFF].contains c

def trim (t : Text) : Text := (t.dropWhile isTrimmed).rdropWhile isTrimmed

/-- `parseJson` of the CLI: a blank text is null. -/
def parseTrimmedJson (t : Text) : Option JsJson :=
  if trim t = [] then some .null else parseJson (trim t)

/-- `Number.isSafeInteger` -/
def safeInteger : Option JsJson → Option ℤ
  | some (.num (.finite neg mag)) =>
    if mag.1.den = 1 ∧ mag.1 ≤ 2 ^ 53 - 1 then some (if neg then -mag.1.num else mag.1.num) else none
  | _ => none

/-- `page.items ?? []` as it is iterated: a string by its code points. -/
def pageItems : JsJson → Except JsString (List JsJson)
  | .null => .error (js "TypeError")
  | page =>
    match fieldOf "items" page with
    | none | some .null => .ok []
    | some (.arr items) => .ok items
    | some (.str s) => .ok ((points s).map .str)
    | some _ => .error (js "TypeError")

/-! The canary. -/

structure SharedNetCli where
  seatId : JsString
  initialSequence : ℤ

/-- What the CLI gives while one canary is under way: whether it could be said, what the reads after a
sequence number give, one after the other, and how many there is time for. -/
structure CliRun where
  say : Except JsString Unit
  read : ℕ → ℤ → Except JsString JsJson
  polls : ℕ

/-- What is said in the Room to a seat, and how the CLI went on from there. -/
structure Contact where
  targetSeat : JsString
  content : Text
  run : CliRun

def isTrue : Option JsJson → Bool
  | some (.bool true) => true
  | _ => false

/-- What a message says, if it is from the seat and acknowledges the nonce. -/
def canaryReply (targetSeat nonce : JsString) (message : JsJson) : Option JsObject :=
  if stringOf ((fieldOf "sender" message).bind (fieldOf "member_id")) ≠ some targetSeat then none
  else
    match (stringOf (fieldOf "content" message)).bind fun content =>
        parseTrimmedJson (textOf content) with
    | some (.obj parsed) =>
      if stringOf (property "counterparty_probe_id" parsed) = some nonce ∧
          isTrue (property "ack" parsed) then some parsed
      else none
    | _ => none

/-- The messages of a page, up to the reply, and the sequence number they reach. -/
def scanMessages (targetSeat nonce : JsString) : ℤ → List JsJson →
    Except JsString (Option (JsJson × JsObject) × ℤ)
  | after, [] => .ok (none, after)
  | _, .null :: _ => .error (js "TypeError")
  | after, message :: messages =>
    let after := ((safeInteger (fieldOf "sequence" message)).map (max after)).getD after
    match canaryReply targetSeat nonce message with
    | some parsed => .ok (some (message, parsed), after)
    | none => scanMessages targetSeat nonce after messages

/-- The reads up to the deadline. -/
def pollCanary (targetSeat nonce : JsString) (read : ℕ → ℤ → Except JsString JsJson) :
    ℕ → ℕ → ℤ → Except JsString (JsJson × JsObject)
  | 0, _, _ =>
    .error (js "target seat " ++ targetSeat ++ js " did not return the exact canary before timeout")
  | polls + 1, k, after => do
    let page ← read k after
    let items ← pageItems page
    let (found, after) ← scanMessages targetSeat nonce after items
    match found with
    | some reply => return reply
    | none => pollCanary targetSeat nonce read polls (k + 1) after

/-- `{ counterparty_probe_id: nonce, ack: true }` -/
def expectedResponse (nonce : JsString) : JsJson :=
  .obj [(js "counterparty_probe_id", .str nonce), (js "ack", .bool true)]

/-- The message that is said. -/
def outbound (targetSeat nonce : JsString) (payload : JsObject) : JsJson :=
  .obj (put (js "instruction")
    (.str (js "Only SharedNet seat " ++ targetSeat ++
      js " should answer this canary. Reply with JSON only: " ++
        fromText (stringify (expectedResponse nonce))))
    (put (js "target_seat") (.str targetSeat) payload))

def SharedNetCli.sendCanary (cli : SharedNetCli) (run : CliRun) (targetSeat : JsString)
    (payload : JsObject) : List Contact × Except JsString (JsJson × JsObject) :=
  if ¬sharednetSeatPattern targetSeat then
    ([], .error (js "active canary requires an exact SharedNet i_ seat address"))
  else if targetSeat = cli.seatId then
    ([], .error (js "Counterparty cannot canary its own SharedNet seat"))
  else
    match (stringOf (property "counterparty_probe_id" payload)).filter fun nonce =>
        8 ≤ nonce.length with
    | none => ([], .error (js "canary payload is missing the host-generated nonce"))
    | some nonce =>
      ([⟨targetSeat, stringify (outbound targetSeat nonce payload), run⟩], do
        run.say
        pollCanary targetSeat nonce run.read run.polls 0 cli.initialSequence)

/-! What a reply is. -/

/-- A message of the seat that says the nonce and `ack` as JSON. -/
structure Acknowledges (targetSeat nonce : JsString) (message : JsJson) (parsed : JsObject) : Prop where
  sender_eq : (fieldOf "sender" message).bind (fieldOf "member_id") = some (.str targetSeat)
  content_eq : ∃ content, fieldOf "content" message = some (.str content) ∧
    parseTrimmedJson (textOf content) = some (.obj parsed)
  probe_id_eq : property "counterparty_probe_id" parsed = some (.str nonce)
  ack_eq : property "ack" parsed = some (.bool true)

variable {targetSeat nonce : JsString} {after after' : ℤ} {items : List JsJson} {message : JsJson}
  {parsed payload : JsObject}

theorem isTrue_eq {j : Option JsJson} (h : isTrue j) : j = some (.bool true) := by
  unfold isTrue at h
  split at h
  · rfl
  · cases h

theorem acknowledges_of_reply (h : canaryReply targetSeat nonce message = some parsed) :
    Acknowledges targetSeat nonce message parsed := by
  unfold canaryReply at h
  split_ifs at h with hsender
  split at h
  · rename_i parsed' hcontent
    split_ifs at h with hreply
    cases h
    obtain ⟨content, hcontent, hparsed⟩ := Option.bind_eq_some_iff.1 hcontent
    exact ⟨stringOf_eq_some (not_not.1 hsender), ⟨content, stringOf_eq_some hcontent, hparsed⟩,
      stringOf_eq_some hreply.1, isTrue_eq hreply.2⟩
  · cases h

theorem acknowledges_of_scan
    (h : scanMessages targetSeat nonce after items = .ok (some (message, parsed), after')) :
    message ∈ items ∧ Acknowledges targetSeat nonce message parsed := by
  fun_induction scanMessages targetSeat nonce after items with
  | case1 => cases h
  | case2 => cases h
  | case3 after message messages hne next parsed hreply =>
    simp only [Except.ok.injEq, Prod.mk.injEq, Option.some.injEq] at h
    obtain ⟨⟨rfl, rfl⟩, -⟩ := h
    exact ⟨List.mem_cons_self, acknowledges_of_reply hreply⟩
  | case4 after message messages hne next hreply ih =>
    obtain ⟨hmem, hack⟩ := ih h
    exact ⟨List.mem_cons_of_mem _ hmem, hack⟩

theorem Except.bind_eq_ok {ε α β : Type} {x : Except ε α} {f : α → Except ε β} {b : β}
    (h : (x >>= f) = .ok b) : ∃ a, x = .ok a ∧ f a = .ok b := by
  cases x with
  | error e => cases h
  | ok a => exact ⟨a, rfl, h⟩

/-- One more read: the wait ends with the reply on the page, or goes on after the page. -/
theorem pollCanary_succ {read : ℕ → ℤ → Except JsString JsJson} {polls k : ℕ}
    {reply : JsJson × JsObject}
    (h : pollCanary targetSeat nonce read (polls + 1) k after = .ok reply) :
    ∃ page items found after', read k after = .ok page ∧ pageItems page = .ok items ∧
      scanMessages targetSeat nonce after items = .ok (found, after') ∧
      found.elim (pollCanary targetSeat nonce read polls (k + 1) after') .ok = .ok reply := by
  rw [pollCanary] at h
  obtain ⟨page, hpage, h⟩ := Except.bind_eq_ok h
  obtain ⟨items, hitems, h⟩ := Except.bind_eq_ok h
  obtain ⟨⟨found, after'⟩, hscan, h⟩ := Except.bind_eq_ok h
  refine ⟨page, items, found, after', hpage, hitems, hscan, ?_⟩
  cases found with
  | none => exact h
  | some reply' => exact h

/-- The reply is a message on one of the pages that were read. -/
theorem acknowledges_of_poll {read : ℕ → ℤ → Except JsString JsJson} {polls k : ℕ}
    (h : pollCanary targetSeat nonce read polls k after = .ok (message, parsed)) :
    (∃ k after page items, read k after = .ok page ∧ pageItems page = .ok items ∧ message ∈ items) ∧
      Acknowledges targetSeat nonce message parsed := by
  induction polls generalizing k after with
  | zero => cases h
  | succ polls ih =>
    obtain ⟨page, items, found, after', hpage, hitems, hscan, h⟩ := pollCanary_succ h
    cases found with
    | none => exact ih h
    | some reply =>
      cases h
      obtain ⟨hmem, hack⟩ := acknowledges_of_scan hscan
      exact ⟨⟨k, after, page, items, hpage, hitems, hmem⟩, hack⟩

/-- A message that the CLI listed while the canary was waited for. -/
def CliRun.Lists (run : CliRun) (message : JsJson) : Prop :=
  ∃ k after page items, run.read k after = .ok page ∧ pageItems page = .ok items ∧ message ∈ items

/-- A canary is said at most once, to the seat, and its reply is a message of the seat that was listed
and acknowledges the nonce of the payload. -/
theorem sendCanary_spec {cli : SharedNetCli} {run : CliRun} {contacts : List Contact}
    {result : Except JsString (JsJson × JsObject)}
    (h : cli.sendCanary run targetSeat payload = (contacts, result)) :
    contacts.length ≤ 1 ∧ (∀ contact ∈ contacts, contact.targetSeat = targetSeat) ∧
    ∀ message parsed, result = .ok (message, parsed) →
      ∃ contact ∈ contacts, contact.run.Lists message ∧
        ∃ nonce, property "counterparty_probe_id" payload = some (.str nonce) ∧
          Acknowledges targetSeat nonce message parsed := by
  unfold SharedNetCli.sendCanary at h
  split at h
  · cases h
    exact ⟨Nat.zero_le _, nofun, nofun⟩
  · split at h
    · cases h
      exact ⟨Nat.zero_le _, nofun, nofun⟩
    · split at h
      · cases h
        exact ⟨Nat.zero_le _, nofun, nofun⟩
      · rename_i nonce hnonce
        cases h
        refine ⟨le_rfl, fun contact h => by rw [List.mem_singleton.1 h], ?_⟩
        intro message parsed h
        obtain ⟨_, -, hpoll⟩ := Except.bind_eq_ok h
        obtain ⟨hlisted, hack⟩ := acknowledges_of_poll hpoll
        have hid := stringOf_eq_some (Option.filter_eq_some_iff.1 hnonce).1
        exact ⟨_, List.mem_cons_self, hlisted, nonce, hid, hack⟩

theorem scanMessages_replied (after : ℤ) (messages : List JsJson)
    (hreply : canaryReply targetSeat nonce message = some parsed) : ∃ after',
      scanMessages targetSeat nonce after (message :: messages) =
        .ok (some (message, parsed), after') := by
  refine ⟨((safeInteger (fieldOf "sequence" message)).map (max after)).getD after, ?_⟩
  cases message with
  | null => cases hreply
  | _ => simp only [scanMessages, hreply]

/-- A reply on the first page ends the wait. -/
theorem sendCanary_replied {cli : SharedNetCli} {run : CliRun} (hseat : sharednetSeatPattern targetSeat)
    (hself : targetSeat ≠ cli.seatId)
    (hnonce : property "counterparty_probe_id" payload = some (.str nonce)) (hlength : 8 ≤ nonce.length)
    (hsaid : run.say = .ok ()) (hpolls : 0 < run.polls)
    (hpage : run.read 0 cli.initialSequence = .ok (.obj [(js "items", .arr [message])]))
    (hreply : canaryReply targetSeat nonce message = some parsed) :
    ∃ contacts, cli.sendCanary run targetSeat payload = (contacts, .ok (message, parsed)) := by
  obtain ⟨polls, hpolls⟩ : ∃ polls, run.polls = polls + 1 := ⟨run.polls - 1, by omega⟩
  obtain ⟨after, hscan⟩ := scanMessages_replied cli.initialSequence [] hreply
  have hfilter : (stringOf (property "counterparty_probe_id" payload)).filter
      (fun nonce => 8 ≤ nonce.length) = some nonce := by
    simp [hnonce, stringOf, hlength]
  have hpoll : pollCanary targetSeat nonce run.read run.polls 0 cli.initialSequence =
      .ok (message, parsed) := by
    rw [hpolls, pollCanary, hpage]
    change (scanMessages targetSeat nonce cli.initialSequence [message] >>= _) = _
    rw [hscan]
    rfl
  refine ⟨[⟨targetSeat, stringify (outbound targetSeat nonce payload), run⟩], ?_⟩
  rw [SharedNetCli.sendCanary, if_neg (not_not_intro hseat), if_neg hself, hfilter]
  simp only [hsaid, hpoll]
  rfl

end Counterparty.Arena
