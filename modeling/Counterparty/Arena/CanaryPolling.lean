import Counterparty.Arena.SharedNetCli
import Counterparty.Library.Cursor

/-! What the wait for a canary's reply reads of a Room whose log grows between the reads. -/
namespace Counterparty.Arena

open Json

variable {targetSeat nonce : JsString} {after after' init : ℤ} {message : JsJson} {parsed : JsObject}
  {items returned examined : List JsJson} {found : Option (JsJson × JsObject)} {k : ℕ}
  {read : ℕ → ℤ → Except JsString JsJson}

/-! The Room. -/

/-- A message whose sequence is an integer. -/
structure RoomMessage where
  message : JsJson
  sequence : ℤ
  sequence_eq : ∃ neg mag, fieldOf "sequence" message = some (.num (.finite neg mag)) ∧
    (sequence : ℚ) = if neg then -mag.1 else mag.1

/-- `Number.isSafeInteger` -/
def RoomMessage.Safe (m : RoomMessage) : Prop := |m.sequence| ≤ 2 ^ 53 - 1

def senderOf (message : JsJson) : Option JsString :=
  stringOf ((fieldOf "sender" message).bind (fieldOf "member_id"))

/-- The log at the time of each read: it only grows, and its sequences increase. -/
structure Room where
  log : ℕ → List RoomMessage
  grows : ∀ k, log k <+: log (k + 1)
  increasing : ∀ k, (log k).Pairwise fun m m' => m.sequence < m'.sequence

namespace Room

/-- The target's messages above a sequence number. -/
def above (room : Room) (targetSeat : JsString) (after : ℤ) (k : ℕ) : List RoomMessage :=
  Cursor.above RoomMessage.sequence after
    ((room.log k).filter fun m => senderOf m.message = some targetSeat)

/-- A read that completes lists the first of them in order, up to a hundred. -/
def Serves (room : Room) (targetSeat : JsString) (read : ℕ → ℤ → Except JsString JsJson) : Prop :=
  ∀ k after page, read k after = .ok page → ∃ n ≤ 100,
    pageItems page = .ok (((room.above targetSeat after k).take n).map RoomMessage.message)

variable {room : Room}

theorem log_prefix {i j : ℕ} (h : i ≤ j) : room.log i <+: room.log j := by
  induction h with
  | refl => exact List.prefix_rfl
  | step _ ih => exact ih.trans (room.grows _)

theorem above_prefix {i j : ℕ} (h : i ≤ j) (targetSeat : JsString) (after : ℤ) :
    room.above targetSeat after i <+: room.above targetSeat after j :=
  Cursor.above_prefix _ ((room.log_prefix h).filter _)

/-- Once a page is read off the front, the advanced cursor has the rest above it. -/
theorem above_advance {j : ℕ} {page rest : List RoomMessage}
    (h : room.above targetSeat after j = page ++ rest) :
    room.above targetSeat (Cursor.advance RoomMessage.sequence after page) j = rest :=
  Cursor.above_advance _ ((room.increasing j).filter _) h

theorem above_nodup (room : Room) (targetSeat : JsString) (after : ℤ) (j : ℕ) :
    ((room.above targetSeat after j).map RoomMessage.message).Nodup := by
  have hsorted : (room.above targetSeat after j).Pairwise fun m m' => m.sequence < m'.sequence :=
    ((room.increasing j).filter _).filter _
  refine List.pairwise_map.2 (hsorted.imp fun {m m'} hlt hsame => hlt.ne ?_)
  obtain ⟨neg, mag, hfield, heq⟩ := m.sequence_eq
  obtain ⟨neg', mag', hfield', heq'⟩ := m'.sequence_eq
  rw [hsame, hfield'] at hfield
  cases hfield
  exact_mod_cast heq.trans heq'.symm

end Room

theorem safeInteger_sequence {m : RoomMessage} (h : m.Safe) :
    safeInteger (fieldOf "sequence" m.message) = some m.sequence := by
  obtain ⟨neg, mag, hfield, heq⟩ := m.sequence_eq
  have hmag : mag.1 = ((if neg then -m.sequence else m.sequence : ℤ) : ℚ) := by
    cases neg <;> simp_all
  have hbound : (if neg then -m.sequence else m.sequence) ≤ 2 ^ 53 - 1 := by
    have habs := abs_le.1 h
    split_ifs <;> omega
  have hsafe : mag.1.den = 1 ∧ mag.1 ≤ 2 ^ 53 - 1 := by
    rw [hmag]
    exact ⟨Rat.den_intCast _, by exact_mod_cast hbound⟩
  rw [hfield, safeInteger, if_pos hsafe, hmag, Rat.num_intCast]
  cases neg <;> simp

/-! Replies. -/

theorem canaryReply_eq_some_iff :
    canaryReply targetSeat nonce message = some parsed ↔
      Acknowledges targetSeat nonce message parsed := by
  refine ⟨acknowledges_of_reply, fun h => ?_⟩
  obtain ⟨content, hcontent, hparsed⟩ := h.content_eq
  simp [canaryReply, h.sender_eq, hcontent, hparsed, h.probe_id_eq, h.ack_eq, stringOf, isTrue]

/-- The first of the messages that acknowledges the nonce. -/
def FirstReply (targetSeat nonce : JsString) (messages : List JsJson) (message : JsJson)
    (parsed : JsObject) : Prop :=
  Acknowledges targetSeat nonce message parsed ∧
    ∃ before later, messages = before ++ message :: later ∧
      ∀ m ∈ before, ∀ p, ¬Acknowledges targetSeat nonce m p

/-! One page. -/

/-- The messages of a page that the loop looks at. -/
def lookedAt (targetSeat nonce : JsString) : List JsJson → List JsJson
  | [] => []
  | message :: messages =>
    message :: if (canaryReply targetSeat nonce message).isSome then []
      else lookedAt targetSeat nonce messages

theorem scanMessages_cons {m : RoomMessage} (h : m.Safe) (messages : List JsJson) :
    scanMessages targetSeat nonce after (m.message :: messages) =
      match canaryReply targetSeat nonce m.message with
      | some parsed => .ok (some (m.message, parsed), max after m.sequence)
      | none => scanMessages targetSeat nonce (max after m.sequence) messages := by
  have hne : m.message ≠ .null := by
    obtain ⟨neg, mag, hfield, -⟩ := m.sequence_eq
    intro hnull
    rw [hnull] at hfield
    cases hfield
  have hsequence := safeInteger_sequence h
  generalize m.message = message at hne hsequence ⊢
  cases message with
  | null => exact absurd rfl hne
  | bool | num | str | arr | obj =>
    rw [scanMessages, hsequence]
    · rfl
    · intro h
      cases h

/-- A page is scanned up to its first reply; without one the cursor passes all of it. -/
theorem scanMessages_page {page : List RoomMessage} (hsafe : ∀ m ∈ page, m.Safe)
    (h : scanMessages targetSeat nonce after (page.map RoomMessage.message) = .ok (found, after')) :
    (found = none ∧ after' = Cursor.advance RoomMessage.sequence after page ∧
        (∀ m ∈ page, canaryReply targetSeat nonce m.message = none) ∧
        lookedAt targetSeat nonce (page.map RoomMessage.message) = page.map RoomMessage.message) ∨
      ∃ before m later parsed, page = before ++ m :: later ∧ found = some (m.message, parsed) ∧
        canaryReply targetSeat nonce m.message = some parsed ∧
        (∀ b ∈ before, canaryReply targetSeat nonce b.message = none) ∧
        lookedAt targetSeat nonce (page.map RoomMessage.message) =
          (before ++ [m]).map RoomMessage.message := by
  induction page generalizing after with
  | nil =>
    cases h
    exact .inl ⟨rfl, rfl, List.forall_mem_nil _, rfl⟩
  | cons m page ih =>
    rw [List.map_cons, scanMessages_cons (hsafe m List.mem_cons_self)] at h
    cases hreply : canaryReply targetSeat nonce m.message with
    | some parsed =>
      rw [hreply] at h
      cases h
      exact .inr ⟨[], m, page, parsed, rfl, rfl, hreply, List.forall_mem_nil _, by simp [lookedAt, hreply]⟩
    | none =>
      rw [hreply] at h
      rcases ih (fun m hm => hsafe m (List.mem_cons_of_mem _ hm)) h with
        ⟨hfound, hafter, hnone, hlooked⟩ | ⟨before, m', later, parsed, hpage, hfound, hm', hnone, hlooked⟩
      · refine .inl ⟨hfound, hafter, List.forall_mem_cons.2 ⟨hreply, hnone⟩, ?_⟩
        simp [lookedAt, hreply, hlooked]
      · refine .inr ⟨m :: before, m', later, parsed, by rw [hpage]; rfl, hfound, hm',
          List.forall_mem_cons.2 ⟨hreply, hnone⟩, ?_⟩
        simp [lookedAt, hreply, hlooked]

/-! The reads. -/

/-- Where the wait is after some reads have completed: what they returned, what was looked at of it,
the cursor, and the reply. -/
inductive Polled (targetSeat nonce : JsString) (read : ℕ → ℤ → Except JsString JsJson) (init : ℤ) :
    ℕ → List JsJson → List JsJson → ℤ → Option (JsJson × JsObject) → Prop
  | start : Polled targetSeat nonce read init 0 [] [] init none
  | read {k : ℕ} {returned examined items : List JsJson} {after after' : ℤ} {page : JsJson}
      {found : Option (JsJson × JsObject)} :
      Polled targetSeat nonce read init k returned examined after none →
      read k after = .ok page → pageItems page = .ok items →
      scanMessages targetSeat nonce after items = .ok (found, after') →
      Polled targetSeat nonce read init (k + 1) (returned ++ items)
        (examined ++ lookedAt targetSeat nonce items) after' found

/-- The states are the ones that the loop goes through. -/
theorem Polled.poll_eq (h : Polled targetSeat nonce read init k returned examined after found)
    (polls : ℕ) : pollCanary targetSeat nonce read (k + polls) 0 init =
      found.elim (pollCanary targetSeat nonce read polls k after) .ok := by
  induction h generalizing polls with
  | start =>
    rw [Nat.zero_add]
    rfl
  | @read k returned examined items after after' page found _ hread hitems hscan ih =>
    have hstep := ih (polls + 1)
    rw [pollCanary, hread] at hstep
    simp only [bind, Except.bind, hitems, hscan] at hstep
    rw [Nat.add_assoc, Nat.add_comm 1 polls, hstep]
    cases found <;> rfl

theorem polled_of_poll {polls : ℕ} {reply : JsJson × JsObject}
    (hpolled : Polled targetSeat nonce read init k returned examined after none)
    (h : pollCanary targetSeat nonce read polls k after = .ok reply) :
    ∃ k returned examined after,
      Polled targetSeat nonce read init k returned examined after (some reply) := by
  induction polls generalizing k returned examined after with
  | zero => cases h
  | succ polls ih =>
    obtain ⟨page, items, found, after', hpage, hitems, hscan, h⟩ := pollCanary_succ h
    cases found with
    | none => exact ih (.read hpolled hpage hitems hscan) h
    | some reply' =>
      cases h
      exact ⟨_, _, _, _, .read hpolled hpage hitems hscan⟩

/-- What ties the cursor to the messages seen: above the initial sequence stand the messages seen,
and then, until a reply is found, the ones above the cursor. -/
def Progress (room : Room) (targetSeat nonce : JsString) (init : ℤ) (k : ℕ)
    (returned examined : List JsJson) (after : ℤ) : Option (JsJson × JsObject) → Prop
  | none => ∃ seen : List RoomMessage, examined = seen.map RoomMessage.message ∧
      examined = returned ∧ (∀ m ∈ seen, canaryReply targetSeat nonce m.message = none) ∧
      ∀ j, k ≤ j + 1 → room.above targetSeat init j = seen ++ room.above targetSeat after j
  | some (message, parsed) => ∃ (seen : List RoomMessage) (m : RoomMessage),
      examined = (seen ++ [m]).map RoomMessage.message ∧ message = m.message ∧
      canaryReply targetSeat nonce m.message = some parsed ∧
      (∀ b ∈ seen, canaryReply targetSeat nonce b.message = none) ∧
      ∀ j, k ≤ j + 1 → ∃ later, room.above targetSeat init j = seen ++ m :: later

variable {room : Room}

theorem progress_read {page : List RoomMessage}
    (h : Progress room targetSeat nonce init k returned examined after none)
    (hpage : page <+: room.above targetSeat after k) (hsafe : ∀ m ∈ page, m.Safe)
    (hscan : scanMessages targetSeat nonce after (page.map RoomMessage.message) =
      .ok (found, after')) :
    Progress room targetSeat nonce init (k + 1) (returned ++ page.map RoomMessage.message)
      (examined ++ lookedAt targetSeat nonce (page.map RoomMessage.message)) after' found := by
  obtain ⟨seen, rfl, hreturned, hnone, habove⟩ := h
  have hfront {j : ℕ} (hj : k ≤ j) : ∃ rest, room.above targetSeat after j = page ++ rest := by
    obtain ⟨rest, hrest⟩ := hpage.trans (Room.above_prefix hj targetSeat after)
    exact ⟨rest, hrest.symm⟩
  rcases scanMessages_page hsafe hscan with
    ⟨rfl, rfl, hpagenone, hlooked⟩ | ⟨before, m, later, parsed, rfl, rfl, hreply, hbefore, hlooked⟩
  · refine ⟨seen ++ page, by rw [hlooked, List.map_append], by rw [hlooked, hreturned], ?_, ?_⟩
    · intro m hm
      rcases List.mem_append.1 hm with hm | hm
      · exact hnone m hm
      · exact hpagenone m hm
    · intro j hj
      obtain ⟨rest, hrest⟩ := hfront (Nat.le_of_succ_le_succ hj)
      rw [habove j (by omega), hrest, Room.above_advance hrest, List.append_assoc]
  · refine ⟨seen ++ before, m, by rw [hlooked]; simp, rfl, hreply, ?_, ?_⟩
    · intro b hb
      rcases List.mem_append.1 hb with hb | hb
      · exact hnone b hb
      · exact hbefore b hb
    · intro j hj
      obtain ⟨rest, hrest⟩ := hfront (Nat.le_of_succ_le_succ hj)
      exact ⟨later ++ rest, by rw [habove j (by omega), hrest]; simp⟩

theorem progress_of_polled (hserves : room.Serves targetSeat read)
    (hsafe : ∀ k, ∀ m ∈ room.log k, m.Safe)
    (h : Polled targetSeat nonce read init k returned examined after found) :
    Progress room targetSeat nonce init k returned examined after found := by
  induction h with
  | start => exact ⟨[], rfl, rfl, List.forall_mem_nil _, fun j _ => rfl⟩
  | @read k returned examined items after after' page found _ hread hitems hscan ih =>
    obtain ⟨n, -, hpage⟩ := hserves k after page hread
    obtain rfl := Except.ok.inj (hitems.symm.trans hpage)
    refine progress_read ih (List.take_prefix _ _) (fun m hm => hsafe k m ?_) hscan
    exact List.mem_of_mem_filter (List.mem_of_mem_filter (List.mem_of_mem_take hm))

theorem not_acknowledges {m : RoomMessage} (h : canaryReply targetSeat nonce m.message = none)
    (p : JsObject) : ¬Acknowledges targetSeat nonce m.message p := by
  rw [← canaryReply_eq_some_iff, h]
  exact nofun

/-- What is asked of the wait once `k` reads have completed. -/
structure InOrder (room : Room) (targetSeat nonce : JsString) (init : ℤ) (k : ℕ)
    (returned examined : List JsJson) (found : Option (JsJson × JsObject)) : Prop where
  nodup : examined.Nodup
  front : ∀ j, k ≤ j + 1 → examined <+: (room.above targetSeat init j).map RoomMessage.message
  returned_eq : found = none → examined = returned
  first : ∀ message parsed, found = some (message, parsed) → ∀ j, k ≤ j + 1 →
    FirstReply targetSeat nonce ((room.above targetSeat init j).map RoomMessage.message) message
      parsed

theorem Progress.inOrder
    (h : Progress room targetSeat nonce init k returned examined after found) :
    InOrder room targetSeat nonce init k returned examined found := by
  have hnodup (hfront : ∀ j, k ≤ j + 1 →
      examined <+: (room.above targetSeat init j).map RoomMessage.message) : examined.Nodup :=
    (room.above_nodup targetSeat init k).sublist (hfront k (Nat.le_succ k)).sublist
  cases found with
  | none =>
    obtain ⟨seen, rfl, hreturned, -, habove⟩ := h
    have hfront (j : ℕ) (hj : k ≤ j + 1) : seen.map RoomMessage.message <+:
        (room.above targetSeat init j).map RoomMessage.message := by
      rw [habove j hj, List.map_append]
      exact List.prefix_append _ _
    exact ⟨hnodup hfront, hfront, fun _ => hreturned, nofun⟩
  | some reply =>
    obtain ⟨message, parsed⟩ := reply
    obtain ⟨seen, m, rfl, rfl, hreply, hnone, habove⟩ := h
    have hfront (j : ℕ) (hj : k ≤ j + 1) : (seen ++ [m]).map RoomMessage.message <+:
        (room.above targetSeat init j).map RoomMessage.message := by
      obtain ⟨later, hlater⟩ := habove j hj
      exact ⟨later.map RoomMessage.message, by rw [hlater]; simp⟩
    refine ⟨hnodup hfront, hfront, nofun, ?_⟩
    rintro _ _ ⟨⟩ j hj
    obtain ⟨later, hlater⟩ := habove j hj
    refine ⟨canaryReply_eq_some_iff.1 hreply, seen.map RoomMessage.message,
      later.map RoomMessage.message, by rw [hlater, List.map_append, List.map_cons], ?_⟩
    rw [List.forall_mem_map]
    exact fun b hb => not_acknowledges (hnone b hb)

theorem sendCanary_polls {cli : SharedNetCli} {run : CliRun} {payload : JsObject}
    {contacts : List Contact} {reply : JsJson × JsObject}
    (hid : property "counterparty_probe_id" payload = some (.str nonce))
    (h : cli.sendCanary run targetSeat payload = (contacts, .ok reply)) :
    pollCanary targetSeat nonce run.read run.polls 0 cli.initialSequence = .ok reply := by
  unfold SharedNetCli.sendCanary at h
  split at h
  · cases h
  · split at h
    · cases h
    · split at h
      · cases h
      · rename_i nonce' hnonce
        have hsame := stringOf_eq_some (Option.filter_eq_some_iff.1 hnonce).1
        rw [hid] at hsame
        cases hsame
        obtain ⟨-, -, hpoll⟩ := Except.bind_eq_ok (Prod.mk.inj h).2
        exact hpoll

/-- Over every Room whose sequences are safe integers, every growth of its log and every number of
reads: what has been examined is a front part of the target's messages above the initial sequence,
each of them once, and all that was returned as long as no reply is found; and the reply is the
first message among them that acknowledges the nonce. -/
theorem canary_polling_misses_nothing (room : Room) (targetSeat nonce : JsString)
    (read : ℕ → ℤ → Except JsString JsJson) (hserves : room.Serves targetSeat read)
    (hsafe : ∀ k, ∀ m ∈ room.log k, m.Safe) (init : ℤ) :
    (∀ k returned examined after found,
      Polled targetSeat nonce read init k returned examined after found →
        (∀ polls, pollCanary targetSeat nonce read (k + polls) 0 init =
          found.elim (pollCanary targetSeat nonce read polls k after) .ok) ∧
        InOrder room targetSeat nonce init k returned examined found) ∧
    ∀ (cli : SharedNetCli) (run : CliRun) payload contacts message parsed,
      cli.initialSequence = init → run.read = read →
      property "counterparty_probe_id" payload = some (.str nonce) →
      cli.sendCanary run targetSeat payload = (contacts, .ok (message, parsed)) →
      ∃ k, ∀ j, k ≤ j →
        FirstReply targetSeat nonce ((room.above targetSeat init j).map RoomMessage.message)
          message parsed := by
  have hinOrder {k : ℕ} {returned examined : List JsJson} {after : ℤ}
      {found : Option (JsJson × JsObject)}
      (h : Polled targetSeat nonce read init k returned examined after found) :
      InOrder room targetSeat nonce init k returned examined found :=
    (progress_of_polled hserves hsafe h).inOrder
  refine ⟨fun k returned examined after found h => ⟨h.poll_eq, hinOrder h⟩, ?_⟩
  intro cli run payload contacts message parsed hinit hread hid h
  have hpoll := sendCanary_polls hid h
  rw [hinit, hread] at hpoll
  obtain ⟨k, returned, examined, after, hpolled⟩ := polled_of_poll .start hpoll
  exact ⟨k, fun j hj => (hinOrder hpolled).first message parsed rfl j (Nat.le_succ_of_le hj)⟩

/-! A Room with one message, listed in full by every read. -/

/-- A message without content. -/
def posted (seat : JsString) (mag : {q : ℚ // FloatFormat.binary64.Representable q}) (sequence : ℤ)
    (h : (sequence : ℚ) = mag.1) : RoomMessage where
  message := .obj
    [(js "sequence", .num (.finite false mag)),
      (js "sender", .obj [(js "member_id", .str seat)]), (js "content", .str [])]
  sequence := sequence
  sequence_eq := ⟨false, mag, rfl, h⟩

theorem canaryReply_posted (seat : JsString)
    (mag : {q : ℚ // FloatFormat.binary64.Representable q}) (sequence : ℤ)
    (h : (sequence : ℚ) = mag.1) :
    canaryReply targetSeat nonce (posted seat mag sequence h).message = none := by
  unfold canaryReply
  split_ifs <;> rfl

def Room.single (m : RoomMessage) : Room :=
  ⟨fun _ => [m], fun _ => List.prefix_rfl, fun _ => List.pairwise_singleton _ _⟩

def Room.listing (room : Room) (targetSeat : JsString) (k : ℕ) (after : ℤ) : Except JsString JsJson :=
  .ok (.obj [(js "items",
    .arr (((room.above targetSeat after k).take 100).map RoomMessage.message))])

theorem Room.serves_listing (room : Room) (targetSeat : JsString) :
    room.Serves targetSeat (room.listing targetSeat) := by
  rintro k after _ ⟨⟩
  exact ⟨100, le_rfl, rfl⟩

def seller : JsString := js "i_AAAAAAAAAA"

/-- The first message of a Room. -/
def firstPosted : RoomMessage :=
  posted seller ⟨1, 1, 0, by decide, by decide, by decide, by norm_num⟩ 1 (by norm_num)

/-- A message whose sequence is the first integer that is not safe. -/
def lastPosted : RoomMessage :=
  posted seller ⟨2 ^ 53, 1, 53, by decide, by decide, by decide, by norm_num⟩ (2 ^ 53)
    (by norm_num)

theorem canary_polling_firstPosted :
    InOrder (.single firstPosted) seller (js "nonce-one") 0 1 [firstPosted.message]
      [firstPosted.message] none := by
  have hfirst : firstPosted.Safe := by norm_num [RoomMessage.Safe, firstPosted, posted]
  have hscan : scanMessages seller (js "nonce-one") 0 [firstPosted.message] = .ok (none, 1) := by
    rw [scanMessages_cons hfirst, firstPosted, canaryReply_posted]
    rfl
  have hpolled : Polled seller (js "nonce-one") ((Room.single firstPosted).listing seller) 0 1
      [firstPosted.message] [firstPosted.message] 1 none := .read .start rfl rfl hscan
  have hsafe : ∀ k, ∀ m ∈ (Room.single firstPosted).log k, m.Safe := by
    intro k m hm
    exact List.mem_singleton.1 hm ▸ hfirst
  exact ((canary_polling_misses_nothing (.single firstPosted) seller (js "nonce-one") _
    (Room.serves_listing _ _) hsafe 0).1 1 _ _ 1 none hpolled).2

/-- A sequence that is not safe does not move the cursor: its message is read again. -/
theorem unsafe_sequence_repeated :
    (Room.single lastPosted).Serves seller ((Room.single lastPosted).listing seller) ∧
      Polled seller (js "nonce-one") ((Room.single lastPosted).listing seller) 0 2
        [lastPosted.message, lastPosted.message] [lastPosted.message, lastPosted.message] 0 none ∧
      ¬InOrder (.single lastPosted) seller (js "nonce-one") 0 2
        [lastPosted.message, lastPosted.message] [lastPosted.message, lastPosted.message] none := by
  have hscan : scanMessages seller (js "nonce-one") 0 [lastPosted.message] = .ok (none, 0) := by
    have hunsafe : safeInteger (fieldOf "sequence" lastPosted.message) = none :=
      if_neg fun h => absurd h.2 (by norm_num)
    rw [scanMessages, hunsafe, lastPosted, canaryReply_posted]
    · rfl
    · intro h
      cases h
  have honce : Polled seller (js "nonce-one") ((Room.single lastPosted).listing seller) 0 1
      [lastPosted.message] [lastPosted.message] 0 none := .read .start rfl rfl hscan
  refine ⟨Room.serves_listing _ _, .read honce rfl rfl hscan, fun h => ?_⟩
  exact absurd h.nodup (by simp)

end Counterparty.Arena
