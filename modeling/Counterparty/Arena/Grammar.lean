import Counterparty.Arena.Quote

/-! The grammar of service requests, and the messages that the parser takes for requests. -/
namespace Counterparty.Arena

open Json

/-- The services that are offered, each at a fixed price. -/
def offered : List (JsString × ℕ) :=
  [(js "trust_snapshot", 4), (js "verify_delivery", 7), (js "best_execution", 10)]

/-- What every object inherits; none of it is a service. -/
def inheritedNames : List JsString :=
  ["hasOwnProperty", "isPrototypeOf", "propertyIsEnumerable", "toLocaleString", "toString", "valueOf",
    "__defineGetter__", "__defineSetter__", "__lookupGetter__", "__lookupSetter__", "constructor",
    "__proto__"].map js

/-- An object that asks for a service. -/
structure RequestObject (object : JsObject) (service : JsString) : Prop where
  type_eq : property "type" object = some (.str (js "counterparty.service.request.v1"))
  requestId : ∃ requestId, property "request_id" object = some (.str requestId) ∧
    1 ≤ requestId.length ∧ requestId.length ≤ 100 ∧
    ∀ c ∈ requestId, isAlphanumeric c ∨ c ∈ js "._:-"
  service_eq : property "service" object = some (.str service)
  input : ∃ input, property "input" object = some (.obj input)
  payment : property "payment_txn_id" object = none ∨
    ∃ payment, property "payment_txn_id" object = some (.str payment)

/-- A message from a seat that asks for a service. -/
structure Requests (message : SharedNetMessage) (service : JsString) : Prop where
  sender : ∃ seat, message.memberId = some seat ∧ sharednetSeatPattern seat
  content : ∃ object, parseJson message.content = some (.obj object) ∧ RequestObject object service

theorem Requests.unique {message : SharedNetMessage} {service service' : JsString}
    (h : Requests message service) (h' : Requests message service') : service = service' := by
  obtain ⟨object, hparse, hobject⟩ := h.content
  obtain ⟨object', hparse', hobject'⟩ := h'.content
  have hobj : object = object' := by simpa using hparse.symm.trans hparse'
  subst hobj
  simpa using hobject.service_eq.symm.trans hobject'.service_eq

theorem requestIdPattern_iff (s : JsString) : requestIdPattern s ↔
    1 ≤ s.length ∧ s.length ≤ 100 ∧ ∀ c ∈ s, isAlphanumeric c ∨ c ∈ js "._:-" := by
  simp [requestIdPattern, and_assoc]

theorem isText_iff {s : String} {j : Option JsJson} : isText s j ↔ j = some (.str (js s)) := by
  unfold isText
  split
  · simp
  · rename_i hne
    refine iff_of_false Bool.false_ne_true fun h => hne _ h

theorem paymentProperty_isSome {object : JsObject} : (paymentProperty object).isSome ↔
    property "payment_txn_id" object = none ∨
      ∃ payment, property "payment_txn_id" object = some (.str payment) := by
  unfold paymentProperty
  split <;> simp_all

/-! The table of prices. -/

theorem mem_inheritedNames {service : JsString} :
    service ∈ inheritedNames ↔ service ∈ objectPrototype.map Prod.fst := by
  rw [show objectPrototype.map Prod.fst = inheritedNames from by decide]

/-- A name has a price when it is offered or inherited, and only the former has a number. -/
theorem priceOf_cases {service : JsString} {price : Price} (h : priceOf service = some price) :
    (∃ n, (service, n) ∈ offered ∧ price = .credits n) ∨
      (service ∈ inheritedNames ∧ ∀ n, price ≠ .credits n) := by
  have hmem : (service, price) ∈ PRICES ++ objectPrototype := by
    obtain ⟨before, after, heq, -⟩ := List.lookup_eq_some_iff.1 h
    rw [heq]
    simp
  rcases List.mem_append.1 hmem with hmem | hmem
  · left
    simp only [PRICES, List.mem_cons, Prod.mk.injEq, List.not_mem_nil, or_false] at hmem
    rcases hmem with ⟨rfl, rfl⟩ | ⟨rfl, rfl⟩ | ⟨rfl, rfl⟩
    · exact ⟨4, by decide, rfl⟩
    · exact ⟨7, by decide, rfl⟩
    · exact ⟨10, by decide, rfl⟩
  · right
    refine ⟨mem_inheritedNames.2 (List.mem_map_of_mem hmem), ?_⟩
    rintro n rfl
    simp [objectPrototype] at hmem

theorem priceOf_isSome {service : JsString} :
    (priceOf service).isSome ↔ service ∈ offered.map Prod.fst ∨ service ∈ inheritedNames := by
  constructor
  · intro h
    obtain ⟨price, hprice⟩ := Option.isSome_iff_exists.1 h
    rcases priceOf_cases hprice with ⟨n, hn, -⟩ | ⟨hname, -⟩
    · exact .inl (List.mem_map_of_mem hn)
    · exact .inr hname
  · intro h
    have hall : ∀ name ∈ offered.map Prod.fst ++ inheritedNames, (priceOf name).isSome := by decide
    exact hall service (List.mem_append.2 h)

/-! The parser. -/

theorem requests_of_parseRequest {message : SharedNetMessage} {parsed : ParsedRequest}
    (h : parseRequest message = some parsed) : Requests message parsed.service := by
  unfold parseRequest at h
  split at h
  · rename_i seat object hsender hparse
    split_ifs at h with hseat htype
    split at h
    · rename_i requestId service input payment hid hservice hinput hpayment
      split_ifs at h with hpattern
      split at h
      · cases h
        refine ⟨⟨seat, hsender, hseat⟩, object, hparse, ?_⟩
        exact
          { type_eq := isText_iff.1 htype
            requestId := ⟨requestId, hid, (requestIdPattern_iff requestId).1 hpattern⟩
            service_eq := hservice
            input := ⟨input, hinput⟩
            payment := paymentProperty_isSome.1 (by simp [hpayment]) }
      · cases h
    · cases h
  · cases h

/-- Names are looked up in the table of prices, and with it in what it inherits. -/
theorem parseRequest_isSome_iff (message : SharedNetMessage) : (parseRequest message).isSome ↔
    ∃ service, Requests message service ∧ (priceOf service).isSome := by
  constructor
  · intro h
    obtain ⟨parsed, hparsed⟩ := Option.isSome_iff_exists.1 h
    exact ⟨parsed.service, requests_of_parseRequest hparsed, by simp [parsed.service_priced]⟩
  · rintro ⟨service, ⟨⟨seat, hsender, hseat⟩, object, hparse, hobject⟩, hpriced⟩
    obtain ⟨requestId, hid, hpattern⟩ := hobject.requestId
    obtain ⟨input, hinput⟩ := hobject.input
    obtain ⟨payment, hpayment⟩ := Option.isSome_iff_exists.1 (paymentProperty_isSome.2 hobject.payment)
    obtain ⟨price, hprice⟩ := Option.isSome_iff_exists.1 hpriced
    have htype := isText_iff.2 hobject.type_eq
    have hmatches := (requestIdPattern_iff requestId).2 hpattern
    have hservice := hobject.service_eq
    unfold parseRequest
    split
    · rename_i seat' object' hsender' hparse'
      have hseq : seat' = seat := by simpa using hsender'.symm.trans hsender
      have hobj : object' = object := by simpa using hparse'.symm.trans hparse
      subst hseq hobj
      rw [dif_pos hseat, if_pos htype]
      split
      · rename_i requestId' service' input' payment' hid' hservice' hinput' hpayment'
        have hideq : requestId' = requestId := by simpa using hid'.symm.trans hid
        have hserviceeq : service' = service := by simpa using hservice'.symm.trans hservice
        subst hideq hserviceeq
        rw [dif_pos hmatches]
        split
        · rfl
        · rename_i hnone
          rw [hprice] at hnone
          cases hnone
      · rename_i hno
        exact (hno _ _ _ _ hid hservice hinput hpayment).elim
    · rename_i hno
      exact (hno _ _ hsender hparse).elim

theorem quoted_price {parsed : ParsedRequest} {n : ℕ} (h : parsed.price = .credits n)
    (payee : JsString) : field "price_credits" (paymentRequired parsed payee) =
      some (.num (Price.credits n).number) := by
  rw [paymentRequired, responseBase, h]
  rfl

/-- The parser accepts the grammar and quotes its prices, but for the names that are inherited. -/
theorem parses_grammar_iff (message : SharedNetMessage) :
    (((parseRequest message).isSome ↔
        ∃ service ∈ offered.map Prod.fst, Requests message service) ∧
      ∀ parsed, parseRequest message = some parsed → ∃ n, (parsed.service, n) ∈ offered ∧
        ∀ payee, field "price_credits" (paymentRequired parsed payee) =
          some (.num (Price.credits n).number)) ↔
    ∀ service ∈ inheritedNames, ¬Requests message service := by
  constructor
  · rintro ⟨haccepts, -⟩ service hname hrequests
    have hsome : (parseRequest message).isSome :=
      (parseRequest_isSome_iff message).2 ⟨service, hrequests, priceOf_isSome.2 (.inr hname)⟩
    obtain ⟨service', hoffered, hrequests'⟩ := haccepts.1 hsome
    rw [hrequests'.unique hrequests] at hoffered
    have hdisjoint : ∀ name ∈ inheritedNames, name ∉ offered.map Prod.fst := by decide
    exact hdisjoint service hname hoffered
  · intro hnone
    refine ⟨⟨?_, ?_⟩, ?_⟩
    · intro h
      obtain ⟨service, hrequests, hpriced⟩ := (parseRequest_isSome_iff message).1 h
      rcases priceOf_isSome.1 hpriced with hoffered | hname
      · exact ⟨service, hoffered, hrequests⟩
      · exact (hnone service hname hrequests).elim
    · rintro ⟨service, hoffered, hrequests⟩
      exact (parseRequest_isSome_iff message).2
        ⟨service, hrequests, priceOf_isSome.2 (.inl hoffered)⟩
    · intro parsed hparsed
      rcases priceOf_cases parsed.service_priced with ⟨n, hn, hprice⟩ | ⟨hname, -⟩
      · exact ⟨n, hn, quoted_price hprice⟩
      · exact (hnone _ hname (requests_of_parseRequest hparsed)).elim

def inheritedMessage : SharedNetMessage where
  id := js "msg_1"
  content := codes ("\x7b\"type\":\"counterparty.service.request.v1\",\"request_id\":\"r\"," ++
    "\"service\":\"toString\",\"input\":\x7b\x7d\x7d")
  memberId := some (js "i_AAAAAAAAAA")

/-- `toString` is accepted for a service, and no price is quoted for it. -/
theorem inherited_name_parsed : ¬∀ message : SharedNetMessage,
    ((parseRequest message).isSome ↔
        ∃ service ∈ offered.map Prod.fst, Requests message service) ∧
      ∀ parsed, parseRequest message = some parsed → ∃ n, (parsed.service, n) ∈ offered ∧
        ∀ payee, field "price_credits" (paymentRequired parsed payee) =
          some (.num (Price.credits n).number) := by
  intro h
  obtain ⟨parsed, hparsed⟩ := Option.isSome_iff_exists.1
    (by decide +kernel : (parseRequest inheritedMessage).isSome)
  have hservice : (parseRequest inheritedMessage).map (·.service) = some (js "toString") := by
    decide +kernel
  obtain ⟨n, hn, -⟩ := (h inheritedMessage).2 parsed hparsed
  rw [hparsed, Option.map_some, Option.some.injEq] at hservice
  rw [hservice] at hn
  have hoffered : js "toString" ∉ offered.map Prod.fst := by decide
  exact hoffered (List.mem_map_of_mem hn)

end Counterparty.Arena
