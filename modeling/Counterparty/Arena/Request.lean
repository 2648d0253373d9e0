import Counterparty.Arena.JsJson

/-! Service requests: how messages are parsed, what they have to hold, and their fingerprints. -/
namespace Counterparty.Arena

open Json

/-- The properties of an object, in their order. -/
abbrev JsObject := List (JsString × JsJson)

/-- `object.key` -/
def property (key : String) (object : JsObject) : Option JsJson := object.lookup (js key)

theorem property_map (key : String) (f : JsJson → JsJson) (object : JsObject) :
    property key (object.map fun p => (p.1, f p.2)) = (property key object).map f :=
  lookup_map f (js key) object

def isAlphanumeric (c : CodeUnit) : Bool :=
  (48 ≤ c.val && c.val ≤ 57) || (65 ≤ c.val && c.val ≤ 90) || (97 ≤ c.val && c.val ≤ 122)

/-- One of the prefixes and ten letters or digits. -/
def addressPattern (prefixes : List String) (s : JsString) : Bool :=
  prefixes.any fun p => (js p).isPrefixOf s && s.length == p.length + 10 &&
    (s.drop p.length).all isAlphanumeric

def sharednetSeatPattern (s : JsString) : Bool := addressPattern ["i_"] s

def sharednetAddressPattern (s : JsString) : Bool := addressPattern ["p_", "a_", "i_"] s

def sharednetTxnPattern (s : JsString) : Bool := addressPattern ["txn_"] s

/-- `/^[A-Za-z0-9._:-]{1,100}$/` -/
def requestIdPattern (s : JsString) : Bool :=
  1 ≤ s.length && s.length ≤ 100 && s.all fun c => isAlphanumeric c || c ∈ js "._:-"

/-! Prices. -/

/-- What a property access on `PRICES` can find: a price, or what every object inherits. -/
inductive Price
  | credits (n : ℕ)
  | method (name : String)
  | prototype
deriving DecidableEq

def PRICES : List (JsString × Price) :=
  [(js "trust_snapshot", .credits 4), (js "verify_delivery", .credits 7),
    (js "best_execution", .credits 10)]

def objectPrototype : List (JsString × Price) :=
  (["hasOwnProperty", "isPrototypeOf", "propertyIsEnumerable", "toLocaleString", "toString",
      "valueOf", "__defineGetter__", "__defineSetter__", "__lookupGetter__", "__lookupSetter__"].map
    fun name => (js name, .method name)) ++
  [(js "constructor", .method "Object"), (js "__proto__", .prototype)]

/-- `PRICES[service]`; `service in PRICES` when there is one. -/
def priceOf (service : JsString) : Option Price := (PRICES ++ objectPrototype).lookup service

/-! Parsing. -/

structure SharedNetMessage where
  id : JsString
  content : Text
  memberId : Option JsString

structure ParsedRequest where
  senderSeat : JsString
  sourceMessageId : JsString
  requestId : JsString
  service : JsString
  price : Price
  input : JsObject
  paymentTxnId : Option JsString
  senderSeat_seat : sharednetSeatPattern senderSeat
  requestId_pattern : requestIdPattern requestId
  service_priced : priceOf service = some price
  input_keys : DistinctKeys (.obj input)

/-! A buyer's seat and an order, for runs on fixed inputs. -/

theorem seatPattern_buyer : sharednetSeatPattern (js "i_AAAAAAAAAA") := by decide

theorem requestIdPattern_order : requestIdPattern (js "order-1") := by decide

theorem priceOf_trustSnapshot : priceOf (js "trust_snapshot") = some (.credits 4) := by decide

theorem distinctKeys_property {object : JsObject} {key : String} {j : JsJson}
    (h : DistinctKeys (.obj object)) (hj : property key object = some j) : DistinctKeys j := by
  cases h with
  | obj _ _ hfields =>
    obtain ⟨before, after, rfl, -⟩ := List.lookup_eq_some_iff.1 hj
    exact hfields (js key, j) (by simp)

def isText (s : String) : Option JsJson → Bool
  | some (.str t) => t == js s
  | _ => false

/-- A `payment_txn_id` may be missing; one that is there has to be a string. -/
def paymentProperty (object : JsObject) : Option (Option JsString) :=
  match property "payment_txn_id" object with
  | none => some none
  | some (.str payment) => some (some payment)
  | some _ => none

def parseRequest (message : SharedNetMessage) : Option ParsedRequest :=
  match message.memberId, hparsed : parseJson message.content with
  | some senderSeat, some (.obj object) =>
    if hseat : sharednetSeatPattern senderSeat then
      if isText "counterparty.service.request.v1" (property "type" object) then
        match property "request_id" object, property "service" object,
          hinput : property "input" object, paymentProperty object with
        | some (.str requestId), some (.str service), some (.obj input), some payment =>
          if hid : requestIdPattern requestId then
            match hprice : priceOf service with
            | some price => some
              { senderSeat := senderSeat
                sourceMessageId := message.id
                requestId := requestId
                service := service
                price := price
                input := input
                paymentTxnId := payment
                senderSeat_seat := hseat
                requestId_pattern := hid
                service_priced := hprice
                input_keys := distinctKeys_property (distinctKeys_parse hparsed) hinput }
            | none => none
          else none
        | _, _, _, _ => none
      else none
    else none
  | _, _ => none

/-- Why a request is turned down before it is paid for. -/
def validateInput (parsed : ParsedRequest) : Option String :=
  if parsed.service = js "trust_snapshot" then
    match property "service_id" parsed.input with
    | some (.str serviceId) =>
      if sharednetSeatPattern serviceId then none
      else some "trust_snapshot input.service_id must be the seller's exact SharedNet i_ seat address"
    | _ => some "trust_snapshot input.service_id must be the seller's exact SharedNet i_ seat address"
  else if parsed.service = js "verify_delivery" then
    match property "delivery_id" parsed.input with
    | some (.str deliveryId) =>
      if deliveryId.length < 1 ∨ deliveryId.length > 200 then
        some "verify_delivery input.delivery_id must be a non-empty immutable delivery id"
      else none
    | _ => some "verify_delivery input.delivery_id must be a non-empty immutable delivery id"
  else if parsed.service = js "best_execution" then
    match property "candidates" parsed.input with
    | some (.arr candidates) =>
      if candidates.length < 1 ∨ candidates.length > 32 then
        some "best_execution requires 1-32 candidate services"
      else none
    | _ => some "best_execution requires 1-32 candidate services"
  else none

/-! Fingerprints. -/

def fingerprintMaterial (parsed : ParsedRequest) : JsJson :=
  .obj
    [(js "sender", .str parsed.senderSeat), (js "request_id", .str parsed.requestId),
      (js "service", .str parsed.service), (js "input", .obj parsed.input)]

def requestFingerprint (sha256 : Text → Text) (parsed : ParsedRequest) : Text :=
  sha256 (canonical (fingerprintMaterial parsed))

/-- The same seat asks for the same service under the same id. -/
structure SameOrder (p p' : ParsedRequest) : Prop where
  senderSeat_eq : p.senderSeat = p'.senderSeat
  requestId_eq : p.requestId = p'.requestId
  service_eq : p.service = p'.service

theorem SameOrder.price_eq {p p' : ParsedRequest} (h : SameOrder p p') : p.price = p'.price := by
  have hprice := p.service_priced
  rw [h.service_eq, p'.service_priced] at hprice
  exact (Option.some.inj hprice).symm

theorem distinctKeys_material (p : ParsedRequest) : DistinctKeys (fingerprintMaterial p) := by
  refine .obj ?_ (fun _ _ => trivial) ?_
  · simp only [List.map_cons, List.map_nil]
    decide
  · simp [Readable.str, p.input_keys]

theorem written_material (p : ParsedRequest) : written (fingerprintMaterial p) =
    .obj [(js "sender", .str p.senderSeat), (js "request_id", .str p.requestId),
      (js "service", .str p.service), (js "input", written (.obj p.input))] := by
  rw [written, fingerprintMaterial, bindNum_obj]
  rfl

/-- Requests with one fingerprint are the same order, with inputs that are written the same. -/
theorem fingerprint_eq_iff {sha256 : Text → Text} (hsha : Function.Injective sha256)
    (p p' : ParsedRequest) : requestFingerprint sha256 p = requestFingerprint sha256 p' ↔
      SameOrder p p' ∧ SameWritten (.obj p.input) (.obj p'.input) := by
  rw [requestFingerprint, requestFingerprint, hsha.eq_iff,
    canonical_eq_iff (distinctKeys_material p) (distinctKeys_material p'), SameWritten,
    written_material, written_material, SameWritten]
  constructor
  · intro h
    have hkeys : [js "sender", js "request_id", js "service", js "input"].Nodup := by decide
    have hseat : sortKeys (.str p.senderSeat : JsJson) = sortKeys (.str p'.senderSeat) :=
      sortKeys_eq_of_obj h hkeys (k := js "sender") (by simp) (by simp)
    have hid : sortKeys (.str p.requestId : JsJson) = sortKeys (.str p'.requestId) :=
      sortKeys_eq_of_obj h hkeys (k := js "request_id") (by simp) (by simp)
    have hservice : sortKeys (.str p.service : JsJson) = sortKeys (.str p'.service) :=
      sortKeys_eq_of_obj h hkeys (k := js "service") (by simp) (by simp)
    have hinput : sortKeys (written (.obj p.input)) = sortKeys (written (.obj p'.input)) :=
      sortKeys_eq_of_obj h hkeys (k := js "input") (by simp) (by simp)
    exact ⟨⟨str.inj hseat, str.inj hid, str.inj hservice⟩, hinput⟩
  · rintro ⟨⟨hseat, hid, hservice⟩, hinput⟩
    rw [sortKeys_obj, sortKeys_obj, ← sortFields_map, ← sortFields_map]
    simp only [List.map_cons, List.map_nil, hseat, hid, hservice, hinput]

end Counterparty.Arena
