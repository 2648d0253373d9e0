import Counterparty.ObservationModel

/-! The model that the body for a delivery has to fit. -/
namespace Counterparty

open Json

def MAX_CITATIONS : ℕ := 32

/-! What a field takes. -/

/-- `| None` -/
def orNone (takes : PyJson → Bool) : PyJson → Bool
  | .null => true
  | j => takes j

/-- `dict[str, Any]` -/
def isDict : PyJson → Bool
  | .obj entries => entries.all fun e => decide (Scalar e.1)
  | _ => false

/-- One of the literals, or one of the values of an enumeration. -/
def isOneOf (values : List String) : PyJson → Bool
  | .str s => (values.map PyStr.ofString).contains s
  | _ => false

/-- A list with no more items than that. -/
def isListOf (takes : PyJson → Bool) (maxLength : ℕ) : PyJson → Bool
  | .arr items => items.all takes && decide (items.length ≤ maxLength)
  | _ => false

/-- `HttpUrl`; which strings it takes is up to pydantic. -/
def isHttpUrl (url : PyStr → Bool) : PyJson → Bool
  | .str s => url s
  | _ => false

/-! The models. -/

def Assertion.fields : List (Member PyStr PyNumber) :=
  [⟨.ofString "path", true, isStr 1 500⟩,
    ⟨.ofString "op", true, isOneOf ["eq", "ne", "contains", "gte", "lte", "exists"]⟩,
    ⟨.ofString "value", false, fun _ => true⟩]

section Delivery

variable (isPrintable : CodePoint → Bool) (texts : NumberTexts) (url : PyStr → Bool)

def IndependentCheck.fields : List (Member PyStr PyNumber) :=
  [⟨.ofString "probe", true, isStr 1 100⟩,
    ⟨.ofString "state", true, isOneOf ["PASS", "FAIL", "INCONCLUSIVE"]⟩,
    ⟨.ofString "score", false, orNone (isUnit texts)⟩, ⟨.ofString "reason", true, isStr 1 2000⟩,
    ⟨.ofString "evidence", false, isDict⟩]

def DeliveryVerificationRequest.fields : List (Member PyStr PyNumber) :=
  [⟨.ofString "delivery_id", true, isStr 1 200⟩, ⟨.ofString "provider_id", true, isStr 1 200⟩,
    ⟨.ofString "task", true, isStr 1 MAX_TASK_CHARS⟩, ⟨.ofString "task_type", false, isStr 1 100⟩,
    ⟨.ofString "output", true, isBounded isPrintable⟩,
    ⟨.ofString "expected_schema", false, orNone isDict⟩,
    ⟨.ofString "assertions", false, isListOf (fits Assertion.fields) 64⟩,
    ⟨.ofString "cited_urls", false, isListOf (isHttpUrl url) MAX_CITATIONS⟩,
    ⟨.ofString "independent_checks", false, isListOf (fits (IndependentCheck.fields texts)) 16⟩]

def DeliveryVerificationRequest.accepts (body : PyJson) : Bool :=
  fits (DeliveryVerificationRequest.fields isPrintable texts url) body

end Delivery

end Counterparty
