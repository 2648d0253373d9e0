import Mathlib.Data.List.DropRight
import Counterparty.Library.Translation
import Counterparty.PyValue

/-! The models that the bodies for a trust snapshot and for best execution have to fit. -/
namespace Counterparty

open Json

def MAX_TASK_CHARS : ℕ := 12000

def MAX_CANDIDATES : ℕ := 32

/-! What a field takes. -/

/-- Texts that lax validation takes for numbers; which ones is up to pydantic. -/
structure NumberTexts where
  int : PyStr → Option ℤ
  /-- Taken for a float that `ge=0, le=1` lets pass. -/
  unit : PyStr → Bool

/-- Unicode's `White_Space`. -/
def isWhitespace (c : CodePoint) : Bool :=
  (9 ≤ c.val && c.val ≤ 13) || c.val == 0x20 || c.val == 0x85 || c.val == 0xA0 || c.val == 0x1680 ||
    (0x2000 ≤ c.val && c.val ≤ 0x200A) || c.val == 0x2028 || c.val == 0x2029 || c.val == 0x202F ||
    c.val == 0x205F || c.val == 0x3000

/-- `str_strip_whitespace` -/
def stripped (s : PyStr) : PyStr := (s.dropWhile isWhitespace).rdropWhile isWhitespace

/-- A string without surrogates, stripped before its length is taken. -/
def isStr (minLength maxLength : ℕ) : PyJson → Bool
  | .str s =>
    decide (Scalar s) && (minLength ≤ (stripped s).length && (stripped s).length ≤ maxLength)
  | _ => false

/-- A float without a fraction is an integer. -/
def PyNumber.int? : PyNumber → Option ℤ
  | .int z => some z
  | .float (.finite neg mag) => if mag.1.den = 1 then some (signed neg mag.1.num.natAbs) else none
  | .float _ => none

/-- Lax validation of an `int`. -/
def laxInt (texts : NumberTexts) : PyJson → Option ℤ
  | .bool b => some (if b then 1 else 0)
  | .num x => x.int?
  | .str s => texts.int s
  | _ => none

def isInt (texts : NumberTexts) (bounds : ℤ → Bool) (j : PyJson) : Bool :=
  (laxInt texts j).any bounds

/-- `Field(ge=0, le=1)` of a `float`, which a NaN does not pass. -/
def isUnit (texts : NumberTexts) : PyJson → Bool
  | .bool _ => true
  | .num x => !isNaN (.num x) && (!x.lt (.int 0) && !PyNumber.lt (.int 1) x)
  | .str s => texts.unit s
  | _ => false

theorem lt_of_value {x y : PyNumber} {v w : ℚ} (hx : x.value = some (v : WithTop ℚ))
    (hy : y.value = some (w : WithTop ℚ)) : x.lt y = decide (v < w) := by
  have hcoe : ((v : WithTop ℚ) : WithBot (WithTop ℚ)) < (w : WithTop ℚ) ↔ v < w := by
    rw [WithBot.coe_lt_coe, WithTop.coe_lt_coe]
  rw [PyNumber.lt, hx, hy]
  exact decide_eq_decide.2 hcoe

theorem isUnit_num_iff {texts : NumberTexts} {x : PyNumber} {v : ℚ}
    (hx : x.value = some (v : WithTop ℚ)) : isUnit texts (.num x) ↔ 0 ≤ v ∧ v ≤ 1 := by
  have hzero : (PyNumber.int 0).value = some ((0 : ℚ) : WithTop ℚ) := rfl
  have hone : (PyNumber.int 1).value = some ((1 : ℚ) : WithTop ℚ) := by simp [PyNumber.value]
  have hnumber : isNaN (.num x) = false := by
    unfold isNaN
    split
    · rename_i hnan
      rw [num.inj hnan] at hx
      cases hx
    · rfl
  rw [isUnit, hnumber, lt_of_value hx hzero, lt_of_value hone hx]
  simp

/-! The models. -/

def TrustSnapshotRequest.fields : List (Member PyStr PyNumber) :=
  [⟨.ofString "service_id", true, isStr 1 200⟩, ⟨.ofString "task_type", false, isStr 1 100⟩]

def TrustSnapshotRequest.accepts (body : PyJson) : Bool := fits TrustSnapshotRequest.fields body

section BestExecution

variable (texts : NumberTexts)

def CandidateRequest.fields : List (Member PyStr PyNumber) :=
  [⟨.ofString "service_id", true, isStr 1 200⟩,
    ⟨.ofString "price_credits", true, isInt texts fun z => 0 ≤ z && z ≤ 100⟩,
    ⟨.ofString "task_fit", false, isUnit texts⟩,
    ⟨.ofString "latency_ms", false, isLatency⟩]
where
  /-- `int | None` -/
  isLatency : PyJson → Bool
    | .null => true
    | j => isInt texts (fun z => 0 ≤ z && z ≤ 300000) j

/-- `list[CandidateRequest]` -/
def isCandidates : PyJson → Bool
  | .arr items =>
    items.all (fits (CandidateRequest.fields texts)) &&
      (1 ≤ items.length && items.length ≤ MAX_CANDIDATES)
  | _ => false

/-- `Literal["safe", "explore"]` -/
def isMode : PyJson → Bool
  | .str s => s == .ofString "safe" || s == .ofString "explore"
  | _ => false

def BestExecutionRequest.fields : List (Member PyStr PyNumber) :=
  [⟨.ofString "task", true, isStr 1 MAX_TASK_CHARS⟩, ⟨.ofString "task_type", false, isStr 1 100⟩,
    ⟨.ofString "budget_credits", true, isInt texts fun z => 0 < z && z ≤ 100⟩,
    ⟨.ofString "candidates", true, isCandidates texts⟩, ⟨.ofString "mode", false, isMode⟩]

/-- `candidate.service_id` -/
def serviceIdOf : PyJson → Option PyStr
  | .obj entries =>
    match entries.lookup (.ofString "service_id") with
    | some (.str s) => some (stripped s)
    | _ => none
  | _ => none

/-- `len(ids) == len(set(ids))`, which is asked of a body that fits. -/
def candidatesUnique : PyJson → Bool
  | .obj entries =>
    match entries.lookup (.ofString "candidates") with
    | some (.arr items) => decide (items.map serviceIdOf).Nodup
    | _ => false
  | _ => false

def BestExecutionRequest.accepts (body : PyJson) : Bool :=
  fits (BestExecutionRequest.fields texts) body && candidatesUnique body

end BestExecution

end Counterparty
