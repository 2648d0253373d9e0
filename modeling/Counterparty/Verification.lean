import Mathlib.Data.List.Count
import Counterparty.PyValue
import Counterparty.Storage

/-! The probes a delivery is verified with, and the verdict they add up to. -/
namespace Counterparty

open Json Rounding

inductive EvidenceState
  | pass
  | fail
  | inconclusive
deriving DecidableEq

def EvidenceState.value : EvidenceState → String
  | .pass => "PASS"
  | .fail => "FAIL"
  | .inconclusive => "INCONCLUSIVE"

structure ProbeResult where
  probe : String
  state : EvidenceState
  score : Option ℚ := none
  reason : String
  evidence : PyDict := []

/-! JSON Schema, from the `jsonschema` package. -/

inductive PathPart
  | key (k : PyStr)
  | index (i : ℕ)
deriving DecidableEq

/-- How the paths of errors compare: at one place a document has only keys or only indices. -/
def PathPart.Le : PathPart → PathPart → Prop
  | .key k, .key k' => k ≤ k'
  | .index i, .index i' => i ≤ i'
  | .key _, .index _ => True
  | .index _, .key _ => False

instance : DecidableRel PathPart.Le := fun p q => by
  cases p <;> cases q <;> simp only [PathPart.Le] <;> infer_instance

def pathLe : List PathPart → List PathPart → Bool
  | [], _ => true
  | _ :: _, [] => false
  | p :: ps, q :: qs => if p = q then pathLe ps qs else p.Le q

def PathPart.text : PathPart → PyStr
  | .key k => k
  | .index i => PyStr.ofString (toString i)

structure SchemaViolation where
  absolutePath : List PathPart
  message : PyStr

/-- What the verifier uses of `Draft202012Validator`: it decides validity and satisfaction. -/
structure JsonSchema where
  Valid : PyDict → Prop
  Satisfies : PyDict → PyJson → Prop
  /-- The message of the `SchemaError` that `check_schema` raises, if it does. -/
  checkSchema : PyDict → Option PyStr
  iterErrors : PyDict → PyJson → List SchemaViolation
  checkSchema_eq_none : ∀ schema, checkSchema schema = none ↔ Valid schema
  iterErrors_eq_nil : ∀ schema output, Valid schema →
    (iterErrors schema output = [] ↔ Satisfies schema output)

/-- The `type` keyword, for objects: a validator for runs on fixed inputs. -/
def typeHolds (schema : PyDict) (output : PyJson) : Bool :=
  match output, schema.lookup (PyStr.ofString "type") with
  | .obj _, _ => true
  | _, some (.str t) => t ≠ PyStr.ofString "object"
  | _, _ => true

/-- A check that raises for no schema. -/
theorem JsonSchema.checks_any (_ : PyDict) : (none : Option PyStr) = none ↔ True := by
  simp

def JsonSchema.sample : JsonSchema where
  Valid _ := True
  Satisfies schema output := typeHolds schema output = true
  checkSchema _ := none
  iterErrors schema output :=
    if typeHolds schema output then []
    else [⟨[], PyStr.ofString "is not of type 'object'"⟩]
  checkSchema_eq_none := JsonSchema.checks_any
  iterErrors_eq_nil := by simp

def slash : PyStr := PyStr.ofString "/"

def SchemaViolation.sample (e : SchemaViolation) : PyJson :=
  .obj (dict
    [("path", .str (slash ++ slash.intercalate (e.absolutePath.map PathPart.text))),
      ("message", .str (e.message.take 500))])

def schemaProbe (J : JsonSchema) (output : PyJson) (schema : Option PyDict) : ProbeResult :=
  match schema with
  | none | some [] =>
    { probe := "schema", state := .inconclusive, reason := "No expected schema supplied" }
  | some schema =>
    match J.checkSchema schema with
    | some message =>
      { probe := "schema", state := .inconclusive, reason := "Expected schema is invalid"
        evidence := dict [("schema_error", .str (message.take 500))] }
    | none =>
      let errors := (J.iterErrors schema output).insertionSort fun e e' =>
        pathLe e.absolutePath e'.absolutePath
      if errors ≠ [] then
        let count := errors.length
        { probe := "schema", state := .fail, score := some 0
          reason := s!"Output violates schema ({count} validation error(s))"
          evidence := dict [("errors", .arr ((errors.take 10).map SchemaViolation.sample))] }
      else
        { probe := "schema", state := .pass, score := some 1
          reason := "Output satisfies JSON Schema 2020-12" }

/-! Manipulation markers. -/

def injectionMarkers : List String :=
  ["ignore previous instructions", "reveal system prompt", "bypass safety", "disable safeguards",
    "developer message", "system message", "grant me permission", "override authorization"]

/-- `json.dumps(output, ensure_ascii=False, sort_keys=True)` -/
def dumpsUnicode (output : PyJson) : Text :=
  render
    { itemSpace := [32]
      keySpace := [32]
      stringBody := fun s => s.flatMap (fun c => escape (fun c => 32 ≤ c) c.val) ++ [34]
      number := numberText } output.sortKeys

def markerHits (output : PyJson) : List String :=
  (injectionMarkers.filter fun m => codes m <:+: lower (dumpsUnicode output)).insertionSort (· ≤ ·)

def injectionProbe (output : PyJson) : ProbeResult :=
  if markerHits output ≠ [] then
    { probe := "prompt_manipulation", state := .fail, score := some 0
      reason := "Suspicious instruction-manipulation markers present"
      evidence := dict [("markers", .arr ((markerHits output).map pyText))] }
  else
    { probe := "prompt_manipulation", state := .pass, score := some 1
      reason := "No known prompt-manipulation markers detected" }

/-! Contradictions. -/

def positiveWords : List Text := ["PASS", "APPROVE", "BUY", "SUCCESS"].map codes

def negativeWords : List Text := ["FAIL", "REJECT", "AVOID"].map codes

def field (fields : PyDict) (name : String) : Option PyJson := fields.lookup (PyStr.ofString name)

/-- `str(output.get("verdict", output.get("state", ""))).upper()` -/
def verdictWord (fields : PyDict) : Text :=
  upper (pyStrOf ((field fields "verdict").getD ((field fields "state").getD (.str []))))

/-- `output.get("confidence")`, when it is an `int` or a `float`. -/
def confidenceNumber (fields : PyDict) : Option PyNumber :=
  (field fields "confidence").bind number?

/-- `value in {None, ""}`: what cannot be hashed cannot be looked up. -/
def inNoneOrEmpty (value : Option PyJson) : Except PyError Bool :=
  match value with
  | none | some .null | some (.str []) => .ok true
  | some (.arr _) | some (.obj _) => .error .typeError
  | some _ => .ok false

/-- The float that a decimal literal denotes. -/
def floatLiteral (d : ℕ) (t : ℤ) : PyNumber := .float (FloatFormat.binary64.ofDecimal false d t)

def lowConfidence (fields : PyDict) : Bool :=
  (confidenceNumber fields).any fun x => x.lt (floatLiteral 2 (-1))

def extremeConfidence (fields : PyDict) : Bool :=
  (confidenceNumber fields).any fun x => (floatLiteral 98 (-2)).lt x

def consistent : ProbeResult :=
  { probe := "self_consistency", state := .pass, score := some 1
    reason := "No deterministic contradiction detected" }

def contradictionProbe (output : PyJson) : Except PyError ProbeResult :=
  match output with
  | .obj fields =>
    if verdictWord fields ∈ positiveWords ∧ lowConfidence fields then
      .ok { probe := "self_consistency", state := .fail, score := some 0
            reason := "Positive verdict conflicts with very low confidence" }
    else if verdictWord fields ∈ negativeWords ∧ extremeConfidence fields then do
      if ← inNoneOrEmpty (field fields "reason") then
        return { probe := "self_consistency", state := .fail, score := some 0
                 reason := "Extreme negative certainty has no supporting reason" }
      else return consistent
    else .ok consistent
  | _ => .ok consistent

/-! Assertions. -/

inductive AssertionOp
  | eq
  | ne
  | contains
  | gte
  | lte
  | exists
deriving DecidableEq

def AssertionOp.text : AssertionOp → String
  | .eq => "eq"
  | .ne => "ne"
  | .contains => "contains"
  | .gte => "gte"
  | .lte => "lte"
  | .exists => "exists"

structure Assertion where
  path : String
  op : AssertionOp
  value : PyJson := .null

/-- `s.strip("/")` -/
def stripSlashes (s : PyStr) : PyStr :=
  ((s.dropWhile (· == 47)).reverse.dropWhile (· == 47)).reverse

def pathParts (path : PyStr) : List PyStr :=
  (((stripSlashes path).splitOn 47).filter (· ≠ [])).map fun p =>
    PyStr.replaceTilde 48 126 (PyStr.replaceTilde 49 47 p)

/-- The loop over the parts, from the value reached so far. -/
def walk : PyJson → List PyStr → Except PyError (Option PyJson)
  | cur, [] => .ok (some cur)
  | .obj fields, part :: parts =>
    match fields.lookup part with
    | some next => walk next parts
    | none => .ok none
  | .arr items, part :: parts =>
    if part.isDigit then do
      match items[← part.int]? with
      | some next => walk next parts
      | none => .ok none
    else .ok none
  | _, _ :: _ => .ok none

def resolvePath (doc : PyJson) (path : PyStr) : Except PyError (Option PyJson) :=
  if path = [] ∨ path = slash then .ok (some doc) else walk doc (pathParts path)

/-- Whether an assertion holds of what its path resolved to; a `TypeError` of an operator is caught
and counts as false. -/
def Assertion.check (a : Assertion) (actual : Option PyJson) : Bool :=
  match a.op, actual with
  | .exists, actual => actual.isSome
  | _, none => false
  | .eq, some actual => pyEq actual a.value
  | .ne, some actual => !pyEq actual a.value
  | .contains, some actual => (pyIn a.value actual).getD false
  | .gte, some actual => (pyOrder .gte actual a.value).getD false
  | .lte, some actual => (pyOrder .lte actual a.value).getD false

def Assertion.failure (a : Assertion) (actual : Option PyJson) : PyJson :=
  .obj (dict
    [("path", pyText a.path), ("op", pyText a.op.text), ("expected", a.value),
      ("actual", actual.getD (pyText "<missing>"))])

/-- The loop over the assertions: the failures, in order. -/
def assertionFailures (output : PyJson) : List Assertion → Except PyError (List PyJson)
  | [] => .ok []
  | a :: assertions => do
    let actual ← resolvePath output (PyStr.ofString a.path)
    let failures ← assertionFailures output assertions
    return if a.check actual then failures else a.failure actual :: failures

def assertionsProbe (output : PyJson) (assertions : List Assertion) : Except PyError ProbeResult :=
  if assertions = [] then
    .ok { probe := "assertions", state := .inconclusive
          reason := "No deterministic assertions supplied" }
  else do
    let failures ← assertionFailures output assertions
    let failed := failures.length
    let total := assertions.length
    if failures ≠ [] then
      return { probe := "assertions", state := .fail, score := some (max 0 (1 - failed / total))
               reason := s!"{failed}/{total} deterministic assertion(s) failed"
               evidence := dict [("failures", .arr (failures.take 10))] }
    else
      return { probe := "assertions", state := .pass, score := some 1
               reason := s!"All {total} deterministic assertion(s) passed" }

/-! Citations. -/

structure HttpUrl where
  url : String
  host : Option String

def citationsProbe (urls : List HttpUrl) : ProbeResult :=
  if urls = [] then
    { probe := "citations", state := .inconclusive, reason := "No citations supplied" }
  else
    let hosts := (urls.map fun u => u.host.getD "").dedup.insertionSort (· ≤ ·)
    { probe := "citations", state := .inconclusive
      reason := "Citation URLs were supplied but have not yet been independently fetched by the SharedOS probe agent"
      evidence := dict
        [("count", pyInt urls.length), ("hosts", .arr ((hosts.take 20).map pyText))] }

/-! The verdict. -/

/-- Missing evidence never becomes PASS. -/
def aggregateState (probes : List ProbeResult) : EvidenceState :=
  if probes.any fun p => p.state = .fail then .fail
  else if probes.any fun p => p.state = .inconclusive then .inconclusive
  else .pass

def aggregate (probes : List ProbeResult) : EvidenceState × ℚ × ℚ :=
  let state := aggregateState probes
  let scored := probes.filterMap ProbeResult.score
  let score : ℚ := if scored = [] then 0 else scored.sum / scored.length
  let coverage : ℚ := if probes = [] then 0 else scored.length / probes.length
  let confidence :=
    match state with
    | .pass => min score coverage
    | .fail => coverage
    | .inconclusive => coverage * 0.5
  (state, roundDigits 4 score, roundDigits 4 confidence)

end Counterparty
