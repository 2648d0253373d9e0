import Counterparty.Delivery
import Counterparty.RequestModel

/-! The model that the body for a canary has to fit, and the request that is read from it. -/
namespace Counterparty

open Json

def MAX_OUTPUT_CHARS : ℕ := 120000

/-! `repr` -/

/-- The hexadecimal digits of a number, so many of them. -/
def hexText : ℕ → ℕ → Text
  | 0, _ => []
  | width + 1, n => hexText width (n / 16) ++ [hexDigit (n % 16)]

section Repr

-- `str.isprintable` beyond ASCII goes by the Unicode data of the interpreter
variable (isPrintable : CodePoint → Bool)

/-- A code point as it stands between the quotes. -/
def reprPoint (quote : ℕ) (c : CodePoint) : Text :=
  if c.val = quote ∨ c.val = 92 then [92, c.val]
  else if c.val = 9 then [92, 116]
  else if c.val = 10 then [92, 110]
  else if c.val = 13 then [92, 114]
  else if c.val < 32 ∨ c.val = 127 then [92, 120] ++ hexText 2 c.val
  else if c.val < 127 ∨ isPrintable c then [c.val]
  else if c.val < 0x100 then [92, 120] ++ hexText 2 c.val
  else if c.val < 0x10000 then [92, 117] ++ hexText 4 c.val
  else [92, 85] ++ hexText 8 c.val

/-- Single quotes, unless there are such quotes in the string and no double ones. -/
def reprStr (s : PyStr) : Text :=
  let quote := if s.text.contains 39 && !s.text.contains 34 then 34 else 39
  quote :: s.flatMap (reprPoint isPrintable quote) ++ [quote]

mutual

def pyRepr : PyJson → Text
  | .str s => reprStr isPrintable s
  | .arr items => 91 :: reprItems items ++ [93]
  | .obj fields => 123 :: reprFields fields ++ [125]
  | j => pyStrOf j

def reprItems : List PyJson → Text
  | [] => []
  | [x] => pyRepr x
  | x :: y :: items => pyRepr x ++ codes ", " ++ reprItems (y :: items)

def reprFields : PyDict → Text
  | [] => []
  | [(k, v)] => reprStr isPrintable k ++ codes ": " ++ pyRepr v
  | (k, v) :: field :: fields =>
    reprStr isPrintable k ++ codes ": " ++ pyRepr v ++ codes ", " ++ reprFields (field :: fields)

end

example : pyRepr (fun _ => true) (.arr [.str (.ofString "it's"), .bool true, .obj []]) =
    codes "[\"it's\", True, \x7b\x7d]" := by decide

/-- `output_must_be_bounded` -/
def isBounded (output : PyJson) : Bool := (pyRepr isPrintable output).length ≤ MAX_OUTPUT_CHARS

/-! The model. -/

variable (texts : NumberTexts)

def ProbeObservationRequest.fields : List (Member PyStr PyNumber) :=
  [⟨.ofString "probe_id", true, isStr 1 200⟩, ⟨.ofString "provider_id", true, isStr 1 200⟩,
    ⟨.ofString "nonce", true, isStr 8 200⟩, ⟨.ofString "output", true, isBounded isPrintable⟩,
    ⟨.ofString "latency_ms", true, isInt texts fun z => 0 ≤ z && z ≤ 300000⟩]

/-- Code points that are characters, as a string. -/
def PyStr.string (s : PyStr) : String := String.ofList (s.map fun c => Char.ofNat c.val)

def validatedStr : PyJson → Option String
  | .str s => some (stripped s).string
  | _ => none

/-- What the endpoint gets for a body. -/
def ProbeObservationRequest.read : PyJson → Option ProbeObservationRequest
  | .obj entries => do
    guard (fits (ProbeObservationRequest.fields isPrintable texts) (.obj entries))
    let probeId ← (field entries "probe_id").bind validatedStr
    let providerId ← (field entries "provider_id").bind validatedStr
    let nonce ← (field entries "nonce").bind validatedStr
    let output ← field entries "output"
    let latencyMs ← (field entries "latency_ms").bind (laxInt texts)
    return ⟨probeId, providerId, nonce, output, latencyMs.toNat⟩
  | _ => none

end Repr

/-! What is read. -/

theorem ofString_string {s : PyStr} (h : Scalar s) : PyStr.ofString s.string = s := by
  have hchar : ∀ c ∈ s, (⟨(Char.ofNat c.val).toNat, toNat_lt _⟩ : CodePoint) = c := by
    intro c hc
    obtain ⟨hhigh, hlow⟩ := h c hc
    have hlt := c.isLt
    simp only [isHighSurrogate, isLowSurrogate, Bool.and_eq_false_iff, decide_eq_false_iff_not] at hhigh hlow
    have hvalid : c.val.isValidChar := by
      simp only [Nat.isValidChar]
      omega
    apply Fin.ext
    change (Char.ofNat c.val).toNat = c.val
    rw [Char.ofNat, dif_pos hvalid]
    rfl
  rw [PyStr.ofString, PyStr.string, String.toList_ofList, List.map_map]
  exact (List.map_congr_left hchar).trans (List.map_id' s)

theorem fits_of_read {isPrintable : CodePoint → Bool} {texts : NumberTexts} {body : PyJson}
    {req : ProbeObservationRequest}
    (h : ProbeObservationRequest.read isPrintable texts body = some req) :
    fits (ProbeObservationRequest.fields isPrintable texts) body := by
  cases body with
  | obj entries =>
    by_contra hfits
    rw [ProbeObservationRequest.read, guard, if_neg hfits] at h
    cases h
  | null | bool _ | num _ | str _ | arr _ => cases h

end Counterparty
