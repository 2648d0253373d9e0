import Counterparty.Library.JsonOrder
import Counterparty.Arena.Request

/-! The canonical text as it is put together from the texts of the parts, and what it identifies. -/
namespace Counterparty.Arena

open Json

mutual

/-- `canonical(value)` -/
def canonicalValue : JsJson → Text
  | .arr items => 91 :: ([44].intercalate (canonicalItems items) ++ [93])
  | .obj fields =>
    123 :: ([44].intercalate ((sortFields (canonicalFields fields)).map fun f =>
      stringify (.str f.1) ++ 58 :: f.2) ++ [125])
  | value => stringify value

def canonicalItems : List JsJson → List Text
  | [] => []
  | item :: items => canonicalValue item :: canonicalItems items

def canonicalFields : JsObject → List (JsString × Text)
  | [] => []
  | (key, value) :: fields => (key, canonicalValue value) :: canonicalFields fields

end

theorem canonicalItems_eq_map (items : List JsJson) :
    canonicalItems items = items.map canonicalValue := by
  induction items with
  | nil => rfl
  | cons item items ih => simp [canonicalItems, ih]

theorem canonicalFields_eq_map (fields : JsObject) :
    canonicalFields fields = fields.map fun f => (f.1, canonicalValue f.2) := by
  induction fields with
  | nil => rfl
  | cons f fields ih => simp [canonicalFields, ih]

theorem renderItems_jsStyle (items : List JsJson) :
    renderItems jsStyle items = items.map stringify := by
  induction items with
  | nil => rfl
  | cons item items ih => simp [renderItems, stringify, ih]

theorem renderFields_jsStyle (fields : JsObject) : renderFields jsStyle fields =
    fields.map fun f => stringify (.str f.1) ++ 58 :: stringify f.2 := by
  induction fields with
  | nil => rfl
  | cons f fields ih =>
    obtain ⟨key, value⟩ := f
    rw [renderFields, ih, List.map_cons, stringify, stringify, render, List.cons_append]
    rfl

/-- What is put together part by part is the text of the value with its keys sorted. -/
theorem canonicalValue_eq (j : JsJson) : canonicalValue j = canonical j := by
  induction j using Json.induction with
  | null | bool b | num x | str s => rfl
  | arr items ih =>
    have hitems : items.map canonicalValue = (items.map sortKeys).map stringify := by
      rw [List.map_map]
      exact List.map_congr_left ih
    rw [canonical, sortKeys_arr, stringify, render, renderItems_jsStyle, canonicalValue,
      canonicalItems_eq_map, hitems]
    rfl
  | obj fields ih =>
    have hfields : (sortFields (canonicalFields fields)).map (fun f =>
          stringify (.str f.1) ++ 58 :: f.2) =
        ((sortFields fields).map fun f => (f.1, sortKeys f.2)).map fun f =>
          stringify (.str f.1) ++ 58 :: stringify f.2 := by
      rw [canonicalFields_eq_map, sortFields_map, List.map_map, List.map_map]
      refine List.map_congr_left fun f hf => ?_
      simp [ih f ((perm_sortFields fields).mem_iff.1 hf), canonical]
    rw [canonical, sortKeys_obj, stringify, render, renderFields_jsStyle, canonicalValue, hfields]
    rfl

/-- A value of the language: its objects have each of their properties once. -/
structure JsValue where
  json : JsJson
  distinct : DistinctKeys json

/-- The value with `0` for `-0`. -/
def unsigned (j : JsJson) : JsJson := j.bindNum fun x => .num (unsignedZero x)

theorem distinctKeys_written {j : JsJson} (h : DistinctKeys j) : DistinctKeys (written j) :=
  (h.bindNum fun x _ => readable_writtenNumber x).imp (fun _ h => h) fun _ _ => trivial

/-- Canonical texts identify values as they are written, up to the order of keys. -/
theorem canonicalValue_eq_iff {j j' : JsJson} (h : DistinctKeys j) (h' : DistinctKeys j') :
    canonicalValue j = canonicalValue j' ↔ SameUpToOrder (written j) (written j') := by
  rw [canonicalValue_eq, canonicalValue_eq, canonical_eq_iff h h', SameWritten,
    sameUpToOrder_iff (distinctKeys_written h) (distinctKeys_written h')]

theorem sameUpToOrder_written_iff {j j' : JsJson} (h : FiniteNumbers j) (h' : FiniteNumbers j') :
    SameUpToOrder (written j) (written j') ↔ SameUpToOrder (unsigned j) (unsigned j') := by
  rw [written_eq h, written_eq h']
  rfl

/-- Canonical texts identify values as they are written, so values with finite numbers up to the sign
of zero; fingerprints identify the sender, the id, the service and the input. -/
theorem fingerprint_identifies {sha256 : Text → Text} (hsha : Function.Injective sha256) :
    (∀ v v' : JsValue, canonicalValue v.json = canonicalValue v'.json ↔
      SameUpToOrder (written v.json) (written v'.json)) ∧
    (∀ v v' : JsValue, FiniteNumbers v.json → FiniteNumbers v'.json →
      (canonicalValue v.json = canonicalValue v'.json ↔
        SameUpToOrder (unsigned v.json) (unsigned v'.json))) ∧
    ∀ p p' : ParsedRequest, requestFingerprint sha256 p = requestFingerprint sha256 p' ↔
      p.senderSeat = p'.senderSeat ∧ p.requestId = p'.requestId ∧ p.service = p'.service ∧
        SameUpToOrder (written (.obj p.input)) (written (.obj p'.input)) := by
  refine ⟨fun v v' => canonicalValue_eq_iff v.distinct v'.distinct, ?_, ?_⟩
  · intro v v' h h'
    exact (canonicalValue_eq_iff v.distinct v'.distinct).trans (sameUpToOrder_written_iff h h')
  · intro p p'
    have hinput := sameUpToOrder_iff (distinctKeys_written p.input_keys)
      (distinctKeys_written p'.input_keys)
    rw [fingerprint_eq_iff hsha, SameWritten, ← hinput]
    constructor
    · rintro ⟨⟨hseat, hid, hservice⟩, hsame⟩
      exact ⟨hseat, hid, hservice, hsame⟩
    · rintro ⟨hseat, hid, hservice, hsame⟩
      exact ⟨⟨hseat, hid, hservice⟩, hsame⟩

def listed : JsValue where
  json := .obj [(js "a", .null), (js "b", .bool true)]
  distinct := .obj (by simp only [List.map_cons, List.map_nil]; decide) (fun _ _ => trivial)
    (by simp [Readable.null, Readable.bool])

def relisted : JsValue where
  json := .obj [(js "b", .bool true), (js "a", .null)]
  distinct := .obj (by simp only [List.map_cons, List.map_nil]; decide) (fun _ _ => trivial)
    (by simp [Readable.null, Readable.bool])

theorem fingerprint_identifies_relisted : canonicalValue listed.json = canonicalValue relisted.json ∧
    SameUpToOrder (written listed.json) (written relisted.json) := by
  have htext : canonicalValue listed.json = canonicalValue relisted.json := by decide +kernel
  exact ⟨htext, ((fingerprint_identifies Function.injective_id).1 listed relisted).1 htext⟩

theorem parseJson_infinite : parseJson (codes "1e999") = some (.num (.infinity false)) := by
  have hread : readJsNumber (codes "1e999") = some (.infinity false) := by decide +kernel
  exact congrArg (Option.map Json.num) hread

/-- A number beyond the format is told apart from null, but not by its canonical text. -/
theorem canonical_infinite : ¬∀ (t t' : Text) (j j' : JsJson), parseJson t = some j →
    parseJson t' = some j' →
    (canonicalValue j = canonicalValue j' ↔ SameUpToOrder (unsigned j) (unsigned j')) := by
  intro h
  have hsame := (h (codes "1e999") (codes "null") _ _ parseJson_infinite rfl).1 rfl
  cases hsame

end Counterparty.Arena
