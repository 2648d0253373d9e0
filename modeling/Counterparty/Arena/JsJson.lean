import Counterparty.Library.JsonString
import Counterparty.Library.JsonText

/-! JavaScript's strings and numbers, `JSON.stringify`, `JSON.parse`, and the canonical text that
requests are fingerprinted by. -/
namespace Counterparty.Arena

open Json

abbrev CodeUnit := Fin 0x10000

instance codeUnit_neZero : NeZero 0x10000 := ⟨by decide⟩

/-- A string: any UTF-16 code units, lone surrogates included. -/
abbrev JsString := List CodeUnit

abbrev JsNumber := FloatFormat.binary64.Value

abbrev JsJson := Json JsString JsNumber

/-- A string literal of the source; all of them are ASCII. -/
def js (s : String) : JsString := s.toList.map fun c => Fin.ofNat 0x10000 c.toNat

/-! Numbers. -/

/-- `Number.prototype.toString`: a point for `1e-6 ≤ x < 1e21`, else an exponent. -/
def jsNumeral (neg : Bool) (d : Decimal) : Numeral :=
  if -6 < d.point ∧ d.point ≤ 21 then d.positional neg else d.scientific 1 neg

/-- The sign of zero is not written, and neither are the numbers that are not finite. -/
def numberText : JsNumber → Text
  | .finite neg mag =>
    (jsNumeral (neg && decide (mag.1 ≠ 0)) (FloatFormat.binary64.decimal mag)).text
  | .infinity _ | .nan => codes "null"

def readJsNumber (t : Text) : Option JsNumber :=
  (Numeral.read t).map FloatFormat.binary64.ofNumeral

/-! Strings. -/

/-- A text is made of code points: pairs of surrogates, and every other unit on its own. -/
def points : JsString → List JsString
  | [] => []
  | [u] => [[u]]
  | u :: v :: s =>
    if isHighSurrogate u.val && isLowSurrogate v.val then [u, v] :: points s
    else [u] :: points (v :: s)

def pointText : JsString → Text
  | [u] => escape (fun c => 32 ≤ c && !isHighSurrogate c && !isLowSurrogate c) u.val
  | [u, v] => [0x10000 + (u.val - 0xD800) * 0x400 + (v.val - 0xDC00)]
  | _ => []

def toUnit (c : ℕ) : Option CodeUnit := if h : c < 0x10000 then some ⟨c, h⟩ else none

/-- The units of a code point. -/
def toUnits (c : ℕ) : Option JsString :=
  if c < 0x10000 then (toUnit c).map fun u => [u]
  else do
    let u ← toUnit (0xD800 + (c - 0x10000) / 0x400)
    let v ← toUnit (0xDC00 + (c - 0x10000) % 0x400)
    return [u, v]

def readUnits : Text → Option (JsString × Text)
  | [] => none
  | c :: t =>
    if c = 92 then do
      let (u, t) ← readEscape t
      (toUnit u).map fun u => ([u], t)
    else if c < 32 then none
    else (toUnits c).map fun s => (s, t)

def jsReader : Reader JsString JsNumber where
  readString t := (readBody readUnits (t.length + 1) t).map fun p => (p.1.flatten, p.2)
  readNumber := readJsNumber

def jsStyle : Style JsString JsNumber where
  itemSpace := []
  keySpace := []
  stringBody s := (points s).flatMap pointText ++ [34]
  number := numberText

/-- `JSON.stringify` -/
def stringify (j : JsJson) : Text := render jsStyle j

/-- `JSON.parse` -/
def parseJson (t : Text) : Option JsJson := parse jsReader t

/-- The text of a value with the keys of every object sorted. -/
def canonical (j : JsJson) : Text := stringify j.sortKeys

/-! Reading back. -/

/-- Numbers that are written as they are. -/
def Written : JsNumber → Prop
  | .finite neg mag => mag.1 = 0 → neg = false
  | .infinity _ | .nan => False

/-- What a number is written as. -/
def writtenNumber : JsNumber → JsJson
  | .finite neg mag => .num (.finite (neg && decide (mag.1 ≠ 0)) mag)
  | .infinity _ | .nan => .null

def written (j : JsJson) : JsJson := j.bindNum writtenNumber

/-- Written the same, up to the order of keys: the sign of zero is lost, and numbers that are not
finite are null. -/
def SameWritten (j j' : JsJson) : Prop := (written j).sortKeys = (written j').sortKeys

theorem jsNumeral_spec (neg : Bool) (d : Decimal) :
    (jsNumeral neg d).WellFormed ∧ (jsNumeral neg d).neg = neg ∧
      ((jsNumeral neg d).significand : ℚ) * 10 ^ (jsNumeral neg d).place = d.value := by
  have hneg : (d.positional neg).neg = neg := by
    simp only [Decimal.positional]
    split_ifs <;> rfl
  rw [jsNumeral]
  split_ifs with h
  · exact ⟨d.wellFormed_positional neg, hneg, d.value_positional neg⟩
  · exact ⟨d.wellFormed_scientific (by norm_num) neg, rfl, d.value_scientific 1 neg⟩

theorem flatten_points (s : JsString) : (points s).flatten = s := by
  fun_induction points s with
  | case1 => rfl
  | case2 u => rfl
  | case3 u v s h ih => simp [ih]
  | case4 u v s h ih => simp [ih]

theorem mem_points {s p : JsString} (h : p ∈ points s) :
    (∃ u, p = [u]) ∨ ∃ u v, p = [u, v] ∧ isHighSurrogate u.val ∧ isLowSurrogate v.val := by
  fun_induction points s with
  | case1 => simp at h
  | case2 u => exact .inl ⟨u, by simpa using h⟩
  | case3 u v s hpair ih =>
    rcases List.mem_cons.1 h with rfl | h
    · exact .inr ⟨u, v, rfl, by simpa using hpair⟩
    · exact ih h
  | case4 u v s hpair ih =>
    rcases List.mem_cons.1 h with rfl | h
    · exact .inl ⟨u, rfl⟩
    · exact ih h

theorem toUnit_val (u : CodeUnit) : toUnit u.val = some u := by simp [toUnit]

theorem toUnits_val (u : CodeUnit) : toUnits u.val = some [u] := by
  rw [toUnits, if_pos u.isLt, toUnit_val]
  rfl

/-- The character that a pair of surrogates stands for is made of them. -/
theorem toUnits_pair {u v : CodeUnit} (hu : isHighSurrogate u.val) (hv : isLowSurrogate v.val) :
    toUnits (0x10000 + (u.val - 0xD800) * 0x400 + (v.val - 0xDC00)) = some [u, v] := by
  simp only [isHighSurrogate, isLowSurrogate, Bool.and_eq_true, decide_eq_true_eq] at hu hv
  have hhigh : 0xD800 + (0x10000 + (u.val - 0xD800) * 0x400 + (v.val - 0xDC00) - 0x10000) / 0x400 =
      u.val := by omega
  have hlow : 0xDC00 + (0x10000 + (u.val - 0xD800) * 0x400 + (v.val - 0xDC00) - 0x10000) % 0x400 =
      v.val := by omega
  rw [toUnits, if_neg (by omega), hhigh, hlow, toUnit_val, toUnit_val]
  rfl

theorem readsAs_unit (u : CodeUnit) : ReadsAs readUnits (pointText [u]) [u] := by
  rw [pointText, escape]
  cases hs : shortEscape u.val with
  | some d =>
    obtain ⟨hd, hu⟩ := unescape_of_shortEscape hs
    refine ⟨by simp, by simp, fun rest => ?_⟩
    simp [readUnits, readEscape, hd, hu, toUnit_val]
  | none =>
    have hne : u.val ≠ 34 ∧ u.val ≠ 92 := by
      constructor <;> intro h <;> rw [h] at hs <;> cases hs
    simp only [Bool.and_eq_true, decide_eq_true_eq]
    split_ifs with hplain
    · refine ⟨by simp, by simpa using hne.1, fun rest => ?_⟩
      have hctl : ¬u.val < 32 := by omega
      simp [readUnits, hne.2, hctl, toUnits, toUnit_val]
    · refine ⟨by simp [hexEscape], by simp [hexEscape], fun rest => ?_⟩
      simp [readUnits, hexEscape, readEscape, readHex_hexDigits u.isLt, toUnit_val]

theorem readsAs_pair {u v : CodeUnit} (hu : isHighSurrogate u.val) (hv : isLowSurrogate v.val) :
    ReadsAs readUnits (pointText [u, v]) [u, v] := by
  rw [pointText]
  refine ⟨by simp, ?_, fun rest => ?_⟩
  · simp only [List.head?_cons, ne_eq, Option.some.injEq]
    omega
  · rw [List.singleton_append, readUnits, if_neg (by omega), if_neg (by omega), toUnits_pair hu hv]
    rfl

theorem readsAs_pointText {s p : JsString} (h : p ∈ points s) : ReadsAs readUnits (pointText p) p := by
  rcases mem_points h with ⟨u, rfl⟩ | ⟨u, v, rfl, hu, hv⟩
  · exact readsAs_unit u
  · exact readsAs_pair hu hv

theorem written_cases {x : JsNumber} (h : Written x) : ∃ neg mag, x = .finite neg mag ∧
    (jsNumeral neg (FloatFormat.binary64.decimal mag)).WellFormed ∧
      numberText x = (jsNumeral neg (FloatFormat.binary64.decimal mag)).text := by
  cases x with
  | finite neg mag =>
    refine ⟨neg, mag, rfl, (jsNumeral_spec neg _).1, ?_⟩
    have hneg : (neg && decide (mag.1 ≠ 0)) = neg := by
      by_cases h0 : mag.1 = 0
      · simp [h h0]
      · simp [h0]
    rw [numberText, hneg]
  | infinity neg => exact h.elim
  | nan => exact h.elim

theorem readJsNumber_numberText {x : JsNumber} (h : Written x) :
    readJsNumber (numberText x) = some x := by
  obtain ⟨neg, mag, rfl, hw, ht⟩ := written_cases h
  obtain ⟨-, hneg, hv⟩ := jsNumeral_spec neg (FloatFormat.binary64.decimal mag)
  rw [ht, readJsNumber, Numeral.read_text hw, Option.map_some, FloatFormat.ofNumeral_of_value _ hv,
    hneg]

theorem lawful_jsStyle : jsStyle.Lawful jsReader (fun _ => True) Written where
  itemSpace c hc := absurd hc List.not_mem_nil
  keySpace c hc := absurd hc List.not_mem_nil
  readString_stringBody s _ rest := by
    have hread : ∀ p ∈ points s, ReadsAs readUnits (pointText p) (id p) :=
      fun p hp => readsAs_pointText hp
    have hlen := length_le_flatMap fun p hp => (hread p hp).1
    have h := readBody_flatMap hread rest (((points s).flatMap pointText ++ 34 :: rest).length + 1)
      (by simp only [List.length_append]; omega)
    simp only [jsReader, jsStyle, List.append_assoc, List.singleton_append, h, List.map_id,
      Option.map_some, flatten_points]
  number_ne x hx := by
    obtain ⟨neg, mag, rfl, hw, ht⟩ := written_cases hx
    change numberText (.finite neg mag) ≠ []
    rw [ht]
    exact Numeral.text_ne_nil hw
  number_token x hx c hc := by
    obtain ⟨neg, mag, rfl, hw, ht⟩ := written_cases hx
    change c ∈ numberText (.finite neg mag) at hc
    rw [ht] at hc
    exact isTokenChar_of_mem_text hw hc
  readToken_number x hx := readToken_of_readNumber (by decide) (readJsNumber_numberText hx)

/-! Texts and values. -/

theorem readable_writtenNumber (x : JsNumber) : (writtenNumber x).Readable (fun _ => True) Written := by
  cases x with
  | finite neg mag =>
    refine .num ?_
    intro h0
    simp [h0]
  | infinity neg => exact .null
  | nan => exact .null

theorem render_writtenNumber (x : JsNumber) : render jsStyle (writtenNumber x) = jsStyle.number x := by
  cases x with
  | finite neg mag =>
    by_cases h0 : mag.1 = 0 <;> simp [writtenNumber, render, jsStyle, numberText, h0]
  | infinity neg => rfl
  | nan => rfl

variable {j j' : JsJson}

theorem stringify_written (j : JsJson) : stringify (written j) = stringify j :=
  render_bindNum render_writtenNumber j

/-- What is stored as text comes back as it was written. -/
theorem parseJson_stringify (h : DistinctKeys j) : parseJson (stringify j) = some (written j) := by
  rw [← stringify_written]
  exact parse_render lawful_jsStyle (h.bindNum fun x _ => readable_writtenNumber x)

theorem sortKeys_writtenNumber (x : JsNumber) : sortKeys (writtenNumber x) = writtenNumber x := by
  cases x <;> rfl

/-- Canonical texts tell apart what is written differently, and nothing else. -/
theorem canonical_eq_iff (h : DistinctKeys j) (h' : DistinctKeys j') :
    canonical j = canonical j' ↔ SameWritten j j' := by
  have hsort : ∀ j : JsJson, (written j).sortKeys = written j.sortKeys :=
    sortKeys_bindNum sortKeys_writtenNumber
  rw [canonical, canonical, SameWritten, hsort, hsort]
  constructor
  · intro heq
    have hp := parseJson_stringify h.sortKeys
    rw [heq, parseJson_stringify h'.sortKeys] at hp
    exact (Option.some.inj hp).symm
  · intro heq
    rw [← stringify_written, heq, stringify_written]

/-! Inputs that are the same. -/

/-- The numbers of a value are finite; `JSON.parse` reads numbers beyond the format as infinities. -/
abbrev FiniteNumbers (j : JsJson) : Prop :=
  j.Readable (fun _ => True) fun x => ∃ neg mag, x = .finite neg mag

/-- The one zero for both zeros. -/
def unsignedZero : JsNumber → JsNumber
  | .finite neg mag => .finite (neg && decide (mag.1 ≠ 0)) mag
  | x => x

/-- Equal up to the order of keys and the sign of zero. -/
def SameValue (j j' : JsJson) : Prop :=
  (j.bindNum fun x => .num (unsignedZero x)).sortKeys =
    (j'.bindNum fun x => .num (unsignedZero x)).sortKeys

theorem written_eq (h : FiniteNumbers j) : written j = j.bindNum fun x => .num (unsignedZero x) := by
  refine bindNum_congr h ?_
  rintro x ⟨neg, mag, rfl⟩
  rfl

/-- Values with finite numbers are written the same only when they are the same. -/
theorem sameWritten_iff (h : FiniteNumbers j) (h' : FiniteNumbers j') :
    SameWritten j j' ↔ SameValue j j' := by
  rw [SameWritten, written_eq h, written_eq h', SameValue]

end Counterparty.Arena
