import Mathlib.Data.List.Chain
import Counterparty.Library.JsonString
import Counterparty.Library.JsonText

/-! Python's `str`, its numbers, and `json.dumps` and `json.loads` on them. -/
namespace Counterparty

open Json

abbrev CodePoint := Fin 0x110000

instance codePoint_neZero : NeZero 0x110000 := ⟨by decide⟩

/-- A `str`: any code points, lone surrogates included. -/
abbrev PyStr := List CodePoint

theorem toNat_lt (c : Char) : c.toNat < 0x110000 := by
  have h := c.valid
  simp only [UInt32.isValidChar, Nat.isValidChar] at h
  simp only [Char.toNat]
  omega

/-- Validated text fields hold no surrogates; they are Lean strings. -/
def PyStr.ofString (s : String) : PyStr := s.toList.map fun c => ⟨c.toNat, toNat_lt c⟩

abbrev PyFloat := FloatFormat.binary64.Value

inductive PyNumber
  | int (z : ℤ)
  | float (x : PyFloat)
deriving DecidableEq

abbrev PyJson := Json PyStr PyNumber

/-! Numbers. -/

def intNumeral (z : ℤ) : Numeral :=
  ⟨z < 0, if z = 0 then [0] else (Nat.digits 10 z.natAbs).reverse, [], none⟩

/-- The numeral of `float.__repr__`: an exponent outside `1e-4 ≤ x < 1e16`, else a point. -/
def reprNumeral (neg : Bool) (d : Decimal) : Numeral :=
  if d.point ≤ -4 ∨ 16 < d.point then d.scientific 2 neg
  else if (d.positional neg).frac = [] then { d.positional neg with frac := [0] }
  else d.positional neg

def numberText : PyNumber → Text
  | .int z => (intNumeral z).text
  | .float (.finite neg mag) => (reprNumeral neg (FloatFormat.binary64.decimal mag)).text
  | .float (.infinity false) => codes "Infinity"
  | .float (.infinity true) => codes "-Infinity"
  | .float .nan => codes "NaN"

def signed (neg : Bool) (n : ℕ) : ℤ := if neg then -n else n

def readPyNumber (t : Text) : Option PyNumber :=
  if t = codes "NaN" then some (.float .nan)
  else if t = codes "Infinity" then some (.float (.infinity false))
  else if t = codes "-Infinity" then some (.float (.infinity true))
  else (Numeral.read t).map fun n =>
    if n.frac = [] ∧ n.exp = none then .int (signed n.neg n.significand)
    else .float (FloatFormat.binary64.ofNumeral n)

/-! Strings. -/

/-- `ensure_ascii`: printable ASCII as it is, pairs of escapes beyond the basic plane. -/
def asciiEscape (c : CodePoint) : Text :=
  if c.val < 0x10000 then escape (fun c => 32 ≤ c && c ≤ 126) c.val
  else
    hexEscape (0xD800 + (c.val - 0x10000) / 0x400) ++ hexEscape (0xDC00 + (c.val - 0x10000) % 0x400)

def toPoint (c : ℕ) : Option CodePoint := if h : c < 0x110000 then some ⟨c, h⟩ else none

/-- The `\uDC00`–`\uDFFF` that completes a pair, when it follows. -/
def readLow : Text → Option (ℕ × Text)
  | 92 :: 117 :: t => (readHex t).filter fun p => isLowSurrogate p.1
  | _ => none

def readPoint : Text → Option (CodePoint × Text)
  | [] => none
  | c :: t =>
    if c = 92 then do
      let (u, t) ← readEscape t
      match readLow t with
      | some (v, t') =>
        if isHighSurrogate u then
          (toPoint (0x10000 + (u - 0xD800) * 0x400 + (v - 0xDC00))).map fun c => (c, t')
        else (toPoint u).map fun c => (c, t)
      | none => (toPoint u).map fun c => (c, t)
    else if c < 32 then none
    else (toPoint c).map fun c => (c, t)

def pyReader : Reader PyStr PyNumber where
  readString t := readBody readPoint (t.length + 1) t
  readNumber := readPyNumber

/-- `json.dumps`, with `separators=(",", ":")` when compact. -/
def pyStyle (compact : Bool) : Style PyStr PyNumber where
  itemSpace := if compact then [] else [32]
  keySpace := if compact then [] else [32]
  stringBody s := s.flatMap asciiEscape ++ [34]
  number := numberText

/-- `json.dumps(value, sort_keys=True)` -/
def dumps (compact : Bool) (j : PyJson) : Text := render (pyStyle compact) j.sortKeys

def loads (t : Text) : Option PyJson := parse pyReader t

/-! What `dumps` writes, `loads` reads. -/

/-- No code point is a surrogate. -/
def Scalar (s : PyStr) : Prop := ∀ c ∈ s, isHighSurrogate c.val = false ∧ isLowSurrogate c.val = false

/-- By the list; the code points are too many to try. -/
instance : DecidablePred Scalar := fun s => List.decidableBAll _ s

theorem scalar_ofString (s : String) : Scalar (PyStr.ofString s) := by
  intro c hc
  obtain ⟨d, -, rfl⟩ := List.mem_map.1 hc
  have h := d.valid
  simp only [UInt32.isValidChar, Nat.isValidChar] at h
  simp only [isHighSurrogate, isLowSurrogate, Char.toNat, Bool.and_eq_false_iff, decide_eq_false_iff_not]
  omega

theorem ofString_injective : Function.Injective PyStr.ofString := by
  intro s t h
  have hchars : s.toList = t.toList := by
    refine List.map_injective_iff.2 ?_ h
    intro c d hcd
    simp only [Fin.mk.injEq] at hcd
    exact Char.ext (UInt32.toNat_inj.1 hcd)
  exact String.toList_inj.1 hchars

theorem wellFormed_intNumeral (z : ℤ) : (intNumeral z).WellFormed := by
  refine ⟨?_, ?_, ?_, by simp [intNumeral], by simp [intNumeral]⟩
  · intro d hd
    simp only [intNumeral] at hd
    split_ifs at hd with h0
    · simp_all
    · exact Nat.digits_lt_base (by norm_num) (List.mem_reverse.1 hd)
  · simp only [intNumeral]
    split_ifs with h0
    · simp
    · simpa [Nat.digits_ne_nil_iff_ne_zero] using h0
  · intro h
    simp only [intNumeral] at h ⊢
    split_ifs at h ⊢ with h0
    · rfl
    · have hne := Nat.digits_ne_nil_iff_ne_zero (b := 10).2 (Int.natAbs_ne_zero.2 h0)
      rw [List.head?_reverse, List.getLast?_eq_getLast_of_ne_nil hne] at h
      exact absurd (Option.some.inj h) (Nat.getLast_digit_ne_zero 10 (Int.natAbs_ne_zero.2 h0))

theorem significand_intNumeral (z : ℤ) :
    signed (intNumeral z).neg (intNumeral z).significand = z := by
  by_cases h0 : z = 0
  · subst h0
    rfl
  · simp only [intNumeral, h0, if_false, Numeral.significand, List.append_nil,
      Numeral.digitsValue_digits, signed, decide_eq_true_eq]
    split_ifs <;> omega

/-- Whole numbers are written in one way, but for the sign of a zero. -/
theorem eq_intNumeral {n : Numeral} (h : n.WellFormed) (hfrac : n.frac = []) (hexp : n.exp = none)
    (hneg : n.neg → n.significand ≠ 0) : n = intNumeral (signed n.neg n.significand) := by
  obtain ⟨neg, int, frac, exp⟩ := n
  cases hfrac
  cases hexp
  have hint := Numeral.int_eq_digits h
  simp only [Numeral.significand, List.append_nil] at hint hneg ⊢
  set v := Numeral.digitsValue int
  have habs : (signed neg v).natAbs = v := by cases neg <;> simp [signed]
  have hzero : signed neg v = 0 ↔ v = 0 := by
    rw [← Int.natAbs_eq_zero, habs]
  have hlt : decide (signed neg v < 0) = neg := by
    cases neg with
    | false => simp [signed]
    | true =>
      have := hneg rfl
      simp [signed]
      omega
  simp only [intNumeral, habs, hzero, hlt, ← hint]
theorem reprNumeral_spec (neg : Bool) (d : Decimal) :
    (reprNumeral neg d).WellFormed ∧ (reprNumeral neg d).neg = neg ∧
      ((reprNumeral neg d).significand : ℚ) * 10 ^ (reprNumeral neg d).place = d.value ∧
      ¬((reprNumeral neg d).frac = [] ∧ (reprNumeral neg d).exp = none) := by
  have hneg : (d.positional neg).neg = neg := by
    simp only [Decimal.positional]
    split_ifs <;> rfl
  rw [reprNumeral]
  split_ifs with hexp hfrac
  · exact ⟨d.wellFormed_scientific (by norm_num) neg, rfl, d.value_scientific 2 neg,
      by simp [Decimal.scientific]⟩
  · have hw := d.wellFormed_positional neg
    have hv := d.value_positional neg
    refine ⟨⟨hw.int_digit, hw.int_ne, hw.int_head, by simp, hw.exp_digit⟩, hneg, ?_, by simp⟩
    rw [← hv]
    simp only [Numeral.significand, Numeral.place, hfrac, List.append_nil,
      Numeral.digitsValue_append, List.length_nil, List.length_singleton]
    rw [zpow_sub₀ (by norm_num), zpow_sub₀ (by norm_num)]
    simp [Numeral.digitsValue]
    ring
  · exact ⟨d.wellFormed_positional neg, hneg, d.value_positional neg, fun h => hfrac h.1⟩

theorem readPyNumber_text {n : Numeral} (h : n.WellFormed) :
    readPyNumber n.text = some
      (if n.frac = [] ∧ n.exp = none then .int (signed n.neg n.significand)
        else .float (FloatFormat.binary64.ofNumeral n)) := by
  -- no numeral holds a letter of the three constants
  have hne : ∀ s : Text, 110 ∈ s → n.text ≠ s := by
    rintro s hs rfl
    have := Numeral.isNumeralChar_text h 110 hs
    simp [Numeral.isNumeralChar, Numeral.isDigit] at this
  rw [readPyNumber, if_neg, if_neg (hne _ (by decide)), if_neg (hne _ (by decide)),
    Numeral.read_text h, Option.map_some]
  intro hN
  have := Numeral.isNumeralChar_text h 78 (by rw [hN]; decide)
  simp [Numeral.isNumeralChar, Numeral.isDigit] at this

theorem readPyNumber_numberText (x : PyNumber) : readPyNumber (numberText x) = some x := by
  cases x with
  | int z =>
    rw [numberText, readPyNumber_text (wellFormed_intNumeral z),
      if_pos ⟨rfl, rfl⟩, significand_intNumeral]
  | float x =>
    cases x with
    | nan => rfl
    | infinity neg => cases neg <;> rfl
    | finite neg mag =>
      obtain ⟨hw, hneg, hv, hfloat⟩ := reprNumeral_spec neg (FloatFormat.binary64.decimal mag)
      rw [numberText, readPyNumber_text hw, if_neg hfloat, FloatFormat.ofNumeral_of_value _ hv, hneg]

/-- What a number is written with. -/
theorem numberText_cases (x : PyNumber) :
    (∃ n : Numeral, n.WellFormed ∧ numberText x = n.text) ∨
      numberText x ∈ [codes "NaN", codes "Infinity", codes "-Infinity"] := by
  cases x with
  | int z => exact .inl ⟨_, wellFormed_intNumeral z, rfl⟩
  | float x =>
    cases x with
    | nan => exact .inr (by simp [numberText])
    | infinity neg => exact .inr (by cases neg <;> simp [numberText])
    | finite neg mag => exact .inl ⟨_, (reprNumeral_spec neg _).1, rfl⟩

theorem numberText_token (x : PyNumber) :
    numberText x ≠ [] ∧ ∀ c ∈ numberText x, isTokenChar c := by
  rcases numberText_cases x with ⟨n, hw, ht⟩ | ht
  · rw [ht]
    exact ⟨Numeral.text_ne_nil hw, fun c hc => isTokenChar_of_mem_text hw hc⟩
  · simp only [List.mem_cons, List.not_mem_nil, or_false] at ht
    rcases ht with ht | ht | ht <;> rw [ht] <;> decide

theorem readPyNumber_words :
    ∀ w ∈ [codes "null", codes "true", codes "false"], readPyNumber w = none := by decide

theorem readToken_numberText (x : PyNumber) : readToken pyReader (numberText x) = some (.num x) :=
  readToken_of_readNumber readPyNumber_words (readPyNumber_numberText x)

theorem toPoint_val (c : CodePoint) : toPoint c.val = some c := by simp [toPoint]

theorem readPoint_escape {c : CodePoint} {t rest : Text} (hc : isHighSurrogate c.val = false)
    (ht : readEscape t = some (c.val, rest)) : readPoint (92 :: t) = some (c, rest) := by
  cases hl : readLow rest <;> simp [readPoint, ht, hl, hc, toPoint_val]

theorem readPoint_pair {c : CodePoint} {u v : ℕ} {t t' rest : Text} (hu : isHighSurrogate u)
    (ht : readEscape t = some (u, t')) (hl : readLow t' = some (v, rest))
    (hc : 0x10000 + (u - 0xD800) * 0x400 + (v - 0xDC00) = c.val) :
    readPoint (92 :: t) = some (c, rest) := by
  simp [readPoint, ht, hl, hu, hc, toPoint_val]

theorem readLow_hexEscape {u : ℕ} (hu : u < 65536) (hlow : isLowSurrogate u = false) (rest : Text) :
    readLow (hexEscape u ++ rest) = none := by
  simp [hexEscape, readLow, readHex_hexDigits hu, hlow]

theorem readPoint_high {c : CodePoint} {rest : Text} (hc : isHighSurrogate c.val)
    (hrest : readLow rest = none) : readPoint (hexEscape c.val ++ rest) = some (c, rest) := by
  have hlt : c.val < 65536 := by
    simp only [isHighSurrogate, Bool.and_eq_true, decide_eq_true_eq] at hc
    omega
  have hread := readEscape_hexEscape hlt rest
  rw [hexEscape] at *
  simp only [List.tail_cons, List.cons_append] at hread ⊢
  simp [readPoint, hread, hrest, toPoint_val]

/-! Code points of the basic plane, as themselves or by escapes. -/

section Escape

variable {plain : ℕ → Bool} {c : CodePoint}

theorem readsAs_escape (hplain : plain c.val → 32 ≤ c.val) (hc : isHighSurrogate c.val = false)
    (hlt : c.val < 0x10000) : ReadsAs readPoint (escape plain c.val) c := by
  rw [escape]
  cases hs : shortEscape c.val with
  | some d =>
    obtain ⟨hd, hu⟩ := unescape_of_shortEscape hs
    refine ⟨by simp, by simp, fun rest => readPoint_escape hc ?_⟩
    simp [readEscape, hd, hu]
  | none =>
    have hne : c.val ≠ 34 ∧ c.val ≠ 92 := by
      constructor <;> intro h <;> rw [h] at hs <;> cases hs
    dsimp only
    split_ifs with h
    · refine ⟨by simp, by simpa using hne.1, fun rest => ?_⟩
      have hctl : ¬c.val < 32 := not_lt.2 (hplain h)
      simp [readPoint, hne.2, hctl, toPoint_val]
    · exact ⟨by simp [hexEscape], by simp [hexEscape], fun rest =>
        readPoint_escape hc (readEscape_hexEscape hlt rest)⟩

theorem escape_high (hplain : plain c.val = false) (hc : isHighSurrogate c.val) :
    escape plain c.val = hexEscape c.val := by
  simp only [isHighSurrogate, Bool.and_eq_true, decide_eq_true_eq] at hc
  rw [escape, shortEscape_eq_none (by omega) (by omega) (by omega)]
  simp [hplain]

theorem readLow_escape (hc : isLowSurrogate c.val = false) (hlt : c.val < 0x10000) (rest : Text) :
    readLow (escape plain c.val ++ rest) = none := by
  rw [escape]
  cases hs : shortEscape c.val with
  | some d =>
    have hd := (unescape_of_shortEscape hs).1
    simp only [List.cons_append, List.nil_append]
    rw [readLow]
    simp [hd]
  | none =>
    have hne : c.val ≠ 92 := by
      intro h
      rw [h] at hs
      cases hs
    dsimp only
    split_ifs
    · simp only [List.singleton_append]
      rw [readLow]
      simp [hne]
    · exact readLow_hexEscape hlt hc rest

end Escape

theorem readsAs_pair {c : CodePoint} {u v : ℕ} (hu : isHighSurrogate u) (hv : isLowSurrogate v)
    (hc : 0x10000 + (u - 0xD800) * 0x400 + (v - 0xDC00) = c.val) :
    ReadsAs readPoint (hexEscape u ++ hexEscape v) c := by
  have hult : u < 65536 := by
    simp only [isHighSurrogate, Bool.and_eq_true, decide_eq_true_eq] at hu
    omega
  have hvlt : v < 65536 := by
    simp only [isLowSurrogate, Bool.and_eq_true, decide_eq_true_eq] at hv
    omega
  refine ⟨by simp [hexEscape], by simp [hexEscape], fun rest => ?_⟩
  rw [List.append_assoc]
  have hl : readLow (hexEscape v ++ rest) = some (v, rest) := by
    simp [hexEscape, readLow, readHex_hexDigits hvlt, hv]
  exact readPoint_pair hu (readEscape_hexEscape hult _) hl hc

/-- No high surrogate stands right before a low one; what is read from text has joined them. -/
def Joined (s : PyStr) : Prop :=
  s.IsChain fun c d => ¬(isHighSurrogate c.val ∧ isLowSurrogate d.val)

theorem Scalar.joined {s : PyStr} (h : Scalar s) : Joined s := by
  induction s with
  | nil => exact .nil
  | cons c s ih =>
    refine .cons (ih fun d hd => h d (List.mem_cons_of_mem _ hd)) fun d _ hpair => ?_
    simp [(h c List.mem_cons_self).1] at hpair

/-- A way to write code points such that joined strings are read back: a high surrogate by itself is
an escape, and nothing but a low surrogate begins like the second half of a pair. -/
structure Spells (spell : CodePoint → Text) : Prop where
  readsAs : ∀ c, isHighSurrogate c.val = false → ReadsAs readPoint (spell c) c
  high : ∀ c, isHighSurrogate c.val → spell c = hexEscape c.val
  low : ∀ c, isLowSurrogate c.val = false → ∀ rest, readLow (spell c ++ rest) = none

section Spells

variable {spell : CodePoint → Text} (h : Spells spell)

include h

theorem Spells.ne (c : CodePoint) : spell c ≠ [] ∧ (spell c).head? ≠ some 34 := by
  by_cases hc : isHighSurrogate c.val
  · rw [h.high c hc]
    exact ⟨by simp [hexEscape], by simp [hexEscape]⟩
  · have hread := h.readsAs c (Bool.not_eq_true _ ▸ hc)
    exact ⟨hread.1, hread.2.1⟩

theorem Spells.readBody {s : PyStr} (hs : Joined s) (rest : Text) (n : ℕ) (hn : s.length < n) :
    readBody readPoint n (s.flatMap spell ++ 34 :: rest) = some (s, rest) := by
  have hread : Json.readBody readPoint n (s.flatMap spell ++ 34 :: rest) =
      some (s.map id, rest) := by
    apply readBody_flatMap_of_suffix (fun c _ => h.ne c) _ n hn
    intro c s' hs'
    by_cases hc : isHighSurrogate c.val
    · rw [h.high c hc]
      apply readPoint_high hc
      -- what follows a high surrogate is no low one
      cases s' with
      | nil => rfl
      | cons d s' =>
        have hd := (hs.suffix hs').rel_head? rfl
        rw [List.flatMap_cons, List.append_assoc]
        exact h.low d (by simpa [hc] using hd) _
    · exact (h.readsAs c (Bool.not_eq_true _ ▸ hc)).2.2 _
  rwa [List.map_id] at hread

theorem Spells.readString {s : PyStr} (hs : Joined s) (rest : Text) :
    pyReader.readString (s.flatMap spell ++ [34] ++ rest) = some (s, rest) := by
  have hlen : s.length ≤ (s.flatMap spell).length := length_le_flatMap fun c _ => (h.ne c).1
  rw [List.append_assoc, List.singleton_append]
  exact h.readBody hs rest _ (by simp only [List.length_append]; omega)

end Spells

theorem isHighSurrogate_pair (c : CodePoint) :
    isHighSurrogate (0xD800 + (c.val - 0x10000) / 0x400) := by
  have hlt := c.isLt
  simp only [isHighSurrogate, Bool.and_eq_true, decide_eq_true_eq]
  omega

theorem isLowSurrogate_pair (c : CodePoint) :
    isLowSurrogate (0xDC00 + (c.val - 0x10000) % 0x400) := by
  simp only [isLowSurrogate, Bool.and_eq_true, decide_eq_true_eq]
  omega

theorem spells_asciiEscape : Spells asciiEscape where
  readsAs c hc := by
    rw [asciiEscape]
    split_ifs with hbmp
    · exact readsAs_escape (by simp; omega) hc hbmp
    · exact readsAs_pair (isHighSurrogate_pair c) (isLowSurrogate_pair c) (by omega)
  high c hc := by
    have hrange := hc
    simp only [isHighSurrogate, Bool.and_eq_true, decide_eq_true_eq] at hrange
    rw [asciiEscape, if_pos (by omega)]
    exact escape_high (by simp; omega) hc
  low c hc rest := by
    have hlt := c.isLt
    rw [asciiEscape]
    split_ifs with hbmp
    · exact readLow_escape hc hbmp rest
    · rw [List.append_assoc]
      refine readLow_hexEscape (by omega) ?_ _
      simp only [isLowSurrogate, Bool.and_eq_false_iff, decide_eq_false_iff_not]
      omega

theorem lawful_pyStyle (compact : Bool) :
    (pyStyle compact).Lawful pyReader Joined (fun _ => True) where
  itemSpace c hc := by cases compact <;> simp_all [pyStyle, isSpace]
  keySpace c hc := by cases compact <;> simp_all [pyStyle, isSpace]
  readString_stringBody s hs rest := spells_asciiEscape.readString hs rest
  number_ne x _ := (numberText_token x).1
  number_token x _ := (numberText_token x).2
  readToken_number x _ := readToken_numberText x

/-- A value whose strings are joined comes back with its keys sorted. -/
theorem loads_dumps_of_joined (compact : Bool) {j : PyJson} (h : j.Readable Joined fun _ => True) :
    loads (dumps compact j) = some j.sortKeys :=
  parse_render (lawful_pyStyle compact) h.sortKeys

/-- A value whose strings hold no surrogates comes back with its keys sorted. -/
theorem loads_dumps (compact : Bool) {j : PyJson} (h : j.Readable Scalar fun _ => True) :
    loads (dumps compact j) = some j.sortKeys :=
  loads_dumps_of_joined compact (h.imp (fun _ => Scalar.joined) fun _ hx => hx)

@[simp] theorem dumps_sortKeys (compact : Bool) (j : PyJson) :
    dumps compact j.sortKeys = dumps compact j := by
  rw [dumps, sortKeys_sortKeys, dumps]

end Counterparty
