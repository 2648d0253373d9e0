import Counterparty.Library.Translation
import Counterparty.PyJson
import Counterparty.Arena.JsJson

/-! What `json.loads` reads of a text that `JSON.stringify` wrote. -/
namespace Counterparty.Arena

open Json

/-! Strings. -/

/-- A code point by its units. -/
def pointOf : JsString → CodePoint
  | [u] => Fin.ofNat 0x110000 u.val
  | [u, v] => Fin.ofNat 0x110000 (0x10000 + (u.val - 0xD800) * 0x400 + (v.val - 0xDC00))
  | _ => 0

/-- `[...s]`: pairs of surrogates joined, a surrogate without its other half left as it is. -/
def codePoints (s : JsString) : PyStr := (points s).map pointOf

theorem val_pointOf_unit (u : CodeUnit) : (pointOf [u]).val = u.val := by
  have := u.isLt
  simp only [pointOf, Fin.ofNat]
  omega

theorem val_pointOf_pair {u v : CodeUnit} (hu : isHighSurrogate u.val) (hv : isLowSurrogate v.val) :
    (pointOf [u, v]).val = 0x10000 + (u.val - 0xD800) * 0x400 + (v.val - 0xDC00) := by
  simp only [isHighSurrogate, isLowSurrogate, Bool.and_eq_true, decide_eq_true_eq] at hu hv
  simp only [pointOf, Fin.ofNat]
  omega

theorem toUnits_pointOf {s p : JsString} (h : p ∈ points s) : toUnits (pointOf p).val = some p := by
  rcases mem_points h with ⟨u, rfl⟩ | ⟨u, v, rfl, hu, hv⟩
  · rw [val_pointOf_unit, toUnits_val]
  · rw [val_pointOf_pair hu hv, toUnits_pair hu hv]

theorem codePoints_injective : Function.Injective codePoints := by
  have hback : ∀ s, (codePoints s).flatMap (fun c => (toUnits c.val).getD []) = s := by
    intro s
    have hunits : (points s).map (fun p => (toUnits (pointOf p).val).getD []) = points s := by
      rw [List.map_congr_left fun p hp => by rw [toUnits_pointOf hp, Option.getD_some], List.map_id']
    rw [codePoints, List.flatMap_map, List.flatMap_def, hunits, flatten_points]
  exact Function.LeftInverse.injective hback

/-- No two code points of a string could be joined. -/
theorem joined_codePoints (s : JsString) : Joined (codePoints s) := by
  rw [Joined, codePoints, List.isChain_map]
  fun_induction points s with
  | case1 => exact .nil
  | case2 u => exact .singleton _
  | case3 u v s hpair ih =>
    refine .cons ih ?_
    intro p hp
    rw [Bool.and_eq_true] at hpair
    rw [val_pointOf_pair hpair.1 hpair.2]
    simp only [isHighSurrogate, Bool.and_eq_true, decide_eq_true_eq]
    omega
  | case4 u v s hpair ih =>
    refine .cons ih ?_
    intro p hp
    rw [val_pointOf_unit]
    rintro ⟨hu, hlow⟩
    apply hpair
    rw [hu, Bool.true_and]
    cases s with
    | nil =>
      cases Option.some.inj hp
      rwa [val_pointOf_unit] at hlow
    | cons w s =>
      rw [points] at hp
      split_ifs at hp with hvw
      · cases Option.some.inj hp
        rw [Bool.and_eq_true] at hvw
        rw [val_pointOf_pair hvw.1 hvw.2] at hlow
        simp only [isLowSurrogate, Bool.and_eq_true, decide_eq_true_eq] at hlow
        omega
      · cases Option.some.inj hp
        rwa [val_pointOf_unit] at hlow
/-- What a code point is written as. -/
def wireText (c : CodePoint) : Text :=
  if c.val < 0x10000 then escape (fun c => 32 ≤ c && !isHighSurrogate c && !isLowSurrogate c) c.val
  else [c.val]

theorem wireText_pointOf {s p : JsString} (h : p ∈ points s) : wireText (pointOf p) = pointText p := by
  rcases mem_points h with ⟨u, rfl⟩ | ⟨u, v, rfl, hu, hv⟩
  · rw [wireText, val_pointOf_unit, if_pos u.isLt, pointText]
  · rw [wireText, val_pointOf_pair hu hv, if_neg (by omega), pointText]

theorem spells_wireText : Spells wireText where
  readsAs c hc := by
    rw [wireText]
    split_ifs with hbmp
    · exact readsAs_escape (by simp only [Bool.and_eq_true, decide_eq_true_eq]; omega) hc hbmp
    · have hne : c.val ≠ 92 := by omega
      have hctl : ¬c.val < 32 := by omega
      refine ⟨by simp, by simp only [List.head?_cons, ne_eq, Option.some.injEq]; omega, fun rest => ?_⟩
      simp [readPoint, hne, hctl, toPoint_val]
  high c hc := by
    have hrange := hc
    simp only [isHighSurrogate, Bool.and_eq_true, decide_eq_true_eq] at hrange
    rw [wireText, if_pos (by omega)]
    exact escape_high (by simp [hc]) hc
  low c hc rest := by
    rw [wireText]
    split_ifs with hbmp
    · exact readLow_escape hc hbmp rest
    · rw [List.singleton_append, readLow]
      intro t h
      have := (List.cons.inj h).1
      omega

/-! Numbers. -/

/-- The numeral that a finite number is written with; the sign of zero is lost. -/
def wireNumeral (neg : Bool) (mag : {q : ℚ // FloatFormat.binary64.Representable q}) : Numeral :=
  jsNumeral (neg && decide (mag.1 ≠ 0)) (FloatFormat.binary64.decimal mag)

/-- A numeral without point and exponent is an `int`, whatever number it was written for. -/
def receivedNumber : JsNumber → PyJson
  | .finite neg mag =>
    if (wireNumeral neg mag).frac = [] ∧ (wireNumeral neg mag).exp = none then
      .num (.int (signed (wireNumeral neg mag).neg (wireNumeral neg mag).significand))
    else .num (.float (.finite (wireNumeral neg mag).neg mag))
  | .infinity _ | .nan => .null

/-- What `json.loads` makes of a value that was written by `JSON.stringify`. -/
def received (j : JsJson) : PyJson := j.translate codePoints receivedNumber

/-- A number of Python as JavaScript would have written it. -/
def wireNumber : PyNumber → Text
  | .int z => (intNumeral z).text
  | .float (.finite neg mag) => (wireNumeral neg mag).text
  | .float _ => codes "null"

def wireStyle : Style PyStr PyNumber where
  itemSpace := []
  keySpace := []
  stringBody s := s.flatMap wireText ++ [34]
  number := wireNumber

/-- Written with a numeral that it is read from. -/
def Carried (x : PyNumber) : Prop :=
  ∃ n : Numeral, n.WellFormed ∧ wireNumber x = n.text ∧ readPyNumber n.text = some x

theorem wireNumeral_spec (neg : Bool) (mag : {q : ℚ // FloatFormat.binary64.Representable q}) :
    (wireNumeral neg mag).WellFormed ∧ (wireNumeral neg mag).neg = (neg && decide (mag.1 ≠ 0)) ∧
      FloatFormat.binary64.nearest
        ((wireNumeral neg mag).significand * 10 ^ (wireNumeral neg mag).place) = mag.1 := by
  obtain ⟨hw, hneg, hvalue⟩ :=
    jsNumeral_spec (neg && decide (mag.1 ≠ 0)) (FloatFormat.binary64.decimal mag)
  refine ⟨hw, hneg, ?_⟩
  rw [wireNumeral, hvalue, FloatFormat.decimal, Decimal.value_ofNat]
  exact FloatFormat.binary64.shortest_readsBack mag.2

theorem ofNumeral_wireNumeral (neg : Bool) (mag : {q : ℚ // FloatFormat.binary64.Representable q}) :
    FloatFormat.binary64.ofNumeral (wireNumeral neg mag) = .finite (wireNumeral neg mag).neg mag :=
  FloatFormat.ofNumeral_of_value _ (jsNumeral_spec _ _).2.2

/-- Zero is the only number without a sign. -/
theorem significand_ne_zero {neg : Bool} {mag : {q : ℚ // FloatFormat.binary64.Representable q}}
    (h : (wireNumeral neg mag).neg) : (wireNumeral neg mag).significand ≠ 0 := by
  obtain ⟨-, hneg, hnearest⟩ := wireNumeral_spec neg mag
  intro h0
  rw [h0, Nat.cast_zero, zero_mul] at hnearest
  have hzero := FloatFormat.binary64.nearest_natCast (n := 0) (by decide) (by decide)
  rw [Nat.cast_zero, hnearest] at hzero
  rw [hneg, hzero] at h
  simp at h

theorem wireNumeral_idem (neg : Bool) (mag : {q : ℚ // FloatFormat.binary64.Representable q}) :
    wireNumeral (wireNumeral neg mag).neg mag = wireNumeral neg mag := by
  rw [(wireNumeral_spec neg mag).2.1, wireNumeral, wireNumeral, Bool.and_assoc, Bool.and_self]

theorem carried_received (x : JsNumber) :
    (receivedNumber x).Readable Joined Carried ∧
      render wireStyle (receivedNumber x) = jsStyle.number x := by
  cases x with
  | infinity neg => exact ⟨.null, rfl⟩
  | nan => exact ⟨.null, rfl⟩
  | finite neg mag =>
    have hw := (wireNumeral_spec neg mag).1
    have hread := readPyNumber_text hw
    rw [receivedNumber]
    split_ifs at hread ⊢ with hint
    · have heq := eq_intNumeral hw hint.1 hint.2 significand_ne_zero
      have htext : wireNumber (.int (signed (wireNumeral neg mag).neg
          (wireNumeral neg mag).significand)) = (wireNumeral neg mag).text := by
        rw [wireNumber, ← heq]
      exact ⟨.num ⟨_, hw, htext, hread⟩, htext⟩
    · rw [ofNumeral_wireNumeral] at hread
      have htext : wireNumber (.float (.finite (wireNumeral neg mag).neg mag)) =
          (wireNumeral neg mag).text := by rw [wireNumber, wireNumeral_idem]
      exact ⟨.num ⟨_, hw, htext, hread⟩, htext⟩

theorem lawful_wireStyle : wireStyle.Lawful pyReader Joined Carried where
  itemSpace c hc := absurd hc List.not_mem_nil
  keySpace c hc := absurd hc List.not_mem_nil
  readString_stringBody s hs rest := spells_wireText.readString hs rest
  number_ne x hx := by
    obtain ⟨n, hw, htext, -⟩ := hx
    change wireNumber x ≠ []
    rw [htext]
    exact Numeral.text_ne_nil hw
  number_token x hx c hc := by
    obtain ⟨n, hw, htext, -⟩ := hx
    change c ∈ wireNumber x at hc
    rw [htext] at hc
    exact isTokenChar_of_mem_text hw hc
  readToken_number x hx := by
    obtain ⟨n, hw, htext, hread⟩ := hx
    change readToken pyReader (wireNumber x) = _
    rw [htext]
    exact readToken_of_readNumber readPyNumber_words hread

theorem render_received (j : JsJson) : render wireStyle (received j) = stringify j := by
  have hstr : ∀ s, wireStyle.stringBody (codePoints s) = jsStyle.stringBody s := by
    intro s
    have htext : (codePoints s).flatMap wireText = (points s).flatMap pointText := by
      rw [codePoints, List.flatMap_map, List.flatMap_def, List.flatMap_def,
        List.map_congr_left fun p hp => wireText_pointOf hp]
    simp only [wireStyle, jsStyle, htext]
  have hnum : ∀ x, render wireStyle (receivedNumber x) = jsStyle.number x :=
    fun x => (carried_received x).2
  exact render_translate hstr hnum rfl rfl j

/-- What JavaScript writes, Python reads. -/
theorem loads_stringify {j : JsJson} (h : DistinctKeys j) : loads (stringify j) = some (received j) := by
  rw [← render_received]
  refine parse_render lawful_wireStyle (h.translate codePoints_injective ?_ ?_)
  · exact fun s _ => joined_codePoints s
  · exact fun x _ => (carried_received x).1

@[simp] theorem received_arr (items : List JsJson) :
    received (.arr items) = .arr (items.map received) := translate_arr items

@[simp] theorem received_obj (fields : List (JsString × JsJson)) :
    received (.obj fields) = .obj (fields.map fun f => (codePoints f.1, received f.2)) :=
  translate_obj fields

/-- A number is read as a number or, where it was not finite, as null. -/
theorem received_num_cases (x : JsNumber) :
    (written (.num x) = .null ∧ received (.num x) = .null) ∨
      written (.num x) ≠ .null ∧ ∃ y, received (.num x) = .num y := by
  change (writtenNumber x = .null ∧ receivedNumber x = .null) ∨
    writtenNumber x ≠ .null ∧ ∃ y, receivedNumber x = .num y
  cases x with
  | infinity neg => exact .inl ⟨rfl, rfl⟩
  | nan => exact .inl ⟨rfl, rfl⟩
  | finite neg mag =>
    refine .inr ⟨nofun, ?_⟩
    rw [receivedNumber]
    split_ifs
    · exact ⟨_, rfl⟩
    · exact ⟨_, rfl⟩

/-- Only a string is read as one. -/
theorem received_eq_str {j : JsJson} {t : PyStr} (h : received j = .str t) :
    ∃ s, j = .str s ∧ codePoints s = t := by
  cases j with
  | str s => exact ⟨s, rfl, Json.str.inj h⟩
  | num x => rcases received_num_cases x with ⟨-, hx⟩ | ⟨-, y, hx⟩ <;> rw [hx] at h <;> cases h
  | arr items =>
    rw [received_arr] at h
    cases h
  | obj fields =>
    rw [received_obj] at h
    cases h
  | null | bool _ => cases h

/-- Only an object is read as one. -/
theorem received_eq_obj {j : JsJson} {entries : List (PyStr × PyJson)}
    (h : received j = .obj entries) : ∃ object, j = .obj object := by
  cases j with
  | obj object => exact ⟨object, rfl⟩
  | num x => rcases received_num_cases x with ⟨-, hx⟩ | ⟨-, y, hx⟩ <;> rw [hx] at h <;> cases h
  | arr items =>
    rw [received_arr] at h
    cases h
  | null | bool _ | str _ => cases h

/-! Sizes. -/

variable {neg : Bool} {mag : {q : ℚ // FloatFormat.binary64.Representable q}}

/-- A whole numeral is the number it was written for, when either of the two has at most 53 bits. -/
theorem mag_of_whole (hfrac : (wireNumeral neg mag).frac = []) (hexp : (wireNumeral neg mag).exp = none)
    (h : (wireNumeral neg mag).significand < 2 ^ 53 ∨ mag.1 < 2 ^ 53) :
    mag.1 = (wireNumeral neg mag).significand := by
  have hnearest := (wireNumeral_spec neg mag).2.2
  have hplace : (wireNumeral neg mag).place = 0 := by
    rw [Numeral.place, hfrac, hexp]
    rfl
  rw [hplace, zpow_zero, mul_one] at hnearest
  rcases h with h | h
  · rw [← hnearest]
    exact FloatFormat.binary64.nearest_natCast (by decide) h
  · exact FloatFormat.binary64.eq_of_nearest_natCast (by decide) h hnearest

theorem significand_of_whole (hfrac : (wireNumeral neg mag).frac = [])
    (hexp : (wireNumeral neg mag).exp = none) {n : ℕ} (hn : n < 2 ^ 53) :
    (wireNumeral neg mag).significand = n ↔ mag.1 = n := by
  constructor
  · rintro rfl
    exact mag_of_whole hfrac hexp (.inl hn)
  · intro h
    have hlt : mag.1 < 2 ^ 53 := by
      rw [h]
      exact_mod_cast hn
    rw [mag_of_whole hfrac hexp (.inr hlt)] at h
    exact_mod_cast h

/-- The sign of a zero makes no difference. -/
theorem signed_wireNumeral {n : ℕ} (h : mag.1 = n) :
    signed (wireNumeral neg mag).neg n = signed neg n := by
  rw [(wireNumeral_spec neg mag).2.1, h]
  by_cases h0 : n = 0
  · simp [signed, h0]
  · simp [h0]

theorem mag_nonneg : 0 ≤ mag.1 := by
  obtain ⟨q, m, e, -, -, -, rfl⟩ := mag
  positivity

theorem mag_eq_natCast {n : ℕ} : mag.1 = n ↔ mag.1.den = 1 ∧ mag.1.num.natAbs = n := by
  constructor
  · intro h
    rw [h]
    exact ⟨Rat.den_natCast n, by rw [Rat.num_natCast, Int.natAbs_natCast]⟩
  · rintro ⟨hden, rfl⟩
    have hnum : ((mag.1.num.natAbs : ℤ) : ℚ) = mag.1.num := by
      rw [Int.natAbs_of_nonneg (Rat.num_nonneg.2 mag_nonneg)]
    calc mag.1 = mag.1.num := (Rat.den_eq_one_iff _).1 hden |>.symm
      _ = (mag.1.num.natAbs : ℚ) := by rw [← hnum, Int.cast_natCast]

end Counterparty.Arena
