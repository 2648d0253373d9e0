import Mathlib.Data.Nat.Digits.Lemmas
import Mathlib.Tactic.FieldSimp
import Counterparty.Library.FloatFormat

/-! Decimal notation: numerals, their text, and the numerals a float is written with. -/

/-- A text by the codes of its characters. -/
abbrev Text := List ℕ

def codes (s : String) : Text := s.toList.map Char.toNat

/-- Decimal notation: digits before the point, after it, and a signed exponent. -/
structure Numeral where
  neg : Bool
  int : List ℕ
  frac : List ℕ
  exp : Option (Bool × List ℕ)
deriving DecidableEq

namespace Numeral

def isDigit (c : ℕ) : Bool := 48 ≤ c && c ≤ 57

def digitsText (ds : List ℕ) : Text := ds.map (48 + ·)

def fracText : List ℕ → Text
  | [] => []
  | ds => 46 :: digitsText ds

def expText : Option (Bool × List ℕ) → Text
  | none => []
  | some (neg, ds) => 101 :: (if neg then 45 else 43) :: digitsText ds

def unsignedText (n : Numeral) : Text := digitsText n.int ++ (fracText n.frac ++ expText n.exp)

def text (n : Numeral) : Text := if n.neg then 45 :: n.unsignedText else n.unsignedText

def readDigits (t : Text) : List ℕ × Text :=
  ((t.takeWhile isDigit).map (· - 48), t.dropWhile isDigit)

def readFrac : Text → Option (List ℕ × Text)
  | 46 :: t => if (readDigits t).1 = [] then none else some (readDigits t)
  | t => some ([], t)

def readExp : Text → Option (Option (Bool × List ℕ))
  | [] => some none
  | c :: t =>
    if c = 101 ∨ c = 69 then
      let unsigned := if t.head? = some 43 ∨ t.head? = some 45 then t.tail else t
      let (ds, rest) := readDigits unsigned
      if ds = [] ∨ rest ≠ [] then none else some (some (t.head? = some 45, ds))
    else none

def readUnsigned (neg : Bool) (t : Text) : Option Numeral :=
  let (int, afterInt) := readDigits t
  if int = [] ∨ int.head? = some 0 ∧ int ≠ [0] then none
  else do
    let (frac, afterFrac) ← readFrac afterInt
    let exp ← readExp afterFrac
    return ⟨neg, int, frac, exp⟩

/-- The grammar `-?(0|[1-9][0-9]*)(\.[0-9]+)?([eE][-+]?[0-9]+)?`, on a whole text. -/
def read (t : Text) : Option Numeral :=
  if t.head? = some 45 then readUnsigned true t.tail else readUnsigned false t

structure WellFormed (n : Numeral) : Prop where
  int_digit : ∀ d ∈ n.int, d < 10
  int_ne : n.int ≠ []
  int_head : n.int.head? = some 0 → n.int = [0]
  frac_digit : ∀ d ∈ n.frac, d < 10
  exp_digit : ∀ neg ds, n.exp = some (neg, ds) → ds ≠ [] ∧ ∀ d ∈ ds, d < 10

theorem readDigits_append {ds : List ℕ} {t : Text} (h : ∀ d ∈ ds, d < 10)
    (ht : ∀ c ∈ t.head?, isDigit c = false) : readDigits (digitsText ds ++ t) = (ds, t) := by
  induction ds with
  | nil =>
    cases t with
    | nil => rfl
    | cons c t =>
      have hc := ht c rfl
      simp [readDigits, digitsText, hc]
  | cons d ds ih =>
    have hd : d < 10 := h d List.mem_cons_self
    have hdig : isDigit (48 + d) = true := by simp [isDigit]; omega
    have hi := ih fun e he => h e (List.mem_cons_of_mem _ he)
    simp only [readDigits, digitsText, Prod.mk.injEq] at hi
    simp [readDigits, digitsText, hdig, hi]

theorem readExp_expText {e : Option (Bool × List ℕ)}
    (h : ∀ neg ds, e = some (neg, ds) → ds ≠ [] ∧ ∀ d ∈ ds, d < 10) :
    readExp (expText e) = some e := by
  cases e with
  | none => rfl
  | some p =>
    obtain ⟨neg, ds⟩ := p
    obtain ⟨hne, hd⟩ := h neg ds rfl
    have hr := readDigits_append (t := []) hd (by simp)
    rw [List.append_nil] at hr
    cases neg <;> simp [readExp, expText, hr, hne]

theorem readFrac_fracText {ds : List ℕ} {e : Option (Bool × List ℕ)} (h : ∀ d ∈ ds, d < 10) :
    readFrac (fracText ds ++ expText e) = some (ds, expText e) := by
  have he : ∀ c ∈ (expText e).head?, isDigit c = false := by
    cases e with
    | none => simp [expText]
    | some p => simp [expText, isDigit]
  cases ds with
  | nil =>
    cases e with
    | none => rfl
    | some p => simp [fracText, expText, readFrac]
  | cons d ds =>
    have hr := readDigits_append h he
    simp [fracText, readFrac, hr]

theorem readUnsigned_unsignedText {n : Numeral} (h : n.WellFormed) :
    readUnsigned n.neg n.unsignedText = some n := by
  have hsep : ∀ c ∈ (fracText n.frac ++ expText n.exp).head?, isDigit c = false := by
    cases n.frac with
    | nil => cases n.exp <;> simp [fracText, expText, isDigit]
    | cons d ds => simp [fracText, isDigit]
  have hint := readDigits_append h.int_digit hsep
  have hzero : ¬(n.int = [] ∨ n.int.head? = some 0 ∧ n.int ≠ [0]) := by
    rintro (h0 | ⟨h0, h1⟩)
    · exact h.int_ne h0
    · exact h1 (h.int_head h0)
  simp [readUnsigned, unsignedText, hint, hzero, readFrac_fracText h.frac_digit,
    readExp_expText h.exp_digit]

theorem head?_unsignedText {n : Numeral} (h : n.WellFormed) : n.unsignedText.head? ≠ some 45 := by
  obtain ⟨neg, int, frac, exp⟩ := n
  cases int with
  | nil => exact absurd rfl h.int_ne
  | cons d ds => simp [unsignedText, digitsText]; omega

/-- A numeral is read back from its text. -/
theorem read_text {n : Numeral} (h : n.WellFormed) : read n.text = some n := by
  have hu := readUnsigned_unsignedText h
  cases hn : n.neg with
  | true =>
    rw [hn] at hu
    simp [read, text, hn, hu]
  | false =>
    rw [hn] at hu
    simp [read, text, hn, hu, head?_unsignedText h]

theorem text_ne_nil {n : Numeral} (h : n.WellFormed) : n.text ≠ [] := by
  intro hnil
  have hread := read_text h
  rw [hnil] at hread
  cases hread

/-- The characters a numeral is written with. -/
def isNumeralChar (c : ℕ) : Bool := isDigit c || c == 43 || c == 45 || c == 46 || c == 101

theorem isNumeralChar_text {n : Numeral} (h : n.WellFormed) : ∀ c ∈ n.text, isNumeralChar c := by
  have hdigits : ∀ ds : List ℕ, (∀ d ∈ ds, d < 10) → ∀ c ∈ digitsText ds, isNumeralChar c := by
    intro ds hds c hc
    obtain ⟨d, hd, rfl⟩ := List.mem_map.1 hc
    have := hds d hd
    simp [isNumeralChar, isDigit]
    omega
  have hunsigned : ∀ c ∈ n.unsignedText, isNumeralChar c := by
    intro c hc
    simp only [unsignedText, List.mem_append] at hc
    rcases hc with hc | hc | hc
    · exact hdigits _ h.int_digit c hc
    · cases hf : n.frac with
      | nil => simp [hf, fracText] at hc
      | cons d ds =>
        simp only [hf, fracText, List.mem_cons] at hc
        rcases hc with rfl | hc
        · rfl
        · exact hdigits _ (hf ▸ h.frac_digit) c hc
    · cases he : n.exp with
      | none => simp [he, expText] at hc
      | some p =>
        obtain ⟨neg, ds⟩ := p
        simp only [he, expText, List.mem_cons] at hc
        rcases hc with rfl | rfl | hc
        · rfl
        · cases neg <;> rfl
        · exact hdigits _ (h.exp_digit neg ds he).2 c hc
  intro c hc
  cases hn : n.neg with
  | true =>
    simp only [text, hn, if_true, List.mem_cons] at hc
    rcases hc with rfl | hc
    · rfl
    · exact hunsigned c hc
  | false =>
    simp only [text, hn] at hc
    exact hunsigned c hc

/-! The number a numeral stands for. -/

def digitsValue (ds : List ℕ) : ℕ := Nat.ofDigits 10 ds.reverse

def expValue : Option (Bool × List ℕ) → ℤ
  | none => 0
  | some (neg, ds) => if neg then -digitsValue ds else digitsValue ds

/-- The digits read as one number, and the decimal place of the last of them. -/
def significand (n : Numeral) : ℕ := digitsValue (n.int ++ n.frac)

def place (n : Numeral) : ℤ := expValue n.exp - n.frac.length

theorem digitsValue_append (as bs : List ℕ) :
    digitsValue (as ++ bs) = digitsValue as * 10 ^ bs.length + digitsValue bs := by
  simp only [digitsValue, List.reverse_append, Nat.ofDigits_append, List.length_reverse]
  ring

theorem digitsValue_digits (n : ℕ) : digitsValue (Nat.digits 10 n).reverse = n := by
  rw [digitsValue, List.reverse_reverse, Nat.ofDigits_digits]

/-- The digits of a whole number are those of its value. -/
theorem int_eq_digits {n : Numeral} (h : n.WellFormed) :
    n.int = if digitsValue n.int = 0 then [0] else (Nat.digits 10 (digitsValue n.int)).reverse := by
  by_cases hzero : n.int.head? = some 0
  · rw [h.int_head hzero]
    rfl
  · have hlast : ∀ hne : n.int.reverse ≠ [], n.int.reverse.getLast hne ≠ 0 := by
      intro hne h0
      apply hzero
      rw [← List.getLast?_reverse, List.getLast?_eq_getLast_of_ne_nil hne, h0]
    have hdigits : Nat.digits 10 (digitsValue n.int) = n.int.reverse :=
      Nat.digits_ofDigits 10 (by norm_num) _ (fun d hd => h.int_digit d (List.mem_reverse.1 hd)) hlast
    have hne : digitsValue n.int ≠ 0 := by
      rw [← Nat.digits_ne_nil_iff_ne_zero (b := 10), hdigits]
      simpa using h.int_ne
    rw [if_neg hne, hdigits, List.reverse_reverse]

theorem digitsValue_zeros (k : ℕ) : digitsValue (List.replicate k 0) = 0 := by
  simp [digitsValue, Nat.ofDigits_replicate_zero]

end Numeral

/-- The digits of a positive decimal and the place of its point: `0.d₁d₂… * 10 ^ point`. -/
structure Decimal where
  digits : List ℕ
  point : ℤ
  digits_ne : digits ≠ []
  digit_lt : ∀ d ∈ digits, d < 10
  head : digits.head? = some 0 → digits = [0] ∧ point = 1

namespace Decimal

open Numeral

variable (d : Decimal)

def value : ℚ := digitsValue d.digits * 10 ^ (d.point - d.digits.length)

/-- The digits around their point, zeros filling the gap. -/
def positional (neg : Bool) : Numeral :=
  if d.point ≤ 0 then ⟨neg, [0], List.replicate (-d.point).toNat 0 ++ d.digits, none⟩
  else
    ⟨neg, d.digits.take d.point.toNat ++ List.replicate (d.point.toNat - d.digits.length) 0,
      d.digits.drop d.point.toNat, none⟩

/-- One digit before the point, the exponent padded to `width` digits. -/
def scientific (width : ℕ) (neg : Bool) : Numeral :=
  let e := d.point - 1
  let ds := (Nat.digits 10 e.natAbs).reverse
  ⟨neg, d.digits.take 1, d.digits.drop 1,
    some (e < 0, List.replicate (width - ds.length) 0 ++ ds)⟩

theorem value_positional (neg : Bool) :
    ((d.positional neg).significand : ℚ) * 10 ^ (d.positional neg).place = d.value := by
  rw [positional]
  split_ifs with h
  · have hlen : -((-d.point).toNat + d.digits.length : ℤ) = d.point - d.digits.length := by omega
    simp only [significand, place, value, expValue, digitsValue_append, digitsValue_zeros,
      List.length_append, List.length_replicate]
    push_cast
    rw [zero_sub, hlen]
    simp [digitsValue]
  · rcases le_total d.digits.length d.point.toNat with hle | hle
    · obtain ⟨j, hj⟩ := Nat.exists_eq_add_of_le hle
      have hp : d.point - d.digits.length = (j : ℤ) := by omega
      have hz : d.point.toNat - d.digits.length = j := by omega
      rw [List.take_of_length_le hle, List.drop_of_length_le hle, hz]
      simp [significand, place, value, expValue, digitsValue_append, digitsValue_zeros, hp]
    · have hz : d.point.toNat - d.digits.length = 0 := by omega
      have hp : -((d.digits.length - d.point.toNat : ℕ) : ℤ) = d.point - d.digits.length := by omega
      simp only [significand, place, value, expValue, hz, List.replicate_zero, List.append_nil,
        List.take_append_drop, List.length_drop, zero_sub, hp]

theorem wellFormed_positional (neg : Bool) : (d.positional neg).WellFormed := by
  have hz : ∀ (k : ℕ), ∀ x ∈ List.replicate k 0, x < 10 := by
    intro k x hx
    rw [(List.mem_replicate.1 hx).2]
    norm_num
  rw [positional]
  split_ifs with h
  · refine ⟨by simp, by simp, by simp, ?_, by simp⟩
    intro x hx
    rcases List.mem_append.1 hx with hx | hx
    · exact hz _ x hx
    · exact d.digit_lt x hx
  · obtain ⟨a, as, hd⟩ := List.exists_cons_of_ne_nil d.digits_ne
    obtain ⟨p, hp⟩ : ∃ p, d.point.toNat = p + 1 := ⟨d.point.toNat - 1, by omega⟩
    refine ⟨?_, by simp [hd, hp], ?_, ?_, by simp⟩
    · intro x hx
      rcases List.mem_append.1 hx with hx | hx
      · exact d.digit_lt x (List.mem_of_mem_take hx)
      · exact hz _ x hx
    · intro h0
      have hz := d.head (by simpa [hd, hp] using h0)
      simp [hz.1, hz.2]
    · intro x hx
      exact d.digit_lt x (List.mem_of_mem_drop hx)

theorem value_scientific (width : ℕ) (neg : Bool) :
    ((d.scientific width neg).significand : ℚ) * 10 ^ (d.scientific width neg).place = d.value := by
  have hlen : 0 < d.digits.length := List.length_pos_of_ne_nil d.digits_ne
  have hexp : expValue (d.scientific width neg).exp = d.point - 1 := by
    simp only [scientific, expValue, digitsValue_append, digitsValue_zeros, zero_mul, zero_add,
      digitsValue_digits, decide_eq_true_eq]
    split_ifs <;> omega
  have hplace : (d.scientific width neg).place = d.point - d.digits.length := by
    rw [place, hexp]
    simp only [scientific, List.length_drop]
    omega
  rw [hplace, value, significand]
  simp only [scientific, List.take_append_drop]

theorem wellFormed_scientific {width : ℕ} (hw : 0 < width) (neg : Bool) :
    (d.scientific width neg).WellFormed := by
  obtain ⟨a, as, hd⟩ := List.exists_cons_of_ne_nil d.digits_ne
  refine ⟨fun x hx => d.digit_lt x (List.mem_of_mem_take hx), by simp [scientific, hd], ?_,
    fun x hx => d.digit_lt x (List.mem_of_mem_drop hx), ?_⟩
  · intro h0
    have hz := d.head (by simpa [scientific, hd] using h0)
    simp [scientific, hz.1]
  · intro s ds he
    simp only [scientific, Option.some.injEq, Prod.mk.injEq] at he
    obtain ⟨-, rfl⟩ := he
    constructor
    · intro hnil
      have hl := congrArg List.length hnil
      rw [List.length_append, List.length_replicate, List.length_nil] at hl
      omega
    · intro x hx
      rcases List.mem_append.1 hx with hx | hx
      · rw [(List.mem_replicate.1 hx).2]
        norm_num
      · exact Nat.digits_lt_base (by norm_num) (List.mem_reverse.1 hx)

/-- The digits of a number, least first: some zeros, then digits ending in one that is not zero. -/
theorem exists_digits {k : ℕ} (hk : k ≠ 0) :
    ∃ j, Nat.digits 10 k = List.replicate j 0 ++ (Nat.digits 10 k).dropWhile (· == 0) ∧
      (Nat.digits 10 k).dropWhile (· == 0) ≠ [] ∧
      ((Nat.digits 10 k).dropWhile (· == 0)).getLast? ≠ some 0 := by
  set l := Nat.digits 10 k with hl
  have hne : l ≠ [] := Nat.digits_ne_nil_iff_ne_zero.2 hk
  have hlast : l.getLast? ≠ some 0 := by
    rw [List.getLast?_eq_getLast_of_ne_nil hne]
    intro h
    exact Nat.getLast_digit_ne_zero 10 hk (Option.some.inj h)
  have hzeros : l.takeWhile (· == 0) = List.replicate (l.takeWhile (· == 0)).length 0 :=
    List.eq_replicate_of_mem fun d hd => by
      simpa using List.all_eq_true.1 List.all_takeWhile d hd
  have hsplit : l = List.replicate (l.takeWhile (· == 0)).length 0 ++ l.dropWhile (· == 0) := by
    rw [← hzeros, List.takeWhile_append_dropWhile]
  have hdrop : l.dropWhile (· == 0) ≠ [] := by
    intro hnil
    rw [hnil, List.append_nil] at hsplit
    rw [hsplit] at hlast hne
    cases hj : (l.takeWhile (· == 0)).length with
    | zero => simp [hj] at hne
    | succ j => simp [hj, List.getLast?_replicate] at hlast
  refine ⟨_, hsplit, hdrop, ?_⟩
  rw [hsplit] at hlast
  rwa [List.getLast?_append_of_ne_nil _ hdrop] at hlast

/-- `k * 10 ^ t` without trailing zeros. -/
def ofNat (k : ℕ) (t : ℤ) : Decimal :=
  if h : k = 0 then ⟨[0], 1, by simp, by simp, by simp⟩
  else
    { digits := ((Nat.digits 10 k).dropWhile (· == 0)).reverse
      point := (Nat.digits 10 k).length + t
      digits_ne := by
        obtain ⟨j, -, hne, -⟩ := exists_digits h
        simpa using hne
      digit_lt := fun d hd => Nat.digits_lt_base (by norm_num)
        ((List.dropWhile_suffix _).subset (List.mem_reverse.1 hd))
      head := fun h0 => by
        obtain ⟨j, -, -, hlast⟩ := exists_digits h
        rw [List.head?_reverse] at h0
        exact absurd h0 hlast }

theorem value_ofNat (k : ℕ) (t : ℤ) : (ofNat k t).value = k * 10 ^ t := by
  rw [ofNat]
  split_ifs with h
  · simp [value, digitsValue, h]
  · obtain ⟨j, hsplit, -, -⟩ := exists_digits h
    simp only [value, digitsValue, List.reverse_reverse, List.length_reverse]
    set ds := (Nat.digits 10 k).dropWhile (· == 0)
    have hk : k = 10 ^ j * Nat.ofDigits 10 ds := by
      conv_lhs => rw [← Nat.ofDigits_digits 10 k, hsplit]
      rw [Nat.ofDigits_append, Nat.ofDigits_replicate_zero, List.length_replicate, zero_add]
    have hlen : ((Nat.digits 10 k).length : ℤ) + t - ds.length = j + t := by
      have := congrArg List.length hsplit
      rw [List.length_append, List.length_replicate] at this
      omega
    have hkq : (k : ℚ) = 10 ^ j * (Nat.ofDigits 10 ds : ℕ) := by exact_mod_cast hk
    rw [hlen, hkq, zpow_add₀ (by norm_num), zpow_natCast]
    ring

end Decimal

namespace FloatFormat

variable (F : FloatFormat)

/-- The shortest decimal that reads back as a magnitude of the format. -/
def decimal (mag : {q : ℚ // F.Representable q}) : Decimal :=
  .ofNat (F.shortest mag.2).1 (F.shortest mag.2).2

def ofNumeral (n : Numeral) : F.Value := F.ofDecimal n.neg n.significand n.place

/-- Whatever numeral the shortest decimal is written with, it reads back. -/
theorem ofNumeral_of_value {n : Numeral} {mag : {q : ℚ // F.Representable q}}
    (h : (n.significand : ℚ) * 10 ^ n.place = (F.decimal mag).value) :
    F.ofNumeral n = .finite n.neg mag := by
  refine F.ofDecimal_of_readsBack ?_
  rw [ReadsBack, h, decimal, Decimal.value_ofNat]
  exact F.shortest_readsBack mag.2

end FloatFormat
