import Mathlib.Data.List.Basic
import Mathlib.Data.Nat.Notation

/-! The digits of Unicode 15.0: those with a decimal value, and those that are digits only. -/
namespace UnicodeDigits

/-- The zeros of the decimal digits (general category Nd); each is followed by one to nine. -/
def zeros : List ℕ :=
  [0x30, 0x660, 0x6F0, 0x7C0, 0x966, 0x9E6, 0xA66, 0xAE6, 0xB66, 0xBE6, 0xC66, 0xCE6, 0xD66, 0xDE6,
    0xE50, 0xED0, 0xF20, 0x1040, 0x1090, 0x17E0, 0x1810, 0x1946, 0x19D0, 0x1A80, 0x1A90, 0x1B50,
    0x1BB0, 0x1C40, 0x1C50, 0xA620, 0xA8D0, 0xA900, 0xA9D0, 0xA9F0, 0xAA50, 0xABF0, 0xFF10, 0x104A0,
    0x10D30, 0x11066, 0x110F0, 0x11136, 0x111D0, 0x112F0, 0x11450, 0x114D0, 0x11650, 0x116C0,
    0x11730, 0x118E0, 0x11950, 0x11C50, 0x11D50, 0x11DA0, 0x11F50, 0x16A60, 0x16AC0, 0x16B50,
    0x1D7CE, 0x1D7D8, 0x1D7E2, 0x1D7EC, 0x1D7F6, 0x1E140, 0x1E2F0, 0x1E4F0, 0x1E950, 0x1FBF0]

/-- The ranges of digits without a decimal value: superscripts, subscripts, circled digits and the
like. -/
def others : List (ℕ × ℕ) :=
  [(0xB2, 0xB3), (0xB9, 0xB9), (0x1369, 0x1371), (0x19DA, 0x19DA), (0x2070, 0x2070),
    (0x2074, 0x2079), (0x2080, 0x2089), (0x2460, 0x2468), (0x2474, 0x247C), (0x2488, 0x2490),
    (0x24EA, 0x24EA), (0x24F5, 0x24FD), (0x24FF, 0x24FF), (0x2776, 0x277E), (0x2780, 0x2788),
    (0x278A, 0x2792), (0x10A40, 0x10A43), (0x10E60, 0x10E68), (0x11052, 0x1105A), (0x1F100, 0x1F10A)]

def decimalValue (c : ℕ) : Option ℕ := (zeros.find? fun z => z ≤ c ∧ c ≤ z + 9).map (c - ·)

def isDecimal (c : ℕ) : Bool := (decimalValue c).isSome

def isDigit (c : ℕ) : Bool := isDecimal c || others.any fun r => r.1 ≤ c ∧ c ≤ r.2

/-- The number a word of decimal digits writes, of any scripts. -/
def decimal (word : List ℕ) : Option ℕ :=
  word.foldl (fun acc c => acc.bind fun n => (decimalValue c).map (10 * n + ·)) (some 0)

theorem decimal_eq_none {word : List ℕ} : decimal word = none ↔ ∃ c ∈ word, isDecimal c = false := by
  suffices h : ∀ acc : Option ℕ,
      word.foldl (fun acc c => acc.bind fun n => (decimalValue c).map (10 * n + ·)) acc = none ↔
        acc = none ∨ ∃ c ∈ word, isDecimal c = false by
    simpa [decimal] using h (some 0)
  induction word with
  | nil => simp
  | cons c word ih =>
    intro acc
    rw [List.foldl_cons, ih]
    cases acc with
    | none => simp
    | some n => simp [isDecimal]

theorem decimalValue_ascii {c : ℕ} (h : 48 ≤ c ∧ c ≤ 57) : decimalValue c = some (c - 48) := by
  have hfirst : zeros.find? (fun z => z ≤ c ∧ c ≤ z + 9) = some 48 :=
    List.find?_cons_of_pos (by simpa using h)
  rw [decimalValue, hfirst]
  rfl

theorem decimal_ascii {word : List Char} (h : ∀ c ∈ word, c.isDigit = true) :
    decimal (word.map Char.toNat) = some (Nat.ofDigitChars 10 word 0) := by
  suffices hacc : ∀ n, (word.map Char.toNat).foldl
      (fun acc c => acc.bind fun n => (decimalValue c).map (10 * n + ·)) (some n) =
        some (Nat.ofDigitChars 10 word n) from hacc 0
  induction word with
  | nil => simp
  | cons c word ih =>
    intro n
    have hc : 48 ≤ c.toNat ∧ c.toNat ≤ 57 := by simpa [Char.isDigit_iff_toNat] using h c (by simp)
    rw [List.map_cons, List.foldl_cons, Nat.ofDigitChars_cons, decimalValue_ascii hc]
    exact ih (fun d hd => h d (List.mem_cons_of_mem _ hd)) _

end UnicodeDigits
