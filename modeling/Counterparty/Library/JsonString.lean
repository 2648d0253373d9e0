import Mathlib.Tactic.IntervalCases
import Counterparty.Library.Numeral

/-! The characters of a JSON string literal: escapes and how they are read. -/
namespace Json

/-- The letter after the backslash, for characters that have one. -/
def shortEscape (c : ℕ) : Option ℕ :=
  if c = 34 ∨ c = 92 then some c
  else if c = 8 then some 98
  else if c = 9 then some 116
  else if c = 10 then some 110
  else if c = 12 then some 102
  else if c = 13 then some 114
  else none

def unescape (c : ℕ) : Option ℕ :=
  if c = 34 ∨ c = 92 ∨ c = 47 then some c
  else if c = 98 then some 8
  else if c = 116 then some 9
  else if c = 110 then some 10
  else if c = 102 then some 12
  else if c = 114 then some 13
  else none

def hexDigit (d : ℕ) : ℕ := if d < 10 then 48 + d else 87 + d

def hexValue (c : ℕ) : Option ℕ :=
  if 48 ≤ c ∧ c ≤ 57 then some (c - 48)
  else if 97 ≤ c ∧ c ≤ 102 then some (c - 87)
  else if 65 ≤ c ∧ c ≤ 70 then some (c - 55)
  else none

def hexDigits (c : ℕ) : Text :=
  [hexDigit (c / 4096 % 16), hexDigit (c / 256 % 16), hexDigit (c / 16 % 16), hexDigit (c % 16)]

def hexEscape (c : ℕ) : Text := 92 :: 117 :: hexDigits c

def readHex : Text → Option (ℕ × Text)
  | a :: b :: c :: d :: t => do
    let a ← hexValue a
    let b ← hexValue b
    let c ← hexValue c
    let d ← hexValue d
    return (a * 4096 + b * 256 + c * 16 + d, t)
  | _ => none

/-- What follows a backslash. -/
def readEscape : Text → Option (ℕ × Text)
  | [] => none
  | c :: t => if c = 117 then readHex t else (unescape c).map fun d => (d, t)

def isHighSurrogate (c : ℕ) : Bool := 0xD800 ≤ c && c ≤ 0xDBFF

def isLowSurrogate (c : ℕ) : Bool := 0xDC00 ≤ c && c ≤ 0xDFFF

/-- A character as itself when `plain` allows it, else by an escape. -/
def escape (plain : ℕ → Bool) (c : ℕ) : Text :=
  match shortEscape c with
  | some d => [92, d]
  | none => if plain c then [c] else hexEscape c

/-- A character is written as it is, or in printable ASCII. -/
theorem mem_escape {plain : ℕ → Bool} {c d : ℕ} (h : d ∈ escape plain c) :
    d = c ∧ plain c ∨ 32 ≤ d ∧ d < 128 := by
  unfold escape at h
  split at h
  next e he =>
    right
    rcases List.mem_pair.1 h with rfl | rfl
    · omega
    · unfold shortEscape at he
      split_ifs at he <;> cases he <;> omega
  next =>
    split_ifs at h with hplain
    · exact .inl ⟨List.mem_singleton.1 h, hplain⟩
    · right
      have hdigit (n : ℕ) : 48 ≤ hexDigit (n % 16) ∧ hexDigit (n % 16) < 128 := by
        unfold hexDigit
        split_ifs <;> omega
      simp only [hexEscape, hexDigits, List.mem_cons, List.not_mem_nil, or_false] at h
      rcases h with rfl | rfl | rfl | rfl | rfl | rfl
      · omega
      · omega
      · exact (hdigit _).imp_left (Nat.le_trans (by omega))
      · exact (hdigit _).imp_left (Nat.le_trans (by omega))
      · exact (hdigit _).imp_left (Nat.le_trans (by omega))
      · exact (hdigit _).imp_left (Nat.le_trans (by omega))

theorem hexValue_hexDigit {d : ℕ} (h : d < 16) : hexValue (hexDigit d) = some d := by
  interval_cases d <;> rfl

theorem readHex_hexDigits {c : ℕ} (h : c < 65536) (t : Text) :
    readHex (hexDigits c ++ t) = some (c, t) := by
  have hv : c / 4096 % 16 * 4096 + c / 256 % 16 * 256 + c / 16 % 16 * 16 + c % 16 = c := by omega
  simp [hexDigits, readHex, hexValue_hexDigit (Nat.mod_lt _ (by norm_num : 0 < 16)), hv]

theorem readEscape_hexEscape {c : ℕ} (h : c < 65536) (t : Text) :
    readEscape ((hexEscape c).tail ++ t) = some (c, t) := by
  simp [hexEscape, readEscape, readHex_hexDigits h]

theorem unescape_of_shortEscape {c d : ℕ} (h : shortEscape c = some d) :
    d ≠ 117 ∧ unescape d = some c := by
  unfold shortEscape at h
  split_ifs at h with h1 h2 h3 h4 h5 h6 <;> simp only [Option.some.injEq] at h <;> subst h
  · rcases h1 with rfl | rfl <;> decide
  all_goals subst c; decide

theorem shortEscape_eq_none {c : ℕ} (h : 13 < c) (h34 : c ≠ 34) (h92 : c ≠ 92) :
    shortEscape c = none := by
  simp only [shortEscape]
  split_ifs <;> first | rfl | omega

/-- Reads characters up to a closing quote. -/
def readBody {C : Type} (readChar : Text → Option (C × Text)) :
    ℕ → Text → Option (List C × Text)
  | 0, _ => none
  | n + 1, t =>
    if t.head? = some 34 then some ([], t.tail)
    else do
      let (c, t) ← readChar t
      let (cs, t) ← readBody readChar n t
      return (c :: cs, t)

/-- A piece of text that is read as one character, whatever follows. -/
def ReadsAs {C : Type} (readChar : Text → Option (C × Text)) (piece : Text) (c : C) : Prop :=
  piece ≠ [] ∧ piece.head? ≠ some 34 ∧ ∀ rest, readChar (piece ++ rest) = some (c, rest)

/-- Pieces that are read as one character each, at least before the pieces that do follow them. -/
theorem readBody_flatMap_of_suffix {C α : Type} {readChar : Text → Option (C × Text)}
    {piece : α → Text} {char : α → C} {l : List α} {rest : Text}
    (hne : ∀ a ∈ l, piece a ≠ [] ∧ (piece a).head? ≠ some 34)
    (hread : ∀ a l', a :: l' <:+ l → readChar (piece a ++ (l'.flatMap piece ++ 34 :: rest)) =
      some (char a, l'.flatMap piece ++ 34 :: rest)) :
    ∀ n, l.length < n →
      readBody readChar n (l.flatMap piece ++ 34 :: rest) = some (l.map char, rest) := by
  induction l with
  | nil =>
    intro n hn
    obtain ⟨m, rfl⟩ : ∃ m, n = m + 1 := ⟨n - 1, by simp only [List.length_nil] at hn; omega⟩
    simp [readBody]
  | cons a l ih =>
    intro n hn
    simp only [List.length_cons] at hn
    obtain ⟨m, rfl⟩ : ∃ m, n = m + 1 := ⟨n - 1, by omega⟩
    obtain ⟨hnil, hquote⟩ := hne a List.mem_cons_self
    have hmore := ih (fun b hb => hne b (List.mem_cons_of_mem _ hb))
      (fun b l' hb => hread b l' (hb.trans (List.suffix_cons a l))) m (by omega)
    have hhead : ((a :: l).flatMap piece ++ 34 :: rest).head? ≠ some 34 := by
      obtain ⟨c, t, ht⟩ := List.exists_cons_of_ne_nil hnil
      simpa [ht] using hquote
    rw [readBody, if_neg hhead, List.flatMap_cons, List.append_assoc, hread a l List.suffix_rfl]
    simp [hmore]

theorem readBody_flatMap {C α : Type} {readChar : Text → Option (C × Text)} {piece : α → Text}
    {char : α → C} {l : List α} (h : ∀ a ∈ l, ReadsAs readChar (piece a) (char a)) (rest : Text) :
    ∀ n, l.length < n →
      readBody readChar n (l.flatMap piece ++ 34 :: rest) = some (l.map char, rest) := by
  apply readBody_flatMap_of_suffix
  · intro a ha
    exact ⟨(h a ha).1, (h a ha).2.1⟩
  · intro a l' hl'
    exact (h a (hl'.subset List.mem_cons_self)).2.2 _

theorem length_le_flatMap {α : Type} {piece : α → Text} {l : List α} (h : ∀ a ∈ l, piece a ≠ []) :
    l.length ≤ (l.flatMap piece).length := by
  induction l with
  | nil => simp
  | cons a l ih =>
    have ha := List.length_pos_of_ne_nil (h a List.mem_cons_self)
    have hl := ih fun b hb => h b (List.mem_cons_of_mem _ hb)
    simp only [List.flatMap_cons, List.length_append, List.length_cons]
    omega

end Json
