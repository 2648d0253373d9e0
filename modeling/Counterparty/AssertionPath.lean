import Counterparty.VerificationSpec

/-! The paths of assertions: every location of a document is found under its JSON Pointer. -/
namespace Counterparty

open Json

variable {doc v : PyJson} {location : List PathPart} {part : PathPart} {k : PyStr} {i : ℕ}

/-! Locations. -/

/-- The value reached by the keys and indices. -/
def valueAt : PyJson → List PathPart → Option PyJson
  | doc, [] => some doc
  | .obj fields, .key k :: rest => (fields.lookup k).bind (valueAt · rest)
  | .arr items, .index i :: rest => items[i]?.bind (valueAt · rest)
  | _, _ :: _ => none

/-- `~` is written `~0` and `/` is written `~1`. -/
def escapePointer (k : PyStr) : PyStr :=
  k.flatMap fun c => if c = 126 then [126, 48] else if c = 47 then [126, 49] else [c]

def PathPart.token : PathPart → PyStr
  | .key k => escapePointer k
  | .index i => PyStr.ofString (toString i)

/-- The JSON Pointer of a location. -/
def pointer (location : List PathPart) : PyStr := location.flatMap fun part => 47 :: part.token

/-! Escapes. -/

theorem replaceTilde_cons {digit replacement c : CodePoint} (hc : c ≠ 126) (s : PyStr) :
    PyStr.replaceTilde digit replacement (c :: s) =
      c :: PyStr.replaceTilde digit replacement s := by
  cases s with
  | nil => rfl
  | cons d s => simp [PyStr.replaceTilde, hc]

theorem replaceTilde_hit (digit replacement : CodePoint) (s : PyStr) :
    PyStr.replaceTilde digit replacement (126 :: digit :: s) =
      replacement :: PyStr.replaceTilde digit replacement s := by
  simp [PyStr.replaceTilde]

theorem replaceTilde_miss {digit replacement d : CodePoint} (hd : d ≠ digit) (s : PyStr) :
    PyStr.replaceTilde digit replacement (126 :: d :: s) =
      126 :: PyStr.replaceTilde digit replacement (d :: s) := by
  simp [PyStr.replaceTilde, hd]

theorem replaceTilde_of_notMem {digit replacement : CodePoint} {s : PyStr} (h : 126 ∉ s) :
    PyStr.replaceTilde digit replacement s = s := by
  induction s with
  | nil => rfl
  | cons c s ih =>
    obtain ⟨hc, hs⟩ := not_or.1 (mt List.mem_cons.2 h)
    rw [replaceTilde_cons (Ne.symm hc), ih hs]

/-- The first replacement leaves the tildes escaped: it does not see the one of `~01`. -/
theorem replaceTilde_slash (k : PyStr) : PyStr.replaceTilde 49 47 (escapePointer k) =
    k.flatMap fun c => if c = 126 then [126, 48] else [c] := by
  induction k with
  | nil => rfl
  | cons c k ih =>
    rw [escapePointer] at ih ⊢
    rw [List.flatMap_cons, List.flatMap_cons]
    by_cases htilde : c = 126
    · rw [if_pos htilde, if_pos htilde, List.cons_append, List.singleton_append,
        replaceTilde_miss (by decide), replaceTilde_cons (by decide), ih]
      rfl
    · rw [if_neg htilde, if_neg htilde]
      by_cases hslash : c = 47
      · rw [if_pos hslash, hslash, List.cons_append, List.singleton_append, replaceTilde_hit, ih]
        rfl
      · rw [if_neg hslash, List.singleton_append, replaceTilde_cons htilde, ih]
        rfl

theorem replaceTilde_tilde (k : PyStr) : PyStr.replaceTilde 48 126
    (k.flatMap fun c => if c = 126 then [126, 48] else [c]) = k := by
  induction k with
  | nil => rfl
  | cons c k ih =>
    rw [List.flatMap_cons]
    by_cases htilde : c = 126
    · rw [if_pos htilde, List.cons_append, List.singleton_append, replaceTilde_hit, ih, htilde]
    · rw [if_neg htilde, List.singleton_append, replaceTilde_cons htilde, ih]

theorem slash_notMem_escapePointer (k : PyStr) : 47 ∉ escapePointer k := by
  intro h
  obtain ⟨c, -, hc⟩ := List.mem_flatMap.1 h
  split_ifs at hc with htilde hslash
  · simp at hc
  · simp at hc
  · exact hslash (List.mem_singleton.1 hc).symm

/-! Indices. -/

theorem text_index (i : ℕ) : (PathPart.index i).text.text = (Nat.toDigits 10 i).map Char.toNat := by
  rw [PathPart.text, PyStr.text, PyStr.ofString, List.map_map, Nat.toString_eq_ofList_toDigits,
    String.toList_ofList]
  rfl

theorem int_index (i : ℕ) : (PathPart.index i).text.int = .ok i := by
  have hdigits := UnicodeDigits.decimal_ascii fun c hc =>
    Nat.isDigit_of_mem_toDigits (b := 10) (n := i) (by decide) (by decide) hc
  rw [PyStr.int, text_index, hdigits, Nat.ofDigitChars_ten_toDigits]

theorem index_ascii {c : CodePoint} (h : c ∈ (PathPart.index i).text) : 48 ≤ c.val ∧ c.val ≤ 57 := by
  have hmem : c.val ∈ (PathPart.index i).text.text := List.mem_map_of_mem h
  rw [text_index] at hmem
  obtain ⟨d, hd, hval⟩ := List.mem_map.1 hmem
  have hdigit := Nat.isDigit_of_mem_toDigits (by decide) (by decide) hd
  rw [Char.isDigit_iff_toNat] at hdigit
  exact hval ▸ hdigit

theorem index_ne_nil (i : ℕ) : (PathPart.index i).text ≠ [] := by
  intro h
  have htext := text_index i
  rw [h] at htext
  exact Nat.toDigits_ne_nil (List.map_eq_nil_iff.1 htext.symm)

theorem isDigit_index (i : ℕ) : (PathPart.index i).text.isDigit = true := by
  have hall : ∀ c ∈ (PathPart.index i).text, UnicodeDigits.isDigit c.val = true := by
    intro c hc
    rw [UnicodeDigits.isDigit, UnicodeDigits.isDecimal, UnicodeDigits.decimalValue_ascii (index_ascii hc)]
    rfl
  rw [PyStr.isDigit, List.all_eq_true.2 hall]
  simp [index_ne_nil i]

/-! Paths. -/

theorem slash_notMem_token (part : PathPart) : 47 ∉ part.token := by
  cases part with
  | key k => exact slash_notMem_escapePointer k
  | index i => exact fun h => absurd (index_ascii (i := i) h).1 (by decide)

theorem token_ne_nil (h : part ≠ .key []) : part.token ≠ [] := by
  cases part with
  | key k =>
    obtain ⟨c, k, rfl⟩ := List.exists_cons_of_ne_nil (fun hk => h (congrArg PathPart.key hk))
    rw [PathPart.token, escapePointer, List.flatMap_cons]
    split_ifs <;> simp
  | index i => exact index_ne_nil i

theorem decode_token (part : PathPart) :
    PyStr.replaceTilde 48 126 (PyStr.replaceTilde 49 47 part.token) = part.text := by
  cases part with
  | key k => rw [PathPart.token, replaceTilde_slash, replaceTilde_tilde, PathPart.text]
  | index i =>
    have htilde : 126 ∉ (PathPart.index i).token :=
      fun h => absurd (index_ascii (i := i) h).2 (by decide)
    rw [replaceTilde_of_notMem htilde, replaceTilde_of_notMem htilde]
    rfl

theorem pointer_cons (part : PathPart) (location : List PathPart) :
    pointer (part :: location) = 47 :: (part.token ++ pointer location) := rfl

theorem splitOn_pointer {token : PyStr} (h : 47 ∉ token) (location : List PathPart) :
    (token ++ pointer location).splitOn 47 = token :: location.map PathPart.token := by
  induction location generalizing token with
  | nil => exact (congrArg _ (List.append_nil token)).trans (List.splitOn_eq_singleton h)
  | cons part location ih =>
    rw [pointer_cons, List.splitOn_append_cons_self, List.splitOn_eq_singleton h,
      ih (slash_notMem_token part)]
    rfl

theorem getLast?_pointer {token : PyStr} (hne : token ≠ []) (h : 47 ∉ token)
    (hkeys : PathPart.key [] ∉ location) : (token ++ pointer location).getLast? ≠ some 47 := by
  induction location generalizing token with
  | nil =>
    intro hlast
    rw [pointer, List.flatMap_nil, List.append_nil] at hlast
    exact h (List.mem_of_getLast? hlast)
  | cons part location ih =>
    obtain ⟨hpart, hrest⟩ := not_or.1 (mt List.mem_cons.2 hkeys)
    have htoken := token_ne_nil (Ne.symm hpart)
    rw [pointer_cons, List.append_cons, List.getLast?_append_of_ne_nil _ (by simp [htoken])]
    exact ih htoken (slash_notMem_token part) hrest

theorem dropWhile_slash {s : PyStr} (h : s.head? ≠ some 47) : s.dropWhile (· == 47) = s := by
  cases s with
  | nil => rfl
  | cons c s =>
    have hc : c ≠ 47 := by simpa using h
    exact List.dropWhile_cons_of_neg (by simpa using hc)

theorem stripSlashes_eq {s : PyStr} (hhead : s.head? ≠ some 47) (hlast : s.getLast? ≠ some 47) :
    stripSlashes (47 :: s) = s := by
  have hfirst : (47 :: s).dropWhile (· == 47) = s := by
    rw [List.dropWhile_cons_of_pos (by decide), dropWhile_slash hhead]
  rw [stripSlashes, hfirst, dropWhile_slash (by rwa [List.head?_reverse]), List.reverse_reverse]

/-- Trimming, splitting and unescaping give the parts of the location back. -/
theorem pathParts_pointer (hne : location ≠ []) (hkeys : PathPart.key [] ∉ location) :
    pathParts (pointer location) = location.map PathPart.text := by
  obtain ⟨part, location, rfl⟩ := List.exists_cons_of_ne_nil hne
  obtain ⟨hpart, hrest⟩ := not_or.1 (mt List.mem_cons.2 hkeys)
  have htoken := token_ne_nil (Ne.symm hpart)
  have hslash := slash_notMem_token part
  have hhead : (part.token ++ pointer location).head? ≠ some 47 := by
    intro hhead
    rw [List.head?_append_of_ne_nil _ htoken] at hhead
    exact hslash (List.mem_of_mem_head? hhead)
  have hkept : ((part :: location).map PathPart.token).filter (· ≠ []) =
      (part :: location).map PathPart.token := by
    refine List.filter_eq_self.2 fun token hmem => ?_
    obtain ⟨part', hpart', rfl⟩ := List.mem_map.1 hmem
    exact decide_eq_true (token_ne_nil fun h => hkeys (h ▸ hpart'))
  rw [pathParts, pointer_cons, stripSlashes_eq hhead (getLast?_pointer htoken hslash hrest),
    splitOn_pointer hslash, ← List.map_cons, hkept, List.map_map]
  exact List.map_congr_left fun part' _ => decode_token part'

/-! Walking. -/

theorem walk_valueAt (h : valueAt doc location = some v) :
    walk doc (location.map PathPart.text) = .ok (some v) := by
  induction location generalizing doc with
  | nil => exact congrArg Except.ok h
  | cons part location ih =>
    cases doc with
    | obj fields =>
      cases part with
      | key k =>
        obtain ⟨next, hlookup, hnext⟩ := Option.bind_eq_some_iff.1 h
        rw [List.map_cons, PathPart.text, walk, hlookup]
        exact ih hnext
      | index i => cases h
    | arr items =>
      cases part with
      | key k => cases h
      | index i =>
        obtain ⟨next, hitem, hnext⟩ := Option.bind_eq_some_iff.1 h
        rw [List.map_cons, walk, if_pos (isDigit_index i), int_index]
        simp only [bind, Except.bind, hitem]
        exact ih hnext
    | null | bool | num | str => cases part <;> cases h

/-- Every location whose keys are not empty is found under its pointer. -/
theorem resolvePath_pointer (doc : PyJson) (location : List PathPart) (v : PyJson)
    (h : valueAt doc location = some v) (hkeys : PathPart.key [] ∉ location) :
    resolvePath doc (pointer location) = .ok (some v) := by
  rw [resolvePath]
  split_ifs with hroot
  · cases location with
    | nil => exact congrArg Except.ok h
    | cons part location =>
      have htoken : part.token ≠ [] := token_ne_nil fun hpart => hkeys (hpart ▸ List.mem_cons_self)
      rcases hroot with hroot | hroot
      · cases hroot
      · have htail : part.token ++ pointer location = [] := (List.cons.inj hroot).2
        exact absurd (List.append_eq_nil_iff.1 htail).1 htoken
  · have hne : location ≠ [] := by
      rintro rfl
      exact hroot (.inl rfl)
    rw [pathParts_pointer hne hkeys, walk_valueAt h]

/-- A document whose keys have to be escaped. -/
def nested : PyJson := .obj (dict [("a/b", .arr [.null, .obj (dict [("~1", pyInt 5)])])])

theorem resolvePath_pointer_nested :
    resolvePath nested (PyStr.ofString "/a~1b/1/~01") = .ok (some (pyInt 5)) :=
  resolvePath_pointer nested [.key (PyStr.ofString "a/b"), .index 1, .key (PyStr.ofString "~1")]
    (pyInt 5) rfl (by decide)

end Counterparty
