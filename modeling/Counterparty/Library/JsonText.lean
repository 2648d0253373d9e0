import Counterparty.Library.JsonCollapse
import Counterparty.Library.Numeral

/-! The text of a JSON value under a choice of separators, and a reader for such texts. -/
namespace Json

variable {S N : Type}

/-- How strings and numbers are written and what follows each comma and colon. -/
structure Style (S N : Type) where
  itemSpace : Text
  keySpace : Text
  /-- The characters of a string and its closing quote. -/
  stringBody : S → Text
  number : N → Text

mutual

def render (σ : Style S N) : Json S N → Text
  | .null => codes "null"
  | .bool true => codes "true"
  | .bool false => codes "false"
  | .num x => σ.number x
  | .str s => 34 :: σ.stringBody s
  | .arr items => 91 :: ((44 :: σ.itemSpace).intercalate (renderItems σ items) ++ [93])
  | .obj fields => 123 :: ((44 :: σ.itemSpace).intercalate (renderFields σ fields) ++ [125])

def renderItems (σ : Style S N) : List (Json S N) → List Text
  | [] => []
  | x :: items => render σ x :: renderItems σ items

def renderFields (σ : Style S N) : List (S × Json S N) → List Text
  | [] => []
  | (k, v) :: fields =>
    (34 :: (σ.stringBody k ++ 58 :: (σ.keySpace ++ render σ v))) :: renderFields σ fields

end

/-- How strings and numbers are read. -/
structure Reader (S N : Type) where
  /-- Reads up to a closing quote. -/
  readString : Text → Option (S × Text)
  readNumber : Text → Option N

def isSpace (c : ℕ) : Bool := c == 32 || c == 9 || c == 10 || c == 13

def skipSpace (t : Text) : Text := t.dropWhile isSpace

/-- Letters, digits, signs and the point: what `null`, `true`, `false` and numbers consist of. -/
def isTokenChar (c : ℕ) : Bool :=
  (48 ≤ c && c ≤ 57) || (65 ≤ c && c ≤ 90) || (97 ≤ c && c ≤ 122) || c == 43 || c == 45 || c == 46

def expect (c : ℕ) : Text → Option Text
  | [] => none
  | d :: t => if d = c then some t else none

def readToken (ρ : Reader S N) (token : Text) : Option (Json S N) :=
  if token = codes "null" then some .null
  else if token = codes "true" then some (.bool true)
  else if token = codes "false" then some (.bool false)
  else (ρ.readNumber token).map .num

section Read

variable [DecidableEq S]

mutual

def readValue (ρ : Reader S N) : ℕ → Text → Option (Json S N × Text)
  | 0, _ => none
  | n + 1, t =>
    match skipSpace t with
    | [] => none
    | c :: rest =>
      if c = 34 then (ρ.readString rest).map fun p => (.str p.1, p.2)
      else if c = 91 then
        if (skipSpace rest).head? = some 93 then some (.arr [], (skipSpace rest).tail)
        else (readItems ρ n rest).map fun p => (.arr p.1, p.2)
      else if c = 123 then
        if (skipSpace rest).head? = some 125 then some (.obj [], (skipSpace rest).tail)
        else (readFields ρ n rest).map fun p => (.obj (ofEntries p.1), p.2)
      else
        (readToken ρ ((c :: rest).takeWhile isTokenChar)).map fun j =>
          (j, (c :: rest).dropWhile isTokenChar)

def readItems (ρ : Reader S N) : ℕ → Text → Option (List (Json S N) × Text)
  | 0, _ => none
  | n + 1, t => do
    let (x, rest) ← readValue ρ n t
    match skipSpace rest with
    | [] => none
    | c :: rest =>
      if c = 44 then (readItems ρ n rest).map fun p => (x :: p.1, p.2)
      else if c = 93 then some ([x], rest)
      else none

def readFields (ρ : Reader S N) : ℕ → Text → Option (List (S × Json S N) × Text)
  | 0, _ => none
  | n + 1, t => do
    let afterQuote ← expect 34 (skipSpace t)
    let (k, afterKey) ← ρ.readString afterQuote
    let afterColon ← expect 58 (skipSpace afterKey)
    let (v, rest) ← readValue ρ n afterColon
    match skipSpace rest with
    | [] => none
    | c :: rest =>
      if c = 44 then (readFields ρ n rest).map fun p => ((k, v) :: p.1, p.2)
      else if c = 125 then some ([(k, v)], rest)
      else none

end

/-- No object of the value repeats a key. -/
abbrev DistinctKeys (j : Json S N) : Prop := j.Readable (fun _ => True) fun _ => True

/-- Strings read from acceptable text are good, and the text after them is acceptable. -/
structure Reader.Sound (ρ : Reader S N) (ok : Text → Prop) (goodStr : S → Prop) : Prop where
  suffix : ∀ t u, ok (t ++ u) → ok u
  readString : ∀ t s rest, ok t → ρ.readString t = some (s, rest) → goodStr s ∧ ok rest

section Sound

variable {ρ : Reader S N} {ok : Text → Prop} {goodStr : S → Prop}

omit [DecidableEq S] in
theorem readable_readToken {token : Text} {j : Json S N} (h : readToken ρ token = some j) :
    j.Readable goodStr fun _ => True := by
  unfold readToken at h
  split_ifs at h
  · cases h
    exact .null
  · cases h
    exact .bool true
  · cases h
    exact .bool false
  · obtain ⟨x, -, rfl⟩ := Option.map_eq_some_iff.1 h
    exact .num trivial

omit [DecidableEq S] in
theorem Reader.Sound.skipSpace (hρ : ρ.Sound ok goodStr) {t : Text} (ht : ok t) :
    ok (Json.skipSpace t) :=
  hρ.suffix (t.takeWhile isSpace) _ (by rwa [Json.skipSpace, List.takeWhile_append_dropWhile])

omit [DecidableEq S] in
theorem Reader.Sound.tail (hρ : ρ.Sound ok goodStr) {c : ℕ} {t : Text} (ht : ok (c :: t)) : ok t :=
  hρ.suffix [c] t ht

omit [DecidableEq S] in
theorem Reader.Sound.afterSpace (hρ : ρ.Sound ok goodStr) {c : ℕ} {t rest : Text} (ht : ok t)
    (h : Json.skipSpace t = c :: rest) : ok rest := hρ.tail (h ▸ hρ.skipSpace ht)

omit [DecidableEq S] in
theorem Reader.Sound.expect (hρ : ρ.Sound ok goodStr) {c : ℕ} {t rest : Text} (ht : ok t)
    (h : Json.expect c t = some rest) : ok rest := by
  cases t with
  | nil => cases h
  | cons d t =>
    rw [Json.expect] at h
    split_ifs at h
    cases h
    exact hρ.tail ht

/-- What is read has good strings and repeats no key: a later entry overwrites an earlier. -/
theorem readable_read (hρ : ρ.Sound ok goodStr) (n : ℕ) :
    (∀ t j rest, ok t → readValue ρ n t = some (j, rest) →
      j.Readable goodStr (fun _ => True) ∧ ok rest) ∧
    (∀ t items rest, ok t → readItems ρ n t = some (items, rest) →
      (∀ x ∈ items, x.Readable goodStr fun _ => True) ∧ ok rest) ∧
    ∀ t fields rest, ok t → readFields ρ n t = some (fields, rest) →
      (∀ f ∈ fields, goodStr f.1 ∧ f.2.Readable goodStr fun _ => True) ∧ ok rest := by
  induction n with
  | zero => exact ⟨nofun, nofun, nofun⟩
  | succ n ih =>
    obtain ⟨hvalue, hitems, hfields⟩ := ih
    refine ⟨?_, ?_, ?_⟩
    · intro t j rest ht h
      rw [readValue] at h
      split at h
      · cases h
      · rename_i c after hskip
        have hafter := hρ.afterSpace ht hskip
        split_ifs at h with hquote hbracket hempty hbrace hempty
        · obtain ⟨p, hp, heq⟩ := Option.map_eq_some_iff.1 h
          cases heq
          exact ⟨.str (hρ.readString _ _ _ hafter hp).1, (hρ.readString _ _ _ hafter hp).2⟩
        · cases h
          obtain ⟨u, hu⟩ := List.head?_eq_some_iff.1 hempty
          rw [hu]
          exact ⟨.arr (by simp), hρ.afterSpace hafter hu⟩
        · obtain ⟨p, hp, heq⟩ := Option.map_eq_some_iff.1 h
          cases heq
          exact ⟨.arr (hitems _ _ _ hafter hp).1, (hitems _ _ _ hafter hp).2⟩
        · cases h
          obtain ⟨u, hu⟩ := List.head?_eq_some_iff.1 hempty
          rw [hu]
          exact ⟨.obj (by simp) (by simp) (by simp), hρ.afterSpace hafter hu⟩
        · obtain ⟨p, hp, heq⟩ := Option.map_eq_some_iff.1 h
          cases heq
          obtain ⟨hgood, hrest⟩ := hfields _ _ _ hafter hp
          refine ⟨.obj (nodup_ofEntries _) ?_ ?_, hrest⟩
          · intro f hf
            exact (hgood f (mem_of_mem_ofEntries hf)).1
          · intro f hf
            exact (hgood f (mem_of_mem_ofEntries hf)).2
        · obtain ⟨j, hj, heq⟩ := Option.map_eq_some_iff.1 h
          cases heq
          refine ⟨readable_readToken hj, hρ.suffix ((c :: after).takeWhile isTokenChar) _ ?_⟩
          rw [List.takeWhile_append_dropWhile, ← hskip]
          exact hρ.skipSpace ht
    · intro t items rest ht h
      rw [readItems] at h
      obtain ⟨⟨x, afterItem⟩, hx, h⟩ := Option.bind_eq_some_iff.1 h
      obtain ⟨hgood, hafter⟩ := hvalue _ _ _ ht hx
      dsimp only at h
      split at h
      · cases h
      · rename_i c after hskip
        have hrest := hρ.afterSpace hafter hskip
        split_ifs at h
        · obtain ⟨p, hp, heq⟩ := Option.map_eq_some_iff.1 h
          cases heq
          exact ⟨List.forall_mem_cons.2 ⟨hgood, (hitems _ _ _ hrest hp).1⟩, (hitems _ _ _ hrest hp).2⟩
        · cases h
          exact ⟨List.forall_mem_singleton.2 hgood, hrest⟩
    · intro t fields rest ht h
      rw [readFields] at h
      obtain ⟨afterQuote, hquote, h⟩ := Option.bind_eq_some_iff.1 h
      obtain ⟨⟨k, afterKey⟩, hk, h⟩ := Option.bind_eq_some_iff.1 h
      obtain ⟨afterColon, hcolon, h⟩ := Option.bind_eq_some_iff.1 h
      obtain ⟨⟨v, afterValue⟩, hv, h⟩ := Option.bind_eq_some_iff.1 h
      obtain ⟨hkey, hafterKey⟩ := hρ.readString _ _ _ (hρ.expect (hρ.skipSpace ht) hquote) hk
      obtain ⟨hgood, hafter⟩ := hvalue _ _ _ (hρ.expect (hρ.skipSpace hafterKey) hcolon) hv
      dsimp only at h
      split at h
      · cases h
      · rename_i c after hskip
        have hrest := hρ.afterSpace hafter hskip
        split_ifs at h
        · obtain ⟨p, hp, heq⟩ := Option.map_eq_some_iff.1 h
          cases heq
          exact ⟨List.forall_mem_cons.2 ⟨⟨hkey, hgood⟩, (hfields _ _ _ hrest hp).1⟩,
            (hfields _ _ _ hrest hp).2⟩
        · cases h
          exact ⟨List.forall_mem_singleton.2 ⟨hkey, hgood⟩, hrest⟩

end Sound

/-- A whole text as one value. -/
def parse (ρ : Reader S N) (t : Text) : Option (Json S N) :=
  match readValue ρ (t.length + 1) t with
  | none => none
  | some (j, rest) => if skipSpace rest = [] then some j else none

theorem readable_parse {ρ : Reader S N} {ok : Text → Prop} {goodStr : S → Prop}
    (hρ : ρ.Sound ok goodStr) {t : Text} {j : Json S N} (ht : ok t) (h : parse ρ t = some j) :
    j.Readable goodStr fun _ => True := by
  unfold parse at h
  split at h
  · cases h
  · rename_i j' rest hread
    split_ifs at h
    cases h
    exact ((readable_read hρ _).1 _ _ _ ht hread).1

theorem distinctKeys_parse {ρ : Reader S N} {t : Text} {j : Json S N} (h : parse ρ t = some j) :
    j.DistinctKeys := by
  have hρ : ρ.Sound (fun _ => True) fun _ => True :=
    ⟨fun _ _ _ => trivial, fun _ _ _ _ _ => ⟨trivial, trivial⟩⟩
  exact readable_parse hρ trivial h

end Read

/-- What a style must keep to be read back. -/
structure Style.Lawful (σ : Style S N) (ρ : Reader S N) (goodStr : S → Prop) (goodNum : N → Prop) :
    Prop where
  itemSpace : ∀ c ∈ σ.itemSpace, isSpace c
  keySpace : ∀ c ∈ σ.keySpace, isSpace c
  readString_stringBody : ∀ s, goodStr s → ∀ rest, ρ.readString (σ.stringBody s ++ rest) = some (s, rest)
  number_ne : ∀ x, goodNum x → σ.number x ≠ []
  number_token : ∀ x, goodNum x → ∀ c ∈ σ.number x, isTokenChar c
  readToken_number : ∀ x, goodNum x → readToken ρ (σ.number x) = some (.num x)

section Laws

theorem skipSpace_append {w t : Text} (hw : ∀ c ∈ w, isSpace c) :
    skipSpace (w ++ t) = skipSpace t := by
  simp only [skipSpace, List.dropWhile_append_of_pos hw]

theorem skipSpace_cons {c : ℕ} {t : Text} (hc : isSpace c = false) : skipSpace (c :: t) = c :: t := by
  simp [skipSpace, hc]

theorem isSpace_of_isTokenChar {c : ℕ} (h : isTokenChar c) : isSpace c = false := by
  simp only [isTokenChar, isSpace, Bool.or_eq_true, Bool.and_eq_true, decide_eq_true_eq,
    beq_iff_eq, Bool.or_eq_false_iff, beq_eq_false_iff_ne] at *
  omega

theorem isTokenChar_of_mem_text {n : Numeral} (h : n.WellFormed) {c : ℕ} (hc : c ∈ n.text) :
    isTokenChar c := by
  have hchar := Numeral.isNumeralChar_text h c hc
  simp only [Numeral.isNumeralChar, Numeral.isDigit, isTokenChar, Bool.or_eq_true,
    Bool.and_eq_true, decide_eq_true_eq, beq_iff_eq] at *
  omega

/-- No numeral is taken for one of the three words. -/
theorem readToken_of_readNumber {ρ : Reader S N} {t : Text} {x : N}
    (hwords : ∀ w ∈ [codes "null", codes "true", codes "false"], ρ.readNumber w = none)
    (h : ρ.readNumber t = some x) : readToken ρ t = some (.num x) := by
  have hne : ∀ w ∈ [codes "null", codes "true", codes "false"], t ≠ w := by
    rintro w hw rfl
    rw [hwords t hw] at h
    cases h
  rw [readToken, if_neg (hne _ (by simp)), if_neg (hne _ (by simp)), if_neg (hne _ (by simp)), h]
  rfl

theorem renderItems_eq_map (σ : Style S N) (items : List (Json S N)) :
    renderItems σ items = items.map (render σ) := by
  induction items with
  | nil => rfl
  | cons x items ih => simp [renderItems, ih]

theorem renderFields_eq_map (σ : Style S N) (fields : List (S × Json S N)) :
    renderFields σ fields =
      fields.map fun f => 34 :: (σ.stringBody f.1 ++ 58 :: (σ.keySpace ++ render σ f.2)) := by
  induction fields with
  | nil => rfl
  | cons f fields ih => rw [renderFields, ih, List.map_cons]

theorem null_token : codes "null" ≠ [] ∧ ∀ c ∈ codes "null", isTokenChar c := by decide

theorem true_token : codes "true" ≠ [] ∧ ∀ c ∈ codes "true", isTokenChar c := by decide

theorem false_token : codes "false" ≠ [] ∧ ∀ c ∈ codes "false", isTokenChar c := by decide

theorem exists_intercalate_cons (sep l : Text) (ls : List Text) :
    ∃ u, sep.intercalate (l :: ls) = l ++ u := by
  cases ls with
  | nil => exact ⟨[], by rw [List.intercalate_singleton, List.append_nil]⟩
  | cons l' ls => exact ⟨_, by rw [List.intercalate_cons_cons, List.append_assoc]⟩

theorem exists_intercalate_mid (sep : Text) (ls ls' : List Text) (l : Text) :
    ∃ before after, ∀ mid, sep.intercalate (ls ++ (l ++ mid) :: ls') = before ++ (mid ++ after) := by
  induction ls with
  | nil =>
    cases ls' with
    | nil => exact ⟨l, [], fun mid => by simp⟩
    | cons l' ls' =>
      exact ⟨l, sep ++ sep.intercalate (l' :: ls'), fun mid => by
        simp [List.intercalate_cons_cons]⟩
  | cons l' ls ih =>
    obtain ⟨before, after, h⟩ := ih
    refine ⟨l' ++ sep ++ before, after, fun mid => ?_⟩
    obtain ⟨l'', rest, hrest⟩ := List.exists_cons_of_ne_nil (l := ls ++ (l ++ mid) :: ls') (by simp)
    rw [List.cons_append, hrest, List.intercalate_cons_cons, ← hrest, h]
    simp

/-- The text of an object holds that of each value, between texts that do not depend on it. -/
theorem exists_render_field (σ : Style S N) (fields fields' : List (S × Json S N)) (k : S) :
    ∃ before after, ∀ v, render σ (.obj (fields ++ (k, v) :: fields')) =
      before ++ (render σ v ++ after) := by
  obtain ⟨before, after, h⟩ := exists_intercalate_mid (44 :: σ.itemSpace) (renderFields σ fields)
    (renderFields σ fields') (34 :: (σ.stringBody k ++ 58 :: σ.keySpace))
  refine ⟨123 :: before, after ++ [125], fun v => ?_⟩
  have hmid := h (render σ v)
  simp only [renderFields_eq_map, List.cons_append, List.append_assoc] at hmid
  simp [render, renderFields_eq_map, hmid]

variable {σ : Style S N} {ρ : Reader S N} {goodStr : S → Prop} {goodNum : N → Prop}

theorem head_render (hσ : σ.Lawful ρ goodStr goodNum) {j : Json S N}
    (hj : Writable goodStr goodNum j) :
    ∃ c t, render σ j = c :: t ∧ isSpace c = false ∧ c ≠ 93 := by
  cases hj with
  | null => exact ⟨_, _, rfl, rfl, by decide⟩
  | bool b => cases b <;> exact ⟨_, _, rfl, rfl, by decide⟩
  | @num x hx =>
    obtain ⟨c, t, ht⟩ := List.exists_cons_of_ne_nil (hσ.number_ne x hx)
    have hc := hσ.number_token x hx c (ht ▸ List.mem_cons_self)
    exact ⟨c, t, ht, isSpace_of_isTokenChar hc, by rintro rfl; simp [isTokenChar] at hc⟩
  | str _ => exact ⟨_, _, rfl, rfl, by decide⟩
  | arr _ => exact ⟨_, _, rfl, rfl, by decide⟩
  | obj _ _ => exact ⟨_, _, rfl, rfl, by decide⟩

variable [DecidableEq S]

theorem readValue_token {j : Json S N} {token rest : Text} {n : ℕ}
    (htok : token ≠ []) (hchars : ∀ c ∈ token, isTokenChar c)
    (hread : readToken ρ token = some j) (hrest : ∀ c ∈ rest.head?, isTokenChar c = false) :
    readValue ρ (n + 1) (token ++ rest) = some (j, rest) := by
  cases token with
  | nil => exact absurd rfl htok
  | cons c token =>
    have hc := hchars c List.mem_cons_self
    have hskip := skipSpace_cons (t := token ++ rest) (isSpace_of_isTokenChar hc)
    have hne : c ≠ 34 ∧ c ≠ 91 ∧ c ≠ 123 := by
      refine ⟨?_, ?_, ?_⟩ <;> rintro rfl <;> simp [isTokenChar] at hc
    have htake : (c :: (token ++ rest)).takeWhile isTokenChar = c :: token := by
      rw [← List.cons_append, List.takeWhile_append_of_pos hchars]
      cases rest with
      | nil => simp
      | cons d rest => simp [hrest d rfl]
    have hdrop : (c :: (token ++ rest)).dropWhile isTokenChar = rest := by
      rw [← List.cons_append, List.dropWhile_append_of_pos hchars]
      cases rest with
      | nil => rfl
      | cons d rest => simp [hrest d rfl]
    simp only [List.cons_append, readValue, hskip, hne, if_false, htake, hdrop, hread]
    rfl

theorem readValue_skip {w t : Text} (hw : ∀ c ∈ w, isSpace c) (n : ℕ) :
    readValue ρ n (w ++ t) = readValue ρ n t := by
  cases n with
  | zero => rfl
  | succ n => simp only [readValue, skipSpace_append hw]

theorem readItems_skip {w t : Text} (hw : ∀ c ∈ w, isSpace c) (n : ℕ) :
    readItems ρ n (w ++ t) = readItems ρ n t := by
  cases n with
  | zero => rfl
  | succ n => simp only [readItems, readValue_skip hw]

theorem readFields_skip {w t : Text} (hw : ∀ c ∈ w, isSpace c) (n : ℕ) :
    readFields ρ n (w ++ t) = readFields ρ n t := by
  cases n with
  | zero => rfl
  | succ n => simp only [readFields, skipSpace_append hw]

/-- Reading the text of a value gives another, whatever follows. -/
def ReadsTo (σ : Style S N) (ρ : Reader S N) (j j' : Json S N) : Prop :=
  ∀ n rest, (render σ j).length ≤ n → (∀ c ∈ rest.head?, isTokenChar c = false) →
    readValue ρ n (render σ j ++ rest) = some (j', rest)

/-- Reading the text of a value, whatever follows it. -/
def ReadsBack (σ : Style S N) (ρ : Reader S N) (j : Json S N) : Prop := ReadsTo σ ρ j j

theorem readItems_render (hσ : σ.Lawful ρ goodStr goodNum) {items : List (Json S N)} :
    ∀ (x : Json S N) (n : ℕ) (rest : Text), (∀ y ∈ x :: items, ReadsTo σ ρ y y.collapse) →
      ((44 :: σ.itemSpace).intercalate (renderItems σ (x :: items))).length < n →
      readItems ρ n ((44 :: σ.itemSpace).intercalate (renderItems σ (x :: items)) ++ 93 :: rest) =
        some ((x :: items).map collapse, rest) := by
  induction items with
  | nil =>
    intro x n rest hread hn
    obtain ⟨m, rfl⟩ : ∃ m, n = m + 1 := ⟨n - 1, by omega⟩
    simp only [renderItems, List.intercalate_singleton] at hn ⊢
    have hx := hread x List.mem_cons_self m (93 :: rest) (by omega) (by simp [isTokenChar])
    simp [readItems, hx, skipSpace_cons (c := 93) rfl]
  | cons y items ih =>
    intro x n rest hread hn
    obtain ⟨m, rfl⟩ : ∃ m, n = m + 1 := ⟨n - 1, by omega⟩
    simp only [renderItems, List.intercalate_cons_cons] at hn ih ⊢
    simp only [List.length_append, List.length_cons] at hn
    set tail := (44 :: σ.itemSpace).intercalate (render σ y :: renderItems σ items) with htail
    have hx := hread x List.mem_cons_self m (44 :: (σ.itemSpace ++ (tail ++ 93 :: rest))) (by omega)
      (by simp [isTokenChar])
    have hmore := ih y m rest (fun z hz => hread z (List.mem_cons_of_mem _ hz))
      (by rw [← htail]; omega)
    rw [← htail, ← readItems_skip hσ.itemSpace] at hmore
    simp only [List.append_assoc, List.cons_append] at hx ⊢
    simp [readItems, hx, hmore, skipSpace_cons (c := 44) rfl]

theorem readFields_render (hσ : σ.Lawful ρ goodStr goodNum) {fields : List (S × Json S N)} :
    ∀ (f : S × Json S N) (n : ℕ) (rest : Text), (∀ g ∈ f :: fields, goodStr g.1) →
      (∀ g ∈ f :: fields, ReadsTo σ ρ g.2 g.2.collapse) →
      ((44 :: σ.itemSpace).intercalate (renderFields σ (f :: fields))).length < n →
      readFields ρ n
          ((44 :: σ.itemSpace).intercalate (renderFields σ (f :: fields)) ++ 125 :: rest) =
        some ((f :: fields).map fun g => (g.1, g.2.collapse), rest) := by
  induction fields with
  | nil =>
    intro f n rest hkeys hread hn
    obtain ⟨m, rfl⟩ : ∃ m, n = m + 1 := ⟨n - 1, by omega⟩
    obtain ⟨k, v⟩ := f
    simp only [renderFields, List.intercalate_singleton, List.length_append, List.length_cons]
      at hn ⊢
    have hk := hσ.readString_stringBody k (hkeys _ List.mem_cons_self)
      (58 :: (σ.keySpace ++ (render σ v ++ 125 :: rest)))
    have hv := hread (k, v) List.mem_cons_self m (125 :: rest) (by simp only; omega)
      (by simp [isTokenChar])
    rw [← readValue_skip hσ.keySpace] at hv
    simp only [List.append_assoc, List.cons_append] at hk hv ⊢
    simp [readFields, hk, hv, skipSpace_cons, isSpace, expect]
  | cons g fields ih =>
    intro f n rest hkeys hread hn
    obtain ⟨m, rfl⟩ : ∃ m, n = m + 1 := ⟨n - 1, by omega⟩
    obtain ⟨k, v⟩ := f
    obtain ⟨k', v'⟩ := g
    simp only [renderFields, List.intercalate_cons_cons] at hn ih ⊢
    simp only [List.length_append, List.length_cons] at hn
    set tail := (44 :: σ.itemSpace).intercalate
      ((34 :: (σ.stringBody k' ++ 58 :: (σ.keySpace ++ render σ v'))) :: renderFields σ fields)
      with htail
    have hk := hσ.readString_stringBody k (hkeys _ List.mem_cons_self)
      (58 :: (σ.keySpace ++ (render σ v ++ 44 :: (σ.itemSpace ++ (tail ++ 125 :: rest)))))
    have hv := hread (k, v) List.mem_cons_self m (44 :: (σ.itemSpace ++ (tail ++ 125 :: rest)))
      (by simp only; omega) (by simp [isTokenChar])
    have hmore := ih (k', v') m rest (fun z hz => hkeys z (List.mem_cons_of_mem _ hz))
      (fun z hz => hread z (List.mem_cons_of_mem _ hz)) (by rw [← htail]; omega)
    rw [← htail, ← readFields_skip hσ.itemSpace] at hmore
    rw [← readValue_skip hσ.keySpace] at hv
    simp only [List.append_assoc, List.cons_append] at hk hv ⊢
    simp [readFields, hk, hv, hmore, skipSpace_cons, isSpace, expect]

/-- A lawful style is read back but for repeated keys, and the reader stops where the value ends. -/
theorem readsTo_collapse (hσ : σ.Lawful ρ goodStr goodNum) {j : Json S N}
    (hj : Writable goodStr goodNum j) : ReadsTo σ ρ j j.collapse := by
  induction hj with
  | null =>
    intro n rest hn hrest
    obtain ⟨m, rfl⟩ : ∃ m, n = m + 1 := ⟨n - 1, by simp [render, codes] at hn; omega⟩
    exact readValue_token null_token.1 null_token.2 rfl hrest
  | bool b =>
    intro n rest hn hrest
    obtain ⟨m, rfl⟩ : ∃ m, n = m + 1 := ⟨n - 1, by cases b <;> simp [render, codes] at hn <;> omega⟩
    cases b with
    | false => exact readValue_token false_token.1 false_token.2 rfl hrest
    | true => exact readValue_token true_token.1 true_token.2 rfl hrest
  | @num x hx =>
    intro n rest hn hrest
    have hpos := List.length_pos_of_ne_nil (hσ.number_ne x hx)
    obtain ⟨m, rfl⟩ : ∃ m, n = m + 1 := ⟨n - 1, by simp only [render] at hn; omega⟩
    exact readValue_token (hσ.number_ne x hx) (hσ.number_token x hx) (hσ.readToken_number x hx) hrest
  | @str s hs =>
    intro n rest hn _
    simp only [render, List.length_cons] at hn
    obtain ⟨m, rfl⟩ : ∃ m, n = m + 1 := ⟨n - 1, by omega⟩
    have hread := hσ.readString_stringBody s hs rest
    simp [render, readValue, skipSpace_cons, isSpace, hread, collapse]
  | @arr items hitems ih =>
    intro n rest hn _
    simp only [render, List.length_cons, List.length_append] at hn
    obtain ⟨m, rfl⟩ : ∃ m, n = m + 1 := ⟨n - 1, by omega⟩
    cases items with
    | nil => simp [render, renderItems, readValue, skipSpace_cons, isSpace]
    | cons x items =>
      have hmore := readItems_render hσ x m rest ih (by simp only [List.length_nil] at hn; omega)
      obtain ⟨c, t, ht, hspace, hclose⟩ := head_render hσ (hitems x List.mem_cons_self)
      obtain ⟨u, hu⟩ := exists_intercalate_cons (44 :: σ.itemSpace) (render σ x) (renderItems σ items)
      have hopen : (44 :: σ.itemSpace).intercalate (renderItems σ (x :: items)) ++ 93 :: rest =
          c :: (t ++ (u ++ 93 :: rest)) := by
        rw [renderItems, hu, ht]
        simp
      rw [hopen] at hmore
      have hskip := skipSpace_cons (t := t ++ (u ++ 93 :: rest)) hspace
      simp [render, readValue, skipSpace_cons, isSpace, hopen, hskip, hclose, hmore]
  | @obj fields hkeys _ ih =>
    intro n rest hn _
    simp only [render, List.length_cons, List.length_append] at hn
    obtain ⟨m, rfl⟩ : ∃ m, n = m + 1 := ⟨n - 1, by omega⟩
    cases fields with
    | nil => simp [render, renderFields, readValue, skipSpace_cons, isSpace, ofEntries]
    | cons f fields =>
      have hmore := readFields_render hσ f m rest hkeys ih
        (by simp only [List.length_nil] at hn; omega)
      obtain ⟨k, v⟩ := f
      obtain ⟨u, hu⟩ := exists_intercalate_cons (44 :: σ.itemSpace)
        (34 :: (σ.stringBody k ++ 58 :: (σ.keySpace ++ render σ v))) (renderFields σ fields)
      have hopen : (44 :: σ.itemSpace).intercalate (renderFields σ ((k, v) :: fields)) ++ 125 :: rest =
          34 :: (σ.stringBody k ++ 58 :: (σ.keySpace ++ render σ v) ++ (u ++ 125 :: rest)) := by
        rw [renderFields, hu]
        simp
      rw [hopen] at hmore
      have hskip := skipSpace_cons (c := 34)
        (t := σ.stringBody k ++ 58 :: (σ.keySpace ++ render σ v) ++ (u ++ 125 :: rest)) rfl
      simp only [render, List.cons_append, List.append_assoc, readValue,
        skipSpace_cons (c := 123) rfl] at hopen hmore hskip ⊢
      simp [hopen, hskip, hmore]

/-- A lawful style is read back, and the reader stops where the value ends. -/
theorem readsBack (hσ : σ.Lawful ρ goodStr goodNum) {j : Json S N}
    (hj : Readable goodStr goodNum j) : ReadsBack σ ρ j := by
  have h := readsTo_collapse hσ hj.writable
  rwa [hj.collapse_eq] at h

theorem parse_of_readsTo {j j' : Json S N} (h : ReadsTo σ ρ j j') :
    parse ρ (render σ j) = some j' := by
  have hread := h ((render σ j).length + 1) [] (by omega) (by simp)
  rw [List.append_nil] at hread
  simp [parse, hread, skipSpace]

/-- The text of a value that repeats keys gives back what is left of it. -/
theorem parse_render_collapse (hσ : σ.Lawful ρ goodStr goodNum) {j : Json S N}
    (hj : Writable goodStr goodNum j) : parse ρ (render σ j) = some j.collapse :=
  parse_of_readsTo (readsTo_collapse hσ hj)

/-- A value is read back from its text. -/
theorem parse_render (hσ : σ.Lawful ρ goodStr goodNum) {j : Json S N}
    (hj : Readable goodStr goodNum j) : parse ρ (render σ j) = some j :=
  parse_of_readsTo (readsBack hσ hj)

omit [DecidableEq S] in
theorem render_arr_congr {f : Json S N → Json S N} {items : List (Json S N)}
    (h : ∀ x ∈ items, render σ (f x) = render σ x) :
    render σ (.arr (items.map f)) = render σ (.arr items) := by
  have hitems : items.map (render σ ∘ f) = items.map (render σ) := List.map_congr_left h
  rw [render, render, renderItems_eq_map, renderItems_eq_map, List.map_map, hitems]

omit [DecidableEq S] in
theorem render_obj_congr {k : S → S} {v : Json S N → Json S N} {fields : List (S × Json S N)}
    (hk : ∀ s, σ.stringBody (k s) = σ.stringBody s)
    (h : ∀ f ∈ fields, render σ (v f.2) = render σ f.2) :
    render σ (.obj (fields.map fun f => (k f.1, v f.2))) = render σ (.obj fields) := by
  rw [render, render, renderFields_eq_map, renderFields_eq_map, List.map_map]
  congr 3
  exact List.map_congr_left fun f hf => by simp only [Function.comp_apply, hk, h f hf]

omit [DecidableEq S] in
/-- Numbers may be replaced by what they are written as. -/
theorem render_bindNum {f : N → Json S N} (hf : ∀ x, render σ (f x) = σ.number x) (j : Json S N) :
    render σ (j.bindNum f) = render σ j := by
  induction j with
  | null | bool _ | str _ => rfl
  | num x => exact hf x
  | arr items ih =>
    rw [bindNum_arr]
    exact render_arr_congr ih
  | obj fields ih =>
    rw [bindNum_obj]
    exact render_obj_congr (k := id) (fun _ => rfl) ih

omit [DecidableEq S] in
/-- Strings may be replaced by others that are written alike. -/
theorem render_mapStr {f : S → S} (hf : ∀ s, σ.stringBody (f s) = σ.stringBody s) (j : Json S N) :
    render σ (j.mapStr f) = render σ j := by
  induction j with
  | null | bool _ | num _ => rfl
  | str s => rw [mapStr, render, render, hf]
  | arr items ih =>
    rw [mapStr_arr]
    exact render_arr_congr ih
  | obj fields ih =>
    rw [mapStr_obj]
    exact render_obj_congr hf ih

end Laws

/-- A first field that is a string can be told from the text of an object, whatever follows it. -/
theorem render_obj_str (hσ : σ.Lawful ρ goodStr goodNum) {k s s' : S} {f f' : S × Json S N}
    {fields fields' : List (S × Json S N)} (hs : goodStr s) (hs' : goodStr s')
    (h : render σ (.obj ((k, .str s) :: f :: fields)) = render σ (.obj ((k, .str s') :: f' :: fields'))) :
    s = s' ∧ render σ (.obj (f :: fields)) = render σ (.obj (f' :: fields')) := by
  have htext (s : S) (f : S × Json S N) (fields : List (S × Json S N)) :
      render σ (.obj ((k, .str s) :: f :: fields)) =
        (123 :: 34 :: (σ.stringBody k ++ 58 :: (σ.keySpace ++ [34]))) ++ (σ.stringBody s ++
          ((44 :: σ.itemSpace) ++ ((44 :: σ.itemSpace).intercalate (renderFields σ (f :: fields)) ++ [125]))) := by
    obtain ⟨k', v⟩ := f
    simp [render, renderFields, List.intercalate]
  rw [htext, htext] at h
  have hread := congrArg ρ.readString (List.append_cancel_left h)
  rw [hσ.readString_stringBody s hs, hσ.readString_stringBody s' hs'] at hread
  obtain ⟨hsame, hrest⟩ := Prod.mk.inj (Option.some.inj hread)
  refine ⟨hsame, ?_⟩
  rw [render, render, List.append_cancel_left hrest]

end Json
