import Mathlib.Data.List.TakeWhile
import Counterparty.Arena.JsJson

/-! Strings on their way through `node:sqlite`: how they are bound, and how columns are read. -/
namespace Counterparty.Arena

open Json

def isSurrogate (c : ℕ) : Bool := isHighSurrogate c || isLowSurrogate c

/-- Half of a pair cannot be written in UTF-8; the replacement character is. -/
def boundPoint : JsString → JsString
  | [u] => if isSurrogate u.val then [0xFFFD] else [u]
  | p => p

/-- What a string is bound as. -/
def bindString (s : JsString) : JsString := (points s).flatMap boundPoint

/-- A column is read as a C string. -/
def column {α : Type} [DecidableEq α] [OfNat α 0] (s : List α) : List α := s.takeWhile (· ≠ 0)

/-- Without lone surrogates. -/
def IsWellFormed (s : JsString) : Prop := bindString s = s

instance (s : JsString) : Decidable (IsWellFormed s) := inferInstanceAs (Decidable (_ = _))

def bindText (t : Text) : Text := t.map fun c => if isSurrogate c then 0xFFFD else c

/-- Bound as it is, and read back so. -/
structure ReadsBack (s : JsString) : Prop where
  wellFormed : IsWellFormed s
  noNul : 0 ∉ s

structure TextReadsBack (t : Text) : Prop where
  wellFormed : bindText t = t
  noNul : 0 ∉ t

variable {s : JsString}

theorem column_eq_iff {α : Type} [DecidableEq α] [OfNat α 0] {s : List α} : column s = s ↔ 0 ∉ s := by
  rw [column, List.takeWhile_eq_self_iff]
  constructor
  · intro h hzero
    simpa using h 0 hzero
  · intro h c hc
    simpa using fun hzero : c = 0 => h (hzero ▸ hc)

instance (s : JsString) : Decidable (ReadsBack s) :=
  decidable_of_iff (IsWellFormed s ∧ column s = s)
    ⟨fun h => ⟨h.1, column_eq_iff.1 h.2⟩, fun h => ⟨h.1, column_eq_iff.2 h.2⟩⟩

instance (t : Text) : Decidable (TextReadsBack t) :=
  decidable_of_iff (bindText t = t ∧ column t = t)
    ⟨fun h => ⟨h.1, column_eq_iff.1 h.2⟩, fun h => ⟨h.1, column_eq_iff.2 h.2⟩⟩

theorem length_boundPoint (p : JsString) : (boundPoint p).length = p.length := by
  unfold boundPoint
  split
  · split_ifs <;> rfl
  · rfl

/-- Every unit is bound as one unit. -/
theorem length_bindString (s : JsString) : (bindString s).length = s.length := by
  calc (bindString s).length = ((points s).map fun p => (boundPoint p).length).sum := List.length_flatMap
    _ = ((points s).map List.length).sum := by
      congr 1
      exact List.map_congr_left fun p _ => length_boundPoint p
    _ = (points s).flatten.length := List.length_flatten.symm
    _ = s.length := by rw [flatten_points]

/-- The strings that come back as they were given are the ones without lone surrogates and NULs. -/
theorem readsBack_iff : column (bindString s) = s ↔ ReadsBack s := by
  constructor
  · intro h
    have hprefix : s <+: bindString s := by
      calc s = column (bindString s) := h.symm
        _ <+: bindString s := List.takeWhile_prefix _
    have hbind : s = bindString s := hprefix.eq_of_length (length_bindString s).symm
    rw [← hbind] at h
    exact ⟨hbind.symm, column_eq_iff.1 h⟩
  · rintro ⟨hbind, hzero⟩
    have hbind : bindString s = s := hbind
    rw [hbind, column_eq_iff]
    exact hzero

/-- A unit that is bound and read back as it is: neither half of a pair nor a NUL. -/
def IsKept (c : ℕ) : Bool := !isSurrogate c && c != 0

theorem isKept_iff {c : ℕ} : IsKept c ↔ isSurrogate c = false ∧ c ≠ 0 := by
  simp [IsKept]

theorem readsBack_of_units (h : ∀ u ∈ s, IsKept u.val) : ReadsBack s := by
  refine ⟨?_, ?_⟩
  · have hpoint : ∀ p ∈ points s, boundPoint p = p := by
      intro p hp
      unfold boundPoint
      split
      next u =>
        have hu : u ∈ s := by
          rw [← flatten_points s]
          exact List.mem_flatten_of_mem hp (List.mem_singleton_self u)
        rw [(isKept_iff.1 (h u hu)).1]
        rfl
      next => rfl
    calc bindString s = (points s).flatMap id := List.flatMap_congr hpoint
      _ = s := by rw [List.flatMap_id, flatten_points]
  · intro hzero
    exact (isKept_iff.1 (h 0 hzero)).2 rfl

theorem textReadsBack_of_points {t : Text} (h : ∀ c ∈ t, IsKept c) : TextReadsBack t := by
  refine ⟨?_, fun hzero => (isKept_iff.1 (h 0 hzero)).2 rfl⟩
  calc bindText t = t.map id := by
        refine List.map_congr_left fun c hc => ?_
        rw [(isKept_iff.1 (h c hc)).1]
        rfl
    _ = t := List.map_id t

end Counterparty.Arena
