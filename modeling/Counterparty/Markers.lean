import Counterparty.Library.JsonMentions
import Counterparty.VerificationSpec

/-! Manipulation markers: the scan of an output's text is a scan of its strings. -/
namespace Counterparty

open Json Infix

variable {m : String} {s : PyStr} {output : PyJson}

/-! Lowered text. -/

/-- The style of `dumpsUnicode`. -/
def unicodeStyle : Style PyStr PyNumber where
  itemSpace := [32]
  keySpace := [32]
  stringBody := fun s => s.flatMap (fun c => escape (fun c => 32 ≤ c) c.val) ++ [34]
  number := numberText

def lowerPoint (c : ℕ) : Text := lower [c]

theorem lower_eq_flatMap (t : Text) : lower t = t.flatMap lowerPoint := by
  rw [lower]
  congr 1
  funext c
  simp [lowerPoint, lower]

theorem kept_lowerPoint : unicodeStyle.Kept lowerPoint := by
  refine ⟨?_, ?_, ?_, ?_⟩ <;> decide

theorem lower_dumpsUnicode (output : PyJson) :
    lower (dumpsUnicode output) = render (unicodeStyle.rewrite lowerPoint) output.sortKeys := by
  rw [lower_eq_flatMap, ← flatMap_render kept_lowerPoint]
  rfl

theorem mem_lowerPoint {c : ℕ} (h : 32 ∈ lowerPoint c) : c = 32 := by
  simp only [lowerPoint, lower, List.flatMap_cons, List.flatMap_nil, List.append_nil] at h
  split_ifs at h <;> simp at h <;> omega

/-! Markers. -/

theorem injectionMarkers_spec : ∀ m ∈ injectionMarkers,
    (∀ c ∈ [34, 44, 58, 91, 92, 93, 123, 125], c ∉ codes m) ∧ (codes m).head? ≠ some 32 ∧
      32 ∈ codes m ∧ ∀ c ∈ codes m, 32 ≤ c := by decide +kernel

/-- A marker is a phrase of several words, so no number and no keyword contains it. -/
theorem phrase_of_marker (hm : m ∈ injectionMarkers) :
    ∃ c word, codes m = c :: word ∧ Phrase (unicodeStyle.rewrite lowerPoint) c word := by
  obtain ⟨hmarks, hhead, hspace, -⟩ := injectionMarkers_spec m hm
  obtain ⟨c, word, hcodes⟩ := List.exists_cons_of_ne_nil (List.ne_nil_of_mem hspace)
  rw [hcodes] at hmarks hhead hspace
  have hc : c ≠ 32 := by simpa using hhead
  refine ⟨c, word, hcodes, ?_, by simpa [Style.rewrite, unicodeStyle] using hc,
    by simpa [Style.rewrite, unicodeStyle] using hc, ?_, ?_⟩
  · intro d hd
    exact hmarks d (by revert d; decide)
  · intro w hw hinside
    have hnone : ∀ w ∈ [codes "null", codes "true", codes "false"], 32 ∉ w := by decide
    exact hnone w hw (hinside.subset hspace)
  · intro x hinside
    obtain ⟨d, hd, hlow⟩ := List.mem_flatMap.1 (hinside.subset hspace)
    have htoken := (numberText_token x).2 d hd
    rw [mem_lowerPoint hlow] at htoken
    cases htoken

/-! Strings. -/

theorem lower_text (s : PyStr) : lower s.text = s.flatMap fun c => lowerPoint c.val := by
  rw [lower_eq_flatMap, PyStr.text, List.flatMap_map]

theorem body_rewrite (s : PyStr) : (unicodeStyle.rewrite lowerPoint).stringBody s =
    (s.flatMap fun c => (escape (fun c => 32 ≤ c) c.val).flatMap lowerPoint) ++ [34] := by
  simp only [Style.rewrite, unicodeStyle, List.flatMap_append, List.flatMap_assoc]
  rfl

/-- A code point is written as itself, or it is a quote, a backslash or a control character. -/
theorem escape_cases (c : ℕ) : escape (fun c => 32 ≤ c) c = [c] ∨ c = 34 ∨ c = 92 ∨ c < 32 := by
  by_cases hspecial : c = 34 ∨ c = 92 ∨ c < 32
  · exact .inr hspecial
  · push Not at hspecial
    have hshort : shortEscape c = none := shortEscape_eq_none (by omega) (by omega) (by omega)
    rw [escape, hshort]
    exact .inl (if_pos (decide_eq_true hspecial.2.2))

theorem lowerPoint_low {c : ℕ} (h : c = 34 ∨ c = 92 ∨ c < 32) : lowerPoint c = [c] := by
  have hrange : ¬(65 ≤ c ∧ c ≤ 90) ∧ c ≠ 0x130 ∧ c ≠ 0x212A := by omega
  simp [lowerPoint, lower, hrange]

/-- Escaping does not break a marker: it has none of the characters that are escaped. -/
theorem infix_body_of_text (hm : m ∈ injectionMarkers) (h : codes m <:+: lower s.text) :
    codes m <:+: (unicodeStyle.rewrite lowerPoint).stringBody s := by
  obtain ⟨hmarks, -, hspace, hplain⟩ := injectionMarkers_spec m hm
  rw [lower_text] at h
  rw [body_rewrite]
  refine (infix_flatMap (List.ne_nil_of_mem hspace) (fun c _ => ?_) h).trans
    (List.prefix_append _ _).isInfix
  rcases escape_cases c.val with hsame | hspecial
  · refine .inl ?_
    rw [hsame, List.flatMap_cons, List.flatMap_nil, List.append_nil]
  · rw [lowerPoint_low hspecial]
    refine .inr ⟨List.cons_ne_nil _ _, fun d hd => ?_⟩
    obtain rfl := List.mem_singleton.1 hd
    rcases hspecial with hquote | hslash | hcontrol
    · exact hquote ▸ hmarks 34 (by decide)
    · exact hslash ▸ hmarks 92 (by decide)
    · exact fun hmem => absurd (hplain _ hmem) (not_le.2 hcontrol)

/-- Without control characters escaping does not make a marker up: what it adds are quotes and
backslashes. -/
theorem infix_text_of_body (hm : m ∈ injectionMarkers) (hs : ∀ c ∈ s, 32 ≤ c.val)
    (h : codes m <:+: (unicodeStyle.rewrite lowerPoint).stringBody s) :
    codes m <:+: lower s.text := by
  obtain ⟨hmarks, -, hspace, -⟩ := injectionMarkers_spec m hm
  have hne := List.ne_nil_of_mem hspace
  rw [body_rewrite, infix_append_cons_iff (hmarks 34 (by decide))] at h
  rw [lower_text]
  refine infix_flatMap hne (fun c hc => ?_) (h.resolve_right (by simpa using hne))
  rcases escape_cases c.val with hsame | hquote | hslash | hcontrol
  · refine .inl ?_
    rw [hsame, List.flatMap_cons, List.flatMap_nil, List.append_nil]
  · have hescaped : (escape (fun c => 32 ≤ c) 34).flatMap lowerPoint = [92, 34] := by decide
    rw [hquote, hescaped]
    exact .inr ⟨List.cons_ne_nil _ _, by simpa using ⟨hmarks 92 (by decide), hmarks 34 (by decide)⟩⟩
  · have hescaped : (escape (fun c => 32 ≤ c) 92).flatMap lowerPoint = [92, 92] := by decide
    rw [hslash, hescaped]
    exact .inr ⟨List.cons_ne_nil _ _, by simpa using hmarks 92 (by decide)⟩
  · exact absurd (hs c hc) (not_le.2 hcontrol)

/-! The probe. -/

theorem infix_dumpsUnicode_iff (hm : m ∈ injectionMarkers) (output : PyJson) :
    codes m <:+: lower (dumpsUnicode output) ↔
      ∃ s, output.Mentions s ∧ codes m <:+: (unicodeStyle.rewrite lowerPoint).stringBody s := by
  obtain ⟨c, word, hcodes, hphrase⟩ := phrase_of_marker hm
  rw [lower_dumpsUnicode, hcodes, infix_render_iff hphrase]
  exact exists_congr fun s => and_congr mentions_sortKeys Iff.rfl

theorem mem_markerHits : m ∈ markerHits output ↔
    m ∈ injectionMarkers ∧ codes m <:+: lower (dumpsUnicode output) := by
  simp [markerHits]

theorem injectionProbe_markers (h : m ∈ markerHits output) :
    (injectionProbe output).state = .fail ∧ ∃ markers,
      field (injectionProbe output).evidence "markers" = some (.arr markers) ∧ pyText m ∈ markers := by
  have hne : markerHits output ≠ [] := List.ne_nil_of_mem h
  rw [injectionProbe, if_pos hne]
  refine ⟨rfl, (markerHits output).map pyText, ?_, List.mem_map_of_mem h⟩
  simp [field_dict]

/-- Over every output: a marker in a key or a string value at any depth is reported, and where no
string holds one, and none holds a control character, the probe passes. -/
theorem injection_probe_reads_strings (output : PyJson) :
    (∀ s, output.Mentions s → ∀ m ∈ injectionMarkers, codes m <:+: lower s.text →
      (injectionProbe output).state = .fail ∧ ∃ markers,
        field (injectionProbe output).evidence "markers" = some (.arr markers) ∧
          pyText m ∈ markers) ∧
    ((∀ s, output.Mentions s → (∀ c ∈ s, 32 ≤ c.val) ∧
        ∀ m ∈ injectionMarkers, ¬codes m <:+: lower s.text) →
      (injectionProbe output).state = .pass) := by
  constructor
  · intro s hs m hm hword
    exact injectionProbe_markers (mem_markerHits.2
      ⟨hm, (infix_dumpsUnicode_iff hm output).2 ⟨s, hs, infix_body_of_text hm hword⟩⟩)
  · intro hclean
    rw [injectionProbe_pass_iff]
    rintro ⟨m, hm, hword⟩
    obtain ⟨s, hs, hbody⟩ := (infix_dumpsUnicode_iff hm output).1 hword
    obtain ⟨hplain, hnone⟩ := hclean s hs
    exact hnone m hm (infix_text_of_body hm hplain hbody)

end Counterparty
