import FacetSearch.Proofs.Cells
import FacetSearch.Text.UpperCase
/-!
# Spellings of identifiers

A text spells an identifier if its ASCII letters and digits are 32 hexadecimal digits, whatever stands between them and
in whichever case they are; its normal form is these digits in lower case, in groups of 8, 4, 4, 4 and 12. So texts that
differ only in what is passed over, or in the case of ASCII letters, have the same normal form, or fail alike, and the
normal form decides which identifier is meant (`Uuid.normalize_respelled`). A change of case that turns other letters
into ASCII letters is another matter (`Uuid.normalize_ligature`).
-/

namespace FacetSearch.Uuid

/-- The characters of a text that count. -/
def significant (s : String) : List Char := s.toList.filter isSignificant

/-- The identifier that a text spells, in lower case with hyphens. -/
def normalize (s : String) : Except UuidFault String := (parse s).map text

/-- A hexadecimal digit in either case. -/
def IsHexDigit (c : Char) : Prop := ('0' ≤ c ∧ c ≤ '9') ∨ ('a' ≤ c ∧ c ≤ 'f') ∨ ('A' ≤ c ∧ c ≤ 'F')

/-- The characters, in five groups with hyphens between them, are the text. -/
def Hyphenated (cs text : List Char) : Prop := ∃ groups : List (List Char),
  groups.map List.length = [8, 4, 4, 4, 12] ∧ groups.flatten = cs ∧ ['-'].intercalate groups = text

/-- Two texts have the same ASCII letters, in any case, and the same digits; what else they hold may differ everywhere. -/
inductive Respelled : List Char → List Char → Prop
  | nil : Respelled [] []
  | letter {c d cs ds} (h : c.toLower = d.toLower) (hs : Respelled cs ds) : Respelled (c :: cs) (d :: ds)
  | passed {xs ys cs ds} (hx : ∀ x ∈ xs, isSignificant x = false) (hy : ∀ y ∈ ys, isSignificant y = false)
    (hs : Respelled cs ds) : Respelled (xs ++ cs) (ys ++ ds)

/-! ## Case -/

theorem isSignificant_toLower (c : Char) : isSignificant c.toLower = isSignificant c := by
  by_cases hc : c.toNat < 128
  · exact Name.of_ascii (P := fun c => isSignificant c.toLower = isSignificant c) (by decide) hc
  · rw [toLower_of_beyondAscii (Nat.le_of_not_lt hc)]

theorem isSignificant_eq {c d : Char} (h : c.toLower = d.toLower) : isSignificant c = isSignificant d := by
  rw [← isSignificant_toLower c, h, isSignificant_toLower]

theorem isHexDigit_iff {c : Char} : IsHexDigit c ↔ ∃ d, hexValue? c = some d := by
  unfold IsHexDigit hexValue?
  split
  · simp [*]
  · split
    · simp [*]
    · split
      · simp [*]
      · simp [*]

/-! ## What decides -/

/-- The letters and digits that two texts have decide how they are read, but for their case. -/
theorem parse_congr {s t : String} (h : (significant s).map Char.toLower = (significant t).map Char.toLower) :
    parse s = parse t := by
  have hlength : (significant s).length = (significant t).length := by simpa using congrArg List.length h
  have hvalues : (significant s).mapM hexValue? = (significant t).mapM hexValue? := by
    ext ds
    rw [mapM_hexValue?_eq_some, mapM_hexValue?_eq_some, h]
  unfold significant at hlength hvalues
  unfold parse
  simp only [hlength, hvalues]

/-- Which digits a text has is all that is lost of them: two identifiers with one text are the same. -/
theorem text_injective {u v : Uuid} (h : u.text = v.text) : u = v := by
  have hread := u.parse_text
  rw [h, parse_text] at hread
  exact (Except.ok.inj hread).symm

theorem normalize_eq_ok {s t : String} : normalize s = .ok t ↔ ∃ u, parse s = .ok u ∧ u.text = t := by
  unfold normalize
  cases parse s with
  | ok u => simp [Except.map]
  | error f => simp [Except.map]

/-- There is one way to put the digits into groups. -/
theorem hyphenated_iff {u : Uuid} {cs : List Char} : Hyphenated (u.digits.map hexChar) cs ↔ cs = u.text.toList := by
  have hlength : (u.digits.map hexChar).length = 32 := (List.length_map _).trans u.length_eq
  generalize hds : u.digits.map hexChar = ds at hlength
  have htext : u.text.toList = ['-'].intercalate
      [ds.take 8, (ds.drop 8).take 4, (ds.drop 12).take 4, (ds.drop 16).take 4, ds.drop 20] := by
    simp [text, hds, List.intercalate]
  constructor
  · rintro ⟨groups, hlengths, rfl, rfl⟩
    simp only [List.map_eq_cons_iff, List.map_eq_nil_iff] at hlengths
    obtain ⟨a, _, rfl, ha, b, _, rfl, hb, c, _, rfl, hc, d, _, rfl, hd, e, _, rfl, he, rfl⟩ := hlengths
    rw [htext]
    simp [List.drop_append, List.drop_eq_nil_of_le, ha, hb, hc, hd]
  · rintro rfl
    refine ⟨_, ?_, ?_, htext.symm⟩
    · simp [hlength]
    · have hjoin := take_append_drop_drop ds
      simp [hjoin 16 4, hjoin 12 4, hjoin 8 4]

/-! ## Spellings -/

theorem significant_of_respelled {cs ds : List Char} (h : Respelled cs ds) :
    (cs.filter isSignificant).map Char.toLower = (ds.filter isSignificant).map Char.toLower := by
  induction h with
  | nil => rfl
  | letter h _ ih =>
    rw [List.filter_cons, List.filter_cons, isSignificant_eq h]
    split
    · rw [List.map_cons, List.map_cons, h, ih]
    · exact ih
  | passed hx hy _ ih =>
    have hpassed {zs : List Char} (hz : ∀ z ∈ zs, isSignificant z = false) : zs.filter isSignificant = [] := by
      simpa [List.filter_eq_nil_iff] using hz
    rw [List.filter_append, List.filter_append, hpassed hx, hpassed hy]
    exact ih

/-- A text has a normal form if it has the right letters and digits. -/
theorem exists_normalize {s : String} :
    (∃ t, normalize s = .ok t) ↔ (significant s).length = 32 ∧ ∀ c ∈ significant s, IsHexDigit c := by
  simp only [normalize_eq_ok, parse_eq_ok_iff, isHexDigit_iff]
  constructor
  · rintro ⟨_, u, hu, rfl⟩
    have hvalues := mapM_eq_some.1 (mapM_hexValue?_eq_some.2 hu)
    refine ⟨hvalues.length_eq.trans u.length_eq, fun c hc => ?_⟩
    obtain ⟨d, -, hd⟩ := exists_of_mem_left hvalues hc
    exact ⟨d, hd⟩
  · rintro ⟨hlength, hall⟩
    obtain ⟨ds, hds⟩ := exists_forall₂ hall
    exact ⟨_, ⟨ds, hds.length_eq.symm.trans hlength⟩, mapM_hexValue?_eq_some.1 (mapM_eq_some.2 hds), rfl⟩

/-- A text has a normal form if its ASCII letters and digits are 32 hexadecimal digits, and these are then what the normal
form consists of, in lower case. It is its own normal form. Texts with the same digits, in any case and whatever stands
between them, have one normal form, and texts with others do not; all texts that spell an identifier are literals for it. -/
theorem normalize_respelled :
    (∀ s, (∃ t, normalize s = .ok t) ↔ (significant s).length = 32 ∧ ∀ c ∈ significant s, IsHexDigit c) ∧
    (∀ s t, normalize s = .ok t → Hyphenated ((significant s).map Char.toLower) t.toList) ∧
    (∀ s t, normalize s = .ok t → normalize t = .ok t) ∧
    (∀ s t, Respelled s.toList t.toList → normalize s = normalize t) ∧
    (∀ s t a b, normalize s = .ok a → normalize t = .ok b →
      (a = b ↔ (significant s).map Char.toLower = (significant t).map Char.toLower)) ∧
    ∀ s u column, normalize s = .ok u.text → ColumnType.uuid.coerce (.text s) column = .ok (.uuid u) := by
  have hread {s t : String} (h : normalize s = .ok t) :
      ∃ u, parse s = .ok u ∧ u.text = t ∧ (significant s).map Char.toLower = u.digits.map hexChar := by
    obtain ⟨u, hu, rfl⟩ := normalize_eq_ok.1 h
    exact ⟨u, hu, rfl, parse_eq_ok_iff.1 hu⟩
  refine ⟨fun s => exists_normalize, fun s t h => ?_, fun s t h => ?_, fun s t h => ?_, fun s t a b hs ht => ?_,
    fun s u column h => ?_⟩
  · obtain ⟨u, -, rfl, hdigits⟩ := hread h
    rw [hdigits]
    exact hyphenated_iff.2 rfl
  · obtain ⟨u, -, rfl, -⟩ := hread h
    exact normalize_eq_ok.2 ⟨u, u.parse_text, rfl⟩
  · unfold normalize
    rw [parse_congr (significant_of_respelled h)]
  · obtain ⟨u, hu, rfl, hdigits⟩ := hread hs
    obtain ⟨v, hv, rfl, hdigits'⟩ := hread ht
    constructor
    · intro h
      rw [hdigits, hdigits', text_injective h]
    · intro h
      rw [parse_congr h, hv] at hu
      rw [Except.ok.inj hu]
  · obtain ⟨v, hv, htext, -⟩ := hread h
    obtain rfl := text_injective htext
    have hliteral : ColumnType.uuid.literal? (.text s) = (ColumnType.uuidOf? (.text s)).map .uuid := rfl
    have hof : ColumnType.uuidOf? (.text s) = some v := toOption_eq_some.2 hv
    exact ColumnType.coerce_of_literal? (by rw [hliteral, hof, Option.map_some]) column

/-! ### Braces, and a ligature -/

/-- An identifier between braces, in capitals, and without hyphens where its normal form has them. -/
def braced : String := "\x7b6A1F0B1E0D3C-4C559D4E-0F2A6F6F0001\x7d"

theorem normalize_braced : ∃ u : Uuid, u.text = "6a1f0b1e-0d3c-4c55-9d4e-0f2a6f6f0001" ∧ normalize braced = .ok u.text ∧
    ColumnType.uuid.coerce (.text braced) none = .ok (.uuid u) := by
  obtain ⟨u, hu, htext⟩ : ∃ u, parse braced = .ok u ∧ u.text = "6a1f0b1e-0d3c-4c55-9d4e-0f2a6f6f0001" := ⟨_, rfl, rfl⟩
  have hread : normalize braced = .ok u.text := normalize_eq_ok.2 ⟨u, hu, rfl⟩
  exact ⟨u, htext, hread, normalize_respelled.2.2.2.2.2 braced u none hread⟩

/-- A text that ends in a letter whose capital form is two letters. -/
def ligature : String := "6a1f0b1e-0d3c-4c55-9d4e-0f2a6f6f00ﬀ"

/-- In capitals the text spells an identifier, as it stands it does not. -/
theorem normalize_ligature : Text.upper ligature = "6A1F0B1E-0D3C-4C55-9D4E-0F2A6F6F00FF" ∧
    normalize (Text.upper ligature) = .ok "6a1f0b1e-0d3c-4c55-9d4e-0f2a6f6f00ff" ∧
    normalize ligature = .error (.length 30) ∧ ¬∀ s, normalize (Text.upper s) = normalize s := by
  have hupper : Text.upper ligature = "6A1F0B1E-0D3C-4C55-9D4E-0F2A6F6F00FF" := by rfl
  have hcapital : normalize (Text.upper ligature) = .ok "6a1f0b1e-0d3c-4c55-9d4e-0f2a6f6f00ff" := by
    rw [hupper]
    rfl
  have hsmall : normalize ligature = .error (.length 30) := by rfl
  refine ⟨hupper, hcapital, hsmall, ?_⟩
  intro h
  have heq := h ligature
  rw [hcapital, hsmall] at heq
  cases heq

end FacetSearch.Uuid
