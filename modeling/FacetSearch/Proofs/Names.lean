import FacetSearch.Proofs.Outcome
import FacetSearch.Sql.Name
import Mathlib
/-!
# Names that get into statements

`IsName` is the form in which names are written: ASCII letters in lower case, digits and underscores, with
no digit in front. Whatever `Name.check` lets through has it (`isName_of_check`), and a name in this form is
left as it is by everything that names go through (`check_name`, `ofValue_name`).
-/

namespace FacetSearch

/-- A name as it is written in statements. -/
structure IsName (s : String) : Prop where
  initial : Name.isName s.toList = true
  lower : ∀ c ∈ s.toList, c.toLower = c

instance (s : String) : Decidable (IsName s) :=
  decidable_of_iff (Name.isName s.toList = true ∧ s.toList.all (fun c => c.toLower = c) = true)
    ⟨fun h => ⟨h.1, List.all_iff_forall_prop.1 h.2⟩, fun h => ⟨h.initial, List.all_iff_forall_prop.2 h.lower⟩⟩

namespace Name

/-! ## Characters of names -/

theorem isInner_of_isInitial {c : Char} (h : isInitial c = true) : isInner c = true := by
  simp only [isInitial, isInner, Char.isAlphanum, Bool.or_eq_true] at h ⊢
  rcases h with h | h
  · exact .inl (.inl h)
  · exact .inr h

theorem isInner_of_isName {cs : List Char} (h : isName cs = true) : ∀ c ∈ cs, isInner c = true := by
  cases cs with
  | nil => simp
  | cons c cs =>
    simp only [isName, Bool.and_eq_true, List.all_eq_true] at h
    intro d hd
    rcases List.mem_cons.1 hd with rfl | hd
    · exact isInner_of_isInitial h.1
    · exact h.2 d hd

theorem toNat_lt_of_isInner {c : Char} (h : isInner c = true) : c.toNat < 128 := by
  simp only [isInner, Char.isAlphanum, Char.isAlpha, Char.isUpper, Char.isLower, Char.isDigit, Bool.or_eq_true,
    Bool.and_eq_true, decide_eq_true_eq, beq_iff_eq] at h
  have hc : c.toNat = c.val.toNat := rfl
  rcases h with ((⟨_, h⟩ | ⟨_, h⟩) | ⟨_, h⟩) | rfl
  · have := UInt32.le_iff_toNat_le.1 h; simp at this; omega
  · have := UInt32.le_iff_toNat_le.1 h; simp at this; omega
  · have := UInt32.le_iff_toNat_le.1 h; simp at this; omega
  · decide

/-- What holds of all ASCII characters may be looked up. -/
theorem of_ascii {P : Char → Prop} (h : ∀ n < 128, P (Char.ofNat n)) {c : Char} (hc : c.toNat < 128) : P c := by
  have := h c.toNat hc
  rwa [Char.ofNat_toNat] at this

theorem isInitial_toLower {c : Char} (h : isInitial c = true) : isInitial c.toLower = true :=
  of_ascii (P := fun c => isInitial c = true → isInitial c.toLower = true) (by decide)
    (toNat_lt_of_isInner (isInner_of_isInitial h)) h

theorem isInner_toLower {c : Char} (h : isInner c = true) : isInner c.toLower = true :=
  of_ascii (P := fun c => isInner c = true → isInner c.toLower = true) (by decide) (toNat_lt_of_isInner h) h

theorem toLower_toLower {c : Char} (h : isInner c = true) : c.toLower.toLower = c.toLower :=
  of_ascii (P := fun c => c.toLower.toLower = c.toLower) (by decide) (toNat_lt_of_isInner h)

theorem isBlank_of_isInner {c : Char} (h : isInner c = true) : Text.isBlank c = false :=
  of_ascii (P := fun c => isInner c = true → Text.isBlank c = false) (by decide) (toNat_lt_of_isInner h) h

/-! ## Lower case and white space -/

/-- The two letters with rules of their own are beyond ASCII. -/
theorem lowerFrom_of_ascii (before : List Char) {cs : List Char} (h : ∀ c ∈ cs, c.toNat < 128) :
    Text.lowerFrom before cs = cs.map Char.toLower := by
  induction cs generalizing before with
  | nil => rfl
  | cons c cs ih =>
    have hc := h c (by simp)
    have hs : c ≠ 'Σ' := by rintro rfl; revert hc; decide
    have hi : c ≠ 'İ' := by rintro rfl; revert hc; decide
    simp only [Text.lowerFrom, if_neg hs, if_neg hi, Text.lowerChar, if_pos hc, List.map_cons, List.singleton_append]
    rw [ih _ fun d hd => h d (by simp [hd])]

theorem lowerFrom_of_inner (before : List Char) {cs : List Char} (h : ∀ c ∈ cs, isInner c = true) :
    Text.lowerFrom before cs = cs.map Char.toLower :=
  lowerFrom_of_ascii before fun c hc => toNat_lt_of_isInner (h c hc)

theorem dropWhile_of_inner {cs : List Char} (h : ∀ c ∈ cs, isInner c = true) :
    cs.dropWhile Text.isBlank = cs := by
  cases cs with
  | nil => rfl
  | cons c cs => simp [isBlank_of_isInner (h c (by simp))]

theorem stripChars_of_inner {cs : List Char} (h : ∀ c ∈ cs, isInner c = true) : Text.stripChars cs = cs := by
  rw [Text.stripChars, Text.trim, dropWhile_of_inner h, Text.dropEndWhile,
    dropWhile_of_inner (fun c hc => h c (List.mem_reverse.1 hc)), List.reverse_reverse]

end Name

/-! ## What is let through -/

namespace IsName

variable {s : String}

theorem inner (h : IsName s) : ∀ c ∈ s.toList, Name.isInner c = true := Name.isInner_of_isName h.initial

theorem toList_ne_nil (h : IsName s) : s.toList ≠ [] := by
  intro hs
  have := h.initial
  rw [hs] at this
  cases this

theorem strip_eq (h : IsName s) : Text.strip s = s := by
  rw [Text.strip, Name.stripChars_of_inner h.inner, String.ofList_toList]

theorem lower_eq (h : IsName s) : Text.lower s = s := by
  rw [Text.lower, Name.lowerFrom_of_inner [] h.inner, List.map_congr_left h.lower, List.map_id',
    String.ofList_toList]

end IsName

namespace Name

theorem check_eq_ok {v : Value} {n : String} :
    check v = .ok n ↔ ∃ s, v = .text s ∧ isName (Text.stripChars s.toList) = true ∧ Text.lower (Text.strip s) = n := by
  cases v with
  | text s =>
    by_cases h : isName (Text.stripChars s.toList) = true <;> simp [check, h]
  | _ => simp [check]

theorem isName_of_check {v : Value} {n : String} (h : check v = .ok n) : IsName n := by
  obtain ⟨s, rfl, hs, rfl⟩ := check_eq_ok.1 h
  have hinner := isInner_of_isName hs
  -- what is left after stripping is ASCII, where lower case goes character by character
  have hl : (Text.lower (Text.strip s)).toList = (Text.stripChars s.toList).map Char.toLower := by
    rw [Text.lower, Text.strip, String.toList_ofList, String.toList_ofList, lowerFrom_of_inner [] hinner]
  constructor
  · rw [hl]
    cases hcs : Text.stripChars s.toList with
    | nil => rw [hcs] at hs; cases hs
    | cons c cs =>
      rw [hcs] at hs
      simp only [isName, List.map_cons, Bool.and_eq_true, List.all_eq_true] at hs ⊢
      refine ⟨isInitial_toLower hs.1, fun d hd => ?_⟩
      obtain ⟨e, he, rfl⟩ := List.mem_map.1 hd
      exact isInner_toLower (hs.2 e he)
  · rw [hl]
    intro c hc
    obtain ⟨d, hd, rfl⟩ := List.mem_map.1 hc
    exact toLower_toLower (hinner d hd)

theorem check_name {s : String} (h : IsName s) : check (.text s) = .ok s := by
  rw [check_eq_ok]
  refine ⟨s, rfl, ?_, ?_⟩
  · rw [stripChars_of_inner h.inner]
    exact h.initial
  · rw [h.strip_eq, h.lower_eq]

theorem ofValue_name {s : String} (h : IsName s) : CatalogName.ofValue (.text s) = .ok (.text s) := by
  have hs : s ≠ "" := by
    rintro rfl
    exact h.toList_ne_nil rfl
  simp [CatalogName.ofValue, Value.isTruthy, hs, CatalogName.normalize, h.strip_eq, h.lower_eq]

/-! ## Names of a catalog -/

theorem column_eq_ok {catalog : Catalog} {table v : Value} {n : String} :
    column catalog table v = .ok n ↔
      check v = .ok n ∧ ∃ t, CatalogName.ofValue table = .ok t ∧ catalog.hasColumn t n = true := by
  simp only [column, bind_eq_ok]
  constructor
  · rintro ⟨m, hm, t, ht, h⟩
    split at h
    · rename_i hc
      obtain rfl := pure_eq_ok.1 h
      exact ⟨hm, t, ht, hc⟩
    · cases h
  · rintro ⟨hn, t, ht, hc⟩
    exact ⟨n, hn, t, ht, by rw [if_pos hc]; rfl⟩

theorem table_eq_ok {catalog : Catalog} {v : Value} {n : String} :
    table catalog v = .ok n ↔ check v = .ok n ∧ catalog.hasTable n = true := by
  simp only [table, bind_eq_ok]
  constructor
  · rintro ⟨m, hm, h⟩
    split at h
    · rename_i ht
      obtain rfl := pure_eq_ok.1 h
      exact ⟨hm, ht⟩
    · cases h
  · rintro ⟨hn, ht⟩
    exact ⟨n, hn, by rw [if_pos ht]; rfl⟩

theorem tableAndKey_eq_ok {catalog : Catalog} {v : Value} {t k : String} :
    tableAndKey catalog v = .ok (t, k) ↔
      table catalog v = .ok t ∧ ∃ key rest, catalog.primaryKey t = key :: rest ∧ check key.toValue = .ok k := by
  simp only [tableAndKey, bind_eq_ok]
  constructor
  · rintro ⟨m, hm, h⟩
    split at h
    · cases h
    · rename_i key rest hk
      obtain ⟨k', hk', h⟩ := bind_eq_ok.1 h
      obtain ⟨rfl, rfl⟩ := Prod.mk.inj (pure_eq_ok.1 h)
      exact ⟨hm, key, rest, hk, hk'⟩
  · rintro ⟨ht, key, rest, hk, hc⟩
    exact ⟨t, ht, by rw [hk]; exact bind_eq_ok.2 ⟨k, hc, rfl⟩⟩

theorem isName_of_column {catalog : Catalog} {table v : Value} {n : String} (h : column catalog table v = .ok n) :
    IsName n := isName_of_check (column_eq_ok.1 h).1

theorem isName_of_tableAndKey {catalog : Catalog} {v : Value} {t k : String}
    (h : tableAndKey catalog v = .ok (t, k)) : IsName t ∧ IsName k := by
  obtain ⟨ht, key, rest, -, hk⟩ := tableAndKey_eq_ok.1 h
  exact ⟨isName_of_check (table_eq_ok.1 ht).1, isName_of_check hk⟩

/-- The name of a table is found again under itself. -/
theorem tableAndKey_name {catalog : Catalog} {v : Value} {t k : String} (h : tableAndKey catalog v = .ok (t, k)) :
    tableAndKey catalog (.text t) = .ok (t, k) := by
  obtain ⟨ht, hk⟩ := tableAndKey_eq_ok.1 h
  obtain ⟨hc, ht⟩ := table_eq_ok.1 ht
  exact tableAndKey_eq_ok.2 ⟨table_eq_ok.2 ⟨check_name (isName_of_check hc), ht⟩, hk⟩

end Name

end FacetSearch
