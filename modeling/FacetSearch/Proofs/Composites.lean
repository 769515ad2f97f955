import FacetSearch.Proofs.Cells
import FacetSearch.Proofs.Integers
/-!
# Lists, tuples, objects and bytes

Values that hold others, and bytes, are no literals, and mostly they are refused. Two types take some of them all the same
(`TakenFor`): for an identifier only the letters and digits count of the text that a value is written as, so that the
brackets and quotes around those of an identifier are passed over, and a number is read from bytes as it is from a text.
These are all (`ColumnType.takenFor_of_coerce`).
-/

namespace FacetSearch

theorem Text.mem_stripChars {cs : List Char} {c : Char} (hc : c ∈ cs) (hblank : isBlank c = false) : c ∈ stripChars cs := by
  obtain ⟨front, back, hstrip, hfront, hback⟩ := exists_strip cs
  rw [hstrip, List.mem_append, List.mem_append] at hc
  rcases hc with (hc | hc) | hc
  · rw [hfront c hc] at hblank
    cases hblank
  · exact hc
  · rw [hback c hc] at hblank
    cases hblank

/-- A text spells no integer if there is anything in it but white space, digits and signs. -/
theorem Numeral.plainInt?_stripChars_eq_none {cs : List Char} {c : Char} (hc : c ∈ cs) (hblank : Text.isBlank c = false)
    (hother : ¬(Text.isDigit c = true ∨ c = '+' ∨ c = '-')) : plainInt? (Text.stripChars cs) = none :=
  Option.eq_none_iff_forall_ne_some.2 fun _ hn =>
    hother ((plainInt?_eq_some_iff.1 hn).1.characters c (Text.mem_stripChars hc hblank))

/-- The value holds others, or it is bytes. -/
def Value.IsComposite : Value → Prop
  | .list _ | .tuple _ | .object _ | .bytes _ => True
  | _ => False

/-- What a composite value is taken for by a type that has no literal of its kind: the identifier whose digits are the
letters and digits of the text that it is written as, and the number that bytes spell. -/
inductive TakenFor : Value → ColumnType → Value → Prop
  | identifier {v : Value} {u : Uuid}
    (h : (v.plain.toList.filter Char.isAlphanum).map Char.toLower = u.digits.map Uuid.hexChar) :
    TakenFor v .uuid (.uuid u)
  | number {bs : List UInt8} {d : Double} (h : Numeral.double? (Numeral.ofBytes bs) = some d)
    (hfinite : d.isFinite = true) : TakenFor (.bytes bs) .double (.float d)

namespace ColumnType

variable {v : Value}

/-! ## Integers -/

/-- A composite value is written between brackets, or behind a letter. -/
theorem exists_mem_plain (hv : v.IsComposite) : ∃ c ∈ ['[', '(', '\x7b', 'b'], c ∈ v.plain.toList := by
  have htuple (members : List String) : '(' ∈ (Value.tupleText members).toList := by
    unfold Value.tupleText
    split <;> simp
  cases v with
  | list xs =>
    have hplain : (Value.list xs).plain = "[" ++ ", ".intercalate (Value.quotedMembers xs) ++ "]" := rfl
    exact ⟨'[', by decide, by simp [hplain]⟩
  | tuple xs => exact ⟨'(', by decide, htuple _⟩
  | object es =>
    have hplain : (Value.object es).plain = "\x7b" ++ ", ".intercalate (Value.quotedEntries es) ++ "\x7d" := rfl
    exact ⟨'\x7b', by decide, by simp [hplain]⟩
  | bytes bs =>
    have hplain : (Value.bytes bs).plain = Text.quotedBytes bs := rfl
    exact ⟨'b', by decide, by simp [hplain, Text.quotedBytes]⟩
  | _ => cases hv

/-- No composite value stands for an integer, because it is written with characters that are neither digits nor signs. -/
theorem intOf?_of_isComposite (hv : v.IsComposite) : intOf? v = none := by
  obtain ⟨c, hc, hmem⟩ := exists_mem_plain hv
  have hother : Text.isBlank c = false ∧ ¬(Text.isDigit c = true ∨ c = '+' ∨ c = '-') := by
    simp only [List.mem_cons, List.not_mem_nil, or_false] at hc
    rcases hc with rfl | rfl | rfl | rfl <;> decide
  have hread : intOf? v = Numeral.plainInt? (Text.stripChars v.plain.toList) := by
    cases v with
    | list _ | tuple _ | object _ | bytes _ => rfl
    | _ => cases hv
  rw [hread]
  exact Numeral.plainInt?_stripChars_eq_none hmem hother.1 hother.2

/-! ## Literals -/

theorem literal?_uuid_of_isComposite (hv : v.IsComposite) :
    uuid.literal? v = (Uuid.parse v.plain).toOption.map .uuid := by
  cases v with
  | list _ | tuple _ | object _ | bytes _ => rfl
  | _ => cases hv

/-- A composite value is a literal of a type just if the type takes it for one. -/
theorem literal?_eq_some_iff_takenFor (hv : v.IsComposite) {type : ColumnType} {l : Value} :
    type.literal? v = some l ↔ TakenFor v type l := by
  constructor
  · intro h
    cases type with
    | uuid =>
      rw [literal?_uuid_of_isComposite hv] at h
      obtain ⟨u, hu, rfl⟩ := Option.map_eq_some_iff.1 h
      exact .identifier (Uuid.parse_eq_ok_iff.1 (toOption_eq_some.1 hu))
    | double =>
      cases v with
      | bytes bs =>
        obtain ⟨d, hd, rfl⟩ := Option.map_eq_some_iff.1 h
        obtain ⟨hread, hfinite⟩ := Option.filter_eq_some_iff.1 hd
        exact .number hread hfinite
      | list _ | tuple _ | object _ => cases h
      | _ => cases hv
    | integer | bigint | oid =>
      obtain ⟨n, hn, -⟩ := (literal?_eq_some_int_iff rfl).1 h
      rw [intOf?_of_isComposite hv] at hn
      cases hn
    | string | timestamp | array =>
      cases v with
      | list _ | tuple _ | object _ | bytes _ => cases h
      | _ => cases hv
  · intro h
    cases h with
    | identifier h =>
      rw [literal?_uuid_of_isComposite hv, toOption_eq_some.2 (Uuid.parse_eq_ok_iff.2 h), Option.map_some]
    | @number bs d h hfinite =>
      have hread : double.literal? (.bytes bs) =
          ((Numeral.double? (Numeral.ofBytes bs)).filter Double.isFinite).map .float := rfl
      rw [hread, h, Option.filter_eq_some_iff.2 ⟨rfl, hfinite⟩, Option.map_some]

/-- A composite value is refused unless its type takes it for a literal. That it does not fit is the only error, or that the
error cannot be written because of an integer in the value. A column filter with such a value makes a selection only if the
value is taken for a literal of the column's type, and that literal is then bound. -/
theorem takenFor_of_coerce (hv : v.IsComposite) :
    (∀ type column r, ColumnType.coerce type v column = .ok r ↔ TakenFor v type r) ∧
    (∀ type column e, ColumnType.coerce type v column = .error e →
      (∃ f, e = .typeMismatch f) ∨ v.isWritable = false ∧ e = .value .integerText) ∧
    ∀ catalog table key column values regex s,
      Selection.ofColumn catalog table key (.text column) (.list values) regex = .ok s → v ∈ values →
      ∃ t name type r, CatalogName.ofValue table = .ok t ∧ Name.column catalog table (.text column) = .ok name ∧
        catalog.columnType? t name = some type ∧ TakenFor v type r ∧ ⟨r, type⟩ ∈ s.fragment.params := by
  refine ⟨fun type column r => coerce_eq_ok.trans (literal?_eq_some_iff_takenFor hv),
    fun type column e => Selection.coerce_eq_error, fun catalog table key column values regex s h hmem => ?_⟩
  obtain ⟨name, t, type, literals, hname, -, ht, htype, hliterals, rfl⟩ := Selection.ofColumn_eq_ok h
  obtain ⟨r, hr, hread⟩ := exists_of_mem_left hliterals hmem
  refine ⟨t, name, type, r, ht, hname, htype, (literal?_eq_some_iff_takenFor hv).1 hread, ?_⟩
  rw [Selection.fragment, Selection.params_columnCondition]
  exact List.mem_map_of_mem hr

/-! ### An identifier in a list -/

/-- A catalog of events that have identifiers. -/
def identified : Catalog := .ofLists [("events", [("event_uuid", some .uuid)])] [("events", ["event_uuid"])]

/-- The selection of events by a value as their identifier. -/
def byIdentifier (v : Value) : Except Error Selection :=
  Selection.ofColumn identified (.text "events") (.text "event_uuid") (.text "event_uuid") (.list [v]) false

/-- A list whose only member is the text of an identifier. -/
def listed : Value := .list [.text "6a1f0b1e-0d3c-4c55-9d4e-0f2a6f6f0001"]

theorem takenFor_listed : listed.IsComposite ∧ (∀ r, string.coerce listed none ≠ .ok r) ∧
    (∃ u, uuid.coerce listed none = .ok (.uuid u) ∧ TakenFor listed .uuid (.uuid u)) ∧
    ∃ s, byIdentifier listed = .ok s ∧ ∃ type r, TakenFor listed type r ∧ ⟨r, type⟩ ∈ s.fragment.params := by
  obtain ⟨htaken, -, hfilter⟩ := takenFor_of_coerce (v := listed) trivial
  obtain ⟨u, hu⟩ : ∃ u, uuid.coerce listed none = .ok (.uuid u) := ⟨⟨_, rfl⟩, rfl⟩
  obtain ⟨s, hs⟩ : ∃ s, byIdentifier listed = .ok s := ⟨_, rfl⟩
  obtain ⟨-, -, type, r, -, -, -, hr, hmem⟩ := hfilter _ _ _ _ _ _ _ hs List.mem_cons_self
  refine ⟨trivial, fun r h => ?_, ⟨u, hu, (htaken _ _ _).1 hu⟩, s, hs, type, r, hr, hmem⟩
  cases (htaken _ _ _).1 h

/-- A list is no scalar, but it is bound. -/
theorem not_refused_listed : ∃ u s, u.text = "6a1f0b1e-0d3c-4c55-9d4e-0f2a6f6f0001" ∧
    uuid.coerce listed (some (.text "event_uuid")) = .ok (.uuid u) ∧ byIdentifier listed = .ok s ∧
    s.fragment.params = [⟨.uuid u, .uuid⟩] := by
  have hspelled : (uuidOf? listed).map Uuid.text = some "6a1f0b1e-0d3c-4c55-9d4e-0f2a6f6f0001" := by decide +kernel
  obtain ⟨u, hu, htext⟩ := Option.map_eq_some_iff.1 hspelled
  have hliteral : uuid.literal? listed = (uuidOf? listed).map .uuid := rfl
  have hbuilt : (byIdentifier listed).toOption.map (·.fragment.params) =
      (uuidOf? listed).map fun u => [⟨.uuid u, .uuid⟩] := rfl
  rw [hu, Option.map_some] at hliteral hbuilt
  obtain ⟨s, hs, hparams⟩ := Option.map_eq_some_iff.1 hbuilt
  exact ⟨u, s, htext, coerce_of_literal? hliteral _, toOption_eq_some.1 hs, hparams⟩

end ColumnType

end FacetSearch
