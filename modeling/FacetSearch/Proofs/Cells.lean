import FacetSearch.Column.Literal
import FacetSearch.Proofs.Timestamps
import FacetSearch.Service.Row
/-!
# Cells are literals

Identifiers, timestamps and dates are sent as texts, and each of these texts is a literal for the value that it was written
for: a cell of an answer can be given as it is for the column that it was found in (`coerce_plainCell`). So can the text
that stands for the value where it is compared as a text.
-/

namespace FacetSearch

/-! ## Identifiers -/

namespace Uuid

theorem isSignificant_hexChar : ∀ d, isSignificant (hexChar d) = true := by decide

theorem hexValue?_hexChar : ∀ d, hexValue? (hexChar d) = some d := by decide

theorem mapM_hexChar (ds : List (Fin 16)) : (ds.map hexChar).mapM hexValue? = some ds := by
  induction ds with
  | nil => rfl
  | cons d ds ih => simp [List.mapM_cons, hexValue?_hexChar, ih]

/-- Two parts that stand next to each other. -/
theorem take_append_drop_drop (cs : List Char) (i n : Nat) : (cs.drop i).take n ++ cs.drop (i + n) = cs.drop i := by
  rw [← List.drop_drop, List.take_append_drop]

/-- The hyphens are passed over. -/
theorem filter_text (u : Uuid) : u.text.toList.filter isSignificant = u.digits.map hexChar := by
  set cs := u.digits.map hexChar with hcs
  have hkept {part : List Char} (h : ∀ c ∈ part, c ∈ cs) : part.filter isSignificant = part := by
    rw [List.filter_eq_self]
    intro c hc
    obtain ⟨d, -, rfl⟩ := List.mem_map.1 (h c hc)
    exact isSignificant_hexChar d
  have hpart (i n : Nat) : ((cs.drop i).take n).filter isSignificant = (cs.drop i).take n :=
    hkept fun c hc => List.mem_of_mem_drop (List.mem_of_mem_take hc)
  have hhyphen (part : List Char) : ('-' :: part).filter isSignificant = part.filter isSignificant :=
    List.filter_cons_of_neg (by decide)
  have hjoin := take_append_drop_drop cs
  have hfirst : (cs.take 8).filter isSignificant = cs.take 8 := hkept fun c hc => List.mem_of_mem_take hc
  have hlast : (cs.drop 20).filter isSignificant = cs.drop 20 := hkept fun c hc => List.mem_of_mem_drop hc
  simp only [text, String.toList_ofList, ← hcs, List.filter_append, hhyphen, hpart, hfirst, hlast, List.append_assoc,
    hjoin 16 4, hjoin 12 4, hjoin 8 4, List.take_append_drop]

/-- An identifier is read from its text. -/
theorem parse_text (u : Uuid) : parse u.text = .ok u := by
  have hlength : (u.digits.map hexChar).length = 32 := (List.length_map _).trans u.length_eq
  rw [parse, filter_text, if_neg (not_not.2 hlength), mapM_hexChar]
  exact dif_pos u.length_eq

theorem toLower_of_beyondAscii {c : Char} (hc : 128 ≤ c.toNat) : c.toLower = c := by
  unfold Char.toLower
  rw [dif_neg]
  intro h
  have hle : c.toNat ≤ 90 := UInt32.le_iff_toNat_le.1 h.2
  omega

theorem hexValue?_eq_some_iff {c : Char} {d : Fin 16} : hexValue? c = some d ↔ c.toLower = hexChar d := by
  rcases Nat.lt_or_ge c.toNat 128 with hc | hc
  · exact Name.of_ascii (P := fun c => ∀ d, hexValue? c = some d ↔ c.toLower = hexChar d) (by decide) hc d
  · -- no letter of a digit is beyond ASCII, in either case
    have hle {a : Char} (ha : a.toNat < 128) : ¬c ≤ a := fun h => by
      have hnat : c.toNat ≤ a.toNat := UInt32.le_iff_toNat_le.1 h
      omega
    have hnone : hexValue? c = none := by
      rw [hexValue?, if_neg fun h => hle (by decide) h.2, if_neg fun h => hle (by decide) h.2,
        if_neg fun h => hle (by decide) h.2]
    have hascii : ∀ d : Fin 16, (hexChar d).toNat < 128 := by decide
    rw [hnone, toLower_of_beyondAscii hc]
    refine iff_of_false nofun ?_
    rintro rfl
    exact absurd (hascii d) (Nat.not_lt.2 hc)

/-- Digits are read as those that are written in lower case. -/
theorem mapM_hexValue?_eq_some {cs : List Char} {ds : List (Fin 16)} :
    cs.mapM hexValue? = some ds ↔ cs.map Char.toLower = ds.map hexChar := by
  rw [mapM_eq_some, ← List.forall₂_eq_eq_eq, List.forall₂_map_left_iff, List.forall₂_map_right_iff]
  simp only [hexValue?_eq_some_iff]

/-- A text spells an identifier if its ASCII letters and digits are those of the identifier, in either case. -/
theorem parse_eq_ok_iff {s : String} {u : Uuid} :
    parse s = .ok u ↔ (s.toList.filter isSignificant).map Char.toLower = u.digits.map hexChar := by
  rw [← mapM_hexValue?_eq_some, parse]
  constructor
  · intro h
    split at h
    · cases h
    · split at h
      · cases h
      · rename_i ds hds
        split at h
        · obtain rfl := Except.ok.inj h
          exact hds
        · cases h
  · intro h
    have hlength := (mapM_eq_some.1 h).length_eq.trans u.length_eq
    simp only [hlength, ne_eq, not_true, if_false, h]
    exact dif_pos u.length_eq

end Uuid

/-! ## Timestamps and dates -/

namespace Timestamp

open IsoText

theorem isoChars_ne_nil (d : Date) : d.isoChars ≠ [] := by
  simp [Date.isoChars]

theorem stripChars_textWith (sep : Char) (t : Timestamp) :
    Text.stripChars (t.textWith sep).toList = (t.textWith sep).toList := by
  have hback : ∀ c ∈ t.clock.isoChars ++ zoneChars t.offset, Text.IsGraphic c :=
    List.forall_mem_append.2 ⟨isGraphic_clock _, isGraphic_offset _⟩
  rw [textWith_eq, Text.stripChars_between [sep] (isGraphic_date _) hback (isoChars_ne_nil _) (by simp [Clock.isoChars])]

theorem ofIso?_isoChars (d : Date) : ofIso? d.isoChars = some (.ofDate d) := by
  have hascii : d.isoChars.all (fun c => c.toNat < 128) = true :=
    List.all_eq_true.2 fun c hc => decide_eq_true (Nat.lt_of_le_of_lt (isGraphic_date d c hc).2 (by decide))
  have hread : monthDate? d.isoChars = some ((d.year, d.month, d.day), []) := by
    simpa using monthDate?_isoChars d []
  simp only [ofIso?, hascii, if_true, hread, of?_date, Option.bind_eq_bind, Option.bind_some]
  rfl

end Timestamp

/-! ## Literals -/

namespace ColumnType

open Timestamp

theorem coerce_of_literal? {type : ColumnType} {v l : Value} (h : type.literal? v = some l) (column : Option Value) :
    type.coerce v column = .ok l := by
  rw [coerce, h]

theorem coerce_uuidText (u : Uuid) (column : Option Value) : uuid.coerce (.text u.text) column = .ok (.uuid u) := by
  have hread : uuidOf? (.text u.text) = some u := toOption_eq_some.2 u.parse_text
  have hliteral : uuid.literal? (.text u.text) = (uuidOf? (.text u.text)).map .uuid := rfl
  exact coerce_of_literal? (by rw [hliteral, hread, Option.map_some]) column

theorem coerce_of_timestampOf? {s : String} {t : Timestamp} (h : timestampOf? (.text s) = some t)
    (column : Option Value) : timestamp.coerce (.text s) column = .ok (.timestamp t) := by
  have hliteral : timestamp.literal? (.text s) = (timestampOf? (.text s)).map .timestamp := rfl
  exact coerce_of_literal? (by rw [hliteral, h, Option.map_some]) column

theorem coerce_textWith {sep : Char} (hsep : sep.toNat < 128) (t : Timestamp) (column : Option Value) :
    timestamp.coerce (.text (t.textWith sep)) column = .ok (.timestamp t) := by
  refine coerce_of_timestampOf? ?_ column
  simp only [timestampOf?, stripChars_textWith, ofIso?_textWith hsep]
  rfl

theorem coerce_isoText (d : Date) (column : Option Value) :
    timestamp.coerce (.text d.isoText) column = .ok (.timestamp (.ofDate d)) := by
  have hstrip : Text.stripChars d.isoText.toList = d.isoChars := by
    rw [Date.isoText, String.toList_ofList, Text.stripChars_of_graphic (isGraphic_date d)]
  refine coerce_of_timestampOf? ?_ column
  simp only [timestampOf?, hstrip, ofIso?_isoChars]
  rfl

end ColumnType

open ColumnType in
/-- The cell for an identifier, a timestamp or a date is a literal for it, and so is the text that stands for the value; a
date stands for its first moment. -/
theorem coerce_plainCell (column : Option Value) :
    (∀ u, uuid.coerce (Row.plainCell (.uuid u)) column = .ok (.uuid u) ∧
      uuid.coerce (.text (Value.uuid u).plain) column = .ok (.uuid u)) ∧
    (∀ t, timestamp.coerce (Row.plainCell (.timestamp t)) column = .ok (.timestamp t) ∧
      timestamp.coerce (.text (Value.timestamp t).plain) column = .ok (.timestamp t)) ∧
    ∀ d, timestamp.coerce (Row.plainCell (.date d)) column = .ok (.timestamp (.ofDate d)) ∧
      timestamp.coerce (.text (Value.date d).plain) column = .ok (.timestamp (.ofDate d)) := by
  refine ⟨fun u => ?_, fun t => ?_, fun d => ?_⟩
  · have h := coerce_uuidText u column
    exact ⟨h, h⟩
  · have h {sep : Char} (hsep : sep.toNat < 128) := coerce_textWith hsep t column
    exact ⟨h (by decide : ('T').toNat < 128), h (by decide : (' ').toNat < 128)⟩
  · have h := coerce_isoText d column
    exact ⟨h, h⟩

end FacetSearch
