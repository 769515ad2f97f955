import FacetSearch.Proofs.Digits
import FacetSearch.Proofs.Outcome
import FacetSearch.Time.IsoText
/-!
# Timestamps are read as they are written

Every field of a timestamp is written with as many digits as are read for it, so each reader takes what was written and
leaves the rest: the date (`IsoText.monthDate?_isoChars`), the time of day with its fraction, if there is one, and the offset
(`IsoText.time?_isoChars`). So a text that was written is read back (`Timestamp.ofIso?_textWith`), whatever stands between
date and time.
-/

namespace FacetSearch

open Date

namespace Date

theorem month_pos (d : Date) : 1 ≤ d.month := by
  have hdays : d.month = 0 → daysInMonth d.year d.month = 0 := fun h => by
    rw [h, daysInMonth]
    all_goals omega
  have hday := d.isDay.2.2
  omega

theorem month_le (d : Date) : d.month ≤ 12 := by
  have hdays : 12 < d.month → daysInMonth d.year d.month = 0 := fun h => by
    unfold daysInMonth
    split <;> omega
  have hday := d.isDay.2.2
  omega

theorem day_le (d : Date) : d.day ≤ 31 := by
  refine d.isDay.2.2.2.trans ?_
  unfold daysInMonth
  split
  · split <;> omega
  all_goals omega

end Date

namespace IsoText

variable {width n : Nat} {rest : List Char}

theorem number?_append {ds : List Char} (hlength : ds.length = width) (hd : ∀ c ∈ ds, c.isDigit = true) :
    number? width (ds ++ rest) = some (Numeral.value ds, rest) := by
  have htake : (ds ++ rest).take width = ds := List.take_left' hlength
  rw [number?, htake, if_pos ⟨hlength, List.all_eq_true.2 hd⟩, List.drop_left' hlength]
  rfl

theorem number?_padded (hw : 0 < width) (h : n < 10 ^ width) :
    number? width (padded width n ++ rest) = some (n, rest) := by
  rw [number?_append (length_padded hw h) isDigit_padded, value_padded]

/-- The digits of a field begin neither an offset nor a fraction. -/
theorem head_padded : ∃ c cs, padded width n ++ rest = c :: cs ∧ c.isDigit = true := by
  cases hd : padded width n with
  | nil => exact absurd hd padded_ne_nil
  | cons c cs => exact ⟨c, cs ++ rest, rfl, isDigit_padded c (hd ▸ List.mem_cons_self)⟩

theorem startsZone_of_isDigit {c : Char} (h : c.isDigit = true) (cs : List Char) : startsZone (c :: cs) = false := by
  have hlt : c.toNat < 128 := Nat.lt_of_le_of_lt (Text.toNat_of_isDigit h).2 (by decide)
  exact Name.of_ascii (P := fun c => c.isDigit = true → (c == '-' || c == '+' || c == 'Z' || c == 'z') = false)
    (by decide) hlt h

/-! ## Dates -/

theorem monthDate?_isoChars (d : Date) (rest : List Char) :
    monthDate? (d.isoChars ++ rest) = some ((d.year, d.month, d.day), rest) := by
  have hm := d.month_le
  have hd := d.day_le
  obtain ⟨y, m, n, hy, hy', hn, hn'⟩ := d
  dsimp only at hm hd
  have hyear : isoChars ⟨y, m, n, hy, hy', hn, hn'⟩ ++ rest =
      padded 4 y ++ ('-' :: (padded 2 m ++ ('-' :: (padded 2 n ++ rest)))) := by
    simp [isoChars]
  rw [monthDate?, hyear, number?_padded (by decide) (by omega)]
  simp only [Option.bind_eq_bind, Option.bind_some, List.isEmpty_cons, Bool.false_eq_true, if_false, if_true, splitDash,
    number?_padded Nat.two_pos (show m < 10 ^ 2 by omega), guard,
    number?_padded Nat.two_pos (show n < 10 ^ 2 by omega)]
  rfl

theorem of?_date (d : Date) : Date.of? d.year d.month d.day = some d := dif_pos d.isDay

/-! ## Offsets -/

theorem zoneMinutes?_padded (h : n < 100) : zoneMinutes? (':' :: padded 2 n) = some n := by
  have hnumber : number? 2 (padded 2 n) = some (n, []) := by
    have hread : number? 2 (padded 2 n ++ []) = some (n, []) := number?_padded Nat.two_pos (by omega)
    rwa [List.append_nil] at hread
  simp [zoneMinutes?, hnumber]

theorem zone?_signed {c : Char} {sign : Int} (hc : c = '-' ∧ sign = -1 ∨ c = '+' ∧ sign = 1) {h m : Nat} (hh : h ≤ 23)
    (hm : m ≤ 59) : zone? (c :: (padded 2 h ++ ':' :: padded 2 m)) = Offset.of? (sign * (h * 60 + m : Nat)) := by
  have hhours : number? 2 (padded 2 h ++ ':' :: padded 2 m) = some (h, ':' :: padded 2 m) :=
    number?_padded Nat.two_pos (by omega)
  have hminutes := zoneMinutes?_padded (show m < 100 by omega)
  rcases hc with ⟨rfl, rfl⟩ | ⟨rfl, rfl⟩
  all_goals
    rw [zone?, if_neg (by simp)]
    simp only [List.drop_succ_cons, List.drop_zero, hhours, hminutes, Option.bind_eq_bind, Option.bind_some, guard, hm,
      hh, and_self, if_true, Option.pure_def]

theorem zone?_isoChars (o : Offset) : zone? o.isoChars = some o := by
  have hof {n : Int} (h : n = o.minutes) : Offset.of? n = some o := by
    subst h
    exact dif_pos o.lessThanADay
  have hminutes := o.lessThanADay
  by_cases hm : o.minutes < 0
  · rw [Offset.isoChars, if_pos hm]
    exact (zone?_signed (.inl ⟨rfl, rfl⟩) (by omega) (by omega)).trans (hof (by omega))
  · rw [Offset.isoChars, if_neg hm]
    exact (zone?_signed (.inr ⟨rfl, rfl⟩) (by omega) (by omega)).trans (hof (by omega))

/-! ## Times of day -/

/-- What follows a time of day: an offset or nothing. -/
def zoneChars (o : Option Offset) : List Char := (o.map Offset.isoChars).getD []

theorem startsZone_isoChars (o : Offset) : startsZone o.isoChars = true := by
  rw [Offset.isoChars]
  split <;> rfl

theorem field?_padded (h : n < 100) : field? (padded 2 n ++ rest) = some (n, rest) := by
  obtain ⟨c, cs, heq, hc⟩ : ∃ c cs, padded 2 n ++ rest = c :: cs ∧ c.isDigit = true := head_padded
  have hzone : ((padded 2 n ++ rest).isEmpty || startsZone (padded 2 n ++ rest)) = false := by
    rw [heq, startsZone_of_isDigit hc]
    rfl
  rw [field?, hzone, if_neg Bool.false_ne_true, number?_padded Nat.two_pos (by omega)]

theorem colonField?_padded (colons : Option Bool) (hcolons : colons ≠ some false) (h : n < 100) :
    colonField? colons (':' :: (padded 2 n ++ rest)) = some (n, true, rest) := by
  have hnumber : number? 2 (padded 2 n ++ rest) = some (n, rest) := number?_padded Nat.two_pos (by omega)
  have hzone : ((':' :: (padded 2 n ++ rest)).isEmpty || startsZone (':' :: (padded 2 n ++ rest))) = false := rfl
  rw [colonField?.eq_def, hzone, if_neg Bool.false_ne_true]
  rcases colons with _ | _ | _
  · simp only [hnumber, Option.map_some]
  · exact absurd rfl hcolons
  · simp only [hnumber, Option.map_some]

theorem not_isDigit_zoneChars {o : Option Offset} : ∀ c ∈ (zoneChars o).head?, c.isDigit = false := by
  cases o with
  | none => nofun
  | some o =>
    rw [zoneChars, Option.map_some, Option.getD_some, Offset.isoChars]
    rintro c hc
    obtain rfl := Option.some.inj hc
    split <;> rfl

/-- The microseconds of a time of day, if there are any, and the offset behind them. -/
theorem fraction_isoChars {micro : Nat} (h : micro < 1000000) (o : Option Offset) :
    let cs := (if micro = 0 then [] else '.' :: padded 6 micro) ++ zoneChars o
    (if startsZone cs then (0, cs) else fraction cs) = (micro, zoneChars o) := by
  by_cases hm : micro = 0
  · subst hm
    cases o with
    | none => rfl
    | some o => simp [zoneChars, startsZone_isoChars]
  · have hlength : (padded 6 micro).length = 6 := length_padded (by decide) (by omega)
    have htake : (padded 6 micro ++ zoneChars o).takeWhile Char.isDigit = padded 6 micro := by
      rw [List.takeWhile_append_of_pos isDigit_padded, Text.takeWhile_of_head not_isDigit_zoneChars, List.append_nil]
    have hdrop : (padded 6 micro ++ zoneChars o).dropWhile Char.isDigit = zoneChars o := by
      rw [List.dropWhile_append_of_pos isDigit_padded, Text.dropWhile_of_head not_isDigit_zoneChars]
    have htake6 : (padded 6 micro).take 6 = padded 6 micro := List.take_of_length_le (Nat.le_of_eq hlength)
    have hvalue : Numeral.ofDigits ((padded 6 micro).map fun c => c.toNat - 48) = micro := value_padded
    simp [hm, startsZone, fraction, htake, hdrop, hlength, htake6, hvalue]

theorem time?_isoChars (c : Clock) (o : Option Offset) :
    time? (c.isoChars ++ zoneChars o) = some ⟨c.hour, c.minute, c.second, c.micro, o⟩ := by
  obtain ⟨h, m, s, u, hh, hm, hs, hu⟩ := c
  have hchars : Clock.isoChars ⟨h, m, s, u, hh, hm, hs, hu⟩ ++ zoneChars o = padded 2 h ++ (':' :: (padded 2 m ++
      (':' :: (padded 2 s ++ ((if u = 0 then [] else '.' :: padded 6 u) ++ zoneChars o))))) := by
    simp [Clock.isoChars]
  have hlength : 2 ≤ (Clock.isoChars ⟨h, m, s, u, hh, hm, hs, hu⟩ ++ zoneChars o).length := by
    have := length_padded Nat.two_pos (show h < 10 ^ 2 by omega)
    rw [hchars, List.length_append]
    omega
  have hfraction := fraction_isoChars hu o
  rw [time?, guard, if_pos hlength, hchars]
  simp only [Option.bind_eq_bind, Option.pure_def, Option.bind_some, field?_padded (show h < 100 by omega),
    colonField?_padded none nofun (show m < 100 by omega),
    colonField?_padded (some true) nofun (show s < 100 by omega), hfraction]
  cases o with
  | none => rfl
  | some o =>
    have hne : (zoneChars (some o)).isEmpty = false := rfl
    have hzone : startsZone (zoneChars (some o)) = true := startsZone_isoChars o
    have hread : zone? (zoneChars (some o)) = some o := zone?_isoChars o
    simp only [hne, Bool.false_eq_true, if_false, hzone, if_true, hread, Option.map_some, Option.bind_some]

theorem finish?_isoChars (d : Date) (sep : Char) (c : Clock) (o : Option Offset) :
    finish? d (sep :: (c.isoChars ++ zoneChars o)) = some ⟨d, c, o⟩ := by
  have hclock : Clock.of? c.hour c.minute c.second c.micro = some c := dif_pos c.isTime
  have hhour : c.hour ≠ 24 := Nat.ne_of_lt c.isTime.1
  rw [finish?, List.isEmpty_cons, if_neg Bool.false_ne_true, List.drop_succ_cons, List.drop_zero, time?_isoChars]
  simp only [Option.bind_eq_bind, Option.bind_some, combine?, if_neg hhour, hclock, Option.pure_def]

end IsoText

/-! ## Texts of timestamps -/

namespace Timestamp

open IsoText

theorem textWith_eq (sep : Char) (t : Timestamp) :
    (t.textWith sep).toList = t.date.isoChars ++ [sep] ++ (t.clock.isoChars ++ zoneChars t.offset) := by
  simp [textWith, zoneChars]

theorem isGraphic_date (d : Date) : ∀ c ∈ d.isoChars, Text.IsGraphic c := by
  simp only [isoChars, List.forall_mem_append, List.forall_mem_cons]
  exact ⟨⟨isGraphic_padded, by decide, isGraphic_padded⟩, by decide, isGraphic_padded⟩

theorem isGraphic_clock (c : Clock) : ∀ x ∈ c.isoChars, Text.IsGraphic x := by
  simp only [Clock.isoChars, List.forall_mem_append, List.forall_mem_cons]
  refine ⟨⟨⟨isGraphic_padded, by decide, isGraphic_padded⟩, by decide, isGraphic_padded⟩, ?_⟩
  split
  · exact List.forall_mem_nil _
  · exact List.forall_mem_cons.2 ⟨by decide, isGraphic_padded⟩

theorem isGraphic_offset (o : Option Offset) : ∀ c ∈ zoneChars o, Text.IsGraphic c := by
  cases o with
  | none => exact List.forall_mem_nil _
  | some o =>
    simp only [zoneChars, Option.map_some, Option.getD_some, Offset.isoChars, List.forall_mem_append,
      List.forall_mem_cons]
    refine ⟨⟨?_, isGraphic_padded⟩, by decide, isGraphic_padded⟩
    split <;> decide

/-- A written timestamp is read back, whatever ASCII character stands between date and time. -/
theorem ofIso?_textWith {sep : Char} (hsep : sep.toNat < 128) (t : Timestamp) :
    ofIso? (t.textWith sep).toList = some t := by
  have hascii : (t.textWith sep).toList.all (fun c => c.toNat < 128) = true := by
    rw [textWith_eq, List.all_eq_true]
    simp only [List.mem_append, List.mem_singleton, decide_eq_true_eq]
    have hgraphic {c : Char} (h : Text.IsGraphic c) : c.toNat < 128 := Nat.lt_of_le_of_lt h.2 (by decide)
    rintro c ((hc | rfl) | (hc | hc))
    · exact hgraphic (isGraphic_date _ c hc)
    · exact hsep
    · exact hgraphic (isGraphic_clock _ c hc)
    · exact hgraphic (isGraphic_offset _ c hc)
  rw [ofIso?, if_pos hascii, textWith_eq, List.append_assoc, monthDate?_isoChars]
  simp only [of?_date, Option.bind_eq_bind, Option.bind_some]
  exact finish?_isoChars t.date sep t.clock t.offset

end Timestamp

end FacetSearch
