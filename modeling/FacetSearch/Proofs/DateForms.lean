import FacetSearch.Proofs.Cells
import FacetSearch.Proofs.Integers
import FacetSearch.Time.SlashedText
/-!
# Forms of dates

A timestamp is read from a text in one of five forms, which are tried in turn. A text shows by itself which form it can have
(`DateForm.ofText`): those that begin with a year tell each other apart by the slash behind it and by what stands behind the
day, the others by what stands behind the month. So no text is read in two forms, and the order in which they are tried does
not matter. A timestamp is read back from the text that it is written as in a form that holds it (`DateForm.read?_text`).
-/

namespace FacetSearch

open Date SlashedText

/-- The forms in which timestamps are read. -/
inductive DateForm where
  | iso
  | yearFirst
  | monthFirst
  | dashed
  | withClock
  deriving DecidableEq

namespace DateForm

/-- All forms, in the order in which they are tried. -/
def all : List DateForm := [iso, yearFirst, monthFirst, dashed, withClock]

/-- The timestamp that a text stands for in a form. -/
def read? : DateForm → List Char → Option Timestamp
  | iso => Timestamp.ofIso?
  | yearFirst => dateOnly?
  | monthFirst => monthFirst? '/'
  | dashed => monthFirst? '-'
  | withClock => dateTime?

/-- Four digits stand at the beginning. -/
def startsWithYear (cs : List Char) : Bool := (cs.take 4).length = 4 && (cs.take 4).all Text.isDigit

/-- The form that a text has if it has any. -/
def ofText (cs : List Char) : DateForm :=
  if startsWithYear cs then
    if (cs.drop 4).head? = some '/' then if (yearFirst? cs).any (·.2.isEmpty) then yearFirst else withClock
    else iso
  else if (month.read? cs).any (·.2.head? = some '/') then monthFirst
  else dashed

variable {cs rest : List Char} {t : Timestamp}

/-! ## What the readers begin with -/

theorem startsWithYear_iff : startsWithYear cs = true ↔ (cs.take 4).length = 4 ∧ ∀ c ∈ cs.take 4, Text.isDigit c = true := by
  rw [startsWithYear, Bool.and_eq_true, decide_eq_true_iff, List.all_eq_true]

theorem startsWithYear_of_number? {n : Nat} (h : IsoText.number? 4 cs = some (n, rest)) :
    startsWithYear cs = true ∧ rest = cs.drop 4 := by
  simp only [IsoText.number?] at h
  split at h
  · rename_i hdigits
    obtain ⟨-, rfl⟩ := Prod.mk.inj (Option.some.inj h)
    exact ⟨startsWithYear_iff.2 ⟨hdigits.1, fun c hc => Text.isDigit_of_isDigit (List.all_eq_true.1 hdigits.2 c hc)⟩, rfl⟩
  · cases h

theorem startsWithYear_of_year? {n : Nat} (h : year? cs = some (n, rest)) :
    startsWithYear cs = true ∧ rest = cs.drop 4 := by
  simp only [year?, Option.bind_eq_bind, Option.bind_eq_some_iff, Option.guard_eq_some', Option.pure_def,
    Option.some.injEq, Prod.mk.injEq] at h
  obtain ⟨ds, hds, -, hlength, -, rfl⟩ := h
  have htake : (cs.take 4).length = 4 := (Numeral.digits?_eq_some_iff.1 hds).length_eq.trans hlength
  have hne : cs.take 4 ≠ [] := List.ne_nil_of_length_pos (by omega)
  exact ⟨startsWithYear_iff.2 ⟨htake, (Numeral.isNatural_iff.2 ⟨hne, ds, hds, rfl⟩).isDigit⟩, rfl⟩

theorem after?_eq_some_iff {c : Char} : after? c cs = some rest ↔ cs = c :: rest := by
  cases cs with
  | nil => exact ⟨nofun, nofun⟩
  | cons d cs => simp [after?, eq_comm]

/-- No field begins with a slash. -/
theorem number?_slash {width : Nat} (hw : 0 < width) (cs : List Char) : IsoText.number? width ('/' :: cs) = none := by
  obtain ⟨k, rfl⟩ := Nat.exists_eq_add_of_lt hw
  rw [IsoText.number?, if_neg]
  rintro ⟨-, hall⟩
  rw [Nat.zero_add, List.take_succ_cons, List.all_cons, Bool.and_eq_true] at hall
  exact absurd hall.1 (by decide)

/-- What begins with a year of ASCII digits and goes on with something other than a slash. -/
theorem startsWithYear_of_bind {α : Type} {f : Nat × List Char → Option α} {a : α}
    (h : (IsoText.number? 4 cs).bind f = some a) (hslash : ∀ n cs, f (n, '/' :: cs) = none) :
    startsWithYear cs = true ∧ (cs.drop 4).head? ≠ some '/' := by
  obtain ⟨⟨n, rest⟩, hyear, hf⟩ := Option.bind_eq_some_iff.1 h
  obtain ⟨hstart, rfl⟩ := startsWithYear_of_number? hyear
  refine ⟨hstart, fun hhead => ?_⟩
  obtain ⟨back, hback⟩ := List.head?_eq_some_iff.1 hhead
  rw [hback, hslash] at hf
  cases hf

/-- A text of ISO 8601 begins with a year, and there is no slash behind it. -/
theorem startsWithYear_of_ofIso? (h : Timestamp.ofIso? cs = some t) :
    startsWithYear cs = true ∧ (cs.drop 4).head? ≠ some '/' := by
  unfold Timestamp.ofIso? at h
  split at h
  · split at h
    · rename_i hread
      exact startsWithYear_of_bind hread fun n cs => by simp [IsoText.splitDash, number?_slash]
    · simp only [Option.bind_eq_bind, Option.bind_eq_some_iff] at h
      obtain ⟨⟨d, rest⟩, hread, -⟩ := h
      exact startsWithYear_of_bind hread fun n cs => by simp [IsoText.splitDash, number?_slash]
  · cases h

/-- There is a slash behind the year of a date that begins with it. -/
theorem startsWithYear_of_yearFirst? {d : Date} (h : yearFirst? cs = some (d, rest)) :
    startsWithYear cs = true ∧ (cs.drop 4).head? = some '/' := by
  simp only [yearFirst?, Option.bind_eq_bind, Option.bind_eq_some_iff, after?_eq_some_iff] at h
  obtain ⟨⟨y, back⟩, hyear, back', hslash, -⟩ := h
  obtain ⟨hstart, hback⟩ := startsWithYear_of_year? hyear
  dsimp only at hslash
  exact ⟨hstart, by rw [← hback, hslash, List.head?_cons]⟩

theorem exists_drop_of_read? {f : Field} {n : Nat} (h : f.read? cs = some (n, rest)) : ∃ k ≤ 2, rest = cs.drop k := by
  unfold Field.read? at h
  split at h
  · split at h
    · exact ⟨2, Nat.le_refl 2, (Prod.mk.inj (Option.some.inj h)).2.symm⟩
    · split at h
      · exact ⟨1, by decide, (Prod.mk.inj (Option.some.inj h)).2.symm⟩
      · cases h
  · split at h
    · exact ⟨1, by decide, (Prod.mk.inj (Option.some.inj h)).2.symm⟩
    · cases h
  · cases h

/-- A month is shorter than a year, so no text begins with a year and with a month that is separated from what follows. -/
theorem startsWithYear_of_read? {f : Field} {n : Nat} {sep : Char} (hsep : Text.isDigit sep = false)
    (h : f.read? cs = some (n, sep :: rest)) : startsWithYear cs = false := by
  obtain ⟨k, hk, hrest⟩ := exists_drop_of_read? h
  refine Bool.eq_false_iff.2 fun hstart => ?_
  -- the separator is the second or third character, where a year has a digit
  have hmem : sep ∈ (cs.take 4).drop k := by
    rw [List.drop_take, ← hrest, show 4 - k = (3 - k) + 1 by omega, List.take_succ_cons]
    exact List.mem_cons_self
  have hdigit := (startsWithYear_iff.1 hstart).2 sep (List.mem_of_mem_drop hmem)
  rw [hsep] at hdigit
  cases hdigit

/-- The separator stands behind the month. -/
theorem read?_of_monthFirst? {sep : Char} (h : monthFirst? sep cs = some t) :
    ∃ n rest, month.read? cs = some (n, sep :: rest) := by
  simp only [monthFirst?, Option.bind_eq_bind, Option.bind_eq_some_iff, after?_eq_some_iff] at h
  obtain ⟨⟨n, back⟩, hmonth, back', hsep, -⟩ := h
  dsimp only at hsep
  exact ⟨n, back', hsep ▸ hmonth⟩

/-! ## One form for each text -/

/-- A text that is read in a form has that form. -/
theorem ofText_of_read? {f : DateForm} (h : f.read? cs = some t) : ofText cs = f := by
  cases f with
  | iso =>
    obtain ⟨hstart, hslash⟩ := startsWithYear_of_ofIso? h
    rw [ofText, if_pos hstart, if_neg hslash]
  | yearFirst =>
    simp only [read?, dateOnly?, Option.bind_eq_bind, Option.bind_eq_some_iff, Option.guard_eq_some'] at h
    obtain ⟨⟨d, rest⟩, hdate, -, hend, -⟩ := h
    obtain ⟨hstart, hslash⟩ := startsWithYear_of_yearFirst? hdate
    rw [ofText, if_pos hstart, if_pos hslash, hdate, if_pos (by simpa using hend)]
  | withClock =>
    simp only [read?, dateTime?, Option.bind_eq_bind, Option.bind_eq_some_iff, Option.guard_eq_some'] at h
    obtain ⟨⟨d, rest⟩, hdate, -, hblank, -⟩ := h
    obtain ⟨hstart, hslash⟩ := startsWithYear_of_yearFirst? hdate
    -- a blank stands behind the day, so the date is not the whole text
    have hend : ¬(some (d, rest)).any (·.2.isEmpty) = true := by
      rintro hend
      obtain rfl : rest = [] := by simpa using hend
      cases hblank
    rw [ofText, if_pos hstart, if_pos hslash, hdate, if_neg hend]
  | monthFirst =>
    obtain ⟨n, rest, hmonth⟩ := read?_of_monthFirst? h
    have hstart := startsWithYear_of_read? (by decide) hmonth
    rw [ofText, hstart, if_neg Bool.false_ne_true, hmonth, if_pos (by simp)]
  | dashed =>
    obtain ⟨n, rest, hmonth⟩ := read?_of_monthFirst? h
    have hstart := startsWithYear_of_read? (by decide) hmonth
    rw [ofText, hstart, if_neg Bool.false_ne_true, hmonth, if_neg (by simp)]

/-- Trying forms one after the other gives what the form of the text gives, as long as it is among them. -/
theorem findSome?_read? {fs : List DateForm} (h : ofText cs ∈ fs) : fs.findSome? (·.read? cs) = (ofText cs).read? cs := by
  cases hread : fs.findSome? (·.read? cs) with
  | none => exact (List.findSome?_eq_none_iff.1 hread _ h).symm
  | some t =>
    obtain ⟨f, -, hf⟩ := List.exists_of_findSome?_eq_some hread
    rw [ofText_of_read? hf, hf]

theorem mem_all (f : DateForm) : f ∈ all := by
  cases f <;> decide

theorem timestampOf?_text (s : String) :
    ColumnType.timestampOf? (.text s) = all.findSome? (·.read? (Text.stripChars s.toList)) := by
  simp only [ColumnType.timestampOf?, Timestamp.ofSlashed?, all, read?, List.findSome?_cons, List.findSome?_nil]
  grind

/-! ## Writing in a form -/

/-- The characters of a date with its year in front. -/
def yearFirstChars (d : Date) : List Char :=
  Nat.toDigits 10 d.year ++ '/' :: (padded 2 d.month ++ '/' :: padded 2 d.day)

/-- The characters of a date with its month in front. -/
def monthFirstChars (sep : Char) (d : Date) : List Char :=
  padded 2 d.month ++ sep :: (padded 2 d.day ++ sep :: Nat.toDigits 10 d.year)

/-- The characters of hour, minute and second. -/
def clockChars (c : Clock) : List Char :=
  padded 2 c.hour ++ ':' :: (padded 2 c.minute ++ ':' :: padded 2 c.second)

/-- The text of a timestamp in a form. -/
def text (t : Timestamp) : DateForm → String
  | iso => t.isoText
  | yearFirst => String.ofList (yearFirstChars t.date)
  | monthFirst => String.ofList (monthFirstChars '/' t.date)
  | dashed => String.ofList (monthFirstChars '-' t.date)
  | withClock => String.ofList (yearFirstChars t.date ++ ' ' :: clockChars t.clock)

/-- Nothing of the timestamp is lost in the form. -/
def Holds (t : Timestamp) : DateForm → Prop
  | iso => True
  | withClock => t.clock.micro = 0 ∧ t.offset = none
  | _ => t = .ofDate t.date

/-! ## Reading what was written -/

/-- A field takes two digits that it can hold and leaves the rest. -/
theorem read?_padded {f : Field} {n : Nat} (hn : n < 10 ^ 2) (h : f.read? (padded 2 n) = some (n, [])) (rest : List Char) :
    f.read? (padded 2 n ++ rest) = some (n, rest) := by
  obtain ⟨a, b, hab⟩ := List.length_eq_two.1 (length_padded Nat.two_pos hn)
  simp only [hab, Field.read?] at h
  rw [hab]
  split at h
  · rename_i htwo
    rw [List.cons_append, List.singleton_append, Field.read?, if_pos htwo, (Prod.mk.inj (Option.some.inj h)).1]
  · split at h
    · cases (Prod.mk.inj (Option.some.inj h)).2
    · cases h

theorem read?_month (d : Date) (rest : List Char) : month.read? (padded 2 d.month ++ rest) = some (d.month, rest) := by
  have hread : ∀ n < 13, 1 ≤ n → month.read? (padded 2 n) = some (n, []) := by decide +kernel
  have hmonth := d.month_le
  exact read?_padded (by omega) (hread d.month (by omega) d.month_pos) rest

theorem read?_day (d : Date) (rest : List Char) : day.read? (padded 2 d.day ++ rest) = some (d.day, rest) := by
  have hread : ∀ n < 32, 1 ≤ n → day.read? (padded 2 n) = some (n, []) := by decide +kernel
  have hday := d.day_le
  exact read?_padded (by omega) (hread d.day (by omega) d.isDay.2.2.1) rest

theorem year?_toDigits {y : Nat} (h : 1000 ≤ y) (h' : y ≤ 9999) (rest : List Char) :
    year? (Nat.toDigits 10 y ++ rest) = some (y, rest) := by
  -- there are four digits, because the year is below 10000 and not below 1000
  have hmost : (Nat.toDigits 10 y).length ≤ 4 := (Nat.length_toDigits_le_iff (by decide) (by decide)).2 (by omega)
  have hleast : ¬(Nat.toDigits 10 y).length ≤ 3 := by
    rw [Nat.length_toDigits_le_iff (by decide) (by decide)]
    omega
  have hlength : (Nat.toDigits 10 y).length = 4 := by omega
  rw [year?, List.take_left' hlength, List.drop_left' hlength, Numeral.digits?_of_isDigit Numeral.isDigit_toDigits]
  simp only [Option.bind_eq_bind, Option.bind_some, List.length_map, hlength, guard, if_true, Option.pure_def]
  exact congrArg (fun n => some (n, rest)) (Numeral.value_toDigits y)

theorem yearFirst?_chars {d : Date} (h : 1000 ≤ d.year) (rest : List Char) :
    yearFirst? (yearFirstChars d ++ rest) = some (d, rest) := by
  simp only [yearFirst?, yearFirstChars, List.append_assoc, List.cons_append, year?_toDigits h d.isDay.2.1, after?,
    if_true, read?_month, read?_day, IsoText.of?_date, Option.bind_eq_bind, Option.bind_some, Option.pure_def]

theorem monthFirst?_chars (sep : Char) {d : Date} (h : 1000 ≤ d.year) :
    monthFirst? sep (monthFirstChars sep d) = some (.ofDate d) := by
  have hyear := year?_toDigits h d.isDay.2.1 []
  rw [List.append_nil] at hyear
  simp only [monthFirst?, monthFirstChars, read?_month, read?_day, hyear, after?, if_true, guard, List.isEmpty_nil,
    IsoText.of?_date, Option.bind_eq_bind, Option.bind_some, Option.pure_def]

theorem clock?_chars {c : Clock} (h : c.micro = 0) : clock? (clockChars c) = some c := by
  have hhours : ∀ n < 24, hour.read? (padded 2 n) = some (n, []) := by decide +kernel
  have hminutes : ∀ n < 60, minute.read? (padded 2 n) = some (n, []) := by decide +kernel
  have hseconds : ∀ n < 60, second.read? (padded 2 n) = some (n, []) := by decide +kernel
  obtain ⟨h, m, s, u, hh, hm, hs, hu⟩ := c
  obtain rfl : u = 0 := h
  simp only [clock?, clockChars, read?_padded (by omega) (hhours h hh), read?_padded (by omega) (hminutes m hm),
    hseconds s hs, after?, if_true, guard, List.isEmpty_nil, Option.bind_eq_bind, Option.bind_some]
  exact dif_pos ⟨hh, hm, hs, hu⟩

/-! ## White space -/

theorem isGraphic_yearFirst (d : Date) : ∀ c ∈ yearFirstChars d, Text.IsGraphic c := by
  simp only [yearFirstChars, List.forall_mem_append, List.forall_mem_cons]
  exact ⟨fun c hc => Text.isGraphic_of_isDigit (Numeral.isDigit_toDigits c hc), by decide, isGraphic_padded, by decide,
    isGraphic_padded⟩

theorem isGraphic_monthFirst {sep : Char} (hsep : Text.IsGraphic sep) (d : Date) :
    ∀ c ∈ monthFirstChars sep d, Text.IsGraphic c := by
  simp only [monthFirstChars, List.forall_mem_append, List.forall_mem_cons]
  exact ⟨isGraphic_padded, hsep, isGraphic_padded, hsep,
    fun c hc => Text.isGraphic_of_isDigit (Numeral.isDigit_toDigits c hc)⟩

theorem isGraphic_clockChars (c : Clock) : ∀ x ∈ clockChars c, Text.IsGraphic x := by
  simp only [clockChars, List.forall_mem_append, List.forall_mem_cons]
  exact ⟨isGraphic_padded, by decide, isGraphic_padded, by decide, isGraphic_padded⟩

/-- There is no white space around what is written in a form. -/
theorem stripChars_text (t : Timestamp) (f : DateForm) : Text.stripChars (f.text t).toList = (f.text t).toList := by
  cases f with
  | iso => exact Timestamp.stripChars_textWith 'T' t
  | yearFirst =>
    rw [text, String.toList_ofList, Text.stripChars_of_graphic (isGraphic_yearFirst _)]
  | monthFirst =>
    rw [text, String.toList_ofList, Text.stripChars_of_graphic (isGraphic_monthFirst (by decide) _)]
  | dashed =>
    rw [text, String.toList_ofList, Text.stripChars_of_graphic (isGraphic_monthFirst (by decide) _)]
  | withClock =>
    have hstrip := Text.stripChars_between [' '] (isGraphic_yearFirst t.date) (isGraphic_clockChars t.clock)
      (by simp [yearFirstChars]) (by simp [clockChars])
    rw [List.append_assoc, List.singleton_append] at hstrip
    rw [text, String.toList_ofList, hstrip]

/-- A timestamp is read back from what it is written as in a form that holds it. -/
theorem read?_text {f : DateForm} (hf : Holds t f) (hy : 1000 ≤ t.date.year) : f.read? (f.text t).toList = some t := by
  cases f with
  | iso =>
    rw [read?, text, Timestamp.isoText, Timestamp.ofIso?_textWith (by decide)]
  | yearFirst =>
    have ht : t = .ofDate t.date := hf
    have hread := yearFirst?_chars hy []
    rw [List.append_nil] at hread
    simp only [read?, text, String.toList_ofList, dateOnly?, hread, guard, List.isEmpty_nil, if_true,
      Option.bind_eq_bind, Option.bind_some, Option.pure_def]
    exact congrArg some ht.symm
  | monthFirst =>
    have ht : t = .ofDate t.date := hf
    rw [text, String.toList_ofList]
    exact (monthFirst?_chars '/' hy).trans (congrArg some ht.symm)
  | dashed =>
    have ht : t = .ofDate t.date := hf
    rw [text, String.toList_ofList]
    exact (monthFirst?_chars '-' hy).trans (congrArg some ht.symm)
  | withClock =>
    obtain ⟨date, clock, offset⟩ := t
    obtain ⟨hmicro, rfl⟩ : clock.micro = 0 ∧ offset = none := hf
    have hclock : (clockChars clock).dropWhile Text.isBlank = clockChars clock :=
      Text.dropWhile_of_head fun c hc => (isGraphic_clockChars clock c (List.mem_of_mem_head? hc)).isBlank_eq
    have hblank : Text.isBlank ' ' = true := by decide
    simp only [read?, text, String.toList_ofList, dateTime?, yearFirst?_chars hy, List.head?_cons, Option.any_some, hblank,
      guard, if_true, List.dropWhile_cons_of_pos hblank, hclock, clock?_chars hmicro, Option.bind_eq_bind,
      Option.bind_some, Option.pure_def]

/-! ## Literals -/

/-- A text is taken for a column of timestamps as what it stands for in the form that it has, whichever order the forms are
tried in. -/
theorem coerce_text {fs : List DateForm} (hfs : ∀ f, f ∈ fs) (s : String) (column : Option Value) :
    ColumnType.timestamp.coerce (.text s) column = (fs.findSome? (·.read? (Text.stripChars s.toList))).elim
      (.error (.typeMismatch (.literal (.text s) .timestamp (column.filter Value.isTruthy)))) (.ok ∘ .timestamp) := by
  have hread : ColumnType.timestampOf? (.text s) = fs.findSome? (·.read? (Text.stripChars s.toList)) := by
    rw [timestampOf?_text, findSome?_read? (mem_all _), findSome?_read? (hfs _)]
  rw [← hread]
  cases ht : ColumnType.timestampOf? (.text s) with
  | none =>
    have hliteral : ColumnType.timestamp.literal? (.text s) = (ColumnType.timestampOf? (.text s)).map .timestamp := rfl
    exact ColumnType.coerce_eq_mismatch nofun rfl (by rw [hliteral, ht, Option.map_none])
  | some t => exact ColumnType.coerce_of_timestampOf? ht column

/-- No text is read in two forms, so a column of timestamps takes the same texts for the same timestamps whichever order the
forms are tried in, and takes a timestamp from what it is written as in any form that holds it. -/
theorem unambiguous (column : Option Value) :
    (∀ (cs : List Char) (f g : DateForm) (t u : Timestamp), f.read? cs = some t → g.read? cs = some u → f = g) ∧
    (∀ (s : String) (fs : List DateForm), (∀ f, f ∈ fs) → ColumnType.timestamp.coerce (.text s) column =
      (fs.findSome? (·.read? (Text.stripChars s.toList))).elim
        (.error (.typeMismatch (.literal (.text s) .timestamp (column.filter Value.isTruthy)))) (.ok ∘ .timestamp)) ∧
    ∀ (f : DateForm) (t : Timestamp), Holds t f → 1000 ≤ t.date.year →
      ColumnType.timestamp.coerce (.text (f.text t)) column = .ok (.timestamp t) := by
  refine ⟨fun cs f g t u hf hg => ?_, fun s fs hfs => coerce_text hfs s column, fun f t hf hy => ?_⟩
  · rw [← ofText_of_read? hf, ofText_of_read? hg]
  · have hread : f.read? (Text.stripChars (f.text t).toList) = some t := by
      rw [stripChars_text, read?_text hf hy]
    rw [coerce_text mem_all, findSome?_read? (mem_all _), ofText_of_read? hread, hread]
    rfl

/-- Dates in March and in a leap year, and the last second of a year, behind a blank or not. -/
theorem unambiguous_slashes :
    (monthFirst.read? "03/04/2024".toList = some (.ofDate ⟨2024, 3, 4, by decide⟩) ∧ monthFirst ≠ dashed ∧
      ¬∃ u, dashed.read? "03/04/2024".toList = some u) ∧
    ((∀ f, f ∈ all.reverse) ∧
      ColumnType.timestamp.coerce (.text " 02-29-2024") none = .ok (.timestamp (.ofDate ⟨2024, 2, 29, by decide⟩))) ∧
    (Holds ⟨⟨2024, 12, 31, by decide⟩, ⟨23, 59, 59, 0, by decide⟩, none⟩ withClock ∧ 1000 ≤ 2024 ∧
      ColumnType.timestamp.coerce (.text "2024/12/31 23:59:59") none =
        .ok (.timestamp ⟨⟨2024, 12, 31, by decide⟩, ⟨23, 59, 59, 0, by decide⟩, none⟩)) := by
  have hread : monthFirst.read? "03/04/2024".toList = some (.ofDate ⟨2024, 3, 4, by decide⟩) := by decide +kernel
  have hall : ∀ f, f ∈ all.reverse := fun f => by
    cases f <;> decide
  have hdashed : all.reverse.findSome? (·.read? (Text.stripChars " 02-29-2024".toList)) =
      some (.ofDate ⟨2024, 2, 29, by decide⟩) := by decide +kernel
  have htext : text ⟨⟨2024, 12, 31, by decide⟩, ⟨23, 59, 59, 0, by decide⟩, none⟩ withClock = "2024/12/31 23:59:59" := by
    decide +kernel
  obtain ⟨hone, horder, hback⟩ := unambiguous none
  refine ⟨⟨hread, by decide, ?_⟩, ⟨hall, ?_⟩, ⟨rfl, rfl⟩, by decide, ?_⟩
  · rintro ⟨u, hu⟩
    cases hone _ _ _ _ _ hread hu
  · rw [horder _ _ hall, hdashed]
    rfl
  · rw [← htext]
    exact hback withClock _ ⟨rfl, rfl⟩ (by decide)

end DateForm

end FacetSearch
