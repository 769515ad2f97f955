import FacetSearch.Json.Reader
import FacetSearch.Json.Writer
import FacetSearch.Proofs.Names
import FacetSearch.Proofs.Spellings
import FacetSearch.Text.Lines
/-!
# JSON texts are read as they are written

A value that consists of ASCII texts, lists and objects is read back from what is written of it (`Json.read_write`), in
every layout that adds nothing but white space. The reader answers what it has read and what is left (`Takes`); so what
is said of each part of a text is that it is read with anything behind it, and the parts of a list or an
object are read one after the other (`takes_intercalate`).
-/

namespace FacetSearch

namespace Json

/-- A step of the reader answers this and leaves that. -/
def Takes {α : Type} {s : List Char} (x : Except Fault (α × Rest s)) (a : α) (rest : List Char) : Prop :=
  ∃ h, x = .ok (a, ⟨rest, h⟩)

/-! ## Texts -/

theorem hex4?_hexDigits {n : Nat} (hn : n < 128) {s : List Char} (hs : s ≠ []) :
    hex4? (Text.hexDigits 4 n ++ s) = some n := by
  have hlength : (Text.hexDigits 4 n).length = 4 := rfl
  have hpos := List.length_pos_of_ne_nil hs
  have hread : ∀ n < 128, (Text.hexDigits 4 n).foldl (fun n c => do return (← n) * 16 + (← hexValue? c)) (some 0) =
      some n := by decide
  rw [hex4?, if_neg (by rw [List.length_append]; omega), List.take_left' hlength, hread n hn]

theorem isHalf_of_ascii {n : Nat} (hn : n < 128) : Text.isHalf n = false := by
  simp only [Text.isHalf, Bool.and_eq_false_iff, decide_eq_false_iff_not]
  omega

theorem unicodeEscape_hexDigits {c : Char} (hc : c.toNat < 128) {s : List Char} (hs : s ≠ []) :
    unicodeEscape (Text.hexDigits 4 c.toNat ++ s) = .ok (c, 5) := by
  have hhigh : Utf16.isHigh c.toNat = false := by
    simp only [Utf16.isHigh, Bool.and_eq_false_iff, decide_eq_false_iff_not]
    omega
  have hcode : Text.ofCode c.toNat = c := by
    rw [Text.ofCode, isHalf_of_ascii hc, if_neg Bool.false_ne_true, Char.ofNat_toNat]
  rw [unicodeEscape, hex4?_hexDigits hc hs]
  simp only [hhigh, Bool.false_and, Bool.false_eq_true, if_false, hcode]

/-- An ASCII character is written with a letter behind a backslash, as it is, or with its code. -/
theorem escapeChar_cases {c : Char} (hc : c.toNat < 128) :
    (∃ e, letterEscape? e = some c ∧ escapeChar c = ['\\', e]) ∨
      (c ≠ '"' ∧ c ≠ '\\' ∧ 32 ≤ c.toNat ∧ escapeChar c = [c]) ∨
      escapeChar c = '\\' :: 'u' :: Text.hexDigits 4 c.toNat := by
  have hcode : escapeCode (Text.code c) = '\\' :: 'u' :: Text.hexDigits 4 c.toNat := by
    have hzero : c.toNat - Text.halfPlane = 0 := by
      unfold Text.halfPlane
      omega
    have hhalf : Text.isHalf 0 = false := rfl
    rw [Text.code, hzero, hhalf, if_neg Bool.false_ne_true, escapeCode, if_pos (by omega), escapeUnit]
  by_cases hletter : ∃ e, letterEscape? e = some c ∧ escapeChar c = ['\\', e]
  · exact .inl hletter
  · have hne (e d : Char) (he : letterEscape? e = some d) (hd : escapeChar d = ['\\', e]) : c ≠ d := by
      rintro rfl
      exact hletter ⟨e, he, hd⟩
    have hquote := hne '"' '"' rfl rfl
    have hslash := hne '\\' '\\' rfl rfl
    right
    rw [escapeChar, if_neg hquote, if_neg hslash, if_neg (hne 'n' '\n' rfl rfl), if_neg (hne 'r' '\r' rfl rfl),
      if_neg (hne 't' '\t' rfl rfl), if_neg (hne 'b' '\x08' rfl rfl), if_neg (hne 'f' '\x0c' rfl rfl)]
    split
    · rename_i hplain
      exact .inl ⟨hquote, hslash, hplain.1, rfl⟩
    · exact .inr hcode

section

variable {o : Nat} {s cs rest : List Char} {c : Char} (h : Takes (stringBody o s) cs rest)

include h

theorem stringBody_letter {e : Char} (he : letterEscape? e = some c) :
    Takes (stringBody o ('\\' :: e :: s)) (c :: cs) rest := by
  obtain ⟨hr, h⟩ := h
  have hu : e ≠ 'u' := by
    rintro rfl
    cases he
  refine ⟨by simp only [List.length_cons]; omega, ?_⟩
  rw [stringBody.eq_5 o e s hu, he, h]
  rfl

theorem stringBody_plain (hquote : c ≠ '"') (hslash : c ≠ '\\') (hc : 32 ≤ c.toNat) :
    Takes (stringBody o (c :: s)) (c :: cs) rest := by
  obtain ⟨hr, h⟩ := h
  refine ⟨by simp only [List.length_cons]; omega, ?_⟩
  rw [stringBody.eq_6 o c s hquote (fun hb _ => hslash hb) (fun _ hb _ => hslash hb) (fun _ _ hb _ => hslash hb),
    if_neg (by omega), h]
  rfl

theorem stringBody_code (hc : c.toNat < 128) :
    Takes (stringBody o ('\\' :: 'u' :: (Text.hexDigits 4 c.toNat ++ s))) (c :: cs) rest := by
  have hs : s ≠ [] := by
    rintro rfl
    cases h.1
  have hlength : (Text.hexDigits 4 c.toNat).length = 4 := rfl
  obtain ⟨hr, hbody⟩ : Takes (stringBody o ((Text.hexDigits 4 c.toNat ++ s).drop (5 - 1))) cs rest := by
    rw [List.drop_left' hlength]
    exact h
  refine ⟨by simp only [List.length_cons, List.length_append]; exact Nat.lt_of_lt_of_le h.1 (by omega), ?_⟩
  rw [stringBody.eq_4, unicodeEscape_hexDigits hc hs]
  simp only [bind, Except.bind, hbody]
  rfl

/-- An ASCII character is read from what it is written as. -/
theorem stringBody_escapeChar (hc : c.toNat < 128) : Takes (stringBody o (escapeChar c ++ s)) (c :: cs) rest := by
  rcases escapeChar_cases hc with ⟨e, he, hw⟩ | ⟨hquote, hslash, hplain, hw⟩ | hw
  · rw [hw]
    exact stringBody_letter h he
  · rw [hw]
    exact stringBody_plain h hquote hslash hplain
  · rw [hw]
    exact stringBody_code h hc

end

/-- The characters of a text that is written are read up to the quote at its end. -/
theorem stringBody_escaped {cs : List Char} (hcs : ∀ c ∈ cs, c.toNat < 128) (o : Nat) (rest : List Char) :
    Takes (stringBody o (cs.flatMap escapeChar ++ '"' :: rest)) cs rest := by
  induction cs with
  | nil => exact ⟨by simp, stringBody.eq_2 o rest⟩
  | cons c cs ih =>
    rw [List.flatMap_cons, List.append_assoc]
    exact stringBody_escapeChar (ih fun d hd => hcs d (List.mem_cons_of_mem _ hd)) (hcs c List.mem_cons_self)

/-! ## Members of lists and objects -/

/-- Behind a member its list or object is read to the end, or there is a comma and members that are read by `p`. -/
def TakesMore {α : Type} (p : (s : List Char) → Except Fault (List α × Rest s)) (closing : Char) (rest : List Char)
    (as : List α) (after : List Char) : Prop :=
  (as = [] ∧ skipBlank rest = closing :: after) ∨
    ∃ next, skipBlank rest = ',' :: next ∧ Takes (p (skipBlank next)) as after

theorem TakesMore.length_lt {α : Type} {p : (s : List Char) → Except Fault (List α × Rest s)} {closing : Char}
    {rest after : List Char} {as : List α} (h : TakesMore p closing rest as after) : after.length < rest.length := by
  have hb := length_skipBlank_le rest
  rcases h with ⟨-, hr⟩ | ⟨next, hr, hnext, -⟩
  · rw [hr, List.length_cons] at hb
    omega
  · have hn := length_skipBlank_le next
    rw [hr, List.length_cons] at hb
    omega

section

variable {depth : Nat} {s rest after : List Char} {v : Value}

theorem elements_cons {vs : List Value} (h : Takes (value depth s) v rest)
    (hvs : TakesMore (elements depth) ']' rest vs after) : Takes (elements depth s) (v :: vs) after := by
  obtain ⟨hrest, h⟩ := h
  have hlength := hvs.length_lt
  refine ⟨Nat.lt_trans hlength hrest, ?_⟩
  rw [elements, h]
  simp only [bind, Except.bind]
  split
  · rename_i after' hr'
    rcases hvs with ⟨rfl, hr⟩ | ⟨next, hr, -⟩
    · obtain rfl := (List.cons.inj (hr.symm.trans hr')).2
      rfl
    · cases hr.symm.trans hr'
  · rename_i next' hr'
    rcases hvs with ⟨-, hr⟩ | ⟨next, hr, hnext, hvs⟩
    · cases hr.symm.trans hr'
    · obtain rfl := (List.cons.inj (hr.symm.trans hr')).2
      rw [hvs]
      rfl
  · rename_i hend hmore
    rcases hvs with ⟨-, hr⟩ | ⟨next, hr, -⟩
    · exact absurd hr (hend _)
    · exact absurd hr (hmore _)

theorem members_cons {key afterKey afterColon : List Char} {entries : List (String × Value)}
    (hkey : Takes (stringBody (s.length + 1) s) key afterKey) (hcolon : skipBlank afterKey = ':' :: afterColon)
    (hv : Takes (value depth (skipBlank afterColon)) v rest)
    (hentries : TakesMore (members depth) '\x7d' rest entries after) :
    Takes (members depth ('"' :: s)) ((String.ofList key, v) :: entries) after := by
  obtain ⟨hlk, hkey⟩ := hkey
  obtain ⟨hlv, hv⟩ := hv
  have hk := length_skipBlank_le afterKey
  have hc := length_skipBlank_le afterColon
  have hlength := hentries.length_lt
  rw [hcolon, List.length_cons] at hk
  refine ⟨by rw [List.length_cons]; omega, ?_⟩
  rw [members, hkey]
  simp only [bind, Except.bind]
  split
  · rename_i afterColon' hcolon'
    obtain rfl := (List.cons.inj (hcolon.symm.trans hcolon')).2
    rw [hv]
    dsimp only
    split
    · rename_i after' hr'
      rcases hentries with ⟨rfl, hr⟩ | ⟨next, hr, -⟩
      · obtain rfl := (List.cons.inj (hr.symm.trans hr')).2
        rfl
      · cases hr.symm.trans hr'
    · rename_i next' hr'
      rcases hentries with ⟨-, hr⟩ | ⟨next, hr, hnext, hentries⟩
      · cases hr.symm.trans hr'
      · obtain rfl := (List.cons.inj (hr.symm.trans hr')).2
        rw [hentries]
        rfl
    · rename_i hend hmore
      rcases hentries with ⟨-, hr⟩ | ⟨next, hr, -⟩
      · exact absurd hr (hend _)
      · exact absurd hr (hmore _)
  · rename_i hno
    exact absurd hcolon (hno _)

end

/-! ## Values -/

section

variable {depth : Nat} {r rest : List Char}

theorem value_null (depth : Nat) (rest : List Char) : Takes (value depth ("null".toList ++ rest)) .null rest := by
  have hchars : "null".toList ++ rest = 'n' :: 'u' :: 'l' :: 'l' :: rest := rfl
  have hword : word? ('n' :: 'u' :: 'l' :: 'l' :: rest) = some ("null", .null) := by
    simp [word?, words]
  rw [hchars]
  refine ⟨by simp only [List.length_cons]; omega, ?_⟩
  rw [value.eq_4 _ _ (by simp) (by simp) (by simp), scalar, hword]
  rfl

theorem value_text {cs : List Char} (h : Takes (stringBody (r.length + 1) r) cs rest) :
    Takes (value depth ('"' :: r)) (.text (String.ofList cs)) rest := by
  obtain ⟨hr, h⟩ := h
  refine ⟨by rw [List.length_cons]; omega, ?_⟩
  rw [value.eq_1, h]
  rfl

/-- Behind an opening bracket the closing one is read, or members that are read by `p`. -/
def TakesAll {α : Type} (p : (s : List Char) → Except Fault (List α × Rest s)) (closing : Char) (r : List Char)
    (as : List α) (rest : List Char) : Prop :=
  (as = [] ∧ skipBlank r = closing :: rest) ∨ ((∀ s, skipBlank r ≠ closing :: s) ∧ Takes (p (skipBlank r)) as rest)

theorem TakesAll.length_lt {α : Type} {p : (s : List Char) → Except Fault (List α × Rest s)} {closing : Char}
    {as : List α} (h : TakesAll p closing r as rest) : rest.length < r.length := by
  have hb := length_skipBlank_le r
  rcases h with ⟨-, hr⟩ | ⟨-, hr, -⟩
  · rw [hr, List.length_cons] at hb
    omega
  · omega

theorem value_list {vs : List Value} (h : TakesAll (elements depth) ']' r vs rest) :
    Takes (value (depth + 1) ('[' :: r)) (.list vs) rest := by
  have hlength := h.length_lt
  refine ⟨by rw [List.length_cons]; omega, ?_⟩
  rw [value.eq_3, if_neg (Nat.succ_ne_zero depth)]
  split
  · rename_i rest' hr'
    rcases h with ⟨rfl, hr⟩ | ⟨hne, -⟩
    · obtain rfl := (List.cons.inj (hr.symm.trans hr')).2
      rfl
    · exact absurd hr' (hne _)
  · rename_i hno
    rcases h with ⟨-, hr⟩ | ⟨-, hrest, h⟩
    · exact absurd hr (hno _)
    · rw [Nat.add_sub_cancel, h]
      rfl

theorem value_object {entries : List (String × Value)} (h : TakesAll (members depth) '\x7d' r entries rest) :
    Takes (value (depth + 1) ('\x7b' :: r)) (objectOf entries) rest := by
  have hlength := h.length_lt
  refine ⟨by rw [List.length_cons]; omega, ?_⟩
  rw [value.eq_2, if_neg (Nat.succ_ne_zero depth)]
  split
  · rename_i rest' hr'
    rcases h with ⟨rfl, hr⟩ | ⟨hne, -⟩
    · obtain rfl := (List.cons.inj (hr.symm.trans hr')).2
      rfl
    · exact absurd hr' (hne _)
  · rename_i hno
    rcases h with ⟨-, hr⟩ | ⟨-, hrest, h⟩
    · exact absurd hr (hno _)
    · rw [Nat.add_sub_cancel, h]
      rfl

end

/-! ### Integers -/

/-- Nothing of a numeral stands in front. -/
structure EndsNumeral (rest : List Char) : Prop where
  digits : rest.takeWhile isDigit = []
  fraction : fractionPart rest = []
  exponent : exponentPart rest = []

section

variable {d : Char} {ds rest : List Char} (hd : d ≠ '0') (hdigits : ∀ c ∈ d :: ds, isDigit c = true)

include hdigits in
theorem word?_digits : word? (d :: ds ++ rest) = none := by
  have h : ∀ w ∈ words, w.1.toList.isPrefixOf (d :: ds ++ rest) = false := by
    intro w hw
    have hhead : ∀ w ∈ words, w.1.toList.head?.any isDigit = false ∧ w.1.toList ≠ [] := by decide
    obtain ⟨hhead, hne⟩ := hhead w hw
    cases hcs : w.1.toList with
    | nil => exact absurd hcs hne
    | cons c cs =>
      rw [hcs] at hhead
      have hc : c ≠ d := by
        rintro rfl
        simp [hdigits c List.mem_cons_self] at hhead
      rw [List.cons_append, List.isPrefixOf_cons_cons, beq_false_of_ne hc, Bool.false_and]
  exact List.find?_eq_none.2 fun w hw => by rw [h w hw]; exact Bool.false_ne_true

include hd hdigits

theorem wholeDigits_append (hrest : EndsNumeral rest) : wholeDigits (d :: ds ++ rest) = d :: ds := by
  unfold wholeDigits
  split
  · rename_i h
    exact absurd (List.cons.inj h).1 hd
  · rw [List.takeWhile_append_of_pos hdigits, hrest.digits, List.append_nil]

/-- Digits without a zero in front are the integer. -/
theorem number_digits (hlength : (d :: ds).length ≤ Numeral.maxDigits) (hrest : EndsNumeral rest) :
    Takes (number (d :: ds ++ rest)) (.int (Numeral.ofDigits ((d :: ds).map fun c => c.toNat - 48))) rest := by
  have hwhole := wholeDigits_append hd hdigits hrest
  have hsign : d ≠ '-' := by
    rintro rfl
    exact absurd (hdigits _ List.mem_cons_self) (by decide)
  have hdrop : (d :: ds ++ rest).drop (d :: ds).length = rest := List.drop_left
  refine ⟨by simp, ?_⟩
  rw [List.cons_append] at hwhole hdrop
  simp only [number, List.head?_cons, List.cons_append, Option.some.injEq, hsign, if_false, List.length_nil,
    List.drop_zero, hwhole, Nat.zero_add, hdrop, hrest.fraction, Nat.add_zero, hrest.exponent]
  rw [dif_neg (by simp), dif_neg (by simp)]
  simp only [List.isEmpty_nil, Bool.and_self, if_true, Bool.not_true, integer]
  rw [if_neg (Nat.not_lt.2 hlength)]
  rfl

theorem value_digits (depth : Nat) (hlength : (d :: ds).length ≤ Numeral.maxDigits) (hrest : EndsNumeral rest) :
    Takes (value depth (d :: ds ++ rest)) (.int (Numeral.ofDigits ((d :: ds).map fun c => c.toNat - 48))) rest := by
  obtain ⟨h, hnumber⟩ := number_digits hd hdigits hlength hrest
  have hne : ∀ c, isDigit c = false → d ≠ c := by
    rintro _ hc rfl
    rw [hdigits d List.mem_cons_self] at hc
    cases hc
  refine ⟨h, ?_⟩
  have hword : word? (d :: ds ++ rest) = none := word?_digits hdigits
  simp only [List.cons_append] at hword hnumber ⊢
  rw [value.eq_4 _ _ (fun _ hs => hne _ rfl (List.cons.inj hs).1) (fun _ hs => hne _ rfl (List.cons.inj hs).1)
    (fun _ hs => hne _ rfl (List.cons.inj hs).1), scalar, hword]
  exact hnumber

end

/-! ## What is written -/

/-- White space of a line in front is passed over. -/
theorem skipBlank_append {bs : List Char} (h : ∀ c ∈ bs, isBlank c = true) (s : List Char) :
    skipBlank (bs ++ s) = skipBlank s := List.dropWhile_append_of_pos h

theorem skipBlank_cons {c : Char} (h : isBlank c = false) {s : List Char} : skipBlank (c :: s) = c :: s := by
  rw [skipBlank, List.dropWhile_cons, h, if_neg Bool.false_ne_true]

/-- The characters with which the values begin that are written here. -/
def openings : List Char := ['"', '\x7b', '[', 'n']

/-- The text begins as that of a value. -/
def Opens (s : List Char) : Prop := ∃ c r, s = c :: r ∧ c ∈ openings

theorem Opens.append {s : List Char} (h : Opens s) (rest : List Char) : Opens (s ++ rest) := by
  obtain ⟨c, r, rfl, hc⟩ := h
  exact ⟨c, r ++ rest, rfl, hc⟩

theorem Opens.intercalate {s : List Char} (h : Opens s) (sep : List Char) (ss : List (List Char)) :
    Opens (sep.intercalate (s :: ss)) := by
  cases ss with
  | nil => rwa [List.intercalate_singleton]
  | cons t ss =>
    rw [List.intercalate_cons_cons, List.append_assoc]
    exact h.append _

theorem Opens.skipBlank_eq {s : List Char} (h : Opens s) : skipBlank s = s := by
  obtain ⟨c, r, rfl, hc⟩ := h
  have hblank : ∀ c ∈ openings, isBlank c = false := by simp [openings, isBlank]
  exact skipBlank_cons (hblank c hc)

/-- Layouts that add nothing but white space, and leave entries in their order. -/
structure Layout.IsOrdered (l : Layout) : Prop where
  comma : ∃ n, l.comma.toList = ',' :: List.replicate n ' '
  colon : ∃ n, l.colon.toList = ':' :: List.replicate n ' '
  sorted : l.sorted = false

theorem notMem_spaces {c : Char} (h : c ≠ ' ') (n : Nat) : c ∉ List.replicate n ' ' :=
  fun hc => h (List.eq_of_mem_replicate hc)

theorem notMem_lineStart (l : Layout) (level : Nat) : '\r' ∉ (lineStart l level).toList := by
  unfold lineStart
  split
  · exact List.not_mem_nil
  · rw [String.toList_ofList]
    exact List.not_mem_cons_of_ne_of_not_mem (by decide) (notMem_spaces (by decide) _)

theorem notMem_intercalate {c : Char} {sep : List Char} {ss : List (List Char)} (hsep : c ∉ sep)
    (h : ∀ s ∈ ss, c ∉ s) : c ∉ sep.intercalate ss := by
  induction ss with
  | nil => exact List.not_mem_nil
  | cons s ss ih =>
    obtain ⟨hs, hss⟩ := List.forall_mem_cons.1 h
    cases ss with
    | nil => rwa [List.intercalate_singleton]
    | cons t ss =>
      rw [List.intercalate_cons_cons]
      exact List.not_mem_append (List.not_mem_append hs hsep) (ih hss)

theorem Layout.isOrdered_indented (other : Value → Option String) : (indented other).IsOrdered where
  comma := ⟨0, by simp [indented]⟩
  colon := ⟨1, by simp [indented]⟩
  sorted := rfl

theorem isBlank_of_mem_spaces {n : Nat} {c : Char} (h : c ∈ List.replicate n ' ') : isBlank c = true := by
  rw [List.eq_of_mem_replicate h]
  rfl

theorem isBlank_lineStart (l : Layout) (level : Nat) : ∀ c ∈ (lineStart l level).toList, isBlank c = true := by
  intro c hc
  unfold lineStart at hc
  split at hc
  · cases hc
  · rw [String.toList_ofList] at hc
    rcases List.mem_cons.1 hc with rfl | hc
    · rfl
    · exact isBlank_of_mem_spaces hc

section

variable {α : Type} {p : (s : List Char) → Except Fault (List α × Rest s)} {closing : Char}

/-- The text of a member is read by `p`, with the members behind it, and has line feeds as line ends only. -/
structure Spells (p : (s : List Char) → Except Fault (List α × Rest s)) (closing : Char) (a : α) (t : String) : Prop where
  opens : Opens t.toList
  noReturn : '\r' ∉ t.toList
  takes : ∀ rest as after, TakesMore p closing rest as after → Takes (p (t.toList ++ rest)) (a :: as) after

/-- Members with commas and white space between them are read one after the other. -/
theorem takes_intercalate {sep front : List Char} (hsep : ∀ c ∈ sep, isBlank c = true)
    (hfront : ∀ c ∈ front, isBlank c = true) (hclosing : isBlank closing = false) {a : α} {as : List α} {t : String}
    {ts : List String} (h : List.Forall₂ (Spells p closing) (a :: as) (t :: ts)) (rest : List Char) :
    Takes (p ((',' :: sep).intercalate ((t :: ts).map String.toList) ++ (front ++ closing :: rest))) (a :: as) rest := by
  obtain ⟨ha, has⟩ := List.forall₂_cons.1 h
  clear h
  induction has generalizing a t with
  | nil =>
    rw [List.map_cons, List.map_nil, List.intercalate_singleton]
    refine ha.takes _ _ _ (.inl ⟨rfl, ?_⟩)
    rw [skipBlank_append hfront, skipBlank_cons hclosing]
  | cons hb hbs ih =>
    rw [List.map_cons, List.map_cons, List.intercalate_cons_cons, List.append_assoc, List.append_assoc, List.cons_append]
    refine ha.takes _ _ _ (.inr ⟨_, skipBlank_cons rfl, ?_⟩)
    rw [skipBlank_append hsep, ((hb.opens.intercalate _ _).append _).skipBlank_eq]
    exact ih hb

theorem notMem_bracket {l : Layout} (hl : l.IsOrdered) (level : Nat) {opening last : String}
    (ho : '\r' ∉ opening.toList) (hlast : '\r' ∉ last.toList) {ts : List String} (h : ∀ t ∈ ts, '\r' ∉ t.toList) :
    '\r' ∉ (bracket l level opening last ts).toList := by
  obtain ⟨n, hcomma⟩ := hl.comma
  have hsep : '\r' ∉ (l.comma ++ lineStart l (level + 1)).toList := by
    rw [String.toList_append, hcomma]
    refine List.not_mem_append (List.not_mem_cons_of_ne_of_not_mem (by decide) (notMem_spaces (by decide) n)) ?_
    exact notMem_lineStart l _
  unfold bracket
  split
  · rw [String.toList_append]
    exact List.not_mem_append ho hlast
  · simp only [String.toList_append, String.toList_intercalate] at hsep ⊢
    refine List.not_mem_append (List.not_mem_append (List.not_mem_append (List.not_mem_append ho ?_) ?_) ?_) hlast
    · exact notMem_lineStart l _
    · exact notMem_intercalate hsep (by simpa using h)
    · exact notMem_lineStart l _

/-- Members between brackets are read up to the closing one. -/
theorem takes_bracket {l : Layout} (hl : l.IsOrdered) (level : Nat) {opening last : String} {o : Char}
    (ho : opening.toList = [o]) (hlast : last.toList = [closing]) (hclosing : isBlank closing = false)
    (hother : closing ∉ openings) {as : List α} {ts : List String} (h : List.Forall₂ (Spells p closing) as ts)
    (rest : List Char) :
    ∃ r, (bracket l level opening last ts).toList ++ rest = o :: r ∧ TakesAll p closing r as rest := by
  cases h with
  | nil =>
    refine ⟨closing :: rest, ?_, .inl ⟨rfl, skipBlank_cons hclosing⟩⟩
    simp only [bracket, List.isEmpty_nil, if_true, String.toList_append, ho, hlast, List.cons_append, List.nil_append]
  | cons ht hts =>
    rename_i a t as ts
    obtain ⟨n, hcomma⟩ := hl.comma
    have hsep : ∀ c ∈ List.replicate n ' ' ++ (lineStart l (level + 1)).toList, isBlank c = true := by
      intro c hc
      rcases List.mem_append.1 hc with hc | hc
      · exact isBlank_of_mem_spaces hc
      · exact isBlank_lineStart _ _ c hc
    let body := (',' :: (List.replicate n ' ' ++ (lineStart l (level + 1)).toList)).intercalate
      ((t :: ts).map String.toList) ++ ((lineStart l level).toList ++ closing :: rest)
    have hopens : Opens body := (ht.opens.intercalate _ _).append _
    refine ⟨(lineStart l (level + 1)).toList ++ body, ?_, .inr ?_⟩
    · simp only [bracket, List.isEmpty_cons, Bool.false_eq_true, if_false, String.toList_append,
        String.toList_intercalate, ho, hlast, hcomma, List.append_assoc, List.cons_append, List.nil_append, body]
    · rw [skipBlank_append (isBlank_lineStart _ _), hopens.skipBlank_eq]
      refine ⟨fun s hs => ?_, takes_intercalate hsep (isBlank_lineStart _ _) hclosing (.cons ht hts) rest⟩
      obtain ⟨c, r, hbody, hc⟩ := hopens
      obtain rfl := (List.cons.inj (hs.symm.trans hbody)).1
      exact hother hc

end

/-! ## Values that are written -/

/-- Nothing, texts of ASCII characters, and lists and objects of such, with different keys and at most so many brackets
around each. -/
inductive IsPlain : Nat → Value → Prop
  | null (depth) : IsPlain depth .null
  | text (depth) {s} (h : ∀ c ∈ s.toList, c.toNat < 128) : IsPlain depth (.text s)
  | list {depth xs} (h : ∀ x ∈ xs, IsPlain depth x) : IsPlain (depth + 1) (.list xs)
  | object {depth} {es : List (String × Value)} (hascii : ∀ e ∈ es, ∀ c ∈ e.1.toList, c.toNat < 128)
      (hkeys : (es.map Prod.fst).Nodup) (h : ∀ e ∈ es, IsPlain depth e.2) :
      IsPlain (depth + 1) (.object (es.map fun (k, v) => (.text k, v)))

/-- The text of a value is read as the value, with anything behind it, and has line feeds as line ends only. -/
structure IsTextOf (depth : Nat) (v : Value) (t : String) : Prop where
  opens : Opens t.toList
  noReturn : '\r' ∉ t.toList
  takes : ∀ rest, Takes (value depth (t.toList ++ rest)) v rest

theorem toList_quote (s : String) : (quote s).toList = '"' :: (s.toList.flatMap escapeChar ++ ['"']) := by
  rw [quote, String.toList_ofList, List.cons_append]

/-- A character that JSON has an escape for is not written as it is. -/
theorem notMem_escapeChar {c : Char} (hc : c.toNat < 128) : '\r' ∉ escapeChar c :=
  Name.of_ascii (P := fun c => '\r' ∉ escapeChar c) (by decide +kernel) hc

theorem notMem_quote {s : String} (h : ∀ c ∈ s.toList, c.toNat < 128) : '\r' ∉ (quote s).toList := by
  rw [toList_quote]
  refine List.not_mem_cons_of_ne_of_not_mem (by decide) (List.not_mem_append ?_ (by simp))
  intro hmem
  obtain ⟨c, hc, hmem⟩ := List.mem_flatMap.1 hmem
  exact notMem_escapeChar (h c hc) hmem

theorem isTextOf_quote (depth : Nat) {s : String} (h : ∀ c ∈ s.toList, c.toNat < 128) :
    IsTextOf depth (.text s) (quote s) := by
  constructor
  · rw [toList_quote]
    exact ⟨_, _, rfl, by decide⟩
  · exact notMem_quote h
  · intro rest
    rw [toList_quote, List.cons_append, List.append_assoc, List.singleton_append]
    have hbody : Takes (value depth ('"' :: (s.toList.flatMap escapeChar ++ '"' :: rest)))
        (.text (String.ofList s.toList)) rest := value_text (stringBody_escaped h _ rest)
    rwa [String.ofList_toList] at hbody

theorem isTextOf_null (depth : Nat) : IsTextOf depth .null "null" :=
  ⟨⟨'n', "ull".toList, rfl, by decide⟩, by decide, value_null depth⟩

theorem IsTextOf.spells {depth : Nat} {v : Value} {t : String} (h : IsTextOf depth v t) :
    Spells (elements depth) ']' v t :=
  ⟨h.opens, h.noReturn, fun rest _ _ hmore => elements_cons (h.takes rest) hmore⟩

/-- A key and a value make an entry. -/
theorem IsTextOf.spells_entry {l : Layout} (hl : l.IsOrdered) {depth : Nat} {v : Value} {t k : String}
    (h : IsTextOf depth v t) (hk : ∀ c ∈ k.toList, c.toNat < 128) :
    Spells (members depth) '\x7d' (k, v) (quote k ++ l.colon ++ t) := by
  obtain ⟨n, hcolon⟩ := hl.colon
  have hchars (rest : List Char) : (quote k ++ l.colon ++ t).toList ++ rest =
      '"' :: (k.toList.flatMap escapeChar ++ '"' :: ':' :: (List.replicate n ' ' ++ (t.toList ++ rest))) := by
    simp only [String.toList_append, toList_quote, hcolon, List.append_assoc, List.cons_append, List.nil_append]
  constructor
  · have := hchars []
    rw [List.append_nil] at this
    rw [this]
    exact ⟨_, _, rfl, by decide⟩
  · simp only [String.toList_append, hcolon]
    refine List.not_mem_append (List.not_mem_append (notMem_quote hk) ?_) h.noReturn
    exact List.not_mem_cons_of_ne_of_not_mem (by decide) (notMem_spaces (by decide) n)
  · intro rest entries after hmore
    rw [hchars]
    have hvalue : Takes (value depth (skipBlank (List.replicate n ' ' ++ (t.toList ++ rest)))) v rest := by
      rw [skipBlank_append fun c hc => isBlank_of_mem_spaces hc, (h.opens.append rest).skipBlank_eq]
      exact h.takes rest
    have hblank : isBlank ':' = false := rfl
    have hentry := members_cons (stringBody_escaped hk _ (':' :: (List.replicate n ' ' ++ (t.toList ++ rest))))
      (skipBlank_cons hblank) hvalue hmore
    rwa [String.ofList_toList] at hentry

/-- A value has texts at all levels of nesting, which are read as the value. -/
def IsWritten (l : Layout) (depth : Nat) (v : Value) : Prop :=
  ∀ level, ∃ t, valueText l level v = some t ∧ IsTextOf depth v t

theorem memberTexts_of_isWritten {l : Layout} {depth : Nat} {xs : List Value} (h : ∀ x ∈ xs, IsWritten l depth x)
    (level : Nat) : ∃ ts, memberTexts l level xs = some ts ∧ List.Forall₂ (Spells (elements depth) ']') xs ts := by
  induction xs with
  | nil => exact ⟨[], rfl, .nil⟩
  | cons x xs ih =>
    obtain ⟨hx, hxs⟩ := List.forall_mem_cons.1 h
    obtain ⟨t, ht, hspells⟩ := hx level
    obtain ⟨ts, hts, hall⟩ := ih hxs
    exact ⟨t :: ts, by rw [memberTexts, ht, hts]; rfl, .cons hspells.spells hall⟩

theorem entryTexts_of_isWritten {l : Layout} (hl : l.IsOrdered) {depth : Nat} {es : List (String × Value)}
    (hascii : ∀ e ∈ es, ∀ c ∈ e.1.toList, c.toNat < 128) (h : ∀ e ∈ es, IsWritten l depth e.2) (level : Nat) :
    ∃ ts, entryTexts l level (es.map fun (k, v) => (.text k, v)) = some ts ∧
      List.Forall₂ (Spells (members depth) '\x7d') es (ts.map Entry.text) := by
  induction es with
  | nil => exact ⟨[], rfl, .nil⟩
  | cons e es ih =>
    obtain ⟨k, v⟩ := e
    obtain ⟨hk, hks⟩ := List.forall_mem_cons.1 hascii
    obtain ⟨hv, hvs⟩ := List.forall_mem_cons.1 h
    obtain ⟨t, ht, hspells⟩ := hv level
    obtain ⟨ts, hts, hall⟩ := ih hks hvs
    refine ⟨⟨.text k, quote k ++ l.colon ++ t⟩ :: ts, ?_, .cons (hspells.spells_entry hl hk) hall⟩
    rw [List.map_cons, entryTexts, ht, hts]
    rfl

/-- A value of members between brackets. -/
theorem isTextOf_bracket {α : Type} {p : (s : List Char) → Except Fault (List α × Rest s)} {l : Layout}
    (hl : l.IsOrdered) (level : Nat) {opening last : String} {o closing : Char} (ho : opening.toList = [o])
    (hlast : last.toList = [closing]) (hopening : o ∈ openings ∧ o ≠ '\r')
    (hclosing : isBlank closing = false ∧ closing ∉ openings ∧ closing ≠ '\r') {depth : Nat} {v : Value} {as : List α}
    (hv : ∀ r rest, TakesAll p closing r as rest → Takes (value depth (o :: r)) v rest) {ts : List String}
    (h : List.Forall₂ (Spells p closing) as ts) : IsTextOf depth v (bracket l level opening last ts) := by
  have htakes := takes_bracket hl level ho hlast hclosing.1 hclosing.2.1 h
  constructor
  · obtain ⟨r, hr, -⟩ := htakes []
    rw [List.append_nil] at hr
    exact ⟨o, r, hr, hopening.1⟩
  · refine notMem_bracket hl level ?_ ?_ fun t ht => ?_
    · rw [ho]
      exact List.not_mem_cons_of_ne_of_not_mem hopening.2.symm List.not_mem_nil
    · rw [hlast]
      exact List.not_mem_cons_of_ne_of_not_mem hclosing.2.2.symm List.not_mem_nil
    · obtain ⟨a, -, ha⟩ := exists_of_mem_right h ht
      exact ha.noReturn
  · intro rest
    obtain ⟨r, hr, hall⟩ := htakes rest
    rw [hr]
    exact hv r rest hall

theorem IsPlain.isWritten {l : Layout} (hl : l.IsOrdered) {depth : Nat} {v : Value} (h : IsPlain depth v) :
    IsWritten l depth v := by
  induction h with
  | null depth => exact fun level => ⟨"null", rfl, isTextOf_null depth⟩
  | text depth h => exact fun level => ⟨_, rfl, isTextOf_quote depth h⟩
  | list _ ih =>
    intro level
    obtain ⟨ts, hts, hall⟩ := memberTexts_of_isWritten ih (level + 1)
    refine ⟨bracket l level "[" "]" ts, by rw [valueText, hts]; rfl, ?_⟩
    exact isTextOf_bracket hl level rfl rfl (by decide) (by decide) (fun r rest => value_list) hall
  | @object depth es hascii hkeys _ ih =>
    intro level
    obtain ⟨ts, hts, hall⟩ := entryTexts_of_isWritten hl hascii ih (level + 1)
    refine ⟨bracket l level "\x7b" "\x7d" (ts.map Entry.text), ?_, ?_⟩
    · rw [valueText, hts]
      simp only [bind, Option.bind, objectText, hl.sorted, Bool.false_eq_true, if_false]
      rfl
    · have hobject : objectOf es = .object (es.map fun (k, v) => (.text k, v)) := by
        rw [objectOf, Keyed.ofList_of_nodup hkeys]
      exact hobject ▸ isTextOf_bracket hl level rfl rfl (by decide) (by decide) (fun r rest => value_object) hall

/-- What is read as a value with white space behind it is the text of this value. -/
theorem readUnmarked_of_takes {text back : List Char} {v : Value} (hmark : text.head? ≠ some '\ufeff')
    (hback : skipBlank back = []) (h : Takes (value maxDepth (skipBlank text)) v back) : readUnmarked text = .ok v := by
  obtain ⟨hlength, htakes⟩ := h
  rw [readUnmarked, if_neg hmark, read, htakes]
  simp only [bind, Except.bind, hback]
  rfl

/-- What is written of a plain value has line feeds as line ends only and is read as the value, with white space
behind it. -/
theorem read_write {l : Layout} (hl : l.IsOrdered) {v : Value} (h : IsPlain maxDepth v) :
    ∃ t, write l v = some t ∧ '\r' ∉ t.toList ∧
      ∀ back, (∀ c ∈ back, isBlank c = true) → readUnmarked (t.toList ++ back) = .ok v := by
  obtain ⟨t, ht, htext⟩ := h.isWritten hl 0
  refine ⟨t, ht, htext.noReturn, fun back hback => ?_⟩
  have hopens := htext.opens.append back
  have hend : skipBlank back = [] := by
    have := skipBlank_append hback []
    rwa [List.append_nil] at this
  refine readUnmarked_of_takes ?_ hend ?_
  · obtain ⟨c, r, hc, hmem⟩ := hopens
    rw [hc, List.head?_cons]
    rintro ⟨rfl⟩
    revert hmem
    decide
  · rw [hopens.skipBlank_eq]
    exact htext.takes back

/-- An object of one integer without a zero in front is read. -/
theorem readUnmarked_digits {key : String} (hkey : ∀ c ∈ key.toList, c.toNat < 128) {d : Char} {ds : List Char}
    (hd : d ≠ '0') (hdigits : ∀ c ∈ d :: ds, isDigit c = true) (hlength : (d :: ds).length ≤ Numeral.maxDigits) :
    readUnmarked ('\x7b' :: ((quote key).toList ++ ':' :: (d :: ds ++ ['\x7d']))) =
      .ok (.object [(.text key, .int (Numeral.ofDigits ((d :: ds).map fun c => c.toNat - 48)))]) := by
  have hquote (rest : List Char) : skipBlank ((quote key).toList ++ rest) =
      '"' :: (key.toList.flatMap escapeChar ++ '"' :: rest) := by
    rw [toList_quote, List.cons_append, List.append_assoc]
    exact skipBlank_cons rfl
  have hblank : isBlank d = false := by
    by_contra hblank
    rw [Bool.not_eq_false] at hblank
    have hdigit := hdigits d List.mem_cons_self
    simp only [isBlank, Bool.or_eq_true, beq_iff_eq] at hblank
    rcases hblank with ((rfl | rfl) | rfl) | rfl <;> cases hdigit
  have hvalue : Takes (value (maxDepth - 1) (d :: ds ++ ['\x7d'])) _ ['\x7d'] :=
    value_digits hd hdigits _ hlength ⟨rfl, rfl, rfl⟩
  rw [List.cons_append, ← skipBlank_cons hblank, ← List.cons_append] at hvalue
  have hentry := members_cons (stringBody_escaped hkey _ (':' :: (d :: ds ++ ['\x7d']))) (skipBlank_cons rfl) hvalue
    (.inl ⟨rfl, rfl⟩)
  rw [← hquote, String.ofList_toList] at hentry
  refine readUnmarked_of_takes (by simp) (show skipBlank [] = [] from rfl) ?_
  rw [skipBlank_cons rfl]
  exact value_object (.inr ⟨fun s hs => by simp [hquote] at hs, hentry⟩)

end Json

/-- A text without carriage returns has line feeds as line ends already. -/
theorem Text.unifyLines_of_notMem {cs : List Char} (h : '\r' ∉ cs) : unifyLines cs = cs := by
  fun_induction unifyLines cs with
  | case1 => rfl
  | case2 => simp at h
  | case3 => simp at h
  | case4 c cs _ _ ih => rw [ih fun hmem => h (List.mem_cons_of_mem _ hmem)]

end FacetSearch
