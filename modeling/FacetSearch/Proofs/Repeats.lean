import FacetSearch.Proofs.Literals
import FacetSearch.Proofs.Members
import FacetSearch.Proofs.Scalars
/-!
# Values that are given twice

Of the values of a column only the first of equal ones is kept, and equality is that of values, not of literals: a truth value
is equal to a number, and numbers are equal that are written differently. Equal values are mostly the same literal of a
column (`ColumnType.alike_iff`); where they are not, they clash, and what becomes of a list depends on which of them is first.
Without clashes a column filter is what its list says, in any order (`Selection.binds_of_build`).
-/

namespace FacetSearch

/-! ## Equal values as literals -/

/-- The value is a truth value. -/
def Value.isBool : Value → Bool
  | .bool _ => true
  | _ => false

namespace ColumnType

/-- Neither value is a literal of the type, or both are and the literals are equal. -/
def Alike (type : ColumnType) (v w : Value) : Prop :=
  Option.Rel (fun a b => a.same b = true) (type.literal? v) (type.literal? w)

/-- Equal values of which only one is a literal of the type, or which are different literals: texts of numbers differ, and
where a number is asked for there is none that a truth value stands for. -/
def Clash (type : ColumnType) (v w : Value) : Prop :=
  v.same w = true ∧
    match type with
    | string => v.plain ≠ w.plain
    | uuid => uuidOf? v ≠ uuidOf? w
    | integer | bigint | oid | double => v.isBool ≠ w.isBool
    | array | timestamp => False

theorem same_of_literal? {type : ColumnType} {v l : Value} (h : type.literal? v = some l) : l.same l = true := by
  unfold literal? at h
  split at h
  · cases h
  · cases h
  · obtain ⟨s, -, rfl⟩ := Option.map_eq_some_iff.1 h
    exact Value.same_self (v := .text s) trivial
  · obtain ⟨u, -, rfl⟩ := Option.map_eq_some_iff.1 h
    exact beq_iff_eq.2 rfl
  · obtain ⟨d, -, rfl⟩ := Option.map_eq_some_iff.1 h
    exact Value.same_self (v := .float d) trivial
  · obtain ⟨t, -, rfl⟩ := Option.map_eq_some_iff.1 h
    show t.same t = true
    unfold Timestamp.same
    cases t.instant? <;> exact beq_iff_eq.2 rfl
  · obtain ⟨n, -, rfl⟩ := Option.map_eq_some_iff.1 h
    exact Value.same_self (v := .int n) trivial
  · obtain ⟨n, -, rfl⟩ := Option.map_eq_some_iff.1 h
    exact Value.same_self (v := .int n) trivial
  · obtain ⟨n, -, rfl⟩ := Option.map_eq_some_iff.1 h
    exact Value.same_self (v := .int n) trivial

theorem alike_of_eq {type : ColumnType} {v w : Value} (h : type.literal? v = type.literal? w) : type.Alike v w := by
  unfold Alike
  rw [← h]
  cases hl : type.literal? v with
  | none => exact .none
  | some l => exact .some (same_of_literal? hl)

/-! ### Numbers -/

section

variable {v w : Value} {m n : Number} (hm : v.number? = some m)

include hm

theorem literal?_string_of_number :
    string.literal? v = if v.isWritable then some (.text v.plain) else none := by
  have htext : textOf? v = if v.isWritable then some v.plain else none := by
    cases v <;> cases hm <;> rfl
  have hliteral : string.literal? v = (textOf? v).map .text := by
    cases v <;> cases hm <;> rfl
  rw [hliteral, htext]
  split <;> rfl

/-- A number that some binary64 number is equal to can be written. -/
theorem isWritable_of_units? {d : Double} (hd : d.units? = m.units?) : v.isWritable = true := by
  cases v with
  | int k =>
    obtain rfl := Option.some.inj hm
    obtain ⟨e, he, -⟩ := Double.exists_ofInt?_of_units? (d := d) (n := k) hd
    exact Numeral.isWritable_of_natAbs_le (Double.natAbs_le_of_ofInt? he)
  | bool b => rfl
  | float e => rfl
  | _ => cases hm

theorem literal?_uuid_of_number : uuid.literal? v = (uuidOf? v).map .uuid := by
  cases v <;> cases hm <;> rfl

theorem literal?_of_intRange? {type : ColumnType} {r : Int × Int} (hr : type.intRange? = some r) :
    type.literal? v = (intWithin? r v).map .int := by
  cases type <;> cases hr <;> cases v <;> cases hm <;> rfl

/-- A number that is no truth value stands for the integer that it is. -/
theorem intOf?_eq_some_iff (hb : v.isBool = false) {k : Int} : intOf? v = some k ↔ m.units? = some (k * Double.one) := by
  cases v with
  | int n =>
    obtain rfl := Option.some.inj hm
    simp only [intOf?, Number.units?, Number.count, Option.some.injEq]
    exact ⟨congrArg (· * (Double.one : Int)), Int.eq_of_mul_eq_mul_right Double.intCast_one_pos.ne'⟩
  | float d =>
    obtain rfl := Option.some.inj hm
    exact Double.int?_eq_some_iff
  | bool b => cases hb
  | _ => cases hm

/-- A number that some binary64 number is equal to is a literal with the same exact value. -/
theorem literal?_double_of_units? (hb : v.isBool = false) {d : Double} (hd : d.units? = m.units?) :
    (double.literal? v = none ∧ m.units? = none) ∨
      ∃ e u, double.literal? v = some (.float e) ∧ e.units? = some u ∧ m.units? = some u := by
  cases v with
  | int k =>
    obtain rfl := Option.some.inj hm
    obtain ⟨e, he, heu⟩ := Double.exists_ofInt?_of_units? (d := d) (n := k) hd
    refine .inr ⟨e, _, ?_, heu.trans hd, rfl⟩
    show ((Double.ofInt? k).filter Double.isFinite).map Value.float = some (.float e)
    rw [he, Option.filter_eq_some_iff.2 ⟨rfl, Double.isFinite_of_ofUnits? he⟩, Option.map_some]
  | float e =>
    obtain rfl := Option.some.inj hm
    have hliteral : double.literal? (.float e) = ((some e).filter Double.isFinite).map .float := rfl
    rw [hliteral]
    cases e with
    | finite s k hk => exact .inr ⟨_, _, rfl, rfl, rfl⟩
    | _ => exact .inl ⟨rfl, rfl⟩
  | bool b => cases hb
  | _ => cases hm

end

/-- Where no truth value is a literal, and numbers with one exact value are alike otherwise, numbers are alike unless just
one of them is a truth value. -/
theorem alike_iff_isBool {type : ColumnType} {v w : Value} {m n : Number} (hm : v.number? = some m)
    (hn : w.number? = some n) (hunits : m.units? = n.units?) (hbool : ∀ b, type.literal? (.bool b) = none)
    (hbit : ∀ {x : Value} {k : Number} (b : Bool), x.number? = some k → x.isBool = false →
      k.units? = some ((b.toNat : Int) * Double.one) → ∃ l, type.literal? x = some l)
    (halike : v.isBool = false → w.isBool = false → type.Alike v w) : type.Alike v w ↔ v.isBool = w.isBool := by
  have hrefused {x : Value} (hx : x.isBool = true) : type.literal? x = none := by
    cases x with
    | bool b => exact hbool b
    | _ => cases hx
  have htaken {x y : Value} {k l : Number} (hk : x.number? = some k) (hl : y.number? = some l) (hx : x.isBool = true)
      (hy : y.isBool = false) (hkl : k.units? = l.units?) : ∃ a, type.literal? y = some a := by
    cases x with
    | bool b =>
      obtain rfl := Option.some.inj hk
      exact hbit b hl hy hkl.symm
    | _ => cases hx
  -- the number beside a truth value is zero or one, which is taken where the truth value is not
  cases hv : v.isBool <;> cases hw : w.isBool
  · exact iff_of_true (halike hv hw) rfl
  · obtain ⟨a, ha⟩ := htaken hn hm hw hv hunits.symm
    simp [Alike, ha, hrefused hw]
  · obtain ⟨a, ha⟩ := htaken hm hn hv hw hunits
    simp [Alike, ha, hrefused hv]
  · simp [Alike, hrefused hv, hrefused hw]

theorem alike_iff_of_intRange? {type : ColumnType} {r : Int × Int} (hr : type.intRange? = some r) {v w : Value}
    {m n : Number} (hm : v.number? = some m) (hn : w.number? = some n) (hunits : m.units? = n.units?) :
    type.Alike v w ↔ v.isBool = w.isBool := by
  refine alike_iff_isBool hm hn hunits (fun b => ?_) (fun b hx hb hu => ?_) fun hv hw => alike_of_eq ?_
  · rw [literal?_of_intRange? (m := .flag b) rfl hr]
    rfl
  · rw [literal?_of_intRange? hx hr, intWithin?, (intOf?_eq_some_iff hx hb).2 hu]
    cases type <;> cases hr <;> cases b <;> exact ⟨_, rfl⟩
  · have hint : intOf? v = intOf? w := by
      refine Option.ext fun k => ?_
      rw [intOf?_eq_some_iff hm hv, intOf?_eq_some_iff hn hw, hunits]
    rw [literal?_of_intRange? hm hr, literal?_of_intRange? hn hr, intWithin?, intWithin?, hint]

/-- Numbers with one exact value, which is that of a binary64 number, are the same literal. -/
theorem alike_double_of_units? {v w : Value} {m n : Number} (hm : v.number? = some m) (hn : w.number? = some n)
    (hunits : m.units? = n.units?) (hv : v.isBool = false) (hw : w.isBool = false) {d : Double}
    (hd : d.units? = m.units?) : double.Alike v w := by
  unfold Alike
  rcases literal?_double_of_units? hm hv hd with ⟨hl, hnone⟩ | ⟨e, u, hl, he, hu⟩ <;>
    rcases literal?_double_of_units? hn hw (hd.trans hunits) with ⟨hl', hnone'⟩ | ⟨e', u', hl', he', hu'⟩ <;>
    rw [hl, hl']
  -- one exact value is not both there and missing, so that two of the cases are none
  · exact .none
  · rw [← hunits, hnone] at hu'
    cases hu'
  · rw [← hunits, hu] at hnone'
    cases hnone'
  · rw [← hunits, hu] at hu'
    obtain rfl := Option.some.inj hu'
    exact .some ((Value.same_of_numbers rfl rfl).trans (Number.same_of_units? he he'))

/-- A truth value is equal to a binary64 number. -/
theorem exists_double_of_bool (b : Bool) : ∃ d : Double, d.units? = some ((b.toNat : Int) * Double.one) := by
  obtain ⟨d, hd⟩ := Double.exists_ofInt? (n := b.toNat) (by cases b <;> decide)
  refine ⟨d, ?_⟩
  rw [Double.units?_ofInt? hd, Double.roundSigned_of_small (n := b.toNat) (by cases b <;> decide)]

/-- Equal numbers that are not one and the same integer can be written. -/
theorem eq_or_isWritable {v w : Value} {m n : Number} (hm : v.number? = some m) (hn : w.number? = some n)
    (hunits : m.units? = n.units?) : v = w ∨ v.isWritable = true ∧ w.isWritable = true := by
  have hdouble {x : Value} {k : Number} (hk : x.number? = some k) (hx : ∀ i, x ≠ .int i) :
      ∃ d : Double, d.units? = k.units? := by
    cases x with
    | int i => exact absurd rfl (hx i)
    | bool b =>
      obtain rfl := Option.some.inj hk
      exact exists_double_of_bool b
    | float d =>
      obtain rfl := Option.some.inj hk
      exact ⟨d, rfl⟩
    | _ => cases hk
  have hwritable {x y : Value} {k l : Number} (hk : x.number? = some k) (hl : y.number? = some l)
      (hkl : k.units? = l.units?) (hx : ∀ i, x ≠ .int i) : x.isWritable = true ∧ y.isWritable = true := by
    obtain ⟨d, hd⟩ := hdouble hk hx
    exact ⟨isWritable_of_units? hk hd, isWritable_of_units? hl (hd.trans hkl)⟩
  cases v with
  | int k =>
    obtain rfl := Option.some.inj hm
    cases w with
    | int l =>
      obtain rfl := Option.some.inj hn
      obtain rfl := Int.eq_of_mul_eq_mul_right Double.intCast_one_pos.ne' (Option.some.inj hunits)
      exact .inl rfl
    | bool _ | float _ => exact .inr (hwritable hn hm hunits.symm nofun).symm
    | _ => cases hn
  | bool _ | float _ => exact .inr (hwritable hm hn hunits nofun)
  | _ => cases hm

theorem exists_literal?_double {v : Value} {m : Number} (b : Bool) (hm : v.number? = some m) (hv : v.isBool = false)
    (hu : m.units? = some ((b.toNat : Int) * Double.one)) : ∃ l, double.literal? v = some l := by
  obtain ⟨d, hd⟩ := exists_double_of_bool b
  rcases literal?_double_of_units? hm hv (hd.trans hu.symm) with ⟨-, hnone⟩ | ⟨e, u, hl, -⟩
  · rw [hu] at hnone
    cases hnone
  · exact ⟨_, hl⟩

theorem alike_double_iff {v w : Value} {m n : Number} (hm : v.number? = some m) (hn : w.number? = some n)
    (hunits : m.units? = n.units?) : double.Alike v w ↔ v.isBool = w.isBool := by
  refine alike_iff_isBool hm hn hunits (fun b => rfl) exists_literal?_double fun hv hw => ?_
  -- equal integers are one integer, whether it can be converted or not; otherwise one of the two is binary64
  cases v with
  | float d =>
    obtain rfl := Option.some.inj hm
    exact alike_double_of_units? rfl hn hunits hv hw (d := d) rfl
  | int k =>
    obtain rfl := Option.some.inj hm
    cases w with
    | float e =>
      obtain rfl := Option.some.inj hn
      exact alike_double_of_units? rfl rfl hunits hv hw (d := e) hunits.symm
    | int l =>
      obtain rfl := Option.some.inj hn
      obtain rfl := Int.eq_of_mul_eq_mul_right Double.intCast_one_pos.ne' (Option.some.inj hunits)
      exact alike_of_eq rfl
    | bool _ => cases hw
    | _ => cases hn
  | bool _ => cases hv
  | _ => cases hm

/-- Equal values are the same literal, or both no literal, exactly if they do not clash. -/
theorem alike_iff {type : ColumnType} {v w : Value} (hv : v.IsScalar) (hw : w.IsScalar) (h : v.same w = true) :
    type.Alike v w ↔ ¬ type.Clash v w := by
  rcases Value.same_cases hv hw h with rfl | ⟨m, n, hm, hn, hmn⟩
  · refine iff_of_true (alike_of_eq rfl) ?_
    rintro ⟨-, hclash⟩
    cases type <;> first | exact hclash rfl | exact hclash
  · have hunits := Number.units?_of_same hmn
    cases type with
    | string =>
      have hsame : Value.same (.text v.plain) (.text w.plain) = (v.plain == w.plain) := rfl
      rcases eq_or_isWritable hm hn hunits with rfl | ⟨hvw, hww⟩
      · exact iff_of_true (alike_of_eq rfl) fun hclash => hclash.2 rfl
      · rw [Alike, Clash, literal?_string_of_number hm, literal?_string_of_number hn, if_pos hvw, if_pos hww]
        simp [h, hsame]
    | uuid =>
      have hsame (a b : Uuid) : Value.same (.uuid a) (.uuid b) = (a == b) := rfl
      rw [Alike, Clash, literal?_uuid_of_number hm, literal?_uuid_of_number hn]
      cases uuidOf? v <;> cases uuidOf? w <;> simp [h, hsame]
    | integer => simp [Clash, h, alike_iff_of_intRange? (show intRange? integer = some _ from rfl) hm hn hunits]
    | bigint => simp [Clash, h, alike_iff_of_intRange? (show intRange? bigint = some _ from rfl) hm hn hunits]
    | oid => simp [Clash, h, alike_iff_of_intRange? (show intRange? oid = some _ from rfl) hm hn hunits]
    | double => simp [Clash, h, alike_double_iff hm hn hunits]
    | array | timestamp =>
      refine iff_of_true (alike_of_eq ?_) (fun hclash => hclash.2)
      cases v <;> cases hm <;> cases w <;> cases hn <;> rfl

end ColumnType

/-! ## Column filters -/

namespace Selection

/-- The selection binds the literals of the values and nothing else. -/
structure Binds (s : Selection) (type : ColumnType) (column : String) (vs : List Value) : Prop where
  given : ∀ q ∈ s.fragment.params, q.type = type ∧ ∃ v ∈ vs, type.coerce v (some (.text column)) = .ok q.value
  all : ∀ v ∈ vs, ∃ l, type.coerce v (some (.text column)) = .ok l ∧ ∃ q ∈ s.fragment.params, q.value.same l = true

section

variable {catalog : Catalog} {v : Value} {table key column name : String} {type : ColumnType}
  (hkey : Name.tableAndKey catalog v = .ok (table, key))
  (hname : Name.column catalog (.text table) (.text column) = .ok name)
  (htype : catalog.columnType? table name = some type)

include hkey hname htype

/-- A column filter whose values are literals makes a selection. -/
theorem ofColumn_of_literals {values literals : List Value} (hne : values ≠ [])
    (h : List.Forall₂ (fun v l => type.literal? v = some l) values literals) (regex : Bool) :
    ofColumn catalog (.text table) (.text key) (.text column) (.list values) regex =
      .ok ⟨.rows table key, columnCondition name type regex (literals.map fun l => ⟨l, type⟩)⟩ := by
  obtain ⟨ht, hk⟩ := Name.isName_of_tableAndKey hkey
  have hitems : itemsOf (.list values) (.noValues name) = .ok values := itemsOf_of_ne_nil hne
  have hbound : (values.mapM fun v => type.coerce v (some (.text name))) = .ok literals :=
    mapM_eq_ok.2 (h.imp fun v l => ColumnType.coerce_eq_ok.2)
  have htruthy : (Value.list values).isTruthy = true := by
    cases values with
    | nil => exact absurd rfl hne
    | cons => rfl
  refine bind_eq_ok.2 ⟨name, hname, ?_⟩
  rw [if_neg (by simp [htruthy])]
  refine bind_eq_ok.2 ⟨_, Name.ofValue_name ht, ?_⟩
  rw [htype]
  have hhead := Fragment.append_text Fragment.empty (no_placeholder_rows ht hk)
  exact bind_eq_ok.2 ⟨_, hhead, bind_eq_ok.2 ⟨_, hitems, bind_eq_ok.2 ⟨_, hbound, rfl⟩⟩⟩

section

variable {kept vs : List Value} (hkept : ∀ a ∈ kept, a ∈ vs) (halike : ∀ a ∈ vs, ∃ b ∈ kept, type.Alike b a) {regex : Bool}

include hkept halike

/-- A filter with some of the values, to one of which every value is alike, binds the literals of all. -/
theorem binds_of_ofColumn {s : Selection}
    (h : ofColumn catalog (.text table) (.text key) (.text column) (.list kept) regex = .ok s) : s.Binds type name vs := by
  obtain ⟨name', t, type', literals, hname', -, ht, htype', hliterals, rfl⟩ := ofColumn_eq_ok h
  obtain rfl := Except.ok.inj (hname.symm.trans hname')
  obtain rfl := Except.ok.inj ((Name.ofValue_name (Name.isName_of_tableAndKey hkey).1).symm.trans ht)
  obtain rfl := Option.some.inj (htype.symm.trans htype')
  constructor
  · intro q hq
    rw [fragment, params_columnCondition, List.mem_map] at hq
    obtain ⟨l, hl, rfl⟩ := hq
    obtain ⟨a, ha, hal⟩ := exists_of_mem_right hliterals hl
    exact ⟨rfl, a, hkept a ha, ColumnType.coerce_eq_ok.2 hal⟩
  · intro a ha
    obtain ⟨b, hb, hba⟩ := halike a ha
    obtain ⟨k, hk, hbk⟩ := exists_of_mem_left hliterals hb
    rw [ColumnType.Alike, hbk] at hba
    cases hal : type.literal? a with
    | none =>
      rw [hal] at hba
      cases hba
    | some l =>
      rw [hal, Option.rel_some_some] at hba
      refine ⟨l, ColumnType.coerce_eq_ok.2 hal, ⟨k, type⟩, ?_, hba⟩
      rw [fragment, params_columnCondition]
      exact List.mem_map_of_mem hk

theorem ofColumn_iff : (∃ s, ofColumn catalog (.text table) (.text key) (.text column) (.list kept) regex = .ok s) ↔
    vs ≠ [] ∧ ∀ a ∈ vs, ∃ l, type.coerce a (some (.text name)) = .ok l := by
  constructor
  · rintro ⟨s, hs⟩
    have hbinds := binds_of_ofColumn hkey hname htype hkept halike hs
    obtain ⟨-, -, -, -, -, hne, -⟩ := ofColumn_eq_ok hs
    obtain ⟨b, hb⟩ := List.exists_mem_of_ne_nil kept hne
    exact ⟨List.ne_nil_of_mem (hkept b hb), fun a ha => (hbinds.all a ha).imp fun l h => h.1⟩
  · rintro ⟨hne, hall⟩
    obtain ⟨a, ha⟩ := List.exists_mem_of_ne_nil vs hne
    obtain ⟨b, hb, -⟩ := halike a ha
    obtain ⟨literals, hliterals⟩ := exists_forall₂ (R := fun v l => type.literal? v = some l) fun b hb =>
      (hall b (hkept b hb)).imp fun l h => ColumnType.coerce_eq_ok.1 h
    exact ⟨_, ofColumn_of_literals hkey hname htype (List.ne_nil_of_mem hb) hliterals regex⟩

end

/-- Without clashes a column filter selects by all literals of the list that was given for the column, whatever the order
of the list. There is such a selection exactly if the list has members and each of them is a literal. -/
theorem binds_of_build {p : Criteria.Parts} {c : Criteria} (hc : Criteria.build p = .ok c) {k : Value} {ws vs : List Value}
    (hgiven : p.columns.filters.reverse.find? (fun e => Text.strip e.1.plain = column) = some (k, .list ws))
    (hperm : ws.Perm vs) (hscalar : ∀ a ∈ vs, a.IsScalar) (hclash : ∀ a ∈ vs, ∀ b ∈ vs, ¬ type.Clash a b)
    (regex : Bool) :
    ∃ kept, Keyed.get? c.columnFilters column = some kept ∧
      ((∃ s, ofColumn catalog (.text table) (.text key) (.text column) (.list kept) regex = .ok s) ↔
        vs ≠ [] ∧ ∀ a ∈ vs, ∃ l, type.coerce a (some (.text name)) = .ok l) ∧
      ∀ s, ofColumn catalog (.text table) (.text key) (.text column) (.list kept) regex = .ok s →
        s.Binds type name vs := by
  have hstored : Keyed.get? c.columnFilters column = some (Value.firsts ws) := by
    rw [Criteria.get?_of_readColumns (Criteria.build_eq_ok hc).2.2.1, hgiven]
    rfl
  have hkept : ∀ a ∈ Value.firsts ws, a ∈ vs := fun a ha => hperm.subset (mem_of_mem_firstsBy ha)
  -- a value that is dropped is equal to one that is kept, and without clashes that one is the same literal
  have halike : ∀ a ∈ vs, ∃ b ∈ Value.firsts ws, type.Alike b a := by
    intro a ha
    have hrefl : ∀ b ∈ ws, b.same b = true := fun b hb => Value.same_self (hscalar b (hperm.subset hb))
    obtain ⟨b, hb, hsame⟩ := exists_mem_firstsBy_of_refl hrefl (hperm.symm.subset ha)
    exact ⟨b, hb, (ColumnType.alike_iff (hscalar b (hkept b hb)) (hscalar a ha) hsame).2 (hclash b (hkept b hb) a ha)⟩
  exact ⟨_, hstored, ofColumn_iff hkey hname htype hkept halike, fun s hs =>
    binds_of_ofColumn hkey hname htype hkept halike hs⟩

end

/-! ### Sizes of events -/

/-- A catalog of events with sizes. -/
def sized : Catalog := .ofLists [("events", [("event_size", some .integer)])] [("events", ["event_uuid"])]

/-- The parts of criteria that list sizes. -/
def bySize (sizes : List Value) : Criteria.Parts := { columns := .object [(.text " event_size ", .list sizes)] }

/-- The selection of events by the sizes that criteria are left with. -/
def ofSizes (sizes : List Value) : Except Error Selection := do
  let c ← Criteria.build (bySize sizes)
  let kept := (Keyed.get? c.columnFilters "event_size").getD []
  ofColumn sized (.text "events") (.text "event_uuid") (.text "event_size") (.list kept) false

theorem binds_sizes : ∃ s, ofSizes [.int 2, .text "1", .int 2] = .ok s ∧
    s.Binds .integer "event_size" [.text "1", .int 2, .int 2] := by
  obtain ⟨c, hc⟩ : ∃ c, Criteria.build (bySize [.int 2, .text "1", .int 2]) = .ok c := ⟨_, rfl⟩
  have hkey : Name.tableAndKey sized (.text "events") = .ok ("events", "event_uuid") := rfl
  have hname : Name.column sized (.text "events") (.text "event_size") = .ok "event_size" := rfl
  have htype : sized.columnType? "events" "event_size" = some .integer := rfl
  have hperm : [Value.int 2, .text "1", .int 2].Perm [.text "1", .int 2, .int 2] := .swap _ _ _
  have hplain : ∀ a ∈ [Value.text "1", .int 2, .int 2], a.IsScalar ∧ a.isBool = false := by
    simp [Value.IsScalar, Value.isBool]
  have hclash : ∀ a ∈ [Value.text "1", .int 2, .int 2], ∀ b ∈ [Value.text "1", .int 2, .int 2],
      ¬ ColumnType.integer.Clash a b := fun a ha b hb h => h.2 ((hplain a ha).2.trans (hplain b hb).2.symm)
  obtain ⟨kept, hkept, hiff, hbinds⟩ :=
    binds_of_build hkey hname htype hc rfl hperm (fun a ha => (hplain a ha).1) hclash false
  have hall : ∀ a ∈ [Value.text "1", .int 2, .int 2],
      ∃ l, ColumnType.integer.coerce a (some (.text "event_size")) = .ok l := by
    simp only [List.forall_mem_cons]
    exact ⟨⟨_, rfl⟩, ⟨_, rfl⟩, ⟨_, rfl⟩, nofun⟩
  obtain ⟨s, hs⟩ := hiff.2 ⟨nofun, hall⟩
  refine ⟨s, bind_eq_ok.2 ⟨c, hc, ?_⟩, hbinds s hs⟩
  rw [hkept]
  exact hs

/-- A truth value behind the number that it is equal to is never looked at; in front of it, it is refused. -/
theorem not_binds_oneAndTrue : ∃ s e, ofSizes [.int 1, .bool true] = .ok s ∧ s.fragment.params = [⟨.int 1, .integer⟩] ∧
    ColumnType.integer.coerce (.bool true) (some (.text "event_size")) = .error e ∧
    ¬ s.Binds .integer "event_size" [.int 1, .bool true] ∧ ofSizes [.bool true, .int 1] = .error e := by
  refine ⟨_, _, rfl, rfl, rfl, fun h => ?_, rfl⟩
  obtain ⟨l, hl, -⟩ := h.all (.bool true) (by simp)
  cases hl

end Selection

end FacetSearch
