import FacetSearch.Proofs.FirstMembers
import FacetSearch.Proofs.NumberTexts
import FacetSearch.Proofs.Refusals
/-!
# Identifiers that are merged

Identifiers that rows hold are told apart by their texts, and looked up as literals of the key. A literal of a type of keys is
the literal of its text (`ColumnType.literal?_text_of_literal?`), but for binary64 numbers, which no text spells as integers;
those have texts of their own. So identifiers with one text are one literal (`ColumnType.literal?_eq_of_plain`), and a lookup
of the first ones looks up all of them (`uniqueIdentifiers_lossless`).
-/

namespace FacetSearch

/-! ## Literals and their texts -/

namespace ColumnType

/-- The types that keys have. -/
def keyTypes : List ColumnType := [.uuid, .string, .integer, .bigint, .oid]

variable {type : ColumnType} {v w l k : Value}

theorem literal?_uuid_text (h : uuid.literal? v = some l) : uuid.literal? (.text v.plain) = some l := by
  cases v with
  | null => cases h
  | uuid u =>
    obtain rfl := Option.some.inj h
    exact coerce_eq_ok.1 (coerce_uuidText u none)
  | _ => exact h

theorem literal?_string_text (h : string.literal? v = some l) : string.literal? (.text v.plain) = some l := by
  have hplain : ∀ s, textOf? v = some s → s = v.plain := by
    intro s hs
    unfold textOf? at hs
    split at hs <;> first | cases hs | skip
    split at hs
    · exact (Option.some.inj hs).symm
    · cases hs
  have hliteral : (textOf? v).map Value.text = some l := by
    cases v <;> first | exact h | cases h
  obtain ⟨s, hs, rfl⟩ := Option.map_eq_some_iff.1 hliteral
  obtain rfl := hplain s hs
  rfl

/-- An integer of a column has far fewer digits than are read. -/
theorem length_toString_of_domain {n : Int} (ht : type.isInteger = true) (h : type.Domain (.int n)) :
    (toString n).length ≤ Numeral.maxDigits := by
  have hsmall : n.natAbs < 10 ^ 19 := by
    cases type <;> cases ht <;> simp only [Domain] at h <;> omega
  have hlength := Numeral.length_toString_le (k := 19) (by decide) hsmall
  rw [String.length_toList] at hlength
  exact Nat.le_trans hlength (by decide)

theorem literal?_integer_text (ht : type.isInteger = true) (hfloat : ∀ d, v ≠ .float d) (h : type.literal? v = some l) :
    type.literal? (.text v.plain) = some l := by
  obtain ⟨n, hn, hdomain, rfl⟩ := (literal?_eq_some_int_iff ht).1 h
  cases v with
  | bool => cases hn
  | float d => exact absurd rfl (hfloat d)
  | int m =>
    obtain rfl := Option.some.inj hn
    have hread : type.ReadsAs (.text (Value.int m).plain) (· = m) none :=
      readsAs_plain ht (length_toString_of_domain ht hdomain)
    exact coerce_eq_ok.1 ((hread.taken _).2 ⟨m, rfl, hdomain, rfl⟩)
  | _ => exact (literal?_eq_some_int_iff ht).2 ⟨n, hn, hdomain, rfl⟩

/-- A literal of a type of keys is the literal of its text, unless it is a binary64 number that is read as an integer; the
text of that is no literal at all. -/
theorem literal?_text_of_literal? (ht : type ∈ keyTypes) (h : type.literal? v = some l) :
    type.literal? (.text v.plain) = some l ∨
      ∃ d, v = .float d ∧ d.isFinite = true ∧ type.literal? (.text d.text) = none := by
  by_cases hinteger : type.isInteger = true
  · by_cases hfloat : ∃ d, v = .float d
    · obtain ⟨d, rfl⟩ := hfloat
      obtain ⟨n, hn, -, -⟩ := (literal?_eq_some_int_iff hinteger).1 h
      have hfinite : d.isFinite = true := Double.isFinite_iff.2 ⟨_, Double.int?_eq_some_iff.1 hn⟩
      refine .inr ⟨d, rfl, hfinite, Option.eq_none_iff_forall_ne_some.2 fun k hk => ?_⟩
      obtain ⟨m, hm, -⟩ := (literal?_eq_some_int_iff hinteger).1 hk
      exact absurd hm (by rw [show intOf? (.text d.text) = Numeral.plainInt? (Text.stripChars d.text.toList) from rfl,
        Double.plainInt?_text hfinite]; nofun)
    · exact .inl (literal?_integer_text hinteger (fun d hd => hfloat ⟨d, hd⟩) h)
  · have hcases : type = .uuid ∨ type = .string := by
      simp only [keyTypes, List.mem_cons, List.not_mem_nil, or_false] at ht
      rcases ht with rfl | rfl | rfl | rfl | rfl <;> simp_all [isInteger]
    rcases hcases with rfl | rfl
    · exact .inl (literal?_uuid_text h)
    · exact .inl (literal?_string_text h)

/-- Values with one text are one literal of a type of keys. -/
theorem literal?_eq_of_plain (ht : type ∈ keyTypes) (h : v.plain = w.plain) (hv : type.literal? v = some l)
    (hw : type.literal? w = some k) : l = k := by
  rcases literal?_text_of_literal? ht hv with hvt | ⟨d, rfl, hd, hdt⟩ <;>
    rcases literal?_text_of_literal? ht hw with hwt | ⟨e, rfl, he, het⟩
  · exact Option.some.inj (hvt.symm.trans (h ▸ hwt))
  · exact absurd (hvt.symm.trans ((congrArg (fun s => type.literal? (.text s)) h).trans het)) nofun
  · exact absurd (hwt.symm.trans ((congrArg (fun s => type.literal? (.text s)) h.symm).trans hdt)) nofun
  · obtain rfl := Double.text_injective hd he h
    exact Option.some.inj (hv.symm.trans hw)

end ColumnType

/-! ## Rows -/

/-- The values are written as one text. -/
def Value.sameText (v w : Value) : Bool := v.plain == w.plain

theorem Value.sameText_iff {v w : Value} : v.sameText w = true ↔ v.plain = w.plain := beq_iff_eq

/-- Of values with one text the first is kept. -/
theorem Value.keepsFirst_sameText (vs : List Value) : KeepsFirst sameText vs (firstsBy sameText vs) :=
  keepsFirst_firstsBy (fun _ => sameText_iff.2 rfl)
    (fun h h' => sameText_iff.2 ((sameText_iff.1 h).trans (sameText_iff.1 h')))
    fun _ _ _ h => sameText_iff.2 (sameText_iff.1 h).symm

theorem isWritable_of_identifiersOf {column : String} {row : Value} {ids : List Value}
    (h : identifiersOf column row = .ok ids) : ids.all Value.isWritable = true := by
  unfold identifiersOf at h
  split at h
  · dsimp only at h
    split at h
    · cases h
      rfl
    · split at h
      · split at h
        · rename_i hwritable
          cases h
          exact hwritable
        · cases h
      · cases h
  · cases h

/-- Identifiers that can be written are found in a row that holds them. -/
theorem identifiersOf_row (column : String) {ids : List Value} (h : ids.all Value.isWritable = true) :
    identifiersOf column (.object [(.text column, .list ids)]) = .ok ids := by
  have hsame : (Value.text column).same (.text column) = true := beq_iff_eq.2 rfl
  have hget : (Value.object [(.text column, .list ids)]).get? column = some (.list ids) := by
    simp only [Value.get?, List.find?_cons, hsame, Option.map_some]
  simp only [identifiersOf, hget, Option.getD_some]
  cases ids with
  | nil => rfl
  | cons id ids =>
    simp only [Value.items?, h]
    rfl

theorem uniqueIdentifiers_eq {column : String} {rows : List Value} {found : List (List Value)}
    (h : rows.mapM (identifiersOf column) = .ok found) :
    uniqueIdentifiers column rows = .ok (firstsBy Value.sameText found.flatten) := by
  rw [uniqueIdentifiers, h]
  rfl

/-- What was found once is found again if it is all that a row holds. -/
theorem uniqueIdentifiers_again {column : String} {rows ids : List Value} (h : uniqueIdentifiers column rows = .ok ids) :
    uniqueIdentifiers column [.object [(.text column, .list ids)]] = .ok ids := by
  obtain ⟨found, hfound, -⟩ := bind_eq_ok.1 h
  obtain rfl := Except.ok.inj ((uniqueIdentifiers_eq hfound).symm.trans h)
  have hwritable : (firstsBy Value.sameText found.flatten).all Value.isWritable = true := by
    refine List.all_eq_true.2 fun id hid => ?_
    obtain ⟨ids, hids, hid⟩ := List.mem_flatten.1 (mem_of_mem_firstsBy hid)
    obtain ⟨row, -, hrow⟩ := exists_of_mem_right (mapM_eq_ok.1 hfound) hids
    exact List.all_eq_true.1 (isWritable_of_identifiersOf hrow) id hid
  have hrow := identifiersOf_row column hwritable
  rw [uniqueIdentifiers_eq (mapM_eq_ok.2 (.cons hrow .nil)), List.flatten_singleton, firstsBy_firstsBy]

/-! ## Lookups -/

theorem Lookup.params_fragment (table key : String) (values : List Param) :
    (Lookup.fragment table key values none).params = values := List.append_nil values

/-- A lookup of identifiers that are literals of the key is compiled, and its parameters are those literals. -/
theorem Lookup.compile_eq {catalog : Catalog} {table : Value} {name key : String}
    (hk : Name.tableAndKey catalog table = .ok (name, key)) {ids bound : List Value} (hne : ids ≠ [])
    (hbound : ids.mapM (fun v => ((catalog.columnType? name key).getD .string).coerce v (some (.text key))) = .ok bound)
    (limit : Option Value) : Lookup.compile catalog table (.list ids) limit =
      .ok (Lookup.fragment name key (bound.map fun v => ⟨v, (catalog.columnType? name key).getD .string⟩) limit) := by
  obtain ⟨htable, hkey⟩ := Name.isName_of_tableAndKey hk
  simp only [Lookup.compile, hk, Selection.itemsOf_of_ne_nil hne, hbound, bind, Except.bind]
  rw [Lookup.append_opening htable hkey (Lookup.params_ne_nil hne hbound)]
  exact Fragment.limited_eq _ limit

/-- Where each identifier has one with its text among those that are kept, the lookup of those is compiled, and its
parameters are just the literals of all. -/
theorem Lookup.exists_compile {catalog : Catalog} {table : Value} {name key : String}
    (hk : Name.tableAndKey catalog table = .ok (name, key)) {type : ColumnType}
    (htype : (catalog.columnType? name key).getD .string = type) (hkeys : type ∈ ColumnType.keyTypes)
    {all ids : List Value} (hsubset : ids ⊆ all) (hkept : ∀ id ∈ all, ∃ id' ∈ ids, id'.plain = id.plain) (hne : all ≠ [])
    (hcoerce : ∀ id ∈ all, ∃ v, type.coerce id (some (.text key)) = .ok v) :
    ∃ f, Lookup.compile catalog table (.list ids) none = .ok f ∧ (∀ p ∈ f.params, p.type = type) ∧
      ∀ v, (∃ p ∈ f.params, p.value = v) ↔ ∃ id ∈ all, type.coerce id (some (.text key)) = .ok v := by
  subst htype
  have hids : ids ≠ [] := by
    obtain ⟨id, hid⟩ := List.exists_mem_of_ne_nil _ hne
    obtain ⟨id', hid', -⟩ := hkept id hid
    exact List.ne_nil_of_mem hid'
  obtain ⟨bound, hbound⟩ := exists_mapM fun id hid => hcoerce id (hsubset hid)
  refine ⟨_, Lookup.compile_eq hk hids hbound none, ?_, fun v => ?_⟩
  · rw [Lookup.params_fragment]
    intro p hp
    obtain ⟨v, -, rfl⟩ := List.mem_map.1 hp
    rfl
  · have hvalues : (∃ p ∈ bound.map fun v => Param.mk v ((catalog.columnType? name key).getD .string), p.value = v) ↔
        v ∈ bound := by simp
    rw [Lookup.params_fragment]
    refine hvalues.trans ⟨fun hv => ?_, ?_⟩
    · obtain ⟨id, hid, hread⟩ := exists_of_mem_right (mapM_eq_ok.1 hbound) hv
      exact ⟨id, hsubset hid, hread⟩
    · rintro ⟨id, hid, hread⟩
      -- what is kept in place of an identifier is read as the same literal
      obtain ⟨id', hid', hplain⟩ := hkept id hid
      obtain ⟨v', hv', hread'⟩ := exists_of_mem_left (mapM_eq_ok.1 hbound) hid'
      rwa [← ColumnType.literal?_eq_of_plain hkeys hplain (ColumnType.coerce_eq_ok.1 hread')
        (ColumnType.coerce_eq_ok.1 hread)]

/-- Of the identifiers that rows hold those are kept that no earlier one has the text of, and keeping them once more changes
nothing. Where all of them are literals of a key, the lookup of those that are kept is compiled, and its parameters are just
the literals that the identifiers are, with those of the ones that were dropped. -/
theorem uniqueIdentifiers_lossless {column : String} {rows : List Value} {found : List (List Value)}
    (h : rows.mapM (identifiersOf column) = .ok found) :
    ∃ ids, uniqueIdentifiers column rows = .ok ids ∧ KeepsFirst Value.sameText found.flatten ids ∧
      ids.Sublist found.flatten ∧ (ids.map Value.plain).Nodup ∧
      uniqueIdentifiers column [.object [(.text column, .list ids)]] = .ok ids ∧
      ∀ (catalog : Catalog) (table : Value) (name key : String),
        Name.tableAndKey catalog table = .ok (name, key) →
        let type := (catalog.columnType? name key).getD .string
        type ∈ ColumnType.keyTypes → found.flatten ≠ [] →
        (∀ id ∈ found.flatten, ∃ v, type.coerce id (some (.text key)) = .ok v) →
        ∃ f, Lookup.compile catalog table (.list ids) none = .ok f ∧ (∀ p ∈ f.params, p.type = type) ∧
          ∀ v, (∃ p ∈ f.params, p.value = v) ↔ ∃ id ∈ found.flatten, type.coerce id (some (.text key)) = .ok v := by
  have hunique := uniqueIdentifiers_eq h
  have hkeeps := Value.keepsFirst_sameText found.flatten
  have hsublist := hkeeps.inOrder ▸ sublist_newMembers Value.sameText found.flatten
  refine ⟨_, hunique, hkeeps, hsublist, ?_, uniqueIdentifiers_again hunique, ?_⟩
  · refine List.pairwise_map.2 ((pairwise_firstsBy _ _).imp fun hab => ?_)
    exact fun heq => Bool.false_ne_true (hab.symm.trans (Value.sameText_iff.2 heq))
  · intro catalog table name key hk type htype hne hcoerce
    refine Lookup.exists_compile hk rfl htype hsublist.subset (fun id hid => ?_) hne hcoerce
    obtain ⟨id', hid', hsame⟩ := exists_mem_firstsBy (fun _ => Value.sameText_iff.2 rfl) hid
    exact ⟨id', hid', Value.sameText_iff.1 hsame⟩

/-- An identifier of zeros. -/
def Uuid.zeros : Uuid := ⟨List.replicate 32 ⟨0, by decide⟩, List.length_replicate⟩

/-- One identifier as such, as its text and as another text that spells it, and a row without identifiers. -/
def Row.zeros : List Value :=
  [.object [(.text "extracted", .list [.uuid .zeros, .text "00000000-0000-0000-0000-000000000000"])], .object [],
    .object [(.text "extracted", .tuple [.text "00000000000000000000000000000000"])]]

/-- The text of the identifier is dropped, the other one is kept, and one value is looked up. -/
theorem lossless_zeros :
    uniqueIdentifiers extractedColumn Row.zeros = .ok [.uuid .zeros, .text "00000000000000000000000000000000"] ∧
    ∃ f, Lookup.compile .people (.text " People ") (.list [.uuid .zeros, .text "00000000000000000000000000000000"]) none =
        .ok f ∧ ∀ v, (∃ p ∈ f.params, p.value = v) ↔ v = .uuid .zeros := by
  have hfound : Row.zeros.mapM (identifiersOf extractedColumn) =
      .ok [[.uuid .zeros, .text "00000000-0000-0000-0000-000000000000"], [],
        [.text "00000000000000000000000000000000"]] := rfl
  have hunique : uniqueIdentifiers extractedColumn Row.zeros =
      .ok [.uuid .zeros, .text "00000000000000000000000000000000"] := by rfl
  have hread : ∀ id ∈ [Value.uuid .zeros, .text "00000000-0000-0000-0000-000000000000",
      .text "00000000000000000000000000000000"], ColumnType.uuid.coerce id (some (.text "id")) = .ok (.uuid .zeros) := by
    simp only [List.forall_mem_cons]
    exact ⟨rfl, rfl, rfl, by simp⟩
  obtain ⟨ids, hids, -, -, -, -, hlookup⟩ := uniqueIdentifiers_lossless hfound
  obtain rfl := Except.ok.inj (hunique.symm.trans hids)
  obtain ⟨f, hf, -, hvalues⟩ := hlookup .people (.text " People ") "people" "id" rfl (by decide) (by decide)
    fun id hid => ⟨_, hread id hid⟩
  refine ⟨hunique, f, hf, fun v => (hvalues v).trans ⟨?_, ?_⟩⟩
  · rintro ⟨id, hid, hv⟩
    exact Except.ok.inj (hv.symm.trans (hread id hid))
  · rintro rfl
    exact ⟨_, List.mem_cons_self, hread _ List.mem_cons_self⟩

end FacetSearch
