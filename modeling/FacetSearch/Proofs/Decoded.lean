import FacetSearch.Json.Reader
import FacetSearch.Proofs.FiniteNumbers
import FacetSearch.Proofs.Refusals
import Mathlib.Data.List.TakeWhile
/-!
# Decoded values

What a JSON text is read as is made of the few kinds of values that JSON has, and its integers have no more digits than
can be written (`isDecoded_of_read`). So criteria that are built of it have finite numbers, and the words for what is
wrong with them can be written.
-/

namespace FacetSearch

/-- A value that a JSON text is decoded to. -/
inductive Value.IsDecoded : Value → Prop
  | null : IsDecoded .null
  | bool (b : Bool) : IsDecoded (.bool b)
  | int {n : Int} (h : Numeral.isWritable n = true) : IsDecoded (.int n)
  | float (d : Double) : IsDecoded (.float d)
  | text (s : String) : IsDecoded (.text s)
  | list {xs : List Value} (h : ∀ x ∈ xs, IsDecoded x) : IsDecoded (.list xs)
  | object {es : List (Value × Value)} (hk : ∀ e ∈ es, ∃ s, e.1 = .text s) (hv : ∀ e ∈ es, IsDecoded e.2) :
    IsDecoded (.object es)

namespace Value.IsDecoded

theorem isWritable {v : Value} (h : v.IsDecoded) : v.isWritable = true := by
  induction h with
  | int h => exact h
  | list _ ih =>
    show areWritable _ = true
    rw [areWritable_eq, List.all_eq_true]
    exact ih
  | object hk _ ih =>
    show entriesWritable _ = true
    rw [entriesWritable_eq, List.all_eq_true]
    intro e he
    obtain ⟨s, hs⟩ := hk e he
    rw [ih e he, hs]
    rfl
  | _ => rfl

theorem of_mem_filters {v : Value} (h : v.IsDecoded) {e : Value × Value} (he : e ∈ v.filters) : e.2.IsDecoded := by
  cases h with
  | object _ hv => exact hv e he
  | _ => cases he

theorem part {v : Value} (h : v.IsDecoded) (name : String) : (v.part name).IsDecoded := by
  cases hget : v.get? name with
  | none =>
    rw [Value.part, hget]
    exact .null
  | some w =>
    rw [Value.part, hget]
    cases h with
    | object _ hv =>
      obtain ⟨e, he, rfl⟩ := Option.map_eq_some_iff.1 hget
      exact hv e (List.mem_of_find?_eq_some he)
    | _ => cases hget

end Value.IsDecoded

/-- Criteria that are built of a decoded value have finite numbers. -/
theorem Criteria.hasFiniteNumbers_of_isDecoded {v : Value} (hv : v.IsDecoded) {tolerance : Number} {c : Criteria}
    (ht : (Value.ofNumber tolerance).isFiniteNumber = true) (h : ofObject v (.ofNumber tolerance) = .ok c) :
    c.HasFiniteNumbers := by
  refine hasFiniteNumbers_of_ofObject ht (fun e he centres lower upper hfilter => ?_) h
  have hdecoded := (hv.part "numeric").of_mem_filters he
  rw [hfilter] at hdecoded
  cases hdecoded

/-! ## Reading -/

/-- So many digits stand for a number below that power of ten. -/
theorem Numeral.ofDigits_lt {ds : List Nat} (h : ∀ d ∈ ds, d < 10) : ofDigits ds < 10 ^ ds.length := by
  induction ds using List.reverseRecOn with
  | nil => exact Nat.one_pos
  | append_singleton ds d ih =>
    have hd : d < 10 := h d (by simp)
    have hds : ofDigits ds < 10 ^ ds.length := ih fun x hx => h x (by simp [hx])
    rw [ofDigits, List.foldl_append, List.length_append, List.length_singleton, Nat.pow_succ]
    show ofDigits ds * 10 + d < _
    omega

theorem Numeral.ofDigits_lt_of_le {ds : List Nat} (h : ∀ d ∈ ds, d < 10) {m : Nat} (hm : ds.length ≤ m) :
    ofDigits ds < Nat.pow 10 m :=
  Nat.lt_of_lt_of_le (ofDigits_lt h) (Nat.pow_le_pow_right (Nat.succ_pos 9) hm)

namespace Json

open Value

theorem isDigit_of_mem_wholeDigits {s : List Char} {c : Char} (h : c ∈ wholeDigits s) : isDigit c = true := by
  unfold wholeDigits at h
  split at h
  · obtain rfl := List.mem_singleton.1 h
    rfl
  · exact List.mem_takeWhile_imp h

theorem integer_yields (negative : Bool) {digits : List Char} (h : ∀ c ∈ digits, isDigit c = true) :
    Yields IsDecoded (integer negative digits) := by
  unfold integer
  split
  · exact .error _
  · rename_i hlength
    have hdigits : ∀ d ∈ digits.map (fun c => c.toNat - 48), d < 10 := by
      intro d hd
      obtain ⟨c, hc, rfl⟩ := List.mem_map.1 hd
      have hc := h c hc
      simp only [isDigit, Bool.and_eq_true, decide_eq_true_eq, Char.le_def, UInt32.le_iff_toNat_le] at hc
      have hnine : c.toNat ≤ 57 := hc.2
      omega
    have hlimit := Numeral.ofDigits_lt_of_le hdigits (m := Numeral.maxDigits) (by simpa using hlength)
    refine .ok (.int ?_)
    rw [Numeral.isWritable, decide_eq_true_eq]
    cases negative with
    | false => exact hlimit
    | true => rwa [if_pos rfl, Int.natAbs_neg]

theorem number_yields (s : List Char) : Yields (fun p => IsDecoded p.1) (number s) := by
  unfold number
  extract_lets sign whole fraction exponent width
  split
  · exact .error _
  · split
    · exact .error _
    · extract_lets rest
      split
      · exact .bind (integer_yields _ fun c => isDigit_of_mem_wholeDigits) fun v hv => .ok hv
      · cases Numeral.double? (s.take width) with
        | none => exact .error _
        | some d => exact .ok (.float d)

theorem scalar_yields (s : List Char) : Yields (fun p => IsDecoded p.1) (scalar s) := by
  unfold scalar
  split
  · exact number_yields s
  · rename_i w v hword
    split
    · exact .error _
    · have hmem := List.mem_of_find?_eq_some hword
      refine .ok (show IsDecoded v from ?_)
      simp only [words, List.mem_cons, Prod.mk.injEq, List.not_mem_nil, or_false] at hmem
      rcases hmem with ⟨-, rfl⟩ | ⟨-, rfl⟩ | ⟨-, rfl⟩ | ⟨-, rfl⟩ | ⟨-, rfl⟩ | ⟨-, rfl⟩
      · exact .null
      · exact .bool _
      · exact .bool _
      all_goals exact .float _

theorem objectOf_isDecoded {es : List (String × Value)} (h : ∀ e ∈ es, IsDecoded e.2) : IsDecoded (objectOf es) := by
  refine .object (fun e he => ?_) fun e he => ?_
  · obtain ⟨_, -, rfl⟩ := List.mem_map.1 he
    exact ⟨_, rfl⟩
  · obtain ⟨_, hmem, rfl⟩ := List.mem_map.1 he
    exact h _ (Keyed.mem_of_mem_ofList hmem)

/-- What the reader makes of texts that are shorter. -/
structure Decodes (n : Nat) : Prop where
  value : ∀ depth s, s.length < n → Yields (fun p => IsDecoded p.1) (value depth s)
  elements : ∀ depth s, s.length < n → Yields (fun p => ∀ v ∈ p.1, IsDecoded v) (elements depth s)
  members : ∀ depth s, s.length < n → Yields (fun p => ∀ e ∈ p.1, IsDecoded e.2) (members depth s)

theorem Decodes.mono {m n : Nat} (h : Decodes n) (hm : m ≤ n) : Decodes m where
  value depth s hs := h.value depth s (Nat.lt_of_lt_of_le hs hm)
  elements depth s hs := h.elements depth s (Nat.lt_of_lt_of_le hs hm)
  members depth s hs := h.members depth s (Nat.lt_of_lt_of_le hs hm)

theorem value_yields {depth : Nat} {s : List Char} (ih : Decodes s.length) :
    Yields (fun p => IsDecoded p.1) (value depth s) := by
  unfold value
  split
  · exact .bind (.any _) fun _ _ => .ok (.text _)
  · rename_i r
    have hb := length_skipBlank_le r
    dsimp only
    split
    · exact .error _
    -- behind the bracket the text is shorter
    · split
      · exact .ok (.object (List.forall_mem_nil _) (List.forall_mem_nil _))
      · have hlt : (skipBlank r).length < ('\x7b' :: r).length := Nat.lt_succ_of_le hb
        exact .bind (ih.members _ _ hlt) fun p hp => .ok (objectOf_isDecoded hp)
  · rename_i r
    have hb := length_skipBlank_le r
    dsimp only
    split
    · exact .error _
    · split
      · exact .ok (.list (List.forall_mem_nil _))
      · have hlt : (skipBlank r).length < ('[' :: r).length := Nat.lt_succ_of_le hb
        exact .bind (ih.elements _ _ hlt) fun p hp => .ok (.list hp)
  · exact scalar_yields s

theorem elements_yields {depth : Nat} {s : List Char} (ih : Decodes s.length) :
    Yields (fun p => ∀ v ∈ p.1, IsDecoded v) (elements depth s) := by
  unfold elements
  refine .bind (value_yields ih) ?_
  rintro ⟨v, rest, h⟩ hv
  have hb := length_skipBlank_le rest
  dsimp only
  split
  · exact .ok (by simpa using hv)
  · rename_i rest' hr
    have hlt : (skipBlank rest').length < s.length := by
      have hb' := length_skipBlank_le rest'
      rw [hr, List.length_cons] at hb
      omega
    exact .bind (ih.elements _ _ hlt) fun p hp => .ok (List.forall_mem_cons.2 ⟨hv, hp⟩)
  · exact .error _

theorem members_yields {depth : Nat} {s : List Char} (ih : Decodes s.length) :
    Yields (fun p => ∀ e ∈ p.1, IsDecoded e.2) (members depth s) := by
  unfold members
  split
  · rename_i r
    refine .bind (.any _) ?_
    rintro ⟨key, afterKey, hk⟩ -
    have hbk := length_skipBlank_le afterKey
    dsimp only
    split
    · rename_i afterColon hc
      have hbc := length_skipBlank_le afterColon
      rw [hc, List.length_cons] at hbk
      have hlt : (skipBlank afterColon).length < ('"' :: r).length := by
        rw [List.length_cons]
        omega
      refine .bind (ih.value _ _ hlt) ?_
      rintro ⟨v, rest, h⟩ hv
      have hb := length_skipBlank_le rest
      dsimp only
      split
      · exact .ok (by simpa using hv)
      · rename_i rest' hr
        have hlt' : (skipBlank rest').length < ('"' :: r).length := by
          have hb' := length_skipBlank_le rest'
          rw [hr, List.length_cons] at hb
          omega
        exact .bind (ih.members _ _ hlt') fun p hp => .ok (List.forall_mem_cons.2 ⟨hv, hp⟩)
      · exact .error _
    · exact .error _
  · exact .error _

theorem decodes (n : Nat) : Decodes n := by
  induction n with
  | zero => exact ⟨nofun, nofun, nofun⟩
  | succ n ih =>
    have hmono {s : List Char} (hs : s.length < n + 1) : Decodes s.length := ih.mono (Nat.le_of_lt_succ hs)
    exact ⟨fun _ _ hs => value_yields (hmono hs), fun _ _ hs => elements_yields (hmono hs),
      fun _ _ hs => members_yields (hmono hs)⟩

/-- What a text is read as is a decoded value. -/
theorem isDecoded_of_read {text : List Char} {v : Value} (h : read text = .ok v) : v.IsDecoded := by
  refine (Yields.bind (value_yields (decodes _)) ?_ : Yields IsDecoded (read text)) v h
  rintro ⟨v, rest, _⟩ hv
  dsimp only
  split
  · exact .ok hv
  · exact .error _

end Json

end FacetSearch
