import FacetSearch.Catalog.Basic
import FacetSearch.Proofs.Digits
/-!
# Names that catalogs keep

A name is kept without white space around it and in lower case. Done twice, this changes nothing more, as long as the
name that is kept consists of ASCII characters (`CatalogName.ofValue_toValue`); it may have been given with others, since
there is a letter beyond ASCII whose lower case is an ASCII letter. Names that are texts are put into an order in which
they stay (`CatalogName.sorted_texts`).
-/

namespace FacetSearch

/-! ## Lower case without white space -/

namespace Text

/-- What letters beyond ASCII are in lower case is beyond ASCII again, but for one that becomes an ASCII letter. -/
theorem lowerRuns_lowered : ∀ r ∈ CaseTable.lowerRuns,
    (128 ≤ r.2.2.2 ∧ r.2.2.2 + (r.2.1 - r.1) < 0xD800) ∨ (0xE000 ≤ r.2.2.2 ∧ r.2.2.2 + (r.2.1 - r.1) < 0x110000) ∨
      (r.1 = r.2.1 ∧ 97 ≤ r.2.2.2 ∧ r.2.2.2 ≤ 122) := by
  decide +kernel

theorem lowerChar_beyondAscii {c : Char} (hc : 128 ≤ c.toNat) :
    128 ≤ (lowerChar c).toNat ∨ (97 ≤ (lowerChar c).toNat ∧ (lowerChar c).toNat ≤ 122) := by
  rw [lowerChar, if_neg (by omega), lowerBeyondAscii]
  split
  · rename_i first last stride lowered hfind
    have hrun := lowerRuns_lowered _ (List.mem_of_find?_eq_some hfind)
    have hbetween := List.find?_some hfind
    simp only [Bool.and_eq_true, decide_eq_true_eq] at hrun hbetween
    have hvalid : Nat.isValidChar (lowered + (c.toNat - first)) := by
      unfold Nat.isValidChar
      omega
    rw [Char.toNat_ofNat, if_pos hvalid]
    omega
  · rw [Char.ofNat_toNat]
    exact .inl hc

/-- An ASCII character in lower case is left as it is, and is no white space if it was none before. -/
theorem lowerChar_ascii {c : Char} (h : (lowerChar c).toNat < 128) :
    (lowerChar c).toLower = lowerChar c ∧ (isBlank c = false → isBlank (lowerChar c) = false) := by
  by_cases hc : c.toNat < 128
  · rw [lowerChar, if_pos hc]
    exact Name.of_ascii (P := fun c => c.toLower.toLower = c.toLower ∧ (isBlank c = false → isBlank c.toLower = false))
      (by decide +kernel) hc
  · have hletter : 97 ≤ (lowerChar c).toNat ∧ (lowerChar c).toNat ≤ 122 := by
      rcases lowerChar_beyondAscii (Nat.le_of_not_lt hc) with hbeyond | hletter
      · omega
      · exact hletter
    have hkept := Name.of_ascii (P := fun d => 97 ≤ d.toNat ∧ d.toNat ≤ 122 → d.toLower = d ∧ isBlank d = false)
      (by decide +kernel) h hletter
    exact ⟨hkept.1, fun _ => hkept.2⟩

/-- The letters with rules of their own are beyond ASCII in lower case too. -/
theorem lowerFrom_eq_map {before cs : List Char} (h : ∀ d ∈ lowerFrom before cs, d.toNat < 128) :
    lowerFrom before cs = cs.map lowerChar := by
  induction cs generalizing before with
  | nil => rfl
  | cons c cs ih =>
    rw [lowerFrom] at h ⊢
    have hc := fun d hd => h d (List.mem_append_left _ hd)
    rw [ih fun d hd => h d (List.mem_append_right _ hd), List.map_cons]
    split at hc
    · split at hc
      · exact absurd (hc 'ς' List.mem_cons_self) (by decide)
      · exact absurd (hc 'σ' List.mem_cons_self) (by decide)
    · split at hc
      · exact absurd (hc '\u0307' (by simp)) (by decide)
      · rename_i hs hi
        rw [if_neg hs, if_neg hi, List.singleton_append]

theorem head?_stripChars {cs : List Char} {c : Char} (h : c ∈ (stripChars cs).head?) : isBlank c = false := by
  rw [stripChars, trim] at h
  obtain ⟨back, hback, -⟩ := exists_dropEndWhile isBlank (cs.dropWhile isBlank)
  have hhead : c ∈ (cs.dropWhile isBlank).head? := by
    rw [hback, List.head?_append]
    exact Option.mem_def.2 (by rw [Option.mem_def.1 h]; rfl)
  have hnot := List.head?_dropWhile_not isBlank cs
  rwa [Option.mem_def.1 hhead] at hnot

theorem getLast?_stripChars {cs : List Char} {c : Char} (h : c ∈ (stripChars cs).getLast?) : isBlank c = false := by
  rw [stripChars, trim, dropEndWhile, List.getLast?_reverse] at h
  have hnot := List.head?_dropWhile_not isBlank (cs.dropWhile isBlank).reverse
  rwa [Option.mem_def.1 h] at hnot

/-- What is left of a text without white space at its ends, in lower case, is left as it is by both if it consists of
ASCII characters. -/
theorem lower_strip_of_ascii {s t : String} (hs : s = lower (strip t)) (h : ∀ c ∈ s.toList, c.toNat < 128) :
    lower (strip s) = s := by
  have hchars : s.toList = lowerFrom [] (stripChars t.toList) := by
    rw [hs, lower, strip, String.toList_ofList, String.toList_ofList]
  have hmap : s.toList = (stripChars t.toList).map lowerChar := by
    rw [hchars]
    exact lowerFrom_eq_map fun d hd => h d (hchars ▸ hd)
  have hkept : ∀ c ∈ stripChars t.toList, (lowerChar c).toLower = lowerChar c ∧
      (isBlank c = false → isBlank (lowerChar c) = false) := fun c hc =>
    lowerChar_ascii (h _ (by rw [hmap]; exact List.mem_map_of_mem hc))
  have hstrip : stripChars s.toList = s.toList := by
    refine trim_of_ends (fun d hd => ?_) fun d hd => ?_
    · rw [hmap, List.head?_map] at hd
      obtain ⟨c, hc, rfl⟩ := Option.mem_map.1 hd
      exact (hkept c (List.mem_of_mem_head? hc)).2 (head?_stripChars hc)
    · rw [hmap, List.getLast?_map] at hd
      obtain ⟨c, hc, rfl⟩ := Option.mem_map.1 hd
      exact (hkept c (List.mem_of_getLast? hc)).2 (getLast?_stripChars hc)
  have hlower : lowerFrom [] s.toList = s.toList := by
    rw [Name.lowerFrom_of_ascii [] h, hmap, List.map_map]
    exact List.map_congr_left fun c hc => (hkept c hc).1
  rw [lower, strip, hstrip, String.toList_ofList, hlower, String.ofList_toList]

end Text

/-! ## Names of tables and columns -/

namespace CatalogName

/-- A name in the form in which names are kept. -/
def IsKept (n : CatalogName) : Prop := ∃ m : CatalogName, n = m.normalize

/-- A text of ASCII characters. -/
def IsAscii (n : CatalogName) : Prop := ∃ s, n = .text s ∧ ∀ c ∈ s.toList, c.toNat < 128

theorem isKept_of_ofValue {v : Value} {n : CatalogName} (h : ofValue v = .ok n) : n.IsKept := by
  unfold ofValue at h
  split at h
  · obtain rfl := Except.ok.inj h
    exact ⟨.text "", rfl⟩
  · split at h
    · exact ⟨_, (Except.ok.inj h).symm⟩
    · exact ⟨_, (Except.ok.inj h).symm⟩
    · cases h

/-- A name that is kept is found again under itself. -/
theorem ofValue_toValue {n : CatalogName} (hk : n.IsKept) (ha : n.IsAscii) : ofValue n.toValue = .ok n := by
  obtain ⟨s, rfl, hs⟩ := ha
  obtain ⟨m, hm⟩ := hk
  cases m with
  | bytes bs => cases hm
  | text t =>
    have hkept := Text.lower_strip_of_ascii (CatalogName.text.inj hm) hs
    by_cases hempty : s = ""
    · subst hempty
      rfl
    · have htrue : (s != "") = true := bne_iff_ne.2 hempty
      simp only [ofValue, toValue, Value.isTruthy, htrue, Bool.not_true, Bool.false_eq_true, if_false, normalize, hkept]

theorem exists_texts {ns : List CatalogName} (h : ∀ n ∈ ns, n.IsAscii) : ∃ ss : List String, ns = ss.map .text := by
  induction ns with
  | nil => exact ⟨[], rfl⟩
  | cons n ns ih =>
    obtain ⟨⟨s, rfl, -⟩, hns⟩ := List.forall_mem_cons.1 h
    obtain ⟨ss, rfl⟩ := ih hns
    exact ⟨s :: ss, rfl⟩

/-- The order of texts, an earlier one first. -/
def notBefore (a b : String) : Bool := !Text.before b a

theorem notBefore_iff (a b : String) :
    notBefore a b = true ↔ @LE.le _ List.instLE (a.toList.map Text.code) (b.toList.map Text.code) := by
  rw [notBefore, Text.before, Bool.not_eq_true', decide_eq_false_iff_not]
  exact List.not_lt

theorem pairwise_sorted (ss : List String) : (ss.mergeSort notBefore).Pairwise (notBefore · ·) := by
  refine List.pairwise_mergeSort (fun a b c hab hbc => ?_) (fun a b => ?_) ss
  · rw [notBefore_iff] at hab hbc ⊢
    exact List.le_trans hab hbc
  · rw [Bool.or_eq_true, notBefore_iff, notBefore_iff]
    exact List.le_total _ _

/-- Texts have an order, and names that are in order already stay as they are. -/
theorem sorted_texts (ss : List String) : sorted (ss.map .text) = .ok ((ss.mergeSort notBefore).map .text) ∧
    sorted ((ss.mergeSort notBefore).map .text) = .ok ((ss.mergeSort notBefore).map .text) := by
  have htexts (ss : List String) : (ss.map CatalogName.text).mapM text? = some ss := by
    induction ss with
    | nil => rfl
    | cons s ss ih => simp only [List.map_cons, List.mapM_cons, text?, ih]; rfl
  have hsorted (ss : List String) : sorted (ss.map .text) = .ok ((ss.mergeSort notBefore).map .text) := by
    simp only [sorted, htexts]
    rfl
  exact ⟨hsorted ss, by rw [hsorted, List.mergeSort_of_pairwise (pairwise_sorted ss)]⟩

end CatalogName

end FacetSearch
