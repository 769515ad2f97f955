/-!
# Codes of characters

A text may hold half a pair of UTF-16 that stands alone, which has a code but is no character. A plane
without characters has room for such halves, each as far above its code as that plane begins. `ofCode`
and `code` lead there and back, and texts are put into order by their codes.
-/

namespace FacetSearch.Text

/-- The code of half a pair. -/
def isHalf (n : Nat) : Bool := 0xD800 ≤ n && n ≤ 0xDFFF

/-- Where the plane begins that has room for halves. -/
def halfPlane : Nat := 0xD0000

/-- The character for a code. -/
def ofCode (n : Nat) : Char := if isHalf n then Char.ofNat (halfPlane + n) else Char.ofNat n

/-- The code of a character. -/
def code (c : Char) : Nat := if isHalf (c.toNat - halfPlane) then c.toNat - halfPlane else c.toNat

/-- The text holds half a pair that stands alone. -/
def hasHalf (cs : List Char) : Bool := cs.any fun c => isHalf (code c)

/-- The first text stands before the second. -/
def before (a b : String) : Bool := a.toList.map code < b.toList.map code

theorem toNat_ofNat {n : Nat} (h : n.isValidChar) : (Char.ofNat n).toNat = n := by
  rw [Char.ofNat, dif_pos h]
  rfl

/-- A code below the plane comes back. -/
theorem code_ofCode {n : Nat} (h : n < halfPlane) : code (ofCode n) = n := by
  unfold halfPlane at h
  by_cases hn : isHalf n = true
  · have hr : 0xD800 ≤ n ∧ n ≤ 0xDFFF := by simpa [isHalf] using hn
    have hv : (halfPlane + n).isValidChar := by simp only [halfPlane, Nat.isValidChar]; omega
    simp [ofCode, hn, code, toNat_ofNat hv]
  · have hr : ¬(0xD800 ≤ n ∧ n ≤ 0xDFFF) := by simpa [isHalf] using hn
    have hv : n.isValidChar := by simp only [Nat.isValidChar]; omega
    have hz : n - halfPlane = 0 := by unfold halfPlane; omega
    rw [ofCode, if_neg hn, code, toNat_ofNat hv, hz]
    rfl

end FacetSearch.Text
