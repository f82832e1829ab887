import Mathlib.Data.List.Lex
import Mathlib.Tactic.SplitIfs

/-!
# The order of bytes

Texts stand in the order of their bytes in UTF-8: what tells two characters apart is the first byte
in which their encodings differ, and that byte is larger in the larger character.
-/

namespace ServiceContract.Text

/-- The bytes of a text in UTF-8. -/
def bytes (s : String) : List UInt8 := s.toUTF8.data.toList

theorem bytes_eq (s : String) : bytes s = s.toList.flatMap String.utf8EncodeChar := by
  have h : s.toUTF8 = s.toList.utf8Encode := by
    conv => lhs; rw [← String.ofList_toList (s := s)]
    rfl
  rw [bytes, h]
  simp [List.utf8Encode]

/-- Two lists of bytes first differ in a byte that is smaller in the one. -/
def FirstDiffer (as bs : List UInt8) : Prop :=
  ∃ common a b x y, as = common ++ a :: x ∧ bs = common ++ b :: y ∧ a < b

theorem FirstDiffer.append_lt {as bs : List UInt8} (h : FirstDiffer as bs) (u v : List UInt8) :
    as ++ u < bs ++ v := by
  obtain ⟨common, a, b, x, y, rfl, rfl, hab⟩ := h
  simp only [List.append_assoc, List.cons_append]
  induction common with
  | nil => exact List.cons_lt_cons_iff.mpr (.inl hab)
  | cons c rest ih => exact List.cons_lt_cons_iff.mpr (.inr ⟨rfl, ih⟩)

theorem FirstDiffer.head {m n : Nat} (hmn : m < n) (hn : n < 256) (x y : List UInt8) :
    FirstDiffer (UInt8.ofNat m :: x) (UInt8.ofNat n :: y) := by
  refine ⟨[], _, _, x, y, rfl, rfl, ?_⟩
  rw [UInt8.lt_iff_toNat_lt, UInt8.toNat_ofNat', UInt8.toNat_ofNat']
  omega

theorem FirstDiffer.cons {as bs : List UInt8} (h : FirstDiffer as bs) (c : UInt8) :
    FirstDiffer (c :: as) (c :: bs) := by
  obtain ⟨common, a, b, x, y, rfl, rfl, hab⟩ := h
  exact ⟨c :: common, a, b, x, y, rfl, rfl, hab⟩

/-- Encodings that begin with different bytes differ there, and others behind. -/
theorem FirstDiffer.of_head_le {m n : Nat} {as bs : List UInt8} (hmn : m ≤ n) (hn : n < 256)
    (h : m = n → FirstDiffer as bs) :
    FirstDiffer (UInt8.ofNat m :: as) (UInt8.ofNat n :: bs) := by
  rcases Nat.lt_or_eq_of_le hmn with hlt | rfl
  · exact .head hlt hn as bs
  · exact (h rfl).cons _

/-- The encodings of two characters first differ as the characters do. -/
theorem firstDiffer_utf8EncodeChar {c d : Char} (h : c < d) :
    FirstDiffer (String.utf8EncodeChar c) (String.utf8EncodeChar d) := by
  have hlt : c.val.toNat < d.val.toNat := h
  have hd : d.val.toNat < 1114112 := by
    have hvalid := d.valid
    simp only [UInt32.isValidChar, Nat.isValidChar] at hvalid
    omega
  unfold String.utf8EncodeChar
  generalize c.val.toNat = v at hlt
  generalize d.val.toNat = w at hlt hd
  dsimp only
  -- a character of more bytes begins with a larger one; among as many bytes, the first digit counts
  split_ifs <;> try omega
  · exact .head hlt (by omega) _ _
  · exact .head (by omega) (by omega) _ _
  · exact .head (by omega) (by omega) _ _
  · exact .head (by omega) (by omega) _ _
  · exact .of_head_le (by omega) (by omega) fun _ => .head (by omega) (by omega) _ _
  · exact .head (by omega) (by omega) _ _
  · exact .head (by omega) (by omega) _ _
  · exact .of_head_le (by omega) (by omega) fun _ => .of_head_le (by omega) (by omega) fun _ =>
      .head (by omega) (by omega) _ _
  · exact .head (by omega) (by omega) _ _
  · exact .of_head_le (by omega) (by omega) fun _ => .of_head_le (by omega) (by omega) fun _ =>
      .of_head_le (by omega) (by omega) fun _ => .head (by omega) (by omega) _ _

theorem bytes_lt {s t : String} (h : s < t) : bytes s < bytes t := by
  rw [bytes_eq, bytes_eq]
  have hlists : s.toList < t.toList := String.lt_iff.mp h
  generalize s.toList = cs at hlists
  generalize t.toList = ds at hlists
  induction cs generalizing ds with
  | nil =>
      cases ds with
      | nil => exact absurd hlists (List.lt_irrefl _)
      | cons d rest =>
          obtain ⟨b, more, hb⟩ := List.exists_cons_of_ne_nil (String.utf8EncodeChar_ne_nil (c := d))
          rw [List.flatMap_cons, hb]
          exact List.nil_lt_cons _ _
  | cons c rest ih =>
      cases ds with
      | nil => exact absurd hlists (List.not_lt_nil _)
      | cons d more =>
          rw [List.flatMap_cons, List.flatMap_cons]
          rcases List.cons_lt_cons_iff.mp hlists with hcd | ⟨rfl, hrest⟩
          · exact (firstDiffer_utf8EncodeChar hcd).append_lt _ _
          · exact List.append_left_lt (ih _ hrest)

theorem bytes_lt_of_le_of_ne {s t : String} (hle : s ≤ t) (hne : s ≠ t) : bytes s < bytes t := by
  refine bytes_lt ?_
  by_contra hlt
  exact hne (String.le_antisymm hle (String.not_lt.mp hlt))

end ServiceContract.Text
