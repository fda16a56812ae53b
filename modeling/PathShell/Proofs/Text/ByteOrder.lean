import Mathlib.Tactic.SplitIfs

/-!
# The order of texts

Texts are ordered by their code points, character by character. This is also the order of their bytes:
in UTF-8 the higher bits of a code point come first, and the first byte grows with the number of bytes.
-/

namespace PathShell
namespace Text

/-- The bytes of a text in UTF-8. -/
def bytes (text : String) : List UInt8 := text.toByteArray.data.toList

theorem bytes_eq_flatMap (text : String) : bytes text = text.toList.flatMap String.utf8EncodeChar := by
  have written : text.toByteArray = text.toList.utf8Encode := by
    rw [← String.toByteArray_ofList, String.ofList_toList]
  rw [bytes, written, List.utf8Encode, List.toList_data_toByteArray]

/-- A number without its last six bits is smaller, or those bits are. -/
theorem sixBits_lt {m n : Nat} (less : m < n) :
    m / 64 < n / 64 ∨ m / 64 = n / 64 ∧ m % 64 < n % 64 := by
  omega

/-- Of two numbers the smaller has the smaller digits in the base of 64, the leading digit first. -/
theorem fourBytes_lt {m n : Nat} (less : m < n) :
    m / 262144 < n / 262144 ∨ m / 262144 = n / 262144 ∧
      (m / 4096 % 64 < n / 4096 % 64 ∨ m / 4096 % 64 = n / 4096 % 64 ∧
        (m / 64 % 64 < n / 64 % 64 ∨ m / 64 % 64 = n / 64 % 64 ∧ m % 64 < n % 64)) := by
  have third := @sixBits_lt (m / 64) (n / 64)
  have second := @sixBits_lt (m / 4096) (n / 4096)
  simp only [Nat.div_div_eq_div_mul, Nat.reduceMul] at third second
  rcases sixBits_lt less with more | ⟨sameRest, less⟩
  · rcases third more with more | ⟨sameRest, less⟩
    · rcases second more with more | ⟨sameRest, less⟩
      · exact .inl more
      · exact .inr ⟨sameRest, .inl less⟩
    · have top : m / 262144 = n / 262144 := by omega
      have same : m / 4096 % 64 = n / 4096 % 64 := by rw [sameRest]
      exact .inr ⟨top, .inr ⟨same, .inl less⟩⟩
  · have top : m / 262144 = n / 262144 := by omega
    have same : m / 4096 % 64 = n / 4096 % 64 := by omega
    have same' : m / 64 % 64 = n / 64 % 64 := by rw [sameRest]
    exact .inr ⟨top, .inr ⟨same, .inr ⟨same', less⟩⟩⟩

/-- The smaller of two characters has the smaller bytes, whatever follows them. -/
theorem utf8EncodeChar_lt {c d : Char} (less : c < d) (rest rest' : List UInt8) :
    String.utf8EncodeChar c ++ rest < String.utf8EncodeChar d ++ rest' := by
  have points : c.val.toNat < d.val.toNat := less
  have bound : d.val.toNat < 0x110000 := by
    rcases d.valid with low | ⟨-, high⟩
    · omega
    · exact high
  simp only [String.utf8EncodeChar]
  generalize c.val.toNat = m at *
  generalize d.val.toNat = n at *
  -- Where the smaller has four bytes, so has the other; elsewhere a few bytes have to be compared.
  by_cases short : m ≤ 65535
  · split_ifs
    all_goals
      simp only [List.cons_append, List.nil_append, List.cons_lt_cons_iff, UInt8.lt_iff_toNat_lt,
        ← UInt8.toNat_inj, UInt8.toNat_ofNat']
      omega
  · have longest (k : Nat) (large : ¬ k ≤ 65535) : ¬ k ≤ 127 ∧ ¬ k ≤ 2047 := by omega
    have long : ¬ n ≤ 65535 := by omega
    simp only [if_neg (longest m short).1, if_neg (longest m short).2, if_neg short,
      if_neg (longest n long).1, if_neg (longest n long).2, if_neg long,
      List.cons_append, List.nil_append, List.cons_lt_cons_iff, UInt8.lt_iff_toNat_lt,
      ← UInt8.toNat_inj, UInt8.toNat_ofNat']
    simp (disch := omega) only [Nat.mod_eq_of_lt, Nat.add_lt_add_iff_right, Nat.add_right_cancel_iff]
    rcases fourBytes_lt points with first | ⟨first, second | ⟨second, third | ⟨third, last⟩⟩⟩
    · exact .inl first
    · exact .inr ⟨first, .inl second⟩
    · exact .inr ⟨first, .inr ⟨second, .inl third⟩⟩
    · exact .inr ⟨first, .inr ⟨second, .inr ⟨third, .inl last⟩⟩⟩

theorem flatMap_utf8EncodeChar_lt {cs ds : List Char} (less : cs < ds) :
    cs.flatMap String.utf8EncodeChar < ds.flatMap String.utf8EncodeChar := by
  induction cs generalizing ds with
  | nil =>
    cases ds with
    | nil => exact absurd less (List.lt_irrefl _)
    | cons d ds =>
      obtain ⟨first, others, shape⟩ := List.exists_cons_of_ne_nil (@String.utf8EncodeChar_ne_nil d)
      rw [List.flatMap_nil, List.flatMap_cons, shape]
      exact List.nil_lt_cons _ _
  | cons c cs ih =>
    cases ds with
    | nil => exact absurd less (List.not_lt_nil _)
    | cons d ds =>
      rw [List.flatMap_cons, List.flatMap_cons]
      rcases List.cons_lt_cons_iff.mp less with smaller | ⟨rfl, later⟩
      · exact utf8EncodeChar_lt smaller _ _
      · exact List.append_left_lt (ih later)

/-- Of two texts, the one that comes first has the bytes that come first. -/
theorem bytes_lt {a b : String} (less : a < b) : bytes a < bytes b := by
  have chars : a.toList < b.toList := less
  rw [bytes_eq_flatMap, bytes_eq_flatMap]
  exact flatMap_utf8EncodeChar_lt chars

end Text
end PathShell
