import Mathlib.Data.List.Basic

/-!
Texts as bytes. Texts are ordered by their characters; this is the order of their bytes
in UTF-8 (`bytes_lt_iff`), since the characters with longer encodings are the later ones.
-/
namespace InfraAudit.Text

/-- The bytes of a text in UTF-8. -/
def bytes (text : String) : List UInt8 := text.toUTF8.data.toList

theorem bytes_eq (text : String) : bytes text = text.toList.flatMap String.utf8EncodeChar := by
  have encoded : text.toByteArray = text.toList.utf8Encode := by
    rw [← String.toByteArray_ofList, String.ofList_toList]
  rw [bytes, String.toUTF8_eq_toByteArray, encoded]
  exact List.toList_data_toByteArray

theorem byte_cons_lt {a b : Nat} {s t : List UInt8} (small : b < 256) (le : a ≤ b) (later : a = b → s < t) :
    UInt8.ofNat a :: s < UInt8.ofNat b :: t := by
  rw [List.cons_lt_cons_iff]
  rcases Nat.lt_or_eq_of_le le with less | same
  · left
    rw [UInt8.lt_iff_toNat_lt, UInt8.toNat_ofNat', UInt8.toNat_ofNat']
    omega
  · exact .inr ⟨congrArg UInt8.ofNat same, later same⟩

/-- The encoding of a character comes before that of a later one, whatever follows them. -/
theorem encodeChar_append_lt {c d : Char} (before : c < d) (s t : List UInt8) :
    String.utf8EncodeChar c ++ s < String.utf8EncodeChar d ++ t := by
  have codes : c.val.toNat < d.val.toNat := before
  have bound : d.val.toNat < 0x110000 := by
    rcases d.valid with below | above <;> omega
  simp only [String.utf8EncodeChar]
  generalize c.val.toNat = m at codes
  generalize d.val.toNat = n at codes bound
  -- Encodings of different lengths differ in the first byte, and others in their first
  -- different digit.
  by_cases one : n ≤ 127
  · have one' : m ≤ 127 := by omega
    rw [if_pos one, if_pos one']
    exact byte_cons_lt (by omega) (by omega) (fun same => by omega)
  by_cases two : n ≤ 2047
  · rw [if_neg one, if_pos two]
    split_ifs
    · exact byte_cons_lt (by omega) (by omega) (fun same => by omega)
    · exact byte_cons_lt (by omega) (by omega) fun first =>
        byte_cons_lt (by omega) (by omega) (fun second => by omega)
    · omega
    · omega
  by_cases three : n ≤ 65535
  · rw [if_neg one, if_neg two, if_pos three]
    split_ifs
    · exact byte_cons_lt (by omega) (by omega) (fun same => by omega)
    · exact byte_cons_lt (by omega) (by omega) (fun same => by omega)
    · exact byte_cons_lt (by omega) (by omega) fun first =>
        byte_cons_lt (by omega) (by omega) fun second =>
          byte_cons_lt (by omega) (by omega) (fun third => by omega)
    · omega
  · rw [if_neg one, if_neg two, if_neg three]
    split_ifs
    · exact byte_cons_lt (by omega) (by omega) (fun same => by omega)
    · exact byte_cons_lt (by omega) (by omega) (fun same => by omega)
    · exact byte_cons_lt (by omega) (by omega) (fun same => by omega)
    · exact byte_cons_lt (by omega) (by omega) fun first =>
        byte_cons_lt (by omega) (by omega) fun second =>
          byte_cons_lt (by omega) (by omega) fun third =>
            byte_cons_lt (by omega) (by omega) (fun fourth => by omega)

theorem flatMap_encodeChar_lt {a b : List Char} (before : a < b) :
    a.flatMap String.utf8EncodeChar < b.flatMap String.utf8EncodeChar := by
  induction a generalizing b with
  | nil =>
    cases b with
    | nil => exact absurd before (List.lt_irrefl _)
    | cons d b =>
      have some : String.utf8EncodeChar d ≠ [] := by
        simp only [String.utf8EncodeChar]
        split_ifs <;> exact List.cons_ne_nil _ _
      obtain ⟨x, rest, split⟩ := List.exists_cons_of_ne_nil some
      rw [List.flatMap_cons, split]
      exact List.Lex.nil
  | cons c a ih =>
    cases b with
    | nil => exact absurd before (List.not_lt_nil _)
    | cons d b =>
      rw [List.flatMap_cons, List.flatMap_cons]
      rcases List.cons_lt_cons_iff.mp before with less | ⟨rfl, later⟩
      · exact encodeChar_append_lt less _ _
      · exact List.append_left_lt (ih later)

/-- The order of texts is that of their bytes. -/
theorem bytes_lt_iff {s t : String} : bytes s < bytes t ↔ s < t := by
  have mono : ∀ {s t : String}, s < t → bytes s < bytes t := by
    intro s t before
    rw [bytes_eq, bytes_eq]
    exact flatMap_encodeChar_lt before
  constructor
  · intro less
    by_contra other
    rcases Classical.em (s = t) with rfl | differs
    · exact List.lt_irrefl _ less
    · have after : t < s := Std.lt_of_le_of_ne (String.not_lt.mp other) (Ne.symm differs)
      exact List.lt_asymm less (mono after)
  · exact mono

end InfraAudit.Text
