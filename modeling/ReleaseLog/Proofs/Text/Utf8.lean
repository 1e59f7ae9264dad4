import ReleaseLog.Text.Utf8

/-!
# Decoding UTF-8

Bytes stand for a text exactly if they are its UTF-8 form. A character is known from its bytes, also
at the end of others, since only the first one of them begins a character.
-/

namespace ReleaseLog
namespace Text

variable {bytes : Bytes} {s : Text} {c : Char}

theorem ofUtf8?_eq_some_iff : ofUtf8? bytes = some s ↔ toUtf8 s = bytes := by
  constructor
  · intro read
    simp only [ofUtf8?, Option.map_eq_some_iff, String.fromUTF8?] at read
    obtain ⟨whole, decoded, rfl⟩ := read
    split at decoded
    · rename_i valid
      have text : whole.toByteArray = bytes.toByteArray := by
        rw [← Option.some.inj decoded]
        rfl
      rw [← String.ofList_toList (s := whole), String.toByteArray_ofList] at text
      exact List.toByteArray_inj.1 text
    · cases decoded
  · rintro rfl
    exact ofUtf8?_toUtf8 s

/-- The byte goes on with a character that has begun before it. -/
def isContinuation (b : UInt8) : Bool := 128 ≤ b.toNat && b.toNat < 192

theorem isContinuation_ofNat (n : Nat) : isContinuation (UInt8.ofNat (n % 64 + 128)) = true := by
  have fits : n % 64 + 128 < 256 := by omega
  rw [isContinuation, UInt8.toNat_ofNat_of_lt' fits]
  simp
  omega

theorem not_isContinuation_ofNat {n : Nat} (fits : n < 256) (other : n < 128 ∨ 192 ≤ n) :
    isContinuation (UInt8.ofNat n) = false := by
  rw [isContinuation, UInt8.toNat_ofNat_of_lt' fits]
  simp
  omega

/-- The bytes of a character are one that begins it and others that go on with it. -/
theorem exists_utf8EncodeChar_eq (c : Char) :
    ∃ first others, String.utf8EncodeChar c = first :: others ∧ isContinuation first = false ∧
      ∀ b ∈ others, isContinuation b = true := by
  rw [String.utf8EncodeChar.eq_1]
  generalize c.val.toNat = n
  -- One case for each number of bytes.
  repeat' split
  all_goals
    refine ⟨_, _, rfl, not_isContinuation_ofNat (by omega) (by omega), ?_⟩
    simp [isContinuation_ofNat, -UInt8.ofNat_add]

/-- What ends with the bytes of two characters ends with one character. -/
theorem eq_of_append_utf8EncodeChar_eq {other : Bytes} {d : Char}
    (h : bytes ++ String.utf8EncodeChar c = other ++ String.utf8EncodeChar d) : c = d := by
  obtain ⟨first, others, encoded, begins, goOn⟩ := exists_utf8EncodeChar_eq c
  obtain ⟨first', others', encoded', begins', goOn'⟩ := exists_utf8EncodeChar_eq d
  have same : String.utf8EncodeChar c = String.utf8EncodeChar d := by
    rw [encoded, encoded'] at h ⊢
    rcases List.append_eq_append_iff.1 h with ⟨more, _, whole⟩ | ⟨more, _, whole⟩
    · cases more with
      | nil => exact whole
      | cons b more =>
          have later : first' ∈ others := by
            rw [(List.cons.inj whole).2]
            simp
          rw [goOn first' later] at begins'
          cases begins'
    · cases more with
      | nil => exact whole.symm
      | cons b more =>
          have later : first ∈ others' := by
            rw [(List.cons.inj whole).2]
            simp
          rw [goOn' first later] at begins
          cases begins
  have read := ofUtf8?_toUtf8 [c]
  rw [toUtf8, List.flatMap_singleton, same] at read
  have other := ofUtf8?_toUtf8 [d]
  rw [toUtf8, List.flatMap_singleton, read] at other
  exact (List.cons.inj (Option.some.inj other)).1

theorem exists_append_of_toUtf8_eq (h : toUtf8 s = bytes ++ String.utf8EncodeChar c) :
    ∃ front, s = front ++ [c] := by
  rcases List.eq_nil_or_concat s with rfl | ⟨front, d, rfl⟩
  · obtain ⟨first, others, encoded, _⟩ := exists_utf8EncodeChar_eq c
    simp [toUtf8, encoded] at h
  · have whole : toUtf8 (front ++ [d]) = toUtf8 front ++ String.utf8EncodeChar d := by
      simp [toUtf8]
    rw [List.concat_eq_append, whole] at h
    refine ⟨front, ?_⟩
    rw [List.concat_eq_append, eq_of_append_utf8EncodeChar_eq h]

end Text
end ReleaseLog
