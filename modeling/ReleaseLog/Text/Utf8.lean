import ReleaseLog.Text.Basic

/-!
# The UTF-8 form of a text

Files hold bytes. A text is written as its UTF-8 form and read back from it
(`ofUtf8?_toUtf8`); bytes that are no UTF-8 stand for no text. Offsets into a text count bytes of
that form.
-/

namespace ReleaseLog

/-- The content of a file. -/
abbrev Bytes := List UInt8

namespace Text

/-- The number of bytes of the UTF-8 form. -/
def size : Text → Nat
  | [] => 0
  | c :: cs => c.utf8Size + size cs

@[simp] theorem size_append (s t : Text) : size (s ++ t) = size s + size t := by
  induction s with
  | nil => simp [size]
  | cons c cs ih => simp [size, ih, Nat.add_assoc]

/-- A text is cut after its first `count` bytes, or after the character that they end in. -/
def cutAtSize : Nat → Text → Text × Text
  | _, [] => ([], [])
  | 0, s => ([], s)
  | count + 1, c :: cs =>
      let (front, back) := cutAtSize (count + 1 - c.utf8Size) cs
      (c :: front, back)

/-- A text is cut between two parts by the size of the first one. -/
theorem cutAtSize_size (front back : Text) :
    cutAtSize (size front) (front ++ back) = (front, back) := by
  induction front with
  | nil => cases back <;> rfl
  | cons c cs ih =>
      obtain ⟨count, bytes⟩ := Nat.exists_eq_add_of_lt c.utf8Size_pos
      have whole : size (c :: cs) = count + size cs + 1 := by
        simp only [size, bytes]
        omega
      have left : count + size cs + 1 - c.utf8Size = size cs := by omega
      rw [whole, List.cons_append, cutAtSize, left, ih]

/-- The UTF-8 form of a text. -/
def toUtf8 (s : Text) : Bytes := s.flatMap String.utf8EncodeChar

/-- The text with this UTF-8 form, if there is one. -/
def ofUtf8? (bytes : Bytes) : Option Text :=
  (String.fromUTF8? bytes.toByteArray).map String.toList

@[simp] theorem ofUtf8?_toUtf8 (s : Text) : ofUtf8? (toUtf8 s) = some s := by
  have whole : String.fromUTF8? (toUtf8 s).toByteArray = some (String.ofList s) := by
    simp only [String.fromUTF8?]
    split
    · rfl
    · rename_i invalid
      exact absurd (String.ofList s).isValidUTF8 invalid
  rw [ofUtf8?, whole, Option.map_some, String.toList_ofList]

end Text
end ReleaseLog
