/-!
# Texts

A text is the list of its characters: every reader of this library is then a recursion over the
text that it reads, and a law about a reader is an induction.

White space, trimming and the search for a piece of text stand here. Characters outside of ASCII
matter only to trimming, which follows the Unicode property White_Space.
-/

namespace ReleaseLog

/-- A text, character by character. -/
abbrev Text := List Char

namespace Text

/-- The Unicode property White_Space. -/
def isWhite (c : Char) : Bool :=
  let n := c.toNat
  (0x9 ≤ n && n ≤ 0xD) || n == 0x20 || n == 0x85 || n == 0xA0 || n == 0x1680 ||
    (0x2000 ≤ n && n ≤ 0x200A) || n == 0x2028 || n == 0x2029 || n == 0x202F || n == 0x205F ||
    n == 0x3000

/-- A blank is a space or a tab: white space that stays on its line. -/
def isBlank (c : Char) : Bool := c == ' ' || c == '\t'

theorem isWhite_of_isBlank {c : Char} (h : isBlank c = true) : isWhite c = true := by
  rcases (by simpa [isBlank] using h : c = ' ' ∨ c = '\t') with rfl | rfl <;> decide

/-- A text without the white space in front. -/
def trimStart (s : Text) : Text := s.dropWhile isWhite

/-- A text without the white space behind. -/
def trimEnd (s : Text) : Text := (s.reverse.dropWhile isWhite).reverse

/-- A text without the white space on either side. -/
def trim (s : Text) : Text := trimEnd (trimStart s)

/-- What follows `mark` in a text that begins with it. -/
def after? : Text → Text → Option Text
  | [], s => some s
  | _ :: _, [] => none
  | m :: ms, c :: cs => if m = c then after? ms cs else none

theorem after?_eq_some_iff {mark s rest : Text} :
    after? mark s = some rest ↔ s = mark ++ rest := by
  induction mark generalizing s with
  | nil => simp [after?, eq_comm]
  | cons m ms ih =>
      cases s with
      | nil => simp [after?]
      | cons c cs =>
          by_cases same : m = c
          · simp [after?, same, ih]
          · simp [after?, same, Ne.symm same]

/-- A text begins with `mark`. -/
def startsWith (mark s : Text) : Bool := (after? mark s).isSome

theorem startsWith_iff {mark s : Text} : startsWith mark s = true ↔ mark <+: s := by
  simp only [startsWith, Option.isSome_iff_exists, after?_eq_some_iff, List.IsPrefix]
  exact ⟨fun ⟨r, h⟩ => ⟨r, h.symm⟩, fun ⟨r, h⟩ => ⟨r, h.symm⟩⟩

/-- The piece occurs somewhere in the text. -/
def occursIn (piece : Text) : Text → Bool
  | [] => startsWith piece []
  | c :: cs => startsWith piece (c :: cs) || occursIn piece cs

theorem occursIn_iff {piece s : Text} : occursIn piece s = true ↔ piece <:+: s := by
  induction s with
  | nil => simp [occursIn, startsWith_iff]
  | cons c cs ih => simp [occursIn, startsWith_iff, ih, List.infix_cons_iff]

/-- A text is cut at each occurrence of one character, which belongs to none of the pieces. -/
def splitOn (separator : Char) : Text → List Text
  | [] => [[]]
  | c :: cs =>
      if c = separator then [] :: splitOn separator cs
      else
        match splitOn separator cs with
        | [] => [[c]]
        | piece :: pieces => (c :: piece) :: pieces

theorem splitOn_ne_nil (separator : Char) (s : Text) : splitOn separator s ≠ [] := by
  cases s with
  | nil => simp [splitOn]
  | cons c cs =>
      rw [splitOn]
      split
      · simp
      · split <;> simp

end Text

end ReleaseLog
