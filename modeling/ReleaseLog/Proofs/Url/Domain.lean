import ReleaseLog.Url.Basic

/-!
# Names that end with a space

No domain name ends with a space or a control character, in whatever form it is written: the
mapping keeps such a character, it joins no other in composed text, and it is no digit of an ASCII
form. That the character is the last one matters, as one of ASCII can be joined with a mark behind
it. Nor does a name end with a character that the mapping turns into one of these, or refuses.
-/

namespace ReleaseLog

variable {c : Char} {s : Text}

/-- A character at the end belongs to the last piece. -/
theorem Text.exists_splitOn_append {separator : Char} (h : c ≠ separator) (s : Text) :
    ∃ pieces last, Text.splitOn separator s = pieces ++ [last] ∧
      Text.splitOn separator (s ++ [c]) = pieces ++ [last ++ [c]] := by
  induction s with
  | nil => exact ⟨[], [], rfl, by simp [Text.splitOn, h]⟩
  | cons d ds ih =>
      obtain ⟨pieces, last, short, long⟩ := ih
      simp only [List.cons_append, Text.splitOn, short, long]
      split
      · exact ⟨[] :: pieces, last, rfl, rfl⟩
      · cases pieces with
        | nil => exact ⟨[], d :: last, rfl, rfl⟩
        | cons piece pieces => exact ⟨(d :: piece) :: pieces, last, rfl, rfl⟩

namespace Domain

/-! ## Composed text -/

theorem takeApart_append_ascii (ascii : isAscii c = true) :
    takeApart (s ++ [c]) = takeApart s ++ [c] := by
  have alone : parts? c = none := by simp [parts?, ascii]
  simp [takeApart, alone]

theorem placeMark_append_ascii (ascii : isAscii c = true) (mark : Char) :
    placeMark mark (s ++ [c]) = placeMark mark s ++ [c] := by
  induction s with
  | nil => simp [placeMark, combiningClass, ascii]
  | cons d ds ih =>
      simp only [List.cons_append, placeMark, ih]
      split <;> rfl

theorem decompose_append_ascii (ascii : isAscii c = true) :
    decompose (s ++ [c]) = decompose s ++ [c] := by
  rw [decompose, decompose, takeApart_append_ascii ascii, takeApart_append_ascii ascii]
  induction takeApart (takeApart s) with
  | nil => rfl
  | cons d ds ih => rw [List.cons_append, List.foldr_cons, List.foldr_cons, ih,
      placeMark_append_ascii ascii]

theorem joinTo_append_ascii (ascii : isAscii c = true) (first : Char) (between : Text) :
    joinTo first between (s ++ [c]) = joinTo first between s ++ [c] := by
  induction s generalizing first between with
  | nil => simp [joinTo, whole?, combiningClass, ascii]
  | cons d ds ih =>
      simp only [List.cons_append, joinTo, ih]
      split
      · rfl
      · split <;> simp

/-- One more ASCII character at the end joins nothing. -/
theorem compose_append_ascii (ascii : isAscii c = true) :
    compose (s ++ [c]) = compose s ++ [c] := by
  rw [compose, compose, decompose_append_ascii ascii]
  cases decompose s with
  | nil => rfl
  | cons d ds => exact joinTo_append_ascii ascii d []

/-! ## Names -/

section
variable (space : Url.isControlOrSpace c = true)
include space

/-- There are only few control characters, so each can be looked at. -/
theorem of_isControlOrSpace {P : Char → Prop} (each : ∀ n < 33, P (Char.ofNat n)) : P c := by
  have small : c.toNat ≤ 0x20 := by simpa [Url.isControlOrSpace] using space
  have here := each c.toNat (by omega)
  rwa [Char.ofNat_toNat] at here

theorem isAscii_of_isControlOrSpace : isAscii c = true :=
  of_isControlOrSpace (P := fun c => isAscii c = true) space (by decide)

theorem mapCharacter?_of_isControlOrSpace : mapCharacter? c = some [c] := by
  have lower : c.toLower = c := of_isControlOrSpace (P := fun c => c.toLower = c) space (by decide)
  rw [mapCharacter?, if_pos (isAscii_of_isControlOrSpace space), lower]

theorem map?_append_of_mapped {d : Char} (mapped : mapCharacter? d = some [c]) (name : Text) :
    map? (name ++ [d]) = (map? name).map (· ++ [c]) := by
  rw [map?, map?, List.mapM_append]
  cases name.mapM mapCharacter? with
  | none => rfl
  | some targets => simp [mapped, compose_append_ascii (isAscii_of_isControlOrSpace space)]

theorem readAll?_append_space (state : Punycode.State) (digits : Text) :
    state.readAll? (digits ++ [c]) = none := by
  have noDigit : Punycode.digit? c = none :=
    of_isControlOrSpace (P := fun c => Punycode.digit? c = none) space (by decide)
  induction digits generalizing state with
  | nil => simp [Punycode.State.readAll?, noDigit]
  | cons d ds ih => simp [Punycode.State.readAll?, ih]

/-- The digits of an ASCII form reach to its end. -/
theorem cutAtHyphen_append_space (encoded : Text) :
    ∃ label digits, Punycode.cutAtHyphen (encoded ++ [c]) = (label, digits ++ [c]) := by
  have noHyphen : (c != '-') = true :=
    of_isControlOrSpace (P := fun c => (c != '-') = true) space (by decide)
  unfold Punycode.cutAtHyphen
  split
  · rename_i front
    refine ⟨_, (encoded.reverse.takeWhile (· != '-')).reverse, Prod.ext rfl ?_⟩
    simp [noHyphen]
  · exact ⟨[], encoded, rfl⟩

theorem decode?_append_space (encoded : Text) : Punycode.decode? (encoded ++ [c]) = none := by
  obtain ⟨label, digits, cut⟩ := cutAtHyphen_append_space space encoded
  simp only [Punycode.decode?, cut]
  exact readAll?_append_space space _ digits

theorem decodeLabel?_append_space (encoded : Text) : decodeLabel? (encoded ++ [c]) = none := by
  simp [decodeLabel?, decode?_append_space space]

theorem readLabel?_append_space (label : Text) : readLabel? (label ++ [c]) = none := by
  have noHyphen : c ≠ '-' := of_isControlOrSpace (P := fun c => c ≠ '-') space (by decide)
  have forbidden : isForbidden c = true :=
    of_isControlOrSpace (P := fun c => isForbidden c = true) space (by decide)
  have any : (label ++ [c]).any isForbidden = true := by simp [forbidden]
  unfold readLabel?
  cases sign : Text.after? "xn--".toList (label ++ [c]) with
  | none =>
      show (if _ && _ && !(label ++ [c]).any isForbidden then some _ else none) = none
      rw [any, Bool.not_true, Bool.and_false]
      rfl
  | some encoded =>
      have text := Text.after?_eq_some_iff.1 sign
      rcases List.eq_nil_or_concat encoded with rfl | ⟨front, d, rfl⟩
      · have mark : "xn--".toList ++ [] = "xn-".toList ++ ['-'] := rfl
        rw [mark] at text
        exact absurd (List.cons.inj (List.append_inj_right' text rfl)).1 noHyphen
      · rw [List.concat_eq_append, ← List.append_assoc] at text
        obtain rfl := (List.cons.inj (List.append_inj_right' text rfl)).1
        rw [List.concat_eq_append]
        simp only [decodeLabel?_append_space space]
        rfl

theorem ofText?_append_of_mapped {d : Char} (mapped : mapCharacter? d = some [c]) (name : Text) :
    ofText? (name ++ [d]) = none := by
  have noDot : c ≠ '.' := of_isControlOrSpace (P := fun c => c ≠ '.') space (by decide)
  rw [ofText?, map?_append_of_mapped space mapped]
  cases map? name with
  | none => rfl
  | some target =>
      obtain ⟨labels, last, _, split⟩ := Text.exists_splitOn_append noDot target
      simp [split, List.mapM_append, readLabel?_append_space space]

end

/-- The mapping refuses the character or makes a space or a control character of it. -/
def EndsNoName (c : Char) : Prop :=
  mapCharacter? c = none ∨ ∃ d, Url.isControlOrSpace d = true ∧ mapCharacter? c = some [d]

/-- A name that ends with such a character is refused. -/
theorem ofText?_append (ends : EndsNoName c) (name : Text) : ofText? (name ++ [c]) = none := by
  rcases ends with refused | ⟨d, space, mapped⟩
  · have unmapped : map? (name ++ [c]) = none := by
      rw [map?, List.mapM_append]
      cases name.mapM mapCharacter? <;> simp [refused]
    rw [ofText?, unmapped]
    rfl
  · exact ofText?_append_of_mapped space mapped name

end Domain
end ReleaseLog
