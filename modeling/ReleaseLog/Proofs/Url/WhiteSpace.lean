import ReleaseLog.Proofs.Url.Host

/-!
# Hosts that end with white space

No host ends with white space of any kind: beyond ASCII, the mapping refuses it or makes a space of
it. This is looked up in the tables. They are given as strings; for the search each string is
replaced by its characters (`flatMap_toList_cons`), so that nothing has to be decoded.
-/

namespace ReleaseLog

variable {c : Char}

/-! ## The white space characters -/

/-- The codes of all white space. -/
def Text.whiteCodes : List Nat :=
  List.range' 0x9 5 ++ [0x20, 0x85, 0xA0, 0x1680] ++ List.range' 0x2000 11 ++
    [0x2028, 0x2029, 0x202F, 0x205F, 0x3000]

theorem Text.toNat_mem_whiteCodes (white : isWhite c = true) : c.toNat ∈ whiteCodes := by
  simp only [isWhite, Bool.or_eq_true, Bool.and_eq_true, decide_eq_true_eq, beq_iff_eq] at white
  simp only [whiteCodes, List.mem_append, List.mem_range'_1, List.mem_cons, List.not_mem_nil,
    or_false]
  omega

/-- There are only few white space characters, so each can be looked at. -/
theorem Text.of_isWhite {P : Char → Prop} (white : isWhite c = true)
    (each : ∀ n ∈ whiteCodes, P (Char.ofNat n)) : P c := by
  have here := each c.toNat (toNat_mem_whiteCodes white)
  rwa [Char.ofNat_toNat] at here

namespace Domain

/-! ## The mapping of white space -/

theorem flatMap_toList_cons {string : String} {strings : List String} {front back : Text}
    (first : string = String.ofList front) (later : strings.flatMap String.toList = back) :
    (string :: strings).flatMap String.toList = front ++ back := by
  rw [List.flatMap_cons, first, String.toList_ofList, later]

/-- White space beyond ASCII that the mapping refuses. -/
def refusedCodes : List Nat := [0x85, 0x1680, 0x2028, 0x2029]

/-- White space beyond ASCII that becomes a space, each by a mapping of its own. -/
def singleSpaceCodes : List Nat := [0xA0, 0x202F, 0x205F, 0x3000]

/-- Spaces of various widths, which one series of mappings turns into plain ones. -/
def wideSpaceCodes : List Nat := List.range' 0x2000 11

/-- White space beyond ASCII that becomes a space. -/
def mappedCodes : List Nat := singleSpaceCodes ++ wideSpaceCodes

theorem exists_statusTable_text : ∃ text, statusTable.flatMap String.toList = text ∧
    (∀ n ∈ refusedCodes, signAt (Char.ofNat n).toNat (readRuns ⟨'U', 0⟩ text) = 'X') ∧
    ∀ n ∈ mappedCodes, signAt (Char.ofNat n).toNat (readRuns ⟨'U', 0⟩ text) = 'M' := by
  apply Exists.intro
  apply And.intro
  · -- The text is put together string by string.
    unfold statusTable
    repeat apply flatMap_toList_cons rfl
    rfl
  · decide +kernel

theorem exists_seriesTable_text : ∃ text, seriesTable.flatMap String.toList = text ∧
    (∀ n ∈ wideSpaceCodes, ((Text.splitOn ',' text).flatMap fun row =>
      seriesMappings ((Text.splitOn ' ' row).map Text.hexValue)).lookup (Char.ofNat n) =
        some [' ']) ∧
    ∀ n ∈ singleSpaceCodes, ((Text.splitOn ',' text).flatMap fun row =>
      seriesMappings ((Text.splitOn ' ' row).map Text.hexValue)).lookup (Char.ofNat n) = none := by
  apply Exists.intro
  apply And.intro
  · unfold seriesTable
    repeat apply flatMap_toList_cons rfl
    rfl
  · decide +kernel

theorem exists_targetTable_text : ∃ text, targetTable.flatMap String.toList = text ∧
    ∀ n ∈ singleSpaceCodes,
      ((Text.splitOn ',' text).flatMap targetMappings).lookup (Char.ofNat n) = some [' '] := by
  apply Exists.intro
  apply And.intro
  · unfold targetTable
    repeat apply flatMap_toList_cons rfl
    rfl
  · decide +kernel

section
variable {n : Nat}

theorem status_of_mem_refusedCodes (member : n ∈ refusedCodes) : status (Char.ofNat n) = 'X' := by
  obtain ⟨text, rfl, refused, _⟩ := exists_statusTable_text
  exact refused n member

theorem status_of_mem_mappedCodes (member : n ∈ mappedCodes) : status (Char.ofNat n) = 'M' := by
  obtain ⟨text, rfl, _, mapped⟩ := exists_statusTable_text
  exact mapped n member

theorem lookup_mappings_of_mem_mappedCodes (member : n ∈ mappedCodes) :
    mappings.lookup (Char.ofNat n) = some [' '] := by
  obtain ⟨series, rfl, found, missing⟩ := exists_seriesTable_text
  obtain ⟨targets, rfl, target⟩ := exists_targetTable_text
  rw [mappings, List.lookup_append]
  rcases List.mem_append.1 member with single | wide
  · rw [missing n single, target n single]
    rfl
  · rw [found n wide]
    rfl

end

/-- White space is refused or becomes a space, unless it is kept as a control character. -/
theorem endsNoName_of_isWhite (white : Text.isWhite c = true) : EndsNoName c := by
  have listed : ∀ n ∈ Text.whiteCodes, Url.isControlOrSpace (Char.ofNat n) = true ∨
      isAscii (Char.ofNat n) = false ∧ (n ∈ refusedCodes ∨ n ∈ mappedCodes) := by decide
  refine Text.of_isWhite white fun n member => ?_
  rcases listed n member with space | ⟨beyond, refused | mapped⟩
  · exact .inr ⟨_, space, mapCharacter?_of_isControlOrSpace space⟩
  · exact .inl (by simp [mapCharacter?, beyond, status_of_mem_refusedCodes refused])
  · refine .inr ⟨' ', rfl, ?_⟩
    simp [mapCharacter?, beyond, status_of_mem_mappedCodes mapped,
      lookup_mappings_of_mem_mappedCodes mapped]

end Domain

theorem Url.endsNoHost_of_isWhite (white : Text.isWhite c = true) : EndsNoHost c where
  endsNoName := Domain.endsNoName_of_isWhite white
  noHexDigit := Text.of_isWhite (P := fun c => Text.hexDigit? c = none) white (by decide)
  noDigit := Text.of_isWhite (P := fun c => c.isDigit = false) white (by decide)
  noMark := Text.of_isWhite (P := fun c => c ∉ hostMarks) white (by decide)

end ReleaseLog
