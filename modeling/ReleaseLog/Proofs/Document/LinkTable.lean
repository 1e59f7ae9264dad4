import ReleaseLog.Proofs.Document.Heading
import ReleaseLog.Proofs.Text.Search
import ReleaseLog.Proofs.Text.Span

/-!
# Reading link tables

Definitions are read one after the other, and a label may run over line ends. Still the url of a
definition never leaves its line, so a reader that goes through whole lines is in step again at
the next link: lines above a table can absorb its first label, but they take no definition away
(`length_linkDefinitions_append`).
-/

namespace ReleaseLog

/-- The url at the front of what follows a label. -/
def urlIn (target : Text) : Text :=
  (target.dropWhile Text.isBlank).takeWhile (!Text.isWhite ·)

/-- What is left of a text behind that url. -/
def behindUrl (target : Text) : Text :=
  (target.dropWhile Text.isBlank).dropWhile (!Text.isWhite ·)

/-! ## Single definitions -/

/-- What a definition looks like. -/
theorem LinkDefinition.read?_eq_some_iff {s rest : Text} {link : LinkDefinition} :
    read? s = some (link, rest) ↔ ∃ label target,
      s = '[' :: (label ++ ']' :: ':' :: target) ∧ label ≠ [] ∧ ']' ∉ label ∧
        link = ⟨label, urlIn target⟩ ∧ rest = behindUrl target := by
  constructor
  · intro found
    unfold read? at found
    split at found
    · rename_i t
      have whole := List.takeWhile_append_dropWhile (p := (· != ']')) (l := t)
      split at found
      · rename_i c label target front back
        obtain ⟨rfl, rfl⟩ := Prod.mk.inj (Option.some.inj found)
        rw [front, back] at whole
        refine ⟨c :: label, target, ?_, List.cons_ne_nil _ _, ?_, rfl, rfl⟩
        · rw [← whole]
        · intro closed
          rw [← front] at closed
          simpa using List.mem_takeWhile_imp closed
      · cases found
    · cases found
  · rintro ⟨label, target, rfl, nonempty, unclosed, rfl, rfl⟩
    have inside := Text.bne_of_not_mem unclosed
    have front : (label ++ ']' :: ':' :: target).takeWhile (· != ']') = label := by
      rw [List.takeWhile_append_of_pos inside]
      simp
    have back : (label ++ ']' :: ':' :: target).dropWhile (· != ']') = ']' :: ':' :: target := by
      rw [List.dropWhile_append_of_pos inside]
      simp
    obtain ⟨c, cs, rfl⟩ := List.exists_cons_of_ne_nil nonempty
    simp only [read?, front, back]
    rfl

/-! ## Going on to the next definition -/

theorem linkDefinitions_of_read? {s rest : Text} {link : LinkDefinition}
    (h : LinkDefinition.read? s = some (link, rest)) :
    linkDefinitions true s = link :: linkDefinitions false rest := by
  have here : LinkDefinition.readAt? true s = some (link, rest) := h
  rw [linkDefinitions]
  split
  · rename_i found
    rw [here] at found
    obtain ⟨rfl, rfl⟩ := Prod.mk.inj (Option.some.inj found)
    rfl
  · rename_i missing
    rw [here] at missing
    cases missing

theorem linkDefinitions_cons_of_none {atStart : Bool} {c : Char} {s : Text}
    (h : LinkDefinition.readAt? atStart (c :: s) = none) :
    linkDefinitions atStart (c :: s) = linkDefinitions (c == '\n') s := by
  rw [linkDefinitions]
  split
  · rename_i found
    rw [h] at found
    cases found
  · rfl

theorem linkDefinitions_false_cons (c : Char) (s : Text) :
    linkDefinitions false (c :: s) = linkDefinitions (c == '\n') s :=
  linkDefinitions_cons_of_none rfl

/-- The rest of a line holds no definition. -/
theorem linkDefinitions_false_append {a : Text} (h : '\n' ∉ a) (s : Text) :
    linkDefinitions false (a ++ s) = linkDefinitions false s := by
  induction a with
  | nil => rfl
  | cons c cs ih =>
      rw [List.cons_append, linkDefinitions_false_cons, Text.beq_newline_eq_false h]
      apply ih
      intro member
      exact h (List.mem_cons_of_mem c member)

theorem linkDefinitions_afterFirstLine (s : Text) :
    linkDefinitions false (Text.afterFirstLine s) = linkDefinitions false s := by
  have skipped := linkDefinitions_false_append (Text.not_mem_firstLine s) (Text.afterFirstLine s)
  rw [Text.firstLine_append_afterFirstLine] at skipped
  exact skipped.symm

/-- The url of a definition does not leave its line. -/
theorem exists_append_behindUrl (target : Text) :
    ∃ passed, passed ++ behindUrl target = target ∧ '\n' ∉ passed := by
  have blanks := List.takeWhile_append_dropWhile (p := Text.isBlank) (l := target)
  have url := List.takeWhile_append_dropWhile (p := (!Text.isWhite ·))
    (l := target.dropWhile Text.isBlank)
  refine ⟨target.takeWhile Text.isBlank ++ urlIn target, ?_, ?_⟩
  · rw [urlIn, behindUrl, List.append_assoc, url, blanks]
  · intro member
    rcases List.mem_append.1 member with blank | word
    · exact absurd (List.mem_takeWhile_imp blank) (by decide)
    · exact absurd (List.mem_takeWhile_imp word) (by decide)

theorem linkDefinitions_behindUrl (target : Text) :
    linkDefinitions false (behindUrl target) = linkDefinitions false target := by
  obtain ⟨passed, text, onLine⟩ := exists_append_behindUrl target
  have skipped := linkDefinitions_false_append onLine (behindUrl target)
  rw [text] at skipped
  exact skipped.symm

theorem linesFrom_behindUrl (target : Text) :
    Text.linesFrom false (behindUrl target) = Text.linesFrom false target := by
  obtain ⟨passed, text, onLine⟩ := exists_append_behindUrl target
  have skipped := Text.linesFrom_false_append onLine (behindUrl target)
  rw [text] at skipped
  exact skipped.symm

/-! ## Whole lines above a link -/

theorem behindUrl_append_newline (a b : Text) :
    behindUrl (a ++ '\n' :: b) = behindUrl a ++ '\n' :: b := by
  rw [behindUrl, Text.dropWhile_append_separator (by decide),
    Text.dropWhile_append_separator (by decide)]
  rfl

/-- A definition that begins above a table also ends above it, or its label takes in the first
label of the table. -/
theorem LinkDefinition.read?_append_cases {above table rest after : Text}
    {link absorbing : LinkDefinition} (ends : Text.opensLine false above = true)
    (found : read? (above ++ table) = some (absorbing, after))
    (first : read? table = some (link, rest)) :
    after = rest ∨ ∃ left, after = left ++ table ∧ Text.opensLine false left = true ∧
      left.length < above.length := by
  obtain ⟨label, target, text, _, unclosed, _, rfl⟩ := read?_eq_some_iff.1 found
  obtain ⟨name, url, rfl, _, nameUnclosed, _, rfl⟩ := read?_eq_some_iff.1 first
  change above ++ '[' :: (name ++ ']' :: ':' :: url) = ('[' :: label) ++ ']' :: ':' :: target
    at text
  rcases List.append_eq_append_iff.1 text with ⟨inTable, front, back⟩ | ⟨left, front, back⟩
  · -- the first closing bracket stands in the table
    left
    have openBefore : ']' ∉ inTable := by
      intro member
      have inLabel : ']' ∈ '[' :: label := front ▸ List.mem_append_right above member
      exact unclosed (by simpa using inLabel)
    have nameOpen : ']' ∉ '[' :: name := by simpa using nameUnclosed
    rw [← List.cons_append] at back
    obtain ⟨_, rfl⟩ := List.cons.inj (Text.append_separator_inj nameOpen openBefore back).2
    rfl
  · -- the first closing bracket stands above the table
    right
    match left with
    | [] => cases back
    | [_] =>
        obtain ⟨_, same⟩ := List.cons.inj back
        cases same
    | _ :: _ :: left =>
        obtain ⟨rfl, same⟩ := List.cons.inj back
        obtain ⟨rfl, rfl⟩ := List.cons.inj same
        subst front
        have leftEnds : Text.opensLine false left = true := by
          rw [Text.opensLine_append] at ends
          exact ends
        rcases Text.opensLine_iff.1 leftEnds with ⟨_, start⟩ | ⟨t, rfl⟩
        · cases start
        · refine ⟨behindUrl t ++ ['\n'], ?_, ?_, ?_⟩
          · simp [behindUrl_append_newline]
          · rw [Text.opensLine_append]
            rfl
          · have shorter : (behindUrl t).length ≤ t.length :=
              Nat.le_trans (List.length_dropWhile_le _ _) (List.length_dropWhile_le _ _)
            simp only [List.length_append, List.length_cons, List.length_nil]
            omega

/-- Whole lines above a table that begins with a link take no definition away from it. -/
theorem length_linkDefinitions_append {atStart : Bool} {above table rest : Text}
    {link : LinkDefinition} (ends : Text.opensLine atStart above = true)
    (first : LinkDefinition.read? table = some (link, rest)) :
    (linkDefinitions true table).length ≤ (linkDefinitions atStart (above ++ table)).length := by
  generalize size : above.length = n
  induction n using Nat.strongRecOn generalizing above atStart with
  | ind n ih =>
      cases above with
      | nil =>
          obtain rfl : atStart = true := ends
          exact Nat.le_refl _
      | cons c cs =>
          cases found : LinkDefinition.readAt? atStart (c :: (cs ++ table)) with
          | none =>
              rw [List.cons_append, linkDefinitions_cons_of_none found]
              exact ih cs.length (by simp [← size]) ends rfl
          | some answer =>
              obtain ⟨absorbing, after⟩ := answer
              cases atStart with
              | false => cases found
              | true =>
                  change LinkDefinition.read? (c :: cs ++ table) = some (absorbing, after) at found
                  have endsLater : Text.opensLine false (c :: cs) = true := ends
                  rw [linkDefinitions_of_read? found]
                  rcases LinkDefinition.read?_append_cases endsLater found first with
                    rfl | ⟨left, rfl, leftEnds, shorter⟩
                  · rw [linkDefinitions_of_read? first]
                    simp
                  · have later := ih left.length (by omega) leftEnds rfl
                    rw [List.length_cons]
                    omega

/-! ## The links that a release writes -/

/-- The url of a line, and the rest of the text behind it. -/
theorem urlIn_word {url s : Text} (word : ∀ c ∈ url, Text.isWhite c = false)
    (ends : Text.firstLine s = []) :
    urlIn (' ' :: (url ++ s)) = url ∧ behindUrl (' ' :: (url ++ s)) = s := by
  have inWord : ∀ c ∈ url, (!Text.isWhite c) = true := by
    intro c member
    rw [word c member]
    rfl
  have noBlank : (url ++ s).dropWhile Text.isBlank = url ++ s := by
    cases url with
    | nil =>
        rcases Text.firstLine_eq_nil_iff.1 ends with rfl | ⟨t, rfl⟩
        · rfl
        · exact List.dropWhile_cons_of_neg (by decide)
    | cons c cs =>
        apply List.dropWhile_cons_of_neg
        intro blank
        have white := Text.isWhite_of_isBlank blank
        rw [word c List.mem_cons_self] at white
        cases white
  have stops : s.takeWhile (!Text.isWhite ·) = [] ∧ s.dropWhile (!Text.isWhite ·) = s := by
    rcases Text.firstLine_eq_nil_iff.1 ends with rfl | ⟨t, rfl⟩
    · exact ⟨rfl, rfl⟩
    · exact ⟨List.takeWhile_cons_of_neg (by decide), List.dropWhile_cons_of_neg (by decide)⟩
  have skipped : (' ' :: (url ++ s)).dropWhile Text.isBlank = url ++ s := by
    rw [List.dropWhile_cons_of_pos (by decide), noBlank]
  constructor
  · rw [urlIn, skipped, List.takeWhile_append_of_pos inWord, stops.1, List.append_nil]
  · rw [behindUrl, skipped, List.dropWhile_append_of_pos inWord, stops.2]

/-- A line that defines a link is read as that link. -/
theorem linkDefinitions_line {label url s : Text} (nonempty : label ≠ []) (unclosed : ']' ∉ label)
    (word : ∀ c ∈ url, Text.isWhite c = false) (ends : Text.firstLine s = []) :
    linkDefinitions true ('[' :: (label ++ "]: ".toList ++ url ++ s)) =
      ⟨label, url⟩ :: linkDefinitions false s := by
  have read : LinkDefinition.read? ('[' :: (label ++ "]: ".toList ++ url ++ s)) =
      some (⟨label, url⟩, s) := by
    obtain ⟨isUrl, rest⟩ := urlIn_word word ends
    refine LinkDefinition.read?_eq_some_iff.2
      ⟨label, ' ' :: (url ++ s), by simp, nonempty, unclosed, ?_, ?_⟩
    · rw [isUrl]
    · rw [rest]
  exact linkDefinitions_of_read? read

/-- The table below the link of the unreleased changes is read line by line. -/
theorem linkDefinitions_of_isUnreleasedLink {table : Text}
    (h : isUnreleasedLink (Text.firstLine table) = true) :
    ∃ url rest, LinkDefinition.read? table = some (⟨unreleasedLabel, url⟩, rest) ∧
      linkDefinitions true table =
        ⟨unreleasedLabel, url⟩ :: linkDefinitions false (Text.afterFirstLine table) := by
  obtain ⟨target, text⟩ :=
    (Text.startsWith_iff.1 h).trans (Text.firstLine_isPrefix table)
  have read : LinkDefinition.read? table =
      some (⟨unreleasedLabel, urlIn target⟩, behindUrl target) := LinkDefinition.read?_eq_some_iff.2
      ⟨unreleasedLabel, target, text.symm, by decide, by decide, rfl, rfl⟩
  have mark : '\n' ∉ unreleasedLinkMark := by decide
  refine ⟨_, _, read, ?_⟩
  rw [linkDefinitions_of_read? read, linkDefinitions_behindUrl, linkDefinitions_afterFirstLine,
    ← text, linkDefinitions_false_append mark]

/-- The link of the unreleased changes after a release. -/
def unreleasedDefinition (repository version : Text) : LinkDefinition :=
  ⟨unreleasedLabel, repository ++ "/".toList ++ version ++ "...main".toList⟩

/-- The link that compares a release with the one before it. -/
def compareDefinition (repository previous version : Text) : LinkDefinition :=
  ⟨version, repository ++ "/compare/".toList ++ previous ++ "...".toList ++ version⟩

theorem updateLinks_eq {table : Text} (h : isUnreleasedLink (Text.firstLine table) = true)
    (repository previous version : Text) :
    updateLinks repository previous version table =
      releaseLinks repository previous version ++ Text.afterFirstLine table := by
  have found : Text.findLine isUnreleasedLink true table =
      some ⟨[], Text.firstLine table, Text.afterFirstLine table⟩ :=
    Text.findLine_append (a := []) rfl (by simp) h
  rw [updateLinks, found]
  rfl

theorem firstLine_afterFirstLine (s : Text) : Text.firstLine (Text.afterFirstLine s) = [] := by
  have whole := Text.firstLine_append_of_not_mem (Text.not_mem_firstLine s) (Text.afterFirstLine s)
  rw [Text.firstLine_append_afterFirstLine] at whole
  simpa using whole

/-- The table after a release defines its two links in place of the first one. -/
theorem linkDefinitions_updateLinks {repository previous version table : Text}
    (h : isUnreleasedLink (Text.firstLine table) = true) (web : Text.isWord repository)
    (old : Text.isWord previous) (new : IsLabel version) :
    linkDefinitions true (updateLinks repository previous version table) =
      unreleasedDefinition repository version :: compareDefinition repository previous version ::
        (linkDefinitions true table).tail := by
  obtain ⟨url, rest, _, definitions⟩ := linkDefinitions_of_isUnreleasedLink h
  have isUrl : Text.isWord (repository ++ "/".toList ++ version ++ "...main".toList) := by
    simp only [Text.isWord_append]
    exact ⟨⟨⟨web, by decide⟩, new.isWord⟩, by decide⟩
  have isCompareUrl :
      Text.isWord (repository ++ "/compare/".toList ++ previous ++ "...".toList ++ version) := by
    simp only [Text.isWord_append]
    exact ⟨⟨⟨⟨web, by decide⟩, old⟩, by decide⟩, new.isWord⟩
  have unclosed : ']' ∉ version := by
    intro member
    exact absurd (new.chars _ member) (by decide)
  have compare := linkDefinitions_line new.nonempty unclosed isCompareUrl
    (firstLine_afterFirstLine table)
  have text : updateLinks repository previous version table =
      '[' :: (unreleasedLabel ++ "]: ".toList ++
        (repository ++ "/".toList ++ version ++ "...main".toList) ++ '\n' :: '[' ::
          (version ++ "]: ".toList ++
            (repository ++ "/compare/".toList ++ previous ++ "...".toList ++ version) ++
              Text.afterFirstLine table)) := by
    have mark : "[Unreleased]: ".toList = '[' :: (unreleasedLabel ++ "]: ".toList) := by decide
    have between : "...main\n[".toList = "...main".toList ++ ['\n', '['] := by decide
    rw [updateLinks_eq h]
    unfold releaseLinks
    rw [mark, between]
    simp only [List.append_assoc, List.cons_append, List.nil_append]
  have labelled : unreleasedLabel ≠ [] := by decide
  have labelUnclosed : ']' ∉ unreleasedLabel := by decide
  have lineEnds : ∀ s, Text.firstLine ('\n' :: s) = [] := fun _ => rfl
  rw [text, linkDefinitions_line labelled labelUnclosed isUrl (lineEnds _),
    linkDefinitions_false_cons]
  show _ :: linkDefinitions true _ = _
  rw [compare, definitions]
  rfl

end ReleaseLog
