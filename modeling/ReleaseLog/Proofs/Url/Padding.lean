import ReleaseLog.Proofs.Text.Trim
import ReleaseLog.Proofs.Url.TrailingSlash
import ReleaseLog.Proofs.Url.WhiteSpace

/-!
# Urls with white space around them

Spaces and control characters around a url are ignored, and behind its host a url may hold anything.
So a text with white space around it can be accepted as a url. White space beyond ASCII is part of
what it stands at: in front it keeps the text from having a scheme, and behind a host it belongs to
the host, which no such character may end.
-/

namespace ReleaseLog
namespace Url

variable {s t front back name rest tail : Text} {c : Char}

/-! ## What is ignored -/

theorem checkWeb_congr (same : clean s = clean t) : checkWeb s = checkWeb t := by
  rw [checkWeb, checkWeb, scheme, scheme, same]

theorem clean_append_of_control (control : ∀ c ∈ front, isControlOrSpace c = true) (s : Text) :
    clean (front ++ s) = clean s := by
  rw [clean, clean, List.dropWhile_append_of_pos control]

theorem clean_append_control (s : Text) (control : ∀ c ∈ back, isControlOrSpace c = true) :
    clean (s ++ back) = clean s := by
  have reversed : ∀ c ∈ back.reverse, isControlOrSpace c = true := by simpa using control
  rw [clean, clean, List.dropWhile_append]
  split
  · rename_i none
    rw [List.isEmpty_iff.1 none, List.dropWhile_eq_nil_iff.2 control]
  · rw [List.reverse_append, List.dropWhile_append_of_pos reversed]

/-- What counts of a text comes first of what counts of a longer one. -/
theorem exists_clean_append_eq (s tail : Text) : ∃ more, clean (s ++ tail) = clean s ++ more ∧
    ∀ c ∈ more, isControlOrSpace c = true ∨ c ∈ tail := by
  have ofTail : ∀ t : Text, t ⊆ tail → ∀ c ∈ t, isControlOrSpace c = true ∨ c ∈ tail :=
    fun t inside c member => .inr (inside member)
  unfold clean
  rw [List.dropWhile_append]
  split
  · rename_i none
    rw [List.isEmpty_iff.1 none]
    refine ⟨_, rfl, ofTail _ fun c member => ?_⟩
    have kept := List.mem_reverse.1 (List.mem_filter.1 member).1
    have inside := List.mem_reverse.1 ((List.dropWhile_suffix _).subset kept)
    exact (List.dropWhile_suffix _).subset inside
  · generalize s.dropWhile isControlOrSpace = inner
    rw [List.reverse_append, List.dropWhile_append]
    split
    · exact ⟨[], (List.append_nil _).symm, nofun⟩
    · have cut := Text.span_eq_iff.1
        ⟨Eq.refl (inner.reverse.takeWhile isControlOrSpace), rfl⟩
      generalize inner.reverse.takeWhile isControlOrSpace = spaces at cut
      generalize inner.reverse.dropWhile isControlOrSpace = kept at cut
      obtain ⟨whole, isSpace, _⟩ := cut
      rw [whole, List.reverse_append, List.reverse_append, List.filter_append,
        List.filter_append, List.append_assoc]
      refine ⟨_, rfl, fun c member => ?_⟩
      rcases List.mem_append.1 member with space | late
      · exact .inl (isSpace c (List.mem_reverse.1 (List.mem_filter.1 space).1))
      · have inside := List.mem_reverse.1 (List.mem_filter.1 late).1
        exact .inr (List.mem_reverse.1 ((List.dropWhile_suffix _).subset inside))

/-! ## In front of a url -/

/-- Neither white space nor what is ignored has a part in the form of a url. -/
theorem plain_of_isControlOrSpace_or_isWhite
    (blank : isControlOrSpace c = true ∨ Text.isWhite c = true) :
    (isSchemeChar c = false ∧ c ≠ ':') ∧ endsAuthority true c = false ∧ isSlash c = false := by
  let Plain (c : Char) : Prop :=
    (isSchemeChar c = false ∧ c ≠ ':') ∧ endsAuthority true c = false ∧ isSlash c = false
  rcases blank with space | white
  · exact Domain.of_isControlOrSpace (P := Plain) space (by decide)
  · exact Text.of_isWhite (P := Plain) white (by decide)

/-- White space that counts is no beginning of a scheme. -/
theorem checkWeb_cons_of_isWhite (white : Text.isWhite c = true)
    (counts : isControlOrSpace c = false) (rest : Text) :
    checkWeb (c :: rest) = .error .noScheme := by
  have kept : isIgnored c = false := by
    cases ignored : isIgnored c with
    | false => rfl
    | true =>
        have codes : (c = '\t' ∨ c = '\n') ∨ c = '\r' := by simpa [isIgnored] using ignored
        rcases codes with (rfl | rfl) | rfl <;> cases counts
  obtain ⟨more, cleaned, _⟩ := exists_clean_append_eq [c] rest
  have first : clean [c] = [c] := by simp [clean, counts, kept]
  have none : cutScheme? (c :: more) = none := by
    simp [cutScheme?, (plain_of_isControlOrSpace_or_isWhite (.inr white)).1.1]
  rw [first] at cleaned
  rw [checkWeb, scheme, ← List.singleton_append, cleaned, List.singleton_append, none]

/-- White space in front of a url is ignored or is no part of a url. -/
theorem isControlOrSpace_of_checkWeb (white : Text.IsGap front)
    (web : checkWeb (front ++ s) = .ok ()) : ∀ c ∈ front, isControlOrSpace c = true := by
  induction front with
  | nil => exact nofun
  | cons c cs ih =>
      obtain ⟨first, later⟩ := List.forall_mem_cons.1 white
      cases counts : isControlOrSpace c with
      | false =>
          rw [List.cons_append, checkWeb_cons_of_isWhite first counts] at web
          cases web
      | true =>
          have control : ∀ d ∈ [c], isControlOrSpace d = true := by simpa using counts
          rw [List.cons_append, ← List.singleton_append,
            checkWeb_congr (clean_append_of_control control _)] at web
          exact List.forall_mem_cons.2 ⟨counts, ih later web⟩

/-! ## Behind a url -/

/-- The url goes on behind its host and port. -/
def GoesOn (s : Text) : Prop :=
  ∃ name rest, cutScheme? (clean s) = some (name, rest) ∧
    ∃ c ∈ rest.dropWhile isSlash, endsAuthority true c = true

theorem cutScheme?_append (found : cutScheme? s = some (name, rest)) (t : Text) :
    cutScheme? (s ++ t) = some (name, rest ++ t) := by
  obtain ⟨c, cs, rfl, letter, inside, rfl⟩ := cutScheme?_eq_some_iff.1 found
  exact cutScheme?_eq_some_iff.2 ⟨c, cs, by simp, letter, inside, rfl⟩

/-- Of a url that goes on behind its host, it does not matter how far it goes on. -/
theorem checkWeb_append_iff (goesOn : GoesOn s) (tail : Text) :
    checkWeb (s ++ tail) = .ok () ↔ checkWeb s = .ok () := by
  obtain ⟨name, rest, found, ended⟩ := goesOn
  obtain ⟨more, cleaned, _⟩ := exists_clean_append_eq s tail
  have below : checkBelow true ((rest ++ more).dropWhile isSlash) =
      checkBelow true (rest.dropWhile isSlash) := by
    rw [List.dropWhile_append]
    split
    · rename_i none
      obtain ⟨c, member, _⟩ := ended
      rw [List.isEmpty_iff.1 none] at member
      cases member
    · exact checkBelow_append ended more
  rw [checkWeb_eq_ok_iff, checkWeb_eq_ok_iff, cleaned, cutScheme?_append found, found]
  constructor
  · rintro ⟨_, _, ⟨⟩, web, checked⟩
    rw [below] at checked
    exact ⟨name, rest, rfl, web, checked⟩
  · rintro ⟨_, _, ⟨⟩, web, checked⟩
    rw [← below] at checked
    exact ⟨name, rest ++ more, rfl, web, checked⟩

theorem checkBelow_append_of_endsNoHost (ends : EndsNoHost c)
    (inside : ∀ d ∈ s ++ [c], endsAuthority true d = false) :
    checkBelow true (s ++ [c]) ≠ .ok () := by
  have noEnd : ∀ d ∈ s ++ [c], (!endsAuthority true d) = true := by simpa using inside
  obtain ⟨isAuthority, _⟩ := Text.span_eq_iff.2 ⟨(List.append_nil (s ++ [c])).symm, noEnd, by simp⟩
  rw [checkBelow, isAuthority]
  refine checkAuthority_append ends _ _ fun member => ?_
  exact absurd (inside '\\' (List.mem_append_left _ member)) (by decide)

/-- What is not ignored throughout has a last character that counts. -/
theorem exists_last_of_counts (counted : ¬ ∀ c ∈ back, isControlOrSpace c = true) :
    ∃ front c control, back = front ++ c :: control ∧ isControlOrSpace c = false ∧
      ∀ d ∈ control, isControlOrSpace d = true := by
  have cut := Text.span_eq_iff.1 ⟨Eq.refl (back.reverse.takeWhile isControlOrSpace), rfl⟩
  generalize back.reverse.takeWhile isControlOrSpace = control at cut
  generalize back.reverse.dropWhile isControlOrSpace = kept at cut
  obtain ⟨whole, isControl, stop⟩ := cut
  cases kept with
  | nil =>
      rw [List.append_nil] at whole
      refine absurd (fun c member => isControl c ?_) counted
      rw [← whole]
      exact List.mem_reverse.2 member
  | cons c front =>
      refine ⟨front.reverse, c, control.reverse, ?_, stop c rfl, ?_⟩
      · rw [← List.reverse_reverse back, whole]
        simp
      · exact fun d member => isControl d (List.mem_reverse.1 member)

/-- White space that counts cannot stand behind a url that ends with its host. -/
theorem isControlOrSpace_of_checkWeb_append (white : Text.IsGap back) (ends : ¬ GoesOn s)
    (web : checkWeb (s ++ back) = .ok ()) : ∀ c ∈ back, isControlOrSpace c = true := by
  by_contra counted
  obtain ⟨front, c, control, rfl, counts, isControl⟩ := exists_last_of_counts counted
  obtain ⟨more, cleaned, isMore⟩ := exists_clean_append_eq s front
  obtain ⟨spaces, isSpace, behind⟩ :=
    exists_clean_append (s := s ++ front) (t := [c]) (by simpa using counts) (List.cons_ne_nil _ _)
  have same : clean (s ++ (front ++ c :: control)) = clean s ++ (more ++ spaces ++ [c]) := by
    have parts : s ++ (front ++ c :: control) = s ++ front ++ [c] ++ control := by simp
    rw [parts, clean_append_control _ isControl, behind, cleaned]
    simp
  have blank : ∀ d ∈ more ++ spaces ++ [c],
      isControlOrSpace d = true ∨ Text.isWhite d = true := by
    intro d member
    rcases List.mem_append.1 member with early | last
    · rcases List.mem_append.1 early with inMore | inSpaces
      · exact (isMore d inMore).imp_right fun inFront => white d (List.mem_append_left _ inFront)
      · exact .inl (isSpace d inSpaces)
    · rw [List.mem_singleton.1 last]
      exact .inr (white c (List.mem_append_right _ List.mem_cons_self))
  have plain := fun d member => plain_of_isControlOrSpace_or_isWhite (blank d member)
  obtain ⟨name, rest, found, _, below⟩ := checkWeb_eq_ok_iff.1 web
  rw [same] at found
  obtain ⟨short, foundShort, rfl⟩ := exists_cutScheme?_of_append
    (fun d first => (plain d (List.mem_of_mem_head? first)).1) found
  -- The rest of the url is its host and port, and ends with a character that ends neither.
  have passed : (short ++ (more ++ spaces ++ [c])).dropWhile isSlash =
      short.dropWhile isSlash ++ (more ++ spaces) ++ [c] := by
    have stay : (more ++ spaces ++ [c]).dropWhile isSlash = more ++ spaces ++ [c] :=
      (Text.span_eq_iff.2 ⟨(List.nil_append _).symm, nofun,
        fun d first => (plain d (List.mem_of_mem_head? first)).2.2⟩).2
    rw [List.dropWhile_append, stay]
    split
    · rename_i none
      rw [List.isEmpty_iff.1 none, List.nil_append]
    · simp only [List.append_assoc]
  rw [passed] at below
  refine checkBelow_append_of_endsNoHost ?_ ?_ below
  · exact endsNoHost_of_isWhite (white c (List.mem_append_right _ List.mem_cons_self))
  · intro d member
    rw [List.append_assoc] at member
    rcases List.mem_append.1 member with inHost | behindHost
    · cases ended : endsAuthority true d with
      | false => rfl
      | true => exact absurd ⟨name, short, foundShort, d, inHost, ended⟩ ends
    · exact (plain d behindHost).2.1

/-! ## The whole url -/

/-- There may be white space around a url, and the text is accepted. In front, white space has to be
such as is ignored. Behind, it may be any, if the url has gone on behind its host before, or else
has to be ignored as well. -/
inductive IsSetOff (value : Text) : Prop
  | ignored {front back : Text} (text : value = front ++ Text.trim value ++ back)
      (before : ∀ c ∈ front, isControlOrSpace c = true)
      (behind : ∀ c ∈ back, isControlOrSpace c = true)
      (isWeb : checkWeb (Text.trim value) = .ok ())
  | behindHost {front back : Text} (text : value = front ++ Text.trim value ++ back)
      (before : ∀ c ∈ front, isControlOrSpace c = true) (goesOn : GoesOn (Text.trim value))
      (isWeb : checkWeb (Text.trim value) = .ok ())

theorem checkWeb_eq_ok_iff_isSetOff (value : Text) :
    checkWeb value = .ok () ↔ IsSetOff value := by
  constructor
  · intro web
    obtain ⟨front, back, text, white, behind⟩ := Text.exists_gaps value
    have before : ∀ c ∈ front, isControlOrSpace c = true := by
      rw [text, List.append_assoc] at web
      exact isControlOrSpace_of_checkWeb white web
    rw [text, List.append_assoc, checkWeb_congr (clean_append_of_control before _)] at web
    by_cases goesOn : GoesOn (Text.trim value)
    · exact .behindHost text before goesOn ((checkWeb_append_iff goesOn back).1 web)
    · have isControl := isControlOrSpace_of_checkWeb_append behind goesOn web
      rw [checkWeb_congr (clean_append_control _ isControl)] at web
      exact .ignored text before isControl web
  · intro setOff
    cases setOff with
    | ignored text before behind isWeb =>
        rw [text, List.append_assoc, checkWeb_congr (clean_append_of_control before _),
          checkWeb_congr (clean_append_control _ behind)]
        exact isWeb
    | behindHost text before goesOn isWeb =>
        rw [text, List.append_assoc, checkWeb_congr (clean_append_of_control before _),
          checkWeb_append_iff goesOn]
        exact isWeb

end Url
end ReleaseLog
