import ReleaseLog.Proofs.Text.Span
import ReleaseLog.Proofs.Url.Host

/-!
# Urls without the slashes at their end

A url of the web stays one when the slashes at its end are cut off. What comes to stand at the end
instead may be spaces and control characters, which the slashes had kept from being ignored. Then
they did not belong to the host, since no host ends with one.
-/

namespace ReleaseLog
namespace Url

variable {s t slashes name rest : Text}

/-- A host that may be followed by a path may also stand alone. -/
theorem checkAuthority_of_followed (h : checkAuthority true true s = .ok ()) (followed : Bool) :
    checkAuthority true followed s = .ok () := by
  cases followed with
  | true => exact h
  | false =>
      rw [checkAuthority] at h ⊢
      generalize cutCredentials s = cut at h ⊢
      obtain ⟨credentials, place⟩ := cut
      simp only [Bool.and_false, Bool.false_eq_true, if_false] at h ⊢
      split at h
      · cases h
      · exact h

/-- A host is read up to the first character that can end it. -/
theorem checkBelow_append (ended : ∃ c ∈ s, endsAuthority true c = true) (t : Text) :
    checkBelow true (s ++ t) = checkBelow true s := by
  have cut := Text.span_eq_iff.1
    ⟨Eq.refl (s.takeWhile (!endsAuthority true ·)), Eq.refl (s.dropWhile (!endsAuthority true ·))⟩
  generalize s.takeWhile (!endsAuthority true ·) = authority at cut
  generalize s.dropWhile (!endsAuthority true ·) = path at cut
  obtain ⟨rfl, inside, stop⟩ := cut
  cases path with
  | nil =>
      obtain ⟨c, member, ends⟩ := ended
      rw [List.append_nil] at member
      have other := inside c member
      rw [ends] at other
      cases other
  | cons d path =>
      have longer : authority ++ d :: path ++ t = authority ++ d :: (path ++ t) := by simp
      obtain ⟨isAuthority, isPath⟩ := Text.span_append inside stop
      have longerStop : ∀ e ∈ (d :: (path ++ t)).head?, (!endsAuthority true e) = false := stop
      obtain ⟨sameAuthority, longerPath⟩ := Text.span_append inside longerStop
      rw [checkBelow, checkBelow, longer, sameAuthority, longerPath, isAuthority, isPath]
      rfl

theorem checkBelow_of_append {spaces : Text} (isSpace : ∀ c ∈ spaces, isControlOrSpace c = true)
    (h : checkBelow true (s ++ (spaces ++ '/' :: slashes)) = .ok ()) :
    checkBelow true s = .ok () := by
  by_cases ended : ∃ c ∈ s, endsAuthority true c = true
  · rwa [checkBelow_append ended] at h
  have inside : ∀ c ∈ s, (!endsAuthority true c) = true := by simpa using ended
  have noEnd : ∀ c ∈ s ++ spaces, (!endsAuthority true c) = true := by
    intro c member
    rcases List.mem_append.1 member with before | behind
    · exact inside c before
    · exact Domain.of_isControlOrSpace (P := fun c => (!endsAuthority true c) = true)
        (isSpace c behind) (by decide)
  have ends : ∀ c ∈ ('/' :: slashes).head?, (!endsAuthority true c) = false := by
    rintro _ ⟨⟩
    rfl
  obtain ⟨longAuthority, longPath⟩ := Text.span_append noEnd ends
  obtain ⟨isAuthority, _⟩ := Text.span_eq_iff.2 ⟨(List.append_nil s).symm, inside, by simp⟩
  rw [← List.append_assoc, checkBelow, longAuthority, longPath] at h
  rw [checkBelow, isAuthority]
  -- The authority reached up to the slash. With spaces at its end it would have been refused.
  rcases List.eq_nil_or_concat spaces with rfl | ⟨front, c, rfl⟩
  · rw [List.append_nil] at h
    exact checkAuthority_of_followed h _
  · rw [List.concat_eq_append, ← List.append_assoc] at h noEnd
    have space := isSpace c (by simp)
    refine absurd h (checkAuthority_append (endsNoHost_of_isControlOrSpace space) _ _ ?_)
    intro member
    exact absurd (noEnd '\\' (List.mem_append_left _ member)) (by decide)

theorem cutScheme?_eq_some_iff :
    cutScheme? s = some (name, rest) ↔
      ∃ c cs, s = c :: cs ++ ':' :: rest ∧ c.isAlpha = true ∧
        (∀ d ∈ c :: cs, isSchemeChar d = true) ∧ name = (c :: cs).map Char.toLower := by
  constructor
  · intro found
    unfold cutScheme? at found
    split at found
    · rename_i c cs rest isScheme colon
      split at found
      · rename_i letter
        cases found
        obtain ⟨text, inside, _⟩ := Text.span_eq_iff.1 ⟨isScheme, colon⟩
        exact ⟨c, cs, text, letter, inside, rfl⟩
      · cases found
    · cases found
  · rintro ⟨c, cs, rfl, letter, inside, rfl⟩
    have stop : ∀ d ∈ (':' :: rest).head?, isSchemeChar d = false := by
      rintro _ ⟨⟩
      rfl
    obtain ⟨isScheme, colon⟩ := Text.span_append inside stop
    simp only [cutScheme?, isScheme, colon, letter, if_true]

theorem exists_cutScheme?_of_append (head : ∀ d ∈ t.head?, isSchemeChar d = false ∧ d ≠ ':')
    (found : cutScheme? (s ++ t) = some (name, rest)) :
    ∃ short, cutScheme? s = some (name, short) ∧ rest = short ++ t := by
  obtain ⟨c, cs, text, letter, inside, rfl⟩ := cutScheme?_eq_some_iff.1 found
  rcases List.append_eq_append_iff.1 text with ⟨more, scheme, behind⟩ | ⟨more, front, behind⟩
  · exfalso
    cases more with
    | nil =>
        subst behind
        exact (head ':' rfl).2 rfl
    | cons d more =>
        subst behind
        have member : d ∈ c :: cs := by
          rw [scheme]
          simp
        have other := (head d rfl).1
        rw [inside d member] at other
        cases other
  · cases more with
    | nil =>
        rw [List.nil_append] at behind
        subst behind
        exact absurd rfl (head ':' rfl).2
    | cons d more =>
        obtain ⟨rfl, rfl⟩ := List.cons.inj behind
        exact ⟨more, cutScheme?_eq_some_iff.2 ⟨c, cs, front, letter, inside, rfl⟩, rfl⟩

/-- Characters at the end that count keep what stands in front of them from being ignored. -/
theorem exists_clean_append (counts : ∀ c ∈ t, isControlOrSpace c = false) (nonempty : t ≠ []) :
    ∃ spaces, (∀ c ∈ spaces, isControlOrSpace c = true) ∧
      clean (s ++ t) = clean s ++ (spaces ++ t) := by
  have kept : t.filter (!isIgnored ·) = t := by
    apply List.filter_eq_self.2
    intro c member
    cases ignored : isIgnored c with
    | false => rfl
    | true =>
        have counted := counts c member
        have codes : (c = '\t' ∨ c = '\n') ∨ c = '\r' := by simpa [isIgnored] using ignored
        rcases codes with (rfl | rfl) | rfl <;> cases counted
  have starts : ∀ {row : Text}, (∀ c ∈ row, isControlOrSpace c = false) →
      row.dropWhile isControlOrSpace = row := by
    intro row counted
    cases row with
    | nil => rfl
    | cons c cs => simp [counted c List.mem_cons_self]
  have front : (s ++ t).dropWhile isControlOrSpace = s.dropWhile isControlOrSpace ++ t := by
    rw [List.dropWhile_append, starts counts]
    split
    · rename_i none
      rw [List.isEmpty_iff.1 none, List.nil_append]
    · rfl
  unfold clean
  rw [front]
  generalize s.dropWhile isControlOrSpace = inner
  have back : (inner ++ t).reverse.dropWhile isControlOrSpace = (inner ++ t).reverse := by
    obtain ⟨c, cs, reversed⟩ := List.exists_cons_of_ne_nil (mt List.reverse_eq_nil_iff.1 nonempty)
    have member : c ∈ t.reverse := by
      rw [reversed]
      exact List.mem_cons_self
    have counted := counts c (List.mem_reverse.1 member)
    rw [List.reverse_append, reversed]
    simp [counted]
  have ends := Text.span_eq_iff.1
    ⟨Eq.refl (inner.reverse.takeWhile isControlOrSpace), rfl⟩
  generalize inner.reverse.takeWhile isControlOrSpace = spaces at ends
  obtain ⟨text, isSpace, _⟩ := ends
  refine ⟨spaces.reverse.filter (!isIgnored ·), ?_, ?_⟩
  · intro c member
    exact isSpace c (List.mem_reverse.1 (List.mem_filter.1 member).1)
  · have whole : inner = (inner.reverse.dropWhile isControlOrSpace).reverse ++ spaces.reverse := by
      rw [← List.reverse_append, ← text, List.reverse_reverse]
    rw [back, List.reverse_reverse, List.filter_append, kept, ← List.append_assoc,
      ← List.filter_append, ← whole]

theorem scheme_eq_ok_iff :
    scheme s = .ok name ↔
      ∃ rest, cutScheme? (clean s) = some (name, rest) ∧ checkRest name rest = .ok () := by
  unfold scheme
  cases cutScheme? (clean s) with
  | none => simp
  | some cut =>
      obtain ⟨found, rest⟩ := cut
      simp only [Option.some.injEq, Prod.mk.injEq]
      constructor
      · intro named
        split at named
        · rename_i passed
          cases named
          exact ⟨rest, ⟨rfl, rfl⟩, passed⟩
        · cases named
      · rintro ⟨_, ⟨rfl, rfl⟩, passed⟩
        rw [passed]

theorem checkRest_of_isSpecial (special : isSpecial name = true) :
    checkRest name rest = checkBelow true (rest.dropWhile isSlash) := by
  unfold checkRest
  rw [if_pos special]

/-- Of a url of the web, nothing is checked behind its host and port. -/
theorem checkWeb_eq_ok_iff :
    checkWeb s = .ok () ↔ ∃ name rest, cutScheme? (clean s) = some (name, rest) ∧
      (name = "http".toList ∨ name = "https".toList) ∧
        checkBelow true (rest.dropWhile isSlash) = .ok () := by
  have isWeb : checkWeb s = .ok () ↔
      ∃ name, scheme s = .ok name ∧ (name = "http".toList ∨ name = "https".toList) := by
    unfold checkWeb
    cases scheme s with
    | error => simp
    | ok => simp [Decidable.or_iff_not_imp_left]
  have special : ∀ {name}, name = "http".toList ∨ name = "https".toList →
      isSpecial name = true := by
    rintro _ (rfl | rfl) <;> decide
  rw [isWeb]
  constructor
  · rintro ⟨name, named, web⟩
    obtain ⟨rest, found, checked⟩ := scheme_eq_ok_iff.1 named
    rw [checkRest_of_isSpecial (special web)] at checked
    exact ⟨name, rest, found, web, checked⟩
  · rintro ⟨name, rest, found, web, checked⟩
    rw [← checkRest_of_isSpecial (special web)] at checked
    exact ⟨name, scheme_eq_ok_iff.2 ⟨rest, found, checked⟩, web⟩

/-- The slashes in front of a host are passed over. If there is nothing else, so are those behind
them. -/
theorem checkBelow_dropWhile_of_append {spaces : Text}
    (isSpace : ∀ c ∈ spaces, isControlOrSpace c = true)
    (isSlashes : ∀ c ∈ '/' :: slashes, c = '/')
    (h : checkBelow true ((s ++ (spaces ++ '/' :: slashes)).dropWhile isSlash) = .ok ()) :
    checkBelow true (s.dropWhile isSlash) = .ok () := by
  rw [List.dropWhile_append] at h
  split at h
  · rename_i none
    rw [List.isEmpty_iff.1 none]
    cases spaces with
    | nil =>
        have passed : ('/' :: slashes).dropWhile isSlash = [] := by
          refine (Text.span_eq_iff.2 ⟨(List.append_nil _).symm, ?_, by simp⟩).2
          intro c member
          rw [isSlashes c member]
          rfl
        rwa [List.nil_append, passed] at h
    | cons d spaces =>
        have noSlash : isSlash d = false :=
          Domain.of_isControlOrSpace (P := fun d => isSlash d = false)
            (isSpace d List.mem_cons_self) (by decide)
        rw [List.cons_append, List.dropWhile_cons_of_neg (by simp [noSlash]), ← List.cons_append,
          ← List.nil_append (d :: spaces ++ '/' :: slashes)] at h
        exact checkBelow_of_append isSpace h
  · exact checkBelow_of_append isSpace h

/-- A url of the web stays one without slashes at its end. -/
theorem checkWeb_of_append (isSlashes : ∀ c ∈ slashes, c = '/')
    (h : checkWeb (s ++ slashes) = .ok ()) : checkWeb s = .ok () := by
  cases slashes with
  | nil => rwa [List.append_nil] at h
  | cons c slashes =>
      have counts : ∀ d ∈ c :: slashes, isControlOrSpace d = false := by
        intro d member
        rw [isSlashes d member]
        rfl
      obtain ⟨spaces, isSpace, cleaned⟩ :=
        exists_clean_append (s := s) counts (List.cons_ne_nil _ _)
      obtain rfl := isSlashes c List.mem_cons_self
      obtain ⟨name, rest, found, web, below⟩ := checkWeb_eq_ok_iff.1 h
      rw [cleaned] at found
      have head : ∀ d ∈ (spaces ++ '/' :: slashes).head?, isSchemeChar d = false ∧ d ≠ ':' := by
        cases spaces with
        | nil =>
            rintro _ ⟨⟩
            exact ⟨rfl, by decide⟩
        | cons d spaces =>
            rintro _ ⟨⟩
            exact Domain.of_isControlOrSpace (P := fun d => isSchemeChar d = false ∧ d ≠ ':')
              (isSpace d List.mem_cons_self) (by decide)
      obtain ⟨short, foundShort, rfl⟩ := exists_cutScheme?_of_append head found
      exact checkWeb_eq_ok_iff.2
        ⟨name, short, foundShort, web, checkBelow_dropWhile_of_append isSpace isSlashes below⟩

end Url
end ReleaseLog
