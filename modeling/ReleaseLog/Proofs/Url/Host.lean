import ReleaseLog.Proofs.Text.Span
import ReleaseLog.Proofs.Text.Utf8
import ReleaseLog.Proofs.Url.Domain

/-!
# Hosts that end with a space

No host ends with a space or a control character, and no port does. Which form the host has does not
matter: an address in brackets ends with its bracket, and percent-encoding leaves the last
character as it is, so a name comes to its check with it. All that matters about the character is
said by `EndsNoHost`.
-/

namespace ReleaseLog

variable {c : Char} {s t : Text}

namespace Percent

theorem bytes_append (noDigit : Text.hexDigit? c = none) :
    bytes (s ++ [c]) = bytes s ++ String.utf8EncodeChar c := by
  fun_induction bytes s with
  | case1 => simp [bytes]
  | case2 high low s h l isHigh isLow ih => simp [bytes, isHigh, isLow, ih]
  | case3 high low s noByte ih =>
      rw [List.cons_append, List.cons_append, List.cons_append, bytes]
      split
      · rename_i h l isHigh isLow
        exact absurd isLow (noByte h l isHigh)
      · rw [List.cons_append, ← ih]
        rfl
  | case4 d s short ih =>
      -- A mark with too few characters behind it gets one more, which is no digit.
      by_cases mark : d = '%'
      · subst mark
        rcases s with _ | ⟨high, _ | ⟨low, s⟩⟩
        · simp [bytes]
        · simp only [List.cons_append, List.nil_append] at ih ⊢
          rw [bytes, noDigit]
          split
          · rename_i low
            cases low
          · rw [ih]
            rfl
        · exact absurd rfl (short high low s rfl)
      · rw [List.cons_append, bytes, ih, List.append_assoc]
        intro high low rest same
        exact absurd same mark

/-- What a text stands for keeps such a character at its end. -/
theorem exists_of_decode?_append (noDigit : Text.hexDigit? c = none)
    (h : decode? (s ++ [c]) = some t) : ∃ front, t = front ++ [c] := by
  unfold decode? at h
  split at h
  · rw [bytes_append noDigit] at h
    exact Text.exists_append_of_toUtf8_eq (Text.ofUtf8?_eq_some_iff.1 h)
  · exact ⟨s, (Option.some.inj h).symm⟩

end Percent

namespace Url

theorem cutCredentials_append (noMark : c ≠ '@') (s : Text) :
    ∃ credentials place, cutCredentials (s ++ [c]) = (credentials, place ++ [c]) ∧
      place ⊆ s := by
  unfold cutCredentials
  split
  · refine ⟨_, (s.reverse.takeWhile (· != '@')).reverse, Prod.ext rfl ?_, ?_⟩
    · simp [noMark]
    · intro d member
      exact List.mem_reverse.1 ((List.takeWhile_prefix _).subset (List.mem_reverse.1 member))
  · exact ⟨none, s, rfl, List.Subset.refl s⟩

/-- A host and what follows it, which begins with a colon. -/
theorem cutHost_cases (inside : Bool) (s : Text) :
    ∃ host port, cutHost inside s = (host, port) ∧ host ++ port = s ∧
      (port = [] ∨ ∃ number, port = ':' :: number) := by
  induction s generalizing inside with
  | nil => exact ⟨[], [], rfl, rfl, .inl rfl⟩
  | cons d ds ih =>
      unfold cutHost
      split
      · rename_i colon
        have first : d = ':' := by
          simp only [Bool.and_eq_true, beq_iff_eq] at colon
          exact colon.1
        exact ⟨[], d :: ds, rfl, rfl, .inr ⟨ds, by rw [first]⟩⟩
      · obtain ⟨host, port, cut, whole, begins⟩ := ih (d == '[' || (inside && d != ']'))
        rw [cut]
        exact ⟨d :: host, port, rfl, by rw [List.cons_append, whole], begins⟩

theorem checkBrackets_append (noBracket : c ≠ ']') (address : Text) :
    checkBrackets (address ++ [c]) = .error .invalidIpv6 := by
  unfold checkBrackets
  rw [List.reverse_append]
  split
  · rename_i closed
    exact absurd (List.cons.inj closed).1 noBracket
  · rfl

theorem checkSpecial_eq_ok_iff {host port : Text} :
    checkSpecial host port = .ok () ↔
      host ≠ [] ∧ checkHost host = .ok () ∧ checkPort port = .ok () := by
  cases host with
  | nil => simp [checkSpecial]
  | cons d ds =>
      cases checked : checkHost (d :: ds) <;> simp [checkSpecial, checked, bind, Except.bind]

/-- The characters that set a host and its parts apart from what stands around them. -/
def hostMarks : Text := ['[', ']', '@', ':', '\\']

/-- No name ends with the character, and it is no digit and no mark of a host. -/
structure EndsNoHost (c : Char) : Prop where
  endsNoName : Domain.EndsNoName c
  noHexDigit : Text.hexDigit? c = none
  noDigit : c.isDigit = false
  noMark : c ∉ hostMarks

theorem endsNoHost_of_isControlOrSpace (space : isControlOrSpace c = true) : EndsNoHost c where
  endsNoName := .inr ⟨c, space, Domain.mapCharacter?_of_isControlOrSpace space⟩
  noHexDigit :=
    Domain.of_isControlOrSpace (P := fun c => Text.hexDigit? c = none) space (by decide)
  noDigit := Domain.of_isControlOrSpace (P := fun c => c.isDigit = false) space (by decide)
  noMark := Domain.of_isControlOrSpace (P := fun c => c ∉ hostMarks) space (by decide)

theorem EndsNoHost.ne_mark (ends : EndsNoHost c) {mark : Char} (member : mark ∈ hostMarks) :
    c ≠ mark := by
  rintro rfl
  exact ends.noMark member

section
variable (ends : EndsNoHost c)
include ends

theorem checkHost_append (host : Text) : checkHost (host ++ [c]) ≠ .ok () := by
  unfold checkHost
  split
  · rename_i inner bracketed
    cases host with
    | nil => exact absurd (List.cons.inj bracketed).1 (ends.ne_mark (by decide))
    | cons d address =>
        have text : inner = address ++ [c] := (List.cons.inj bracketed).2.symm
        rw [text, checkBrackets_append (ends.ne_mark (by decide))]
        simp
  · cases decoded : Percent.decode? (host ++ [c]) with
    | none => simp
    | some name =>
        obtain ⟨front, rfl⟩ := Percent.exists_of_decode?_append ends.noHexDigit decoded
        simp [Domain.ofText?_append ends.endsNoName]

theorem checkPort_append (number : Text) (noBackslash : '\\' ∉ number) :
    checkPort (':' :: (number ++ [c])) ≠ .ok () := by
  have whole : ∀ d ∈ number ++ [c], (d != '\\') = true := by
    intro d member
    rcases List.mem_append.1 member with inside | last
    · have other : d ≠ '\\' := fun same => noBackslash (same ▸ inside)
      simpa using other
    · have other : c ≠ '\\' := ends.ne_mark (by decide)
      rw [List.mem_singleton.1 last]
      simpa using other
  have digits : ((':' :: (number ++ [c])).drop 1).takeWhile (· != '\\') = number ++ [c] :=
    (Text.span_eq_iff.2 ⟨(List.append_nil _).symm, whole, by simp⟩).1
  have refused : (number ++ [c]).all Char.isDigit = false := by simp [ends.noDigit]
  simp only [checkPort, digits, refused, Bool.false_and]
  simp

/-- A host does not end with such a character, nor does the port behind it. -/
theorem checkAuthority_append (followed : Bool) (authority : Text)
    (noBackslash : '\\' ∉ authority) :
    checkAuthority true followed (authority ++ [c]) ≠ .ok () := by
  obtain ⟨credentials, place, cut, inside⟩ :=
    cutCredentials_append (ends.ne_mark (by decide)) authority
  obtain ⟨host, port, hostCut, whole, begins⟩ := cutHost_cases false (place ++ [c])
  simp only [checkAuthority, cut, hostCut, if_true]
  split
  · simp
  · rw [Ne, checkSpecial_eq_ok_iff]
    rintro ⟨_, isHost, isPort⟩
    -- The last character belongs to the port, if there is one, and to the host otherwise.
    rcases begins with rfl | ⟨number, rfl⟩
    · rw [List.append_nil] at whole
      subst whole
      exact checkHost_append ends place isHost
    · rcases List.eq_nil_or_concat number with rfl | ⟨digits, d, rfl⟩
      · have colon := (List.cons.inj (List.append_inj_right' whole rfl)).1
        exact ends.ne_mark (by decide) colon.symm
      · rw [List.concat_eq_append, ← List.cons_append, ← List.append_assoc] at whole
        obtain ⟨before, last⟩ := List.append_inj' whole rfl
        obtain rfl := (List.cons.inj last).1
        have noEnd : '\\' ∉ digits := by
          intro member
          refine noBackslash (inside ?_)
          rw [← before]
          simp [member]
        rw [List.concat_eq_append] at isPort
        exact checkPort_append ends digits noEnd isPort

end

end Url
end ReleaseLog
