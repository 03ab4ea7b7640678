import GalleryNaming.Proofs.Outsiders

/-!
# Names and their parts

The report on a name that is put together from two non-empty parts follows from
the reports on the parts and from how long they are.  The lengths are added
before they are measured against the maximum, so two short parts may make a long
name.  The outsider is that of the first part, or else that of the second part
at a position that counts the first part in.

No part is worse than the whole: whatever is wrong with a part is wrong with
every name that contains it.  The empty part is the exception, since it is
rejected and every name contains it.
-/

namespace GalleryNaming

/-- What the violation becomes when the name is put behind so many characters. -/
def Violation.movedBy (count : Nat) : Violation → Violation
  | .invalidCharacter label character position allowed =>
      .invalidCharacter label character (position + count) allowed
  | violation => violation

namespace Alphabet

theorem firstOutside_append (alphabet : Alphabet) (cs ds : List Char) :
    alphabet.firstOutside (cs ++ ds) =
      (alphabet.firstOutside cs).or
        ((alphabet.firstOutside ds).map fun found => (found.1, found.2 + cs.length)) := by
  rw [← head?_outsiders, outsiders_append, List.head?_append, List.head?_map,
    head?_outsiders, head?_outsiders]

theorem characterViolations_append (alphabet : Alphabet) (label left right : String) :
    NameRule.characterViolations alphabet label (left ++ right) =
      if NameRule.characterViolations alphabet label left = [] then
        (NameRule.characterViolations alphabet label right).map
          (Violation.movedBy left.length)
      else NameRule.characterViolations alphabet label left := by
  unfold NameRule.characterViolations
  rw [String.toList_append, firstOutside_append, String.length_toList]
  cases alphabet.firstOutside left.toList with
  | some found => rfl
  | none =>
      rw [Option.none_or, if_pos rfl]
      cases alphabet.firstOutside right.toList with
      | none => rfl
      | some found => rfl

theorem isValid_report_of_append {alphabet : Alphabet} {label before part after : String}
    (hpart : part ≠ "")
    (hwhole : (alphabet.report label (before ++ part ++ after)).isValid = true) :
    (alphabet.report label part).isValid = true := by
  rw [isValid_report_iff] at hwhole ⊢
  obtain ⟨_, hlength, houtsiders⟩ := hwhole
  have hshorter : part.length ≤ (before ++ part ++ after).length := by
    rw [String.length_append, String.length_append]
    omega
  rw [outsiders_eq_nil_iff] at houtsiders ⊢
  refine ⟨hpart, hshorter.trans hlength, ?_⟩
  intro c hc
  apply houtsiders
  rw [String.toList_append, String.toList_append, List.mem_append, List.mem_append]
  exact .inl (.inr hc)

/-- The report on a name in two parts, at least one of which has characters, and
what it means for longer names and for shorter ones. -/
theorem report_append (alphabet : Alphabet) (label : String) :
    (∀ left right : String, left ≠ "" ∨ right ≠ "" →
      let first := alphabet.report label left
      let second := alphabet.report label right
      let whole := alphabet.report label (left ++ right)
      whole.violations = whole.ofKind .tooLong ++ whole.ofKind .invalidCharacter ∧
      whole.ofKind .tooLong =
        (if 79 < left.length + right.length then
          [.tooLong label 79 (left.length + right.length)]
        else []) ∧
      whole.ofKind .invalidCharacter =
        (if first.ofKind .invalidCharacter = [] then
          (second.ofKind .invalidCharacter).map (Violation.movedBy left.length)
        else first.ofKind .invalidCharacter)) ∧
    (∀ before part after : String, part ≠ "" →
      (alphabet.report label part).isValid = false →
        (alphabet.report label (before ++ part ++ after)).isValid = false) ∧
    ∀ before part after : String, part ≠ "" →
      (alphabet.report label (before ++ part ++ after)).isValid = true →
        (alphabet.report label part).isValid = true := by
  refine ⟨?_, ?_, ?_⟩
  · intro left right hparts first second whole
    have hnonempty : (left ++ right).length ≠ 0 := by
      rw [ne_eq, String.length_eq_zero_iff, String.append_eq_empty_iff, not_and_or]
      exact hparts
    have hlong := alphabet.ofKind_report label (left ++ right) .tooLong
    have houtside := alphabet.ofKind_report label (left ++ right) .invalidCharacter
    have hfirst := alphabet.ofKind_report label left .invalidCharacter
    have hsecond := alphabet.ofKind_report label right .invalidCharacter
    refine ⟨?_, ?_, ?_⟩
    · rw [hlong, houtside, violations_report, if_neg hnonempty, List.nil_append]
    · rw [hlong, String.length_append]
      rfl
    · rw [houtside, hfirst, hsecond]
      exact alphabet.characterViolations_append label left right
  · intro before part after hpart hrejected
    by_contra hwhole
    rw [Bool.not_eq_false] at hwhole
    rw [isValid_report_of_append hpart hwhole] at hrejected
    contradiction
  · intro before part after hpart hwhole
    exact isValid_report_of_append hpart hwhole

-- The empty part is rejected, and names that contain it are not.
example :
    (gallery.report "name" "").isValid = false ∧
      (gallery.report "name" ("ab" ++ "" ++ "c")).isValid = true := by
  decide

/-- A hyphen in the second part of a gallery name. -/
theorem report_append_hyphen_in_second_part :
    ("ab" ≠ "" ∨ "c-d" ≠ "") ∧ "c-d" ≠ "" ∧
    (gallery.report "name" ("ab" ++ "c-d")).ofKind .invalidCharacter =
      [.invalidCharacter "name" '-' 3 "letters, digits, '.' and '_'"] ∧
    (gallery.report "name" ("ab" ++ "c-d" ++ "e")).isValid = false := by
  have hparts : "ab" ≠ "" ∨ "c-d" ≠ "" := .inl (by decide)
  have hpart : "c-d" ≠ "" := by decide
  have hwhole := ((report_append .gallery "name").1 "ab" "c-d" hparts).2.2
  have hlonger := (report_append .gallery "name").2.1 "ab" "c-d" "e" hpart (by decide)
  refine ⟨hparts, hpart, ?_, hlonger⟩
  rw [hwhole]
  decide

end Alphabet

end GalleryNaming
