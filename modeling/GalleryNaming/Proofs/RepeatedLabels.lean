import Mathlib.Data.List.Basic

/-!
# Labels that are repeated without quotes

A line that says its label more than once has nothing to mark where the label
ends, so a long label could try to pass for a shorter one together with more of
the line.  The lemmas here compare two such lines by the positions of single
characters.  If the labels differ in length, then some character of the fixed
words would have to stand where those words do not have it.
-/

namespace GalleryNaming.Text

/-- What stands at a position of one part of a text. -/
theorem getElem?_eq_of_split
    {text : List Char} {i k : Nat} (before part after : List Char)
    (htext : text = before ++ part ++ after) (hk : k = before.length + i)
    (hi : i < part.length) : text[k]? = part[i]? := by
  rw [htext, hk, List.getElem?_append_left (by rw [List.length_append]; omega),
    List.getElem?_append_right (by omega), Nat.add_sub_cancel_left]

variable {mark : Char} {label other : List Char}

/-- The second copy of a label repeats what is at the beginning of the text. -/
theorem getElem?_second_copy
    {text words after : List Char} {i : Nat}
    (htext : text = label ++ mark :: words ++ label ++ after) (hi : i < label.length) :
    text[label.length + words.length + 1 + i]? = text[i]? := by
  have hfirst : text[i]? = label[i]? := by
    apply getElem?_eq_of_split [] label (mark :: words ++ label ++ after)
    · simpa using htext
    · simp
    · exact hi
  have hsecond : text[label.length + words.length + 1 + i]? = label[i]? := by
    apply getElem?_eq_of_split (label ++ mark :: words) label after htext
    · simp only [List.length_append, List.length_cons]
      omega
    · exact hi
  rw [hsecond, hfirst]

/-- A label around fixed words is never another one repeated once more.  Suppose
it is.  Where the first label ends, the fixed words begin.  If this is in the part
between, that part has their first character.  Otherwise it is in the second copy
of the other label, so the first copy has that character too, and with it the
first label at its beginning.  The second label has it then at the same distance
from its own beginning, and this is in the part between again. -/
theorem doubled_ne_tripled
    {words between : List Char} (hbetween : mark ∉ between)
    (hlong : 2 * (words.length + 1) ≤ between.length) :
    label ++ mark :: words ++ label ≠
      other ++ mark :: words ++ other ++ between ++ other := by
  intro heq
  generalize htext : label ++ mark :: words ++ label = text at heq
  have hlength : 2 * label.length = 3 * other.length + between.length := by
    have hboth := congrArg List.length (htext.trans heq)
    simp only [List.length_append, List.length_cons] at hboth
    omega
  have hpart : ∀ i < between.length,
      text[2 * other.length + words.length + 1 + i]? = between[i]? := by
    intro i hi
    apply getElem?_eq_of_split _ _ _ heq _ hi
    simp only [List.length_append, List.length_cons]
    omega
  have hmark : text[label.length]? = some mark := by
    rw [← htext]
    simp
  by_cases hend : 2 * other.length + words.length + 1 ≤ label.length
  · obtain ⟨i, hi⟩ := Nat.exists_eq_add_of_le hend
    rw [hi, hpart i (by omega)] at hmark
    exact hbetween (List.mem_of_getElem? hmark)
  · obtain ⟨i, hi⟩ := Nat.exists_eq_add_of_le
      (show other.length + words.length + 1 ≤ label.length by omega)
    have hlabel : text = label ++ mark :: words ++ label ++ [] := by
      rw [List.append_nil, htext]
    have hother : text = other ++ mark :: words ++ other ++ (between ++ other) := by
      rw [heq, List.append_assoc]
    have hdistance : 2 * other.length + words.length + 1 +
        (between.length - (words.length + 1)) =
          label.length + words.length + 1 + i := by
      omega
    have hagain : between[between.length - (words.length + 1)]? = some mark :=
      calc
        between[between.length - (words.length + 1)]? =
            text[label.length + words.length + 1 + i]? := by
              rw [← hdistance, hpart _ (by omega)]
        _ = text[i]? := getElem?_second_copy hlabel (by omega)
        _ = text[other.length + words.length + 1 + i]? :=
              (getElem?_second_copy hother (by omega)).symm
        _ = text[label.length]? := by rw [hi]
        _ = some mark := hmark
    exact hbetween (List.mem_of_getElem? hagain)

variable {separator opening tail otherTail : List Char}

theorem length_le_of_tripled (htail : mark ∉ tail)
    (heq : label ++ separator ++ label ++ (opening ++ mark :: tail) ++ label =
      other ++ separator ++ other ++ (opening ++ mark :: otherTail) ++ other) :
    other.length ≤ label.length := by
  by_contra hshort
  generalize htext : label ++ separator ++ label ++ (opening ++ mark :: tail) ++ label =
    text at heq
  have hlength : 3 * label.length + tail.length = 3 * other.length + otherTail.length := by
    have hboth := congrArg List.length (htext.trans heq)
    simp only [List.length_append, List.length_cons] at hboth
    omega
  have hmark : text[2 * other.length + separator.length + opening.length]? =
      (mark :: otherTail)[0]? := by
    apply getElem?_eq_of_split (other ++ separator ++ other ++ opening) _ other
    · simpa using heq
    · simp only [List.length_append]
      omega
    · simp
  have htailAt : text[2 * other.length + separator.length + opening.length]? =
      tail[2 * (other.length - label.length) - 1]? := by
    apply getElem?_eq_of_split (label ++ separator ++ label ++ opening ++ [mark]) tail label
    · simpa using htext.symm
    · simp only [List.length_append, List.length_singleton]
      omega
    · omega
  rw [hmark, List.getElem?_cons_zero] at htailAt
  exact htail (List.mem_of_getElem? htailAt.symm)

/-- Two labels with the same words around them and a counted part between are
told apart by the place of a character that the counted part has only once. -/
theorem eq_of_tripled (htail : mark ∉ tail) (hother : mark ∉ otherTail)
    (heq : label ++ separator ++ label ++ (opening ++ mark :: tail) ++ label =
      other ++ separator ++ other ++ (opening ++ mark :: otherTail) ++ other) :
    label = other ∧ tail = otherTail := by
  have hlength := Nat.le_antisymm (length_le_of_tripled hother heq.symm)
    (length_le_of_tripled htail heq)
  simp only [List.append_assoc] at heq
  obtain ⟨hlabel, hrest⟩ := List.append_inj heq hlength
  subst hlabel
  simp only [List.append_cancel_left_eq, List.append_cancel_right_eq,
    List.cons_append, List.cons.injEq, true_and] at hrest
  exact ⟨rfl, hrest⟩

theorem eq_of_doubled
    (heq : label ++ separator ++ label = other ++ separator ++ other) :
    label = other := by
  have hlength := congrArg List.length heq
  simp only [List.length_append] at hlength
  exact (List.append_inj' heq (by omega)).2

end GalleryNaming.Text
