import GalleryNaming.Proofs.Outsiders
import Mathlib.Data.ENat.Lattice

/-!
# Hyphens in names

The alphabets of galleries and images differ by one character, the hyphen.  So
do the reports.  The outsider of a gallery name is its first hyphen or else what
is the outsider of the same image name, whichever comes first.  Positions are
compared as extended numbers, in which what does not occur is infinitely far
away.
-/

namespace GalleryNaming

/-- A position in a text, infinite where nothing was found. -/
def extendedPosition (position : Option Nat) : ℕ∞ :=
  position.elim ⊤ fun index => index

@[simp] theorem extendedPosition_none : extendedPosition none = ⊤ := rfl

@[simp] theorem extendedPosition_some (index : Nat) :
    extendedPosition (some index) = index := rfl

theorem extendedPosition_map_succ_lt_iff (position other : Option Nat) :
    extendedPosition (position.map (· + 1)) < extendedPosition (other.map (· + 1)) ↔
      extendedPosition position < extendedPosition other := by
  cases position with
  | none => simp
  | some index =>
      cases other with
      | none => simp
      | some otherIndex =>
          simp only [Option.map_some, extendedPosition_some, Nat.cast_lt]
          omega

theorem extendedPosition_map_succ_pos (position : Option Nat) :
    0 < extendedPosition (position.map (· + 1)) := by
  cases position with
  | none => simp
  | some index => simp

/-- Where the report shows an outsider. -/
def Report.position (report : Report) : ℕ∞ :=
  extendedPosition (report.outsider?.map Prod.snd)

/-- Where the name has its first hyphen. -/
def hyphenPosition (value : String) : ℕ∞ :=
  extendedPosition (value.toList.idxOf? '-')

namespace Alphabet

theorem gallery_contains_iff (c : Char) :
    gallery.Contains c ↔ image.Contains c ∧ c ≠ '-' := by
  have hhyphen : ¬ gallery.Contains '-' := by decide
  constructor
  · intro hc
    have hne : c ≠ '-' := by
      intro heq
      rw [heq] at hc
      exact hhyphen hc
    unfold Contains at hc ⊢
    tauto
  · intro hc
    unfold Contains at hc ⊢
    tauto

/-- The first outsider of a gallery name.  A character that is an outsider of both or
a hyphen is the first of its kind.  Any other is passed over by all three searches. -/
theorem head?_outsiders_gallery (cs : List Char) :
    (gallery.outsiders cs).head? =
      if extendedPosition (cs.idxOf? '-') <
          extendedPosition ((image.outsiders cs).head?.map Prod.snd) then
        (cs.idxOf? '-').map fun index => ('-', index)
      else (image.outsiders cs).head? := by
  induction cs with
  | nil => rfl
  | cons c cs ih =>
      have hposition :
          ((image.outsiders cs).head?.map fun found => (found.1, found.2 + 1)).map Prod.snd =
            ((image.outsiders cs).head?.map Prod.snd).map (· + 1) := by
        rw [Option.map_map, Option.map_map]
        rfl
      by_cases himage : image.Contains c
      · by_cases hhyphen : c = '-'
        · subst c
          have hgallery : ¬ gallery.Contains '-' := by decide
          have hpositive :=
            extendedPosition_map_succ_pos ((image.outsiders cs).head?.map Prod.snd)
          rw [outsiders_cons_of_not_contains hgallery, outsiders_cons_of_contains himage,
            List.idxOf?_cons, if_pos (beq_self_eq_true '-'), List.head?_map, hposition,
            extendedPosition_some, Nat.cast_zero, if_pos hpositive]
          rfl
        · have hgallery : gallery.Contains c := (gallery_contains_iff c).mpr ⟨himage, hhyphen⟩
          have hne : ¬ (c == '-') = true := by
            rw [beq_iff_eq]
            exact hhyphen
          rw [outsiders_cons_of_contains hgallery, outsiders_cons_of_contains himage,
            List.idxOf?_cons, if_neg hne, List.head?_map, List.head?_map, hposition, ih]
          simp only [extendedPosition_map_succ_lt_iff]
          split
          next hfirst =>
            rw [Option.map_map, Option.map_map]
            rfl
          next hfirst => rfl
      · have hgallery : ¬ gallery.Contains c := by
          rw [gallery_contains_iff]
          exact fun hc => himage hc.1
        rw [outsiders_cons_of_not_contains hgallery, outsiders_cons_of_not_contains himage]
        simp

theorem outsiders_gallery_eq_nil_iff (cs : List Char) :
    gallery.outsiders cs = [] ↔ image.outsiders cs = [] ∧ '-' ∉ cs := by
  simp only [outsiders_eq_nil_iff, gallery_contains_iff]
  constructor
  · intro hcontains
    refine ⟨fun c hc => (hcontains c hc).1, ?_⟩
    intro hhyphen
    exact (hcontains '-' hhyphen).2 rfl
  · intro hcontains c hc
    refine ⟨hcontains.1 c hc, ?_⟩
    intro heq
    rw [heq] at hc
    exact hcontains.2 hc

/-- The reports on one name as the name of a gallery and as that of an image. -/
theorem reports_differ_by_hyphens (label value : String) :
    let ofGallery := gallery.report label value
    let ofImage := image.report label value
    ofGallery.ofKind .emptyValue = ofImage.ofKind .emptyValue ∧
    ofGallery.ofKind .tooLong = ofImage.ofKind .tooLong ∧
    ofGallery.position = min ofImage.position (hyphenPosition value) ∧
    ofGallery.outsider?.map Prod.fst =
      (if hyphenPosition value < ofImage.position then some '-'
      else ofImage.outsider?.map Prod.fst) ∧
    (ofGallery.outsider? = none ↔ ofImage.outsider? = none ∧ '-' ∉ value.toList) ∧
    (ofGallery.isValid = true ↔ ofImage.isValid = true ∧ '-' ∉ value.toList) := by
  intro ofGallery ofImage
  have hfirst : ofGallery.outsider? =
      if hyphenPosition value < ofImage.position then
        (value.toList.idxOf? '-').map fun index => ('-', index)
      else ofImage.outsider? := by
    unfold ofGallery ofImage hyphenPosition Report.position
    rw [outsider?_report, outsider?_report]
    exact head?_outsiders_gallery value.toList
  refine ⟨?_, ?_, ?_, ?_, ?_, ?_⟩
  · exact (gallery.ofKind_report label value .emptyValue).trans
      (image.ofKind_report label value .emptyValue).symm
  · exact (gallery.ofKind_report label value .tooLong).trans
      (image.ofKind_report label value .tooLong).symm
  · rw [Report.position, hfirst]
    by_cases hhyphen : hyphenPosition value < ofImage.position
    · rw [if_pos hhyphen, min_eq_right hhyphen.le, Option.map_map, hyphenPosition]
      exact congrArg extendedPosition Option.map_id'
    · rw [if_neg hhyphen, min_eq_left (not_lt.mp hhyphen), Report.position]
  · rw [hfirst]
    by_cases hhyphen : hyphenPosition value < ofImage.position
    · rw [if_pos hhyphen, if_pos hhyphen]
      cases hindex : value.toList.idxOf? '-' with
      | some index => rfl
      | none =>
          rw [hyphenPosition, hindex] at hhyphen
          exact absurd hhyphen not_top_lt
    · rw [if_neg hhyphen, if_neg hhyphen]
  · unfold ofGallery ofImage
    rw [outsider?_report, outsider?_report, List.head?_eq_none_iff, List.head?_eq_none_iff,
      outsiders_gallery_eq_nil_iff]
  · unfold ofGallery ofImage
    rw [isValid_report_iff, isValid_report_iff, outsiders_gallery_eq_nil_iff, and_assoc,
      and_assoc]

end Alphabet

end GalleryNaming
