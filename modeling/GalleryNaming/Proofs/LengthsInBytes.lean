import GalleryNaming.Proofs.Outsiders
import GalleryNaming.Proofs.TextReading
import GalleryNaming.Proofs.VersionGrammar
import Mathlib.Data.String.Basic

/-!
# Lengths in bytes

The length of a name is its number of characters.  Measured in bytes of UTF-8
most texts are longer, but no accepted name is: the alphabets and the grammar of
versions have characters of one byte only.  A rule that measures names in bytes
therefore accepts the same names, and it reports the same unless the name has an
outsider.
-/

namespace GalleryNaming

/-! ## Characters of one byte -/

theorem length_le_utf8Len (cs : List Char) : cs.length ≤ String.utf8Len cs := by
  induction cs with
  | nil => simp
  | cons c cs ih =>
      have hpositive : 0 < c.utf8Size := c.utf8Size_pos
      rw [List.length_cons, String.utf8Len_cons]
      omega

theorem utf8Len_eq_length_iff (cs : List Char) :
    String.utf8Len cs = cs.length ↔ ∀ c ∈ cs, c.utf8Size = 1 := by
  induction cs with
  | nil => simp
  | cons c cs ih =>
      have hpositive : 0 < c.utf8Size := c.utf8Size_pos
      have hlength : cs.length ≤ String.utf8Len cs := length_le_utf8Len cs
      rw [List.length_cons, String.utf8Len_cons, List.forall_mem_cons, ← ih]
      omega

theorem utf8ByteSize_eq_length_iff (value : String) :
    value.utf8ByteSize = value.length ↔ ∀ c ∈ value.toList, c.utf8Size = 1 := by
  have hbytes : value.utf8ByteSize = String.utf8Len value.toList := by
    rw [← String.utf8ByteSize_ofList, String.ofList_toList]
  rw [hbytes, ← String.length_toList, utf8Len_eq_length_iff]

theorem utf8Size_eq_one_of_le {c last : Char} (hc : c ≤ last) (hlast : last ≤ '\x7f') :
    c.utf8Size = 1 :=
  Char.utf8Size_eq_one_iff.mpr (Char.le_trans hc hlast)

theorem Alphabet.Contains.utf8Size_eq_one {alphabet : Alphabet} {c : Char}
    (hc : alphabet.Contains c) : c.utf8Size = 1 := by
  rcases hc with hlower | hupper | hdigit | hdot | hunderscore | hhyphen
  · exact utf8Size_eq_one_of_le hlower.2 (by decide)
  · exact utf8Size_eq_one_of_le hupper.2 (by decide)
  · exact utf8Size_eq_one_of_le hdigit.2 (by decide)
  · rw [hdot]
    decide
  · rw [hunderscore]
    decide
  · rw [hhyphen.2]
    decide

theorem Alphabet.utf8ByteSize_eq_length {alphabet : Alphabet} {value : String}
    (hnone : alphabet.outsiders value.toList = []) :
    value.utf8ByteSize = value.length := by
  rw [outsiders_eq_nil_iff] at hnone
  rw [utf8ByteSize_eq_length_iff]
  intro c hc
  exact (hnone c hc).utf8Size_eq_one

theorem VersionRule.IsVersion.utf8ByteSize_eq_length {value : String}
    (hversion : IsVersion value) : value.utf8ByteSize = value.length := by
  obtain ⟨pieces, _, hpieces, hvalue⟩ := (isVersion_iff_intercalate value).mp hversion
  rw [utf8ByteSize_eq_length_iff]
  intro c hc
  rw [hvalue] at hc
  rcases Text.mem_intercalate hc with hdot | ⟨piece, hpiece, hdigit⟩
  · rw [List.mem_singleton.mp hdot]
    decide
  · exact utf8Size_eq_one_of_le ((hpieces piece hpiece).2 c hdigit).2 (by decide)

/-! ## Rules that measure bytes -/

namespace NameRule

/-- The rule with lengths measured in bytes of UTF-8. -/
def inBytes (rule : NameRule) : NameRule :=
  { rule with measure := String.utf8ByteSize }

theorem inBytes_measure_eq_zero_iff (rule : NameRule) (value : String) :
    rule.inBytes.measure value = 0 ↔ value.length = 0 := by
  rw [String.length_eq_zero_iff]
  exact String.utf8ByteSize_eq_zero_iff

theorem ofKind_invalidCharacter_inBytes (alphabet : Alphabet) (label value : String) :
    ((alphabet.rule.inBytes.validator label).report value).ofKind .invalidCharacter =
      characterViolations alphabet label value := by
  have hkinds := alphabet.rule.inBytes.filter_kind_violations label value
    (alphabet.rule.inBytes_measure_eq_zero_iff value)
  have halphabet : alphabet.rule.inBytes.alphabet = alphabet := alphabet.alphabet_rule
  rw [halphabet] at hkinds
  exact hkinds .invalidCharacter

theorem violations_inBytes {alphabet : Alphabet} {label value : String}
    (hbytes : value.utf8ByteSize = value.length) :
    ((alphabet.rule.inBytes.validator label).report value).violations =
      (alphabet.report label value).violations := by
  have hparts := alphabet.rule.inBytes.violations_eq_parts label value
    (alphabet.rule.inBytes_measure_eq_zero_iff value)
  have halphabet : alphabet.rule.inBytes.alphabet = alphabet := alphabet.alphabet_rule
  have hmeasure : alphabet.rule.inBytes.measure value = value.length := hbytes
  rw [halphabet, hmeasure, ← Alphabet.violations_report] at hparts
  exact hparts

end NameRule

/-- Every resource accepts names of one-byte characters only. -/
theorem Resource.utf8ByteSize_eq_length {resource : Resource} {label value : String}
    (hvalid : ((resource.check value label).run []).1.isValid = true) :
    value.utf8ByteSize = value.length := by
  cases resource with
  | gallery =>
      have hreport := (Alphabet.gallery.isValid_report_iff label value).mp hvalid
      exact Alphabet.utf8ByteSize_eq_length hreport.2.2
  | image =>
      have hreport := (Alphabet.image.isValid_report_iff label value).mp hvalid
      exact Alphabet.utf8ByteSize_eq_length hreport.2.2
  | imageVersion =>
      have hnone : VersionRule.violations label value = [] := List.isEmpty_iff.mp hvalid
      have hversion := (VersionRule.violations_eq_nil_iff label value).mp hnone
      exact hversion.utf8ByteSize_eq_length

/-- A rule in bytes accepts the same names as the rule in characters and reports
the same on every name without outsiders.  No accepted name has more bytes than
characters, and a name that has is rejected by each resource for what it contains. -/
theorem verdict_same_in_bytes (alphabet : Alphabet) (label value : String) :
    let counted := alphabet.report label value
    let measured := (alphabet.rule.inBytes.validator label).report value
    measured.isValid = counted.isValid ∧
    measured.ofKind .invalidCharacter = counted.ofKind .invalidCharacter ∧
    (counted.ofKind .invalidCharacter = [] → measured.violations = counted.violations) ∧
    (∀ resource : Resource, ((resource.check value label).run []).1.isValid = true →
      value.utf8ByteSize = value.length) ∧
    (value.utf8ByteSize ≠ value.length →
      counted.ofKind .invalidCharacter ≠ [] ∧
      ((checkImageVersionName value label).run []).1.violations =
        [.malformedVersionFormat label value]) := by
  intro counted measured
  have hmeasured : measured.ofKind .invalidCharacter =
      NameRule.characterViolations alphabet label value :=
    NameRule.ofKind_invalidCharacter_inBytes alphabet label value
  have hcounted : counted.ofKind .invalidCharacter =
      NameRule.characterViolations alphabet label value :=
    alphabet.ofKind_report label value .invalidCharacter
  have hlengths : counted.ofKind .invalidCharacter = [] →
      value.utf8ByteSize = value.length := by
    intro hnone
    rw [hcounted, Alphabet.characterViolations_eq_nil_iff] at hnone
    exact Alphabet.utf8ByteSize_eq_length hnone
  have hsame : counted.ofKind .invalidCharacter = [] →
      measured.violations = counted.violations := by
    intro hnone
    exact NameRule.violations_inBytes (hlengths hnone)
  refine ⟨?_, ?_, hsame, ?_, ?_⟩
  · by_cases hnone : counted.ofKind .invalidCharacter = []
    · rw [Report.isValid, Report.isValid, hsame hnone]
    · have hbroken : measured.ofKind .invalidCharacter ≠ [] := by
        rwa [hmeasured, ← hcounted]
      rw [Report.isValid_eq_false_of_ofKind hnone, Report.isValid_eq_false_of_ofKind hbroken]
  · rw [hmeasured, hcounted]
  · intro resource hvalid
    exact Resource.utf8ByteSize_eq_length hvalid
  · intro hdifferent
    have hempty : value ≠ "" := by
      intro heq
      rw [heq] at hdifferent
      exact hdifferent rfl
    have hversion : ¬ VersionRule.IsVersion value := by
      intro hversion
      exact hdifferent hversion.utf8ByteSize_eq_length
    refine ⟨fun hnone => hdifferent (hlengths hnone), ?_⟩
    have hviolations : ((checkImageVersionName value label).run []).1.violations =
        VersionRule.violations label value := rfl
    rw [hviolations, VersionRule.violations_eq, if_neg hempty, if_neg hversion]

/-- An accepted image name, and an accented letter that is longer in bytes. -/
theorem verdict_same_in_bytes_accent :
    ((Resource.image.check "a-b" "name").run []).1.isValid = true ∧
    "a-b".utf8ByteSize = "a-b".length ∧
    "é".utf8ByteSize ≠ "é".length ∧
    (Alphabet.image.report "name" "é").ofKind .invalidCharacter ≠ [] ∧
    ((checkImageVersionName "é" "name").run []).1.violations =
      [.malformedVersionFormat "name" "é"] := by
  have hvalid : ((Resource.image.check "a-b" "name").run []).1.isValid = true := by decide
  have hdifferent : "é".utf8ByteSize ≠ "é".length := by decide
  have haccepted := (verdict_same_in_bytes .image "name" "a-b").2.2.2.1 .image hvalid
  have hrejected := (verdict_same_in_bytes .image "name" "é").2.2.2.2 hdifferent
  exact ⟨hvalid, haccepted, hdifferent, hrejected.1, hrejected.2⟩

end GalleryNaming
