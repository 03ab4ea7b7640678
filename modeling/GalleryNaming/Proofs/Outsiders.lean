import GalleryNaming.Proofs.NameReports

/-!
# Outsiders of a name

An outsider of a name is a character that its alphabet does not contain.  A
report shows the first of them only, but what happens to a name when it is
lengthened, split or mended is decided by all of them.  Here they are listed
with their positions, and a report is taken apart by kinds of violations: which
part depends on the length of the name and which on its outsiders.
-/

namespace GalleryNaming

/-- The character and the position that a violation tells of. -/
def Violation.outsider? : Violation → Option (Char × Nat)
  | .invalidCharacter _ character position _ => some (character, position)
  | _ => none

namespace Report

/-- The violations of one kind, in the order in which they are reported. -/
def ofKind (report : Report) (kind : Violation.Kind) : List Violation :=
  report.violations.filter fun violation => violation.kind = kind

/-- The outsider that the report shows, with its position. -/
def outsider? (report : Report) : Option (Char × Nat) :=
  report.violations.findSome? Violation.outsider?

theorem isValid_eq_false_of_ofKind {report : Report} {kind : Violation.Kind}
    (hbroken : report.ofKind kind ≠ []) : report.isValid = false := by
  rw [isValid, List.isEmpty_eq_false_iff]
  intro hnone
  rw [ofKind, hnone] at hbroken
  exact hbroken rfl

end Report

theorem Violation.filter_kind {violations : List Violation} {own : Kind}
    (hown : ∀ violation ∈ violations, violation.kind = own) (kind : Kind) :
    violations.filter (fun violation => violation.kind = kind) =
      if own = kind then violations else [] := by
  by_cases hkind : own = kind
  · rw [if_pos hkind, List.filter_eq_self]
    intro violation hmem
    rw [hown violation hmem, decide_eq_true hkind]
  · rw [if_neg hkind, List.filter_eq_nil_iff]
    intro violation hmem
    rw [hown violation hmem, decide_eq_true_eq]
    exact hkind

theorem NameRule.lengthViolations_eq_nil_iff {label : String} {length : Nat} :
    lengthViolations label length = [] ↔ length ≤ maximum := by
  rw [← Nat.not_lt, lengthViolations]
  by_cases hlong : maximum < length
  · rw [if_pos hlong]
    exact iff_of_false (List.cons_ne_nil _ _) (not_not_intro hlong)
  · rw [if_neg hlong]
    exact iff_of_true rfl hlong

theorem NameRule.violations_eq_parts (rule : NameRule) (label value : String)
    (hmeasure : rule.measure value = 0 ↔ value.length = 0) :
    rule.violations label value =
      (if value.length = 0 then [.emptyValue label] else []) ++
        (lengthViolations label (rule.measure value) ++
          characterViolations rule.alphabet label value) := by
  have hshort : rule.measure value < minimum ↔ value.length = 0 := by
    rw [← hmeasure]
    exact Nat.lt_one_iff
  unfold violations
  by_cases hempty : value.length = 0
  · have hvalue : value = "" := by simpa using hempty
    rw [if_pos (hshort.mpr hempty), if_pos hempty, hmeasure.mpr hempty, hvalue]
    rfl
  · rw [if_neg (hshort.not.mpr hempty), if_neg hempty, List.nil_append]

/-- Each rule for names has a kind of its own, however lengths are measured. -/
theorem NameRule.filter_kind_violations (rule : NameRule) (label value : String)
    (hmeasure : rule.measure value = 0 ↔ value.length = 0) (kind : Violation.Kind) :
    (rule.violations label value).filter (fun violation => violation.kind = kind) =
      match kind with
      | .emptyValue => if value.length = 0 then [.emptyValue label] else []
      | .tooLong => lengthViolations label (rule.measure value)
      | .invalidCharacter => characterViolations rule.alphabet label value
      | .malformedVersionFormat => [] := by
  have hempty : ∀ violation ∈ (if value.length = 0 then [Violation.emptyValue label] else []),
      violation.kind = .emptyValue := by
    intro violation hmem
    rw [List.mem_ite_nil_right, List.mem_singleton] at hmem
    rw [hmem.2]
    rfl
  have hlength : ∀ violation ∈ lengthViolations label (rule.measure value),
      violation.kind = .tooLong := by
    intro violation hmem
    rw [(mem_lengthViolations_iff.mp hmem).2]
    rfl
  have hcharacters : ∀ violation ∈ characterViolations rule.alphabet label value,
      violation.kind = .invalidCharacter := by
    intro violation hmem
    obtain ⟨c, position, _, heq⟩ := mem_characterViolations_iff.mp hmem
    rw [heq]
    rfl
  rw [violations_eq_parts rule label value hmeasure, List.filter_append, List.filter_append,
    Violation.filter_kind hempty, Violation.filter_kind hlength,
    Violation.filter_kind hcharacters]
  cases kind <;> simp

namespace Alphabet

/-- The report that checking a name answers with. -/
def report (alphabet : Alphabet) (label value : String) : Report :=
  ((alphabet.checkName value label).run []).1

instance (alphabet : Alphabet) : DecidablePred alphabet.Contains := fun c =>
  decidable_of_iff _ (alphabet.allows_eq_true_iff c)

def outsiders (alphabet : Alphabet) (cs : List Char) : List (Char × Nat) :=
  cs.zipIdx.filter fun found => ¬ alphabet.Contains found.1

/-! ## All outsiders of a text -/

theorem mem_outsiders_iff {alphabet : Alphabet} {cs : List Char} {c : Char}
    {position : Nat} :
    (c, position) ∈ alphabet.outsiders cs ↔
      cs[position]? = some c ∧ ¬ alphabet.Contains c := by
  rw [outsiders, List.mem_filter, List.mk_mem_zipIdx_iff_getElem?, decide_eq_true_eq]

theorem outsiders_eq_nil_iff {alphabet : Alphabet} {cs : List Char} :
    alphabet.outsiders cs = [] ↔ ∀ c ∈ cs, alphabet.Contains c := by
  constructor
  · intro hnil c hc
    obtain ⟨position, hposition⟩ := List.mem_iff_getElem?.mp hc
    by_contra houtside
    have hmem : (c, position) ∈ alphabet.outsiders cs :=
      mem_outsiders_iff.mpr ⟨hposition, houtside⟩
    rw [hnil] at hmem
    exact List.not_mem_nil hmem
  · intro hcontains
    rw [List.eq_nil_iff_forall_not_mem]
    intro found hfound
    have houtsider := mem_outsiders_iff.mp hfound
    exact houtsider.2 (hcontains found.1 (List.mem_of_getElem? houtsider.1))

theorem outsiders_append (alphabet : Alphabet) (cs ds : List Char) :
    alphabet.outsiders (cs ++ ds) =
      alphabet.outsiders cs ++
        (alphabet.outsiders ds).map fun found => (found.1, found.2 + cs.length) := by
  have hshift : ds.zipIdx (0 + cs.length) =
      ds.zipIdx.map fun found => (found.1, found.2 + cs.length) := by
    rw [Nat.add_comm]
    exact List.map_snd_add_zipIdx_eq_zipIdx.symm
  unfold outsiders
  rw [List.zipIdx_append, List.filter_append, hshift, List.filter_map]
  rfl

theorem outsiders_cons_of_contains {alphabet : Alphabet} {c : Char}
    (hc : alphabet.Contains c) (cs : List Char) :
    alphabet.outsiders (c :: cs) =
      (alphabet.outsiders cs).map fun found => (found.1, found.2 + 1) := by
  have hnone : alphabet.outsiders [c] = [] := by
    rw [outsiders_eq_nil_iff]
    simpa using hc
  rw [← List.singleton_append, outsiders_append, hnone]
  rfl

theorem outsiders_cons_of_not_contains {alphabet : Alphabet} {c : Char}
    (hc : ¬ alphabet.Contains c) (cs : List Char) :
    alphabet.outsiders (c :: cs) =
      (c, 0) :: (alphabet.outsiders cs).map fun found => (found.1, found.2 + 1) := by
  have hone : alphabet.outsiders [c] = [(c, 0)] := by
    simp [outsiders, hc]
  rw [← List.singleton_append, outsiders_append, hone]
  rfl

theorem pairwise_position_outsiders (alphabet : Alphabet) (cs : List Char) :
    (alphabet.outsiders cs).Pairwise fun found later => found.2 < later.2 := by
  apply List.Pairwise.filter
  apply List.pairwise_map.mp
  rw [List.zipIdx_map_snd]
  exact List.pairwise_lt_range' 1

theorem length_outsiders (alphabet : Alphabet) (cs : List Char) :
    (alphabet.outsiders cs).length = cs.countP fun c => ¬ alphabet.Contains c := by
  calc
    (alphabet.outsiders cs).length =
        cs.zipIdx.countP (fun found => ¬ alphabet.Contains found.1) := by
          rw [outsiders, List.countP_eq_length_filter]
    _ = (cs.zipIdx.map Prod.fst).countP (fun c => ¬ alphabet.Contains c) := by
          rw [List.countP_map]
          rfl
    _ = cs.countP fun c => ¬ alphabet.Contains c := by
          rw [List.zipIdx_map_fst]

theorem head?_outsiders (alphabet : Alphabet) (cs : List Char) :
    (alphabet.outsiders cs).head? = alphabet.firstOutside cs := by
  cases hfirst : alphabet.firstOutside cs with
  | none =>
      have hnil : alphabet.outsiders cs = [] :=
        outsiders_eq_nil_iff.mpr ((alphabet.firstOutside_eq_none_iff cs).mp hfirst)
      rw [hnil]
      rfl
  | some found =>
      obtain ⟨before, after, hcs, hposition, hbefore, houtside⟩ :=
        (alphabet.firstOutside_eq_some_iff cs found.1 found.2).mp hfirst
      have hnone : alphabet.outsiders before = [] := outsiders_eq_nil_iff.mpr hbefore
      rw [hcs, outsiders_append, hnone, outsiders_cons_of_not_contains houtside,
        List.nil_append, List.map_cons, List.head?_cons, hposition, Nat.zero_add]

/-! ## Reports on names -/

theorem characterViolations_eq_nil_iff (alphabet : Alphabet) (label value : String) :
    NameRule.characterViolations alphabet label value = [] ↔
      alphabet.outsiders value.toList = [] := by
  have hhead : alphabet.outsiders value.toList = [] ↔
      alphabet.firstOutside value.toList = none := by
    rw [← head?_outsiders, List.head?_eq_none_iff]
  rw [hhead]
  unfold NameRule.characterViolations
  cases alphabet.firstOutside value.toList with
  | none => simp
  | some found => simp

theorem run_checkName (alphabet : Alphabet) (value label : String) (log : List Log.Entry) :
    (alphabet.checkName value label).run log =
      (alphabet.report label value, log ++ [(alphabet.report label value).entry]) := by
  cases alphabet <;> rfl

theorem run_checkName_bind {α : Type} (alphabet : Alphabet) (value label : String)
    (next : Report → Logged α) (log : List Log.Entry) :
    (alphabet.checkName value label >>= next).run log =
      (next (alphabet.report label value)).run
        (log ++ [(alphabet.report label value).entry]) := by
  rw [StateT.run_bind, run_checkName]
  rfl

theorem report_eq (alphabet : Alphabet) (label value : String) :
    alphabet.report label value =
      ⟨label, value, alphabet.rule.violations label value⟩ := by
  cases alphabet <;> rfl

@[simp] theorem measure_rule (alphabet : Alphabet) : alphabet.rule.measure = String.length := by
  cases alphabet <;> rfl

@[simp] theorem alphabet_rule (alphabet : Alphabet) : alphabet.rule.alphabet = alphabet := by
  cases alphabet <;> rfl

theorem violations_report (alphabet : Alphabet) (label value : String) :
    (alphabet.report label value).violations =
      (if value.length = 0 then [.emptyValue label] else []) ++
        (NameRule.lengthViolations label value.length ++
          NameRule.characterViolations alphabet label value) := by
  have hparts := alphabet.rule.violations_eq_parts label value
  rw [measure_rule, alphabet_rule] at hparts
  rw [report_eq]
  exact hparts Iff.rfl

theorem ofKind_report (alphabet : Alphabet) (label value : String)
    (kind : Violation.Kind) :
    (alphabet.report label value).ofKind kind =
      match kind with
      | .emptyValue => if value.length = 0 then [.emptyValue label] else []
      | .tooLong => NameRule.lengthViolations label value.length
      | .invalidCharacter => NameRule.characterViolations alphabet label value
      | .malformedVersionFormat => [] := by
  have hkinds := alphabet.rule.filter_kind_violations label value
  rw [measure_rule, alphabet_rule] at hkinds
  rw [report_eq]
  exact hkinds Iff.rfl kind

theorem outsider?_report (alphabet : Alphabet) (label value : String) :
    (alphabet.report label value).outsider? = (alphabet.outsiders value.toList).head? := by
  have hempty : (if value.length = 0 then [Violation.emptyValue label] else []).findSome?
      Violation.outsider? = none := by
    split <;> rfl
  have hlength : (NameRule.lengthViolations label value.length).findSome?
      Violation.outsider? = none := by
    unfold NameRule.lengthViolations
    split <;> rfl
  rw [head?_outsiders, Report.outsider?, violations_report, List.findSome?_append,
    List.findSome?_append, hempty, hlength, Option.none_or, Option.none_or,
    NameRule.characterViolations]
  cases alphabet.firstOutside value.toList with
  | none => rfl
  | some found => rfl

theorem isValid_report_iff (alphabet : Alphabet) (label value : String) :
    (alphabet.report label value).isValid = true ↔
      value ≠ "" ∧ value.length ≤ NameRule.maximum ∧
        alphabet.outsiders value.toList = [] := by
  have hlength : 1 ≤ value.length ↔ value ≠ "" := by
    rw [Nat.one_le_iff_ne_zero, ne_eq, String.length_eq_zero_iff]
  rw [Report.isValid, List.isEmpty_iff, report_eq, NameRule.violations_rule_eq_nil_iff,
    outsiders_eq_nil_iff, hlength]
  rfl

end Alphabet

end GalleryNaming
