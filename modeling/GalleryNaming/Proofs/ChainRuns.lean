import GalleryNaming.Chain
import GalleryNaming.Proofs.CheckRuns
import Mathlib.Data.List.TakeWhile

/-!
# How a chain ends

Whether a link passes depends on its own field and name only.  A chain goes
through the links that pass, counts and logs each of them, and stops at the
first link that does not pass with the rejection of that link.  Every list of
links splits there: either all links pass, or some links pass and are followed
by one that does not.  What stands behind that link has no influence.
-/

namespace GalleryNaming.Chain

namespace Link

/-- The report on the link alone. -/
def report (link : Link) : Report :=
  ((link.field.validator.check link.value).run []).1

def passes (link : Link) : Bool :=
  link.report.isValid

/-- The entry of a link that passes. -/
def accepted (link : Link) : Log.Entry :=
  .accepted link.field.label link.value

/-- The entry of a link that does not pass. -/
def rejected (link : Link) : Log.Entry :=
  .rejected link.field.label link.value link.report.violations.length

def rejection (link : Link) : Rejection :=
  ⟨link.field.label, link.report.violations⟩

@[simp] theorem level_accepted (link : Link) : link.accepted.level = .trace := rfl

@[simp] theorem level_rejected (link : Link) : link.rejected.level = .debug := rfl

theorem levels_accepted (links : List Link) :
    (links.map Link.accepted).map Log.Entry.level =
      List.replicate links.length .trace := by
  rw [List.map_map]
  exact List.map_eq_replicate_iff.mpr fun link _ => link.level_accepted

theorem levels_rejected (before : List Link) (link : Link) :
    (before.map Link.accepted ++ [link.rejected]).map Log.Entry.level =
      List.replicate before.length .trace ++ [.debug] := by
  rw [List.map_append, levels_accepted, List.map_singleton, level_rejected]

theorem run_validate (link : Link) (log : List Log.Entry) :
    link.validate.run log =
      (link.field.validator.verdict link.value,
        log ++ [(link.field.validator.report link.value).entry]) := rfl

theorem run_validate_of_passes {link : Link} (hpasses : link.passes = true)
    (log : List Log.Entry) :
    link.validate.run log = (.ok (), log ++ [link.accepted]) := by
  have hnone : link.field.validator.violations link.value = [] :=
    link.report.isValid_iff.mp hpasses
  have hentry : (link.field.validator.report link.value).entry =
      .accepted link.field.validator.label link.value :=
    Report.entry_eq_accepted hnone
  rw [run_validate, Validator.verdict_of_valid hnone, hentry, NameField.label_validator, accepted]

theorem run_validate_of_not_passes {link : Link} (hfails : link.passes = false)
    (log : List Log.Entry) :
    link.validate.run log = (.error link.rejection, log ++ [link.rejected]) := by
  have hbroken : link.field.validator.violations link.value ≠ [] := by
    intro hnone
    have hpasses : link.passes = true := link.report.isValid_iff.mpr hnone
    rw [hfails] at hpasses
    cases hpasses
  have hentry : (link.field.validator.report link.value).entry =
      .rejected link.field.validator.label link.value
        (link.field.validator.violations link.value).length :=
    Report.entry_eq_rejected hbroken
  rw [run_validate, Validator.verdict_of_broken hbroken, hentry, NameField.label_validator]
  rfl

end Link

/-- The outcome of a chain with so many passing links in front. -/
def Outcome.afterPasses (outcome : Outcome) (count : Nat) : Outcome :=
  { outcome with passed := count + outcome.passed }

theorem run_cons_of_passes {link : Link} (hpasses : link.passes = true)
    (rest : List Link) (log : List Log.Entry) :
    (run (link :: rest)).run log =
      (((run rest).run (log ++ [link.accepted])).1.afterPass,
        ((run rest).run (log ++ [link.accepted])).2) := by
  rw [run, StateT.run_bind, Link.run_validate_of_passes hpasses]
  rfl

theorem run_cons_of_not_passes {link : Link} (hfails : link.passes = false)
    (rest : List Link) (log : List Log.Entry) :
    (run (link :: rest)).run log =
      (⟨0, .error link.rejection⟩, log ++ [link.rejected]) := by
  rw [run, StateT.run_bind, Link.run_validate_of_not_passes hfails]
  rfl

/-- Passing links in front are counted and logged, and nothing else. -/
theorem run_append_of_passes {links : List Link}
    (hpasses : ∀ link ∈ links, link.passes = true)
    (rest : List Link) (log : List Log.Entry) :
    (run (links ++ rest)).run log =
      (((run rest).run (log ++ links.map Link.accepted)).1.afterPasses links.length,
        ((run rest).run (log ++ links.map Link.accepted)).2) := by
  induction links generalizing log with
  | nil =>
      simp only [List.nil_append, List.map_nil, List.append_nil, List.length_nil,
        Outcome.afterPasses, Nat.zero_add]
      rfl
  | cons link links ih =>
      have hfirst := hpasses link List.mem_cons_self
      have hothers : ∀ other ∈ links, other.passes = true := by
        intro other hother
        exact hpasses other (List.mem_cons_of_mem link hother)
      rw [List.cons_append, run_cons_of_passes hfirst, ih hothers]
      simp only [List.map_cons, List.append_assoc, List.singleton_append,
        Outcome.afterPasses, Outcome.afterPass, List.length_cons, Nat.add_right_comm]

theorem run_of_passes {links : List Link}
    (hpasses : ∀ link ∈ links, link.passes = true) (log : List Log.Entry) :
    (run links).run log = (⟨links.length, .ok ()⟩, log ++ links.map Link.accepted) := by
  have hrun := run_append_of_passes hpasses [] log
  rw [List.append_nil, run_nil] at hrun
  exact hrun

theorem run_of_stop {before : List Link} {link : Link}
    (hbefore : ∀ earlier ∈ before, earlier.passes = true)
    (hfails : link.passes = false) (after : List Link) (log : List Log.Entry) :
    (run (before ++ link :: after)).run log =
      (⟨before.length, .error link.rejection⟩,
        log ++ (before.map Link.accepted ++ [link.rejected])) := by
  rw [run_append_of_passes hbefore, run_cons_of_not_passes hfails, ← List.append_assoc]
  rfl

/-- Where a chain ends. -/
theorem passes_or_stops (links : List Link) :
    (∀ link ∈ links, link.passes = true) ∨
    ∃ before link after, links = before ++ link :: after ∧
      (∀ earlier ∈ before, earlier.passes = true) ∧ link.passes = false := by
  induction links with
  | nil => exact .inl (by simp)
  | cons link links ih =>
      cases hpasses : link.passes with
      | false => exact .inr ⟨[], link, links, rfl, by simp, hpasses⟩
      | true =>
          rcases ih with hall | ⟨before, other, after, rfl, hbefore, hfails⟩
          · exact .inl (by simpa [hpasses] using hall)
          · refine .inr ⟨link :: before, other, after, rfl, ?_, hfails⟩
            simpa [hpasses] using hbefore

theorem takeWhile_passes_of_stop {before : List Link} {link : Link}
    (hbefore : ∀ earlier ∈ before, earlier.passes = true)
    (hfails : link.passes = false) (after : List Link) :
    (before ++ link :: after).takeWhile Link.passes = before := by
  rw [List.takeWhile_append_of_pos hbefore, List.takeWhile_cons_of_neg, List.append_nil]
  rw [hfails]
  exact Bool.false_ne_true

/-- Two chains in a row are the first one and, only if it passes, the second. -/
theorem run_append (links more : List Link) :
    run (links ++ more) = do
      let first ← run links
      match first.result with
      | .error _ => return first
      | .ok () =>
          let second ← run more
          return ⟨first.passed + second.passed, second.result⟩ := by
  apply StateT.ext
  intro log
  rw [StateT.run_bind]
  rcases passes_or_stops links with hall | ⟨before, link, after, rfl, hbefore, hfails⟩
  · rw [run_of_passes hall, run_append_of_passes hall]
    rfl
  · rw [List.append_assoc, List.cons_append, run_of_stop hbefore hfails,
      run_of_stop hbefore hfails]
    rfl

/-- A chain passes when each of its links does.  Otherwise it ends with the
rejection of the first link that does not, counts the links before it, and its
log goes no further than that link.  Whatever passes is traced, and only the
entry of the link that stops the chain is logged for debugging. -/
theorem run_stops_at_first_rejection (links : List Link) (log : List Log.Entry) :
    (((run links).run log).1.result = .ok () ↔ ∀ link ∈ links, link.passes = true) ∧
    ((run links).run log).1.passed = (links.takeWhile Link.passes).length ∧
    (((∀ link ∈ links, link.passes = true) ∧
        (links.map Link.accepted).map Log.Entry.level =
          List.replicate links.length .trace ∧
        (run links).run log = (⟨links.length, .ok ()⟩, log ++ links.map Link.accepted)) ∨
      ∃ before link after rejection, links = before ++ link :: after ∧
        (∀ earlier ∈ before, earlier.passes = true) ∧ link.passes = false ∧
        (link.validate.run []).1 = .error rejection ∧
        (before.map Link.accepted ++ [link.rejected]).map Log.Entry.level =
          List.replicate before.length .trace ++ [.debug] ∧
        (run links).run log =
          (⟨before.length, .error rejection⟩,
            log ++ (before.map Link.accepted ++ [link.rejected]))) ∧
    ∀ more, run (links ++ more) = do
      let first ← run links
      match first.result with
      | .error _ => return first
      | .ok () =>
          let second ← run more
          return ⟨first.passed + second.passed, second.result⟩ := by
  rcases passes_or_stops links with hall | ⟨before, link, after, rfl, hbefore, hfails⟩
  · refine ⟨?_, ?_, .inl ⟨hall, Link.levels_accepted links, run_of_passes hall log⟩,
      run_append links⟩
    · simp only [run_of_passes hall, true_iff]
      exact hall
    · have hprefix : links.takeWhile Link.passes = links :=
        List.takeWhile_eq_self_iff.mpr hall
      rw [run_of_passes hall, hprefix]
  · have halone : (link.validate.run []).1 = .error link.rejection := by
      rw [Link.run_validate_of_not_passes hfails]
    refine ⟨?_, ?_, .inr ⟨before, link, after, link.rejection, rfl, hbefore, hfails,
      halone, Link.levels_rejected before link, run_of_stop hbefore hfails after log⟩,
      run_append _⟩
    · simp only [run_of_stop hbefore hfails, reduceCtorEq, false_iff]
      intro hall
      have hpasses := hall link (by simp)
      rw [hfails] at hpasses
      cases hpasses
    · rw [run_of_stop hbefore hfails, takeWhile_passes_of_stop hbefore hfails]

end GalleryNaming.Chain
