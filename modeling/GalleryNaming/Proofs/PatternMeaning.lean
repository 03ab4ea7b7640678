import GalleryNaming.Text.Pattern

/-!
# What a pattern matches

The matcher lists the places at which a match may end.  Here a match is
described without it: a pattern matches some characters between those before
and those after them, and only the two anchors look at the neighbours.  The
matcher finds exactly the matches that this description allows, and searching
tries every place of the text.
-/

namespace GalleryNaming.Text.Pattern

/-- The pattern matches the middle one of three neighbouring parts of a text. -/
inductive Matches : Pattern → List Char → List Char → List Char → Prop where
  | textStart (after : List Char) : Matches .textStart [] [] after
  | textEnd (before : List Char) : Matches .textEnd before [] []
  | char {accepts : Char → Bool} {c : Char} (before after : List Char)
      (hc : accepts c = true) : Matches (.char accepts) before [c] after
  | run {accepts : Char → Bool} {matched : List Char} (before after : List Char)
      (hne : matched ≠ []) (haccepts : ∀ c ∈ matched, accepts c = true) :
      Matches (.run accepts) before matched after
  | andThen {first second : Pattern} {before left right after : List Char}
      (hfirst : Matches first before left (right ++ after))
      (hsecond : Matches second (before ++ left) right after) :
      Matches (.andThen first second) before (left ++ right) after
  | timesZero {item : Pattern} (before after : List Char) :
      Matches (.times 0 item) before [] after
  | timesSucc {count : Nat} {item : Pattern} {before left right after : List Char}
      (hitem : Matches item before left (right ++ after))
      (htimes : Matches (.times count item) (before ++ left) right after) :
      Matches (.times (count + 1) item) before (left ++ right) after

/-- The place that is reached by passing over some characters. -/
def Reaches (start : Place) (passed : List Char) (stop : Place) : Prop :=
  start.after = passed ++ stop.after ∧ stop.before = passed.reverse ++ start.before

theorem reaches_nil_iff {start stop : Place} : Reaches start [] stop ↔ stop = start := by
  obtain ⟨before, after⟩ := start
  obtain ⟨before', after'⟩ := stop
  simp only [Reaches, List.nil_append, List.reverse_nil, Place.mk.injEq]
  constructor
  · rintro ⟨rfl, rfl⟩
    exact ⟨rfl, rfl⟩
  · rintro ⟨rfl, rfl⟩
    exact ⟨rfl, rfl⟩

theorem Reaches.trans
    {start middle stop : Place} {left right : List Char}
    (hleft : Reaches start left middle) (hright : Reaches middle right stop) :
    Reaches start (left ++ right) stop := by
  obtain ⟨hafter, hbefore⟩ := hleft
  obtain ⟨hafter', hbefore'⟩ := hright
  constructor
  · rw [hafter, hafter', List.append_assoc]
  · rw [hbefore', hbefore, List.reverse_append, List.append_assoc]

theorem Reaches.split
    {start stop : Place} {left right : List Char}
    (hreaches : Reaches start (left ++ right) stop) :
    ∃ middle, Reaches start left middle ∧ Reaches middle right stop := by
  obtain ⟨hafter, hbefore⟩ := hreaches
  refine ⟨⟨left.reverse ++ start.before, right ++ stop.after⟩, ⟨?_, rfl⟩, rfl, ?_⟩
  · rw [hafter, List.append_assoc]
  · rw [hbefore, List.reverse_append, List.append_assoc]

theorem mem_runEnds_iff {accepts : Char → Bool} {start stop : Place} :
    stop ∈ runEnds accepts start.before start.after ↔
      ∃ matched, matched ≠ [] ∧ (∀ c ∈ matched, accepts c = true) ∧
        Reaches start matched stop := by
  obtain ⟨before, after⟩ := start
  induction after generalizing before with
  | nil =>
      simp only [runEnds, List.not_mem_nil, false_iff]
      rintro ⟨matched, hne, _, hafter, _⟩
      exact hne (List.append_eq_nil_iff.mp hafter.symm).1
  | cons c after ih =>
      simp only [runEnds]
      by_cases hc : accepts c = true
      · rw [if_pos hc, List.mem_cons, ih (c :: before)]
        constructor
        · rintro (rfl | ⟨matched, hne, haccepts, hafter, hbefore⟩)
          · exact ⟨[c], by simp, by simpa using hc, rfl, rfl⟩
          · refine ⟨c :: matched, by simp, ?_, ?_, ?_⟩
            · simpa [hc] using haccepts
            · simpa using hafter
            · simpa using hbefore
        · rintro ⟨matched, hne, haccepts, hafter, hbefore⟩
          cases matched with
          | nil => exact absurd rfl hne
          | cons d matched =>
              obtain ⟨rfl, htail⟩ := List.cons.inj hafter
              by_cases hmatched : matched = []
              · subst hmatched
                left
                exact reaches_nil_iff.mp ⟨by simpa using htail, by simpa using hbefore⟩
              · right
                refine ⟨matched, hmatched, ?_, htail, by simpa using hbefore⟩
                intro e he
                exact haccepts e (List.mem_cons_of_mem _ he)
      · rw [if_neg hc]
        simp only [List.not_mem_nil, false_iff]
        rintro ⟨matched, hne, haccepts, hafter, _⟩
        cases matched with
        | nil => exact absurd rfl hne
        | cons d matched =>
            obtain ⟨rfl, _⟩ := List.cons.inj hafter
            exact hc (haccepts c List.mem_cons_self)

theorem Reaches.before_reverse
    {start stop : Place} {passed : List Char} (hreaches : Reaches start passed stop) :
    stop.before.reverse = start.before.reverse ++ passed := by
  rw [hreaches.2, List.reverse_append, List.reverse_reverse]

/-- The pattern matches what is passed over on the way from one place to another. -/
def MatchesBetween (pattern : Pattern) (start stop : Place) : Prop :=
  ∃ matched, Reaches start matched stop ∧
    Matches pattern start.before.reverse matched stop.after

theorem matchesBetween_textStart_iff {start stop : Place} :
    MatchesBetween .textStart start stop ↔ start.before = [] ∧ stop = start := by
  constructor
  · rintro ⟨matched, hreaches, hmatches⟩
    cases hbefore : start.before.reverse with
    | nil =>
        rw [hbefore] at hmatches
        cases hmatches
        exact ⟨List.reverse_eq_nil_iff.mp hbefore, reaches_nil_iff.mp hreaches⟩
    | cons c before =>
        rw [hbefore] at hmatches
        cases hmatches
  · rintro ⟨hbefore, rfl⟩
    refine ⟨[], reaches_nil_iff.mpr rfl, ?_⟩
    rw [hbefore]
    exact .textStart _

theorem matchesBetween_textEnd_iff {start stop : Place} :
    MatchesBetween .textEnd start stop ↔ start.after = [] ∧ stop = start := by
  constructor
  · rintro ⟨matched, hreaches, hmatches⟩
    cases hafter : stop.after with
    | nil =>
        rw [hafter] at hmatches
        cases hmatches
        have heq := reaches_nil_iff.mp hreaches
        exact ⟨heq ▸ hafter, heq⟩
    | cons c after =>
        rw [hafter] at hmatches
        cases hmatches
  · rintro ⟨hafter, rfl⟩
    refine ⟨[], reaches_nil_iff.mpr rfl, ?_⟩
    rw [hafter]
    exact .textEnd _

theorem matchesBetween_char_iff {accepts : Char → Bool} {start stop : Place} :
    MatchesBetween (.char accepts) start stop ↔
      ∃ c, accepts c = true ∧ Reaches start [c] stop := by
  constructor
  · rintro ⟨matched, hreaches, hmatches⟩
    cases hmatches with
    | char _ _ hc => exact ⟨_, hc, hreaches⟩
  · rintro ⟨c, hc, hreaches⟩
    exact ⟨[c], hreaches, .char _ _ hc⟩

theorem matchesBetween_run_iff {accepts : Char → Bool} {start stop : Place} :
    MatchesBetween (.run accepts) start stop ↔
      ∃ matched, matched ≠ [] ∧ (∀ c ∈ matched, accepts c = true) ∧
        Reaches start matched stop := by
  constructor
  · rintro ⟨matched, hreaches, hmatches⟩
    cases hmatches with
    | run _ _ hne haccepts => exact ⟨matched, hne, haccepts, hreaches⟩
  · rintro ⟨matched, hne, haccepts, hreaches⟩
    exact ⟨matched, hreaches, .run _ _ hne haccepts⟩

theorem matchesBetween_andThen_iff {first second : Pattern} {start stop : Place} :
    MatchesBetween (.andThen first second) start stop ↔
      ∃ middle, MatchesBetween first start middle ∧ MatchesBetween second middle stop := by
  constructor
  · rintro ⟨matched, hreaches, hmatches⟩
    cases hmatches with
    | @andThen _ _ _ left right _ hfirst hsecond =>
        obtain ⟨middle, hleft, hright⟩ := hreaches.split
        rw [← hright.1] at hfirst
        rw [← hleft.before_reverse] at hsecond
        exact ⟨middle, ⟨left, hleft, hfirst⟩, right, hright, hsecond⟩
  · rintro ⟨middle, ⟨left, hleft, hfirst⟩, right, hright, hsecond⟩
    rw [hright.1] at hfirst
    rw [hleft.before_reverse] at hsecond
    exact ⟨left ++ right, hleft.trans hright, .andThen hfirst hsecond⟩

theorem matchesBetween_times_zero_iff {item : Pattern} {start stop : Place} :
    MatchesBetween (.times 0 item) start stop ↔ stop = start := by
  constructor
  · rintro ⟨matched, hreaches, hmatches⟩
    cases hmatches
    exact reaches_nil_iff.mp hreaches
  · rintro rfl
    exact ⟨[], reaches_nil_iff.mpr rfl, .timesZero _ _⟩

/-- One more repetition is the item followed by the others. -/
theorem matchesBetween_times_succ_iff
    {count : Nat} {item : Pattern} {start stop : Place} :
    MatchesBetween (.times (count + 1) item) start stop ↔
      MatchesBetween (.andThen item (.times count item)) start stop := by
  constructor
  · rintro ⟨matched, hreaches, hmatches⟩
    cases hmatches with
    | timesSucc hitem htimes => exact ⟨_, hreaches, .andThen hitem htimes⟩
  · rintro ⟨matched, hreaches, hmatches⟩
    cases hmatches with
    | andThen hitem htimes => exact ⟨_, hreaches, .timesSucc hitem htimes⟩

theorem mem_charEnds_iff {accepts : Char → Bool} {start stop : Place} :
    stop ∈ (Pattern.char accepts).ends start ↔
      ∃ c, accepts c = true ∧ Reaches start [c] stop := by
  obtain ⟨before, after⟩ := start
  obtain ⟨before', after'⟩ := stop
  cases after with
  | nil => simp [ends, Reaches]
  | cons c after =>
      by_cases hc : accepts c = true
      · simp only [ends, if_pos hc, List.mem_singleton, Place.mk.injEq, Reaches,
          List.cons_append, List.nil_append, List.reverse_singleton, List.cons.injEq]
        constructor
        · rintro ⟨rfl, rfl⟩
          exact ⟨c, hc, ⟨rfl, rfl⟩, rfl⟩
        · rintro ⟨d, _, ⟨rfl, rfl⟩, rfl⟩
          exact ⟨rfl, rfl⟩
      · simp only [ends, if_neg hc, List.not_mem_nil, false_iff]
        rintro ⟨d, hd, hafter, _⟩
        obtain ⟨rfl, _⟩ := List.cons.inj hafter
        exact hc hd

theorem mem_iterate_iff
    {item : Pattern}
    (hitem : ∀ start stop, stop ∈ item.ends start ↔ MatchesBetween item start stop)
    (count : Nat) (start stop : Place) :
    stop ∈ iterate item.ends count start ↔
      MatchesBetween (.times count item) start stop := by
  induction count generalizing start with
  | zero => rw [iterate, List.mem_singleton, matchesBetween_times_zero_iff]
  | succ count ih =>
      simp only [iterate, List.mem_flatMap, matchesBetween_times_succ_iff,
        matchesBetween_andThen_iff, hitem, ih]

/-- The matcher lists the ends of all matches and of nothing else. -/
theorem mem_ends_iff (pattern : Pattern) (start stop : Place) :
    stop ∈ pattern.ends start ↔ MatchesBetween pattern start stop := by
  induction pattern generalizing start stop with
  | textStart =>
      rw [matchesBetween_textStart_iff, ends]
      by_cases hbefore : start.before = [] <;> simp [hbefore]
  | textEnd =>
      rw [matchesBetween_textEnd_iff, ends]
      by_cases hafter : start.after = [] <;> simp [hafter]
  | char accepts => rw [matchesBetween_char_iff, mem_charEnds_iff]
  | run accepts => rw [matchesBetween_run_iff, ends, mem_runEnds_iff]
  | andThen first second ihFirst ihSecond =>
      simp only [matchesBetween_andThen_iff, ends, List.mem_flatMap, ihFirst, ihSecond]
  | times count item ih =>
      rw [ends]
      exact mem_iterate_iff ih count start stop

theorem ends_ne_nil_iff (pattern : Pattern) (before after : List Char) :
    (!(pattern.ends ⟨before, after⟩).isEmpty) = true ↔
      ∃ matched rest, after = matched ++ rest ∧
        Matches pattern before.reverse matched rest := by
  rw [Bool.not_eq_true', List.isEmpty_eq_false_iff_exists_mem]
  constructor
  · rintro ⟨stop, hstop⟩
    obtain ⟨matched, hreaches, hmatches⟩ := (pattern.mem_ends_iff _ _).mp hstop
    exact ⟨matched, stop.after, hreaches.1, hmatches⟩
  · rintro ⟨matched, rest, hafter, hmatches⟩
    refine ⟨⟨matched.reverse ++ before, rest⟩, (pattern.mem_ends_iff _ _).mpr ?_⟩
    exact ⟨matched, ⟨hafter, rfl⟩, hmatches⟩

theorem occursFrom_eq_true_iff (pattern : Pattern) (before cs : List Char) :
    pattern.occursFrom before cs = true ↔
      ∃ skipped matched rest, cs = skipped ++ (matched ++ rest) ∧
        Matches pattern (before.reverse ++ skipped) matched rest := by
  induction cs generalizing before with
  | nil =>
      rw [occursFrom, ends_ne_nil_iff]
      constructor
      · rintro ⟨matched, rest, hcs, hmatches⟩
        exact ⟨[], matched, rest, hcs, by simpa using hmatches⟩
      · rintro ⟨skipped, matched, rest, hcs, hmatches⟩
        obtain ⟨rfl, hempty⟩ := List.append_eq_nil_iff.mp hcs.symm
        exact ⟨matched, rest, hempty.symm, by simpa using hmatches⟩
  | cons c cs ih =>
      rw [occursFrom, Bool.or_eq_true, ends_ne_nil_iff, ih]
      constructor
      · rintro (⟨matched, rest, hcs, hmatches⟩ |
          ⟨skipped, matched, rest, hcs, hmatches⟩)
        · exact ⟨[], matched, rest, hcs, by simpa using hmatches⟩
        · exact ⟨c :: skipped, matched, rest, by rw [hcs, List.cons_append],
            by simpa using hmatches⟩
      · rintro ⟨skipped, matched, rest, hcs, hmatches⟩
        cases skipped with
        | nil => exact .inl ⟨matched, rest, hcs, by simpa using hmatches⟩
        | cons d skipped =>
            obtain ⟨rfl, htail⟩ := List.cons.inj hcs
            exact .inr ⟨skipped, matched, rest, htail, by simpa using hmatches⟩

/-- A pattern occurs in a text when it matches some part of it. -/
theorem occursIn_eq_true_iff (pattern : Pattern) (cs : List Char) :
    pattern.occursIn cs = true ↔
      ∃ before matched after, cs = before ++ (matched ++ after) ∧
        Matches pattern before matched after := by
  rw [occursIn, occursFrom_eq_true_iff]
  rfl

end GalleryNaming.Text.Pattern
