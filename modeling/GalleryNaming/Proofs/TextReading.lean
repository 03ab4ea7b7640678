/-!
# Reading values back from text

Each structured text of the library is written by one function and read by
one reader.  A reader takes a value from the front of a text and leaves what
follows, so that readers compose in the order in which texts are appended.
It always leaves less than it was given, which is what lets the loops over
characters and over items run without a bound of their own.

The lemmas of this module say when a reader gives back what was written.  They
speak of an arbitrary rest, because a text is hardly ever read alone.
-/

namespace GalleryNaming.Text

/-- The character of a text that has no other. -/
def single? : List Char → Option Char
  | [c] => some c
  | _ => none

/-- A reader takes a value from the front of a text and leaves a shorter one. -/
structure Reader (α : Type) where
  read : List Char → Option (α × List Char)
  shortens : ∀ cs value rest, read cs = some (value, rest) → rest.length < cs.length

namespace Reader

variable {α β : Type}

def fail : Reader α where
  read _ := none
  shortens := by
    intro cs value rest hread
    cases hread

def map (f : α → β) (reader : Reader α) : Reader β where
  read cs := (reader.read cs).map fun result => (f result.1, result.2)
  shortens := by
    intro cs value rest hread
    obtain ⟨⟨inner, left⟩, hinner, heq⟩ := Option.map_eq_some_iff.mp hread
    cases heq
    exact reader.shortens cs inner left hinner

def mapOption (f : α → Option β) (reader : Reader α) : Reader β where
  read cs := (reader.read cs).bind fun result =>
    (f result.1).map fun value => (value, result.2)
  shortens := by
    intro cs value rest hread
    obtain ⟨⟨inner, left⟩, hinner, hread⟩ := Option.bind_eq_some_iff.mp hread
    obtain ⟨_, _, heq⟩ := Option.map_eq_some_iff.mp hread
    cases heq
    exact reader.shortens cs inner left hinner

def orElse (first second : Reader α) : Reader α where
  read cs := (first.read cs).or (second.read cs)
  shortens := by
    intro cs value rest hread
    rcases Option.or_eq_some_iff.mp hread with hfirst | ⟨_, hsecond⟩
    · exact first.shortens cs value rest hfirst
    · exact second.shortens cs value rest hsecond

def andThen (first : Reader α) (second : Reader β) : Reader (α × β) where
  read cs := (first.read cs).bind fun head =>
    (second.read head.2).map fun tail => ((head.1, tail.1), tail.2)
  shortens := by
    intro cs value rest hread
    obtain ⟨⟨head, middle⟩, hhead, hread⟩ := Option.bind_eq_some_iff.mp hread
    obtain ⟨⟨tail, left⟩, htail, heq⟩ := Option.map_eq_some_iff.mp hread
    cases heq
    have hfirst := first.shortens cs head middle hhead
    have hsecond := second.shortens middle tail left htail
    exact Nat.lt_trans hsecond hfirst

def skip (blank : Char → Bool) (reader : Reader α) : Reader α where
  read cs := reader.read (cs.dropWhile blank)
  shortens := by
    intro cs value rest hread
    have hrest := reader.shortens _ value rest hread
    have hdrop := (List.dropWhile_sublist (l := cs) blank).length_le
    omega

def anyChar : Reader Char where
  read
    | [] => none
    | c :: rest => some (c, rest)
  shortens := by
    intro cs value rest hread
    cases cs with
    | nil => cases hread
    | cons c left =>
        cases hread
        simp

/-- Expects exactly the given characters, of which there is at least one. -/
def literal (first : Char) (others : List Char) : Reader Unit where
  read cs :=
    if (first :: others).isPrefixOf cs then
      some ((), cs.drop (others.length + 1))
    else none
  shortens := by
    intro cs value rest hread
    by_cases hprefix : (first :: others).isPrefixOf cs
    · rw [if_pos hprefix] at hread
      have hlength := (List.isPrefixOf_iff_prefix.mp hprefix).length_le
      cases hread
      simp only [List.length_drop, List.length_cons] at hlength ⊢
      omega
    · rw [if_neg hprefix] at hread
      cases hread

/-- A backslash and the letter that names a character. -/
def named (longName? : Char → Option Char) : Reader Char :=
  ((literal '\\' []).andThen anyChar).mapOption fun name => longName? name.2

/-- One or more accepted characters, as many as there are. -/
def run (accepts : Char → Bool) : Reader (List Char) where
  read cs :=
    if cs.takeWhile accepts = [] then none
    else some (cs.takeWhile accepts, cs.dropWhile accepts)
  shortens := by
    intro cs value rest hread
    by_cases hempty : cs.takeWhile accepts = []
    · rw [if_pos hempty] at hread
      cases hread
    · rw [if_neg hempty] at hread
      cases hread
      have hsplit := congrArg List.length
        (List.takeWhile_append_dropWhile (p := accepts) (l := cs))
      have hpos := List.length_pos_iff.mpr hempty
      rw [List.length_append] at hsplit
      omega

/-- Reads characters up to a delimiter and drops the delimiter. -/
def readUntil (char : Reader Char) (delimiter : Char) (cs : List Char) :
    Option (List Char × List Char) :=
  match cs with
  | [] => none
  | c :: rest =>
      if c = delimiter then some ([], rest)
      else
        match _ : char.read (c :: rest) with
        | none => none
        | some (value, left) =>
            (readUntil char delimiter left).map fun result =>
              (value :: result.1, result.2)
termination_by cs.length
decreasing_by exact char.shortens _ _ _ ‹_›

theorem length_readUntil_lt
    {char : Reader Char} {delimiter : Char} {cs values rest : List Char}
    (hread : readUntil char delimiter cs = some (values, rest)) :
    rest.length < cs.length := by
  induction cs using readUntil.induct char delimiter generalizing values with
  | case1 =>
      simp [readUntil] at hread
  | case2 left =>
      simp only [readUntil, if_pos, Option.some.injEq, Prod.mk.injEq] at hread
      obtain ⟨_, rfl⟩ := hread
      simp
  | case3 c left hne hnone =>
      rw [readUntil, if_neg hne] at hread
      split at hread
      · cases hread
      · simp_all
  | case4 c left hne value middle hchar ih =>
      rw [readUntil, if_neg hne] at hread
      split at hread
      · cases hread
      · next value' middle' hchar' =>
          rw [hchar] at hchar'
          cases hchar'
          obtain ⟨⟨inner, last⟩, hinner, heq⟩ := Option.map_eq_some_iff.mp hread
          cases heq
          have hrest := ih hinner
          have hmiddle := char.shortens _ _ _ hchar
          omega

def enclosed (char : Reader Char) (delimiter : Char) : Reader (List Char) where
  read
    | [] => none
    | c :: rest => if c = delimiter then readUntil char delimiter rest else none
  shortens := by
    intro cs value rest hread
    cases cs with
    | nil => cases hread
    | cons c left =>
        by_cases hc : c = delimiter
        · simp only [if_pos hc] at hread
          have hleft := length_readUntil_lt hread
          simp only [List.length_cons]
          omega
        · simp only [if_neg hc] at hread
          cases hread

end Reader

/-- The marks around and between the items of a list, as they are written and
as they are recognised. -/
structure Marks where
  opening : List Char
  separator : List Char
  closing : List Char
  readOpening : Reader Unit
  readSeparator : Reader Unit
  readClosing : Reader Unit
  read_opening : ∀ rest, readOpening.read (opening ++ rest) = some ((), rest)
  read_separator : ∀ rest, readSeparator.read (separator ++ rest) = some ((), rest)
  read_closing : ∀ rest, readClosing.read (closing ++ rest) = some ((), rest)
  separator_not_closing : ∀ rest, readClosing.read (separator ++ rest) = none

def Marks.write (marks : Marks) (items : List (List Char)) : List Char :=
  marks.opening ++ (marks.separator.intercalate items ++ marks.closing)

/-- Whatever writes no item as nothing, one item alone, and two neighbours with the
separator between them, joins the items. -/
theorem eq_intercalate_map {α : Type} {separator : List Char} {write : α → List Char}
    {join : List α → List Char} (hnil : join [] = []) (hone : ∀ item, join [item] = write item)
    (hnext : ∀ item next rest,
      join (item :: next :: rest) = write item ++ (separator ++ join (next :: rest)))
    (items : List α) : join items = separator.intercalate (items.map write) := by
  induction items with
  | nil => rw [hnil, List.map_nil, List.intercalate_nil]
  | cons item items ih =>
      cases items with
      | nil => rw [hone, List.map_singleton, List.intercalate_singleton]
      | cons next rest =>
          rw [hnext, ih]
          simp only [List.map_cons, List.intercalate_cons_cons, List.append_assoc]

theorem length_le_intercalate
    {separator text : List Char} {items : List (List Char)} (hmem : text ∈ items) :
    text.length ≤ (separator.intercalate items).length := by
  induction items with
  | nil => cases hmem
  | cons item items ih =>
      cases items with
      | nil =>
          have htext := List.mem_singleton.mp hmem
          exact Nat.le_of_eq (by rw [htext, List.intercalate_singleton])
      | cons next items =>
          rw [List.intercalate_cons_cons, List.length_append, List.length_append]
          rcases List.mem_cons.mp hmem with rfl | hrest
          · omega
          · have htail := ih hrest
            omega

theorem mem_intercalate
    {separator : List Char} {items : List (List Char)} {c : Char}
    (hmem : c ∈ separator.intercalate items) :
    c ∈ separator ∨ ∃ text ∈ items, c ∈ text := by
  induction items with
  | nil => cases hmem
  | cons item items ih =>
      cases items with
      | nil =>
          rw [List.intercalate_singleton] at hmem
          exact .inr ⟨item, List.mem_cons_self, hmem⟩
      | cons next items =>
          rw [List.intercalate_cons_cons, List.mem_append, List.mem_append] at hmem
          rcases hmem with (hitem | hseparator) | hrest
          · exact .inr ⟨item, List.mem_cons_self, hitem⟩
          · exact .inl hseparator
          · rcases ih hrest with hseparator | ⟨text, htext, hc⟩
            · exact .inl hseparator
            · exact .inr ⟨text, List.mem_cons_of_mem _ htext, hc⟩

theorem Marks.mem_write
    {marks : Marks} {items : List (List Char)} {c : Char}
    (hmem : c ∈ marks.write items) :
    c ∈ marks.opening ++ marks.separator ++ marks.closing ∨
      ∃ text ∈ items, c ∈ text := by
  simp only [Marks.write, List.mem_append] at hmem ⊢
  rcases hmem with hopening | hitems | hclosing
  · exact .inl (.inl (.inl hopening))
  · rcases mem_intercalate hitems with hseparator | htext
    · exact .inl (.inl (.inr hseparator))
    · exact .inr htext
  · exact .inl (.inr hclosing)

theorem Marks.length_le_write
    (marks : Marks) {text : List Char} {items : List (List Char)}
    (hmem : text ∈ items) :
    marks.opening.length + text.length ≤ (marks.write items).length := by
  have hitems : text.length ≤ (marks.separator.intercalate items).length :=
    length_le_intercalate hmem
  simp only [Marks.write, List.length_append]
  omega

namespace Reader

variable {α : Type} {marks : Marks} {item : Reader α}

def readSeparated (marks : Marks) (item : Reader α) (cs : List Char) :
    Option (List α × List Char) :=
  match _ : item.read cs with
  | none => none
  | some (value, rest) =>
      match marks.readClosing.read rest with
      | some (_, last) => some ([value], last)
      | none =>
          match _ : marks.readSeparator.read rest with
          | none => none
          | some (_, next) =>
              (readSeparated marks item next).map fun result =>
                (value :: result.1, result.2)
termination_by cs.length
decreasing_by
  have hitem := item.shortens _ _ _ ‹item.read cs = _›
  have hseparator := marks.readSeparator.shortens _ _ _
    ‹marks.readSeparator.read rest = _›
  omega

theorem readSeparated_none
    {cs : List Char} (hitem : item.read cs = none) :
    readSeparated marks item cs = none := by
  rw [readSeparated]
  split
  · rfl
  · simp_all

theorem readSeparated_last
    {cs rest last : List Char} {value : α} {mark : Unit}
    (hitem : item.read cs = some (value, rest))
    (hclosing : marks.readClosing.read rest = some (mark, last)) :
    readSeparated marks item cs = some ([value], last) := by
  rw [readSeparated]
  split
  · simp_all
  · next value' rest' hitem' =>
      rw [hitem] at hitem'
      cases hitem'
      simp only [hclosing]

theorem readSeparated_stuck
    {cs rest : List Char} {value : α}
    (hitem : item.read cs = some (value, rest))
    (hclosing : marks.readClosing.read rest = none)
    (hseparator : marks.readSeparator.read rest = none) :
    readSeparated marks item cs = none := by
  rw [readSeparated]
  split
  · rfl
  · next value' rest' hitem' =>
      rw [hitem] at hitem'
      cases hitem'
      simp only [hclosing]
      split
      · rfl
      · simp_all

theorem readSeparated_next
    {cs rest next : List Char} {value : α} {mark : Unit}
    (hitem : item.read cs = some (value, rest))
    (hclosing : marks.readClosing.read rest = none)
    (hseparator : marks.readSeparator.read rest = some (mark, next)) :
    readSeparated marks item cs =
      (readSeparated marks item next).map fun result =>
        (value :: result.1, result.2) := by
  rw [readSeparated]
  split
  · simp_all
  · next value' rest' hitem' =>
      rw [hitem] at hitem'
      cases hitem'
      simp only [hclosing]
      split
      · simp_all
      · next mark' next' hseparator' =>
          rw [hseparator] at hseparator'
          cases hseparator'
          rfl

theorem length_readSeparated_lt
    {cs last : List Char} {values : List α}
    (hread : readSeparated marks item cs = some (values, last)) :
    last.length < cs.length := by
  induction hlength : cs.length using Nat.strongRecOn generalizing cs values with
  | ind length ih =>
      subst hlength
      cases hitem : item.read cs with
      | none =>
          rw [readSeparated_none hitem] at hread
          cases hread
      | some result =>
          obtain ⟨value, rest⟩ := result
          have hrest := item.shortens cs value rest hitem
          cases hclosing : marks.readClosing.read rest with
          | some result =>
              rw [readSeparated_last hitem hclosing] at hread
              cases hread
              have hlast := marks.readClosing.shortens rest _ _ hclosing
              omega
          | none =>
              cases hseparator : marks.readSeparator.read rest with
              | none =>
                  rw [readSeparated_stuck hitem hclosing hseparator] at hread
                  cases hread
              | some result =>
                  have hnext := marks.readSeparator.shortens rest _ _ hseparator
                  rw [readSeparated_next hitem hclosing hseparator] at hread
                  obtain ⟨⟨inner, left⟩, hinner, heq⟩ :=
                    Option.map_eq_some_iff.mp hread
                  cases heq
                  have hlast := ih _ (by omega) hinner rfl
                  omega

def listOf (marks : Marks) (item : Reader α) : Reader (List α) where
  read cs := (marks.readOpening.read cs).bind fun head =>
    match marks.readClosing.read head.2 with
    | some (_, rest) => some ([], rest)
    | none => readSeparated marks item head.2
  shortens := by
    intro cs values rest hread
    obtain ⟨⟨mark, left⟩, hopening, hread⟩ := Option.bind_eq_some_iff.mp hread
    have hleft := marks.readOpening.shortens cs mark left hopening
    cases hclosing : marks.readClosing.read left with
    | some result =>
        obtain ⟨mark, last⟩ := result
        simp only [hclosing, Option.some.injEq, Prod.mk.injEq] at hread
        obtain ⟨_, rfl⟩ := hread
        have hlast := marks.readClosing.shortens left mark last hclosing
        omega
    | none =>
        simp only [hclosing] at hread
        have hlast := length_readSeparated_lt hread
        omega

/-! ## Reading what was written -/

@[simp] theorem read_map {β : Type} (f : α → β) (reader : Reader α) (cs : List Char) :
    (reader.map f).read cs =
      (reader.read cs).map fun result => (f result.1, result.2) := rfl

@[simp] theorem read_mapOption
    {β : Type} (f : α → Option β) (reader : Reader α) (cs : List Char) :
    (reader.mapOption f).read cs =
      (reader.read cs).bind fun result =>
        (f result.1).map fun value => (value, result.2) := rfl

@[simp] theorem read_anyChar (c : Char) (rest : List Char) :
    anyChar.read (c :: rest) = some (c, rest) := rfl

theorem read_orElse_of_some
    {first second : Reader α} {cs : List Char} {result : α × List Char}
    (hfirst : first.read cs = some result) :
    (first.orElse second).read cs = some result := by
  simp [orElse, hfirst]

theorem read_orElse_of_none
    {first second : Reader α} {cs : List Char}
    (hfirst : first.read cs = none) :
    (first.orElse second).read cs = second.read cs := by
  simp [orElse, hfirst]

theorem read_andThen
    {β : Type} {first : Reader α} {second : Reader β} {cs rest last : List Char}
    {head : α} {tail : β}
    (hfirst : first.read cs = some (head, rest))
    (hsecond : second.read rest = some (tail, last)) :
    (first.andThen second).read cs = some ((head, tail), last) := by
  simp [andThen, hfirst, hsecond]

theorem read_skip_cons
    {blank : Char → Bool} {reader : Reader α} {c : Char} {rest : List Char}
    (hc : blank c = false) :
    (reader.skip blank).read (c :: rest) = reader.read (c :: rest) := by
  simp [skip, hc]

@[simp] theorem read_literal (first : Char) (others rest : List Char) :
    (literal first others).read (first :: (others ++ rest)) = some ((), rest) := by
  have hprefix : (first :: others).isPrefixOf (first :: (others ++ rest)) := by
    exact List.isPrefixOf_iff_prefix.mpr ⟨rest, rfl⟩
  simp only [literal, if_pos hprefix, List.drop_succ_cons, List.drop_left]

theorem read_literal_of_ne
    {first c : Char} {others rest : List Char} (hc : first ≠ c) :
    (literal first others).read (c :: rest) = none := by
  simp [literal, hc]

theorem read_named
    (longName? : Char → Option Char) (letter : Char) (rest : List Char) :
    (named longName?).read ('\\' :: letter :: rest) =
      (longName? letter).map fun c => (c, rest) := by
  have hmark := read_literal '\\' [] (letter :: rest)
  rw [List.nil_append] at hmark
  rw [named, read_mapOption, read_andThen hmark (read_anyChar letter rest)]
  rfl

theorem read_run
    {accepts : Char → Bool} {text rest : List Char}
    (htext : ∀ c ∈ text, accepts c = true) (hne : text ≠ [])
    (hrest : ∀ c ∈ rest.head?, accepts c = false) :
    (run accepts).read (text ++ rest) = some (text, rest) := by
  have htake : rest.takeWhile accepts = [] := by
    cases rest with
    | nil => rfl
    | cons c rest => simp [hrest c rfl]
  have hdrop : rest.dropWhile accepts = rest := by
    cases rest with
    | nil => rfl
    | cons c rest => simp [hrest c rfl]
  simp only [run, List.takeWhile_append_of_pos htext,
    List.dropWhile_append_of_pos htext, htake, hdrop, List.append_nil, hne, if_false]

theorem read_run_of_not
    {accepts : Char → Bool} {c : Char} {rest : List Char}
    (hc : accepts c = false) :
    (run accepts).read (c :: rest) = none := by
  simp [run, hc]

theorem readUntil_flatMap
    {char : Reader Char} {delimiter : Char} {spelling : Char → List Char}
    (hchar : ∀ c rest, char.read (spelling c ++ rest) = some (c, rest))
    (hhead : ∀ c, (spelling c).head? ≠ some delimiter)
    (cs rest : List Char) :
    readUntil char delimiter (cs.flatMap spelling ++ delimiter :: rest) =
      some (cs, rest) := by
  induction cs with
  | nil => simp [readUntil]
  | cons c cs ih =>
      rw [List.flatMap_cons, List.append_assoc]
      have hread := hchar c (cs.flatMap spelling ++ delimiter :: rest)
      cases hspelling : spelling c with
      | nil =>
          rw [hspelling] at hread
          exact absurd (char.shortens _ _ _ hread) (Nat.lt_irrefl _)
      | cons d ds =>
          have hd : d ≠ delimiter := by
            intro heq
            apply hhead c
            rw [hspelling, heq]
            rfl
          rw [hspelling, List.cons_append] at hread
          rw [List.cons_append, readUntil, if_neg hd]
          split
          · simp_all
          · next value left hread' =>
              rw [hread] at hread'
              cases hread'
              rw [ih]
              rfl

theorem read_enclosed
    {char : Reader Char} {delimiter : Char} {spelling : Char → List Char}
    (hchar : ∀ c rest, char.read (spelling c ++ rest) = some (c, rest))
    (hhead : ∀ c, (spelling c).head? ≠ some delimiter)
    (cs rest : List Char) :
    (enclosed char delimiter).read
        (delimiter :: (cs.flatMap spelling ++ delimiter :: rest)) =
      some (cs, rest) := by
  simp only [enclosed, if_true]
  exact readUntil_flatMap hchar hhead cs rest

theorem readSeparated_intercalate
    {spelling : α → List Char} {values : List α} {rest : List Char}
    (hitem : ∀ value ∈ values, ∀ mark ∈ [marks.separator, marks.closing], ∀ left,
      item.read (spelling value ++ (mark ++ left)) = some (value, mark ++ left))
    (hne : values ≠ []) :
    readSeparated marks item
        (marks.separator.intercalate (values.map spelling) ++ (marks.closing ++ rest)) =
      some (values, rest) := by
  induction values with
  | nil => exact absurd rfl hne
  | cons value values ih =>
      have hvalue := hitem value List.mem_cons_self
      cases values with
      | nil =>
          simp only [List.map_cons, List.map_nil, List.intercalate_singleton]
          exact readSeparated_last
            (hvalue marks.closing (by simp) rest) (marks.read_closing rest)
      | cons next values =>
          rw [List.map_cons, List.map_cons, List.intercalate_cons_cons,
            List.append_assoc, List.append_assoc, ← List.map_cons]
          rw [readSeparated_next (hvalue marks.separator (by simp) _)
            (marks.separator_not_closing _) (marks.read_separator _)]
          rw [ih (fun other hmem => hitem other (List.mem_cons_of_mem _ hmem))
            (by simp)]
          rfl

theorem read_listOf_of_not_opening
    {cs : List Char} (hopening : marks.readOpening.read cs = none) :
    (listOf marks item).read cs = none := by
  simp [listOf, hopening]

/-- A list is read back when each item is, in front of whatever may follow an
item. -/
theorem read_listOf
    {spelling : α → List Char} {values : List α} (rest : List Char)
    (hitem : ∀ value ∈ values, ∀ mark ∈ [marks.separator, marks.closing], ∀ left,
      item.read (spelling value ++ (mark ++ left)) = some (value, mark ++ left))
    (hstart : ∀ value ∈ values, ∀ left,
      marks.readClosing.read (spelling value ++ left) = none) :
    (listOf marks item).read (marks.write (values.map spelling) ++ rest) =
      some (values, rest) := by
  simp only [listOf, Marks.write, List.append_assoc, marks.read_opening,
    Option.bind_some]
  cases values with
  | nil => simp [marks.read_closing]
  | cons value values =>
      have hclosing : marks.readClosing.read
          (marks.separator.intercalate ((value :: values).map spelling) ++
            (marks.closing ++ rest)) = none := by
        cases values with
        | nil => simpa using hstart value List.mem_cons_self _
        | cons next values =>
            rw [List.map_cons, List.map_cons, List.intercalate_cons_cons,
              List.append_assoc, List.append_assoc]
            exact hstart value List.mem_cons_self _
      rw [hclosing]
      exact readSeparated_intercalate hitem (by simp)

end Reader

/-! ## Letters and code points -/

/-- The letters of ASCII and no others. -/
theorem isAlpha_iff (c : Char) :
    c.isAlpha = true ↔ ('a' ≤ c ∧ c ≤ 'z') ∨ ('A' ≤ c ∧ c ≤ 'Z') := by
  have hletter : c.isAlpha =
      (decide ('A' ≤ c ∧ c ≤ 'Z') || (decide ('a' ≤ c) && decide (c ≤ 'z'))) := rfl
  rw [hletter, Bool.or_eq_true, Bool.and_eq_true, decide_eq_true_eq, decide_eq_true_eq,
    decide_eq_true_eq, Or.comm]

def hexValue? (c : Char) : Option Nat :=
  if '0' ≤ c ∧ c ≤ '9' then some (c.toNat - '0'.toNat)
  else if 'a' ≤ c ∧ c ≤ 'f' then some (c.toNat - 'a'.toNat + 10)
  else if 'A' ≤ c ∧ c ≤ 'F' then some (c.toNat - 'A'.toNat + 10)
  else none

/-- The number that hexadecimal digits stand for, the first one leading. -/
def ofHexDigits (digits : List Char) : Nat :=
  digits.foldl (fun value c => 16 * value + (hexValue? c).getD 0) 0

def charOf? (codePoint : Nat) : Option Char :=
  if codePoint.isValidChar then some (Char.ofNat codePoint) else none

theorem hexValue?_digitChar {n : Nat} (hn : n < 16) :
    hexValue? n.digitChar = some n := by
  have hall : ∀ m < 16, hexValue? (Nat.digitChar m) = some m := by decide
  exact hall n hn

theorem ofHexDigits_toDigits (n : Nat) : ofHexDigits (Nat.toDigits 16 n) = n := by
  induction n using Nat.strongRecOn with
  | ind n ih =>
      by_cases hn : n < 16
      · rw [Nat.toDigits_of_lt_base hn]
        simp [ofHexDigits, hexValue?_digitChar hn]
      · have hlast : n % 16 < 16 := Nat.mod_lt n (by decide)
        have hleading := ih (n / 16) (by omega)
        rw [Nat.toDigits_of_base_le (by decide) (by omega)]
        simp only [ofHexDigits] at hleading
        simp only [ofHexDigits, List.foldl_append, List.foldl_cons, List.foldl_nil,
          hleading, hexValue?_digitChar hlast, Option.getD_some]
        omega

theorem hexValue?_of_mem_toDigits {n : Nat} {c : Char}
    (hc : c ∈ Nat.toDigits 16 n) : (hexValue? c).isSome := by
  induction n using Nat.strongRecOn with
  | ind n ih =>
      by_cases hn : n < 16
      · rw [Nat.toDigits_of_lt_base hn, List.mem_singleton] at hc
        rw [hc, hexValue?_digitChar hn]
        rfl
      · rw [Nat.toDigits_of_base_le (by decide) (by omega), List.mem_append,
          List.mem_singleton] at hc
        rcases hc with hleading | hlast
        · exact ih (n / 16) (by omega) hleading
        · rw [hlast, hexValue?_digitChar (Nat.mod_lt n (by decide))]
          rfl

@[simp] theorem charOf?_toNat (c : Char) : charOf? c.toNat = some c := by
  have hvalid : c.toNat.isValidChar := c.valid
  simp [charOf?, hvalid]

theorem exists_head_toDigits (n : Nat) :
    ∃ c rest, Nat.toDigits 10 n = c :: rest ∧ c.isDigit = true := by
  cases hdigits : Nat.toDigits 10 n with
  | nil => exact absurd hdigits Nat.toDigits_ne_nil
  | cons c rest =>
      refine ⟨c, rest, rfl, ?_⟩
      apply Nat.isDigit_of_mem_toDigits (b := 10) (n := n) (by decide) (by decide)
      simp [hdigits]

theorem not_mem_toDigits {c : Char} (hc : c.isDigit = false) (n : Nat) :
    c ∉ Nat.toDigits 10 n := by
  intro hmem
  have hdigit := Nat.isDigit_of_mem_toDigits (by decide) (by decide) hmem
  rw [hc] at hdigit
  cases hdigit

namespace Reader

def decimal : Reader Nat :=
  (run Char.isDigit).map fun digits => Nat.ofDigitChars 10 digits 0

def hexadecimal : Reader Nat :=
  (run fun c => (hexValue? c).isSome).map ofHexDigits

theorem read_decimal_toDigits
    (n : Nat) {rest : List Char}
    (hrest : ∀ c ∈ rest.head?, c.isDigit = false) :
    decimal.read (Nat.toDigits 10 n ++ rest) = some (n, rest) := by
  have hdigits : ∀ c ∈ Nat.toDigits 10 n, c.isDigit = true := by
    intro c hmem
    exact Nat.isDigit_of_mem_toDigits (by decide) (by decide) hmem
  rw [decimal, read_map, read_run hdigits Nat.toDigits_ne_nil hrest]
  simp

theorem read_hexadecimal_toDigits
    (n : Nat) {rest : List Char}
    (hrest : ∀ c ∈ rest.head?, (hexValue? c).isSome = false) :
    hexadecimal.read (Nat.toDigits 16 n ++ rest) = some (n, rest) := by
  have hdigits : ∀ c ∈ Nat.toDigits 16 n, (hexValue? c).isSome = true := by
    intro c hmem
    exact hexValue?_of_mem_toDigits hmem
  rw [hexadecimal, read_map, read_run hdigits Nat.toDigits_ne_nil hrest]
  simp [ofHexDigits_toDigits]

end Reader

end GalleryNaming.Text
