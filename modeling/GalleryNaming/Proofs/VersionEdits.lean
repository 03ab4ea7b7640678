import GalleryNaming.Proofs.VersionGrammar

/-!
# Versions after an edit

A slip puts one character into a version or takes one out.  The result is a
version again if the slip stays within the digits of one component: a digit may
be put in anywhere, and a digit may be taken out when another one stands directly
beside it.  After every other slip the name is malformed, and it is never empty.

An edit has a place in the name.  The components before that place and those
after it stay as they are, so an edit is judged by the one component around its
place and by the number of components.
-/

namespace GalleryNaming

namespace VersionRule

theorem IsDigit.ne_dot {c : Char} (hc : IsDigit c) : c ≠ '.' := by
  intro heq
  rw [heq] at hc
  exact not_isDigit_dot hc

/-- The character with so many others before it is a digit. -/
def HasDigitAt (value : String) (position : Nat) : Prop :=
  ∃ c ∈ value.toList[position]?, IsDigit c

instance (value : String) (position : Nat) : Decidable (HasDigitAt value position) :=
  Option.decidableExistsMem value.toList[position]?

end VersionRule

/-- A change of one character, with the number of characters before it. -/
inductive Edit where
  | insert (position : Nat) (c : Char)
  | delete (position : Nat)
deriving DecidableEq

namespace Edit

open VersionRule

/-- The name is long enough for the edit.  A character may also be put in at the
end. -/
def FitsIn (value : String) : Edit → Prop
  | .insert position _ => position ≤ value.length
  | .delete position => position < value.length

instance (value : String) : (edit : Edit) → Decidable (edit.FitsIn value)
  | .insert position _ => inferInstanceAs (Decidable (position ≤ value.length))
  | .delete position => inferInstanceAs (Decidable (position < value.length))

def apply (value : String) : Edit → String
  | .insert position c => String.ofList (value.toList.insertIdx position c)
  | .delete position => String.ofList (value.toList.eraseIdx position)

/-- The edit puts in a digit, or it takes one out that stands directly beside
another one. -/
def WithinDigits (value : String) : Edit → Prop
  | .insert _ c => IsDigit c
  | .delete position =>
      HasDigitAt value position ∧
        ((0 < position ∧ HasDigitAt value (position - 1)) ∨ HasDigitAt value (position + 1))

end Edit

namespace VersionRule

/-! ## Pieces of texts that are put together -/

section Pieces

variable {before after : List Char}

theorem splitOn_cons_dot (cs : List Char) :
    ('.' :: cs).splitOn '.' = [] :: cs.splitOn '.' :=
  List.splitOn_append_cons_self [] cs

theorem splitOn_cons_of_ne_dot {c : Char} {piece : List Char} {pieces : List (List Char)}
    (hc : c ≠ '.') (hafter : after.splitOn '.' = piece :: pieces) :
    (c :: after).splitOn '.' = (c :: piece) :: pieces := by
  have hbeq : ¬ (c == '.') = true := by
    rw [beq_iff_eq]
    exact hc
  rw [List.splitOn_cons_eq_if_modifyHead, if_neg hbeq, hafter, List.modifyHead_cons]

/-- Two texts without a dot between them.  The last piece of the first and the
first piece of the second become one.  A dot in front of the first text is an empty
piece of its own.  Any other character goes to the first piece, which may also be
the last one and then grows on both sides. -/
theorem splitOn_append_of_splitOn
    {left right : List (List Char)} {head tail : List Char}
    (hbefore : before.splitOn '.' = left ++ [head])
    (hafter : after.splitOn '.' = tail :: right) :
    (before ++ after).splitOn '.' = left ++ (head ++ tail) :: right := by
  induction before generalizing left head with
  | nil =>
      rw [List.splitOn_nil, ← List.nil_append [[]], List.append_singleton_inj] at hbefore
      rw [← hbefore.1, ← hbefore.2]
      exact hafter
  | cons c before ih =>
      by_cases hdot : c = '.'
      · subst hdot
        rw [splitOn_cons_dot, List.cons_eq_append_iff] at hbefore
        rw [List.cons_append, splitOn_cons_dot]
        rcases hbefore with ⟨_, hhead⟩ | ⟨others, rfl, hothers⟩
        · exact absurd (List.cons.inj hhead).2.symm (List.splitOn_ne_nil '.' before)
        · rw [ih hothers, List.cons_append]
      · obtain ⟨piece, pieces, hpieces⟩ :=
          List.exists_cons_of_ne_nil (List.splitOn_ne_nil '.' before)
        rw [splitOn_cons_of_ne_dot hdot hpieces, List.cons_eq_append_iff] at hbefore
        rw [List.cons_append]
        rcases hbefore with ⟨rfl, hhead⟩ | ⟨others, rfl, hothers⟩
        · obtain ⟨rfl, rfl⟩ := List.cons.inj hhead
          have hlast : before.splitOn '.' = [] ++ [piece] := hpieces
          exact splitOn_cons_of_ne_dot hdot (ih hlast)
        · have hlast : before.splitOn '.' = (piece :: others) ++ [head] := by
            rw [hpieces, hothers, List.cons_append]
          exact splitOn_cons_of_ne_dot hdot (ih hlast)

/-- The last piece ends as the text does, unless that ends with a dot. -/
theorem getLast?_of_splitOn {left : List (List Char)} {head : List Char}
    (hbefore : before.splitOn '.' = left ++ [head]) :
    head.getLast? = before.getLast?.filter (· ≠ '.') := by
  rcases List.eq_nil_or_concat before with hempty | ⟨others, last, hlast⟩
  · rw [hempty, List.splitOn_nil, ← List.nil_append [[]], List.append_singleton_inj] at hbefore
    rw [hempty, ← hbefore.2]
    rfl
  · rw [List.concat_eq_append] at hlast
    rw [hlast] at hbefore ⊢
    rw [List.getLast?_concat]
    by_cases hdot : last = '.'
    · rw [hdot, List.splitOn_append_cons_self, List.splitOn_nil,
        List.append_singleton_inj] at hbefore
      rw [hdot, ← hbefore.2]
      rfl
    · have hothers := List.dropLast_concat_getLast (List.splitOn_ne_nil '.' others)
      have hsingle : [last].splitOn '.' = [[last]] := splitOn_cons_of_ne_dot hdot rfl
      rw [splitOn_append_of_splitOn hothers.symm hsingle, List.append_singleton_inj] at hbefore
      rw [← hbefore.2, List.getLast?_concat, Option.filter_some, if_pos (decide_eq_true hdot)]

/-- The first piece begins as the text does, unless that begins with a dot. -/
theorem head?_of_splitOn {right : List (List Char)} {tail : List Char}
    (hafter : after.splitOn '.' = tail :: right) :
    tail.head? = after.head?.filter (· ≠ '.') := by
  cases after with
  | nil =>
      rw [List.splitOn_nil, List.cons.injEq] at hafter
      rw [← hafter.1]
      rfl
  | cons first after =>
      rw [List.head?_cons]
      by_cases hdot : first = '.'
      · rw [hdot, splitOn_cons_dot, List.cons.injEq] at hafter
        rw [hdot, ← hafter.1]
        rfl
      · obtain ⟨piece, pieces, hpieces⟩ :=
          List.exists_cons_of_ne_nil (List.splitOn_ne_nil '.' after)
        rw [splitOn_cons_of_ne_dot hdot hpieces, List.cons.injEq] at hafter
        rw [← hafter.1, List.head?_cons, Option.filter_some, if_pos (decide_eq_true hdot)]

/-- A character at the end of a text and the one at the end of its piece, where
pieces have digits only. -/
theorem ne_none_iff_exists_isDigit {ofPiece ofText : Option Char}
    (hpiece : ofPiece = ofText.filter (· ≠ '.')) (hdigits : ∀ c ∈ ofPiece, IsDigit c) :
    ofPiece ≠ none ↔ ∃ c ∈ ofText, IsDigit c := by
  rw [Option.ne_none_iff_exists']
  constructor
  · rintro ⟨c, hc⟩
    have hdigit := hdigits c hc
    rw [hpiece, Option.filter_eq_some_iff] at hc
    exact ⟨c, hc.1, hdigit⟩
  · rintro ⟨c, hc, hdigit⟩
    refine ⟨c, ?_⟩
    rw [hpiece, Option.filter_eq_some_iff]
    exact ⟨hc, decide_eq_true hdigit.ne_dot⟩

end Pieces

/-! ## Components around a place -/

/-- The pieces between dots as they lie around a place of a text.  The piece that
the place is in has a part on either side of it. -/
structure Cut (before after : List Char) where
  left : List (List Char)
  head : List Char
  tail : List Char
  right : List (List Char)
  splitOn_before : before.splitOn '.' = left ++ [head]
  splitOn_after : after.splitOn '.' = tail :: right

namespace Cut

variable {before after : List Char} {c : Char} {value : String}

def ofParts (before after : List Char) : Cut before after where
  left := (before.splitOn '.').dropLast
  head := (before.splitOn '.').getLast (List.splitOn_ne_nil '.' before)
  tail := (after.splitOn '.').head (List.splitOn_ne_nil '.' after)
  right := (after.splitOn '.').tail
  splitOn_before := (List.dropLast_concat_getLast _).symm
  splitOn_after := (List.cons_head_tail _).symm

theorem splitOn_append (cut : Cut before after) :
    (before ++ after).splitOn '.' = cut.left ++ (cut.head ++ cut.tail) :: cut.right :=
  splitOn_append_of_splitOn cut.splitOn_before cut.splitOn_after

theorem splitOn_dot (cut : Cut before after) :
    (before ++ '.' :: after).splitOn '.' = cut.left ++ cut.head :: cut.tail :: cut.right := by
  rw [List.splitOn_append_cons_self, cut.splitOn_before, cut.splitOn_after,
    List.append_assoc, List.singleton_append]

/-- What a version needs of the pieces away from the place. -/
structure InVersion (cut : Cut before after) : Prop where
  count : cut.left.length + cut.right.length + 1 = componentCount
  left : ∀ piece ∈ cut.left, IsComponent piece
  right : ∀ piece ∈ cut.right, IsComponent piece

theorem isVersion_iff (cut : Cut before after) (hvalue : value.toList = before ++ after) :
    IsVersion value ↔ cut.InVersion ∧ IsComponent (cut.head ++ cut.tail) := by
  rw [IsVersion, hvalue, cut.splitOn_append, List.length_append, List.length_cons,
    List.forall_mem_append, List.forall_mem_cons, ← Nat.add_assoc]
  constructor
  · rintro ⟨hcount, hleft, hpiece, hright⟩
    exact ⟨⟨hcount, hleft, hright⟩, hpiece⟩
  · rintro ⟨hothers, hpiece⟩
    exact ⟨hothers.count, hothers.left, hpiece, hothers.right⟩

/-- A character other than a dot at the place belongs to the piece there. -/
theorem isVersion_iff_of_ne_dot (cut : Cut before after) (hc : c ≠ '.')
    (hvalue : value.toList = before ++ c :: after) :
    IsVersion value ↔ cut.InVersion ∧ IsComponent (cut.head ++ c :: cut.tail) := by
  let longer : Cut before (c :: after) :=
    { cut with
      tail := c :: cut.tail
      splitOn_after := splitOn_cons_of_ne_dot hc cut.splitOn_after }
  have hothers : longer.InVersion ↔ cut.InVersion :=
    ⟨fun h => ⟨h.count, h.left, h.right⟩, fun h => ⟨h.count, h.left, h.right⟩⟩
  rw [longer.isVersion_iff hvalue, hothers]

/-- A dot at the place makes one component more. -/
theorem count_of_dot (cut : Cut before after) (hvalue : value.toList = before ++ '.' :: after)
    (hversion : IsVersion value) :
    cut.left.length + cut.right.length + 2 = componentCount := by
  have hcount : (value.toList.splitOn '.').length = componentCount := hversion.1
  rw [hvalue, cut.splitOn_dot, List.length_append, List.length_cons, List.length_cons] at hcount
  omega

/-- The component around the place has digits before it exactly when the text has
one directly before it. -/
theorem head_ne_nil_iff (cut : Cut before after) (hdigits : ∀ c ∈ cut.head, IsDigit c) :
    cut.head ≠ [] ↔ ∃ c ∈ before.getLast?, IsDigit c := by
  have hlast := getLast?_of_splitOn cut.splitOn_before
  rw [ne_eq, ← List.getLast?_eq_none_iff]
  exact ne_none_iff_exists_isDigit hlast fun c hc => hdigits c (List.mem_of_mem_getLast? hc)

theorem tail_ne_nil_iff (cut : Cut before after) (hdigits : ∀ c ∈ cut.tail, IsDigit c) :
    cut.tail ≠ [] ↔ ∃ c ∈ after.head?, IsDigit c := by
  have hfirst := head?_of_splitOn cut.splitOn_after
  rw [ne_eq, ← List.head?_eq_none_iff]
  exact ne_none_iff_exists_isDigit hfirst fun c hc => hdigits c (List.mem_of_mem_head? hc)

end Cut

/-! ## One character more or less -/

section Component

variable {head tail : List Char} {c : Char}

theorem isComponent_insert_iff (hpiece : IsComponent (head ++ tail)) :
    IsComponent (head ++ c :: tail) ↔ IsDigit c := by
  have hdigits := hpiece.2
  rw [List.forall_mem_append] at hdigits
  constructor
  · intro hlonger
    exact hlonger.2 c (List.mem_append_right head List.mem_cons_self)
  · intro hdigit
    refine ⟨List.append_ne_nil_of_right_ne_nil head (List.cons_ne_nil c tail), ?_⟩
    exact List.forall_mem_append.mpr
      ⟨hdigits.1, List.forall_mem_cons.mpr ⟨hdigit, hdigits.2⟩⟩

theorem isComponent_delete_iff (hpiece : IsComponent (head ++ c :: tail)) :
    IsComponent (head ++ tail) ↔ head ≠ [] ∨ tail ≠ [] := by
  have hdigits := hpiece.2
  rw [List.forall_mem_append, List.forall_mem_cons] at hdigits
  rw [IsComponent, List.forall_mem_append, ne_eq, List.append_eq_nil_iff,
    Classical.not_and_iff_not_or_not]
  exact and_iff_left ⟨hdigits.1, hdigits.2.2⟩

end Component

variable {before after : List Char} {c : Char} {value edited : String}

theorem isVersion_insert_iff (hvalue : value.toList = before ++ after)
    (hedited : edited.toList = before ++ c :: after) (hversion : IsVersion value) :
    IsVersion edited ↔ IsDigit c := by
  let cut := Cut.ofParts before after
  obtain ⟨hothers, hpiece⟩ := (cut.isVersion_iff hvalue).mp hversion
  by_cases hdot : c = '.'
  · subst hdot
    refine iff_of_false ?_ not_isDigit_dot
    intro hmore
    have hcount := hothers.count
    have hcountMore := cut.count_of_dot hedited hmore
    omega
  · rw [cut.isVersion_iff_of_ne_dot hdot hedited, isComponent_insert_iff hpiece]
    exact and_iff_right hothers

theorem isVersion_delete_iff (hvalue : value.toList = before ++ c :: after)
    (hedited : edited.toList = before ++ after) (hversion : IsVersion value) :
    IsVersion edited ↔
      IsDigit c ∧
        ((∃ d ∈ before.getLast?, IsDigit d) ∨ ∃ d ∈ after.head?, IsDigit d) := by
  let cut := Cut.ofParts before after
  by_cases hdot : c = '.'
  · subst hdot
    refine iff_of_false ?_ (fun hdigit => not_isDigit_dot hdigit.1)
    intro hless
    have hcount := cut.count_of_dot hvalue hversion
    have hcountLess := ((cut.isVersion_iff hedited).mp hless).1.count
    omega
  · obtain ⟨hothers, hpiece⟩ := (cut.isVersion_iff_of_ne_dot hdot hvalue).mp hversion
    have hdigits := hpiece.2
    rw [List.forall_mem_append, List.forall_mem_cons] at hdigits
    obtain ⟨hhead, hdigit, htail⟩ := hdigits
    rw [cut.isVersion_iff hedited, isComponent_delete_iff hpiece, cut.head_ne_nil_iff hhead,
      cut.tail_ne_nil_iff htail, and_iff_right hothers]
    exact (and_iff_right hdigit).symm

theorem length_le_length_intercalate_dot (pieces : List (List Char))
    (hpieces : ∀ piece ∈ pieces, piece ≠ []) :
    pieces.length ≤ (['.'].intercalate pieces).length := by
  induction pieces with
  | nil => exact Nat.zero_le _
  | cons piece pieces ih =>
      have hpiece : 0 < piece.length := List.length_pos_iff.mpr (hpieces piece List.mem_cons_self)
      have hrest := ih fun other hother => hpieces other (List.mem_cons_of_mem piece hother)
      cases pieces with
      | nil =>
          rw [List.intercalate_singleton]
          exact hpiece
      | cons next pieces =>
          rw [List.intercalate_cons_cons, List.length_append, List.length_append,
            List.length_cons]
          omega

theorem IsVersion.componentCount_le_length (hversion : IsVersion value) :
    componentCount ≤ value.length := by
  obtain ⟨pieces, hlength, hpieces, hvalue⟩ := (isVersion_iff_intercalate value).mp hversion
  rw [← String.length_toList, hvalue, ← hlength]
  exact length_le_length_intercalate_dot pieces fun piece hpiece => (hpieces piece hpiece).1

theorem isValid_check_iff (label : String) (log : List Log.Entry) :
    ((checkImageVersionName value label).run log).1.isValid = true ↔ IsVersion value := by
  rw [← violations_eq_nil_iff label value]
  exact List.isEmpty_iff

end VersionRule

/-! ## Edits -/

namespace Edit

open VersionRule

variable {value : String} {position : Nat}

theorem length_le_length_apply (edit : Edit) (value : String) :
    value.length ≤ (edit.apply value).length + 1 := by
  cases edit with
  | insert position c =>
      rw [apply, String.length_ofList, ← String.length_toList]
      exact Nat.le_succ_of_le List.length_le_length_insertIdx
  | delete position =>
      rw [apply, String.length_ofList, ← String.length_toList]
      exact Nat.sub_le_iff_le_add.mp (List.le_length_eraseIdx _ position)

/-- A version has more characters than one edit can take out. -/
theorem apply_ne_empty (hversion : IsVersion value) (edit : Edit) :
    edit.apply value ≠ "" := by
  intro hempty
  have hlength := edit.length_le_length_apply value
  rw [hempty] at hlength
  exact absurd (Nat.le_trans hversion.componentCount_le_length hlength) (by decide)

theorem hasDigitAt_iff (hposition : position < value.toList.length) :
    HasDigitAt value position ↔ IsDigit value.toList[position] := by
  rw [HasDigitAt, List.getElem?_eq_getElem hposition]
  simp

theorem exists_digit_getLast?_take_iff (hposition : position < value.toList.length) :
    (∃ d ∈ (value.toList.take position).getLast?, IsDigit d) ↔
      0 < position ∧ HasDigitAt value (position - 1) := by
  rw [List.getLast?_take]
  cases position with
  | zero => simp
  | succ position =>
      have hprevious : position < value.toList.length := Nat.lt_of_succ_lt hposition
      rw [if_neg (Nat.succ_ne_zero position), Nat.add_sub_cancel, HasDigitAt,
        List.getElem?_eq_getElem hprevious, Option.some_or]
      exact (and_iff_right (Nat.succ_pos position)).symm

theorem isVersion_apply_iff (hversion : IsVersion value) {edit : Edit}
    (hfits : edit.FitsIn value) :
    IsVersion (edit.apply value) ↔ edit.WithinDigits value := by
  cases edit with
  | insert position c =>
      have hposition : position ≤ value.toList.length := by
        rw [String.length_toList]
        exact hfits
      obtain ⟨before, after, hvalue, _, hinsert⟩ :=
        List.exists_of_modifyTailIdx (List.cons c) hposition
      have hedited : ((insert position c).apply value).toList = before ++ c :: after := by
        rw [apply, String.toList_ofList]
        exact hinsert
      exact isVersion_insert_iff hvalue hedited hversion
  | delete position =>
      have hposition : position < value.toList.length := by
        rw [String.length_toList]
        exact hfits
      have hvalue : value.toList = value.toList.take position ++
          value.toList[position] :: value.toList.drop (position + 1) := by
        rw [← List.drop_eq_getElem_cons hposition, List.take_append_drop]
      have hedited : ((delete position).apply value).toList =
          value.toList.take position ++ value.toList.drop (position + 1) := by
        rw [apply, String.toList_ofList, List.eraseIdx_eq_take_drop_succ]
      rw [isVersion_delete_iff hvalue hedited hversion, ← hasDigitAt_iff hposition,
        exists_digit_getLast?_take_iff hposition, List.head?_drop]
      rfl

end Edit

/-- An accepted version is checked again after one edit of it.  It is accepted as
long as the edit stays within digits, and otherwise it is malformed. -/
theorem check_edited_version {label value : String} (earlier later : List Log.Entry)
    (haccepted : ((checkImageVersionName value label).run earlier).1.isValid = true)
    (edit : Edit) (hfits : edit.FitsIn value) :
    let report := ((checkImageVersionName (edit.apply value) label).run later).1
    (report.isValid = true ↔ edit.WithinDigits value) ∧
    (report.isValid = false →
      report.violations = [.malformedVersionFormat label (edit.apply value)]) := by
  intro report
  have hversion : VersionRule.IsVersion value :=
    (VersionRule.isValid_check_iff label earlier).mp haccepted
  have hvalid : report.isValid = true ↔ VersionRule.IsVersion (edit.apply value) :=
    VersionRule.isValid_check_iff label later
  constructor
  · rw [hvalid, Edit.isVersion_apply_iff hversion hfits]
  · intro hrejected
    have hmalformed : ¬ VersionRule.IsVersion (edit.apply value) := by
      rw [← hvalid, hrejected]
      exact Bool.false_ne_true
    have hviolations : report.violations = VersionRule.violations label (edit.apply value) := rfl
    rw [hviolations, VersionRule.violations_eq, if_neg (edit.apply_ne_empty hversion),
      if_neg hmalformed]

/-- A component of one digit loses it, a digit that is not of ASCII is put in at
the end, and one of two digits is taken out. -/
theorem check_edited_version_lone_digit :
    ((checkImageVersionName "10.2.3" "version").run []).1.isValid = true ∧
    (Edit.delete 3).FitsIn "10.2.3" ∧
    ((checkImageVersionName ((Edit.delete 3).apply "10.2.3") "version").run []).1.violations =
      [.malformedVersionFormat "version" "10..3"] ∧
    (Edit.insert 6 '٣').FitsIn "10.2.3" ∧
    ((checkImageVersionName ((Edit.insert 6 '٣').apply "10.2.3") "version").run []).1.violations =
      [.malformedVersionFormat "version" "10.2.3٣"] ∧
    (Edit.delete 1).FitsIn "10.2.3" ∧
    ((checkImageVersionName ((Edit.delete 1).apply "10.2.3") "version").run []).1.isValid =
      true := by
  have haccepted : ((checkImageVersionName "10.2.3" "version").run []).1.isValid = true := by
    decide
  have hlone : (Edit.delete 3).FitsIn "10.2.3" := by decide
  have hforeign : (Edit.insert 6 '٣').FitsIn "10.2.3" := by decide
  have hpaired : (Edit.delete 1).FitsIn "10.2.3" := by decide
  have hwithin : (Edit.delete 1).WithinDigits "10.2.3" :=
    ⟨by decide, .inl ⟨by decide, by decide⟩⟩
  have hlonely := (check_edited_version [] [] haccepted (.delete 3) hlone).2 (by decide)
  have hmixed := (check_edited_version [] [] haccepted (.insert 6 '٣') hforeign).2 (by decide)
  have hshorter := (check_edited_version [] [] haccepted (.delete 1) hpaired).1.mpr hwithin
  exact ⟨haccepted, hlone, hlonely, hforeign, hmixed, hpaired, hshorter⟩

end GalleryNaming
