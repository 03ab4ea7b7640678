import GalleryNaming.Dump
import GalleryNaming.Proofs.QuotedReading

/-!
# Reading dumps

A dump is read back by its first character: a quote begins a text or a
character, a digit a number, a bracket a list, and anything else the name of a
record.  Names are made of letters and underscores; what the library dumps is
named so, and then the names end where the marks after them begin.

Reading undoes writing in front of any rest that cannot prolong the dump.  Only
numbers and records without fields have an open end.  As for documents, the
induction is on the nesting limit, and no dump nests deeper than it is long.
-/

namespace GalleryNaming.Dump

open Text

def isNameChar (c : Char) : Bool :=
  c.isAlpha || c = '_'

def IsName (name : String) : Prop :=
  name.toList ≠ [] ∧ ∀ c ∈ name.toList, isNameChar c = true

instance (name : String) : Decidable (IsName name) :=
  decidable_of_iff ((!name.toList.isEmpty && name.toList.all isNameChar) = true)
    (by simp [IsName])

/-- Every record and every field in the dump has a proper name. -/
inductive Named : Dump → Prop
  | text (value : String) : Named (.text value)
  | char (value : Char) : Named (.char value)
  | nat (value : Nat) : Named (.nat value)
  | list (items : List Dump) (hitems : ∀ item ∈ items, Named item) :
      Named (.list items)
  | record (name : String) (fields : List (String × Dump)) (hname : IsName name)
      (hkeys : ∀ field ∈ fields, IsName field.1)
      (hvalues : ∀ field ∈ fields, Named field.2) : Named (.record name fields)

/-- The rest of a text cannot be taken for more of the dump. -/
def Ends : Dump → List Char → Prop
  | .nat _, rest => ∀ c ∈ rest.head?, c.isDigit = false
  | .record _ [], rest =>
      (∀ c ∈ rest.head?, isNameChar c = false) ∧ ¬ [' ', '\x7b', ' '] <+: rest
  | _, _ => True

def textReader : Reader String :=
  (quoted '\x22').map String.ofList

def charReader : Reader Char :=
  (quoted '\x27').mapOption single?

def nameReader : Reader String :=
  (Reader.run isNameChar).map String.ofList

def listMarks : Marks where
  opening := ['[']
  separator := [',', ' ']
  closing := [']']
  readOpening := Reader.literal '[' []
  readSeparator := Reader.literal ',' [' ']
  readClosing := Reader.literal ']' []
  read_opening := Reader.read_literal '[' []
  read_separator := Reader.read_literal ',' [' ']
  read_closing := Reader.read_literal ']' []
  separator_not_closing := fun _ => Reader.read_literal_of_ne (by decide)

def fieldMarks : Marks where
  opening := [' ', '\x7b', ' ']
  separator := [',', ' ']
  closing := [' ', '\x7d']
  readOpening := Reader.literal ' ' ['\x7b', ' ']
  readSeparator := Reader.literal ',' [' ']
  readClosing := Reader.literal ' ' ['\x7d']
  read_opening := Reader.read_literal ' ' ['\x7b', ' ']
  read_separator := Reader.read_literal ',' [' ']
  read_closing := Reader.read_literal ' ' ['\x7d']
  separator_not_closing := fun _ => Reader.read_literal_of_ne (by decide)

def fieldReader (value : Reader Dump) : Reader (String × Dump) :=
  (nameReader.andThen ((Reader.literal ':' [' ']).andThen value)).map fun field =>
    (field.1, field.2.2)

def recordReader (value : Reader Dump) : Reader Dump :=
  ((nameReader.andThen (Reader.listOf fieldMarks (fieldReader value))).map
    fun parts => .record parts.1 parts.2).orElse
      (nameReader.map fun name => .record name [])

/-- Dumps nested at most so deep. -/
def dumpReader : Nat → Reader Dump
  | 0 => Reader.fail
  | limit + 1 =>
      (textReader.map Dump.text).orElse
        ((charReader.map Dump.char).orElse
          ((Reader.decimal.map Dump.nat).orElse
            (((Reader.listOf listMarks (dumpReader limit)).map Dump.list).orElse
              (recordReader (dumpReader limit)))))

/-- Reads the dump in front of a text. -/
def read (text : List Char) : Option (Dump × List Char) :=
  (dumpReader text.length).read text

/-! ## How dumps are written -/

def writeField (field : String × Dump) : List Char :=
  field.1.toList ++ ':' :: ' ' :: field.2.chars

theorem itemChars_eq_intercalate (items : List Dump) :
    itemChars items = [',', ' '].intercalate (items.map chars) := by
  apply eq_intercalate_map
  · rw [itemChars]
  · intro item
    rw [itemChars]
  · intro item next rest
    rw [itemChars, List.cons_append, List.singleton_append]

theorem fieldChars_eq_intercalate (fields : List (String × Dump)) :
    fieldChars fields = [',', ' '].intercalate (fields.map writeField) := by
  apply eq_intercalate_map
  · rw [fieldChars]
  · intro field
    rw [fieldChars, writeField]
  · intro field next rest
    rw [fieldChars, writeField, List.append_assoc, List.cons_append, List.cons_append,
      List.cons_append, List.singleton_append]

theorem chars_list (items : List Dump) :
    (Dump.list items).chars = listMarks.write (items.map chars) := by
  rw [chars, itemChars_eq_intercalate]
  rfl

theorem chars_record_nil (name : String) : (Dump.record name []).chars = name.toList := by
  rw [chars]

theorem chars_record {fields : List (String × Dump)} (name : String) (hne : fields ≠ []) :
    (Dump.record name fields).chars =
      name.toList ++ fieldMarks.write (fields.map writeField) := by
  cases fields with
  | nil => exact absurd rfl hne
  | cons field fields =>
      rw [chars, fieldChars_eq_intercalate]
      rfl

theorem length_chars_lt_list {items : List Dump} {item : Dump} (hmem : item ∈ items) :
    item.chars.length < (Dump.list items).chars.length := by
  have hle := listMarks.length_le_write (List.mem_map_of_mem (f := chars) hmem)
  rw [chars_list]
  simp only [listMarks, List.length_singleton] at hle ⊢
  omega

theorem length_chars_lt_record
    (name : String) {fields : List (String × Dump)} {field : String × Dump}
    (hmem : field ∈ fields) :
    field.2.chars.length < (Dump.record name fields).chars.length := by
  have hle := fieldMarks.length_le_write (List.mem_map_of_mem (f := writeField) hmem)
  rw [chars_record name (List.ne_nil_of_mem hmem), List.length_append]
  simp only [fieldMarks, writeField, List.length_append, List.length_cons] at hle ⊢
  omega

theorem IsName.exists_head {name : String} (hname : IsName name) :
    ∃ c rest, name.toList = c :: rest ∧ isNameChar c = true := by
  obtain ⟨hne, hall⟩ := hname
  cases hchars : name.toList with
  | nil => exact absurd hchars hne
  | cons c rest => exact ⟨c, rest, rfl, hall c (by simp [hchars])⟩

theorem not_isDigit_of_isNameChar {c : Char} (hc : isNameChar c = true) :
    c.isDigit = false := by
  have habove : ∀ first : Char, ¬ first ≤ '9' → first ≤ c → c.isDigit = false := by
    intro first hfirst hle
    have hdigit : c.isDigit = (decide ('0' ≤ c) && decide (c ≤ '9')) := rfl
    rw [hdigit, Bool.and_eq_false_iff]
    exact .inr (decide_eq_false fun hnine => hfirst (Char.le_trans hle hnine))
  simp only [isNameChar, Bool.or_eq_true, decide_eq_true_eq, isAlpha_iff] at hc
  rcases hc with (hlower | hupper) | rfl
  · exact habove 'a' (by decide) hlower.1
  · exact habove 'A' (by decide) hupper.1
  · decide

theorem ne_of_isNameChar {c d : Char} (hc : isNameChar c = true)
    (hd : isNameChar d = false) : d ≠ c := by
  rintro rfl
  rw [hc] at hd
  cases hd

theorem Named.exists_head {dump : Dump} (hnamed : dump.Named) :
    ∃ c rest, dump.chars = c :: rest ∧ ']' ≠ c := by
  cases hnamed with
  | text value => exact ⟨_, _, by rw [chars, enclose], by decide⟩
  | char value => exact ⟨_, _, by rw [chars, enclose], by decide⟩
  | nat value =>
      obtain ⟨c, rest, hdigits, hdigit⟩ := exists_head_toDigits value
      refine ⟨c, rest, by rw [chars, hdigits], ?_⟩
      rintro rfl
      simp at hdigit
  | list items hitems => exact ⟨_, _, by rw [chars], by decide⟩
  | record name fields hname hkeys hvalues =>
      obtain ⟨c, rest, hchars, hc⟩ := hname.exists_head
      cases fields with
      | nil => exact ⟨c, rest, by rw [chars, hchars], ne_of_isNameChar hc (by decide)⟩
      | cons field fields =>
          exact ⟨c, _, by rw [chars, hchars, List.cons_append],
            ne_of_isNameChar hc (by decide)⟩

/-- What stands behind an item of a list or behind a field ends it. -/
theorem ends_mark {mark : List Char}
    (hmark : mark = [',', ' '] ∨ mark = [']'] ∨ mark = [' ', '\x7d']) (dump : Dump)
    (left : List Char) : dump.Ends (mark ++ left) := by
  cases dump with
  | text value => trivial
  | char value => trivial
  | nat value =>
      intro c hc
      rcases hmark with rfl | rfl | rfl <;> cases hc <;> decide
  | list items => trivial
  | record name fields =>
      cases fields with
      | nil =>
          constructor
          · intro c hc
            rcases hmark with rfl | rfl | rfl <;> cases hc <;> decide
          · rcases hmark with rfl | rfl | rfl <;> simp
      | cons field fields => trivial

/-! ## Reading what was written -/

theorem read_quoted_of_ne {delimiter c : Char} {rest : List Char} (hc : c ≠ delimiter) :
    (quoted delimiter).read (c :: rest) = none := by
  simp [quoted, Reader.enclosed, hc]

theorem read_nameReader {name : String} (hname : IsName name) {rest : List Char}
    (hrest : ∀ c ∈ rest.head?, isNameChar c = false) :
    nameReader.read (name.toList ++ rest) = some (name, rest) := by
  rw [nameReader, Reader.read_map, Reader.read_run hname.2 hname.1 hrest]
  simp

theorem read_fieldReader
    {value : Reader Dump} {field : String × Dump} {rest : List Char}
    (hkey : IsName field.1)
    (hvalue : value.read (field.2.chars ++ rest) = some (field.2, rest)) :
    (fieldReader value).read (writeField field ++ rest) = some (field, rest) := by
  have hcolon : ∀ c ∈ (':' :: ' ' :: (field.2.chars ++ rest)).head?,
      isNameChar c = false := by
    intro c hc
    cases hc
    decide
  have hmark := Reader.read_literal ':' [' '] (field.2.chars ++ rest)
  simp only [List.cons_append, List.nil_append] at hmark
  simp only [fieldReader, Reader.read_map, writeField, List.append_assoc,
    List.cons_append]
  rw [Reader.read_andThen (read_nameReader hkey hcolon)
    (Reader.read_andThen hmark hvalue)]
  rfl

theorem read_dumpReader_text (limit : Nat) (value : String) (rest : List Char) :
    (dumpReader (limit + 1)).read ((Dump.text value).chars ++ rest) =
      some (.text value, rest) := by
  apply Reader.read_orElse_of_some
  rw [textReader, Reader.read_map, Reader.read_map, chars, read_enclose (.inl rfl)]
  simp

theorem read_dumpReader_char (limit : Nat) (value : Char) (rest : List Char) :
    (dumpReader (limit + 1)).read ((Dump.char value).chars ++ rest) =
      some (.char value, rest) := by
  have hchar : charReader.read ((Dump.char value).chars ++ rest) = some (value, rest) := by
    rw [charReader, Reader.read_mapOption, chars, read_enclose (.inr rfl)]
    rfl
  have htext : textReader.read ((Dump.char value).chars ++ rest) = none := by
    rw [textReader, Reader.read_map, chars, enclose, List.cons_append,
      read_quoted_of_ne (by decide)]
    rfl
  rw [dumpReader, Reader.read_orElse_of_none]
  · apply Reader.read_orElse_of_some
    rw [Reader.read_map, hchar]
    rfl
  · rw [Reader.read_map, htext]
    rfl

/-- Only texts and characters begin with a quote. -/
theorem read_dumpReader_of_not_quote
    {limit : Nat} {c : Char} {rest : List Char} (htext : c ≠ '\x22')
    (hchar : c ≠ '\x27') :
    (dumpReader (limit + 1)).read (c :: rest) =
      ((Reader.decimal.map Dump.nat).orElse
        (((Reader.listOf listMarks (dumpReader limit)).map Dump.list).orElse
          (recordReader (dumpReader limit)))).read (c :: rest) := by
  rw [dumpReader, Reader.read_orElse_of_none, Reader.read_orElse_of_none]
  · rw [charReader, Reader.read_map, Reader.read_mapOption, read_quoted_of_ne hchar]
    rfl
  · rw [textReader, Reader.read_map, Reader.read_map, read_quoted_of_ne htext]
    rfl

theorem read_decimal_of_not_digit {c : Char} {rest : List Char}
    (hc : c.isDigit = false) :
    (Reader.decimal.map Dump.nat).read (c :: rest) = none := by
  rw [Reader.read_map, Reader.decimal, Reader.read_map, Reader.read_run_of_not hc]
  rfl

theorem read_dumpReader_nat
    (limit value : Nat) {rest : List Char} (hrest : (Dump.nat value).Ends rest) :
    (dumpReader (limit + 1)).read ((Dump.nat value).chars ++ rest) =
      some (.nat value, rest) := by
  obtain ⟨c, left, hdigits, hdigit⟩ := exists_head_toDigits value
  have hread := Reader.read_decimal_toDigits value hrest
  rw [chars]
  rw [hdigits, List.cons_append] at hread ⊢
  rw [read_dumpReader_of_not_quote]
  · apply Reader.read_orElse_of_some
    rw [Reader.read_map, hread]
    rfl
  · rintro rfl
    simp at hdigit
  · rintro rfl
    simp at hdigit

theorem read_dumpReader_list
    {limit : Nat} {items : List Dump} (hnamed : ∀ item ∈ items, item.Named)
    (hitem : ∀ item ∈ items, ∀ left, item.Ends left →
      (dumpReader limit).read (item.chars ++ left) = some (item, left))
    (rest : List Char) :
    (dumpReader (limit + 1)).read ((Dump.list items).chars ++ rest) =
      some (.list items, rest) := by
  have hstart : ∀ item ∈ items, ∀ left,
      listMarks.readClosing.read (item.chars ++ left) = none := by
    intro item hmem left
    obtain ⟨c, others, hchars, hc⟩ := (hnamed item hmem).exists_head
    rw [hchars, List.cons_append]
    exact Reader.read_literal_of_ne hc
  have hbefore : ∀ item ∈ items, ∀ mark ∈ [listMarks.separator, listMarks.closing],
      ∀ left, (dumpReader limit).read (item.chars ++ (mark ++ left)) =
        some (item, mark ++ left) := by
    intro item hmem mark hmark left
    apply hitem item hmem
    apply ends_mark
    rcases List.mem_pair.mp hmark with hseparator | hclosing
    · exact .inl hseparator
    · exact .inr (.inl hclosing)
  have hlist := Reader.read_listOf rest hbefore hstart
  rw [← chars_list] at hlist
  have hhead : (Dump.list items).chars ++ rest = '[' :: (itemChars items ++ ']' :: rest) := by
    simp [chars]
  rw [hhead] at hlist ⊢
  rw [read_dumpReader_of_not_quote (by decide) (by decide),
    Reader.read_orElse_of_none (read_decimal_of_not_digit (by decide))]
  apply Reader.read_orElse_of_some
  rw [Reader.read_map, hlist]
  rfl

/-- A letter begins a record. -/
theorem read_dumpReader_of_isNameChar
    {limit : Nat} {c : Char} {rest : List Char} (hc : isNameChar c = true) :
    (dumpReader (limit + 1)).read (c :: rest) =
      (recordReader (dumpReader limit)).read (c :: rest) := by
  have htext : c ≠ '\x22' := (ne_of_isNameChar hc (by decide)).symm
  have hchar : c ≠ '\x27' := (ne_of_isNameChar hc (by decide)).symm
  have hlist : (Reader.listOf listMarks (dumpReader limit)).read (c :: rest) = none := by
    apply Reader.read_listOf_of_not_opening
    exact Reader.read_literal_of_ne (ne_of_isNameChar hc (by decide))
  rw [read_dumpReader_of_not_quote htext hchar,
    Reader.read_orElse_of_none (read_decimal_of_not_digit (not_isDigit_of_isNameChar hc)),
    Reader.read_orElse_of_none]
  rw [Reader.read_map, hlist]
  rfl

theorem read_recordReader_nil
    (value : Reader Dump) {name : String} (hname : IsName name) {rest : List Char}
    (hrest : (Dump.record name []).Ends rest) :
    (recordReader value).read (name.toList ++ rest) = some (.record name [], rest) := by
  have hread := read_nameReader hname hrest.1
  have hopening : fieldMarks.readOpening.read rest = none := by
    have hprefix : ¬ [' ', '\x7b', ' '].isPrefixOf rest = true := by
      rw [List.isPrefixOf_iff_prefix]
      exact hrest.2
    simp only [fieldMarks, Reader.literal, if_neg hprefix]
  have hfields : (nameReader.andThen (Reader.listOf fieldMarks (fieldReader value))).read
      (name.toList ++ rest) = none := by
    simp [Reader.andThen, hread, Reader.read_listOf_of_not_opening hopening]
  rw [recordReader, Reader.read_orElse_of_none]
  · rw [Reader.read_map, hread]
    rfl
  · rw [Reader.read_map, hfields]
    rfl

theorem read_recordReader
    {value : Reader Dump} {name : String} {fields : List (String × Dump)}
    (hname : IsName name) (hne : fields ≠ [])
    (hkeys : ∀ field ∈ fields, IsName field.1)
    (hvalue : ∀ field ∈ fields, ∀ left, field.2.Ends left →
      value.read (field.2.chars ++ left) = some (field.2, left))
    (rest : List Char) :
    (recordReader value).read ((Dump.record name fields).chars ++ rest) =
      some (.record name fields, rest) := by
  have hstart : ∀ field ∈ fields, ∀ left,
      fieldMarks.readClosing.read (writeField field ++ left) = none := by
    intro field hmem left
    obtain ⟨c, others, hchars, hc⟩ := (hkeys field hmem).exists_head
    rw [writeField, hchars, List.cons_append, List.cons_append]
    exact Reader.read_literal_of_ne (ne_of_isNameChar hc (by decide))
  have hbefore : ∀ field ∈ fields, ∀ mark ∈ [fieldMarks.separator, fieldMarks.closing],
      ∀ left, (fieldReader value).read (writeField field ++ (mark ++ left)) =
        some (field, mark ++ left) := by
    intro field hmem mark hmark left
    apply read_fieldReader (hkeys field hmem)
    apply hvalue field hmem
    apply ends_mark
    rcases List.mem_pair.mp hmark with hseparator | hclosing
    · exact .inl hseparator
    · exact .inr (.inr hclosing)
  have hfields := Reader.read_listOf rest hbefore hstart
  have hspace : ∀ c ∈ (fieldMarks.write (fields.map writeField) ++ rest).head?,
      isNameChar c = false := by
    intro c hc
    cases hc
    decide
  rw [chars_record name hne, List.append_assoc, recordReader]
  apply Reader.read_orElse_of_some
  rw [Reader.read_map, Reader.read_andThen (read_nameReader hname hspace) hfields]
  rfl

theorem read_dumpReader
    {limit : Nat} {dump : Dump} {rest : List Char}
    (hlimit : dump.chars.length ≤ limit) (hnamed : dump.Named) (hrest : dump.Ends rest) :
    (dumpReader limit).read (dump.chars ++ rest) = some (dump, rest) := by
  induction limit generalizing dump rest with
  | zero =>
      obtain ⟨c, left, hchars, _⟩ := hnamed.exists_head
      rw [hchars] at hlimit
      cases hlimit
  | succ limit ih =>
      cases hnamed with
      | text value => exact read_dumpReader_text limit value rest
      | char value => exact read_dumpReader_char limit value rest
      | nat value => exact read_dumpReader_nat limit value hrest
      | list items hitems =>
          apply read_dumpReader_list hitems
          intro item hmem left hleft
          have hlength := length_chars_lt_list hmem
          exact ih (by omega) (hitems item hmem) hleft
      | record name fields hname hkeys hvalues =>
          obtain ⟨c, others, hchars, hc⟩ := hname.exists_head
          by_cases hne : fields = []
          · subst hne
            have hrecord := read_recordReader_nil (dumpReader limit) hname hrest
            rw [chars_record_nil]
            rw [hchars, List.cons_append] at hrecord ⊢
            rw [read_dumpReader_of_isNameChar hc, hrecord]
          · have hvalue : ∀ field ∈ fields, ∀ left, field.2.Ends left →
                (dumpReader limit).read (field.2.chars ++ left) = some (field.2, left) := by
              intro field hmem left hleft
              have hlength := length_chars_lt_record name hmem
              exact ih (by omega) (hvalues field hmem) hleft
            have hrecord := read_recordReader hname hne hkeys hvalue rest
            rw [chars_record name hne, hchars, List.cons_append, List.cons_append]
              at hrecord ⊢
            rw [read_dumpReader_of_isNameChar hc, hrecord]

/-- A dump is read back in front of any rest that cannot prolong it. -/
theorem read_chars
    {dump : Dump} {rest : List Char} (hnamed : dump.Named) (hrest : dump.Ends rest) :
    read (dump.chars ++ rest) = some (dump, rest) := by
  apply read_dumpReader _ hnamed hrest
  rw [List.length_append]
  exact Nat.le_add_right _ _

end GalleryNaming.Dump
