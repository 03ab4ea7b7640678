import GalleryNaming.Json
import GalleryNaming.Proofs.TextReading

/-!
# Reading JSON documents

A reader for the documents that the library writes: texts with every escape
that JSON has, natural numbers, arrays, and objects whose members keep their
order and their repetitions.  Blanks may stand in front of any token.

Reading undoes writing in front of any rest.  A number is the only document
that the rest could prolong, so for it the rest must not begin with a digit.
The induction is on the nesting limit: a document is longer than each of its
parts, and a limit as long as the text is never reached.
-/

namespace GalleryNaming.Json

open Text

def isBlank (c : Char) : Bool :=
  c = ' ' || c = '\t' || c = '\n' || c = '\r'

/-- The character that a letter after a backslash stands for. -/
def longName? (letter : Char) : Option Char :=
  if letter = '\x22' then some '\x22'
  else if letter = '\\' then some '\\'
  else if letter = '/' then some '/'
  else if letter = 'b' then some '\x08'
  else if letter = 'f' then some '\x0c'
  else if letter = 'n' then some '\n'
  else if letter = 'r' then some '\r'
  else if letter = 't' then some '\t'
  else none

def hexUnit : Reader Nat where
  read
    | a :: b :: c :: d :: rest =>
        if [a, b, c, d].all fun digit => (hexValue? digit).isSome then
          some (ofHexDigits [a, b, c, d], rest)
        else none
    | _ => none
  shortens := by
    intro cs value rest hread
    split at hread
    · split at hread
      · cases hread
        simp only [List.length_cons]
        omega
      · cases hread
    · cases hread

def escapedUnit : Reader Nat :=
  ((Reader.literal '\\' ['u']).andThen hexUnit).map Prod.snd

/-- The character above the basic plane that two surrogates stand for. -/
def ofSurrogates? (units : Nat × Nat) : Option Char :=
  if 0xd800 ≤ units.1 ∧ units.1 < 0xdc00 ∧ 0xdc00 ≤ units.2 ∧ units.2 < 0xe000 then
    charOf? (0x10000 + (units.1 - 0xd800) * 0x400 + (units.2 - 0xdc00))
  else none

def plainChar? (c : Char) : Option Char :=
  if c = '\\' ∨ c.toNat < 0x20 then none else some c

def charReader : Reader Char :=
  (Reader.anyChar.mapOption plainChar?).orElse
    ((Reader.named longName?).orElse
      ((escapedUnit.mapOption charOf?).orElse
        ((escapedUnit.andThen escapedUnit).mapOption ofSurrogates?)))

def textReader : Reader String :=
  ((Reader.enclosed charReader '\x22').map String.ofList).skip isBlank

def natReader : Reader Nat :=
  Reader.decimal.skip isBlank

def punctuation (mark : Char) : Reader Unit :=
  (Reader.literal mark []).skip isBlank

theorem read_punctuation
    {mark : Char} (hmark : isBlank mark = false) (rest : List Char) :
    (punctuation mark).read (mark :: rest) = some ((), rest) := by
  rw [punctuation, Reader.read_skip_cons hmark]
  exact Reader.read_literal mark [] rest

theorem read_punctuation_of_ne
    {mark c : Char} (hc : isBlank c = false) (hne : mark ≠ c) (rest : List Char) :
    (punctuation mark).read (c :: rest) = none := by
  rw [punctuation, Reader.read_skip_cons hc]
  exact Reader.read_literal_of_ne hne

def commaMarks
    (opening closing : Char) (hopening : isBlank opening = false)
    (hclosing : isBlank closing = false) (hne : closing ≠ ',') : Marks where
  opening := [opening]
  separator := [',']
  closing := [closing]
  readOpening := punctuation opening
  readSeparator := punctuation ','
  readClosing := punctuation closing
  read_opening := read_punctuation hopening
  read_separator := read_punctuation (by decide)
  read_closing := read_punctuation hclosing
  separator_not_closing := read_punctuation_of_ne (by decide) hne

def arrayMarks : Marks :=
  commaMarks '[' ']' (by decide) (by decide) (by decide)

def objectMarks : Marks :=
  commaMarks '\x7b' '\x7d' (by decide) (by decide) (by decide)

def memberReader (value : Reader Json) : Reader (String × Json) :=
  (textReader.andThen ((punctuation ':').andThen value)).map fun member =>
    (member.1, member.2.2)

/-- Documents nested at most so deep. -/
def documentReader : Nat → Reader Json
  | 0 => Reader.fail
  | limit + 1 =>
      (textReader.map Json.text).orElse
        ((natReader.map Json.nat).orElse
          (((Reader.listOf arrayMarks (documentReader limit)).map Json.array).orElse
            ((Reader.listOf objectMarks (memberReader (documentReader limit))).map
              Json.object)))

/-- Reads the document in front of a text.  A text cannot nest deeper than it
is long. -/
def read (text : List Char) : Option (Json × List Char) :=
  (documentReader text.length).read text

theorem longName?_of_shortName?
    {c letter : Char} (hc : shortName? c = some letter) :
    longName? letter = some c := by
  unfold shortName? at hc
  repeat' split at hc
  all_goals cases hc
  all_goals
    subst c
    decide

theorem ne_of_shortName?_eq_none
    {c : Char} (hc : shortName? c = none) :
    c ≠ '\x22' ∧ c ≠ '\\' := by
  constructor <;> rintro rfl <;> simp [shortName?] at hc

theorem read_hexUnit_control
    {c : Char} (hc : c.toNat < 0x20) (rest : List Char) :
    hexUnit.read ('0' :: '0' :: Nat.digitChar (c.toNat / 16) ::
        Nat.digitChar (c.toNat % 16) :: rest) =
      some (c.toNat, rest) := by
  have hhigh := hexValue?_digitChar (n := c.toNat / 16) (by omega)
  have hlow := hexValue?_digitChar (n := c.toNat % 16) (by omega)
  have hzero : hexValue? '0' = some 0 := by decide
  have hvalue : 16 * (c.toNat / 16) + c.toNat % 16 = c.toNat := by omega
  simp [hexUnit, ofHexDigits, hhigh, hlow, hzero, hvalue]

theorem read_letter
    {c letter : Char} (hletter : longName? letter = some c) (rest : List Char) :
    charReader.read ('\\' :: letter :: rest) = some (c, rest) := by
  have hbackslash : plainChar? '\\' = none := by decide
  rw [charReader, Reader.read_orElse_of_none (by simp [hbackslash])]
  apply Reader.read_orElse_of_some
  rw [Reader.read_named, hletter]
  rfl

theorem read_control
    {c : Char} (hc : c.toNat < 0x20) (rest : List Char) :
    charReader.read (control c ++ rest) = some (c, rest) := by
  have hbackslash : plainChar? '\\' = none := by decide
  have hu : longName? 'u' = none := by decide
  have hunit : escapedUnit.read (control c ++ rest) = some (c.toNat, rest) := by
    have hmark := Reader.read_literal '\\' ['u']
      ('0' :: '0' :: Nat.digitChar (c.toNat / 16) ::
        Nat.digitChar (c.toNat % 16) :: rest)
    rw [escapedUnit, Reader.read_map]
    simp only [control, List.cons_append, List.nil_append] at hmark ⊢
    rw [Reader.read_andThen hmark (read_hexUnit_control hc rest)]
    rfl
  rw [charReader, Reader.read_orElse_of_none, Reader.read_orElse_of_none]
  · apply Reader.read_orElse_of_some
    simp [hunit]
  · simp [control, Reader.read_named, hu]
  · simp [control, hbackslash]

theorem read_escape (c : Char) (rest : List Char) :
    charReader.read (escape c ++ rest) = some (c, rest) := by
  cases hname : shortName? c with
  | some letter =>
      simp only [escape, hname, List.cons_append, List.nil_append]
      exact read_letter (longName?_of_shortName? hname) rest
  | none =>
      obtain ⟨_, hne⟩ := ne_of_shortName?_eq_none hname
      by_cases hcontrol : c.toNat < 0x20
      · simp only [escape, hname, if_pos hcontrol]
        exact read_control hcontrol rest
      · simp only [escape, hname, if_neg hcontrol]
        apply Reader.read_orElse_of_some
        simp [plainChar?, hne, hcontrol]

theorem head?_escape_ne_quote (c : Char) : (escape c).head? ≠ some '\x22' := by
  cases hname : shortName? c with
  | some letter => simp [escape, hname]
  | none =>
      obtain ⟨hne, _⟩ := ne_of_shortName?_eq_none hname
      by_cases hcontrol : c.toNat < 0x20
      · simp [escape, hname, hcontrol, control]
      · simp [escape, hname, hcontrol, hne]

theorem read_textChars (s : String) (rest : List Char) :
    textReader.read (textChars s ++ rest) = some (s, rest) := by
  have htext := Reader.read_enclosed read_escape head?_escape_ne_quote s.toList rest
  simp only [textReader, textChars, List.cons_append, List.append_assoc,
    List.nil_append]
  rw [Reader.read_skip_cons (by decide), Reader.read_map, htext]
  simp

theorem itemChars_eq_intercalate (items : List Json) :
    itemChars items = [','].intercalate (items.map chars) := by
  apply eq_intercalate_map
  · rw [itemChars]
  · intro item
    rw [itemChars]
  · intro item next rest
    rw [itemChars, List.singleton_append]

def writeMember (member : String × Json) : List Char :=
  textChars member.1 ++ ':' :: member.2.chars

theorem memberChars_eq_intercalate (members : List (String × Json)) :
    memberChars members = [','].intercalate (members.map writeMember) := by
  apply eq_intercalate_map
  · rw [memberChars]
  · intro member
    rw [memberChars, writeMember]
  · intro member next rest
    rw [memberChars, writeMember, List.append_assoc, List.cons_append, List.singleton_append]

theorem chars_array (items : List Json) :
    (Json.array items).chars = arrayMarks.write (items.map chars) := by
  rw [chars, itemChars_eq_intercalate]
  rfl

theorem chars_object (members : List (String × Json)) :
    (Json.object members).chars = objectMarks.write (members.map writeMember) := by
  rw [chars, memberChars_eq_intercalate]
  rfl

theorem isBlank_of_isDigit {c : Char} (hc : c.isDigit = true) : isBlank c = false := by
  cases hblank : isBlank c with
  | false => rfl
  | true =>
      simp only [isBlank, Bool.or_eq_true, decide_eq_true_eq] at hblank
      rcases hblank with ((rfl | rfl) | rfl) | rfl <;> simp at hc

theorem exists_head_chars (document : Json) :
    ∃ c rest, document.chars = c :: rest ∧ isBlank c = false ∧ c ≠ ']' := by
  cases document with
  | text s => exact ⟨_, _, by rw [chars, textChars], by decide, by decide⟩
  | nat n =>
      obtain ⟨c, rest, hdigits, hdigit⟩ := exists_head_toDigits n
      refine ⟨c, rest, by rw [chars, hdigits], isBlank_of_isDigit hdigit, ?_⟩
      rintro rfl
      simp at hdigit
  | array items => exact ⟨_, _, by rw [chars], by decide, by decide⟩
  | object members => exact ⟨_, _, by rw [chars], by decide, by decide⟩

theorem length_chars_lt_array {items : List Json} {item : Json} (hmem : item ∈ items) :
    item.chars.length < (Json.array items).chars.length := by
  have hle := arrayMarks.length_le_write (List.mem_map_of_mem (f := chars) hmem)
  rw [chars_array]
  simp only [arrayMarks, commaMarks, List.length_singleton] at hle ⊢
  omega

theorem length_chars_lt_object
    {members : List (String × Json)} {member : String × Json}
    (hmem : member ∈ members) :
    member.2.chars.length < (Json.object members).chars.length := by
  have hle := objectMarks.length_le_write (List.mem_map_of_mem (f := writeMember) hmem)
  rw [chars_object]
  simp only [objectMarks, commaMarks, writeMember, List.length_append,
    List.length_cons] at hle ⊢
  omega

theorem read_textReader_of_ne
    {c : Char} {rest : List Char} (hc : isBlank c = false) (hne : c ≠ '\x22') :
    textReader.read (c :: rest) = none := by
  rw [textReader, Reader.read_skip_cons hc]
  simp [Reader.enclosed, hne]

theorem read_natReader_of_ne
    {c : Char} {rest : List Char} (hc : isBlank c = false) (hne : c.isDigit = false) :
    natReader.read (c :: rest) = none := by
  rw [natReader, Reader.read_skip_cons hc]
  simp [Reader.decimal, Reader.read_run_of_not hne]

theorem read_memberReader
    {value : Reader Json} {member : String × Json} {rest : List Char}
    (hvalue : value.read (member.2.chars ++ rest) = some (member.2, rest)) :
    (memberReader value).read (writeMember member ++ rest) = some (member, rest) := by
  have hkey := read_textChars member.1 (':' :: (member.2.chars ++ rest))
  have hcolon : (punctuation ':').read (':' :: (member.2.chars ++ rest)) =
      some ((), member.2.chars ++ rest) := read_punctuation (by decide) _
  rw [memberReader, Reader.read_map, writeMember, List.append_assoc,
    List.cons_append, Reader.read_andThen hkey (Reader.read_andThen hcolon hvalue)]
  rfl

theorem isDigit_of_mem_head?_mark
    {marks : Marks} {mark left : List Char}
    (hmarks : marks = arrayMarks ∨ marks = objectMarks)
    (hmark : mark ∈ [marks.separator, marks.closing]) :
    ∀ c ∈ (mark ++ left).head?, c.isDigit = false := by
  intro c hc
  simp only [List.mem_cons, List.not_mem_nil, or_false] at hmark
  rcases hmarks with rfl | rfl <;> rcases hmark with rfl | rfl <;> cases hc <;> decide

theorem read_documentReader_nat
    (limit n : Nat) {rest : List Char}
    (hrest : ∀ c ∈ rest.head?, c.isDigit = false) :
    (documentReader (limit + 1)).read ((Json.nat n).chars ++ rest) =
      some (.nat n, rest) := by
  obtain ⟨c, left, hdigits, hdigit⟩ := exists_head_toDigits n
  have hblank := isBlank_of_isDigit hdigit
  have hquote : c ≠ '\x22' := by
    rintro rfl
    simp at hdigit
  have hread := Reader.read_decimal_toDigits n hrest
  rw [chars]
  rw [hdigits, List.cons_append] at hread ⊢
  rw [documentReader, Reader.read_orElse_of_none]
  · apply Reader.read_orElse_of_some
    rw [Reader.read_map, natReader, Reader.read_skip_cons hblank, hread]
    rfl
  · rw [Reader.read_map, read_textReader_of_ne hblank hquote]
    rfl

theorem read_documentReader_array
    {limit : Nat} {items : List Json} (rest : List Char)
    (hitem : ∀ item ∈ items, ∀ left, (∀ c ∈ left.head?, c.isDigit = false) →
      (documentReader limit).read (item.chars ++ left) = some (item, left)) :
    (documentReader (limit + 1)).read ((Json.array items).chars ++ rest) =
      some (.array items, rest) := by
  have hstart : ∀ item ∈ items, ∀ left,
      arrayMarks.readClosing.read (item.chars ++ left) = none := by
    intro item _ left
    obtain ⟨c, more, hchars, hblank, hne⟩ := exists_head_chars item
    rw [hchars]
    exact read_punctuation_of_ne hblank (Ne.symm hne) _
  have hlist := Reader.read_listOf rest
    (fun item hmem mark hmark left => hitem item hmem (mark ++ left)
      (isDigit_of_mem_head?_mark (.inl rfl) hmark)) hstart
  rw [← chars_array] at hlist
  have hhead : (Json.array items).chars ++ rest =
      '[' :: (itemChars items ++ ']' :: rest) := by
    simp [chars]
  rw [documentReader, Reader.read_orElse_of_none, Reader.read_orElse_of_none]
  · apply Reader.read_orElse_of_some
    rw [Reader.read_map, hlist]
    rfl
  · rw [hhead, Reader.read_map, read_natReader_of_ne (by decide) (by decide)]
    rfl
  · rw [hhead, Reader.read_map, read_textReader_of_ne (by decide) (by decide)]
    rfl

theorem read_documentReader_object
    {limit : Nat} {members : List (String × Json)} (rest : List Char)
    (hvalue : ∀ member ∈ members, ∀ left, (∀ c ∈ left.head?, c.isDigit = false) →
      (documentReader limit).read (member.2.chars ++ left) = some (member.2, left)) :
    (documentReader (limit + 1)).read ((Json.object members).chars ++ rest) =
      some (.object members, rest) := by
  have hstart : ∀ member ∈ members, ∀ left,
      objectMarks.readClosing.read (writeMember member ++ left) = none := by
    intro member _ left
    rw [writeMember, textChars]
    exact read_punctuation_of_ne (by decide) (by decide) _
  have hlist := Reader.read_listOf rest
    (fun member hmem mark hmark left => read_memberReader
      (hvalue member hmem (mark ++ left)
        (isDigit_of_mem_head?_mark (.inr rfl) hmark))) hstart
  rw [← chars_object] at hlist
  have hhead : (Json.object members).chars ++ rest =
      '\x7b' :: (memberChars members ++ '\x7d' :: rest) := by
    simp [chars]
  have harray : (Reader.listOf arrayMarks (documentReader limit)).read
      ((Json.object members).chars ++ rest) = none := by
    have hopening : arrayMarks.readOpening.read
        ('\x7b' :: (memberChars members ++ '\x7d' :: rest)) = none :=
      read_punctuation_of_ne (by decide) (by decide) _
    rw [hhead, Reader.read_listOf_of_not_opening hopening]
  rw [documentReader, Reader.read_orElse_of_none, Reader.read_orElse_of_none,
    Reader.read_orElse_of_none]
  · rw [Reader.read_map, hlist]
    rfl
  · rw [Reader.read_map, harray]
    rfl
  · rw [hhead, Reader.read_map, read_natReader_of_ne (by decide) (by decide)]
    rfl
  · rw [hhead, Reader.read_map, read_textReader_of_ne (by decide) (by decide)]
    rfl

theorem read_documentReader
    {limit : Nat} {document : Json} {rest : List Char}
    (hlimit : document.chars.length ≤ limit)
    (hrest : ∀ n, document = .nat n → ∀ c ∈ rest.head?, c.isDigit = false) :
    (documentReader limit).read (document.chars ++ rest) = some (document, rest) := by
  induction limit generalizing document rest with
  | zero =>
      obtain ⟨c, left, hchars, _⟩ := exists_head_chars document
      rw [hchars] at hlimit
      cases hlimit
  | succ limit ih =>
      cases document with
      | text s =>
          apply Reader.read_orElse_of_some
          rw [Reader.read_map, chars, read_textChars]
          rfl
      | nat n => exact read_documentReader_nat limit n (hrest n rfl)
      | array items =>
          apply read_documentReader_array
          intro item hmem left hleft
          have hlength := length_chars_lt_array hmem
          exact ih (by omega) (fun _ _ => hleft)
      | object members =>
          apply read_documentReader_object
          intro member hmem left hleft
          have hlength := length_chars_lt_object hmem
          exact ih (by omega) (fun _ _ => hleft)

theorem read_chars
    {document : Json} {rest : List Char}
    (hrest : ∀ n, document = .nat n → ∀ c ∈ rest.head?, c.isDigit = false) :
    read (document.chars ++ rest) = some (document, rest) := by
  apply read_documentReader _ hrest
  rw [List.length_append]
  exact Nat.le_add_right _ _

/-! ## Controls never stand in a document -/

theorem not_control_of_shortName? {c letter : Char} (hc : shortName? c = some letter) :
    0x20 ≤ letter.toNat := by
  unfold shortName? at hc
  repeat' split at hc
  all_goals cases hc
  all_goals decide

theorem not_control_of_mem_escape {c d : Char} (hd : d ∈ escape c) : 0x20 ≤ d.toNat := by
  cases hname : shortName? c with
  | some letter =>
      have hletter := not_control_of_shortName? hname
      simp only [escape, hname, List.mem_cons, List.not_mem_nil, or_false] at hd
      rcases hd with rfl | rfl
      · decide
      · exact hletter
  | none =>
      by_cases hcontrol : c.toNat < 0x20
      · have hdigit : ∀ n < 16, 0x20 ≤ (Nat.digitChar n).toNat := by decide
        simp only [escape, hname, if_pos hcontrol, control, List.mem_cons,
          List.not_mem_nil, or_false] at hd
        rcases hd with rfl | rfl | rfl | rfl | rfl | rfl
        · decide
        · decide
        · decide
        · decide
        · exact hdigit _ (by omega)
        · exact hdigit _ (by omega)
      · simp only [escape, hname, if_neg hcontrol, List.mem_singleton] at hd
        rw [hd]
        exact Nat.le_of_not_lt hcontrol

theorem not_control_of_mem_textChars {s : String} {c : Char} (hc : c ∈ textChars s) :
    0x20 ≤ c.toNat := by
  simp only [textChars, List.mem_cons, List.mem_append, List.mem_flatMap,
    List.not_mem_nil, or_false] at hc
  rcases hc with rfl | ⟨d, _, hescape⟩ | rfl
  · decide
  · exact not_control_of_mem_escape hescape
  · decide

theorem not_control_of_mem_chars {document : Json} {c : Char}
    (hc : c ∈ document.chars) : 0x20 ≤ c.toNat := by
  induction hlength : document.chars.length using Nat.strongRecOn generalizing document with
  | ind length ih =>
      subst hlength
      cases document with
      | text s =>
          rw [chars] at hc
          exact not_control_of_mem_textChars hc
      | nat n =>
          rw [chars] at hc
          have hdigit := Nat.isDigit_of_mem_toDigits (by decide) (by decide) hc
          have hlow := (Char.isDigit_iff_toNat.mp hdigit).1
          exact Nat.le_trans (by decide) hlow
      | array items =>
          have hmarks : ∀ d ∈ arrayMarks.opening ++ arrayMarks.separator ++
              arrayMarks.closing, 0x20 ≤ d.toNat := by
            simp [arrayMarks, commaMarks]
          rw [chars_array] at hc
          rcases Marks.mem_write hc with hmark | ⟨text, htext, hc⟩
          · exact hmarks c hmark
          · obtain ⟨item, hitem, rfl⟩ := List.mem_map.mp htext
            exact ih _ (length_chars_lt_array hitem) hc rfl
      | object members =>
          have hmarks : ∀ d ∈ objectMarks.opening ++ objectMarks.separator ++
              objectMarks.closing, 0x20 ≤ d.toNat := by
            simp [objectMarks, commaMarks]
          rw [chars_object] at hc
          rcases Marks.mem_write hc with hmark | ⟨text, htext, hc⟩
          · exact hmarks c hmark
          · obtain ⟨member, hmember, rfl⟩ := List.mem_map.mp htext
            simp only [writeMember, List.mem_append, List.mem_cons] at hc
            rcases hc with hkey | rfl | hvalue
            · exact not_control_of_mem_textChars hkey
            · decide
            · exact ih _ (length_chars_lt_object hmember) hvalue rfl

end GalleryNaming.Json
