import GalleryNaming.Proofs.DumpReading
import GalleryNaming.Proofs.RejectionMessages

/-!
# Messages, alone and joined

One message tells its violation whatever the label is, because it can be read
from its end.  Joined messages are read from the front.  There the label has to
be known, and then each message is a text that shows by itself where it ends:
what stands behind it, a separator or another message, is not looked at.  So a
separator inside a label, a quotation or a list of characters does not cut a
message in two, and one between two messages does not join them.
-/

namespace GalleryNaming.Text

theorem length_of_dropPrefix? {words cs rest : List Char}
    (hdrop : cs.dropPrefix? words = some rest) :
    cs.length = words.length + rest.length := by
  rcases List.dropPrefix?_eq_some_iff.mp hdrop with ⟨start, hsplit, hwords⟩
  rw [hsplit, eq_of_beq hwords, List.length_append]

/-! ## The first place of a mark -/

/-- No end of the mark is also a beginning of it, but for the empty one and the
whole mark. -/
def Unbordered (mark : List Char) : Prop :=
  ∀ border ∈ mark.tails, border <+: mark → border = [] ∨ border = mark

instance (mark : List Char) : Decidable (Unbordered mark) :=
  inferInstanceAs
    (Decidable (∀ border ∈ mark.tails, border <+: mark → border = [] ∨ border = mark))

/-- Splits a text around the first place where a mark stands. -/
def splitFirst (mark : List Char) : List Char → Option (List Char × List Char)
  | [] => none
  | c :: cs =>
      match (c :: cs).dropPrefix? mark with
      | some after => some ([], after)
      | none => (splitFirst mark cs).map fun parts => (c :: parts.1, parts.2)

theorem length_splitFirst_lt {mark cs part after : List Char} (hmark : mark ≠ [])
    (hsplit : splitFirst mark cs = some (part, after)) : after.length < cs.length := by
  induction cs generalizing part with
  | nil => cases hsplit
  | cons c cs ih =>
      unfold splitFirst at hsplit
      cases hdrop : (c :: cs).dropPrefix? mark with
      | some rest =>
          rw [hdrop] at hsplit
          cases hsplit
          have hlength := length_of_dropPrefix? hdrop
          have hpos := List.length_pos_iff.mpr hmark
          omega
      | none =>
          rw [hdrop] at hsplit
          rcases Option.map_eq_some_iff.mp hsplit with ⟨parts, hparts, heq⟩
          cases heq
          have hlength := ih hparts
          rw [List.length_cons]
          omega

/-- If the mark began inside the part before it, then either it would end there
too, or what it has in common with the mark behind would be a border. -/
theorem Unbordered.not_prefix {mark part : List Char} (hmark : Unbordered mark)
    (hne : part ≠ []) (hpart : ¬ mark <:+: part) (after : List Char) :
    ¬ mark <+: part ++ (mark ++ after) := by
  intro hprefix
  have hstart : part <+: part ++ (mark ++ after) := List.prefix_append _ _
  rcases Nat.le_total mark.length part.length with hinside | hacross
  · exact hpart (List.prefix_of_prefix_length_le hprefix hstart hinside).isInfix
  · rcases List.prefix_of_prefix_length_le hstart hprefix hacross with ⟨border, hborder⟩
    have hsuffix : border <:+ mark := ⟨part, hborder⟩
    have hcommon : border <+: mark := by
      rw [← hborder, List.prefix_append_right_inj, hborder] at hprefix
      exact List.prefix_of_prefix_length_le hprefix (List.prefix_append _ _)
        hsuffix.length_le
    rcases hmark border ((List.mem_tails _ _).mpr hsuffix) hcommon with hempty | hwhole
    · rw [hempty, List.append_nil] at hborder
      exact hpart (hborder ▸ List.infix_refl mark)
    · rw [hwhole] at hborder
      exact hne (List.append_left_eq_self.mp hborder)

theorem splitFirst_append {mark part : List Char} (hne : mark ≠ [])
    (hmark : Unbordered mark) (hpart : ¬ mark <:+: part) (after : List Char) :
    splitFirst mark (part ++ (mark ++ after)) = some (part, after) := by
  induction part with
  | nil =>
      rcases List.exists_cons_of_ne_nil hne with ⟨first, others, hcons⟩
      have hdrop := dropPrefix?_append mark after
      rw [hcons, List.cons_append] at hdrop
      rw [hcons, List.nil_append, List.cons_append, splitFirst, hdrop]
  | cons c part ih =>
      have hdrop : (c :: (part ++ (mark ++ after))).dropPrefix? mark = none := by
        rw [Option.eq_none_iff_forall_ne_some]
        intro rest hrest
        rcases List.dropPrefix?_eq_some_iff.mp hrest with ⟨start, hsplit, hstart⟩
        rw [eq_of_beq hstart] at hsplit
        exact hmark.not_prefix (List.cons_ne_nil c part) hpart after ⟨rest, hsplit.symm⟩
      have hrest : ¬ mark <:+: part := by
        intro hinside
        exact hpart (hinside.trans (List.suffix_cons c part).isInfix)
      rw [List.cons_append, splitFirst, hdrop, ih hrest]
      rfl

namespace Reader

variable {α : Type}

/-- Expects fixed words before what the reader takes. -/
def after (words : List Char) (reader : Reader α) : Reader α where
  read cs := (cs.dropPrefix? words).bind reader.read
  shortens := by
    intro cs value rest hread
    rcases Option.bind_eq_some_iff.mp hread with ⟨left, hdrop, hleft⟩
    have hlength := length_of_dropPrefix? hdrop
    have hrest := reader.shortens left value rest hleft
    omega

/-- Takes what stands before the first place of a mark, and drops the mark. -/
def upTo (first : Char) (others : List Char) : Reader (List Char) where
  read cs := splitFirst (first :: others) cs
  shortens := by
    intro cs value rest hread
    exact length_splitFirst_lt (List.cons_ne_nil first others) hread

@[simp] theorem read_after (words : List Char) (reader : Reader α) (rest : List Char) :
    (reader.after words).read (words ++ rest) = reader.read rest := by
  unfold after
  simp only [dropPrefix?_append, Option.bind_some]

/-- A number ends where words begin. -/
theorem read_decimal_before (n : Nat) (words rest : List Char)
    (hwords : words.head?.map Char.isDigit = some false) :
    decimal.read (Nat.toDigits 10 n ++ (words ++ rest)) = some (n, words ++ rest) := by
  apply read_decimal_toDigits
  rcases Option.map_eq_some_iff.mp hwords with ⟨first, hfirst, hdigit⟩
  intro c hc
  rw [List.head?_append, hfirst] at hc
  cases hc
  exact hdigit

/-! ## Texts put together from items -/

variable {reader : Reader α} {spelling : α → List Char} {values others : List α}

theorem spelling_ne_nil {value : α} {text : List Char}
    (hread : ∀ rest, reader.read (text ++ rest) = some (value, rest)) : text ≠ [] := by
  intro hempty
  have hshort := reader.shortens _ _ _ (hread [])
  rw [hempty] at hshort
  exact Nat.lt_irrefl _ hshort

/-- Items that are read back whatever follows can be written one after the other
without anything between them. -/
theorem flatMap_injective
    (hvalues : ∀ value ∈ values, ∀ rest,
      reader.read (spelling value ++ rest) = some (value, rest))
    (hothers : ∀ value ∈ others, ∀ rest,
      reader.read (spelling value ++ rest) = some (value, rest))
    (heq : values.flatMap spelling = others.flatMap spelling) : values = others := by
  induction values generalizing others with
  | nil =>
      cases others with
      | nil => rfl
      | cons other others =>
          rw [List.flatMap_nil, List.flatMap_cons] at heq
          have hempty := (List.append_eq_nil_iff.mp heq.symm).1
          exact absurd hempty (spelling_ne_nil (hothers other List.mem_cons_self))
  | cons value values ih =>
      cases others with
      | nil =>
          rw [List.flatMap_nil, List.flatMap_cons] at heq
          have hempty := (List.append_eq_nil_iff.mp heq).1
          exact absurd hempty (spelling_ne_nil (hvalues value List.mem_cons_self))
      | cons other others =>
          have hread := hvalues value List.mem_cons_self (values.flatMap spelling)
          rw [← List.flatMap_cons, heq, List.flatMap_cons,
            hothers other List.mem_cons_self] at hread
          simp only [Option.some.injEq, Prod.mk.injEq] at hread
          have htail : values = others := by
            apply ih
            · intro next hnext
              exact hvalues next (List.mem_cons_of_mem value hnext)
            · intro next hnext
              exact hothers next (List.mem_cons_of_mem other hnext)
            · exact hread.2.symm
          rw [hread.1, htail]

theorem append_intercalate {separator : List Char} (hne : values ≠ []) :
    separator ++ separator.intercalate (values.map spelling) =
      values.flatMap fun value => separator ++ spelling value := by
  induction values with
  | nil => exact absurd rfl hne
  | cons value values ih =>
      cases values with
      | nil => simp
      | cons next values =>
          rw [List.flatMap_cons, ← ih (List.cons_ne_nil next values)]
          simp only [List.map_cons, List.intercalate_cons_cons, List.append_assoc]

theorem eq_nil_of_intercalate_eq_nil {separator : List Char}
    (hvalues : ∀ value ∈ values, ∀ rest,
      reader.read (spelling value ++ rest) = some (value, rest))
    (hempty : separator.intercalate (values.map spelling) = []) : values = [] := by
  cases values with
  | nil => rfl
  | cons value values =>
      have htext : spelling value = [] := by
        cases values with
        | nil => simpa using hempty
        | cons next values =>
            rw [List.map_cons, List.map_cons, List.intercalate_cons_cons] at hempty
            exact (List.append_eq_nil_iff.mp (List.append_eq_nil_iff.mp hempty).1).1
      exact absurd htext (spelling_ne_nil (hvalues value List.mem_cons_self))

theorem read_after_separator (separator : List Char)
    (hvalues : ∀ value ∈ values, ∀ rest,
      reader.read (spelling value ++ rest) = some (value, rest)) :
    ∀ value ∈ values, ∀ rest,
      (reader.after separator).read (separator ++ spelling value ++ rest) =
        some (value, rest) := by
  intro value hvalue rest
  rw [List.append_assoc, read_after, hvalues value hvalue]

/-- Joined items are told apart as if the separator were the beginning of each.  No
text is in front of the first item, so a separator is put there on both sides. -/
theorem intercalate_injective {separator : List Char}
    (hvalues : ∀ value ∈ values, ∀ rest,
      reader.read (spelling value ++ rest) = some (value, rest))
    (hothers : ∀ value ∈ others, ∀ rest,
      reader.read (spelling value ++ rest) = some (value, rest))
    (heq : separator.intercalate (values.map spelling) =
      separator.intercalate (others.map spelling)) : values = others := by
  by_cases hempty : values = []
  · rw [hempty, List.map_nil, List.intercalate_nil] at heq
    rw [hempty, eq_nil_of_intercalate_eq_nil hothers heq.symm]
  · have hother : others ≠ [] := by
      intro hnone
      rw [hnone, List.map_nil, List.intercalate_nil] at heq
      exact hempty (eq_nil_of_intercalate_eq_nil hvalues heq)
    have hflat := congrArg (separator ++ ·) heq
    simp only [append_intercalate hempty, append_intercalate hother] at hflat
    exact flatMap_injective (read_after_separator separator hvalues)
      (read_after_separator separator hothers) hflat

end Reader

end GalleryNaming.Text

namespace GalleryNaming

open Text

namespace Violation

/-! ## One message -/

theorem kind_eq_of_message_eq {violation other : Violation}
    (hmessage : violation.message = other.message) : violation.kind = other.kind := by
  have hlast := congrArg (fun message => message.toList.getLast?) hmessage
  simp only [toList_message, getLast?_messageChars] at hlast
  have hkind := congrArg (fun last => last.bind kindOfEnding?) hlast
  simp only [Option.bind_some, kindOfEnding?_ending] at hkind
  exact Option.some.inj hkind

/-- A message tells its kind in any case, and everything else unless a list of
allowed characters repeats the words before it.  No alphabet is described so. -/
theorem message_identifies_violation (violation other : Violation) :
    (violation.kind ≠ other.kind → violation.message ≠ other.message) ∧
    (violation.PlainAllowed → other.PlainAllowed →
      (violation.message = other.message ↔ violation = other)) ∧
    ∀ (alphabet : Alphabet) (label : String) (character : Char) (position : Nat),
      (invalidCharacter label character position alphabet.description).PlainAllowed := by
  refine ⟨?_, ?_, ?_⟩
  · intro hkind hmessage
    exact hkind (kind_eq_of_message_eq hmessage)
  · intro hplain hother
    constructor
    · intro hmessage
      exact message_injective hplain hother hmessage
    · intro heq
      rw [heq]
  · intro alphabet label character position
    exact Rejection.plainAllowed_description alphabet label character position

/-- A message against two of the same, the first of them hidden in a label. -/
theorem message_identifies_violation_label_like_message :
    let inner : Violation := .invalidCharacter "x" '\x27' 1 "letters"
    let outer : Violation :=
      .invalidCharacter (inner.message ++ "; x") '\x27' 1 "letters"
    inner.PlainAllowed ∧ outer.PlainAllowed ∧
    outer.message = inner.message ++ "; " ++ inner.message ∧
    inner.message ≠ outer.message := by
  intro inner outer
  have hletters : ¬ ", only ".toList <:+: "letters".toList := by decide
  have hinner : inner.PlainAllowed := hletters
  have houter : outer.PlainAllowed := hletters
  have hlabel : outer.label = inner.message ++ "; " ++ inner.label := by
    rw [String.append_assoc]
    rfl
  have hmessage : outer.message = inner.message ++ "; " ++ inner.message := by
    rw [message, hlabel, String.append_assoc]
    rfl
  refine ⟨hinner, houter, hmessage, ?_⟩
  intro heq
  have hsame := ((message_identifies_violation inner outer).2.1 hinner houter).mp heq
  rw [← hsame] at hlabel
  have hlength := congrArg String.length hlabel
  simp only [String.length_append] at hlength
  have hseparator : "; ".length = 2 := by decide
  omega

/-! ## Reading complaints from the front -/

/-- The list of allowed characters does not contain the words behind it. -/
def ClosedAllowed : Violation → Prop
  | .invalidCharacter _ _ _ allowed => ¬ " are allowed".toList <:+: allowed.toList
  | _ => True

instance : (violation : Violation) → Decidable violation.ClosedAllowed
  | .emptyValue _ => isTrue trivial
  | .tooLong .. => isTrue trivial
  | .invalidCharacter _ _ _ allowed =>
      inferInstanceAs (Decidable (¬ " are allowed".toList <:+: allowed.toList))
  | .malformedVersionFormat .. => isTrue trivial

def emptyValueReader (label : String) : Reader Violation :=
  (Reader.literal ' ' "cannot be empty".toList).map fun _ => .emptyValue label

def tooLongReader (label : String) : Reader Violation :=
  ((Reader.decimal.after " is too long (".toList).andThen
    ((Reader.decimal.after " characters, maximum ".toList).andThen
      (Reader.literal ')' []))).map fun counts => .tooLong label counts.2.1 counts.1

def invalidCharacterReader (label : String) : Reader Violation :=
  ((Dump.charReader.after " contains invalid character ".toList).andThen
    ((Reader.decimal.after " at position ".toList).andThen
      ((Reader.upTo ' ' "are allowed".toList).after ", only ".toList))).map fun parts =>
        .invalidCharacter label parts.1 parts.2.1 (String.ofList parts.2.2)

def malformedVersionFormatReader (label : String) : Reader Violation :=
  (Dump.textReader.after
    " must be in major.minor.patch format with numeric components, got ".toList).map
      (.malformedVersionFormat label)

/-- Reads a message under a label that is known. -/
def messageReader (label : String) : Reader Violation :=
  ((emptyValueReader label).orElse ((tooLongReader label).orElse
    ((invalidCharacterReader label).orElse
      (malformedVersionFormatReader label)))).after label.toList

theorem read_emptyValueReader (label : String) (rest : List Char) :
    (emptyValueReader label).read (" cannot be empty".toList ++ rest) =
      some (.emptyValue label, rest) := by
  have hwords := Reader.read_literal ' ' "cannot be empty".toList rest
  have hopening : " cannot be empty".toList = ' ' :: "cannot be empty".toList := rfl
  rw [hopening, emptyValueReader, Reader.read_map, List.cons_append, hwords]
  rfl

theorem read_tooLongReader (label : String) (maximum actual : Nat) (rest : List Char) :
    (tooLongReader label).read
        (" is too long (".toList ++ (Nat.toDigits 10 actual ++
          (" characters, maximum ".toList ++ (Nat.toDigits 10 maximum ++
            (")".toList ++ rest))))) =
      some (.tooLong label maximum actual, rest) := by
  have hclosing : (Reader.literal ')' []).read (")".toList ++ rest) = some ((), rest) :=
    Reader.read_literal ')' [] rest
  have hmaximum := Reader.read_decimal_before maximum ")".toList rest (by decide)
  have hactual := Reader.read_decimal_before actual " characters, maximum ".toList
    (Nat.toDigits 10 maximum ++ (")".toList ++ rest)) (by decide)
  rw [tooLongReader, Reader.read_map, Reader.read_andThen (by rw [Reader.read_after, hactual])
    (Reader.read_andThen (by rw [Reader.read_after, hmaximum]) hclosing)]
  rfl

theorem read_invalidCharacterReader {allowed : String}
    (hallowed : ¬ " are allowed".toList <:+: allowed.toList) (label : String)
    (character : Char) (position : Nat) (rest : List Char) :
    (invalidCharacterReader label).read
        (" contains invalid character ".toList ++ (enclose '\x27' [character] ++
          (" at position ".toList ++ (Nat.toDigits 10 position ++
            (", only ".toList ++ (allowed.toList ++
              (" are allowed".toList ++ rest))))))) =
      some (.invalidCharacter label character position allowed, rest) := by
  have hlist : (Reader.upTo ' ' "are allowed".toList).read
      (allowed.toList ++ (" are allowed".toList ++ rest)) = some (allowed.toList, rest) :=
    splitFirst_append (by decide) (by decide) hallowed rest
  have hposition := Reader.read_decimal_before position ", only ".toList
    (allowed.toList ++ (" are allowed".toList ++ rest)) (by decide)
  have hcharacter : ∀ left, Dump.charReader.read (enclose '\x27' [character] ++ left) =
      some (character, left) := by
    intro left
    rw [Dump.charReader, Reader.read_mapOption, read_enclose (.inr rfl)]
    rfl
  rw [invalidCharacterReader, Reader.read_map,
    Reader.read_andThen (by rw [Reader.read_after, hcharacter])
      (Reader.read_andThen (by rw [Reader.read_after, hposition])
        (by rw [Reader.read_after, hlist]))]
  simp

theorem read_malformedVersionFormatReader (label value : String) (rest : List Char) :
    (malformedVersionFormatReader label).read
        (" must be in major.minor.patch format with numeric components, got ".toList ++
          (enclose '\x22' value.toList ++ rest)) =
      some (.malformedVersionFormat label value, rest) := by
  rw [malformedVersionFormatReader, Reader.read_map, Reader.read_after, Dump.textReader,
    Reader.read_map, read_enclose (.inl rfl)]
  simp

/-- A message is read back in front of any text.  The first words behind the label
tell the four kinds apart, so the readers tried before the right one fail by
evaluation. -/
theorem read_messageReader {violation : Violation} (hclosed : violation.ClosedAllowed)
    (rest : List Char) :
    (messageReader violation.label).read (violation.messageChars ++ rest) =
      some (violation, rest) := by
  cases violation with
  | emptyValue label =>
      simp only [messageChars, List.append_assoc]
      rw [Violation.label, messageReader, Reader.read_after]
      apply Reader.read_orElse_of_some
      exact read_emptyValueReader label rest
  | tooLong label maximum actual =>
      simp only [messageChars, List.append_assoc]
      rw [Violation.label, messageReader, Reader.read_after, Reader.read_orElse_of_none]
      · apply Reader.read_orElse_of_some
        exact read_tooLongReader label maximum actual rest
      · rfl
  | invalidCharacter label character position allowed =>
      simp only [messageChars, List.append_assoc]
      rw [Violation.label, messageReader, Reader.read_after, Reader.read_orElse_of_none,
        Reader.read_orElse_of_none]
      · apply Reader.read_orElse_of_some
        exact read_invalidCharacterReader hclosed label character position rest
      · rfl
      · rfl
  | malformedVersionFormat label value =>
      simp only [messageChars, List.append_assoc]
      rw [Violation.label, messageReader, Reader.read_after, Reader.read_orElse_of_none,
        Reader.read_orElse_of_none, Reader.read_orElse_of_none]
      · exact read_malformedVersionFormatReader label value rest
      · rfl
      · rfl
      · rfl

theorem read_messageReader_of_label {label : String} {violations : List Violation}
    (hviolations : ∀ violation ∈ violations,
      violation.label = label ∧ violation.ClosedAllowed) :
    ∀ violation ∈ violations, ∀ rest,
      (messageReader label).read (violation.messageChars ++ rest) =
        some (violation, rest) := by
  intro violation hmem rest
  have hlabel := (hviolations violation hmem).1
  rw [← hlabel]
  exact read_messageReader (hviolations violation hmem).2 rest

end Violation

namespace Rejection

open Violation

/-- Under one label, joined messages are the same only for the same list: neither
the label nor a quoted name nor a list of characters can pass for a separator or
hide one. -/
theorem message_joins_unambiguously (label : String) (violations others : List Violation)
    (hviolations : ∀ violation ∈ violations,
      violation.label = label ∧ violation.ClosedAllowed)
    (hothers : ∀ violation ∈ others,
      violation.label = label ∧ violation.ClosedAllowed) :
    message ⟨label, violations⟩ = message ⟨label, others⟩ ↔ violations = others := by
  constructor
  · intro hmessage
    have hchars := congrArg String.toList hmessage
    simp only [toList_message, List.append_cancel_left_eq] at hchars
    exact Reader.intercalate_injective (read_messageReader_of_label hviolations)
      (read_messageReader_of_label hothers) hchars
  · intro heq
    rw [heq]

/-- One version that contains the end of a quotation and a whole message, against
two violations. -/
theorem message_joins_unambiguously_quoted_message :
    let label := "x; x"
    let quoting : Violation :=
      .malformedVersionFormat label "1\x22; x; x cannot be empty"
    let listing : Violation := .invalidCharacter label ';' 1 "; only letters"
    let plain : Violation := .malformedVersionFormat label "1"
    (∀ violation ∈ [listing, quoting],
      violation.label = label ∧ violation.ClosedAllowed) ∧
    (∀ violation ∈ [listing, plain, .emptyValue label],
      violation.label = label ∧ violation.ClosedAllowed) ∧
    message ⟨label, [listing, quoting]⟩ ≠
      message ⟨label, [listing, plain, .emptyValue label]⟩ := by
  intro label quoting listing plain
  have hlisting : listing.ClosedAllowed := by decide
  have hfirst : ∀ violation ∈ [listing, quoting],
      violation.label = label ∧ violation.ClosedAllowed := by
    simp only [List.forall_mem_cons]
    exact ⟨⟨rfl, hlisting⟩, ⟨rfl, trivial⟩, by simp⟩
  have hsecond : ∀ violation ∈ [listing, plain, .emptyValue label],
      violation.label = label ∧ violation.ClosedAllowed := by
    simp only [List.forall_mem_cons]
    exact ⟨⟨rfl, hlisting⟩, ⟨rfl, trivial⟩, ⟨rfl, trivial⟩, by simp⟩
  refine ⟨hfirst, hsecond, ?_⟩
  intro hmessage
  have hlists := (message_joins_unambiguously label _ _ hfirst hsecond).mp hmessage
  have hlengths := congrArg List.length hlists
  cases hlengths

end Rejection

end GalleryNaming
