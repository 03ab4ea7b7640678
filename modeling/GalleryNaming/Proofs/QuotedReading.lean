import GalleryNaming.Text.Quoted
import GalleryNaming.Proofs.TextReading
import Mathlib.Data.List.Basic

/-!
# Reading quoted text, from either end

From the front, a quoted text is read one character at a time up to the
delimiter that closes it.  In a line of prose this is not enough: what stands
before the quotation is arbitrary, and may itself look like the opening of one.
Read from the end, the quotation is found all the same.  Inside it every
delimiter has its own backslash right before it, while the opening delimiter
follows a character that is no backslash.  The nearest unannounced delimiter is
therefore the opening one.
-/

namespace GalleryNaming.Text

/-- The character that a letter after a backslash stands for. -/
def longName? (letter : Char) : Option Char :=
  if letter = '0' then some '\x00'
  else if letter = 't' then some '\t'
  else if letter = 'n' then some '\n'
  else if letter = 'r' then some '\r'
  else if letter = '\\' ∨ letter = '\x22' ∨ letter = '\x27' then some letter
  else none

def plainChar? (c : Char) : Option Char :=
  if c = '\\' then none else some c

def codePointEscape : Reader Char :=
  ((Reader.literal '\\' ['u', '\x7b']).andThen
    (Reader.hexadecimal.andThen (Reader.literal '\x7d' []))).mapOption fun point =>
      charOf? point.2.1

def escapedChar : Reader Char :=
  (Reader.anyChar.mapOption plainChar?).orElse ((Reader.named longName?).orElse codePointEscape)

def quoted (delimiter : Char) : Reader (List Char) :=
  Reader.enclosed escapedChar delimiter

/-- The two delimiters that the library quotes with. -/
def IsDelimiter (c : Char) : Prop :=
  c = '\x22' ∨ c = '\x27'

theorem longName?_of_shortName?
    {c letter : Char} (hc : shortName? c = some letter) :
    longName? letter = some c := by
  unfold shortName? at hc
  repeat' split at hc
  all_goals cases hc
  all_goals
    subst c
    decide

theorem ne_backslash_of_shortName? {c : Char} (hc : shortName? c = none) : c ≠ '\\' := by
  rintro rfl
  simp [shortName?] at hc

theorem IsDelimiter.ne_backslash {delimiter : Char} (hdelimiter : IsDelimiter delimiter) :
    delimiter ≠ '\\' := by
  rcases hdelimiter with rfl | rfl <;> decide

theorem read_letter
    {c letter : Char} (hletter : longName? letter = some c) (rest : List Char) :
    escapedChar.read ('\\' :: letter :: rest) = some (c, rest) := by
  have hbackslash : plainChar? '\\' = none := by decide
  rw [escapedChar, Reader.read_orElse_of_none (by simp [hbackslash])]
  apply Reader.read_orElse_of_some
  rw [Reader.read_named, hletter]
  rfl

theorem read_codePoint (c : Char) (rest : List Char) :
    escapedChar.read (codePoint c ++ rest) = some (c, rest) := by
  have hbackslash : plainChar? '\\' = none := by decide
  have hu : longName? 'u' = none := by decide
  have hmark := Reader.read_literal '\\' ['u', '\x7b']
    (Nat.toDigits 16 c.toNat ++ '\x7d' :: rest)
  have hbrace : ∀ d ∈ ('\x7d' :: rest).head?, (hexValue? d).isSome = false := by
    intro d hd
    cases hd
    decide
  have hdigits := Reader.read_hexadecimal_toDigits c.toNat hbrace
  have hclosing := Reader.read_literal '\x7d' [] rest
  simp only [codePoint, List.cons_append, List.append_assoc, List.nil_append]
  rw [escapedChar, Reader.read_orElse_of_none (by simp [hbackslash]),
    Reader.read_orElse_of_none]
  · rw [codePointEscape, Reader.read_mapOption]
    simp only [List.cons_append, List.nil_append] at hmark hclosing
    rw [Reader.read_andThen hmark (Reader.read_andThen hdigits hclosing)]
    simp
  · simp [Reader.read_named, hu]

theorem read_escape
    {delimiter : Char} (hdelimiter : IsDelimiter delimiter) (c : Char)
    (rest : List Char) :
    escapedChar.read (escape delimiter c ++ rest) = some (c, rest) := by
  cases hname : shortName? c with
  | some letter =>
      simp only [escape, hname, List.cons_append, List.nil_append]
      exact read_letter (longName?_of_shortName? hname) rest
  | none =>
      by_cases hc : c = delimiter
      · have hletter : longName? c = some c := by
          subst hc
          rcases hdelimiter with rfl | rfl <;> decide
        simp only [escape, hname, if_pos hc, List.cons_append, List.nil_append]
        exact read_letter hletter rest
      · simp only [escape, hname, if_neg hc]
        by_cases hprint : isUnprintable c = true
        · rw [if_pos hprint]
          exact read_codePoint c rest
        · rw [if_neg hprint]
          apply Reader.read_orElse_of_some
          simp [plainChar?, ne_backslash_of_shortName? hname]

theorem head?_escape_ne
    {delimiter : Char} (hdelimiter : IsDelimiter delimiter) (c : Char) :
    (escape delimiter c).head? ≠ some delimiter := by
  have hne := hdelimiter.ne_backslash
  cases hname : shortName? c with
  | some letter => simpa [escape, hname] using Ne.symm hne
  | none =>
      by_cases hc : c = delimiter
      · subst hc
        simpa [escape, hname] using Ne.symm hne
      · by_cases hprint : isUnprintable c = true
        · simpa [escape, hname, hc, hprint, codePoint] using Ne.symm hne
        · simp [escape, hname, hc, hprint]

theorem read_enclose
    {delimiter : Char} (hdelimiter : IsDelimiter delimiter) (cs rest : List Char) :
    (quoted delimiter).read (enclose delimiter cs ++ rest) = some (cs, rest) := by
  have hread := Reader.read_enclosed (read_escape hdelimiter) (head?_escape_ne hdelimiter)
    cs rest
  simpa [quoted, enclose] using hread

/-! ## From the end

Texts are taken here in reverse, so that the character before another one is
the next one met. -/

/-- Every delimiter has a backslash right before it. -/
def Announced (delimiter : Char) : List Char → Prop
  | [] => True
  | c :: before =>
      (c = delimiter → before.head? = some '\\') ∧ Announced delimiter before

/-- Goes back to the nearest delimiter that no backslash announces.  Returns
what was passed over, in reading order, and what comes before. -/
def untilOpening (delimiter : Char) : List Char → Option (List Char × List Char)
  | [] => none
  | c :: before =>
      if c = delimiter ∧ before.head? ≠ some '\\' then some ([], before)
      else
        (untilOpening delimiter before).map fun result =>
          (result.1 ++ [c], result.2)

/-- The quoted text at the end of a text, and what stands before it. -/
def lastQuoted (delimiter : Char) (cs : List Char) : Option (List Char × List Char) :=
  match cs.reverse with
  | [] => none
  | _ :: before =>
      (untilOpening delimiter before).bind fun found =>
        ((quoted delimiter).read (delimiter :: (found.1 ++ [delimiter]))).map
          fun result => (found.2.reverse, result.1)

def lastDecimal (cs : List Char) : Option (List Char × Nat) :=
  ((Reader.run Char.isDigit).read cs.reverse).map fun result =>
    (result.2.reverse, Nat.ofDigitChars 10 result.1.reverse 0)

theorem announced_of_not_mem
    {delimiter : Char} {cs : List Char} (hmem : delimiter ∉ cs) :
    Announced delimiter cs := by
  induction cs with
  | nil => trivial
  | cons c before ih =>
      have hc : c ≠ delimiter := by
        rintro rfl
        exact hmem List.mem_cons_self
      have hbefore : delimiter ∉ before := by
        intro h
        exact hmem (List.mem_cons_of_mem _ h)
      exact ⟨fun heq => absurd heq hc, ih hbefore⟩

theorem announced_append
    {delimiter : Char} {cs before : List Char}
    (hcs : Announced delimiter cs) (hbefore : Announced delimiter before) :
    Announced delimiter (cs ++ before) := by
  induction cs with
  | nil => exact hbefore
  | cons c cs ih =>
      obtain ⟨hc, hrest⟩ := hcs
      rw [List.cons_append]
      refine ⟨?_, ih hrest⟩
      intro heq
      rw [List.head?_append, hc heq]
      rfl

theorem announced_letter
    {delimiter : Char} (hdelimiter : IsDelimiter delimiter) (letter : Char) :
    Announced delimiter [letter, '\\'] := by
  refine ⟨fun _ => rfl, ?_, trivial⟩
  intro heq
  exact absurd heq.symm hdelimiter.ne_backslash

theorem not_mem_codePoint
    {delimiter : Char} (hdelimiter : IsDelimiter delimiter) (c : Char) :
    delimiter ∉ codePoint c := by
  have hdigits : delimiter ∉ Nat.toDigits 16 c.toNat := by
    intro hmem
    have hvalue := hexValue?_of_mem_toDigits hmem
    rcases hdelimiter with rfl | rfl <;> revert hvalue <;> decide
  intro hmem
  simp only [codePoint, List.mem_cons, List.mem_append, hdigits] at hmem
  rcases hdelimiter with rfl | rfl <;> revert hmem <;> decide

theorem announced_escape
    {delimiter : Char} (hdelimiter : IsDelimiter delimiter) (c : Char) :
    Announced delimiter (escape delimiter c).reverse := by
  cases hname : shortName? c with
  | some letter =>
      simp only [escape, hname]
      exact announced_letter hdelimiter letter
  | none =>
      by_cases hc : c = delimiter
      · simp only [escape, hname, if_pos hc]
        exact announced_letter hdelimiter c
      · apply announced_of_not_mem
        simp only [escape, hname, if_neg hc, List.mem_reverse]
        by_cases hprint : isUnprintable c = true
        · rw [if_pos hprint]
          exact not_mem_codePoint hdelimiter c
        · rw [if_neg hprint, List.mem_singleton]
          exact Ne.symm hc

theorem announced_flatMap_escape
    {delimiter : Char} (hdelimiter : IsDelimiter delimiter) (cs : List Char) :
    Announced delimiter (cs.flatMap (escape delimiter)).reverse := by
  induction cs with
  | nil => trivial
  | cons c cs ih =>
      rw [List.flatMap_cons, List.reverse_append]
      exact announced_append ih (announced_escape hdelimiter c)

theorem untilOpening_announced
    {delimiter : Char} {inside before : List Char}
    (hinside : Announced delimiter inside) (hbefore : before.head? ≠ some '\\') :
    untilOpening delimiter (inside ++ delimiter :: before) =
      some (inside.reverse, before) := by
  induction inside with
  | nil => simp [untilOpening, hbefore]
  | cons c inside ih =>
      obtain ⟨hc, hrest⟩ := hinside
      have hpassed : ¬(c = delimiter ∧
          (inside ++ delimiter :: before).head? ≠ some '\\') := by
        rintro ⟨heq, hhead⟩
        rw [List.head?_append, hc heq] at hhead
        exact hhead rfl
      rw [List.cons_append, untilOpening, if_neg hpassed, ih hrest]
      simp

/-- A quotation at the end is found whatever stands before it, unless the
opening delimiter itself looks announced. -/
theorem lastQuoted_enclose
    {delimiter : Char} (hdelimiter : IsDelimiter delimiter)
    {before : List Char} (hbefore : before.getLast? ≠ some '\\') (cs : List Char) :
    lastQuoted delimiter (before ++ enclose delimiter cs) = some (before, cs) := by
  have hreverse : (before ++ enclose delimiter cs).reverse =
      delimiter :: ((cs.flatMap (escape delimiter)).reverse ++
        delimiter :: before.reverse) := by
    simp [enclose]
  have hhead : before.reverse.head? ≠ some '\\' := by
    rwa [List.head?_reverse]
  have hopening := untilOpening_announced (announced_flatMap_escape hdelimiter cs) hhead
  have hread := read_enclose hdelimiter cs []
  rw [List.append_nil, enclose] at hread
  simp only [lastQuoted, hreverse, hopening, Option.bind_some, List.reverse_reverse,
    hread, Option.map_some]

theorem lastDecimal_toDigits
    {before : List Char} (hbefore : ∀ c ∈ before.getLast?, c.isDigit = false)
    (n : Nat) :
    lastDecimal (before ++ Nat.toDigits 10 n) = some (before, n) := by
  have hdigits : ∀ c ∈ (Nat.toDigits 10 n).reverse, c.isDigit = true := by
    intro c hmem
    exact Nat.isDigit_of_mem_toDigits (by decide) (by decide) (List.mem_reverse.mp hmem)
  have hne : (Nat.toDigits 10 n).reverse ≠ [] := by
    simp [Nat.toDigits_ne_nil]
  have hrest : ∀ c ∈ before.reverse.head?, c.isDigit = false := by
    rwa [List.head?_reverse]
  rw [lastDecimal, List.reverse_append, Reader.read_run hdigits hne hrest]
  simp

theorem dropPrefix?_append (start rest : List Char) :
    (start ++ rest).dropPrefix? start = some rest := by
  exact List.dropPrefix?_append_of_beq rest (by simp)

theorem dropSuffix?_append (rest ending : List Char) :
    (rest ++ ending).dropSuffix? ending = some rest := by
  rw [List.dropSuffix?_eq_some_iff]
  exact ⟨ending, rfl, by simp⟩

/-! ## After fixed words -/

theorem getLast?_append_words
    {words : List Char} {c : Char} (hwords : words.getLast? = some c)
    (before : List Char) : (before ++ words).getLast? = some c := by
  rw [List.getLast?_append, hwords]
  rfl

theorem lastDecimal_after
    (words : List Char) (hwords : words.getLast?.map Char.isDigit = some false)
    (before : List Char) (n : Nat) :
    lastDecimal (before ++ words ++ Nat.toDigits 10 n) = some (before ++ words, n) := by
  obtain ⟨last, hlast, hdigit⟩ := Option.map_eq_some_iff.mp hwords
  apply lastDecimal_toDigits
  intro c hc
  rw [getLast?_append_words hlast] at hc
  cases hc
  exact hdigit

theorem lastQuoted_after
    {delimiter : Char} (hdelimiter : IsDelimiter delimiter)
    (words : List Char) (hwords : words.getLast? = some ' ') (before cs : List Char) :
    lastQuoted delimiter (before ++ words ++ enclose delimiter cs) =
      some (before ++ words, cs) := by
  apply lastQuoted_enclose hdelimiter
  rw [getLast?_append_words hwords]
  decide

end GalleryNaming.Text
