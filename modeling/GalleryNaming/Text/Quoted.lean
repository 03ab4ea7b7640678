import GalleryNaming.Text.Unprintable

/-!
# Quoted text

A text or a single character as diagnostics show it: between two delimiters,
with a backslash before whatever could be misread.  Each character is written
on its own, without regard to its neighbours.
-/

namespace GalleryNaming.Text

/-- The letter that names a character after a backslash. -/
def shortName? (c : Char) : Option Char :=
  if c = '\x00' then some '0'
  else if c = '\t' then some 't'
  else if c = '\n' then some 'n'
  else if c = '\r' then some 'r'
  else if c = '\\' then some '\\'
  else none

/-- A code point in braces, in hexadecimal without leading zeros. -/
def codePoint (c : Char) : List Char :=
  '\\' :: 'u' :: '\x7b' :: (Nat.toDigits 16 c.toNat ++ ['\x7d'])

/-- One character between delimiters.  Short names come first, then the
delimiter itself, then the characters that cannot be seen. -/
def escape (delimiter c : Char) : List Char :=
  match shortName? c with
  | some letter => ['\\', letter]
  | none =>
      if c = delimiter then ['\\', c]
      else if isUnprintable c then codePoint c
      else [c]

def enclose (delimiter : Char) (cs : List Char) : List Char :=
  delimiter :: (cs.flatMap (escape delimiter) ++ [delimiter])

/-- A text stands between double quotes; a single quote in it is plain. -/
def quoteText (s : String) : String :=
  String.ofList (enclose '\x22' s.toList)

/-- A character stands between single quotes; a double quote is plain. -/
def quoteChar (c : Char) : String :=
  String.ofList (enclose '\x27' [c])

@[simp] theorem toList_quoteText (s : String) :
    (quoteText s).toList = enclose '\x22' s.toList := by
  simp [quoteText]

@[simp] theorem toList_quoteChar (c : Char) :
    (quoteChar c).toList = enclose '\x27' [c] := by
  simp [quoteChar]

end GalleryNaming.Text
