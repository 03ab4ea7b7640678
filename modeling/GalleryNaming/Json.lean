/-!
# Compact JSON documents

The part of JSON that reports need: texts, natural numbers, arrays, and
objects whose members keep the order in which they are listed.  The compact
form has no blanks between tokens, and a text in it escapes the quote, the
backslash and the controls below the space, nothing else.
-/

namespace GalleryNaming

inductive Json where
  | text (value : String)
  | nat (value : Nat)
  | array (items : List Json)
  | object (members : List (String × Json))

namespace Json

/-- The letter that names a character after a backslash. -/
def shortName? (c : Char) : Option Char :=
  if c = '\x22' then some '\x22'
  else if c = '\\' then some '\\'
  else if c = '\x08' then some 'b'
  else if c = '\x0c' then some 'f'
  else if c = '\n' then some 'n'
  else if c = '\r' then some 'r'
  else if c = '\t' then some 't'
  else none

/-- Four hexadecimal digits for a code point below the space. -/
def control (c : Char) : List Char :=
  ['\\', 'u', '0', '0', Nat.digitChar (c.toNat / 16), Nat.digitChar (c.toNat % 16)]

def escape (c : Char) : List Char :=
  match shortName? c with
  | some letter => ['\\', letter]
  | none => if c.toNat < 0x20 then control c else [c]

def textChars (s : String) : List Char :=
  '\x22' :: (s.toList.flatMap escape ++ ['\x22'])

mutual

def chars : Json → List Char
  | .text s => textChars s
  | .nat n => Nat.toDigits 10 n
  | .array items => '[' :: (itemChars items ++ [']'])
  | .object members => '\x7b' :: (memberChars members ++ ['\x7d'])

def itemChars : List Json → List Char
  | [] => []
  | [item] => item.chars
  | item :: next :: rest => item.chars ++ ',' :: itemChars (next :: rest)

def memberChars : List (String × Json) → List Char
  | [] => []
  | [(key, value)] => textChars key ++ ':' :: value.chars
  | (key, value) :: next :: rest =>
      textChars key ++ ':' :: (value.chars ++ ',' :: memberChars (next :: rest))

end

def compact (document : Json) : String :=
  String.ofList document.chars

@[simp] theorem toList_compact (document : Json) :
    document.compact.toList = document.chars := by
  simp [compact]

end Json

end GalleryNaming
