import GalleryNaming.Text.Quoted

/-!
# Dumps of structured values

The one-line form in which diagnostics show a value with its parts: records
by name with their fields in order, lists in brackets, texts and characters
quoted.  A record without fields is its bare name.
-/

namespace GalleryNaming

open Text

inductive Dump where
  | text (value : String)
  | char (value : Char)
  | nat (value : Nat)
  | list (items : List Dump)
  | record (name : String) (fields : List (String × Dump))

namespace Dump

mutual

def chars : Dump → List Char
  | .text s => enclose '\x22' s.toList
  | .char c => enclose '\x27' [c]
  | .nat n => Nat.toDigits 10 n
  | .list items => '[' :: (itemChars items ++ [']'])
  | .record name [] => name.toList
  | .record name (field :: rest) =>
      name.toList ++ ' ' :: '\x7b' :: ' ' ::
        (fieldChars (field :: rest) ++ [' ', '\x7d'])

def itemChars : List Dump → List Char
  | [] => []
  | [item] => item.chars
  | item :: next :: rest => item.chars ++ ',' :: ' ' :: itemChars (next :: rest)

def fieldChars : List (String × Dump) → List Char
  | [] => []
  | [(name, value)] => name.toList ++ ':' :: ' ' :: value.chars
  | (name, value) :: next :: rest =>
      name.toList ++ ':' :: ' ' ::
        (value.chars ++ ',' :: ' ' :: fieldChars (next :: rest))

end

def line (dump : Dump) : String :=
  String.ofList dump.chars

@[simp] theorem toList_line (dump : Dump) : dump.line.toList = dump.chars := by
  simp [line]

end Dump

end GalleryNaming
