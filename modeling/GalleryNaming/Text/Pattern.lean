/-!
# Text patterns

A pattern relates a place in a text to the places at which a match that
begins there may end.  All of them are kept, so a repetition gives characters
back whenever the rest of the pattern needs them.  A pattern occurs in a text
when it matches from some place, and only its own anchors tie it to the ends.
-/

namespace GalleryNaming.Text

/-- A place in a text: the characters before it, nearest first, and those
after it. -/
structure Place where
  before : List Char
  after : List Char

inductive Pattern where
  /-- Nothing precedes the place. -/
  | textStart
  /-- Nothing follows the place. -/
  | textEnd
  | char (accepts : Char → Bool)
  /-- One or more characters. -/
  | run (accepts : Char → Bool)
  | andThen (first second : Pattern)
  /-- The same pattern so many times in a row. -/
  | times (count : Nat) (item : Pattern)

/-- The places after one, two, … accepted characters. -/
def runEnds (accepts : Char → Bool) (before : List Char) : List Char → List Place
  | [] => []
  | c :: after =>
      if accepts c then ⟨c :: before, after⟩ :: runEnds accepts (c :: before) after
      else []

/-- The places that a fixed number of steps reaches. -/
def iterate (step : Place → List Place) : Nat → Place → List Place
  | 0, place => [place]
  | count + 1, place => (step place).flatMap (iterate step count)

namespace Pattern

def ends : Pattern → Place → List Place
  | .textStart, place => if place.before.isEmpty then [place] else []
  | .textEnd, place => if place.after.isEmpty then [place] else []
  | .char accepts, place =>
      match place.after with
      | [] => []
      | c :: after => if accepts c then [⟨c :: place.before, after⟩] else []
  | .run accepts, place => runEnds accepts place.before place.after
  | .andThen first second, place => (first.ends place).flatMap second.ends
  | .times count item, place => iterate item.ends count place

def occursFrom (pattern : Pattern) (before : List Char) : List Char → Bool
  | [] => !(pattern.ends ⟨before, []⟩).isEmpty
  | c :: after =>
      !(pattern.ends ⟨before, c :: after⟩).isEmpty ||
        occursFrom pattern (c :: before) after

def occursIn (pattern : Pattern) (cs : List Char) : Bool :=
  pattern.occursFrom [] cs

end Pattern

end GalleryNaming.Text
