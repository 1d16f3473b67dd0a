import LiveLog.Text.Utf8
import LiveLog.Url.Direction
import LiveLog.Url.Label
import LiveLog.Url.Percent

namespace LiveLog

/-!
# Names of hosts

A name is a list of labels with stops between. Names that a reader takes for
the same are the same: a name is folded and composed before its labels are
told apart, so that stops of other scripts count too. Names that could be read
in two ways are refused. What is left is written in ASCII.
-/

namespace Domain

/-- Whether some label has a character that runs from right to left. -/
def turns (labels : List (List Char)) : Bool :=
  labels.any fun label => label.any fun c => (Direction.ofChar c).turns

/-- Whether the labels of a name can be read in one way only. -/
def isSteady (labels : List (List Char)) : Bool :=
  !turns labels || labels.all fun label => Direction.isSteady (label.map Direction.ofChar)

/-- The labels of a name. -/
def labels? (name : List Char) : Option (List (List Char)) := do
  let folded := Composition.ofChars (Folding.ofChars name)
  if folded.any Forbidden.holds then none
  else
    let labels ← (Text.pieces '.' folded).mapM Label.ofFolded?
    if labels.all Label.isSound && isSteady labels then some labels else none

/-- The written form of a name, given as percent-encoded text. -/
def ofText? (cs : List Char) : Option (List Char) :=
  match Utf8.decode (Percent.decode cs) with
  | (name, .nothing) => (labels? name).map fun ls => ['.'].intercalate (ls.map Label.written)
  | _ => none

/-- Case and percent signs do not matter. -/
example : ofText? "EX%41mple.Test".toList = some "example.test".toList ∧
    ofText? "a b".toList = none ∧ ofText? "xn--".toList = none := by decide +kernel

end Domain

end LiveLog
