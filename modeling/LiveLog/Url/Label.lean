import LiveLog.Text.Composition
import LiveLog.Url.Folding
import LiveLog.Url.Forbidden
import LiveLog.Url.Joining
import LiveLog.Url.Punycode

namespace LiveLog

/-!
# Labels

The name of a host is a list of labels. A label beyond ASCII has a written form
in ASCII, which begins with a mark of its own. Reading that form gives the
label, which must be one that folding would leave alone: a name has one written
form and no other.
-/

namespace Label

/-- How a written form in ASCII begins. -/
def mark : List Char := ['x', 'n', '-', '-']

/-- How long the rest of a written form may be. -/
def longestCode : Nat := 2000

/-- How long a label beyond ASCII may be. -/
def longest : Nat := 1000

/-- Whether a character may stand in a label that is written in ASCII. -/
def isLasting (c : Char) : Bool := Folding.ofChar c == [c] && !Forbidden.holds c

/-- Whether a label is what its written form in ASCII should stand for. -/
def isLastingForm (label : List Char) : Bool :=
  label.all isLasting && Composition.ofChars label == label

/-- The label that a folded text stands for: the text itself, unless it is a
written form. -/
def ofFolded? (cs : List Char) : Option (List Char) :=
  if cs.take 4 = mark then
    let code := cs.drop 4
    if code.all Punycode.isAscii ∧ code ≠ [] ∧ code.getLast? ≠ some '-' ∧
        code.length ≤ longestCode then
      (Punycode.decode code).filter isLastingForm
    else none
  else some cs

/-- Whether a label does not begin with a mark, has its joiners where they may
stand, and is not too long. -/
def isSound (label : List Char) : Bool :=
  label.all Punycode.isAscii ||
    (!(label.take 1).any Marks.isMark && Joining.isSound [] label && label.length ≤ longest)

/-- The label as it stands in an address: encoded and marked if it has other than ASCII
characters. -/
def written (label : List Char) : List Char :=
  if label.all Punycode.isAscii then label else mark ++ Punycode.encode label

/-- A text in ASCII that is no written form stands for itself and is written as
it is. -/
theorem written_of_ascii {cs : List Char} (h : cs.all Punycode.isAscii = true) :
    written cs = cs := by simp [written, h]

theorem ofFolded?_of_no_mark {cs : List Char} (h : cs.take 4 ≠ mark) :
    ofFolded? cs = some cs := by simp [ofFolded?, h]

end Label

end LiveLog
