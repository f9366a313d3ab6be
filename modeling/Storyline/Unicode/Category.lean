import Storyline.Unicode.Category.Letter
import Storyline.Unicode.Category.Mark
import Storyline.Unicode.Category.Number
import Storyline.Unicode.Category.Punctuation
import Storyline.Unicode.Category.Symbol
import Storyline.Unicode.Category.Other

/-!
# General categories

The general categories of Unicode 16.0 with their names. A name such as `Letter` stands for
several categories.
-/

set_option autoImplicit false

namespace Storyline.Unicode

/-- The general categories of characters. -/
inductive Category
  | uppercaseLetter | lowercaseLetter | titlecaseLetter | modifierLetter | otherLetter
  | nonspacingMark | spacingMark | enclosingMark
  | decimalNumber | letterNumber | otherNumber
  | connectorPunctuation | dashPunctuation | openPunctuation | closePunctuation
  | initialPunctuation | finalPunctuation | otherPunctuation
  | mathSymbol | currencySymbol | modifierSymbol | otherSymbol
  | spaceSeparator | lineSeparator | paragraphSeparator
  | control | format | privateUse | unassigned
deriving DecidableEq, Repr

namespace Category

/-- The characters of a category, those of `unassigned` excepted. -/
def ranges : Category → Ranges
  | uppercaseLetter => Ranges.uppercaseLetter
  | lowercaseLetter => Ranges.lowercaseLetter
  | titlecaseLetter => Ranges.titlecaseLetter
  | modifierLetter => Ranges.modifierLetter
  | otherLetter => Ranges.otherLetter
  | nonspacingMark => Ranges.nonspacingMark
  | spacingMark => Ranges.spacingMark
  | enclosingMark => Ranges.enclosingMark
  | decimalNumber => Ranges.decimalNumber
  | letterNumber => Ranges.letterNumber
  | otherNumber => Ranges.otherNumber
  | connectorPunctuation => Ranges.connectorPunctuation
  | dashPunctuation => Ranges.dashPunctuation
  | openPunctuation => Ranges.openPunctuation
  | closePunctuation => Ranges.closePunctuation
  | initialPunctuation => Ranges.initialPunctuation
  | finalPunctuation => Ranges.finalPunctuation
  | otherPunctuation => Ranges.otherPunctuation
  | mathSymbol => Ranges.mathSymbol
  | currencySymbol => Ranges.currencySymbol
  | modifierSymbol => Ranges.modifierSymbol
  | otherSymbol => Ranges.otherSymbol
  | spaceSeparator => Ranges.spaceSeparator
  | lineSeparator => Ranges.lineSeparator
  | paragraphSeparator => Ranges.paragraphSeparator
  | control => Ranges.control
  | format => Ranges.format
  | privateUse => Ranges.privateUse
  | unassigned => []

def letters : List Category :=
  [uppercaseLetter, lowercaseLetter, titlecaseLetter, modifierLetter, otherLetter]

def casedLetters : List Category := [uppercaseLetter, lowercaseLetter, titlecaseLetter]

def marks : List Category := [nonspacingMark, spacingMark, enclosingMark]

def numbers : List Category := [decimalNumber, letterNumber, otherNumber]

def punctuation : List Category :=
  [connectorPunctuation, dashPunctuation, openPunctuation, closePunctuation, initialPunctuation,
   finalPunctuation, otherPunctuation]

def symbols : List Category := [mathSymbol, currencySymbol, modifierSymbol, otherSymbol]

def separators : List Category := [spaceSeparator, lineSeparator, paragraphSeparator]

def others : List Category := [control, format, privateUse, unassigned]

/-- The categories of assigned characters. -/
def assigned : List Category :=
  letters ++ marks ++ numbers ++ punctuation ++ symbols ++ separators ++
    [control, format, privateUse]

/-- `c` is in the category. A character that no range lists is unassigned. -/
def contains (k : Category) (c : Char) : Bool :=
  if k = unassigned then !assigned.any fun k => k.ranges.contains c else k.ranges.contains c

/-- The names of categories and of groups of categories, without case, blanks and underscores. -/
def named : List (String × List Category) :=
  [("lu", [uppercaseLetter]), ("uppercaseletter", [uppercaseLetter]),
   ("ll", [lowercaseLetter]), ("lowercaseletter", [lowercaseLetter]),
   ("lt", [titlecaseLetter]), ("titlecaseletter", [titlecaseLetter]),
   ("lc", casedLetters), ("casedletter", casedLetters),
   ("lm", [modifierLetter]), ("modifierletter", [modifierLetter]),
   ("lo", [otherLetter]), ("otherletter", [otherLetter]),
   ("l", letters), ("letter", letters),
   ("mn", [nonspacingMark]), ("nonspacingmark", [nonspacingMark]),
   ("mc", [spacingMark]), ("spacingmark", [spacingMark]),
   ("me", [enclosingMark]), ("enclosingmark", [enclosingMark]),
   ("m", marks), ("mark", marks), ("combiningmark", marks),
   ("nd", [decimalNumber]), ("decimalnumber", [decimalNumber]), ("digit", [decimalNumber]),
   ("nl", [letterNumber]), ("letternumber", [letterNumber]),
   ("no", [otherNumber]), ("othernumber", [otherNumber]),
   ("n", numbers), ("number", numbers),
   ("pc", [connectorPunctuation]), ("connectorpunctuation", [connectorPunctuation]),
   ("pd", [dashPunctuation]), ("dashpunctuation", [dashPunctuation]),
   ("ps", [openPunctuation]), ("openpunctuation", [openPunctuation]),
   ("pe", [closePunctuation]), ("closepunctuation", [closePunctuation]),
   ("pi", [initialPunctuation]), ("initialpunctuation", [initialPunctuation]),
   ("pf", [finalPunctuation]), ("finalpunctuation", [finalPunctuation]),
   ("po", [otherPunctuation]), ("otherpunctuation", [otherPunctuation]),
   ("p", punctuation), ("punctuation", punctuation), ("punct", punctuation),
   ("sm", [mathSymbol]), ("mathsymbol", [mathSymbol]),
   ("sc", [currencySymbol]), ("currencysymbol", [currencySymbol]),
   ("sk", [modifierSymbol]), ("modifiersymbol", [modifierSymbol]),
   ("so", [otherSymbol]), ("othersymbol", [otherSymbol]),
   ("s", symbols), ("symbol", symbols),
   ("zs", [spaceSeparator]), ("spaceseparator", [spaceSeparator]),
   ("zl", [lineSeparator]), ("lineseparator", [lineSeparator]),
   ("zp", [paragraphSeparator]), ("paragraphseparator", [paragraphSeparator]),
   ("z", separators), ("separator", separators),
   ("cc", [control]), ("control", [control]), ("cntrl", [control]),
   ("cf", [format]), ("format", [format]),
   ("co", [privateUse]), ("privateuse", [privateUse]),
   ("cn", [unassigned]), ("unassigned", [unassigned]),
   ("c", others), ("other", others)]

end Category

end Storyline.Unicode
