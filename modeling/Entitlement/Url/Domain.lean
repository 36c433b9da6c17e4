import Entitlement.Text.Form
import Entitlement.Text.NormalForm
import Entitlement.Url.Folding
import Entitlement.Url.Label

/-!
Domain names in ASCII. A name is folded, brought to its composed normal form and cut into labels at
the full stops; a label with other characters is written in Punycode behind a mark.
-/

namespace Entitlement.Domain

open Text

def isForbidden (c : Char) : Bool :=
  c ≤ ' ' || c == '\x7f'
    || ['#', '%', '/', ':', '<', '>', '?', '@', '[', '\\', ']', '^', '|'].contains c

def folded? (text : List Char) : Option (List Char) := do
  return NormalForm.composed (← text.mapM Folding.fold?).flatten

def mark : List Char := ['x', 'n', '-', '-']

/-- Longer texts behind a mark are not read. -/
def greatestMarked : Nat := 2000

/-- The label that a text behind a mark stands for; it has to need the mark, and to be folded. -/
def ofMarked? (text : List Char) : Option (List Char) := do
  if greatestMarked < text.length then none
  let label ← Punycode.decode? text
  if !Label.isBasic label && folded? label == some label then some label else none

def label? (text : List Char) : Option (List Char) :=
  if mark.isPrefixOf text then ofMarked? (text.drop mark.length) else some text

def labelToAscii (label : List Char) : List Char :=
  if Label.isBasic label then label else mark ++ Punycode.encode label

def areAllowed (labels : List (List Char)) : Bool :=
  labels.all Label.isAllowed
    && (!(labels.any (·.any Label.runsFromRight)) || labels.all Label.keepsDirection)

def toAscii? (name : List Char) : Option (List Char) := do
  let folded ← folded? name
  if folded.any isForbidden then none
  else
    let labels ← (Form.splitAt '.' folded).mapM label?
    if areAllowed labels then some (Form.joinWith '.' (labels.map labelToAscii)) else none

end Entitlement.Domain
