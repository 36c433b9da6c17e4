import Entitlement.Text.Composite
import Entitlement.Text.Mark

/-!
Composed normal form: of all the texts that mean the same, the one in which marks stand in the order
of their classes and bases are put together with their marks where there is a character for it.
-/

namespace Entitlement.Text.NormalForm

def apart (text : List Char) : List Char :=
  text.flatMap fun c => (Composite.parts c).map Char.ofNat

-- A mark goes behind the marks of lower classes that follow it.
def place (c : Char) : List Char → List Char
  | [] => [c]
  | next :: rest =>
      if 0 < combiningClass next && combiningClass next < combiningClass c then
        next :: place c rest
      else c :: next :: rest

/-- A text with the marks behind each base in the order of their classes. -/
def ordered (text : List Char) : List Char := text.foldr place []

-- A mark of the same class, or a base, stands between a base and what could join it.
def isBlocked (between : List Char) (c : Char) : Bool :=
  between.getLast?.any fun last => combiningClass c ≤ combiningClass last

/-- Puts a base together with what follows it; `between` are the marks that did not join it. -/
def joinAll (base : Char) (between : List Char) : List Char → List Char
  | [] => base :: between
  | c :: rest =>
      match if isBlocked between c then none else Composite.join? base c with
      | some joined => joinAll joined between rest
      | none =>
          if combiningClass c = 0 then base :: between ++ joinAll c [] rest
          else joinAll base (between ++ [c]) rest

def together : List Char → List Char
  | [] => []
  | first :: rest => joinAll first [] rest

def composed (text : List Char) : List Char := together (ordered (apart text))

end Entitlement.Text.NormalForm
