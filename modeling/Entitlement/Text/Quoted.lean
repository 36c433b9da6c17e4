import Entitlement.Text.Hidden

/-!
Quoted text, as messages show it: between double quotes, with the quote, the backslash and
everything that does not show by itself escaped.
-/

namespace Entitlement.Text

def hexText (value : Nat) : String :=
  String.ofList (Nat.toDigits 16 value)

def quotedChar (c : Char) : String :=
  if c = '\x00' then "\\0"
  else if c = '\t' then "\\t"
  else if c = '\r' then "\\r"
  else if c = '\n' then "\\n"
  else if c = '\\' then "\\\\"
  else if c = '\x22' then "\\\""
  else if ' ' ≤ c ∧ c ≤ '~' then String.singleton c
  else if isHidden c then "\\u\x7b" ++ hexText c.toNat ++ "\x7d"
  else String.singleton c

/-- A text between double quotes, with all that does not show by itself escaped. -/
def quoted (text : String) : String :=
  "\"" ++ String.join (text.toList.map quotedChar) ++ "\""

end Entitlement.Text
