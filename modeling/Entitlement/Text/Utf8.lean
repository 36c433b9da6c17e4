/-!
Reading bytes as UTF-8. A text that arrives over the network may be damaged, so reading gives
pieces: characters, and maximal damaged parts. The same pieces serve the JSON reader, which
refuses damage only inside a text it needs, and the repaired text, which shows each damaged part
as one replacement character.
-/

namespace Entitlement.Text

inductive Piece where
  | char (c : Char)
  | damage (width : Nat)
  deriving DecidableEq, Repr

namespace Piece

def width : Piece → Nat
  | .char c => c.utf8Size
  | .damage width => width

end Piece

-- A character that still waits for bytes: the next byte must lie between `low` and `high`.
structure Pending where
  missing : Nat
  low : Nat
  high : Nat
  value : Nat
  width : Nat

-- The first continuation byte is bounded more tightly than the others: that shuts out overlong
-- forms, surrogates and everything above the last code point.
def lead (byte : Nat) : Option Pending :=
  if 0xC2 ≤ byte ∧ byte ≤ 0xDF then some ⟨1, 0x80, 0xBF, byte - 0xC0, 1⟩
  else if byte = 0xE0 then some ⟨2, 0xA0, 0xBF, 0, 1⟩
  else if byte = 0xED then some ⟨2, 0x80, 0x9F, 0xD, 1⟩
  else if 0xE1 ≤ byte ∧ byte ≤ 0xEF then some ⟨2, 0x80, 0xBF, byte - 0xE0, 1⟩
  else if byte = 0xF0 then some ⟨3, 0x90, 0xBF, 0, 1⟩
  else if 0xF1 ≤ byte ∧ byte ≤ 0xF3 then some ⟨3, 0x80, 0xBF, byte - 0xF0, 1⟩
  else if byte = 0xF4 then some ⟨3, 0x80, 0x8F, 4, 1⟩
  else none

def begin (byte : Nat) : List Piece × Option Pending :=
  if byte < 0x80 then ([.char (Char.ofNat byte)], none)
  else match lead byte with
    | some pending => ([], some pending)
    | none => ([.damage 1], none)

def step (state : Option Pending) (byte : Nat) : List Piece × Option Pending :=
  match state with
  | none => begin byte
  | some pending =>
      if pending.low ≤ byte ∧ byte ≤ pending.high then
        let value := pending.value * 64 + (byte - 0x80)
        if pending.missing ≤ 1 then ([.char (Char.ofNat value)], none)
        else ([], some ⟨pending.missing - 1, 0x80, 0xBF, value, pending.width + 1⟩)
      else
        let next := begin byte
        (.damage pending.width :: next.1, next.2)

def piecesFrom : Option Pending → List UInt8 → List Piece
  | none, [] => []
  | some pending, [] => [.damage pending.width]
  | state, byte :: rest =>
      let next := step state byte.toNat
      next.1 ++ piecesFrom next.2 rest

def pieces (bytes : List UInt8) : List Piece :=
  piecesFrom none bytes

def ofText (text : String) : List Piece :=
  text.toList.map Piece.char

def repaired : Piece → Char
  | .char c => c
  | .damage _ => '\uFFFD'

/-- The text that bytes show, each damaged part as one replacement character. -/
def repair (bytes : List UInt8) : String :=
  String.ofList ((pieces bytes).map repaired)

def undamaged? : Piece → Option Char
  | .char c => some c
  | .damage _ => none

/-- The text that bytes hold, if no part of them is damaged. -/
def intact? (bytes : List UInt8) : Option String :=
  ((pieces bytes).mapM undamaged?).map String.ofList

def bytes (text : String) : List UInt8 :=
  text.toList.flatMap String.utf8EncodeChar

end Entitlement.Text
