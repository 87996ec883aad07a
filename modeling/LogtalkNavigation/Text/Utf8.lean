import LogtalkNavigation.Text.Basic

/-! UTF-8. Decoding is a machine that reads one byte at a time. Between characters it is `idle`;
inside one it knows how many bytes are still to come, where the next of them has to lie, the bits
gathered so far and the number of bytes read. A byte that cannot continue the character ends it as
damaged and is then read as a first byte, so each maximal piece of a character that is not there in
full counts as one fault. -/

namespace LogtalkNavigation.Utf8

inductive Reason where
  | invalidStart
  | invalidContinuation
  | unexpectedEnd
deriving DecidableEq, Repr

/-- Where a character begins that is not there in full, and how many of its bytes are. -/
structure Damage where
  position : Nat
  length : Nat
  reason : Reason
deriving DecidableEq, Repr

inductive State where
  | idle
  -- `missing` bytes to come, the next in `low` to `high`; `bits` gathered from `read` bytes.
  | inside (missing low high bits read : Nat)
deriving DecidableEq, Repr

inductive Piece where
  | char (c : Char)
  | damaged (length : Nat) (reason : Reason)
deriving DecidableEq, Repr

def first (byte : Nat) : State × List Piece :=
  if byte < 0x80 then (.idle, [.char (Char.ofNat byte)])
  else if byte < 0xC2 then (.idle, [.damaged 1 .invalidStart])
  else if byte < 0xE0 then (.inside 1 0x80 0xBF (byte - 0xC0) 1, [])
  else if byte = 0xE0 then (.inside 2 0xA0 0xBF 0 1, [])
  else if byte = 0xED then (.inside 2 0x80 0x9F 0xD 1, [])
  else if byte < 0xF0 then (.inside 2 0x80 0xBF (byte - 0xE0) 1, [])
  else if byte = 0xF0 then (.inside 3 0x90 0xBF 0 1, [])
  else if byte < 0xF4 then (.inside 3 0x80 0xBF (byte - 0xF0) 1, [])
  else if byte = 0xF4 then (.inside 3 0x80 0x8F 4 1, [])
  else (.idle, [.damaged 1 .invalidStart])

def step (state : State) (byte : UInt8) : State × List Piece :=
  match state with
  | .idle => first byte.toNat
  | .inside missing low high bits read =>
    if low ≤ byte.toNat ∧ byte.toNat ≤ high then
      let bits := bits * 64 + (byte.toNat - 0x80)
      if missing ≤ 1 then (.idle, [.char (Char.ofNat bits)])
      else (.inside (missing - 1) 0x80 0xBF bits (read + 1), [])
    else
      let (next, pieces) := first byte.toNat
      (next, .damaged read .invalidContinuation :: pieces)

def finish : State → List Piece
  | .idle => []
  | .inside _ _ _ _ read => [.damaged read .unexpectedEnd]

def pieces : State → List UInt8 → List Piece
  | state, [] => finish state
  | state, byte :: bytes => (step state byte).2 ++ pieces (step state byte).1 bytes

def Piece.shown : Piece → Char
  | .char c => c
  | .damaged _ _ => '\uFFFD'

def decode (bytes : List UInt8) : Text := (pieces .idle bytes).map Piece.shown

def encode (text : Text) : List UInt8 := text.flatMap String.utf8EncodeChar

def firstDamage (position : Nat) : List Piece → Option Damage
  | [] => none
  | .char c :: rest => firstDamage (position + (String.utf8EncodeChar c).length) rest
  | .damaged length reason :: _ => some ⟨position, length, reason⟩

def decodeStrict (bytes : List UInt8) : Except Damage Text :=
  match firstDamage 0 (pieces .idle bytes) with
  | some damage => .error damage
  | none => .ok (decode bytes)

def Reason.message : Reason → String
  | .invalidStart => "invalid start byte"
  | .invalidContinuation => "invalid continuation byte"
  | .unexpectedEnd => "unexpected end of data"

end LogtalkNavigation.Utf8
