import NoteSearch.Text.Basic

/-!
# UTF-8

Bytes are read one well-formed sequence at a time. Where none begins, the ill-formed bytes are the
longest start of a well-formed sequence, or one byte when there is no such start; reading a note file
fails there, and reading bytes for a log line puts the replacement character in their place.
-/

namespace NoteSearch

abbrev Byte := UInt8

namespace Utf8

/-- Why a byte sequence is not well formed. -/
inductive Fault
  | invalidStart
  | invalidContinuation
  | unexpectedEnd
  deriving DecidableEq, Repr

def Fault.message : Fault → String
  | .invalidStart => "invalid start byte"
  | .invalidContinuation => "invalid continuation byte"
  | .unexpectedEnd => "unexpected end of data"

/-- The first ill-formed sequence: where it begins, its bytes and what is wrong with it. -/
structure Error where
  position : Nat
  bytes : List Byte
  fault : Fault
  deriving DecidableEq, Repr

def Error.message (e : Error) : String :=
  let place :=
    match e.bytes with
    | [byte] => "byte 0x" ++ String.ofList (hexByte byte) ++ " in position " ++ toString e.position
    | bytes => "bytes in position " ++ toString e.position ++ "-"
        ++ toString (e.position + bytes.length - 1)
  "'utf-8' codec can't decode " ++ place ++ ": " ++ e.fault.message
where
  hexByte (byte : Byte) : List Char :=
    let digits := Nat.toDigits 16 byte.toNat
    List.replicate (2 - digits.length) '0' ++ digits

/-- The outcome of reading at the front of the bytes. -/
inductive Step
  | char (c : Char) (length : Nat)
  | fault (fault : Fault) (length : Nat)

/-- The length of the sequence a byte begins, and the bits of the character it carries. -/
def lead? (byte : Byte) : Option (Nat × Nat) :=
  let n := byte.toNat
  if n < 0x80 then some (1, n)
  else if n < 0xC2 then none
  else if n < 0xE0 then some (2, n % 0x20)
  else if n < 0xF0 then some (3, n % 0x10)
  else if n < 0xF5 then some (4, n % 0x08)
  else none

/-- Whether a byte may stand second after a given first one, which rules out longer spellings than
needed, surrogates and what lies above the last code point. -/
def second (first byte : Byte) : Bool :=
  let low := if first = 0xE0 then 0xA0 else if first = 0xF0 then 0x90 else 0x80
  let high := if first = 0xED then 0x9F else if first = 0xF4 then 0x8F else 0xBF
  decide (low ≤ byte ∧ byte ≤ high)

def continuation (byte : Byte) : Bool :=
  decide (0x80 ≤ byte ∧ byte ≤ 0xBF)

/-- Reads the `missing` last bytes of a sequence of which `taken` are read. -/
def finish : (missing taken bits : Nat) → List Byte → Step
  | 0, taken, bits, _ => .char (Char.ofNat bits) taken
  | _ + 1, taken, _, [] => .fault .unexpectedEnd taken
  | missing + 1, taken, bits, byte :: rest =>
      if continuation byte then finish missing (taken + 1) (bits * 64 + byte.toNat % 64) rest
      else .fault .invalidContinuation taken

/-- Reads the sequence that `first` begins. -/
def step (first : Byte) (rest : List Byte) : Step :=
  match lead? first with
  | none => .fault .invalidStart 1
  | some (length, bits) =>
      match rest with
      | next :: _ =>
          if 1 < length && !second first next then .fault .invalidContinuation 1
          else finish (length - 1) 1 bits rest
      | [] => finish (length - 1) 1 bits rest

/-- Reads bytes that start at `position`; `skip` of them belong to the character read last. -/
def decodeFrom (position : Nat) : (skip : Nat) → List Byte → Except Error Text
  | _, [] => .ok []
  | skip + 1, _ :: rest => decodeFrom (position + 1) skip rest
  | 0, first :: rest =>
      match step first rest with
      | .char c length => (decodeFrom (position + 1) (length - 1) rest).map (c :: ·)
      | .fault fault length => .error ⟨position, (first :: rest).take length, fault⟩

/-- The text of the bytes, or the first ill-formed sequence. -/
def decode (bytes : List Byte) : Except Error Text :=
  decodeFrom 0 0 bytes

/-- Reads bytes with a replacement character for each ill-formed sequence. -/
def decodeReplacing : (skip : Nat) → List Byte → Text
  | _, [] => []
  | skip + 1, _ :: rest => decodeReplacing skip rest
  | 0, first :: rest =>
      match step first rest with
      | .char c length => c :: decodeReplacing (length - 1) rest
      | .fault _ length => '\uFFFD' :: decodeReplacing (length - 1) rest

/-- The text of the bytes with every ill-formed sequence replaced. -/
def decodeLossy (bytes : List Byte) : Text :=
  decodeReplacing 0 bytes

end Utf8

/-- Line ends of every convention written as line feeds. -/
def Text.unixLines : Text → Text
  | [] => []
  | '\r' :: '\n' :: rest => '\n' :: unixLines rest
  | c :: rest => (if c == '\r' then '\n' else c) :: unixLines rest

end NoteSearch
