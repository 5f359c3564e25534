/-!
# UTF-8

Files hold bytes. `encode` writes a text as UTF-8; `decode` reads one and says, where the bytes are
not UTF-8, which of them are at fault and why. A fault covers the longest start of a sequence that
could still have become a character.
-/

namespace FluentBuilder.Utf8

/-- Why bytes are not UTF-8. -/
inductive Reason where
  /-- No character begins with this byte. -/
  | invalidStart
  /-- A byte inside a character does not continue it. -/
  | invalidContinuation
  /-- The bytes end inside a character. -/
  | unexpectedEnd
  deriving DecidableEq, Repr

/-- The wording of a reason. -/
def Reason.message : Reason → String
  | .invalidStart => "invalid start byte"
  | .invalidContinuation => "invalid continuation byte"
  | .unexpectedEnd => "unexpected end of data"

/-- The bytes at which decoding stops. -/
structure Fault where
  /-- The first byte. -/
  byte : UInt8
  /-- Its position. -/
  position : Nat
  /-- How many bytes are at fault. -/
  count : Nat
  /-- What is wrong with them. -/
  reason : Reason
  deriving DecidableEq, Repr

/-- Is it the second or a later byte of a character? -/
def isContinuation (b : UInt8) : Bool :=
  0x80 ≤ b && b ≤ 0xBF

/-- The six low bits of a continuation byte. -/
def payload (b : UInt8) : Nat :=
  b.toNat % 64

/-- Reads one character, and gives the number of bytes that it takes. -/
def step (b : UInt8) (rest : List UInt8) : Except (Nat × Reason) (Char × Nat) :=
  if b < 0x80 then .ok (Char.ofNat b.toNat, 1)
  else if b < 0xC2 then .error (1, .invalidStart)
  else if b < 0xE0 then
    match rest with
    | [] => .error (1, .unexpectedEnd)
    | b₂ :: _ =>
      if isContinuation b₂ then .ok (Char.ofNat ((b.toNat - 0xC0) * 64 + payload b₂), 2)
      else .error (1, .invalidContinuation)
  else if b < 0xF0 then
    match rest with
    | [] => .error (1, .unexpectedEnd)
    | b₂ :: rest =>
      if !isContinuation b₂ || (b == 0xE0 && b₂ < 0xA0) || (b == 0xED && b₂ ≥ 0xA0) then
        .error (1, .invalidContinuation)
      else match rest with
        | [] => .error (2, .unexpectedEnd)
        | b₃ :: _ =>
          if isContinuation b₃ then
            .ok (Char.ofNat (((b.toNat - 0xE0) * 64 + payload b₂) * 64 + payload b₃), 3)
          else .error (2, .invalidContinuation)
  else if b < 0xF5 then
    match rest with
    | [] => .error (1, .unexpectedEnd)
    | b₂ :: rest =>
      if !isContinuation b₂ || (b == 0xF0 && b₂ < 0x90) || (b == 0xF4 && b₂ ≥ 0x90) then
        .error (1, .invalidContinuation)
      else match rest with
        | [] => .error (2, .unexpectedEnd)
        | b₃ :: rest =>
          if !isContinuation b₃ then .error (2, .invalidContinuation)
          else match rest with
            | [] => .error (3, .unexpectedEnd)
            | b₄ :: _ =>
              if isContinuation b₄ then
                .ok (Char.ofNat ((((b.toNat - 0xF0) * 64 + payload b₂) * 64 + payload b₃) * 64
                  + payload b₄), 4)
              else .error (3, .invalidContinuation)
  else .error (1, .invalidStart)

/-- Decodes from a position on; `skip` bytes belong to the character read last. -/
def decodeFrom (position skip : Nat) (read : List Char) : List UInt8 → Except Fault (List Char)
  | [] => .ok read.reverse
  | b :: rest =>
    match skip with
    | skip + 1 => decodeFrom (position + 1) skip read rest
    | 0 =>
      match step b rest with
      | .ok (c, taken) => decodeFrom (position + 1) (taken - 1) (c :: read) rest
      | .error (count, reason) => .error ⟨b, position, count, reason⟩

/-- The text that the bytes write. -/
def decode (bytes : List UInt8) : Except Fault String :=
  (decodeFrom 0 0 [] bytes).map String.ofList

/-- Decodes with a mark in the place of every fault; `skip` bytes belong to what was read last. -/
def decodeMarkingFrom (skip : Nat) : List UInt8 → List Char
  | [] => []
  | b :: rest =>
    match skip with
    | skip + 1 => decodeMarkingFrom skip rest
    | 0 =>
      match step b rest with
      | .ok (c, taken) => c :: decodeMarkingFrom (taken - 1) rest
      | .error (count, _) => '\uFFFD' :: decodeMarkingFrom (count - 1) rest

/-- The characters that the bytes write, with a mark in the place of every fault. -/
def decodeMarking (bytes : List UInt8) : List Char :=
  decodeMarkingFrom 0 bytes

/-- The bytes of one character. -/
def encodeChar (c : Char) : List UInt8 :=
  let n := c.toNat
  if n < 0x80 then [n.toUInt8]
  else if n < 0x800 then [(0xC0 + n / 64).toUInt8, (0x80 + n % 64).toUInt8]
  else if n < 0x10000 then
    [(0xE0 + n / 4096).toUInt8, (0x80 + n / 64 % 64).toUInt8, (0x80 + n % 64).toUInt8]
  else
    [(0xF0 + n / 262144).toUInt8, (0x80 + n / 4096 % 64).toUInt8, (0x80 + n / 64 % 64).toUInt8,
      (0x80 + n % 64).toUInt8]

/-- The bytes that write a text. -/
def encode (text : String) : List UInt8 :=
  text.toList.flatMap encodeChar

/-- The number of bytes of one character. -/
def width (c : Char) : Nat :=
  let n := c.toNat
  if n < 0x80 then 1 else if n < 0x800 then 2 else if n < 0x10000 then 3 else 4

/-- The number of bytes that characters take. -/
def size (cs : List Char) : Nat :=
  cs.foldl (fun n c => n + width c) 0

end FluentBuilder.Utf8
