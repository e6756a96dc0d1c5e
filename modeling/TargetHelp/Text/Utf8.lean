import TargetHelp.Text.Quoted

/-!
# Strict UTF-8

Encoding refuses surrogates and names the first run of them. Decoding refuses bytes that start
no sequence, sequences broken off by another byte, overlong forms, surrogates and numbers beyond
the last code point, and names the bytes at fault; bytes that could still be completed are told
apart, so that a stream can be decoded piece by piece. The first two bytes of a surrogate are
refused only with what follows them or with the end of the input.
-/

set_option autoImplicit false
set_option relaxedAutoImplicit false

namespace TargetHelp

abbrev Bytes := List UInt8

namespace Utf8

/-! ### Encoding -/

/-- The bytes of one code point; a surrogate gets the three bytes its number would have. -/
def encodePoint (c : CodePoint) : Bytes :=
  let n := c.val
  if n < 0x80 then [UInt8.ofNat n]
  else if n < 0x800 then [UInt8.ofNat (0xC0 + n / 0x40), UInt8.ofNat (0x80 + n % 0x40)]
  else if n < 0x10000 then
    [UInt8.ofNat (0xE0 + n / 0x1000), UInt8.ofNat (0x80 + n / 0x40 % 0x40),
      UInt8.ofNat (0x80 + n % 0x40)]
  else
    [UInt8.ofNat (0xF0 + n / 0x40000), UInt8.ofNat (0x80 + n / 0x1000 % 0x40),
      UInt8.ofNat (0x80 + n / 0x40 % 0x40), UInt8.ofNat (0x80 + n % 0x40)]

/-- The first run of surrogates in a text. -/
structure EncodeError where
  first : CodePoint
  start : Nat
  length : Nat
  deriving DecidableEq, Repr

/-- The first run of surrogates in a text whose own first code point has position `start`. -/
def surrogatesFrom (start : Nat) : Text → Option EncodeError
  | [] => none
  | c :: t =>
    if c.IsSurrogate then
      some ⟨c, start, 1 + (t.takeWhile fun d => decide d.IsSurrogate).length⟩
    else surrogatesFrom (start + 1) t

def surrogates? (t : Text) : Option EncodeError := surrogatesFrom 0 t

def encode (t : Text) : Except EncodeError Bytes :=
  match surrogates? t with
  | some error => .error error
  | none => .ok (t.flatMap encodePoint)

def EncodeError.message (e : EncodeError) : Text :=
  if e.length = 1 then
    "'utf-8' codec can't encode character '" ++ Text.numericEscape e.first ++ "' in position " ++
      Text.decimal e.start ++ ": surrogates not allowed"
  else
    "'utf-8' codec can't encode characters in position " ++ Text.decimal e.start ++ "-" ++
      Text.decimal (e.start + e.length - 1) ++ ": surrogates not allowed"

/-! ### Decoding -/

inductive Reason where
  | invalidStart
  | invalidContinuation
  | unexpectedEnd
  deriving DecidableEq, Repr

def Reason.text : Reason → Text
  | .invalidStart => "invalid start byte"
  | .invalidContinuation => "invalid continuation byte"
  | .unexpectedEnd => "unexpected end of data"

/-- The bytes at fault: the first of them, the position of the first, and how many they are. -/
structure DecodeError where
  first : UInt8
  start : Nat
  length : Nat
  reason : Reason
  deriving DecidableEq, Repr

def DecodeError.message (e : DecodeError) : Text :=
  if e.length = 1 then
    "'utf-8' codec can't decode byte 0x" ++ Text.hexadecimal 2 e.first.toNat ++ " in position " ++
      Text.decimal e.start ++ ": " ++ e.reason.text
  else
    "'utf-8' codec can't decode bytes in position " ++ Text.decimal e.start ++ "-" ++
      Text.decimal (e.start + e.length - 1) ++ ": " ++ e.reason.text

/-- How the decoding of some bytes ended. -/
inductive Ending where
  | complete
  /-- Bytes that begin a sequence, with the position of the first. -/
  | pending (start : Nat) (bytes : Bytes)
  | malformed (error : DecodeError)
  deriving DecidableEq, Repr

structure Decoded where
  text : Text
  ending : Ending
  deriving DecidableEq, Repr

def Decoded.cons (c : CodePoint) (d : Decoded) : Decoded := ⟨c :: d.text, d.ending⟩

def Decoded.malformed (first : UInt8) (start length : Nat) (reason : Reason) : Decoded :=
  ⟨[], .malformed ⟨first, start, length, reason⟩⟩

def Decoded.pending (start : Nat) (bytes : Bytes) : Decoded := ⟨[], .pending start bytes⟩

/-- The six low bits of a continuation byte. -/
def low (b : UInt8) : Nat := b.toNat % 0x40

def isContinuation (b : UInt8) : Bool := 0x80 ≤ b.toNat && b.toNat < 0xC0

/-- Whether `second` may follow the lead byte `lead`: no overlong form, no surrogate, no number
beyond the last code point. -/
def mayFollow (lead second : UInt8) : Bool :=
  isContinuation second &&
    (if lead.toNat = 0xE0 then 0xA0 ≤ second.toNat
    else if lead.toNat = 0xED then second.toNat < 0xA0
    else if lead.toNat = 0xF0 then 0x90 ≤ second.toNat
    else if lead.toNat = 0xF4 then second.toNat < 0x90
    else true)

/-- Whether some bytes are the first two of a surrogate and nothing else. -/
def isCutSurrogate : Bytes → Bool
  | [b, c] => b.toNat = 0xED && 0xA0 ≤ c.toNat && c.toNat < 0xC0
  | _ => false

/-- Decodes as far as possible; `start` is the position of the first byte. -/
def decodeFrom (start : Nat) : Bytes → Decoded
  | [] => ⟨[], .complete⟩
  | b :: rest =>
    let n := b.toNat
    if n < 0x80 then (decodeFrom (start + 1) rest).cons (CodePoint.ofNat n)
    else if n < 0xC2 then .malformed b start 1 .invalidStart
    else if n < 0xE0 then
      match rest with
      | [] => .pending start [b]
      | c :: rest =>
        if isContinuation c then
          (decodeFrom (start + 2) rest).cons (CodePoint.ofNat ((n - 0xC0) * 0x40 + low c))
        else .malformed b start 1 .invalidContinuation
    else if n < 0xF0 then
      match rest with
      | [] => .pending start [b]
      | c :: rest =>
        if mayFollow b c then
          match rest with
          | [] => .pending start [b, c]
          | d :: rest =>
            if isContinuation d then
              (decodeFrom (start + 3) rest).cons
                (CodePoint.ofNat ((n - 0xE0) * 0x1000 + low c * 0x40 + low d))
            else .malformed b start 2 .invalidContinuation
        else if isCutSurrogate (b :: c :: rest) then .pending start [b, c]
        else .malformed b start 1 .invalidContinuation
    else if n < 0xF5 then
      match rest with
      | [] => .pending start [b]
      | c :: rest =>
        if mayFollow b c then
          match rest with
          | [] => .pending start [b, c]
          | d :: rest =>
            if isContinuation d then
              match rest with
              | [] => .pending start [b, c, d]
              | e :: rest =>
                if isContinuation e then
                  (decodeFrom (start + 4) rest).cons
                    (CodePoint.ofNat
                      ((n - 0xF0) * 0x40000 + low c * 0x1000 + low d * 0x40 + low e))
                else .malformed b start 3 .invalidContinuation
            else .malformed b start 2 .invalidContinuation
        else .malformed b start 1 .invalidContinuation
    else .malformed b start 1 .invalidStart

/-- What the end of the input makes of an ending: bytes still to be completed are at fault. -/
def Ending.close : Ending → Option DecodeError
  | .complete => none
  | .pending _ [] => none
  | .pending start (b :: rest) =>
    if isCutSurrogate (b :: rest) then some ⟨b, start, 1, .invalidContinuation⟩
    else some ⟨b, start, 1 + rest.length, .unexpectedEnd⟩
  | .malformed error => some error

/-- The text of the whole input, or the first fault in it. -/
def decode (bytes : Bytes) : Except DecodeError Text :=
  let decoded := decodeFrom 0 bytes
  match decoded.ending.close with
  | some error => .error error
  | none => .ok decoded.text

end Utf8

end TargetHelp
