import Schemata.Text.Basic

/-! # UTF-8

Decoding is strict: bytes that begin no character, overlong forms, surrogates and numbers beyond
U+10FFFF are refused. A refusal names the bytes that begin like a character but do not go on like one.
Encoding is refused where a text holds surrogates.
-/

namespace Schemata.Utf8

inductive Reason where
  | start
  | continuation
  | truncated
deriving DecidableEq, Repr

def Reason.message : Reason → Text
  | start => "invalid start byte"
  | continuation => "invalid continuation byte"
  | truncated => "unexpected end of data"

/-- A run of bytes that cannot be decoded, and its first byte. -/
structure DecodeError where
  byte : UInt8
  offset : Nat
  length : Nat
  reason : Reason
deriving DecidableEq, Repr

namespace DecodeError

def message (e : DecodeError) : Text :=
  text "'utf-8' codec can't decode "
    ++ (if e.length = 1 then
        text "byte 0x" ++ (if e.byte.toNat < 16 then text "0" else [])
          ++ (Nat.toDigits 16 e.byte.toNat).map CodePoint.ofChar
          ++ text " in position " ++ Text.ofNat e.offset
      else
        text "bytes in position " ++ Text.ofNat e.offset ++ text "-"
          ++ Text.ofNat (e.offset + e.length - 1))
    ++ text ": " ++ e.reason.message

end DecodeError

/-- The range of the byte after a leading byte; it excludes overlong forms, surrogates and numbers that
are too large. -/
def second (lead : UInt8) : UInt8 × UInt8 :=
  if lead = 0xE0 then (0xA0, 0xBF)
  else if lead = 0xED then (0x80, 0x9F)
  else if lead = 0xF0 then (0x90, 0xBF)
  else if lead = 0xF4 then (0x80, 0x8F)
  else (0x80, 0xBF)

def follows (lead byte : UInt8) : Bool :=
  let (low, high) := second lead
  low ≤ byte && byte ≤ high

def isTail (byte : UInt8) : Bool := 0x80 ≤ byte && byte ≤ 0xBF

/-- The number that a leading byte and its tail bytes spell; `bits` is what the leading byte gives. -/
def codePoint (bits : Nat) (tail : List UInt8) : CodePoint :=
  let n := tail.foldl (fun n byte => n * 64 + byte.toNat % 64) bits
  (CodePoint.ofNat? n).getD '\uFFFD'

def decodeFrom (offset : Nat) : List UInt8 → Except DecodeError Text
  | [] => .ok []
  | a :: rest =>
    if a < 0x80 then (decodeFrom (offset + 1) rest).map (codePoint a.toNat [] :: ·)
    else if a < 0xC2 || 0xF4 < a then .error ⟨a, offset, 1, .start⟩
    else
      match rest with
      | [] => .error ⟨a, offset, 1, .truncated⟩
      | b :: rest =>
        if !follows a b then .error ⟨a, offset, 1, .continuation⟩
        else if a < 0xE0 then
          (decodeFrom (offset + 2) rest).map (codePoint (a.toNat % 32) [b] :: ·)
        else
          match rest with
          | [] => .error ⟨a, offset, 2, .truncated⟩
          | c :: rest =>
            if !isTail c then .error ⟨a, offset, 2, .continuation⟩
            else if a < 0xF0 then
              (decodeFrom (offset + 3) rest).map (codePoint (a.toNat % 16) [b, c] :: ·)
            else
              match rest with
              | [] => .error ⟨a, offset, 3, .truncated⟩
              | d :: rest =>
                if !isTail d then .error ⟨a, offset, 3, .continuation⟩
                else (decodeFrom (offset + 4) rest).map (codePoint (a.toNat % 8) [b, c, d] :: ·)

def decode (bytes : List UInt8) : Except DecodeError Text := decodeFrom 0 bytes

/-- Line ends of all kinds as a line feed. -/
def unifyLineEnds : Text → Text
  | [] => []
  | [c] => [if c = '\r' then '\n' else c]
  | c :: d :: rest =>
    if c = '\r' then
      if d = '\n' then '\n' :: unifyLineEnds rest else '\n' :: unifyLineEnds (d :: rest)
    else c :: unifyLineEnds (d :: rest)

/-- A run of surrogates, by the first of them, its offset and the length of the run. -/
structure EncodeError where
  surrogate : CodePoint
  offset : Nat
  length : Nat
deriving DecidableEq, Repr

namespace EncodeError

def message (e : EncodeError) : Text :=
  text "'utf-8' codec can't encode "
    ++ (if e.length = 1 then
        text "character '\\u" ++ (Nat.toDigits 16 e.surrogate.val).map CodePoint.ofChar
          ++ text "' in position " ++ Text.ofNat e.offset
      else
        text "characters in position " ++ Text.ofNat e.offset ++ text "-"
          ++ Text.ofNat (e.offset + e.length - 1))
    ++ text ": surrogates not allowed"

end EncodeError

/-- The bytes of a code point that is no surrogate. -/
def bytes (c : CodePoint) : List UInt8 :=
  let tail (shift : Nat) : UInt8 := UInt8.ofNat (0x80 + (c.val >>> shift) % 64)
  if c.val < 0x80 then [UInt8.ofNat c.val]
  else if c.val < 0x800 then [UInt8.ofNat (0xC0 + c.val / 64), tail 0]
  else if c.val < 0x10000 then [UInt8.ofNat (0xE0 + c.val / 4096), tail 6, tail 0]
  else [UInt8.ofNat (0xF0 + c.val / 262144), tail 12, tail 6, tail 0]

/-- The first run of surrogates in a text. -/
def surrogates? (t : Text) : Option EncodeError :=
  let offset := (t.takeWhile fun c => !c.isSurrogate).length
  match (t.drop offset).takeWhile CodePoint.isSurrogate with
  | [] => none
  | c :: rest => some ⟨c, offset, rest.length + 1⟩

def encode (t : Text) : Except EncodeError (List UInt8) :=
  match surrogates? t with
  | some e => .error e
  | none => .ok (t.flatMap bytes)

end Schemata.Utf8
