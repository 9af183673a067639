import Tidymark.Failure

/-!
# UTF-8

Texts as bytes and back.  Decoding stops at the first byte sequence that is
not the shortest form of a character, and tells where it stands and how many
of its bytes are wrong.
-/

namespace Tidymark

abbrev Bytes := List UInt8

namespace Text

def encode (s : Text) : Bytes := s.flatMap String.utf8EncodeChar

end Text

namespace Utf8

/-- What stands at the start of some bytes: a character and how many bytes it has, or how many
bytes are wrong, or a character cut off by the end. -/
inductive Reading where
  | char (c : Char) (size : Nat)
  | wrong (size : Nat)
  | cut
  deriving DecidableEq

def isContinuation (b : UInt8) : Bool := 0x80 ≤ b && b ≤ 0xBF

def low (bits : Nat) (b : UInt8) : Nat := b.toNat % (1 <<< bits)

/-- Whether a second byte may follow the first byte of a character of three or four bytes. -/
def allowsSecond (first second : UInt8) : Bool :=
  if first = 0xE0 then 0xA0 ≤ second && second ≤ 0xBF
  else if first = 0xED then 0x80 ≤ second && second ≤ 0x9F
  else if first = 0xF0 then 0x90 ≤ second && second ≤ 0xBF
  else if first = 0xF4 then 0x80 ≤ second && second ≤ 0x8F
  else isContinuation second

def readTwo (first : UInt8) : Bytes → Reading
  | [] => .cut
  | b :: _ =>
      if isContinuation b then .char (Char.ofNat (low 5 first * 64 + low 6 b)) 2 else .wrong 1

def readThree (first : UInt8) : Bytes → Reading
  | [] => .cut
  | b :: rest =>
      if allowsSecond first b then
        match rest with
        | [] => .cut
        | d :: _ =>
            if isContinuation d then
              .char (Char.ofNat (low 4 first * 4096 + low 6 b * 64 + low 6 d)) 3
            else .wrong 2
      else .wrong 1

def readFour (first : UInt8) : Bytes → Reading
  | [] => .cut
  | b :: rest =>
      if allowsSecond first b then
        match rest with
        | [] => .cut
        | d :: rest =>
            if isContinuation d then
              match rest with
              | [] => .cut
              | e :: _ =>
                  if isContinuation e then
                    .char (Char.ofNat
                      (low 3 first * 262144 + low 6 b * 4096 + low 6 d * 64 + low 6 e)) 4
                  else .wrong 3
            else .wrong 2
      else .wrong 1

def read (first : UInt8) (rest : Bytes) : Reading :=
  if first < 0x80 then .char (Char.ofNat first.toNat) 1
  else if 0xC2 ≤ first && first ≤ 0xDF then readTwo first rest
  else if 0xE0 ≤ first && first ≤ 0xEF then readThree first rest
  else if 0xF0 ≤ first && first ≤ 0xF4 then readFour first rest
  else .wrong 1

/-- Decode bytes of which `offset` have been decoded and `held` belong to a character already
read. -/
def decodeFrom (offset held : Nat) : Bytes → Except EncodingFault Text
  | [] => .ok []
  | b :: rest =>
      match held with
      | held + 1 => decodeFrom (offset + 1) held rest
      | 0 =>
          match read b rest with
          | .char c size => (c :: ·) <$> decodeFrom (offset + 1) (size - 1) rest
          | .wrong size => .error ⟨offset, some size⟩
          | .cut => .error ⟨offset, none⟩

def decode (bytes : Bytes) : Except EncodingFault Text := decodeFrom 0 0 bytes

end Utf8

end Tidymark
