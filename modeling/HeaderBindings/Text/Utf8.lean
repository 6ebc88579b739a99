/-!
# Text from bytes that may be damaged

Bytes that are meant to be UTF-8 are read from the front.  Where they are no
character, the longest start of a character (at least one byte) is dropped and
the replacement character stands in its place.
-/

namespace HeaderBindings
namespace Text

/-- The character that stands for bytes that are none. -/
def replacement : Char := Char.ofNat 0xFFFD

/-- Whether a byte may follow inside a character. -/
def isContinuation (byte : UInt8) : Bool :=
  0x80 ≤ byte && byte ≤ 0xBF

/-- Whether a second byte may follow a first byte of a character of three or four bytes; it
excludes overlong forms, surrogates and code points that are too large. -/
def isSecond (first second : UInt8) : Bool :=
  if first == 0xE0 then 0xA0 ≤ second && second ≤ 0xBF
  else if first == 0xED then 0x80 ≤ second && second ≤ 0x9F
  else if first == 0xF0 then 0x90 ≤ second && second ≤ 0xBF
  else if first == 0xF4 then 0x80 ≤ second && second ≤ 0x8F
  else isContinuation second

/-- The value of the six low bits of a byte. -/
def lowBits (byte : UInt8) : Nat := byte.toNat % 64

/-- The character at the front of `first :: rest`, and how many bytes of `rest` belong to it. -/
def front (first : UInt8) (rest : List UInt8) : Char × Nat :=
  if first < 0x80 then (Char.ofNat first.toNat, 0)
  else if 0xC2 ≤ first && first ≤ 0xDF then
    match rest with
    | b :: _ =>
        if isContinuation b then (Char.ofNat (first.toNat % 32 * 64 + lowBits b), 1)
        else (replacement, 0)
    | [] => (replacement, 0)
  else if 0xE0 ≤ first && first ≤ 0xEF then
    match rest with
    | b :: c :: _ =>
        if !isSecond first b then (replacement, 0)
        else if !isContinuation c then (replacement, 1)
        else (Char.ofNat (first.toNat % 16 * 4096 + lowBits b * 64 + lowBits c), 2)
    | [b] => (replacement, if isSecond first b then 1 else 0)
    | [] => (replacement, 0)
  else if 0xF0 ≤ first && first ≤ 0xF4 then
    match rest with
    | b :: c :: d :: _ =>
        if !isSecond first b then (replacement, 0)
        else if !isContinuation c then (replacement, 1)
        else if !isContinuation d then (replacement, 2)
        else
          (Char.ofNat
            (first.toNat % 8 * 262144 + lowBits b * 4096 + lowBits c * 64 + lowBits d), 3)
    | [b, c] =>
        (replacement, if !isSecond first b then 0 else if isContinuation c then 2 else 1)
    | [b] => (replacement, if isSecond first b then 1 else 0)
    | [] => (replacement, 0)
  else (replacement, 0)

/-- The text of a list of bytes, damaged places replaced. -/
def decodeLossy : List UInt8 → List Char
  | [] => []
  | first :: rest => (front first rest).1 :: decodeLossy (rest.drop (front first rest).2)
termination_by bytes => bytes.length
decreasing_by
  simp only [List.length_drop, List.length_cons]
  omega

end Text
end HeaderBindings
