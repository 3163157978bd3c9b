/-!
UTF-8 over lists of bytes. Decoding goes character by character and stops at the first byte that
starts no character.
-/
namespace Journal

abbrev Bytes := List UInt8

namespace Utf8

def encode (s : String) : Bytes := s.toList.flatMap String.utf8EncodeChar

def firstChar? (bytes : Bytes) : Option Char := (bytes.take 4).toByteArray.utf8DecodeChar? 0

def decodeChars (bytes : Bytes) (offset : Nat) (done : List Char) : Except Nat (List Char) :=
  match bytes with
  | [] => .ok done.reverse
  | b :: rest =>
    match firstChar? (b :: rest) with
    | none => .error offset
    | some c => decodeChars ((b :: rest).drop c.utf8Size) (offset + c.utf8Size) (c :: done)
termination_by bytes.length
decreasing_by
  have := c.utf8Size_pos
  simp only [List.length_drop, List.length_cons]
  omega

/-- The text, or the offset of the first byte that is not part of a character. -/
def decode (bytes : Bytes) : Except Nat String := (decodeChars bytes 0 []).map String.ofList

def decode? (bytes : Bytes) : Option String := (decode bytes).toOption

end Utf8
end Journal
