/-!
# UTF-8

Reading bytes as characters.  A byte that does not start a well-formed
sequence stands for one replacement character, so reading never fails and
consumes at least one byte for every character it yields.
-/

namespace DomainGen.Text

/-- The character that stands for a byte that cannot be read. -/
def replacement : Char := Char.ofNat 0xFFFD

private def isContinuation (byte : UInt8) : Bool := byte.toNat / 64 == 2

private def tailBits (byte : UInt8) : Nat := byte.toNat % 64

/-- The character that starts a byte sequence, with the number of bytes after
the first that belong to it.  Overlong forms, surrogates and code points above
the last plane are refused. -/
def leading? (byte : UInt8) (rest : List UInt8) : Option (Char × Nat) :=
  let head := byte.toNat
  if head < 0x80 then
    some (Char.ofNat head, 0)
  else if 0xC2 ≤ head && head ≤ 0xDF then
    match rest with
    | b1 :: _ =>
        if isContinuation b1 then
          some (Char.ofNat (head % 32 * 64 + tailBits b1), 1)
        else none
    | [] => none
  else if 0xE0 ≤ head && head ≤ 0xEF then
    match rest with
    | b1 :: b2 :: _ =>
        let code := head % 16 * 4096 + tailBits b1 * 64 + tailBits b2
        if isContinuation b1 && isContinuation b2 && 0x800 ≤ code &&
            !(0xD800 ≤ code && code ≤ 0xDFFF) then
          some (Char.ofNat code, 2)
        else none
    | _ => none
  else if 0xF0 ≤ head && head ≤ 0xF4 then
    match rest with
    | b1 :: b2 :: b3 :: _ =>
        let code := head % 8 * 262144 + tailBits b1 * 4096 + tailBits b2 * 64 + tailBits b3
        if isContinuation b1 && isContinuation b2 && isContinuation b3 &&
            0x10000 ≤ code && code ≤ 0x10FFFF then
          some (Char.ofNat code, 3)
        else none
    | _ => none
  else none

/-- The characters of a byte sequence. -/
def ofBytes : List UInt8 → List Char
  | [] => []
  | byte :: rest =>
      match leading? byte rest with
      | some (c, extra) => c :: ofBytes (rest.drop extra)
      | none => replacement :: ofBytes rest
  termination_by bytes => bytes.length
  decreasing_by all_goals simp only [List.length_drop, List.length_cons]; omega

/-- The first byte of a character, as a character. -/
def leadByte (c : Char) : Char :=
  match (String.singleton c).toUTF8.toList with
  | byte :: _ => Char.ofNat byte.toNat
  | [] => c

/-- The first `count` bytes of a text, read back as characters. -/
def takeBytes (count : Nat) (text : String) : String :=
  String.ofList (ofBytes (text.toUTF8.toList.take count))

/-- The number of bytes a text takes up. -/
def byteLength (text : String) : Nat := text.utf8ByteSize

end DomainGen.Text
