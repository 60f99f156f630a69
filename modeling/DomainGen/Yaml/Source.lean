import DomainGen.Text.Utf8

/-!
# Bytes of a YAML stream

A stream is UTF-8 unless a byte order mark says UTF-16.  Characters outside the
printable ranges of the format are refused.
-/

namespace DomainGen.Yaml

/-- A character that may stand in a stream. -/
def isAllowed (code : Nat) : Bool :=
  code == 9 || code == 10 || code == 13 || (0x20 ≤ code && code ≤ 0x7E) || code == 0x85 ||
    (0xA0 ≤ code && code ≤ 0xD7FF) || (0xE000 ≤ code && code ≤ 0xFFFD) ||
    (0x10000 ≤ code && code ≤ 0x10FFFF)

/-- Add a character to those that follow it. -/
def allowedThen (code : Nat) (following : Except String (List Char)) : Except String (List Char) :=
  if isAllowed code then following.map (Char.ofNat code :: ·)
  else .error "control characters are not allowed"

/-- The length of a UTF-8 sequence by its first byte, and the bits of that byte
that count. -/
def sequenceWidth? (byte : Nat) : Option (Nat × Nat) :=
  if byte < 0x80 then some (1, byte)
  else if byte / 32 == 6 then some (2, byte % 32)
  else if byte / 16 == 14 then some (3, byte % 16)
  else if byte / 8 == 30 then some (4, byte % 8)
  else none

/-- The code point of a UTF-8 sequence. -/
def codePoint (width lead : Nat) (tail : List UInt8) : Except String Nat :=
  if tail.length < width - 1 then .error "incomplete UTF-8 octet sequence"
  else if tail.any (fun byte => byte.toNat / 64 != 2) then .error "invalid trailing UTF-8 octet"
  else
    let code := tail.foldl (fun value byte => value * 64 + byte.toNat % 64) lead
    let least := if width == 1 then 0 else if width == 2 then 0x80
      else if width == 3 then 0x800 else 0x10000
    if code < least then .error "invalid length of a UTF-8 sequence"
    else if (0xD800 ≤ code && code ≤ 0xDFFF) || 0x10FFFF < code then
      .error "invalid Unicode character"
    else .ok code

/-- The characters of a UTF-8 stream. -/
def charsOfUtf8 : List UInt8 → Except String (List Char)
  | [] => .ok []
  | byte :: rest =>
      match sequenceWidth? byte.toNat with
      | none => .error "invalid leading UTF-8 octet"
      | some (width, lead) =>
          match codePoint width lead (rest.take (width - 1)) with
          | .error problem => .error problem
          | .ok code =>
              if isAllowed code then
                (charsOfUtf8 (rest.drop (width - 1))).map (Char.ofNat code :: ·)
              else .error "control characters are not allowed"
  termination_by bytes => bytes.length
  decreasing_by simp only [List.length_drop, List.length_cons]; omega

/-- The characters of a stream of UTF-16 units. -/
def charsOfUnits : List Nat → Except String (List Char)
  | [] => .ok []
  | unit :: rest =>
      if unit / 1024 == 55 then .error "unexpected low surrogate area"
      else if unit / 1024 == 54 then
        match rest with
        | [] => .error "incomplete UTF-16 surrogate pair"
        | low :: rest =>
            if low / 1024 != 55 then .error "expected low surrogate area"
            else allowedThen (0x10000 + unit % 1024 * 1024 + low % 1024) (charsOfUnits rest)
      else allowedThen unit (charsOfUnits rest)

/-- Pairs of bytes as units; a byte may be left over. -/
def unitsOf (bigEndian : Bool) : List UInt8 → List Nat × Bool
  | first :: second :: rest =>
      let (units, odd) := unitsOf bigEndian rest
      let unit := if bigEndian then first.toNat * 256 + second.toNat
        else second.toNat * 256 + first.toNat
      (unit :: units, odd)
  | [] => ([], false)
  | [_] => ([], true)

private def charsOfUtf16 (bigEndian : Bool) (bytes : List UInt8) : Except String (List Char) :=
  let (units, odd) := unitsOf bigEndian bytes
  match charsOfUnits units with
  | .error problem => .error problem
  | .ok chars => if odd then .error "incomplete UTF-16 character" else .ok chars

/-- The characters of a stream, without its byte order mark. -/
def charsOf (bytes : List UInt8) : Except String (List Char) :=
  match bytes with
  | 0xFF :: 0xFE :: rest => charsOfUtf16 false rest
  | 0xFE :: 0xFF :: rest => charsOfUtf16 true rest
  | 0xEF :: 0xBB :: 0xBF :: rest => charsOfUtf8 rest
  | bytes => charsOfUtf8 bytes

end DomainGen.Yaml
