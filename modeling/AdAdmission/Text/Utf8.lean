/-! Bytes read as UTF-8. A record comes from outside as bytes, which may hold bytes that belong to
    no character. They are kept as such: a reader refuses them where it needs text, and passes over
    them where it does not look. -/

namespace AdAdmission
namespace Text

/-- One position of a byte sequence read as UTF-8. -/
inductive Glyph where
  /-- A well-formed character. -/
  | char (c : Char)
  /-- A byte that belongs to no character. -/
  | stray (b : UInt8)
deriving DecidableEq

/-- The positions of a text: each character stands for itself. -/
def glyphs (s : String) : List Glyph := s.toList.map Glyph.char

/-- The positions of the bytes from `i` on. A byte that starts no well-formed character is stray, and
    reading goes on with the byte after it. -/
def glyphsFrom (bytes : ByteArray) (i : Nat) : List Glyph :=
  if h : i < bytes.size then
    match bytes.utf8DecodeChar? i with
    | some c => .char c :: glyphsFrom bytes (i + c.utf8Size)
    | none => .stray bytes[i] :: glyphsFrom bytes (i + 1)
  else []
termination_by bytes.size - i
decreasing_by
  · have := c.utf8Size_pos; omega
  · omega

/-- The positions of a byte sequence. -/
def decode (bytes : ByteArray) : List Glyph := glyphsFrom bytes 0

end Text
end AdAdmission
