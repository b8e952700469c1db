import GadgetGuard.Text.Utf8
/-!
# Image formats

Common image formats are recognised by the bytes that they start with.
-/

namespace GadgetGuard

open GadgetGuard.Text

def asciiBytes (text : String) : Bytes :=
  text.toUTF8.toList

/-- The media type of an image, if its first bytes are those of a known format. -/
def imageType? (body : Bytes) : Option String :=
  if [0x89, 0x50, 0x4E, 0x47, 0x0D, 0x0A, 0x1A, 0x0A].isPrefixOf body then some "image/png"
  else if (asciiBytes "GIF87a").isPrefixOf body || (asciiBytes "GIF89a").isPrefixOf body then
    some "image/gif"
  else if [0xFF, 0xD8, 0xFF].isPrefixOf body then some "image/jpeg"
  else if (asciiBytes "RIFF").isPrefixOf body && (asciiBytes "WEBP").isPrefixOf (body.drop 8) then
    some "image/webp"
  else if (asciiBytes "BM").isPrefixOf body then some "image/bmp"
  else if [0x00, 0x00, 0x01, 0x00].isPrefixOf body then some "image/x-icon"
  else none

end GadgetGuard
