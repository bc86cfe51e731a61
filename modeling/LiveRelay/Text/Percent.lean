/-
Module: LiveRelay.Text.Percent
Purpose: Percent-decoding of one part of a request path.
Main exports: percentDecode, percentDecoded?
-/
import LiveRelay.Text.Decimal
import LiveRelay.Text.Utf8

namespace LiveRelay.Text

/-- Replace each `%` that two hexadecimal digits follow by the byte they write. Any other `%` is
kept as it stands. -/
def percentDecode : List UInt8 → List UInt8
  | 0x25 :: high :: low :: rest =>
    match hexDigit? (Char.ofNat high.toNat), hexDigit? (Char.ofNat low.toNat) with
    | some h, some l => UInt8.ofNat (h * 16 + l) :: percentDecode rest
    | _, _ => 0x25 :: percentDecode (high :: low :: rest)
  | byte :: rest => byte :: percentDecode rest
  | [] => []

/-- The text that a part of a path names: nothing when the decoded bytes are not UTF-8. -/
def percentDecoded? (part : List Char) : Option String :=
  textOfUtf8? (percentDecode (utf8 (String.ofList part)))

end LiveRelay.Text
