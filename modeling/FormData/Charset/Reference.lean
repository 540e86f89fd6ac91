import FormData.Text.Utf8

/-!
# Numeric Character References

What is written for a character that a character set lacks.

A form value has to be sent in one character set, and a character outside it
cannot simply be dropped. It is written as its decimal number between an
ampersand with a number sign and a semicolon, which a receiver that knows
markup turns back into the character. Only ASCII is used, so the reference
itself can be written in every set.

## Main definitions

* `characterReference`: The reference for a code point.
-/

namespace FormData

/-- The reference for a code point. -/
def characterReference (codePoint : Nat) : Bytes :=
  utf8 ("&#" ++ toString codePoint ++ ";")

end FormData
