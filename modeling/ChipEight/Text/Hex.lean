/-!
Hexadecimal text: upper-case digits, padded on the left with zeros to a least width. A number
that needs more digits than the width keeps all of them.
-/

namespace ChipEight.Text

/-- The upper-case hexadecimal digits of `n`, without leading zeros; zero is one digit. -/
def hexDigits (n : Nat) : List Char := (Nat.toDigits 16 n).map Char.toUpper

/-- The hexadecimal digits of `n`, padded with zeros to at least `width` of them. -/
def paddedHex (width n : Nat) : List Char := (hexDigits n).leftpad width '0'

/-- `n` in hexadecimal with at least `width` digits. -/
def hex (width n : Nat) : String := String.ofList (paddedHex width n)

/-- `n` in hexadecimal with at least `width` digits after `0x`. -/
def hexLiteral (width n : Nat) : String := "0x" ++ hex width n

end ChipEight.Text
