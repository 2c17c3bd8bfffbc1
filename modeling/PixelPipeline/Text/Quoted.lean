import PixelPipeline.Text.Invisible

namespace PixelPipeline.Text

def lowerHex (n : Nat) : String :=
  String.ofList (Nat.toDigits 16 n)

/-- A character between double quotes: the quote, the backslash and the common controls have short
escapes, any other invisible character is given by its number. -/
def quotedChar : Char → String
  | '"' => "\\\""
  | '\\' => "\\\\"
  | '\n' => "\\n"
  | '\r' => "\\r"
  | '\t' => "\\t"
  | '\x00' => "\\0"
  | c => if isInvisible c then "\\u\x7b" ++ lowerHex c.toNat ++ "\x7d" else c.toString

def quoted (s : String) : String :=
  "\"" ++ String.join (s.toList.map quotedChar) ++ "\""

end PixelPipeline.Text
