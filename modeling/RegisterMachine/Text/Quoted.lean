import RegisterMachine.Text.Numeral
import RegisterMachine.Text.Unprintable

/-! # Quoted text

Text between double quotes, with a backslash in front of what would break the quoting and a numeric
escape for every character that has no glyph of its own.
-/

namespace RegisterMachine.Text

def quoteChar (c : Char) : String :=
  if c = Char.ofNat 0 then "\\0"
  else if c = '\t' then "\\t"
  else if c = '\r' then "\\r"
  else if c = '\n' then "\\n"
  else if c = '\\' then "\\\\"
  else if c = '"' then "\\\""
  else if isUnprintable c then "\\u\x7b" ++ hexDigits c.toNat ++ "\x7d"
  else String.singleton c

def quote (text : String) : String :=
  "\"" ++ String.join (text.toList.map quoteChar) ++ "\""

end RegisterMachine.Text
