import ActivityReport.Text.Visible

/-!
# Quoted text

How a text is shown inside a message: between single quotes, or between double quotes when it holds
single quotes only; backslashes, the quote itself and characters that cannot be seen are escaped.
-/

namespace ActivityReport.Text

/-- A number in hexadecimal, padded with zeros to a width. -/
def hexPadded (width n : Nat) : String :=
  let ds := Nat.toDigits 16 n
  String.ofList (List.replicate (width - ds.length) '0' ++ ds)

/-- One character between quotes. -/
def quotedChar (quote c : Char) : String :=
  if c == quote || c == '\\' then String.ofList ['\\', c]
  else if c == '\n' then "\\n"
  else if c == '\r' then "\\r"
  else if c == '\t' then "\\t"
  else if isVisible c then String.singleton c
  else if c.toNat < 0x100 then "\\x" ++ hexPadded 2 c.toNat
  else if c.toNat < 0x10000 then "\\u" ++ hexPadded 4 c.toNat
  else "\\U" ++ hexPadded 8 c.toNat

/-- A text as it is shown inside a message. -/
def quoted (s : String) : String :=
  let cs := s.toList
  let quote := if cs.contains '\'' && !cs.contains '"' then '"' else '\''
  String.singleton quote ++ String.join (cs.map (quotedChar quote)) ++ String.singleton quote

end ActivityReport.Text
