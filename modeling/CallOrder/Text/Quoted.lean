import CallOrder.Text.Hexadecimal
import CallOrder.Text.Printable

/-! Text between quotation marks, as messages show it. -/
namespace CallOrder.Text

/-- A character as it stands between quotation marks. What a reader would not see, or not see
apart from the character before it, is named by its code point. -/
def quoteChar (c : Char) : List Char :=
  if c = '\x00' then ['\\', '0']
  else if c = '\t' then ['\\', 't']
  else if c = '\r' then ['\\', 'r']
  else if c = '\n' then ['\\', 'n']
  else if c = '"' || c = '\\' then ['\\', c]
  else if isExtending c || !isPrintable c then "\\u\x7b".toList ++ hexDigits c.toNat ++ ['\x7d']
  else [c]

def quoted (text : String) : String :=
  String.ofList ('"' :: text.toList.flatMap quoteChar ++ ['"'])

end CallOrder.Text
