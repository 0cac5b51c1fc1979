import InfraAudit.Text.Invisible

/-!
Text quoted for messages: within double quotes, every character that would be
mistaken or not be seen is escaped.
-/
namespace InfraAudit.Text

/-- A character as it stands within quotes. -/
def quoteChar (c : Char) : List Char :=
  if c = '"' then ['\\', '"']
  else if c = '\\' then ['\\', '\\']
  else if c = '\n' then ['\\', 'n']
  else if c = '\r' then ['\\', 'r']
  else if c = '\t' then ['\\', 't']
  else if c = '\x00' then ['\\', '0']
  else if isInvisible c then ['\\', 'u', '\x7b'] ++ Nat.toDigits 16 c.toNat ++ ['\x7d']
  else [c]

/-- A text within quotes. -/
def quoted (text : String) : String := "\"" ++ String.ofList (text.toList.flatMap quoteChar) ++ "\""

/-- A name between backticks, as messages write it. -/
def ticked (name : String) : String := "`" ++ name ++ "`"

end InfraAudit.Text
