/-!
Letter case, as far as words written in ASCII letters can tell.

Words of the program (`create`, `json`, `high`, ...) are compared either with
the full Unicode lower case of what was given or with its ASCII lower case.
-/
namespace InfraAudit.Text

/-- The lower case of a character, as seen by a comparison with an ASCII word:
    outside ASCII, only the Kelvin sign has an ASCII letter as its lower case,
    so every other character may stay as it is. -/
def lowerChar (c : Char) : Char := if c = '\u212A' then 'k' else c.toLower

/-- A text in lower case, for comparison with an ASCII word. -/
def lower (text : String) : String := String.ofList (text.toList.map lowerChar)

/-- A text with its ASCII capitals in lower case. -/
def asciiLower (text : String) : String := String.ofList (text.toList.map Char.toLower)

end InfraAudit.Text
