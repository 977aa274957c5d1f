/-!
# Words of a fixed vocabulary

Recognising a word whatever the case of its ASCII letters.
-/

namespace DecBridge.Text

def lowerAscii (c : Char) : Char := if 'A' ≤ c && c ≤ 'Z' then Char.ofNat (c.toNat + 32) else c

/-- A text with its ASCII letters in lower case. -/
def lower (s : String) : String := String.ofList (s.toList.map lowerAscii)

end DecBridge.Text
