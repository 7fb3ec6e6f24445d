/-!
Lower case for names. Only letters whose lower case is an ASCII letter matter to a name of ASCII
letters; beside the ASCII capitals that is U+212A alone.
-/

set_option autoImplicit false

namespace ProxyTunnel.Text

def lowerChar (c : Char) : Char := if c = '\u212A' then 'k' else c.toLower

def lower (text : String) : String := String.ofList (text.toList.map lowerChar)

end ProxyTunnel.Text
