import LogtalkNavigation.Text.Basic

namespace LogtalkNavigation.Text

def lowerChar (c : Char) : Char := if c = '\u212A' then 'k' else c.toLower

def lower (text : Text) : Text := text.map lowerChar

end LogtalkNavigation.Text
