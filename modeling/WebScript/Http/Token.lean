/-!
# Tokens

The words of HTTP: methods and cookie names are non-empty lists of letters, digits and a few
marks.
-/

namespace WebScript.Http

/-- An ASCII letter, a digit or one of the marks that a token may have. -/
def isTokenChar (c : Char) : Bool := c.isAlphanum || "!#$%&'*+-.^_`|~".toList.contains c

/-- A non-empty list of token characters. -/
def isToken (s : String) : Bool := ! s.isEmpty && s.toList.all isTokenChar

end WebScript.Http
