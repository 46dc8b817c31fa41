/-!
# Checks on names

Names of guilds, of ranks in a guild and of users. All of them are ASCII, so that a length is one
of bytes and of characters alike.
-/

namespace WebScript.Check

/-- There is a character, and all are ASCII letters or spaces. -/
def isLettersAndSpaces (cs : List Char) : Bool :=
  ! cs.isEmpty && cs.all fun c => c.isAlpha || c == ' '

/-- There is a character, and all are ASCII letters, spaces or hyphens. -/
def isLettersHyphensAndSpaces (cs : List Char) : Bool :=
  ! cs.isEmpty && cs.all fun c => c.isAlpha || c == ' ' || c == '-'

/-- A guild name: 5 to 20 letters and spaces. -/
def isGuildName (name : String) : Bool :=
  5 ≤ name.utf8ByteSize && name.utf8ByteSize ≤ 20 && isLettersAndSpaces name.toList

/-- A guild rank: 5 to 15 letters, spaces and hyphens. -/
def isGuildRank (rank : String) : Bool :=
  5 ≤ rank.utf8ByteSize && rank.utf8ByteSize ≤ 15 && isLettersHyphensAndSpaces rank.toList

/-- A user name: letters and spaces, however many. -/
def isUsername (name : String) : Bool := isLettersAndSpaces name.toList

/-- A gender is zero or one. -/
def isGender (n : Int) : Bool := n == 0 || n == 1

end WebScript.Check
