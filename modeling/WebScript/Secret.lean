/-!
# Secrets

Credentials: session tokens and passwords. A secret shows as one fixed text, whatever it holds.
-/

namespace WebScript

/-- A credential. Only who asks for `expose` sees it. -/
structure Secret where
  expose : String
  deriving DecidableEq

/-- What stands in for a secret wherever it is shown. -/
def Secret.shown (_ : Secret) : String := "[REDACTED]"

instance : ToString Secret := ⟨Secret.shown⟩

/-- The handle through which a script holds the session of its request. -/
structure Session where
  token : Secret
  deriving DecidableEq

namespace Session

/-- The session of a visitor who is not logged in. -/
def anonymous : Session := ⟨⟨""⟩⟩

/-- What a session shows of itself. -/
def shown (s : Session) : String := "SessionHandle(" ++ s.token.shown ++ ")"

end Session

end WebScript
