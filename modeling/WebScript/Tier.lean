/-!
# Tiers

The three levels of trust at which a script is bound to a request.
-/

namespace WebScript

/-- How much a script may do. -/
inductive Tier where
  /-- Page scripts: every operation. -/
  | full
  /-- Event hooks: every operation but outbound requests. -/
  | regular
  /-- Display widgets: no operation at all. -/
  | widget
  deriving DecidableEq

/-- The name of a tier. -/
def Tier.name : Tier → String
  | .full => "full"
  | .regular => "regular"
  | .widget => "widget"

end WebScript
