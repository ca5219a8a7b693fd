import Gateway.Json.Basic

/-!
# Health

How a part of the gateway that is started and stopped is doing.
-/

namespace Gateway

/-- How a part of the gateway is doing. -/
inductive Health where
  | healthy
  /-- It runs, but not as it should. -/
  | warning (description : String)
  /-- It does not run. -/
  | failed (description : String)
deriving DecidableEq, Repr

namespace Health

/-- The one-line form. -/
def display : Health → String
  | healthy => "healthy"
  | warning description => "warning: " ++ description
  | failed description => "failed: " ++ description

/-- The health as a value. -/
def value : Health → Json
  | healthy => Json.object [("status", .str "healthy")]
  | warning description =>
    Json.object [("status", .str "warning"), ("description", .str description)]
  | failed description =>
    Json.object [("status", .str "failed"), ("description", .str description)]

def isHealthy : Health → Bool
  | healthy => true
  | _ => false

def isFailed : Health → Bool
  | failed _ => true
  | _ => false

/-- What has not been started, or has been stopped. -/
def notRunning : Health := failed "Not running"

end Health

end Gateway
