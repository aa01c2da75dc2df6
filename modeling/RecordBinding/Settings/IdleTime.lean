import RecordBinding.Settings.Environment

namespace RecordBinding.IdleTime

def variableName : String := "ROWBIND_BINDING_CACHE_IDLE_SECONDS"

/-- Ten minutes. -/
def standard : Number := .float 600.0

/-- Whether a number is zero or less. -/
def isRefused (seconds : Number) : Bool :=
  seconds.compare? (.int 0) == some .lt || seconds.compare? (.int 0) == some .eq

def ofNumber (seconds : Number) : Except ConfigurationError Number :=
  if isRefused seconds then .error (.idleTimeNotPositive seconds) else .ok seconds

def ofEnvironment (env : Environment) : Except ConfigurationError Number :=
  (env.readNumber variableName standard).bind ofNumber

end RecordBinding.IdleTime
