import RecordBinding.Log.Level

namespace RecordBinding

inductive LogHandler where
  | silent
  | stream (format : String)
  deriving DecidableEq, Repr

structure LogRoot where
  level : Int
  handlers : List LogHandler

namespace LogRoot

def lineFormat : String := "%(asctime)s %(levelname)s [%(name)s] %(message)s"

/-- Configures the root for a level that is known. -/
def configure (root : LogRoot) (level : LevelRequest) (force : Bool) :
    Except ConfigurationError LogRoot :=
  level.resolve.map fun number =>
    if root.handlers.isEmpty || force then ⟨number, [.stream lineFormat]⟩ else root

end LogRoot

end RecordBinding
