/-!
# The mode of a station

`config/system_mode.py`: the three modes, and the one thing they imply for starting up.
-/

namespace Nipxi

/-- `SystemMode`. -/
inductive SystemMode where
  | development
  | validation
  | production
  deriving DecidableEq

/-- `strict_hardware` of `MODE_POLICIES`. -/
def SystemMode.strictHardware : SystemMode → Bool
  | .development | .validation => false
  | .production => true

end Nipxi
