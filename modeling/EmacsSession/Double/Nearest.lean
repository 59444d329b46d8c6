/-
This file finds the double nearest to an integer.
-/

import EmacsSession.Double.Basic

namespace EmacsSession.Double

/-- The double nearest to an integer, an infinity where the integer is too large. -/
def ofInt (value : Int) : Double :=
  let magnitude := (Float.ofScientific value.natAbs false 0).toBits
  ⟨if value < 0 then magnitude + 0x8000000000000000 else magnitude⟩

end EmacsSession.Double
