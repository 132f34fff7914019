import CloudGate.Fields

/-!
Whether text for people is painted.
-/

namespace CloudGate.Console

/-- `CLICOLOR_FORCE` asks for colour, unless it is 0, and wins over `NO_COLOR`, which forbids it.
Without both there is colour on a terminal, unless `CLICOLOR` is 0. -/
def wantsColor (env : Fields String) (isTerminal : Bool) : Bool :=
  let isOn (v : String) : Bool := v != "0"
  if (env.get? "CLICOLOR_FORCE").any isOn then true
  else if (env.get? "NO_COLOR").isSome then false
  else isTerminal && (env.get? "CLICOLOR").all isOn

end CloudGate.Console
