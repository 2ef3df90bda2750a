import TunnelControl.Command
import TunnelControl.Options

/-!
# Recorders

An engine that records the settings made on it, and a command sink that records
the commands sent to it. Both fail where they are told to, and record all the same.
-/

namespace TunnelControl.Rehearsal

/-- Records a setting; one whose call returns a code may fail with it. -/
def recordSetting (codes : String → Int32) (made : List Setting) (s : Setting) :
    List Setting × Except EngineFault Unit :=
  (made ++ [s], match s with
    | .logLevel _ | .dpd _ => .ok ()
    | _ => EngineFault.check s.context (codes s.context))

/-- Applies options to a recorder. -/
def recordOptions (codes : String → Int32) (o : Options) :
    List Setting × Except EngineFault Unit :=
  applyAll (recordSetting codes) [] o.settings

/-- What opening the command pipe of a recorder is reported as when it fails. -/
def pipeContext : String := "setup command pipe"

/-- Sends commands to a sink that fails as the list says, in order; past its end
every send succeeds. -/
def recordSends : List Command → List (Option SendFault) → List (Except SendFault Unit)
  | [], _ => []
  | _ :: cs, faults =>
    (match faults.head?.join with
      | none => .ok ()
      | some fault => .error fault) :: recordSends cs faults.tail

end TunnelControl.Rehearsal
