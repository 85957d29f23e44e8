import PackageSearch.Configuration.Fields
import PackageSearch.Installed.NixProbe
import PackageSearch.Search.NixQuery
import PackageSearch.Server.World

/-!
The world of a server that asks the commands of its machine. Commands answer at once and the same
way every time.
-/

namespace PackageSearch.Server

open Host

def Probe.ofNix (machine : Machine) (probe : Installed.NixProbe) : Probe where
  name := probe.name
  reply _ := {
    delay := 0
    result := probe.detect machine
    commands := started machine probe.command }

def World.ofMachine (machine : Machine) (environment : EnvironmentInfo)
    (configuration : Configuration) : World :=
  let service : NixQuery := {
    program := configuration.nixEnvCommand
    maxOutput := configuration.maxOutput }
  { search := fun query _ => {
      delay := 0
      result := service.search machine query
      commands := started machine (service.command query)
      notes := service.notes machine query }
    probes := (Installed.defaultProbes configuration.nixCommand configuration.nixEnvCommand
      configuration.systemProfile).map (Probe.ofNix machine)
    environment
    environmentCommands := EnvironmentInfo.commands machine configuration.nixCommand }

end PackageSearch.Server
