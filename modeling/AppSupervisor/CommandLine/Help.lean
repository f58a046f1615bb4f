/-!
The help texts of the command line.
-/

namespace AppSupervisor.CommandLine

def programName : String := "appdeck"

def runName : String := "run"

def programUsage : String := "Usage: appdeck [OPTIONS] COMMAND [ARGS]..."

def runUsage : String := "Usage: appdeck run [OPTIONS] ARTIFACT"

def programHelp : String := "\n".intercalate [
  programUsage,
  "",
  "  AppDeck - deploy and supervise apps as local processes.",
  "",
  "Options:",
  "  --version  Show the version and exit.",
  "  --help     Show this message and exit.",
  "",
  "Commands:",
  "  run  Run ARTIFACT as one or more local app instances."]

def runHelp : String := "\n".intercalate [
  runUsage,
  "",
  "  Run ARTIFACT as one or more local app instances.",
  "",
  "  The instances are supervised until Ctrl-C is pressed or the deployment stops",
  "  on its own, then undeployed.",
  "",
  "  Example:",
  "",
  "      appdeck run app.py --count 2 -p greeting=hello",
  "",
  "      appdeck run app.py --group demo --arg=--debug",
  "",
  "Options:",
  "  --name TEXT                     App name (defaults to the artifact file name",
  "                                  without extension)",
  "  --group TEXT                    Deployment group (default: 'default')",
  "  --count INTEGER RANGE           Number of instances to start  [default: 1;",
  "                                  x>=1]",
  "  -p, --property KEY=VALUE        App property passed to every instance",
  "                                  (repeatable)",
  "  -D, --deployment-property KEY=VALUE",
  "                                  Deployer property such as",
  "                                  appdeck.deployer.indexed=true (repeatable)",
  "  --arg TEXT                      Command line argument passed to every instance",
  "                                  (repeatable)",
  "  --config FILE                   YAML file with deployer properties",
  "  --wait-timeout FLOAT            Seconds to wait for instances to start",
  "                                  [default: 60.0]",
  "  --no-supervise                  Undeploy and exit once instances have started",
  "                                  instead of supervising",
  "  -v, --verbose                   Enable verbose debug logging",
  "  -q, --quiet                     Suppress progress output",
  "  --help                          Show this message and exit."]

end AppSupervisor.CommandLine
