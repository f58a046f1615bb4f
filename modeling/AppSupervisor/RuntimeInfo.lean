import AppSupervisor.Field

/-!
What a deployer tells about itself and its host.
-/

namespace AppSupervisor

structure HostVersions where
  api : String
  client : String
  host : String
  language : String
  deriving DecidableEq, Repr

structure RuntimeInfo where
  implementation : String
  version : String
  platform : String
  versions : HostVersions
  details : List (String × String) := []
  deriving DecidableEq, Repr

def RuntimeInfo.fieldNames : List String :=
  ["implementation_name", "implementation_version", "platform_type", "platform_api_version",
    "platform_client_version", "platform_host_version", "python_version", "platform_specific_info"]

def RuntimeInfo.ofEntries (entries : Entries) : Checked RuntimeInfo := do
  let text (name : String) : Checked String := readField entries name none readText
  let fields :=
    both (text "implementation_name") <|
    both (text "implementation_version") <|
    both (text "platform_type") <|
    both (text "platform_api_version") <|
    both (text "platform_client_version") <|
    both (text "platform_host_version") <|
    both (text "python_version")
      (readField entries "platform_specific_info" (some []) readTexts)
  let ((implementation, version, platform, api, client, host, language, details), _) ←
    both fields (refuseExtra entries RuntimeInfo.fieldNames)
  return { implementation, version, platform, versions := { api, client, host, language }, details }

def RuntimeInfo.read : Value → Checked RuntimeInfo :=
  readRecord "RuntimeEnvironmentInfo" RuntimeInfo.ofEntries

end AppSupervisor
