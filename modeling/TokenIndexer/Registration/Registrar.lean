import TokenIndexer.Message
import TokenIndexer.Node.Remote
import TokenIndexer.Registration.Package

namespace TokenIndexer

inductive RegistrationError where
  | invalidEndpoint (text : String)
  | rpc (text : String)
  deriving DecidableEq

def RegistrationError.message : RegistrationError → String
  | .invalidEndpoint text => "invalid registrar endpoint: " ++ text
  | .rpc text => "registrar rpc: " ++ text

structure RegistrationService where
  method : String
  suffix : String
  chainId : String
  deriving DecidableEq

inductive Registrar where
  /-- Accepts every token and does nothing. -/
  | dryRun (suffix : String)
  | service (service : RegistrationService)
  deriving DecidableEq

namespace Registrar

def connect (endpoint : String) : Except RegistrationError Unit :=
  if !Url.hasWebScheme endpoint then .error (.invalidEndpoint endpoint)
  else if !Url.namesHost endpoint then .error (.invalidEndpoint (endpoint ++ ": invalid address"))
  else .ok ()

def ofSettings (settings : Settings) : Except RegistrationError Registrar :=
  let r := settings.registrar
  match r.endpoint with
  | none => .ok (.dryRun r.suffix)
  | some endpoint =>
    (connect endpoint).map fun _ => .service ⟨r.method, r.suffix, settings.client.chainId⟩

def request (service : RegistrationService) (packagePath : String) : Request :=
  let package := Registration.package packagePath service.suffix
  ⟨service.method,
    .obj [("package_path", .text packagePath), ("register_path", .text package.path),
      ("package_name", .text package.name), ("chain_id", .text service.chainId),
      ("files", .array (package.files.map MemFile.toJson))]⟩

/-- What a reply comes to: any result is an acceptance. -/
def accepted (transfer : Transfer) : Except RegistrationError Unit :=
  match Remote.result transfer with
  | .ok _ => .ok ()
  | .error e => .error (.rpc e.message)

end Registrar

end TokenIndexer
