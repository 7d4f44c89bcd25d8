import QueryLint.Command.Switch
import QueryLint.Config.File
import QueryLint.Plugin.Host
import QueryLint.Plugin.Listing
import QueryLint.Session.Reporting
import QueryLint.Version

/-!
# Requests

Every request but linting is answered at once by a report.
-/

namespace QueryLint

/-- How a request ends; a request to lint leaves the linting to be done. -/
structure Response where
  success : Bool
  shouldLint : Bool
  deriving DecidableEq, Repr, Inhabited

/-- The answer to a request that is done. -/
def Response.done (success : Bool) : Response :=
  ⟨success, false⟩

namespace Work

/-- Leaves the records of an operation that failed. -/
def diagnose [Diagnosed ε] (error : ε) (operation : String) : Work Unit :=
  note (diagnosisRecords error operation)

def tellConfig (path? : Option String) : Work Response := do
  match path? with
  | some path => report s!"Config file found at: {path}"
  | none => report "Config file not found. Using default configuration"
  return .done true

def createConfig (options : Options) : Work Response := do
  let operation := "Configuration initialisation"
  let session ← Work.session
  match options.configFile <|> session.files.homeConfig? with
  | none =>
      let error := ConfigError.noHomeDirectory
      diagnose error operation
      report (userFacing error operation)
      return .done false
  | some path =>
      match session.files.writeDefaultConfig path options.force with
      | .error error =>
          diagnose error operation
          report error.message
          return .done false
      | .ok files =>
          modify fun session => { session with files := files }
          note [writtenRecord path]
          report s!"Created default config file at: {path}"
          return .done true

/-- Reports the registered plugins; a list that cannot be laid out is a
crash. -/
def listPlugins (colored : Bool) : Work Response := do
  let session ← Work.session
  let infos := session.registry.infos
  if infos.isEmpty then report "No plugins discovered."
  else
    match pluginListing? infos session.registry.active colored with
    | some listing => report (String.ofList (Text.trimEnd listing.toList))
    | none => crash
  return .done true

def handle (options : Options) (path? : Option String) (build : BuildInfo)
    (isTerminal : Bool) : Work Response := do
  let request := options.request
  note [⟨.debug, "sqllint::app::cli::handler",
    s!"Handling request with {request.name}"⟩]
  match request with
  | .version =>
      report build.banner
      return .done true
  | .printConfig => tellConfig path?
  | .createConfig => createConfig options
  | .listPlugins => listPlugins (options.useColor isTerminal)
  | .lint => return ⟨true, true⟩
  | .usage =>
      report helpText
      return .done true

end Work

end QueryLint
