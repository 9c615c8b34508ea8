import LayeredSettings.Files.Places

namespace LayeredSettings

/-- What the tool's own directories among those for settings are called. -/
def toolName : String := "cmakelite"

/-- The directory of settings for all users: the first absolute entry of a list of directories in the environment. -/
def standardMachineDirectory (environment : Entries String String) : Path :=
  let entries := (splitAt ':' ((environment.get? "XDG_CONFIG_DIRS").getD "").toList).map
    fun entry => Path.ofText (String.ofList entry)
  ((entries.find? Path.isAbsolute).getD (.ofText "/etc/xdg")).child toolName

/-- The directory of settings of one user: the one that the environment names, or one in the user's home. -/
def standardUserDirectory (environment : Entries String String) : Path :=
  let home := ((environment.get? "HOME").getD "").toList
  let own : Path := .ofText (String.ofList (home.reverse.dropWhile (· = '/')).reverse ++ "/.config")
  let named := (environment.get? "XDG_CONFIG_HOME").map Path.ofText
  ((named.filter Path.isAbsolute).getD own).child toolName

/-- Puts the tool's directories where they are by convention. The program is run like this; what is proved of it
holds wherever they are. -/
def Host.standard (host : Host) : Host :=
  { host with
    machineDirectory := standardMachineDirectory host.environment,
    userDirectory := standardUserDirectory host.environment }

end LayeredSettings
