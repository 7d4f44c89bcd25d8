import QueryLint.Plugin.Info
import QueryLint.Style.Role
import QueryLint.Text.Grid

/-!
# The list of plugins

The list shows each plugin's name, version and description, and whether it is
active.
-/

namespace QueryLint

def listingTitles : List String :=
  ["Plugin", "Version", "Active", "Description"]

def listingRow (active : List String) (colored : Bool) (info : PluginInfo) :
    List String :=
  [StyleRole.name.paint colored info.name, info.version,
    if active.contains info.name then "yes" else "no", info.description]

/-- The list of plugins as a table, if all its texts have a width. -/
def pluginListing? (infos : List PluginInfo) (active : List String)
    (colored : Bool) :
    Option String :=
  let rows := listingTitles :: infos.map (listingRow active colored)
  (Grid.render? (rows.map fun row => row.map String.toList)).map String.ofList

end QueryLint
