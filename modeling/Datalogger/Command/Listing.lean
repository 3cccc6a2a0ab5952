import Datalogger.Catalog
import Datalogger.Data.Json
import Datalogger.Text.Lines
import Datalogger.Text.Pad

/-!
The catalog as a listing: one row for each type with what it must be given, or the same as JSON.
-/

namespace Datalogger

open Text (padEnd joinLines)

namespace CatalogEntry

def needs (e : CatalogEntry) : List String :=
  (if e.requirements.address then ["sdi12_address"] else []) ++
    (if e.requirements.elevation then ["elevation"] else []) ++
    e.requirements.params.map ("param:" ++ ·) ++
    e.dependencies.map fun d => "<" ++ d.name ++ ">"

def needsText (e : CatalogEntry) : String :=
  if e.needs = [] then "-" else ", ".intercalate e.needs

/-- Four columns; the last one is as wide as its text. -/
def row (typeId category instrument needs : String) : String :=
  padEnd 28 typeId ++ " " ++ padEnd 16 category ++ " " ++ padEnd 40 instrument ++ " " ++ needs

def listingRow (e : CatalogEntry) : String :=
  let d := e.descriptor
  row d.typeId d.category (d.manufacturer ++ " " ++ d.model) e.needsText

def encode (e : CatalogEntry) : Json :=
  let d := e.descriptor
  .obj [("type_id", .str d.typeId), ("manufacturer", .str d.manufacturer), ("model", .str d.model),
    ("category", .str d.category),
    ("requirements", .obj [("sdi12_address", .bool e.requirements.address),
      ("elevation", .bool e.requirements.elevation),
      ("params", .arr (e.requirements.params.map .str))]),
    ("dependencies", .arr (e.dependencies.map fun d =>
      .obj [("name", .str d.name), ("description", .str d.description)]))]

end CatalogEntry

namespace Catalog

def listing (c : Catalog) : String :=
  joinLines (CatalogEntry.row "TYPE" "CATEGORY" "INSTRUMENT" "NEEDS" ::
    c.entries.map CatalogEntry.listingRow)

def encode (c : Catalog) : Json :=
  .arr (c.entries.map CatalogEntry.encode)

end Catalog

end Datalogger
