/-!
What can go wrong between a request and its document. Each error carries the names that a caller
needs to mend the input.
-/

namespace Datalogger

inductive Error where
  | instrumentConfig (instrument setting reason : String)
  | unknownInstrument (typeId : String)
  | invalidDeclaration (instrument reason : String)
  | duplicateVariableName (name first second : String)
  | invalidVariableName (name instrument : String)
  | unknownVariable (instrument name : String)
  | wiringRoleNotFound (role instrument : String)
  | ambiguousWiringRole (role instrument : String)
  | unconnectedWiringRole (role instrument : String)
  | invalidTerminal (text : String)
  | invalidAddress (text : String)
  | tableConflict (table first second detail : String)
  | missingDependency (instrument dependency reason : String)
  deriving DecidableEq, Repr

namespace Error

def kind : Error → String
  | instrumentConfig .. => "instrument_config"
  | unknownInstrument .. => "unknown_instrument"
  | invalidDeclaration .. => "invalid_declaration"
  | duplicateVariableName .. => "duplicate_variable_name"
  | invalidVariableName .. => "invalid_variable_name"
  | unknownVariable .. => "unknown_variable"
  | wiringRoleNotFound .. => "wiring_role_not_found"
  | ambiguousWiringRole .. => "ambiguous_wiring_role"
  | unconnectedWiringRole .. => "unconnected_wiring_role"
  | invalidTerminal .. => "invalid_terminal"
  | invalidAddress .. => "invalid_address"
  | tableConflict .. => "table_conflict"
  | missingDependency .. => "missing_dependency"

def message : Error → String
  | instrumentConfig instrument setting reason =>
    "Instrument '" ++ instrument ++ "' is missing required setting '" ++ setting ++ "': " ++ reason
  | unknownInstrument typeId => "Unknown instrument type: " ++ typeId
  | invalidDeclaration instrument reason =>
    "Invalid declaration in '" ++ instrument ++ "': " ++ reason
  | duplicateVariableName name first second =>
    "Duplicate variable name '" ++ name ++ "' (declared by '" ++ first ++ "' and '" ++ second ++ "')"
  | invalidVariableName name instrument =>
    "Invalid variable name '" ++ name ++ "' in '" ++ instrument ++ "'"
  | unknownVariable instrument name =>
    "Unknown variable '" ++ name ++ "' referenced by '" ++ instrument ++ "'"
  | wiringRoleNotFound role instrument =>
    "Wiring role '" ++ role ++ "' not found on '" ++ instrument ++ "'"
  | ambiguousWiringRole role instrument =>
    "Wiring role '" ++ role ++ "' matches more than one wire on '" ++ instrument ++ "'"
  | unconnectedWiringRole role instrument =>
    "Wiring role '" ++ role ++ "' on '" ++ instrument ++ "' is not connected to a terminal"
  | invalidTerminal text => "Invalid terminal: " ++ text
  | invalidAddress text => "Invalid SDI-12 address: " ++ text
  | tableConflict table first second detail =>
    "Table '" ++ table ++ "' is defined incompatibly by '" ++ first ++ "' and '" ++ second ++ "': " ++
      detail
  | missingDependency instrument dependency reason =>
    "Missing dependency '" ++ dependency ++ "' for '" ++ instrument ++ "': " ++ reason

end Error

end Datalogger
