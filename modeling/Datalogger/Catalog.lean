import Datalogger.Instrument

/-!
The catalog: instrument types by their type id, each with what it requires and a constructor.
-/

namespace Datalogger

structure Requirements where
  address : Bool
  elevation : Bool
  /-- Parameters without a default. -/
  params : List String
  deriving DecidableEq, Repr

def Requirements.nothing : Requirements := ⟨false, false, []⟩

structure CatalogEntry where
  descriptor : Descriptor
  requirements : Requirements
  dependencies : List Dependency
  build : InstrumentSettings → Except Error Instrument

/-- Entries in the order of their type ids. -/
structure Catalog where
  byType : Dict CatalogEntry

namespace Catalog

def empty : Catalog := ⟨.empty⟩

/-- A later entry with the same type id replaces an earlier one. -/
def register (c : Catalog) (e : CatalogEntry) : Catalog :=
  ⟨c.byType.insert e.descriptor.typeId e⟩

def ofList (entries : List CatalogEntry) : Catalog :=
  entries.foldl register empty

def get? (c : Catalog) (typeId : String) : Option CatalogEntry :=
  c.byType.get? typeId

def entries (c : Catalog) : List CatalogEntry :=
  c.byType.values

def typeIds (c : Catalog) : List String :=
  c.byType.keys

def size (c : Catalog) : Nat :=
  c.byType.size

def isEmpty (c : Catalog) : Bool :=
  c.byType.isEmpty

def instantiate (c : Catalog) (typeId : String) (settings : InstrumentSettings) :
    Except Error Instrument :=
  match c.get? typeId with
  | some e => e.build settings
  | none => .error (.unknownInstrument typeId)

end Catalog

end Datalogger
