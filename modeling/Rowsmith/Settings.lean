/-
Settings of a run: where the generated tree goes, which files declare the
models, which models become tables and under which names, and which
conversions exist already. Everything has a default.

Paths in settings are relative to the directory that holds them.
-/
import Rowsmith.Emit.Location
import Rowsmith.Model.Registry
import Rowsmith.Settings.Decode
import Rowsmith.Settings.Reader
import Rowsmith.TypeExpr.Reader

namespace Rowsmith

namespace Settings

/-- A file with declarations, and the module that it is. -/
structure SourceEntry where
  path : Path
  module : String
deriving DecidableEq, Repr

/-- A model, with what is to replace its declared options. -/
structure ModelEntry where
  name : String
  table : Option String
  accessor : Option String
  keys : List String
deriving DecidableEq, Repr

/-- Existing code that converts a type to and from one column. -/
structure MapperEntry where
  type : String
  mapper : ProvidedMapper
deriving DecidableEq, Repr

/-- Existing code that converts a type to and from several columns. -/
structure AdapterEntry where
  type : String
  adapter : ProvidedAdapter
deriving DecidableEq, Repr

end Settings

open Settings in
/-- The settings of a run. -/
structure Settings where
  -- What is generated, and where to.
  target : Emit.Target
  sources : List SourceEntry
  models : List ModelEntry
  -- Nested structures that get an adapter even if no model uses them.
  structures : List String
  mappers : List MapperEntry
  adapters : List AdapterEntry
deriving DecidableEq, Repr

namespace Settings

/-- The settings of a text that sets nothing. -/
def default : Settings := ⟨.default, [], [], [], [], []⟩

-- =============================================================== reading

def text : Decoder String := decodeText "a string"

def path : Decoder Path := fun v => Path.mk <$> decodeText "path string" v

def storage : Decoder Storage := decodeName (Storage.all.map Storage.name) Storage.ofName?

def sourceShape : RecordShape SourceEntry where
  label := "SourceConfig"
  keys := [
    ⟨"path", .always, fun v e => do return { e with path := ← path v }⟩,
    ⟨"module", .never, fun v e => do return { e with module := ← text v }⟩]

def modelShape : RecordShape ModelEntry where
  label := "ModelConfig"
  keys := [
    ⟨"name", .always, fun v e => do return { e with name := ← text v }⟩,
    ⟨"table", .ifNamed, fun v e => do return { e with table := some (← text v) }⟩,
    ⟨"accessor", .ifNamed, fun v e => do return { e with accessor := some (← text v) }⟩,
    ⟨"keys", .never, fun v e => do return { e with keys := ← decodeList text v }⟩]

/-- How a nested structure is written. -/
def structureShape : RecordShape String where
  label := "PojoConfig"
  keys := [⟨"name", .always, fun v _ => text v⟩]

def mapperShape : RecordShape MapperEntry where
  label := "MapperConfig"
  keys := [
    ⟨"ty", .always, fun v e => do return { e with type := ← text v }⟩,
    ⟨"path", .always, fun v e => do return { e with mapper.path := ← text v }⟩,
    ⟨"storage", .always, fun v e => do return { e with mapper.storage := ← storage v }⟩]

/-- How a column of an adapter is written. -/
def columnShape : RecordShape AdapterColumn where
  label := "ColumnConfig"
  keys := [
    ⟨"name", .always, fun v c => do return { c with name := ← text v }⟩,
    ⟨"storage", .always, fun v c => do return { c with storage := ← storage v }⟩]

def column : Decoder AdapterColumn := columnShape.decode ⟨"", .string⟩

def adapterShape : RecordShape AdapterEntry where
  label := "AdapterConfig"
  keys := [
    ⟨"ty", .always, fun v e => do return { e with type := ← text v }⟩,
    ⟨"path", .always, fun v e => do return { e with adapter.path := ← text v }⟩,
    ⟨"columns", .always, fun v e => do return { e with adapter.columns := ← decodeList column v }⟩]

def shape : RecordShape Settings where
  label := "Config"
  keys := [
    ⟨"out_dir", .never, fun v s => do return { s with target.outDir := ← path v }⟩,
    ⟨"generated_module", .never, fun v s => do
      return { s with target.generatedModule := ← text v }⟩,
    ⟨"runtime", .never, fun v s => do return { s with target.runtime := ← text v }⟩,
    ⟨"source", .never, fun v s => do
      return { s with sources := ← decodeList (sourceShape.decode ⟨⟨""⟩, ""⟩) v }⟩,
    ⟨"model", .never, fun v s => do
      return { s with models := ← decodeList (modelShape.decode ⟨"", none, none, []⟩) v }⟩,
    ⟨"pojo", .never, fun v s => do
      return { s with structures := ← decodeList (structureShape.decode "") v }⟩,
    ⟨"mapper", .never, fun v s => do
      return { s with mappers := ← decodeList (mapperShape.decode ⟨"", "", .string⟩) v }⟩,
    ⟨"adapter", .never, fun v s => do
      return { s with adapters := ← decodeList (adapterShape.decode ⟨"", "", []⟩) v }⟩]

def ofText (text : String) : Except SettingsError Settings :=
  match Value.ofText? text with
  | some value => shape.decode default value
  | none => .error .malformed

-- ================================================================= using

/-- The settings as seen from outside the directory that holds them. -/
def within (s : Settings) (directory : Path) : Settings :=
  { s with
    target.outDir := directory.join s.target.outDir
    sources := s.sources.map fun e => { e with path := directory.join e.path } }

def registry (s : Settings) : Except Defect Registry := do
  let r ← s.mappers.foldlM (fun (r : Registry) e => do
    return r.addMapper (← TypeExpr.ofText e.type) e.mapper) Registry.empty
  s.adapters.foldlM (fun (r : Registry) e => do
    return r.addAdapter (← TypeExpr.ofText e.type) e.adapter) r

end Settings

end Rowsmith
