/-!
# Errors

Everything that can go wrong, as causes. The wording is in one `message` function per type.

## Main definitions

* `CodeCatalog.Python.SyntaxError` — where and why a source file is rejected.
* `CodeCatalog.Error` — the errors of the library.
* `CodeCatalog.Error.message` — their texts.
* `CodeCatalog.Error.chain` — their texts, with those of their causes.
-/

namespace CodeCatalog

/-- Why a source file was rejected. -/
structure Python.SyntaxError where
  file : String
  /-- The line of the offending node, counted from 1. -/
  line : Nat
  /-- The bytes before the offending node on its line. -/
  column : Nat
  reason : String
deriving Repr, BEq, DecidableEq, Inhabited

/-- The text of an error. -/
def Python.SyntaxError.message (e : SyntaxError) : String :=
  s!"{e.file}:{e.line}:{e.column}: {e.reason}"

/-- Errors of looking for source files. -/
inductive DiscoveryError where
  | invalidDirectory (detail : String)
  | walkFailed (detail : String)
deriving Repr, BEq, DecidableEq, Inhabited

/-- The text of an error. -/
def DiscoveryError.message : DiscoveryError → String
  | .invalidDirectory detail => s!"Invalid directory path: {detail}"
  | .walkFailed detail => s!"Failed to walk directory: {detail}"

/-- Errors of reading source files and of reading and writing catalogs. -/
inductive CatalogIoError where
  | fileReadFailed (file reason : String)
  | writeFailed (path reason : String)
  | readFailed (path reason : String)
  | serialization (detail : String)
deriving Repr, BEq, DecidableEq, Inhabited

/-- The text of an error. -/
def CatalogIoError.message : CatalogIoError → String
  | .fileReadFailed file reason => s!"Failed to read file '{file}': {reason}"
  | .writeFailed path reason => s!"Failed to write catalog to '{path}': {reason}"
  | .readFailed path reason => s!"Failed to read catalog from '{path}': {reason}"
  | .serialization detail => s!"Failed to serialize catalog: {detail}"

/-- Errors of a document collection. -/
inductive SinkError where
  | recordAddFailure (id reason : String)
  | flushFailed (detail : String)
deriving Repr, BEq, DecidableEq, Inhabited

/-- The text of an error. -/
def SinkError.message : SinkError → String
  | .recordAddFailure id reason => s!"Failed to add record {id}: {reason}"
  | .flushFailed detail => s!"Failed to flush collection: {detail}"

/-- Errors of the configuration. -/
inductive ConfigError where
  | loadFailed (detail : String)
  | parseFailed (detail : String)
  | invalidValue (key reason : String)
  | saveFailed (detail : String)
  | fileNotFound (path : String)
deriving Repr, BEq, DecidableEq, Inhabited

/-- The text of an error. -/
def ConfigError.message : ConfigError → String
  | .loadFailed detail => s!"Failed to load configuration file: {detail}"
  | .parseFailed detail => s!"Failed to parse configuration: {detail}"
  | .invalidValue key reason => s!"Invalid configuration value for '{key}': {reason}"
  | .saveFailed detail => s!"Failed to save configuration: {detail}"
  | .fileNotFound path => s!"Configuration file not found: {path}"

/-- The errors of the library. -/
inductive Error where
  | discovery (e : DiscoveryError)
  | parse (e : Python.SyntaxError)
  | unsupportedModel (model : String)
  | catalogIo (e : CatalogIoError)
  | sink (e : SinkError)
  | config (e : ConfigError)
  | io (detail : String)
  | other (detail : String)
deriving Repr, BEq, DecidableEq, Inhabited

/-- The text of an error. -/
def Error.message : Error → String
  | .discovery e => s!"Discovery error: {e.message}"
  | .parse e => s!"Parse error: {e.message}"
  | .unsupportedModel model => s!"Tokenizer error: Unsupported tokenizer model: {model}"
  | .catalogIo e => s!"Catalog I/O error: {e.message}"
  | .sink e => s!"Collection error: {e.message}"
  | .config e => s!"Configuration error: {e.message}"
  | .io detail => s!"IO error: {detail}"
  | .other detail => detail

/-- The texts of an error and of its cause, the error first. -/
def Error.chain (e : Error) : List String :=
  match e with
  | .discovery cause => [e.message, cause.message]
  | .parse cause => [e.message, cause.message]
  | .unsupportedModel model => [e.message, s!"Unsupported tokenizer model: {model}"]
  | .catalogIo cause => [e.message, cause.message]
  | .sink cause => [e.message, cause.message]
  | .config cause => [e.message, cause.message]
  | .io detail => [e.message, detail]
  | .other _ => [e.message]

/-- An error with the contexts in which it was met, the cause first: the text names the
outermost context first. -/
def Error.ofChain (chain : List String) : Error :=
  .other (": ".intercalate chain.reverse)

/-- Whether an error concerns one source file only. -/
def Error.isPerFile : Error → Bool
  | .parse _ => true
  | .catalogIo (.fileReadFailed _ _) => true
  | _ => false

end CodeCatalog
