import Schemata.CommandLine.Arguments

/-! # The standard configuration

What holds unless a call says otherwise.
-/

namespace Schemata

structure Configuration where
  logLevel : Text
  sourceName : Text
  schemaPath : Text
  format : OutputFormat
deriving DecidableEq, Repr

namespace Configuration

def standard : Configuration where
  logLevel := "WARNING"
  sourceName := defaultSourceName
  schemaPath := defaultSchemaPath
  format := .json

def toPlain (c : Configuration) : Plain :=
  .record
    [(text "general", .record [(text "log_level", .string c.logLevel)]),
     (text "parser", .record
      [(text "source_name", .string c.sourceName),
       (text "schema_file_path", .string c.schemaPath)]),
     (text "output", .record [(text "format", .string c.format.name)])]

end Configuration

end Schemata
