import Schemata.Schema.Basic

/-! # How types and actions are spelled

Each known type has one or more spellings of one or more words, longer words before those they start
with. Words of a type are read regardless of case, words of an action as they stand here.
-/

namespace Schemata

def KnownType.spellings : List (KnownType × List (List Text)) :=
  [(.uuid, [["UUID"]]),
   (.text, [["TEXT"]]),
   (.bigint, [["BIGINT"], ["INT8"]]),
   (.int, [["INTEGER"], ["INT4"], ["INT"]]),
   (.boolean, [["BOOLEAN"], ["BOOL"]]),
   (.timestampWithTimeZone,
     [["TIMESTAMPZ"], ["TIMESTAMPTZ"], ["TIMESTAMP", "WITH", "TIME", "ZONE"]]),
   (.real, [["REAL"], ["FLOAT4"]]),
   (.double, [["DOUBLE", "PRECISION"], ["FLOAT8"]]),
   (.date, [["DATE"]]),
   (.binary, [["BINARY"]]),
   (.time, [["TIME"]])]

def OnDelete.spellings : List (List Text × OnDelete) :=
  [(["NO", "ACTION"], .noAction),
   (["RESTRICT"], .restrict),
   (["SET", "NULL"], .setNull),
   (["CASCADE"], .cascade)]

end Schemata
