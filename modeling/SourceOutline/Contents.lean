import SourceOutline.Text.Utf8
import SourceOutline.Yaml.Writer

/-!
# Contents — what a file holds

A file holds bytes, or a document that was written as such.

* `Contents.toBytes` — the bytes, where a document is written out.
-/

namespace SourceOutline

inductive Contents where
  | bytes (b : Bytes)
  | document (v : Value)

def Contents.toBytes : Contents → Bytes
  | bytes b => b
  | document v => utf8Bytes (Yaml.write v)

end SourceOutline
