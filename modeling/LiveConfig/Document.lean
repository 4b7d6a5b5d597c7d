import LiveConfig.Json.Reader

/-!
Documents from their bytes.
-/

namespace LiveConfig

/-- The document that a text stands for, or the message of what is wrong with it. -/
def Document.parse (raw : Bytes) : Except String Document :=
  (Document.read? raw).mapError (·.render raw)

end LiveConfig
