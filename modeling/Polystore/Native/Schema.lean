/-
**Collections of document stores.**

Columns mean nothing to these stores. A collection that exists is not created again, one that does not
exist is not dropped, and there is nothing to change.
-/

import Polystore.Native.Engine
import Polystore.Schema

namespace Polystore.Native

/-- The names of the collections. -/
def collectionNames : Program interface (List String) := .ask interface .connection Call.listCollections

/-- Whether a collection exists. -/
def hasCollection (name : String) : Program interface Bool := do
  let names ← collectionNames
  return names.contains name

/-- The collections of a document store. -/
def schema : Schema interface where
  create blueprint := do
    if ← hasCollection blueprint.name then return ()
    let created : Unit ← .ask interface .connection (Call.createCollection blueprint.name)
    return created
  drop name := do
    if ← hasCollection name then
      let dropped : Unit ← .ask interface .connection (Call.dropCollection name)
      return dropped
    else return ()
  contains := hasCollection
  alter name _ :=
    .fail (.unsupported
      ("altering collection '" ++ name ++ "': document stores have no fixed columns"))
  names := collectionNames

end Polystore.Native
