import StreamCatalog.DataPath
import StreamCatalog.Store

namespace StreamCatalog

structure Catalog where
  store : Store
  path : DataPath

namespace Catalog

def empty : Catalog := ⟨.empty, .empty⟩

def perform (hash : String → UInt64) (call : Call) (catalog : Catalog) : Reply × Catalog :=
  let done := (catalog.path.perform hash call).run Store.service catalog.store
  (done.1.1, ⟨done.2, done.1.2⟩)

def performAll (hash : String → UInt64) : List Call → Catalog → List Reply × Catalog
  | [], catalog => ([], catalog)
  | call :: rest, catalog =>
    let first := catalog.perform hash call
    let others := performAll hash rest first.2
    (first.1 :: others.1, others.2)

end Catalog

end StreamCatalog
