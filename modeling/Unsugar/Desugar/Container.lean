import Unsugar.Term.Build

/-!
# Container calls

Aggregates live at run time in the host's ordered dictionaries, so sugar becomes calls of that module.
-/

namespace Unsugar.Container

/-- The module that provides the container. -/
def module : String := "orddict"

/-- An empty container. -/
def new (loc : Loc) : Expr := .remoteCall loc module "new" []

/-- The container with one more entry, whose location every new node gets. -/
def store (container : Expr) (e : Entry) : Expr :=
  .remoteCall e.loc module "store" [.lit e.loc (.atom e.key), e.value, container]

/-- The container with entries stored in order: the first one innermost, so that the last entry of a key
is stored last and wins. -/
def storeAll (container : Expr) (entries : List Entry) : Expr := entries.foldl store container

/-- The value of a key. -/
def fetch (loc : Loc) (key : String) (container : Expr) : Expr :=
  .remoteCall loc module "fetch" [.lit loc (.atom key), container]

end Unsugar.Container
