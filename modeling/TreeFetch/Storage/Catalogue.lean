import TreeFetch.Storage.Client

/-!
# Catalogues

A catalogue is a storage that consists of a table of folders. Nothing in it can change; the ids
whose download fails are part of it.
-/

namespace TreeFetch.Storage

/-- A storage given by a table. -/
structure Catalogue where
  /-- The entries of each folder, by the folder's id. -/
  folders : List (String × List Entry)
  root : Option String
  /-- The id of every path of the local machine, if they have one. -/
  localId : Option String
  /-- Ids whose download fails. -/
  failing : List String
deriving Repr, DecidableEq, Inhabited

namespace Catalogue

def client : Client Catalogue where
  rootId c :=
    match c.root with
    | some id => .ok id
    | none => .error (.pathOperation "root" "resolve root")
  list c id :=
    { notes := []
      result :=
        match c.folders.lookup id with
        | some entries => .ok entries
        | none => .error (.pathOperation id "list folder") }
  download c file _ :=
    ({ notes := []
       result :=
        if c.failing.contains file.id then .error (.fileOperation file.id "download" "refused")
        else .ok () }, c)
  folderIdAt c _ := c.localId
  height c := c.folders.length

end Catalogue

end TreeFetch.Storage
