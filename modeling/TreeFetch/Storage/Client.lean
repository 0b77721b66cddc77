import TreeFetch.Error
import TreeFetch.Log
import TreeFetch.Time

/-!
# Storages

A storage is a tree of folders that are listed one at a time, each under an id. `Client σ` says how
a storage in a state of type `σ` answers: the id of its root, the entries of a folder, the id of a
path of the local machine, and what a download does to the state. Asking for a folder changes
nothing. A `Call` is one request to a storage, and an `Event` a call or a message.

Messages may be kept where the storage is, in a file that it serves. A `Hearing σ` says what a
message does to the state; to `deaf`, messages do nothing.
-/

namespace TreeFetch.Storage

/-- What an entry of a folder is. -/
inductive Kind
  | file
  | folder
deriving Repr, DecidableEq, Inhabited

structure Entry where
  id : String
  name : String
  kind : Kind
  modified : Time
  trashed : Bool
deriving Repr, DecidableEq, Inhabited

/-- A file that was found, with the path that leads to it from where the search began. -/
structure File where
  id : String
  name : String
  path : String
  modified : Time
deriving Repr, DecidableEq, Inhabited

/-- The answer of a storage, with the messages made on the way. -/
structure Answer (α : Type) where
  notes : List Record
  result : Except Error α

/-- How a storage in a state of type `σ` answers. -/
structure Client (σ : Type) where
  /-- The id of the root folder. -/
  rootId : σ → Except Error String
  /-- The entries of a folder. -/
  list : σ → String → Answer (List Entry)
  /-- Saves a file at a path of the local machine. -/
  download : σ → File → String → Answer Unit × σ
  /-- The id of the folder that a path of the local machine leads to, if the storage has it. -/
  folderIdAt : σ → String → Option String
  /-- How many folders may stand inside one another before one of them stands inside itself. -/
  height : σ → Nat

inductive Call
  | list (id : String)
  | download (id path : String)
deriving Repr, DecidableEq, Inhabited

/-- Something that happened: a message, or a request to a storage. -/
inductive Event
  | told (record : Record)
  | asked (call : Call)
deriving Repr, DecidableEq, Inhabited

def Event.records (events : List Event) : List Record :=
  events.filterMap fun
    | told record => some record
    | asked _ => none

abbrev Hearing (σ : Type) := σ → Record → σ

def deaf {σ : Type} : Hearing σ := fun state _ => state

def Event.heard {σ : Type} (hear : Hearing σ) (state : σ) (events : List Event) : σ :=
  (Event.records events).foldl hear state

def Event.calls (events : List Event) : List Call :=
  events.filterMap fun
    | told _ => none
    | asked call => some call

end TreeFetch.Storage
