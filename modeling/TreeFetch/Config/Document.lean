import TreeFetch.Config
import TreeFetch.Yaml.Node

/-!
# Settings in a document

A settings document is a mapping; every key is optional and unknown keys are passed over, whatever
their values are. A text is taken as it is written, whatever its tag says. A setting that may be
absent is absent where the plain text is empty or says null. Numbers and truth values are only those
that are written plainly, or as a literal block with the tag of their kind.
-/

namespace TreeFetch.Config

open Yaml (Document Scalar Style)

/-- Why a document holds no settings. -/
inductive DocumentFault
  /-- The text is no YAML. -/
  | text (fault : Yaml.Fault)
  /-- The document is no mapping. -/
  | noMapping
  /-- A key is no scalar. -/
  | keyNoScalar
  | repeated (key : String)
  /-- The value of a key is not of the kind that the key asks for. -/
  | wrongKind (key : String)
deriving Repr, DecidableEq, Inhabited

def DocumentFault.message : DocumentFault → String
  | text fault => fault.message
  | noMapping => "invalid type, expected struct Config"
  | keyNoScalar => "invalid type, expected field identifier"
  | repeated key => s!"duplicate field '{key}'"
  | wrongKind key => s!"{key}: invalid type"

/-! ## Single values -/

/-- The paths of the user's machine that settings may refer to. -/
structure Environment where
  /-- The home directory. -/
  home : Option String := none
  /-- The directory of configuration files, if the user chose one. -/
  configHome : Option String := none
deriving Repr, DecidableEq, Inhabited

/-- A path with the home directory in the place of a leading tilde that stands for a whole
segment. -/
def expandPath (env : Environment) (path : String) : String :=
  match path.toList, env.home with
  | ['~'], some home => home
  | '~' :: '/' :: rest, some home => home ++ String.ofList ('/' :: rest)
  | _, _ => path

/-- The tag that all kinds of plain values share. -/
def coreTag (kind : String) : String := "tag:yaml.org,2002:" ++ kind

/-- Whether a plain text says that there is no value. -/
def saysNull (text : String) : Bool := ["~", "null", "Null", "NULL"].contains text

/-- Whether a scalar can be a value of a kind other than text. -/
def canBe (kind : String) (s : Scalar) : Bool :=
  match s.style with
  | .plain => true
  | .literal => s.tag = some (coreTag kind)
  | _ => false

/-- Whether an optional value is present; an answer that is no answer is refused. -/
def isPresent? (s : Scalar) : Option Bool :=
  match s.style, s.tag with
  | .plain, none => some (s.text ≠ "" && !saysNull s.text)
  | .plain, some tag =>
    if tag ≠ coreTag "null" then some true else if saysNull s.text then some false else none
  | _, _ => some true

def digitIn? (base : Nat) (c : Char) : Option Nat :=
  (Yaml.hexValue? c).bind fun value => if value < base then some value else none

/-- The number that digits write in a base, if it fits into 64 bits. -/
def numberIn? (base : Nat) (digits : List Char) : Option Nat :=
  if digits.isEmpty then none
  else
    match digits.mapM (digitIn? base) with
    | none => none
    | some values =>
      let n := values.foldl (fun n value => n * base + value) 0
      if n ≤ 0xffffffffffffffff then some n else none

/-- The number that a text writes: decimal without a leading zero, or with a base in front. One plus
sign may come first. -/
def number? (text : String) : Option Nat :=
  let body :=
    match text.toList with
    | '+' :: rest => rest
    | all => all
  let decimal : Option Nat :=
    match body with
    | '0' :: _ :: _ => if body.all Char.isDigit then none else numberIn? 10 body
    | _ => numberIn? 10 body
  match body with
  | '0' :: 'x' :: digits => (numberIn? 16 digits).or decimal
  | '0' :: 'o' :: digits => (numberIn? 8 digits).or decimal
  | '0' :: 'b' :: digits => (numberIn? 2 digits).or decimal
  | _ => decimal

def truth? (text : String) : Option Bool :=
  if ["true", "True", "TRUE"].contains text then some true
  else if ["false", "False", "FALSE"].contains text then some false
  else none

/-! ## Settings -/

def keys : List String :=
  ["source", "folder_id", "pattern", "max_depth", "max_results", "dry_run", "output_dir",
    "path_pattern", "path_format"]

/-- The value that may be absent, as the given reader reads it. -/
def optional? {α : Type} (read : Scalar → Option α) (s : Scalar) : Option (Option α) :=
  (isPresent? s).bind fun present => if present then (read s).map some else some none

def numberOf? (s : Scalar) : Option Nat := if canBe "int" s then number? s.text else none

/-- The settings with one more of them read from a scalar. -/
def set? (env : Environment) (c : Config) (key : String) (s : Scalar) : Option Config :=
  let text (s : Scalar) : Option String := some s.text
  match key with
  | "source" => some { c with source := expandPath env s.text }
  | "folder_id" => (optional? text s).map fun v => { c with folderId := v }
  | "pattern" => some { c with pattern := s.text }
  | "max_depth" => (optional? numberOf? s).map fun v => { c with maxDepth := v }
  | "max_results" => (optional? numberOf? s).map fun v => { c with maxResults := v }
  | "dry_run" =>
    if canBe "bool" s then (truth? s.text).map fun v => { c with dryRun := v } else none
  | "output_dir" => some { c with outputDir := expandPath env s.text }
  | "path_pattern" => (optional? text s).map fun v => { c with pathPattern := v }
  | "path_format" => (optional? text s).map fun v => { c with pathFormat := v }
  | _ => some c

/-- The settings of a mapping, read pair by pair; `seen` are the keys read so far. -/
def ofPairs (env : Environment) (d : Document) (seen : List String) (c : Config) :
    List (Yaml.Node × Yaml.Node) → Except DocumentFault Config
  | [] => .ok c
  | (key, value) :: rest =>
    match d.scalar? key with
    | none => .error .keyNoScalar
    | some key =>
      let key := key.text
      if !keys.contains key then ofPairs env d seen c rest
      else if seen.contains key then .error (.repeated key)
      else
        match (d.scalar? value).bind (set? env c key) with
        | none => .error (.wrongKind key)
        | some c => ofPairs env d (key :: seen) c rest

def ofDocument (env : Environment) (d : Document) : Except DocumentFault Config :=
  match d.root with
  | .mapping pairs => ofPairs env d [] {} pairs
  | .scalar s => if s.text = "" && s.style = .plain then .ok {} else .error .noMapping
  | _ => .error .noMapping

def ofYaml (env : Environment) (text : String) : Except DocumentFault Config :=
  match Document.read? text with
  | .error fault => .error (.text fault)
  | .ok none => .ok {}
  | .ok (some d) => ofDocument env d

end TreeFetch.Config
