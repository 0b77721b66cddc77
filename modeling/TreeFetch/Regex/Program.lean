import TreeFetch.Regex.Expr

/-!
# Programs

A program is a pattern as instructions that lead to one another. A `choice` lists where to go on in
the order of preference, which is what makes the first branch of an alternation and the greedy or
lazy reading of a repetition win. Code is built from the end: `compileExpr e next code` adds the
code of `e` that goes on at `next`, and gives the place where it begins.
-/

namespace TreeFetch.Regex

open Unicode (CharSet)

inductive Instr
  | accept
  | char (c : Char) (next : Nat)
  | set (members : CharSet) (next : Nat)
  | look (condition : Look) (next : Nat)
  | save (slot : Nat) (next : Nat)
  | choice (targets : List Nat)
deriving Inhabited

/-- Instructions and the place of the first. -/
structure Program where
  code : Array Instr
  start : Nat
deriving Inhabited

/-- Code that is being added: the place to begin at, and all code so far. -/
abbrev Fragment := Nat × Array Instr

def emit (i : Instr) (code : Array Instr) : Fragment := (code.size, code.push i)

/-- Two ways to go on, the first one preferred if the repetition is greedy. -/
def prefer (greedy : Bool) (more stop : Nat) : Instr :=
  .choice (if greedy then [more, stop] else [stop, more])

/-- Adds `n` copies of a part in a row. -/
def copies (body : Nat → Array Instr → Fragment) : Nat → Nat → Array Instr → Fragment
  | 0, next, code => (next, code)
  | n + 1, next, code =>
    let (place, code) := body next code
    copies body n place code

/-- Adds up to `n` copies of a part, each of which may be the last. `stop` is where to go on. -/
def optionalCopies (body : Nat → Array Instr → Fragment) (greedy : Bool) (stop : Nat) :
    Nat → Nat → Array Instr → Fragment
  | 0, next, code => (next, code)
  | n + 1, next, code =>
    let (place, code) := body next code
    let (place, code) := emit (prefer greedy place stop) code
    optionalCopies body greedy stop n place code

/-- Adds a part that runs once or more: where it begins, and where it decides about one more
round. -/
def oneOrMore (body : Nat → Array Instr → Fragment) (greedy : Bool) (next : Nat)
    (code : Array Instr) : Nat × Fragment :=
  let (decide_, code) := emit (.choice []) code
  let (place, code) := body decide_ code
  (place, decide_, code.setIfInBounds decide_ (prefer greedy place next))

/-- Adds a repetition. Where a round may match the empty text, the first round is set apart, so that
a round which matches nothing does not hide the way on. -/
def compileRepetition (body : Nat → Array Instr → Fragment) (bodyEmpty : Bool) (least : Nat)
    (most : Option Nat) (greedy : Bool) (next : Nat) (code : Array Instr) : Fragment :=
  match most with
  | some most =>
    let (place, code) := optionalCopies body greedy next (most - least) next code
    copies body least place code
  | none =>
    let (place, decide_, code) := oneOrMore body greedy next code
    match least with
    | 0 => if bodyEmpty then emit (prefer greedy place next) code else (decide_, code)
    | least + 1 => copies body least place code

mutual

/-- Adds the code of an expression that goes on at `next`. -/
def compileExpr : Expr → Nat → Array Instr → Fragment
  | .empty, next, code => (next, code)
  | .char c, next, code => emit (.char c next) code
  | .set members, next, code => emit (.set members next) code
  | .look condition, next, code => emit (.look condition next) code
  | .repetition least most greedy body, next, code =>
    compileRepetition (fun next code => compileExpr body next code) body.canBeEmpty least most
      greedy next code
  | .capture index _ body, next, code =>
    let (place, code) := emit (.save (2 * index + 1) next) code
    let (place, code) := compileExpr body place code
    emit (.save (2 * index) place) code
  | .concat parts, next, code => compileParts parts next code
  | .alternation branches, next, code =>
    let (places, code) := compileBranches branches next code
    emit (.choice places) code

def compileParts : List Expr → Nat → Array Instr → Fragment
  | [], next, code => (next, code)
  | e :: rest, next, code =>
    let (place, code) := compileParts rest next code
    compileExpr e place code

/-- Adds the code of branches, and gives the places where they begin. -/
def compileBranches : List Expr → Nat → Array Instr → List Nat × Array Instr
  | [], _, code => ([], code)
  | e :: rest, next, code =>
    let (place, code) := compileExpr e next code
    let (places, code) := compileBranches rest next code
    (place :: places, code)

end

def Program.ofExpr (e : Expr) : Program :=
  let (stop, code) := emit .accept #[]
  let (start, code) := compileExpr e stop code
  ⟨code, start⟩

end TreeFetch.Regex
