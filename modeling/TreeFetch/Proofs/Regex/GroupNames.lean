import Mathlib.Data.List.Nodup
import TreeFetch.Proofs.Template
import TreeFetch.Proofs.Unicode.Alphabetic
import TreeFetch.Regex.Pattern

/-!
# The names of groups

The reader of a pattern keeps the names of the groups that it has opened and refuses a name that
comes again. So no two groups of a pattern have one name, whatever the flags in it make of its
parts. Names consist of letters, numbers and a few other characters, and so a placeholder of a name
has no other placeholder inside it.

Results:
1. `Parser.Named.step` and `Parser.Named.parseFrom`: a name stands for as many groups as the reader
   has noted for it.
2. `countNamed_ofTree`: an expression has no group that its tree does not have.
3. `Pattern.nodup_groupNames` and `Pattern.isPlain_groupNames`: the names of a pattern.
-/

namespace TreeFetch.Regex

/-! ## Groups of a tree -/

/-- How often a name is given to a group when it is opened. -/
def GroupKind.uses (name : String) : GroupKind → Nat
  | .capture _ given => if given = some name then 1 else 0
  | .flags _ => 0

namespace Ast

mutual

/-- How many groups of a tree have a name. -/
def uses (name : String) : Ast → Nat
  | .empty => 0
  | .flags _ => 0
  | .atom _ => 0
  | .bracketed _ _ => 0
  | .repetition _ body => uses name body
  | .group kind body => kind.uses name + uses name body
  | .alternation branches => usesOfAll name branches
  | .concat parts => usesOfAll name parts

/-- How many groups of some trees have a name. -/
def usesOfAll (name : String) : List Ast → Nat
  | [] => 0
  | part :: rest => uses name part + usesOfAll name rest

end

variable {name : String}

@[simp] theorem usesOfAll_append (parts more : List Ast) :
    usesOfAll name (parts ++ more) = usesOfAll name parts + usesOfAll name more := by
  induction parts with
  | nil => simp [usesOfAll]
  | cons part parts ih => rw [List.cons_append, usesOfAll, usesOfAll, ih, Nat.add_assoc]

@[simp] theorem usesOfAll_reverse (parts : List Ast) :
    usesOfAll name parts.reverse = usesOfAll name parts := by
  induction parts with
  | nil => rfl
  | cons part parts ih =>
    rw [List.reverse_cons, usesOfAll_append, ih, usesOfAll, usesOfAll, usesOfAll]
    omega

@[simp] theorem uses_ofParts (parts : List Ast) :
    (ofParts parts).uses name = usesOfAll name parts := by
  unfold ofParts
  split
  · rfl
  · rw [usesOfAll, usesOfAll, Nat.add_zero]
  · rw [uses]

@[simp] theorem uses_ofBranches (branches : List Ast) :
    (ofBranches branches).uses name = usesOfAll name branches := by
  unfold ofBranches
  split
  · rw [usesOfAll, usesOfAll, Nat.add_zero]
  · rw [uses]

end Ast

/-! ## Reading -/

theorem bind_eq_ok {ε α β : Type} {read : Except ε α} {next : α → Except ε β} {b : β} :
    read >>= next = .ok b ↔ ∃ a, read = .ok a ∧ next a = .ok b := by
  cases read <;> simp [bind, Except.bind]

/-- How many groups of what waits have a name. -/
def Frame.uses (name : String) : Frame → Nat
  | .group before kind _ => Ast.usesOfAll name before + kind.uses name
  | .branches done => Ast.usesOfAll name done

/-- How many groups of all that waits have a name. -/
def Frame.usesOfAll (name : String) : List Frame → Nat
  | [] => 0
  | frame :: rest => frame.uses name + usesOfAll name rest

theorem map_eq_ok {α β : Type} {read : Except SyntaxError α} {f : α → β} {b : β} :
    read.map f = .ok b ↔ ∃ a, read = .ok a ∧ f a = b := by
  cases read <;> simp [Except.map]

theorem mapError_eq_ok {ε ε' α : Type} {read : Except ε α} {f : ε → ε'} {a : α} :
    read.mapError f = .ok a ↔ read = .ok a := by
  cases read <;> simp [Except.mapError]

theorem bracket_uses {r after : Reader} {part : Ast} (h : bracket r = .ok (part, after))
    (name : String) : part.uses name = 0 := by
  obtain ⟨_, _, h⟩ := bind_eq_ok.1 h
  obtain ⟨_, _, h⟩ := bind_eq_ok.1 h
  obtain ⟨rfl, _⟩ := Prod.mk.inj (Except.ok.inj h)
  rfl

theorem readName_chars {first : Bool} {cs name rest : List Char}
    (h : readName first cs = .ok (name, rest)) :
    ∀ c ∈ name, ∃ first, isNameChar first c = true := by
  induction cs generalizing first name rest with
  | nil => cases h
  | cons d cs ih =>
    rw [readName] at h
    split at h
    · obtain ⟨rfl, _⟩ := Prod.mk.inj (Except.ok.inj h)
      exact List.forall_mem_nil _
    · split at h
      · next allowed =>
        split at h
        · next inner later found =>
          obtain ⟨rfl, _⟩ := Prod.mk.inj (Except.ok.inj h)
          exact List.forall_mem_cons.2 ⟨⟨first, allowed⟩, ih found⟩
        · cases h
      · cases h

namespace Parser

/-- How many groups of what has been read have a name. -/
def uses (name : String) (p : Parser) : Nat :=
  Ast.usesOfAll name p.parts + Frame.usesOfAll name p.stack

/-- Reading goes on without a new name. -/
structure Keeps (p next : Parser) : Prop where
  names : next.names = p.names
  uses : ∀ name, next.uses name = p.uses name

/-- The names noted differ from one another and have no other characters than names may have. No
name stands for more groups than it has been noted for. -/
structure Named (p : Parser) : Prop where
  once : p.names.Nodup
  chars : ∀ name ∈ p.names, ∀ c ∈ name.toList, ∃ first, isNameChar first c = true
  covers : ∀ name, p.uses name ≤ p.names.count name

variable {p next : Parser} {r : Reader} {c : Char} {cs : List Char}

theorem Named.of_keeps (h : p.Named) (keeps : Keeps p next) : next.Named where
  once := keeps.names ▸ h.once
  chars := keeps.names ▸ h.chars
  covers name := by
    rw [keeps.uses, keeps.names]
    exact h.covers name

theorem keeps_push {part : Ast} (r : Reader) (none_ : ∀ name, part.uses name = 0) :
    Keeps p (p.push part r) where
  names := rfl
  uses name := by simp [uses, push, Ast.usesOfAll, none_ name]

theorem keeps_openFlags (change : FlagChange) (r : Reader) :
    Keeps p (p.openGroup (.flags change) r) where
  names := rfl
  uses name := by simp [uses, openGroup, Ast.usesOfAll, Frame.usesOfAll, Frame.uses, GroupKind.uses]

theorem keeps_endBranch (r : Reader) : Keeps p (p.endBranch r) := by
  unfold endBranch
  split
  · next done stack waits =>
    refine ⟨rfl, fun name => ?_⟩
    simp [uses, sequence, waits, Ast.usesOfAll, Frame.usesOfAll, Frame.uses]
    omega
  · refine ⟨rfl, fun name => ?_⟩
    simp [uses, sequence, Ast.usesOfAll, Frame.usesOfAll, Frame.uses]

/-- The tree that ends has all groups that were read since it began. -/
theorem finish_uses (name : String) :
    p.finish.1.uses name + Frame.usesOfAll name p.finish.2 = p.uses name := by
  unfold finish
  split
  · next done stack waits =>
    simp [uses, sequence, waits, Ast.usesOfAll, Frame.usesOfAll, Frame.uses]
    omega
  · simp [uses, sequence]

theorem keeps_closeGroup (h : p.closeGroup cs = .ok next) : Keeps p next := by
  have finished := @finish_uses p
  unfold closeGroup at h
  generalize p.finish = ended at h finished
  obtain ⟨body, stack⟩ := ended
  simp only at h
  split at h
  · next before kind verbose stack =>
    obtain rfl := Except.ok.inj h
    refine ⟨rfl, fun name => ?_⟩
    rw [← finished name]
    simp [uses, Ast.usesOfAll, Ast.uses, Frame.usesOfAll, Frame.uses]
    omega
  · cases h

theorem keeps_repeatLast {count : Repetition} (h : p.repeatLast count r = .ok next) :
    Keeps p next := by
  unfold repeatLast at h
  split at h
  · cases h
  · cases h
  · cases h
  · next part before _ _ parts =>
    obtain rfl := Except.ok.inj h
    exact ⟨rfl, fun name => by simp [uses, parts, Ast.usesOfAll, Ast.uses]⟩

theorem keeps_readRepetition (h : p.readRepetition r = .ok next) : Keeps p next := by
  obtain ⟨_, _, h⟩ := bind_eq_ok.1 h
  obtain ⟨⟨least, most, r⟩, _, h⟩ := bind_eq_ok.1 h
  simp only at h
  split at h
  · cases h
  · exact keeps_repeatLast h

theorem Named.openNamed (h : p.Named) {name : String} (fresh : p.names.contains name = false)
    (chars : ∀ c ∈ name.toList, ∃ first, isNameChar first c = true) (r : Reader) :
    Named { p.openCapture (some name) r with names := name :: p.names } where
  once := List.nodup_cons.2 ⟨by simpa using fresh, h.once⟩
  chars := List.forall_mem_cons.2 ⟨chars, h.chars⟩
  covers other := by
    have covered := h.covers other
    simp only [uses] at covered
    simp [uses, openCapture, openGroup, Ast.usesOfAll, Frame.usesOfAll, Frame.uses, GroupKind.uses,
      List.count_cons]
    omega

theorem Named.readGroup (h : p.Named) (opened : p.readGroup r = .ok next) : next.Named := by
  unfold Parser.readGroup at opened
  split at opened
  case h_5 cs _ | h_6 cs _ _ =>
    obtain ⟨⟨name, rest⟩, given, opened⟩ := bind_eq_ok.1 opened
    simp only at opened
    split at opened
    · cases opened
    · split at opened
      · cases opened
      · next fresh =>
        obtain rfl := Except.ok.inj opened
        refine h.openNamed (by simpa using fresh) ?_ _
        simpa using readName_chars given
  case h_8 cs _ _ _ _ =>
    obtain ⟨⟨change, closer, rest⟩, _, opened⟩ := bind_eq_ok.1 opened
    simp only at opened
    split at opened
    · split at opened
      · cases opened
      · obtain rfl := Except.ok.inj opened
        exact h.of_keeps (keeps_push _ fun _ => rfl)
    · obtain rfl := Except.ok.inj opened
      exact h.of_keeps (keeps_openFlags ..)
  case h_9 =>
    obtain rfl := Except.ok.inj opened
    exact h.of_keeps ⟨rfl, fun name => by
      simp [uses, openCapture, openGroup, Ast.usesOfAll, Frame.usesOfAll, Frame.uses,
        GroupKind.uses]⟩
  all_goals cases opened

theorem Named.step (h : p.Named) (read : p.step c cs = .ok next) : next.Named := by
  unfold Parser.step at read
  split at read
  · exact h.readGroup read
  · exact h.of_keeps (keeps_closeGroup read)
  · obtain rfl := Except.ok.inj read
    exact h.of_keeps (keeps_endBranch _)
  · obtain ⟨⟨part, r⟩, bracketed, rfl⟩ := map_eq_ok.1 read
    exact h.of_keeps (keeps_push _ (bracket_uses bracketed))
  · exact h.of_keeps (keeps_repeatLast read)
  · exact h.of_keeps (keeps_repeatLast read)
  · exact h.of_keeps (keeps_repeatLast read)
  · exact h.of_keeps (keeps_readRepetition read)
  · obtain ⟨⟨atom, r⟩, _, rfl⟩ := map_eq_ok.1 read
    exact h.of_keeps (keeps_push _ fun _ => rfl)
  all_goals
    obtain rfl := Except.ok.inj read
    exact h.of_keeps (keeps_push _ fun _ => rfl)

end Parser

/-- No two groups of a tree have the same name, and the names have no other characters than names
may have. -/
structure Ast.Named (tree : Ast) : Prop where
  once : ∀ name, tree.uses name ≤ 1
  chars : ∀ name, 0 < tree.uses name → ∀ c ∈ name.toList, ∃ first,
    isNameChar first c = true

theorem Parser.Named.parseFrom {p : Parser} {tree : Ast} (h : p.Named)
    (read : parseFrom p = .ok tree) : tree.Named := by
  fun_induction Regex.parseFrom p with
  | case1 p _ ended done =>
    obtain rfl := Except.ok.inj read
    have covered : ∀ name, ended.uses name ≤ p.names.count name := fun name => by
      have finished := Parser.finish_uses (p := p) name
      have := h.covers name
      simp [done] at finished
      omega
    refine ⟨fun name => (covered name).trans (List.nodup_iff_count_le_one.1 h.once name),
      fun name used => ?_⟩
    exact h.chars name (List.count_pos_iff.1 (used.trans_le (covered name)))
  | case2 | case3 | case5 => cases read
  | case4 p c cs _ next step shorter ih =>
    refine ih (Named.step ?_ step) read
    exact ⟨h.once, h.chars, h.covers⟩

theorem named_parse {pattern : String} {tree : Ast} (h : parse pattern = .ok tree) :
    tree.Named := by
  obtain ⟨read, parsed, h⟩ := bind_eq_ok.1 h
  split at h
  · cases h
  · obtain rfl := Except.ok.inj h
    refine Parser.Named.parseFrom ⟨List.nodup_nil, List.forall_mem_nil _, fun name => ?_⟩ parsed
    exact Nat.zero_le _

/-! ## Flags in force -/

theorem groups_mkRepetition (least : Nat) (most : Option Nat) (greedy : Bool) (e : Expr) :
    (Expr.mkRepetition least most greedy e).groups.Sublist e.groups := by
  unfold Expr.mkRepetition
  split
  split
  · exact List.nil_sublist _
  · split <;> exact List.Sublist.refl _

theorem groups_literal {m : Modes} {lit : Literal} {e : Expr} (h : m.literal lit = .ok e) :
    e.groups = [] := by
  unfold Modes.literal at h
  dsimp only at h
  repeat' split at h
  all_goals cases h <;> rfl

theorem groups_dot {m : Modes} {e : Expr} (h : m.dot = .ok e) : e.groups = [] := by
  unfold Modes.dot at h
  repeat' split at h
  all_goals cases h <;> rfl

theorem groups_atom {m : Modes} {a : Atom} {e : Expr} (h : m.atom a = .ok e) : e.groups = [] := by
  cases a with
  | literal lit => exact groups_literal h
  | dot => exact groups_dot h
  | assertion kind =>
    obtain rfl := Except.ok.inj h
    rfl
  | short kind negated =>
    obtain ⟨_, _, rfl⟩ := map_eq_ok.1 h
    rfl
  | property query negated =>
    obtain ⟨_, _, rfl⟩ := map_eq_ok.1 h
    rfl

/-- How many groups of a list have a name. -/
def countNamed (name : String) (groups : List (Nat × Option String)) : Nat :=
  (groups.filterMap (·.2)).count name

theorem countNamed_append (name : String) (groups more : List (Nat × Option String)) :
    countNamed name (groups ++ more) = countNamed name groups + countNamed name more := by
  rw [countNamed, List.filterMap_append, List.count_append, countNamed, countNamed]

mutual

/-- The flags in force may drop groups, but they never make one. -/
theorem countNamed_ofTree {m after : Modes} {tree : Ast} {e : Expr}
    (h : exprOfTree m tree = .ok (e, after)) (name : String) :
    countNamed name e.groups ≤ tree.uses name := by
  match tree with
  | .empty =>
    obtain ⟨rfl, _⟩ := Prod.mk.inj (Except.ok.inj h)
    exact Nat.zero_le _
  | .flags change =>
    obtain ⟨rfl, _⟩ := Prod.mk.inj (Except.ok.inj h)
    exact Nat.zero_le _
  | .atom a =>
    obtain ⟨e, made, same⟩ := map_eq_ok.1 h
    obtain ⟨rfl, _⟩ := Prod.mk.inj same
    rw [groups_atom made]
    exact Nat.zero_le _
  | .bracketed negated set =>
    obtain ⟨_, _, h⟩ := bind_eq_ok.1 h
    obtain ⟨_, _, h⟩ := bind_eq_ok.1 h
    obtain ⟨rfl, _⟩ := Prod.mk.inj (Except.ok.inj h)
    exact Nat.zero_le _
  | .repetition count body =>
    obtain ⟨⟨e, m'⟩, made, h⟩ := bind_eq_ok.1 h
    obtain ⟨rfl, _⟩ := Prod.mk.inj (Except.ok.inj h)
    refine le_trans ?_ (countNamed_ofTree made name)
    exact ((groups_mkRepetition ..).filterMap _).count_le name
  | .group (.capture index given) body =>
    obtain ⟨⟨e, m'⟩, made, h⟩ := bind_eq_ok.1 h
    obtain ⟨rfl, _⟩ := Prod.mk.inj (Except.ok.inj h)
    have inner := countNamed_ofTree made name
    rw [Expr.groups, Ast.uses, GroupKind.uses]
    cases given with
    | none => simpa [countNamed] using inner
    | some other =>
      have opened : countNamed name ((index, some other) :: e.groups) =
          countNamed name e.groups + if other = name then 1 else 0 := by
        simp [countNamed, List.count_cons]
      simp only [opened, Option.some.injEq]
      omega
  | .group (.flags change) body =>
    obtain ⟨⟨e, m'⟩, made, h⟩ := bind_eq_ok.1 h
    obtain ⟨rfl, _⟩ := Prod.mk.inj (Except.ok.inj h)
    rw [Ast.uses, GroupKind.uses, Nat.zero_add]
    exact countNamed_ofTree made name
  | .alternation branches =>
    obtain ⟨⟨es, m'⟩, made, h⟩ := bind_eq_ok.1 h
    obtain ⟨rfl, _⟩ := Prod.mk.inj (Except.ok.inj h)
    exact countNamed_ofTrees made name
  | .concat parts =>
    obtain ⟨⟨es, m'⟩, made, h⟩ := bind_eq_ok.1 h
    obtain ⟨rfl, _⟩ := Prod.mk.inj (Except.ok.inj h)
    exact countNamed_ofTrees made name

theorem countNamed_ofTrees {m after : Modes} {trees : List Ast} {es : List Expr}
    (h : exprsOfTrees m trees = .ok (es, after)) (name : String) :
    countNamed name (Expr.groupsOfAll es) ≤ Ast.usesOfAll name trees := by
  match trees with
  | [] =>
    obtain ⟨rfl, _⟩ := Prod.mk.inj (Except.ok.inj h)
    exact Nat.zero_le _
  | tree :: trees =>
    obtain ⟨⟨e, m'⟩, made, h⟩ := bind_eq_ok.1 h
    obtain ⟨⟨es, m''⟩, others, h⟩ := bind_eq_ok.1 h
    obtain ⟨rfl, _⟩ := Prod.mk.inj (Except.ok.inj h)
    rw [Expr.groupsOfAll, countNamed_append, Ast.usesOfAll]
    exact Nat.add_le_add (countNamed_ofTree made name) (countNamed_ofTrees others name)

end

/-! ## Patterns -/

/-- No character of which placeholders are made may stand in a name. -/
theorem not_isNameChar {c : Char} (mark : c.toNat ∈ Unicode.placeholderMarks) (first : Bool) :
    isNameChar first c = false := by
  have letters := Unicode.not_alphanumeric mark
  have unmarked : ∀ d ∈ ['_', '.', '[', ']'], d.toNat ∉ Unicode.placeholderMarks := by
    simp [Unicode.placeholderMarks]
  have others : ∀ d ∈ ['_', '.', '[', ']'], c ≠ d := fun d present same =>
    unmarked d present (same ▸ mark)
  simp at others
  cases first <;> simp [isNameChar, letters, others]

namespace Pattern

variable {source : String} {p : Pattern}

theorem of_compile_eq_ok (h : compile source = .ok p) :
    p.source = source ∧ ∃ tree e after, parse source = .ok tree ∧
    exprOfTree {} tree = .ok (e, after) ∧
      p.groupNames = e.groupNames := by
  obtain ⟨tree, parsed, h⟩ := bind_eq_ok.1 h
  obtain ⟨expr, made, h⟩ := bind_eq_ok.1 h
  obtain ⟨⟨e, after⟩, applied, rfl⟩ := map_eq_ok.1 (mapError_eq_ok.1 made)
  simp only at h
  split at h
  · cases h
  · obtain rfl := Except.ok.inj h
    refine ⟨rfl, tree, e, after, mapError_eq_ok.1 parsed, applied, ?_⟩
    rw [groupNames, List.map_filterMap, Expr.groupNames]
    congr 1
    funext ⟨index, name⟩
    cases name <;> rfl

theorem map_fst_captures {text : String} {captures : List Capture}
    (h : p.captures? text = some captures) : captures.map (·.1) = p.groupNames := by
  obtain ⟨slots, _, rfl⟩ := Option.map_eq_some_iff.1 h
  rw [List.map_map, groupNames]
  rfl

theorem nodup_groupNames (h : compile source = .ok p) : p.groupNames.Nodup := by
  obtain ⟨_, tree, e, after, parsed, made, names⟩ := of_compile_eq_ok h
  refine names ▸ List.nodup_iff_count_le_one.2 fun name => ?_
  exact (countNamed_ofTree made name).trans ((named_parse parsed).once name)

/-- No name of a group can hold a part of a placeholder. -/
theorem isPlain_groupNames (h : compile source = .ok p) {name : String}
    (present : name ∈ p.groupNames) : Template.IsPlain name := by
  obtain ⟨_, tree, e, after, parsed, made, names⟩ := of_compile_eq_ok h
  have held : name ∈ e.groupNames := names ▸ present
  have used : 0 < tree.uses name :=
    (List.count_pos_iff.2 held).trans_le (countNamed_ofTree made name)
  have free : ∀ c : Char, c.toNat ∈ Unicode.placeholderMarks → c ∉ name.toList := by
    intro c mark inside
    obtain ⟨first, allowed⟩ := (named_parse parsed).chars name used c inside
    rw [not_isNameChar mark] at allowed
    cases allowed
  exact ⟨free _ (by decide), free _ (by decide), free _ (by decide)⟩

end Pattern

end TreeFetch.Regex
