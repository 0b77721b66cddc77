import TreeFetch.Fetch

/-!
# What a plan says of each file

A transformation fails for two reasons only, and both concern nothing but the path at hand. So a
plan has an entry for every file, which depends on this file alone and never leaves it out: the file
is saved under the transformed path, or else under its own. Files can therefore be planned in parts.

Results:
1. `Transformer.refuses_of_transform`: why a transformation fails.
2. `decides_ofFile`: how the path of a file is decided.
3. `plan_entries`: the entries of a plan, however the files are split.
4. `errors_ofPlan`: planning counts no error.
-/

namespace TreeFetch

open Storage (File)

/-! ## Why a transformation fails -/

/-- Why a path is refused: the pattern does not match it, or the result still looks like a
placeholder somewhere. -/
inductive Transformer.Refuses (t : Transformer) (path : String) : Error → Prop
  | unmatched (misses : t.pattern.captures? path = none) :
      Refuses t path (.noMatch t.pattern.source path)
  | unresolved {captures : List Regex.Capture} (matched : t.pattern.captures? path = some captures)
      (open_ : Template.hasPlaceholder (Template.substitute (values captures) t.template) = true) :
      Refuses t path (.unresolvedPlaceholder (Template.substitute (values captures) t.template))

variable {transformer : Option Transformer} {t : Transformer} {f : File} {path : String} {e : Error}

theorem Transformer.refuses_of_transform (h : t.transform path = .error e) : t.Refuses path e := by
  unfold transform at h
  cases matched : t.pattern.captures? path with
  | none =>
    rw [matched] at h
    cases h
    exact .unmatched matched
  | some captures =>
    simp only [matched] at h
    split at h
    · next open_ =>
      cases h
      exact .unresolved matched open_
    · cases h

/-- A failed transformation concerns its own path only, whatever the path is. -/
theorem Transformer.Refuses.isPerItem (h : t.Refuses path e) : e.isPerItem = true := by
  cases h with
  | unmatched _ => rfl
  | unresolved _ _ => rfl

/-! ## One file -/

/-- The wording of why the path of a file could not be transformed. -/
def Planned.reason? (p : Planned) : Option String :=
  match p.outcome with
  | .fallback e | .failed e => some e.message
  | .unchanged | .transformed => none

/-- How the path of a file is decided. -/
inductive Decides (transformer : Option Transformer) (f : File) : Planned → Prop
  | unchanged (without : transformer = none) : Decides transformer f ⟨f, f.path, .unchanged⟩
  | transformed {t : Transformer} {path : String} (given : transformer = some t)
      (done : t.transform f.path = .ok path) : Decides transformer f ⟨f, path, .transformed⟩
  | fellBack {t : Transformer} {e : Error} (given : transformer = some t)
      (fails : t.transform f.path = .error e) (own : e.isPerItem = true) :
      Decides transformer f ⟨f, f.path, .fallback e⟩

theorem decides_ofFile (transformer : Option Transformer) (f : File) :
    Decides transformer f (Planned.ofFile transformer f) := by
  cases transformer with
  | none => exact .unchanged rfl
  | some t =>
    show Decides (some t) f (Planned.ofResult f (t.transform f.path))
    cases answer : t.transform f.path with
    | ok path => exact .transformed rfl answer
    | error e =>
      have own := (Transformer.refuses_of_transform answer).isPerItem
      have kept : Planned.ofResult f (.error e) = ⟨f, f.path, .fallback e⟩ := by
        rw [Planned.ofResult, if_pos own]
      rw [kept]
      exact .fellBack rfl answer own

/-- What a plan holds of a file. With a transformer, the file is transformed exactly if its path can
be, and otherwise it falls back on its own path, for the reason that the transformation gives. It is
never left out. -/
structure IsEntry (transformer : Option Transformer) (f : File) (p : Planned) : Prop where
  file : p.file = f
  unchanged : transformer = none → p.destination = f.path ∧ p.outcome = .unchanged
  transformed : ∀ t, transformer = some t → ∀ path,
    p.destination = path ∧ p.outcome = .transformed ↔ t.transform f.path = .ok path
  fellBack : ∀ t, transformer = some t → ∀ e, t.transform f.path = .error e →
    e.isPerItem = true ∧ p.destination = f.path ∧ p.outcome = .fallback e ∧
      p.reason? = some e.message
  kept : ∀ e, p.outcome ≠ .failed e

theorem Decides.isEntry {p : Planned} (h : Decides transformer f p) : IsEntry transformer f p := by
  cases h with
  | unchanged without =>
    subst without
    exact ⟨rfl, fun _ => ⟨rfl, rfl⟩, nofun, nofun, nofun⟩
  | @transformed t path given done =>
    subst given
    refine ⟨rfl, nofun, fun t' same other => ?_, fun t' same e fails => ?_, nofun⟩
    · obtain rfl := Option.some.inj same
      simp [done]
    · obtain rfl := Option.some.inj same
      cases done.symm.trans fails
  | @fellBack t e given fails own =>
    subst given
    refine ⟨rfl, nofun, fun t' same other => ?_, fun t' same e' fails' => ?_, nofun⟩
    · obtain rfl := Option.some.inj same
      simp [fails]
    · obtain rfl := Option.some.inj same
      obtain rfl := Except.error.inj (fails.symm.trans fails')
      exact ⟨own, rfl, rfl, rfl⟩

/-! ## All files -/

/-- A plan has an entry for every file, in the order of the files, and the entry depends on this
file alone. So it makes no difference into which parts the files are split, if the plans of the
parts are put together in order. -/
theorem plan_entries (transformer : Option Transformer) :
    ∃ entry : File → Planned, (∀ f, IsEntry transformer f (entry f)) ∧
      (∀ files, plan transformer files = files.map entry) ∧
      ∀ parts : List (List File), (parts.map (plan transformer)).flatten =
        parts.flatten.map entry := by
  refine ⟨Planned.ofFile transformer, fun f =>
    (decides_ofFile transformer f).isEntry, fun _ => rfl,
    fun parts => ?_⟩
  show (parts.map (List.map (Planned.ofFile transformer))).flatten = _
  exact List.map_flatten.symm

/-- A path that the pattern does not match is kept, and the next one is transformed. -/
example :
    let pattern : Regex.Pattern :=
      ⟨"(?P<x>a)", [(1, "x")], 1, ⟨#[.accept, .save 3 0, .char 'a' 1, .save 2 2], 3⟩⟩
    plan (some ⟨pattern, "$\x7bx\x7db"⟩) [⟨"c", "c", "c", 2⟩, ⟨"a", "a", "a", 1⟩] =
      [⟨⟨"c", "c", "c", 2⟩, "c", .fallback (.noMatch "(?P<x>a)" "c")⟩,
        ⟨⟨"a", "a", "a", 1⟩, "ab", .transformed⟩] := by
  cbv

theorem errors_ofPlan (dryRun : Bool) (transformer : Option Transformer) (files : List File) :
    (Report.ofPlan dryRun (plan transformer files)).errors = 0 := by
  show (plan transformer files).countP _ = 0
  rw [List.countP_eq_zero]
  intro p present
  obtain ⟨f, _, rfl⟩ := List.mem_map.1 present
  have kept := (decides_ofFile transformer f).isEntry.kept
  cases outcome : (Planned.ofFile transformer f).outcome with
  | failed e => exact absurd outcome (kept e)
  | unchanged | transformed | fallback => simp

end TreeFetch
