import TreeFetch.Destination
import TreeFetch.Proofs.PathText

/-!
# Destinations below a base

A destination is a base with the pieces of a path text joined to it, one after the other. A joined
text that begins at the root would take the place of the base. No piece does, and a piece that
climbs is refused with the whole path. So a destination always lies strictly below its base, and it
tells the pieces that lead there.

Results:
1. `PathText.components_pushAll`: the components of a path below a base.
2. `destination_eq_ok` and `destination_eq_error`: what has a destination.
3. `destination_contained`: where a destination lies, and which paths share it.
-/

namespace TreeFetch

namespace PathText

variable {base path part name : String} {names : List String}

/-- What stands between the slashes of a text. -/
def pieces (path : String) : List String := (path.toList.splitOn '/').map String.ofList

/-- The pieces of a text that say where to go. -/
def kept (path : String) : List String :=
  (pieces path).filter fun piece => piece ≠ "" ∧ piece ≠ "."

/-- A path text with another one joined to it. One that begins at the root takes the place of the
first. -/
def join (base part : String) : String := if part.front = '/' then part else push base part

/-- The steps in which a path text leads somewhere: the root, if it begins there, and all parts that
lead on. A part that stays in its place is a step only at the very beginning. -/
def components (path : String) : List String :=
  (if path.front = '/' then ["/"] else if (parts path).head? = some "." then ["."] else []) ++
    (parts path).filter fun part => !isIdle part

theorem parts_eq_pieces (path : String) : parts path = pieces path := by
  rw [parts, pieces, splitSlash_eq]

theorem kept_eq (path : String) : kept path = (parts path).filter fun part => !isIdle part := by
  rw [kept, parts_eq_pieces]
  refine List.filter_congr fun part _ => ?_
  simp [isIdle]

theorem segments?_eq_kept {segments : List String} :
    segments? path = some segments ↔ ".." ∉ pieces path ∧ kept path = segments := by
  rw [segments?_eq_some, kept_eq, parts_eq_pieces]
  refine and_congr_left fun _ => ?_
  simp only [climbs, decide_eq_false_iff_not]
  exact ⟨fun falls up => falls _ up rfl, fun absent part present up => absent (up ▸ present)⟩

/-! ## Joining names -/

theorem join_eq_push (h : IsName part) (base : String) : join base part = push base part :=
  if_neg h.front_ne

theorem foldl_join (h : ∀ s ∈ names, IsName s) (base : String) :
    names.foldl join base = pushAll base names := by
  induction names generalizing base with
  | nil => rfl
  | cons name names ih =>
    obtain ⟨here, later⟩ := List.forall_mem_cons.1 h
    rw [List.foldl_cons, join_eq_push here, ih later]
    rfl

theorem front_push (h : IsName name) (base : String) :
    (push base name).front = '/' ↔ base.front = '/' := by
  by_cases filled : base = ""
  · subst filled
    have named : push "" name = name := by simp [push]
    rw [named]
    exact iff_of_false h.front_ne (by decide)
  · rw [push]
    split
    · rw [front_append filled]
    · rw [String.append_assoc, front_append filled]

theorem head?_push (h : IsName name) (base : String) :
    (parts (push base name)).head? = some "." ↔ (parts base).head? = some "." := by
  obtain ⟨blank, idle, cut⟩ := parts_eq_stem base
  rw [parts_push base h, cut]
  cases whole : stem base with
  | nil =>
    have moves : name ≠ "." := by
      rintro rfl
      exact absurd h.stays (by decide)
    rcases idle with rfl | rfl
    · exact absurd (cut.trans (by simp [whole])) (parts_ne_nil base)
    · simpa using moves
  | cons part rest => rfl

theorem components_push (h : IsName name) (base : String) :
    components (push base name) = components base ++ [name] := by
  obtain ⟨blank, idle, cut⟩ := parts_eq_stem base
  have nothing : blank.filter (fun part => !isIdle part) = [] := by
    rcases idle with rfl | rfl
    · rfl
    · decide
  have moves : (parts (push base name)).filter (fun part => !isIdle part) =
      (parts base).filter (fun part => !isIdle part) ++ [name] := by
    rw [parts_push base h, cut, List.filter_append, List.filter_append, nothing, List.append_nil,
      List.filter_singleton, h.stays]
    rfl
  simp only [components, front_push h, head?_push h, moves, List.append_assoc]

theorem components_pushAll (h : ∀ s ∈ names, IsName s) (base : String) :
    components (pushAll base names) = components base ++ names := by
  induction names generalizing base with
  | nil => rw [pushAll, List.foldl_nil, List.append_nil]
  | cons name names ih =>
    obtain ⟨here, later⟩ := List.forall_mem_cons.1 h
    have first : pushAll base (name :: names) = pushAll (push base name) names := rfl
    rw [first, ih later, components_push here, List.append_assoc, List.singleton_append]

end PathText

open PathText

variable {base text path : String}

theorem destination_eq_ok :
    destination base text = .ok path ↔
      ∃ names, segments? text = some names ∧ names ≠ [] ∧ pushAll base names = path := by
  unfold destination
  split
  · next climbs => simp [climbs]
  · next idle => simp [idle]
  · next names some_ cut => simpa [cut] using fun _ => some_

theorem back_of_destination (aims : destination base text = .ok path) : path.back ≠ '/' := by
  obtain ⟨names, cut, some_, rfl⟩ := destination_eq_ok.1 aims
  exact back_pushAll base (isName_of_segments? cut) some_

/-- A path has a destination exactly if it neither climbs nor stays in its place. -/
theorem destination_eq_ok_iff_kept :
    destination base text = .ok path ↔
      ".." ∉ pieces text ∧ kept text ≠ [] ∧ (kept text).foldl join base = path := by
  rw [destination_eq_ok]
  constructor
  · rintro ⟨names, cut, some_, rfl⟩
    obtain ⟨falls, rfl⟩ := segments?_eq_kept.1 cut
    exact ⟨falls, some_, foldl_join (isName_of_segments? cut) base⟩
  · rintro ⟨falls, some_, rfl⟩
    have cut := segments?_eq_kept.2 ⟨falls, rfl⟩
    exact ⟨_, cut, some_, (foldl_join (isName_of_segments? cut) base).symm⟩

theorem destination_eq_error {e : Error} :
    destination base text = .error e ↔ e = .unsafePath text ∧
    (".." ∈ pieces text ∨ kept text = []) := by
  by_cases refused : ".." ∈ pieces text ∨ kept text = []
  · have unsafe_ : destination base text = .error (.unsafePath text) := by
      unfold destination
      split
      · rfl
      · rfl
      · next names some_ cut =>
        obtain ⟨falls, rfl⟩ := segments?_eq_kept.1 cut
        exact absurd refused (not_or.2 ⟨falls, some_⟩)
    rw [unsafe_, Except.error.injEq, and_iff_left refused, eq_comm]
  · obtain ⟨falls, some_⟩ := not_or.1 refused
    simp [destination_eq_ok_iff_kept.2 ⟨falls, some_, rfl⟩, refused]

theorem kept_eq_nil : kept text = [] ↔ ∀ piece ∈ pieces text, piece = "" ∨ piece = "." := by
  simp only [kept, List.filter_eq_nil_iff, decide_eq_true_eq, not_and_or, not_not]

/-- What is kept of a path that does not climb are names, and they alone lead to the same place. -/
theorem segments?_kept (falls : ".." ∉ pieces text) :
    segments? ("/".intercalate (kept text)) = some (kept text) :=
  segments?_ofSegments (isName_of_segments? (segments?_eq_kept.2 ⟨falls, rfl⟩))

/-- A path lies below a base in the given steps, of which there is at least one: they are joined to
the base one after the other, none of them stays, climbs or goes to the root, and the path leads
nowhere else. -/
structure LiesBelow (base : String) (steps : List String) (path : String) : Prop where
  joined : path = steps.foldl join base
  goesOn : components path = components base ++ steps
  strictly : steps ≠ []
  named : ∀ step ∈ steps, step ≠ "" ∧ step ≠ "." ∧ step ≠ ".." ∧ '/' ∉ step.toList

theorem liesBelow_of_destination (h : destination base text = .ok path) :
    LiesBelow base (kept text) path := by
  obtain ⟨falls, some_, rfl⟩ := destination_eq_ok_iff_kept.1 h
  have named := isName_of_segments? (segments?_eq_kept.2 ⟨falls, rfl⟩)
  refine ⟨rfl, ?_, some_, fun step present => ?_⟩
  · rw [foldl_join named, components_pushAll named]
  · have here := named step present
    have stays := here.stays
    have up := here.falls
    simp only [isIdle, Bool.or_eq_false_iff, decide_eq_false_iff_not] at stays
    simp only [climbs, decide_eq_false_iff_not] at up
    exact ⟨stays.1, stays.2, up, here.slashFree⟩

/-- A path has a destination exactly if no piece of it climbs and some piece says where to go. Then
these pieces are the steps from the base to the destination. Two paths share a destination below one
base exactly if they have the same steps, and the steps of a path lead to its destination by
themselves. -/
theorem destination_contained (base text : String) :
    (destination base text = .error (.unsafePath text) ↔
      ".." ∈ pieces text ∨ ∀ piece ∈ pieces text, piece = "" ∨ piece = ".") ∧
    (¬(".." ∈ pieces text ∨ ∀ piece ∈ pieces text, piece = "" ∨ piece = ".") →
      ∃ path, destination base text = .ok path ∧ LiesBelow base (kept text) path ∧
        destination base ("/".intercalate (kept text)) = .ok path ∧
        ∀ other path', destination base other = .ok path' →
          (path = path' ↔ kept text = kept other) ∧
          (components path = components path' ↔ kept text = kept other)) := by
  rw [← kept_eq_nil]
  refine ⟨by simp [destination_eq_error], fun allowed => ?_⟩
  obtain ⟨falls, some_⟩ := not_or.1 allowed
  have made : destination base text = .ok ((kept text).foldl join base) :=
    destination_eq_ok_iff_kept.2 ⟨falls, some_, rfl⟩
  have below := liesBelow_of_destination made
  obtain ⟨names, cut, _, same⟩ := destination_eq_ok.1 made
  refine ⟨_, made, below, ?_, fun other path' made' => ?_⟩
  · obtain ⟨_, rfl⟩ := segments?_eq_kept.1 cut
    exact destination_eq_ok.2 ⟨_, segments?_kept falls, some_, same⟩
  · have below' := liesBelow_of_destination made'
    rw [below.goesOn, below'.goesOn, List.append_cancel_left_eq]
    refine ⟨⟨fun alike => ?_, fun alike => by rw [below'.joined, alike]⟩, Iff.rfl⟩
    have steps := below.goesOn
    rw [alike, below'.goesOn] at steps
    exact (List.append_cancel_left steps).symm

/-- Slashes in excess and a dot are no steps, and a path that climbs is refused also where it comes
back. -/
theorem destination_contained_slashes :
    LiesBelow "out/" ["a", "b"] "out/a/b" ∧ destination "out/" "/a//./b/" = .ok "out/a/b" ∧
      destination "out/" "a/b" = .ok "out/a/b" ∧
      destination "out/" "a/../b" = .error (.unsafePath "a/../b") := by
  have cut : segments? "/a//./b/" = some ["a", "b"] := by decide
  obtain ⟨falls, steps⟩ := segments?_eq_kept.1 cut
  have up : ".." ∈ pieces "a/../b" := by rw [← parts_eq_pieces]; decide
  have leads : ¬∀ piece ∈ pieces "/a//./b/", piece = "" ∨ piece = "." := by
    simp [← kept_eq_nil, steps]
  obtain ⟨path, made, below, again, _⟩ :=
    (destination_contained "out/" "/a//./b/").2 (not_or.2 ⟨falls, leads⟩)
  rw [steps] at below again
  have named := isName_of_segments? cut
  have joined := pushAll_eq_ofSegments "out/" named below.strictly
  rw [← foldl_join named, ← below.joined] at joined
  obtain rfl : path = "out/a/b" := joined.trans (by decide)
  exact ⟨below, made, again, (destination_contained "out/" "a/../b").1.2 (.inl up)⟩

end TreeFetch
