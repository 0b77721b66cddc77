import Mathlib.Data.List.Basic
import Mathlib.Data.List.Induction
import TreeFetch.PathText

/-!
# Cutting and joining path texts

Cutting a text at its slashes and joining the parts are inverse to each other. `stem` are the parts
of a text to which `push` adds one, so that the parts of `pushAll base segments` are those of `base`
followed by the segments. The folders above a path are beginnings of its parts; `along` lists them,
the deepest one first.
-/

namespace TreeFetch.PathText

/-! ## Parts -/

theorem splitSlash_eq (text : List Char) : splitSlash text = text.splitOn '/' := by
  induction text with
  | nil => rfl
  | cons c rest ih =>
    rw [splitSlash, List.splitOn_cons_eq_if_modifyHead, ih]
    simp only [beq_iff_eq]
    split
    · rfl
    · cases split : rest.splitOn '/' with
      | nil => exact absurd split (List.splitOn_ne_nil _ _)
      | cons part parts => rfl

theorem slashFree_of_mem_splitSlash {text part : List Char} (h : part ∈ splitSlash text) :
    '/' ∉ part := by
  induction text generalizing part with
  | nil =>
    obtain rfl : part = [] := List.mem_singleton.1 h
    exact List.not_mem_nil
  | cons c rest ih =>
    rw [splitSlash] at h
    split at h
    · rcases List.mem_cons.1 h with rfl | later
      · exact List.not_mem_nil
      · exact ih later
    · next other =>
      split at h
      · obtain rfl : part = [c] := List.mem_singleton.1 h
        simpa using Ne.symm other
      · next first parts cut =>
        rw [cut] at ih
        rcases List.mem_cons.1 h with rfl | later
        · simpa [Ne.symm other] using ih (List.mem_cons_self ..)
        · exact ih (List.mem_cons_of_mem _ later)

theorem parts_ne_nil (path : String) : parts path ≠ [] := by
  simp [parts, splitSlash_eq, List.splitOn_ne_nil]

theorem slashFree_of_mem_parts {path part : String} (h : part ∈ parts path) :
    '/' ∉ part.toList := by
  obtain ⟨chars, present, rfl⟩ := List.mem_map.1 h
  simpa using slashFree_of_mem_splitSlash present

theorem ofSegments_parts (path : String) : ofSegments (parts path) = path := by
  rw [← String.toList_inj, ofSegments, String.toList_intercalate, parts, List.map_map]
  have same : String.toList ∘ String.ofList = id := by
    funext chars
    simp
  rw [same, List.map_id, splitSlash_eq]
  exact List.intercalate_splitOn '/'

theorem parts_ofSegments {segments : List String} (some_ : segments ≠ [])
    (free : ∀ s ∈ segments, '/' ∉ s.toList) : parts (ofSegments segments) = segments := by
  have free' : ∀ chars ∈ segments.map String.toList, '/' ∉ chars := by simpa using free
  have cut := List.splitOn_intercalate '/' free' (by simpa using some_)
  rw [parts, ofSegments, String.toList_intercalate, splitSlash_eq]
  change List.map String.ofList (List.splitOn '/' (List.intercalate ['/'] _)) = _
  rw [cut, List.map_map]
  have same : String.ofList ∘ String.toList = id := by
    funext text
    simp
  rw [same, List.map_id]

theorem ofSegments_append {first rest : List String} (hf : first ≠ []) (hr : rest ≠ []) :
    ofSegments (first ++ rest) = ofSegments first ++ "/" ++ ofSegments rest :=
  String.intercalate_append_of_ne_nil hf hr

theorem parts_append_slash (path rest : String) :
    parts (path ++ "/" ++ rest) = parts path ++ parts rest := by
  simp [parts, splitSlash_eq, List.splitOn_append_cons_self]

/-! ## Names -/

/-- A part that names an entry of a folder. -/
structure IsName (part : String) : Prop where
  slashFree : '/' ∉ part.toList
  stays : isIdle part = false
  falls : climbs part = false

namespace IsName

theorem ne_empty {part : String} (h : IsName part) : part ≠ "" := by
  rintro rfl
  exact absurd h.stays (by decide)

theorem parts_eq {part : String} (h : IsName part) : parts part = [part] := by
  have cut := parts_ofSegments (List.cons_ne_nil part [])
    (by simpa using h.slashFree)
  simpa [ofSegments] using cut

theorem front_ne {part : String} (h : IsName part) : part.front ≠ '/' := by
  have free := h.slashFree
  rw [String.front_eq, String.front?_eq]
  cases chars : part.toList with
  | nil => decide
  | cons c rest =>
    rw [chars] at free
    simp only [List.head?_cons, Option.getD_some]
    exact fun same => free (same ▸ List.mem_cons_self ..)

end IsName

theorem segments?_eq_some {path : String} {segments : List String} :
    segments? path = some segments ↔
      (∀ part ∈ parts path, climbs part = false) ∧
        (parts path).filter (fun part => !isIdle part) = segments := by
  simp only [segments?]
  split
  · next climbing =>
    obtain ⟨part, present, up⟩ := List.any_eq_true.1 climbing
    simp only [reduceCtorEq, false_iff, not_and]
    intro falls
    simp [falls part present] at up
  · next falling =>
    simp only [List.any_eq_true, not_exists, not_and, Bool.not_eq_true] at falling
    simp only [Option.some.injEq, iff_and_self]
    exact fun _ => falling

theorem isName_of_segments? {path : String} {segments : List String}
    (h : segments? path = some segments) : ∀ s ∈ segments, IsName s := by
  obtain ⟨falls, rfl⟩ := segments?_eq_some.1 h
  intro s present
  obtain ⟨part, kept⟩ := List.mem_filter.1 present
  exact ⟨slashFree_of_mem_parts part, by simpa using kept, falls s part⟩

theorem segments?_ofSegments {names : List String} (h : ∀ s ∈ names, IsName s) :
    segments? (ofSegments names) = some names := by
  cases names with
  | nil => decide
  | cons first rest =>
    rw [segments?_eq_some, parts_ofSegments (List.cons_ne_nil _ _) fun s hs => (h s hs).slashFree]
    refine ⟨fun s hs => (h s hs).falls, List.filter_eq_self.2 fun s hs => ?_⟩
    simp [(h s hs).stays]

theorem ofSegments_inj {names others : List String} (named : ∀ n ∈ names, IsName n)
    (named' : ∀ n ∈ others, IsName n) :
    ofSegments names = ofSegments others ↔ names = others := by
  refine ⟨fun same => ?_, fun same => by rw [same]⟩
  have cut := segments?_ofSegments named
  rw [same, segments?_ofSegments named', Option.some.injEq] at cut
  exact cut.symm

theorem ofSegments_ne_empty_of_isName {names : List String} (named : ∀ n ∈ names, IsName n)
    (some_ : names ≠ []) :
    ofSegments names ≠ "" := by
  intro blank
  have cut := segments?_ofSegments named
  rw [blank] at cut
  exact some_ (Option.some.inj cut).symm

/-! ## Pushing -/

/-- The parts of a text to which another part is added: all of them, but for an empty one at the
end. -/
def stem (base : String) : List String :=
  if (parts base).getLast? = some "" then (parts base).dropLast else parts base

theorem parts_eq_stem_of_ne {base : String} (h : (parts base).getLast? ≠ some "") :
    parts base = stem base := by
  rw [stem, if_neg h]

theorem parts_eq_stem_concat {base : String} (h : (parts base).getLast? = some "") :
    parts base = stem base ++ [""] := by
  rw [stem, if_pos h]
  exact (List.dropLast_append_getLast? "" (by simpa using h)).symm

/-- The parts of a text are its stem, or its stem and an empty part. -/
theorem parts_eq_stem (base : String) : ∃ blank, (blank = [] ∨ blank = [""]) ∧
    parts base = stem base ++ blank := by
  by_cases h : (parts base).getLast? = some ""
  · exact ⟨_, .inr rfl, parts_eq_stem_concat h⟩
  · exact ⟨_, .inl rfl, by simpa using parts_eq_stem_of_ne h⟩

@[simp] theorem stem_empty : stem "" = [] := by decide

theorem IsName.stem_eq {part : String} (h : IsName part) : stem part = [part] := by
  rw [← parts_eq_stem_of_ne, h.parts_eq]
  simpa [h.parts_eq] using h.ne_empty

/-- A text whose last part is empty is empty itself or ends with a slash. -/
theorem back_of_getLast?_parts {base : String} (h : (parts base).getLast? = some "") :
    base = "" ∨ base.back = '/' := by
  have joined := ofSegments_parts base
  rw [parts_eq_stem_concat h] at joined
  by_cases nothing : stem base = []
  · left
    rw [← joined, nothing]
    rfl
  · right
    rw [ofSegments_append nothing (List.cons_ne_nil _ _)] at joined
    rw [← joined, String.back_eq, String.back?_eq]
    simp [ofSegments]

theorem getLast?_parts_of_back {base : String} (h : base = "" ∨ base.back = '/') :
    (parts base).getLast? = some "" := by
  rcases h with rfl | slash
  · decide
  · rw [String.back_eq, String.back?_eq] at slash
    obtain ⟨chars, ended⟩ : ∃ chars, base.toList = chars ++ ['/'] := by
      cases last : base.toList.getLast? with
      | none => simp [last] at slash
      | some c =>
        obtain rfl : c = '/' := by simpa [last] using slash
        exact ⟨_, (List.dropLast_append_getLast? '/' (by simpa using last)).symm⟩
    have whole : base = String.ofList chars ++ "/" ++ "" := by
      rw [← String.toList_inj]
      simp [ended]
    rw [whole, parts_append_slash]
    simp [show parts "" = [""] by decide]

theorem parts_push (base : String) {name : String} (h : IsName name) :
    parts (push base name) = stem base ++ [name] := by
  rw [push]
  by_cases ends : base = "" ∨ base.back = '/'
  · have cut := parts_eq_stem_concat (getLast?_parts_of_back ends)
    rw [if_pos (by simpa using ends)]
    have joined := ofSegments_parts base
    rw [cut] at joined
    by_cases nothing : stem base = []
    · rw [nothing] at joined ⊢
      obtain rfl : base = "" := joined.symm
      simpa using h.parts_eq
    · rw [ofSegments_append nothing (List.cons_ne_nil _ _)] at joined
      have whole : base ++ name = ofSegments (stem base) ++ "/" ++ name := by
        conv_lhs => rw [← joined]
        simp [ofSegments]
      have free : ∀ s ∈ stem base, '/' ∉ s.toList := by
        intro s present
        have member : s ∈ parts base := cut ▸ List.mem_append_left _ present
        exact slashFree_of_mem_parts member
      rw [whole, parts_append_slash, parts_ofSegments nothing free, h.parts_eq]
  · have cut := parts_eq_stem_of_ne fun last => ends (back_of_getLast?_parts last)
    rw [if_neg (by simpa using ends), parts_append_slash, cut, h.parts_eq]

@[simp] theorem stem_push (base : String) {name : String} (h : IsName name) :
    stem (push base name) = stem base ++ [name] := by
  rw [← parts_eq_stem_of_ne, parts_push base h]
  simpa [parts_push base h] using h.ne_empty

theorem pushAll_concat (base : String) (names : List String) (name : String) :
    pushAll base (names ++ [name]) = push (pushAll base names) name := by
  simp [pushAll]

theorem stem_pushAll (base : String) {names : List String} (h : ∀ s ∈ names, IsName s) :
    stem (pushAll base names) = stem base ++ names := by
  induction names using List.reverseRecOn with
  | nil => simp [pushAll]
  | append_singleton names name ih =>
    rw [pushAll_concat, stem_push _ (h name (by simp)),
      ih fun s present => h s (List.mem_append_left _ present), List.append_assoc]

/-- The parts of a path below `base` are the stem of `base` and the names. -/
theorem parts_pushAll (base : String) {names : List String} (h : ∀ s ∈ names, IsName s)
    (some_ : names ≠ []) : parts (pushAll base names) = stem base ++ names := by
  obtain ⟨init, name, rfl⟩ := List.eq_nil_or_concat names |>.resolve_left some_
  rw [List.concat_eq_append] at h ⊢
  have init_names : ∀ s ∈ init, IsName s :=
    fun s present => h s (List.mem_append_left _ present)
  rw [pushAll_concat, parts_push _ (h name (by simp)), stem_pushAll base init_names,
    List.append_assoc]

theorem back_pushAll (base : String) {names : List String} (h : ∀ s ∈ names, IsName s)
    (some_ : names ≠ []) : (pushAll base names).back ≠ '/' := by
  intro slash
  have blank := getLast?_parts_of_back (.inr slash)
  rw [parts_pushAll base h some_, List.getLast?_append_of_ne_nil _ some_] at blank
  exact (h "" (List.mem_of_getLast? blank)).ne_empty rfl

theorem pushAll_eq_ofSegments (base : String) {names : List String} (h : ∀ s ∈ names, IsName s)
    (some_ : names ≠ []) : pushAll base names = ofSegments (stem base ++ names) := by
  rw [← parts_pushAll base h some_, ofSegments_parts]

theorem push_append (base text more : String) :
    push base (text ++ more) = push base text ++ more := by
  rw [push, push]
  split <;> simp only [String.append_assoc]

theorem push_ofSegments (base : String) {names : List String} (named : ∀ s ∈ names, IsName s)
    (some_ : names ≠ []) : push base (ofSegments names) = pushAll base names := by
  induction names using List.reverseRecOn with
  | nil => exact absurd rfl some_
  | append_singleton init name ih =>
    have above : ∀ s ∈ init, IsName s :=
      fun s present => named s (List.mem_append_left _ present)
    by_cases first : init = []
    · subst first
      rfl
    · have ends : ¬(pushAll base init = "" ∨ (pushAll base init).back = '/') := by
        intro slash
        have blank := getLast?_parts_of_back slash
        rw [parts_pushAll base above first, List.getLast?_append_of_ne_nil _ first] at blank
        exact (above "" (List.mem_of_getLast? blank)).ne_empty rfl
      have single : ofSegments [name] = name := rfl
      rw [ofSegments_append first (List.cons_ne_nil name []), single,
        String.append_assoc, push_append,
        ih above first, pushAll_concat, push, if_neg (by simpa using ends), String.append_assoc]

/-! ## The folders above -/

/-- A text consists of some of the first parts of a path, but not of all of them. -/
def IsAbove (path above : String) : Prop :=
  ∃ n, 0 < n ∧ n < (parts path).length ∧ above = ofSegments ((parts path).take n)

theorem IsAbove.parts_eq {path above : String} {n : Nat} (positive : 0 < n)
    (same : above = ofSegments ((parts path).take n)) : parts above = (parts path).take n := by
  rw [same]
  refine parts_ofSegments ?_ fun s present => slashFree_of_mem_parts (List.mem_of_mem_take present)
  simp only [ne_eq, List.take_eq_nil_iff, parts_ne_nil, or_false]
  omega

/-- The text of a folder above is followed by a slash and the rest of the path. -/
theorem IsAbove.split {path above : String} (h : IsAbove path above) :
    ∃ rest, path = above ++ "/" ++ rest := by
  obtain ⟨n, positive, short, rfl⟩ := h
  refine ⟨ofSegments ((parts path).drop n), ?_⟩
  rw [← ofSegments_append, List.take_append_drop, ofSegments_parts]
  · simp only [ne_eq, List.take_eq_nil_iff, parts_ne_nil, or_false]
    omega
  · simpa using short

theorem mem_beginnings {seen rest begun : List String} (h : begun ∈ beginnings seen rest) :
    ∃ n, 0 < n ∧ n ≤ rest.length ∧ begun = seen ++ rest.take n := by
  induction rest generalizing seen with
  | nil => simp [beginnings] at h
  | cons part rest ih =>
    have later : begun ∈ beginnings (seen ++ [part]) rest →
        ∃ n, 0 < n ∧ n ≤ (part :: rest).length ∧ begun = seen ++ (part :: rest).take n := by
      intro inside
      obtain ⟨n, positive, short, rfl⟩ := ih inside
      exact ⟨n + 1, by omega, by simpa using short, by simp⟩
    rw [beginnings] at h
    split at h
    · rcases List.mem_cons.1 h with rfl | inside
      · exact ⟨1, by omega, by simp, by simp⟩
      · exact later inside
    · exact later h

theorem beginnings_lengths (seen rest : List String) :
    (beginnings seen rest).Pairwise fun a b => a.length < b.length := by
  induction rest generalizing seen with
  | nil => exact List.Pairwise.nil
  | cons part rest ih =>
    rw [beginnings]
    split
    · refine List.pairwise_cons.2 ⟨fun begun present => ?_, ih _⟩
      obtain ⟨n, positive, short, rfl⟩ := mem_beginnings present
      simp only [List.length_append, List.length_cons, List.length_nil, List.length_take]
      omega
    · exact ih _

/-- A beginning that leads on ends with a part that is not empty. -/
theorem ends_of_mem_beginnings {seen rest begun : List String}
    (h : begun ∈ beginnings seen rest) :
    ∃ init part, begun = init ++ [part] ∧ part ≠ "" := by
  induction rest generalizing seen with
  | nil => exact absurd h List.not_mem_nil
  | cons part rest ih =>
    rw [beginnings] at h
    split at h
    · next leads =>
      rcases List.mem_cons.1 h with rfl | later
      · refine ⟨seen, part, rfl, ?_⟩
        rintro rfl
        simp [isIdle, List.append_eq_singleton_iff] at leads
      · exact ih later
    · exact ih h

/-- A folder above a path is the one where the path begins, or its text consists of the first parts
of the path, and a part that is not empty comes after them. -/
theorem parts_of_mem_parents {path parent : String} (h : parent ∈ parents path) :
    parent = "" ∨ (parent = "/" ∧ path.front = '/') ∨
    ∃ init more, parts path = init ++ more ∧ init ≠ [] ∧
      parent = ofSegments init ∧ ∃ part ∈ more, part ≠ "" := by
  rw [parents] at h
  split at h
  · simp at h
  · next whole above begun =>
    rcases List.mem_append.1 h with inside | last
    · obtain ⟨shorter, present, rfl⟩ := List.mem_map.1 inside
      have all : beginnings [] (parts path) = above.reverse ++ [whole] := by
        simpa using congrArg List.reverse begun
      have lengths := beginnings_lengths [] (parts path)
      rw [all, List.pairwise_append] at lengths
      have less := lengths.2.2 shorter (List.mem_reverse.2 present) whole (by simp)
      have begins : shorter ∈ beginnings [] (parts path) := by simp [all, present]
      have begins' : whole ∈ beginnings [] (parts path) := by simp [all]
      obtain ⟨init, part, ends, filled⟩ := ends_of_mem_beginnings begins'
      obtain ⟨n, positive, short, rfl⟩ := mem_beginnings begins
      obtain ⟨m, _, short', same⟩ := mem_beginnings begins'
      rw [List.nil_append] at same less ⊢
      -- the longest beginning goes on after the shorter one, and what is last in it comes later
      have later : whole = (parts path).take n ++ ((parts path).drop n).take (m - n) := by
        rw [same, List.length_take, List.length_take] at less
        rw [same, ← List.take_add, Nat.add_sub_cancel' (by omega)]
      refine .inr
        (.inr ⟨_, (parts path).drop n, (List.take_append_drop n _).symm, ?_, rfl, part,
          ?_, filled⟩)
      · simp only [ne_eq, List.take_eq_nil_iff, parts_ne_nil, or_false]
        omega
      · refine List.mem_of_mem_take (?_ : part ∈ ((parts path).drop n).take (m - n))
        have nonempty : ((parts path).drop n).take (m - n) ≠ [] := by
          intro nothing
          rw [later, nothing, List.append_nil] at less
          omega
        have end_ : whole.getLast? = some part := by rw [ends, List.getLast?_concat]
        rw [later, List.getLast?_append_of_ne_nil _ nonempty] at end_
        exact List.mem_of_getLast? end_
    · have only := List.mem_singleton.1 last
      split at only
      · next slash => exact .inr (.inl ⟨only, slash⟩)
      · exact .inl only

theorem mem_parents {path parent : String} (h : parent ∈ parents path) :
    parent = "" ∨ (parent = "/" ∧ path.front = '/') ∨ IsAbove path parent := by
  refine (parts_of_mem_parents h).imp_right (Or.imp_right ?_)
  rintro ⟨init, more, cut, some_, rfl, part, present, _⟩
  refine ⟨init.length, List.length_pos_iff.2 some_, ?_, by rw [cut, List.take_left]⟩
  rw [cut, List.length_append]
  exact Nat.lt_add_of_pos_right (List.length_pos_of_mem present)

/-- A folder above a path below `base` either lies below `base` too, or its text is `base` or the
one of a folder above, but for an empty part at the end. -/
theorem IsAbove.of_pushAll {base above : String} {names : List String}
    (h : ∀ s ∈ names, IsName s) (some_ : names ≠ [])
    (up : IsAbove (pushAll base names) above) :
    (∃ init, init ≠ [] ∧ init <+: names ∧ above = pushAll base init) ∨ above = base ∨
      IsAbove base above := by
  obtain ⟨n, positive, short, rfl⟩ := up
  rw [parts_pushAll base h some_] at short ⊢
  by_cases inner : (stem base).length < n
  · left
    refine ⟨names.take (n - (stem base).length), ?_, List.take_prefix _ _, ?_⟩
    · simp only [ne_eq, List.take_eq_nil_iff, some_, or_false]
      omega
    · rw [pushAll_eq_ofSegments base (fun s present => h s (List.mem_of_mem_take present)),
        List.take_append, List.take_of_length_le (by omega)]
      simp only [ne_eq, List.take_eq_nil_iff, some_, or_false]
      omega
  · right
    rw [List.take_append_of_le_length (by omega)]
    obtain ⟨blank, _, cut⟩ := parts_eq_stem base
    have same : (parts base).take n = (stem base).take n := by
      rw [cut, List.take_append_of_le_length (by omega)]
    by_cases whole : n = (parts base).length
    · left
      rw [← same, whole, List.take_length, ofSegments_parts]
    · right
      refine ⟨n, positive, ?_, by rw [same]⟩
      have := congrArg List.length cut
      rw [List.length_append] at this
      omega

/-! ## All folders on the way -/

theorem beginnings_append (seen first rest : List String) :
    beginnings seen (first ++ rest) = beginnings seen first ++ beginnings (seen ++ first) rest := by
  induction first generalizing seen with
  | nil => simp [beginnings]
  | cons part first ih =>
    rw [List.cons_append, beginnings, beginnings]
    simp only [ih, List.append_assoc, List.singleton_append]
    split
    · rfl
    · rfl

/-- The texts of the folders along a way, the deepest one first, and then `root`. -/
def along (root : String) (way : List String) : List String :=
  (beginnings [] way).reverse.map ofSegments ++ [root]

@[simp] theorem along_nil (root : String) : along root [] = [root] := rfl

theorem along_concat_of_moves (root : String) {way : List String} {part : String}
    (moves : isIdle part = false) :
    along root (way ++ [part]) = ofSegments (way ++ [part]) :: along root way := by
  simp [along, beginnings_append, beginnings, moves]

theorem along_concat_of_idle (root : String) {way : List String} {part : String}
    (idle : isIdle part = true) (later : way ≠ []) :
    along root (way ++ [part]) = along root way := by
  have longer : way ++ [part] ≠ ["."] := by
    intro same
    have count := congrArg List.length same
    rw [List.length_append] at count
    exact later (List.length_eq_zero_iff.1 (by simpa using count))
  simp [along, beginnings_append, beginnings, idle, longer]

theorem parents_pushAll (base : String) {names : List String} (named : ∀ s ∈ names, IsName s)
    (some_ : names ≠ []) :
    parents (pushAll base names) =
      along (if (pushAll base names).front = '/' then "/" else "")
      (stem base ++ names.dropLast) := by
  have last := named _ (List.getLast_mem some_)
  have cut : parts (pushAll base names) = stem base ++ names.dropLast ++ [names.getLast some_] := by
    rw [parts_pushAll base named some_, List.append_assoc, List.dropLast_append_getLast]
  rw [parents, cut, beginnings_append]
  simp only [beginnings, List.nil_append, last.stays, Bool.not_false, Bool.true_or, if_true,
    List.reverse_append, List.reverse_cons, List.reverse_nil, List.singleton_append]
  rfl

theorem ne_blank_of_mem_beginnings {seen rest begun : List String}
    (h : begun ∈ beginnings seen rest) : begun ≠ [""] := by
  induction rest generalizing seen with
  | nil => exact absurd h List.not_mem_nil
  | cons part rest ih =>
    rw [beginnings] at h
    split at h
    · next leads =>
      rcases List.mem_cons.1 h with rfl | later
      · intro blank
        rw [blank] at leads
        obtain ⟨rfl, rfl⟩ : seen = [] ∧ part = "" := by
          simpa [List.append_eq_singleton_iff] using blank
        revert leads
        decide
      · exact ih later
    · exact ih h

/-- The longest beginning of a way is one that leads on as the way did. -/
theorem beginnings_of_concat {way whole : List String} {shorter : List (List String)}
    (h : beginnings [] way = shorter ++ [whole]) :
    whole <+: way ∧ whole ≠ [] ∧ beginnings [] whole = shorter ++ [whole] := by
  have present : whole ∈ beginnings [] way := by simp [h]
  obtain ⟨n, positive, short, same⟩ := mem_beginnings present
  rw [List.nil_append] at same
  have length : whole.length = n := by
    rw [same, List.length_take]
    omega
  have parted := beginnings_append [] whole (way.drop n)
  have split : whole ++ way.drop n = way := by rw [same, List.take_append_drop]
  rw [split, h, List.nil_append] at parted
  have nothing : beginnings whole (way.drop n) = [] := by
    rcases List.eq_nil_or_concat (beginnings whole (way.drop n)) with none_ |
      ⟨others, last, some_⟩
    · exact none_
    · rw [some_, List.concat_eq_append, ← List.append_assoc] at parted
      obtain ⟨_, same'⟩ := List.append_inj' parted rfl
      obtain rfl : whole = last := by simpa using same'
      obtain ⟨m, more, _, longer⟩ :=
        mem_beginnings (show whole ∈ beginnings whole (way.drop n) by simp [some_])
      have count := congrArg List.length longer
      rw [List.length_append, List.length_take] at count
      omega
  refine ⟨⟨_, split⟩, ?_, ?_⟩
  · rintro rfl
    simp at length
    omega
  · rw [parted, nothing, List.append_nil]

/-- A text that is not empty begins as it does with more text after it. -/
theorem front_append {text more : String} (filled : text ≠ "") :
    (text ++ more).front = text.front := by
  obtain ⟨c, chars, same⟩ := List.exists_cons_of_ne_nil (mt String.toList_eq_nil_iff.1 filled)
  simp [String.front_eq, String.front?_eq, same]

/-- The folders above the deepest folder along a way are the others. -/
theorem parents_along {path text : String} {way rest : List String} (beginning : way <+: parts path)
    (h : along (if path.front = '/' then "/" else "") way = text :: rest) :
    parents text = rest := by
  rcases List.eq_nil_or_concat (beginnings [] way) with none_ | ⟨shorter, whole, some_⟩
  · rw [along, none_] at h
    obtain ⟨rfl, rfl⟩ := List.cons.inj h
    split
    · decide
    · decide
  · rw [List.concat_eq_append] at some_
    obtain ⟨inside, filled, again⟩ := beginnings_of_concat some_
    rw [along, some_] at h
    simp only [List.reverse_append, List.reverse_cons, List.reverse_nil, List.nil_append,
      List.map_cons, List.cons_append] at h
    obtain ⟨rfl, rfl⟩ := List.cons.inj h
    have cut : parts (ofSegments whole) = whole := parts_ofSegments filled fun part present =>
      slashFree_of_mem_parts ((inside.trans beginning).subset present)
    have same : (ofSegments whole).front = path.front := by
      have named : ofSegments whole ≠ "" := by
        intro blank
        rw [blank] at cut
        have present : whole ∈ beginnings [] whole := by simp [again]
        exact ne_blank_of_mem_beginnings present cut.symm
      obtain ⟨more, split⟩ := inside.trans beginning
      rw [← ofSegments_parts path, ← split]
      by_cases nothing : more = []
      · rw [nothing, List.append_nil]
      · rw [ofSegments_append filled nothing, String.append_assoc, front_append named]
    rw [parents, cut, again, same, List.reverse_append]
    rfl

/-- The folders above the nearest folder above a path are the others. -/
theorem parents_cons {path text : String} {rest : List String} (h : parents path = text :: rest) :
    parents text = rest := by
  have listed := h
  rw [parents] at listed
  split at listed
  · cases listed
  · next whole above begun =>
    have all : beginnings [] (parts path) = above.reverse ++ [whole] := by
      simpa using congrArg List.reverse begun
    obtain ⟨inside, _, again⟩ := beginnings_of_concat all
    obtain ⟨init, part, rfl, _⟩ :=
      ends_of_mem_beginnings (show whole ∈ beginnings [] whole by simp [again])
    have upper : beginnings [] init = above.reverse := by
      rw [beginnings_append, List.nil_append, beginnings, beginnings] at again
      split at again
      · exact List.append_cancel_right again
      · rw [List.append_nil] at again
        obtain ⟨n, _, short, longer⟩ :=
          mem_beginnings (show init ++ [part] ∈ beginnings [] init by simp [again])
        have count := congrArg List.length longer
        simp at count
        omega
    refine parents_along ((List.prefix_append init [part]).trans inside) ?_
    rw [along, upper, List.reverse_reverse, ← listed]
    rfl

end TreeFetch.PathText
