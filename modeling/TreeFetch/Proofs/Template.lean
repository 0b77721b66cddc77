import Mathlib.Data.List.Infix
import TreeFetch.Template

/-!
# The placeholders of a template

For the names that have values, a template splits into placeholders of these names and the literals
around them. It does so in one manner only, since a placeholder of a plain name cannot begin inside
another one. A substitution puts all values in at the same time: what it has put in, and what looks
like a placeholder of any other name, is left as it is.

Results:
1. `Splits.unique`: a template splits in at most one manner.
2. `expand_splits` and `expand_eq_fill`: a substitution splits its template, and fills in the
   values.
3. `opened_iff` and `mentions_iff`: what looks like a placeholder, and the placeholder of a name.
-/

namespace TreeFetch.Template

variable {values : Assignment} {declared : List String}
    {text name after literal first others : List Char}
  {value : String} {rest more : List (String × List Char)}

/-! ## Splitting a template -/

/-- A text that consists of a literal and then, by turns, of what stands for a name and a
literal. -/
def fill (stands : String → List Char) (first : List Char) (rest : List (String × List Char)) :
    List Char :=
  first ++ rest.flatMap fun part => stands part.1 ++ part.2

def marker (name : String) : List Char := (placeholder name).toList

/-- A name in which no placeholder can begin or end. -/
structure IsPlain (name : String) : Prop where
  dollar : '$' ∉ name.toList
  opening : '\x7b' ∉ name.toList
  closing : '\x7d' ∉ name.toList

/-- A text is split at placeholders of declared names, and no literal holds one of these. -/
structure Splits (declared : List String) (text first : List Char)
    (rest : List (String × List Char)) :
    Prop where
  whole : text = fill marker first rest
  names : ∀ part ∈ rest, part.1 ∈ declared
  plain : ∀ literal ∈ first :: rest.map (·.2), ∀ name ∈ declared,
    ¬marker name <:+: literal

@[simp] theorem fill_nil (stands : String → List Char) (first : List Char) :
    fill stands first [] = first :=
  List.append_nil first

theorem fill_cons (stands : String → List Char) (first : List Char) (name : String)
    (literal : List Char) (rest : List (String × List Char)) :
    fill stands first ((name, literal) :: rest) = first ++ (stands name ++
      fill stands literal rest) := by
  simp only [fill, List.flatMap_cons, List.append_assoc]

theorem fill_append (stands : String → List Char) (front first : List Char)
    (rest : List (String × List Char)) :
    fill stands (front ++ first) rest = front ++ fill stands first rest :=
  List.append_assoc ..

theorem marker_eq (name : String) : marker name = '$' :: '\x7b' :: (name.toList ++ ['\x7d']) := by
  simp [marker, placeholder]

theorem marker_append (name : String) (text : List Char) :
    marker name ++ text = '$' :: '\x7b' :: (name.toList ++ '\x7d' :: text) := by
  simp [marker_eq]

theorem closing?_eq_some :
    closing? text = some (name, after) ↔ text = name ++ '\x7d' :: after ∧ '\x7d' ∉ name := by
  induction text generalizing name with
  | nil => simp [closing?]
  | cons c rest ih =>
    by_cases ends : c = '\x7d'
    · subst ends
      simp only [closing?, Option.some.injEq, Prod.mk.injEq]
      constructor
      · rintro ⟨rfl, rfl⟩
        exact ⟨rfl, List.not_mem_nil⟩
      · rintro ⟨same, free⟩
        cases name with
        | nil => exact ⟨rfl, (List.cons.inj same).2⟩
        | cons d name =>
          obtain ⟨rfl, _⟩ := List.cons.inj same
          exact absurd (List.mem_cons_self ..) free
    · have goes : closing? (c :: rest) = (closing? rest).map fun found =>
        (c :: found.1, found.2) := by
        rw [closing?]
        rintro rfl
        exact ends rfl
      rw [goes, Option.map_eq_some_iff]
      constructor
      · rintro ⟨⟨inner, later⟩, found, same⟩
        obtain ⟨rfl, rfl⟩ := Prod.mk.inj same
        obtain ⟨rfl, free⟩ := ih.1 found
        exact ⟨rfl, by simpa [Ne.symm ends] using free⟩
      · rintro ⟨same, free⟩
        cases name with
        | nil => exact absurd (List.cons.inj same).1 ends
        | cons d name =>
          obtain ⟨rfl, rfl⟩ := List.cons.inj same
          exact ⟨(name, after),
            ih.2 ⟨rfl, fun present => free (List.mem_cons_of_mem _ present)⟩, rfl⟩

/-- What begins with the placeholders of two names begins with that of one. -/
theorem marker_append_inj {name name' : String} {text text' : List Char}
    (closing : '\x7d' ∉ name.toList) (closing' : '\x7d' ∉ name'.toList)
    (same : marker name ++ text = marker name' ++ text') : name = name' ∧ text = text' := by
  rw [marker_append, marker_append] at same
  obtain ⟨_, same⟩ := List.cons.inj same
  obtain ⟨_, same⟩ := List.cons.inj same
  have found : closing? (name.toList ++ '\x7d' :: text) = some (name.toList, text) :=
    closing?_eq_some.2 ⟨rfl, closing⟩
  rw [same, closing?_eq_some.2 ⟨rfl, closing'⟩, Option.some.injEq, Prod.mk.injEq] at found
  exact ⟨String.toList_inj.1 found.1.symm, found.2.symm⟩

namespace Splits

theorem tail {name : String} (h : Splits declared text first ((name, literal) :: rest)) :
    Splits declared (fill marker literal rest) literal rest :=
  ⟨rfl, fun part present => h.names part (List.mem_cons_of_mem _ present), fun l present =>
    h.plain l (List.mem_cons_of_mem first present)⟩

theorem nil : Splits declared [] [] [] where
  whole := rfl
  names := List.forall_mem_nil _
  plain := by simp [marker_eq]

/-- A literal stays one with a character in front, if no placeholder begins there. -/
theorem cons {c : Char} (h : Splits declared text first rest)
    (starts : ∀ name ∈ declared, ¬marker name <+: c :: first) :
    Splits declared (c :: text) (c :: first) rest where
  whole := congrArg (c :: ·) h.whole
  names := h.names
  plain literal present name known occurs := by
    rcases List.mem_cons.1 present with rfl | later
    · rcases List.infix_cons_iff.1 occurs with begins | inside
      · exact starts name known begins
      · exact h.plain first (List.mem_cons_self ..) name known inside
    · exact h.plain literal (List.mem_cons_of_mem _ later) name known occurs

theorem cons_marker {name : String} (h : Splits declared text first rest)
    (known : name ∈ declared) :
    Splits declared (marker name ++ text) [] ((name, first) :: rest) where
  whole := by rw [fill_cons, List.nil_append, ← h.whole]
  names := List.forall_mem_cons.2 ⟨known, h.names⟩
  plain literal present other declared_ occurs := by
    rcases List.mem_cons.1 present with rfl | later
    · simp [marker_eq] at occurs
    · exact h.plain literal later other declared_ occurs

/-- After a literal that is not the last one, a placeholder comes. -/
theorem eq_cons_of_fill {c : Char} {later : List Char}
    (h : fill marker first rest = first ++ c :: later) :
    ∃ name literal more, rest = (name, literal) :: more ∧
      marker name ++ fill marker literal more = c :: later := by
  cases rest with
  | nil =>
    rw [fill_nil] at h
    exact absurd (List.self_eq_append_right.1 h) (List.cons_ne_nil _ _)
  | cons part more =>
    obtain ⟨name, literal⟩ := part
    rw [fill_cons, List.append_cancel_left_eq] at h
    exact ⟨name, literal, more, rfl, h⟩

/-- No placeholder begins inside the literal before the first placeholder of another splitting. -/
theorem not_longer (plain : ∀ name ∈ declared, IsPlain name)
    (h : Splits declared text first rest)
    {c : Char} {inner : List Char} (h' : Splits declared text (first ++ c :: inner) more) :
    False := by
  have same : fill marker first rest = first ++ c :: fill marker inner more := by
    rw [← h.whole, h'.whole, fill_append]
    rfl
  obtain ⟨name, literal, rest, rfl, begins⟩ := eq_cons_of_fill same
  have named := plain name (h.names _ (List.mem_cons_self ..))
  rw [marker_append] at begins
  obtain ⟨rfl, begins⟩ := List.cons.inj begins
  -- the rest of the placeholder and the rest of the longer literal begin the same text
  have body : '\x7b' :: (name.toList ++ ['\x7d']) <+: fill marker inner more :=
    ⟨fill marker literal rest, by simpa using begins⟩
  have goesOn : inner <+: fill marker inner more := List.prefix_append _ _
  have inside : '\x7b' :: (name.toList ++ ['\x7d']) <+: inner := by
    rcases List.prefix_or_prefix_of_prefix body goesOn with inside | ⟨tail, whole⟩
    · exact inside
    · cases tail with
      | nil => exact ⟨[], by simpa using whole.symm⟩
      | cons d tail =>
        obtain ⟨left, split⟩ := body
        rw [← whole, List.append_assoc, List.cons_append] at split
        obtain ⟨next, _, _, _, dollar⟩ := eq_cons_of_fill split.symm
        rw [marker_append] at dollar
        obtain rfl : '$' = d := (List.cons.inj dollar).1
        have present : '$' ∈ '\x7b' :: (name.toList ++ ['\x7d']) := by simp [← whole]
        simp [named.dollar] at present
  refine h'.plain _ (List.mem_cons_self ..) name (h.names _ (List.mem_cons_self ..)) ?_
  rw [marker_eq]
  exact (List.cons_prefix_cons.2 ⟨rfl, inside⟩).isInfix.trans
    (List.suffix_append first _).isInfix

theorem first_eq (plain : ∀ name ∈ declared, IsPlain name) (h : Splits declared text first rest)
    (h' : Splits declared text others more) : first = others := by
  have begins : first <+: text := ⟨_, h.whole.symm⟩
  have begins' : others <+: text := ⟨_, h'.whole.symm⟩
  rcases List.prefix_or_prefix_of_prefix begins begins' with ⟨inner, longer⟩ |
    ⟨inner, longer⟩
  · cases inner with
    | nil => simpa using longer
    | cons c inner => exact (not_longer plain h (longer ▸ h')).elim
  · cases inner with
    | nil => simpa using longer.symm
    | cons c inner => exact (not_longer plain h' (longer ▸ h)).elim

/-- A text is split in one manner only, if the names are plain. -/
theorem unique (plain : ∀ name ∈ declared, IsPlain name) (h : Splits declared text first rest)
    (h' : Splits declared text others more) : first = others ∧ rest = more := by
  induction rest generalizing text first others more with
  | nil =>
    obtain rfl := first_eq plain h h'
    have whole := h.whole.symm.trans h'.whole
    cases more with
    | nil => exact ⟨rfl, rfl⟩
    | cons part more =>
      obtain ⟨name, literal⟩ := part
      simp [fill_cons, marker_eq] at whole
  | cons part rest ih =>
    obtain ⟨name, literal⟩ := part
    obtain rfl := first_eq plain h h'
    have whole := h.whole.symm.trans h'.whole
    cases more with
    | nil => simp [fill_cons, marker_eq] at whole
    | cons part' more =>
      obtain ⟨name', literal'⟩ := part'
      rw [fill_cons, fill_cons, List.append_cancel_left_eq] at whole
      have named := plain name (h.names _ (List.mem_cons_self ..))
      have named' := plain name' (h'.names _ (List.mem_cons_self ..))
      obtain ⟨rfl, later⟩ := marker_append_inj named.closing named'.closing whole
      obtain ⟨rfl, rfl⟩ := ih h.tail (later ▸ h'.tail)
      exact ⟨rfl, rfl⟩

end Splits

/-! ## Substitution -/

theorem slot?_eq_some :
    slot? values text = some (value, after) ↔
      ∃ name, text = name.toList ++ '\x7d' :: after ∧ '\x7d' ∉ name.toList ∧
        values.lookup name = some value := by
  rw [slot?]
  cases found : closing? text with
  | none =>
    simp only [reduceCtorEq, false_iff, not_exists, not_and]
    intro name whole free
    cases found.symm.trans (closing?_eq_some.2 ⟨whole, free⟩)
  | some parts =>
    obtain ⟨inner, later⟩ := parts
    simp only [Option.map_eq_some_iff, Prod.mk.injEq]
    constructor
    · rintro ⟨value, listed, rfl, rfl⟩
      obtain ⟨whole, free⟩ := closing?_eq_some.1 found
      exact ⟨String.ofList inner, by simpa using whole, by simpa using free, listed⟩
    · rintro ⟨name, whole, free, listed⟩
      obtain ⟨rfl, rfl⟩ : inner = name.toList ∧ later = after := by
        simpa using found.symm.trans (closing?_eq_some.2 ⟨whole, free⟩)
      exact ⟨value, by simpa using listed, rfl, rfl⟩

/-- No placeholder with a value is at the beginning of a text that is copied on. -/
theorem not_prefix_of_slot? {name : String} (named : IsPlain name)
    (listed : (values.lookup name).isSome = true) (none_ : slot? values text = none)
    (inside : literal <+: '\x7b' :: text) : ¬marker name <+: '$' :: literal := by
  rw [marker_eq, List.cons_prefix_cons]
  rintro ⟨_, begins⟩
  obtain ⟨left, whole⟩ := begins.trans inside
  obtain ⟨value, found⟩ := Option.isSome_iff_exists.1 listed
  have some_ : slot? values text = some (value, left) := by
    refine slot?_eq_some.2 ⟨name, ?_, named.closing, found⟩
    simpa using (List.cons.inj whole).2.symm
  cases none_.symm.trans some_

def valueOf (values : Assignment) (name : String) : List Char :=
  ((values.lookup name).getD "").toList

/-- A substitution splits its template at the placeholders of the names that have values, and fills
the values in. -/
theorem expand_splits (plain : ∀ name ∈ declared, IsPlain name)
    (listed : ∀ name, name ∈ declared ↔ (values.lookup name).isSome = true)
    (text : List Char) :
    ∃ first rest, Splits declared text first rest ∧
      expand values text = fill (valueOf values) first rest := by
  fun_induction expand values text with
  | case1 => exact ⟨[], [], .nil, rfl⟩
  | case2 text value after found _ ih =>
    obtain ⟨name, rfl, free, value_⟩ := slot?_eq_some.1 found
    obtain ⟨first, rest, splits, filled⟩ := ih
    refine ⟨[], (name, first) :: rest, ?_, ?_⟩
    · rw [← marker_append]
      exact splits.cons_marker ((listed name).2 (by simp [value_]))
    · rw [fill_cons, List.nil_append, filled, valueOf, value_]
      rfl
  | case3 text none_ ih =>
    obtain ⟨first, rest, splits, filled⟩ := ih
    refine ⟨'$' :: first, rest, splits.cons fun name known => ?_, congrArg ('$' :: ·) filled⟩
    exact not_prefix_of_slot? (plain name known) ((listed name).1 known) none_
      ⟨_, splits.whole.symm⟩
  | case4 c text other ih =>
    obtain ⟨first, rest, splits, filled⟩ := ih
    refine ⟨c :: first, rest, splits.cons fun name known begins =>
      ?_, congrArg (c :: ·) filled⟩
    -- a placeholder here would have been taken for an opening
    rw [marker_eq, List.cons_prefix_cons] at begins
    obtain ⟨rfl, begins⟩ := begins
    cases first with
    | nil => simp at begins
    | cons d first =>
      obtain ⟨rfl, _⟩ := List.cons_prefix_cons.1 begins
      exact other _ rfl splits.whole

theorem isSome_lookup_iff {name : String} :
    (values.lookup name).isSome = true ↔ name ∈ values.map (·.1) := by
  simp [List.lookup_isSome_iff]

theorem Splits.exists (plain : ∀ name ∈ declared, IsPlain name) (text : List Char) :
    ∃ first rest, Splits declared text first rest := by
  let values : Assignment := declared.map fun name => (name, "")
  have listed : ∀ name, name ∈ declared ↔ (values.lookup name).isSome = true := fun name => by
    simp [values]
  obtain ⟨first, rest, splits, _⟩ := expand_splits plain listed text
  exact ⟨first, rest, splits⟩

/-- All values are put in at the same time, whatever they hold. -/
theorem expand_eq_fill (plain : ∀ name ∈ declared, IsPlain name)
    (listed : ∀ name, name ∈ declared ↔ (values.lookup name).isSome = true)
    (h : Splits declared text first rest) :
    expand values text = fill (valueOf values) first rest := by
  obtain ⟨first', rest', splits, filled⟩ := expand_splits plain listed text
  obtain ⟨rfl, rfl⟩ := h.unique plain splits
  exact filled

theorem Splits.ne_nil_of_mentions {template name : String}
    (h : Splits declared template.toList first rest)
    (known : name ∈ declared) (mentioned : marker name <:+: template.toList) : rest ≠ [] := by
  rintro rfl
  rw [h.whole, fill_nil] at mentioned
  exact h.plain first (List.mem_cons_self ..) name known mentioned

/-! ## What looks like a placeholder -/

/-- Something that looks like a placeholder is in a text: an opening, and a closing brace after
it. -/
def LooksOpen (text : List Char) : Prop :=
  ∃ between, '$' :: '\x7b' :: (between ++ ['\x7d']) <:+: text

theorem opened_iff (text : List Char) : opened text = true ↔ LooksOpen text := by
  fun_induction opened text with
  | case1 => simp [LooksOpen]
  | case2 text =>
    rw [List.contains_iff_mem]
    constructor
    · intro closing
      obtain ⟨between, later, rfl⟩ := List.append_of_mem closing
      refine ⟨between, List.IsPrefix.isInfix ⟨later, by simp⟩⟩
    · rintro ⟨between, inside⟩
      have present : '\x7d' ∈ '$' :: '\x7b' :: text := inside.subset (by simp)
      simpa using present
  | case3 c text other ih =>
    rw [ih]
    constructor
    · rintro ⟨between, inside⟩
      exact ⟨between, List.infix_cons inside⟩
    · rintro ⟨between, inside⟩
      rcases List.infix_cons_iff.1 inside with begins | later
      · obtain ⟨left, whole⟩ := begins
        obtain ⟨rfl, rest⟩ := List.cons.inj whole
        exact absurd rest.symm (other _ rfl)
      · exact ⟨between, later⟩

theorem hasPlaceholder_iff (text : String) : hasPlaceholder text = true ↔ LooksOpen text.toList :=
  opened_iff text.toList

theorem occursIn_iff (part text : List Char) : occursIn part text = true ↔ part <:+: text := by
  induction text with
  | nil => simp [occursIn]
  | cons c rest ih =>
    rw [occursIn, Bool.or_eq_true, List.isPrefixOf_iff_prefix, ih, List.infix_cons_iff]

theorem mentions_iff (template name : String) :
    mentions template name = true ↔ marker name <:+: template.toList :=
  occursIn_iff _ _

end TreeFetch.Template
