import TreeFetch.Proofs.Template

/-!
# What a reader takes for placeholders

A reader of a template pairs each opening with the first closing brace after it and goes on behind
that brace. A substitution looks for a name with a value only, and so it also finds a placeholder
that begins inside what the reader takes for a longer name. That longer name then loses its closing
brace to the placeholder that it hides.

Results:
1. `mem_namesIn`: what the reader takes for a name stands in the template as a placeholder.
2. `looksOpen_expand_iff`: when a placeholder of a name without a value is left in the result.
3. `opening_of_expand`: where an opening in the result comes from, if all names have solid values.
-/

namespace TreeFetch.Template

variable {values : Assignment} {text front back before after later : List Char}
    {name known value : String}

/-! ## What the reader sees -/

theorem closing?_eq_none : closing? text = none ↔ '\x7d' ∉ text := by
  constructor
  · intro none_ present
    obtain ⟨name, after, rfl, free⟩ := List.eq_append_cons_of_mem present
    cases none_.symm.trans (closing?_eq_some.2 ⟨rfl, free⟩)
  · intro free
    cases found : closing? text with
    | none => rfl
    | some parts => exact absurd (by simp [(closing?_eq_some.1 found).1]) free

/-- A text is empty, it begins with a placeholder, with an opening that nothing closes, or with a
character that is not read together with the next one. -/
inductive Reading : List Char → Prop
  | nil : Reading []
  | placeholder {name : String} {text : List Char} (free : '\x7d' ∉ name.toList)
      (rest : Reading text) :
      Reading (marker name ++ text)
  | unclosed {text : List Char} (free : '\x7d' ∉ text) : Reading ('$' :: '\x7b' :: text)
  | char {c : Char} {text : List Char} (other : ∀ rest, c = '$' → text ≠ '\x7b' :: rest)
      (rest : Reading text) : Reading (c :: text)

theorem reading (text : List Char) : Reading text := by
  fun_induction namesIn text with
  | case1 => exact .nil
  | case2 text name after pair _ ih =>
    obtain ⟨rfl, free⟩ := closing?_eq_some.1 pair
    have whole := marker_append (String.ofList name) after
    rw [String.toList_ofList] at whole
    exact whole ▸ .placeholder (by simpa using free) ih
  | case3 text none_ => exact .unclosed (closing?_eq_none.1 none_)
  | case4 c text other ih => exact .char (fun rest dollar opens => other rest dollar opens) ih

theorem namesIn_marker (free : '\x7d' ∉ name.toList) (text : List Char) :
    namesIn (marker name ++ text) = name :: namesIn text := by
  rw [marker_append, namesIn]
  split
  · next found =>
    obtain ⟨rfl, rfl⟩ : name.toList = _ ∧ text = _ := by
      simpa using (closing?_eq_some.2 ⟨rfl, free⟩).symm.trans found
    simp
  · next none_ => cases none_.symm.trans (closing?_eq_some.2 ⟨rfl, free⟩)

theorem namesIn_unclosed (free : '\x7d' ∉ text) : namesIn ('$' :: '\x7b' :: text) = [] := by
  rw [namesIn]
  split
  · next found => cases (closing?_eq_none.2 free).symm.trans found
  · rfl

theorem namesIn_cons {c : Char} (other : ∀ rest, c = '$' → text ≠ '\x7b' :: rest) :
    namesIn (c :: text) = namesIn text := by
  rw [namesIn]
  exact fun rest dollar opens => other rest dollar opens

/-- What the reader takes for a name stands in the template, up to the first closing brace. -/
theorem mem_namesIn (h : name ∈ namesIn text) :
    '\x7d' ∉ name.toList ∧ marker name <:+: text := by
  induction reading text with
  | nil => simp [namesIn] at h
  | placeholder free _ ih =>
    rw [namesIn_marker free] at h
    rcases List.mem_cons.1 h with rfl | later
    · exact ⟨free, (List.prefix_append ..).isInfix⟩
    · obtain ⟨free', inside⟩ := ih later
      exact ⟨free', inside.trans (List.suffix_append ..).isInfix⟩
  | unclosed free => simp [namesIn_unclosed free] at h
  | char other _ ih =>
    rw [namesIn_cons other] at h
    obtain ⟨free, inside⟩ := ih h
    exact ⟨free, List.infix_cons inside⟩

/-! ## What a substitution does at one place -/

theorem expand_of_slot? (found : slot? values text = some (value, after)) :
    expand values ('$' :: '\x7b' :: text) = value.toList ++ expand values after := by
  rw [expand]
  split
  · next found' =>
    obtain ⟨rfl, rfl⟩ : _ = value ∧ _ = after := by simpa using found'.symm.trans found
    rfl
  · next none_ => cases none_.symm.trans found

theorem expand_of_not_slot? (none_ : slot? values text = none) :
    expand values ('$' :: '\x7b' :: text) = '$' :: expand values ('\x7b' :: text) := by
  rw [expand]
  split
  · next found => cases none_.symm.trans found
  · rfl

theorem expand_cons {c : Char} (other : ∀ rest, c = '$' → text ≠ '\x7b' :: rest) :
    expand values (c :: text) = c :: expand values text := by
  rw [expand]
  exact fun rest dollar opens => other rest dollar opens

theorem expand_marker (listed : values.lookup name = some value) (free : '\x7d' ∉ name.toList)
    (text : List Char) :
    expand values (marker name ++ text) = value.toList ++ expand values text := by
  rw [marker_append]
  exact expand_of_slot? (slot?_eq_some.2 ⟨name, rfl, free, listed⟩)

theorem slot?_of_free (free : '\x7d' ∉ text) : slot? values text = none := by
  rw [slot?, closing?_eq_none.2 free]

theorem expand_of_free (free : '\x7d' ∉ text) : expand values text = text := by
  fun_induction expand values text with
  | case1 => rfl
  | case2 text value after found _ _ =>
    have inner : '\x7d' ∉ text := fun present => free (by simp [present])
    cases (slot?_of_free inner).symm.trans found
  | case3 text none_ ih => rw [ih fun present => free (List.mem_cons_of_mem _ present)]
  | case4 c text other ih => rw [ih fun present => free (List.mem_cons_of_mem _ present)]

/-- A character that a text does not hold is found behind it. -/
theorem behind_of_not_mem {c : Char} (free : c ∉ front)
    (whole : front ++ text = before ++ c :: after) :
    ∃ more, before = front ++ more ∧ text = more ++ c :: after := by
  rcases List.append_eq_append_iff.1 whole with ⟨more, same, rest⟩ | ⟨more, same, rest⟩
  · exact ⟨more, same, rest⟩
  · cases more with
    | nil => exact ⟨[], by simpa using same.symm, by simpa using rest.symm⟩
    | cons d more =>
      obtain ⟨rfl, _⟩ := List.cons.inj rest
      exact absurd (by simp [same]) free

def AllPlain (values : Assignment) : Prop :=
  ∀ name, (values.lookup name).isSome = true → IsPlain name

/-- A name that ends before a dollar sign is found without the text from there on. -/
theorem slot?_append_dollar (plain : AllPlain values)
    (text back : List Char) :
    slot? values (text ++ '$' :: back) = (slot? values text).map fun slot =>
  (slot.1, slot.2 ++ '$' :: back) := by
  ext ⟨value, after⟩
  rw [slot?_eq_some, Option.map_eq_some_iff]
  constructor
  · rintro ⟨name, whole, free, listed⟩
    have named := plain name (by simp [listed])
    obtain ⟨more, shorter, rest⟩ := behind_of_not_mem named.dollar whole.symm
    cases more with
    | nil => simp at rest
    | cons c more =>
      obtain ⟨rfl, rfl⟩ := List.cons.inj rest
      exact ⟨(value, more), slot?_eq_some.2 ⟨name, shorter, free, listed⟩, rfl⟩
  · rintro ⟨⟨found, inner⟩, slot, same⟩
    obtain ⟨rfl, rfl⟩ := Prod.mk.inj same
    obtain ⟨name, rfl, free, listed⟩ := slot?_eq_some.1 slot
    exact ⟨name, by simp, free, listed⟩

/-- A substitution works on both sides of a dollar sign by itself, since no placeholder of a plain
name holds one inside. -/
theorem expand_append_dollar (plain : AllPlain values)
    (front back : List Char) :
    expand values (front ++ '$' :: back) = expand values front ++ expand values ('$' :: back) := by
  fun_induction expand values front with
  | case1 => rfl
  | case2 text value after found _ ih =>
    have same := slot?_append_dollar plain text back
    rw [found] at same
    rw [List.cons_append, List.cons_append, expand_of_slot? same, ih, List.append_assoc]
  | case3 text none_ ih =>
    have same := slot?_append_dollar plain text back
    rw [none_] at same
    rw [List.cons_append, List.cons_append, expand_of_not_slot? same, ← List.cons_append, ih]
    rfl
  | case4 c text other ih =>
    rw [List.cons_append, expand_cons, ih]
    · rfl
    · rintro rest rfl opens
      cases text with
      | nil => simp at opens
      | cons d text =>
        obtain ⟨rfl, _⟩ := List.cons.inj opens
        exact other text rfl rfl

/-! ## Names without a value -/

/-- A name ends with an opening and another name, so that the placeholder of the other name ends
with the same brace as its own. -/
def Hides (name known : String) : Prop := '$' :: '\x7b' :: known.toList <:+ name.toList

theorem eq_of_opening_suffix (free : '$' ∉ back)
    (inside : '$' :: '\x7b' :: front <:+ '$' :: '\x7b' :: back) : front = back := by
  rcases List.suffix_cons_iff.1 inside with same | later
  · simpa using same
  · have present := later.subset (List.mem_cons_self ..)
    simp [free] at present

theorem Hides.unique {other : String} (h : Hides name known) (h' : Hides name other)
    (named : IsPlain known) (named' : IsPlain other) : known = other := by
  rw [← String.toList_inj]
  rcases List.suffix_or_suffix_of_suffix h h' with inside | inside
  · exact eq_of_opening_suffix named'.dollar inside
  · exact (eq_of_opening_suffix named.dollar inside).symm

theorem expand_unnamed (unnamed : values.lookup name = none) (free : '\x7d' ∉ name.toList) :
    expand values (marker name ++ later) =
      '$' :: '\x7b' :: expand values (name.toList ++ '\x7d' :: later) := by
  have none_ : slot? values (name.toList ++ '\x7d' :: later) = none := by
    rw [slot?, closing?_eq_some.2 ⟨rfl, free⟩]
    simp [unnamed]
  rw [marker_append, expand_of_not_slot? none_, expand_cons fun _ dollar => by simp at dollar]

/-- The rest of a placeholder is kept as well, if it hides no other one. -/
theorem expand_before_closing (free : '\x7d' ∉ front)
    (shows : ∀ known, '$' :: '\x7b' :: known.toList <:+ front → values.lookup known = none) :
    expand values (front ++ '\x7d' :: later) = front ++ '\x7d' :: expand values later := by
  induction front with
  | nil => rw [List.nil_append, expand_cons fun _ brace => by simp at brace, List.nil_append]
  | cons c front ih =>
    have goesOn := ih (fun present => free (List.mem_cons_of_mem _ present)) fun known inside =>
      shows known (inside.trans (List.suffix_cons ..))
    rw [List.cons_append, List.cons_append, ← goesOn]
    by_cases opens : c = '$' ∧ ∃ rest, front = '\x7b' :: rest
    · obtain ⟨rfl, rest, rfl⟩ := opens
      rw [List.cons_append, expand_of_not_slot?]
      have alone : '\x7d' ∉ rest := fun present => free (by simp [present])
      rw [slot?, closing?_eq_some.2 ⟨rfl, alone⟩]
      simp [shows (String.ofList rest) (by simp)]
    · refine expand_cons fun rest dollar begins => opens ⟨dollar, ?_⟩
      cases front with
      | nil => simp at begins
      | cons d front => exact ⟨front, by rw [(List.cons.inj begins).1]⟩

theorem looksOpen_append_opening :
    LooksOpen (front ++ '$' :: '\x7b' :: back) ↔ LooksOpen front ∨ '\x7d' ∈ back := by
  constructor
  · rintro ⟨between, left, right, whole⟩
    have cut : (left ++ '$' :: '\x7b' :: between) ++ '\x7d' :: right = front ++ '$' ::
        '\x7b' :: back := by
      simpa using whole
    rcases List.append_eq_append_iff.1 cut with ⟨inner, rfl, rest⟩ | ⟨inner, _, rest⟩
    · cases inner with
      | nil => simp at rest
      | cons c inner =>
        obtain ⟨rfl, _⟩ := List.cons.inj rest
        exact .inl ⟨between, left, inner, by simp⟩
    · have present : '\x7d' ∈ '$' :: '\x7b' :: back := by simp [rest]
      exact .inr (by simpa using present)
  · rintro (⟨between, inside⟩ | closing)
    · exact ⟨between, inside.trans (List.prefix_append ..).isInfix⟩
    · obtain ⟨between, right, rfl⟩ := List.append_of_mem closing
      exact ⟨between, front, right, by simp⟩

/-- What follows the opening of a placeholder without a value is closed, unless the name hides
another placeholder and nothing behind its opening holds a closing brace. -/
theorem closing_mem_expand_iff (plain : AllPlain values)
    (free : '\x7d' ∉ name.toList) :
    '\x7d' ∈ expand values (name.toList ++ '\x7d' :: later) ↔ '\x7d' ∈ expand values later ∨
      ∀ known, (values.lookup known).isSome = true → Hides name known →
        '\x7d' ∈ valueOf values known := by
  by_cases hides : ∃ known, (values.lookup known).isSome = true ∧ Hides name known
  -- the hidden placeholder is filled in, and the brace is gone with it
  · obtain ⟨known, listed, front, whole⟩ := hides
    obtain ⟨value, found⟩ := Option.isSome_iff_exists.1 listed
    have kept : '\x7d' ∉ front := fun present => free (by simp [← whole, present])
    have split : name.toList ++ '\x7d' :: later = front ++ '$' :: '\x7b' ::
        (known.toList ++ '\x7d' :: later) := by
      simp [← whole]
    rw [split, expand_append_dollar plain, expand_of_free kept, ← marker_append,
      expand_marker found (plain known listed).closing]
    have value_ : valueOf values known = value.toList := by rw [valueOf, found]; rfl
    rw [List.mem_append, List.mem_append, or_iff_right kept, or_comm, ← value_]
    refine or_congr_right ⟨fun closes other listed' hides' => ?_, fun all =>
      all known listed ⟨front, whole⟩⟩
    rwa [← Hides.unique ⟨front, whole⟩ hides' (plain known listed) (plain other listed')]
  · have shows : ∀ known, '$' :: '\x7b' :: known.toList <:+ name.toList →
        values.lookup known = none :=
      fun known inside => Option.not_isSome_iff_eq_none.1 fun listed =>
        hides ⟨known, listed, inside⟩
    rw [expand_before_closing free shows]
    simp only [List.mem_append, List.mem_cons, true_or, or_true, true_iff]
    exact .inr fun known listed inside => (hides ⟨known, listed, inside⟩).elim

/-- Where a placeholder of a name without a value stands, something that looks like a placeholder is
left: in what comes before, or because a closing brace follows the opening that is kept. -/
theorem looksOpen_expand_iff (plain : AllPlain values)
    (unnamed : values.lookup name = none) (free : '\x7d' ∉ name.toList)
    (front later : List Char) :
    LooksOpen (expand values (front ++ marker name ++ later)) ↔
      LooksOpen (expand values front) ∨ '\x7d' ∈ expand values later ∨
        ∀ known, (values.lookup known).isSome = true → Hides name known →
          '\x7d' ∈ valueOf values known := by
  have opens : front ++ marker name ++ later = front ++ '$' :: '\x7b' ::
      (name.toList ++ '\x7d' :: later) := by
    rw [List.append_assoc, marker_append]
  rw [opens, expand_append_dollar plain, ← marker_append, expand_unnamed unnamed free,
    looksOpen_append_opening, closing_mem_expand_iff plain free]

/-! ## Solid values -/

/-- A text that leaves no seam: it is not empty, and it holds no character of a placeholder. -/
structure IsSolid (text : List Char) : Prop where
  filled : text ≠ []
  dollar : '$' ∉ text
  opening : '\x7b' ∉ text
  closing : '\x7d' ∉ text

/-- All names that the reader takes for names have solid values. -/
def AllSolid (values : Assignment) (text : List Char) : Prop :=
  ∀ name ∈ namesIn text, ∃ value, values.lookup name = some value ∧ IsSolid value.toList

theorem AllSolid.cons {c : Char} (other : ∀ rest, c = '$' → text ≠ '\x7b' :: rest)
    (solid : AllSolid values (c :: text)) : AllSolid values text := by
  rwa [AllSolid, namesIn_cons other] at solid

theorem AllSolid.marker (free : '\x7d' ∉ name.toList)
    (solid : AllSolid values (marker name ++ text)) :
    (∃ value, values.lookup name = some value ∧ IsSolid value.toList) ∧
    AllSolid values text := by
  rw [AllSolid, namesIn_marker free] at solid
  exact List.forall_mem_cons.1 solid

/-- A brace at the beginning of a result was there before, since no value begins with one. -/
theorem brace_of_expand (solid : AllSolid values text) (h : expand values text = '\x7b' :: after) :
    ∃ rest, text = '\x7b' :: rest := by
  cases reading text with
  | nil => simp [expand] at h
  | placeholder free _ =>
    obtain ⟨⟨value, listed, solid⟩, _⟩ := solid.marker free
    rw [expand_marker listed free] at h
    obtain ⟨c, chars, value_⟩ := List.exists_cons_of_ne_nil solid.filled
    rw [value_, List.cons_append] at h
    obtain ⟨rfl, _⟩ := List.cons.inj h
    exact absurd (by simp [value_]) solid.opening
  | unclosed free =>
    rw [expand_of_free (by simpa using free)] at h
    simp at h
  | char other _ =>
    rw [expand_cons other] at h
    obtain ⟨rfl, _⟩ := List.cons.inj h
    exact ⟨_, rfl⟩

/-- An opening in a result comes from one in the template that nothing closes. -/
theorem opening_of_expand (solid : AllSolid values text)
    (h : expand values text = before ++ '$' :: '\x7b' :: after) :
    '\x7d' ∉ after ∧ ∃ front, text = front ++ '$' :: '\x7b' :: after ∧
    expand values front = before := by
  induction reading text generalizing before with
  | nil => simp [expand] at h
  | placeholder free _ ih =>
    obtain ⟨⟨value, listed, first⟩, rest⟩ := solid.marker free
    rw [expand_marker listed free] at h
    obtain ⟨more, rfl, later⟩ := behind_of_not_mem first.dollar h
    obtain ⟨unclosed, front, rfl, same⟩ := ih rest later
    refine ⟨unclosed, _ ++ front, (List.append_assoc ..).symm, ?_⟩
    rw [expand_marker listed free, same]
  | @unclosed text free =>
    have alone : '\x7d' ∉ '$' :: '\x7b' :: text := by simpa using free
    rw [expand_of_free alone] at h
    rw [h] at alone
    refine ⟨fun present => alone (by simp [present]), before, h,
      expand_of_free fun present => alone ?_⟩
    exact List.mem_append_left _ present
  | char other _ ih =>
    rw [expand_cons other] at h
    cases before with
    -- the opening would have been one of the template, at a place where none is
    | nil =>
      obtain ⟨rfl, opens⟩ := List.cons.inj h
      obtain ⟨rest, brace⟩ := brace_of_expand (solid.cons other) opens
      exact absurd brace (other rest rfl)
    | cons d before =>
      obtain ⟨rfl, later⟩ := List.cons.inj h
      obtain ⟨unclosed, front, rfl, same⟩ := ih (solid.cons other) later
      refine ⟨unclosed, _ :: front, rfl, ?_⟩
      rw [expand_cons, same]
      rintro rest rfl rfl
      exact other _ rfl rfl

end TreeFetch.Template
