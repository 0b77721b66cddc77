import Mathlib
import TreeFetch.Proofs.Regex.GroupNames
import TreeFetch.Proofs.Template
import TreeFetch.Transformer

/-!
# Transforming a path

A transformer has a template that splits in one manner only, at the placeholders of the names that
its pattern captures. A path that the pattern matches becomes the template with all that the groups
took in their places. The text that a group took is never looked at again, even if it looks like a
placeholder itself, and neither a placeholder of an unknown name nor an opening without an end hides
one that comes after it.

Results:
1. `Transformer.of_create_eq_ok`: what is known of a transformer.
2. `Transformer.taken_of_mem`: what a name stands for.
3. `Transformer.transform_filled`: what a path becomes.
-/

namespace TreeFetch.Transformer

open Template (Splits LooksOpen fill marker)

variable {pattern template : String} {t : Transformer} {captures : List Regex.Capture}
    {path : String}

theorem of_create_eq_ok (h : create pattern template = .ok t) :
    Regex.Pattern.compile pattern = .ok t.pattern ∧ t.template = template ∧
      ∃ name ∈ t.groupNames, marker name <:+: template.toList := by
  unfold create at h
  split at h
  · cases h
  · split at h
    · cases h
    · next compiled ready =>
      split at h
      · next uses =>
        obtain rfl := Except.ok.inj h
        obtain ⟨name, known, mentioned⟩ := List.any_eq_true.1 uses
        exact ⟨ready, rfl, name, known, (Template.mentions_iff ..).1 mentioned⟩
      · cases h

/-- The text that the group of a name took. It is empty where the group took no part in the
match. -/
def taken (captures : List Regex.Capture) (name : String) : List Char :=
  ((captures.lookup name).join.getD "").toList

theorem lookup_values (captures : List Regex.Capture) (name : String) :
    (values captures).lookup name = (captures.lookup name).map (·.getD "") := by
  unfold values
  induction captures with
  | nil => rfl
  | cons capture captures ih =>
    obtain ⟨other, text⟩ := capture
    rw [List.map_cons, List.lookup_cons, List.lookup_cons, ih]
    cases name == other <;> rfl

theorem valueOf_values (captures : List Regex.Capture) :
    Template.valueOf (values captures) = taken captures := by
  funext name
  rw [Template.valueOf, taken, lookup_values]
  rcases captures.lookup name with _ | _ | text <;> rfl

/-- What a name stands for is what its group took, since no other group has this name. -/
theorem taken_of_mem (h : create pattern template = .ok t)
    (matched : t.pattern.captures? path = some captures) {name : String} {text : Option String}
    (present : (name, text) ∈ captures) : taken captures name = (text.getD "").toList := by
  obtain ⟨compiled, _⟩ := of_create_eq_ok h
  have once : (captures.map (·.1)).Nodup :=
    Regex.Pattern.map_fst_captures matched ▸ Regex.Pattern.nodup_groupNames compiled
  obtain ⟨before, after, rfl⟩ := List.append_of_mem present
  have found : (before ++ (name, text) :: after).lookup name = some text := by
    refine List.lookup_eq_some_iff.2 ⟨before, after, rfl, fun other earlier => ?_⟩
    rw [List.map_append, List.map_cons, List.nodup_append] at once
    exact bne_iff_ne.2
      (once.2.2 other.1 (List.mem_map_of_mem earlier) name (List.mem_cons_self ..)).symm
  rw [taken, found]
  rfl

/-- A path that the pattern does not match is refused. Any other becomes the template with what the
groups took, unless this looks like a placeholder somewhere. A name stands for what its group
took. -/
theorem transform_filled (created : create pattern template = .ok t) :
    ∃ first rest, Splits t.groupNames template.toList first rest ∧ rest ≠ [] ∧
      (∀ others more, Splits t.groupNames template.toList others more →
        others = first ∧ more = rest) ∧
      ∀ path,
        (t.pattern.captures? path = none → t.transform path = .error (.noMatch pattern path)) ∧
        ∀ captures, t.pattern.captures? path = some captures →
          (∀ name text, (name, text) ∈ captures →
            taken captures name = (text.getD "").toList) ∧
          let result := String.ofList (fill (taken captures) first rest)
          (¬LooksOpen result.toList → t.transform path = .ok result) ∧
          (LooksOpen result.toList →
            t.transform path = .error (.unresolvedPlaceholder result)) := by
  obtain ⟨compiled, rfl, name, known, mentioned⟩ := of_create_eq_ok created
  have plain : ∀ name ∈ t.groupNames, Template.IsPlain name := fun _ =>
    Regex.Pattern.isPlain_groupNames compiled
  obtain ⟨first, rest, splits⟩ := Splits.exists plain t.template.toList
  refine ⟨first, rest, splits, splits.ne_nil_of_mentions known mentioned, fun others more other =>
    other.unique plain splits, fun path => ⟨fun unmatched => ?_, fun captures matched => ?_⟩⟩
  · obtain ⟨source, _⟩ := Regex.Pattern.of_compile_eq_ok compiled
    rw [transform, unmatched, source]
  · refine ⟨fun name text => taken_of_mem created matched, ?_⟩
    intro result
    have listed : ∀ name, name ∈ t.groupNames ↔
        ((values captures).lookup name).isSome = true := by
      intro name
      rw [Template.isSome_lookup_iff,
        groupNames, ← Regex.Pattern.map_fst_captures matched, values,
        List.map_map]
      rfl
    have filled : Template.substitute (values captures) t.template = result := by
      rw [Template.substitute, Template.expand_eq_fill plain listed splits, valueOf_values]
    have open_ := Template.hasPlaceholder_iff result
    rw [transform, matched]
    simp only [filled]
    constructor
    · intro closed
      rw [if_neg (mt open_.1 closed)]
    · intro looksOpen
      rw [if_pos (open_.2 looksOpen)]

/-- A pattern with a group that need not take part, when this group has been opened. -/
def optionalOpened : Regex.Parser where
  reader := ⟨['a', ')', '?'], false⟩
  groups := 1
  names := ["_"]
  stack := [.group [] (.capture 1 (some "_")) false]

def optional : Regex.Pattern where
  source := "(?P<_>a)?"
  named := [(1, "_")]
  groups := 1
  program := ⟨#[.accept, .save 3 0, .char 'a' 1, .save 2 2, .choice [3, 0]], 4⟩

theorem compile_optional : Regex.Pattern.compile "(?P<_>a)?" = .ok optional := by
  have chars : "(?P<_>a)?".toList = ['(', '?', 'P', '<', '_', '>', 'a', ')', '?'] := by decide
  have opens : Regex.Parser.step
      { reader := ⟨['(', '?', 'P', '<', '_', '>', 'a', ')', '?'], false⟩ } '('
      ['?', 'P', '<', '_', '>', 'a', ')', '?'] = .ok optionalOpened := rfl
  have parsed : Regex.parse "(?P<_>a)?" = .ok (.repetition ⟨0, some 1, true⟩
      (.group (.capture 1 (some "_")) (.atom (.literal ⟨'a', false⟩)))) := by
    rw [Regex.parse, chars, Regex.parseFrom]
    simp only [Regex.Reader.skip, Bool.false_eq_true, if_false, opens]
    rw [if_pos (by decide)]
    cbv
  rw [Regex.Pattern.compile, parsed]
  cbv

theorem create_optional (used : Template.mentions template "_" = true) :
    create "(?P<_>a)?" template = .ok ⟨optional, template⟩ := by
  have filled : template ≠ "" := by
    rintro rfl
    revert used
    decide
  have names : optional.groupNames = ["_"] := by decide
  rw [create, if_neg (by simp [filled]), compile_optional]
  simp [names, used]

/-- Its group in a template with an opening that has no end. -/
def afterOpening : Transformer := ⟨optional, "$\x7b$\x7b_\x7d"⟩

theorem create_afterOpening : create "(?P<_>a)?" "$\x7b$\x7b_\x7d" = .ok afterOpening :=
  create_optional (by decide)

theorem splits_afterOpening :
    Splits afterOpening.groupNames "$\x7b$\x7b_\x7d".toList ['$', '\x7b'] [("_", [])] := by
  have apart : ∀ literal ∈ [['$', '\x7b'], []],
      Template.occursIn (marker "_") literal = false := by decide
  refine ⟨by decide, by decide, fun literal present name known occurs => ?_⟩
  obtain rfl : name = "_" := List.mem_singleton.1 known
  cases (apart literal present).symm.trans ((Template.occursIn_iff ..).2 occurs)

/-- The opening is kept, and the group stands for nothing where it took no part. -/
theorem transform_filled_afterOpening :
    create "(?P<_>a)?" "$\x7b$\x7b_\x7d" = .ok afterOpening ∧
      afterOpening.transform "a" = .ok "$\x7ba" ∧ afterOpening.transform "b" = .ok "$\x7b" := by
  obtain ⟨first, rest, _, _, only, applied⟩ := transform_filled create_afterOpening
  obtain ⟨rfl, rfl⟩ := only _ _ splits_afterOpening
  have took : optional.captures? "a" = some [("_", some "a")] := by cbv
  have missed : optional.captures? "b" = some [("_", none)] := by cbv
  refine ⟨create_afterOpening, ((applied "a").2 _ took).2.1 ?_,
    ((applied "b").2 _ missed).2.1 ?_⟩
  · rw [← Template.opened_iff]
    decide
  · rw [← Template.opened_iff]
    decide

end TreeFetch.Transformer
