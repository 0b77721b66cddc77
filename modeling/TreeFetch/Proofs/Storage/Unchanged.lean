import TreeFetch.Proofs.FileSystem.Elsewhere
import TreeFetch.Proofs.Storage.Paths

/-!
# Listings that stay as they are

Where nothing is changed but the entries at some spots, a folder is listed as before but for what
lies at a spot: the same entries, with their times and in their order.

Results:
1. `filter_mergeSort`: leaving out elements before a stable sort or after it.
2. `Local.list_except`: the entries of a listing before and after changes elsewhere.
-/

namespace TreeFetch.Storage

open FileSystem PathText

theorem filter_mergeSort {α : Type} {le : α → α → Bool}
    (trans : ∀ a b c, le a b = true → le b c = true → le a c = true)
    (total : ∀ a b, (le a b || le b a) = true) (p : α → Bool) (l : List α) :
    (l.mergeSort le).filter p = (l.filter p).mergeSort le := by
  induction l with
  | nil => simp
  | cons a l ih =>
    obtain ⟨before, later, whole, rest, newer⟩ := List.mergeSort_cons trans total a l
    rw [whole, List.filter_append, List.filter_cons, List.filter_cons]
    rw [rest, List.filter_append] at ih
    by_cases kept : p a = true
    · obtain ⟨before', later', whole', rest', newer'⟩ :=
        List.mergeSort_cons trans total a (l.filter p)
      rw [if_pos kept, if_pos kept, whole']
      -- in both lists, `a` stands right before the first element that does not have to come earlier
      have older : ∀ b ∈ later, le a b = true := by
        have sorted := List.pairwise_mergeSort trans total (a :: l)
        rw [whole, List.pairwise_append, List.pairwise_cons] at sorted
        exact sorted.2.1.1
      have older' : ∀ b ∈ later', le a b = true := by
        have sorted := List.pairwise_mergeSort trans total (a :: l.filter p)
        rw [whole', List.pairwise_append, List.pairwise_cons] at sorted
        exact sorted.2.1.1
      have same : before.filter p ++ later.filter p = before' ++ later' := ih.trans rest'
      have parted : ∀ x y : List α, (∀ b ∈ x, (!le a b) = true) →
        (∀ b ∈ y, le a b = true) →
          (x ++ y).filter (fun b => !le a b) = x := by
        intro x y left right
        rw [List.filter_append, List.filter_eq_self.2 left, List.filter_eq_nil_iff.2,
          List.append_nil]
        exact fun b present => by simp [right b present]
      have first : before.filter p = before' := by
        rw [← parted _ _ newer' older', ← same, parted]
        · exact fun b present => newer b (List.mem_of_mem_filter present)
        · exact fun b present => older b (List.mem_of_mem_filter present)
      rw [first] at same ⊢
      rw [List.append_cancel_left same]
    · rw [if_neg kept, if_neg kept, ih]

/-- Elements can be left out before or after they are put in the order of their times. -/
theorem filter_mergeSort_newest {α : Type} (time : α → Time) (p : α → Bool) (l : List α) :
    (l.mergeSort fun a b => time b ≤ time a).filter p =
      (l.filter p).mergeSort fun a b => time b ≤ time a := by
  refine filter_mergeSort (fun a b c newer older => ?_) (fun a b => ?_) p l
  · simp only [decide_eq_true_eq] at newer older ⊢
    exact older.trans newer
  · simp only [Bool.or_eq_true, decide_eq_true_eq]
    exact le_total (time b) (time a)

namespace Local

variable {s : Local} {fs after : FileSystem} {spot : Location → Bool} {id : String}
  {segments : List String} {at_ : Location} {entries entries' : List Entry}

theorem filter_newestFirst (p : Entry → Bool) (entries : List Entry) :
    (newestFirst entries).filter p = newestFirst (entries.filter p) :=
  filter_mergeSort_newest Entry.modified p entries

variable (s fs after spot segments at_) in
/-- In the folder with the given segments and location, what leads to a file after a change led
there before, and the file does not lie at a spot. -/
def LeadsAlike : Prop :=
  ∀ name place, IsName name → spot (.text name :: at_) = false →
    after.locate? (pushAll s.root (segments ++ [name])) = some place →
    after.tree.isFolder place = false →
    fs.locate? (pushAll s.root (segments ++ [name])) = some place ∧ spot place = false

/-! ## What a listing makes of one name -/

section

variable {folder name : String} {isLink : Bool} {place : Location} {node : Node} {fault : Fault}

theorem isLink_of_error (found : fs.stat (push folder name) = .error fault)
    (sound : ∀ e, examineText fs segments folder name isLink ≠ .failed e) : isLink = true := by
  cases isLink with
  | true => rfl
  | false => exact absurd (by simp only [examineText, found]; rfl) (sound _)

theorem listed?_of_error (found : fs.stat (push folder name) = .error fault) :
    (examineText fs segments folder name isLink).listed? = none := by
  simp only [examineText, found]
  split <;> rfl

theorem listed?_of_stat (found : fs.stat (push folder name) = .ok (place, node)) :
    (examineText fs segments folder name isLink).listed? =
      if isLink && node.isFolder then none
      else some ⟨childId segments name, name, if node.isFolder then .folder else .file,
        node.time?.getD 0, name.startsWith "."⟩ := by
  simp only [examineText, found]
  split <;> rfl

/-- A link that leads nowhere may lead to a folder later, but then it is not listed. -/
theorem listed?_of_dangling (found : fs.stat (push folder name) = .error fault)
    (alike : ∀ place, after.locate? (push folder name) = some place →
      after.tree.isFolder place = false → fs.locate? (push folder name) = some place) :
    (examineText after segments folder name true).listed? = none := by
  cases later : after.stat (push folder name) with
  | error fault => exact listed?_of_error later
  | ok target =>
    obtain ⟨place, target⟩ := target
    obtain ⟨leads, there⟩ := stat_eq_ok.1 later
    rw [listed?_of_stat later, if_pos]
    rw [Bool.true_and, ← Bool.not_eq_false]
    intro file
    have shut : after.tree.isFolder place = false := by simp [Tree.isFolder, there, file]
    have led := locate?_eq_some.1 (alike place (locate?_eq_some.2 leads) shut)
    obtain ⟨old, here, _⟩ := solid_of_resolve led
    cases found.symm.trans (stat_eq_ok.2 ⟨led, here⟩)

/-- What leads to the same place as before, and not to a spot, is listed as before. -/
theorem listed?_of_kept {other : Node} (same : after.tree.except spot = fs.tree.except spot)
    (found : fs.stat (push folder name) = .ok (place, node))
    (later : after.stat (push folder name) = .ok (place, other))
    (kind : other.isFolder = node.isFolder)
    (elsewhere : (isLink && node.isFolder) = false → spot place = false) :
    (examineText after segments folder name isLink).listed? =
      (examineText fs segments folder name isLink).listed? := by
  rw [listed?_of_stat found, listed?_of_stat later, kind]
  by_cases goes : (isLink && node.isFolder) = true
  · rw [if_pos goes, if_pos goes]
  · have kept := Tree.node?_of_except same (elsewhere (Bool.eq_false_iff.2 goes))
    rw [(stat_eq_ok.1 found).2, (stat_eq_ok.1 later).2] at kept
    rw [Option.some.inj kept]

theorem examineText_except (e : Extends fs after)
    (same : after.tree.except spot = fs.tree.except spot)
    (leads : s.LeadsToFolder fs id segments at_) (alike : s.LeadsAlike fs after spot segments at_)
    (there : fs.tree.node? (.text name :: at_) = some node)
    (links : ∀ text, node = .link text → isLink = true)
    (elsewhere : spot (.text name :: at_) = false)
    (sound : ∀ fault, examineText fs segments (pushAll s.root segments) name isLink ≠
      .failed fault) :
    (examineText after segments (pushAll s.root segments) name isLink).listed? =
      (examineText fs segments (pushAll s.root segments) name isLink).listed? := by
  have named := isName_of_isValid (Tree.isValid_of_node? there)
  have alike := fun place => alike name place named elsewhere
  rw [pushAll_concat] at alike
  cases found : fs.stat (push (pushAll s.root segments) name) with
  | error fault =>
    obtain rfl := isLink_of_error found sound
    rw [listed?_of_error found]
    exact listed?_of_dangling found fun place located shut => (alike place located shut).1
  | ok target =>
    obtain ⟨place, target⟩ := target
    obtain ⟨other, later, shape⟩ := e.stat found
    have kind : other.isFolder = target.isFolder := by
      rw [Bool.eq_iff_iff, ← Node.shape_eq_folder, shape, Node.shape_eq_folder]
    refine listed?_of_kept same found later kind fun goes => ?_
    -- the path leads to a file, or straight down
    cases folder : target.isFolder with
    | false =>
      have shut : after.tree.isFolder place = false := by
        simp [Tree.isFolder, (stat_eq_ok.1 later).2, kind, folder]
      exact (alike place (locate?_eq_some.2 (stat_eq_ok.1 later).1) shut).2
    | true =>
      have noLink : ∀ text, node ≠ .link text := by
        intro text link
        simp [folder, links text link] at goes
      rw [leads.child named there noLink found]
      exact elsewhere

end

/-- The entries of a listing stay as they are, but for those at a spot. -/
theorem list_except (e : Extends fs after) (same : after.tree.except spot = fs.tree.except spot)
    (leads : s.LeadsToFolder fs id segments at_) (alike : s.LeadsAlike fs after spot segments at_)
    (h : (s.list fs id).result = .ok entries) (h' : (s.list after id).result = .ok entries') :
    entries'.filter (fun e => !spot (.text e.name :: at_)) =
      entries.filter fun e => !spot (.text e.name :: at_) := by
  have cut : ∀ (fs : FileSystem), ((fs.tree.children at_).filterMap fun child =>
      (examine fs segments (pushAll s.root segments) child).listed?).filter
        (fun e => !spot (.text e.name :: at_)) =
      ((fs.tree.children at_).filter fun c => !spot (c.1 :: at_)).filterMap fun child =>
        (examine fs segments (pushAll s.root segments) child).listed? := by
    intro fs
    rw [List.filter_filterMap, List.filterMap_filter]
    refine List.filterMap_congr fun child _ => ?_
    cases listed : (examine fs segments (pushAll s.root segments) child).listed? with
    | none => simp
    | some e =>
      rw [name_of_examine listed]
      cases elsewhere : spot (.text e.name :: at_) <;> simp [elsewhere]
  obtain ⟨others, there, leads', rfl, sound⟩ := list_eq_ok h
  obtain ⟨rfl, rfl⟩ := leads.unique leads'
  obtain ⟨others, there, leads', rfl, _⟩ := list_eq_ok h'
  obtain ⟨rfl, rfl⟩ := (leads.extend e).unique leads'
  rw [filter_newestFirst, filter_newestFirst, cut, cut, Tree.children_of_except same]
  refine congrArg newestFirst (List.filterMap_congr fun child present => ?_)
  obtain ⟨present, elsewhere⟩ := List.mem_filter.1 present
  obtain ⟨childName, node⟩ := child
  cases childName with
  | raw bytes => rfl
  | text name =>
    refine examineText_except e same leads alike (Tree.mem_children present) ?_
      (by simpa using elsewhere)
      (sound _ present)
    rintro text rfl
    rfl

end Local

end TreeFetch.Storage
